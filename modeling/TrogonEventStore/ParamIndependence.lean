import TrogonEventStore.SettingsParts
import TrogonEventStore.Library.LastWrites

/-! Parameters of a connection string do not meddle with one another: what becomes of a setting is
up to the last pair of its name. -/

namespace TrogonEventStore

open LastWrites

def paramNames : List String :=
  ["maxdiscoverattempts", "discoveryinterval", "gossiptimeout", "tls", "tlsverifycert",
    "nodepreference", "keepaliveinterval", "keepalivetimeout", "defaultdeadline", "connectionname",
    "usercertfile", "userkeyfile", "tlscafile"]

def named (name : String) (pair : String × String) : Bool := toLowercase pair.1 = name

def everyPair (_ : String × String) : Bool := true

/-- A setting is read from the last pair of a name that counts, or is left as it was. -/
def ParamTaken {Value : Type} (name : String) (counts : String × String → Bool)
    (read : String × String → Option Value) : List (String × String) → Value → Value → Prop :=
  Taken (fun pair => named name pair && counts pair) read

structure ParamsTaken (pairs : List (String × String)) (before after : ClientSettings) : Prop where
  maxDiscoverAttempts : ParamTaken "maxdiscoverattempts" everyPair
    (fun pair => (readU64 pair.2).toOption) pairs
    before.maxDiscoverAttempts after.maxDiscoverAttempts
  discoveryInterval : ParamTaken "discoveryinterval" everyPair
    (fun pair => (readU64 pair.2).toOption.map Duration.fromMillis) pairs
    before.discoveryInterval after.discoveryInterval
  gossipTimeout : ParamTaken "gossiptimeout" everyPair
    (fun pair => (readU64 pair.2).toOption.map Duration.fromMillis) pairs
    before.gossipTimeout after.gossipTimeout
  secure : ParamTaken "tls" everyPair (fun pair => (readBool pair.2).toOption) pairs
    before.secure after.secure
  tlsVerifyCert : ParamTaken "tlsverifycert" everyPair (fun pair => (readBool pair.2).toOption)
    pairs before.tlsVerifyCert after.tlsVerifyCert
  preference : ParamTaken "nodepreference" everyPair
    (fun pair => (parseNodePreference pair.2).toOption) pairs before.preference after.preference
  keepAliveInterval : ParamTaken "keepaliveinterval" (counted keepAliveIntervalInMs) millisOf pairs
    before.keepAliveInterval after.keepAliveInterval
  keepAliveTimeout : ParamTaken "keepalivetimeout" (counted keepAliveTimeoutInMs) millisOf pairs
    before.keepAliveTimeout after.keepAliveTimeout
  defaultDeadline : ParamTaken "defaultdeadline" everyPair (fun pair => (millisOf pair).map some)
    pairs before.defaultDeadline after.defaultDeadline
  connectionName : ParamTaken "connectionname" everyPair (fun pair => some (some pair.2)) pairs
    before.connectionName after.connectionName
  tlsCaFile : ParamTaken "tlscafile" everyPair (fun pair => some (some pair.2)) pairs
    before.tlsCaFile after.tlsCaFile
  userCertFile : ParamTaken "usercertfile" everyPair (fun pair => some (some pair.2)) pairs
    before.userCertFile after.userCertFile
  userKeyFile : ParamTaken "userkeyfile" everyPair (fun pair => some (some pair.2)) pairs
    before.userKeyFile after.userKeyFile

section Reads

variable {name text : String}

theorem parseU64Param_ok {value : Nat} (parsed : parseU64Param name text = .ok value) :
    (readU64 text).toOption = some value := by
  rw [mapError_ok (parseParam_ok parsed)]
  rfl

theorem parseU64Param_millis {value : Nat} (parsed : parseU64Param name text = .ok value) :
    (readU64 text).toOption.map Duration.fromMillis = some (Duration.fromMillis value) := by
  rw [parseU64Param_ok parsed]
  rfl

theorem parseBoolParam_ok {value : Bool} (parsed : parseBoolParam name text = .ok value) :
    (readBool text).toOption = some value := by
  rw [parseParam_ok parsed]
  rfl

theorem preference_ok {value : NodePreference} (parsed : parseNodePreference text = .ok value) :
    (parseNodePreference text).toOption = some value := by
  rw [parsed]
  rfl

end Reads

section Single

variable {Value : Type} {name other : String} {counts : String × String → Bool}
  {read : String × String → Option Value} {pair : String × String} {before after : Value}

theorem ParamTaken.elsewhere (same : toLowercase pair.1 = other) (differs : ¬ other = name) :
    ParamTaken name counts read [pair] before before := by
  apply Taken.skip
  have unnamed : named name pair = false :=
    decide_eq_false fun impossible => differs (same.symm.trans impossible)
  rw [unnamed, Bool.false_and]

theorem ParamTaken.skipped (skips : counts pair = false) :
    ParamTaken name counts read [pair] before before := by
  apply Taken.skip
  rw [skips, Bool.and_false]

theorem ParamTaken.written (same : toLowercase pair.1 = name) (held : counts pair = true)
    (value : read pair = some after) : ParamTaken name counts read [pair] before after := by
  apply Taken.write _ value
  have is : named name pair = true := decide_eq_true same
  rw [is, held, Bool.and_self]

end Single

section Millis

variable {label name given : String} {recommended : Int} {pair : String × String}
  {value : Option Duration}

theorem keepAlive_taken (same : toLowercase pair.1 = name)
    (parsed : parseMillisParam label recommended given pair.2 = .ok value) (before : Duration) :
    ParamTaken name (counted recommended) millisOf [pair] before (value.getD before) := by
  have reads := parseMillisParam_ok parsed
  split at reads
  · next counts =>
      obtain ⟨stands, some⟩ := reads
      obtain ⟨duration, known⟩ := Option.isSome_iff_exists.mp some
      apply ParamTaken.written same counts
      rw [stands, known]
      rfl
  · next skips =>
      rw [reads]
      exact ParamTaken.skipped (Bool.eq_false_iff.mpr skips)

theorem deadline_taken (same : toLowercase pair.1 = name)
    (parsed : parseMillisParam label 0 given pair.2 = .ok value) (before : Option Duration) :
    ParamTaken name everyPair (fun pair => (millisOf pair).map some) [pair] before
      (value.or before) := by
  have reads := parseMillisParam_ok parsed
  rw [if_pos (counted_zero pair)] at reads
  obtain ⟨duration, known⟩ := Option.isSome_iff_exists.mp reads.2
  apply ParamTaken.written same rfl
  rw [reads.1, known]
  rfl

end Millis

theorem paramUpdate_taken {pair : String × String} {update : ClientSettings → ClientSettings}
    (parsed : paramUpdate pair = .ok update) (settings : ClientSettings) :
    ParamsTaken [pair] settings (update settings) := by
  unfold paramUpdate at parsed
  dsimp only at parsed
  split at parsed
  case h_14 =>
    cases parsed
    constructor <;> exact ParamTaken.elsewhere rfl ‹_›
  case h_1 =>
    next same =>
      obtain ⟨value, read, rfl⟩ := map_ok parsed
      constructor
      case maxDiscoverAttempts => exact ParamTaken.written same rfl (parseU64Param_ok read)
      all_goals exact ParamTaken.elsewhere same (by simp)
  case h_2 =>
    next same =>
      obtain ⟨value, read, rfl⟩ := map_ok parsed
      constructor
      case discoveryInterval => exact ParamTaken.written same rfl (parseU64Param_millis read)
      all_goals exact ParamTaken.elsewhere same (by simp)
  case h_3 =>
    next same =>
      obtain ⟨value, read, rfl⟩ := map_ok parsed
      constructor
      case gossipTimeout => exact ParamTaken.written same rfl (parseU64Param_millis read)
      all_goals exact ParamTaken.elsewhere same (by simp)
  case h_4 =>
    next same =>
      obtain ⟨value, read, rfl⟩ := map_ok parsed
      constructor
      case secure => exact ParamTaken.written same rfl (parseBoolParam_ok read)
      all_goals exact ParamTaken.elsewhere same (by simp)
  case h_5 =>
    next same =>
      obtain ⟨value, read, rfl⟩ := map_ok parsed
      constructor
      case tlsVerifyCert => exact ParamTaken.written same rfl (parseBoolParam_ok read)
      all_goals exact ParamTaken.elsewhere same (by simp)
  case h_6 =>
    next same =>
      obtain ⟨value, read, rfl⟩ := map_ok parsed
      constructor
      case preference => exact ParamTaken.written same rfl (preference_ok read)
      all_goals exact ParamTaken.elsewhere same (by simp)
  case h_7 =>
    next same =>
      obtain ⟨value, read, rfl⟩ := map_ok parsed
      constructor
      case keepAliveInterval => exact keepAlive_taken same read _
      all_goals exact ParamTaken.elsewhere same (by simp)
  case h_8 =>
    next same =>
      obtain ⟨value, read, rfl⟩ := map_ok parsed
      constructor
      case keepAliveTimeout => exact keepAlive_taken same read _
      all_goals exact ParamTaken.elsewhere same (by simp)
  case h_9 =>
    next same =>
      obtain ⟨value, read, rfl⟩ := map_ok parsed
      constructor
      case defaultDeadline => exact deadline_taken same read _
      all_goals exact ParamTaken.elsewhere same (by simp)
  case h_10 =>
    next same =>
      cases parsed
      constructor
      case connectionName => exact ParamTaken.written same rfl rfl
      all_goals exact ParamTaken.elsewhere same (by simp)
  case h_11 =>
    next same =>
      cases parsed
      constructor
      case userCertFile => exact ParamTaken.written same rfl rfl
      all_goals exact ParamTaken.elsewhere same (by simp)
  case h_12 =>
    next same =>
      cases parsed
      constructor
      case userKeyFile => exact ParamTaken.written same rfl rfl
      all_goals exact ParamTaken.elsewhere same (by simp)
  case h_13 =>
    next same =>
      cases parsed
      constructor
      case tlsCaFile => exact ParamTaken.written same rfl rfl
      all_goals exact ParamTaken.elsewhere same (by simp)

/-- The same pairs of every known name, in the same order: pairs of different names may change
places, and pairs of unknown names may come or go. -/
def SameParams (pairs others : List (String × String)) : Prop :=
  ∀ name ∈ paramNames, pairs.filter (named name) = others.filter (named name)

theorem sameParams_swap {first second : String × String}
    (differ : toLowercase first.1 ≠ toLowercase second.1) (front back : List (String × String)) :
    SameParams (front ++ first :: second :: back) (front ++ second :: first :: back) := by
  intro name _
  simp only [List.filter_append, List.filter_cons, named, decide_eq_true_eq]
  by_cases one : toLowercase first.1 = name
  · have two : ¬ toLowercase second.1 = name := fun two => differ (one.trans two.symm)
    rw [if_pos one, if_neg two, if_neg two, if_pos one]
  · rw [if_neg one, if_neg one]

theorem sameParams_insert {unknown : String × String}
    (strange : toLowercase unknown.1 ∉ paramNames) (front back : List (String × String)) :
    SameParams (front ++ back) (front ++ unknown :: back) := by
  intro name known
  have unnamed : named name unknown = false :=
    decide_eq_false fun same => strange (same ▸ known)
  rw [List.filter_append, List.filter_append, List.filter_cons_of_neg (by simp [unnamed])]

theorem SameParams.symm {pairs others : List (String × String)} (same : SameParams pairs others) :
    SameParams others pairs :=
  fun name known => (same name known).symm

theorem paramUpdate_strange {pair : String × String} (strange : toLowercase pair.1 ∉ paramNames) :
    paramUpdate pair = .ok id := by
  unfold paramUpdate
  dsimp only
  split
  case h_14 => rfl
  all_goals
    next same =>
      rw [same] at strange
      exact absurd (by simp [paramNames]) strange

theorem SameParams.accepted {pairs others : List (String × String)}
    (same : SameParams pairs others)
    (accepts : ∀ pair ∈ pairs, ∃ update, paramUpdate pair = .ok update) :
    ∀ pair ∈ others, ∃ update, paramUpdate pair = .ok update := by
  intro pair listed
  by_cases known : toLowercase pair.1 ∈ paramNames
  · have occurs : pair ∈ others.filter (named (toLowercase pair.1)) :=
      List.mem_filter.mpr ⟨listed, decide_eq_true rfl⟩
    rw [← same _ known] at occurs
    exact accepts pair (List.mem_filter.mp occurs).1
  · exact ⟨id, paramUpdate_strange known⟩

section Runs

variable {pairs others : List (String × String)} {settings next : ClientSettings}

theorem foldParams_taken (folded : pairs.foldlM readParam settings = .ok next) :
    ParamsTaken pairs settings next where
  maxDiscoverAttempts := taken_fold
    (fun _ _ parsed before => (paramUpdate_taken parsed before).maxDiscoverAttempts) folded
  discoveryInterval := taken_fold
    (fun _ _ parsed before => (paramUpdate_taken parsed before).discoveryInterval) folded
  gossipTimeout := taken_fold
    (fun _ _ parsed before => (paramUpdate_taken parsed before).gossipTimeout) folded
  secure := taken_fold (fun _ _ parsed before => (paramUpdate_taken parsed before).secure) folded
  tlsVerifyCert := taken_fold
    (fun _ _ parsed before => (paramUpdate_taken parsed before).tlsVerifyCert) folded
  preference := taken_fold
    (fun _ _ parsed before => (paramUpdate_taken parsed before).preference) folded
  keepAliveInterval := taken_fold
    (fun _ _ parsed before => (paramUpdate_taken parsed before).keepAliveInterval) folded
  keepAliveTimeout := taken_fold
    (fun _ _ parsed before => (paramUpdate_taken parsed before).keepAliveTimeout) folded
  defaultDeadline := taken_fold
    (fun _ _ parsed before => (paramUpdate_taken parsed before).defaultDeadline) folded
  connectionName := taken_fold
    (fun _ _ parsed before => (paramUpdate_taken parsed before).connectionName) folded
  tlsCaFile := taken_fold
    (fun _ _ parsed before => (paramUpdate_taken parsed before).tlsCaFile) folded
  userCertFile := taken_fold
    (fun _ _ parsed before => (paramUpdate_taken parsed before).userCertFile) folded
  userKeyFile := taken_fold
    (fun _ _ parsed before => (paramUpdate_taken parsed before).userKeyFile) folded

theorem foldParams_keeps (folded : pairs.foldlM readParam settings = .ok next) :
    next = next.addressed settings.dnsDiscover settings.hosts settings.defaultUserName := by
  have own := foldParams_addressed settings.dnsDiscover settings.hosts settings.defaultUserName
    pairs settings
  change pairs.foldlM readParam settings = _ at own
  rw [folded] at own
  exact Except.ok.inj own

theorem SameParams.last {name : String} (same : SameParams pairs others)
    (known : name ∈ paramNames) (counts : String × String → Bool) :
    lastOf (fun pair => named name pair && counts pair) pairs =
      lastOf (fun pair => named name pair && counts pair) others :=
  lastOf_congr (fun _ both => (Bool.and_eq_true_iff.mp both).1) (same name known)

theorem ParamsTaken.unique {other : ClientSettings} (same : SameParams pairs others)
    (first : ParamsTaken pairs settings next) (second : ParamsTaken others settings other)
    (dnsDiscover : Bool) (hosts : List Endpoint) (user : Option Credentials) :
    next.addressed dnsDiscover hosts user = other.addressed dnsDiscover hosts user := by
  have one : ∀ {Value : Type} {name : String} {counts : String × String → Bool}
      {read : String × String → Option Value} {before after final : Value}, name ∈ paramNames →
      ParamTaken name counts read pairs before after →
      ParamTaken name counts read others before final → after = final :=
    fun known first second => Taken.unique (same.last known _) first second
  unfold ClientSettings.addressed
  congr 1
  · exact one (by simp [paramNames]) first.maxDiscoverAttempts second.maxDiscoverAttempts
  · exact one (by simp [paramNames]) first.discoveryInterval second.discoveryInterval
  · exact one (by simp [paramNames]) first.gossipTimeout second.gossipTimeout
  · exact one (by simp [paramNames]) first.preference second.preference
  · exact one (by simp [paramNames]) first.secure second.secure
  · exact one (by simp [paramNames]) first.tlsVerifyCert second.tlsVerifyCert
  · exact one (by simp [paramNames]) first.keepAliveInterval second.keepAliveInterval
  · exact one (by simp [paramNames]) first.keepAliveTimeout second.keepAliveTimeout
  · exact one (by simp [paramNames]) first.defaultDeadline second.defaultDeadline
  · exact one (by simp [paramNames]) first.connectionName second.connectionName
  · exact one (by simp [paramNames]) first.tlsCaFile second.tlsCaFile
  · exact one (by simp [paramNames]) first.userCertFile second.userCertFile
  · exact one (by simp [paramNames]) first.userKeyFile second.userKeyFile

theorem SameParams.fold (same : SameParams pairs others)
    (folded : pairs.foldlM readParam settings = .ok next) :
    others.foldlM readParam settings = .ok next := by
  have accepted := same.accepted (foldParams_parsed folded)
  obtain ⟨other, again⟩ : ∃ other, others.foldlM readParam settings = .ok other :=
    fold_ok_iff.mpr accepted
  have alike := (foldParams_taken folded).unique same (foldParams_taken again)
    settings.dnsDiscover settings.hosts settings.defaultUserName
  have settled : other = next := calc
    other = other.addressed settings.dnsDiscover settings.hosts settings.defaultUserName :=
      foldParams_keeps again
    _ = next.addressed settings.dnsDiscover settings.hosts settings.defaultUserName := alike.symm
    _ = next := (foldParams_keeps folded).symm
  rw [again, settled]

theorem SameParams.readParams (same : SameParams pairs others)
    (done : readParams settings pairs = .ok next) : readParams settings others = .ok next := by
  obtain ⟨folded, whole⟩ := readParams_ok_iff.mp done
  exact readParams_ok_iff.mpr ⟨same.fold folded, whole⟩

end Runs

section Urls

variable {result settings : ClientSettings} {url : Url} {pairs others : List (String × String)}

/-- An accepted URL is one whose addressees are settled and whose parameters are accepted then. -/
theorem parseFromUrl_ok_iff :
    parseFromUrl result { url with queryPairs := pairs } = .ok settings ↔
      ∃ dnsDiscover hosts, dnsOf url.scheme = .ok dnsDiscover ∧
        hostsOf result.hosts url = .ok hosts ∧
        readParams (result.addressed dnsDiscover hosts ((userOf url).or result.defaultUserName))
          pairs = .ok settings := by
  rw [parseFromUrl_parts]
  change ((dnsOf url.scheme).bind fun dnsDiscover => (hostsOf result.hosts url).bind fun hosts =>
    readParams (result.addressed dnsDiscover hosts ((userOf url).or result.defaultUserName))
      pairs) = _ ↔ _
  cases dnsOf url.scheme with
  | error error => simp [Except.bind]
  | ok dnsDiscover =>
      cases hostsOf result.hosts url with
      | error error => simp [Except.bind]
      | ok hosts => simp [Except.bind]

theorem SameParams.parseFromUrl (same : SameParams pairs others)
    (accepted : parseFromUrl result { url with queryPairs := pairs } = .ok settings) :
    parseFromUrl result { url with queryPairs := others } = .ok settings := by
  obtain ⟨dnsDiscover, hosts, scheme, named, done⟩ := parseFromUrl_ok_iff.mp accepted
  exact parseFromUrl_ok_iff.mpr ⟨dnsDiscover, hosts, scheme, named, same.readParams done⟩

theorem parseFromUrl_taken
    (accepted : parseFromUrl result { url with queryPairs := pairs } = .ok settings) :
    ParamsTaken pairs result settings := by
  obtain ⟨dnsDiscover, hosts, _, _, done⟩ := parseFromUrl_ok_iff.mp accepted
  have taken := foldParams_taken (readParams_ok_iff.mp done).1
  exact ⟨taken.1, taken.2, taken.3, taken.4, taken.5, taken.6, taken.7, taken.8, taken.9, taken.10,
    taken.11, taken.12, taken.13⟩

end Urls

/-- Pairs that hold the same parameters fail alike and give the same settings, and every setting is
taken from the last pair of its name. -/
theorem params_independent (result : ClientSettings) (url : Url) (pairs : List (String × String)) :
    (∀ others, SameParams pairs others →
      (parseFromUrl result { url with queryPairs := others }).toOption =
        (parseFromUrl result { url with queryPairs := pairs }).toOption) ∧
    ∀ settings, parseFromUrl result { url with queryPairs := pairs } = .ok settings →
      ParamsTaken pairs result settings := by
  constructor
  · intro others same
    cases first : parseFromUrl result { url with queryPairs := pairs } with
    | ok settings => rw [same.parseFromUrl first]
    | error error =>
        cases second : parseFromUrl result { url with queryPairs := others } with
        | ok settings =>
            rw [same.symm.parseFromUrl second] at first
            cases first
        | error again => rfl
  · intro settings accepted
    exact parseFromUrl_taken accepted

def orderParams : List (String × String) :=
  [("keepAliveInterval", "20000"), ("TLS", "true"), ("throwOnAppendFailure", "true"),
    ("connectionName", "orders"), ("keepAliveInterval", "1"), ("tls", "false")]

def shuffledParams : List (String × String) :=
  [("TLS", "true"), ("tls", "false"), ("connectionName", "orders"), ("keepAliveInterval", "20000"),
    ("keepAliveInterval", "1"), ("colour", "blue")]

def orderSettings : ClientSettings :=
  { ClientSettings.local with
    secure := false
    keepAliveInterval := Duration.fromMillis 20000
    connectionName := some "orders" }

theorem orderParams_shuffled :
    SameParams orderParams shuffledParams ∧
    parseFromUrl .default { Url.local [] with queryPairs := orderParams } = .ok orderSettings ∧
    (parseFromUrl .default { Url.local [] with queryPairs := shuffledParams }).toOption =
      (parseFromUrl .default { Url.local [] with queryPairs := orderParams }).toOption ∧
    ParamsTaken orderParams .default orderSettings := by
  have same : SameParams orderParams shuffledParams := by
    unfold SameParams
    decide
  have parsed : parseFromUrl .default { Url.local [] with queryPairs := orderParams } =
      .ok orderSettings := by rfl
  have independent := params_independent .default (Url.local []) orderParams
  exact ⟨same, parsed, independent.1 shuffledParams same, independent.2 _ parsed⟩

end TrogonEventStore

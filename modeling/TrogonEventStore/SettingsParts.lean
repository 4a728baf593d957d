import TrogonEventStore.ConnectionParams
import TrogonEventStore.Library.LastWrites

/-! The settings of an accepted connection string taken apart: what its parameters come to, and whom
its URL addresses. -/

namespace TrogonEventStore

open LastWrites

/-- The value the last pair of a name carries; names are compared in lower case. -/
def lastParam (name : String) (pairs : List (String × String)) : Option String :=
  ((pairs.filter fun pair => toLowercase pair.1 = name).getLast?).map Prod.snd

/-- A field of the settings that one parameter sets to what its value reads as. -/
def SetBy {Value : Type} (field : ClientSettings → Option Value) (name : String)
    (read : String → Value) : Prop :=
  ∀ pair update, paramUpdate pair = .ok update → ∀ settings,
    field (update settings) =
      if toLowercase pair.1 = name then some (read pair.2) else field settings

section Fields

variable {Value : Type} {field : ClientSettings → Option Value} {name : String}
  {read : String → Value}

theorem SetBy.foldParams (sets : SetBy field name read) {pairs : List (String × String)}
    {settings next : ClientSettings} (folded : pairs.foldlM readParam settings = .ok next) :
    field next = ((lastParam name pairs).map read).or (field settings) := by
  have writes : ∀ pair update, paramUpdate pair = .ok update → ∀ settings,
      Taken (fun pair : String × String => toLowercase pair.1 = name)
        (fun pair => some (some (read pair.2))) [pair] (field settings)
        (field (update settings)) := by
    intro pair update parsed settings
    rw [sets pair update parsed settings]
    split
    · next same => exact Taken.write (decide_eq_true same) rfl
    · next other =>
        apply Taken.skip
        exact decide_eq_false other
  cases final : lastParam name pairs with
  | none =>
      have unwritten := Option.map_eq_none_iff.mp final
      calc
        field next = field settings := (taken_fold writes folded).of_none unwritten
        _ = (Option.map read none).or (field settings) := Option.none_or.symm
  | some text =>
      obtain ⟨pair, last, rfl⟩ := Option.map_eq_some_iff.mp final
      exact (Option.some.inj ((taken_fold writes folded).of_some last)).symm

theorem SetBy.readParams (sets : SetBy field name read) {pairs : List (String × String)}
    {settings next : ClientSettings} (done : readParams settings pairs = .ok next) :
    field next = ((lastParam name pairs).map read).or (field settings) :=
  sets.foldParams (readParams_ok_iff.mp done).1

end Fields

def disabledDeadline : Duration := Duration.fromMillis (u64Bound - 1)

def deadlineOf (text : String) : Duration :=
  match readI64 text with
  | .ok value => if value = -1 then disabledDeadline else Duration.fromMillis value.toNat
  | .error _ => 0

/-- Whether the number of a pair counts: one from zero up to the recommended number is skipped. -/
def counted (recommended : Int) (pair : String × String) : Bool :=
  match readI64 pair.2 with
  | .ok value => value < 0 ∨ recommended ≤ value
  | .error _ => true

/-- The duration a number of milliseconds stands for, where `-1` disables. -/
def millisOf (pair : String × String) : Option Duration :=
  match readI64 pair.2 with
  | .ok value =>
      if value = -1 then some disabledDeadline
      else if value < -1 then none
      else some (Duration.fromMillis value.toNat)
  | .error _ => none

theorem parseMillisParam_ok {label name : String} {recommended : Int} {pair : String × String}
    {value : Option Duration}
    (parsed : parseMillisParam label recommended name pair.2 = .ok value) :
    if counted recommended pair then millisOf pair = value ∧ value.isSome else value = none := by
  obtain ⟨millis, number⟩ := parseMillisParam_read parsed
  have read : parseI64Param name pair.2 = .ok millis := by
    simp only [parseI64Param, parseParam, number, Except.mapError]
  unfold parseMillisParam at parsed
  rw [read] at parsed
  change (if 0 ≤ millis ∧ millis < recommended then _ else _) = _ at parsed
  have counts : counted recommended pair = decide (millis < 0 ∨ recommended ≤ millis) := by
    rw [counted, number]
  have stands : millisOf pair = if millis = -1 then some disabledDeadline
      else if millis < -1 then none else some (Duration.fromMillis millis.toNat) := by
    rw [millisOf, number]
  rw [counts, stands]
  by_cases small : 0 ≤ millis ∧ millis < recommended
  · rw [if_pos small] at parsed
    cases parsed
    rw [if_neg (by simp; omega)]
  · rw [if_neg small] at parsed
    rw [if_pos (by simp; omega)]
    split at parsed
    · next disables =>
        cases parsed
        rw [if_pos disables]
        exact ⟨rfl, rfl⟩
    · next keeps =>
        rw [if_neg keeps]
        split at parsed
        · cases parsed
        · next above =>
            cases parsed
            rw [if_neg above]
            exact ⟨rfl, rfl⟩

theorem counted_zero (pair : String × String) : counted 0 pair = true := by
  unfold counted
  split
  · next value _ =>
      apply decide_eq_true
      omega
  · rfl

theorem deadlineOf_millis {pair : String × String} {duration : Duration}
    (stands : millisOf pair = some duration) : deadlineOf pair.2 = duration := by
  unfold millisOf at stands
  unfold deadlineOf
  split at stands
  · next value number =>
      split at stands
      · next disables => exact (if_pos disables).trans (Option.some.inj stands)
      · next keeps =>
          split at stands
          · cases stands
          · exact (if_neg keeps).trans (Option.some.inj stands)
  · cases stands

theorem parseMillisParam_deadline {name text : String} {value : Option Duration}
    (parsed : parseMillisParam "defaultDeadline" 0 name text = .ok value) :
    value = some (deadlineOf text) := by
  have reads := @parseMillisParam_ok "defaultDeadline" name 0 (name, text) value parsed
  rw [if_pos (counted_zero (name, text))] at reads
  obtain ⟨duration, known⟩ := Option.isSome_iff_exists.mp reads.2
  rw [known, ← deadlineOf_millis (reads.1.trans known)]

theorem foldParams_parsed {pairs : List (String × String)} {settings next : ClientSettings}
    (folded : pairs.foldlM readParam settings = .ok next) :
    ∀ pair ∈ pairs, ∃ update, paramUpdate pair = .ok update := by
  exact fold_ok_iff.mp ⟨next, folded⟩

theorem lastParam_mem {name text : String} {pairs : List (String × String)}
    (last : lastParam name pairs = some text) :
    ∃ pair ∈ pairs, toLowercase pair.1 = name ∧ pair.2 = text := by
  obtain ⟨pair, final, same⟩ := Option.map_eq_some_iff.mp last
  obtain ⟨listed, named⟩ := List.mem_filter.mp (List.mem_of_getLast? final)
  exact ⟨pair, listed, of_decide_eq_true named, same⟩

theorem deadline_read {pairs : List (String × String)} {settings next : ClientSettings}
    (folded : pairs.foldlM readParam settings = .ok next) {text : String}
    (last : lastParam "defaultdeadline" pairs = some text) :
    ∃ number, readI64 text = .ok number := by
  obtain ⟨pair, listed, named, rfl⟩ := lastParam_mem last
  obtain ⟨update, parsed⟩ := foldParams_parsed folded pair listed
  unfold paramUpdate at parsed
  dsimp only at parsed
  rw [named] at parsed
  obtain ⟨value, read, _⟩ := map_ok parsed
  exact parseMillisParam_read read

structure ParamEffect (pair : String × String) (settings next : ClientSettings) : Prop where
  connectionName : next.connectionName =
    if toLowercase pair.1 = "connectionname" then some pair.2 else settings.connectionName
  userCertFile : next.userCertFile =
    if toLowercase pair.1 = "usercertfile" then some pair.2 else settings.userCertFile
  userKeyFile : next.userKeyFile =
    if toLowercase pair.1 = "userkeyfile" then some pair.2 else settings.userKeyFile
  tlsCaFile : next.tlsCaFile =
    if toLowercase pair.1 = "tlscafile" then some pair.2 else settings.tlsCaFile
  defaultDeadline : next.defaultDeadline =
    if toLowercase pair.1 = "defaultdeadline" then some (deadlineOf pair.2)
    else settings.defaultDeadline

theorem paramUpdate_effect {pair : String × String} {update : ClientSettings → ClientSettings}
    (parsed : paramUpdate pair = .ok update) (settings : ClientSettings) :
    ParamEffect pair settings (update settings) := by
  unfold paramUpdate at parsed
  dsimp only at parsed
  split at parsed
  case h_9 =>
    next same =>
      obtain ⟨value, read, rfl⟩ := map_ok parsed
      rw [parseMillisParam_deadline read]
      constructor <;> simp [same]
  case h_10 | h_11 | h_12 | h_13 =>
    next same =>
      cases parsed
      constructor <;> simp [same]
  case h_14 =>
    cases parsed
    exact ⟨(if_neg ‹_›).symm, (if_neg ‹_›).symm, (if_neg ‹_›).symm, (if_neg ‹_›).symm,
      (if_neg ‹_›).symm⟩
  all_goals
    next same =>
      obtain ⟨value, _, rfl⟩ := map_ok parsed
      constructor <;> simp [same]

theorem connectionName_setBy :
    SetBy ClientSettings.connectionName "connectionname" fun text => text :=
  fun _ _ parsed settings => (paramUpdate_effect parsed settings).connectionName

theorem userCertFile_setBy : SetBy ClientSettings.userCertFile "usercertfile" fun text => text :=
  fun _ _ parsed settings => (paramUpdate_effect parsed settings).userCertFile

theorem userKeyFile_setBy : SetBy ClientSettings.userKeyFile "userkeyfile" fun text => text :=
  fun _ _ parsed settings => (paramUpdate_effect parsed settings).userKeyFile

theorem tlsCaFile_setBy : SetBy ClientSettings.tlsCaFile "tlscafile" fun text => text :=
  fun _ _ parsed settings => (paramUpdate_effect parsed settings).tlsCaFile

theorem defaultDeadline_setBy :
    SetBy ClientSettings.defaultDeadline "defaultdeadline" deadlineOf :=
  fun _ _ parsed settings => (paramUpdate_effect parsed settings).defaultDeadline

def ClientSettings.addressed (settings : ClientSettings) (dnsDiscover : Bool)
    (hosts : List Endpoint) (user : Option Credentials) : ClientSettings :=
  { settings with dnsDiscover := dnsDiscover, hosts := hosts, defaultUserName := user }

section Addressed

variable (dnsDiscover : Bool) (hosts : List Endpoint) (user : Option Credentials)

theorem paramUpdate_addressed {pair : String × String} {update : ClientSettings → ClientSettings}
    (parsed : paramUpdate pair = .ok update) (settings : ClientSettings) :
    update (settings.addressed dnsDiscover hosts user) =
      (update settings).addressed dnsDiscover hosts user := by
  unfold paramUpdate at parsed
  dsimp only at parsed
  split at parsed
  case h_10 | h_11 | h_12 | h_13 | h_14 =>
    cases parsed
    rfl
  all_goals
    obtain ⟨value, _, rfl⟩ := map_ok parsed
    rfl

theorem readParam_addressed (settings : ClientSettings) (pair : String × String) :
    readParam (settings.addressed dnsDiscover hosts user) pair =
      (readParam settings pair).map fun next => next.addressed dnsDiscover hosts user := by
  unfold readParam
  cases parsed : paramUpdate pair with
  | error error => rfl
  | ok update => exact congrArg Except.ok (paramUpdate_addressed dnsDiscover hosts user parsed settings)

theorem foldParams_addressed (pairs : List (String × String)) (settings : ClientSettings) :
    pairs.foldlM readParam (settings.addressed dnsDiscover hosts user) =
      (pairs.foldlM readParam settings).map fun next => next.addressed dnsDiscover hosts user := by
  induction pairs generalizing settings with
  | nil => rfl
  | cons pair pairs ih =>
      rw [List.foldlM_cons, List.foldlM_cons, readParam_addressed]
      cases readParam settings pair with
      | error error => rfl
      | ok next => exact ih next

theorem readParams_addressed (settings : ClientSettings) (pairs : List (String × String)) :
    readParams (settings.addressed dnsDiscover hosts user) pairs =
      (readParams settings pairs).map fun next => next.addressed dnsDiscover hosts user := by
  unfold readParams
  rw [foldParams_addressed]
  cases pairs.foldlM readParam settings with
  | error error => rfl
  | ok next =>
      change (if next.userKeyFile.isNone ^^ next.userCertFile.isNone then _ else _) =
        Except.map _ (if next.userKeyFile.isNone ^^ next.userCertFile.isNone then _ else _)
      split
      · rfl
      · rfl

end Addressed

section Hosts

def readSeed (text : String) : Except ClientSettingsParseError Endpoint :=
  match splitAt ':' text with
  | [_] => .ok ⟨text, 2113⟩
  | [host, port] =>
      match parseUnsigned (2 ^ 16) port with
      | some port => .ok ⟨host, port⟩
      | none => .error ⟨"Invalid port number: " ++ port, none⟩
  | _ => .error ⟨"Invalid host part: '" ++ text ++ "'", none⟩

theorem parseGossipSeed_eq (result : ClientSettings) (text : String) :
    parseGossipSeed result text =
      (readSeed text).map fun endpoint => { result with hosts := result.hosts ++ [endpoint] } := by
  unfold parseGossipSeed readSeed
  rcases splitAt ':' text with _ | ⟨host, _ | ⟨port, _ | ⟨other, rest⟩⟩⟩
  · rfl
  · rfl
  · dsimp only
    cases parseUnsigned (2 ^ 16) port with
    | none => rfl
    | some port => rfl
  · rfl

theorem parseGossipSeeds_eq (texts : List String) (result : ClientSettings) :
    texts.foldlM parseGossipSeed result =
      (texts.mapM readSeed).map fun seeds => { result with hosts := result.hosts ++ seeds } := by
  induction texts generalizing result with
  | nil =>
      change Except.ok result = Except.ok { result with hosts := result.hosts ++ [] }
      rw [List.append_nil]
  | cons text texts ih =>
      rw [List.foldlM_cons, List.mapM_cons, parseGossipSeed_eq]
      cases readSeed text with
      | error error => rfl
      | ok endpoint =>
          change texts.foldlM parseGossipSeed { result with hosts := result.hosts ++ [endpoint] } = _
          rw [ih]
          change _ = Except.map _ ((texts.mapM readSeed).bind fun seeds => .ok (endpoint :: seeds))
          cases texts.mapM readSeed with
          | error error => rfl
          | ok seeds =>
              change Except.ok { result with hosts := result.hosts ++ [endpoint] ++ seeds } =
                Except.ok { result with hosts := result.hosts ++ endpoint :: seeds }
              rw [List.append_assoc, List.singleton_append]

def urlHosts (url : Url) : Except ClientSettingsParseError (List Endpoint) :=
  let host := url.hostStr.getD ""
  if ',' ∈ host.toList then (splitAt ',' host).mapM readSeed
  else .ok [⟨host, url.port.getD 2113⟩]

theorem readHosts_eq (result : ClientSettings) (url : Url) :
    readHosts result url =
      (urlHosts url).map fun hosts => { result with hosts := result.hosts ++ hosts } := by
  unfold readHosts urlHosts
  dsimp only
  split
  · exact parseGossipSeeds_eq _ _
  · rfl

def dnsOf (scheme : String) : Except ClientSettingsParseError Bool :=
  match scheme with
  | "esdb" => .ok false
  | "esdb+discover" => .ok true
  | scheme => .error ⟨"Unknown URL scheme: " ++ scheme, none⟩

def userOf (url : Url) : Option Credentials :=
  if url.username ≠ "" then some ⟨utf8 url.username, utf8 (url.password.getD "")⟩ else none

def hostsOf (seeds : List Endpoint) (url : Url) : Except ClientSettingsParseError (List Endpoint) :=
  if seeds = [] ∧ url.path ≠ "" ∧ url.path ≠ "/" then
    .error ⟨"Unsupported URL path: " ++ url.path, none⟩
  else if seeds = [] ∧ url.hostStr = none then
    .error ⟨"Connection string doesn't have an host", none⟩
  else if seeds = [] then urlHosts url
  else .ok seeds

def settingsOf (seeds : List Endpoint) (url : Url) :
    Except ClientSettingsParseError ClientSettings := do
  let dnsDiscover ← dnsOf url.scheme
  let hosts ← hostsOf seeds url
  let params ← readParams .default url.queryPairs
  .ok (params.addressed dnsDiscover hosts (userOf url))

theorem parseFromUrl_known {result : ClientSettings} {url : Url} {dnsDiscover : Bool}
    (scheme : dnsOf url.scheme = .ok dnsDiscover) :
    parseFromUrl result url =
      if result.hosts = [] ∧ url.path ≠ "" ∧ url.path ≠ "/" then
        .error ⟨"Unsupported URL path: " ++ url.path, none⟩
      else if result.hosts = [] ∧ url.hostStr = none then
        .error ⟨"Connection string doesn't have an host", none⟩
      else if result.hosts = [] then
        (readHosts (result.addressed dnsDiscover result.hosts
          ((userOf url).or result.defaultUserName)) url).bind
            fun result => readParams result url.queryPairs
      else readParams (result.addressed dnsDiscover result.hosts
        ((userOf url).or result.defaultUserName)) url.queryPairs := by
  have user : (if url.username ≠ "" then some ⟨utf8 url.username, utf8 (url.password.getD "")⟩
      else result.defaultUserName) = (userOf url).or result.defaultUserName := by
    unfold userOf
    split
    · rfl
    · rfl
  rw [← user]
  unfold dnsOf at scheme
  split at scheme
  · next same =>
      cases scheme
      unfold parseFromUrl
      rw [same]
      rfl
  · next same =>
      cases scheme
      unfold parseFromUrl
      rw [same]
      rfl
  · cases scheme

theorem parseFromUrl_unknown {result : ClientSettings} {url : Url}
    {error : ClientSettingsParseError} (scheme : dnsOf url.scheme = .error error) :
    parseFromUrl result url = .error error := by
  unfold dnsOf at scheme
  split at scheme
  · cases scheme
  · cases scheme
  · next direct discover =>
      cases scheme
      unfold parseFromUrl
      dsimp only
      split
      · next impossible => exact absurd impossible direct
      · next impossible => exact absurd impossible discover
      · rfl

/-- The addressees of a URL are settled before its parameters are read. -/
theorem parseFromUrl_parts (result : ClientSettings) (url : Url) :
    parseFromUrl result url =
      (dnsOf url.scheme).bind fun dnsDiscover => (hostsOf result.hosts url).bind fun hosts =>
        readParams (result.addressed dnsDiscover hosts ((userOf url).or result.defaultUserName))
          url.queryPairs := by
  cases scheme : dnsOf url.scheme with
  | error error => exact parseFromUrl_unknown scheme
  | ok dnsDiscover =>
      rw [parseFromUrl_known scheme]
      change _ = (hostsOf result.hosts url).bind fun hosts => readParams
        (result.addressed dnsDiscover hosts ((userOf url).or result.defaultUserName)) url.queryPairs
      unfold hostsOf
      split
      · rfl
      · split
        · rfl
        · split
          · next fresh =>
              rw [readHosts_eq]
              cases urlHosts url with
              | error error => rfl
              | ok hosts =>
                  change readParams (result.addressed dnsDiscover (result.hosts ++ hosts) _) _ = _
                  rw [fresh]
                  rfl
          · rfl

theorem parseFromUrl_eq (seeds : List Endpoint) (url : Url) :
    parseFromUrl { ClientSettings.default with hosts := seeds } url = settingsOf seeds url := by
  have user : (userOf url).or none = userOf url := Option.or_none
  rw [parseFromUrl_parts]
  unfold settingsOf
  cases dnsOf url.scheme with
  | error error => rfl
  | ok dnsDiscover =>
      change ((hostsOf seeds url).bind fun hosts => readParams
        (ClientSettings.default.addressed dnsDiscover hosts ((userOf url).or none)) url.queryPairs) =
        (hostsOf seeds url).bind fun hosts => (readParams .default url.queryPairs).map
          fun params => params.addressed dnsDiscover hosts (userOf url)
      rw [user]
      cases hostsOf seeds url with
      | error error => rfl
      | ok hosts => exact readParams_addressed dnsDiscover hosts (userOf url) .default url.queryPairs

end Hosts

section Reading

variable {crate : UrlCrate} {s : String}

theorem settingsOf_ok_iff {seeds : List Endpoint} {url : Url} {settings : ClientSettings} :
    settingsOf seeds url = .ok settings ↔
      ∃ dnsDiscover hosts params, dnsOf url.scheme = .ok dnsDiscover ∧
        hostsOf seeds url = .ok hosts ∧ readParams .default url.queryPairs = .ok params ∧
        settings = params.addressed dnsDiscover hosts (userOf url) := by
  unfold settingsOf
  constructor
  · intro read
    cases scheme : dnsOf url.scheme with
    | error error =>
        rw [scheme] at read
        cases read
    | ok dnsDiscover =>
        cases named : hostsOf seeds url with
        | error error =>
            rw [scheme, named] at read
            cases read
        | ok hosts =>
            cases params : readParams .default url.queryPairs with
            | error error =>
                rw [scheme, named, params] at read
                cases read
            | ok values =>
                rw [scheme, named, params] at read
                cases read
                exact ⟨dnsDiscover, hosts, values, rfl, rfl, rfl, rfl⟩
  · intro ⟨dnsDiscover, hosts, params, scheme, named, read, same⟩
    rw [scheme, named, read, same]
    rfl

/-- The URL a connection string is read as, with the seeds known before it: those of a string that
is read again with slashes for its commas. -/
def reading (crate : UrlCrate) (s : String) :
    Except ClientSettingsParseError (List Endpoint × Url) :=
  match crate.parse s with
  | .error e =>
      if e = .invalidPort ∧ ',' ∈ s.toList then
        match crate.parse (commasToSlashes s) with
        | .error _ => .error ⟨s, some e⟩
        | .ok url =>
            match url.hostStr with
            | none => .error ⟨s, some e⟩
            | some host => ((url.pathSegments.getD []).mapM readSeed).map fun seeds =>
                (⟨host, url.port.getD 2113⟩ :: seeds, url)
      else .error ⟨s, some e⟩
  | .ok url => .ok ([], url)

theorem reading_ok_iff {seeds : List Endpoint} {url : Url} :
    reading crate s = .ok (seeds, url) ↔
      (crate.parse s = .ok url ∧ seeds = []) ∨
      (crate.parse s = .error .invalidPort ∧ ',' ∈ s.toList ∧
        crate.parse (commasToSlashes s) = .ok url ∧
        ∃ host others, url.hostStr = some host ∧
          (url.pathSegments.getD []).mapM readSeed = .ok others ∧
          seeds = ⟨host, url.port.getD 2113⟩ :: others) := by
  unfold reading
  constructor
  · intro read
    split at read
    · next e parsed =>
        split at read
        · next again =>
            obtain ⟨rfl, comma⟩ := again
            split at read
            · cases read
            · next slashed reparsed =>
                split at read
                · cases read
                · next host hosted =>
                    obtain ⟨others, known, made⟩ := map_ok read
                    cases made
                    exact Or.inr ⟨parsed, comma, reparsed, host, others, hosted, known, rfl⟩
        · cases read
    · next direct parsed =>
        cases read
        exact Or.inl ⟨parsed, rfl⟩
  · intro either
    rcases either with ⟨parsed, rfl⟩ | ⟨parsed, comma, reparsed, host, others, hosted, known, rfl⟩
    · rw [parsed]
    · rw [parsed]
      dsimp only
      rw [if_pos ⟨rfl, comma⟩, reparsed]
      dsimp only
      rw [hosted]
      dsimp only
      rw [known]
      rfl

theorem fromStr_eq (crate : UrlCrate) (s : String) :
    ClientSettings.fromStr crate s =
      (reading crate s).bind fun read => settingsOf read.1 read.2 := by
  unfold ClientSettings.fromStr reading
  cases crate.parse s with
  | ok url => exact parseFromUrl_eq [] url
  | error e =>
      dsimp only
      split
      · cases crate.parse (commasToSlashes s) with
        | error again => rfl
        | ok url =>
            dsimp only
            cases url.hostStr with
            | none => rfl
            | some host =>
                dsimp only
                rw [parseGossipSeeds_eq]
                cases (url.pathSegments.getD []).mapM readSeed with
                | error error => rfl
                | ok seeds => exact parseFromUrl_eq (⟨host, url.port.getD 2113⟩ :: seeds) url
      · rfl

def pairsOf (crate : UrlCrate) (s : String) : List (String × String) :=
  match reading crate s with
  | .error _ => []
  | .ok (_, url) => url.queryPairs

theorem fromStr_ok_iff {settings : ClientSettings} :
    ClientSettings.fromStr crate s = .ok settings ↔
      ∃ seeds url, reading crate s = .ok (seeds, url) ∧ settingsOf seeds url = .ok settings := by
  rw [fromStr_eq]
  cases reading crate s with
  | error error =>
      constructor
      · intro impossible
        cases impossible
      · intro ⟨seeds, url, impossible, _⟩
        cases impossible
  | ok read =>
      constructor
      · intro accepted
        exact ⟨read.1, read.2, rfl, accepted⟩
      · intro ⟨seeds, url, same, accepted⟩
        cases same
        exact accepted

theorem fromStr_direct {url : Url} (parsed : crate.parse s = .ok url) :
    ClientSettings.fromStr crate s = settingsOf [] url := by
  rw [fromStr_eq, reading_ok_iff.mpr (Or.inl ⟨parsed, rfl⟩)]
  rfl

/-- A string that is accepted although its port does not parse is read with slashes for its
commas. -/
theorem accepted_again (refused : crate.parse s = .error .invalidPort) {settings : ClientSettings}
    (accepted : ClientSettings.fromStr crate s = .ok settings) :
    ∃ url host others, crate.parse (commasToSlashes s) = .ok url ∧ url.hostStr = some host ∧
      (url.pathSegments.getD []).mapM readSeed = .ok others ∧
      settingsOf (⟨host, url.port.getD 2113⟩ :: others) url = .ok settings := by
  obtain ⟨seeds, url, read, made⟩ := fromStr_ok_iff.mp accepted
  rcases reading_ok_iff.mp read with ⟨direct, _⟩ | ⟨_, _, again, host, others, hosted, known, rfl⟩
  · rw [refused] at direct
    cases direct
  · exact ⟨url, host, others, again, hosted, known, made⟩

theorem accepted_parse {settings : ClientSettings}
    (accepted : ClientSettings.fromStr crate s = .ok settings) :
    (∃ url, crate.parse s = .ok url) ∨ crate.parse s = .error .invalidPort := by
  obtain ⟨seeds, url, read, _⟩ := fromStr_ok_iff.mp accepted
  rcases reading_ok_iff.mp read with ⟨direct, _⟩ | ⟨refused, _⟩
  · exact Or.inl ⟨url, direct⟩
  · exact Or.inr refused

theorem SetBy.fromStr {Value : Type} {field : ClientSettings → Option Value} {name : String}
    {read : String → Value} (sets : SetBy field name read)
    (stays : ∀ params dnsDiscover hosts user,
      field (ClientSettings.addressed params dnsDiscover hosts user) = field params)
    {settings : ClientSettings} (accepted : ClientSettings.fromStr crate s = .ok settings) :
    field settings = ((lastParam name (pairsOf crate s)).map read).or (field .default) := by
  obtain ⟨seeds, url, reads, made⟩ := fromStr_ok_iff.mp accepted
  obtain ⟨dnsDiscover, hosts, params, _, _, folded, rfl⟩ := settingsOf_ok_iff.mp made
  have pairs : pairsOf crate s = url.queryPairs := by rw [pairsOf, reads]
  rw [stays, pairs]
  exact sets.readParams folded

end Reading

def UrlCrate.only (text : String) (url : Url) : UrlCrate where
  parse := fun other => if other = text then .ok url else .error .relativeUrlWithoutBase
  queryPairs := fun _ => url.queryPairs

def Url.local (queryPairs : List (String × String)) : Url where
  scheme := "esdb"
  username := ""
  password := none
  hostStr := some "localhost"
  port := some 2113
  path := ""
  pathSegments := none
  queryPairs := queryPairs

def ClientSettings.local : ClientSettings :=
  { ClientSettings.default with hosts := [⟨"localhost", 2113⟩] }

end TrogonEventStore

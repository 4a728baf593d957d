import TrogonEventStore.UsableHosts

namespace TrogonEventStore

open Replacement

section Lockstep

def ClientSettings.untexted (settings : ClientSettings) : ClientSettings :=
  { settings with
    connectionName := none
    tlsCaFile := none
    userCertFile := none
    userKeyFile := none }

/-- Settings that differ at most in their texts, and not in whether they name a certificate and a
key. -/
structure UpToTexts (settings other : ClientSettings) : Prop where
  rest : settings.untexted = other.untexted
  alike : Alike settings other

/-- A pair and what it becomes with slashes for its commas: a name or a value without a comma stays,
any other one has a slash in it. -/
structure Twins (pair other : String × String) : Prop where
  name : other.1 = pair.1 ∨ ',' ∈ pair.1.toList ∧ '/' ∈ other.1.toList
  value : other.2 = pair.2 ∨ '/' ∈ other.2.toList

theorem paramUpdate_untexted {pair : String × String} {update : ClientSettings → ClientSettings}
    (read : paramUpdate pair = .ok update) (settings : ClientSettings) :
    (update settings).untexted = (update settings.untexted).untexted := by
  unfold paramUpdate at read
  dsimp only at read
  split at read
  case h_10 | h_11 | h_12 | h_13 | h_14 =>
    cases read
    rfl
  all_goals
    obtain ⟨value, _, rfl⟩ := map_ok read
    rfl

theorem paramUpdate_upToTexts {pair : String × String} {update : ClientSettings → ClientSettings}
    (read : paramUpdate pair = .ok update) {settings other : ClientSettings}
    (like : UpToTexts settings other) : UpToTexts (update settings) (update other) := by
  refine ⟨?_, (paramUpdate_harmless read).alike settings other like.alike⟩
  rw [paramUpdate_untexted read settings, like.rest, ← paramUpdate_untexted read other]

theorem paramUpdate_twins {pair other : String × String} (twins : Twins pair other)
    {after : ClientSettings → ClientSettings} (read : paramUpdate other = .ok after) :
    ∃ update, paramUpdate pair = .ok update ∧
      ∀ settings second, UpToTexts settings second → UpToTexts (update settings) (after second) := by
  obtain ⟨name, value⟩ := pair
  obtain ⟨otherName, otherValue⟩ := other
  rcases twins.name with same | ⟨comma, slash⟩
  · dsimp only at same
    subst same
    rcases twins.value with same | slash
    · dsimp only at same
      subst same
      exact ⟨after, read, fun settings second like => paramUpdate_upToTexts read like⟩
    · have stray : Stray '/' := Or.inr rfl
      unfold paramUpdate at read ⊢
      dsimp only at read slash ⊢
      split at read
      case h_1 | h_2 | h_3 =>
        obtain ⟨parsed, same, _⟩ := map_ok read
        exact absurd slash (parseU64Param_plain same stray)
      case h_4 | h_5 =>
        obtain ⟨parsed, same, _⟩ := map_ok read
        exact absurd slash (parseBoolParam_plain same stray)
      case h_6 =>
        obtain ⟨parsed, same, _⟩ := map_ok read
        exact absurd slash (parseNodePreference_plain same stray)
      case h_7 | h_8 | h_9 =>
        obtain ⟨parsed, same, _⟩ := map_ok read
        exact absurd slash (parseMillisParam_plain same stray)
      all_goals
        cases read
        refine ⟨_, rfl, fun settings second like => ⟨like.rest, ?_⟩⟩
        exact ⟨by first | rfl | exact like.alike.key, by first | rfl | exact like.alike.cert⟩
  · rw [paramUpdate_unknown (Or.inr rfl) slash] at read
    cases read
    exact ⟨id, paramUpdate_unknown (Or.inl rfl) comma, fun settings second like => like⟩

theorem foldParams_twins {pairs others : List (String × String)}
    (twins : List.Forall₂ Twins pairs others) {settings second after : ClientSettings}
    (like : UpToTexts settings second) (read : others.foldlM readParam second = .ok after) :
    ∃ next, pairs.foldlM readParam settings = .ok next ∧ UpToTexts next after := by
  induction twins generalizing settings second with
  | nil =>
      cases read
      exact ⟨settings, rfl, like⟩
  | @cons pair other pairs others first rest ih =>
      obtain ⟨update, parsed, folded⟩ := foldParams_cons.mp read
      obtain ⟨before, again, keeps⟩ := paramUpdate_twins first parsed
      obtain ⟨next, rest, last⟩ := ih (keeps settings second like) folded
      exact ⟨next, foldParams_cons.mpr ⟨before, again, rest⟩, last⟩

/-- A query that is accepted with slashes for its commas is accepted as it stands, and the settings
differ in their texts at most. -/
theorem readParams_twins {pairs others : List (String × String)}
    (twins : List.Forall₂ Twins pairs others) {after : ClientSettings}
    (read : readParams .default others = .ok after) :
    ∃ next, readParams .default pairs = .ok next ∧ UpToTexts next after := by
  have start : UpToTexts .default .default := ⟨rfl, rfl, rfl⟩
  obtain ⟨folded, whole⟩ := readParams_ok_iff.mp read
  obtain ⟨next, again, like⟩ := foldParams_twins twins start folded
  rw [← like.alike.key, ← like.alike.cert] at whole
  exact ⟨next, readParams_ok_iff.mpr ⟨again, whole⟩, like⟩

theorem upToTexts_eq {settings other : ClientSettings} (like : UpToTexts settings other)
    (connectionName : settings.connectionName = other.connectionName)
    (tlsCaFile : settings.tlsCaFile = other.tlsCaFile)
    (userCertFile : settings.userCertFile = other.userCertFile)
    (userKeyFile : settings.userKeyFile = other.userKeyFile) : settings = other := by
  have restored : ∀ whole : ClientSettings, whole = { whole.untexted with
      connectionName := whole.connectionName
      tlsCaFile := whole.tlsCaFile
      userCertFile := whole.userCertFile
      userKeyFile := whole.userKeyFile } := fun whole => rfl
  rw [restored settings, restored other, like.rest, connectionName, tlsCaFile, userCertFile,
    userKeyFile]

end Lockstep

def userPart : Option String → List Char
  | none => []
  | some user => user.toList ++ ['@']

def seedString (user : Option String) (seeds : List Seed) (query : String) : String :=
  String.ofList (esdbScheme ++ userPart user ++ joined seeds ++ '?' :: query.toList)

def UserInfo (text : List Char) : Prop :=
  ∀ char ∈ text, userInfoChar char ∨ char ∈ [',', ';', '=', ':', '%']

def Url.withInfo (url : Url) (info : String × Option String) : Url :=
  { url with username := info.1, password := info.2 }

/-- What is relied on of the url crate, given what it makes of user info and how it decodes the
names and values of a query: user info is read on its own, and a comma and a slash are decoded to
themselves. -/
structure UrlCrate.ReadsSeeds (crate : UrlCrate) (users : Option String → String × Option String)
    (decode : List Char → String) : Prop where
  parses : ∀ user authority tail, (∀ text, user = some text → UserInfo text.toList) →
    Authority authority → tail.Plain →
    crate.parse (String.ofList (esdbScheme ++ userPart user ++ authority ++ tail.text)) =
      (readAuthority authority).map fun place => (crate.url tail place).withInfo (users user)
  named : ∀ text first rest, text.toList = first :: rest → first ≠ ':' → (users (some text)).1 ≠ ""
  unnamed : ∀ text rest url, UserInfo text →
    crate.parse (String.ofList (esdbScheme ++ text ++ '/' :: rest)) = .ok url →
    url.username = "" ∧ (url.hostStr ≠ none → ∃ first others, text = first :: others ∧ first ≠ ':')
  pairs : ∀ query, crate.queryPairs (some query) =
    (rawPairs query.toList).map fun pair => (decode pair.1, decode pair.2)
  splits : ∀ before after stray, Stray stray →
    (decode (before ++ stray :: after)).toList =
      (decode before).toList ++ stray :: (decode after).toList

def textParams : List String := ["connectionname", "tlscafile", "usercertfile", "userkeyfile"]

def rawParam (decode : List Char → String) (name query : String) : Option (List Char) :=
  (((rawPairs query.toList).filter fun pair => toLowercase (decode pair.1) = name).getLast?).map
    Prod.snd

/-- The texts of the settings are those of the query. -/
structure AsWritten (settings : ClientSettings) (pairs : List (String × String)) : Prop where
  connectionName : settings.connectionName = lastParam "connectionname" pairs
  tlsCaFile : settings.tlsCaFile = lastParam "tlscafile" pairs
  userCertFile : settings.userCertFile = lastParam "usercertfile" pairs
  userKeyFile : settings.userKeyFile = lastParam "userkeyfile" pairs

/-- The settings are those of the first host alone, up to the hosts, and the texts come out as they
are written. -/
def KeepsQuery (crate : UrlCrate) (user : Option String) (first : Seed) (query : String)
    (settings : ClientSettings) : Prop :=
  (∃ single, ClientSettings.fromStr crate (seedString user [first.bare] query) = .ok single ∧
    { single with hosts := settings.hosts } = settings) ∧
  AsWritten settings (crate.queryPairs (some query))

section Decoding

variable {crate : UrlCrate} {users : Option String → String × Option String}
  {decode : List Char → String}

theorem decode_slashed (documented : crate.ReadsSeeds users decode) (chars : List Char) :
    (',' ∉ chars ∧ decode (replaced ',' '/' chars) = decode chars) ∨
      (',' ∈ chars ∧ ',' ∈ (decode chars).toList ∧ '/' ∈ (decode (replaced ',' '/' chars)).toList ∧
        decode (replaced ',' '/' chars) ≠ decode chars) := by
  by_cases comma : ',' ∈ chars
  · obtain ⟨front, back, rfl, plain⟩ := List.eq_append_cons_of_mem comma
    have whole := documented.splits front back ',' (Or.inl rfl)
    have rewritten := documented.splits front (replaced ',' '/' back) '/' (Or.inr rfl)
    rw [← replaced_split plain] at rewritten
    refine Or.inr ⟨comma, ?_, ?_, ?_⟩
    · rw [whole]
      exact List.mem_append_right _ List.mem_cons_self
    · rw [rewritten]
      exact List.mem_append_right _ List.mem_cons_self
    · intro same
      rw [same, whole] at rewritten
      have tails := List.append_cancel_left rewritten
      injection tails with heads
      exact absurd heads (by decide)
  · exact Or.inl ⟨comma, by rw [replaced_self comma]⟩

theorem queryPairs_slashed (documented : crate.ReadsSeeds users decode) (query : String) :
    crate.queryPairs (some (commasToSlashes query)) = (rawPairs query.toList).map fun pair =>
      (decode (replaced ',' '/' pair.1), decode (replaced ',' '/' pair.2)) := by
  calc
    crate.queryPairs (some (commasToSlashes query))
        = (rawPairs (replaced ',' '/' query.toList)).map fun pair =>
          (decode pair.1, decode pair.2) := by
          rw [documented.pairs, commasToSlashes_toList]
    _ = (rawPairs query.toList).map fun pair =>
          (decode (replaced ',' '/' pair.1), decode (replaced ',' '/' pair.2)) := by
          rw [rawPairs_slashed, List.map_map]
          rfl

theorem query_twins (documented : crate.ReadsSeeds users decode) (query : String) :
    List.Forall₂ Twins (crate.queryPairs (some query))
      (crate.queryPairs (some (commasToSlashes query))) := by
  rw [queryPairs_slashed documented, documented.pairs, List.forall₂_map_left_iff,
    List.forall₂_map_right_iff]
  apply List.forall₂_same.mpr
  intro pair _
  constructor
  · rcases decode_slashed documented pair.1 with ⟨_, same⟩ | ⟨_, comma, slash, _⟩
    · exact Or.inl same
    · exact Or.inr ⟨comma, slash⟩
  · rcases decode_slashed documented pair.2 with ⟨_, same⟩ | ⟨_, _, slash, _⟩
    · exact Or.inl same
    · exact Or.inr slash

theorem lastParam_map (decoded : List Char × List Char → String × String)
    (name : String) (pairs : List (List Char × List Char)) :
    lastParam name (pairs.map decoded) =
      ((pairs.filter fun pair => toLowercase (decoded pair).1 = name).getLast?).map fun pair =>
        (decoded pair).2 := by
  unfold lastParam
  rw [List.filter_map, List.getLast?_map, Option.map_map]
  rfl

theorem lastParam_query (documented : crate.ReadsSeeds users decode) (name query : String) :
    lastParam name (crate.queryPairs (some query)) = (rawParam decode name query).map decode := by
  rw [documented.pairs, lastParam_map, rawParam, Option.map_map]
  rfl

theorem lastParam_slashed (documented : crate.ReadsSeeds users decode) {name : String}
    (plain : ∀ stray, Stray stray → stray ∉ name.toList) (query : String) :
    lastParam name (crate.queryPairs (some (commasToSlashes query))) =
      (rawParam decode name query).map fun value => decode (replaced ',' '/' value) := by
  have other : ∀ {stray : Char} {text : String}, Stray stray → stray ∈ text.toList →
      ¬ toLowercase text = name := by
    intro stray text odd present same
    have lowered := toLowercase_stray odd present
    rw [same] at lowered
    exact plain stray odd lowered
  have names : ∀ pair : List Char × List Char,
      toLowercase (decode (replaced ',' '/' pair.1)) = name ↔
        toLowercase (decode pair.1) = name := by
    intro pair
    rcases decode_slashed documented pair.1 with ⟨_, same⟩ | ⟨_, comma, slash, _⟩
    · rw [same]
    · exact iff_of_false (other (Or.inr rfl) slash) (other (Or.inl rfl) comma)
  rw [queryPairs_slashed documented, lastParam_map, rawParam, Option.map_map]
  simp only [names]
  rfl

theorem text_kept_iff (documented : crate.ReadsSeeds users decode) {name : String}
    (known : name ∈ textParams) (query : String) :
    lastParam name (crate.queryPairs (some query)) =
        lastParam name (crate.queryPairs (some (commasToSlashes query))) ↔
      ∀ value, rawParam decode name query = some value → ',' ∉ value := by
  have plain : ∀ stray, Stray stray → stray ∉ name.toList := by
    have all : ∀ name ∈ textParams, ',' ∉ name.toList ∧ '/' ∉ name.toList := by decide
    rintro stray (rfl | rfl)
    · exact (all name known).1
    · exact (all name known).2
  rw [lastParam_query documented, lastParam_slashed documented plain]
  cases rawParam decode name query with
  | none => exact iff_of_true rfl fun value impossible => by cases impossible
  | some value =>
      rw [Option.map_some, Option.map_some, Option.some_inj]
      constructor
      · intro same other given
        cases given
        rcases decode_slashed documented value with ⟨none, _⟩ | ⟨_, _, _, differs⟩
        · exact none
        · exact absurd same.symm differs
      · intro none
        rw [replaced_self (none value rfl)]

end Decoding

section Simple

open SimpleUrl

def simpleUser : Option String → String × Option String
  | none => ("", none)
  | some text => readUser text.toList

theorem userInfo_inside {text : List Char} (info : UserInfo text) :
    ∀ char ∈ text, authorityEnd char = false ∧ char ≠ '@' := by
  intro char present
  rcases info char present with plain | sign
  · have inside := userInfoChar_plain (Or.inl plain)
    exact ⟨inside.1, inside.2.2⟩
  · have all : ∀ char ∈ [',', ';', '=', ':', '%'], authorityEnd char = false ∧ char ≠ '@' :=
      List.all_iff_forall_prop.mp (by decide)
    exact all char sign

theorem splitUser_info {user : Option String}
    (valid : ∀ text, user = some text → UserInfo text.toList) {authority : List Char}
    (bare : '@' ∉ authority) :
    splitUser (userPart user ++ authority) = (user.map String.toList, authority) := by
  cases user with
  | none => exact splitUser_none bare
  | some text =>
      have plain : '@' ∉ text.toList := fun present =>
        (userInfo_inside (valid text rfl) '@' present).2 rfl
      rw [userPart, List.append_assoc]
      exact splitUser_some plain authority

theorem build_url {tail : UrlTail} (plain : tail.Plain) (user : Option String)
    (place : String × Option Nat) :
    build "esdb".toList tail.path (queryText tail.query) (user.map String.toList)
        (some place.1, place.2) =
      (UrlCrate.simple.url tail place).withInfo (simpleUser user) := by
  have scheme : String.ofList ("esdb".toList.map Char.toLower) = "esdb" := by decide
  unfold build
  rw [scheme, readSegments_path plain, readQuery_text]
  cases user with
  | none => rfl
  | some text => rfl

theorem simple_readsSeeds :
    UrlCrate.simple.ReadsSeeds simpleUser String.ofList where
  parses := by
    intro user authority tail valid authorityValid plain
    have text : (String.ofList (esdbScheme ++ userPart user ++ authority ++ tail.text)).toList =
        "esdb".toList ++ (':' :: '/' :: '/' ::
          ((userPart user ++ authority) ++ (tail.path ++ queryText tail.query))) := by
      rw [String.toList_ofList, UrlTail.text]
      simp only [List.append_assoc]
      rfl
    have inside : ∀ char ∈ userPart user ++ authority, authorityEnd char = false := by
      intro char present
      rcases List.mem_append.mp present with named | later
      · cases user with
        | none => cases named
        | some info =>
            rcases List.mem_append.mp named with early | last
            · exact (userInfo_inside (valid info rfl) char early).1
            · rw [List.mem_singleton.mp last]
              rfl
      · exact (authority_inside authorityValid char later).1
    have bare : '@' ∉ authority := fun present =>
      (authority_inside authorityValid '@' present).2 rfl
    rw [simple_parse, text,
      readUrl_parts (by decide) inside (path_isPath plain) (queryText_isTail tail.query),
      splitUser_info valid bare, readPlace_authority authorityValid]
    cases readAuthority authority with
    | error error => rfl
    | ok place => exact congrArg Except.ok (build_url plain user place)
  named := by
    intro text first rest split differs empty
    have goes : decide (first ≠ ':') = true := decide_eq_true differs
    change String.ofList (text.toList.takeWhile fun char => decide (char ≠ ':')) = "" at empty
    rw [split, List.takeWhile_cons, if_pos goes] at empty
    have chars := congrArg String.toList empty
    rw [String.toList_ofList] at chars
    cases chars
  unnamed := by
    intro text rest url info parsed
    obtain ⟨path, tail, split, pathValid, tailValid⟩ := rest_parts (text ++ '/' :: rest)
    have parts := takeWhile_stop (fun char => !authorityEnd char) text ('/' :: rest)
      (fun char present => by rw [(userInfo_inside info char present).1]; rfl)
      (fun first others same => by cases same; rfl)
    rw [parts.1] at split
    have written : (String.ofList (esdbScheme ++ text ++ '/' :: rest)).toList =
        "esdb".toList ++ (':' :: '/' :: '/' :: (text ++ (path ++ tail))) := by
      rw [String.toList_ofList, List.append_assoc, split]
      rfl
    have bare : '@' ∉ text := fun present => (userInfo_inside info '@' present).2 rfl
    have inside : ∀ char ∈ text, authorityEnd char = false := fun char present =>
      (userInfo_inside info char present).1
    rw [simple_parse, written, readUrl_parts (by decide) inside pathValid tailValid,
      splitUser_none bare] at parsed
    obtain ⟨place, read, rfl⟩ := map_ok parsed
    refine ⟨rfl, fun hosted => ?_⟩
    change place.1 ≠ none at hosted
    unfold readPlace at read
    split at read
    · cases read
      exact absurd rfl hosted
    · cases read
    · next empty colon =>
        cases text with
        | nil => exact absurd rfl empty
        | cons first others =>
            refine ⟨first, others, rfl, ?_⟩
            rintro rfl
            exact colon others rfl
  pairs := fun query => rfl
  splits := by
    intro before after stray _
    rw [String.toList_ofList, String.toList_ofList, String.toList_ofList]

end Simple

section Reading

variable {crate : UrlCrate} {users : Option String → String × Option String}
  {decode : List Char → String} {user : Option String} {query : String}
  {settings : ClientSettings}

/-- The host alone is accepted with every query that is read, and its settings are those of the
query. -/
theorem single_accepted_iff (documented : crate.ReadsSeeds users decode)
    (valid : ∀ text, user = some text → UserInfo text.toList) {first : Seed} (plain : first.Plain)
    {single : ClientSettings} :
    ClientSettings.fromStr crate (seedString user [first.bare] query) = .ok single ↔
      ∃ params, readParams .default (crate.queryPairs (some query)) = .ok params ∧
        single = params.addressed false [⟨first.host, 2113⟩]
          (userOf ((crate.url ⟨[], some query⟩ (first.host, none)).withInfo (users user))) := by
  have barePlain : ∀ seed ∈ [first.bare], seed.Plain := by
    intro seed listed
    rw [List.mem_singleton.mp listed]
    exact ⟨plain.named, plain.plain, fun port impossible => by cases impossible⟩
  have text : joined [first.bare] = first.host.toList := by
    rw [joined, List.map_singleton, List.intercalate_singleton]
    exact Seed.text_none rfl
  have authority := joined_authority (List.cons_ne_nil _ _) barePlain
  rw [text] at authority
  have parsed := documented.parses user first.host.toList ⟨[], some query⟩ valid authority
    fun segment impossible => by cases impossible
  rw [readAuthority_host (Seed.host_colon plain), String.ofList_toList] at parsed
  rw [← text] at parsed
  have alone : ',' ∉ first.host.toList := fun present =>
    (nameChar_plain (plain.plain ',' present)).1 rfl
  have hosts : hostsOf [] ((crate.url ⟨[], some query⟩ (first.host, none)).withInfo (users user)) =
      .ok [⟨first.host, 2113⟩] := by
    have path : ((crate.url ⟨[], some query⟩ (first.host, none)).withInfo (users user)).path = "" :=
      rfl
    have host : ((crate.url ⟨[], some query⟩ (first.host, none)).withInfo (users user)).hostStr =
      some first.host := rfl
    unfold hostsOf urlHosts
    rw [path, host]
    dsimp only
    rw [if_neg (fun odd => odd.2.1 rfl), if_neg (fun odd => by cases odd.2), if_pos rfl,
      Option.getD_some, if_neg alone]
    rfl
  have read : ClientSettings.fromStr crate (seedString user [first.bare] query) = _ :=
    fromStr_direct parsed
  rw [read, settingsOf_ok_iff]
  constructor
  · rintro ⟨dnsDiscover, named, params, scheme, listed, folded, same⟩
    cases scheme
    rw [hosts] at listed
    cases listed
    exact ⟨params, folded, same⟩
  · rintro ⟨params, folded, same⟩
    exact ⟨false, _, params, rfl, hosts, folded, same⟩

theorem seedString_slashes {first : Seed} {rest : List Seed}
    (plain : ∀ seed ∈ first :: rest, seed.Plain)
    (bare : ∀ text, user = some text → ',' ∉ text.toList) :
    commasToSlashes (seedString user (first :: rest) query) =
      String.ofList (esdbScheme ++ userPart user ++ first.text ++
        UrlTail.text ⟨rest.map fun seed => String.ofList seed.text,
          some (commasToSlashes query)⟩) := by
  have kept : replaced ',' '/' (esdbScheme ++ userPart user) = esdbScheme ++ userPart user := by
    apply replaced_self
    intro present
    rcases List.mem_append.mp present with scheme | named
    · exact absurd scheme (by decide)
    · cases user with
      | none => cases named
      | some text =>
          rcases List.mem_append.mp named with inside | last
          · exact bare text rfl inside
          · exact absurd last (by decide)
  have queried : replaced ',' '/' ('?' :: query.toList) =
      queryText (some (commasToSlashes query)) := by
    rw [queryText, commasToSlashes_toList]
    rfl
  rw [← String.toList_inj, commasToSlashes_toList, seedString, String.toList_ofList,
    String.toList_ofList, replaced_append, replaced_append, kept, slashes_joined plain, queried,
    UrlTail.text, UrlTail.path]
  simp only [List.append_assoc]

theorem seedString_refused (documented : crate.ReadsSeeds users decode)
    (valid : ∀ text, user = some text → UserInfo text.toList) {first second : Seed}
    {rest : List Seed} (plain : ∀ seed ∈ first :: second :: rest, seed.Plain) {port : Nat}
    (ported : first.port = some port) :
    crate.parse (seedString user (first :: second :: rest) query) = .error .invalidPort := by
  have invalid : readAuthority (joined ([] ++ first :: second :: rest)) = .error .invalidPort :=
    readAuthority_middle plain (List.forall_mem_nil _) ported
  have parsed := documented.parses user (joined (first :: second :: rest)) ⟨[], some query⟩ valid
    (joined_authority (List.cons_ne_nil _ _) plain) fun segment impossible => by cases impossible
  rw [List.nil_append] at invalid
  rw [invalid] at parsed
  exact parsed

theorem seeds_accepted (documented : crate.ReadsSeeds users decode)
    (valid : ∀ text, user = some text → UserInfo text.toList) {first second : Seed}
    {rest : List Seed} (plain : ∀ seed ∈ first :: second :: rest, seed.Plain) {port : Nat}
    (ported : first.port = some port) (bare : ∀ text, user = some text → ',' ∉ text.toList)
    (accepted : ClientSettings.fromStr crate (seedString user (first :: second :: rest) query) =
      .ok settings) :
    ∃ params, readParams .default (crate.queryPairs (some (commasToSlashes query))) = .ok params ∧
      settings = params.addressed false settings.hosts
        (userOf ((crate.url ⟨[], some query⟩ (first.host, none)).withInfo (users user))) := by
  let tail : UrlTail := ⟨(second :: rest).map fun seed => String.ofList seed.text,
    some (commasToSlashes query)⟩
  have firstPlain := plain first List.mem_cons_self
  have again := documented.parses user first.text tail valid (Seed.text_authority firstPlain)
    (segments_plain fun seed listed => plain seed (List.mem_cons_of_mem _ listed))
  rw [← seedString_slashes plain bare, readAuthority_seed firstPlain] at again
  obtain ⟨url, _, _, reread, _, _, made⟩ :=
    accepted_again (seedString_refused documented valid plain ported) accepted
  rw [again] at reread
  cases reread
  obtain ⟨dnsDiscover, hosts, params, scheme, _, folded, rfl⟩ := settingsOf_ok_iff.mp made
  cases scheme
  exact ⟨params, folded, rfl⟩

theorem seeds_userless (documented : crate.ReadsSeeds users decode)
    (valid : ∀ text, user = some text → UserInfo text.toList) {first second : Seed}
    {rest : List Seed} (plain : ∀ seed ∈ first :: second :: rest, seed.Plain) {port : Nat}
    (ported : first.port = some port) {text : String} (given : user = some text)
    (comma : ',' ∈ text.toList)
    (accepted : ClientSettings.fromStr crate (seedString user (first :: second :: rest) query) =
      .ok settings) :
    settings.defaultUserName = none ∧ (users user).1 ≠ "" := by
  subst given
  obtain ⟨front, back, split, bare⟩ := List.eq_append_cons_of_mem comma
  have info : UserInfo front := by
    intro char present
    apply valid text rfl
    rw [split]
    exact List.mem_append_left _ present
  have starts : ∃ others, commasToSlashes (seedString (some text) (first :: second :: rest) query) =
      String.ofList (esdbScheme ++ front ++ '/' :: others) := by
    have plainFront : ',' ∉ esdbScheme ++ front := by
      intro present
      rcases List.mem_append.mp present with scheme | inside
      · exact absurd scheme (by decide)
      · exact bare inside
    refine ⟨replaced ',' '/' (back ++
      ('@' :: (joined (first :: second :: rest) ++ '?' :: query.toList))), ?_⟩
    rw [← replaced_split plainFront, ← String.toList_inj, commasToSlashes_toList, seedString,
      String.toList_ofList, String.toList_ofList, userPart, split]
    simp only [List.append_assoc, List.cons_append, List.nil_append]
  obtain ⟨others, again⟩ := starts
  obtain ⟨url, host, _, reread, hosted, _, made⟩ :=
    accepted_again (seedString_refused documented valid plain ported) accepted
  rw [again] at reread
  obtain ⟨unnamed, starts⟩ := documented.unnamed front others url info reread
  have present : url.hostStr ≠ none := by
    rw [hosted]
    exact Option.some_ne_none host
  obtain ⟨char, chars, begins, differs⟩ := starts present
  constructor
  · obtain ⟨_, _, _, _, _, _, rfl⟩ := settingsOf_ok_iff.mp made
    have none : userOf url = none := if_neg fun named => named unnamed
    exact none
  · apply documented.named text char (chars ++ ',' :: back) _ differs
    rw [split, begins, List.cons_append]

theorem params_asWritten {pairs : List (String × String)} {params : ClientSettings}
    (read : readParams .default pairs = .ok params) : AsWritten params pairs where
  connectionName := by simpa [ClientSettings.default] using connectionName_setBy.readParams read
  tlsCaFile := by simpa [ClientSettings.default] using tlsCaFile_setBy.readParams read
  userCertFile := by simpa [ClientSettings.default] using userCertFile_setBy.readParams read
  userKeyFile := by simpa [ClientSettings.default] using userKeyFile_setBy.readParams read

theorem asWritten_iff {pairs others : List (String × String)}
    (written : AsWritten settings others) :
    AsWritten settings pairs ↔
      ∀ name ∈ textParams, lastParam name pairs = lastParam name others := by
  constructor
  · intro same name known
    simp only [textParams, List.mem_cons, List.not_mem_nil, or_false] at known
    rcases known with rfl | rfl | rfl | rfl
    · exact same.connectionName.symm.trans written.connectionName
    · exact same.tlsCaFile.symm.trans written.tlsCaFile
    · exact same.userCertFile.symm.trans written.userCertFile
    · exact same.userKeyFile.symm.trans written.userKeyFile
  · intro same
    exact {
      connectionName := written.connectionName.trans (same "connectionname" (by decide)).symm
      tlsCaFile := written.tlsCaFile.trans (same "tlscafile" (by decide)).symm
      userCertFile := written.userCertFile.trans (same "usercertfile" (by decide)).symm
      userKeyFile := written.userKeyFile.trans (same "userkeyfile" (by decide)).symm }

theorem upToTexts_asWritten {other : ClientSettings} (like : UpToTexts settings other)
    {pairs : List (String × String)} (first : AsWritten settings pairs)
    (second : AsWritten other pairs) : settings = other :=
  upToTexts_eq like (first.connectionName.trans second.connectionName.symm)
    (first.tlsCaFile.trans second.tlsCaFile.symm)
    (first.userCertFile.trans second.userCertFile.symm)
    (first.userKeyFile.trans second.userKeyFile.symm)

/-- The query of seeds with ports comes out as it is written exactly when neither the user info nor
a text that counts has a comma. -/
theorem seed_query_kept_iff (documented : crate.ReadsSeeds users decode)
    (valid : ∀ text, user = some text → UserInfo text.toList) {first second : Seed}
    {rest : List Seed} (plain : ∀ seed ∈ first :: second :: rest, seed.Plain)
    (ported : ∀ seed ∈ first :: second :: rest, seed.port ≠ none)
    (accepted : ClientSettings.fromStr crate (seedString user (first :: second :: rest) query) =
      .ok settings) :
    KeepsQuery crate user first query settings ↔
      (∀ text, user = some text → ',' ∉ text.toList) ∧
      ∀ name ∈ textParams, ∀ value, rawParam decode name query = some value → ',' ∉ value := by
  have firstPlain := plain first List.mem_cons_self
  obtain ⟨port, firstPort⟩ := Option.ne_none_iff_exists'.mp (ported first List.mem_cons_self)
  by_cases bare : ∀ text, user = some text → ',' ∉ text.toList
  · obtain ⟨after, read, made⟩ := seeds_accepted documented valid plain firstPort bare accepted
    obtain ⟨params, again, like⟩ := readParams_twins (query_twins documented query) read
    have written := params_asWritten read
    have rewritten : AsWritten settings (crate.queryPairs (some (commasToSlashes query))) := by
      rw [made]
      exact ⟨written.connectionName, written.tlsCaFile, written.userCertFile, written.userKeyFile⟩
    have kept : AsWritten settings (crate.queryPairs (some query)) ↔ ∀ name ∈ textParams, ∀ value,
        rawParam decode name query = some value → ',' ∉ value := by
      rw [asWritten_iff rewritten]
      exact forall₂_congr fun name known => text_kept_iff documented known query
    constructor
    · intro keeps
      exact ⟨bare, kept.mp keeps.2⟩
    · intro ⟨_, texts⟩
      have asIs := kept.mpr texts
      have same : params = after := by
        apply upToTexts_asWritten like (params_asWritten again)
        apply (asWritten_iff written).mpr
        exact (asWritten_iff rewritten).mp asIs
      refine ⟨⟨_, (single_accepted_iff documented valid firstPlain).mpr ⟨params, again, rfl⟩, ?_⟩,
        asIs⟩
      rw [same]
      exact made.symm
  · refine iff_of_false ?_ fun both => bare both.1
    intro ⟨⟨single, alone, same⟩, _⟩
    have some : ∃ text, user = some text ∧ ',' ∈ text.toList := by
      by_contra none
      apply bare
      intro text given comma
      exact none ⟨text, given, comma⟩
    obtain ⟨text, given, comma⟩ := some
    obtain ⟨userless, named⟩ :=
      seeds_userless documented valid plain firstPort given comma accepted
    obtain ⟨params, _, made⟩ := (single_accepted_iff documented valid firstPlain).mp alone
    have credentials : single.defaultUserName ≠ none := by
      have user' : single.defaultUserName = some ⟨utf8 (users user).1,
          utf8 ((users user).2.getD "")⟩ := by
        rw [made]
        exact if_pos named
      rw [user']
      exact Option.some_ne_none _
    apply credentials
    rw [← userless, ← same]

def firstNode : Seed := ⟨"node1", some 1111⟩

def secondNode : Seed := ⟨"node2", some 2222⟩

theorem nodes_plain : ∀ seed ∈ firstNode :: [secondNode], seed.Plain := by
  intro seed listed
  rcases List.mem_cons.mp listed with rfl | last
  · exact ⟨by decide, List.all_eq_true.mp (by decide), fun port same => by cases same; decide⟩
  · rw [List.mem_singleton.mp last]
    exact ⟨by decide, List.all_eq_true.mp (by decide), fun port same => by cases same; decide⟩

def namedNodes (connectionName : String) : ClientSettings :=
  { portedSeeds with connectionName := some connectionName }

theorem seed_query_of_two_nodes :
    KeepsQuery UrlCrate.simple none firstNode "connectionName=orders" (namedNodes "orders") ↔
      (∀ text, (none : Option String) = some text → ',' ∉ text.toList) ∧
      ∀ name ∈ textParams, ∀ value,
        rawParam String.ofList name "connectionName=orders" = some value → ',' ∉ value :=
  seed_query_kept_iff simple_readsSeeds (fun text impossible => by cases impossible) nodes_plain
    (by decide) (by rfl)

/-- A comma in the name of the connection comes out as a slash. -/
theorem connection_name_comma_lost :
    seedString none [firstNode, secondNode] "connectionName=orders,eu" =
        "esdb://node1:1111,node2:2222?connectionName=orders,eu" ∧
      ClientSettings.fromStr UrlCrate.simple
        "esdb://node1:1111,node2:2222?connectionName=orders,eu" = .ok (namedNodes "orders/eu") ∧
      ClientSettings.fromStr UrlCrate.simple "esdb://node1?connectionName=orders,eu" =
        .ok { namedNodes "orders,eu" with hosts := [⟨"node1", 2113⟩] } ∧
      ¬ KeepsQuery UrlCrate.simple none firstNode "connectionName=orders,eu"
        (namedNodes "orders/eu") := by
  refine ⟨by decide, by rfl, by rfl, ?_⟩
  intro keeps
  have pairs : lastParam "connectionname"
      (UrlCrate.simple.queryPairs (some "connectionName=orders,eu")) = some "orders,eu" := by
    rfl
  have name := keeps.2.connectionName
  rw [pairs] at name
  exact absurd (Option.some.inj name) (by decide)

end Reading

end TrogonEventStore

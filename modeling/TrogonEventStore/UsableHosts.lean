import TrogonEventStore.NodeConnection
import TrogonEventStore.UserInfo

namespace TrogonEventStore

open Replacement

def uriText (secure : Bool) (endpoint : Endpoint) : String :=
  (if secure then "https" else "http") ++ "://" ++ endpoint.host ++ ":" ++ toString endpoint.port

/-- The text `to_uri` parses; a failure to parse is a panic, as it is for `to_hyper_uri`. -/
def ClientSettings.toUri (settings : ClientSettings) (endpoint : Endpoint) : String :=
  uriText settings.secure endpoint

/-- The http crate: the texts it parses, and the hosts it takes in them. -/
structure UriCrate where
  parses : String → Bool
  host : String → Bool

def uriLimit : Nat := 65534

/-- What is relied on of the http crate: the host of a text of this form decides, up to a limit. -/
def UriCrate.Documented (uri : UriCrate) : Prop :=
  ∀ secure endpoint, endpoint.port < 2 ^ 16 →
    uri.parses (uriText secure endpoint) =
      (uri.host endpoint.host && decide ((uriText secure endpoint).utf8ByteSize ≤ uriLimit))

def urlText (scheme authority path tail : String) : String :=
  scheme ++ "://" ++ authority ++ path ++ tail

def PlainText (text : String) : Prop := ∀ char ∈ text.toList, 32 < char.toNat ∧ char ≠ '\\'

structure UrlParts (scheme authority tail : String) : Prop where
  esdb : EsdbScheme scheme
  inside : ∀ char ∈ authority.toList, authorityEnd char = false
  plain : PlainText authority
  tail : IsTail tail.toList

/-- What is relied on of the url crate about paths: a slash behind the authority is a path of one
empty segment, a path that ends in a slash ends in an empty segment, and the authority alone
decides on an invalid port. -/
structure UrlCrate.ReadsPaths (crate : UrlCrate) : Prop where
  ports : ∀ text url port, crate.parse text = .ok url → url.port = some port → port < 2 ^ 16
  bare : ∀ scheme authority tail url, UrlParts scheme authority tail →
    crate.parse (urlText scheme authority "" tail) = .ok url → url.path = ""
  slashed : ∀ scheme authority tail, UrlParts scheme authority tail →
    crate.parse (urlText scheme authority "/" tail) =
      (crate.parse (urlText scheme authority "" tail)).map fun url =>
        { url with path := "/", pathSegments := some [""] }
  closed : ∀ scheme authority path tail url, UrlParts scheme authority tail →
    IsPath path.toList → PlainText path →
    crate.parse (urlText scheme authority (path ++ "/") tail) = .ok url →
    ∃ segments, url.pathSegments = some (segments ++ [""])
  invalidPort : ∀ scheme authority path tail other, UrlParts scheme authority tail →
    UrlParts scheme authority other → IsPath path.toList →
    crate.parse (urlText scheme authority path tail) = .error .invalidPort →
    crate.parse (urlText scheme authority path other) = .error .invalidPort

def placeOf (text : String) : Endpoint :=
  match splitAt ':' text with
  | host :: port :: _ => ⟨host, (parseUnsigned (2 ^ 16) port).getD 2113⟩
  | _ => ⟨text, 2113⟩

/-- The hosts and ports in the text of a connection string: those of its URL, or else, with slashes
for the commas, the host and the path segments. -/
def placesOf (crate : UrlCrate) (s : String) : List Endpoint :=
  match crate.parse s with
  | .ok url =>
      let host := url.hostStr.getD ""
      if ',' ∈ host.toList then (splitAt ',' host).map placeOf
      else [⟨host, url.port.getD 2113⟩]
  | .error _ =>
      match crate.parse (commasToSlashes s) with
      | .error _ => []
      | .ok url =>
          ⟨url.hostStr.getD "", url.port.getD 2113⟩ :: (url.pathSegments.getD []).map placeOf

def tlsOf (pairs : List (String × String)) : Bool :=
  ((lastParam "tls" pairs).map fun text => decide (text = "true")).getD
    ClientSettings.default.secure

section Places

variable {crate : UrlCrate} {s : String} {settings : ClientSettings}

theorem readSeed_place {text : String} {endpoint : Endpoint}
    (read : readSeed text = .ok endpoint) : endpoint = placeOf text := by
  unfold readSeed at read
  unfold placeOf
  split at read
  · next single =>
      cases read
      rw [single]
  · next host port split =>
      rw [split]
      dsimp only
      split at read
      · next number parsed =>
          cases read
          rw [parsed, Option.getD_some]
      · cases read
  · cases read

theorem readSeeds_places {texts : List String} {endpoints : List Endpoint}
    (read : texts.mapM readSeed = .ok endpoints) : endpoints = texts.map placeOf := by
  induction texts generalizing endpoints with
  | nil =>
      cases read
      rfl
  | cons text texts ih =>
      rw [List.mapM_cons] at read
      cases first : readSeed text with
      | error error =>
          rw [first] at read
          cases read
      | ok endpoint =>
          cases rest : texts.mapM readSeed with
          | error error =>
              rw [first, rest] at read
              cases read
          | ok others =>
              rw [first, rest] at read
              cases read
              rw [List.map_cons, ← ih rest, ← readSeed_place first]

theorem urlHosts_places {url : Url} {hosts : List Endpoint} (read : urlHosts url = .ok hosts) :
    hosts = if ',' ∈ (url.hostStr.getD "").toList then
      (splitAt ',' (url.hostStr.getD "")).map placeOf
    else [⟨url.hostStr.getD "", url.port.getD 2113⟩] := by
  unfold urlHosts at read
  dsimp only at read
  split at read
  · next several =>
      rw [if_pos several]
      exact readSeeds_places read
  · next single =>
      rw [if_neg single]
      cases read
      rfl

theorem accepted_places (accepted : ClientSettings.fromStr crate s = .ok settings) :
    settings.hosts = placesOf crate s := by
  obtain ⟨seeds, url, read, made⟩ := fromStr_ok_iff.mp accepted
  obtain ⟨_, hosts, _, _, named, _, rfl⟩ := settingsOf_ok_iff.mp made
  change hosts = _
  unfold placesOf
  rcases reading_ok_iff.mp read with ⟨parsed, rfl⟩ | ⟨parsed, _, again, host, others, hosted, known,
    rfl⟩
  · rw [parsed]
    unfold hostsOf at named
    split at named
    · cases named
    · split at named
      · cases named
      · exact urlHosts_places named
  · rw [parsed, again]
    dsimp only
    rw [hosted, ← readSeeds_places known]
    have seeded : hostsOf (⟨host, url.port.getD 2113⟩ :: others) url =
        .ok (⟨host, url.port.getD 2113⟩ :: others) := by
      unfold hostsOf
      rw [if_neg (fun none => List.cons_ne_nil _ _ none.1),
        if_neg (fun none => List.cons_ne_nil _ _ none.1), if_neg (List.cons_ne_nil _ _)]
    rw [seeded] at named
    cases named
    rfl

theorem splitAt_ne_nil (separator : Char) (text : String) : splitAt separator text ≠ [] := by
  unfold splitAt
  rw [ne_eq, List.map_eq_nil_iff]
  exact List.splitOn_ne_nil separator text.toList

theorem accepted_hosts (accepted : ClientSettings.fromStr crate s = .ok settings) :
    settings.hosts ≠ [] := by
  rw [accepted_places accepted]
  obtain ⟨seeds, url, read, _⟩ := fromStr_ok_iff.mp accepted
  unfold placesOf
  rcases reading_ok_iff.mp read with ⟨parsed, _⟩ | ⟨parsed, _, again, _⟩
  · rw [parsed]
    dsimp only
    split
    · rw [ne_eq, List.map_eq_nil_iff]
      exact splitAt_ne_nil ',' _
    · exact List.cons_ne_nil _ _
  · rw [parsed, again]
    exact List.cons_ne_nil _ _

theorem nodeConnection_new (hosted : settings.hosts ≠ []) : NodeConnection.new settings ≠ none := by
  unfold NodeConnection.new
  split
  · split
    · split
      · next empty => exact absurd empty hosted
      · exact Option.some_ne_none _
    · exact Option.some_ne_none _
  · exact Option.some_ne_none _

theorem placeOf_port (text : String) : (placeOf text).port < 2 ^ 16 := by
  unfold placeOf
  split
  · next port _ _ =>
      cases parsed : parseUnsigned (2 ^ 16) port with
      | none => exact (by decide : 2113 < 2 ^ 16)
      | some number => exact parseUnsigned_lt (by decide) parsed
  · exact (by decide : 2113 < 2 ^ 16)

theorem placesOf_ports (documented : crate.ReadsPaths) :
    ∀ place ∈ placesOf crate s, place.port < 2 ^ 16 := by
  have fallback : ∀ text url, crate.parse text = .ok url → url.port.getD 2113 < 2 ^ 16 := by
    intro text url parsed
    cases ported : url.port with
    | none => exact (by decide : 2113 < 2 ^ 16)
    | some port => exact documented.ports text url port parsed ported
  have texts : ∀ texts : List String, ∀ place ∈ texts.map placeOf, place.port < 2 ^ 16 := by
    intro texts place listed
    obtain ⟨text, _, rfl⟩ := List.mem_map.mp listed
    exact placeOf_port text
  intro place listed
  unfold placesOf at listed
  split at listed
  · next url parsed =>
      dsimp only at listed
      split at listed
      · exact texts _ place listed
      · rw [List.mem_singleton.mp listed]
        exact fallback s url parsed
  · split at listed
    · cases listed
    · next url parsed =>
        rcases List.mem_cons.mp listed with rfl | later
        · exact fallback _ url parsed
        · exact texts _ place later

theorem parseBoolParam_true {name text : String} {value : Bool}
    (parsed : parseBoolParam name text = .ok value) : value = decide (text = "true") := by
  have read := parseParam_ok parsed
  unfold readBool at read
  split at read
  · next same =>
      cases read
      exact (decide_eq_true same).symm
  · next other =>
      split at read
      · cases read
        exact (decide_eq_false other).symm
      · cases read

theorem secure_setBy :
    SetBy (fun settings => some settings.secure) "tls" fun text => decide (text = "true") := by
  intro pair update parsed settings
  unfold paramUpdate at parsed
  dsimp only at parsed
  split at parsed
  case h_4 =>
    next same =>
      obtain ⟨secure, read, rfl⟩ := map_ok parsed
      rw [if_pos same, parseBoolParam_true read]
  case h_10 | h_11 | h_12 | h_13 =>
    next same =>
      cases parsed
      rw [same, if_neg (by decide)]
  case h_14 =>
    cases parsed
    exact (if_neg ‹_›).symm
  all_goals
    next same =>
      obtain ⟨value, _, rfl⟩ := map_ok parsed
      rw [same, if_neg (by decide)]

theorem accepted_secure (accepted : ClientSettings.fromStr crate s = .ok settings) :
    settings.secure = tlsOf (pairsOf crate s) := by
  have last := secure_setBy.fromStr (fun _ _ _ _ => rfl) accepted
  unfold tlsOf
  cases given : lastParam "tls" (pairsOf crate s) with
  | none =>
      rw [given] at last
      exact Option.some.inj last
  | some text =>
      rw [given] at last
      exact Option.some.inj last

end Places

section Slashes

variable {crate : UrlCrate} {scheme authority tail : String}

theorem isTail_slashes (valid : IsTail tail.toList) : IsTail (commasToSlashes tail).toList := by
  rw [commasToSlashes_toList]
  rcases valid with empty | ⟨rest, query | fragment⟩
  · rw [empty]
    exact Or.inl rfl
  · rw [query]
    exact Or.inr ⟨_, Or.inl rfl⟩
  · rw [fragment]
    exact Or.inr ⟨_, Or.inr rfl⟩

theorem urlText_slashes (esdb : EsdbScheme scheme) (authority path tail : String) :
    commasToSlashes (urlText scheme authority path tail) =
      urlText scheme (commasToSlashes authority) (commasToSlashes path) (commasToSlashes tail) := by
  have slashes : commasToSlashes "://" = "://" := by decide
  simp only [urlText, commasToSlashes_append, slashes,
    commasToSlashes_self (esdbScheme_comma esdb)]

/-- Up to its first comma an authority stays one when the commas become slashes, and the rest of it
becomes a path. -/
theorem authority_slashes (parts : UrlParts scheme authority tail) (comma : ',' ∈ authority.toList) :
    ∃ head path, UrlParts scheme head (commasToSlashes tail) ∧ IsPath path.toList ∧
      PlainText path ∧ commasToSlashes authority = head ++ path := by
  obtain ⟨front, back, split, bare⟩ := List.eq_append_cons_of_mem comma
  have kept : ∀ char ∈ front, char ∈ authority.toList := by
    intro char present
    rw [split]
    exact List.mem_append_left _ present
  have later : ∀ char ∈ back, char ∈ authority.toList := by
    intro char present
    rw [split]
    exact List.mem_append_right _ (List.mem_cons_of_mem _ present)
  have plain : ∀ char ∈ '/' :: replaced ',' '/' back, char = '/' ∨ char ∈ authority.toList := by
    intro char present
    rcases List.mem_cons.mp present with rfl | inside
    · exact Or.inl rfl
    · exact (mem_replaced inside).imp_right (later char)
  refine ⟨String.ofList front, String.ofList ('/' :: replaced ',' '/' back),
    ⟨parts.esdb, ?_, ?_, isTail_slashes parts.tail⟩, ?_, ?_, ?_⟩
  · intro char present
    rw [String.toList_ofList] at present
    exact parts.inside char (kept char present)
  · intro char present
    rw [String.toList_ofList] at present
    exact parts.plain char (kept char present)
  · rw [String.toList_ofList]
    refine ⟨Or.inr ⟨_, rfl⟩, ?_⟩
    intro char present
    rcases plain char present with rfl | inside
    · decide
    · have stays := parts.inside char inside
      constructor
      · rintro rfl
        exact absurd stays (by decide)
      · rintro rfl
        exact absurd stays (by decide)
  · intro char present
    rw [String.toList_ofList] at present
    rcases plain char present with rfl | inside
    · decide
    · exact parts.plain char inside
  · rw [← String.toList_inj, commasToSlashes_toList, split, replaced_split bare,
      String.toList_append, String.toList_ofList, String.toList_ofList]

/-- A string that ends with a slash behind its authority, or goes on with a query, has a host
without a name when it is read again with slashes for its commas. -/
theorem slash_reread (documented : crate.ReadsPaths) (parts : UrlParts scheme authority tail)
    (fails : crate.parse (urlText scheme authority "/" tail) = .error .invalidPort)
    {settings : ClientSettings}
    (accepted : ClientSettings.fromStr crate (urlText scheme authority "/" tail) = .ok settings) :
    ∃ host ∈ settings.hosts, host.host = "" := by
  have slash : commasToSlashes "/" = "/" := by decide
  obtain ⟨url, host, others, again, _⟩ := accepted_again fails accepted
  have places := accepted_places accepted
  unfold placesOf at places
  rw [fails, again] at places
  dsimp only at places
  rw [urlText_slashes parts.esdb, slash] at again
  by_cases comma : ',' ∈ authority.toList
  · obtain ⟨head, path, headParts, pathValid, pathPlain, split⟩ := authority_slashes parts comma
    have moved : urlText scheme (head ++ path) "/" (commasToSlashes tail) =
        urlText scheme head (path ++ "/") (commasToSlashes tail) := by
      simp only [urlText, String.append_assoc]
    rw [split, moved] at again
    obtain ⟨segments, closed⟩ := documented.closed _ _ _ _ _ headParts pathValid pathPlain again
    refine ⟨placeOf "", ?_, rfl⟩
    rw [places, closed, Option.getD_some, List.map_append]
    exact List.mem_cons_of_mem _ (List.mem_append_right _ List.mem_cons_self)
  · have other : UrlParts scheme authority (commasToSlashes tail) :=
      ⟨parts.esdb, parts.inside, parts.plain, isTail_slashes parts.tail⟩
    rw [commasToSlashes_self comma,
      documented.invalidPort _ _ _ _ _ parts other .slash fails] at again
    cases again

theorem settingsOf_slashed {url : Url} (bare : url.path = "") :
    settingsOf [] { url with path := "/", pathSegments := some [""] } = settingsOf [] url := by
  have hosts : hostsOf [] { url with path := "/", pathSegments := some [""] } = hostsOf [] url := by
    have slash : ¬ (([] : List Endpoint) = [] ∧ "/" ≠ "" ∧ "/" ≠ "/") := fun odd => odd.2.2 rfl
    have empty : ¬ (([] : List Endpoint) = [] ∧ "" ≠ "" ∧ "" ≠ "/") := fun odd => odd.2.1 rfl
    unfold hostsOf
    dsimp only
    rw [bare, if_neg slash, if_neg empty]
    rfl
  unfold settingsOf
  rw [hosts]
  rfl

/-- A string that is read at once is read alike with a slash behind its authority. -/
theorem slash_direct (documented : crate.ReadsPaths) (parts : UrlParts scheme authority tail)
    {url : Url} (parsed : crate.parse (urlText scheme authority "" tail) = .ok url) :
    ClientSettings.fromStr crate (urlText scheme authority "/" tail) =
      ClientSettings.fromStr crate (urlText scheme authority "" tail) := by
  have slashed : crate.parse (urlText scheme authority "/" tail) =
      .ok { url with path := "/", pathSegments := some [""] } := by
    rw [documented.slashed _ _ _ parts, parsed]
    rfl
  have bare := documented.bare _ _ _ _ parts parsed
  calc
    ClientSettings.fromStr crate (urlText scheme authority "/" tail)
        = settingsOf [] { url with path := "/", pathSegments := some [""] } := fromStr_direct slashed
    _ = settingsOf [] url := settingsOf_slashed bare
    _ = ClientSettings.fromStr crate (urlText scheme authority "" tail) :=
        (fromStr_direct parsed).symm

end Slashes

/-- Every host of the settings of a string can be called, and a slash behind the authority makes no
difference. -/
structure Usable (crate : UrlCrate) (uri : UriCrate) (s : String) (settings : ClientSettings) :
    Prop where
  hosted : settings.hosts ≠ []
  connects : NodeConnection.new settings ≠ none
  named : ∀ host ∈ settings.hosts, host.host ≠ ""
  callable : ∀ host ∈ settings.hosts, uri.parses (settings.toUri host) = true ∧
    uri.parses (settings.toHyperUri host) = true
  slash : ∀ scheme authority tail, UrlParts scheme authority tail →
    (s = urlText scheme authority "" tail ∨ s = urlText scheme authority "/" tail) →
    ClientSettings.fromStr crate (urlText scheme authority "" tail) = .ok settings ∧
      ClientSettings.fromStr crate (urlText scheme authority "/" tail) = .ok settings

section Simple

open SimpleUrl

variable {scheme authority tail : String}

theorem readPlace_port {authority : List Char} {place : Option String × Option Nat} {port : Nat}
    (read : readPlace authority = .ok place) (ported : place.2 = some port) : port < 2 ^ 16 := by
  unfold readPlace at read
  split at read
  · cases read
    cases ported
  · cases read
  · obtain ⟨parts, parsed, rfl⟩ := map_ok read
    unfold readAuthority at parsed
    dsimp only at parsed ported
    split at parsed
    · cases parsed
      cases ported
    · cases parsed
      cases ported
    · split at parsed
      · next number digits =>
          cases parsed
          cases ported
          exact parseDigits_lt (by decide) digits
      · cases parsed

theorem simple_urlText (parts : UrlParts scheme authority tail) {path : String}
    (valid : IsPath path.toList) :
    UrlCrate.simple.parse (urlText scheme authority path tail) =
      (readPlace (splitUser authority.toList).2).map
        (build scheme.toList path.toList tail.toList (splitUser authority.toList).1) := by
  have text : (urlText scheme authority path tail).toList = scheme.toList ++
      (':' :: '/' :: '/' :: (authority.toList ++ (path.toList ++ tail.toList))) := by
    simp [urlText, String.toList_append]
  rw [simple_parse, text]
  exact readUrl_parts (esdbScheme_colon parts.esdb) parts.inside valid parts.tail

theorem simple_readsPaths : UrlCrate.simple.ReadsPaths where
  ports := by
    intro text url port parsed ported
    rw [simple_parse] at parsed
    unfold readUrl at parsed
    dsimp only at parsed
    split at parsed
    · obtain ⟨place, read, rfl⟩ := map_ok parsed
      exact readPlace_port read ported
    · cases parsed
  bare := by
    intro scheme authority tail url parts parsed
    rw [simple_urlText parts .empty] at parsed
    obtain ⟨place, _, rfl⟩ := map_ok parsed
    rfl
  slashed := by
    intro scheme authority tail parts
    rw [simple_urlText parts .slash,
      simple_urlText parts .empty]
    cases readPlace (splitUser authority.toList).2 with
    | error error => rfl
    | ok place => rfl
  closed := by
    intro scheme authority path tail url parts valid plain parsed
    have closes : IsPath (path ++ "/").toList := by
      rw [String.toList_append]
      constructor
      · rcases valid.starts with empty | ⟨rest, split⟩
        · exact Or.inr ⟨[], by rw [empty]; rfl⟩
        · exact Or.inr ⟨rest ++ ['/'], by rw [split]; rfl⟩
      · intro char present
        rcases List.mem_append.mp present with early | last
        · exact valid.inside char early
        · rw [List.mem_singleton.mp last]
          decide
    rw [simple_urlText parts closes] at parsed
    obtain ⟨place, _, rfl⟩ := map_ok parsed
    change ∃ segments, readSegments (path ++ "/").toList = some (segments ++ [""])
    rw [String.toList_append]
    rcases valid.starts with empty | ⟨rest, split⟩
    · rw [empty]
      exact ⟨[], rfl⟩
    · rw [split]
      refine ⟨(rest.splitOn '/').map String.ofList, ?_⟩
      change some (((rest ++ '/' :: []).splitOn '/').map String.ofList) = _
      rw [List.splitOn_append_cons_self, List.map_append]
      rfl
  invalidPort := by
    intro scheme authority path tail other parts others valid fails
    rw [simple_urlText parts valid] at fails
    rw [simple_urlText others valid]
    cases read : readPlace (splitUser authority.toList).2 with
    | error error =>
        rw [read] at fails
        cases fails
        rfl
    | ok place =>
        rw [read] at fails
        cases fails

end Simple

def uriChar (char : Char) : Bool := nameChar char || char == ':' || char == '/'

def UriCrate.plain : UriCrate where
  parses := fun text => text.toList.all uriChar && decide (text.utf8ByteSize ≤ uriLimit)
  host := fun name => name.toList.all uriChar

theorem plain_uris : UriCrate.plain.Documented := by
  intro secure endpoint _
  have scheme : ((if secure then "https" else "http") : String).toList.all uriChar = true := by
    cases secure <;> decide
  have slashes : "://".toList.all uriChar = true := by decide
  have colon : ":".toList.all uriChar = true := by decide
  have digits : (toString endpoint.port).toList.all uriChar = true := by
    refine List.all_eq_true.mpr fun char present => ?_
    simp only [uriChar, digit_nameChar (toString_digits endpoint.port char present), Bool.true_or]
  have chars : (uriText secure endpoint).toList.all uriChar = endpoint.host.toList.all uriChar := by
    simp only [uriText, String.toList_append, List.all_append, scheme, slashes, colon, digits,
      Bool.true_and, Bool.and_true]
  unfold UriCrate.plain
  dsimp only
  rw [chars]

section Usable

variable {crate : UrlCrate} {uri : UriCrate} {s : String} {settings : ClientSettings}

theorem slash_settings (documented : crate.ReadsPaths)
    (accepted : ClientSettings.fromStr crate s = .ok settings)
    (named : ∀ host ∈ settings.hosts, host.host ≠ "") {scheme authority tail : String}
    (parts : UrlParts scheme authority tail)
    (atOnce : s = urlText scheme authority "" tail → ∃ url, crate.parse s = .ok url)
    (either : s = urlText scheme authority "" tail ∨ s = urlText scheme authority "/" tail) :
    ClientSettings.fromStr crate (urlText scheme authority "" tail) = .ok settings ∧
      ClientSettings.fromStr crate (urlText scheme authority "/" tail) = .ok settings := by
  rcases either with rfl | rfl
  · obtain ⟨url, parsed⟩ := atOnce rfl
    exact ⟨accepted, (slash_direct documented parts parsed).trans accepted⟩
  · rcases accepted_parse accepted with ⟨url, parsed⟩ | fails
    · rw [documented.slashed _ _ _ parts] at parsed
      obtain ⟨bare, direct, _⟩ := map_ok parsed
      exact ⟨(slash_direct documented parts direct).symm.trans accepted, accepted⟩
    · obtain ⟨host, listed, empty⟩ := slash_reread documented parts fails accepted
      exact absurd empty (named host listed)

/-- The settings of an accepted string are usable exactly when every host in its text has a name the
http crate takes, within its limit, and the text does not end with the authority of seeds that are
read again. -/
theorem usable_iff (documented : crate.ReadsPaths) (uris : uri.Documented)
    (accepted : ClientSettings.fromStr crate s = .ok settings) :
    Usable crate uri s settings ↔
      (∀ place ∈ placesOf crate s, place.host ≠ "" ∧ uri.host place.host = true ∧
        (uriText (tlsOf (pairsOf crate s)) place).utf8ByteSize ≤ uriLimit) ∧
      ∀ scheme authority tail, UrlParts scheme authority tail →
        s = urlText scheme authority "" tail → ∃ url, crate.parse s = .ok url := by
  have places := accepted_places accepted
  have secure := accepted_secure accepted
  have parses : ∀ host ∈ settings.hosts, uri.parses (uriText settings.secure host) =
      (uri.host host.host && decide ((uriText settings.secure host).utf8ByteSize ≤ uriLimit)) := by
    intro host listed
    rw [places] at listed
    exact uris _ _ (placesOf_ports documented host listed)
  rw [← places, ← secure]
  constructor
  · intro usable
    constructor
    · intro host listed
      have both := (usable.callable host listed).1
      rw [ClientSettings.toUri, parses host listed, Bool.and_eq_true, decide_eq_true_iff] at both
      exact ⟨usable.named host listed, both⟩
    · intro scheme authority tail parts same
      rcases accepted_parse accepted with parsed | fails
      · exact parsed
      · have both := usable.slash scheme authority tail parts (Or.inl same)
        rw [same] at fails
        have slashFails : crate.parse (urlText scheme authority "/" tail) =
            .error .invalidPort := by
          rw [documented.slashed _ _ _ parts, fails]
          rfl
        obtain ⟨host, listed, empty⟩ := slash_reread documented parts slashFails both.2
        exact absurd empty (usable.named host listed)
  · intro ⟨named, atOnce⟩
    have hosted := accepted_hosts accepted
    have names : ∀ host ∈ settings.hosts, host.host ≠ "" := fun host listed => (named host listed).1
    have calls : ∀ host ∈ settings.hosts, uri.parses (uriText settings.secure host) = true := by
      intro host listed
      obtain ⟨_, taken, fits⟩ := named host listed
      rw [parses host listed, taken, decide_eq_true fits, Bool.and_self]
    exact {
      hosted := hosted
      connects := nodeConnection_new hosted
      named := names
      callable := fun host listed => ⟨calls host listed, calls host listed⟩
      slash := fun scheme authority tail parts either =>
        slash_settings documented accepted names parts (atOnce scheme authority tail parts) either }

def portedSeeds : ClientSettings :=
  { ClientSettings.default with hosts := [⟨"node1", 1111⟩, ⟨"node2", 2222⟩] }

theorem usable_single_host :
    Usable UrlCrate.simple UriCrate.plain "esdb://localhost:2113" ClientSettings.local ↔
      (∀ place ∈ placesOf UrlCrate.simple "esdb://localhost:2113", place.host ≠ "" ∧
        UriCrate.plain.host place.host = true ∧
        (uriText (tlsOf (pairsOf UrlCrate.simple "esdb://localhost:2113")) place).utf8ByteSize ≤
          uriLimit) ∧
      ∀ scheme authority tail, UrlParts scheme authority tail →
        "esdb://localhost:2113" = urlText scheme authority "" tail →
        ∃ url, UrlCrate.simple.parse "esdb://localhost:2113" = .ok url :=
  usable_iff simple_readsPaths plain_uris rfl

/-- A slash behind seeds with ports adds a host without a name, and so does an empty seed. -/
theorem seeds_with_slash_unusable :
    ClientSettings.fromStr UrlCrate.simple "esdb://node1:1111,node2:2222" = .ok portedSeeds ∧
      ClientSettings.fromStr UrlCrate.simple "esdb://node1:1111,node2:2222/" =
        .ok { portedSeeds with hosts := portedSeeds.hosts ++ [⟨"", 2113⟩] } ∧
      ClientSettings.fromStr UrlCrate.simple "esdb://node1,,node2" =
        .ok { portedSeeds with hosts := [⟨"node1", 2113⟩, ⟨"", 2113⟩, ⟨"node2", 2113⟩] } ∧
      (∀ uri, ¬ Usable UrlCrate.simple uri "esdb://node1:1111,node2:2222" portedSeeds) ∧
      ∀ uri, ¬ Usable UrlCrate.simple uri "esdb://node1:1111,node2:2222/"
        { portedSeeds with hosts := portedSeeds.hosts ++ [⟨"", 2113⟩] } := by
  have slashed : ClientSettings.fromStr UrlCrate.simple "esdb://node1:1111,node2:2222/" =
      .ok { portedSeeds with hosts := portedSeeds.hosts ++ [⟨"", 2113⟩] } := by
    rfl
  refine ⟨rfl, slashed, rfl, ?_, ?_⟩
  · intro uri usable
    have parts : UrlParts "esdb" "node1:1111,node2:2222" "" :=
      ⟨Or.inl (by decide), List.all_iff_forall_prop.mp (by decide),
        List.all_iff_forall_prop.mp (by decide), Or.inl rfl⟩
    have same := (usable.slash "esdb" "node1:1111,node2:2222" "" parts (Or.inl rfl)).2
    have text : urlText "esdb" "node1:1111,node2:2222" "/" "" =
        "esdb://node1:1111,node2:2222/" := by decide
    rw [text, slashed] at same
    have hosts := congrArg (fun read => read.toOption.map fun made => made.hosts.length) same
    exact absurd hosts (by decide)
  · intro uri usable
    exact usable.named ⟨"", 2113⟩ (List.mem_append_right _ List.mem_cons_self) rfl

end Usable

end TrogonEventStore

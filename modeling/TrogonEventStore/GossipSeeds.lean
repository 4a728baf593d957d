import TrogonEventStore.SimpleUrls

namespace TrogonEventStore

open Replacement

def Accepted (crate : UrlCrate) (query : Option String) : Prop :=
  ∀ text, query = some text →
    ∃ settings, readParams .default (crate.queryPairs (some text)) = .ok settings

structure Seed where
  host : String
  port : Option Nat

def Seed.text (seed : Seed) : List Char :=
  seed.host.toList ++ match seed.port with
    | none => []
    | some port => ':' :: (toString port).toList

def Seed.endpoint (seed : Seed) : Endpoint := ⟨seed.host, seed.port.getD 2113⟩

structure Seed.Plain (seed : Seed) : Prop where
  named : seed.host ≠ "" ∧ seed.host ≠ "." ∧ seed.host ≠ ".."
  plain : ∀ char ∈ seed.host.toList, nameChar char
  within : ∀ port, seed.port = some port → port < 2 ^ 16

def connectionString (seeds : List Seed) (query : Option String) : String :=
  String.ofList (esdbScheme ++ [','].intercalate (seeds.map Seed.text) ++ queryText query)

/-- Of several seeds the last one alone has a port, and another than the default one. -/
def LosesPort (seeds : List Seed) : Prop :=
  ∃ front last port, seeds = front ++ [last] ∧ front ≠ [] ∧ (∀ seed ∈ front, seed.port = none) ∧
    last.port = some port ∧ port ≠ 2113

namespace Seed

variable {seed : Seed}

theorem text_chars (plain : seed.Plain) : ∀ char ∈ seed.text, nameChar char ∨ char = ':' := by
  intro char present
  unfold text at present
  rcases List.mem_append.mp present with named | ported
  · exact Or.inl (plain.plain char named)
  · split at ported
    · cases ported
    · next port _ =>
        rcases List.mem_cons.mp ported with rfl | digit
        · exact Or.inr rfl
        · exact Or.inl (digit_nameChar (toString_digits port char digit))

theorem text_comma (plain : seed.Plain) : ',' ∉ seed.text := by
  intro present
  rcases text_chars plain ',' present with named | impossible
  · exact (nameChar_plain named).1 rfl
  · exact absurd impossible (by decide)

theorem text_none (portless : seed.port = none) : seed.text = seed.host.toList := by
  rw [text, portless, List.append_nil]

theorem text_some {port : Nat} (ported : seed.port = some port) :
    seed.text = seed.host.toList ++ ':' :: (toString port).toList := by
  rw [text, ported]

theorem host_colon (plain : seed.Plain) : ':' ∉ seed.host.toList :=
  fun present => (nameChar_plain (plain.plain ':' present)).2.1 rfl

theorem parseGossipSeed_text (plain : seed.Plain) (result : ClientSettings) :
    parseGossipSeed result (String.ofList seed.text) =
      .ok { result with hosts := result.hosts ++ [seed.endpoint] } := by
  cases ported : seed.port with
  | none =>
      have parts : splitAt ':' (String.ofList seed.text) = [seed.host] := by
        rw [splitAt, String.toList_ofList, text_none ported,
          List.splitOn_eq_singleton (host_colon plain), List.map_singleton, String.ofList_toList]
      rw [parseGossipSeed, parts, text_none ported, String.ofList_toList]
      simp only [endpoint, ported, Option.getD_none]
  | some port =>
      have digits : ':' ∉ (toString port).toList := fun present =>
        absurd (toString_digits port ':' present) (by decide)
      have parts : splitAt ':' (String.ofList seed.text) = [seed.host, toString port] := by
        rw [splitAt, String.toList_ofList, text_some ported,
          List.splitOn_append_cons_self_of_not_mem (host_colon plain),
          List.splitOn_eq_singleton digits, List.map_cons, List.map_singleton, String.ofList_toList,
          String.ofList_toList]
      rw [parseGossipSeed, parts]
      simp only [parseUnsigned_toString (plain.within port ported), endpoint, ported,
        Option.getD_some]

end Seed

theorem parseGossipSeeds_text (seeds : List Seed) (plain : ∀ seed ∈ seeds, seed.Plain)
    (result : ClientSettings) :
    (seeds.map fun seed => String.ofList seed.text).foldlM parseGossipSeed result =
      .ok { result with hosts := result.hosts ++ seeds.map Seed.endpoint } := by
  induction seeds generalizing result with
  | nil => rw [List.map_nil, List.map_nil, List.append_nil]; rfl
  | cons seed seeds ih =>
      rw [List.map_cons, List.foldlM_cons,
        Seed.parseGossipSeed_text (plain seed List.mem_cons_self)]
      have rest := ih (fun other later => plain other (List.mem_cons_of_mem _ later))
        { result with hosts := result.hosts ++ [seed.endpoint] }
      rw [List.append_assoc, List.singleton_append] at rest
      exact rest

section Joined

def joined (seeds : List Seed) : List Char := [','].intercalate (seeds.map Seed.text)

def Seed.bare (seed : Seed) : Seed := { seed with port := none }

theorem joined_cons (first : Seed) (rest : List Seed) :
    joined (first :: rest) = first.text ++ rest.flatMap fun seed => ',' :: seed.text := by
  rw [joined, List.map_cons, intercalate_cons, List.flatMap_map]

theorem joined_split (front : List Seed) {seed : Seed} {port : Nat} (ported : seed.port = some port)
    (back : List Seed) :
    joined (front ++ seed :: back) = joined (front ++ [seed.bare]) ++
      ':' :: ((toString port).toList ++ back.flatMap fun seed => ',' :: seed.text) := by
  have bare : seed.bare.text = seed.host.toList := Seed.text_none rfl
  have whole : seed.text = seed.bare.text ++ ':' :: (toString port).toList := by
    rw [Seed.text_some ported, bare]
  cases front with
  | nil =>
      rw [List.nil_append, List.nil_append, joined_cons, joined_cons, whole]
      simp
  | cons first front =>
      rw [List.cons_append, List.cons_append, joined_cons, joined_cons, List.flatMap_append,
        List.flatMap_append, List.flatMap_cons, whole]
      simp

theorem joined_chars {seeds : List Seed} (plain : ∀ seed ∈ seeds, seed.Plain) {char : Char}
    (present : char ∈ joined seeds) :
    char = ',' ∨ ∃ seed ∈ seeds, char ∈ seed.text := by
  cases seeds with
  | nil => cases present
  | cons first rest =>
      rw [joined_cons] at present
      rcases List.mem_append.mp present with head | later
      · exact Or.inr ⟨first, List.mem_cons_self, head⟩
      · obtain ⟨seed, listed, inside⟩ := List.mem_flatMap.mp later
        rcases List.mem_cons.mp inside with comma | inside
        · exact Or.inl comma
        · exact Or.inr ⟨seed, List.mem_cons_of_mem _ listed, inside⟩

theorem joined_authority {seeds : List Seed} (present : seeds ≠ [])
    (plain : ∀ seed ∈ seeds, seed.Plain) : Authority (joined seeds) := by
  constructor
  · obtain ⟨first, rest, rfl⟩ := List.exists_cons_of_ne_nil present
    have firstPlain := plain first List.mem_cons_self
    have named : first.host.toList ≠ [] := by
      intro empty
      exact firstPlain.named.1 (String.toList_eq_nil_iff.mp empty)
    obtain ⟨char, chars, split⟩ := List.exists_cons_of_ne_nil named
    have inside : char ∈ first.host.toList := by
      rw [split]
      exact List.mem_cons_self
    have starts : ∃ others, joined (first :: rest) = char :: others := by
      rw [joined_cons, Seed.text, split, List.cons_append, List.cons_append]
      exact ⟨_, rfl⟩
    obtain ⟨others, whole⟩ := starts
    exact ⟨char, others, whole, (nameChar_plain (firstPlain.plain char inside)).2.1⟩
  · intro char inside
    rcases joined_chars plain inside with rfl | ⟨seed, listed, inside⟩
    · decide
    · rcases Seed.text_chars (plain seed listed) char inside with named | rfl
      · simp only [authorityChar, named, Bool.true_or]
      · decide

theorem joined_colon {seeds : List Seed} (plain : ∀ seed ∈ seeds, seed.Plain)
    (portless : ∀ seed ∈ seeds, seed.port = none) : ':' ∉ joined seeds := by
  intro present
  rcases joined_chars plain present with impossible | ⟨seed, listed, inside⟩
  · exact absurd impossible (by decide)
  · rw [Seed.text_none (portless seed listed)] at inside
    exact Seed.host_colon (plain seed listed) inside

theorem bare_plain {front : List Seed} {seed : Seed}
    (plain : ∀ other ∈ front ++ [seed], other.Plain) :
    ∀ other ∈ front ++ [seed.bare], other.Plain := by
  intro other listed
  rcases List.mem_append.mp listed with earlier | last
  · exact plain other (List.mem_append_left _ earlier)
  · rw [List.mem_singleton.mp last]
    have whole := plain seed (List.mem_append_right _ List.mem_cons_self)
    exact ⟨whole.named, whole.plain, fun port impossible => by cases impossible⟩

theorem bare_portless {front : List Seed} {seed : Seed}
    (portless : ∀ other ∈ front, other.port = none) :
    ∀ other ∈ front ++ [seed.bare], other.port = none := by
  intro other listed
  rcases List.mem_append.mp listed with earlier | last
  · exact portless other earlier
  · rw [List.mem_singleton.mp last]
    rfl

theorem splitAt_joined {seeds : List Seed} (present : seeds ≠ [])
    (plain : ∀ seed ∈ seeds, seed.Plain) :
    splitAt ',' (String.ofList (joined seeds)) = seeds.map fun seed => String.ofList seed.text := by
  have separate : ∀ text ∈ seeds.map Seed.text, ',' ∉ text := by
    intro text listed
    obtain ⟨seed, known, rfl⟩ := List.mem_map.mp listed
    exact Seed.text_comma (plain seed known)
  have some : seeds.map Seed.text ≠ [] := by
    rwa [ne_eq, List.map_eq_nil_iff]
  rw [splitAt, String.toList_ofList, joined, List.splitOn_intercalate ',' separate some,
    List.map_map]
  rfl

/-- With the commas turned into slashes the first seed is the authority and the others are path
segments. -/
theorem slashes_joined {first : Seed} {rest : List Seed}
    (plain : ∀ seed ∈ first :: rest, seed.Plain) :
    replaced ',' '/' (joined (first :: rest)) =
      first.text ++ (rest.map fun seed => String.ofList seed.text).flatMap
        fun segment => '/' :: segment.toList := by
  have kept : ∀ seed ∈ first :: rest, replaced ',' '/' seed.text = seed.text :=
    fun seed listed => replaced_self (Seed.text_comma (plain seed listed))
  have segments : ∀ seed ∈ rest,
      (',' :: seed.text).map (swap ',' '/') = '/' :: seed.text := by
    intro seed listed
    exact congrArg (List.cons '/') (kept seed (List.mem_cons_of_mem _ listed))
  rw [joined_cons, replaced_append, kept first List.mem_cons_self, replaced, List.map_flatMap,
    List.flatMap_map]
  simp only [String.toList_ofList]
  exact congrArg (first.text ++ ·) (List.flatMap_congr segments)

end Joined

section Parsing

variable {crate : UrlCrate} {query : Option String} {settings : ClientSettings} {tail : UrlTail}
  {authority : String × Option Nat}

theorem slashed_refl (chars : List Char) :
    List.Forall₂ (fun char after => after = char ∨ char = ',' ∧ after = '/') chars chars :=
  List.forall₂_same.mpr fun _ _ => Or.inl rfl

/-- An accepted query is accepted for settings that name hosts already, as it stands and with its
commas turned into slashes. -/
theorem readParams_accepted (documented : crate.Documented) (accepted : Accepted crate query)
    (hosts : List Endpoint) {after : Option String}
    (rewritten : after = query ∨ after = query.map commasToSlashes) :
    ∃ next, readParams { ClientSettings.default with hosts := hosts } (crate.queryPairs after) =
      .ok next ∧ next.hosts = hosts := by
  have alike : Alike .default { ClientSettings.default with hosts := hosts } := ⟨rfl, rfl⟩
  cases query with
  | none =>
      have none : after = none := by
        rcases rewritten with same | same <;> exact same
      rw [none, documented.noQuery]
      exact ⟨_, rfl, rfl⟩
  | some text =>
      obtain ⟨read, parsed⟩ := accepted text rfl
      rcases rewritten with rfl | rfl
      · apply readParams_slashed _ alike _ parsed
        exact List.forall₂_same.mpr fun pair _ => ⟨slashed_refl _, slashed_refl _⟩
      · exact readParams_slashed _ alike (documented.commas text) parsed

theorem parseFromUrl_fresh (bare : tail.segments = []) :
    parseFromUrl .default (crate.url tail authority) =
      (readHosts .default (crate.url tail authority)).bind fun result =>
        readParams result (crate.queryPairs tail.query) := by
  have path : tail.path = [] := by
    rw [UrlTail.path, bare, List.flatMap_nil]
  have empty : ClientSettings.default.hosts = [] := rfl
  unfold parseFromUrl
  simp [UrlCrate.url, Url.esdb, path, empty]
  rfl

theorem parseFromUrl_filled (filled : settings.hosts ≠ []) :
    parseFromUrl settings (crate.url tail authority) =
      readParams { settings with dnsDiscover := false } (crate.queryPairs tail.query) := by
  unfold parseFromUrl
  simp [UrlCrate.url, Url.esdb, filled]
  rfl

theorem fromStr_read (documented : crate.Documented) (accepted : Accepted crate query)
    {text : List Char} (valid : Authority text) (read : readAuthority text = .ok authority)
    {hosts : List Endpoint}
    (named : readHosts .default (crate.url ⟨[], query⟩ authority) =
      .ok { ClientSettings.default with hosts := hosts }) :
    (ClientSettings.fromStr crate
      (String.ofList (esdbScheme ++ text ++ queryText query))).map ClientSettings.hosts =
        .ok hosts := by
  have parsed := documented.parses text ⟨[], query⟩ valid fun segment impossible => by
    cases impossible
  rw [read] at parsed
  obtain ⟨next, params, same⟩ := readParams_accepted documented accepted hosts (Or.inl rfl)
  have whole : ClientSettings.fromStr crate
      (String.ofList (esdbScheme ++ text ++ queryText query)) = .ok next := by
    unfold ClientSettings.fromStr
    change crate.parse (String.ofList (esdbScheme ++ text ++ queryText query)) =
      .ok (crate.url ⟨[], query⟩ authority) at parsed
    rw [parsed]
    dsimp only
    rw [parseFromUrl_fresh rfl, named]
    exact params
  rw [whole, Except.map, same]

theorem readHosts_single {seed : Seed} (plain : seed.Plain) (port : Option Nat) :
    readHosts .default (crate.url tail (seed.host, port)) =
      .ok { ClientSettings.default with hosts := [⟨seed.host, port.getD 2113⟩] } := by
  have alone : ',' ∉ seed.host.toList := fun present =>
    (nameChar_plain (plain.plain ',' present)).1 rfl
  have host : (crate.url tail (seed.host, port)).hostStr.getD "" = seed.host := rfl
  unfold readHosts
  dsimp only
  rw [host, if_neg alone]
  rfl

theorem readHosts_several {first second : Seed} {rest : List Seed}
    (plain : ∀ seed ∈ first :: second :: rest, seed.Plain) (port : Option Nat) :
    readHosts .default
        (crate.url tail (String.ofList (joined (first :: second :: rest)), port)) =
      .ok { ClientSettings.default with
        hosts := (first :: second :: rest).map Seed.endpoint } := by
  have several : ',' ∈ joined (first :: second :: rest) := by
    rw [joined_cons, List.flatMap_cons]
    exact List.mem_append_right _ List.mem_cons_self
  have host : (crate.url tail (String.ofList (joined (first :: second :: rest)), port)).hostStr.getD
      "" = String.ofList (joined (first :: second :: rest)) := rfl
  unfold readHosts
  dsimp only
  rw [host, String.toList_ofList, if_pos several, splitAt_joined (List.cons_ne_nil _ _) plain,
    parseGossipSeeds_text _ plain]
  rfl

theorem readAuthority_seed {seed : Seed} (plain : seed.Plain) :
    readAuthority seed.text = .ok (seed.host, seed.port) := by
  have colon := Seed.host_colon plain
  cases ported : seed.port with
  | none => rw [Seed.text_none ported, readAuthority_host colon, String.ofList_toList]
  | some port =>
      rw [Seed.text_some ported, readAuthority_port colon (toString_ne_nil port),
        parseDigits_toString (plain.within port ported), String.ofList_toList]

theorem seed_segment {seed : Seed} (plain : seed.Plain) :
    String.ofList seed.text ≠ "." ∧ String.ofList seed.text ≠ ".." ∧
      ∀ char ∈ (String.ofList seed.text).toList, authorityChar char := by
  have chars : ∀ char ∈ (String.ofList seed.text).toList, authorityChar char := by
    intro char inside
    rw [String.toList_ofList] at inside
    rcases Seed.text_chars plain char inside with named | rfl
    · simp only [authorityChar, named, Bool.true_or]
    · decide
  cases ported : seed.port with
  | none =>
      rw [Seed.text_none ported, String.ofList_toList] at chars ⊢
      exact ⟨plain.named.2.1, plain.named.2.2, chars⟩
  | some port =>
      have colon : ':' ∈ (String.ofList seed.text).toList := by
        rw [String.toList_ofList, Seed.text_some ported]
        exact List.mem_append_right _ List.mem_cons_self
      refine ⟨?_, ?_, chars⟩
      · intro same
        rw [same] at colon
        exact absurd colon (by decide)
      · intro same
        rw [same] at colon
        exact absurd colon (by decide)

theorem Seed.text_authority {seed : Seed} (plain : seed.Plain) : Authority seed.text := by
  have single : joined [seed] = seed.text := List.intercalate_singleton
  rw [← single]
  apply joined_authority (List.cons_ne_nil _ _)
  intro other listed
  rw [List.mem_singleton.mp listed]
  exact plain

theorem segments_plain {seeds : List Seed} {query : Option String}
    (plain : ∀ seed ∈ seeds, seed.Plain) :
    UrlTail.Plain ⟨seeds.map fun seed => String.ofList seed.text, query⟩ := by
  intro segment listed
  obtain ⟨seed, known, rfl⟩ := List.mem_map.mp listed
  exact seed_segment (plain seed known)

theorem commasToSlashes_connectionString {first : Seed} {rest : List Seed}
    (plain : ∀ seed ∈ first :: rest, seed.Plain) (query : Option String) :
    commasToSlashes (connectionString (first :: rest) query) =
      String.ofList (esdbScheme ++ first.text ++
        UrlTail.text ⟨rest.map fun seed => String.ofList seed.text,
          query.map commasToSlashes⟩) := by
  have scheme : replaced ',' '/' esdbScheme = esdbScheme := replaced_self (by decide)
  have queried : replaced ',' '/' (queryText query) = queryText (query.map commasToSlashes) := by
    cases query with
    | none => rfl
    | some text =>
        rw [Option.map_some, queryText, queryText, commasToSlashes_toList, replaced_cons]
        rfl
  have seeds := slashes_joined plain
  unfold joined at seeds
  rw [← String.toList_inj, commasToSlashes_toList, connectionString, String.toList_ofList,
    String.toList_ofList, replaced_append, replaced_append, scheme, seeds, queried, UrlTail.text,
    UrlTail.path]
  simp only [List.append_assoc]

theorem fromStr_again {text : String} (refused : crate.parse text = .error .invalidPort)
    (comma : ',' ∈ text.toList) {url : Url} (again : crate.parse (commasToSlashes text) = .ok url)
    {host : String} (hosted : url.hostStr = some host) {setts : ClientSettings}
    (seeds : (url.pathSegments.getD []).foldlM parseGossipSeed
      { ClientSettings.default with hosts := [⟨host, url.port.getD 2113⟩] } = .ok setts) :
    ClientSettings.fromStr crate text = parseFromUrl setts url := by
  unfold ClientSettings.fromStr
  rw [refused]
  dsimp only
  rw [if_pos ⟨rfl, comma⟩, again]
  dsimp only
  rw [hosted]
  dsimp only
  rw [seeds]
  rfl

/-- When the port does not parse, the seeds are read as path segments and none loses its port. -/
theorem fromStr_rewritten (documented : crate.Documented) (accepted : Accepted crate query)
    {first second : Seed} {rest : List Seed}
    (plain : ∀ seed ∈ first :: second :: rest, seed.Plain)
    (invalid : readAuthority (joined (first :: second :: rest)) = .error .invalidPort) :
    (ClientSettings.fromStr crate (connectionString (first :: second :: rest) query)).map
      ClientSettings.hosts = .ok ((first :: second :: rest).map Seed.endpoint) := by
  let seeds := first :: second :: rest
  let tail : UrlTail := ⟨(second :: rest).map fun seed => String.ofList seed.text,
    query.map commasToSlashes⟩
  have refused : crate.parse (connectionString seeds query) = .error .invalidPort := by
    have parsed := documented.parses (joined seeds) ⟨[], query⟩
      (joined_authority (List.cons_ne_nil _ _) plain) fun segment impossible => by cases impossible
    rw [invalid] at parsed
    exact parsed
  have comma : ',' ∈ (connectionString seeds query).toList := by
    rw [connectionString, String.toList_ofList, List.map_cons, intercalate_cons, List.map_cons,
      List.flatMap_cons]
    simp
  have firstPlain := plain first List.mem_cons_self
  have again : crate.parse (commasToSlashes (connectionString seeds query)) =
      .ok (crate.url tail (first.host, first.port)) := by
    have segments : tail.Plain := segments_plain fun seed listed =>
      plain seed (List.mem_cons_of_mem _ listed)
    rw [commasToSlashes_connectionString plain,
      documented.parses first.text tail (Seed.text_authority firstPlain) segments,
      readAuthority_seed firstPlain]
    rfl
  have others : ∀ seed ∈ second :: rest, seed.Plain := fun seed listed =>
    plain seed (List.mem_cons_of_mem _ listed)
  have whole := fromStr_again refused comma again rfl (parseGossipSeeds_text (second :: rest) others _)
  obtain ⟨next, params, same⟩ := readParams_accepted documented accepted
    (seeds.map Seed.endpoint) (Or.inr rfl)
  rw [whole, parseFromUrl_filled (List.cons_ne_nil _ _)]
  change (readParams { ClientSettings.default with hosts := seeds.map Seed.endpoint }
    (crate.queryPairs (query.map commasToSlashes))).map _ = _
  rw [params, Except.map, same]

theorem ports_cases (seeds : List Seed) :
    (∀ seed ∈ seeds, seed.port = none) ∨
      ∃ front seed port back, seeds = front ++ seed :: back ∧ (∀ other ∈ front, other.port = none) ∧
        seed.port = some port := by
  induction seeds with
  | nil => exact Or.inl fun seed impossible => by cases impossible
  | cons first rest ih =>
      cases ported : first.port with
      | some port =>
          exact Or.inr ⟨[], first, port, rest, rfl, List.forall_mem_nil _, ported⟩
      | none =>
          rcases ih with portless | ⟨front, seed, port, back, rfl, portless, some⟩
          · refine Or.inl fun seed listed => ?_
            rcases List.mem_cons.mp listed with rfl | later
            · exact ported
            · exact portless seed later
          · refine Or.inr ⟨first :: front, seed, port, back, rfl, fun other listed => ?_, some⟩
            rcases List.mem_cons.mp listed with rfl | later
            · exact ported
            · exact portless other later

theorem fromStr_portless (documented : crate.Documented) (accepted : Accepted crate query)
    {seeds : List Seed} (present : seeds ≠ []) (plain : ∀ seed ∈ seeds, seed.Plain)
    (portless : ∀ seed ∈ seeds, seed.port = none) :
    (ClientSettings.fromStr crate (connectionString seeds query)).map ClientSettings.hosts =
      .ok (seeds.map Seed.endpoint) := by
  have read := readAuthority_host (joined_colon plain portless)
  apply fromStr_read documented accepted (joined_authority present plain) read
  obtain ⟨first, rest, rfl⟩ := List.exists_cons_of_ne_nil present
  cases rest with
  | nil =>
      have bare := portless first List.mem_cons_self
      have text : String.ofList (joined [first]) = first.host := by
        rw [joined, List.map_singleton, List.intercalate_singleton, Seed.text_none bare,
          String.ofList_toList]
      rw [text, readHosts_single (plain first List.mem_cons_self), List.map_singleton,
        Seed.endpoint, bare]
  | cons second rest => exact readHosts_several plain none

theorem readAuthority_last {front : List Seed} {seed : Seed} {port : Nat}
    (plain : ∀ other ∈ front ++ [seed], other.Plain)
    (portless : ∀ other ∈ front, other.port = none) (ported : seed.port = some port) :
    readAuthority (joined (front ++ [seed])) =
      .ok (String.ofList (joined (front ++ [seed.bare])), some port) := by
  have colon := joined_colon (bare_plain plain) (bare_portless portless)
  rw [joined_split front ported [], List.flatMap_nil, List.append_nil,
    readAuthority_port colon (toString_ne_nil port),
    parseDigits_toString ((plain seed (by simp)).within port ported)]

theorem fromStr_single (documented : crate.Documented) (accepted : Accepted crate query)
    {seed : Seed} (plain : seed.Plain) {port : Nat} (ported : seed.port = some port) :
    (ClientSettings.fromStr crate (connectionString [seed] query)).map ClientSettings.hosts =
      .ok [seed.endpoint] := by
  have every : ∀ other ∈ [] ++ [seed], other.Plain := by
    intro other listed
    rw [List.mem_singleton.mp listed]
    exact plain
  have read := readAuthority_last every (List.forall_mem_nil _) ported
  apply fromStr_read documented accepted (joined_authority (List.cons_ne_nil _ _) every) read
  have text : String.ofList (joined [seed.bare]) = seed.host := by
    rw [joined, List.map_singleton, List.intercalate_singleton, Seed.text_none rfl,
      String.ofList_toList]
    rfl
  rw [List.nil_append, text, readHosts_single plain, Seed.endpoint, ported]

/-- A port that only the last of several seeds carries is lost. -/
theorem fromStr_last (documented : crate.Documented) (accepted : Accepted crate query)
    {front : List Seed} (several : front ≠ []) {seed : Seed} {port : Nat}
    (plain : ∀ other ∈ front ++ [seed], other.Plain)
    (portless : ∀ other ∈ front, other.port = none) (ported : seed.port = some port) :
    (ClientSettings.fromStr crate (connectionString (front ++ [seed]) query)).map
      ClientSettings.hosts = .ok (front.map Seed.endpoint ++ [⟨seed.host, 2113⟩]) := by
  have read := readAuthority_last plain portless ported
  have present : front ++ [seed] ≠ [] := List.append_ne_nil_of_right_ne_nil _ (List.cons_ne_nil _ _)
  apply fromStr_read documented accepted (joined_authority present plain) read
  have same : front.map Seed.endpoint ++ [⟨seed.host, 2113⟩] =
      (front ++ [seed.bare]).map Seed.endpoint := by
    rw [List.map_append]
    rfl
  have bares := bare_plain plain
  rw [same]
  obtain ⟨first, others, rfl⟩ := List.exists_cons_of_ne_nil several
  cases others with
  | nil => exact readHosts_several bares (some port)
  | cons second others => exact readHosts_several bares (some port)

/-- A port that is followed by another seed makes the port of the authority invalid. -/
theorem readAuthority_middle {front back : List Seed} {seed next : Seed} {port : Nat}
    (plain : ∀ other ∈ front ++ seed :: next :: back, other.Plain)
    (portless : ∀ other ∈ front, other.port = none) (ported : seed.port = some port) :
    readAuthority (joined (front ++ seed :: next :: back)) = .error .invalidPort := by
  have upTo : ∀ other ∈ front ++ [seed], other.Plain := by
    intro other listed
    apply plain
    rcases List.mem_append.mp listed with earlier | last
    · exact List.mem_append_left _ earlier
    · exact List.mem_append_right _ (List.mem_singleton.mp last ▸ List.mem_cons_self)
  have colon := joined_colon (bare_plain upTo) (bare_portless portless)
  have stray : parseDigits (2 ^ 16) 0 ((toString port).toList ++
      (next :: back).flatMap fun seed => ',' :: seed.text) = none := by
    apply parseDigits_none
    refine ⟨',', ?_, by decide⟩
    rw [List.flatMap_cons]
    exact List.mem_append_right _ List.mem_cons_self
  have digits : (toString port).toList ++ (next :: back).flatMap (fun seed => ',' :: seed.text) ≠
      [] := List.append_ne_nil_of_left_ne_nil (toString_ne_nil port) _
  rw [joined_split front ported, readAuthority_port colon digits, stray]

theorem fromStr_middle (documented : crate.Documented) (accepted : Accepted crate query)
    {front back : List Seed} {seed next : Seed} {port : Nat}
    (plain : ∀ other ∈ front ++ seed :: next :: back, other.Plain)
    (portless : ∀ other ∈ front, other.port = none) (ported : seed.port = some port) :
    (ClientSettings.fromStr crate (connectionString (front ++ seed :: next :: back) query)).map
      ClientSettings.hosts = .ok ((front ++ seed :: next :: back).map Seed.endpoint) := by
  have invalid := readAuthority_middle plain portless ported
  cases front with
  | nil => exact fromStr_rewritten documented accepted plain invalid
  | cons first front =>
      cases front with
      | nil => exact fromStr_rewritten documented accepted plain invalid
      | cons second front => exact fromStr_rewritten documented accepted plain invalid

end Parsing

theorem not_losesPort_portless {seeds : List Seed}
    (portless : ∀ seed ∈ seeds, seed.port = none) : ¬ LosesPort seeds := by
  rintro ⟨front, last, port, rfl, _, _, ported, _⟩
  rw [portless last (List.mem_append_right _ List.mem_cons_self)] at ported
  cases ported

theorem not_losesPort_single (seed : Seed) : ¬ LosesPort [seed] := by
  rintro ⟨front, last, _, split, several, _⟩
  have lengths := congrArg List.length split
  have length := List.length_pos_of_ne_nil several
  simp only [List.length_singleton, List.length_append] at lengths
  omega

theorem losesPort_last_iff {front : List Seed} {seed : Seed} {port : Nat} (several : front ≠ [])
    (portless : ∀ other ∈ front, other.port = none) (ported : seed.port = some port) :
    LosesPort (front ++ [seed]) ↔ port ≠ 2113 := by
  constructor
  · rintro ⟨earlier, last, other, split, _, _, lastPort, differs⟩
    have lasts : seed = last := List.head_eq_of_cons_eq (List.append_inj' split rfl).2
    rw [← lasts, ported] at lastPort
    cases lastPort
    exact differs
  · intro differs
    exact ⟨front, seed, port, rfl, several, portless, ported, differs⟩

theorem not_losesPort_middle {front back : List Seed} {seed next : Seed} {port : Nat}
    (ported : seed.port = some port) : ¬ LosesPort (front ++ seed :: next :: back) := by
  rintro ⟨earlier, last, _, split, _, none, _, _⟩
  have early : seed ∈ earlier := by
    have drops := congrArg List.dropLast split
    rw [List.dropLast_concat] at drops
    rw [← drops, List.dropLast_append_of_ne_nil (List.cons_ne_nil _ _), List.dropLast_cons_cons]
    exact List.mem_append_right _ List.mem_cons_self
  rw [none seed early] at ported
  cases ported

/-- The seeds come out as they were written exactly when no port is lost. -/
theorem gossip_seeds_iff {crate : UrlCrate} (documented : crate.Documented) {seeds : List Seed}
    (present : seeds ≠ []) (plain : ∀ seed ∈ seeds, seed.Plain) {query : Option String}
    (accepted : Accepted crate query) :
    (ClientSettings.fromStr crate (connectionString seeds query)).map ClientSettings.hosts =
        .ok (seeds.map Seed.endpoint) ↔ ¬ LosesPort seeds := by
  rcases ports_cases seeds with portless | ⟨front, seed, port, back, rfl, portless, ported⟩
  · exact iff_of_true (fromStr_portless documented accepted present plain portless)
      (not_losesPort_portless portless)
  · cases back with
    | nil =>
        by_cases several : front = []
        · subst several
          exact iff_of_true (fromStr_single documented accepted (plain seed List.mem_cons_self) ported)
            (not_losesPort_single seed)
        · have hosts := fromStr_last documented accepted several plain portless ported
          rw [hosts, losesPort_last_iff several portless ported, not_not, List.map_append,
            List.map_singleton, Except.ok.injEq, List.append_cancel_left_eq, List.cons.injEq,
            Seed.endpoint, ported]
          constructor
          · intro same
            exact (congrArg Endpoint.port same.1).symm
          · rintro rfl
            exact ⟨rfl, rfl⟩
    | cons next back =>
        exact iff_of_true (fromStr_middle documented accepted plain portless ported)
          (not_losesPort_middle ported)

def portedLast : List Seed := [⟨"node1", none⟩, ⟨"node2", some 2114⟩]

theorem portedLast_plain : ∀ seed ∈ portedLast, seed.Plain := by
  intro seed listed
  rcases List.mem_cons.mp listed with rfl | last
  · refine ⟨by decide, List.all_eq_true.mp (by decide), ?_⟩
    intro port impossible
    cases impossible
  · rw [List.mem_singleton.mp last]
    refine ⟨by decide, List.all_eq_true.mp (by decide), ?_⟩
    intro port same
    cases same
    decide

theorem gossip_seeds_of_two_nodes :
    (ClientSettings.fromStr UrlCrate.simple (connectionString portedLast none)).map
        ClientSettings.hosts = .ok (portedLast.map Seed.endpoint) ↔ ¬ LosesPort portedLast :=
  gossip_seeds_iff simple_documented (List.cons_ne_nil _ _) portedLast_plain fun text impossible => by
    cases impossible

theorem gossip_seed_port_lost :
    connectionString portedLast none = "esdb://node1,node2:2114" ∧
      (ClientSettings.fromStr UrlCrate.simple "esdb://node1,node2:2114").map ClientSettings.hosts =
        .ok [⟨"node1", 2113⟩, ⟨"node2", 2113⟩] ∧
      (ClientSettings.fromStr UrlCrate.simple "esdb://node1,node2:2114").map ClientSettings.hosts ≠
        .ok (portedLast.map Seed.endpoint) := by
  have written : connectionString portedLast none = "esdb://node1,node2:2114" := by decide
  have accepted : Accepted UrlCrate.simple none := fun text impossible => by cases impossible
  have hosts : (ClientSettings.fromStr UrlCrate.simple "esdb://node1,node2:2114").map
      ClientSettings.hosts = .ok [⟨"node1", 2113⟩, ⟨"node2", 2113⟩] := by
    have portless : ∀ other ∈ [(⟨"node1", none⟩ : Seed)], other.port = none := by
      intro other listed
      rw [List.mem_singleton.mp listed]
    have every : ∀ other ∈ [(⟨"node1", none⟩ : Seed)] ++ [⟨"node2", some 2114⟩], other.Plain :=
      portedLast_plain
    have lost := fromStr_last simple_documented accepted (List.cons_ne_nil _ _) every portless rfl
    rw [← written]
    exact lost
  refine ⟨written, hosts, ?_⟩
  rw [hosts]
  intro same
  have ends := congrArg (fun hosts => hosts.toOption.map List.getLast?) same
  exact absurd ends (by decide)

end TrogonEventStore

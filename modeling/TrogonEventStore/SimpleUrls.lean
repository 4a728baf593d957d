import Mathlib.Data.Bool.AllAny
import Mathlib.Data.List.DropRight
import Mathlib.Data.List.Forall2
import Mathlib.Data.List.TakeWhile
import TrogonEventStore.ConnectionParams

/-! The parts of a connection string, and a small url crate that reads them: scheme, user info, host
and port, path and query. Nothing is encoded or decoded in it. -/

namespace TrogonEventStore

open Replacement

def nameChar (char : Char) : Bool :=
  char.isAlphanum || char == '-' || char == '.' || char == '_'

def authorityChar (char : Char) : Bool := nameChar char || char == ',' || char == ':'

def esdbScheme : List Char := "esdb://".toList

structure UrlTail where
  segments : List String
  query : Option String

def UrlTail.path (tail : UrlTail) : List Char :=
  tail.segments.flatMap fun segment => '/' :: segment.toList

def queryText : Option String → List Char
  | none => []
  | some query => '?' :: query.toList

def UrlTail.text (tail : UrlTail) : List Char := tail.path ++ queryText tail.query

/-- Segments that are kept as they are: plain characters, and no dot segment. -/
def UrlTail.Plain (tail : UrlTail) : Prop :=
  ∀ segment ∈ tail.segments, segment ≠ "." ∧ segment ≠ ".." ∧
    ∀ char ∈ segment.toList, authorityChar char

structure Authority (authority : List Char) : Prop where
  hosted : ∃ first rest, authority = first :: rest ∧ first ≠ ':'
  plain : ∀ char ∈ authority, authorityChar char

/-- Host and port of an authority: the host ends at the first colon, and a port that is not all
digits, or no `u16`, is invalid. -/
def readAuthority (authority : List Char) : Except UrlParseError (String × Option Nat) :=
  let host := String.ofList (authority.takeWhile (· ≠ ':'))
  match authority.dropWhile (· ≠ ':') with
  | [] => .ok (host, none)
  | [_] => .ok (host, none)
  | _ :: digits =>
      match parseDigits (2 ^ 16) 0 digits with
      | some port => .ok (host, some port)
      | none => .error .invalidPort

def Url.esdb (tail : UrlTail) (queryPairs : List (String × String))
    (authority : String × Option Nat) : Url where
  scheme := "esdb"
  username := ""
  password := none
  hostStr := some authority.1
  port := authority.2
  path := String.ofList tail.path
  pathSegments := if tail.segments = [] then none else some tail.segments
  queryPairs := queryPairs

def UrlCrate.url (crate : UrlCrate) (tail : UrlTail) : String × Option Nat → Url :=
  Url.esdb tail (crate.queryPairs tail.query)

/-- What is relied on of the url crate for this scheme: the authority ends at the first slash,
question mark or hash and is read as above, and a comma is as ordinary a character of a query as a
slash. -/
structure UrlCrate.Documented (crate : UrlCrate) : Prop where
  parses : ∀ authority tail, Authority authority → tail.Plain →
    crate.parse (String.ofList (esdbScheme ++ authority ++ tail.text)) =
      (readAuthority authority).map (crate.url tail)
  noQuery : crate.queryPairs none = []
  commas : ∀ query, List.Forall₂
    (fun pair other => Slashed pair.1 other.1 ∧ Slashed pair.2 other.2)
    (crate.queryPairs (some query)) (crate.queryPairs (some (commasToSlashes query)))

def authorityEnd (char : Char) : Bool := char == '/' || char == '?' || char == '#'

/-- The query of a URL: what is left of its text without the blanks at its end, the line breaks and
tabs in it, and the fragment. -/
def queryPart (query : List Char) : List Char :=
  ((query.rdropWhile fun char => char.toNat ≤ 32).filter fun char =>
    !(['\t', '\n', '\r'].contains char)).takeWhile (· ≠ '#')

def rawPair (piece : List Char) : List Char × List Char :=
  (piece.takeWhile (· ≠ '='), (piece.dropWhile (· ≠ '=')).drop 1)

/-- `form_urlencoded::parse` before names and values are decoded. -/
def rawPairs (query : List Char) : List (List Char × List Char) :=
  (((queryPart query).splitOn '&').filter fun piece => piece ≠ []).map rawPair

namespace SimpleUrl

def readPlace (authority : List Char) : Except UrlParseError (Option String × Option Nat) :=
  match authority with
  | [] => .ok (none, none)
  | ':' :: _ => .error .emptyHost
  | authority => (readAuthority authority).map fun place => (some place.1, place.2)

/-- Username and password of user info; an empty password is none. -/
def readUser (user : List Char) : String × Option String :=
  (String.ofList (user.takeWhile (· ≠ ':')),
    match user.dropWhile (· ≠ ':') with
    | _ :: first :: rest => some (String.ofList (first :: rest))
    | _ => none)

def splitUser (authority : List Char) : Option (List Char) × List Char :=
  match authority.dropWhile (· ≠ '@') with
  | [] => (none, authority)
  | _ :: place => (some (authority.takeWhile (· ≠ '@')), place)

def queryPairs : Option String → List (String × String)
  | none => []
  | some query => (rawPairs query.toList).map fun pair =>
      (String.ofList pair.1, String.ofList pair.2)

def pathEnd (char : Char) : Bool := char == '?' || char == '#'

def readQuery : List Char → Option String
  | '?' :: query => some (String.ofList query)
  | _ => none

def readSegments : List Char → Option (List String)
  | [] => none
  | _ :: path => some ((path.splitOn '/').map String.ofList)

def build (scheme path tail : List Char) (user : Option (List Char))
    (place : Option String × Option Nat) : Url where
  scheme := String.ofList (scheme.map Char.toLower)
  username := ((user.map readUser).map Prod.fst).getD ""
  password := (user.map readUser).bind Prod.snd
  hostStr := place.1
  port := place.2
  path := String.ofList path
  pathSegments := readSegments path
  queryPairs := queryPairs (readQuery tail)

def readUrl (chars : List Char) : Except UrlParseError Url :=
  let scheme := chars.takeWhile (· ≠ ':')
  let behind := chars.dropWhile (· ≠ ':')
  if "://".toList.isPrefixOf behind then
    let authority := (behind.drop 3).takeWhile fun char => !authorityEnd char
    let rest := (behind.drop 3).dropWhile fun char => !authorityEnd char
    let path := rest.takeWhile fun char => !pathEnd char
    let tail := rest.dropWhile fun char => !pathEnd char
    (readPlace (splitUser authority).2).map (build scheme path tail (splitUser authority).1)
  else .error .relativeUrlWithoutBase

end SimpleUrl

open SimpleUrl

def UrlCrate.simple : UrlCrate where
  parse := fun text => readUrl text.toList
  queryPairs := SimpleUrl.queryPairs

theorem simple_parse (text : String) : UrlCrate.simple.parse text = readUrl text.toList := rfl

theorem simple_queryPairs (query : String) :
    UrlCrate.simple.queryPairs (some query) = (rawPairs query.toList).map fun pair =>
      (String.ofList pair.1, String.ofList pair.2) := rfl

structure IsPath (path : List Char) : Prop where
  starts : path = [] ∨ ∃ rest, path = '/' :: rest
  inside : ∀ char ∈ path, char ≠ '?' ∧ char ≠ '#'

theorem IsPath.empty : IsPath "".toList :=
  ⟨Or.inl rfl, List.all_iff_forall_prop.mp (by decide)⟩

theorem IsPath.slash : IsPath "/".toList :=
  ⟨Or.inr ⟨[], rfl⟩, List.all_iff_forall_prop.mp (by decide)⟩

def IsTail (tail : List Char) : Prop :=
  tail = [] ∨ ∃ rest, tail = '?' :: rest ∨ tail = '#' :: rest

theorem takeWhile_stop {Element : Type} (p : Element → Bool) (front back : List Element)
    (inside : ∀ element ∈ front, p element = true)
    (stops : ∀ first rest, back = first :: rest → p first = false) :
    (front ++ back).takeWhile p = front ∧ (front ++ back).dropWhile p = back := by
  rw [List.takeWhile_append_of_pos inside, List.dropWhile_append_of_pos inside]
  cases back with
  | nil => exact ⟨List.append_nil front, rfl⟩
  | cons first rest =>
      have stop : ¬ p first = true := by
        rw [stops first rest rfl]
        exact Bool.false_ne_true
      rw [List.takeWhile_cons_of_neg stop, List.dropWhile_cons_of_neg stop]
      exact ⟨List.append_nil front, rfl⟩

theorem IsTail.stops {tail : List Char} (valid : IsTail tail) :
    ∀ first rest, tail = first :: rest → first = '?' ∨ first = '#' := by
  intro first rest split
  rcases valid with rfl | ⟨others, rfl | rfl⟩
  · cases split
  · cases split
    exact Or.inl rfl
  · cases split
    exact Or.inr rfl

theorem readUrl_parts {scheme authority path tail : List Char} (named : ':' ∉ scheme)
    (inside : ∀ char ∈ authority, authorityEnd char = false) (pathValid : IsPath path)
    (tailValid : IsTail tail) :
    readUrl (scheme ++ (':' :: '/' :: '/' :: (authority ++ (path ++ tail)))) =
      (readPlace (splitUser authority).2).map
        (build scheme path tail (splitUser authority).1) := by
  have schemeParts := takeWhile_stop (fun char => decide (char ≠ ':')) scheme
    (':' :: '/' :: '/' :: (authority ++ (path ++ tail)))
    (fun char present => decide_eq_true fun same => named (same ▸ present))
    (fun first rest split => by cases split; rfl)
  have authorityParts := takeWhile_stop (fun char => !authorityEnd char) authority (path ++ tail)
    (fun char present => by rw [inside char present]; rfl)
    (fun first rest split => by
      rcases pathValid.starts with rfl | ⟨others, rfl⟩
      · rcases tailValid.stops first rest split with rfl | rfl <;> rfl
      · cases split
        rfl)
  have pathParts := takeWhile_stop (fun char => !pathEnd char) path tail
    (fun char present => by
      have both := pathValid.inside char present
      simp [pathEnd, both.1, both.2])
    (fun first rest split => by
      rcases tailValid.stops first rest split with rfl | rfl <;> rfl)
  have starts : "://".toList.isPrefixOf (':' :: '/' :: '/' :: (authority ++ (path ++ tail))) =
      true := List.isPrefixOf_iff_prefix.mpr ⟨authority ++ (path ++ tail), rfl⟩
  have behind : (':' :: '/' :: '/' :: (authority ++ (path ++ tail))).drop 3 =
      authority ++ (path ++ tail) := rfl
  unfold readUrl
  dsimp only
  rw [schemeParts.1, schemeParts.2, if_pos starts, behind, authorityParts.1, authorityParts.2,
    pathParts.1, pathParts.2]

theorem dropWhile_stop {Element : Type} {p : Element → Bool} {elements rest : List Element}
    {first : Element} (behind : elements.dropWhile p = first :: rest) : p first = false := by
  have stop := List.head?_dropWhile_not p elements
  rw [behind] at stop
  exact stop

theorem pathEnd_iff (char : Char) : pathEnd char = true ↔ char = '?' ∨ char = '#' := by
  simp [pathEnd]

theorem authorityEnd_iff (char : Char) :
    authorityEnd char = true ↔ char = '/' ∨ pathEnd char = true := by
  simp [authorityEnd, pathEnd, or_assoc]

theorem rest_parts (rest : List Char) :
    ∃ path tail, rest = (rest.takeWhile fun char => !authorityEnd char) ++ (path ++ tail) ∧
      IsPath path ∧ IsTail tail := by
  refine ⟨(rest.dropWhile fun char => !authorityEnd char).takeWhile fun char => !pathEnd char,
    (rest.dropWhile fun char => !authorityEnd char).dropWhile fun char => !pathEnd char, ?_, ?_, ?_⟩
  · rw [List.takeWhile_append_dropWhile, List.takeWhile_append_dropWhile]
  · constructor
    · cases behind : rest.dropWhile fun char => !authorityEnd char with
      | nil => exact Or.inl rfl
      | cons char others =>
          have ends : authorityEnd char = true := by simpa using dropWhile_stop behind
          rcases (authorityEnd_iff char).mp ends with rfl | stops
          · exact Or.inr ⟨others.takeWhile fun char => !pathEnd char, rfl⟩
          · exact Or.inl (List.takeWhile_cons_of_neg (by simp [stops]))
    · intro char present
      have inside := List.mem_takeWhile_imp present
      simp only [pathEnd, Bool.not_eq_true', Bool.or_eq_false_iff, beq_eq_false_iff_ne] at inside
      exact inside
  · cases behind : (rest.dropWhile fun char => !authorityEnd char).dropWhile
        fun char => !pathEnd char with
    | nil => exact Or.inl rfl
    | cons char others =>
        have ends : pathEnd char = true := by simpa using dropWhile_stop behind
        rcases (pathEnd_iff char).mp ends with rfl | rfl
        · exact Or.inr ⟨others, Or.inl rfl⟩
        · exact Or.inr ⟨others, Or.inr rfl⟩

theorem readAuthority_host {authority : List Char} (plain : ':' ∉ authority) :
    readAuthority authority = .ok (String.ofList authority, none) := by
  have every : ∀ char ∈ authority, decide (char ≠ ':') = true := by
    intro char present
    refine decide_eq_true ?_
    rintro rfl
    exact plain present
  have none : authority.dropWhile (· ≠ ':') = [] := List.dropWhile_eq_nil_iff.mpr every
  have all : authority.takeWhile (· ≠ ':') = authority := List.takeWhile_eq_self_iff.mpr every
  simp only [readAuthority, none, all]

theorem readAuthority_port {host : List Char} (plain : ':' ∉ host) {digits : List Char}
    (present : digits ≠ []) :
    readAuthority (host ++ ':' :: digits) =
      match parseDigits (2 ^ 16) 0 digits with
      | some port => .ok (String.ofList host, some port)
      | none => .error .invalidPort := by
  have every : ∀ char ∈ host, decide (char ≠ ':') = true := by
    intro char present
    refine decide_eq_true ?_
    rintro rfl
    exact plain present
  have taken : (host ++ ':' :: digits).takeWhile (· ≠ ':') = host := by
    rw [List.takeWhile_append_of_pos every, List.takeWhile_cons_of_neg (by decide),
      List.append_nil]
  have dropped : (host ++ ':' :: digits).dropWhile (· ≠ ':') = ':' :: digits := by
    rw [List.dropWhile_append_of_pos every, List.dropWhile_cons_of_neg (by decide)]
  unfold readAuthority
  rw [taken, dropped]
  cases digits with
  | nil => exact absurd rfl present
  | cons first others => rfl

theorem nameChar_plain {char : Char} (plain : nameChar char) :
    char ≠ ',' ∧ char ≠ ':' ∧ char ≠ '/' := by
  refine ⟨?_, ?_, ?_⟩ <;> rintro rfl <;> exact absurd plain (by decide)

theorem digit_nameChar {char : Char} (digit : char.isDigit) : nameChar char := by
  simp only [nameChar, Char.isAlphanum, digit, Bool.or_true, Bool.true_or]

theorem authorityChar_inside {char : Char} (plain : authorityChar char) :
    authorityEnd char = false ∧ char ≠ '?' := by
  have different : ∀ other, authorityChar other = false → char ≠ other := by
    rintro other odd rfl
    rw [plain] at odd
    cases odd
  have slash := different '/' (by decide)
  have mark := different '?' (by decide)
  have hash := different '#' (by decide)
  refine ⟨?_, mark⟩
  simp only [authorityEnd, beq_eq_false_iff_ne.mpr slash, beq_eq_false_iff_ne.mpr mark,
    beq_eq_false_iff_ne.mpr hash, Bool.or_self]

theorem intercalate_cons (separator : Char) (first : List Char) (rest : List (List Char)) :
    [separator].intercalate (first :: rest) =
      first ++ rest.flatMap fun text => separator :: text := by
  induction rest generalizing first with
  | nil => simp
  | cons next rest ih =>
      rw [List.intercalate_cons_cons, ih next]
      simp

theorem path_segments (segments : List String) (plain : ∀ segment ∈ segments, '/' ∉ segment.toList) :
    (match UrlTail.path ⟨segments, none⟩ with
      | [] => []
      | _ :: path => (path.splitOn '/').map String.ofList) = segments := by
  cases segments with
  | nil => rfl
  | cons first rest =>
      have joins : UrlTail.path ⟨first :: rest, none⟩ =
          '/' :: ['/'].intercalate ((first :: rest).map String.toList) := by
        rw [List.map_cons, intercalate_cons, List.flatMap_map]
        rfl
      have separate : ∀ text ∈ (first :: rest).map String.toList, '/' ∉ text := by
        intro text listed
        obtain ⟨segment, known, rfl⟩ := List.mem_map.mp listed
        exact plain segment known
      rw [joins]
      dsimp only
      rw [List.splitOn_intercalate '/' separate (List.cons_ne_nil _ _), List.map_map]
      simp

theorem queryPart_slashed (query : List Char) :
    queryPart (replaced ',' '/' query) = replaced ',' '/' (queryPart query) := by
  unfold queryPart
  rw [rdropWhile_replaced (by decide), filter_replaced (by decide), takeWhile_replaced (by decide)]

theorem rawPair_slashed (piece : List Char) :
    rawPair (replaced ',' '/' piece) =
      (replaced ',' '/' (rawPair piece).1, replaced ',' '/' (rawPair piece).2) := by
  unfold rawPair
  rw [takeWhile_replaced (by decide), dropWhile_replaced (by decide), replaced, replaced, replaced,
    List.map_drop]

theorem rawPairs_slashed (query : List Char) :
    rawPairs (replaced ',' '/' query) =
      (rawPairs query).map fun pair => (replaced ',' '/' pair.1, replaced ',' '/' pair.2) := by
  have pieces : (queryPart (replaced ',' '/' query)).splitOn '&' =
      ((queryPart query).splitOn '&').map (replaced ',' '/') := by
    rw [queryPart_slashed]
    exact splitOn_replaced (by decide) (by decide) (queryPart query)
  have nonempty : (fun piece : List Char => decide (piece ≠ [])) ∘ replaced ',' '/' =
      fun piece => decide (piece ≠ []) := by
    funext piece
    cases piece with
    | nil => rfl
    | cons char piece => rfl
  let parts := ((queryPart query).splitOn '&').filter fun piece => piece ≠ []
  calc
    rawPairs (replaced ',' '/' query)
        = (parts.map (replaced ',' '/')).map rawPair := by
          rw [rawPairs, pieces, List.filter_map, nonempty]
    _ = parts.map fun piece => rawPair (replaced ',' '/' piece) := List.map_map
    _ = parts.map fun piece =>
          (replaced ',' '/' (rawPair piece).1, replaced ',' '/' (rawPair piece).2) :=
          List.map_congr_left fun piece _ => rawPair_slashed piece
    _ = (rawPairs query).map fun pair => (replaced ',' '/' pair.1, replaced ',' '/' pair.2) := by
          rw [rawPairs, List.map_map]
          rfl

theorem authority_inside {authority : List Char} (valid : Authority authority) :
    ∀ char ∈ authority, authorityEnd char = false ∧ char ≠ '@' := by
  intro char present
  refine ⟨(authorityChar_inside (valid.plain char present)).1, ?_⟩
  rintro rfl
  exact absurd (valid.plain '@' present) (by decide)

theorem readPlace_authority {authority : List Char} (valid : Authority authority) :
    readPlace authority = (readAuthority authority).map fun place => (some place.1, place.2) := by
  obtain ⟨first, rest, rfl, differs⟩ := valid.hosted
  unfold readPlace
  split
  · next impossible => cases impossible
  · next impossible => exact absurd (List.head_eq_of_cons_eq impossible) differs
  · rfl

theorem splitUser_none {authority : List Char} (bare : '@' ∉ authority) :
    splitUser authority = (none, authority) := by
  have every : ∀ char ∈ authority, decide (char ≠ '@') = true := fun char present =>
    decide_eq_true fun same => bare (same ▸ present)
  have none : authority.dropWhile (· ≠ '@') = [] := List.dropWhile_eq_nil_iff.mpr every
  simp only [splitUser, none]

theorem splitUser_some {user : List Char} (bare : '@' ∉ user) (authority : List Char) :
    splitUser (user ++ '@' :: authority) = (some user, authority) := by
  have parts := takeWhile_stop (fun char => decide (char ≠ '@')) user ('@' :: authority)
    (fun char present => decide_eq_true fun same => bare (same ▸ present))
    (fun first rest split => by cases split; rfl)
  unfold splitUser
  rw [parts.1, parts.2]

theorem path_isPath {tail : UrlTail} (plain : tail.Plain) : IsPath tail.path := by
  constructor
  · unfold UrlTail.path
    cases tail.segments with
    | nil => exact Or.inl rfl
    | cons segment segments => exact Or.inr ⟨_, rfl⟩
  · intro char present
    obtain ⟨segment, listed, inside⟩ := List.mem_flatMap.mp present
    rcases List.mem_cons.mp inside with rfl | inside
    · decide
    · have char_inside := authorityChar_inside ((plain segment listed).2.2 char inside)
      refine ⟨char_inside.2, ?_⟩
      rintro rfl
      exact absurd char_inside.1 (by decide)

theorem queryText_isTail (query : Option String) : IsTail (queryText query) := by
  cases query with
  | none => exact Or.inl rfl
  | some text => exact Or.inr ⟨text.toList, Or.inl rfl⟩

theorem readSegments_path {tail : UrlTail} (plain : tail.Plain) :
    readSegments tail.path = if tail.segments = [] then none else some tail.segments := by
  obtain ⟨segments, query⟩ := tail
  have separate : ∀ segment ∈ segments, '/' ∉ segment.toList := by
    intro segment listed present
    exact absurd ((plain segment listed).2.2 '/' present) (by decide)
  have parts := path_segments segments separate
  cases segments with
  | nil => rfl
  | cons first rest =>
      rw [if_neg (List.cons_ne_nil _ _)]
      exact congrArg some parts

theorem readQuery_text (query : Option String) : readQuery (queryText query) = query := by
  cases query with
  | none => rfl
  | some text => exact congrArg some String.ofList_toList

theorem build_esdb {tail : UrlTail} (plain : tail.Plain) (place : String × Option Nat) :
    build "esdb".toList tail.path (queryText tail.query) none (some place.1, place.2) =
      UrlCrate.simple.url tail place := by
  have scheme : String.ofList ("esdb".toList.map Char.toLower) = "esdb" := by decide
  unfold build
  rw [scheme, readSegments_path plain, readQuery_text]
  rfl

theorem slashed_replaced (chars : List Char) :
    Slashed (String.ofList chars) (String.ofList (replaced ',' '/' chars)) := by
  rw [Slashed, String.toList_ofList, String.toList_ofList, replaced, List.forall₂_map_right_iff,
    List.forall₂_same]
  intro char _
  by_cases comma : char = ','
  · exact Or.inr ⟨comma, comma ▸ swap_old⟩
  · exact Or.inl (swap_ne comma)

theorem simple_documented : UrlCrate.simple.Documented where
  parses := by
    intro authority tail valid plain
    have text : (String.ofList (esdbScheme ++ authority ++ tail.text)).toList =
        "esdb".toList ++ (':' :: '/' :: '/' ::
          (authority ++ (tail.path ++ queryText tail.query))) := by
      rw [String.toList_ofList, UrlTail.text, List.append_assoc]
      rfl
    have inside : ∀ char ∈ authority, authorityEnd char = false := fun char present =>
      (authority_inside valid char present).1
    have bare : '@' ∉ authority := fun present => (authority_inside valid '@' present).2 rfl
    rw [simple_parse, text,
      readUrl_parts (by decide) inside (path_isPath plain) (queryText_isTail tail.query),
      splitUser_none bare, readPlace_authority valid]
    cases readAuthority authority with
    | error error => rfl
    | ok place => exact congrArg Except.ok (build_esdb plain place)
  noQuery := rfl
  commas := by
    intro query
    rw [simple_queryPairs, simple_queryPairs, commasToSlashes_toList, rawPairs_slashed,
      List.map_map, List.forall₂_map_left_iff, List.forall₂_map_right_iff, List.forall₂_same]
    exact fun pair _ => ⟨slashed_replaced pair.1, slashed_replaced pair.2⟩

end TrogonEventStore

import TrogonEventStore.Library.JsonTree
import TrogonEventStore.TraceInjection
import Mathlib.Data.Rat.Defs
import Mathlib.Tactic.NormNum

namespace TrogonEventStore

open SortedEntries

inductive NumberLiteral where
  | integer (negative : Bool) (magnitude : Nat)
  | decimal (negative : Bool) (digits : Nat) (exponent : Int)

namespace NumberLiteral

def signed (negative : Bool) (magnitude : ℚ) : ℚ := if negative then -magnitude else magnitude

def value : NumberLiteral → ℚ
  | .integer negative magnitude => signed negative magnitude
  | .decimal negative digits exponent => signed negative (digits * 10 ^ exponent)

/-- The integers that serde_json keeps as such: `u64`, and `i64` below zero. -/
def toInt : NumberLiteral → Option Int
  | .integer false magnitude => if magnitude < u64Bound then some magnitude else none
  | .integer true magnitude =>
      if 0 < magnitude ∧ magnitude ≤ 2 ^ 63 then some (-magnitude) else none
  | .decimal _ _ _ => none

end NumberLiteral

abbrev Document := JsonTree NumberLiteral

/-- The floats of serde_json: the `f64` that a number is read as, unless it is out of range, and the
number that an `f64` is printed as. -/
structure FloatText where
  read : NumberLiteral → Option UInt64
  printed : UInt64 → ℚ

def FloatText.readNumber (floats : FloatText) (literal : NumberLiteral) : Option Json :=
  match literal.toInt with
  | some value => some (.number value)
  | none => (floats.read literal).map .float

mutual

def Document.read (floats : FloatText) : Document → Option Json
  | .null => some .null
  | .bool value => some (.bool value)
  | .number literal => floats.readNumber literal
  | .string text => some (.string text)
  | .array items => (readItems floats items).map .array
  | .object entries => (readEntries floats entries).map fun values => .object (ofList values)

def Document.readItems (floats : FloatText) : List Document → Option (List Json)
  | [] => some []
  | item :: items => do
      let value ← Document.read floats item
      let values ← readItems floats items
      some (value :: values)

def Document.readEntries (floats : FloatText) :
    List (String × Document) → Option (List (String × Json))
  | [] => some []
  | entry :: entries => do
      let value ← Document.read floats entry.2
      let values ← readEntries floats entries
      some ((entry.1, value) :: values)

end

mutual

/-- What the text says that is written for a value; a map has its keys in order already. -/
def Json.denote (floats : FloatText) : Json → JsonTree ℚ
  | .null => .null
  | .bool value => .bool value
  | .number value => .number value
  | .float bits => .number (floats.printed bits)
  | .string text => .string text
  | .array items => .array (denoteItems floats items)
  | .object entries => .object (denoteEntries floats entries)

def Json.denoteItems (floats : FloatText) : List Json → List (JsonTree ℚ)
  | [] => []
  | item :: items => Json.denote floats item :: denoteItems floats items

def Json.denoteEntries (floats : FloatText) : List (String × Json) → List (String × JsonTree ℚ)
  | [] => []
  | entry :: entries => (entry.1, Json.denote floats entry.2) :: denoteEntries floats entries

end

/-- The number is a 64-bit integer, or the one that is printed for the `f64` it is read as. -/
def FloatText.Keeps (floats : FloatText) (literal : NumberLiteral) : Prop :=
  literal.toInt ≠ none ∨ ∃ bits, floats.read literal = some bits ∧ floats.printed bits = literal.value

def KeepsMembers (parse : Bytes → Option Document) (members : List (String × Document))
    (metadata : Option Bytes) : Prop :=
  ∃ after, (metadata.bind parse).map (JsonTree.denote NumberLiteral.value) = some (.object after) ∧
    ∀ key, isPersistedTraceField key = false →
      after.lookup key = (members.lookup key).map (JsonTree.denote NumberLiteral.value)

/-- The texts at hand, `parse` reading them by the grammar: the crate, where it reads the text of
the document at all, reads its numbers as `floats` has it, and the text that it writes for the
object with the trace says what the object holds. -/
structure SerdeJson.Agrees (json : SerdeJson) (floats : FloatText)
    (parse : Bytes → Option Document) (context : TraceContext) (bytes : Bytes)
    (document : Document) : Prop where
  present : bytes ≠ []
  parsed : parse bytes = some document
  reads : ∀ value, json.fromSlice bytes = some value → document.read floats = some value
  writes : ∀ before, json.fromSlice bytes = some (.object before) →
    (parse (json.toVec (.object (JsonMap.carryFields before context.fields)))).map
        (JsonTree.denote NumberLiteral.value) =
      some (Json.denote floats (.object (JsonMap.carryFields before context.fields)))

theorem toInt_value {literal : NumberLiteral} {value : Int} (exact : literal.toInt = some value) :
    (value : ℚ) = literal.value := by
  unfold NumberLiteral.toInt at exact
  split at exact
  · split at exact
    · cases exact
      simp [NumberLiteral.value, NumberLiteral.signed]
    · cases exact
  · split at exact
    · cases exact
      simp [NumberLiteral.value, NumberLiteral.signed]
    · cases exact
  · cases exact

theorem number_denote_iff {floats : FloatText} {literal : NumberLiteral} {value : Json}
    (read : floats.readNumber literal = some value) :
    value.denote floats = .number literal.value ↔ floats.Keeps literal := by
  unfold FloatText.readNumber at read
  cases exact : literal.toInt with
  | some number =>
      rw [exact] at read
      cases read
      rw [Json.denote, toInt_value exact]
      exact iff_of_true rfl (Or.inl (exact ▸ Option.some_ne_none number))
  | none =>
      rw [exact] at read
      obtain ⟨bits, given, rfl⟩ := Option.map_eq_some_iff.mp read
      rw [Json.denote, JsonTree.number.injEq]
      constructor
      · intro same
        exact Or.inr ⟨bits, given, same⟩
      · rintro (impossible | ⟨other, again, same⟩)
        · exact absurd exact impossible
        · rw [given] at again
          cases again
          exact same

theorem Json.denoteEntries_eq (floats : FloatText) (entries : List (String × Json)) :
    Json.denoteEntries floats entries =
      entries.map fun entry => (entry.1, entry.2.denote floats) := by
  induction entries with
  | nil => rfl
  | cons entry entries ih => rw [Json.denoteEntries, ih, List.map_cons]

theorem keys_readEntries {floats : FloatText} {entries : List (String × Document)}
    {values : List (String × Json)} (read : Document.readEntries floats entries = some values) :
    values.map Prod.fst = entries.map Prod.fst := by
  induction entries generalizing values with
  | nil =>
      cases read
      rfl
  | cons entry entries ih =>
      obtain ⟨value, _, others, later, rfl⟩ := by
        simpa [Document.readEntries, Option.bind_eq_some_iff] using read
      rw [List.map_cons, List.map_cons, ih later]

mutual

/-- A document is written as it was read just if every number in it is kept. -/
theorem denote_read_iff {floats : FloatText} : ∀ {document : Document} {value : Json},
    document.Distinct → Document.read floats document = some value →
      (value.denote floats = document.denote NumberLiteral.value ↔
        document.AllNumbers floats.Keeps)
  | .null, value, _, read => by
      cases read
      exact iff_of_true rfl trivial
  | .bool flag, value, _, read => by
      cases read
      exact iff_of_true rfl trivial
  | .number literal, value, _, read => number_denote_iff read
  | .string text, value, _, read => by
      cases read
      exact iff_of_true rfl trivial
  | .array items, value, distinct, read => by
      obtain ⟨values, given, rfl⟩ := Option.map_eq_some_iff.mp read
      rw [Json.denote, JsonTree.denote, JsonTree.array.injEq]
      exact denote_readItems_iff distinct given
  | .object entries, value, distinct, read => by
      obtain ⟨values, given, rfl⟩ := Option.map_eq_some_iff.mp read
      obtain ⟨keys, members⟩ := distinct
      rw [Json.denote, JsonTree.denote, JsonTree.object.injEq, Json.denoteEntries_eq, map_ofList,
        ← Json.denoteEntries_eq]
      have named : (Json.denoteEntries floats values).map Prod.fst =
          (JsonTree.denoteEntries NumberLiteral.value entries).map Prod.fst := by
        rw [Json.denoteEntries_eq, List.map_map, JsonTree.keys_denoteEntries]
        exact keys_readEntries given
      have nodup : ((Json.denoteEntries floats values).map Prod.fst).Nodup := by
        rw [named, JsonTree.keys_denoteEntries]
        exact keys
      exact (Iff.intro (ofList_inj named nodup) (congrArg ofList)).trans
        (denote_readEntries_iff members given)

theorem denote_readItems_iff {floats : FloatText} : ∀ {items : List Document} {values : List Json},
    JsonTree.DistinctItems items → Document.readItems floats items = some values →
      (Json.denoteItems floats values = JsonTree.denoteItems NumberLiteral.value items ↔
        JsonTree.AllItems floats.Keeps items)
  | [], values, _, read => by
      cases read
      exact iff_of_true rfl trivial
  | item :: items, values, distinct, read => by
      obtain ⟨value, given, others, later, rfl⟩ := by
        simpa [Document.readItems, Option.bind_eq_some_iff] using read
      rw [Json.denoteItems, JsonTree.denoteItems, List.cons.injEq,
        denote_read_iff distinct.1 given, denote_readItems_iff distinct.2 later]
      rfl

theorem denote_readEntries_iff {floats : FloatText} :
    ∀ {entries : List (String × Document)} {values : List (String × Json)},
      JsonTree.DistinctEntries entries → Document.readEntries floats entries = some values →
      (Json.denoteEntries floats values = JsonTree.denoteEntries NumberLiteral.value entries ↔
        JsonTree.AllEntries floats.Keeps entries)
  | [], values, _, read => by
      cases read
      exact iff_of_true rfl trivial
  | entry :: entries, values, distinct, read => by
      obtain ⟨value, given, others, later, rfl⟩ := by
        simpa [Document.readEntries, Option.bind_eq_some_iff] using read
      rw [Json.denoteEntries, JsonTree.denoteEntries, List.cons.injEq, Prod.mk.injEq,
        denote_read_iff distinct.1 given, denote_readEntries_iff distinct.2 later]
      exact and_congr_left fun _ => and_iff_right rfl

end

theorem lookup_readEntries {floats : FloatText} {entries : List (String × Document)}
    {values : List (String × Json)} (read : Document.readEntries floats entries = some values)
    (key : String) : (entries.lookup key).bind (Document.read floats) = values.lookup key := by
  induction entries generalizing values with
  | nil =>
      cases read
      rfl
  | cons entry entries ih =>
      obtain ⟨value, given, others, later, rfl⟩ := by
        simpa [Document.readEntries, Option.bind_eq_some_iff] using read
      rw [SortedEntries.lookup_cons, SortedEntries.lookup_cons]
      split
      · exact given
      · exact ih later

theorem read_member {floats : FloatText} {entries : List (String × Document)}
    {values : List (String × Json)} (read : Document.readEntries floats entries = some values)
    {member : String × Document} (given : member ∈ entries) :
    ∃ value, Document.read floats member.2 = some value := by
  induction entries generalizing values with
  | nil => cases given
  | cons entry entries ih =>
      obtain ⟨value, first, others, later, rfl⟩ := by
        simpa [Document.readEntries, Option.bind_eq_some_iff] using read
      rcases List.mem_cons.mp given with rfl | rest
      · exact ⟨value, first⟩
      · exact ih later rest

theorem lookup_member {entries : List (String × Document)} {member : String × Document}
    (distinct : (entries.map Prod.fst).Nodup) (given : member ∈ entries) :
    entries.lookup member.1 = some member.2 := by
  induction entries with
  | nil => cases given
  | cons entry entries ih =>
      obtain ⟨fresh, rest⟩ := List.nodup_cons.mp distinct
      rw [SortedEntries.lookup_cons]
      rcases List.mem_cons.mp given with rfl | later
      · rw [if_pos rfl]
      · have away : member.1 ≠ entry.1 := by
          intro here
          exact fresh (here ▸ List.mem_map_of_mem later)
        rw [if_neg away, ih rest later]

theorem traced_members_iff {floats : FloatText} {members : List (String × Document)}
    {values : List (String × Json)} (distinct : (JsonTree.object members).Distinct)
    (read : Document.readEntries floats members = some values) (context : TraceContext) :
    (∀ key, isPersistedTraceField key = false →
      (Json.denoteEntries floats (JsonMap.carryFields (ofList values) context.fields)).lookup key =
        (members.lookup key).map (JsonTree.denote NumberLiteral.value)) ↔
      ∀ member ∈ members, isPersistedTraceField member.1 = false →
        member.2.AllNumbers floats.Keeps := by
  obtain ⟨keys, parts⟩ := distinct
  have valueKeys : (values.map Prod.fst).Nodup := (keys_readEntries read).symm ▸ keys
  have written : ∀ key, isPersistedTraceField key = false →
      (Json.denoteEntries floats (JsonMap.carryFields (ofList values) context.fields)).lookup key =
        ((members.lookup key).bind (Document.read floats)).map (Json.denote floats) := by
    intro key other
    have untouched := lookup_carryFields context (ofList values) key
    rw [traced, other, if_neg Bool.false_ne_true] at untouched
    rw [Json.denoteEntries_eq, SortedEntries.lookup_map, untouched, lookup_ofList valueKeys,
      lookup_readEntries read]
  have each : ∀ member ∈ members, isPersistedTraceField member.1 = false →
      ((Json.denoteEntries floats (JsonMap.carryFields (ofList values) context.fields)).lookup member.1 =
          (members.lookup member.1).map (JsonTree.denote NumberLiteral.value) ↔
        member.2.AllNumbers floats.Keeps) := by
    intro member given other
    have own := (JsonTree.distinctEntries_iff members).mp parts member given
    obtain ⟨value, own_read⟩ := read_member read given
    rw [written member.1 other, lookup_member keys given, Option.bind_some, own_read,
      Option.map_some, Option.map_some, Option.some.injEq]
    exact denote_read_iff own own_read
  constructor
  · intro same member given other
    exact (each member given other).mp (same member.1 other)
  · intro kept key other
    cases found : members.lookup key with
    | none => rw [written key other, found, Option.bind_none, Option.map_none, Option.map_none]
    | some document =>
        have given : (key, document) ∈ members := by
          obtain ⟨earlier, later, split, _⟩ := List.lookup_eq_some_iff.mp found
          rw [split]
          exact List.mem_append_right _ List.mem_cons_self
        rw [← found]
        exact (each (key, document) given other).mpr (kept (key, document) given other)

theorem keepsMembers_untouched {parse : Bytes → Option Document} {bytes : Bytes}
    {members : List (String × Document)} (distinct : (JsonTree.object members).Distinct)
    (parsed : parse bytes = some (.object members)) : KeepsMembers parse members (some bytes) := by
  refine ⟨ofList (JsonTree.denoteEntries NumberLiteral.value members), ?_, ?_⟩
  · rw [Option.bind_some, parsed, Option.map_some, JsonTree.denote]
  · intro key _
    have keys : ((JsonTree.denoteEntries NumberLiteral.value members).map Prod.fst).Nodup := by
      rw [JsonTree.keys_denoteEntries]
      exact distinct.1
    rw [lookup_ofList keys, JsonTree.lookup_denoteEntries]

theorem keepsMembers_traced_iff {json : SerdeJson} {floats : FloatText}
    {parse : Bytes → Option Document} {event : EventData} {context : TraceContext} {bytes : Bytes}
    {members : List (String × Document)} (custom : event.customMetadata = some bytes)
    (distinct : (JsonTree.object members).Distinct)
    (agrees : json.Agrees floats parse context bytes (.object members))
    (injects : context.Injects json event) :
    KeepsMembers parse members (injectEventContext json event context).customMetadata ↔
      ∀ member ∈ members, isPersistedTraceField member.1 = false →
        member.2.AllNumbers floats.Keeps := by
  obtain ⟨valid, emitted, carried⟩ := injects
  obtain ⟨before, given⟩ := Option.ne_none_iff_exists'.mp carried
  rw [inject_traced valid emitted given]
  rw [custom, metadataObject_of_text agrees.present] at given
  have read : json.fromSlice bytes = some (.object before) := by
    split at given
    · next read =>
        cases given
        exact read
    · cases given
  obtain ⟨values, entries, sorted⟩ := Option.map_eq_some_iff.mp (agrees.reads _ read)
  cases sorted
  rw [← traced_members_iff distinct entries context, KeepsMembers, Option.bind_some,
    agrees.writes _ read]
  constructor
  · intro ⟨after, written, same⟩
    cases written
    exact same
  · intro same
    exact ⟨_, rfl, same⟩

/-- Tracing alters a member just if there is a number in it that the floats do not keep. -/
theorem tracing_keeps_members_iff {json : SerdeJson} {floats : FloatText}
    {parse : Bytes → Option Document} {event : EventData} {context : TraceContext} {bytes : Bytes}
    {members : List (String × Document)} (custom : event.customMetadata = some bytes)
    (distinct : (JsonTree.object members).Distinct)
    (agrees : json.Agrees floats parse context bytes (.object members)) :
    KeepsMembers parse members (injectEventContext json event context).customMetadata ↔
      (context.Injects json event → ∀ member ∈ members, isPersistedTraceField member.1 = false →
        member.2.AllNumbers floats.Keeps) := by
  by_cases injects : context.Injects json event
  · rw [keepsMembers_traced_iff custom distinct agrees injects]
    exact ⟨fun kept _ => kept, fun kept => kept injects⟩
  · rw [inject_unchanged injects, custom]
    exact iff_of_true (keepsMembers_untouched distinct agrees.parsed)
      (fun injected => absurd injected injects)

def asciiBytes (text : String) : Bytes := text.toList.map fun char => char.toNat.toUInt8

def largeIdText : Bytes := asciiBytes "\x7b\"id\":18446744073709551617\x7d"

def tracedIdText : Bytes := asciiBytes
  "\x7b\"id\":1.8446744073709552e+19,\"traceparent\":\"00-58406520a006649127e371903a2de979-58406520a0066491-01\",\"tracestate\":\"\"\x7d"

def largeIdMembers : List (String × Document) :=
  [("id", .number (.integer false 18446744073709551617))]

def tracedIdEntries : JsonMap := ("id", .float 0x43F0000000000000) :: sampledFields

def largeIdFloats : FloatText := ⟨fun _ => some 0x43F0000000000000, fun _ => 18446744073709552000⟩

def largeIdJson : SerdeJson where
  fromSlice bytes :=
    if bytes = largeIdText then some (.object [("id", .float 0x43F0000000000000)]) else none
  document _ := none
  toVec _ := tracedIdText
  complaint _ := ""

def parseLargeId (bytes : Bytes) : Option Document :=
  if bytes = largeIdText then some (.object largeIdMembers)
  else some (.object [("id", .number (.decimal false 18446744073709552 3)),
    ("traceparent", .string "00-58406520a006649127e371903a2de979-58406520a0066491-01"),
    ("tracestate", .string "")])

def largeIdEvent : EventData := { orderEvent with customMetadata := some largeIdText }

theorem tracedId_sorted {Value : Type} (number trace state : Value) :
    Sorted [("id", number), ("traceparent", trace), ("tracestate", state)] := by
  apply sorted_iff_keys.mpr
  change ["id", "traceparent", "tracestate"].Pairwise (· < ·)
  decide +kernel

theorem largeId_carried :
    JsonMap.carryFields [("id", .float 0x43F0000000000000)] sampledContext.fields =
      tracedIdEntries := by
  have parent : JsonMap.carry [("id", .float 0x43F0000000000000)]
      ("traceparent", "00-58406520a006649127e371903a2de979-58406520a0066491-01") = _ :=
    JsonMap.carry_last (by decide +kernel) (by decide +kernel) (by decide +kernel)
  rw [sampled_fields]
  change JsonMap.carry (JsonMap.carry [("id", .float 0x43F0000000000000)] _) _ = _
  rw [parent]
  exact JsonMap.carry_last (by decide +kernel) (by decide +kernel) (by decide +kernel)

theorem largeId_read : largeIdJson.fromSlice largeIdText =
    some (.object [("id", .float 0x43F0000000000000)]) := by
  simp [largeIdJson]

theorem largeId_agrees : largeIdJson.Agrees largeIdFloats parseLargeId sampledContext largeIdText
    (.object largeIdMembers) := by
  have apart : tracedIdText ≠ largeIdText := by decide +kernel
  constructor
  case present => decide
  case parsed => rw [parseLargeId, if_pos rfl]
  case reads =>
    intro value read
    rw [largeId_read] at read
    cases read
    rfl
  case writes =>
    intro before read
    rw [largeId_read] at read
    cases read
    rw [largeId_carried, largeIdJson, parseLargeId, if_neg apart, Option.map_some]
    rw [JsonTree.denote]
    change some (JsonTree.object (ofList [("id", _), ("traceparent", _), ("tracestate", _)])) = _
    rw [ofList_sorted (tracedId_sorted _ _ _)]
    simp [JsonTree.denote, Json.denote, sampledFields, Json.denoteEntries, tracedIdEntries, largeIdFloats,
      NumberLiteral.value, NumberLiteral.signed]
    norm_num

theorem largeId_distinct : (JsonTree.object largeIdMembers).Distinct :=
  ⟨List.pairwise_singleton _ _, trivial, trivial⟩

theorem largeId_survives_iff :
    KeepsMembers parseLargeId largeIdMembers
        (injectEventContext largeIdJson largeIdEvent sampledContext).customMetadata ↔
      (sampledContext.Injects largeIdJson largeIdEvent → ∀ member ∈ largeIdMembers,
        isPersistedTraceField member.1 = false → member.2.AllNumbers largeIdFloats.Keeps) :=
  tracing_keeps_members_iff rfl largeId_distinct largeId_agrees

/-- The identifier in the custom metadata of a traced event is another number. -/
theorem largeId_altered : sampledContext.isValid = true ∧
    largeIdEvent.customMetadata = some largeIdText ∧
    (JsonTree.object largeIdMembers).Distinct ∧
    largeIdJson.Agrees largeIdFloats parseLargeId sampledContext largeIdText
      (.object largeIdMembers) ∧
    ¬ KeepsMembers parseLargeId largeIdMembers
      (injectEventContext largeIdJson largeIdEvent sampledContext).customMetadata := by
  refine ⟨rfl, rfl, largeId_distinct, largeId_agrees, ?_⟩
  have injects : sampledContext.Injects largeIdJson largeIdEvent := by
    refine ⟨rfl, ?_, ?_⟩
    · intro none
      have emitted := (fields_eq_nil_iff sampledContext).mp none _ List.mem_cons_self
      simp [isPersistedTraceField, eqIgnoreAsciiCase] at emitted
    · rw [largeIdEvent, metadataObject_of_text largeId_agrees.present, largeId_read]
      exact Option.some_ne_none _
  rw [keepsMembers_traced_iff rfl largeId_distinct largeId_agrees injects]
  intro kept
  have other : isPersistedTraceField "id" = false := by
    rw [isPersistedTraceField, Bool.or_eq_false_iff, eqIgnoreAsciiCase, eqIgnoreAsciiCase,
      beq_eq_false_iff_ne, beq_eq_false_iff_ne, ne_eq, ne_eq, ← String.toList_inj,
      ← String.toList_inj]
    unfold String.toLower
    simp
  rcases kept _ List.mem_cons_self other with small | ⟨bits, _, same⟩
  · exact small (by decide)
  · simp [largeIdFloats, NumberLiteral.value, NumberLiteral.signed] at same

end TrogonEventStore

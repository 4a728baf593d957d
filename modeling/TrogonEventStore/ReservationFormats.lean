import TrogonEventStore.Library.JsonText
import TrogonEventStore.ReservationMemory

namespace TrogonEventStore

namespace Json

mutual

def tree : Json → JsonTree Nat
  | .null => .null
  | .bool value => .bool value
  | .number value => .number value.toNat
  | .float _ => .null
  | .string text => .string text
  | .array items => .array (trees items)
  | .object entries => .object (treeEntries entries)

def trees : List Json → List (JsonTree Nat)
  | [] => []
  | item :: items => tree item :: trees items

def treeEntries : List (String × Json) → List (String × JsonTree Nat)
  | [] => []
  | entry :: entries => (entry.1, tree entry.2) :: treeEntries entries

end

mutual

def ofTree : JsonTree Nat → Json
  | .null => .null
  | .bool value => .bool value
  | .number value => .number value
  | .string text => .string text
  | .array items => .array (ofTrees items)
  | .object entries => .object (ofTreeEntries entries)

def ofTrees : List (JsonTree Nat) → List Json
  | [] => []
  | item :: items => ofTree item :: ofTrees items

def ofTreeEntries : List (String × JsonTree Nat) → List (String × Json)
  | [] => []
  | entry :: entries => (entry.1, ofTree entry.2) :: ofTreeEntries entries

end

mutual

/-- The `Value` of a document, whose objects are maps. -/
def toValue : Json → Json
  | .null => .null
  | .bool value => .bool value
  | .number value => .number value
  | .float bits => .float bits
  | .string text => .string text
  | .array items => .array (toValues items)
  | .object entries => .object (SortedEntries.ofList (toValueEntries entries))

def toValues : List Json → List Json
  | [] => []
  | item :: items => toValue item :: toValues items

def toValueEntries : List (String × Json) → JsonMap
  | [] => []
  | entry :: entries => (entry.1, toValue entry.2) :: toValueEntries entries

end

mutual

/-- Every number is a natural one. -/
def Natural : Json → Prop
  | .null | .bool _ | .string _ => True
  | .number value => 0 ≤ value
  | .float _ => False
  | .array items => NaturalItems items
  | .object entries => NaturalEntries entries

def NaturalItems : List Json → Prop
  | [] => True
  | item :: items => Natural item ∧ NaturalItems items

def NaturalEntries : List (String × Json) → Prop
  | [] => True
  | entry :: entries => Natural entry.2 ∧ NaturalEntries entries

end

mutual

theorem ofTree_tree (json : Json) (natural : json.Natural) : ofTree (tree json) = json := by
  match json with
  | .null => rfl
  | .bool value => rfl
  | .number value => exact congrArg Json.number (Int.toNat_of_nonneg natural)
  | .string text => rfl
  | .array items => exact congrArg Json.array (ofTrees_trees items natural)
  | .object entries => exact congrArg Json.object (ofTreeEntries_tree entries natural)

theorem ofTrees_trees (items : List Json) (natural : NaturalItems items) :
    ofTrees (trees items) = items := by
  match items with
  | [] => rfl
  | item :: items =>
      rw [trees, ofTrees, ofTree_tree item natural.1, ofTrees_trees items natural.2]

theorem ofTreeEntries_tree (entries : List (String × Json)) (natural : NaturalEntries entries) :
    ofTreeEntries (treeEntries entries) = entries := by
  match entries with
  | [] => rfl
  | entry :: entries =>
      rw [treeEntries, ofTreeEntries, ofTree_tree entry.2 natural.1,
        ofTreeEntries_tree entries natural.2]

end

theorem naturalItems_bytes (bytes : Bytes) :
    NaturalItems (bytes.map fun byte => .number byte.toNat) := by
  induction bytes with
  | nil => trivial
  | cons byte bytes ih => exact ⟨Int.natCast_nonneg _, ih⟩

end Json

def fromUtf8 (bytes : Bytes) : Option (List Char) :=
  (ByteArray.mk bytes.toArray).utf8Decode?.map Array.toList

theorem fromUtf8_utf8 (chars : List Char) : fromUtf8 (utf8 (String.ofList chars)) = some chars := by
  have bytes : ByteArray.mk (utf8 (String.ofList chars)).toArray = chars.utf8Encode := by
    rw [utf8, Array.toArray_toList]
    rfl
  rw [fromUtf8, bytes, List.utf8Decode?_utf8Encode]
  rfl

def compactDocument (bytes : Bytes) : Option Json :=
  ((fromUtf8 bytes).bind JsonText.readAll).map Json.ofTree

/-- What the crate does with documents that have neither signs nor fractions in their numbers, and
no blanks between their tokens. -/
def compactJson : SerdeJson where
  fromSlice bytes := (compactDocument bytes).map Json.toValue
  document := compactDocument
  toVec json := utf8 (String.ofList (JsonText.write json.tree))
  complaint _ := "expected value at line 1 column 1"

theorem compactJson_readsBack {json : Json} (natural : json.Natural) :
    compactJson.ReadsBack json := by
  change ((fromUtf8 (utf8 (String.ofList (JsonText.write json.tree)))).bind _).map _ = _
  rw [fromUtf8_utf8, Option.bind_some, JsonText.readAll_write, Option.map_some,
    Json.ofTree_tree json natural]

section Uuids

def hexadecimal : Nat → Nat → List Char
  | 0, _ => []
  | count + 1, value => hexadecimal count (value / 16) ++ [Nat.digitChar (value % 16)]

def hexNumber (digits : List Char) : Nat :=
  digits.foldl (fun value digit => 16 * value + JsonText.hexValue digit) 0

theorem hexNumber_digits (count value : Nat) (fits : value < 16 ^ count) :
    hexNumber (hexadecimal count value) = value := by
  induction count generalizing value with
  | zero =>
      rw [Nat.pow_zero, Nat.lt_one_iff] at fits
      rw [fits]
      rfl
  | succ count ih =>
      have shorter : value / 16 < 16 ^ count := Nat.div_lt_of_lt_mul (by rw [Nat.pow_succ] at fits; omega)
      have last := JsonText.hexValue_digitChar (value % 16) (Nat.mod_lt _ (by decide))
      have front := ih (value / 16) shorter
      rw [hexNumber] at front
      rw [hexNumber, hexadecimal, List.foldl_append, front, List.foldl_cons, List.foldl_nil, last]
      exact Nat.div_add_mod value 16

theorem hexadecimal_member (count value : Nat) :
    ∀ digit ∈ hexadecimal count value, ∃ number < 16, digit = Nat.digitChar number := by
  induction count generalizing value with
  | zero =>
      intro digit absent
      cases absent
  | succ count ih =>
      intro digit member
      rcases List.mem_append.mp member with earlier | last
      · exact ih _ digit earlier
      · exact ⟨_, Nat.mod_lt _ (by decide), List.mem_singleton.mp last⟩

def hyphenate : List Nat → List Char → List Char
  | [], digits => digits
  | count :: counts, digits => digits.take count ++ '-' :: hyphenate counts (digits.drop count)

theorem filter_hyphenate (counts : List Nat) {digits : List Char}
    (plain : ∀ digit ∈ digits, digit ≠ '-') :
    (hyphenate counts digits).filter (· ≠ '-') = digits := by
  induction counts generalizing digits with
  | nil => exact List.filter_eq_self.mpr fun digit member => decide_eq_true (plain digit member)
  | cons count counts ih =>
      have front : (digits.take count).filter (· ≠ '-') = digits.take count :=
        List.filter_eq_self.mpr fun digit member =>
          decide_eq_true (plain digit (List.mem_of_mem_take member))
      have back : (hyphenate counts (digits.drop count)).filter (· ≠ '-') = digits.drop count :=
        ih fun digit member => plain digit (List.mem_of_mem_drop member)
      rw [hyphenate, List.filter_append, front, List.filter_cons_of_neg (by decide), back,
        List.take_append_drop]

def displayUuid (uuid : Uuid) : String :=
  String.ofList (hyphenate [8, 4, 4, 4] (hexadecimal 32 uuid.toNat))

/-- Reads what is displayed; the crate has other forms, too. -/
def parseUuid (text : String) : Option Uuid :=
  let uuid : Uuid := BitVec.ofNat 128 (hexNumber (text.toList.filter (· ≠ '-')))
  if displayUuid uuid = text then some uuid else none

theorem parseUuid_display (uuid : Uuid) : parseUuid (displayUuid uuid) = some uuid := by
  have plain : ∀ number < 16, Nat.digitChar number ≠ '-' := by decide
  have digits : (displayUuid uuid).toList.filter (· ≠ '-') = hexadecimal 32 uuid.toNat := by
    rw [displayUuid, String.toList_ofList]
    apply filter_hyphenate
    intro digit member
    obtain ⟨number, small, rfl⟩ := hexadecimal_member _ _ digit member
    exact plain number small
  have fits : uuid.toNat < 16 ^ 32 := uuid.isLt
  have same : BitVec.ofNat 128 (hexNumber (hexadecimal 32 uuid.toNat)) = uuid := by
    rw [hexNumber_digits 32 uuid.toNat fits, BitVec.ofNat_toNat, BitVec.setWidth_eq]
  unfold parseUuid
  dsimp only
  rw [digits, same, if_pos rfl]

end Uuids

namespace Reservation

def hyphenated : UuidTexts := ⟨displayUuid, parseUuid, parseUuid_display⟩

section Natural

variable (texts : UuidTexts)

theorem InventoryOperation.natural (operation : InventoryOperation) :
    (operation.serialize texts).Natural := by
  cases operation <;>
    simp [serialize, InventoryReserved.serialize, InventoryReleased.serialize, Json.Natural,
      Json.NaturalEntries, OperationId.serialize, ReservationId.serialize]

theorem EventBody.natural (body : EventBody) : (body.serialize texts).Natural := by
  cases body with
  | created event => simp [serialize, InventoryCreated.serialize, Json.Natural, Json.NaturalEntries]
  | reserved event =>
      simp [serialize, InventoryReserved.serialize, Json.Natural, Json.NaturalEntries,
        OperationId.serialize, ReservationId.serialize]
  | released event =>
      simp [serialize, InventoryReleased.serialize, Json.Natural, Json.NaturalEntries,
        OperationId.serialize, ReservationId.serialize]
  | requested event =>
      have payload := Json.naturalItems_bytes event.inventoryEventPayload
      have operation := event.operation.natural texts
      simp [serialize, OperationRequested.serialize, Json.Natural, Json.NaturalEntries, operation,
        payload]
  | prepared event =>
      simp [serialize, OperationPrepared.serialize, Json.Natural, Json.NaturalEntries,
        OperationId.serialize]
  | rejected event =>
      cases reason : event.reason <;>
        simp [serialize, OperationRejected.serialize, reason, InventoryRejection.serialize,
          Json.Natural, Json.NaturalEntries, OperationId.serialize]
  | completed event =>
      simp [serialize, OperationCompleted.serialize, CommittedInventoryWrite.serialize,
        Json.Natural, Json.NaturalEntries, OperationId.serialize]
  | conflicted event =>
      simp [serialize, OperationConflicted.serialize, InventoryConflict.serialize,
        Json.Natural, Json.NaturalEntries, OperationId.serialize]

end Natural

/-- Whatever an event holds, the reader that its recorded type selects gets it back from the bytes. -/
theorem events_read_back {formats : Formats} {body sort : EventBody} (bounded : body.Bounded)
    {id : Uuid} {place : Nat} {recorded : RecordedEvent}
    (records : Records (eventData formats body id) place recorded)
    (selected : sort.eventType = recorded.eventType) :
    asJson formats (sort.deserialize formats.texts) recorded = .ok body := by
  have types : sort.eventType = body.eventType := selected.trans (records.eventType _ rfl)
  have data : recorded.data = formats.toVec body := records.data
  have document := formats.readsBack body bounded
  change formats.json.document (formats.toVec body) = _ at document
  rw [asJson, data, document, EventBody.deserialize_type formats.texts types, Option.map_some,
    EventBody.deserialize_serialize formats.texts bounded]

def compact : Formats where
  json := compactJson
  texts := hyphenated
  readsBack body _ := compactJson_readsBack (body.natural hyphenated)

theorem completion_reads_back : asJson compact
    (EventBody.deserialize compact.texts (.completed ⟨⟨0⟩, ⟨0, 0, 0⟩⟩))
    (Memory.recorded "inventory-operation-7"
      (eventData compact (.completed ⟨⟨7⟩, ⟨3, 5, 4⟩⟩) 1) 2) = .ok (.completed ⟨⟨7⟩, ⟨3, 5, 4⟩⟩) := by
  have bounded : EventBody.Bounded (.completed ⟨⟨7⟩, ⟨3, 5, 4⟩⟩) :=
    CommittedInventoryWrite.Bounded.mk (by decide) (by decide) (by decide)
  exact events_read_back bounded (Memory.recorded_records _ _ (by decide)) rfl

end Reservation

end TrogonEventStore

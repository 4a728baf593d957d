import TrogonEventStore.MetadataStreams
import TrogonEventStore.Reservation
import TrogonEventStore.Serde

namespace TrogonEventStore.Reservation

open Serde

structure UuidTexts where
  display : Uuid → String
  parse : String → Option Uuid
  parse_display : ∀ uuid, parse (display uuid) = some uuid

theorem UuidTexts.display_injective (texts : UuidTexts) {first second : Uuid}
    (same : texts.display first = texts.display second) : first = second := by
  have parsed := congrArg texts.parse same
  rw [texts.parse_display, texts.parse_display] at parsed
  exact Option.some.inj parsed

section Readers

def once {Value : Type} (name : String) (read : Read Value) (entries : List (String × Json)) :
    Except DeError Value :=
  match entries.filter fun entry => entry.1 = name with
  | [] => .error (.missingField name)
  | [entry] => read entry.2
  | _ => .error (.duplicateField name)

/-- What `derive(Deserialize)` makes of a structure without defaults. Which of several errors comes
first is not told apart. -/
def record {Value : Type} (name : String) (fields : List String)
    (build : List (String × Json) → Except DeError Value) : Read Value
  | .object entries => build entries
  | .array items =>
      if items.length = fields.length then build (fields.zip items)
      else .error (.invalidLength items.length name)
  | other => .error (.invalidType (unexpected other) name)

/-- A uuid is text in JSON; what the uuid crate says of a bad one is not told apart. -/
def deserializeUuid (texts : UuidTexts) : Read Uuid
  | .string text =>
      match texts.parse text with
      | some uuid => .ok uuid
      | none => .error (.invalidValue (.str text) "a formatted UUID string")
  | other => .error (.invalidType (unexpected other) "a formatted UUID string")

def u8 : Read UInt8 := fun value => (unsigned 256 "u8" value).map UInt8.ofNat
def u32 : Read UInt32 := fun value => (unsigned u32Bound "u32" value).map UInt32.ofNat
def u64 : Read Nat := unsigned u64Bound "u64"

theorem read_bind {Value Result : Type} {attempt : Except DeError Value} {value : Value}
    {rest : Value → Except DeError Result} {result : Except DeError Result}
    (reads : attempt = .ok value) (rests : rest value = result) : (attempt >>= rest) = result := by
  rw [reads]
  exact rests

theorem deserializeUuid_display (texts : UuidTexts) (value : Uuid) :
    deserializeUuid texts (.string (texts.display value)) = .ok value := by
  rw [deserializeUuid, texts.parse_display]

theorem u8_number (value : UInt8) : u8 (.number value.toNat) = .ok value := by
  have below : value.toNat < 256 := value.toNat_lt
  rw [u8, unsigned_number "u8" below]
  exact congrArg Except.ok UInt8.ofNat_toNat

theorem u32_number (value : UInt32) : u32 (.number value.toNat) = .ok value := by
  have below : value.toNat < u32Bound := value.toNat_lt
  rw [u32, unsigned_number "u32" below]
  exact congrArg Except.ok UInt32.ofNat_toNat

theorem u64_number {value : Nat} (below : value < u64Bound) : u64 (.number value) = .ok value :=
  unsigned_number "u64" below

theorem bytes_numbers (bytes : Bytes) :
    vec u8 (.array (bytes.map fun byte => .number byte.toNat)) = .ok bytes :=
  vec_array fun byte _ => u8_number byte

end Readers

variable (texts : UuidTexts)

namespace OperationId

def serialize (id : OperationId) : Json := .string (texts.display id.uuid)

def deserialize : Read OperationId := fun value => (deserializeUuid texts value).map mk

theorem deserialize_serialize (id : OperationId) :
    deserialize texts (id.serialize texts) = .ok id := by
  rw [serialize, deserialize, deserializeUuid_display]
  rfl

end OperationId

namespace ReservationId

def serialize (id : ReservationId) : Json := .string (texts.display id.uuid)

def deserialize : Read ReservationId := fun value => (deserializeUuid texts value).map mk

theorem deserialize_serialize (id : ReservationId) :
    deserialize texts (id.serialize texts) = .ok id := by
  rw [serialize, deserialize, deserializeUuid_display]
  rfl

end ReservationId

namespace InventoryCreated

def serialize (event : InventoryCreated) : Json :=
  .object [("sku", .string event.sku), ("available", .number event.available.toNat)]

def deserialize : Read InventoryCreated :=
  record "struct InventoryCreated" ["sku", "available"] fun entries => do
    let sku ← once "sku" string entries
    let available ← once "available" u32 entries
    .ok ⟨sku, available⟩

theorem deserialize_serialize (event : InventoryCreated) :
    deserialize event.serialize = .ok event := by
  refine read_bind (string_text event.sku) ?_
  exact read_bind (u32_number event.available) rfl

end InventoryCreated

namespace InventoryReserved

def serialize (event : InventoryReserved) : Json :=
  .object [("operation_id", event.operationId.serialize texts),
    ("reservation_id", event.reservationId.serialize texts), ("client", .string event.client),
    ("sku", .string event.sku), ("quantity", .number event.quantity.toNat)]

def deserialize : Read InventoryReserved :=
  record "struct InventoryReserved" ["operation_id", "reservation_id", "client", "sku", "quantity"]
    fun entries => do
      let operationId ← once "operation_id" (OperationId.deserialize texts) entries
      let reservationId ← once "reservation_id" (ReservationId.deserialize texts) entries
      let client ← once "client" string entries
      let sku ← once "sku" string entries
      let quantity ← once "quantity" u32 entries
      .ok ⟨operationId, reservationId, client, sku, quantity⟩

theorem deserialize_serialize (event : InventoryReserved) :
    deserialize texts (event.serialize texts) = .ok event := by
  refine read_bind (event.operationId.deserialize_serialize texts) ?_
  refine read_bind (event.reservationId.deserialize_serialize texts) ?_
  refine read_bind (string_text event.client) ?_
  refine read_bind (string_text event.sku) ?_
  exact read_bind (u32_number event.quantity) rfl

end InventoryReserved

namespace InventoryReleased

def serialize (event : InventoryReleased) : Json :=
  .object [("operation_id", event.operationId.serialize texts),
    ("reservation_id", event.reservationId.serialize texts), ("sku", .string event.sku),
    ("quantity", .number event.quantity.toNat)]

def deserialize : Read InventoryReleased :=
  record "struct InventoryReleased" ["operation_id", "reservation_id", "sku", "quantity"]
    fun entries => do
      let operationId ← once "operation_id" (OperationId.deserialize texts) entries
      let reservationId ← once "reservation_id" (ReservationId.deserialize texts) entries
      let sku ← once "sku" string entries
      let quantity ← once "quantity" u32 entries
      .ok ⟨operationId, reservationId, sku, quantity⟩

theorem deserialize_serialize (event : InventoryReleased) :
    deserialize texts (event.serialize texts) = .ok event := by
  refine read_bind (event.operationId.deserialize_serialize texts) ?_
  refine read_bind (event.reservationId.deserialize_serialize texts) ?_
  refine read_bind (string_text event.sku) ?_
  exact read_bind (u32_number event.quantity) rfl

end InventoryReleased

namespace InventoryOperation

/-- `tag = "kind", content = "event", rename_all = "snake_case"`. -/
def serialize : InventoryOperation → Json
  | .reserve event => .object [("kind", .string "reserve"), ("event", event.serialize texts)]
  | .release event => .object [("kind", .string "release"), ("event", event.serialize texts)]

/-- The content may come before the tag that says what it is. -/
def deserialize : Read InventoryOperation :=
  record "adjacently tagged enum InventoryOperation" ["kind", "event"] fun entries => do
    let kind ← once "kind" string entries
    match kind with
    | "reserve" => (once "event" (InventoryReserved.deserialize texts) entries).map reserve
    | "release" => (once "event" (InventoryReleased.deserialize texts) entries).map release
    | other => .error (.unknownVariant other ["reserve", "release"])

theorem deserialize_serialize (operation : InventoryOperation) :
    deserialize texts (operation.serialize texts) = .ok operation := by
  cases operation with
  | reserve event =>
      refine read_bind (string_text "reserve") ?_
      exact congrArg (Except.map reserve) (event.deserialize_serialize texts)
  | release event =>
      refine read_bind (string_text "release") ?_
      exact congrArg (Except.map release) (event.deserialize_serialize texts)

end InventoryOperation

namespace OperationRequested

def serialize (event : OperationRequested) : Json :=
  .object [("schema_version", .number event.schemaVersion.toNat),
    ("inventory_stream", .string event.inventoryStream),
    ("inventory_event_id", .string (texts.display event.inventoryEventId)),
    ("inventory_event_type", .string event.inventoryEventType),
    ("inventory_event_payload",
      .array (event.inventoryEventPayload.map fun byte => .number byte.toNat)),
    ("decision_event_id", .string (texts.display event.decisionEventId)),
    ("terminal_event_id", .string (texts.display event.terminalEventId)),
    ("operation", event.operation.serialize texts)]

def deserialize : Read OperationRequested :=
  record "struct OperationRequested" ["schema_version", "inventory_stream", "inventory_event_id",
      "inventory_event_type", "inventory_event_payload", "decision_event_id", "terminal_event_id",
      "operation"] fun entries => do
    let schemaVersion ← once "schema_version" u8 entries
    let inventoryStream ← once "inventory_stream" string entries
    let inventoryEventId ← once "inventory_event_id" (deserializeUuid texts) entries
    let inventoryEventType ← once "inventory_event_type" string entries
    let inventoryEventPayload ← once "inventory_event_payload" (vec u8) entries
    let decisionEventId ← once "decision_event_id" (deserializeUuid texts) entries
    let terminalEventId ← once "terminal_event_id" (deserializeUuid texts) entries
    let operation ← once "operation" (InventoryOperation.deserialize texts) entries
    .ok ⟨schemaVersion, inventoryStream, inventoryEventId, inventoryEventType,
      inventoryEventPayload, decisionEventId, terminalEventId, operation⟩

theorem deserialize_serialize (event : OperationRequested) :
    deserialize texts (event.serialize texts) = .ok event := by
  refine read_bind (u8_number event.schemaVersion) ?_
  refine read_bind (string_text event.inventoryStream) ?_
  refine read_bind (deserializeUuid_display texts event.inventoryEventId) ?_
  refine read_bind (string_text event.inventoryEventType) ?_
  refine read_bind (bytes_numbers event.inventoryEventPayload) ?_
  refine read_bind (deserializeUuid_display texts event.decisionEventId) ?_
  refine read_bind (deserializeUuid_display texts event.terminalEventId) ?_
  exact read_bind (event.operation.deserialize_serialize texts) rfl

end OperationRequested

namespace OperationPrepared

def serialize (event : OperationPrepared) : Json :=
  .object [("operation_id", event.operationId.serialize texts),
    ("expected_inventory_revision", .number event.expectedInventoryRevision)]

def deserialize : Read OperationPrepared :=
  record "struct OperationPrepared" ["operation_id", "expected_inventory_revision"]
    fun entries => do
      let operationId ← once "operation_id" (OperationId.deserialize texts) entries
      let revision ← once "expected_inventory_revision" u64 entries
      .ok ⟨operationId, revision⟩

theorem deserialize_serialize {event : OperationPrepared}
    (below : event.expectedInventoryRevision < u64Bound) :
    deserialize texts (event.serialize texts) = .ok event := by
  refine read_bind (event.operationId.deserialize_serialize texts) ?_
  exact read_bind (u64_number below) rfl

end OperationPrepared

namespace InventoryRejection

def serialize : InventoryRejection → Json
  | .wrongSku => .string "WrongSku"
  | .insufficientInventory available requested =>
      .object [("InsufficientInventory", .object [("available", .number available.toNat),
        ("requested", .number requested.toNat)])]
  | .reservationNotActive => .string "ReservationNotActive"

def deserializeShortage : Read InventoryRejection :=
  record "struct variant InventoryRejection::InsufficientInventory" ["available", "requested"]
    fun entries => do
      let available ← once "available" u32 entries
      let requested ← once "requested" u32 entries
      .ok (insufficientInventory available requested)

/-- A variant with fields is an object that maps its name to them; the others may be that, too. -/
def deserialize : Read InventoryRejection
  | .object [("InsufficientInventory", shortage)] => deserializeShortage shortage
  | .string "InsufficientInventory" => .error (.invalidType .unit "struct variant")
  | value => unitVariant [("WrongSku", wrongSku), ("ReservationNotActive", reservationNotActive)]
      value

theorem deserialize_serialize (reason : InventoryRejection) :
    deserialize reason.serialize = .ok reason := by
  cases reason with
  | wrongSku => rfl
  | reservationNotActive => rfl
  | insufficientInventory available requested =>
      refine read_bind (u32_number available) ?_
      exact read_bind (u32_number requested) rfl

end InventoryRejection

namespace OperationRejected

def serialize (event : OperationRejected) : Json :=
  .object [("operation_id", event.operationId.serialize texts), ("reason", event.reason.serialize)]

def deserialize : Read OperationRejected :=
  record "struct OperationRejected" ["operation_id", "reason"] fun entries => do
    let operationId ← once "operation_id" (OperationId.deserialize texts) entries
    let reason ← once "reason" InventoryRejection.deserialize entries
    .ok ⟨operationId, reason⟩

theorem deserialize_serialize (event : OperationRejected) :
    deserialize texts (event.serialize texts) = .ok event := by
  refine read_bind (event.operationId.deserialize_serialize texts) ?_
  exact read_bind event.reason.deserialize_serialize rfl

end OperationRejected

namespace CommittedInventoryWrite

def serialize (write : CommittedInventoryWrite) : Json :=
  .object [("inventory_revision", .number write.inventoryRevision),
    ("commit_position", .number write.commitPosition),
    ("prepare_position", .number write.preparePosition)]

def deserialize : Read CommittedInventoryWrite :=
  record "struct CommittedInventoryWrite"
      ["inventory_revision", "commit_position", "prepare_position"] fun entries => do
    let revision ← once "inventory_revision" u64 entries
    let commit ← once "commit_position" u64 entries
    let prepare ← once "prepare_position" u64 entries
    .ok ⟨revision, commit, prepare⟩

structure Bounded (write : CommittedInventoryWrite) : Prop where
  inventoryRevision : write.inventoryRevision < u64Bound
  commitPosition : write.commitPosition < u64Bound
  preparePosition : write.preparePosition < u64Bound

theorem deserialize_serialize {write : CommittedInventoryWrite} (bounded : write.Bounded) :
    deserialize write.serialize = .ok write := by
  refine read_bind (u64_number bounded.inventoryRevision) ?_
  refine read_bind (u64_number bounded.commitPosition) ?_
  exact read_bind (u64_number bounded.preparePosition) rfl

end CommittedInventoryWrite

namespace OperationCompleted

def serialize (event : OperationCompleted) : Json :=
  .object [("operation_id", event.operationId.serialize texts),
    ("inventory_write", event.inventoryWrite.serialize)]

def deserialize : Read OperationCompleted :=
  record "struct OperationCompleted" ["operation_id", "inventory_write"] fun entries => do
    let operationId ← once "operation_id" (OperationId.deserialize texts) entries
    let write ← once "inventory_write" CommittedInventoryWrite.deserialize entries
    .ok ⟨operationId, write⟩

theorem deserialize_serialize {event : OperationCompleted}
    (bounded : event.inventoryWrite.Bounded) :
    deserialize texts (event.serialize texts) = .ok event := by
  refine read_bind (event.operationId.deserialize_serialize texts) ?_
  exact read_bind (CommittedInventoryWrite.deserialize_serialize bounded) rfl

end OperationCompleted

namespace InventoryConflict

def serialize (conflict : InventoryConflict) : Json :=
  .object [("expected_inventory_revision", .number conflict.expectedInventoryRevision),
    ("occupied_inventory_revision", .number conflict.occupiedInventoryRevision),
    ("occupying_event_id", .string (texts.display conflict.occupyingEventId))]

def deserialize : Read InventoryConflict :=
  record "struct InventoryConflict" ["expected_inventory_revision", "occupied_inventory_revision",
      "occupying_event_id"] fun entries => do
    let expected ← once "expected_inventory_revision" u64 entries
    let occupied ← once "occupied_inventory_revision" u64 entries
    let occupying ← once "occupying_event_id" (deserializeUuid texts) entries
    .ok ⟨expected, occupied, occupying⟩

structure Bounded (conflict : InventoryConflict) : Prop where
  expectedInventoryRevision : conflict.expectedInventoryRevision < u64Bound
  occupiedInventoryRevision : conflict.occupiedInventoryRevision < u64Bound

theorem deserialize_serialize {conflict : InventoryConflict} (bounded : conflict.Bounded) :
    deserialize texts (conflict.serialize texts) = .ok conflict := by
  refine read_bind (u64_number bounded.expectedInventoryRevision) ?_
  refine read_bind (u64_number bounded.occupiedInventoryRevision) ?_
  exact read_bind (deserializeUuid_display texts conflict.occupyingEventId) rfl

end InventoryConflict

namespace OperationConflicted

def serialize (event : OperationConflicted) : Json :=
  .object [("operation_id", event.operationId.serialize texts),
    ("conflict", event.conflict.serialize texts)]

def deserialize : Read OperationConflicted :=
  record "struct OperationConflicted" ["operation_id", "conflict"] fun entries => do
    let operationId ← once "operation_id" (OperationId.deserialize texts) entries
    let conflict ← once "conflict" (InventoryConflict.deserialize texts) entries
    .ok ⟨operationId, conflict⟩

theorem deserialize_serialize {event : OperationConflicted} (bounded : event.conflict.Bounded) :
    deserialize texts (event.serialize texts) = .ok event := by
  refine read_bind (event.operationId.deserialize_serialize texts) ?_
  exact read_bind (InventoryConflict.deserialize_serialize texts bounded) rfl

end OperationConflicted

namespace EventBody

def serialize : EventBody → Json
  | .created event => event.serialize
  | .reserved event => event.serialize texts
  | .released event => event.serialize texts
  | .requested event => event.serialize texts
  | .prepared event => event.serialize texts
  | .rejected event => event.serialize texts
  | .completed event => event.serialize texts
  | .conflicted event => event.serialize texts

/-- What is stored with a revision or a position in it is stored with a `u64`. -/
def Bounded : EventBody → Prop
  | .prepared event => event.expectedInventoryRevision < u64Bound
  | .completed event => event.inventoryWrite.Bounded
  | .conflicted event => event.conflict.Bounded
  | _ => True

def deserialize : EventBody → Read EventBody
  | .created _, value => (InventoryCreated.deserialize value).map created
  | .reserved _, value => (InventoryReserved.deserialize texts value).map reserved
  | .released _, value => (InventoryReleased.deserialize texts value).map released
  | .requested _, value => (OperationRequested.deserialize texts value).map requested
  | .prepared _, value => (OperationPrepared.deserialize texts value).map prepared
  | .rejected _, value => (OperationRejected.deserialize texts value).map rejected
  | .completed _, value => (OperationCompleted.deserialize texts value).map completed
  | .conflicted _, value => (OperationConflicted.deserialize texts value).map conflicted

theorem deserialize_serialize {body : EventBody} (bounded : body.Bounded) :
    body.deserialize texts (body.serialize texts) = .ok body := by
  cases body with
  | created event =>
      change (InventoryCreated.deserialize event.serialize).map created = _
      rw [event.deserialize_serialize]
      rfl
  | reserved event => exact congrArg (Except.map reserved) (event.deserialize_serialize texts)
  | released event => exact congrArg (Except.map released) (event.deserialize_serialize texts)
  | requested event =>
      change (OperationRequested.deserialize texts (event.serialize texts)).map requested = _
      rw [event.deserialize_serialize texts]
      rfl
  | prepared event =>
      exact congrArg (Except.map prepared) (OperationPrepared.deserialize_serialize texts bounded)
  | rejected event => exact congrArg (Except.map rejected) (event.deserialize_serialize texts)
  | completed event =>
      exact congrArg (Except.map completed) (OperationCompleted.deserialize_serialize texts bounded)
  | conflicted event =>
      exact congrArg (Except.map conflicted)
        (OperationConflicted.deserialize_serialize texts bounded)

theorem deserialize_type {first second : EventBody} (types : first.eventType = second.eventType) :
    first.deserialize texts = second.deserialize texts := by
  cases first <;> cases second <;> first
    | rfl
    | simp [eventType, inventoryCreatedEventType, inventoryReservedEventType,
        inventoryReleasedEventType, operationRequestedEventType, operationPreparedEventType,
        operationRejectedEventType, operationCompletedEventType, operationConflictedEventType]
        at types

end EventBody

/-- JSON and uuid texts that can be relied on: what the events are written as is read back. -/
structure Formats where
  json : SerdeJson
  texts : UuidTexts
  readsBack : ∀ body : EventBody, body.Bounded → json.ReadsBack (body.serialize texts)

namespace Formats

variable (formats : Formats)

def toVec (body : EventBody) : Bytes := formats.json.toVec (body.serialize formats.texts)

theorem toVec_injective {first second : EventBody} (bounded : first.Bounded)
    (also : second.Bounded) (types : first.eventType = second.eventType)
    (texts : formats.toVec first = formats.toVec second) : first = second := by
  have documents := (formats.readsBack first bounded).symm.trans
    ((congrArg formats.json.document texts).trans (formats.readsBack second also))
  have read := EventBody.deserialize_serialize formats.texts bounded
  rw [Option.some.inj documents, EventBody.deserialize_type formats.texts types,
    EventBody.deserialize_serialize formats.texts also] at read
  exact (Except.ok.inj read).symm

end Formats

end TrogonEventStore.Reservation

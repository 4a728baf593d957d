import TrogonEventStore.Events

namespace TrogonEventStore.Reservation

def inventoryCreatedEventType : String := "inventory-created"
def inventoryReservedEventType : String := "inventory-reserved"
def inventoryReleasedEventType : String := "inventory-released"
def operationRequestedEventType : String := "inventory-operation-requested"
def operationPreparedEventType : String := "inventory-operation-prepared"
def operationRejectedEventType : String := "inventory-operation-rejected"
def operationCompletedEventType : String := "inventory-operation-completed"
def operationConflictedEventType : String := "inventory-operation-conflicted"

def operationSchemaVersion : UInt8 := 1
def maxDeliveryAttempts : Nat := 3

structure OperationId where
  uuid : Uuid
  deriving DecidableEq, Repr

structure ReservationId where
  uuid : Uuid
  deriving DecidableEq, Repr

structure InventoryCreated where
  sku : String
  available : UInt32
  deriving DecidableEq, Repr

structure InventoryReserved where
  operationId : OperationId
  reservationId : ReservationId
  client : String
  sku : String
  quantity : UInt32
  deriving DecidableEq, Repr

structure InventoryReleased where
  operationId : OperationId
  reservationId : ReservationId
  sku : String
  quantity : UInt32
  deriving DecidableEq, Repr

inductive InventoryOperation where
  | reserve (event : InventoryReserved)
  | release (event : InventoryReleased)
  deriving DecidableEq, Repr

namespace InventoryOperation

def operationId : InventoryOperation → OperationId
  | .reserve event => event.operationId
  | .release event => event.operationId

def reservationId : InventoryOperation → ReservationId
  | .reserve event => event.reservationId
  | .release event => event.reservationId

def eventType : InventoryOperation → String
  | .reserve _ => inventoryReservedEventType
  | .release _ => inventoryReleasedEventType

end InventoryOperation

structure OperationRequested where
  schemaVersion : UInt8
  inventoryStream : String
  inventoryEventId : Uuid
  inventoryEventType : String
  inventoryEventPayload : Bytes
  decisionEventId : Uuid
  terminalEventId : Uuid
  operation : InventoryOperation
  deriving DecidableEq, Repr

structure OperationPrepared where
  operationId : OperationId
  expectedInventoryRevision : Nat
  deriving DecidableEq, Repr

inductive InventoryRejection where
  | wrongSku
  | insufficientInventory (available requested : UInt32)
  | reservationNotActive
  deriving DecidableEq, Repr

structure OperationRejected where
  operationId : OperationId
  reason : InventoryRejection
  deriving DecidableEq, Repr

structure CommittedInventoryWrite where
  inventoryRevision : Nat
  commitPosition : Nat
  preparePosition : Nat
  deriving DecidableEq, Repr

structure OperationCompleted where
  operationId : OperationId
  inventoryWrite : CommittedInventoryWrite
  deriving DecidableEq, Repr

structure InventoryConflict where
  expectedInventoryRevision : Nat
  occupiedInventoryRevision : Nat
  occupyingEventId : Uuid
  deriving DecidableEq, Repr

structure OperationConflicted where
  operationId : OperationId
  conflict : InventoryConflict
  deriving DecidableEq, Repr

/-- What the events of the inventory streams and of the operation streams hold. -/
inductive EventBody where
  | created (event : InventoryCreated)
  | reserved (event : InventoryReserved)
  | released (event : InventoryReleased)
  | requested (event : OperationRequested)
  | prepared (event : OperationPrepared)
  | rejected (event : OperationRejected)
  | completed (event : OperationCompleted)
  | conflicted (event : OperationConflicted)
  deriving DecidableEq, Repr

def EventBody.eventType : EventBody → String
  | .created _ => inventoryCreatedEventType
  | .reserved _ => inventoryReservedEventType
  | .released _ => inventoryReleasedEventType
  | .requested _ => operationRequestedEventType
  | .prepared _ => operationPreparedEventType
  | .rejected _ => operationRejectedEventType
  | .completed _ => operationCompletedEventType
  | .conflicted _ => operationConflictedEventType

def InventoryOperation.body : InventoryOperation → EventBody
  | .reserve event => .reserved event
  | .release event => .released event

end TrogonEventStore.Reservation

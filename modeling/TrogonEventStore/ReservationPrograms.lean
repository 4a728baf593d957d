import TrogonEventStore.EventWire
import TrogonEventStore.Library.Interaction
import TrogonEventStore.ReservationCodec
import Mathlib.Data.List.AList

/-! The programs of the idempotent reservation: a worker claims an operation, decides it against
the inventory, puts its event there and records what became of it. -/

namespace TrogonEventStore.Reservation

abbrev Events := Feed ResolvedEvent Error

inductive Call where
  | newV4
  | appendToStream (stream : String) (expected : StreamState) (event : EventData)
  | readStream (stream : String) (options : ReadStreamOptions)

def Call.Answer : Call → Type
  | .newV4 => Uuid
  | .appendToStream _ _ _ => Except Error WriteResult
  | .readStream _ _ => Except Error Events

/-- What the boxed errors are, and a panic. -/
inductive Failure where
  | client (error : Error)
  | json (complaint : String)
  | operationIdConflict (id : OperationId)
  | invalidOperationStream (message : String)
  | panicked
  deriving DecidableEq, Repr

/-- `downcast_ref::<ClientError>` finds one. -/
def Failure.isClient : Failure → Bool
  | .client _ => true
  | _ => false

abbrev Program := Interaction Call Call.Answer Failure

def newV4 : Program Uuid := Interaction.call Call.newV4

def appendToStream (stream : String) (expected : StreamState) (event : EventData) :
    Program (Except Error WriteResult) :=
  Interaction.call (Call.appendToStream stream expected event)

def readStream (stream : String) (options : ReadStreamOptions) : Program (Except Error Events) :=
  Interaction.call (Call.readStream stream options)

def raise {Result : Type} (failure : Failure) : Program Result := .done (.error failure)

def lift {Result : Type} (result : Except Failure Result) : Program Result := .done result

/-- The operator `?` on what the client returns. -/
def orClientError {Result : Type} : Except Error Result → Except Failure Result
  | .ok result => .ok result
  | .error error => .error (.client error)

abbrev Reservations := AList fun _ : ReservationId => UInt32

structure InventoryState where
  sku : String
  available : UInt32
  reservations : Reservations

structure InventoryView where
  state : InventoryState
  revision : Nat
  eventCount : Nat

inductive OperationState where
  | requested (requested : OperationRequested)
  | prepared (requested : OperationRequested) (prepared : OperationPrepared)
  | rejected (requested : OperationRequested) (rejected : OperationRejected)
  | completed (requested : OperationRequested) (prepared : OperationPrepared)
      (completed : OperationCompleted)
  | conflicted (requested : OperationRequested) (prepared : OperationPrepared)
      (conflicted : OperationConflicted)
  deriving DecidableEq, Repr

namespace OperationState

def request : OperationState → OperationRequested
  | .requested request => request
  | .prepared request _ => request
  | .rejected request _ => request
  | .completed request _ _ => request
  | .conflicted request _ _ => request

def revision : OperationState → Nat
  | .requested _ => 0
  | .prepared _ _ => 1
  | .rejected _ _ => 1
  | .completed _ _ _ => 2
  | .conflicted _ _ _ => 2

end OperationState

inductive OperationOutcome where
  | completed (write : CommittedInventoryWrite)
  | rejected (reason : InventoryRejection)
  | conflicted (conflict : InventoryConflict)
  deriving DecidableEq, Repr

inductive StoredDecision where
  | prepared (id : Uuid) (prepared : OperationPrepared)
  | rejected (id : Uuid) (rejected : OperationRejected)

inductive StoredTerminal where
  | completed (id : Uuid) (completed : OperationCompleted)
  | conflicted (id : Uuid) (conflicted : OperationConflicted)

inductive InventoryAppendResult where
  | committed (write : CommittedInventoryWrite)
  | conflicted (conflict : InventoryConflict)

def CommittedInventoryWrite.from (write : WriteResult) : CommittedInventoryWrite :=
  ⟨write.nextExpectedVersion, write.position.commit, write.position.prepare⟩

def OperationId.streamName (texts : UuidTexts) (id : OperationId) : String :=
  "inventory-operation-" ++ texts.display id.uuid

variable (formats : Formats)

def eventData (body : EventBody) (id : Uuid) : EventData :=
  { EventData.json body.eventType (formats.toVec body) with idOpt := some id }

def InventoryOperation.payload (operation : InventoryOperation) : Bytes :=
  formats.toVec operation.body

def asJson {Value : Type} (read : Serde.Read Value) (event : RecordedEvent) :
    Except Failure Value :=
  match (formats.json.document event.data).map read with
  | some (.ok value) => .ok value
  | _ => .error (.json (formats.json.complaint event.data))

/-- `get_original_event`, a panic where there is none. -/
def originalEvent (resolved : ResolvedEvent) : Except Failure RecordedEvent :=
  match resolved.getOriginalEvent with
  | some event => .ok event
  | none => .error .panicked

theorem originalEvent_some {resolved : ResolvedEvent} {event : RecordedEvent}
    (original : resolved.getOriginalEvent = some event) :
    originalEvent resolved = .ok event := by
  rw [originalEvent, original]

def visit {State : Type} (step : State → RecordedEvent → Except Failure State) (start : State)
    (events : List ResolvedEvent) : Except Failure State :=
  events.foldlM (fun state resolved => originalEvent resolved >>= step state) start

structure InventoryFold where
  sku : Option String := none
  available : UInt32 := 0
  reservations : Reservations := ∅
  revision : Option Nat := none
  eventCount : Nat := 0

/-- One turn of the loop. The assertions and a sum out of range are panics. -/
def InventoryFold.apply (fold : InventoryFold) (event : RecordedEvent) :
    Except Failure InventoryFold :=
  let fold := { fold with revision := some event.revision, eventCount := fold.eventCount + 1 }
  if event.eventType = inventoryCreatedEventType then do
    let created ← asJson formats InventoryCreated.deserialize event
    .ok { fold with sku := some created.sku, available := created.available }
  else if event.eventType = inventoryReservedEventType then do
    let reserved ← asJson formats (InventoryReserved.deserialize formats.texts) event
    if event.id = reserved.operationId.uuid ∧ reserved.quantity ≤ fold.available ∧
        fold.reservations.lookup reserved.reservationId = none then
      .ok { fold with
        available := fold.available - reserved.quantity
        reservations := fold.reservations.insert reserved.reservationId reserved.quantity }
    else .error .panicked
  else if event.eventType = inventoryReleasedEventType then do
    let released ← asJson formats (InventoryReleased.deserialize formats.texts) event
    if event.id = released.operationId.uuid ∧
        fold.reservations.lookup released.reservationId = some released.quantity ∧
        fold.available.toNat + released.quantity.toNat < u32Bound then
      .ok { fold with
        available := fold.available + released.quantity
        reservations := fold.reservations.erase released.reservationId }
    else .error .panicked
  else .error .panicked

def InventoryFold.view (fold : InventoryFold) : Except Failure InventoryView :=
  match fold.sku, fold.revision with
  | some sku, some revision =>
      .ok ⟨⟨sku, fold.available, fold.reservations⟩, revision, fold.eventCount⟩
  | _, _ => .error .panicked

def inventoryOf (answer : Except Error Events) : Except Failure InventoryView := do
  let events ← orClientError answer
  let fold ← visit (InventoryFold.apply formats) {} events.pending
  match events.ending with
  | some error => .error (.client error)
  | none => fold.view

def readInventory (stream : String) : Program InventoryView := do
  let answer ← readStream stream default
  lift (inventoryOf formats answer)

def invalidOperationStream (stream message : String) : Failure :=
  .invalidOperationStream (stream ++ ": " ++ message)

structure OperationFold where
  requested : Option (Uuid × OperationRequested) := none
  decision : Option StoredDecision := none
  terminal : Option StoredTerminal := none

def OperationFold.apply (stream : String) (fold : OperationFold) (event : RecordedEvent) :
    Except Failure OperationFold :=
  if event.eventType = operationRequestedEventType ∧ event.revision = 0 ∧ fold.requested.isNone then
    (asJson formats (OperationRequested.deserialize formats.texts) event).map fun requested =>
      { fold with requested := some (event.id, requested) }
  else if event.eventType = operationPreparedEventType ∧ event.revision = 1 ∧
      fold.decision.isNone then
    (asJson formats (OperationPrepared.deserialize formats.texts) event).map fun prepared =>
      { fold with decision := some (.prepared event.id prepared) }
  else if event.eventType = operationRejectedEventType ∧ event.revision = 1 ∧
      fold.decision.isNone then
    (asJson formats (OperationRejected.deserialize formats.texts) event).map fun rejected =>
      { fold with decision := some (.rejected event.id rejected) }
  else if event.eventType = operationCompletedEventType ∧ event.revision = 2 ∧
      fold.terminal.isNone then
    (asJson formats (OperationCompleted.deserialize formats.texts) event).map fun completed =>
      { fold with terminal := some (.completed event.id completed) }
  else if event.eventType = operationConflictedEventType ∧ event.revision = 2 ∧
      fold.terminal.isNone then
    (asJson formats (OperationConflicted.deserialize formats.texts) event).map fun conflicted =>
      { fold with terminal := some (.conflicted event.id conflicted) }
  else
    .error (invalidOperationStream stream
      ("invalid event at revision " ++ toString event.revision))

structure OperationRequested.Consistent (requested : OperationRequested) (id : OperationId) :
    Prop where
  operationId : requested.operation.operationId = id
  inventoryEventId : requested.inventoryEventId = id.uuid
  schemaVersion : requested.schemaVersion = operationSchemaVersion
  inventoryEventType : requested.inventoryEventType = requested.operation.eventType
  inventoryEventPayload : requested.inventoryEventPayload = requested.operation.payload formats

instance (requested : OperationRequested) (id : OperationId) :
    Decidable (requested.Consistent formats id) :=
  decidable_of_iff (requested.operation.operationId = id ∧ requested.inventoryEventId = id.uuid ∧
      requested.schemaVersion = operationSchemaVersion ∧
      requested.inventoryEventType = requested.operation.eventType ∧
      requested.inventoryEventPayload = requested.operation.payload formats)
    ⟨fun ⟨first, second, third, fourth, fifth⟩ => ⟨first, second, third, fourth, fifth⟩,
      fun ⟨first, second, third, fourth, fifth⟩ => ⟨first, second, third, fourth, fifth⟩⟩

def OperationFold.conclude (stream : String) (id : OperationId) (fold : OperationFold) :
    Except Failure (Option OperationState) :=
  match fold.requested with
  | none =>
      match fold.decision, fold.terminal with
      | none, none => .ok none
      | _, _ => .error (invalidOperationStream stream "contains progress without a request")
  | some (requestEventId, requested) =>
      if requestEventId = id.uuid ∧ requested.Consistent formats id then
        match fold.decision, fold.terminal with
        | none, none => .ok (some (.requested requested))
        | some (.prepared eventId prepared), none =>
            if eventId = requested.decisionEventId ∧ prepared.operationId = id then
              .ok (some (.prepared requested prepared))
            else .error invalidTransition
        | some (.rejected eventId rejected), none =>
            if eventId = requested.decisionEventId ∧ rejected.operationId = id then
              .ok (some (.rejected requested rejected))
            else .error invalidTransition
        | some (.prepared decisionEventId prepared), some (.completed terminalEventId completed) =>
            if decisionEventId = requested.decisionEventId ∧
                terminalEventId = requested.terminalEventId ∧ prepared.operationId = id ∧
                completed.operationId = id then
              .ok (some (.completed requested prepared completed))
            else .error invalidTransition
        | some (.prepared decisionEventId prepared), some (.conflicted terminalEventId conflicted) =>
            if decisionEventId = requested.decisionEventId ∧
                terminalEventId = requested.terminalEventId ∧ prepared.operationId = id ∧
                conflicted.operationId = id then
              .ok (some (.conflicted requested prepared conflicted))
            else .error invalidTransition
        | _, _ => .error invalidTransition
      else .error (invalidOperationStream stream "contains an inconsistent request")
where
  invalidTransition : Failure :=
    invalidOperationStream stream "contains an invalid state transition"

/-- What `read_operation` makes of the answer to its read: a stream that is not found, whenever it
turns out, is no operation. -/
def operationOf (id : OperationId) (answer : Except Error Events) :
    Except Failure (Option OperationState) :=
  let stream := id.streamName formats.texts
  match answer with
  | .error .resourceNotFound => .ok none
  | .error error => .error (.client error)
  | .ok events => do
      let fold ← visit (OperationFold.apply formats stream) {} events.pending
      match events.ending with
      | some .resourceNotFound => .ok none
      | some error => .error (.client error)
      | none => fold.conclude formats stream id

def operationOptions : ReadStreamOptions := { (default : ReadStreamOptions) with maxCount := 4 }

def readOperation (id : OperationId) : Program (Option OperationState) := do
  let answer ← readStream (id.streamName formats.texts) operationOptions
  lift (operationOf formats id answer)

def validateRequest (state : OperationState) (inventoryStream : String)
    (operation : InventoryOperation) : Except Failure Unit :=
  let requested := state.request
  if requested.inventoryStream ≠ inventoryStream ∨ requested.operation ≠ operation ∨
      requested.inventoryEventType ≠ operation.eventType ∨
      requested.inventoryEventPayload ≠ operation.payload formats then
    .error (.operationIdConflict operation.operationId)
  else .ok ()

def notRetained (stream : String) : Except Error WriteResult → Failure
  | .error error => .client error
  | .ok _ => invalidOperationStream stream "did not retain the appended transition"

def retained (minimumStoredRevision : Nat) (refused : Failure) :
    Option OperationState →
      Except Failure { state : OperationState // minimumStoredRevision ≤ state.revision }
  | some state =>
      if reached : minimumStoredRevision ≤ state.revision then .ok ⟨state, reached⟩
      else .error refused
  | none => .error refused

def appendOperationEvent (id : OperationId) (expectedRevision : StreamState)
    (minimumStoredRevision : Nat) (event : EventData) :
    Program { state : OperationState // minimumStoredRevision ≤ state.revision } := do
  let stream := id.streamName formats.texts
  let answer ← appendToStream stream expectedRevision event
  let stored ← readOperation formats id
  lift (retained minimumStoredRevision (notRetained stream answer) stored)

def OperationRequested.of (inventoryStream : String) (operation : InventoryOperation)
    (decisionEventId terminalEventId : Uuid) : OperationRequested where
  schemaVersion := operationSchemaVersion
  inventoryStream := inventoryStream
  inventoryEventId := operation.operationId.uuid
  inventoryEventType := operation.eventType
  inventoryEventPayload := operation.payload formats
  decisionEventId := decisionEventId
  terminalEventId := terminalEventId
  operation := operation

def claimOperation (inventoryStream : String) (operation : InventoryOperation) :
    Program OperationState := do
  let id := operation.operationId
  match ← readOperation formats id with
  | some state =>
      lift (validateRequest formats state inventoryStream operation)
      pure state
  | none =>
      let decisionEventId ← newV4
      let terminalEventId ← newV4
      let requested := OperationRequested.of formats inventoryStream operation decisionEventId
        terminalEventId
      let stored ← appendOperationEvent formats id .noStream 0
        (eventData formats (.requested requested) id.uuid)
      lift (validateRequest formats stored.val inventoryStream operation)
      pure stored.val

def rejectInventoryCommand (inventory : InventoryState) :
    InventoryOperation → Option InventoryRejection
  | .reserve event =>
      if event.sku ≠ inventory.sku then some .wrongSku
      else if inventory.available < event.quantity then
        some (.insufficientInventory inventory.available event.quantity)
      else none
  | .release event =>
      if event.sku ≠ inventory.sku then some .wrongSku
      else if inventory.reservations.lookup event.reservationId ≠ some event.quantity then
        some .reservationNotActive
      else none

/-- What is decided about an operation in view of the inventory. -/
def decision (inventory : InventoryView) (operation : InventoryOperation) : EventBody :=
  match rejectInventoryCommand inventory.state operation with
  | some reason => .rejected ⟨operation.operationId, reason⟩
  | none => .prepared ⟨operation.operationId, inventory.revision⟩

def decideRequested (requested : OperationRequested) :
    Program { state : OperationState // 1 ≤ state.revision } := do
  let inventory ← readInventory formats requested.inventoryStream
  appendOperationEvent formats requested.operation.operationId (.streamRevision 0) 1
    (eventData formats (decision inventory requested.operation) requested.decisionEventId)

def prepareOperation (inventoryStream : String) (operation : InventoryOperation) :
    Program OperationState := do
  match ← claimOperation formats inventoryStream operation with
  | .requested requested =>
      let state ← decideRequested formats requested
      pure state.val
  | state => pure state

def storedInventoryEventMatches (stored : RecordedEvent) (requested : OperationRequested) : Bool :=
  stored.id = requested.inventoryEventId && stored.eventType = requested.inventoryEventType &&
    stored.data = requested.inventoryEventPayload

def occupied (requested : OperationRequested) (prepared : OperationPrepared)
    (stored : RecordedEvent) : InventoryAppendResult :=
  if stored.revision = prepared.expectedInventoryRevision + 1 ∧
      storedInventoryEventMatches stored requested then
    .committed ⟨stored.revision, stored.position.commit, stored.position.prepare⟩
  else .conflicted ⟨prepared.expectedInventoryRevision, stored.revision, stored.id⟩

def firstEvent (answer : Except Error Events) : Except Failure (Option RecordedEvent) := do
  let events ← orClientError answer
  match ← orClientError events.tryNext.1 with
  | none => .ok none
  | some resolved => (originalEvent resolved).map some

def eventOptions (revision : Nat) : ReadStreamOptions :=
  { (default : ReadStreamOptions) with position := .position revision, maxCount := 1 }

/-- A revision that is the largest `u64` has no successor; to add one to it is a panic. -/
def appendInventory (requested : OperationRequested) (prepared : OperationPrepared) :
    Program InventoryAppendResult := do
  let event := eventData formats requested.operation.body requested.inventoryEventId
  match ← appendToStream requested.inventoryStream
      (.streamRevision prepared.expectedInventoryRevision) event with
  | .ok write => pure (.committed (.from write))
  | .error appendError =>
      if prepared.expectedInventoryRevision + 1 < u64Bound then do
        let answer ← readStream requested.inventoryStream
          (eventOptions (prepared.expectedInventoryRevision + 1))
        match ← lift (firstEvent answer) with
        | none => raise (.client appendError)
        | some stored => pure (occupied requested prepared stored)
      else raise .panicked

def conclusion (operation : InventoryOperation) : InventoryAppendResult → EventBody
  | .committed write => .completed ⟨operation.operationId, write⟩
  | .conflicted conflict => .conflicted ⟨operation.operationId, conflict⟩

def finishPrepared (requested : OperationRequested) (prepared : OperationPrepared) :
    Program { state : OperationState // 2 ≤ state.revision } := do
  let result ← appendInventory formats requested prepared
  appendOperationEvent formats requested.operation.operationId (.streamRevision 1) 2
    (eventData formats (conclusion requested.operation result) requested.terminalEventId)

def terminalOutcome (state : OperationState) : Except Failure OperationOutcome :=
  match state with
  | .rejected _ rejected => .ok (.rejected rejected.reason)
  | .completed _ _ completed => .ok (.completed completed.inventoryWrite)
  | .conflicted _ _ conflicted => .ok (.conflicted conflicted.conflict)
  | other => .error (invalidOperationStream
      (other.request.operation.operationId.streamName formats.texts) "has no terminal outcome")

/-- The loop of `execute_operation`. Every turn comes further in the operation stream. -/
def settle (state : OperationState) : Program OperationOutcome :=
  match state with
  | .requested requested => do
      let next ← decideRequested formats requested
      have : 2 - next.val.revision < 2 := by
        have further := next.property
        omega
      settle next.val
  | .prepared requested prepared => do
      let next ← finishPrepared formats requested prepared
      have : 2 - next.val.revision < 2 - 1 := by
        have further := next.property
        omega
      settle next.val
  | .rejected requested rejected => lift (terminalOutcome formats (.rejected requested rejected))
  | .completed requested prepared completed =>
      lift (terminalOutcome formats (.completed requested prepared completed))
  | .conflicted requested prepared conflicted =>
      lift (terminalOutcome formats (.conflicted requested prepared conflicted))
termination_by 2 - state.revision

def executeOperation (inventoryStream : String) (operation : InventoryOperation) :
    Program OperationOutcome := do
  let state ← claimOperation formats inventoryStream operation
  settle formats state

/-- The attempts that are left to `deliver_with_retries`; only an error of the client is worth
another one. -/
def deliver (inventoryStream : String) (operation : InventoryOperation) :
    Nat → Program OperationOutcome
  | 0 => raise .panicked
  | left + 1 => do
      match ← (executeOperation formats inventoryStream operation).attempt with
      | .ok outcome => pure outcome
      | .error failure =>
          if 0 < left ∧ failure.isClient then deliver inventoryStream operation left
          else raise failure

def deliverWithRetries (inventoryStream : String) (operation : InventoryOperation) :
    Program OperationOutcome :=
  deliver formats inventoryStream operation maxDeliveryAttempts

def storedInitialInventory (inventory : InventoryCreated) (eventId : Uuid)
    (answer : Except Error Events) : Except Failure (Option WriteResult) :=
  match answer with
  | .error _ => .ok none
  | .ok events =>
      match events.tryNext.1 with
      | .ok (some resolved) => do
          let stored ← originalEvent resolved
          if stored.revision = 0 ∧ stored.id = eventId ∧
              stored.eventType = inventoryCreatedEventType then do
            let created ← asJson formats InventoryCreated.deserialize stored
            .ok (if created = inventory then some ⟨stored.revision, stored.position⟩ else none)
          else .ok none
      | _ => .ok none

def createInventory (stream : String) (inventory : InventoryCreated) (eventId : Uuid) :
    Nat → Program WriteResult
  | 0 => raise .panicked
  | left + 1 => do
      match ← appendToStream stream .noStream (eventData formats (.created inventory) eventId) with
      | .ok write => pure write
      | .error error =>
          let answer ← readStream stream (eventOptions 0)
          match ← lift (storedInitialInventory formats inventory eventId answer) with
          | some write => pure write
          | none =>
              if left = 0 then raise (.client error)
              else createInventory stream inventory eventId left

def appendInitialInventory (stream : String) (inventory : InventoryCreated) (eventId : Uuid) :
    Program WriteResult :=
  createInventory formats stream inventory eventId maxDeliveryAttempts

end TrogonEventStore.Reservation

import TrogonEventStore.ReservationStore

namespace TrogonEventStore.Reservation

/-- What the callers bring: the inventories they create and the operations they have carried out.
Inventories are not called like operations, and every reservation is made by one operation. -/
structure Workload (texts : UuidTexts) where
  creation : String → InventoryCreated → Uuid → Prop
  operation : String → InventoryOperation → Prop
  creation_apart : ∀ {stream inventory eventId}, creation stream inventory eventId →
    ∀ id : OperationId, stream ≠ id.streamName texts
  operation_apart : ∀ {stream offered}, operation stream offered →
    ∀ id : OperationId, stream ≠ id.streamName texts
  distinct : ∀ {stream : String} {first second : InventoryReserved},
    operation stream (.reserve first) → operation stream (.reserve second) →
    first.reservationId = second.reservationId → first.operationId = second.operationId

theorem OperationId.streamName_injective {texts : UuidTexts} {first second : OperationId}
    (same : first.streamName texts = second.streamName texts) : first = second := by
  have displayed := (String.append_right_inj "inventory-operation-").mp same
  cases first
  cases second
  exact congrArg OperationId.mk (texts.display_injective displayed)

variable (formats : Formats)

structure Holds (recorded : RecordedEvent) (body : EventBody) : Prop where
  eventType : recorded.eventType = body.eventType
  data : recorded.data = formats.toVec body
  bounded : body.Bounded

theorem Holds.unique {formats : Formats} {recorded : RecordedEvent} {first second : EventBody}
    (holds : Holds formats recorded first) (also : Holds formats recorded second) :
    first = second :=
  formats.toVec_injective holds.bounded also.bounded
    (holds.eventType.symm.trans also.eventType) (holds.data.symm.trans also.data)

def Stored (streams : Streams) (stream : String) (place : Nat) (id : Uuid) (body : EventBody) :
    Prop :=
  ∃ recorded, (streams stream)[place]? = some recorded ∧ recorded.id = id ∧
    Holds formats recorded body

def Requested (streams : Streams) (id : OperationId) (requested : OperationRequested) : Prop :=
  Stored formats streams (id.streamName formats.texts) 0 id.uuid (.requested requested)

structure Prepared (streams : Streams) (id : OperationId) (request : OperationRequested)
    (prepared : OperationPrepared) : Prop where
  requested : Requested formats streams id request
  decided : Stored formats streams (id.streamName formats.texts) 1 request.decisionEventId
    (.prepared prepared)
  operationId : prepared.operationId = id

/-- The inventory as it was after some of its events. -/
def Seen (streams : Streams) (stream : String) (view : InventoryView) : Prop :=
  ∃ count, count ≤ (streams stream).length ∧
    (((streams stream).take count).foldlM (InventoryFold.apply formats) {}).bind
      InventoryFold.view = .ok view

/-- The event of a prepared operation is where it was to be. -/
def Committed (streams : Streams) (requested : OperationRequested) (prepared : OperationPrepared)
    (write : CommittedInventoryWrite) : Prop :=
  ∃ recorded, (streams requested.inventoryStream)[prepared.expectedInventoryRevision + 1]? =
      some recorded ∧ recorded.id = prepared.operationId.uuid ∧
    write = ⟨prepared.expectedInventoryRevision + 1, recorded.position.commit,
      recorded.position.prepare⟩

/-- The event of another operation is where it was to be. -/
def Lost (streams : Streams) (requested : OperationRequested) (prepared : OperationPrepared)
    (conflict : InventoryConflict) : Prop :=
  ∃ recorded, (streams requested.inventoryStream)[prepared.expectedInventoryRevision + 1]? =
      some recorded ∧ recorded.id ≠ prepared.operationId.uuid ∧
    conflict = ⟨prepared.expectedInventoryRevision, prepared.expectedInventoryRevision + 1,
      recorded.id⟩

def Entered (streams : Streams) (stream : String) (place : Nat) (id : Uuid)
    (operation : InventoryOperation) : Prop :=
  ∃ requested prepared, Prepared formats streams operation.operationId requested prepared ∧
    requested.operation = operation ∧ requested.inventoryStream = stream ∧
    place = prepared.expectedInventoryRevision + 1 ∧ id = operation.operationId.uuid

variable (workload : Workload formats.texts)

/-- What an event of the given body, at the place and with the id, rests on. -/
def Justified (streams : Streams) (stream : String) (place : Nat) (id : Uuid) : EventBody → Prop
  | .created inventory => place = 0 ∧ workload.creation stream inventory id
  | .reserved event => Entered formats streams stream place id (.reserve event)
  | .released event => Entered formats streams stream place id (.release event)
  | .requested requested =>
      ∃ operationId : OperationId, place = 0 ∧ stream = operationId.streamName formats.texts ∧
        id = operationId.uuid ∧ requested.Consistent formats operationId ∧
        workload.operation requested.inventoryStream requested.operation
  | .prepared prepared =>
      ∃ requested, place = 1 ∧ stream = prepared.operationId.streamName formats.texts ∧
        id = requested.decisionEventId ∧
        Requested formats streams prepared.operationId requested ∧
        ∃ view, Seen formats streams requested.inventoryStream view ∧
          view.revision = prepared.expectedInventoryRevision ∧
          rejectInventoryCommand view.state requested.operation = none
  | .rejected rejected =>
      ∃ requested, place = 1 ∧ stream = rejected.operationId.streamName formats.texts ∧
        id = requested.decisionEventId ∧
        Requested formats streams rejected.operationId requested ∧
        ∃ view, Seen formats streams requested.inventoryStream view ∧
          rejectInventoryCommand view.state requested.operation = some rejected.reason
  | .completed completed =>
      ∃ requested prepared, place = 2 ∧
        stream = completed.operationId.streamName formats.texts ∧ id = requested.terminalEventId ∧
        Prepared formats streams completed.operationId requested prepared ∧
        Committed streams requested prepared completed.inventoryWrite
  | .conflicted conflicted =>
      ∃ requested prepared, place = 2 ∧
        stream = conflicted.operationId.streamName formats.texts ∧ id = requested.terminalEventId ∧
        Prepared formats streams conflicted.operationId requested prepared ∧
        Lost streams requested prepared conflicted.conflict

/-- Every event is numbered by its place and rests on what it should. -/
structure Lawful (streams : Streams) : Prop where
  revision : ∀ {stream place} {recorded : RecordedEvent},
    (streams stream)[place]? = some recorded → recorded.revision = place
  commit : ∀ {stream} {place : Nat} {recorded : RecordedEvent},
    (streams stream)[place]? = some recorded → recorded.position.commit < u64Bound
  prepare : ∀ {stream} {place : Nat} {recorded : RecordedEvent},
    (streams stream)[place]? = some recorded → recorded.position.prepare < u64Bound
  room : ∀ stream, (streams stream).length < u64Bound
  justified : ∀ {stream place} {recorded : RecordedEvent},
    (streams stream)[place]? = some recorded → ∃ body, Holds formats recorded body ∧
      Justified formats workload streams stream place recorded.id body

variable {formats workload} {streams after : Streams}

theorem Stored.unique {stream : String} {place : Nat} {id other : Uuid} {body different : EventBody}
    (stored : Stored formats streams stream place id body)
    (also : Stored formats streams stream place other different) :
    id = other ∧ body = different := by
  obtain ⟨recorded, found, rfl, holds⟩ := stored
  obtain ⟨again, refound, rfl, holds'⟩ := also
  obtain rfl : recorded = again := Option.some.inj (found.symm.trans refound)
  exact ⟨rfl, holds.unique holds'⟩

theorem Requested.unique {id : OperationId} {first second : OperationRequested}
    (requested : Requested formats streams id first)
    (also : Requested formats streams id second) : first = second := by
  have bodies := (Stored.unique requested also).2
  cases bodies
  rfl

theorem Prepared.unique {id : OperationId} {first second : OperationRequested}
    {prepared again : OperationPrepared} (one : Prepared formats streams id first prepared)
    (other : Prepared formats streams id second again) : first = second ∧ prepared = again := by
  have requests := one.requested.unique other.requested
  have bodies := (one.decided.unique other.decided).2
  cases bodies
  exact ⟨requests, rfl⟩

section Later

variable (grows : streams.Later after)

include grows

theorem Stored.later {stream : String} {place : Nat} {id : Uuid} {body : EventBody}
    (stored : Stored formats streams stream place id body) :
    Stored formats after stream place id body := by
  obtain ⟨recorded, found, named, holds⟩ := stored
  exact ⟨recorded, grows.found found, named, holds⟩

theorem Requested.later {id : OperationId} {requested : OperationRequested}
    (stored : Requested formats streams id requested) : Requested formats after id requested :=
  Stored.later grows stored

theorem Prepared.later {id : OperationId} {requested : OperationRequested}
    {prepared : OperationPrepared} (stored : Prepared formats streams id requested prepared) :
    Prepared formats after id requested prepared where
  requested := stored.requested.later grows
  decided := stored.decided.later grows
  operationId := stored.operationId

theorem Seen.later {stream : String} {view : InventoryView}
    (seen : Seen formats streams stream view) : Seen formats after stream view := by
  obtain ⟨count, within, shown⟩ := seen
  have grown := (grows stream).length_le
  refine ⟨count, by omega, ?_⟩
  rw [grows.take within]
  exact shown

theorem Committed.later {requested : OperationRequested} {prepared : OperationPrepared}
    {write : CommittedInventoryWrite} (committed : Committed streams requested prepared write) :
    Committed after requested prepared write := by
  obtain ⟨recorded, found, named, written⟩ := committed
  exact ⟨recorded, grows.found found, named, written⟩

theorem Lost.later {requested : OperationRequested} {prepared : OperationPrepared}
    {conflict : InventoryConflict} (lost : Lost streams requested prepared conflict) :
    Lost after requested prepared conflict := by
  obtain ⟨recorded, found, named, written⟩ := lost
  exact ⟨recorded, grows.found found, named, written⟩

theorem Entered.later {stream : String} {place : Nat} {id : Uuid} {operation : InventoryOperation}
    (entered : Entered formats streams stream place id operation) :
    Entered formats after stream place id operation := by
  obtain ⟨requested, prepared, stored, rest⟩ := entered
  exact ⟨requested, prepared, stored.later grows, rest⟩

theorem Justified.later {stream : String} {place : Nat} {id : Uuid} {body : EventBody}
    (justified : Justified formats workload streams stream place id body) :
    Justified formats workload after stream place id body := by
  cases body with
  | created inventory => exact justified
  | reserved event => exact Entered.later grows justified
  | released event => exact Entered.later grows justified
  | requested requested => exact justified
  | prepared prepared =>
      obtain ⟨requested, first, named, same, stored, view, seen, rest⟩ := justified
      exact ⟨requested, first, named, same, stored.later grows, view, seen.later grows, rest⟩
  | rejected rejected =>
      obtain ⟨requested, first, named, same, stored, view, seen, rest⟩ := justified
      exact ⟨requested, first, named, same, stored.later grows, view, seen.later grows, rest⟩
  | completed completed =>
      obtain ⟨requested, prepared, second, named, same, stored, committed⟩ := justified
      exact ⟨requested, prepared, second, named, same, stored.later grows, committed.later grows⟩
  | conflicted conflicted =>
      obtain ⟨requested, prepared, second, named, same, stored, lost⟩ := justified
      exact ⟨requested, prepared, second, named, same, stored.later grows, lost.later grows⟩

end Later

theorem eventData_type (formats : Formats) (body : EventBody) (id : Uuid) :
    (eventData formats body id).metadata.lookup "type" = some body.eventType := rfl

theorem Records.holds {body : EventBody} {id : Uuid} {place : Nat} {recorded : RecordedEvent}
    (records : Records (eventData formats body id) place recorded) (bounded : body.Bounded) :
    Holds formats recorded body where
  eventType := records.eventType _ (eventData_type formats body id)
  data := records.data
  bounded := bounded

theorem Lawful.append (lawful : Lawful formats workload streams) {stream : String} {id : Uuid}
    {body : EventBody} {recorded : RecordedEvent} (bounded : body.Bounded)
    (justified : Justified formats workload streams stream (streams stream).length id body)
    (room : (streams stream).length + 1 < u64Bound)
    (records : Records (eventData formats body id) (streams stream).length recorded) :
    Lawful formats workload (streams.append stream recorded) where
  revision := by
    intro other place found present
    rcases Streams.append_found present with old | ⟨_, last, rfl⟩
    · exact lawful.revision old
    · exact records.revision.trans last.symm
  commit := by
    intro other place found present
    rcases Streams.append_found present with old | ⟨_, _, rfl⟩
    · exact lawful.commit old
    · exact records.commit
  prepare := by
    intro other place found present
    rcases Streams.append_found present with old | ⟨_, _, rfl⟩
    · exact lawful.prepare old
    · exact records.prepare
  room := by
    intro other
    by_cases same : other = stream
    · subst same
      rw [Streams.append, Function.update_self, List.length_append, List.length_singleton]
      exact room
    · rw [Streams.append, Function.update_of_ne same]
      exact lawful.room other
  justified := by
    intro other place found present
    have grows : streams.Later (streams.append stream recorded) := .append stream recorded
    rcases Streams.append_found present with old | ⟨same, last, rfl⟩
    · obtain ⟨body, holds, justified⟩ := lawful.justified old
      exact ⟨body, holds, justified.later grows⟩
    · refine ⟨body, records.holds bounded, ?_⟩
      rw [same, last, records.id id rfl]
      exact justified.later grows

variable (formats workload)

/-- Nothing is sent to be appended that has nothing to rest on. -/
def Allowed (streams : Streams) : Call → Prop
  | .appendToStream stream expected event =>
      ∃ body id, event = eventData formats body id ∧ body.Bounded ∧
        ∀ place, Admits expected place → Justified formats workload streams stream place id body
  | _ => True

def Stocked (streams : Streams) : Prop :=
  ∀ stream operation, workload.operation stream operation → streams stream ≠ []

theorem Allowed.later {call : Call} (grows : streams.Later after)
    (allowed : Allowed formats workload streams call) : Allowed formats workload after call := by
  cases call with
  | newV4 => trivial
  | readStream stream options => trivial
  | appendToStream stream expected event =>
      obtain ⟨body, id, made, bounded, justified⟩ := allowed
      exact ⟨body, id, made, bounded, fun place admits => (justified place admits).later grows⟩

theorem Stocked.later {workload : Workload formats.texts} (grows : streams.Later after)
    (stocked : Stocked formats workload streams) : Stocked formats workload after := by
  intro stream operation offered empty
  have prefixed := grows stream
  rw [empty, List.prefix_nil] at prefixed
  exact stocked stream operation offered prefixed

/-- Serving what is allowed keeps the streams lawful. -/
theorem Lawful.served (lawful : Lawful formats workload streams) {call : Call}
    (allowed : Allowed formats workload streams call) (served : effect streams call after) :
    Lawful formats workload after ∧ streams.Later after := by
  cases call with
  | newV4 =>
      cases served
      exact ⟨lawful, Streams.Later.refl streams⟩
  | readStream stream options =>
      cases served
      exact ⟨lawful, Streams.Later.refl streams⟩
  | appendToStream stream expected event =>
      obtain ⟨body, id, rfl, bounded, justified⟩ := allowed
      rcases served with rfl | ⟨recorded, admits, room, records, rfl⟩
      · exact ⟨lawful, Streams.Later.refl _⟩
      · exact ⟨lawful.append bounded (justified _ admits) room records,
          Streams.Later.append stream recorded⟩

/-- The workers' contract with the store and with each other. Where they rely on a prompt store the
inventories are there. -/
def contract (prompt : Prop) : Contract (store prompt) where
  lawful streams := Lawful formats workload streams ∧ (prompt → Stocked formats workload streams)
  later := Streams.Later
  allowed := Allowed formats workload
  later_refl := Streams.Later.refl
  later_trans := Streams.Later.trans
  allowed_later := Allowed.later formats workload
  served lawful allowed served := by
    obtain ⟨kept, grows⟩ := lawful.1.served formats workload allowed served
    exact ⟨⟨kept, fun holds => (lawful.2 holds).later formats grows⟩, grows⟩

end TrogonEventStore.Reservation

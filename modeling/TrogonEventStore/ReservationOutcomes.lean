import TrogonEventStore.ReservationLives
import Mathlib.Data.Set.Subsingleton

namespace TrogonEventStore.Reservation

variable {formats : Formats} {workload : Workload formats.texts} {streams after : Streams}
variable {id : OperationId}

/-- Where the event of an operation is. The first event of an inventory is that of its creation. -/
def places (texts : UuidTexts) (streams : Streams) (id : OperationId) : Set (String × Nat) :=
  {entry | IsInventory texts entry.1 ∧ 0 < entry.2 ∧
    ∃ recorded, (streams entry.1)[entry.2]? = some recorded ∧ recorded.id = id.uuid}

theorem Lawful.placed (lawful : Lawful formats workload streams) {entry : String × Nat}
    (placed : entry ∈ places formats.texts streams id) :
    ∃ request prepared, Prepared formats streams id request prepared ∧
      entry = (request.inventoryStream, prepared.expectedInventoryRevision + 1) := by
  obtain ⟨inventory, positive, recorded, found, named⟩ := placed
  rcases lawful.inventory_entry inventory found with ⟨_, first, _⟩ | ⟨operation, entered, _⟩
  · omega
  · obtain ⟨request, prepared, stored, rfl, stream, place, own⟩ := entered
    have ids : request.operation.operationId = id :=
      OperationId.mk.injEq _ _ ▸ own.symm.trans named
    rw [ids] at stored
    exact ⟨request, prepared, stored, Prod.ext stream.symm place⟩

theorem Lawful.placed_once (lawful : Lawful formats workload streams) (id : OperationId) :
    (places formats.texts streams id).Subsingleton := by
  intro first one second other
  obtain ⟨request, prepared, stored, rfl⟩ := lawful.placed one
  obtain ⟨request', prepared', stored', rfl⟩ := lawful.placed other
  obtain ⟨rfl, rfl⟩ := stored.unique stored'
  rfl

theorem Lawful.placed_at (lawful : Lawful formats workload streams) {request : OperationRequested}
    {prepared : OperationPrepared} (stored : Prepared formats streams id request prepared)
    {recorded : RecordedEvent}
    (found : (streams request.inventoryStream)[prepared.expectedInventoryRevision + 1]? =
      some recorded) (own : recorded.id = id.uuid) :
    places formats.texts streams id =
      {(request.inventoryStream, prepared.expectedInventoryRevision + 1)} := by
  have member : (request.inventoryStream, prepared.expectedInventoryRevision + 1) ∈
      places formats.texts streams id :=
    ⟨lawful.is_inventory stored.requested, Nat.succ_pos _, recorded, found, own⟩
  exact (lawful.placed_once id).eq_singleton_of_mem member

theorem Lawful.placed_nowhere (lawful : Lawful formats workload streams)
    {request : OperationRequested} {prepared : OperationPrepared}
    (stored : Prepared formats streams id request prepared) {recorded : RecordedEvent}
    (found : (streams request.inventoryStream)[prepared.expectedInventoryRevision + 1]? =
      some recorded) (other : recorded.id ≠ id.uuid) : places formats.texts streams id = ∅ := by
  rw [Set.eq_empty_iff_forall_notMem]
  intro entry placed
  obtain ⟨request', prepared', stored', rfl⟩ := lawful.placed placed
  obtain ⟨rfl, rfl⟩ := stored.unique stored'
  obtain ⟨_, _, again, refound, own⟩ := placed
  cases found.symm.trans refound
  exact other own

theorem Lawful.rejected_nowhere (lawful : Lawful formats workload streams)
    {request : OperationRequested} {rejected : OperationRejected}
    (reached : Reached formats streams id (.rejected request rejected)) :
    places formats.texts streams id = ∅ := by
  rw [Set.eq_empty_iff_forall_notMem]
  intro entry placed
  obtain ⟨_, prepared, stored, _⟩ := lawful.placed placed
  cases (stored.decided.unique reached.2.1).2

/-- What an outcome says: the event of a completed operation is in its inventory once, at the revision
and the position of the outcome; that of a rejected one is nowhere, for a reason that the inventory
gave; that of a conflicted one is nowhere, since the operation of the outcome has its place. -/
def Effective (formats : Formats) (streams : Streams) (stream : String)
    (operation : InventoryOperation) : OperationOutcome → Prop
  | .completed write =>
      places formats.texts streams operation.operationId = {(stream, write.inventoryRevision)} ∧
        ∃ recorded, (streams stream)[write.inventoryRevision]? = some recorded ∧
          Holds formats recorded operation.body ∧
          recorded.position = ⟨write.commitPosition, write.preparePosition⟩
  | .rejected reason =>
      places formats.texts streams operation.operationId = ∅ ∧
        ∃ view, Seen formats streams stream view ∧
          rejectInventoryCommand view.state operation = some reason
  | .conflicted conflict =>
      places formats.texts streams operation.operationId = ∅ ∧
        conflict.occupiedInventoryRevision = conflict.expectedInventoryRevision + 1 ∧
        ∃ winner, conflict.occupyingEventId = OperationId.uuid winner ∧
          winner ≠ operation.operationId ∧
          places formats.texts streams winner = {(stream, conflict.occupiedInventoryRevision)}

section Endings

variable {request : OperationRequested} {prepared : OperationPrepared}

theorem Lawful.completed (lawful : Lawful formats workload streams) {completed : OperationCompleted}
    (reached : Reached formats streams id (.completed request prepared completed)) :
    Committed streams request prepared completed.inventoryWrite := by
  obtain ⟨stored, ⟨recorded, found, _, holds⟩, own⟩ := reached
  obtain ⟨body, also, justified⟩ := lawful.justified found
  obtain rfl := holds.unique also
  obtain ⟨other, again, _, _, _, prepared', committed⟩ := justified
  rw [own] at prepared'
  obtain ⟨rfl, rfl⟩ := stored.unique prepared'
  exact committed

theorem Lawful.conflicted (lawful : Lawful formats workload streams)
    {conflicted : OperationConflicted}
    (reached : Reached formats streams id (.conflicted request prepared conflicted)) :
    Lost streams request prepared conflicted.conflict := by
  obtain ⟨stored, ⟨recorded, found, _, holds⟩, own⟩ := reached
  obtain ⟨body, also, justified⟩ := lawful.justified found
  obtain rfl := holds.unique also
  obtain ⟨other, again, _, _, _, prepared', lost⟩ := justified
  rw [own] at prepared'
  obtain ⟨rfl, rfl⟩ := stored.unique prepared'
  exact lost

theorem Lawful.rejected (lawful : Lawful formats workload streams) {rejected : OperationRejected}
    (reached : Reached formats streams id (.rejected request rejected)) :
    ∃ view, Seen formats streams request.inventoryStream view ∧
      rejectInventoryCommand view.state request.operation = some rejected.reason := by
  obtain ⟨stored, ⟨recorded, found, _, holds⟩, own⟩ := reached
  obtain ⟨body, also, justified⟩ := lawful.justified found
  obtain rfl := holds.unique also
  obtain ⟨other, _, _, _, requested, view, seen, judged⟩ := justified
  rw [own] at requested
  obtain rfl := Requested.unique stored requested
  exact ⟨view, seen, judged⟩

/-- Whatever takes a place after the first of an inventory is an operation that has its event there
and nowhere else. -/
theorem Lawful.occupant (lawful : Lawful formats workload streams) {stream : String}
    (inventory : IsInventory formats.texts stream) {place : Nat} {recorded : RecordedEvent}
    (found : (streams stream)[place + 1]? = some recorded) :
    ∃ winner : OperationId, recorded.id = winner.uuid ∧
      places formats.texts streams winner = {(stream, place + 1)} := by
  rcases lawful.inventory_entry inventory found with ⟨_, impossible, _⟩ | ⟨operation, entered, _⟩
  · cases impossible
  · obtain ⟨_, _, _, _, _, _, named⟩ := entered
    have member : (stream, place + 1) ∈ places formats.texts streams operation.operationId :=
      ⟨inventory, Nat.succ_pos place, recorded, found, named⟩
    exact ⟨operation.operationId, named, (lawful.placed_once _).eq_singleton_of_mem member⟩

end Endings

theorem Lawful.effective (lawful : Lawful formats workload streams) {stream : String}
    {operation : InventoryOperation} {outcome : OperationOutcome}
    (settled : Settled formats streams stream operation outcome) :
    Effective formats streams stream operation outcome := by
  obtain ⟨state, ⟨reached, rfl, rfl⟩, ended⟩ := settled
  cases state with
  | requested request => cases ended
  | prepared request prepared => cases ended
  | rejected request rejected =>
      cases ended
      exact ⟨lawful.rejected_nowhere reached, lawful.rejected reached⟩
  | completed request prepared completed =>
      cases ended
      obtain ⟨recorded, found, named, written⟩ := lawful.completed reached
      have own : recorded.id = request.operation.operationId.uuid :=
        named.trans (congrArg OperationId.uuid reached.1.operationId)
      change places _ _ _ = {(request.inventoryStream, completed.inventoryWrite.inventoryRevision)} ∧
        _
      rw [written]
      exact ⟨lawful.placed_at reached.1 found own, recorded, found,
        lawful.own_event reached.1 found own, rfl⟩
  | conflicted request prepared conflicted =>
      cases ended
      obtain ⟨recorded, found, other, written⟩ := lawful.conflicted reached
      have same := congrArg OperationId.uuid reached.1.operationId
      have apart : recorded.id ≠ request.operation.operationId.uuid := fun own =>
        other (own.trans same.symm)
      obtain ⟨winner, named, placed⟩ :=
        lawful.occupant (lawful.is_inventory reached.1.requested) found
      have differs : winner ≠ request.operation.operationId := by
        rintro rfl
        exact apart named
      change places _ _ _ = ∅ ∧ conflicted.conflict.occupiedInventoryRevision = _ ∧ _
      rw [written]
      exact ⟨lawful.placed_nowhere reached.1 found apart, rfl, winner, named, differs, placed⟩

theorem Lawful.rejected_not_prepared {request other : OperationRequested}
    {rejected : OperationRejected} {prepared : OperationPrepared}
    (reached : Reached formats streams id (.rejected request rejected)) :
    ¬ Prepared formats streams id other prepared := by
  intro stored
  cases (stored.decided.unique reached.2.1).2

theorem Lawful.outcome_unique (lawful : Lawful formats workload streams)
    {state other : OperationState} (reached : Reached formats streams id state)
    (also : Reached formats streams id other) {first second : OperationOutcome}
    (ended : terminalOutcome formats state = .ok first)
    (again : terminalOutcome formats other = .ok second) : first = second := by
  have same (revisions : state.revision = other.revision) : first = second := by
    obtain rfl := lawful.reached_unique reached also revisions
    exact Except.ok.inj (ended.symm.trans again)
  cases state with
  | requested request => cases ended
  | prepared request prepared => cases ended
  | rejected request rejected =>
      cases other with
      | requested request => cases again
      | prepared request prepared => cases again
      | rejected request rejected => exact same rfl
      | completed request prepared completed =>
          exact absurd also.1 (Lawful.rejected_not_prepared reached)
      | conflicted request prepared conflicted =>
          exact absurd also.1 (Lawful.rejected_not_prepared reached)
  | completed request prepared completed =>
      cases other with
      | requested request => cases again
      | prepared request prepared => cases again
      | rejected request rejected => exact absurd reached.1 (Lawful.rejected_not_prepared also)
      | completed request prepared completed => exact same rfl
      | conflicted request prepared conflicted => exact same rfl
  | conflicted request prepared conflicted =>
      cases other with
      | requested request => cases again
      | prepared request prepared => cases again
      | rejected request rejected => exact absurd reached.1 (Lawful.rejected_not_prepared also)
      | completed request prepared completed => exact same rfl
      | conflicted request prepared conflicted => exact same rfl

def Job.operation : Job → Option (String × InventoryOperation)
  | .claim stream operation | .prepare stream operation | .deliver stream operation =>
      some (stream, operation)
  | _ => none

/-- The id is that of the operation of the job, and is stored for another one. -/
def Job.Reuses (formats : Formats) (job : Job) (streams : Streams) (id : OperationId) : Prop :=
  ∃ stream operation, job.operation = some (stream, operation) ∧
    Reused formats streams stream operation id

theorem Tolerated.weaken {prompt relied : Prop} {failure : Failure}
    (reused all : Streams → OperationId → Prop) (less : relied → prompt)
    (more : ∀ id, reused streams id → all streams id)
    (tolerated : Tolerated formats prompt reused streams failure) :
    Tolerated formats relied all streams failure := by
  have excuse (excused : Excused prompt streams) : Excused relied streams :=
    excused.imp_left fun unreliable holds => unreliable (less holds)
  cases failure with
  | client error => exact excuse tolerated
  | invalidOperationStream message => exact ⟨excuse tolerated.1, tolerated.2⟩
  | operationIdConflict id => exact more id tolerated
  | json complaint => exact tolerated
  | panicked => exact tolerated

section Runs

variable {Party : Type} [DecidableEq Party] {state next : Running Party} {party other : Party}
variable {stream elsewhere : String} {operation different : InventoryOperation}

/-- At no moment of a run does an operation have its event twice, in one inventory or in two. -/
theorem operations_placed_once (run : Run formats workload state) (id : OperationId) :
    (places formats.texts state.world id).Subsingleton :=
  run.lawful.placed_once id

theorem order_placed_once : ∃ state : Running Bool, Run compact desk state ∧
    (places compact.texts state.world order.operationId).Subsingleton := by
  obtain ⟨state, next, _, _, _, run, _, goes, _⟩ := desk_delivers_twice
  exact ⟨next, run.goes goes, operations_placed_once (run.goes goes) order.operationId⟩

/-- What a worker is told of an operation is so, and stays so. -/
theorem outcomes_effective (run : Run formats workload state) {outcome : OperationOutcome}
    (ended : state.Ended party (.deliver stream operation) (.ok outcome))
    (goes : GoesOn formats workload state next) :
    Effective formats next.world stream operation outcome := by
  have settled : Settled formats state.world stream operation outcome := run.judged ended
  exact (run.goes goes).lawful.effective (settled.later (run.grows goes))

theorem order_effective : ∃ (state next : Running Bool) (outcome : OperationOutcome),
    Run compact desk state ∧
      state.Ended true (.deliver "inventory-widget" order) (.ok outcome) ∧
      GoesOn compact desk state next ∧
      Effective compact next.world "inventory-widget" order outcome := by
  obtain ⟨state, middle, last, outcome, _, run, _, goes, more, ended, _⟩ := desk_delivers_twice
  exact ⟨middle, last, outcome, run.goes goes, ended, more,
    outcomes_effective (run.goes goes) ended more⟩

/-- Two workers that are told of one operation id, whenever they are, are told of the same operation,
and the same of it. -/
theorem outcomes_agree (run : Run formats workload state) {first second : OperationOutcome}
    (ended : state.Ended party (.deliver stream operation) (.ok first))
    (goes : GoesOn formats workload state next)
    (again : next.Ended other (.deliver elsewhere different) (.ok second))
    (same : operation.operationId = different.operationId) :
    stream = elsewhere ∧ operation = different ∧ first = second := by
  have settled : Settled formats state.world stream operation first := run.judged ended
  have also : Settled formats next.world elsewhere different second := (run.goes goes).judged again
  obtain ⟨one, claimed, concluded⟩ := settled.later (run.grows goes)
  obtain ⟨two, claimed', concluded'⟩ := also
  have reached := claimed.reached
  rw [same] at reached
  have requests := reached.requested.unique claimed'.reached.requested
  refine ⟨?_, ?_, (run.goes goes).lawful.outcome_unique reached claimed'.reached concluded
    concluded'⟩
  · rw [← claimed.sameStream, ← claimed'.sameStream, requests]
  · rw [← claimed.sameOperation, ← claimed'.sameOperation, requests]

theorem order_agreed : ∃ (state next : Running Bool) (outcome : OperationOutcome),
    Run compact desk state ∧ GoesOn compact desk state next ∧
      state.Ended true (.deliver "inventory-widget" order) (.ok outcome) ∧
      next.Ended false (.deliver "inventory-widget" order) (.ok outcome) := by
  obtain ⟨state, middle, last, first, second, run, _, goes, more, ended, again⟩ :=
    desk_delivers_twice
  obtain rfl := (outcomes_agree (run.goes goes) ended more again rfl).2.2
  exact ⟨middle, last, first, run.goes goes, more, ended, again⟩

/-- Whatever the store and the other workers do, no worker panics, finds a stream that it cannot read,
or is told that an id is in use when it is not. -/
theorem failures_tolerated (run : Run formats workload state) {job : Job} {failure : Failure}
    (ended : state.Ended party job (.error failure)) :
    Tolerated formats False (job.Reuses formats) state.world failure := by
  have failed : Job.Failed formats workload False state.world job failure := run.judged ended
  have unreliable {prompt : Prop} : False → prompt := False.elim
  have itself (stream : String) (operation : InventoryOperation) :
      ∀ id, Reused formats state.world stream operation id →
        Job.Reuses formats (.deliver stream operation) state.world id :=
    fun _ reused => ⟨stream, operation, rfl, reused⟩
  cases job with
  | createInventory stream inventory eventId =>
      cases failure with
      | client error => exact Or.inl not_false
      | _ => cases failed
  | claim stream operation =>
      exact Tolerated.weaken (fun after => Reused formats after stream operation) _ unreliable
        (itself stream operation) failed
  | prepare stream operation =>
      exact Tolerated.weaken (fun after => Reused formats after stream operation) _ unreliable
        (itself stream operation) failed
  | deliver stream operation =>
      exact Tolerated.weaken (fun after => Reused formats after stream operation) _ unreliable
        (itself stream operation) failed
  | readInventory stream =>
      exact Tolerated.weaken (fun _ _ => False) _ unreliable (fun _ => False.elim) failed
  | readOperation id =>
      exact Tolerated.weaken (fun _ _ => False) _ unreliable (fun _ => False.elim) failed

theorem lost_look_tolerated : ∃ state : Running Bool, Run compact desk state ∧
    state.Ended true (.readOperation order.operationId) (.error (.client .connectionClosed)) ∧
      Tolerated compact False (Job.Reuses compact (.readOperation order.operationId)) state.world
        (.client .connectionClosed) := by
  let looking : Running Bool := ⟨nothing, [], Function.update (fun _ => none) true
    (some ⟨.readOperation order.operationId, readOperation compact order.operationId⟩)⟩
  have look : (workers compact desk False).Step (.initial nothing) looking := .start true trivial
  obtain ⟨rest, asks, told⟩ : ∃ rest, looking.task true = some ⟨.readOperation order.operationId,
      .ask (.readStream (order.operationId.streamName compact.texts) operationOptions) rest⟩ ∧
      rest (.error .connectionClosed) = .done (.error (.client .connectionClosed)) := ⟨_, rfl, rfl⟩
  have lost : (store False).answers nothing
      (.readStream (order.operationId.streamName compact.texts) operationOptions)
      (.error .connectionClosed) := ⟨trivial, False.elim⟩
  let failed : Running Bool := { looking with
    task := Function.update looking.task true
      (some ⟨.readOperation order.operationId, .done (.error (.client .connectionClosed))⟩) }
  have step : (workers compact desk False).Step looking failed := by
    have received : (workers compact desk False).Step looking _ := .receive asks lost
    rwa [told] at received
  have ended : failed.task true = some ⟨.readOperation order.operationId,
      .done (.error (.client .connectionClosed))⟩ := Function.update_self true _ looking.task
  have run : Run compact desk failed := .tail (.single look) step
  exact ⟨failed, run, ended, failures_tolerated run ended⟩

end Runs

end TrogonEventStore.Reservation

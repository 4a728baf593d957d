import TrogonEventStore.ReservationFormats
import TrogonEventStore.ReservationRuns

namespace TrogonEventStore.Reservation

open Interaction

variable {formats : Formats} {workload : Workload formats.texts}

section Bounds

variable (formats)

theorem readOperation_within (id : OperationId) : (readOperation formats id).Within 1 :=
  (within_call _).bind 0 fun _ => within_done 0 _

theorem appendOperationEvent_within (id : OperationId) (expected : StreamState) (minimum : Nat)
    (event : EventData) : (appendOperationEvent formats id expected minimum event).Within 2 :=
  (within_call _).bind 1 fun _ => (readOperation_within formats id).bind 0 fun _ => within_done 0 _

theorem validateRequest_within (state : OperationState) (stream : String)
    (operation : InventoryOperation) :
    (do
      lift (validateRequest formats state stream operation)
      pure state : Program OperationState).Within 0 :=
  Within.bind (within_done 0 (validateRequest formats state stream operation)) 0
    fun _ => within_done 0 _

theorem claimOperation_within (stream : String) (operation : InventoryOperation) :
    (claimOperation formats stream operation).Within 5 := by
  refine (readOperation_within formats operation.operationId).bind 4 ?_
  intro found
  cases found with
  | some state => exact (validateRequest_within formats state stream operation).mono (Nat.zero_le 4)
  | none =>
      refine Within.bind (within_call _) 3 fun _ => ?_
      refine Within.bind (within_call _) 2 fun _ => ?_
      refine (appendOperationEvent_within formats _ _ _ _).bind 0 fun stored => ?_
      exact validateRequest_within formats stored.val stream operation

theorem decideRequested_within (request : OperationRequested) :
    (decideRequested formats request).Within 3 := by
  have read : (readInventory formats request.inventoryStream).Within 1 :=
    Within.bind (within_call _) 0 fun _ => within_done 0 _
  exact read.bind 2 fun _ => appendOperationEvent_within formats _ _ _ _

theorem appendInventory_within (request : OperationRequested) (prepared : OperationPrepared) :
    (appendInventory formats request prepared).Within 2 := by
  refine Within.bind (within_call _) 1 fun answer => ?_
  cases answer with
  | ok write => exact within_done 1 _
  | error error =>
      dsimp only
      split
      · refine Within.bind (within_call _) 0 fun answer => ?_
        refine Within.bind (within_done 0 (firstEvent answer)) 0 fun found => ?_
        cases found with
        | none => exact within_done 0 _
        | some stored => exact within_done 0 _
      · exact within_done 1 _

theorem finishPrepared_within (request : OperationRequested) (prepared : OperationPrepared) :
    (finishPrepared formats request prepared).Within 4 :=
  (appendInventory_within formats request prepared).bind 2 fun _ =>
    appendOperationEvent_within formats _ _ _ _

/-- What is left to ask of an operation that has come so far. -/
def remaining : Nat → Nat
  | 0 => 7
  | 1 => 4
  | _ => 0

theorem remaining_le {first second : Nat} (further : first + 1 ≤ second) :
    remaining second ≤ 4 ∧ (1 ≤ first → remaining second = 0) := by
  match second with
  | 0 => cases further
  | 1 => exact ⟨Nat.le_refl 4, fun positive => by omega⟩
  | second + 2 => exact ⟨Nat.zero_le 4, fun _ => rfl⟩

theorem settle_within (state : OperationState) :
    (settle formats state).Within (remaining state.revision) := by
  induction state using settle.induct with
  | case1 request ih =>
      rw [settle]
      refine (decideRequested_within formats request).bind 4 ?_
      intro next
      exact (ih next).mono (remaining_le next.property).1
  | case2 request prepared ih =>
      rw [settle]
      refine (finishPrepared_within formats request prepared).bind 0 ?_
      intro next
      exact (ih next).mono (Nat.le_of_eq ((remaining_le next.property).2 (Nat.le_refl 1)))
  | case3 request rejected =>
      rw [settle]
      exact within_done _ (terminalOutcome formats _)
  | case4 request prepared completed =>
      rw [settle]
      exact within_done _ (terminalOutcome formats _)
  | case5 request prepared conflicted =>
      rw [settle]
      exact within_done _ (terminalOutcome formats _)

theorem remaining_le_seven (revision : Nat) : remaining revision ≤ 7 := by
  match revision with
  | 0 => exact Nat.le_refl 7
  | 1 => decide
  | revision + 2 => exact Nat.zero_le 7

theorem executeOperation_within (stream : String) (operation : InventoryOperation) :
    (executeOperation formats stream operation).Within 12 := by
  refine (claimOperation_within formats stream operation).bind 7 ?_
  intro state
  exact (settle_within formats state).mono (remaining_le_seven state.revision)

theorem deliver_within (stream : String) (operation : InventoryOperation) (left : Nat) :
    (deliver formats stream operation left).Within (12 * left) := by
  induction left with
  | zero => exact within_done 0 _
  | succ left ih =>
      rw [Nat.mul_succ, Nat.add_comm]
      refine (executeOperation_within formats stream operation).attempt.bind (12 * left) ?_
      intro result
      cases result with
      | ok outcome => exact within_done _ _
      | error failure =>
          dsimp only
          split
          · exact ih
          · exact within_done _ _

theorem deliverWithRetries_within (stream : String) (operation : InventoryOperation) :
    (deliverWithRetries formats stream operation).Within 36 :=
  deliver_within formats stream operation maxDeliveryAttempts

end Bounds

section Deliveries

variable {streams : Streams} {stream : String} {operation : InventoryOperation}

/-- What a delivery comes back with when nothing is in its way: the outcome, or that its id is in
use for something else. -/
def Delivered (formats : Formats) (streams : Streams) (stream : String)
    (operation : InventoryOperation) : Except Failure OperationOutcome → Prop
  | .ok outcome => Settled formats streams stream operation outcome
  | .error failure => failure = .operationIdConflict operation.operationId ∧
      Reused formats streams stream operation operation.operationId

theorem delivered {result : Except Failure OperationOutcome}
    (judged : Judged (fun after => Settled formats after stream operation)
      (Tolerated formats True fun after => Reused formats after stream operation) streams result) :
    Delivered formats streams stream operation result ∨ streams.Full := by
  cases result with
  | ok outcome => exact Or.inl judged
  | error failure =>
      cases failure with
      | client error => exact Or.inr (Or.resolve_left judged (not_not_intro trivial))
      | invalidOperationStream message =>
          exact Or.inr (Or.resolve_left judged.1 (not_not_intro trivial))
      | operationIdConflict id =>
          obtain ⟨rfl, used⟩ := judged
          exact Or.inl ⟨rfl, rfl, used⟩
      | json complaint => cases judged
      | panicked => cases judged

/-- A delivery by itself comes to its end, as long as there is room for all that it may append. -/
theorem delivery_alone (lawful : Lawful formats workload streams)
    (stocked : Stocked formats workload streams)
    (room : ∀ stream, (streams stream).length + 37 < u64Bound)
    (offered : workload.operation stream operation) :
    Delivered formats ((deliverWithRetries formats stream operation).run Memory.serve streams).2
      stream operation
      ((deliverWithRetries formats stream operation).run Memory.serve streams).1 := by
  have keeps : (deliverWithRetries formats stream operation).Keeps
      (contract formats workload True) (fun after => Settled formats after stream operation)
      (Tolerated formats True fun after => Reused formats after stream operation) streams :=
    deliverWithRetries_keeps ⟨lawful, fun _ => stocked⟩ offered
  have judged := (keeps.run (fun streams call => Memory.serve_serves streams True call)
    ⟨lawful, fun _ => stocked⟩).2
  rcases delivered judged with settled | ⟨other, full⟩
  · exact settled
  · have grown := (deliverWithRetries_within formats stream operation).run_le Memory.serve streams
      (fun after => (after other).length) (fun after call => Memory.serve_length after other call)
    have small := room other
    omega

end Deliveries

section Desk

def deskInventory : InventoryCreated := ⟨"widget", 1⟩

def order : InventoryOperation := .reserve ⟨⟨2⟩, ⟨3⟩, "checkout-worker", "widget", 1⟩

theorem streamName_start (texts : UuidTexts) (id : OperationId) :
    (id.streamName texts).toList.take 11 = "inventory-o".toList := by
  have long : 11 ≤ "inventory-operation-".toList.length := by simp
  have split : (id.streamName texts).toList =
      "inventory-operation-".toList ++ (texts.display id.uuid).toList := String.toList_append
  rw [split, List.take_append_of_le_length long]
  simp

theorem desk_apart (texts : UuidTexts) (id : OperationId) :
    "inventory-widget" ≠ id.streamName texts := by
  intro same
  have start := streamName_start texts id
  rw [← same] at start
  simp at start

def desk : Workload compact.texts where
  creation stream inventory eventId :=
    stream = "inventory-widget" ∧ inventory = deskInventory ∧ eventId = 1
  operation stream operation := stream = "inventory-widget" ∧ operation = order
  creation_apart := by
    rintro stream inventory eventId ⟨rfl, _⟩
    exact desk_apart compact.texts
  operation_apart := by
    rintro stream operation ⟨rfl, _⟩
    exact desk_apart compact.texts
  distinct := by
    rintro stream first second ⟨_, one⟩ ⟨_, other⟩ _
    cases one
    cases other
    rfl

def deskStreams : Streams :=
  nothing.append "inventory-widget"
    (Memory.recorded "inventory-widget" (eventData compact (.created deskInventory) 1) 0)

theorem desk_created : ∃ state : Running Bool, Run compact desk state ∧
    state.world = deskStreams := by
  have offered : Job.Offered desk (.createInventory "inventory-widget" deskInventory 1) :=
    ⟨rfl, rfl, rfl⟩
  obtain ⟨last, steps, world, _⟩ :=
    @alone_ends compact desk Bool _ False (.initial nothing) true _ offered
  exact ⟨last, steps, world⟩

theorem desk_stocked : Stocked compact desk deskStreams := by
  rintro stream operation ⟨rfl, _⟩ empty
  rw [deskStreams, Streams.append, Function.update_self] at empty
  cases empty

theorem desk_room (stream : String) : (deskStreams stream).length ≤ 1 := by
  by_cases here : stream = "inventory-widget"
  · subst here
    rw [deskStreams, Streams.append, Function.update_self]
    exact Nat.le_refl 1
  · rw [deskStreams, Streams.append, Function.update_of_ne here]
    exact Nat.zero_le 1

theorem desk_space {streams : Streams} (same : streams = deskStreams) (stream : String) :
    (streams stream).length + 37 < u64Bound := by
  have bound : 38 < u64Bound := by decide
  have length := desk_room stream
  rw [same]
  omega

theorem order_unused {streams : Streams} (lawful : Lawful compact desk streams) {id : OperationId} :
    ¬ Reused compact streams "inventory-widget" order id := by
  rintro ⟨_, request, requested, differs⟩
  exact differs (lawful.requested requested).2

theorem desk_delivers {state : Running Bool} (run : Run compact desk state)
    (stocked : Stocked compact desk state.world)
    (room : ∀ stream, (state.world stream).length + 37 < u64Bound) (party : Bool) :
    ∃ last outcome, GoesOn compact desk state last ∧
      last.Ended party (.deliver "inventory-widget" order) (.ok outcome) ∧
      ∀ stream, (last.world stream).length ≤ (state.world stream).length + 36 := by
  have offered : Job.Offered desk (.deliver "inventory-widget" order) := ⟨rfl, rfl⟩
  obtain ⟨last, goes, world, ended⟩ := alone_ends False state party offered
  have settled := delivery_alone run.lawful stocked room offered
  have lawful : Lawful compact desk last.world := (run.goes goes).lawful
  have grown : ∀ stream, (last.world stream).length ≤ (state.world stream).length + 36 := by
    intro stream
    rw [world]
    exact (deliverWithRetries_within compact "inventory-widget" order).run_le Memory.serve
      state.world (fun after => (after stream).length)
      (fun after call => Memory.serve_length after stream call)
  change last.Ended party (.deliver "inventory-widget" order)
    ((deliverWithRetries compact "inventory-widget" order).run Memory.serve state.world).1 at ended
  cases came : ((deliverWithRetries compact "inventory-widget" order).run Memory.serve
      state.world).1 with
  | ok outcome =>
      rw [came] at ended
      exact ⟨last, outcome, goes, ended, grown⟩
  | error failure =>
      rw [came] at settled
      change last.world = ((deliverWithRetries compact "inventory-widget" order).run Memory.serve
        state.world).2 at world
      rw [← world] at settled
      exact absurd settled.2 (order_unused lawful)

theorem desk_delivers_twice : ∃ (state middle last : Running Bool) (first second : OperationOutcome),
    Run compact desk state ∧ state.world = deskStreams ∧ GoesOn compact desk state middle ∧
      GoesOn compact desk middle last ∧
      middle.Ended true (.deliver "inventory-widget" order) (.ok first) ∧
      last.Ended false (.deliver "inventory-widget" order) (.ok second) := by
  obtain ⟨state, run, world⟩ := desk_created
  have stocked : Stocked compact desk state.world := world ▸ desk_stocked
  have short : ∀ stream, (state.world stream).length ≤ 1 := world ▸ desk_room
  have bound : 74 < u64Bound := by decide
  obtain ⟨middle, first, goes, ended, grown⟩ := desk_delivers run stocked
    (fun stream => by have length := short stream; omega) true
  have after : ∀ stream, (middle.world stream).length + 37 < u64Bound := by
    intro stream
    have length := short stream
    have longer := grown stream
    omega
  obtain ⟨last, second, more, again, _⟩ := desk_delivers (run.goes goes)
    (stocked.later compact (run.grows goes)) after false
  exact ⟨state, middle, last, first, second, run, world, goes, more, ended, again⟩

end Desk

section Ends

variable {Party : Type} [DecidableEq Party] {state next : Running Party} {party : Party}
variable {stream : String} {operation : InventoryOperation}

/-- Every answer brings a delivery nearer to its end, whatever the other workers and the store do:
after at most 36 of them it has come back. -/
theorem deliveries_end {prompt : Prop} {count : Nat}
    (goes : (workers formats workload prompt).Goes party count state next)
    (started : state.task party =
      some ⟨.deliver stream operation, deliverWithRetries formats stream operation⟩) :
    count ≤ 36 ∧ (count = 36 → ∃ result, next.Ended party (.deliver stream operation) result) :=
  goes.ended started (deliverWithRetries_within formats stream operation)

theorem order_ends : ∃ (state begun next : Running Bool) (count : Nat)
    (result : Except Failure OperationOutcome), Run compact desk state ∧
      (workers compact desk False).Step state begun ∧
      begun.task true = some ⟨.deliver "inventory-widget" order,
        deliverWithRetries compact "inventory-widget" order⟩ ∧
      (workers compact desk False).Goes true count begun next ∧
      next.Ended true (.deliver "inventory-widget" order) result ∧
      Delivered compact next.world "inventory-widget" order result ∧ count ≤ 36 ∧
      (count = 36 → ∃ result, next.Ended true (.deliver "inventory-widget" order) result) := by
  obtain ⟨state, run, world⟩ := desk_created
  have brought : Job.Offered desk (.deliver "inventory-widget" order) := ⟨rfl, rfl⟩
  obtain ⟨count, begun, next, start, running, goes, after, ended⟩ :=
    alone_goes False state true brought
  have delivered := delivery_alone run.lawful (world ▸ desk_stocked) (desk_space world)
    (⟨rfl, rfl⟩ : desk.operation "inventory-widget" order)
  change next.world = _ at after
  refine ⟨state, begun, next, count, _, run, start, running, goes, ended, ?_,
    deliveries_end goes running⟩
  rw [after]
  exact delivered

/-- All workers may crash, with requests on their way: once the store answers promptly, every delivery
that comes back does so with the outcome, or finds its id in use, unless a stream is full. -/
theorem deliveries_recover (run : Run formats workload state)
    (stocked : Stocked formats workload state.world)
    (steps : Relation.ReflTransGen (workers formats workload True).Step
      ⟨state.world, state.sent, fun _ => none⟩ next)
    {result : Except Failure OperationOutcome}
    (ended : next.Ended party (.deliver stream operation) result) :
    Delivered formats next.world stream operation result ∨ next.world.Full := by
  have sound : (⟨state.world, state.sent, fun _ => none⟩ : Running Party).Sound
      (contract formats workload True) (promises formats workload True) := by
    refine ⟨⟨run.lawful, fun _ => stocked⟩, run.sound.sent, ?_⟩
    intro other task absent
    cases absent
  exact delivered ((sound.steps (workers_honour True) steps).1.judged ended)

/-- A worker crashes when it has claimed the order, and another one delivers it. -/
theorem order_recovers : ∃ (state next : Running Bool) (claimed : Except Failure OperationState)
    (result : Except Failure OperationOutcome), Run compact desk state ∧
      state.Ended false (.claim "inventory-widget" order) claimed ∧
      Relation.ReflTransGen (workers compact desk True).Step
        ⟨state.world, state.sent, fun _ => none⟩ next ∧
      next.Ended true (.deliver "inventory-widget" order) result ∧
      (Delivered compact next.world "inventory-widget" order result ∨ next.world.Full) := by
  obtain ⟨first, run, world⟩ := desk_created
  have claims : Job.Offered desk (.claim "inventory-widget" order) := ⟨rfl, rfl⟩
  obtain ⟨state, goes, _, claimed⟩ := alone_ends False first false claims
  have stocked : Stocked compact desk first.world := world ▸ desk_stocked
  have offered : Job.Offered desk (.deliver "inventory-widget" order) := ⟨rfl, rfl⟩
  obtain ⟨next, steps, _, ended⟩ := @alone_ends compact desk Bool _ True
    ⟨state.world, state.sent, fun _ => none⟩ true _ offered
  exact ⟨state, next, _, _, run.goes goes, claimed, steps, ended,
    deliveries_recover (run.goes goes) (stocked.later compact (run.grows goes)) steps ended⟩

/-- However a run has gone on, one worker by itself can bring any operation to its end. -/
theorem deliveries_resume (run : Run formats workload state)
    (stocked : Stocked formats workload state.world)
    (room : ∀ stream, (state.world stream).length + 37 < u64Bound)
    (offered : workload.operation stream operation) (party : Party) :
    ∃ last result, GoesOn formats workload state last ∧
      last.Ended party (.deliver stream operation) result ∧
      Delivered formats last.world stream operation result := by
  have brought : Job.Offered workload (.deliver stream operation) := offered
  obtain ⟨last, steps, world, ended⟩ := alone_ends False state party brought
  refine ⟨last, _, steps, ended, ?_⟩
  rw [world]
  exact delivery_alone run.lawful stocked room offered

theorem order_resumes : ∃ (state last : Running Bool) (result : Except Failure OperationOutcome),
    Run compact desk state ∧ GoesOn compact desk state last ∧
      last.Ended true (.deliver "inventory-widget" order) result ∧
      Delivered compact last.world "inventory-widget" order result := by
  obtain ⟨state, run, world⟩ := desk_created
  have stocked : Stocked compact desk state.world := world ▸ desk_stocked
  have room := desk_space world
  have offered : desk.operation "inventory-widget" order := ⟨rfl, rfl⟩
  obtain ⟨last, result, goes, ended, delivered⟩ := deliveries_resume run stocked room offered true
  exact ⟨state, last, result, run, goes, ended, delivered⟩

end Ends

end TrogonEventStore.Reservation

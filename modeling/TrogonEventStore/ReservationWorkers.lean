import TrogonEventStore.ReservationInventory

namespace TrogonEventStore.Reservation

open Interaction

variable {formats : Formats} {workload : Workload formats.texts} {streams after : Streams}
variable {id : OperationId}

theorem Reached.requested {state : OperationState} (reached : Reached formats streams id state) :
    Requested formats streams id state.request := by
  cases state with
  | requested request => exact reached
  | prepared request prepared => exact Prepared.requested reached
  | rejected request rejected => exact reached.1
  | completed request prepared completed => exact reached.1.requested
  | conflicted request prepared conflicted => exact reached.1.requested

theorem Reached.later {state : OperationState} (grows : streams.Later after)
    (reached : Reached formats streams id state) : Reached formats after id state := by
  cases state with
  | requested request => exact Requested.later grows reached
  | prepared request prepared => exact Prepared.later grows reached
  | rejected request rejected =>
      exact ⟨reached.1.later grows, reached.2.1.later grows, reached.2.2⟩
  | completed request prepared completed =>
      exact ⟨reached.1.later grows, reached.2.1.later grows, reached.2.2⟩
  | conflicted request prepared conflicted =>
      exact ⟨reached.1.later grows, reached.2.1.later grows, reached.2.2⟩

/-- An id is in use for something else. -/
def Reused (formats : Formats) (streams : Streams) (inventoryStream : String)
    (operation : InventoryOperation) (id : OperationId) : Prop :=
  id = operation.operationId ∧ ∃ request, Requested formats streams id request ∧
    ¬ (request.inventoryStream = inventoryStream ∧ request.operation = operation)

/-- Nothing better can be expected of a store that is not prompt, or full. -/
def Excused (prompt : Prop) (streams : Streams) : Prop := ¬ prompt ∨ streams.Full

/-- How a job may fail: through the client, with an append that is not seen yet, or because an id is
in use for something else. No assertion fails, and every stored event can be read. -/
def Tolerated (formats : Formats) (prompt : Prop) (reused : Streams → OperationId → Prop)
    (streams : Streams) : Failure → Prop
  | .client _ => Excused prompt streams
  | .invalidOperationStream message => Excused prompt streams ∧ ∃ id : OperationId,
      message = id.streamName formats.texts ++ ": " ++ "did not retain the appended transition"
  | .operationIdConflict id => reused streams id
  | .json _ => False
  | .panicked => False

theorem Reused.later {inventoryStream : String} {operation : InventoryOperation}
    (grows : streams.Later after) (reused : Reused formats streams inventoryStream operation id) :
    Reused formats after inventoryStream operation id := by
  obtain ⟨same, request, requested, differs⟩ := reused
  exact ⟨same, request, requested.later grows, differs⟩

theorem Excused.later {prompt : Prop} (grows : streams.Later after)
    (excused : Excused prompt streams) : Excused prompt after :=
  excused.imp_right grows.full

theorem Tolerated.later {prompt : Prop} (reused : Streams → OperationId → Prop)
    (grows : streams.Later after) (kept : ∀ id, reused streams id → reused after id)
    {failure : Failure} (tolerated : Tolerated formats prompt reused streams failure) :
    Tolerated formats prompt reused after failure := by
  cases failure with
  | client error => exact Excused.later grows tolerated
  | invalidOperationStream message => exact ⟨tolerated.1.later grows, tolerated.2⟩
  | operationIdConflict id => exact kept id tolerated
  | json complaint => exact tolerated
  | panicked => exact tolerated

section Programs

variable {prompt : Prop} {reused : Streams → OperationId → Prop}

theorem readStream_keeps (stream : String) (options : ReadStreamOptions)
    {failed : Streams → Failure → Prop} :
    Keeps (contract formats workload prompt)
      (fun after answer => (store prompt).answers after (.readStream stream options) answer)
      failed streams (readStream stream options) :=
  keeps_call trivial fun _ _ _ _ answered => answered

theorem appendToStream_keeps {stream : String} {expected : StreamState} {event : EventData}
    (allowed : Allowed formats workload streams (.appendToStream stream expected event))
    {failed : Streams → Failure → Prop} :
    Keeps (contract formats workload prompt)
      (fun after answer => (store prompt).answers after (.appendToStream stream expected event)
        answer)
      failed streams (appendToStream stream expected event) :=
  keeps_call allowed fun _ _ _ _ answered => answered

theorem Lawful.learned_prompt (lawful : Lawful formats workload streams)
    {answer : Except Error Events}
    (answered : Prompt streams (.readStream (id.streamName formats.texts) operationOptions) answer) :
    ∃ found, operationOf formats id answer = .ok found ∧
      found.elim 0 (fun state => state.revision + 1) =
        (streams (id.streamName formats.texts)).length := by
  obtain ⟨events, rfl, ended | ⟨empty, missing⟩, shown⟩ := answered
  · obtain ⟨found, read, _, counted⟩ := lawful.learned_whole ended shown
    exact ⟨found, read, counted⟩
  · refine ⟨none, ?_, ?_⟩
    · rw [empty] at shown
      have nothing := List.map_eq_nil_iff.mp shown.symm
      rw [operationOf, nothing, missing]
      rfl
    · rw [empty]
      rfl

theorem readOperation_keeps (holds : (contract formats workload prompt).lawful streams) :
    Keeps (contract formats workload prompt)
      (fun after found => (∀ state, found = some state → Reached formats after id state) ∧
        (prompt → found.elim 0 (fun state => state.revision + 1) =
          (after (id.streamName formats.texts)).length))
      (Tolerated formats prompt reused) streams (readOperation formats id) := by
  refine (readStream_keeps _ _).bind holds ?_
  intro after answer lawful grows answered
  have learned := lawful.1.learned answered.1
  change Judged _ _ after (operationOf formats id answer)
  cases came : operationOf formats id answer with
  | error failure =>
      rw [came] at learned
      cases failure with
      | client error =>
          refine Or.inl fun holds => ?_
          obtain ⟨found, read, _⟩ := lawful.1.learned_prompt (answered.2 holds)
          rw [came] at read
          cases read
      | _ => cases learned
  | ok found =>
      rw [came] at learned
      refine ⟨?_, ?_⟩
      · rintro state rfl
        exact learned
      · intro holds
        obtain ⟨other, read, counted⟩ := lawful.1.learned_prompt (answered.2 holds)
        obtain rfl : found = other := Except.ok.inj (came.symm.trans read)
        exact counted

theorem place_taken {stream : String} {expected : StreamState} {event : EventData} {minimum : Nat}
    {answer : Except Error WriteResult} (meant : ∀ place, Admits expected place → place = minimum)
    (within : minimum ≤ (streams stream).length)
    (answered : (store prompt).answers streams (.appendToStream stream expected event) answer)
    (holds : prompt) : streams.Full ∨ minimum < (streams stream).length := by
  rcases answered.2 holds with ⟨write, rfl⟩ | full | ⟨place, admits, apart, _⟩
  · obtain ⟨place, recorded, found, admits, _⟩ := answered.1
    rw [meant place admits] at found
    exact Or.inr (List.getElem?_eq_some_iff.mp found).1
  · exact Or.inl full
  · rw [meant place admits] at apart
    exact Or.inr (Nat.lt_of_le_of_ne within apart)

/-- An append to an operation stream and the read after it: the operation has come as far as was
meant, unless the store is to be excused. -/
theorem appendOperationEvent_keeps (holds : (contract formats workload prompt).lawful streams)
    {expected : StreamState} {minimum : Nat} {body : EventBody} {eventId : Uuid}
    (meant : ∀ place, Admits expected place → place = minimum)
    (justified : Justified formats workload streams (id.streamName formats.texts) minimum eventId
      body) (bounded : body.Bounded) :
    Keeps (contract formats workload prompt)
      (fun after state => Reached formats after id state.val)
      (Tolerated formats prompt reused) streams
      (appendOperationEvent formats id expected minimum (eventData formats body eventId)) := by
  have allowed : Allowed formats workload streams
      (.appendToStream (id.streamName formats.texts) expected (eventData formats body eventId)) := by
    refine ⟨body, eventId, rfl, bounded, ?_⟩
    intro place admits
    rw [meant place admits]
    exact justified
  refine (appendToStream_keeps allowed).bind holds ?_
  intro middle answer lawful grown answered
  have within : minimum ≤ (middle (id.streamName formats.texts)).length :=
    Nat.le_trans (holds.1.within justified) (grown (id.streamName formats.texts)).length_le
  refine (readOperation_keeps lawful).bind lawful ?_
  rintro after found _ grows ⟨reached, counted⟩
  have refused (short : found.elim 0 (fun state => state.revision + 1) ≤ minimum) :
      Tolerated formats prompt reused after
        (notRetained (id.streamName formats.texts) answer) := by
    have excused : Excused prompt after := by
      by_cases relied : prompt
      · rcases place_taken meant within answered relied with full | long
        · exact Or.inr (Streams.Later.full grows full)
        · have kept := (grows (id.streamName formats.texts)).length_le
          have length := counted relied
          omega
      · exact Or.inl relied
    cases answer with
    | error error => exact excused
    | ok write => exact ⟨excused, id, rfl⟩
  change Judged _ _ after (retained minimum _ found)
  cases found with
  | none => exact refused (Nat.zero_le _)
  | some state =>
      rw [retained]
      split
      · exact reached state rfl
      · next short => exact refused (Nat.lt_of_not_le short)

end Programs

structure Claimed (formats : Formats) (streams : Streams) (inventoryStream : String)
    (operation : InventoryOperation) (state : OperationState) : Prop where
  reached : Reached formats streams operation.operationId state
  sameStream : state.request.inventoryStream = inventoryStream
  sameOperation : state.request.operation = operation

theorem Claimed.later {inventoryStream : String} {operation : InventoryOperation}
    {state : OperationState} (grows : streams.Later after)
    (claimed : Claimed formats streams inventoryStream operation state) :
    Claimed formats after inventoryStream operation state where
  reached := claimed.reached.later grows
  sameStream := claimed.sameStream
  sameOperation := claimed.sameOperation

section Claims

variable {prompt : Prop} {inventoryStream : String} {operation : InventoryOperation}

theorem validateRequest_keeps (holds : (contract formats workload prompt).lawful streams)
    {state : OperationState} (reached : Reached formats streams operation.operationId state) :
    Keeps (contract formats workload prompt)
      (fun after => Claimed formats after inventoryStream operation)
      (Tolerated formats prompt fun after => Reused formats after inventoryStream operation) streams
      (do
        lift (validateRequest formats state inventoryStream operation)
        pure state) := by
  have consistent := (holds.1.requested reached.requested).1
  unfold validateRequest
  dsimp only
  split
  · next differs =>
      refine ⟨rfl, state.request, reached.requested, ?_⟩
      rintro ⟨sameStream, sameOperation⟩
      rcases differs with stream | other | type | payload
      · exact stream sameStream
      · exact other sameOperation
      · exact type (consistent.inventoryEventType.trans (by rw [sameOperation]))
      · exact payload (consistent.inventoryEventPayload.trans (by rw [sameOperation]))
  · next same =>
      have known := not_or.mp same
      exact ⟨reached, not_not.mp known.1, not_not.mp (not_or.mp known.2).1⟩

theorem newV4_keeps {failed : Streams → Failure → Prop} :
    Keeps (contract formats workload prompt) (fun _ _ => True) failed streams newV4 :=
  keeps_call trivial fun _ _ _ _ _ => trivial

theorem OperationRequested.of_justified (offered : workload.operation inventoryStream operation)
    (decisionEventId terminalEventId : Uuid) :
    Justified formats workload streams (operation.operationId.streamName formats.texts) 0
      operation.operationId.uuid (.requested (.of formats inventoryStream operation decisionEventId
        terminalEventId)) :=
  ⟨operation.operationId, rfl, rfl, rfl, ⟨rfl, rfl, rfl, rfl, rfl⟩, offered⟩

/-- A claim gives the operation as it was first asked for, however many workers claim it. -/
theorem claimOperation_keeps (holds : (contract formats workload prompt).lawful streams)
    (offered : workload.operation inventoryStream operation) :
    Keeps (contract formats workload prompt)
      (fun after => Claimed formats after inventoryStream operation)
      (Tolerated formats prompt fun after => Reused formats after inventoryStream operation) streams
      (claimOperation formats inventoryStream operation) := by
  refine (readOperation_keeps holds).bind holds ?_
  rintro after found lawful _ ⟨reached, _⟩
  cases found with
  | some state => exact validateRequest_keeps lawful (reached state rfl)
  | none =>
      refine newV4_keeps.bind lawful ?_
      intro after decisionEventId lawful _ _
      refine newV4_keeps.bind lawful ?_
      intro after terminalEventId lawful _ _
      have first : ∀ place, Admits .noStream place → place = 0 := fun _ empty => empty
      refine (appendOperationEvent_keeps lawful first (OperationRequested.of_justified offered
        decisionEventId terminalEventId) trivial).bind lawful ?_
      intro after state lawful _ reached
      exact validateRequest_keeps lawful reached

end Claims

end TrogonEventStore.Reservation

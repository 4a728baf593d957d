import TrogonEventStore.ReservationInvariant

namespace TrogonEventStore.Reservation

variable {formats : Formats} {workload : Workload formats.texts} {streams : Streams}

theorem visit_shown {State : Type} (step : State → RecordedEvent → Except Failure State)
    (start : State) {events : List ResolvedEvent} {listed : List RecordedEvent}
    (shown : events.map ResolvedEvent.getOriginalEvent = listed.map some) :
    visit step start events = listed.foldlM step start := by
  induction events generalizing start listed with
  | nil =>
      obtain rfl : listed = [] := List.map_eq_nil_iff.mp shown.symm
      rfl
  | cons event events ih =>
      cases listed with
      | nil => cases shown
      | cons first listed =>
          obtain ⟨original, rest⟩ := List.cons.inj shown
          rw [visit, List.foldlM_cons, List.foldlM_cons, originalEvent_some original]
          change (step start first >>= fun next => visit step next events) = _
          cases step start first with
          | error failure => rfl
          | ok next => exact ih next rest

/-- A read forward from the start shows the first events of the stream, and at least one unless it
breaks off. -/
theorem shown_from_start {seen : List RecordedEvent} {stream : String}
    {options : ReadStreamOptions} {events : Events} (prefixed : seen <+: streams stream)
    (shows : Shows seen options events) (forward : options.direction = .forward)
    (start : options.position = .start) (wanted : 0 < options.maxCount) :
    ∃ count, count ≤ (streams stream).length ∧
      events.pending.map ResolvedEvent.getOriginalEvent = ((streams stream).take count).map some ∧
      (events.ending = none → 0 < count) := by
  obtain ⟨rest, split, ended⟩ := shows
  have chosen : Server.chosen options seen = seen.take options.maxCount := by
    rw [Server.chosen, forward, start, Server.ordered]
  rw [chosen] at split
  have lengths := congrArg List.length split
  rw [List.length_map, List.length_append, List.length_map, List.length_take] at lengths
  have shorter := prefixed.length_le
  refine ⟨events.pending.length, by omega, ?_, ?_⟩
  · obtain ⟨more, grown⟩ := prefixed
    have first : ((seen.take options.maxCount).map some).take events.pending.length =
        ((streams stream).take events.pending.length).map some := by
      rw [← List.map_take, List.take_take, ← grown, List.take_append_of_le_length (by omega)]
      congr 2
      omega
    have shown := congrArg (List.take events.pending.length) split
    rw [first, List.take_left' (List.length_map _)] at shown
    exact shown.symm
  · intro whole
    obtain ⟨rfl, present⟩ := ended whole
    have some_seen := List.length_pos_iff.mpr present
    rw [List.length_nil] at lengths
    omega

section Entries

/-- `as_json` of an event that holds a body. -/
theorem asJson_holds {Value : Type} {read : Serde.Read Value} {recorded : RecordedEvent}
    {body : EventBody} {value : Value} (holds : Holds formats recorded body)
    (reads : read (body.serialize formats.texts) = .ok value) :
    asJson formats read recorded = .ok value := by
  have document : formats.json.document recorded.data = some (body.serialize formats.texts) := by
    rw [holds.data]
    exact formats.readsBack body holds.bounded
  rw [asJson, document, Option.map_some, reads]

theorem Lawful.requested (lawful : Lawful formats workload streams) {id : OperationId}
    {request : OperationRequested} (requested : Requested formats streams id request) :
    request.Consistent formats id ∧ workload.operation request.inventoryStream request.operation := by
  obtain ⟨recorded, found, named, holds⟩ := requested
  obtain ⟨body, also, justified⟩ := lawful.justified found
  obtain rfl := holds.unique also
  obtain ⟨other, _, named', _, consistent, offered⟩ := justified
  obtain rfl := OperationId.streamName_injective named'
  exact ⟨consistent, offered⟩

theorem Lawful.not_entered (lawful : Lawful formats workload streams) {id : OperationId}
    {place : Nat} {eventId : Uuid} {operation : InventoryOperation} :
    ¬ Entered formats streams (id.streamName formats.texts) place eventId operation := by
  rintro ⟨request, prepared, stored, rfl, named, _⟩
  exact workload.operation_apart (lawful.requested stored.requested).2 id named

variable (formats workload streams) in
/-- What stands in the stream of an operation, by its place. -/
inductive OperationEntry (id : OperationId) (recorded : RecordedEvent) : Nat → Prop where
  | requested {request : OperationRequested} (holds : Holds formats recorded (.requested request))
      (named : recorded.id = id.uuid) (consistent : request.Consistent formats id)
      (offered : workload.operation request.inventoryStream request.operation) :
      OperationEntry id recorded 0
  | prepared {request : OperationRequested} {prepared : OperationPrepared}
      (stored : Requested formats streams id request)
      (holds : Holds formats recorded (.prepared prepared))
      (named : recorded.id = request.decisionEventId) (own : prepared.operationId = id) :
      OperationEntry id recorded 1
  | rejected {request : OperationRequested} {rejected : OperationRejected}
      (stored : Requested formats streams id request)
      (holds : Holds formats recorded (.rejected rejected))
      (named : recorded.id = request.decisionEventId) (own : rejected.operationId = id) :
      OperationEntry id recorded 1
  | completed {request : OperationRequested} {prepared : OperationPrepared}
      {completed : OperationCompleted} (stored : Prepared formats streams id request prepared)
      (holds : Holds formats recorded (.completed completed))
      (named : recorded.id = request.terminalEventId) (own : completed.operationId = id) :
      OperationEntry id recorded 2
  | conflicted {request : OperationRequested} {prepared : OperationPrepared}
      {conflicted : OperationConflicted} (stored : Prepared formats streams id request prepared)
      (holds : Holds formats recorded (.conflicted conflicted))
      (named : recorded.id = request.terminalEventId) (own : conflicted.operationId = id) :
      OperationEntry id recorded 2

theorem Lawful.operation_entry (lawful : Lawful formats workload streams) {id : OperationId}
    {place : Nat} {recorded : RecordedEvent}
    (found : (streams (id.streamName formats.texts))[place]? = some recorded) :
    OperationEntry formats workload streams id recorded place := by
  obtain ⟨body, holds, justified⟩ := lawful.justified found
  cases body with
  | created inventory => exact absurd rfl (workload.creation_apart justified.2 id)
  | reserved event => exact absurd justified lawful.not_entered
  | released event => exact absurd justified lawful.not_entered
  | requested request =>
      obtain ⟨other, rfl, named, sameId, consistent, offered⟩ := justified
      obtain rfl := OperationId.streamName_injective named
      exact .requested holds sameId consistent offered
  | prepared prepared =>
      obtain ⟨request, rfl, named, sameId, stored, _⟩ := justified
      obtain rfl := OperationId.streamName_injective named
      exact .prepared stored holds sameId rfl
  | rejected rejected =>
      obtain ⟨request, rfl, named, sameId, stored, _⟩ := justified
      obtain rfl := OperationId.streamName_injective named
      exact .rejected stored holds sameId rfl
  | completed completed =>
      obtain ⟨request, prepared, rfl, named, sameId, stored, _⟩ := justified
      obtain rfl := OperationId.streamName_injective named
      exact .completed stored holds sameId rfl
  | conflicted conflicted =>
      obtain ⟨request, prepared, rfl, named, sameId, stored, _⟩ := justified
      obtain rfl := OperationId.streamName_injective named
      exact .conflicted stored holds sameId rfl

theorem Lawful.operation_length (lawful : Lawful formats workload streams) (id : OperationId) :
    (streams (id.streamName formats.texts)).length ≤ 3 := by
  apply Nat.le_of_not_lt
  intro long
  have entry := lawful.operation_entry (List.getElem?_eq_getElem long)
  cases entry

end Entries

theorem foldlM_take_succ {State : Type} {log : List RecordedEvent} {count : Nat}
    {event : RecordedEvent} (found : log[count]? = some event)
    (step : State → RecordedEvent → Except Failure State) (start : State) :
    (log.take (count + 1)).foldlM step start =
      ((log.take count).foldlM step start).bind fun state => step state event := by
  rw [List.take_add_one, found, List.foldlM_append]
  cases (log.take count).foldlM step start with
  | error failure => rfl
  | ok state =>
      change (step state event >>= pure) = step state event
      rw [bind_pure]

section OperationFold

variable {stream : String} {fold : OperationFold} {recorded : RecordedEvent}

theorem OperationFold.apply_requested {request : OperationRequested}
    (holds : Holds formats recorded (.requested request)) (placed : recorded.revision = 0)
    (fresh : fold.requested = none) :
    fold.apply formats stream recorded =
      .ok { fold with requested := some (recorded.id, request) } := by
  have type : recorded.eventType = operationRequestedEventType := holds.eventType
  have unset : fold.requested.isNone := by rw [fresh]; rfl
  rw [apply, if_pos ⟨type, placed, unset⟩,
    asJson_holds holds (request.deserialize_serialize formats.texts)]
  rfl

theorem OperationFold.apply_prepared {prepared : OperationPrepared}
    (holds : Holds formats recorded (.prepared prepared)) (placed : recorded.revision = 1)
    (fresh : fold.decision = none) :
    fold.apply formats stream recorded =
      .ok { fold with decision := some (.prepared recorded.id prepared) } := by
  have type : recorded.eventType = operationPreparedEventType := holds.eventType
  have unset : fold.decision.isNone := by rw [fresh]; rfl
  rw [apply, if_neg (by omega), if_pos ⟨type, placed, unset⟩,
    asJson_holds holds (OperationPrepared.deserialize_serialize formats.texts holds.bounded)]
  rfl

theorem OperationFold.apply_rejected {rejected : OperationRejected}
    (holds : Holds formats recorded (.rejected rejected)) (placed : recorded.revision = 1)
    (fresh : fold.decision = none) :
    fold.apply formats stream recorded =
      .ok { fold with decision := some (.rejected recorded.id rejected) } := by
  have type : recorded.eventType = operationRejectedEventType := holds.eventType
  have other : recorded.eventType ≠ operationPreparedEventType := by
    rw [type]
    decide
  have unset : fold.decision.isNone := by rw [fresh]; rfl
  rw [apply, if_neg (by omega), if_neg fun given => other given.1, if_pos ⟨type, placed, unset⟩,
    asJson_holds holds (rejected.deserialize_serialize formats.texts)]
  rfl

theorem OperationFold.apply_completed {completed : OperationCompleted}
    (holds : Holds formats recorded (.completed completed)) (placed : recorded.revision = 2)
    (fresh : fold.terminal = none) :
    fold.apply formats stream recorded =
      .ok { fold with terminal := some (.completed recorded.id completed) } := by
  have type : recorded.eventType = operationCompletedEventType := holds.eventType
  have unset : fold.terminal.isNone := by rw [fresh]; rfl
  rw [apply, if_neg (by omega), if_neg (by omega), if_neg (by omega), if_pos ⟨type, placed, unset⟩,
    asJson_holds holds (OperationCompleted.deserialize_serialize formats.texts holds.bounded)]
  rfl

theorem OperationFold.apply_conflicted {conflicted : OperationConflicted}
    (holds : Holds formats recorded (.conflicted conflicted)) (placed : recorded.revision = 2)
    (fresh : fold.terminal = none) :
    fold.apply formats stream recorded =
      .ok { fold with terminal := some (.conflicted recorded.id conflicted) } := by
  have type : recorded.eventType = operationConflictedEventType := holds.eventType
  have other : recorded.eventType ≠ operationCompletedEventType := by
    rw [type]
    decide
  have unset : fold.terminal.isNone := by rw [fresh]; rfl
  rw [apply, if_neg (by omega), if_neg (by omega), if_neg (by omega),
    if_neg fun given => other given.1, if_pos ⟨type, placed, unset⟩,
    asJson_holds holds (OperationConflicted.deserialize_serialize formats.texts holds.bounded)]
  rfl

end OperationFold

variable (formats streams) in
/-- The state of an operation as its stream has it. -/
def Reached (id : OperationId) : OperationState → Prop
  | .requested request => Requested formats streams id request
  | .prepared request prepared => Prepared formats streams id request prepared
  | .rejected request rejected => Requested formats streams id request ∧
      Stored formats streams (id.streamName formats.texts) 1 request.decisionEventId
        (.rejected rejected) ∧ rejected.operationId = id
  | .completed request prepared completed => Prepared formats streams id request prepared ∧
      Stored formats streams (id.streamName formats.texts) 2 request.terminalEventId
        (.completed completed) ∧ completed.operationId = id
  | .conflicted request prepared conflicted => Prepared formats streams id request prepared ∧
      Stored formats streams (id.streamName formats.texts) 2 request.terminalEventId
        (.conflicted conflicted) ∧ conflicted.operationId = id

section Operations

variable {id : OperationId}

def OperationFold.after (formats : Formats) (streams : Streams) (id : OperationId) (count : Nat) :
    Except Failure OperationFold :=
  ((streams (id.streamName formats.texts)).take count).foldlM
    (OperationFold.apply formats (id.streamName formats.texts)) {}

theorem Lawful.after_request (lawful : Lawful formats workload streams) {recorded : RecordedEvent}
    (found : (streams (id.streamName formats.texts))[0]? = some recorded) :
    ∃ request, Requested formats streams id request ∧
      OperationFold.after formats streams id 1 = .ok { requested := some (id.uuid, request) } := by
  cases lawful.operation_entry found with
  | requested holds named consistent offered =>
      refine ⟨_, ⟨recorded, found, named, holds⟩, ?_⟩
      rw [OperationFold.after, foldlM_take_succ found, ← named]
      exact OperationFold.apply_requested holds (lawful.revision found) rfl

theorem Lawful.after_prepared (lawful : Lawful formats workload streams)
    {request : OperationRequested} {prepared : OperationPrepared}
    (stored : Prepared formats streams id request prepared) :
    OperationFold.after formats streams id 2 =
      .ok { requested := some (id.uuid, request)
            decision := some (.prepared request.decisionEventId prepared) } := by
  obtain ⟨first, found, named, holds⟩ := stored.requested
  obtain ⟨other, requested, folded⟩ := lawful.after_request found
  obtain rfl := stored.requested.unique requested
  obtain ⟨second, next, decided, holds⟩ := stored.decided
  rw [OperationFold.after] at folded ⊢
  rw [foldlM_take_succ next, folded, ← decided]
  exact OperationFold.apply_prepared holds (lawful.revision next) rfl

theorem Lawful.after_rejected (lawful : Lawful formats workload streams)
    {request : OperationRequested} {rejected : OperationRejected}
    (stored : Reached formats streams id (.rejected request rejected)) :
    OperationFold.after formats streams id 2 =
      .ok { requested := some (id.uuid, request)
            decision := some (.rejected request.decisionEventId rejected) } := by
  obtain ⟨first, found, named, holds⟩ := stored.1
  obtain ⟨other, requested, folded⟩ := lawful.after_request found
  obtain rfl := stored.1.unique requested
  obtain ⟨second, next, decided, holds⟩ := stored.2.1
  rw [OperationFold.after] at folded ⊢
  rw [foldlM_take_succ next, folded, ← decided]
  exact OperationFold.apply_rejected holds (lawful.revision next) rfl

theorem Lawful.after_completed (lawful : Lawful formats workload streams)
    {request : OperationRequested} {prepared : OperationPrepared} {completed : OperationCompleted}
    (stored : Reached formats streams id (.completed request prepared completed)) :
    OperationFold.after formats streams id 3 =
      .ok { requested := some (id.uuid, request)
            decision := some (.prepared request.decisionEventId prepared)
            terminal := some (.completed request.terminalEventId completed) } := by
  have folded := lawful.after_prepared stored.1
  obtain ⟨third, next, ended, holds⟩ := stored.2.1
  rw [OperationFold.after] at folded ⊢
  rw [foldlM_take_succ next, folded, ← ended]
  exact OperationFold.apply_completed holds (lawful.revision next) rfl

theorem Lawful.after_conflicted (lawful : Lawful formats workload streams)
    {request : OperationRequested} {prepared : OperationPrepared}
    {conflicted : OperationConflicted}
    (stored : Reached formats streams id (.conflicted request prepared conflicted)) :
    OperationFold.after formats streams id 3 =
      .ok { requested := some (id.uuid, request)
            decision := some (.prepared request.decisionEventId prepared)
            terminal := some (.conflicted request.terminalEventId conflicted) } := by
  have folded := lawful.after_prepared stored.1
  obtain ⟨third, next, ended, holds⟩ := stored.2.1
  rw [OperationFold.after] at folded ⊢
  rw [foldlM_take_succ next, folded, ← ended]
  exact OperationFold.apply_conflicted holds (lawful.revision next) rfl

theorem Lawful.concludes (lawful : Lawful formats workload streams) {state : OperationState}
    (reached : Reached formats streams id state) :
    (OperationFold.after formats streams id (state.revision + 1)).bind
      (OperationFold.conclude formats (id.streamName formats.texts) id) = .ok (some state) := by
  cases state with
  | requested request =>
      have consistent := (lawful.requested reached).1
      have stored : Requested formats streams id request := reached
      obtain ⟨first, found, _⟩ := reached
      obtain ⟨other, requested, folded⟩ := lawful.after_request found
      obtain rfl := stored.unique requested
      change (OperationFold.after formats streams id 1).bind _ = _
      rw [folded]
      simp [Except.bind, OperationFold.conclude, consistent]
  | prepared request prepared =>
      have consistent := (lawful.requested reached.requested).1
      change (OperationFold.after formats streams id 2).bind _ = _
      rw [lawful.after_prepared reached]
      simp [Except.bind, OperationFold.conclude, consistent, reached.operationId]
  | rejected request rejected =>
      have consistent := (lawful.requested reached.1).1
      change (OperationFold.after formats streams id 2).bind _ = _
      rw [lawful.after_rejected reached]
      simp [Except.bind, OperationFold.conclude, consistent, reached.2.2]
  | completed request prepared completed =>
      have consistent := (lawful.requested reached.1.requested).1
      change (OperationFold.after formats streams id 3).bind _ = _
      rw [lawful.after_completed reached]
      simp [Except.bind, OperationFold.conclude, consistent, reached.1.operationId, reached.2.2]
  | conflicted request prepared conflicted =>
      have consistent := (lawful.requested reached.1.requested).1
      change (OperationFold.after formats streams id 3).bind _ = _
      rw [lawful.after_conflicted reached]
      simp [Except.bind, OperationFold.conclude, consistent, reached.1.operationId, reached.2.2]

theorem Lawful.reaches (lawful : Lawful formats workload streams) {place : Nat}
    (within : place < (streams (id.streamName formats.texts)).length) :
    ∃ state, Reached formats streams id state ∧ state.revision = place := by
  have found := List.getElem?_eq_getElem within
  cases lawful.operation_entry found with
  | requested holds named consistent offered =>
      exact ⟨.requested _, ⟨_, found, named, holds⟩, rfl⟩
  | prepared stored holds named own =>
      exact ⟨.prepared _ _, ⟨stored, ⟨_, found, named, holds⟩, own⟩, rfl⟩
  | rejected stored holds named own =>
      exact ⟨.rejected _ _, ⟨stored, ⟨_, found, named, holds⟩, own⟩, rfl⟩
  | completed stored holds named own =>
      exact ⟨.completed _ _ _, ⟨stored, ⟨_, found, named, holds⟩, own⟩, rfl⟩
  | conflicted stored holds named own =>
      exact ⟨.conflicted _ _ _, ⟨stored, ⟨_, found, named, holds⟩, own⟩, rfl⟩

theorem Lawful.after_events (lawful : Lawful formats workload streams) {count : Nat}
    (within : count ≤ (streams (id.streamName formats.texts)).length) :
    ∃ fold found, OperationFold.after formats streams id count = .ok fold ∧
      fold.conclude formats (id.streamName formats.texts) id = .ok found ∧
      (∀ state, found = some state → Reached formats streams id state) ∧
      found.elim 0 (fun state => state.revision + 1) = count := by
  cases count with
  | zero =>
      refine ⟨{}, none, rfl, rfl, ?_, rfl⟩
      intro state absent
      cases absent
  | succ place =>
      obtain ⟨state, reached, rfl⟩ := lawful.reaches within
      have concluded := lawful.concludes reached
      cases folded : OperationFold.after formats streams id (state.revision + 1) with
      | error failure =>
          rw [folded] at concluded
          cases concluded
      | ok fold =>
          rw [folded] at concluded
          refine ⟨fold, some state, rfl, concluded, ?_, rfl⟩
          intro other same
          cases same
          exact reached

/-- What a worker can learn of an operation: how far it has come, that it is not there, or nothing
but an error of the client. -/
def Learned (formats : Formats) (streams : Streams) (id : OperationId) :
    Except Failure (Option OperationState) → Prop
  | .ok none => True
  | .ok (some state) => Reached formats streams id state
  | .error failure => failure.isClient

/-- Whatever a read shows of its stream, an operation is read as it is or once was. -/
theorem Lawful.learned (lawful : Lawful formats workload streams)
    {answer : Except Error Events}
    (answered : possible streams (.readStream (id.streamName formats.texts) operationOptions) answer) :
    Learned formats streams id (operationOf formats id answer) := by
  cases answer with
  | error error => cases error <;> trivial
  | ok events =>
      obtain ⟨seen, prefixed, shows⟩ := answered
      obtain ⟨count, within, shown, _⟩ := shown_from_start prefixed shows rfl rfl (by decide)
      obtain ⟨fold, found, folded, concluded, reached, _⟩ := lawful.after_events within
      have visited : visit (OperationFold.apply formats (id.streamName formats.texts)) {}
          events.pending = .ok fold := (visit_shown _ _ shown).trans folded
      rw [operationOf]
      simp only [visited, bind, Except.bind]
      cases events.ending with
      | some error => cases error <;> trivial
      | none =>
          simp only [concluded]
          cases found with
          | none => trivial
          | some state => exact reached state rfl

theorem Lawful.learned_whole (lawful : Lawful formats workload streams) {events : Events}
    (ended : events.ending = none)
    (shown : (Server.chosen operationOptions (streams (id.streamName formats.texts))).map some =
      events.pending.map ResolvedEvent.getOriginalEvent) :
    ∃ found, operationOf formats id (.ok events) = .ok found ∧
      (∀ state, found = some state → Reached formats streams id state) ∧
      found.elim 0 (fun state => state.revision + 1) =
        (streams (id.streamName formats.texts)).length := by
  obtain ⟨fold, found, folded, concluded, reached, counted⟩ :=
    lawful.after_events (Nat.le_refl (streams (id.streamName formats.texts)).length)
  have short := lawful.operation_length id
  have all : Server.chosen operationOptions (streams (id.streamName formats.texts)) =
      (streams (id.streamName formats.texts)).take
        (streams (id.streamName formats.texts)).length := by
    change (streams (id.streamName formats.texts)).take 4 = _
    rw [List.take_of_length_le (by omega), List.take_length]
  rw [all] at shown
  have visited : visit (OperationFold.apply formats (id.streamName formats.texts)) {}
      events.pending = .ok fold := (visit_shown _ _ shown.symm).trans folded
  refine ⟨found, ?_, reached, counted⟩
  rw [TrogonEventStore.Reservation.operationOf]
  simp only [visited, bind, Except.bind, ended, concluded]

end Operations

end TrogonEventStore.Reservation

import TrogonEventStore.ReservationWorkers

/-! A delivery from the claim to the outcome: every turn of a worker takes the operation one step
further, or finds that another worker has. -/

namespace TrogonEventStore.Reservation

open Interaction

variable {formats : Formats} {workload : Workload formats.texts} {streams after : Streams}
variable {id : OperationId} {prompt : Prop} {reused : Streams → OperationId → Prop}

theorem InventoryOperation.body_eventType (operation : InventoryOperation) :
    operation.body.eventType = operation.eventType := by
  cases operation <;> rfl

theorem InventoryOperation.body_bounded (operation : InventoryOperation) :
    operation.body.Bounded := by
  cases operation <;> trivial

theorem Entered.justified {stream : String} {place : Nat} {eventId : Uuid}
    {operation : InventoryOperation}
    (entered : Entered formats streams stream place eventId operation) :
    Justified formats workload streams stream place eventId operation.body := by
  cases operation with
  | reserve event => exact entered
  | release event => exact entered

theorem Lawful.is_inventory (lawful : Lawful formats workload streams)
    {request : OperationRequested} (requested : Requested formats streams id request) :
    IsInventory formats.texts request.inventoryStream :=
  workload.operation_apart (lawful.requested requested).2

section Inventories

variable {stream : String}

/-- Reading an inventory; `relied` is when the read can be relied on. -/
theorem readInventory_keeps (holds : (contract formats workload prompt).lawful streams)
    (inventory : IsInventory formats.texts stream) {relied : Prop}
    (present : relied → prompt ∧ streams stream ≠ []) :
    Keeps (contract formats workload prompt)
      (fun after view => Seen formats after stream view ∧
        ∃ created, Balanced formats after stream created view)
      (Tolerated formats relied reused) streams (readInventory formats stream) := by
  refine (readStream_keeps stream default).bind holds ?_
  intro after answer lawful grows answered
  have surveyed := lawful.1.surveyed inventory answered.1
  change Judged _ _ after (inventoryOf formats answer)
  cases came : inventoryOf formats answer with
  | ok view =>
      rw [came] at surveyed
      exact surveyed
  | error failure =>
      rw [came] at surveyed
      cases failure with
      | client error =>
          refine Or.inl fun trusted => ?_
          obtain ⟨holds, present⟩ := present trusted
          have filled : after stream ≠ [] := by
            intro empty
            have prefixed := grows stream
            rw [empty, List.prefix_nil] at prefixed
            exact present prefixed
          obtain ⟨events, rfl, ended | ⟨empty, _⟩, shown⟩ := answered.2 holds
          · obtain ⟨_, _, _, _, _, read⟩ := lawful.1.surveyed_whole inventory filled ended shown
            rw [came] at read
            cases read
          · exact filled empty
      | _ => cases surveyed

theorem Lawful.decision_justified (lawful : Lawful formats workload streams)
    {request : OperationRequested} (requested : Requested formats streams id request)
    {view : InventoryView} (seen : Seen formats streams request.inventoryStream view) :
    (decision view request.operation).Bounded ∧
      Justified formats workload streams (id.streamName formats.texts) 1 request.decisionEventId
        (decision view request.operation) := by
  obtain rfl := (lawful.requested requested).1.operationId
  rw [decision]
  cases judged : rejectInventoryCommand view.state request.operation with
  | some reason => exact ⟨trivial, request, rfl, rfl, rfl, requested, view, seen, judged⟩
  | none =>
      have within := (lawful.seen seen).1
      have room := lawful.room request.inventoryStream
      have bounded : view.revision < u64Bound := by omega
      exact ⟨bounded, request, rfl, rfl, rfl, requested, view, seen, rfl, judged⟩

theorem decideRequested_keeps (holds : (contract formats workload prompt).lawful streams)
    {request : OperationRequested} (requested : Requested formats streams id request) :
    Keeps (contract formats workload prompt) (fun after state => Reached formats after id state.val)
      (Tolerated formats prompt reused) streams (decideRequested formats request) := by
  obtain ⟨consistent, offered⟩ := holds.1.requested requested
  have present : prompt → prompt ∧ streams request.inventoryStream ≠ [] :=
    fun relied => ⟨relied, holds.2 relied _ _ offered⟩
  refine (readInventory_keeps holds (holds.1.is_inventory requested) present).bind holds ?_
  rintro after view lawful grows ⟨seen, _⟩
  obtain ⟨bounded, justified⟩ := lawful.1.decision_justified (requested.later grows) seen
  have second : ∀ place, Admits (.streamRevision 0) place → place = 1 := fun _ next => next
  rw [consistent.operationId]
  exact appendOperationEvent_keeps lawful second justified bounded

end Inventories

section Places

variable {stream : String} {place : Nat}

/-- What a worker can learn of a place of a stream: its event, that there is none yet, or nothing but
an error of the client. -/
def Found (streams : Streams) (stream : String) (place : Nat) :
    Except Failure (Option RecordedEvent) → Prop
  | .ok none => True
  | .ok (some recorded) => (streams stream)[place]? = some recorded
  | .error failure => failure.isClient

theorem chosen_event (place : Nat) (seen : List RecordedEvent) :
    Server.chosen (eventOptions place) seen = (seen.drop place).take 1 := rfl

theorem getElem?_of_drop {seen : List RecordedEvent} {recorded : RecordedEvent}
    {rest : List RecordedEvent} (first : (seen.drop place).take 1 = recorded :: rest) :
    seen[place]? = some recorded := by
  have head := congrArg List.head? first
  rw [List.head?_take, if_neg Nat.one_ne_zero, List.head?_drop, List.head?_cons] at head
  exact head

theorem found_event {answer : Except Error Events}
    (answered : possible streams (.readStream stream (eventOptions place)) answer) :
    Found streams stream place (firstEvent answer) := by
  cases answer with
  | error error => trivial
  | ok events =>
      obtain ⟨seen, prefixed, rest, split, _⟩ := answered
      obtain ⟨pending, ending⟩ := events
      rw [chosen_event] at split
      cases pending with
      | nil => cases ending <;> trivial
      | cons first pending =>
          cases shown : (seen.drop place).take 1 with
          | nil =>
              rw [shown] at split
              cases split
          | cons recorded others =>
              rw [shown] at split
              have original := (List.cons.inj split).1
              have found := getElem?_of_drop shown
              obtain ⟨more, grown⟩ := prefixed
              obtain ⟨within, _⟩ := List.getElem?_eq_some_iff.mp found
              have there : (streams stream)[place]? = some recorded := by
                rw [← grown, List.getElem?_append_left within, found]
              change Found streams stream place ((originalEvent first).map some)
              rw [originalEvent_some original.symm]
              exact there

theorem found_prompt {answer : Except Error Events}
    (answered : Prompt streams (.readStream stream (eventOptions place)) answer)
    (long : place < (streams stream).length) :
    firstEvent answer = .ok (some (streams stream)[place]) := by
  obtain ⟨⟨pending, ending⟩, rfl, _, shown⟩ := answered
  have taken : Server.chosen (eventOptions place) (streams stream) = [(streams stream)[place]] := by
    rw [chosen_event, List.drop_eq_getElem_cons long]
    rfl
  rw [taken] at shown
  cases pending with
  | nil => cases shown
  | cons first pending =>
      have original := (List.cons.inj shown).1
      change (originalEvent first).map some = _
      rw [originalEvent_some original.symm]
      rfl

end Places

section Landings

variable {request : OperationRequested} {prepared : OperationPrepared}

/-- What became of the event of a prepared operation. -/
def Landed (streams : Streams) (request : OperationRequested) (prepared : OperationPrepared) :
    InventoryAppendResult → Prop
  | .committed write => Committed streams request prepared write
  | .conflicted conflict => Lost streams request prepared conflict

theorem Lawful.own_event (lawful : Lawful formats workload streams)
    (stored : Prepared formats streams id request prepared) {recorded : RecordedEvent}
    (found : (streams request.inventoryStream)[prepared.expectedInventoryRevision + 1]? =
      some recorded) (own : recorded.id = id.uuid) :
    Holds formats recorded request.operation.body := by
  rcases lawful.inventory_entry (lawful.is_inventory stored.requested) found with
    ⟨created, impossible, _⟩ | ⟨operation, entered, holds⟩
  · cases impossible
  · obtain ⟨other, again, also, rfl, _, _, named⟩ := entered
    have ids : other.operation.operationId = id :=
      OperationId.mk.injEq _ _ ▸ named.symm.trans own
    rw [ids] at also
    obtain ⟨rfl, _⟩ := stored.unique also
    exact holds

/-- A worker that finds the place taken tells its own event from another one. -/
theorem Lawful.occupied_landed (lawful : Lawful formats workload streams)
    (stored : Prepared formats streams id request prepared) {recorded : RecordedEvent}
    (found : (streams request.inventoryStream)[prepared.expectedInventoryRevision + 1]? =
      some recorded) : Landed streams request prepared (occupied request prepared recorded) := by
  obtain ⟨consistent, _⟩ := lawful.requested stored.requested
  have placed := lawful.revision found
  rw [occupied]
  split
  · next matched =>
      have same := matched.2
      simp only [storedInventoryEventMatches, Bool.and_eq_true, decide_eq_true_eq] at same
      refine ⟨recorded, found, ?_, ?_⟩
      · rw [same.1.1, consistent.inventoryEventId, stored.operationId]
      · rw [placed]
  · next differs =>
      refine ⟨recorded, found, ?_, ?_⟩
      · intro own
        rw [stored.operationId] at own
        have holds := lawful.own_event stored found own
        have type : recorded.eventType = request.inventoryEventType := by
          rw [holds.eventType, InventoryOperation.body_eventType, consistent.inventoryEventType]
        have payload : recorded.data = request.inventoryEventPayload :=
          holds.data.trans consistent.inventoryEventPayload.symm
        apply differs
        simp only [storedInventoryEventMatches, Bool.and_eq_true, decide_eq_true_eq]
        exact ⟨placed, ⟨own.trans consistent.inventoryEventId.symm, type⟩, payload⟩
      · rw [placed]

/-- The append of a prepared operation ends with its event in its place, or with another one
there. -/
theorem appendInventory_keeps (holds : (contract formats workload prompt).lawful streams)
    (stored : Prepared formats streams id request prepared) :
    Keeps (contract formats workload prompt) (fun after => Landed after request prepared)
      (Tolerated formats prompt reused) streams (appendInventory formats request prepared) := by
  obtain ⟨consistent, _⟩ := holds.1.requested stored.requested
  have fits := (holds.1.intended stored).2
  have allowed : Allowed formats workload streams (.appendToStream request.inventoryStream
      (.streamRevision prepared.expectedInventoryRevision)
      (eventData formats request.operation.body request.inventoryEventId)) := by
    refine ⟨_, _, rfl, request.operation.body_bounded, ?_⟩
    rintro place rfl
    rw [consistent.inventoryEventId, ← consistent.operationId]
    exact Entered.justified ⟨request, prepared, consistent.operationId ▸ stored, rfl, rfl, rfl, rfl⟩
  refine (appendToStream_keeps allowed).bind holds ?_
  intro middle answer lawful grows answered
  cases answer with
  | ok write =>
      obtain ⟨place, recorded, found, rfl, own, rfl⟩ := answered.1
      refine ⟨recorded, found, ?_, ?_⟩
      · rw [own _ rfl, consistent.inventoryEventId, stored.operationId]
      · rw [CommittedInventoryWrite.from, lawful.1.revision found]
  | error error =>
      dsimp only
      rw [if_pos fits]
      refine (readStream_keeps _ _).bind lawful ?_
      intro after answer lawful' grows' shown
      have learned := found_event shown.1
      have excused (unseen : ∀ recorded, firstEvent answer ≠ .ok (some recorded)) :
          Excused prompt after := by
        by_cases relied : prompt
        · have meant : ∀ place, Admits (.streamRevision prepared.expectedInventoryRevision) place →
              place = prepared.expectedInventoryRevision + 1 := fun _ next => next
          have within := Nat.le_trans (holds.1.intended stored).1
            (grows request.inventoryStream).length_le
          rcases place_taken meant within answered relied with full | long
          · exact Or.inr (Streams.Later.full grows' full)
          · have kept := (grows' request.inventoryStream).length_le
            exact absurd (found_prompt (shown.2 relied) (by omega)) (unseen _)
        · exact Or.inl relied
      cases came : firstEvent answer with
      | error failure =>
          rw [came] at learned excused
          cases failure with
          | client error => exact excused fun _ seen => by cases seen
          | _ => cases learned
      | ok found =>
          rw [came] at learned excused
          cases found with
          | none => exact excused fun _ seen => by cases seen
          | some recorded =>
              exact lawful'.1.occupied_landed ((stored.later grows).later grows') learned

theorem Lawful.conclusion_justified (lawful : Lawful formats workload streams)
    (stored : Prepared formats streams id request prepared) {result : InventoryAppendResult}
    (landed : Landed streams request prepared result) :
    (conclusion request.operation result).Bounded ∧
      Justified formats workload streams (id.streamName formats.texts) 2 request.terminalEventId
        (conclusion request.operation result) := by
  obtain rfl := (lawful.requested stored.requested).1.operationId
  have fits := (lawful.intended stored).2
  cases result with
  | committed write =>
      refine ⟨?_, request, prepared, rfl, rfl, rfl, stored, landed⟩
      obtain ⟨recorded, found, _, rfl⟩ := landed
      exact ⟨fits, lawful.commit found, lawful.prepare found⟩
  | conflicted conflict =>
      refine ⟨?_, request, prepared, rfl, rfl, rfl, stored, landed⟩
      obtain ⟨recorded, _, _, rfl⟩ := landed
      exact ⟨Nat.lt_of_succ_lt fits, fits⟩

theorem finishPrepared_keeps (holds : (contract formats workload prompt).lawful streams)
    (stored : Prepared formats streams id request prepared) :
    Keeps (contract formats workload prompt) (fun after state => Reached formats after id state.val)
      (Tolerated formats prompt reused) streams (finishPrepared formats request prepared) := by
  have consistent := (holds.1.requested stored.requested).1
  refine (appendInventory_keeps holds stored).bind holds ?_
  intro after result lawful grows landed
  obtain ⟨bounded, justified⟩ := lawful.1.conclusion_justified (stored.later grows) landed
  have third : ∀ place, Admits (.streamRevision 1) place → place = 2 := fun _ next => next
  rw [consistent.operationId]
  exact appendOperationEvent_keeps lawful third justified bounded

end Landings

section Deliveries

variable {inventoryStream : String} {operation : InventoryOperation}

def Settled (formats : Formats) (streams : Streams) (inventoryStream : String)
    (operation : InventoryOperation) (outcome : OperationOutcome) : Prop :=
  ∃ state, Claimed formats streams inventoryStream operation state ∧
    terminalOutcome formats state = .ok outcome

theorem Settled.later {outcome : OperationOutcome} (grows : streams.Later after)
    (settled : Settled formats streams inventoryStream operation outcome) :
    Settled formats after inventoryStream operation outcome := by
  obtain ⟨state, claimed, ended⟩ := settled
  exact ⟨state, claimed.later grows, ended⟩

theorem Claimed.reaches {state next : OperationState}
    (claimed : Claimed formats streams inventoryStream operation state)
    (grows : streams.Later after) (reached : Reached formats after operation.operationId next) :
    Claimed formats after inventoryStream operation next := by
  have same := (claimed.reached.requested.later grows).unique reached.requested
  refine ⟨reached, ?_, ?_⟩
  · rw [← same]
    exact claimed.sameStream
  · rw [← same]
    exact claimed.sameOperation

/-- The loop of `execute_operation`, by how far the operation has come. -/
theorem settle_keeps (holds : (contract formats workload prompt).lawful streams)
    {state : OperationState} (claimed : Claimed formats streams inventoryStream operation state) :
    Keeps (contract formats workload prompt)
      (fun after => Settled formats after inventoryStream operation)
      (Tolerated formats prompt reused) streams (settle formats state) := by
  induction state using settle.induct generalizing streams with
  | case1 request ih =>
      rw [settle]
      refine (decideRequested_keeps holds claimed.reached).bind holds ?_
      intro after next lawful grows reached
      exact ih next lawful (claimed.reaches grows reached)
  | case2 request prepared ih =>
      rw [settle]
      refine (finishPrepared_keeps holds claimed.reached).bind holds ?_
      intro after next lawful grows reached
      exact ih next lawful (claimed.reaches grows reached)
  | case3 request rejected =>
      rw [settle]
      exact ⟨_, claimed, rfl⟩
  | case4 request prepared completed =>
      rw [settle]
      exact ⟨_, claimed, rfl⟩
  | case5 request prepared conflicted =>
      rw [settle]
      exact ⟨_, claimed, rfl⟩

theorem executeOperation_keeps (holds : (contract formats workload prompt).lawful streams)
    (offered : workload.operation inventoryStream operation) :
    Keeps (contract formats workload prompt)
      (fun after => Settled formats after inventoryStream operation)
      (Tolerated formats prompt fun after => Reused formats after inventoryStream operation) streams
      (executeOperation formats inventoryStream operation) := by
  refine (claimOperation_keeps holds offered).bind holds ?_
  intro after state lawful grows claimed
  exact settle_keeps lawful claimed

theorem prepareOperation_keeps (holds : (contract formats workload prompt).lawful streams)
    (offered : workload.operation inventoryStream operation) :
    Keeps (contract formats workload prompt)
      (fun after state => Claimed formats after inventoryStream operation state ∧
        1 ≤ state.revision)
      (Tolerated formats prompt fun after => Reused formats after inventoryStream operation) streams
      (prepareOperation formats inventoryStream operation) := by
  refine (claimOperation_keeps holds offered).bind holds ?_
  intro after state lawful grows claimed
  cases state with
  | requested request =>
      refine (decideRequested_keeps lawful claimed.reached).bind lawful ?_
      intro last next _ grows reached
      exact ⟨claimed.reaches grows reached, next.property⟩
  | prepared request prepared => exact ⟨claimed, Nat.le_refl 1⟩
  | rejected request rejected => exact ⟨claimed, Nat.le_refl 1⟩
  | completed request prepared completed => exact ⟨claimed, Nat.le_succ 1⟩
  | conflicted request prepared conflicted => exact ⟨claimed, Nat.le_succ 1⟩

theorem deliver_keeps (holds : (contract formats workload prompt).lawful streams)
    (offered : workload.operation inventoryStream operation) (left : Nat) :
    Keeps (contract formats workload prompt)
      (fun after => Settled formats after inventoryStream operation)
      (Tolerated formats prompt fun after => Reused formats after inventoryStream operation) streams
      (deliver formats inventoryStream operation (left + 1)) := by
  induction left generalizing streams with
  | zero =>
      refine (executeOperation_keeps holds offered).attempt.bind holds ?_
      intro after result _ _ judged
      cases result with
      | ok outcome => exact judged
      | error failure => exact judged
  | succ left ih =>
      refine (executeOperation_keeps holds offered).attempt.bind holds ?_
      intro after result lawful _ judged
      cases result with
      | ok outcome => exact judged
      | error failure =>
          dsimp only
          split
          · exact ih lawful
          · exact judged

theorem deliverWithRetries_keeps (holds : (contract formats workload prompt).lawful streams)
    (offered : workload.operation inventoryStream operation) :
    Keeps (contract formats workload prompt)
      (fun after => Settled formats after inventoryStream operation)
      (Tolerated formats prompt fun after => Reused formats after inventoryStream operation) streams
      (deliverWithRetries formats inventoryStream operation) :=
  deliver_keeps holds offered 2

end Deliveries

section Creations

variable {inventoryStream : String} {inventory : InventoryCreated} {eventId : Uuid}

/-- An inventory stands where it was put under the id, at the revision and the position it was
written to. -/
def Created (formats : Formats) (workload : Workload formats.texts) (streams : Streams)
    (inventoryStream : String) (eventId : Uuid) (write : WriteResult) : Prop :=
  ∃ recorded inventory, (streams inventoryStream)[0]? = some recorded ∧ recorded.id = eventId ∧
    Holds formats recorded (.created inventory) ∧
    workload.creation inventoryStream inventory eventId ∧ write = ⟨0, recorded.position⟩

def Occupied (streams : Streams) (inventoryStream : String) (eventId : Uuid) : Prop :=
  ∃ recorded, (streams inventoryStream)[0]? = some recorded ∧ recorded.id ≠ eventId

/-- An inventory is not created because of the client; a prompt store only refuses if the place is
taken. -/
def Refused (prompt : Prop) (streams : Streams) (inventoryStream : String) (eventId : Uuid) :
    Failure → Prop
  | .client _ => Excused prompt streams ∨ Occupied streams inventoryStream eventId
  | _ => False

theorem Created.later {write : WriteResult} (grows : streams.Later after)
    (created : Created formats workload streams inventoryStream eventId write) :
    Created formats workload after inventoryStream eventId write := by
  obtain ⟨recorded, inventory, found, rest⟩ := created
  exact ⟨recorded, inventory, grows.found found, rest⟩

theorem Occupied.later (grows : streams.Later after)
    (occupied : Occupied streams inventoryStream eventId) :
    Occupied after inventoryStream eventId := by
  obtain ⟨recorded, found, differs⟩ := occupied
  exact ⟨recorded, grows.found found, differs⟩

theorem Refused.later {failure : Failure} (grows : streams.Later after)
    (refused : Refused prompt streams inventoryStream eventId failure) :
    Refused prompt after inventoryStream eventId failure := by
  cases failure with
  | client error => exact refused.imp (Excused.later grows) (Occupied.later grows)
  | _ => exact refused

theorem Lawful.creation (lawful : Lawful formats workload streams)
    (separate : IsInventory formats.texts inventoryStream) {recorded : RecordedEvent}
    (found : (streams inventoryStream)[0]? = some recorded) :
    Created formats workload streams inventoryStream recorded.id
      ⟨recorded.revision, recorded.position⟩ := by
  obtain ⟨body, holds, justified⟩ := lawful.justified found
  have placed := lawful.revision found
  rcases lawful.inventory_entry separate found with ⟨inventory, _, also⟩ | ⟨_, entered, _⟩
  · obtain rfl := holds.unique also
    exact ⟨recorded, inventory, found, rfl, holds, justified.2, by rw [placed]⟩
  · obtain ⟨_, _, _, _, _, impossible, _⟩ := entered
    cases impossible

theorem Lawful.stored_initial (lawful : Lawful formats workload streams)
    (separate : IsInventory formats.texts inventoryStream) {answer : Except Error Events}
    (answered : possible streams (.readStream inventoryStream (eventOptions 0)) answer) :
    ∃ found, storedInitialInventory formats inventory eventId answer = .ok found ∧
      ∀ write, found = some write →
        Created formats workload streams inventoryStream eventId write := by
  have nothing : ∀ write, (none : Option WriteResult) = some write →
      Created formats workload streams inventoryStream eventId write := by
    intro write absent
    cases absent
  cases answer with
  | error error => exact ⟨none, rfl, nothing⟩
  | ok events =>
      have learned := found_event answered
      obtain ⟨pending, ending⟩ := events
      cases pending with
      | nil => cases ending <;> exact ⟨none, rfl, nothing⟩
      | cons first pending =>
          change Found streams inventoryStream 0 ((originalEvent first).map some) at learned
          rw [storedInitialInventory]
          simp only [Feed.tryNext_cons, Bind.bind, Except.bind]
          cases original : first.getOriginalEvent with
          | none =>
              rw [originalEvent, original] at learned
              cases learned
          | some recorded =>
              rw [originalEvent_some original] at learned ⊢
              dsimp only
              split
              · next same =>
                  have created := lawful.creation separate learned
                  have entry := created
                  obtain ⟨stored, kept, found, _, holds, _⟩ := entry
                  obtain rfl := Option.some.inj (found.symm.trans learned)
                  rw [asJson_holds holds kept.deserialize_serialize]
                  dsimp only
                  split
                  · refine ⟨_, rfl, ?_⟩
                    rintro write ⟨⟩
                    rw [← same.2.1]
                    exact created
                  · exact ⟨none, rfl, nothing⟩
              · exact ⟨none, rfl, nothing⟩

theorem createInventory_step (holds : (contract formats workload prompt).lawful streams)
    (offered : workload.creation inventoryStream inventory eventId) {left : Nat}
    (again : ∀ last, 0 < left → (contract formats workload prompt).lawful last →
      Keeps (contract formats workload prompt)
        (fun after => Created formats workload after inventoryStream eventId)
        (fun after => Refused prompt after inventoryStream eventId) last
        (createInventory formats inventoryStream inventory eventId left)) :
    Keeps (contract formats workload prompt)
      (fun after => Created formats workload after inventoryStream eventId)
      (fun after => Refused prompt after inventoryStream eventId) streams
      (createInventory formats inventoryStream inventory eventId (left + 1)) := by
  have separate : IsInventory formats.texts inventoryStream := workload.creation_apart offered
  have allowed : Allowed formats workload streams (.appendToStream inventoryStream .noStream
      (eventData formats (.created inventory) eventId)) :=
    ⟨_, _, rfl, trivial, fun place empty => ⟨empty, offered⟩⟩
  refine (appendToStream_keeps allowed).bind holds ?_
  intro middle answer lawful grows answered
  cases answer with
  | ok write =>
      obtain ⟨place, recorded, found, rfl, own, rfl⟩ := answered.1
      have created := lawful.1.creation separate found
      rw [own eventId rfl] at created
      exact created
  | error error =>
      refine (readStream_keeps _ _).bind lawful ?_
      intro after found lawful' grows' shown
      obtain ⟨known, read, created⟩ := lawful'.1.stored_initial separate shown.1
      rw [read]
      cases known with
      | some write => exact created write rfl
      | none =>
          change Keeps _ _ _ after (if left = 0 then _ else _)
          split
          · by_cases relied : prompt
            · rcases answered.2 relied with ⟨_, impossible⟩ | full | ⟨place, first, apart, other⟩
              · cases impossible
              · exact Or.inl (Or.inr (Streams.Later.full grows' full))
              · obtain rfl : place = 0 := first
                have taken := List.getElem?_eq_getElem (Nat.pos_of_ne_zero apart.symm)
                refine Or.inr ⟨_, grows'.found taken, ?_⟩
                intro own
                exact other _ taken (congrArg some own.symm)
            · exact Or.inl (Or.inl relied)
          · next more => exact again after (Nat.pos_of_ne_zero more) lawful'

/-- However many attempts it takes, and whoever else creates it, the inventory is there once. -/
theorem createInventory_keeps (holds : (contract formats workload prompt).lawful streams)
    (offered : workload.creation inventoryStream inventory eventId) (left : Nat) :
    Keeps (contract formats workload prompt)
      (fun after => Created formats workload after inventoryStream eventId)
      (fun after => Refused prompt after inventoryStream eventId) streams
      (createInventory formats inventoryStream inventory eventId (left + 1)) := by
  induction left generalizing streams with
  | zero =>
      apply createInventory_step holds offered
      intro last impossible
      exact absurd impossible (Nat.lt_irrefl 0)
  | succ left ih =>
      apply createInventory_step holds offered
      intro last _ lawful
      exact ih lawful

theorem appendInitialInventory_keeps (holds : (contract formats workload prompt).lawful streams)
    (offered : workload.creation inventoryStream inventory eventId) :
    Keeps (contract formats workload prompt)
      (fun after => Created formats workload after inventoryStream eventId)
      (fun after => Refused prompt after inventoryStream eventId) streams
      (appendInitialInventory formats inventoryStream inventory eventId) :=
  createInventory_keeps holds offered 2

end Creations

end TrogonEventStore.Reservation

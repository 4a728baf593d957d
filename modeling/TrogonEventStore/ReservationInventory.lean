import TrogonEventStore.Library.Totals
import TrogonEventStore.ReservationReads

namespace TrogonEventStore.Reservation

variable {formats : Formats} {workload : Workload formats.texts} {streams : Streams}

section Turns

variable {fold next : InventoryFold} {recorded : RecordedEvent}

theorem InventoryFold.apply_revision (applied : fold.apply formats recorded = .ok next) :
    next.revision = some recorded.revision := by
  unfold apply at applied
  dsimp only at applied
  split at applied
  · cases read : asJson formats InventoryCreated.deserialize recorded with
    | error failure =>
        rw [read] at applied
        cases applied
    | ok created =>
        rw [read] at applied
        cases applied
        rfl
  · split at applied
    · cases read : asJson formats (InventoryReserved.deserialize formats.texts) recorded with
      | error failure =>
          rw [read] at applied
          cases applied
      | ok reserved =>
          rw [read] at applied
          change (if _ then _ else _) = _ at applied
          split at applied
          · cases applied
            rfl
          · cases applied
    · split at applied
      · cases read : asJson formats (InventoryReleased.deserialize formats.texts) recorded with
        | error failure =>
            rw [read] at applied
            cases applied
        | ok released =>
            rw [read] at applied
            change (if _ then _ else _) = _ at applied
            split at applied
            · cases applied
              rfl
            · cases applied
      · cases applied

theorem InventoryFold.apply_created {created : InventoryCreated}
    (holds : Holds formats recorded (.created created)) :
    fold.apply formats recorded = .ok { fold with
      revision := some recorded.revision
      eventCount := fold.eventCount + 1
      sku := some created.sku
      available := created.available } := by
  have type : recorded.eventType = inventoryCreatedEventType := holds.eventType
  rw [apply, if_pos type, asJson_holds holds created.deserialize_serialize]
  rfl

theorem InventoryFold.apply_reserved {event : InventoryReserved}
    (holds : Holds formats recorded (.reserved event))
    (named : recorded.id = event.operationId.uuid) (enough : event.quantity ≤ fold.available)
    (fresh : fold.reservations.lookup event.reservationId = none) :
    fold.apply formats recorded = .ok { fold with
      revision := some recorded.revision
      eventCount := fold.eventCount + 1
      available := fold.available - event.quantity
      reservations := fold.reservations.insert event.reservationId event.quantity } := by
  have type : recorded.eventType = inventoryReservedEventType := holds.eventType
  have other : recorded.eventType ≠ inventoryCreatedEventType := by
    rw [type]
    decide
  rw [apply, if_neg other, if_pos type,
    asJson_holds holds (event.deserialize_serialize formats.texts)]
  exact if_pos ⟨named, enough, fresh⟩

theorem InventoryFold.apply_released {event : InventoryReleased}
    (holds : Holds formats recorded (.released event))
    (named : recorded.id = event.operationId.uuid)
    (active : fold.reservations.lookup event.reservationId = some event.quantity)
    (fits : fold.available.toNat + event.quantity.toNat < u32Bound) :
    fold.apply formats recorded = .ok { fold with
      revision := some recorded.revision
      eventCount := fold.eventCount + 1
      available := fold.available + event.quantity
      reservations := fold.reservations.erase event.reservationId } := by
  have type : recorded.eventType = inventoryReleasedEventType := holds.eventType
  have first : recorded.eventType ≠ inventoryCreatedEventType := by
    rw [type]
    decide
  have second : recorded.eventType ≠ inventoryReservedEventType := by
    rw [type]
    decide
  rw [apply, if_neg first, if_neg second, if_pos type,
    asJson_holds holds (event.deserialize_serialize formats.texts)]
  exact if_pos ⟨named, active, fits⟩

end Turns

theorem rejectInventoryCommand_reserve {inventory : InventoryState} {event : InventoryReserved}
    (accepted : rejectInventoryCommand inventory (.reserve event) = none) :
    event.sku = inventory.sku ∧ event.quantity ≤ inventory.available := by
  rw [rejectInventoryCommand] at accepted
  split at accepted
  · cases accepted
  · next known =>
      split at accepted
      · cases accepted
      · next enough => exact ⟨not_not.mp known, UInt32.not_lt.mp enough⟩

theorem rejectInventoryCommand_release {inventory : InventoryState} {event : InventoryReleased}
    (accepted : rejectInventoryCommand inventory (.release event) = none) :
    event.sku = inventory.sku ∧
      inventory.reservations.lookup event.reservationId = some event.quantity := by
  rw [rejectInventoryCommand] at accepted
  split at accepted
  · cases accepted
  · next known =>
      split at accepted
      · cases accepted
      · next active => exact ⟨not_not.mp known, not_not.mp active⟩

def reserved (reservations : Reservations) : Nat := Totals.total UInt32.toNat reservations

def InventoryFold.after (formats : Formats) (streams : Streams) (stream : String) (count : Nat) :
    Except Failure InventoryFold :=
  ((streams stream).take count).foldlM (InventoryFold.apply formats) {}

def IsInventory (texts : UuidTexts) (stream : String) : Prop :=
  ∀ id : OperationId, stream ≠ id.streamName texts

/-- All that can become of an inventory: it is created, some of what is available is reserved, or a
reservation is released as it was made. -/
inductive Trades : Option InventoryState → Option InventoryState → Prop where
  | created (event : InventoryCreated) : Trades none (some ⟨event.sku, event.available, ∅⟩)
  | reserved {inventory : InventoryState} {event : InventoryReserved}
      (sku : event.sku = inventory.sku) (enough : event.quantity ≤ inventory.available)
      (fresh : inventory.reservations.lookup event.reservationId = none) :
      Trades (some inventory) (some { inventory with
        available := inventory.available - event.quantity
        reservations := inventory.reservations.insert event.reservationId event.quantity })
  | released {inventory : InventoryState} {event : InventoryReleased}
      (sku : event.sku = inventory.sku)
      (active : inventory.reservations.lookup event.reservationId = some event.quantity)
      (fits : inventory.available.toNat + event.quantity.toNat < u32Bound) :
      Trades (some inventory) (some { inventory with
        available := inventory.available + event.quantity
        reservations := inventory.reservations.erase event.reservationId })

def InventoryFold.state (created : InventoryCreated) (fold : InventoryFold) : InventoryState :=
  ⟨created.sku, fold.available, fold.reservations⟩

/-- The loop over the first events of an inventory, from its creation on. -/
structure Replayed (formats : Formats) (streams : Streams) (stream : String) (count : Nat)
    (created : InventoryCreated) (fold : InventoryFold) : Prop where
  folded : InventoryFold.after formats streams stream count = .ok fold
  sku : fold.sku = some created.sku
  revision : fold.revision = some (count - 1)
  eventCount : fold.eventCount = count
  conserved : fold.available.toNat + reserved fold.reservations = created.available.toNat
  active : ∀ id quantity, fold.reservations.lookup id = some quantity →
    ∃ place event, place < count ∧ event.reservationId = id ∧
      Stored formats streams stream place event.operationId.uuid (.reserved event)

theorem Replayed.view {stream : String} {count : Nat} {created : InventoryCreated}
    {fold : InventoryFold} (replayed : Replayed formats streams stream count created fold) :
    fold.view = .ok ⟨fold.state created, count - 1, count⟩ := by
  rw [InventoryFold.view, replayed.sku, replayed.revision, replayed.eventCount]
  rfl

section Inventory

variable {stream : String}

theorem Lawful.inventory_entry (lawful : Lawful formats workload streams)
    (inventory : IsInventory formats.texts stream) {place : Nat} {recorded : RecordedEvent}
    (found : (streams stream)[place]? = some recorded) :
    (∃ created, place = 0 ∧ Holds formats recorded (.created created)) ∨
      ∃ operation, Entered formats streams stream place recorded.id operation ∧
        Holds formats recorded operation.body := by
  obtain ⟨body, holds, justified⟩ := lawful.justified found
  cases body with
  | created created => exact Or.inl ⟨created, justified.1, holds⟩
  | reserved event => exact Or.inr ⟨.reserve event, justified, holds⟩
  | released event => exact Or.inr ⟨.release event, justified, holds⟩
  | requested request =>
      obtain ⟨id, _, named, _⟩ := justified
      exact absurd named (inventory id)
  | prepared prepared =>
      obtain ⟨request, _, named, _⟩ := justified
      exact absurd named (inventory _)
  | rejected rejected =>
      obtain ⟨request, _, named, _⟩ := justified
      exact absurd named (inventory _)
  | completed completed =>
      obtain ⟨request, prepared, _, named, _⟩ := justified
      exact absurd named (inventory _)
  | conflicted conflicted =>
      obtain ⟨request, prepared, _, named, _⟩ := justified
      exact absurd named (inventory _)

theorem Lawful.prepared (lawful : Lawful formats workload streams) {id : OperationId}
    {request : OperationRequested} {prepared : OperationPrepared}
    (stored : Prepared formats streams id request prepared) :
    ∃ view, Seen formats streams request.inventoryStream view ∧
      view.revision = prepared.expectedInventoryRevision ∧
      rejectInventoryCommand view.state request.operation = none := by
  obtain ⟨recorded, found, _, holds⟩ := stored.decided
  obtain ⟨body, also, justified⟩ := lawful.justified found
  obtain rfl := holds.unique also
  obtain ⟨other, _, _, _, requested, view, seen, rest⟩ := justified
  rw [stored.operationId] at requested
  obtain rfl := stored.requested.unique requested
  exact ⟨view, seen, rest⟩

theorem InventoryFold.after_succ {count : Nat} {recorded : RecordedEvent}
    (found : (streams stream)[count]? = some recorded) :
    InventoryFold.after formats streams stream (count + 1) =
      (InventoryFold.after formats streams stream count).bind fun fold =>
        fold.apply formats recorded :=
  foldlM_take_succ found _ _

theorem Lawful.seen (lawful : Lawful formats workload streams) {view : InventoryView}
    (seen : Seen formats streams stream view) :
    view.revision < (streams stream).length ∧
      ∃ fold, InventoryFold.after formats streams stream (view.revision + 1) = .ok fold ∧
        fold.view = .ok view := by
  obtain ⟨count, within, shown⟩ := seen
  change (InventoryFold.after formats streams stream count).bind InventoryFold.view = _ at shown
  cases folded : InventoryFold.after formats streams stream count with
  | error failure =>
      rw [folded] at shown
      cases shown
  | ok fold =>
      rw [folded] at shown
      change fold.view = .ok view at shown
      have viewed : fold.revision = some view.revision := by
        unfold InventoryFold.view at shown
        split at shown
        · next sku revision _ noted =>
            rw [noted]
            cases shown
            rfl
        · cases shown
      cases count with
      | zero =>
          cases folded
          cases viewed
      | succ place =>
          have found := List.getElem?_eq_getElem within
          have turned := folded
          rw [InventoryFold.after_succ found] at turned
          cases before : InventoryFold.after formats streams stream place with
          | error failure =>
              rw [before] at turned
              cases turned
          | ok earlier =>
              rw [before] at turned
              have noted := InventoryFold.apply_revision turned
              rw [viewed, lawful.revision found] at noted
              obtain rfl : view.revision = place := Option.some.inj noted
              exact ⟨within, fold, folded, shown⟩

theorem Lawful.intended (lawful : Lawful formats workload streams) {id : OperationId}
    {request : OperationRequested} {prepared : OperationPrepared}
    (stored : Prepared formats streams id request prepared) :
    prepared.expectedInventoryRevision + 1 ≤ (streams request.inventoryStream).length ∧
      prepared.expectedInventoryRevision + 1 < u64Bound := by
  obtain ⟨view, seen, revision, _⟩ := lawful.prepared stored
  have within := (lawful.seen seen).1
  have room := lawful.room request.inventoryStream
  omega

theorem Lawful.within (lawful : Lawful formats workload streams) {place : Nat} {eventId : Uuid}
    {body : EventBody} (justified : Justified formats workload streams stream place eventId body) :
    place ≤ (streams stream).length := by
  have beyond {id : OperationId} {place : Nat} {eventId : Uuid} {body : EventBody}
      (stored : Stored formats streams (id.streamName formats.texts) place eventId body) :
      place < (streams (id.streamName formats.texts)).length := by
    obtain ⟨recorded, found, _⟩ := stored
    exact (List.getElem?_eq_some_iff.mp found).1
  have entered {operation : InventoryOperation}
      (entered : Entered formats streams stream place eventId operation) :
      place ≤ (streams stream).length := by
    obtain ⟨request, prepared, stored, _, rfl, rfl, _⟩ := entered
    exact (lawful.intended stored).1
  cases body with
  | created inventory =>
      obtain ⟨rfl, _⟩ := justified
      exact Nat.zero_le _
  | reserved event => exact entered justified
  | released event => exact entered justified
  | requested requested =>
      obtain ⟨_, rfl, _⟩ := justified
      exact Nat.zero_le _
  | prepared prepared =>
      obtain ⟨request, rfl, rfl, _, requested, _⟩ := justified
      exact beyond requested
  | rejected rejected =>
      obtain ⟨request, rfl, rfl, _, requested, _⟩ := justified
      exact beyond requested
  | completed completed =>
      obtain ⟨request, prepared, rfl, rfl, _, stored, _⟩ := justified
      exact beyond stored.decided
  | conflicted conflicted =>
      obtain ⟨request, prepared, rfl, rfl, _, stored, _⟩ := justified
      exact beyond stored.decided

theorem Replayed.accepted (lawful : Lawful formats workload streams) {count : Nat}
    {created : InventoryCreated} {fold : InventoryFold}
    (replayed : Replayed formats streams stream count created fold) (positive : 0 < count)
    {eventId : Uuid} {operation : InventoryOperation}
    (entered : Entered formats streams stream count eventId operation) :
    rejectInventoryCommand (fold.state created) operation = none := by
  obtain ⟨request, prepared, stored, rfl, rfl, place, _⟩ := entered
  obtain ⟨view, seen, revision, accepted⟩ := lawful.prepared stored
  obtain ⟨_, other, folded, viewed⟩ := lawful.seen seen
  obtain rfl : count = view.revision + 1 := by omega
  obtain rfl : fold = other := Except.ok.inj (replayed.folded.symm.trans folded)
  have states := congrArg InventoryView.state (Except.ok.inj (replayed.view.symm.trans viewed))
  rw [← states] at accepted
  exact accepted

theorem Lawful.offered (lawful : Lawful formats workload streams) {place : Nat} {eventId : Uuid}
    {operation : InventoryOperation}
    (entered : Entered formats streams stream place eventId operation) :
    workload.operation stream operation := by
  obtain ⟨request, prepared, stored, rfl, rfl, _⟩ := entered
  exact (lawful.requested stored.requested).2

theorem Entered.same_place {place other : Nat} {eventId otherId : Uuid}
    {operation different : InventoryOperation} {elsewhere : String}
    (entered : Entered formats streams stream place eventId operation)
    (again : Entered formats streams elsewhere other otherId different)
    (same : operation.operationId = different.operationId) :
    place = other ∧ operation = different ∧ stream = elsewhere := by
  obtain ⟨request, prepared, stored, rfl, rfl, rfl, _⟩ := entered
  obtain ⟨request', prepared', stored', rfl, rfl, rfl, _⟩ := again
  rw [same] at stored
  obtain ⟨rfl, rfl⟩ := stored.unique stored'
  exact ⟨rfl, rfl, rfl⟩

/-- A reservation that is made is not active yet. -/
theorem Replayed.fresh (lawful : Lawful formats workload streams)
    (inventory : IsInventory formats.texts stream) {count : Nat} {created : InventoryCreated}
    {fold : InventoryFold} (replayed : Replayed formats streams stream count created fold)
    {eventId : Uuid} {event : InventoryReserved}
    (entered : Entered formats streams stream count eventId (.reserve event)) :
    fold.reservations.lookup event.reservationId = none := by
  cases active : fold.reservations.lookup event.reservationId with
  | none => rfl
  | some quantity =>
      obtain ⟨place, earlier, before, same, recorded, found, _, holds⟩ :=
        replayed.active _ _ active
      rcases lawful.inventory_entry inventory found with ⟨other, _, also⟩ | ⟨operation, first, also⟩
      · cases holds.unique also
      · have bodies := holds.unique also
        cases operation with
        | release released => cases bodies
        | reserve reserved =>
            cases bodies
            have once := first.same_place entered
              (workload.distinct (lawful.offered first) (lawful.offered entered) same)
            omega

theorem Lawful.replays_creation (lawful : Lawful formats workload streams)
    {recorded : RecordedEvent} {created : InventoryCreated}
    (found : (streams stream)[0]? = some recorded)
    (holds : Holds formats recorded (.created created)) :
    ∃ fold, Replayed formats streams stream 1 created fold ∧
      Trades none (some (fold.state created)) := by
  refine ⟨⟨some created.sku, created.available, ∅, some recorded.revision, 1⟩,
    ⟨?_, rfl, ?_, rfl, ?_, ?_⟩, .created created⟩
  · rw [InventoryFold.after_succ found]
    exact InventoryFold.apply_created holds
  · exact congrArg some (lawful.revision found)
  · exact Nat.add_zero _
  · intro id quantity active
    cases active

/-- The step: the next event of an inventory passes the assertions of `read_inventory`, and what it
takes from the available it adds to the reserved, or the other way round. -/
theorem Replayed.next (lawful : Lawful formats workload streams)
    (inventory : IsInventory formats.texts stream) {count : Nat} {created : InventoryCreated}
    {fold : InventoryFold} (replayed : Replayed formats streams stream count created fold)
    (positive : 0 < count) {recorded : RecordedEvent}
    (found : (streams stream)[count]? = some recorded) :
    ∃ next, Replayed formats streams stream (count + 1) created next ∧
      Trades (some (fold.state created)) (some (next.state created)) := by
  rcases lawful.inventory_entry inventory found with ⟨other, first, _⟩ | ⟨operation, entered, holds⟩
  · omega
  have accepted := replayed.accepted lawful positive entered
  have named : recorded.id = operation.operationId.uuid := by
    obtain ⟨request, prepared, _, _, _, _, named⟩ := entered
    exact named
  have turn : InventoryFold.after formats streams stream (count + 1) = _ :=
    InventoryFold.after_succ found
  rw [replayed.folded] at turn
  have conserved := replayed.conserved
  cases operation with
  | reserve event =>
      obtain ⟨sku, enough⟩ := rejectInventoryCommand_reserve accepted
      change event.quantity ≤ fold.available at enough
      have fresh := replayed.fresh lawful inventory entered
      refine ⟨_, ⟨turn.trans (InventoryFold.apply_reserved holds named enough fresh), replayed.sku,
        congrArg some (lawful.revision found), congrArg (· + 1) replayed.eventCount, ?_, ?_⟩,
        .reserved sku enough fresh⟩
      · have added := Totals.total_insert UInt32.toNat fresh event.quantity
        have taken := UInt32.toNat_sub_of_le fold.available event.quantity enough
        have smaller := UInt32.le_iff_toNat_le.mp enough
        dsimp only [reserved] at conserved ⊢
        omega
      · intro id quantity active
        by_cases same : id = event.reservationId
        · exact ⟨count, event, Nat.lt_succ_self count, same.symm, recorded, found, named, holds⟩
        · rw [AList.lookup_insert_ne same] at active
          obtain ⟨place, earlier, before, rest⟩ := replayed.active id quantity active
          exact ⟨place, earlier, Nat.lt_succ_of_lt before, rest⟩
  | release event =>
      obtain ⟨sku, active⟩ := rejectInventoryCommand_release accepted
      change fold.reservations.lookup event.reservationId = some event.quantity at active
      have removed := Totals.total_erase UInt32.toNat active
      have bound : created.available.toNat < u32Bound := created.available.toNat_lt
      have fits : fold.available.toNat + event.quantity.toNat < u32Bound := by
        dsimp only [reserved] at conserved
        omega
      refine ⟨_, ⟨turn.trans (InventoryFold.apply_released holds named active fits), replayed.sku,
        congrArg some (lawful.revision found), congrArg (· + 1) replayed.eventCount, ?_, ?_⟩,
        .released sku active fits⟩
      · have given := UInt32.toNat_add fold.available event.quantity
        have whole : (fold.available + event.quantity).toNat =
            fold.available.toNat + event.quantity.toNat := given.trans (Nat.mod_eq_of_lt fits)
        dsimp only [reserved] at conserved ⊢
        omega
      · intro id quantity still
        by_cases same : id = event.reservationId
        · rw [same, AList.lookup_erase] at still
          cases still
        · rw [AList.lookup_erase_ne same] at still
          obtain ⟨place, earlier, before, rest⟩ := replayed.active id quantity still
          exact ⟨place, earlier, Nat.lt_succ_of_lt before, rest⟩

/-- The run: so it is for every number of events. -/
theorem Lawful.replays (lawful : Lawful formats workload streams)
    (inventory : IsInventory formats.texts stream) {count : Nat} (positive : 0 < count)
    (within : count ≤ (streams stream).length) :
    ∃ created id, Stored formats streams stream 0 id (.created created) ∧
      ∃ fold, Replayed formats streams stream count created fold := by
  have start : 0 < (streams stream).length := Nat.lt_of_lt_of_le positive within
  have found := List.getElem?_eq_getElem start
  rcases lawful.inventory_entry inventory found with ⟨created, _, holds⟩ | ⟨operation, entered, _⟩
  · refine ⟨created, _, ⟨_, found, rfl, holds⟩, ?_⟩
    induction count, positive using Nat.le_induction with
    | base =>
        obtain ⟨fold, replayed, _⟩ := lawful.replays_creation found holds
        exact ⟨fold, replayed⟩
    | succ count positive ih =>
        obtain ⟨fold, replayed⟩ := ih (Nat.le_of_succ_le within)
        obtain ⟨next, rest, _⟩ :=
          replayed.next lawful inventory positive (List.getElem?_eq_getElem within)
        exact ⟨next, rest⟩
  · obtain ⟨request, prepared, _, _, _, impossible, _⟩ := entered
    omega

/-- The view is of the inventory that was created, and nothing of it is lost. -/
structure Balanced (formats : Formats) (streams : Streams) (stream : String)
    (created : InventoryCreated) (view : InventoryView) : Prop where
  stored : ∃ id, Stored formats streams stream 0 id (.created created)
  sku : view.state.sku = created.sku
  eventCount : view.eventCount = view.revision + 1
  conserved : view.state.available.toNat + reserved view.state.reservations =
    created.available.toNat

theorem Balanced.later {after : Streams} {created : InventoryCreated} {view : InventoryView}
    (grows : streams.Later after) (balanced : Balanced formats streams stream created view) :
    Balanced formats after stream created view where
  stored := by
    obtain ⟨id, stored⟩ := balanced.stored
    exact ⟨id, stored.later grows⟩
  sku := balanced.sku
  eventCount := balanced.eventCount
  conserved := balanced.conserved

theorem Lawful.views (lawful : Lawful formats workload streams)
    (inventory : IsInventory formats.texts stream) {count : Nat} (positive : 0 < count)
    (within : count ≤ (streams stream).length) :
    ∃ fold view, InventoryFold.after formats streams stream count = .ok fold ∧
      fold.view = .ok view ∧ Seen formats streams stream view ∧
      ∃ created, Balanced formats streams stream created view := by
  obtain ⟨created, id, stored, fold, replayed⟩ := lawful.replays inventory positive within
  have seen : Seen formats streams stream
      ⟨fold.state created, count - 1, count⟩ := by
    refine ⟨count, within, ?_⟩
    change (InventoryFold.after formats streams stream count).bind InventoryFold.view = _
    rw [replayed.folded]
    exact replayed.view
  refine ⟨fold, _, replayed.folded, replayed.view, seen, created, ⟨id, stored⟩, rfl, ?_,
    replayed.conserved⟩
  exact (Nat.sub_add_cancel positive).symm

def Surveyed (formats : Formats) (streams : Streams) (stream : String) :
    Except Failure InventoryView → Prop
  | .ok view => Seen formats streams stream view ∧
      ∃ created, Balanced formats streams stream created view
  | .error failure => failure.isClient

/-- Whatever a read shows of an inventory, no assertion fails on it. -/
theorem Lawful.surveyed (lawful : Lawful formats workload streams)
    (inventory : IsInventory formats.texts stream) {answer : Except Error Events}
    (answered : possible streams (.readStream stream default) answer) :
    Surveyed formats streams stream (inventoryOf formats answer) := by
  cases answer with
  | error error => trivial
  | ok events =>
      obtain ⟨seen, prefixed, shows⟩ := answered
      obtain ⟨count, within, shown, counted⟩ := shown_from_start prefixed shows rfl rfl (by decide)
      have visited : visit (InventoryFold.apply formats) {} events.pending =
          InventoryFold.after formats streams stream count := visit_shown _ _ shown
      rw [inventoryOf]
      simp only [orClientError, bind, Except.bind, visited]
      rcases Nat.eq_zero_or_pos count with rfl | positive
      · cases ended : events.ending with
        | some error => trivial
        | none => exact absurd (counted ended) (Nat.lt_irrefl 0)
      · obtain ⟨fold, view, folded, viewed, rest⟩ := lawful.views inventory positive within
        rw [folded]
        cases events.ending with
        | some error => trivial
        | none =>
            simp only [viewed]
            exact rest

theorem Lawful.surveyed_whole (lawful : Lawful formats workload streams)
    (inventory : IsInventory formats.texts stream) (present : streams stream ≠ [])
    {events : Events} (ended : events.ending = none)
    (shown : (Server.chosen default (streams stream)).map some =
      events.pending.map ResolvedEvent.getOriginalEvent) :
    ∃ created id fold, Stored formats streams stream 0 id (.created created) ∧
      Replayed formats streams stream (streams stream).length created fold ∧
      inventoryOf formats (.ok events) =
        .ok ⟨fold.state created, (streams stream).length - 1, (streams stream).length⟩ := by
  have room := lawful.room stream
  have all : Server.chosen default (streams stream) = (streams stream).take
      (streams stream).length := by
    change (streams stream).take (u64Bound - 1) = _
    rw [List.take_of_length_le (Nat.le_sub_one_of_lt room), List.take_length]
  rw [all] at shown
  have visited : visit (InventoryFold.apply formats) {} events.pending =
      InventoryFold.after formats streams stream (streams stream).length :=
    visit_shown _ _ shown.symm
  obtain ⟨created, id, stored, fold, replayed⟩ := lawful.replays inventory
    (List.length_pos_iff.mpr present) (Nat.le_refl _)
  refine ⟨created, id, fold, stored, replayed, ?_⟩
  rw [inventoryOf]
  simp only [orClientError, bind, Except.bind, visited, replayed.folded, ended, replayed.view]

end Inventory

end TrogonEventStore.Reservation

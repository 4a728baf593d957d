import TrogonEventStore.ReservationRecovery

namespace TrogonEventStore.Reservation

variable {formats : Formats} {workload : Workload formats.texts} {streams after : Streams}

inductive Lives : Option OperationState → Option OperationState → Prop where
  | claimed (request : OperationRequested) : Lives none (some (.requested request))
  | prepared (request : OperationRequested) (prepared : OperationPrepared) :
      Lives (some (.requested request)) (some (.prepared request prepared))
  | rejected (request : OperationRequested) (rejected : OperationRejected) :
      Lives (some (.requested request)) (some (.rejected request rejected))
  | completed (request : OperationRequested) (prepared : OperationPrepared)
      (completed : OperationCompleted) :
      Lives (some (.prepared request prepared)) (some (.completed request prepared completed))
  | conflicted (request : OperationRequested) (prepared : OperationPrepared)
      (conflicted : OperationConflicted) :
      Lives (some (.prepared request prepared)) (some (.conflicted request prepared conflicted))

section Operations

variable {id : OperationId}

def operationNow (formats : Formats) (streams : Streams) (id : OperationId) :
    Except Failure (Option OperationState) :=
  operationOf formats id (.ok (Memory.read streams (id.streamName formats.texts) operationOptions))

/-- How far an operation has come with so many events in its stream. -/
structure Stage (formats : Formats) (streams : Streams) (id : OperationId) (count : Nat)
    (found : Option OperationState) : Prop where
  counted : found.elim 0 (fun state => state.revision + 1) = count
  reached : ∀ state, found = some state → Reached formats streams id state

theorem Stage.later {count : Nat} {found : Option OperationState} (grows : streams.Later after)
    (stage : Stage formats streams id count found) : Stage formats after id count found where
  counted := stage.counted
  reached state same := (stage.reached state same).later grows

theorem Reached.stage {state : OperationState} (reached : Reached formats streams id state) :
    Stage formats streams id (state.revision + 1) (some state) where
  counted := rfl
  reached _ same := Option.some.inj same ▸ reached

theorem Lawful.stage (lawful : Lawful formats workload streams) {count : Nat}
    (within : count ≤ (streams (id.streamName formats.texts)).length) :
    ∃ found, Stage formats streams id count found := by
  obtain ⟨_, found, _, _, reached, counted⟩ := lawful.after_events within
  exact ⟨found, counted, reached⟩

theorem Lawful.operationNow (lawful : Lawful formats workload streams) (id : OperationId) :
    ∃ found, operationNow formats streams id = .ok found ∧
      Stage formats streams id (streams (id.streamName formats.texts)).length found := by
  have answered := Memory.read_serves streams (id.streamName formats.texts) operationOptions
  have learned := lawful.learned answered.1
  obtain ⟨found, read, counted⟩ := lawful.learned_prompt (answered.2 trivial)
  refine ⟨found, read, counted, ?_⟩
  rintro state rfl
  rw [read] at learned
  exact learned

theorem Lawful.reached_unique (lawful : Lawful formats workload streams)
    {first second : OperationState} (reached : Reached formats streams id first)
    (also : Reached formats streams id second) (same : first.revision = second.revision) :
    first = second := by
  have read := lawful.concludes reached
  rw [same, lawful.concludes also] at read
  exact (Option.some.inj (Except.ok.inj read)).symm

theorem Lawful.stage_unique (lawful : Lawful formats workload streams) {count : Nat}
    {first second : Option OperationState} (stage : Stage formats streams id count first)
    (also : Stage formats streams id count second) : first = second := by
  have counts := stage.counted.trans also.counted.symm
  cases first with
  | none =>
      cases second with
      | none => rfl
      | some state => cases counts
  | some state =>
      cases second with
      | none => cases counts
      | some other =>
          have same := lawful.reached_unique (stage.reached _ rfl) (also.reached _ rfl)
            (Nat.succ.inj counts)
          rw [same]

theorem Lawful.lives_step (lawful : Lawful formats workload streams) {count : Nat}
    {found next : Option OperationState} (stage : Stage formats streams id count found)
    (further : Stage formats streams id (count + 1) next) : Lives found next := by
  have counted := further.counted
  cases next with
  | none => cases counted
  | some state =>
      have reached := further.reached state rfl
      cases state with
      | requested request =>
          obtain rfl : 0 = count := Nat.succ.inj counted
          have start : Stage formats streams id 0 none := ⟨rfl, by rintro state ⟨⟩⟩
          rw [lawful.stage_unique stage start]
          exact .claimed request
      | prepared request prepared =>
          obtain rfl : 1 = count := Nat.succ.inj counted
          have before : Reached formats streams id (.requested request) := Prepared.requested reached
          rw [lawful.stage_unique stage before.stage]
          exact .prepared request prepared
      | rejected request rejected =>
          obtain rfl : 1 = count := Nat.succ.inj counted
          have before : Reached formats streams id (.requested request) := reached.1
          rw [lawful.stage_unique stage before.stage]
          exact .rejected request rejected
      | completed request prepared completed =>
          obtain rfl : 2 = count := Nat.succ.inj counted
          have before : Reached formats streams id (.prepared request prepared) := reached.1
          rw [lawful.stage_unique stage before.stage]
          exact .completed request prepared completed
      | conflicted request prepared conflicted =>
          obtain rfl : 2 = count := Nat.succ.inj counted
          have before : Reached formats streams id (.prepared request prepared) := reached.1
          rw [lawful.stage_unique stage before.stage]
          exact .conflicted request prepared conflicted

/-- From one number of events to a larger one an operation lives on. -/
theorem Lawful.lives (lawful : Lawful formats workload streams) {first last : Nat}
    (le : first ≤ last) (within : last ≤ (streams (id.streamName formats.texts)).length)
    {found next : Option OperationState} (stage : Stage formats streams id first found)
    (further : Stage formats streams id last next) : Relation.ReflTransGen Lives found next := by
  induction last, le using Nat.le_induction generalizing next with
  | base =>
      rw [lawful.stage_unique stage further]
  | succ last le ih =>
      obtain ⟨middle, between⟩ := lawful.stage (Nat.le_of_succ_le within)
      exact (ih (Nat.le_of_succ_le within) between).tail (lawful.lives_step between further)

end Operations

section Inventories

variable {stream : String}

def inventoryNow (formats : Formats) (streams : Streams) (stream : String) :
    Except Failure InventoryView :=
  inventoryOf formats (.ok (Memory.read streams stream default))

def StockedWith (formats : Formats) (streams : Streams) (stream : String) (count : Nat) :
    Option InventoryState → Prop
  | none => count = 0
  | some state => 0 < count ∧ ∃ created fold, Replayed formats streams stream count created fold ∧
      state = fold.state created

theorem Replayed.unique {count : Nat} {created other : InventoryCreated}
    {fold again : InventoryFold} (replayed : Replayed formats streams stream count created fold)
    (also : Replayed formats streams stream count other again) :
    fold.state created = again.state other := by
  obtain rfl := Except.ok.inj (replayed.folded.symm.trans also.folded)
  have skus : created.sku = other.sku := Option.some.inj (replayed.sku.symm.trans also.sku)
  rw [InventoryFold.state, InventoryFold.state, skus]

theorem Lawful.stockedWith (lawful : Lawful formats workload streams)
    (inventory : IsInventory formats.texts stream) {count : Nat}
    (within : count ≤ (streams stream).length) :
    ∃ found, StockedWith formats streams stream count found := by
  rcases Nat.eq_zero_or_pos count with rfl | positive
  · exact ⟨none, rfl⟩
  · obtain ⟨created, _, _, fold, replayed⟩ := lawful.replays inventory positive within
    exact ⟨some (fold.state created), positive, created, fold, replayed, rfl⟩

theorem Lawful.trades_step (lawful : Lawful formats workload streams)
    (inventory : IsInventory formats.texts stream) {count : Nat} {recorded : RecordedEvent}
    (present : (streams stream)[count]? = some recorded) {found next : Option InventoryState}
    (before : StockedWith formats streams stream count found)
    (further : StockedWith formats streams stream (count + 1) next) : Trades found next := by
  cases next with
  | none => cases further
  | some state =>
      obtain ⟨_, other, again, also, rfl⟩ := further
      cases found with
      | none =>
          obtain rfl : count = 0 := before
          rcases lawful.inventory_entry inventory present with
            ⟨created, _, holds⟩ | ⟨operation, entered, _⟩
          · obtain ⟨fold, replayed, trade⟩ := lawful.replays_creation present holds
            rw [also.unique replayed]
            exact trade
          · obtain ⟨_, _, _, _, _, impossible, _⟩ := entered
            cases impossible
      | some state =>
          obtain ⟨positive, created, fold, replayed, rfl⟩ := before
          obtain ⟨next, rest, trade⟩ := replayed.next lawful inventory positive present
          rw [also.unique rest]
          exact trade

/-- From one number of events to a larger one an inventory is traded with. -/
theorem Lawful.trades (lawful : Lawful formats workload streams)
    (inventory : IsInventory formats.texts stream) {first last : Nat} (le : first ≤ last)
    (within : last ≤ (streams stream).length) {found next : Option InventoryState}
    (before : StockedWith formats streams stream first found)
    (further : StockedWith formats streams stream last next) :
    Relation.ReflTransGen Trades found next := by
  induction last, le using Nat.le_induction generalizing next with
  | base =>
      cases found with
      | none =>
          cases next with
          | none => exact .refl
          | some state => exact absurd before (Nat.ne_of_gt further.1)
      | some state =>
          cases next with
          | none => exact absurd further (Nat.ne_of_gt before.1)
          | some other =>
              obtain ⟨_, created, fold, replayed, rfl⟩ := before
              obtain ⟨_, again, other, also, rfl⟩ := further
              rw [replayed.unique also]
  | succ last le ih =>
      obtain ⟨middle, between⟩ := lawful.stockedWith inventory (Nat.le_of_succ_le within)
      have present := List.getElem?_eq_getElem within
      exact (ih (Nat.le_of_succ_le within) between).tail
        (lawful.trades_step inventory present between further)

theorem Lawful.inventoryNow (lawful : Lawful formats workload streams)
    (inventory : IsInventory formats.texts stream) (present : streams stream ≠ []) :
    ∃ view created, inventoryNow formats streams stream = .ok view ∧
      Balanced formats streams stream created view ∧
      StockedWith formats streams stream (streams stream).length (some view.state) := by
  have ended : (Memory.read streams stream default).ending = none := by
    rcases Memory.read_ended streams stream default with ⟨whole, _⟩ | ⟨empty, _⟩
    · exact whole
    · exact absurd empty present
  obtain ⟨created, id, fold, stored, replayed, read⟩ :=
    lawful.surveyed_whole inventory present ended (Memory.read_shown streams stream default)
  have positive := List.length_pos_iff.mpr present
  refine ⟨_, created, read, ⟨⟨id, stored⟩, rfl, ?_, replayed.conserved⟩, positive, created, fold,
    replayed, rfl⟩
  exact (Nat.sub_add_cancel positive).symm

theorem Lawful.viewed (lawful : Lawful formats workload streams)
    (inventory : IsInventory formats.texts stream) {view : InventoryView}
    (seen : Seen formats streams stream view) :
    StockedWith formats streams stream (view.revision + 1) (some view.state) := by
  obtain ⟨within, fold, folded, shown⟩ := lawful.seen seen
  obtain ⟨created, _, _, again, replayed⟩ := lawful.replays inventory (Nat.succ_pos _) within
  obtain rfl : fold = again := Except.ok.inj (folded.symm.trans replayed.folded)
  have same := Except.ok.inj (shown.symm.trans replayed.view)
  refine ⟨Nat.succ_pos _, created, fold, replayed, ?_⟩
  rw [same]

end Inventories

section Runs

variable {Party : Type} [DecidableEq Party] {state next : Running Party}

/-- At any moment of a run every operation can be read, and from one moment to a later one it has
lived on. -/
theorem operations_live (run : Run formats workload state)
    (goes : GoesOn formats workload state next) (id : OperationId) :
    ∃ before after, operationNow formats state.world id = .ok before ∧
      operationNow formats next.world id = .ok after ∧ Relation.ReflTransGen Lives before after := by
  have lawful := (run.goes goes).lawful
  have grows := run.grows goes
  obtain ⟨before, read, stage⟩ := run.lawful.operationNow id
  obtain ⟨after, reread, further⟩ := lawful.operationNow id
  have le := (grows (id.streamName formats.texts)).length_le
  exact ⟨before, after, read, reread,
    lawful.lives le (Nat.le_refl _) (stage.later grows) further⟩

theorem order_lives : ∃ (state next : Running Bool) (after : Option OperationState),
    Run compact desk state ∧ GoesOn compact desk state next ∧
      operationNow compact state.world order.operationId = .ok none ∧
      operationNow compact next.world order.operationId = .ok after ∧
      Relation.ReflTransGen Lives none after := by
  obtain ⟨state, next, _, _, _, run, world, goes, _⟩ := desk_delivers_twice
  obtain ⟨before, after, read, reread, lives⟩ := operations_live run goes order.operationId
  have other := (desk_apart compact.texts order.operationId).symm
  have empty : deskStreams (order.operationId.streamName compact.texts) = [] := by
    rw [deskStreams, Streams.append, Function.update_of_ne other]
    rfl
  have first : operationNow compact state.world order.operationId = .ok none := by
    rw [operationNow, Memory.read, world, empty]
    rfl
  obtain rfl : before = none := Except.ok.inj (read.symm.trans first)
  exact ⟨state, next, after, run, goes, first, reread, lives⟩

/-- What can be seen of an inventory at a moment: nothing, or its state, with all of what was created
available or reserved. -/
def Standing (formats : Formats) (streams : Streams) (stream : String) :
    Option InventoryState → Prop
  | none => streams stream = []
  | some inventory => ∃ view created, inventoryNow formats streams stream = .ok view ∧
      view.state = inventory ∧ Balanced formats streams stream created view

theorem Lawful.standing (lawful : Lawful formats workload streams) {stream : String}
    (inventory : IsInventory formats.texts stream) :
    ∃ found, Standing formats streams stream found ∧
      StockedWith formats streams stream (streams stream).length found := by
  by_cases present : streams stream = []
  · refine ⟨none, present, ?_⟩
    rw [present]
    rfl
  · obtain ⟨view, created, read, balanced, stocked⟩ := lawful.inventoryNow inventory present
    exact ⟨some view.state, ⟨view, created, read, rfl, balanced⟩, stocked⟩

theorem Replayed.later {stream : String} {count : Nat} {created : InventoryCreated}
    {fold : InventoryFold} (grows : streams.Later after) (within : count ≤ (streams stream).length)
    (replayed : Replayed formats streams stream count created fold) :
    Replayed formats after stream count created fold where
  folded := by
    rw [InventoryFold.after, grows.take within]
    exact replayed.folded
  sku := replayed.sku
  revision := replayed.revision
  eventCount := replayed.eventCount
  conserved := replayed.conserved
  active := by
    intro id quantity held
    obtain ⟨place, event, before, same, stored⟩ := replayed.active id quantity held
    exact ⟨place, event, before, same, stored.later grows⟩

theorem StockedWith.later {stream : String} {count : Nat} {found : Option InventoryState}
    (grows : streams.Later after) (within : count ≤ (streams stream).length)
    (stocked : StockedWith formats streams stream count found) :
    StockedWith formats after stream count found := by
  cases found with
  | none => exact stocked
  | some state =>
      obtain ⟨positive, created, fold, replayed, same⟩ := stocked
      refine ⟨positive, created, fold, ?_, same⟩
      exact replayed.later grows within

/-- At any moment of a run an inventory passes the assertions of its readers, and from one moment to
a later one it has been traded with: whatever is reserved was available, under an id that was not in
use, and whatever is released was reserved. -/
theorem inventories_trade (run : Run formats workload state)
    (goes : GoesOn formats workload state next) {stream : String}
    (inventory : IsInventory formats.texts stream) :
    ∃ before after, Standing formats state.world stream before ∧
      Standing formats next.world stream after ∧ Relation.ReflTransGen Trades before after := by
  have lawful := (run.goes goes).lawful
  have grows := run.grows goes
  obtain ⟨before, standing, stocked⟩ := run.lawful.standing inventory
  obtain ⟨after, stands, further⟩ := lawful.standing inventory
  have le := (grows stream).length_le
  exact ⟨before, after, standing, stands,
    lawful.trades inventory le (Nat.le_refl _) (stocked.later grows (Nat.le_refl _)) further⟩

theorem widgets_trade : ∃ (state next : Running Bool) (outcome : OperationOutcome)
    (before after : Option InventoryState), Run compact desk state ∧ state.world = deskStreams ∧
      GoesOn compact desk state next ∧
      next.Ended true (.deliver "inventory-widget" order) (.ok outcome) ∧
      Standing compact state.world "inventory-widget" before ∧
      Standing compact next.world "inventory-widget" after ∧
      Relation.ReflTransGen Trades before after := by
  obtain ⟨state, next, _, outcome, _, run, world, goes, _, ended, _⟩ := desk_delivers_twice
  obtain ⟨before, after, standing, stands, trades⟩ :=
    inventories_trade run goes (desk_apart compact.texts)
  exact ⟨state, next, outcome, before, after, run, world, goes, ended, standing, stands, trades⟩

/-- Whatever old or partial state of the stream a reader was shown, its view is one that the inventory
has been in: it was traded with from nothing up to the view, and from the view up to now, and nothing
of what was created is lost in between. -/
theorem views_sound (run : Run formats workload state) {party : Party} {stream : String}
    {view : InventoryView} (ended : state.Ended party (.readInventory stream) (.ok view))
    (inventory : IsInventory formats.texts stream) :
    (∃ created, Balanced formats state.world stream created view) ∧
      Relation.ReflTransGen Trades none (some view.state) ∧
      ∃ now, Standing formats state.world stream now ∧
        Relation.ReflTransGen Trades (some view.state) now := by
  obtain ⟨seen, balanced⟩ : Seen formats state.world stream view ∧
      ∃ created, Balanced formats state.world stream created view := run.judged ended
  have stocked := run.lawful.viewed inventory seen
  have within := (run.lawful.seen seen).1
  obtain ⟨now, standing, further⟩ := run.lawful.standing inventory
  have empty : StockedWith formats state.world stream 0 none := rfl
  exact ⟨balanced, run.lawful.trades inventory (Nat.zero_le _) within empty stocked, now, standing,
    run.lawful.trades inventory within (Nat.le_refl _) stocked further⟩

theorem widget_viewed : ∃ (state : Running Bool) (view : InventoryView)
    (now : Option InventoryState), Run compact desk state ∧
      state.Ended true (.readInventory "inventory-widget") (.ok view) ∧
      (∃ created, Balanced compact state.world "inventory-widget" created view) ∧
      Relation.ReflTransGen Trades none (some view.state) ∧
      Standing compact state.world "inventory-widget" now ∧
      Relation.ReflTransGen Trades (some view.state) now := by
  obtain ⟨state, run, world⟩ := desk_created
  have inventory : IsInventory compact.texts "inventory-widget" := desk_apart compact.texts
  have present : state.world "inventory-widget" ≠ [] := by
    rw [world, deskStreams, Streams.append, Function.update_self]
    exact List.cons_ne_nil _ _
  obtain ⟨view, _, shown, _⟩ := run.lawful.inventoryNow inventory present
  have offered : Job.Offered desk (.readInventory "inventory-widget") := inventory
  obtain ⟨last, goes, _, ended⟩ := alone_ends False state true offered
  change last.Ended true (.readInventory "inventory-widget")
    (inventoryNow compact state.world "inventory-widget") at ended
  rw [shown] at ended
  obtain ⟨balanced, traded, now, standing, trades⟩ := views_sound (run.goes goes) ended inventory
  exact ⟨last, view, now, run.goes goes, ended, balanced, traded, standing, trades⟩

end Runs

end TrogonEventStore.Reservation

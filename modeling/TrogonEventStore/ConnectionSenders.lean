import TrogonEventStore.ConnectionContract

/-! Who owns a sender of the connection actor's mailbox: the clients, the handles and the streams
outside its task, the cached handle and the task itself. -/

namespace TrogonEventStore.Connection

/-- A `reply` is a handle that waits in the oneshot of a call, `cached` the one in `handle_opt`
and `captured` the task's own variable. -/
inductive Owner where
  | client (name : Nat)
  | handle (name : Nat)
  | stream (name : Nat)
  | reply (ticket : Ticket)
  | cached
  | captured
  deriving DecidableEq, Repr

def Owner.inside : Owner → Bool
  | .cached => true
  | .captured => true
  | _ => false

def Owner.held : Owner → Bool
  | .client _ => true
  | .handle _ => true
  | .stream _ => true
  | _ => false

/-- A stream is opened with a clone of its client's sender. -/
def Owner.copies : Owner → Owner → Bool
  | .client _, .client _ => true
  | .client _, .stream _ => true
  | .handle _, .handle _ => true
  | _, _ => false

/-- `calls` are the callers of `current_selected_node`, each with the client it borrows. -/
structure Ownership where
  system : System
  owners : List Owner
  calls : List (Ticket × Nat)

/-- `GrpcClient::create`: the task has moved `sender` in, the client has got `dup_sender`. -/
def Ownership.start (connection : NodeConnection) : Ownership :=
  ⟨.start connection, [.captured, .client 0], []⟩

inductive Deed where
  | copy (source target : Owner)
  | drop (owner : Owner)
  | request (client : Nat) (ticket : Ticket)
  | report (owner : Owner) (report : CreateChannel)
  | receive (world : World)
  | take (ticket : Ticket) (handle : Nat)
  | abandon (ticket : Ticket)
  | hangUp

def delivered (calls : List (Ticket × Nat)) (events : List Event) : List Owner :=
  events.filterMap fun
    | .answered ticket (.ok _) =>
        if ticket ∈ calls.map Prod.fst then some (.reply ticket) else none
    | _ => none

/-- The task's senders after a message: leaving the loop drops its variables. -/
def kept (actor : Option Actor) (owners : List Owner) : List Owner :=
  match actor with
  | some actor =>
      if actor.handleOpt.isSome then .cached :: owners.filter (· ≠ .cached) else owners
  | none => owners.filter fun owner => !owner.inside

namespace Ownership

def receive (state : Ownership) (world : World) : Option Ownership :=
  match state.system.actor, state.system.mailbox with
  | some actor, msg :: _ =>
      let processed := process actor msg world
      (state.system.receive world).map fun system => { state with
        system := system
        owners := kept processed.actor state.owners ++ delivered state.calls processed.events }
  | _, _ => none

/-- `recv` yields `None` once the mailbox is empty and nobody owns a sender. -/
def hangUp (state : Ownership) : Option Ownership :=
  match state.system.actor, state.system.mailbox, state.owners with
  | some _, [], [] => some { state with system := state.system.after [] ⟨none, []⟩ }
  | _, _, _ => none

def step (state : Ownership) : Deed → Option Ownership
  | .copy source target =>
      if source ∈ state.owners ∧ source.copies target = true ∧ target ∉ state.owners then
        some { state with owners := target :: state.owners }
      else none
  -- A call borrows its client until it is over.
  | .drop owner =>
      if owner ∈ state.owners ∧ owner.held = true ∧
          ∀ call ∈ state.calls, owner ≠ .client call.2 then
        some { state with owners := state.owners.filter (· ≠ owner) }
      else none
  | .request client ticket =>
      if .client client ∈ state.owners then
        (state.system.send (.getChannel ticket)).map fun system => { state with
          system := system
          calls := (ticket, client) :: state.calls }
      else none
  | .report owner report =>
      if owner ∈ state.owners ∧ owner.held = true then
        (state.system.send (.createChannel report)).map fun system => { state with
          system := system }
      else none
  | .receive world => state.receive world
  | .take ticket handle =>
      if .reply ticket ∈ state.owners ∧ .handle handle ∉ state.owners then
        some { state with
          owners := .handle handle :: state.owners.filter (· ≠ .reply ticket)
          calls := state.calls.filter (·.1 ≠ ticket) }
      else none
  | .abandon ticket =>
      if ticket ∈ state.calls.map Prod.fst then
        some { state with
          owners := state.owners.filter (· ≠ .reply ticket)
          calls := state.calls.filter (·.1 ≠ ticket) }
      else none
  | .hangUp => state.hangUp

def Unreachable (state : Ownership) : Prop := ∀ owner ∈ state.owners, owner.inside = true

/-- Once nobody can send to it and its mailbox is empty, the actor's `recv` yields `None` and the
task ends. -/
def Ends (state : Ownership) : Prop :=
  state.Unreachable → state.system.mailbox = [] → state.system.actor ≠ none →
    ∃ next, state.step .hangUp = some next ∧ next.system.actor = none

structure Leaked (state : Ownership) : Prop where
  unreachable : state.Unreachable
  empty : state.system.mailbox = []
  alive : state.system.actor ≠ none

/-- While the actor runs its task owns a sender, and whoever waits for a handle borrows a client. -/
structure Tracked (state : Ownership) : Prop where
  captured : state.system.actor ≠ none → .captured ∈ state.owners
  borrowed : ∀ call ∈ state.calls, .client call.2 ∈ state.owners

end Ownership

def senderMachine : Machine Ownership Deed where
  step := Ownership.step

/-- Whether the loop goes on after the message: it finds the cached handle or connects. -/
def Survives (actor : Actor) (msg : Msg) (world : World) : Prop :=
  match msg with
  | .getChannel _ => actor.handleOpt.isSome = true ∨
      ∃ info, (actor.connection.next none world).result = .ok info
  | .createChannel report =>
      ∃ info, (actor.connection.next (report.seedOpt.map (NodeRequest.mk report.id)) world).result =
        .ok info

/-- The steps after which the actor is alone with its own senders: the drop of the last sender
outside its task, and after it the last message, where the loop goes on. -/
def Orphans (state : Ownership) : Deed → Prop
  | .drop owner => owner ∈ state.owners ∧ owner.held = true ∧ state.calls = [] ∧
      (∀ other ∈ state.owners, other.inside = true ∨ other = owner) ∧
      state.system.mailbox = [] ∧ state.system.actor ≠ none
  | .receive world => state.Unreachable ∧ ∃ actor msg, state.system.actor = some actor ∧
      state.system.mailbox = [msg] ∧ Survives actor msg world
  | _ => False

inductive Does (state : Ownership) : Deed → Ownership → Prop where
  | copied (source target : Owner) (owned : source ∈ state.owners)
      (copies : source.copies target = true) :
      Does state (.copy source target) { state with owners := target :: state.owners }
  | dropped (owner : Owner) (owned : owner ∈ state.owners) (held : owner.held = true)
      (unborrowed : ∀ call ∈ state.calls, owner ≠ .client call.2) :
      Does state (.drop owner) { state with owners := state.owners.filter (· ≠ owner) }
  | requested (client : Nat) (ticket : Ticket) (system : System)
      (owned : .client client ∈ state.owners)
      (sent : state.system.send (.getChannel ticket) = some system) :
      Does state (.request client ticket) { state with
        system := system, calls := (ticket, client) :: state.calls }
  | reported (owner : Owner) (report : CreateChannel) (system : System)
      (owned : owner ∈ state.owners) (held : owner.held = true)
      (sent : state.system.send (.createChannel report) = some system) :
      Does state (.report owner report) { state with system := system }
  | received (world : World) (actor : Actor) (msg : Msg) (rest : List Msg)
      (alive : state.system.actor = some actor) (queued : state.system.mailbox = msg :: rest) :
      Does state (.receive world) { state with
        system := state.system.after rest (process actor msg world)
        owners := kept (process actor msg world).actor state.owners ++
          delivered state.calls (process actor msg world).events }
  | took (ticket : Ticket) (handle : Nat) :
      Does state (.take ticket handle) { state with
        owners := .handle handle :: state.owners.filter (· ≠ .reply ticket)
        calls := state.calls.filter (·.1 ≠ ticket) }
  | abandoned (ticket : Ticket) (client : Nat) (waiting : (ticket, client) ∈ state.calls) :
      Does state (.abandon ticket) { state with
        owners := state.owners.filter (· ≠ .reply ticket)
        calls := state.calls.filter (·.1 ≠ ticket) }
  | hungUp (next : Ownership) (alive : state.system.actor ≠ none) (gone : state.owners = []) :
      Does state .hangUp next

theorem does_of_step {state next : Ownership} {deed : Deed}
    (stepped : senderMachine.step state deed = some next) : Does state deed next := by
  change state.step deed = some next at stepped
  cases deed with
  | copy source target =>
      simp only [Ownership.step] at stepped
      split at stepped
      · next given =>
          cases stepped
          exact .copied source target given.1 given.2.1
      · cases stepped
  | drop owner =>
      simp only [Ownership.step] at stepped
      split at stepped
      · next given =>
          cases stepped
          exact .dropped owner given.1 given.2.1 given.2.2
      · cases stepped
  | request client ticket =>
      simp only [Ownership.step] at stepped
      split at stepped
      · next owned =>
          obtain ⟨system, sent, rfl⟩ := Option.map_eq_some_iff.mp stepped
          exact .requested client ticket system owned sent
      · cases stepped
  | report owner report =>
      simp only [Ownership.step] at stepped
      split at stepped
      · next given =>
          obtain ⟨system, sent, rfl⟩ := Option.map_eq_some_iff.mp stepped
          exact .reported owner report system given.1 given.2 sent
      · cases stepped
  | receive world =>
      simp only [Ownership.step, Ownership.receive] at stepped
      split at stepped
      · next actor msg rest alive queued =>
          rw [receive_enabled alive queued, Option.map_some] at stepped
          cases stepped
          exact .received world actor msg rest alive queued
      · cases stepped
  | take ticket handle =>
      simp only [Ownership.step] at stepped
      split at stepped
      · cases stepped
        exact .took ticket handle
      · cases stepped
  | abandon ticket =>
      simp only [Ownership.step] at stepped
      split at stepped
      · next waiting =>
          cases stepped
          obtain ⟨⟨_, client⟩, member, rfl⟩ := List.mem_map.mp waiting
          exact .abandoned _ client member
      · cases stepped
  | hangUp =>
      simp only [Ownership.step, Ownership.hangUp] at stepped
      split at stepped
      · next actor alive _ gone =>
          refine .hungUp next ?_ gone
          rw [alive]
          exact Option.some_ne_none actor
      · cases stepped

theorem send_actor {system next : System} {msg : Msg} (sent : system.send msg = some next) :
    next.actor = system.actor := by
  obtain ⟨_, ⟨actor, alive, rfl⟩ | ⟨gone, rfl⟩⟩ := send_cases sent
  · rfl
  · rfl

theorem after_actor (system : System) (rest : List Msg) (processed : Processed) :
    (system.after rest processed).actor = processed.actor := by
  unfold System.after
  split
  · next survived => exact survived.symm
  · next stopped => exact stopped.symm

theorem mem_kept {actor : Option Actor} {owners : List Owner} {owner : Owner}
    (outside : owner.inside = false) : owner ∈ kept actor owners ↔ owner ∈ owners := by
  have uncached : owner ≠ .cached := by
    rintro rfl
    cases outside
  unfold kept
  split
  · split
    · rw [List.mem_cons, List.mem_filter, decide_eq_true_eq, or_iff_right uncached,
        and_iff_left uncached]
    · exact Iff.rfl
  · rw [List.mem_filter, outside, and_iff_left (by rfl)]

theorem captured_kept {actor : Option Actor} {owners : List Owner} (alive : actor ≠ none)
    (owned : .captured ∈ owners) : .captured ∈ kept actor owners := by
  obtain ⟨current, rfl⟩ := Option.ne_none_iff_exists'.mp alive
  simp only [kept]
  split
  · refine List.mem_cons_of_mem _ (List.mem_filter.mpr ⟨owned, ?_⟩)
    decide
  · exact owned

theorem kept_unreachable {actor : Option Actor} {owners : List Owner}
    (unreachable : ∀ owner ∈ owners, owner.inside = true) :
    ∀ owner ∈ kept actor owners, owner.inside = true := by
  intro owner member
  by_contra outside
  have owned := (mem_kept (Bool.eq_false_iff.mpr outside)).mp member
  exact outside (unreachable owner owned)

theorem mem_without {owners : List Owner} {owner other : Owner} (owned : owner ∈ owners)
    (differs : owner ≠ other) : owner ∈ owners.filter (· ≠ other) :=
  List.mem_filter.mpr ⟨owned, decide_eq_true differs⟩

theorem tracked_start (connection : NodeConnection) :
    (Ownership.start connection).Tracked := by
  constructor
  · intro _
    exact List.mem_cons_self
  · intro call impossible
    cases impossible

theorem Ownership.Tracked.owners_ne_nil {state : Ownership} (tracked : state.Tracked)
    (alive : state.system.actor ≠ none) : state.owners ≠ [] :=
  List.ne_nil_of_mem (tracked.captured alive)

theorem tracked_step {state next : Ownership} {deed : Deed} (tracked : state.Tracked)
    (does : Does state deed next) : next.Tracked := by
  have captured := tracked.captured
  have borrowed := tracked.borrowed
  cases does with
  | copied source target owned copies =>
      constructor
      · intro alive
        exact List.mem_cons_of_mem _ (captured alive)
      · intro call member
        exact List.mem_cons_of_mem _ (borrowed call member)
  | dropped owner owned held unborrowed =>
      constructor
      · intro alive
        refine mem_without (captured alive) ?_
        rintro rfl
        cases held
      · intro call member
        exact mem_without (borrowed call member) (unborrowed call member).symm
  | requested client ticket system owned sent =>
      constructor
      · intro alive
        rw [send_actor sent] at alive
        exact captured alive
      · intro call member
        rcases List.mem_cons.mp member with rfl | earlier
        · exact owned
        · exact borrowed call earlier
  | reported owner report system owned held sent =>
      refine ⟨?_, borrowed⟩
      intro alive
      rw [send_actor sent] at alive
      exact captured alive
  | received world actor msg rest alive queued =>
      constructor
      · intro survived
        rw [after_actor] at survived
        have owned : .captured ∈ state.owners := by
          apply captured
          rw [alive]
          exact Option.some_ne_none actor
        exact List.mem_append_left _ (captured_kept survived owned)
      · intro call member
        exact List.mem_append_left _ ((mem_kept rfl).mpr (borrowed call member))
  | took ticket handle =>
      constructor
      · intro alive
        exact List.mem_cons_of_mem _ (mem_without (captured alive) Owner.noConfusion)
      · intro call member
        have earlier := (List.mem_filter.mp member).1
        exact List.mem_cons_of_mem _ (mem_without (borrowed call earlier) Owner.noConfusion)
  | abandoned ticket client waiting =>
      constructor
      · intro alive
        exact mem_without (captured alive) Owner.noConfusion
      · intro call member
        have earlier := (List.mem_filter.mp member).1
        exact mem_without (borrowed call earlier) Owner.noConfusion
  | hungUp next alive gone => exact absurd gone (tracked.owners_ne_nil alive)

/-- The task's own sender keeps `recv` from ever yielding `None`. -/
theorem never_hangs_up {state : Ownership} (tracked : state.Tracked) :
    senderMachine.step state .hangUp = none := by
  cases stepped : senderMachine.step state .hangUp with
  | none => rfl
  | some next =>
      cases does_of_step stepped with
      | hungUp _ alive gone => exact absurd gone (tracked.owners_ne_nil alive)

theorem ends_iff_not_leaked {state : Ownership} (tracked : state.Tracked) :
    state.Ends ↔ ¬ state.Leaked := by
  constructor
  · intro ends leaked
    obtain ⟨next, stepped, _⟩ := ends leaked.unreachable leaked.empty leaked.alive
    have never := never_hangs_up tracked
    change state.step .hangUp = none at never
    rw [never] at stepped
    cases stepped
  · intro unleaked unreachable empty alive
    exact absurd ⟨unreachable, empty, alive⟩ unleaked

theorem process_survives {actor : Actor} {msg : Msg} {world : World} :
    (process actor msg world).actor ≠ none ↔ Survives actor msg world := by
  have concluded : ∀ {returned : Returned}, (conclude msg returned).actor ≠ none ↔
      ∃ info, returned.result = .ok info := by
    intro returned
    unfold conclude
    cases returned.result with
    | ok info => simp
    | err error => simp
    | panicked => simp
  cases msg with
  | getChannel ticket =>
      cases current : actor.handleOpt with
      | some handle => simp [process, Survives, current]
      | none =>
          rw [process_getChannel current, concluded]
          simp [Survives, current]
  | createChannel report =>
      rw [process_createChannel, concluded]
      rfl

theorem delivered_none (events : List Event) : delivered [] events = [] := by
  apply List.filterMap_eq_nil_iff.mpr
  intro event _
  split
  · rfl
  · rfl

/-- Without anybody outside no call is left, since a call borrows its client. -/
theorem no_calls {state : Ownership} (tracked : state.Tracked)
    (unreachable : state.Unreachable) : state.calls = [] := by
  apply List.eq_nil_iff_forall_not_mem.mpr
  intro call member
  cases unreachable _ (tracked.borrowed call member)

theorem outside_of_held {owner : Owner} (held : owner.held = true) : owner.inside = false := by
  cases owner <;> first | rfl | cases held

theorem outside_of_copies {source target : Owner} (copies : source.copies target = true) :
    target.inside = false := by
  cases target <;> first | rfl | (cases source <;> cases copies)

theorem reachable_not_leaked {state : Ownership} {owner : Owner} (owned : owner ∈ state.owners)
    (outside : owner.inside = false) : ¬ state.Leaked := by
  intro leaked
  have inside := leaked.unreachable owner owned
  rw [outside] at inside
  cases inside

theorem leaked_iff_orphans {state next : Ownership} {deed : Deed} (tracked : state.Tracked)
    (does : Does state deed next) : next.Leaked ↔ Orphans state deed := by
  cases does with
  | copied source target owned copies =>
      exact iff_of_false (reachable_not_leaked List.mem_cons_self (outside_of_copies copies)) id
  | dropped owner owned held unborrowed =>
      constructor
      · intro leaked
        have others : ∀ other ∈ state.owners, other.inside = true ∨ other = owner := by
          intro other member
          by_cases same : other = owner
          · exact Or.inr same
          · exact Or.inl (leaked.unreachable other (mem_without member same))
        refine ⟨owned, held, ?_, others, leaked.empty, leaked.alive⟩
        apply List.eq_nil_iff_forall_not_mem.mpr
        intro call member
        rcases others _ (tracked.borrowed call member) with inside | same
        · cases inside
        · exact unborrowed call member same.symm
      · rintro ⟨_, _, _, others, empty, alive⟩
        refine ⟨?_, empty, alive⟩
        intro other member
        obtain ⟨earlier, differs⟩ := List.mem_filter.mp member
        exact (others other earlier).resolve_right (of_decide_eq_true differs)
  | requested client ticket system owned sent =>
      exact iff_of_false (reachable_not_leaked owned rfl) id
  | reported owner report system owned held sent =>
      exact iff_of_false (reachable_not_leaked owned (outside_of_held held)) id
  | received world actor msg rest alive queued =>
      constructor
      · intro leaked
        have survived := leaked.alive
        rw [after_actor] at survived
        have last : rest = [] := by
          have empty := leaked.empty
          obtain ⟨current, same⟩ := Option.ne_none_iff_exists'.mp survived
          simp only [System.after, same] at empty
          exact empty
        refine ⟨?_, actor, msg, alive, last ▸ queued, process_survives.mp survived⟩
        intro owner member
        by_contra outside
        exact outside (leaked.unreachable owner (List.mem_append_left _
          ((mem_kept (Bool.eq_false_iff.mpr outside)).mpr member)))
      · rintro ⟨unreachable, other, single, still, only, survives⟩
        obtain rfl : actor = other := Option.some.inj (alive.symm.trans still)
        obtain ⟨rfl, rfl⟩ : msg = single ∧ rest = [] := by
          rw [only] at queued
          cases queued
          exact ⟨rfl, rfl⟩
        have survived := process_survives.mpr survives
        refine ⟨?_, ?_, ?_⟩
        · simp only [Ownership.Unreachable]
          rw [no_calls tracked unreachable, delivered_none, List.append_nil]
          exact kept_unreachable unreachable
        · exact List.eq_nil_of_length_eq_zero (Nat.le_zero.mp (after_mailbox state.system [] _))
        · rw [after_actor]
          exact survived
  | took ticket handle => exact iff_of_false (reachable_not_leaked List.mem_cons_self rfl) id
  | abandoned ticket client waiting =>
      have owned := mem_without (tracked.borrowed _ waiting) (Owner.noConfusion : _ ≠ .reply ticket)
      exact iff_of_false (reachable_not_leaked owned rfl) id
  | hungUp next alive gone => exact absurd gone (tracked.owners_ne_nil alive)

theorem orphans_enabled {state : Ownership} {deed : Deed} (orphans : Orphans state deed) :
    senderMachine.step state deed ≠ none := by
  change state.step deed ≠ none
  cases deed with
  | drop owner =>
      obtain ⟨owned, held, uncalled, _⟩ := orphans
      simp [Ownership.step, owned, held, uncalled]
  | receive world =>
      obtain ⟨_, actor, msg, alive, queued, _⟩ := orphans
      simp [Ownership.step, Ownership.receive, System.receive, alive, queued]
  | copy source target => cases orphans
  | request client ticket => cases orphans
  | report owner report => cases orphans
  | take ticket handle => cases orphans
  | abandon ticket => cases orphans
  | hangUp => cases orphans

/-- In every state of a run an actor that nobody can send to any more ends iff no step of the run
orphans a running actor. -/
theorem actor_ends_iff_never_orphaned (connection : NodeConnection) (deeds : List Deed) :
    senderMachine.Always Ownership.Ends (.start connection) deeds ↔
      senderMachine.Guarded (fun state deed => ¬ Orphans state deed) (.start connection) deeds := by
  apply senderMachine.always_iff_guarded _ Ownership.Tracked
  · intro state deed next tracked _ stepped
    exact tracked_step tracked (does_of_step stepped)
  · intro state deed next tracked _ stepped
    have does := does_of_step stepped
    calc
      next.Ends ↔ ¬ next.Leaked := ends_iff_not_leaked (tracked_step tracked does)
      _ ↔ ¬ Orphans state deed := not_congr (leaked_iff_orphans tracked does)
  · intro state deed disabled orphans
    exact orphans_enabled orphans disabled
  · exact tracked_start connection
  · have owned : .client 0 ∈ (Ownership.start connection).owners :=
      List.mem_cons_of_mem _ List.mem_cons_self
    exact (ends_iff_not_leaked (tracked_start connection)).mpr (reachable_not_leaked owned rfl)

/-- The only client is dropped before it has asked for anything. -/
theorem dropped_client_leaves_actor :
    ∃ state, senderMachine.run (.start soloConnection) [.drop (.client 0)] = some state ∧
      ¬ state.Ends := by
  refine ⟨⟨.start soloConnection, [.captured], []⟩, rfl, ?_⟩
  intro ends
  have unreachable : ∀ owner ∈ [Owner.captured], owner.inside = true := by decide
  obtain ⟨next, stepped, _⟩ := ends unreachable rfl (Option.some_ne_none _)
  cases stepped

theorem ownership_refines_system {connection : NodeConnection} {deeds : List Deed}
    {state : Ownership} (ran : senderMachine.run (.start connection) deeds = some state) :
    ∃ labels, machine.run (.start connection) labels = some state.system := by
  have single : ∀ {system next : System} {label : Label}, machine.step system label = some next →
      machine.run system [label] = some next := by
    intro system next label stepped
    exact machine.run_cons_eq_some.mpr ⟨next, stepped, rfl⟩
  have simulated := senderMachine.simulate machine
    (fun state system => state.system = system ∧ state.Tracked) ?_
    (⟨rfl, tracked_start connection⟩ : _ ∧ (Ownership.start connection).Tracked) ran
  · obtain ⟨labels, system, reached, same, _⟩ := simulated
    exact ⟨labels, same ▸ reached⟩
  · rintro state deed next system ⟨rfl, tracked⟩ stepped
    have does := does_of_step stepped
    have later := tracked_step tracked does
    cases does with
    | copied source target owned copies => exact ⟨[], _, rfl, rfl, later⟩
    | dropped owner owned held unborrowed => exact ⟨[], _, rfl, rfl, later⟩
    | requested client ticket system owned sent =>
        exact ⟨[.send (.getChannel ticket)], system, single sent, rfl, later⟩
    | reported owner report system owned held sent =>
        exact ⟨[.send (.createChannel report)], system, single sent, rfl, later⟩
    | received world actor msg rest alive queued =>
        exact ⟨[.receive world], _, single (receive_enabled alive queued world), rfl, later⟩
    | took ticket handle => exact ⟨[], _, rfl, rfl, later⟩
    | abandoned ticket client waiting => exact ⟨[], _, rfl, rfl, later⟩
    | hungUp next alive gone =>
        rw [never_hangs_up tracked] at stepped
        cases stepped

end TrogonEventStore.Connection

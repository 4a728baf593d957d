import TrogonEventStore.ConnectionActor
import TrogonEventStore.Library.Ledger
import TrogonEventStore.Library.Machine

namespace TrogonEventStore.Connection

structure System where
  actor : Option Actor
  mailbox : List Msg
  history : List Event

def System.start (connection : NodeConnection) : System := ⟨some (.new connection), [], []⟩

inductive Label where
  | send (msg : Msg)
  | receive (world : World)

def Msg.ticket : Msg → Option Ticket
  | .getChannel ticket => some ticket
  | .createChannel _ => none

def Event.requested : Event → Option Ticket
  | .sent msg => msg.ticket
  | _ => none

def Event.resolved : Event → Option Ticket
  | .answered ticket _ => some ticket
  | .dropped ticket => some ticket
  | _ => none

namespace System

def requested (system : System) : List Ticket := system.history.filterMap Event.requested

def pending (system : System) : List Ticket := system.mailbox.filterMap Msg.ticket

def resolved (system : System) : List Ticket := system.history.filterMap Event.resolved

/-- Each `GetChannel` comes with a oneshot of its own. A message sent after the actor has stopped
comes back to its sender. -/
def send (system : System) (msg : Msg) : Option System :=
  if msg.ticket.any (· ∈ system.requested) then none
  else match system.actor with
    | some _ => some { system with
        mailbox := system.mailbox ++ [msg]
        history := system.history ++ [.sent msg] }
    | none => some { system with history := system.history ++ .sent msg :: msg.lost }

/-- Leaving the loop drops the receiver, and with it the senders that wait in the mailbox. -/
def after (system : System) (rest : List Msg) (processed : Processed) : System :=
  match processed.actor with
  | some next => ⟨some next, rest, system.history ++ processed.events⟩
  | none => ⟨none, [], system.history ++ (processed.events ++ rest.flatMap Msg.lost)⟩

def receive (system : System) (world : World) : Option System :=
  match system.actor, system.mailbox with
  | some actor, msg :: rest => some (system.after rest (process actor msg world))
  | _, _ => none

end System

def machine : Machine System Label where
  step system label :=
    match label with
    | .send msg => system.send msg
    | .receive world => system.receive world

def Event.opens : Event → List HandleInfo
  | .processed _ trace => NodeConnection.opened trace
  | _ => []

def Event.after (current : Option Handle) (event : Event) : Option Handle :=
  match event.opens.getLast? with
  | some info => some (.ofInfo info)
  | none => current

def follow (current : Option Handle) (history : List Event) : Option Handle :=
  history.foldl Event.after current

/-- Every answer is the handle in force when it was given, or an error while there was none. -/
def Event.AnsweredFrom (current : Option Handle) : Event → Prop
  | .answered _ result => ∀ handle, current = some handle ↔ result = .ok handle
  | _ => True

def Recorded : Option Handle → List Event → Prop
  | _, [] => True
  | current, event :: history => event.AnsweredFrom current ∧ Recorded (event.after current) history

theorem follow_append (current : Option Handle) (first second : List Event) :
    follow current (first ++ second) = follow (follow current first) second :=
  List.foldl_append

theorem recorded_append (current : Option Handle) (first second : List Event) :
    Recorded current (first ++ second) ↔
      Recorded current first ∧ Recorded (follow current first) second := by
  induction first generalizing current with
  | nil => simp only [List.nil_append, Recorded, true_and, follow, List.foldl_nil]
  | cons event first ih =>
      simp only [List.cons_append, Recorded, ih, and_assoc, follow, List.foldl_cons]

theorem recorded_lost (current : Option Handle) (msgs : List Msg) :
    Recorded current (msgs.flatMap Msg.lost) ∧ follow current (msgs.flatMap Msg.lost) = current := by
  induction msgs with
  | nil => exact ⟨trivial, rfl⟩
  | cons msg msgs ih =>
      rw [List.flatMap_cons, recorded_append, follow_append]
      cases msg with
      | getChannel ticket => exact ⟨⟨⟨trivial, trivial⟩, ih.1⟩, ih.2⟩
      | createChannel report => exact ⟨⟨trivial, ih.1⟩, ih.2⟩

structure Invariant (system : System) : Prop where
  consistent : ∀ actor, system.actor = some actor → actor.Consistent
  current : ∀ actor, system.actor = some actor → actor.handleOpt = follow none system.history
  recorded : Recorded none system.history
  stopped : system.actor = none → system.mailbox = []
  kept : ∀ ticket, .dropped ticket ∈ system.history → system.actor = none
  ledger : Ledger system.requested system.pending system.resolved

theorem send_cases {system next : System} {msg : Msg} (stepped : system.send msg = some next) :
    (∀ ticket, msg.ticket = some ticket → ticket ∉ system.requested) ∧
      ((∃ actor, system.actor = some actor ∧ next = { system with
          mailbox := system.mailbox ++ [msg]
          history := system.history ++ [.sent msg] }) ∨
        (system.actor = none ∧
          next = { system with history := system.history ++ .sent msg :: msg.lost })) := by
  unfold System.send at stepped
  split at stepped
  · cases stepped
  · next known =>
      constructor
      · intro ticket waits again
        simp [waits, again] at known
      · split at stepped
        · next actor alive =>
            cases stepped
            exact Or.inl ⟨actor, alive, rfl⟩
        · next gone =>
            cases stepped
            exact Or.inr ⟨gone, rfl⟩

theorem receive_cases {system next : System} {world : World}
    (stepped : system.receive world = some next) :
    ∃ actor msg rest, system.actor = some actor ∧ system.mailbox = msg :: rest ∧
      next = system.after rest (process actor msg world) := by
  unfold System.receive at stepped
  split at stepped
  · next actor msg rest alive taken =>
      cases stepped
      exact ⟨actor, msg, rest, alive, taken, rfl⟩
  · cases stepped

theorem receive_enabled {system : System} {actor : Actor} {msg : Msg} {rest : List Msg}
    (alive : system.actor = some actor) (taken : system.mailbox = msg :: rest) (world : World) :
    system.receive world = some (system.after rest (process actor msg world)) := by
  simp only [System.receive, alive, taken]

theorem resolved_answer (result : Except GrpcConnectionError Handle) (msg : Msg) :
    (msg.answer result).filterMap Event.resolved = msg.ticket.toList := by
  cases msg <;> rfl

theorem resolved_lost (msg : Msg) :
    msg.lost.filterMap Event.resolved = msg.ticket.toList := by
  cases msg <;> rfl

theorem resolved_all_lost (msgs : List Msg) :
    (msgs.flatMap Msg.lost).filterMap Event.resolved = msgs.filterMap Msg.ticket := by
  induction msgs with
  | nil => rfl
  | cons msg msgs ih =>
      rw [List.flatMap_cons, List.filterMap_append, ih, resolved_lost]
      cases msg <;> rfl

theorem requested_lost (msg : Msg) : msg.lost.filterMap Event.requested = [] := by
  cases msg <;> rfl

theorem requested_all_lost (msgs : List Msg) :
    (msgs.flatMap Msg.lost).filterMap Event.requested = [] := by
  induction msgs with
  | nil => rfl
  | cons msg msgs ih => rw [List.flatMap_cons, List.filterMap_append, requested_lost, ih, List.nil_append]

theorem requested_answer (result : Except GrpcConnectionError Handle) (msg : Msg) :
    (msg.answer result).filterMap Event.requested = [] := by
  cases msg <;> rfl

theorem requested_sent (msg : Msg) (events : List Event) :
    (.sent msg :: events).filterMap Event.requested =
      msg.ticket.toList ++ events.filterMap Event.requested := by
  cases msg <;> rfl

theorem resolved_sent (msg : Msg) (events : List Event) :
    (.sent msg :: events).filterMap Event.resolved = events.filterMap Event.resolved := rfl

theorem pending_cons (msg : Msg) (rest : List Msg) :
    (msg :: rest).filterMap Msg.ticket = msg.ticket.toList ++ rest.filterMap Msg.ticket := by
  cases msg <;> rfl

theorem ledger_send {issued waiting settled : List Ticket}
    (ledger : Ledger issued waiting settled) (msg : Msg)
    (fresh : ∀ ticket, msg.ticket = some ticket → ticket ∉ issued) :
    Ledger (issued ++ msg.ticket.toList) (waiting ++ msg.ticket.toList) settled := by
  cases waits : msg.ticket with
  | none => simpa only [Option.toList_none, List.append_nil] using ledger
  | some ticket => exact ledger.issue (fresh ticket waits)

theorem send_invariant {system next : System} {msg : Msg} (invariant : Invariant system)
    (stepped : system.send msg = some next) : Invariant next := by
  obtain ⟨fresh, ⟨actor, alive, rfl⟩ | ⟨gone, rfl⟩⟩ := send_cases stepped
  · have ledger := ledger_send invariant.ledger msg fresh
    refine ⟨invariant.consistent, ?_, ?_, ?_, ?_, ?_⟩
    · intro other same
      rw [follow_append]
      exact invariant.current other same
    · rw [recorded_append]
      exact ⟨invariant.recorded, trivial, trivial⟩
    · intro gone
      rw [alive] at gone
      cases gone
    · intro ticket member
      rcases List.mem_append.mp member with earlier | impossible
      · exact invariant.kept ticket earlier
      · cases List.mem_singleton.mp impossible
    · simp only [System.requested, System.pending, System.resolved, List.filterMap_append,
        requested_sent, resolved_sent, pending_cons, List.filterMap_nil, List.append_nil]
      exact ledger
  · have empty := invariant.stopped gone
    refine ⟨?_, ?_, ?_, ?_, fun _ _ => gone, ?_⟩
    · intro actor alive
      rw [gone] at alive
      cases alive
    · intro actor alive
      rw [gone] at alive
      cases alive
    · rw [recorded_append]
      have lost := recorded_lost (follow none system.history) [msg]
      rw [List.flatMap_singleton] at lost
      exact ⟨invariant.recorded, trivial, lost.1⟩
    · intro _
      exact empty
    · simp only [System.requested, System.pending, System.resolved, List.filterMap_append,
        requested_sent, resolved_sent, requested_lost, resolved_lost, List.append_nil]
      have ledger := ledger_send invariant.ledger msg fresh
      apply ledger.settle
      rw [System.pending, empty, List.filterMap_nil, List.nil_append, List.append_nil]

theorem requested_processed (msg : Msg) (trace : List DiscoveryEvent) (events : List Event) :
    (.processed msg trace :: events).filterMap Event.requested =
      events.filterMap Event.requested := rfl

theorem resolved_processed (msg : Msg) (trace : List DiscoveryEvent) (events : List Event) :
    (.processed msg trace :: events).filterMap Event.resolved =
      events.filterMap Event.resolved := rfl

theorem dropped_answer {ticket : Ticket} {result : Except GrpcConnectionError Handle} {msg : Msg}
    (member : Event.dropped ticket ∈ msg.answer result) : False := by
  cases msg with
  | getChannel other => cases List.mem_singleton.mp member
  | createChannel report => cases member

theorem recorded_answer {current : Option Handle} {result : Except GrpcConnectionError Handle}
    (given : ∀ handle, current = some handle ↔ result = .ok handle) (msg : Msg) :
    Recorded current (msg.answer result) ∧ follow current (msg.answer result) = current := by
  cases msg with
  | getChannel ticket => exact ⟨⟨given, trivial⟩, rfl⟩
  | createChannel report => exact ⟨trivial, rfl⟩

/-- A message the actor survives is answered with the handle it then holds. -/
theorem alive_invariant {system : System} {actor next : Actor} {msg : Msg} {rest : List Msg}
    {trace : List DiscoveryEvent} {handle : Handle} (invariant : Invariant system)
    (alive : system.actor = some actor) (taken : system.mailbox = msg :: rest)
    (consistent : next.Consistent) (current : next.handleOpt = some handle)
    (follows : (Event.processed msg trace).after (follow none system.history) = some handle) :
    Invariant ⟨some next, rest,
      system.history ++ .processed msg trace :: msg.answer (.ok handle)⟩ := by
  have given : ∀ other, some handle = some other ↔
      (.ok handle : Except GrpcConnectionError Handle) = .ok other := by
    intro other
    rw [Option.some.injEq, Except.ok.injEq]
  have answer := recorded_answer given msg
  have after : follow none (system.history ++ .processed msg trace :: msg.answer (.ok handle)) =
      some handle := by
    rw [follow_append, follow, List.foldl_cons, follows]
    exact answer.2
  refine ⟨?_, ?_, ?_, ?_, ?_, ?_⟩
  · intro other same
    cases same
    exact consistent
  · intro other same
    cases same
    rw [after, current]
  · rw [recorded_append]
    refine ⟨invariant.recorded, trivial, ?_⟩
    rw [follows]
    exact answer.1
  · intro gone
    cases gone
  · intro ticket member
    rcases List.mem_append.mp member with earlier | now
    · have gone := invariant.kept ticket earlier
      rw [alive] at gone
      cases gone
    · rcases List.mem_cons.mp now with impossible | given
      · cases impossible
      · exact absurd given dropped_answer
  · have ledger := invariant.ledger
    simp only [System.requested, System.pending, System.resolved, taken, List.filterMap_append,
      requested_processed, resolved_processed, requested_answer, resolved_answer, pending_cons,
      List.append_nil] at ledger ⊢
    exact ledger.settle (List.Perm.refl _)

theorem stopped_invariant {system : System} {msg : Msg} {rest : List Msg}
    {trace : List DiscoveryEvent} {ending : List Event} (invariant : Invariant system)
    (taken : system.mailbox = msg :: rest) (opens : NodeConnection.opened trace = [])
    (records : Recorded (follow none system.history) ending ∧
      follow (follow none system.history) ending = follow none system.history)
    (requests : ending.filterMap Event.requested = [])
    (resolves : ending.filterMap Event.resolved = msg.ticket.toList) :
    Invariant ⟨none, [],
      system.history ++ (.processed msg trace :: ending ++ rest.flatMap Msg.lost)⟩ := by
  have silent : (Event.processed msg trace).after (follow none system.history) =
      follow none system.history := by
    simp only [Event.after, Event.opens, opens, List.getLast?_nil]
  refine ⟨?_, ?_, ?_, fun _ => rfl, fun _ _ => rfl, ?_⟩
  · intro actor alive
    cases alive
  · intro actor alive
    cases alive
  · rw [recorded_append, List.cons_append]
    refine ⟨invariant.recorded, trivial, ?_⟩
    rw [silent, recorded_append, records.2]
    exact ⟨records.1, (recorded_lost _ rest).1⟩
  · have ledger := invariant.ledger
    simp only [System.requested, System.pending, System.resolved, taken, List.filterMap_append,
      List.cons_append, requested_processed, resolved_processed, requests, resolves,
      requested_all_lost, resolved_all_lost, pending_cons, List.append_nil,
      List.filterMap_nil] at ledger ⊢
    apply ledger.settle
    rw [List.append_nil]

theorem receive_invariant {system next : System} {world : World} (invariant : Invariant system)
    (stepped : system.receive world = some next) : Invariant next := by
  obtain ⟨actor, msg, rest, alive, taken, rfl⟩ := receive_cases stepped
  have consistent := invariant.consistent actor alive
  have current := invariant.current actor alive
  have outcome := process_outcome consistent msg world
  generalize process actor msg world = processed at outcome ⊢
  cases outcome with
  | kept handle held stays =>
      apply alive_invariant invariant alive taken consistent held
      rw [← current, held]
      rfl
  | connected other info trace reconnects settled held fresh opens =>
      apply alive_invariant invariant alive taken settled held
      simp only [Event.after, Event.opens, opens, List.getLast?_singleton]
  | failed trace error reconnects opens =>
      apply stopped_invariant invariant taken opens _ (requested_answer _ msg)
        (resolved_answer _ msg)
      cases msg with
      | createChannel report => exact ⟨trivial, rfl⟩
      | getChannel ticket =>
          rcases reconnects with empty | ⟨leader, impossible⟩
          · apply recorded_answer
            intro handle
            rw [← current, empty]
            constructor <;> intro impossible <;> cases impossible
          · cases impossible
  | panicked trace reconnects opens =>
      apply stopped_invariant invariant taken opens _ (requested_lost msg) (resolved_lost msg)
      have lost := recorded_lost (follow none system.history) [msg]
      rw [List.flatMap_singleton] at lost
      exact lost

theorem start_invariant {settings : ClientSettings} {connection : NodeConnection}
    (created : NodeConnection.new settings = some connection) :
    Invariant (System.start connection) where
  consistent := by
    intro actor alive
    cases alive
    exact Actor.new_consistent created
  current := by
    intro actor alive
    cases alive
    rfl
  recorded := trivial
  stopped := by
    intro gone
    cases gone
  kept := by
    intro ticket member
    cases member
  ledger := Ledger.empty

theorem step_invariant {system next : System} {label : Label} (invariant : Invariant system)
    (stepped : machine.step system label = some next) : Invariant next := by
  cases label with
  | send msg => exact send_invariant invariant stepped
  | receive world => exact receive_invariant invariant stepped

theorem run_invariant_from {labels : List Label} {system last : System}
    (invariant : Invariant system) (ran : machine.run system labels = some last) :
    Invariant last := by
  exact machine.run_invariant Invariant (fun _ _ _ => step_invariant) invariant ran

theorem run_keeps_invariant {settings : ClientSettings} {connection : NodeConnection}
    {labels : List Label} {system : System}
    (created : NodeConnection.new settings = some connection)
    (ran : machine.run (.start connection) labels = some system) : Invariant system :=
  run_invariant_from (start_invariant created) ran

def Event.cause : Event → Option Uuid
  | .processed (.createChannel ⟨id, some _⟩) trace =>
      if NodeConnection.opened trace = [] then none else some id
  | _ => none

def Event.ids : Event → List Uuid
  | .sent (.createChannel report) => [report.id]
  | .processed _ trace => (NodeConnection.opened trace).map HandleInfo.id
  | _ => []

def System.ids (system : System) : List Uuid := Uuid.nil :: system.history.flatMap Event.ids

/-- `Uuid::new_v4` gives an id that nobody has seen. -/
def Fresh (system : System) : Label → Prop
  | .send _ => True
  | .receive world => world.newV4 ∉ system.ids

instance (system : System) (label : Label) : Decidable (Fresh system label) :=
  match label with
  | .send _ => .isTrue trivial
  | .receive world => inferInstanceAs (Decidable (world.newV4 ∉ system.ids))

end TrogonEventStore.Connection

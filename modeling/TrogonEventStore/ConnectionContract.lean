import TrogonEventStore.ConnectionRuns

namespace TrogonEventStore.Connection

/-- A leader is reported under this id, and the actor takes the report. -/
def Event.Reconnects (id : Uuid) (event : Event) : Prop :=
  ∃ leader trace, event = .processed (.createChannel ⟨id, some leader⟩) trace

/-- The actor lives with the handle, and every `GetChannel` it has taken was answered with it. -/
structure Serves (handle : Handle) (actor : Option Actor) (since : List Event) : Prop where
  holds : ∃ current, actor = some current ∧ current.handleOpt = some handle
  answers : ∀ ticket trace, .processed (.getChannel ticket) trace ∈ since →
    .answered ticket (.ok handle) ∈ since
  only : ∀ ticket result, .answered ticket result ∈ since → result = .ok handle

theorem Serves.quiet {handle : Handle} {actor : Option Actor} {since : List Event}
    (serves : Serves handle actor since) {event : Event}
    (untaken : ∀ ticket trace, event ≠ .processed (.getChannel ticket) trace)
    (unanswered : ∀ ticket result, event ≠ .answered ticket result) :
    Serves handle actor (since ++ [event]) where
  holds := serves.holds
  answers := by
    intro ticket trace member
    rcases List.mem_append.mp member with earlier | now
    · exact List.mem_append_left _ (serves.answers ticket trace earlier)
    · exact absurd (List.mem_singleton.mp now).symm (untaken ticket trace)
  only := by
    intro ticket result member
    rcases List.mem_append.mp member with earlier | now
    · exact serves.only ticket result earlier
    · exact absurd (List.mem_singleton.mp now).symm (unanswered ticket result)

theorem Serves.answered {handle : Handle} {actor : Option Actor} {since : List Event}
    (serves : Serves handle actor since) (msg : Msg) :
    Serves handle actor (since ++ .processed msg [] :: msg.answer (.ok handle)) := by
  cases msg with
  | createChannel report =>
      apply serves.quiet
      · intro ticket trace impossible
        cases impossible
      · intro ticket result impossible
        cases impossible
  | getChannel ticket =>
      refine ⟨serves.holds, ?_, ?_⟩
      · intro other trace member
        rcases List.mem_append.mp member with earlier | now
        · exact List.mem_append_left _ (serves.answers other trace earlier)
        · rcases List.mem_cons.mp now with same | impossible
          · cases same
            exact List.mem_append_right _ (List.mem_cons_of_mem _ (List.mem_singleton_self _))
          · cases List.mem_singleton.mp impossible
      · intro other result member
        rcases List.mem_append.mp member with earlier | now
        · exact serves.only other result earlier
        · rcases List.mem_cons.mp now with impossible | same
          · cases impossible
          · cases List.mem_singleton.mp same
            rfl

theorem after_mailbox (system : System) (rest : List Msg) (processed : Processed) :
    (system.after rest processed).mailbox.length ≤ rest.length := by
  unfold System.after
  split
  · exact Nat.le_refl _
  · exact Nat.zero_le _

def soloSettings : ClientSettings := .solo ⟨"localhost", 2113⟩

def soloConnection : NodeConnection := .solo ⟨"localhost", 2113⟩ 3

/-- Processing the report discovers a node again, and from then on every `GetChannel` is answered
with a handle of an id nobody has seen yet, or with an error. -/
structure Reselects (report : CreateChannel) (state : System) (world : World) : Prop where
  rediscovers : ∀ next, machine.step state (.receive world) = some next →
    ∃ trace, trace ≠ [] ∧ .processed (.createChannel report) trace ∈
      next.history.drop state.history.length
  renews : ∀ next labels last, machine.step state (.receive world) = some next →
    machine.run next labels = some last → ∀ ticket handle,
      .answered ticket (.ok handle) ∈ last.history.drop next.history.length →
      handle.id ≠ report.id ∧ handle.id ∉ state.ids

theorem seedless_report_kept {state : System} (invariant : Invariant state) {actor : Actor}
    {handle : Handle} {id : Uuid} {rest : List Msg} (alive : state.actor = some actor)
    (current : actor.handleOpt = some handle)
    (taken : state.mailbox = .createChannel ⟨id, none⟩ :: rest) (world : World) :
    machine.step state (.receive world) = some ⟨some actor, rest,
      state.history ++ [.processed (.createChannel ⟨id, none⟩) []]⟩ := by
  have stepped := receive_enabled alive taken world
  have outcome := process_outcome (invariant.consistent actor alive)
    (.createChannel ⟨id, none⟩) world
  have stays : ¬ actor.Reconnects (.createChannel ⟨id, none⟩) := by
    rintro (empty | ⟨leader, impossible⟩)
    · rw [current] at empty
      cases empty
    · cases impossible
  generalize process actor (.createChannel ⟨id, none⟩) world = processed at outcome stepped
  cases outcome with
  | kept handle _ _ => exact stepped
  | connected next info trace reconnects => exact absurd reconnects stays
  | failed trace error reconnects => exact absurd reconnects stays
  | panicked trace reconnects => exact absurd reconnects stays

theorem not_reselects {state next : System} {report : CreateChannel} {world : World}
    (stepped : machine.step state (.receive world) = some next)
    (quiet : next.history = state.history ++ [.processed (.createChannel report) []]) :
    ¬ Reselects report state world := by
  intro reselects
  obtain ⟨trace, searched, member⟩ := reselects.rediscovers next stepped
  rw [quiet, List.drop_left, List.mem_singleton] at member
  cases member
  exact searched rfl

/-- Reporting a server error about the current handle never leads to another node: the actor
keeps its handle, and with it the answer to the next `GetChannel`. -/
theorem server_error_report_keeps_handle {settings : ClientSettings} {connection : NodeConnection}
    {labels : List Label} {state : System} {actor : Actor} {handle : Handle} {status : Status}
    {report : CreateChannel} {rest : List Msg}
    (created : NodeConnection.new settings = some connection)
    (ran : machine.run (.start connection) labels = some state)
    (alive : state.actor = some actor) (current : actor.handleOpt = some handle)
    (sent : report ∈ handleError handle.id (.serverError status) ∨
      report = handle.reportError (.serverError status))
    (taken : state.mailbox = .createChannel report :: rest) (world : World) :
    ¬ Reselects report state world ∧
      machine.step state (.receive world) = some ⟨some actor, rest,
        state.history ++ [.processed (.createChannel report) []]⟩ := by
  have invariant := run_keeps_invariant created ran
  have same : report = ⟨handle.id, none⟩ := by
    rcases sent with sent | sent
    · exact List.mem_singleton.mp sent
    · exact sent
  subst same
  have stepped := seedless_report_kept invariant alive current taken world
  exact ⟨not_reselects stepped rfl, stepped⟩

def unavailableLabels : List Label :=
  [.send (.getChannel 0), .receive (.steady .healthy 1), .send (.createChannel ⟨1, none⟩)]

theorem unavailable_node_keeps_handle :
    ∃ state, machine.run (.start soloConnection) unavailableLabels = some state ∧
      ¬ Reselects ⟨1, none⟩ state (.steady .healthy 2) := by
  have created : NodeConnection.new soloSettings = some soloConnection := rfl
  obtain ⟨state, ran, actor, handle, rest, alive, held, named, taken⟩ : ∃ state,
      machine.run (.start soloConnection) unavailableLabels = some state ∧ ∃ actor handle rest,
        state.actor = some actor ∧ actor.handleOpt = some handle ∧ handle.id = 1 ∧
        state.mailbox = .createChannel ⟨1, none⟩ :: rest :=
    ⟨_, rfl, _, _, _, rfl, rfl, rfl, rfl⟩
  have sent : ⟨1, none⟩ ∈ handleError handle.id
      (.serverError (.new .unavailable "connection refused")) := by
    rw [named]
    exact List.mem_singleton_self _
  exact ⟨state, ran,
    (server_error_report_keeps_handle created ran alive held (Or.inl sent) taken _).1⟩

/-- After the report, a caller is still given the handle of the node. -/
theorem unavailable_node_not_reselected :
    ∃ state next last handle, machine.run (.start soloConnection) unavailableLabels = some state ∧
      machine.step state (.receive (.steady .healthy 2)) = some next ∧
      machine.run next [.send (.getChannel 1), .receive (.steady .healthy 3)] = some last ∧
      ¬ Reselects ⟨1, none⟩ state (.steady .healthy 2) ∧
      handle.id = 1 ∧ last.history.getLast? = some (.answered 1 (.ok handle)) := by
  obtain ⟨state, next, last, handle, ran, stepped, quiet, later, named, answered⟩ :
      ∃ state next last handle,
        machine.run (.start soloConnection) unavailableLabels = some state ∧
        machine.step state (.receive (.steady .healthy 2)) = some next ∧
        next.history = state.history ++ [.processed (.createChannel ⟨1, none⟩) []] ∧
        machine.run next [.send (.getChannel 1), .receive (.steady .healthy 3)] = some last ∧
        handle.id = 1 ∧ last.history.getLast? = some (.answered 1 (.ok handle)) :=
    ⟨_, _, _, ⟨1, "http://localhost:2113", ⟨"localhost", 2113⟩, false, ⟨⟨1, 0, 0⟩, .nothing⟩⟩,
      rfl, rfl, rfl, rfl, rfl, rfl⟩
  exact ⟨state, next, last, handle, ran, stepped, later, not_reselects stepped quiet, named, answered⟩

end TrogonEventStore.Connection

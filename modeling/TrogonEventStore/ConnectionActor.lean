import TrogonEventStore.NodeConnection

/-! `connection_state_machine`: the actor that owns the connection and hands out its handle. -/

namespace TrogonEventStore

structure Handle where
  id : Uuid
  uri : String
  endpoint : Endpoint
  secure : Bool
  serverInfo : ServerInfo
  deriving DecidableEq, Repr

/-- The handle the actor builds from what `next` returns; its sender is the actor's own. -/
def Handle.ofInfo (info : HandleInfo) : Handle :=
  ⟨info.id, info.uri, info.endpoint, info.secure, info.serverInfo⟩

/-- `Handle::report_error`: the same report whatever the error. -/
def Handle.reportError (handle : Handle) (_error : Error) : CreateChannel := ⟨handle.id, none⟩

namespace Connection

/-- The oneshot on which one `GetChannel` is answered. -/
abbrev Ticket := Nat

inductive Msg where
  | getChannel (ticket : Ticket)
  | createChannel (report : CreateChannel)
  deriving DecidableEq, Repr

structure Actor where
  connection : NodeConnection
  handleOpt : Option Handle
  deriving DecidableEq, Repr

def Actor.new (connection : NodeConnection) : Actor := ⟨connection, none⟩

inductive Event where
  | sent (msg : Msg)
  | processed (msg : Msg) (trace : List DiscoveryEvent)
  | answered (ticket : Ticket) (result : Except GrpcConnectionError Handle)
  | dropped (ticket : Ticket)

structure Processed where
  actor : Option Actor
  events : List Event

def process (actor : Actor) (msg : Msg) (world : World) : Processed :=
  match msg with
  | .getChannel ticket =>
      match actor.handleOpt with
      | some handle => ⟨some actor, [.processed msg [], .answered ticket (.ok handle)]⟩
      | none =>
          let returned := actor.connection.next none world
          match returned.result with
          | .err error =>
              ⟨none, [.processed msg returned.trace, .answered ticket (.error error)]⟩
          | .ok info =>
              ⟨some ⟨returned.connection, some (.ofInfo info)⟩,
                [.processed msg returned.trace, .answered ticket (.ok (.ofInfo info))]⟩
          | .panicked => ⟨none, [.processed msg returned.trace, .dropped ticket]⟩
  | .createChannel report =>
      let request := report.seedOpt.map fun endpoint => NodeRequest.mk report.id endpoint
      let returned := actor.connection.next request world
      match returned.result with
      | .err _ => ⟨none, [.processed msg returned.trace]⟩
      | .ok info =>
          ⟨some ⟨returned.connection, some (.ofInfo info)⟩, [.processed msg returned.trace]⟩
      | .panicked => ⟨none, [.processed msg returned.trace]⟩

def Msg.answer (result : Except GrpcConnectionError Handle) : Msg → List Event
  | .getChannel ticket => [.answered ticket result]
  | .createChannel _ => []

/-- What becomes of a message nobody will process. -/
def Msg.lost : Msg → List Event
  | .getChannel ticket => [.dropped ticket]
  | .createChannel _ => []

/-- `GrpcClient::current_selected_node` by the reply to its `GetChannel`: `none` when the actor
has stopped and the sender is gone. -/
def currentSelectedNode : Option (Except GrpcConnectionError Handle) → Except Error Handle
  | some (.ok handle) => .ok handle
  | some (.error error) => .error (.grpcConnectionError error)
  | none => .error .connectionClosed

/-- The two caches hold the same handle, and it carries the current id. -/
def Actor.Consistent (actor : Actor) : Prop :=
  actor.handleOpt = actor.connection.handle.map Handle.ofInfo ∧
    ∀ info, actor.connection.handle = some info → info.id = actor.connection.id

def Actor.Reconnects (actor : Actor) (msg : Msg) : Prop :=
  actor.handleOpt = none ∨ ∃ leader, msg = .createChannel ⟨actor.connection.id, some leader⟩

theorem Actor.new_consistent {settings : ClientSettings} {connection : NodeConnection}
    (created : NodeConnection.new settings = some connection) :
    (Actor.new connection).Consistent := by
  have empty : connection.handle = none := by
    unfold NodeConnection.new at created
    repeat' split at created
    all_goals cases created
    all_goals rfl
  constructor
  · simp only [Actor.new, empty, Option.map_none]
  · intro info cached
    simp only [Actor.new, empty] at cached
    cases cached

theorem Actor.Consistent.handle_none {actor : Actor} (consistent : actor.Consistent) :
    actor.handleOpt = none ↔ actor.connection.handle = none := by
  rw [consistent.1, Option.map_eq_none_iff]

/-- What any message can do: nothing beyond answering from the cache, open a connection that
both caches then hold, or stop the actor. -/
inductive Outcome (actor : Actor) (msg : Msg) (world : World) : Processed → Prop where
  | kept (handle : Handle) (current : actor.handleOpt = some handle)
      (stays : ¬ actor.Reconnects msg) :
      Outcome actor msg world ⟨some actor, .processed msg [] :: msg.answer (.ok handle)⟩
  | connected (next : Actor) (info : HandleInfo) (trace : List DiscoveryEvent)
      (reconnects : actor.Reconnects msg) (consistent : next.Consistent)
      (current : next.handleOpt = some (.ofInfo info)) (fresh : next.connection.id = world.newV4)
      (opens : NodeConnection.opened trace = [info]) :
      Outcome actor msg world
        ⟨some next, .processed msg trace :: msg.answer (.ok (.ofInfo info))⟩
  | failed (trace : List DiscoveryEvent) (error : GrpcConnectionError)
      (reconnects : actor.Reconnects msg) (opens : NodeConnection.opened trace = []) :
      Outcome actor msg world ⟨none, .processed msg trace :: msg.answer (.error error)⟩
  | panicked (trace : List DiscoveryEvent) (reconnects : actor.Reconnects msg)
      (opens : NodeConnection.opened trace = []) :
      Outcome actor msg world ⟨none, .processed msg trace :: msg.lost⟩

/-- The three ends of a message for which `next` was called. -/
def conclude (msg : Msg) (returned : Returned) : Processed :=
  match returned.result with
  | .err error => ⟨none, .processed msg returned.trace :: msg.answer (.error error)⟩
  | .ok info => ⟨some ⟨returned.connection, some (.ofInfo info)⟩,
      .processed msg returned.trace :: msg.answer (.ok (.ofInfo info))⟩
  | .panicked => ⟨none, .processed msg returned.trace :: msg.lost⟩

theorem process_getChannel {actor : Actor} (empty : actor.handleOpt = none) (ticket : Ticket)
    (world : World) :
    process actor (.getChannel ticket) world =
      conclude (.getChannel ticket) (actor.connection.next none world) := by
  simp only [process, empty, conclude, Msg.answer, Msg.lost]

theorem process_createChannel (actor : Actor) (report : CreateChannel) (world : World) :
    process actor (.createChannel report) world =
      conclude (.createChannel report)
        (actor.connection.next (report.seedOpt.map (NodeRequest.mk report.id)) world) := by
  simp only [process, conclude, Msg.answer, Msg.lost]

theorem conclude_settles {actor : Actor} {msg : Msg} {connection : NodeConnection} {world : World}
    {returned : Returned} (reconnects : actor.Reconnects msg)
    (settles : connection.Settles world returned []) :
    Outcome actor msg world (conclude msg returned) := by
  obtain ⟨after, result, trace⟩ := returned
  obtain ⟨_, settles⟩ := settles
  cases result with
  | ok info =>
      obtain ⟨current, fresh, cached, opens⟩ := settles
      simp only at current cached
      refine .connected ⟨after, some (.ofInfo info)⟩ info trace reconnects ⟨?_, ?_⟩ rfl current opens
      · rw [cached, Option.map_some]
      · intro other same
        rw [cached] at same
        cases same
        rw [fresh, current]
  | err error => exact .failed trace error reconnects settles.2
  | panicked => exact .panicked trace reconnects settles

theorem process_outcome {actor : Actor} (consistent : actor.Consistent) (msg : Msg)
    (world : World) : Outcome actor msg world (process actor msg world) := by
  cases msg with
  | getChannel ticket =>
      cases held : actor.handleOpt with
      | some handle =>
          have same : process actor (.getChannel ticket) world =
              ⟨some actor, [.processed (.getChannel ticket) [], .answered ticket (.ok handle)]⟩ := by
            simp only [process, held]
          rw [same]
          refine .kept handle held ?_
          rintro (empty | ⟨leader, impossible⟩)
          · rw [held] at empty
            cases empty
          · cases impossible
      | none =>
          rw [process_getChannel held]
          apply conclude_settles (Or.inl held)
          rcases actor.connection.next_cases none world with ⟨info, cached, _⟩ | ⟨_, settles⟩
          · rw [consistent.handle_none.mp held] at cached
            cases cached
          · exact settles
  | createChannel report =>
      rw [process_createChannel]
      rcases actor.connection.next_cases (report.seedOpt.map (NodeRequest.mk report.id)) world with
        ⟨info, cached, stale, same⟩ | ⟨given, settles⟩
      · have current : actor.handleOpt = some (.ofInfo info) := by
          rw [consistent.1, cached, Option.map_some]
        have unchanged : actor = ⟨actor.connection, some (.ofInfo info)⟩ := by
          rw [← current]
        rw [same]
        simp only [conclude]
        rw [← unchanged]
        refine .kept (.ofInfo info) current ?_
        rintro (empty | ⟨leader, named⟩)
        · rw [current] at empty
          cases empty
        · cases named
          exact stale _ rfl rfl
      · apply conclude_settles _ settles
        rcases given with missing | ⟨named, requested, correlated⟩
        · exact Or.inl (consistent.handle_none.mpr missing)
        · obtain ⟨leader, seeded, rfl⟩ := Option.map_eq_some_iff.mp requested
          refine Or.inr ⟨leader, ?_⟩
          cases report
          cases seeded
          cases correlated
          rfl

end Connection

end TrogonEventStore

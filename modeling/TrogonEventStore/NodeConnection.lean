import TrogonEventStore.Library.Loop
import TrogonEventStore.NodeSelection
import TrogonEventStore.ServerFeatures

/-! `NodeConnection`: the cached handle and the discovery of a new one. -/

namespace TrogonEventStore

structure HandleInfo where
  id : Uuid
  uri : String
  endpoint : Endpoint
  secure : Bool
  serverInfo : ServerInfo
  deriving DecidableEq, Repr

structure NodeRequest where
  correlation : Uuid
  endpoint : Endpoint
  deriving DecidableEq, Repr

/-- The HTTP client and the random generator carry no modelled state. -/
structure NodeConnection where
  id : Uuid
  handle : Option HandleInfo
  settings : ClientSettings
  clusterMode : Option ClusterMode
  previousCandidates : Option (List Member)
  deriving DecidableEq, Repr

/-- `NodeConnection::new`; `none` is the panic of indexing an empty host list. -/
def NodeConnection.new (settings : ClientSettings) : Option NodeConnection :=
  if settings.dnsDiscover || 1 < settings.hosts.length then
    if settings.dnsDiscover then
      match settings.hosts with
      | [] => none
      | endpoint :: _ => some ⟨Uuid.nil, none, settings, some (.dns endpoint), none⟩
    else some ⟨Uuid.nil, none, settings, some (.seeds settings.hosts), none⟩
  else some ⟨Uuid.nil, none, settings, none, none⟩

def NodeConnection.solo (endpoint : Endpoint) (maxDiscoverAttempts : Nat) : NodeConnection :=
  ⟨Uuid.nil, none, { ClientSettings.solo endpoint with maxDiscoverAttempts := maxDiscoverAttempts },
    none, none⟩

inductive FeaturesCall where
  | timedOut
  | replied (reply : Except Status SupportedMethods)

/-- What one call of `next` meets. Selections and server-features calls are numbered by the
attempt they belong to; number 0 is the node named by a request. -/
structure World where
  crates : Crates
  selection : Nat → SelectionWorld
  features : Nat → FeaturesCall
  newV4 : Uuid

def World.steady (call : FeaturesCall) (newV4 : Uuid) : World where
  crates := ⟨fun _ => true, fun _ => none, [], .plain⟩
  selection := fun _ => ⟨[], [], [], fun _ => .timedOut, fun _ _ => false⟩
  features := fun _ => call
  newV4 := newV4

def FeaturesCall.healthy : FeaturesCall := .replied (.ok ⟨[], "1.0.0"⟩)

inductive Contact where
  | answered (serverInfo : ServerInfo)
  | refused (status : Status)
  | timedOut
  deriving DecidableEq, Repr

/-- How the match on the server-features outcome takes a call: a node that does not know the
service counts as one without features. -/
def FeaturesCall.contact : FeaturesCall → Contact
  | .timedOut => .timedOut
  | .replied reply =>
      match supportedMethods reply with
      | .ok serverInfo => .answered serverInfo
      | .error status =>
          if status.code = .notFound ∨ status.code = .unimplemented then
            .answered ServerInfo.default
          else .refused status

inductive DiscoveryEvent where
  | selected (node : Option Endpoint)
  | called (node : Endpoint) (contact : Contact)
  | connected (handle : HandleInfo)
  deriving DecidableEq, Repr

inductive NextResult where
  | ok (handle : HandleInfo)
  | err (error : GrpcConnectionError)
  | panicked
  deriving DecidableEq, Repr

/-- The connection `next` leaves behind, its result and what it did on the way. -/
structure Returned where
  connection : NodeConnection
  result : NextResult
  trace : List DiscoveryEvent
  deriving DecidableEq, Repr

/-- The locals of the inner loop of `next`. -/
structure Discovery where
  attempts : Nat
  selectedNode : Option Endpoint
  previousCandidates : Option (List Member)
  trace : List DiscoveryEvent
  deriving DecidableEq, Repr

namespace NodeConnection

def newHandle (connection : NodeConnection) (world : World) (node : Endpoint)
    (serverInfo : ServerInfo) : HandleInfo :=
  ⟨world.newV4, connection.settings.toHyperUri node, node, connection.settings.secure, serverInfo⟩

def leave (connection : NodeConnection) (locals : Discovery) (result : NextResult)
    (events : List DiscoveryEvent) : Turn Discovery Returned :=
  .finished ⟨{ connection with previousCandidates := locals.previousCandidates }, result,
    locals.trace ++ events⟩

def contactTurn (connection : NodeConnection) (world : World) (locals : Discovery)
    (node : Endpoint) : Turn Discovery Returned :=
  if !world.crates.uriParses (connection.settings.toHyperUri node) then
    connection.leave locals .panicked []
  else
    match (world.features (locals.attempts - 1)).contact with
    | .answered serverInfo =>
        let handle := connection.newHandle world node serverInfo
        { connection with id := world.newV4, handle := some handle }.leave locals (.ok handle)
          [.called node (.answered serverInfo), .connected handle]
    | .refused status =>
        connection.leave locals (.err (.grpc status)) [.called node (.refused status)]
    | .timedOut =>
        .again { locals with
          selectedNode := none
          trace := locals.trace ++ [.called node .timedOut] }

/-- One selection: in cluster mode from gossip, otherwise the first host. -/
def select (connection : NodeConnection) (failedEndpoint : Option Endpoint) (world : World)
    (locals : Discovery) : Option (Option Endpoint) :=
  match connection.clusterMode with
  | some mode => nodeSelection world.crates connection.settings mode failedEndpoint
      locals.previousCandidates (world.selection locals.attempts)
  | none => some connection.settings.hosts.head?

/-- The locals after a selection. `node_selection` takes `previous_candidates` and never
refills it; the counter is bumped before the node is called. -/
def selected (connection : NodeConnection) (locals : Discovery) (node : Option Endpoint) :
    Discovery where
  attempts := locals.attempts + 1
  selectedNode := node
  previousCandidates := if connection.clusterMode.isSome then none else locals.previousCandidates
  trace := locals.trace ++ [.selected node]

def selectTurn (connection : NodeConnection) (failedEndpoint : Option Endpoint) (world : World)
    (locals : Discovery) : Turn Discovery Returned :=
  match connection.select failedEndpoint world locals with
  | none => connection.leave locals .panicked []
  | some node =>
      if locals.attempts + 1 ≤ connection.settings.maxDiscoverAttempts then
        .again (connection.selected locals node)
      else connection.leave (connection.selected locals node)
        (.err (.maxDiscoveryAttemptReached connection.settings.maxDiscoverAttempts)) []

def discoverTurn (connection : NodeConnection) (failedEndpoint : Option Endpoint) (world : World)
    (locals : Discovery) : Turn Discovery Returned :=
  match locals.selectedNode with
  | some node => connection.contactTurn world locals node
  | none => connection.selectTurn failedEndpoint world locals

/-- Selections still allowed, and one more turn while a selected node waits to be called. -/
def discoverVariant (connection : NodeConnection) (locals : Discovery) : Nat :=
  2 * (connection.settings.maxDiscoverAttempts + 1 - locals.attempts) +
    (if locals.selectedNode.isSome then 1 else 0)

theorem contactTurn_again {connection : NodeConnection} {world : World} {locals next : Discovery}
    {node : Endpoint} (turn : connection.contactTurn world locals node = .again next) :
    next = { locals with
      selectedNode := none
      trace := locals.trace ++ [.called node .timedOut] } := by
  unfold contactTurn leave at turn
  split at turn
  · cases turn
  · split at turn
    · cases turn
    · cases turn
    · cases turn
      rfl

theorem selectTurn_again {connection : NodeConnection} {failedEndpoint : Option Endpoint}
    {world : World} {locals next : Discovery}
    (turn : connection.selectTurn failedEndpoint world locals = .again next) :
    locals.attempts + 1 ≤ connection.settings.maxDiscoverAttempts ∧
      ∃ node, connection.select failedEndpoint world locals = some node ∧
        next = connection.selected locals node := by
  unfold selectTurn leave at turn
  split at turn
  · cases turn
  · next node chosen =>
      split at turn
      · next bound =>
          cases turn
          exact ⟨bound, node, chosen, rfl⟩
      · cases turn

theorem discoverTurn_decreases (connection : NodeConnection) (failedEndpoint : Option Endpoint)
    (world : World) (locals next : Discovery)
    (turn : connection.discoverTurn failedEndpoint world locals = .again next) :
    connection.discoverVariant next < connection.discoverVariant locals := by
  unfold discoverTurn at turn
  unfold discoverVariant
  split at turn
  · next node selected =>
      have same := contactTurn_again turn
      simp [same, selected]
  · next selected =>
      obtain ⟨bound, node, _, rfl⟩ := selectTurn_again turn
      have waiting : (if (connection.selected locals node).selectedNode.isSome then 1 else 0) ≤ 1 := by
        split <;> omega
      simp only [NodeConnection.selected] at waiting ⊢
      omega

def discovery (connection : NodeConnection) (failedEndpoint : Option Endpoint) (world : World) :
    Loop Discovery Returned where
  body := connection.discoverTurn failedEndpoint world
  variant := connection.discoverVariant
  decreases := connection.discoverTurn_decreases failedEndpoint world

theorem discovery_calls (connection : NodeConnection) {failedEndpoint : Option Endpoint}
    {world : World} {locals : Discovery} {node : Endpoint}
    (waits : locals.selectedNode = some node) :
    (connection.discovery failedEndpoint world).body locals =
      connection.contactTurn world locals node := by
  simp only [discovery, discoverTurn, waits]

theorem discovery_selects (connection : NodeConnection) {failedEndpoint : Option Endpoint}
    {world : World} {locals : Discovery} (waits : locals.selectedNode = none) :
    (connection.discovery failedEndpoint world).body locals =
      connection.selectTurn failedEndpoint world locals := by
  simp only [discovery, discoverTurn, waits]

/-- `next` once the cached handle is gone. -/
def discover (connection : NodeConnection) (failedEndpoint selectedNode : Option Endpoint)
    (world : World) : Returned :=
  (connection.discovery failedEndpoint world).run
    ⟨1, selectedNode, connection.previousCandidates, []⟩

/-- `NodeConnection::next`. A request is answered from the cache when its correlation is not the
current id; otherwise the cached handle is given up and the named node is tried first. -/
def next (connection : NodeConnection) (request : Option NodeRequest) (world : World) : Returned :=
  match request, connection.handle with
  | some request, some handle =>
      if connection.id ≠ request.correlation then ⟨connection, .ok handle, []⟩
      else { connection with handle := none }.discover (some handle.endpoint)
        (some request.endpoint) world
  | some request, none => connection.discover none (some request.endpoint) world
  | none, some handle => ⟨connection, .ok handle, []⟩
  | none, none => connection.discover none none world

def opened (trace : List DiscoveryEvent) : List HandleInfo :=
  trace.filterMap fun event =>
    match event with
    | .connected handle => some handle
    | _ => none

/-- What a discovery leaves behind: a handle of the fresh id that the connection caches and the
trace opened, or no new handle at all. -/
def Settles (connection : NodeConnection) (world : World) (returned : Returned)
    (earlier : List DiscoveryEvent) : Prop :=
  returned.connection.settings = connection.settings ∧
  match returned.result with
  | .ok handle => returned.connection.id = world.newV4 ∧ handle.id = world.newV4 ∧
      returned.connection.handle = some handle ∧
      opened returned.trace = opened earlier ++ [handle]
  | .err _ => returned.connection.handle = connection.handle ∧
      opened returned.trace = opened earlier
  | .panicked => opened returned.trace = opened earlier

theorem contactTurn_settles {connection : NodeConnection} {world : World} {locals : Discovery}
    {node : Endpoint} {returned : Returned}
    (turn : connection.contactTurn world locals node = .finished returned) :
    connection.Settles world returned locals.trace := by
  unfold contactTurn at turn
  split at turn
  · cases turn
    refine ⟨rfl, ?_⟩
    simp [opened]
  · split at turn
    · cases turn
      refine ⟨rfl, rfl, rfl, rfl, ?_⟩
      simp [opened]
    · cases turn
      refine ⟨rfl, rfl, ?_⟩
      simp [opened]
    · cases turn

theorem selectTurn_settles {connection : NodeConnection} {failedEndpoint : Option Endpoint}
    {world : World} {locals : Discovery} {returned : Returned}
    (turn : connection.selectTurn failedEndpoint world locals = .finished returned) :
    connection.Settles world returned locals.trace := by
  unfold selectTurn at turn
  split at turn
  · cases turn
    refine ⟨rfl, ?_⟩
    simp [opened]
  · split at turn
    · cases turn
    · cases turn
      refine ⟨rfl, rfl, ?_⟩
      simp [selected, opened]

theorem discoverTurn_opens_nothing {connection : NodeConnection}
    {failedEndpoint : Option Endpoint} {world : World} {locals next : Discovery}
    (turn : connection.discoverTurn failedEndpoint world locals = .again next) :
    opened next.trace = opened locals.trace := by
  unfold discoverTurn at turn
  split at turn
  · rw [contactTurn_again turn]
    simp [opened]
  · obtain ⟨_, node, _, rfl⟩ := selectTurn_again turn
    simp [selected, opened]

theorem discovery_settles (connection : NodeConnection) (failedEndpoint : Option Endpoint)
    (world : World) (locals : Discovery) :
    connection.Settles world ((connection.discovery failedEndpoint world).run locals)
      locals.trace := by
  apply (connection.discovery failedEndpoint world).run_rule
    (fun locals returned => connection.Settles world returned locals.trace)
  · intro locals returned turn
    change connection.discoverTurn failedEndpoint world locals = .finished returned at turn
    unfold discoverTurn at turn
    split at turn
    · exact contactTurn_settles turn
    · exact selectTurn_settles turn
  · intro locals next returned turn later
    have silent : opened next.trace = opened locals.trace := discoverTurn_opens_nothing turn
    unfold Settles at later ⊢
    rw [silent] at later
    exact later

/-- `next` either answers from the cache without doing anything, or the cached handle was
missing or given up and a discovery settles it. -/
theorem next_cases (connection : NodeConnection) (request : Option NodeRequest) (world : World) :
    (∃ handle, connection.handle = some handle ∧
      (∀ named, request = some named → named.correlation ≠ connection.id) ∧
      connection.next request world = ⟨connection, .ok handle, []⟩) ∨
    ((connection.handle = none ∨
        ∃ named, request = some named ∧ named.correlation = connection.id) ∧
      Settles { connection with handle := none } world (connection.next request world) []) := by
  cases cached : connection.handle with
  | none =>
      have same : { connection with handle := none } = connection := by rw [← cached]
      refine Or.inr ⟨Or.inl rfl, ?_⟩
      rw [same]
      cases request with
      | none =>
          simp only [next, cached]
          exact connection.discovery_settles none world _
      | some named =>
          simp only [next, cached]
          exact connection.discovery_settles none world _
  | some handle =>
      cases request with
      | none =>
          refine Or.inl ⟨handle, rfl, ?_, ?_⟩
          · intro named impossible
            cases impossible
          · simp only [next, cached]
      | some named =>
          by_cases stale : connection.id = named.correlation
          · refine Or.inr ⟨Or.inr ⟨named, rfl, stale.symm⟩, ?_⟩
            simp only [next, cached]
            rw [if_neg (fun different => different stale)]
            exact discovery_settles { connection with handle := none } _ world _
          · refine Or.inl ⟨handle, rfl, ?_, ?_⟩
            · intro other same
              cases same
              exact fun equal => stale equal.symm
            · simp only [next, cached, ne_eq, stale, not_false_eq_true, if_true]

theorem contactTurn_answered {connection : NodeConnection} {world : World} {locals : Discovery}
    {node : Endpoint} {serverInfo : ServerInfo}
    (parses : world.crates.uriParses (connection.settings.toHyperUri node) = true)
    (answers : (world.features (locals.attempts - 1)).contact = .answered serverInfo) :
    connection.contactTurn world locals node = .finished
      ⟨{ connection with
          id := world.newV4
          handle := some (connection.newHandle world node serverInfo)
          previousCandidates := locals.previousCandidates },
        .ok (connection.newHandle world node serverInfo),
        locals.trace ++ [.called node (.answered serverInfo),
          .connected (connection.newHandle world node serverInfo)]⟩ := by
  simp only [contactTurn, parses, answers, Bool.not_true, Bool.false_eq_true, if_false, leave]

theorem discover_named {connection : NodeConnection} {world : World} {node : Endpoint}
    {serverInfo : ServerInfo} (failedEndpoint : Option Endpoint)
    (parses : world.crates.uriParses (connection.settings.toHyperUri node) = true)
    (answers : (world.features 0).contact = .answered serverInfo) :
    (connection.discover failedEndpoint (some node) world).result =
      .ok (connection.newHandle world node serverInfo) := by
  let locals : Discovery := ⟨1, some node, connection.previousCandidates, []⟩
  have turn : connection.contactTurn world locals node = .finished _ :=
    contactTurn_answered parses answers
  rw [discover, Loop.run_finished _ ((connection.discovery_calls rfl).trans turn)]

theorem next_named (connection : NodeConnection) {world : World} {node : Endpoint}
    {serverInfo : ServerInfo}
    (parses : world.crates.uriParses (connection.settings.toHyperUri node) = true)
    (answers : (world.features 0).contact = .answered serverInfo) :
    (connection.next (some ⟨connection.id, node⟩) world).result =
      .ok (connection.newHandle world node serverInfo) := by
  cases cached : connection.handle with
  | none =>
      simp only [next, cached]
      exact discover_named none parses answers
  | some handle =>
      let emptied : NodeConnection := { connection with handle := none }
      have direct : (emptied.discover (some handle.endpoint) (some node) world).result = _ :=
        discover_named _ parses answers
      simp only [next, cached, ne_eq, not_true_eq_false, if_false]
      exact direct

end NodeConnection

end TrogonEventStore

import TrogonEventStore.Library.Shuffle
import TrogonEventStore.Request

/-! Gossip and the choice of a cluster node.

Everything decided outside the process is an argument: what the gossip calls answer, the random
draws, and what the uuid and http crates make of a text. `none` where the source would panic. -/

namespace TrogonEventStore

inductive VNodeState where
  | initializing | discoverLeader | unknown | preReplica | catchingUp | clone | follower
  | preLeader | leader | manager | shuttingDown | shutdown | readOnlyLeaderLess
  | preReadOnlyReplica | readOnlyReplica | resigningLeader
  deriving DecidableEq, Repr

def VNodeState.fromI32 : Int → Option VNodeState
  | 0 => some .initializing | 1 => some .discoverLeader | 2 => some .unknown
  | 3 => some .preReplica | 4 => some .catchingUp | 5 => some .clone | 6 => some .follower
  | 7 => some .preLeader | 8 => some .leader | 9 => some .manager | 10 => some .shuttingDown
  | 11 => some .shutdown | 12 => some .readOnlyLeaderLess | 13 => some .preReadOnlyReplica
  | 14 => some .readOnlyReplica | 15 => some .resigningLeader
  | _ => none

def NodePreference.matchPreference : NodePreference → VNodeState → Bool
  | .leader, .leader => true
  | .follower, .follower => true
  | .readOnlyReplica, .readOnlyReplica => true
  | .readOnlyReplica, .readOnlyLeaderLess => true
  | .readOnlyReplica, .preReadOnlyReplica => true
  | _, _ => false

structure WireMemberInfo where
  instanceId : Option WireUuid
  timeStamp : Int
  state : Int
  isAlive : Bool
  httpEndPoint : Option Endpoint
  deriving DecidableEq, Repr

structure MemberInfo where
  instanceId : Uuid
  timeStamp : Int
  state : VNodeState
  isAlive : Bool
  httpEndPoint : Endpoint
  deriving DecidableEq, Repr

def readMember (parseUuid : String → Option Uuid) (wire : WireMemberInfo) :
    Option (Except Status MemberInfo) :=
  match VNodeState.fromI32 wire.state with
  | none => some (.error (Status.new .outOfRange ("Unknown VNodeState value: " ++ toString wire.state)))
  | some state =>
      match (match wire.instanceId with
        | some wireUuid => wireUuid.tryInto parseUuid
        | none => some Uuid.nil) with
      | none => none
      | some instanceId =>
          match wire.httpEndPoint with
          | none => some (.error
              (Status.new .failedPrecondition "MemberInfo endpoint must be defined"))
          | some endpoint =>
              some (.ok ⟨instanceId, wire.timeStamp, state, wire.isAlive, endpoint⟩)

def readMembers (parseUuid : String → Option Uuid) :
    List WireMemberInfo → Option (Except Status (List MemberInfo))
  | [] => some (.ok [])
  | wire :: wires =>
      match readMember parseUuid wire with
      | none => none
      | some (.error status) => some (.error status)
      | some (.ok member) =>
          match readMembers parseUuid wires with
          | none => none
          | some (.error status) => some (.error status)
          | some (.ok members) => some (.ok (member :: members))

/-- A gossip call as it comes back within or outside the gossip timeout. -/
inductive GossipCall where
  | timedOut
  | replied (reply : Except Status (List WireMemberInfo))

/-- `tokio::time::timeout(gossip_timeout, gossip::read(..))`: the metadata are built before
anything is sent, so a panic there comes first. `ok none` is the elapsed timeout. -/
def gossipRead (tonic : Tonic) (settings : ClientSettings) (propagated : List (String × String))
    (parseUuid : String → Option Uuid) (call : GossipCall) :
    Option (Except Status (Option (List MemberInfo))) :=
  match buildRequestMetadata tonic settings CommonOperationOptions.default propagated with
  | none => none
  | some _ =>
      match call with
      | .timedOut => some (.ok none)
      | .replied (.error status) => some (.error status)
      | .replied (.ok wires) =>
          match readMembers parseUuid wires with
          | none => none
          | some (.error status) => some (.error status)
          | some (.ok members) => some (.ok (some members))

structure Member where
  endpoint : Endpoint
  state : VNodeState
  deriving DecidableEq, Repr

structure Candidates where
  nodes : List Member
  managers : List Member
  deriving DecidableEq, Repr

def Candidates.new : Candidates := ⟨[], []⟩

def Candidates.push (candidates : Candidates) (member : Member) : Candidates :=
  if member.state = .manager then { candidates with managers := candidates.managers ++ [member] }
  else { candidates with nodes := candidates.nodes ++ [member] }

def Candidates.shuffle (nodeDraws managerDraws : List Nat) (candidates : Candidates) : Candidates :=
  ⟨Shuffle.shuffle nodeDraws candidates.nodes, Shuffle.shuffle managerDraws candidates.managers⟩

def Candidates.endpoints (candidates : Candidates) : List Endpoint :=
  (candidates.nodes ++ candidates.managers).map Member.endpoint

def arrangeGossipCandidates (nodeDraws managerDraws : List Nat) (members : List Member) :
    List Endpoint :=
  ((members.foldl Candidates.push Candidates.new).shuffle nodeDraws managerDraws).endpoints

def candidatesFromOldGossip (nodeDraws managerDraws : List Nat) (failedEndpoint : Option Endpoint)
    (oldCandidates : List Member) : List Endpoint :=
  match failedEndpoint with
  | some endpoint => arrangeGossipCandidates nodeDraws managerDraws
      (oldCandidates.filter fun member => member.endpoint ≠ endpoint)
  | none => arrangeGossipCandidates nodeDraws managerDraws oldCandidates

def allowedStates (state : VNodeState) : Bool :=
  !(state = .manager || state = .shuttingDown || state = .shutdown)

/-- The comparison given to `min_by`, and whether it drew a random bit. `even` is
`next_u32().is_multiple_of(2)` of the next draw. -/
def compareMembers (preference : NodePreference) (even : Bool) (a b : MemberInfo) :
    Ordering × Bool :=
  if preference = .random then (if even then .gt else .lt, true)
  else if preference.matchPreference a.state && preference.matchPreference b.state then
    (if even then .lt else .gt, true)
  else if preference.matchPreference a.state && !preference.matchPreference b.state then
    (.lt, false)
  else if !preference.matchPreference a.state && preference.matchPreference b.state then
    (.gt, false)
  else (.gt, false)

/-- `min_by`: from left to right, the accumulator staying unless it compares greater. -/
def bestOf (preference : NodePreference) (bits : Nat → Bool) :
    Nat → MemberInfo → List MemberInfo → MemberInfo
  | _, best, [] => best
  | drawn, best, member :: members =>
      let compared := compareMembers preference (bits drawn) best member
      bestOf preference bits (if compared.2 then drawn + 1 else drawn)
        (if compared.1 = .gt then member else best) members

def determineBestNode (bits : Nat → Bool) (preference : NodePreference)
    (members : List MemberInfo) : Option Endpoint :=
  match (members.filter MemberInfo.isAlive).filter (fun member => allowedStates member.state) with
  | [] => none
  | first :: rest => some (bestOf preference bits 0 first rest).httpEndPoint

inductive ClusterMode where
  | dns (endpoint : Endpoint)
  | seeds (endpoints : List Endpoint)
  deriving DecidableEq, Repr

def ClusterMode.endpoints : ClusterMode → List Endpoint
  | .dns endpoint => [endpoint]
  | .seeds endpoints => endpoints

/-- What one `node_selection` meets: its shuffles, and by candidate the answer of the gossip
call and the random bits of the choice. -/
structure SelectionWorld where
  seedDraws : List Nat
  nodeDraws : List Nat
  managerDraws : List Nat
  gossip : Nat → GossipCall
  bits : Nat → Nat → Bool

/-- The candidates `node_selection` tries, given what was left in `previous_candidates`. -/
def selectionCandidates (settings : ClientSettings) (mode : ClusterMode)
    (failedEndpoint : Option Endpoint) (previousCandidates : Option (List Member))
    (world : SelectionWorld) : List Endpoint :=
  match previousCandidates with
  | some oldCandidates =>
      let newCandidates := candidatesFromOldGossip world.nodeDraws world.managerDraws
        failedEndpoint oldCandidates
      if newCandidates = [] then settings.hosts else newCandidates
  | none => Shuffle.shuffle world.seedDraws mode.endpoints

/-- What `node_selection` takes from the crates around it. -/
structure Crates where
  uriParses : String → Bool
  parseUuid : String → Option Uuid
  propagated : List (String × String)
  tonic : Tonic

def probeCandidates (crates : Crates) (settings : ClientSettings) (world : SelectionWorld) :
    Nat → List Endpoint → Option (Option Endpoint)
  | _, [] => some none
  | index, candidate :: candidates =>
      if !crates.uriParses (settings.toHyperUri candidate) then none
      else
        match gossipRead crates.tonic settings crates.propagated crates.parseUuid
            (world.gossip index) with
        | none => none
        | some (.error _) => probeCandidates crates settings world (index + 1) candidates
        | some (.ok none) => probeCandidates crates settings world (index + 1) candidates
        | some (.ok (some members)) =>
            match determineBestNode (world.bits index) settings.preference members with
            | some selectedNode => some (some selectedNode)
            | none => probeCandidates crates settings world (index + 1) candidates

/-- `node_selection`; it takes `previous_candidates` and leaves it empty. -/
def nodeSelection (crates : Crates) (settings : ClientSettings) (mode : ClusterMode)
    (failedEndpoint : Option Endpoint) (previousCandidates : Option (List Member))
    (world : SelectionWorld) : Option (Option Endpoint) :=
  probeCandidates crates settings world 0
    (selectionCandidates settings mode failedEndpoint previousCandidates world)

theorem selectionCandidates_seeds (settings : ClientSettings) (mode : ClusterMode)
    (failedEndpoint : Option Endpoint) (world : SelectionWorld) :
    (selectionCandidates settings mode failedEndpoint none world).Perm mode.endpoints :=
  Shuffle.shuffle_perm world.seedDraws mode.endpoints

end TrogonEventStore

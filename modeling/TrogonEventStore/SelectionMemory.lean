import TrogonEventStore.NodeConnection

namespace TrogonEventStore

def MemberInfo.member (member : MemberInfo) : Member := ⟨member.httpEndPoint, member.state⟩

def otherMembers (failed : Endpoint) (members : List MemberInfo) : List Member :=
  (members.map MemberInfo.member).filter fun member => member.endpoint ≠ failed

/-- The ordinary nodes in some order, then the managers in some order. -/
def Arranged (members : List Member) (candidates : List Endpoint) : Prop :=
  ∃ nodes managers : List Member,
    nodes.Perm (members.filter fun member => member.state ≠ .manager) ∧
    managers.Perm (members.filter fun member => member.state = .manager) ∧
    candidates = (nodes ++ managers).map Member.endpoint

theorem foldl_push (members : List Member) (candidates : Candidates) :
    members.foldl Candidates.push candidates =
      ⟨candidates.nodes ++ members.filter fun member => member.state ≠ .manager,
        candidates.managers ++ members.filter fun member => member.state = .manager⟩ := by
  induction members generalizing candidates with
  | nil => simp
  | cons member members ih =>
      rw [List.foldl_cons, ih]
      by_cases manager : member.state = .manager
      · simp [Candidates.push, manager]
      · simp [Candidates.push, manager]

theorem arrangeGossipCandidates_arranged (nodeDraws managerDraws : List Nat)
    (members : List Member) :
    Arranged members (arrangeGossipCandidates nodeDraws managerDraws members) := by
  unfold arrangeGossipCandidates
  rw [foldl_push]
  exact ⟨_, _, Shuffle.shuffle_perm nodeDraws _, Shuffle.shuffle_perm managerDraws _, rfl⟩

theorem Arranged.known {members : List Member} {candidates : List Endpoint}
    (arranged : Arranged members candidates) :
    ∀ candidate ∈ candidates, ∃ member ∈ members, member.endpoint = candidate := by
  obtain ⟨nodes, managers, ordinary, others, rfl⟩ := arranged
  intro candidate present
  obtain ⟨member, listed, rfl⟩ := List.mem_map.mp present
  refine ⟨member, ?_, rfl⟩
  rcases List.mem_append.mp listed with node | manager
  · exact List.mem_of_mem_filter (ordinary.mem_iff.mp node)
  · exact List.mem_of_mem_filter (others.mem_iff.mp manager)

theorem Arranged.eq_nil_iff {members : List Member} {candidates : List Endpoint}
    (arranged : Arranged members candidates) : candidates = [] ↔ members = [] := by
  obtain ⟨nodes, managers, ordinary, others, rfl⟩ := arranged
  rw [List.map_eq_nil_iff, List.append_eq_nil_iff]
  constructor
  · intro ⟨first, second⟩
    refine List.eq_nil_iff_forall_not_mem.mpr fun member known => ?_
    by_cases manager : member.state = .manager
    · have present := others.mem_iff.mpr (List.mem_filter.mpr ⟨known, decide_eq_true manager⟩)
      rw [second] at present
      exact List.not_mem_nil present
    · have present := ordinary.mem_iff.mpr (List.mem_filter.mpr ⟨known, decide_eq_true manager⟩)
      rw [first] at present
      exact List.not_mem_nil present
  · intro empty
    rw [empty] at ordinary others
    exact ⟨ordinary.eq_nil, others.eq_nil⟩

theorem Arranged.avoids {failed : Endpoint} {members : List MemberInfo}
    {candidates : List Endpoint} (arranged : Arranged (otherMembers failed members) candidates) :
    ∀ candidate ∈ candidates, candidate ≠ failed := by
  intro candidate present
  obtain ⟨member, known, rfl⟩ := arranged.known candidate present
  have kept := (List.mem_filter.mp known).2
  exact of_decide_eq_true kept

/-- A selection that is handed the members of the last gossip takes the others, and the hosts only
where there are none. -/
theorem selectionCandidates_others (settings : ClientSettings) (mode : ClusterMode)
    (members : List MemberInfo) (failed : Endpoint) (world : SelectionWorld) :
    let candidates := selectionCandidates settings mode (some failed)
      (some (members.map MemberInfo.member)) world
    (otherMembers failed members ≠ [] → Arranged (otherMembers failed members) candidates) ∧
      (otherMembers failed members = [] → candidates = settings.hosts) := by
  have arranged := arrangeGossipCandidates_arranged world.nodeDraws world.managerDraws
    (otherMembers failed members)
  have taken : candidatesFromOldGossip world.nodeDraws world.managerDraws (some failed)
      (members.map MemberInfo.member) = arrangeGossipCandidates world.nodeDraws
        world.managerDraws (otherMembers failed members) := rfl
  simp only [selectionCandidates, taken]
  constructor
  · intro others
    rw [if_neg fun empty => others (arranged.eq_nil_iff.mp empty)]
    exact arranged
  · intro alone
    rw [if_pos (arranged.eq_nil_iff.mpr alone)]

def keptEndpoints (failedEndpoint : Option Endpoint) (kind : Member → Bool)
    (oldCandidates : List Member) : List Endpoint :=
  (oldCandidates.filter fun member =>
    kind member && failedEndpoint ≠ some member.endpoint).map Member.endpoint

def Member.isManager (member : Member) : Bool := member.state = .manager

/-- The ordinary nodes but the failed one in some order, then the managers but the failed one in
some order; none is dropped or repeated. -/
def Rearranged (failedEndpoint : Option Endpoint) (oldCandidates : List Member)
    (candidates : List Endpoint) : Prop :=
  ∃ nodes managers, candidates = nodes ++ managers ∧
    nodes.Perm (keptEndpoints failedEndpoint (fun member => !member.isManager) oldCandidates) ∧
    managers.Perm (keptEndpoints failedEndpoint Member.isManager oldCandidates)

theorem arrangeGossipCandidates_eq (nodeDraws managerDraws : List Nat) (members : List Member) :
    arrangeGossipCandidates nodeDraws managerDraws members =
      Shuffle.shuffle nodeDraws (keptEndpoints none (fun member => !member.isManager) members) ++
        Shuffle.shuffle managerDraws (keptEndpoints none Member.isManager members) := by
  rw [arrangeGossipCandidates, foldl_push, Candidates.shuffle, Candidates.endpoints,
    List.map_append, Shuffle.shuffle_map, Shuffle.shuffle_map]
  simp [Candidates.new, keptEndpoints, Member.isManager]

theorem candidatesFromOldGossip_eq (nodeDraws managerDraws : List Nat)
    (failedEndpoint : Option Endpoint) (oldCandidates : List Member) :
    candidatesFromOldGossip nodeDraws managerDraws failedEndpoint oldCandidates =
      Shuffle.shuffle nodeDraws
          (keptEndpoints failedEndpoint (fun member => !member.isManager) oldCandidates) ++
        Shuffle.shuffle managerDraws
          (keptEndpoints failedEndpoint Member.isManager oldCandidates) := by
  cases failedEndpoint with
  | none => exact arrangeGossipCandidates_eq nodeDraws managerDraws oldCandidates
  | some failed =>
      have narrowed : ∀ kind, keptEndpoints none kind
          (oldCandidates.filter fun member => member.endpoint ≠ failed) =
            keptEndpoints (some failed) kind oldCandidates := by
        intro kind
        simp [keptEndpoints, List.filter_filter, eq_comm]
      rw [candidatesFromOldGossip, arrangeGossipCandidates_eq, narrowed, narrowed]

theorem keptEndpoints_eq_nil_iff {failedEndpoint : Option Endpoint} {kind : Member → Bool}
    {oldCandidates : List Member} :
    keptEndpoints failedEndpoint kind oldCandidates = [] ↔
      ∀ member ∈ oldCandidates, kind member = true → failedEndpoint = some member.endpoint := by
  rw [keptEndpoints, List.map_eq_nil_iff, List.filter_eq_nil_iff]
  simp

/-- Whatever the draws, rearranging the members of an earlier gossip loses and repeats none, every
order within the nodes and within the managers is drawn, and no candidate is left exactly when
every member is at the failed endpoint. -/
theorem old_gossip_rearranged (failedEndpoint : Option Endpoint) (oldCandidates : List Member) :
    (∀ candidates, Rearranged failedEndpoint oldCandidates candidates ↔
      ∃ nodeDraws managerDraws, candidatesFromOldGossip nodeDraws managerDraws failedEndpoint
        oldCandidates = candidates) ∧
    ∀ nodeDraws managerDraws,
      candidatesFromOldGossip nodeDraws managerDraws failedEndpoint oldCandidates = [] ↔
        ∀ member ∈ oldCandidates, failedEndpoint = some member.endpoint := by
  constructor
  · intro candidates
    constructor
    · intro ⟨nodes, managers, same, ordinary, others⟩
      obtain ⟨nodeDraws, drawn⟩ := Shuffle.shuffle_reaches ordinary
      obtain ⟨managerDraws, alsoDrawn⟩ := Shuffle.shuffle_reaches others
      refine ⟨nodeDraws, managerDraws, ?_⟩
      rw [candidatesFromOldGossip_eq, drawn, alsoDrawn, same]
    · intro ⟨nodeDraws, managerDraws, same⟩
      rw [candidatesFromOldGossip_eq] at same
      exact ⟨_, _, same.symm, Shuffle.shuffle_perm nodeDraws _, Shuffle.shuffle_perm managerDraws _⟩
  · intro nodeDraws managerDraws
    rw [candidatesFromOldGossip_eq, List.append_eq_nil_iff, Shuffle.shuffle_eq_nil_iff,
      Shuffle.shuffle_eq_nil_iff, keptEndpoints_eq_nil_iff, keptEndpoints_eq_nil_iff]
    constructor
    · intro ⟨ordinary, managers⟩ member known
      cases kind : member.isManager with
      | true => exact managers member known kind
      | false => exact ordinary member known (by rw [kind]; rfl)
    · intro failed
      exact ⟨fun member known _ => failed member known, fun member known _ => failed member known⟩

structure Probe where
  candidate : Endpoint
  members : Option (List MemberInfo)
  deriving DecidableEq, Repr

def probes (crates : Crates) (settings : ClientSettings) (world : SelectionWorld) :
    Nat → List Endpoint → List Probe
  | _, [] => []
  | index, candidate :: candidates =>
      if !crates.uriParses (settings.toHyperUri candidate) then []
      else
        match gossipRead crates.tonic settings crates.propagated crates.parseUuid
            (world.gossip index) with
        | none => [⟨candidate, none⟩]
        | some (.error _) =>
            ⟨candidate, none⟩ :: probes crates settings world (index + 1) candidates
        | some (.ok none) =>
            ⟨candidate, none⟩ :: probes crates settings world (index + 1) candidates
        | some (.ok (some members)) =>
            ⟨candidate, some members⟩ ::
              match determineBestNode (world.bits index) settings.preference members with
              | some _ => []
              | none => probes crates settings world (index + 1) candidates

section Probes

variable {crates : Crates} {settings : ClientSettings} {world : SelectionWorld}

theorem probes_prefix (index : Nat) (candidates : List Endpoint) :
    (probes crates settings world index candidates).map Probe.candidate <+: candidates := by
  induction candidates generalizing index with
  | nil => exact List.prefix_refl []
  | cons candidate candidates ih =>
      rw [probes]
      split
      · exact List.nil_prefix
      · split
        · exact List.prefix_append [candidate] candidates
        · exact List.cons_prefix_cons.mpr ⟨rfl, ih (index + 1)⟩
        · exact List.cons_prefix_cons.mpr ⟨rfl, ih (index + 1)⟩
        · refine List.cons_prefix_cons.mpr ⟨rfl, ?_⟩
          split
          · exact List.nil_prefix
          · exact ih (index + 1)

end Probes

/-- One `node_selection` of a run: what it met, the candidates it took and its probes. -/
structure Selection where
  world : SelectionWorld
  candidates : List Endpoint
  probes : List Probe

/-- What a run has shown so far: the members of the last successful gossip read, and the node
given up since the last selection. -/
structure Memory where
  gossip : Option (List MemberInfo)
  givenUp : Option Endpoint
  deriving DecidableEq, Repr

def Memory.empty : Memory := ⟨none, none⟩

/-- A selection is due to avoid the node given up before it. -/
def Memory.Due (memory : Memory) (members : List MemberInfo) (failed : Endpoint) : Prop :=
  memory.gossip = some members ∧ memory.givenUp = some failed

def Memory.after (memory : Memory) (selection : Selection) : Memory :=
  ⟨(selection.probes.filterMap Probe.members).getLast?.or memory.gossip, none⟩

def Memory.judge : Memory → List Selection → List (Memory × Selection)
  | _, [] => []
  | memory, selection :: selections =>
      (memory, selection) :: (memory.after selection).judge selections

theorem Memory.mem_judge {memory : Memory} {selections : List Selection}
    {judged : Memory × Selection} (present : judged ∈ memory.judge selections) :
    judged.2 ∈ selections := by
  induction selections generalizing memory with
  | nil => exact absurd present List.not_mem_nil
  | cons selection selections ih =>
      rcases List.mem_cons.mp present with rfl | later
      · exact List.mem_cons_self
      · exact List.mem_cons_of_mem _ (ih later)

/-- The selection takes the other members of the last gossip and keeps away from the failed node;
only where there is no other member it takes configured hosts. -/
structure Selection.Avoids (selection : Selection) (hosts : List Endpoint)
    (members : List MemberInfo) (failed : Endpoint) : Prop where
  gossip : otherMembers failed members ≠ [] →
    Arranged (otherMembers failed members) selection.candidates
  contacts : otherMembers failed members ≠ [] →
    ∀ probe ∈ selection.probes, probe.candidate ≠ failed
  fallback : otherMembers failed members = [] → ∀ candidate ∈ selection.candidates, candidate ∈ hosts

namespace NodeConnection

def selection (connection : NodeConnection) (failedEndpoint : Option Endpoint) (world : World)
    (locals : Discovery) : List Selection :=
  match locals.selectedNode, connection.clusterMode with
  | none, some mode =>
      let met := world.selection locals.attempts
      let candidates := selectionCandidates connection.settings mode failedEndpoint
        locals.previousCandidates met
      [⟨met, candidates, probes world.crates connection.settings met 0 candidates⟩]
  | _, _ => []

def discoverSelections (connection : NodeConnection)
    (failedEndpoint selectedNode : Option Endpoint) (world : World) : List Selection :=
  (((connection.discovery failedEndpoint world).logged
    (connection.selection failedEndpoint world)).run
      (⟨1, selectedNode, connection.previousCandidates, []⟩, [])).2

def selections (connection : NodeConnection) (request : Option NodeRequest) (world : World) :
    List Selection :=
  match request, connection.handle with
  | some request, some handle =>
      if connection.id ≠ request.correlation then []
      else { connection with handle := none }.discoverSelections (some handle.endpoint)
        (some request.endpoint) world
  | some request, none => connection.discoverSelections none (some request.endpoint) world
  | none, some _ => []
  | none, none => connection.discoverSelections none none world

def givenUp (connection : NodeConnection) (request : Option NodeRequest) (memory : Memory) :
    Memory :=
  match request, connection.handle with
  | some request, some handle =>
      if connection.id ≠ request.correlation then memory
      else { memory with givenUp := some handle.endpoint }
  | _, _ => memory

/-- The selections of a run of calls of `next`; a panic ends the run. -/
def history : Memory → NodeConnection → List (Option NodeRequest × World) → List (Memory × Selection)
  | _, _, [] => []
  | memory, connection, (request, world) :: calls =>
      let made := connection.selections request world
      let returned := connection.next request world
      let memory := connection.givenUp request memory
      memory.judge made ++
        if returned.result = .panicked then []
        else history (made.foldl Memory.after memory) returned.connection calls

section Forgetful

variable {connection : NodeConnection} {failedEndpoint : Option Endpoint} {world : World}

theorem discover_logged (connection : NodeConnection)
    (failedEndpoint selectedNode : Option Endpoint) (world : World) :
    (((connection.discovery failedEndpoint world).logged
        (connection.selection failedEndpoint world)).run
          (⟨1, selectedNode, connection.previousCandidates, []⟩, [])).1 =
      connection.discover failedEndpoint selectedNode world :=
  (connection.discovery failedEndpoint world).logged_run_fst _ _ _

/-- The connection has no candidates left from an earlier gossip, and is set up as before. -/
structure Forgets (connection later : NodeConnection) : Prop where
  previousCandidates : later.previousCandidates = none
  settings : later.settings = connection.settings
  clusterMode : later.clusterMode = connection.clusterMode

theorem discoverTurn_forgets {locals next : Discovery} (none : locals.previousCandidates = none)
    (turn : connection.discoverTurn failedEndpoint world locals = .again next) :
    next.previousCandidates = Option.none := by
  unfold discoverTurn at turn
  split at turn
  · rw [contactTurn_again turn]
    exact none
  · obtain ⟨_, node, _, rfl⟩ := selectTurn_again turn
    simp only [selected, none, ite_self]

theorem discoverTurn_leaves {locals : Discovery} {returned : Returned}
    (none : locals.previousCandidates = none)
    (turn : connection.discoverTurn failedEndpoint world locals = .finished returned) :
    connection.Forgets returned.connection := by
  unfold discoverTurn at turn
  split at turn
  · unfold contactTurn leave at turn
    split at turn
    · cases turn
      exact ⟨none, rfl, rfl⟩
    · split at turn
      · cases turn
        exact ⟨none, rfl, rfl⟩
      · cases turn
        exact ⟨none, rfl, rfl⟩
      · cases turn
  · unfold selectTurn leave at turn
    split at turn
    · cases turn
      exact ⟨none, rfl, rfl⟩
    · split at turn
      · cases turn
      · cases turn
        refine ⟨?_, rfl, rfl⟩
        simp only [selected, none, ite_self]

theorem discover_forgets (connection : NodeConnection)
    (none : connection.previousCandidates = none)
    (failedEndpoint selectedNode : Option Endpoint) (world : World) :
    connection.Forgets (connection.discover failedEndpoint selectedNode world).connection := by
  refine (connection.discovery failedEndpoint world).run_rule
    (fun locals returned => locals.previousCandidates = Option.none →
      connection.Forgets returned.connection) ?_ ?_ _ none
  · intro locals returned turn empty
    exact discoverTurn_leaves empty turn
  · intro locals next returned turn later empty
    exact later (discoverTurn_forgets empty turn)

theorem next_forgets (none : connection.previousCandidates = none)
    (request : Option NodeRequest) (world : World) :
    connection.Forgets (connection.next request world).connection := by
  unfold next
  split
  · split
    · exact ⟨none, rfl, rfl⟩
    · have kept := discover_forgets { connection with handle := Option.none } none
      exact ⟨(kept _ _ world).previousCandidates, (kept _ _ world).settings,
        (kept _ _ world).clusterMode⟩
  · exact connection.discover_forgets none _ _ world
  · exact ⟨none, rfl, rfl⟩
  · exact connection.discover_forgets none _ _ world

structure FromSeeds (mode : ClusterMode) (selection : Selection) : Prop where
  candidates : selection.candidates = Shuffle.shuffle selection.world.seedDraws mode.endpoints
  probes : selection.probes.map Probe.candidate <+: selection.candidates

theorem discoverSelections_seeds (connection : NodeConnection) {mode : ClusterMode}
    (cluster : connection.clusterMode = some mode)
    (none : connection.previousCandidates = none) (failedEndpoint selectedNode : Option Endpoint)
    (world : World) :
    ∀ selection ∈ connection.discoverSelections failedEndpoint selectedNode world,
      FromSeeds mode selection := by
  have kept : ∀ locals next, locals.previousCandidates = Option.none →
      (connection.discovery failedEndpoint world).body locals = .again next →
      next.previousCandidates = Option.none := by
    intro locals next empty turn
    exact discoverTurn_forgets empty turn
  have seen : ∀ locals, locals.previousCandidates = Option.none →
      ∀ selection ∈ connection.selection failedEndpoint world locals, FromSeeds mode selection := by
    intro locals empty selection made
    unfold NodeConnection.selection at made
    rw [cluster] at made
    split at made
    · next same =>
        cases same
        cases List.mem_singleton.mp made
        refine ⟨?_, probes_prefix 0 _⟩
        simp only [selectionCandidates, empty]
    · exact absurd made List.not_mem_nil
  exact Loop.logged_run_snd _ _ kept seen none fun _ impossible =>
    absurd impossible List.not_mem_nil

theorem selections_seeds {mode : ClusterMode} (cluster : connection.clusterMode = some mode)
    (none : connection.previousCandidates = none) (request : Option NodeRequest) (world : World) :
    ∀ selection ∈ connection.selections request world, FromSeeds mode selection := by
  intro selection made
  unfold selections at made
  split at made
  · split at made
    · exact absurd made List.not_mem_nil
    · exact discoverSelections_seeds { connection with handle := Option.none } cluster none _ _ world
        selection made
  · exact connection.discoverSelections_seeds cluster none _ _ world selection made
  · exact absurd made List.not_mem_nil
  · exact connection.discoverSelections_seeds cluster none _ _ world selection made

/-- No selection of a run has anything but the configured endpoints. -/
theorem history_seeds {mode : ClusterMode} (calls : List (Option NodeRequest × World))
    {memory : Memory} {connection : NodeConnection} (cluster : connection.clusterMode = some mode)
    (none : connection.previousCandidates = none) :
    ∀ judged ∈ connection.history memory calls, FromSeeds mode judged.2 := by
  induction calls generalizing memory connection with
  | nil =>
      intro judged impossible
      exact absurd impossible List.not_mem_nil
  | cons call calls ih =>
      intro judged present
      have kept := next_forgets none call.1 call.2
      rcases List.mem_append.mp present with now | later
      · exact selections_seeds cluster none call.1 call.2 _ (Memory.mem_judge now)
      · split at later
        · exact absurd later List.not_mem_nil
        · exact ih (kept.clusterMode.trans cluster) kept.previousCandidates judged later

end Forgetful

theorem new_cluster {settings : ClientSettings} {connection : NodeConnection} {mode : ClusterMode}
    (made : NodeConnection.new settings = some connection)
    (cluster : connection.clusterMode = some mode) :
    connection.previousCandidates = none ∧
      ∀ endpoint ∈ mode.endpoints, endpoint ∈ settings.hosts := by
  unfold NodeConnection.new at made
  split at made
  · split at made
    · split at made
      · cases made
      · next endpoint others hosts =>
          cases made
          cases cluster
          refine ⟨rfl, ?_⟩
          intro other same
          cases List.mem_singleton.mp same
          rw [hosts]
          exact List.mem_cons_self
    · cases made
      cases cluster
      exact ⟨rfl, fun endpoint listed => listed⟩
  · cases made
    cases cluster

/-- A selection from the configured endpoints avoids a failed node only by chance: the endpoints in
the order drawn are the other members of the last gossip, or there are none. -/
theorem FromSeeds.avoids_iff {mode : ClusterMode} {selection : Selection}
    (seeds : FromSeeds mode selection) {hosts : List Endpoint}
    (configured : ∀ endpoint ∈ mode.endpoints, endpoint ∈ hosts) (members : List MemberInfo)
    (failed : Endpoint) :
    selection.Avoids hosts members failed ↔
      otherMembers failed members = [] ∨ Arranged (otherMembers failed members)
        (Shuffle.shuffle selection.world.seedDraws mode.endpoints) := by
  rw [← seeds.candidates]
  constructor
  · intro avoids
    by_cases alone : otherMembers failed members = []
    · exact Or.inl alone
    · exact Or.inr (avoids.gossip alone)
  · intro condition
    refine ⟨condition.resolve_left, ?_, ?_⟩
    · intro others probe made
      have contacted := seeds.probes.mem (List.mem_map_of_mem made)
      exact (condition.resolve_left others).avoids probe.candidate contacted
    · intro _ candidate present
      rw [seeds.candidates] at present
      exact configured candidate ((Shuffle.shuffle_perm _ _).mem_iff.mp present)

/-- In every run of a connection to a cluster, the selections after a node was given up avoid it
exactly when the configured endpoints, as drawn, are the other members of the last gossip. -/
theorem failed_endpoint_avoided_iff {settings : ClientSettings} {connection : NodeConnection}
    {mode : ClusterMode} (made : NodeConnection.new settings = some connection)
    (cluster : connection.clusterMode = some mode) (calls : List (Option NodeRequest × World)) :
    (∀ judged ∈ connection.history .empty calls, ∀ members failed,
        judged.1.Due members failed → judged.2.Avoids settings.hosts members failed) ↔
      ∀ judged ∈ connection.history .empty calls, ∀ members failed,
        judged.1.Due members failed → otherMembers failed members = [] ∨
          Arranged (otherMembers failed members)
            (Shuffle.shuffle judged.2.world.seedDraws mode.endpoints) := by
  obtain ⟨none, configured⟩ := new_cluster made cluster
  refine forall₂_congr fun judged present => ?_
  have seeds := history_seeds calls cluster none judged present
  refine forall₂_congr fun members failed => ?_
  exact imp_congr_right fun _ => seeds.avoids_iff configured members failed

section Cluster

def clusterNode (host : String) : Endpoint := ⟨host, 2113⟩

def clusterSettings : ClientSettings :=
  { ClientSettings.default with hosts := [clusterNode "node1", clusterNode "node2"] }

def clusterConnection : NodeConnection :=
  ⟨Uuid.nil, none, clusterSettings, some (.seeds clusterSettings.hosts), none⟩

def clusterMembers : List MemberInfo :=
  [⟨Uuid.nil, 0, .leader, true, clusterNode "node1"⟩,
    ⟨Uuid.nil, 0, .follower, true, clusterNode "node2"⟩]

def clusterWorld (newV4 : Uuid) : World :=
  { World.steady .healthy newV4 with
    selection := fun _ => ⟨[], [], [], fun _ => .replied (.ok
      [⟨none, 0, 8, true, some (clusterNode "node1")⟩,
        ⟨none, 0, 6, true, some (clusterNode "node2")⟩]), fun _ _ => false⟩
    features := fun index => if index = 0 then .timedOut else .healthy }

/-- The leader is found and connected to; then a request gives it up for a node that does not
answer. -/
def clusterCalls : List (Option NodeRequest × World) :=
  [(none, clusterWorld 1), (some ⟨1, clusterNode "node3"⟩, clusterWorld 2)]

theorem cluster_avoidance_by_order :
    (∀ judged ∈ clusterConnection.history .empty clusterCalls, ∀ members failed,
        judged.1.Due members failed → judged.2.Avoids clusterSettings.hosts members failed) ↔
      ∀ judged ∈ clusterConnection.history .empty clusterCalls, ∀ members failed,
        judged.1.Due members failed → otherMembers failed members = [] ∨
          Arranged (otherMembers failed members)
            (Shuffle.shuffle judged.2.world.seedDraws
              (ClusterMode.seeds clusterSettings.hosts).endpoints) :=
  failed_endpoint_avoided_iff rfl rfl clusterCalls

theorem failed_endpoint_contacted :
    NodeConnection.new clusterSettings = some clusterConnection ∧
    ∃ judged ∈ clusterConnection.history .empty clusterCalls,
      judged.1.Due clusterMembers (clusterNode "node1") ∧
      judged.2.probes = [⟨clusterNode "node1", some clusterMembers⟩] ∧
      ¬ judged.2.Avoids clusterSettings.hosts clusterMembers (clusterNode "node1") := by
  refine ⟨rfl, _, List.mem_of_getElem? (i := 1) rfl, ⟨rfl, rfl⟩, rfl, ?_⟩
  intro avoids
  have known : otherMembers (clusterNode "node1") clusterMembers ≠ [] := by decide
  exact avoids.contacts known ⟨clusterNode "node1", some clusterMembers⟩ List.mem_cons_self rfl

end Cluster

end NodeConnection

end TrogonEventStore

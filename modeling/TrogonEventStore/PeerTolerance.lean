import TrogonEventStore.PeerData

namespace TrogonEventStore

def Addressable (crates : Crates) (settings : ClientSettings) (endpoint : Endpoint) : Prop :=
  crates.uriParses (settings.toHyperUri endpoint) = true

instance (crates : Crates) (settings : ClientSettings) (endpoint : Endpoint) :
    Decidable (Addressable crates settings endpoint) :=
  inferInstanceAs (Decidable (_ = true))

inductive PeerData where
  | gossip (wires : List WireMemberInfo)
  | notLeader (status : Status)

/-- A gossip response of which every member read is readable, and every member that may be chosen
has an endpoint with a well-formed address. -/
structure HarmlessGossip (crates : Crates) (settings : ClientSettings)
    (wires : List WireMemberInfo) : Prop where
  readable : ∀ front wire back, wires = front ++ wire :: back →
    (∀ other ∈ front, ∃ member, other.Reads crates.parseUuid member) →
    ¬ wire.Poisons crates.parseUuid
  addressable : ∀ members, List.Forall₂ (WireMemberInfo.Reads crates.parseUuid) wires members →
    ∀ member, settings.preference.Selects (eligible members) member →
      Addressable crates settings member.httpEndPoint

def PeerData.Harmless (crates : Crates) (settings : ClientSettings) : PeerData → Prop
  | .gossip wires => HarmlessGossip crates settings wires
  | .notLeader status => ∀ leader, Error.fromGrpc status = .notLeaderException leader →
      Addressable crates settings leader

structure NodeConnection.Configured (connection : NodeConnection) (crates : Crates) : Prop where
  hosts : ∀ endpoint ∈ connection.settings.hosts,
    Addressable crates connection.settings endpoint
  seeds : ∀ mode, connection.clusterMode = some mode → ∀ endpoint ∈ mode.endpoints,
    Addressable crates connection.settings endpoint
  candidates : ∀ members, connection.previousCandidates = some members → ∀ member ∈ members,
    Addressable crates connection.settings member.endpoint
  metadata : buildRequestMetadata crates.tonic connection.settings .default crates.propagated ≠ none

def World.Hears (world : World) (peers : PeerData → Prop) : Prop :=
  ∀ attempt index wires, (world.selection attempt).gossip index = .replied (.ok wires) →
    peers (.gossip wires)

/-- The requests `next` is called with: for a handle, or for the report of an operation that failed
with the peers' status. -/
def FromPeers (peers : PeerData → Prop) (request : Option NodeRequest) : Prop :=
  request = none ∨ ∃ status, peers (.notLeader status) ∧
    ∃ handleId, ∃ report ∈ handleError handleId (.fromGrpc status),
      request = report.seedOpt.map (NodeRequest.mk report.id)

/-- However the peers' data come together, a call comes to a node or to an error. -/
def Tolerated (crates : Crates) (settings : ClientSettings) (peers : PeerData → Prop) : Prop :=
  ∀ (connection : NodeConnection) (world : World) (request : Option NodeRequest),
    connection.settings.secure = settings.secure →
    connection.settings.preference = settings.preference → world.crates = crates →
    connection.Configured crates → world.Hears peers → FromPeers peers request →
    (connection.next request world).result ≠ .panicked

structure Discovery.Sound (locals : Discovery) (connection : NodeConnection) (crates : Crates) :
    Prop where
  node : ∀ node, locals.selectedNode = some node → Addressable crates connection.settings node
  candidates : ∀ members, locals.previousCandidates = some members → ∀ member ∈ members,
    Addressable crates connection.settings member.endpoint

theorem candidates_mem (members : List Member) (candidates : Candidates) {member : Member}
    (present : member ∈ (members.foldl Candidates.push candidates).nodes ∨
      member ∈ (members.foldl Candidates.push candidates).managers) :
    member ∈ candidates.nodes ∨ member ∈ candidates.managers ∨ member ∈ members := by
  induction members generalizing candidates with
  | nil =>
      rcases present with present | present
      · exact Or.inl present
      · exact Or.inr (Or.inl present)
  | cons first members ih =>
      have pushed := ih (candidates.push first) present
      simp only [Candidates.push] at pushed
      split at pushed
      · simp only [List.mem_append, List.mem_singleton] at pushed
        rcases pushed with node | (manager | rfl) | later
        · exact Or.inl node
        · exact Or.inr (Or.inl manager)
        · exact Or.inr (Or.inr List.mem_cons_self)
        · exact Or.inr (Or.inr (List.mem_cons_of_mem _ later))
      · simp only [List.mem_append, List.mem_singleton] at pushed
        rcases pushed with (node | rfl) | manager | later
        · exact Or.inl node
        · exact Or.inr (Or.inr List.mem_cons_self)
        · exact Or.inr (Or.inl manager)
        · exact Or.inr (Or.inr (List.mem_cons_of_mem _ later))

theorem arrangeGossipCandidates_mem {nodeDraws managerDraws : List Nat} {members : List Member}
    {endpoint : Endpoint}
    (present : endpoint ∈ arrangeGossipCandidates nodeDraws managerDraws members) :
    ∃ member ∈ members, member.endpoint = endpoint := by
  obtain ⟨member, shuffled, same⟩ := List.mem_map.mp present
  refine ⟨member, ?_, same⟩
  have arranged : member ∈ (members.foldl Candidates.push Candidates.new).nodes ∨
      member ∈ (members.foldl Candidates.push Candidates.new).managers := by
    rcases List.mem_append.mp shuffled with node | manager
    · exact Or.inl ((Shuffle.shuffle_perm _ _).mem_iff.mp node)
    · exact Or.inr ((Shuffle.shuffle_perm _ _).mem_iff.mp manager)
  rcases candidates_mem members .new arranged with impossible | impossible | member
  · cases impossible
  · cases impossible
  · exact member

theorem candidatesFromOldGossip_mem {nodeDraws managerDraws : List Nat}
    {failedEndpoint : Option Endpoint} {oldCandidates : List Member} {endpoint : Endpoint}
    (present : endpoint ∈ candidatesFromOldGossip nodeDraws managerDraws failedEndpoint
      oldCandidates) :
    ∃ member ∈ oldCandidates, member.endpoint = endpoint := by
  cases failedEndpoint with
  | none => exact arrangeGossipCandidates_mem present
  | some failed =>
      obtain ⟨member, kept, same⟩ := arrangeGossipCandidates_mem present
      exact ⟨member, (List.mem_filter.mp kept).1, same⟩

variable {connection : NodeConnection} {world : World} {failedEndpoint : Option Endpoint}
  {locals : Discovery}

theorem selectionCandidates_addressable (configured : connection.Configured world.crates)
    (sound : locals.Sound connection world.crates) {mode : ClusterMode}
    (clustered : connection.clusterMode = some mode) (selection : SelectionWorld) :
    ∀ endpoint ∈ selectionCandidates connection.settings mode failedEndpoint
      locals.previousCandidates selection, Addressable world.crates connection.settings endpoint := by
  intro endpoint present
  unfold selectionCandidates at present
  split at present
  · next oldCandidates held =>
      dsimp only at present
      split at present
      · exact configured.hosts endpoint present
      · obtain ⟨member, known, rfl⟩ := candidatesFromOldGossip_mem present
        exact sound.candidates oldCandidates held member known
  · have seed := (Shuffle.shuffle_perm _ _).mem_iff.mp present
    exact configured.seeds mode clustered endpoint seed

theorem gossipRead_harmless (configured : connection.Configured world.crates) {call : GossipCall}
    (harmless : ∀ wires, call = .replied (.ok wires) →
      HarmlessGossip world.crates connection.settings wires) :
    ∃ outcome, gossipRead world.crates.tonic connection.settings world.crates.propagated
        world.crates.parseUuid call = some outcome ∧
      ∀ members, outcome = .ok (some members) → ∀ bits node,
        determineBestNode bits connection.settings.preference members = some node →
          Addressable world.crates connection.settings node := by
  obtain ⟨metadata, built⟩ := Option.ne_none_iff_exists'.mp configured.metadata
  unfold gossipRead
  simp only [built]
  cases call with
  | timedOut => exact ⟨.ok none, rfl, fun members impossible => by cases impossible⟩
  | replied reply =>
      cases reply with
      | error status => exact ⟨.error status, rfl, fun members impossible => by cases impossible⟩
      | ok wires =>
          have sound := harmless wires rfl
          cases read : readMembers world.crates.parseUuid wires with
          | none =>
              obtain ⟨front, wire, back, split, readable, poisons⟩ :=
                (readMembers_none_iff world.crates.parseUuid wires).mp read
              exact absurd poisons (sound.readable front wire back split readable)
          | some outcome =>
              cases outcome with
              | error status =>
                  refine ⟨.error status, by simp only [read], ?_⟩
                  intro members impossible
                  cases impossible
              | ok members =>
                  refine ⟨.ok (some members), by simp only [read], ?_⟩
                  intro others same bits node chosen
                  cases same
                  obtain ⟨member, selects, rfl⟩ :=
                    (determineBestNode_iff connection.settings.preference members node).mp
                      ⟨bits, chosen⟩
                  exact sound.addressable members
                    ((readMembers_ok_iff world.crates.parseUuid wires members).mp read) member selects

theorem probeCandidates_addressable (configured : connection.Configured world.crates)
    {selection : SelectionWorld}
    (harmless : ∀ index wires, selection.gossip index = .replied (.ok wires) →
      HarmlessGossip world.crates connection.settings wires)
    (index : Nat) {candidates : List Endpoint}
    (addressable : ∀ endpoint ∈ candidates,
      Addressable world.crates connection.settings endpoint) :
    ∃ selected, probeCandidates world.crates connection.settings selection index candidates =
        some selected ∧
      ∀ node, selected = some node → Addressable world.crates connection.settings node := by
  induction candidates generalizing index with
  | nil => exact ⟨none, rfl, fun node impossible => by cases impossible⟩
  | cons candidate candidates ih =>
      have first := addressable candidate List.mem_cons_self
      have rest := ih (index + 1) fun endpoint present =>
        addressable endpoint (List.mem_cons_of_mem _ present)
      obtain ⟨outcome, read, chooses⟩ :=
        gossipRead_harmless configured (harmless index)
      unfold Addressable at first
      simp only [probeCandidates, first, Bool.not_true, Bool.false_eq_true, if_false, read]
      cases outcome with
      | error status => exact rest
      | ok members =>
          cases members with
          | none => exact rest
          | some members =>
              dsimp only
              split
              · next node chosen =>
                  refine ⟨some node, rfl, ?_⟩
                  intro other same
                  cases same
                  exact chooses members rfl _ node chosen
              · exact rest

def World.Harmless (world : World) (settings : ClientSettings) : Prop :=
  ∀ attempt index wires, (world.selection attempt).gossip index = .replied (.ok wires) →
    HarmlessGossip world.crates settings wires

theorem select_addressable (failedEndpoint : Option Endpoint)
    (configured : connection.Configured world.crates) (harmless : world.Harmless connection.settings)
    (sound : locals.Sound connection world.crates) :
    ∃ selected, connection.select failedEndpoint world locals = some selected ∧
      ∀ node, selected = some node → Addressable world.crates connection.settings node := by
  unfold NodeConnection.select
  split
  · next mode clustered =>
      apply probeCandidates_addressable configured (harmless locals.attempts)
      exact selectionCandidates_addressable configured sound clustered _
  · refine ⟨_, rfl, ?_⟩
    intro node first
    exact configured.hosts node (List.mem_of_head? first)

theorem contactTurn_survives {node : Endpoint}
    (addressable : Addressable world.crates connection.settings node) :
    (∀ returned, connection.contactTurn world locals node = .finished returned →
      returned.result ≠ .panicked) := by
  intro returned turn
  unfold Addressable at addressable
  simp only [NodeConnection.contactTurn, addressable, Bool.not_true, Bool.false_eq_true, if_false,
    NodeConnection.leave] at turn
  split at turn
  · cases turn
    simp
  · cases turn
    simp
  · cases turn

theorem discovery_survives (configured : connection.Configured world.crates)
    (harmless : world.Harmless connection.settings) (sound : locals.Sound connection world.crates) :
    ((connection.discovery failedEndpoint world).run locals).result ≠ .panicked := by
  apply (connection.discovery failedEndpoint world).run_rule
    (fun locals returned => locals.Sound connection world.crates → returned.result ≠ .panicked)
  · intro locals returned turn sound
    change connection.discoverTurn failedEndpoint world locals = .finished returned at turn
    unfold NodeConnection.discoverTurn at turn
    split at turn
    · next node waits => exact contactTurn_survives (sound.node node waits) returned turn
    · obtain ⟨selected, chosen, addressable⟩ :=
        select_addressable failedEndpoint configured harmless sound
      simp only [NodeConnection.selectTurn, chosen, NodeConnection.leave] at turn
      split at turn
      · cases turn
      · cases turn
        simp
  · intro locals next returned turn later sound
    apply later
    change connection.discoverTurn failedEndpoint world locals = .again next at turn
    unfold NodeConnection.discoverTurn at turn
    split at turn
    · have same := NodeConnection.contactTurn_again turn
      subst same
      refine ⟨?_, sound.candidates⟩
      intro node impossible
      cases impossible
    · obtain ⟨_, node, chosen, rfl⟩ := NodeConnection.selectTurn_again turn
      obtain ⟨selected, same, addressable⟩ :=
        select_addressable failedEndpoint configured harmless sound
      rw [chosen] at same
      cases same
      refine ⟨addressable, ?_⟩
      intro members held
      simp only [NodeConnection.selected] at held
      split at held
      · cases held
      · exact sound.candidates members held
  · exact sound

theorem discover_survives (configured : connection.Configured world.crates)
    (harmless : world.Harmless connection.settings) {selectedNode : Option Endpoint}
    (addressed : ∀ node, selectedNode = some node →
      Addressable world.crates connection.settings node) :
    (connection.discover failedEndpoint selectedNode world).result ≠ .panicked :=
  discovery_survives configured harmless ⟨addressed, configured.candidates⟩

/-- A call that hears harmless gossip only, and is sent to well-formed addresses only, comes to a
node or to an error. -/
theorem next_survives (configured : connection.Configured world.crates)
    (harmless : world.Harmless connection.settings) {request : Option NodeRequest}
    (addressed : ∀ named, request = some named →
      Addressable world.crates connection.settings named.endpoint) :
    (connection.next request world).result ≠ .panicked := by
  have emptied : ({ connection with handle := none } : NodeConnection).Configured world.crates :=
    ⟨configured.hosts, configured.seeds, configured.candidates, configured.metadata⟩
  have named : ∀ asked, request = some asked → ∀ node, some asked.endpoint = some node →
      Addressable world.crates connection.settings node := by
    intro asked same node chosen
    cases chosen
    exact addressed asked same
  unfold NodeConnection.next
  split
  · next asked handle _ =>
      split
      · simp
      · exact discover_survives emptied harmless (named asked rfl)
  · next asked _ => exact discover_survives configured harmless (named asked rfl)
  · simp
  · exact discover_survives configured harmless fun node impossible => by cases impossible

theorem addressable_congr {crates : Crates} {settings other : ClientSettings}
    (same : settings.secure = other.secure) (endpoint : Endpoint) :
    Addressable crates settings endpoint ↔ Addressable crates other endpoint := by
  unfold Addressable ClientSettings.toHyperUri
  rw [same]

theorem HarmlessGossip.congr {crates : Crates} {settings other : ClientSettings}
    (secure : settings.secure = other.secure) (preference : settings.preference = other.preference)
    {wires : List WireMemberInfo} (harmless : HarmlessGossip crates settings wires) :
    HarmlessGossip crates other wires := by
  refine ⟨harmless.readable, ?_⟩
  intro members read member selects
  rw [← preference] at selects
  exact (addressable_congr secure _).mp (harmless.addressable members read member selects)

theorem report_names {status : Status} {handleId : Uuid} {report : CreateChannel}
    {leader : Endpoint} (reported : report ∈ handleError handleId (.fromGrpc status))
    (named : report.seedOpt = some leader) :
    Error.fromGrpc status = .notLeaderException leader := by
  unfold handleError at reported
  split at reported
  · rw [List.mem_singleton.mp reported] at named
    cases named
  · next other same =>
      rw [List.mem_singleton.mp reported] at named
      cases named
      exact same
  · cases reported

/-- A connection to a cluster whose only seed is the host. -/
def clusterOf (settings : ClientSettings) (host : Endpoint) : NodeConnection where
  id := Uuid.nil
  handle := none
  settings := { ClientSettings.default with
    hosts := [host], preference := settings.preference, secure := settings.secure }
  clusterMode := some (.seeds [host])
  previousCandidates := none

def World.gossiping (crates : Crates) (wires : List WireMemberInfo) (bits : Nat → Bool) : World where
  crates := crates
  selection := fun _ => ⟨[], [], [], fun _ => .replied (.ok wires), fun _ => bits⟩
  features := fun _ => .timedOut
  newV4 := Uuid.nil

theorem clusterOf_configured {crates : Crates} {settings : ClientSettings} {host : Endpoint}
    (addressable : Addressable crates settings host) :
    (clusterOf settings host).Configured crates := by
  have reached : Addressable crates (clusterOf settings host).settings host :=
    (addressable_congr rfl host).mp addressable
  refine ⟨?_, ?_, ?_, ?_⟩
  · intro endpoint listed
    rw [List.mem_singleton.mp listed]
    exact reached
  · intro mode same endpoint listed
    cases same
    rw [List.mem_singleton.mp listed]
    exact reached
  · intro members impossible
    cases impossible
  · simp [buildRequestMetadata, clusterOf, ClientSettings.default]

theorem clusterOf_select {crates : Crates} {settings : ClientSettings} {host : Endpoint}
    (addressable : Addressable crates settings host) (wires : List WireMemberInfo)
    (bits : Nat → Bool) {locals : Discovery} (fresh : locals.previousCandidates = none) :
    (clusterOf settings host).select none (World.gossiping crates wires bits) locals =
      match readMembers crates.parseUuid wires with
      | none => none
      | some (.error _) => some none
      | some (.ok members) => some (determineBestNode bits settings.preference members) := by
  have reached : crates.uriParses ((clusterOf settings host).settings.toHyperUri host) = true :=
    (addressable_congr rfl host).mp addressable
  obtain ⟨metadata, built⟩ :=
    Option.ne_none_iff_exists'.mp (clusterOf_configured addressable).metadata
  have candidates : selectionCandidates (clusterOf settings host).settings (.seeds [host]) none none
      ((World.gossiping crates wires bits).selection locals.attempts) = [host] := rfl
  have mode : (clusterOf settings host).clusterMode = some (.seeds [host]) := rfl
  simp only [NodeConnection.select, mode, nodeSelection, fresh, candidates]
  simp only [probeCandidates, World.gossiping, reached, Bool.not_true, Bool.false_eq_true, if_false,
    gossipRead, built]
  cases readMembers crates.parseUuid wires with
  | none => rfl
  | some outcome =>
      cases outcome with
      | error status => rfl
      | ok members =>
          have same : (clusterOf settings host).settings.preference = settings.preference := rfl
          rw [same]
          dsimp only
          cases determineBestNode bits settings.preference members <;> rfl

theorem discover_fails_select {crates : Crates} {settings : ClientSettings} {host : Endpoint}
    {wires : List WireMemberInfo} {bits : Nat → Bool}
    (fails : (clusterOf settings host).select none (World.gossiping crates wires bits)
      ⟨1, none, none, []⟩ = none) :
    ((clusterOf settings host).next none (World.gossiping crates wires bits)).result =
      .panicked := by
  have turn : ((clusterOf settings host).discovery none (World.gossiping crates wires bits)).body
      ⟨1, none, none, []⟩ = (clusterOf settings host).leave ⟨1, none, none, []⟩ .panicked [] := by
    rw [NodeConnection.discovery_selects _ rfl]
    simp only [NodeConnection.selectTurn, fails]
  change (((clusterOf settings host).discovery none (World.gossiping crates wires bits)).run
    ⟨1, none, none, []⟩).result = .panicked
  rw [Loop.run_finished _ turn]

theorem discover_fails_contact {crates : Crates} {settings : ClientSettings} {host node : Endpoint}
    {wires : List WireMemberInfo} {bits : Nat → Bool}
    (chosen : (clusterOf settings host).select none (World.gossiping crates wires bits)
      ⟨1, none, none, []⟩ = some (some node))
    (unreachable : ¬ Addressable crates settings node) :
    ((clusterOf settings host).next none (World.gossiping crates wires bits)).result =
      .panicked := by
  let world := World.gossiping crates wires bits
  let connection := clusterOf settings host
  have first : (connection.discovery none world).body ⟨1, none, none, []⟩ =
      .again (connection.selected ⟨1, none, none, []⟩ (some node)) := by
    rw [NodeConnection.discovery_selects _ rfl]
    simp only [NodeConnection.selectTurn, connection, world, chosen]
    rfl
  have unparsable : crates.uriParses (connection.settings.toHyperUri node) = false := by
    rw [← Bool.not_eq_true]
    exact fun parses => unreachable ((addressable_congr rfl node).mpr parses)
  have second : (connection.discovery none world).body
      (connection.selected ⟨1, none, none, []⟩ (some node)) =
        connection.leave (connection.selected ⟨1, none, none, []⟩ (some node)) .panicked [] := by
    rw [connection.discovery_calls rfl]
    simp only [NodeConnection.contactTurn, world, World.gossiping, unparsable, Bool.not_false,
      if_true]
  change ((connection.discovery none world).run ⟨1, none, none, []⟩).result = .panicked
  rw [Loop.run_again _ first, Loop.run_finished _ second]

theorem next_fails_named {crates : Crates} {settings : ClientSettings} {host leader : Endpoint}
    {world : World} (same : world.crates = crates)
    (unreachable : ¬ Addressable crates settings leader) :
    ((clusterOf settings host).next (some ⟨Uuid.nil, leader⟩) world).result = .panicked := by
  let connection := clusterOf settings host
  have unparsable : world.crates.uriParses (connection.settings.toHyperUri leader) = false := by
    rw [same, ← Bool.not_eq_true]
    exact fun parses => unreachable ((addressable_congr rfl leader).mpr parses)
  have turn : (connection.discovery none world).body ⟨1, some leader, none, []⟩ =
      connection.leave ⟨1, some leader, none, []⟩ .panicked [] := by
    rw [connection.discovery_calls rfl]
    simp only [NodeConnection.contactTurn, unparsable, Bool.not_false, if_true]
  change ((connection.discovery none world).run ⟨1, some leader, none, []⟩).result = .panicked
  rw [Loop.run_finished _ turn]

/-- Gossip that no discovery panics on, whatever it draws, is harmless. -/
theorem harmless_of_survives {crates : Crates} {settings : ClientSettings} {host : Endpoint}
    {wires : List WireMemberInfo} (addressable : Addressable crates settings host)
    (survives : ∀ bits, ((clusterOf settings host).next none
      (World.gossiping crates wires bits)).result ≠ .panicked) :
    HarmlessGossip crates settings wires := by
  constructor
  · intro front wire back split readable poisons
    apply survives fun _ => false
    apply discover_fails_select
    rw [clusterOf_select addressable wires _ rfl,
      (readMembers_none_iff crates.parseUuid wires).mpr
        ⟨front, wire, back, split, readable, poisons⟩]
  · intro members reads member selects
    by_contra unreachable
    obtain ⟨bits, chosen⟩ := (determineBestNode_iff settings.preference members _).mpr
      ⟨member, selects, rfl⟩
    apply survives bits
    apply discover_fails_contact _ unreachable
    rw [clusterOf_select addressable wires _ rfl,
      (readMembers_ok_iff crates.parseUuid wires members).mpr reads]
    exact congrArg some chosen

theorem gossip_survives {crates : Crates} {settings : ClientSettings} {peers : PeerData → Prop}
    {host : Endpoint} {wires : List WireMemberInfo} (addressable : Addressable crates settings host)
    (tolerated : Tolerated crates settings peers) (told : peers (.gossip wires))
    (bits : Nat → Bool) :
    ((clusterOf settings host).next none (World.gossiping crates wires bits)).result ≠
      .panicked := by
  apply tolerated (clusterOf settings host) (World.gossiping crates wires bits) none rfl rfl rfl
    (clusterOf_configured addressable)
  · intro attempt index others same
    cases same
    exact told
  · exact Or.inl rfl

theorem leader_addressable {crates : Crates} {settings : ClientSettings} {peers : PeerData → Prop}
    {host leader : Endpoint} {status : Status} (addressable : Addressable crates settings host)
    (tolerated : Tolerated crates settings peers) (told : peers (.notLeader status))
    (named : Error.fromGrpc status = .notLeaderException leader) :
    Addressable crates settings leader := by
  by_contra unreachable
  let connection := clusterOf settings host
  let world : World :=
    ⟨crates, fun _ => ⟨[], [], [], fun _ => .timedOut, fun _ _ => false⟩, fun _ => .timedOut,
      Uuid.nil⟩
  apply tolerated connection world (some ⟨connection.id, leader⟩) rfl rfl rfl
    (clusterOf_configured addressable)
  · intro attempt index others impossible
    cases impossible
  · refine Or.inr ⟨status, told, connection.id, ⟨connection.id, some leader⟩, ?_, rfl⟩
    rw [named, handleError]
    exact List.mem_singleton_self _
  · exact next_fails_named rfl unreachable

theorem tolerated_of_harmless {crates : Crates} {settings : ClientSettings}
    {peers : PeerData → Prop} (harmless : ∀ data, peers data → data.Harmless crates settings) :
    Tolerated crates settings peers := by
  intro connection world request secure preference same configured hears asked
  subst same
  apply next_survives configured
  · intro attempt index wires replied
    exact HarmlessGossip.congr secure.symm preference.symm
      (harmless (.gossip wires) (hears attempt index wires replied))
  · intro named given
    rcases asked with absent | ⟨status, told, handleId, report, reported, same⟩
    · rw [absent] at given
      cases given
    · rw [same] at given
      obtain ⟨leader, seed, rfl⟩ := Option.map_eq_some_iff.mp given
      exact (addressable_congr secure leader).mpr
        (harmless (.notLeader status) told leader (report_names reported seed))

/-- Peers are tolerated exactly when every instance id that is reached reads, and every address
that may be chosen, or that a not-leader status names, makes up a URI. -/
theorem peer_data_tolerated_iff (crates : Crates) (settings : ClientSettings)
    (peers : PeerData → Prop) (host : Endpoint) (addressable : Addressable crates settings host) :
    Tolerated crates settings peers ↔ ∀ data, peers data → data.Harmless crates settings := by
  constructor
  · intro tolerated data told
    cases data with
    | gossip wires =>
        exact harmless_of_survives addressable (gossip_survives addressable tolerated told)
    | notLeader status =>
        intro leader named
        exact leader_addressable addressable tolerated told named
  · exact tolerated_of_harmless

/-- Crates that refuse the address of the node ::1, an IPv6 literal without brackets, and every text
as a uuid. -/
def Crates.unbracketed : Crates where
  uriParses := fun text => text != "https://::1:2113"
  parseUuid := fun _ => none
  propagated := []
  tonic := .plain

def literalLeader : WireMemberInfo := ⟨none, 0, 8, true, some ⟨"::1", 2113⟩⟩

def namedLeader : WireMemberInfo :=
  ⟨some ⟨some (.string "node-1")⟩, 0, 8, true, some ⟨"localhost", 2113⟩⟩

def literalReferral : Status :=
  ⟨.notFound, "Leader info available", [("exception", utf8 "not-leader"),
    ("leader-endpoint-host", utf8 "::1"), ("leader-endpoint-port", utf8 "2113")]⟩

theorem peer_data_tolerated_by_host :
    Tolerated Crates.unbracketed .default (fun data => data = .gossip [literalLeader]) ↔
      ∀ data : PeerData, data = .gossip [literalLeader] → data.Harmless Crates.unbracketed .default :=
  peer_data_tolerated_iff Crates.unbracketed .default _ ⟨"localhost", 2113⟩ (by decide)

theorem peer_data_panics :
    (∃ bits, ((clusterOf .default ⟨"localhost", 2113⟩).next none
      (World.gossiping Crates.unbracketed [literalLeader] bits)).result = .panicked) ∧
    (∃ bits, ((clusterOf .default ⟨"localhost", 2113⟩).next none
      (World.gossiping Crates.unbracketed [namedLeader] bits)).result = .panicked) ∧
    Error.fromGrpc literalReferral = .notLeaderException ⟨"::1", 2113⟩ ∧
    (∀ world, world.crates = Crates.unbracketed →
      ((clusterOf .default ⟨"localhost", 2113⟩).next (some ⟨Uuid.nil, ⟨"::1", 2113⟩⟩) world).result =
        .panicked) ∧
    ¬ Tolerated Crates.unbracketed .default fun _ => True := by
  have parses : Addressable Crates.unbracketed .default ⟨"localhost", 2113⟩ := by decide
  have fails : ∀ world, world.crates = Crates.unbracketed →
      ((clusterOf .default ⟨"localhost", 2113⟩).next (some ⟨Uuid.nil, ⟨"::1", 2113⟩⟩) world).result =
        .panicked := by
    intro world same
    exact next_fails_named same (by decide)
  have gossiped : ((clusterOf .default ⟨"localhost", 2113⟩).next none
      (World.gossiping Crates.unbracketed [literalLeader] fun _ => false)).result = .panicked := by
    have chosen : (clusterOf .default ⟨"localhost", 2113⟩).select none
        (World.gossiping Crates.unbracketed [literalLeader] fun _ => false) ⟨1, none, none, []⟩ =
          some (some ⟨"::1", 2113⟩) := by
      rw [clusterOf_select parses _ _ rfl]
      rfl
    exact discover_fails_contact chosen (by decide)
  refine ⟨⟨fun _ => false, gossiped⟩, ⟨fun _ => false, ?_⟩, by decide, fails, ?_⟩
  · apply discover_fails_select
    rw [clusterOf_select parses _ _ rfl]
    rfl
  · intro tolerated
    apply tolerated _ _ none rfl rfl rfl (clusterOf_configured parses) _ (Or.inl rfl) gossiped
    intro attempt index wires replied
    trivial

end TrogonEventStore

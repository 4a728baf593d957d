import TrogonEventStore.DiscoveryLimit

namespace TrogonEventStore.NodeConnection

def isSelection : DiscoveryEvent → Bool
  | .selected _ => true
  | _ => false

def isCall : DiscoveryEvent → Bool
  | .called _ _ => true
  | _ => false

def selectionCount (trace : List DiscoveryEvent) : Nat := trace.countP isSelection

def callCount (trace : List DiscoveryEvent) : Nat := trace.countP isCall

@[simp] theorem selectionCount_append (first second : List DiscoveryEvent) :
    selectionCount (first ++ second) = selectionCount first + selectionCount second :=
  List.countP_append

@[simp] theorem callCount_append (first second : List DiscoveryEvent) :
    callCount (first ++ second) = callCount first + callCount second :=
  List.countP_append

/-- `next` returns within the selections and calls allowed and with a counter that is still a
`usize`; after an error nothing is cached, so whatever is asked next starts a discovery. -/
structure Ends (connection : NodeConnection) (request : Option NodeRequest) (world : World) :
    Prop where
  returns : (connection.next request world).result ≠ .panicked
  selections : selectionCount (connection.next request world).trace ≤
    max connection.settings.maxDiscoverAttempts 1
  calls : callCount (connection.next request world).trace ≤
    max connection.settings.maxDiscoverAttempts 1
  counter : 1 + selectionCount (connection.next request world).trace ≤ usizeMax
  fresh : ∀ error, (connection.next request world).result = .err error →
    (connection.next request world).connection.handle = none ∧
      ∀ later met, (connection.next request world).connection.next later met =
        (connection.next request world).connection.discover none
          (later.map NodeRequest.endpoint) met

section Pace

variable {connection : NodeConnection} {failedEndpoint : Option Endpoint} {world : World}

/-- The counter is one ahead of the selections. A call belongs to a selection before it, or to the
request, which is tried at the count of one. -/
structure Paced (connection : NodeConnection) (locals : Discovery) : Prop where
  counted : locals.attempts = selectionCount locals.trace + 1
  waiting : callCount locals.trace + (if locals.selectedNode.isSome then 1 else 0) ≤ locals.attempts
  allowed : locals.attempts ≤ connection.lastSelection

structure Bounded (connection : NodeConnection) (trace : List DiscoveryEvent) : Prop where
  selections : selectionCount trace ≤ connection.lastSelection
  calls : callCount trace ≤ connection.lastSelection

theorem Paced.start (connection : NodeConnection) (requested : Option Endpoint) :
    connection.Paced ⟨1, requested, connection.previousCandidates, []⟩ := by
  refine ⟨rfl, ?_, Nat.le_max_right _ 1⟩
  change 0 + (if requested.isSome then 1 else 0) ≤ 1
  split <;> omega

theorem Paced.contact {locals next : Discovery} {node : Endpoint}
    (paced : connection.Paced locals) (waits : locals.selectedNode = some node)
    (turn : connection.contactTurn world locals node = .again next) : connection.Paced next := by
  have waiting := paced.waiting
  rw [waits, Option.isSome_some, if_pos rfl] at waiting
  rw [contactTurn_again turn]
  refine ⟨?_, ?_, paced.allowed⟩
  · simp [paced.counted, selectionCount, isSelection]
  · simpa [callCount, isCall] using waiting

theorem Paced.select {locals next : Discovery} (paced : connection.Paced locals)
    (turn : connection.selectTurn failedEndpoint world locals = .again next) :
    connection.Paced next := by
  have waiting := paced.waiting
  obtain ⟨allowed, node, _, rfl⟩ := selectTurn_again turn
  refine ⟨?_, ?_, Nat.le_trans allowed (Nat.le_max_left _ 1)⟩
  · simp [selected, paced.counted, selectionCount, isSelection]
  · have silent : callCount [DiscoveryEvent.selected node] = 0 := rfl
    have further : (if (connection.selected locals node).selectedNode.isSome then 1 else 0) ≤ 1 := by
      split <;> omega
    simp only [selected, callCount_append, silent] at further ⊢
    omega

theorem Paced.contacted {locals : Discovery} {node : Endpoint} {returned : Returned}
    (paced : connection.Paced locals) (waits : locals.selectedNode = some node)
    (turn : connection.contactTurn world locals node = .finished returned) :
    connection.Bounded returned.trace := by
  have counted := paced.counted
  have allowed := paced.allowed
  have waiting := paced.waiting
  rw [waits, Option.isSome_some, if_pos rfl] at waiting
  unfold contactTurn leave at turn
  split at turn
  · cases turn
    rw [List.append_nil]
    constructor
    · change selectionCount locals.trace ≤ connection.lastSelection
      omega
    · change callCount locals.trace ≤ connection.lastSelection
      omega
  · split at turn
    · next serverInfo _ =>
        cases turn
        have one : ∀ handle, callCount
            [DiscoveryEvent.called node (.answered serverInfo), .connected handle] = 1 :=
          fun _ => rfl
        have silent : ∀ handle, selectionCount
            [DiscoveryEvent.called node (.answered serverInfo), .connected handle] = 0 :=
          fun _ => rfl
        constructor
        · rw [selectionCount_append, silent]
          omega
        · rw [callCount_append, one]
          omega
    · next status _ =>
        cases turn
        have one : callCount [DiscoveryEvent.called node (.refused status)] = 1 := rfl
        have silent : selectionCount [DiscoveryEvent.called node (.refused status)] = 0 := rfl
        constructor
        · rw [selectionCount_append, silent]
          omega
        · rw [callCount_append, one]
          omega
    · cases turn

theorem Paced.exhausted {locals : Discovery} {returned : Returned}
    (paced : connection.Paced locals)
    (turn : connection.selectTurn failedEndpoint world locals = .finished returned) :
    connection.Bounded returned.trace := by
  have counted := paced.counted
  have allowed := paced.allowed
  have waiting := paced.waiting
  unfold selectTurn leave at turn
  split at turn
  · cases turn
    rw [List.append_nil]
    constructor
    · change selectionCount locals.trace ≤ connection.lastSelection
      omega
    · change callCount locals.trace ≤ connection.lastSelection
      omega
  · next node _ =>
      split at turn
      · cases turn
      · cases turn
        have one : selectionCount [DiscoveryEvent.selected node] = 1 := rfl
        have silent : callCount [DiscoveryEvent.selected node] = 0 := rfl
        rw [List.append_nil]
        constructor
        · rw [selected, selectionCount_append, one]
          omega
        · rw [selected, callCount_append, silent]
          omega

theorem discovery_bounded {locals : Discovery} (paced : connection.Paced locals) :
    connection.Bounded ((connection.discovery failedEndpoint world).run locals).trace := by
  revert paced
  apply (connection.discovery failedEndpoint world).run_rule
    (fun locals returned => connection.Paced locals → connection.Bounded returned.trace)
  · intro locals returned turn paced
    cases waits : locals.selectedNode with
    | some node =>
        rw [connection.discovery_calls waits] at turn
        exact paced.contacted waits turn
    | none =>
        rw [connection.discovery_selects waits] at turn
        exact paced.exhausted turn
  · intro locals next returned turn later paced
    cases waits : locals.selectedNode with
    | some node =>
        rw [connection.discovery_calls waits] at turn
        exact later (paced.contact waits turn)
    | none =>
        rw [connection.discovery_selects waits] at turn
        exact later (paced.select turn)

end Pace

/-- However the world behaves, one call of `next` keeps to the attempts that are set. -/
theorem next_bounded (connection : NodeConnection) (request : Option NodeRequest) (world : World) :
    connection.Bounded (connection.next request world).trace := by
  by_cases cached : connection.Cached request
  · obtain ⟨handle, same⟩ := next_cached cached world
    rw [same]
    exact ⟨Nat.zero_le _, Nat.zero_le _⟩
  · have bounded : Bounded { connection with handle := none }
        (discover { connection with handle := none }
          (request.bind fun _ => connection.handle.map HandleInfo.endpoint)
          (request.map NodeRequest.endpoint) world).trace :=
      discovery_bounded (Paced.start _ _)
    rw [next_uncached cached]
    exact ⟨bounded.selections, bounded.calls⟩

theorem next_without_handle {connection : NodeConnection} (empty : connection.handle = none)
    (request : Option NodeRequest) (world : World) :
    connection.next request world =
      connection.discover none (request.map NodeRequest.endpoint) world := by
  unfold next
  cases request with
  | none => simp only [empty, Option.map_none]
  | some named => simp only [empty, Option.map_some]

theorem next_error_empties {connection : NodeConnection} {request : Option NodeRequest}
    {world : World} {error : GrpcConnectionError}
    (failed : (connection.next request world).result = .err error) :
    (connection.next request world).connection.handle = none := by
  rcases connection.next_cases request world with ⟨handle, _, _, same⟩ | ⟨_, settles⟩
  · rw [same] at failed
    cases failed
  · have kept := settles.2
    rw [failed] at kept
    exact kept.1

/-- The attempt comes to something: its selection ends in a node or in none, and a node that is
called has a host that makes a URI. After the last selection no node is called. -/
def HasOutcome (connection : NodeConnection) (request : Option NodeRequest) (world : World)
    (index : Nat) : Prop :=
  ∃ node, connection.nodeOf request world index = some node ∧
    ∀ called, node = some called → index < connection.lastSelection →
      world.crates.uriParses (connection.settings.toHyperUri called) = true

/-- A handle is cached, or every attempt that is left to be made by those before it comes to
something. -/
def Answerable (connection : NodeConnection) (request : Option NodeRequest) (world : World) :
    Prop :=
  connection.Cached request ∨
  ∀ index, firstAttempt request ≤ index → index ≤ connection.lastSelection →
    (∀ other, firstAttempt request ≤ other → other < index →
      connection.attemptOf request world other = .missed) →
    connection.HasOutcome request world index

theorem hasOutcome_iff {connection : NodeConnection} {request : Option NodeRequest} {world : World}
    {index : Nat} (within : index < connection.lastSelection) :
    connection.HasOutcome request world index ↔
      connection.attemptOf request world index ≠ .panicked := by
  unfold HasOutcome attemptOf attempt nodeOf
  cases chosen : connection.nodeAt (request.bind fun _ => connection.handle.map HandleInfo.endpoint)
      (request.map NodeRequest.endpoint) world index with
  | none => simp
  | some node =>
      cases node with
      | none => simp
      | some called =>
          have parses : connection.callAttempt world index called ≠ .panicked ↔
              world.crates.uriParses (connection.settings.toHyperUri called) = true := by
            unfold callAttempt
            cases world.crates.uriParses (connection.settings.toHyperUri called) with
            | false => simp
            | true => cases (world.features index).contact <;> simp
          rw [parses]
          simp [within]

theorem Answerable.of_outcome {connection : NodeConnection} {request : Option NodeRequest}
    {world : World} {found : Nat} (low : firstAttempt request ≤ found)
    (high : found < connection.lastSelection)
    (missed : ∀ other, firstAttempt request ≤ other → other < found →
      connection.attemptOf request world other = .missed)
    (ends : connection.attemptOf request world found ≠ .missed)
    (outcome : connection.attemptOf request world found ≠ .panicked) :
    connection.Answerable request world := by
  refine Or.inr ?_
  intro index after within before
  rcases Nat.lt_trichotomy index found with earlier | same | later
  · rw [hasOutcome_iff (Nat.lt_trans earlier high), missed index after earlier]
    exact nofun
  · rw [same, hasOutcome_iff high]
    exact outcome
  · exact absurd (before found low later) ends

theorem answerable_iff {connection : NodeConnection} {request : Option NodeRequest} {world : World} :
    connection.Answerable request world ↔ (connection.next request world).result ≠ .panicked := by
  by_cases cached : connection.Cached request
  · obtain ⟨handle, same⟩ := next_cached cached world
    refine iff_of_true (Or.inl cached) ?_
    rw [same]
    exact nofun
  cases next_searches cached world with
  | won found node serverInfo low high missed wins result =>
      rw [result]
      refine iff_of_true (.of_outcome low high missed ?_ ?_) nofun
      · intro misses
        cases wins.symm.trans misses
      · intro panics
        cases wins.symm.trans panics
  | refused found status low high missed refuses result _ =>
      rw [result]
      refine iff_of_true (.of_outcome low high missed ?_ ?_) nofun
      · intro misses
        cases refuses.symm.trans misses
      · intro panics
        cases refuses.symm.trans panics
  | exhausted node missed chosen result _ =>
      rw [result]
      refine iff_of_true (Or.inr ?_) nofun
      intro index low within _
      rcases Nat.eq_or_lt_of_le within with rfl | earlier
      · refine ⟨node, chosen, ?_⟩
        intro _ _ impossible
        exact absurd impossible (Nat.lt_irrefl _)
      · rw [hasOutcome_iff earlier]
        intro panics
        cases (missed index low earlier).symm.trans panics
  | panicked found low high missed panics chosen result =>
      rw [result]
      refine iff_of_false ?_ (fun settled => settled rfl)
      rintro (present | answerable)
      · exact cached present
      have outcome := answerable found low high missed
      rcases Nat.eq_or_lt_of_le high with last | earlier
      · obtain ⟨node, selected, _⟩ := outcome
        cases (chosen last).symm.trans selected
      · exact (hasOutcome_iff earlier).mp outcome panics

/-- `next` ends within the attempts that are set, with nothing cached after an error, exactly when
every attempt it comes to has an outcome. -/
theorem discovery_ends_iff (connection : NodeConnection) (request : Option NodeRequest)
    (world : World) (limited : connection.settings.maxDiscoverAttempts < usizeMax) :
    connection.Ends request world ↔ connection.Answerable request world := by
  constructor
  · intro ends
    exact answerable_iff.mpr ends.returns
  · intro answerable
    have bounded := connection.next_bounded request world
    have selections := bounded.selections
    rw [lastSelection] at selections
    have positive : 1 < usizeMax := by decide
    refine ⟨answerable_iff.mp answerable, selections, bounded.calls, by omega, ?_⟩
    intro error failed
    have empty := next_error_empties failed
    exact ⟨empty, fun later met => next_without_handle empty later met⟩

theorem three_attempts_end :
    (solo localNode 3).Ends none (World.steady .timedOut 1) ↔
      (solo localNode 3).Answerable none (World.steady .timedOut 1) :=
  discovery_ends_iff (solo localNode 3) none (World.steady .timedOut 1) (by decide)

/-- The http crate takes no IPv6 literal without brackets. -/
def literalWorld : World :=
  { World.steady .healthy 1 with
    crates := ⟨fun text => text != "http://::1:2113", fun _ => none, [], .plain⟩ }

theorem literal_request_panics :
    ((solo localNode 3).next (some ⟨2, ⟨"::1", 2113⟩⟩) literalWorld).result = .panicked ∧
      ¬ (solo localNode 3).Ends (some ⟨2, ⟨"::1", 2113⟩⟩) literalWorld := by
  have panics : ((solo localNode 3).next (some ⟨2, ⟨"::1", 2113⟩⟩) literalWorld).result =
      .panicked := rfl
  exact ⟨panics, fun ends => ends.returns panics⟩

end TrogonEventStore.NodeConnection

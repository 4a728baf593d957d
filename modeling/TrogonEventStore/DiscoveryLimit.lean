import TrogonEventStore.Discovery

namespace TrogonEventStore.NodeConnection

open Connection (process)

def Cached (connection : NodeConnection) (request : Option NodeRequest) : Prop :=
  connection.handle.isSome ∧ ∀ named, request = some named → named.correlation ≠ connection.id

def firstAttempt (request : Option NodeRequest) : Nat := if request.isSome then 0 else 1

def attemptOf (connection : NodeConnection) (request : Option NodeRequest) (world : World) :
    Nat → Attempt :=
  connection.attempt (request.bind fun _ => connection.handle.map HandleInfo.endpoint)
    (request.map NodeRequest.endpoint) world

def nodeOf (connection : NodeConnection) (request : Option NodeRequest) (world : World) :
    Nat → Option (Option Endpoint) :=
  connection.nodeAt (request.bind fun _ => connection.handle.map HandleInfo.endpoint)
    (request.map NodeRequest.endpoint) world

theorem discover_searches (connection : NodeConnection)
    (failedEndpoint requested : Option Endpoint) (world : World) :
    Searched connection failedEndpoint requested world (if requested.isSome then 0 else 1) []
      (connection.discover failedEndpoint requested world) := by
  have tracks : Tracks connection failedEndpoint requested world
      ⟨1, requested, connection.previousCandidates, []⟩ := by
    refine ⟨Nat.le_refl _, ?_, ?_, ?_⟩
    · simp [candidatesAt]
    · intro node same
      simp only [nodeAt, Nat.sub_self]
      rw [← same]
    · simp only [index, lastSelection]
      split <;> omega
  exact discovery_searches _ tracks

theorem next_cached {connection : NodeConnection} {request : Option NodeRequest}
    (cached : connection.Cached request) (world : World) :
    ∃ handle, connection.next request world = ⟨connection, .ok handle, []⟩ := by
  rcases connection.next_cases request world with ⟨handle, _, _, same⟩ | ⟨given, _⟩
  · exact ⟨handle, same⟩
  · rcases given with empty | ⟨named, requested, current⟩
    · rw [Cached, empty] at cached
      cases cached.1
    · exact absurd current (cached.2 named requested)

theorem next_uncached {connection : NodeConnection} {request : Option NodeRequest}
    (uncached : ¬ connection.Cached request) (world : World) :
    connection.next request world =
      { connection with handle := none }.discover
        (request.bind fun _ => connection.handle.map HandleInfo.endpoint)
        (request.map NodeRequest.endpoint) world := by
  cases cached : connection.handle with
  | none =>
      have same : { connection with handle := none } = connection := by rw [← cached]
      rw [same]
      cases request <;> simp only [next, cached] <;> rfl
  | some handle =>
      cases request with
      | none =>
          refine absurd ⟨?_, ?_⟩ uncached
          · rw [cached, Option.isSome_some]
          · intro named impossible
            cases impossible
      | some named =>
          by_cases current : connection.id = named.correlation
          · simp only [next, cached, current, ne_eq, not_true_eq_false, if_false]
            rfl
          · refine absurd ⟨?_, ?_⟩ uncached
            · rw [cached, Option.isSome_some]
            · intro other same
              cases same
              exact fun equal => current equal.symm

theorem Searched.of_emptied {connection : NodeConnection} {failedEndpoint requested : Option Endpoint}
    {world : World} {index : Nat} {earlier : List DiscoveryEvent} {returned : Returned}
    (searched : Searched { connection with handle := none } failedEndpoint requested world index
      earlier returned) :
    Searched connection failedEndpoint requested world index earlier returned := by
  cases searched with
  | won found node serverInfo low high missed wins result =>
      exact .won found node serverInfo low high missed wins result
  | refused found status low high missed refuses result counted =>
      exact .refused found status low high missed refuses result counted
  | panicked found low high missed panics chosen result =>
      exact .panicked found low high missed panics chosen result
  | exhausted node missed selected result counted =>
      exact .exhausted node missed selected result counted

theorem next_searches {connection : NodeConnection} {request : Option NodeRequest}
    (uncached : ¬ connection.Cached request) (world : World) :
    Searched connection (request.bind fun _ => connection.handle.map HandleInfo.endpoint)
      (request.map NodeRequest.endpoint) world (firstAttempt request) []
      (connection.next request world) := by
  have searched := discover_searches { connection with handle := none }
    (request.bind fun _ => connection.handle.map HandleInfo.endpoint)
    (request.map NodeRequest.endpoint) world
  rw [Option.isSome_map] at searched
  rw [next_uncached uncached]
  exact searched.of_emptied

def HitOrMiss (connection : NodeConnection) (world : World) : Prop :=
  ∀ index, 1 ≤ index → index ≤ connection.settings.maxDiscoverAttempts →
    connection.attemptOf none world index = .missed ∨
      ∃ node serverInfo, connection.attemptOf none world index = .won node serverInfo

/-- `maxDiscoverAttempts` complete attempts are made before the connection gives up, and a
success of any of them is taken. -/
structure AllowsEveryAttempt (connection : NodeConnection) (world : World) : Prop where
  exhausted : (connection.next none world).result =
      .err (.maxDiscoveryAttemptReached connection.settings.maxDiscoverAttempts) →
    connection.settings.maxDiscoverAttempts ≤ failures (connection.next none world).trace
  connects : (∃ index node serverInfo, 1 ≤ index ∧
      index ≤ connection.settings.maxDiscoverAttempts ∧
      connection.attemptOf none world index = .won node serverInfo) →
    ∃ handle, (connection.next none world).result = .ok handle

theorem attempt_missed {connection : NodeConnection} {failedEndpoint requested : Option Endpoint}
    {world : World} {index : Nat}
    (selected : connection.nodeAt failedEndpoint requested world index = some none) :
    connection.attempt failedEndpoint requested world index = .missed := by
  simp only [attempt, selected]

theorem HitOrMiss.wins {connection : NodeConnection} {world : World} {index : Nat}
    (outcomes : connection.HitOrMiss world) (low : 1 ≤ index)
    (high : index ≤ connection.settings.maxDiscoverAttempts)
    (missed : connection.attemptOf none world index ≠ .missed) :
    ∃ node serverInfo, connection.attemptOf none world index = .won node serverInfo :=
  (outcomes index low high).resolve_left missed

/-- Where no attempt before the last one succeeds, the failures are as many as documented only if
the last selection had no node to offer. -/
theorem allows_exhausted_iff {connection : NodeConnection} {world : World}
    {node : Option Endpoint}
    (missed : ∀ index, 1 ≤ index → index < connection.settings.maxDiscoverAttempts →
      connection.attemptOf none world index = .missed)
    (selected : connection.nodeOf none world connection.settings.maxDiscoverAttempts = some node)
    (result : (connection.next none world).result =
      .err (.maxDiscoveryAttemptReached connection.settings.maxDiscoverAttempts))
    (positive : 1 ≤ connection.settings.maxDiscoverAttempts)
    (counted : failures (connection.next none world).trace =
      connection.settings.maxDiscoverAttempts - 1 + if node = none then 1 else 0) :
    connection.AllowsEveryAttempt world ↔ node = none := by
  constructor
  · intro allows
    have enough := allows.exhausted result
    rw [counted] at enough
    cases node with
    | none => rfl
    | some node =>
        simp only [reduceCtorEq, if_false] at enough
        omega
  · rintro rfl
    constructor
    · intro _
      rw [counted, if_pos rfl]
      omega
    · intro ⟨index, node, serverInfo, low, high, wins⟩
      rcases Nat.eq_or_lt_of_le high with rfl | below
      · rw [attemptOf, attempt_missed selected] at wins
        cases wins
      · rw [missed index low below] at wins
        cases wins

/-- The last attempt is a selection without a call, so all is as documented exactly when an
earlier attempt succeeds or the last selection has no node to offer. -/
theorem max_attempts_reached_iff {connection : NodeConnection} {world : World}
    (empty : connection.handle = none)
    (positive : 1 ≤ connection.settings.maxDiscoverAttempts)
    (outcomes : connection.HitOrMiss world) :
    connection.AllowsEveryAttempt world ↔
      (∃ index node serverInfo, 1 ≤ index ∧ index < connection.settings.maxDiscoverAttempts ∧
        connection.attemptOf none world index = .won node serverInfo) ∨
      connection.nodeOf none world connection.settings.maxDiscoverAttempts = some none := by
  have uncached : ¬ connection.Cached none := by
    intro cached
    rw [Cached, empty] at cached
    cases cached.1
  have last : connection.lastSelection = connection.settings.maxDiscoverAttempts :=
    Nat.max_eq_left positive
  have searched := next_searches uncached world
  cases searched with
  | won found node serverInfo low high missed wins result =>
      rw [last] at high
      have allows : connection.AllowsEveryAttempt world := by
        refine ⟨?_, fun _ => ⟨_, result⟩⟩
        intro impossible
        rw [result] at impossible
        cases impossible
      exact iff_of_true allows (Or.inl ⟨found, node, serverInfo, low, high, wins⟩)
  | refused found status low high missed refuses =>
      rw [last] at high
      have refused : connection.attemptOf none world found = .refused status := refuses
      obtain ⟨node, serverInfo, wins⟩ := outcomes.wins low (Nat.le_of_lt high) (by simp [refused])
      rw [refused] at wins
      cases wins
  | panicked found low high missed panics =>
      rw [last] at high
      have panicked : connection.attemptOf none world found = .panicked := panics
      obtain ⟨node, serverInfo, wins⟩ := outcomes.wins low high (by simp [panicked])
      rw [panicked] at wins
      cases wins
  | exhausted node missed selected result counted =>
      rw [last] at missed selected counted
      have none_won : ¬ ∃ index node serverInfo, 1 ≤ index ∧
          index < connection.settings.maxDiscoverAttempts ∧
          connection.attemptOf none world index = .won node serverInfo := by
        intro ⟨index, node, serverInfo, low, high, wins⟩
        rw [attemptOf, missed index low high] at wins
        cases wins
      have total : failures (connection.next none world).trace =
          connection.settings.maxDiscoverAttempts - 1 + if node = none then 1 else 0 := by
        rw [counted, failures, List.countP_nil, Nat.zero_add]
        rfl
      have offered : connection.nodeOf none world connection.settings.maxDiscoverAttempts =
          some node := selected
      rw [allows_exhausted_iff missed offered result positive total, offered, Option.some.injEq,
        or_iff_right none_won]

def localNode : Endpoint := ⟨"localhost", 2113⟩

theorem solo_hit {attempts : Nat} {index : Nat} (low : 1 ≤ index) :
    (solo localNode attempts).attemptOf none (.steady .healthy 1) index =
      .won localNode ⟨⟨1, 0, 0⟩, .nothing⟩ := by
  cases index with
  | zero => omega
  | succ index => rfl

theorem three_attempts_connect : (solo localNode 3).AllowsEveryAttempt (.steady .healthy 1) := by
  have outcomes : (solo localNode 3).HitOrMiss (.steady .healthy 1) := by
    intro index low _
    exact Or.inr ⟨_, _, solo_hit low⟩
  have condition := max_attempts_reached_iff rfl (by decide) outcomes
  exact condition.mpr (Or.inl ⟨1, _, _, by decide, by decide, solo_hit (Nat.le_refl 1)⟩)

/-- With one attempt allowed, a healthy node is selected and never called. -/
theorem one_attempt_never_connects :
    (solo localNode 1).HitOrMiss (.steady .healthy 1) ∧
      (solo localNode 1).next none (.steady .healthy 1) = ⟨solo localNode 1,
        .err (.maxDiscoveryAttemptReached 1), [.selected (some localNode)]⟩ ∧
      ¬ (solo localNode 1).AllowsEveryAttempt (.steady .healthy 1) := by
  refine ⟨?_, rfl, ?_⟩
  · intro index low _
    exact Or.inr ⟨_, _, solo_hit low⟩
  · intro allows
    have enough : 1 ≤ 0 := allows.exhausted rfl
    omega

/-- A node that answers is within the allowed attempts, and those before it only fail. -/
def Reachable (connection : NodeConnection) (request : Option NodeRequest) (world : World) : Prop :=
  ∃ found node serverInfo, firstAttempt request ≤ found ∧
    found < firstAttempt request + connection.settings.maxDiscoverAttempts ∧
    connection.attemptOf request world found = .won node serverInfo ∧
    ∀ other, firstAttempt request ≤ other → other < found →
      connection.attemptOf request world other = .missed ∨
        ∃ status, connection.attemptOf request world other = .refused status

/-- An unreachable node costs one attempt: discovery fails only once the attempts are used up, and
a reachable node within them keeps the actor going. -/
structure Persists (connection : NodeConnection) (request : Option NodeRequest) (world : World) :
    Prop where
  exhausted : ∀ error, (connection.next request world).result = .err error →
    connection.settings.maxDiscoverAttempts ≤ failures (connection.next request world).trace
  connects : connection.Reachable request world →
    ∃ handle, (connection.next request world).result = .ok handle
  serves : request = none → connection.Reachable none world → ∀ ticket,
    ∃ actor handle, process ⟨connection, none⟩ (.getChannel ticket) world =
      ⟨some actor, [.processed (.getChannel ticket) (connection.next none world).trace,
        .answered ticket (.ok handle)]⟩

def Attempt.Ends (attempt : Attempt) : Prop :=
  attempt = .panicked ∨ ∃ node serverInfo, attempt = .won node serverInfo

/-- Among all but the last of the allowed attempts a node answers before any refuses; or none of
them is refused, and the last attempt is one on a requested node or has no node to call. -/
def Unhindered (connection : NodeConnection) (request : Option NodeRequest) (world : World) : Prop :=
  connection.Cached request ∨ connection.settings.maxDiscoverAttempts = 0 ∨
  (∃ found, firstAttempt request ≤ found ∧
    found + 1 < firstAttempt request + connection.settings.maxDiscoverAttempts ∧
    (connection.attemptOf request world found).Ends ∧
    ∀ other, firstAttempt request ≤ other → other < found →
      connection.attemptOf request world other = .missed) ∨
  ((∀ other, firstAttempt request ≤ other →
      other + 1 < firstAttempt request + connection.settings.maxDiscoverAttempts →
      connection.attemptOf request world other = .missed) ∧
    (request.isSome ∨ ∀ node, connection.nodeOf request world
      connection.settings.maxDiscoverAttempts ≠ some (some node)))

theorem process_connects {connection : NodeConnection} {world : World} {info : HandleInfo}
    (connected : (connection.next none world).result = .ok info) (ticket : Connection.Ticket) :
    process ⟨connection, none⟩ (.getChannel ticket) world =
      ⟨some ⟨(connection.next none world).connection, some (.ofInfo info)⟩,
        [.processed (.getChannel ticket) (connection.next none world).trace,
          .answered ticket (.ok (.ofInfo info))]⟩ := by
  simp only [process, connected]

theorem Persists.of_parts {connection : NodeConnection} {request : Option NodeRequest}
    {world : World}
    (exhausted : ∀ error, (connection.next request world).result = .err error →
      connection.settings.maxDiscoverAttempts ≤ failures (connection.next request world).trace)
    (connects : connection.Reachable request world →
      ∃ handle, (connection.next request world).result = .ok handle) :
    connection.Persists request world := by
  refine ⟨exhausted, connects, ?_⟩
  rintro rfl reachable ticket
  obtain ⟨handle, connected⟩ := connects reachable
  exact ⟨_, _, process_connects connected ticket⟩

theorem Persists.of_ok {connection : NodeConnection} {request : Option NodeRequest} {world : World}
    {handle : HandleInfo} (result : (connection.next request world).result = .ok handle) :
    connection.Persists request world := by
  apply Persists.of_parts
  · intro error impossible
    rw [result] at impossible
    cases impossible
  · intro _
    exact ⟨handle, result⟩

theorem firstAttempt_cases (request : Option NodeRequest) :
    (request.isSome = true ∧ firstAttempt request = 0) ∨
      (request.isSome = false ∧ firstAttempt request = 1) := by
  cases request with
  | none => exact Or.inr ⟨rfl, rfl⟩
  | some named => exact Or.inl ⟨rfl, rfl⟩

theorem unhindered_of_ends {connection : NodeConnection} {request : Option NodeRequest}
    {world : World} {found : Nat} (low : firstAttempt request ≤ found)
    (high : found < connection.lastSelection)
    (missed : ∀ other, firstAttempt request ≤ other → other < found →
      connection.attemptOf request world other = .missed)
    (ends : (connection.attemptOf request world found).Ends) :
    connection.Unhindered request world := by
  rw [lastSelection] at high
  by_cases zero : connection.settings.maxDiscoverAttempts = 0
  · exact Or.inr (Or.inl zero)
  by_cases early : found + 1 < firstAttempt request + connection.settings.maxDiscoverAttempts
  · exact Or.inr (Or.inr (Or.inl ⟨found, low, early, ends, missed⟩))
  · refine Or.inr (Or.inr (Or.inr ⟨?_, ?_⟩))
    · intro other after before
      exact missed other after (by omega)
    · rcases firstAttempt_cases request with ⟨given, first⟩ | ⟨_, first⟩
      · exact Or.inl given
      · omega

theorem not_reachable {connection : NodeConnection} {request : Option NodeRequest} {world : World}
    {stop : Nat} (low : firstAttempt request ≤ stop)
    (missed : ∀ other, firstAttempt request ≤ other → other < stop →
      connection.attemptOf request world other = .missed)
    (lost : ∀ node serverInfo, connection.attemptOf request world stop ≠ .won node serverInfo)
    (final : connection.attemptOf request world stop = .panicked ∨
      firstAttempt request + connection.settings.maxDiscoverAttempts ≤ stop + 1) :
    ¬ connection.Reachable request world := by
  intro ⟨found, node, serverInfo, after, before, wins, failed⟩
  rcases Nat.lt_trichotomy found stop with earlier | same | later
  · rw [missed found after earlier] at wins
    cases wins
  · rw [same] at wins
    exact lost node serverInfo wins
  · rcases final with panics | ended
    · rcases failed stop low later with misses | ⟨status, refuses⟩
      · rw [panics] at misses
        cases misses
      · rw [panics] at refuses
        cases refuses
    · omega

theorem persists_refused {connection : NodeConnection} {request : Option NodeRequest}
    {world : World} {found : Nat} {status : Status}
    (uncached : ¬ connection.Cached request) (low : firstAttempt request ≤ found)
    (high : found < connection.lastSelection)
    (missed : ∀ other, firstAttempt request ≤ other → other < found →
      connection.attemptOf request world other = .missed)
    (refuses : connection.attemptOf request world found = .refused status)
    (result : (connection.next request world).result = .err (.grpc status))
    (counted : failures (connection.next request world).trace =
      failures [] + (found - firstAttempt request) + 1) :
    connection.Persists request world ↔ connection.Unhindered request world := by
  have none_spent : failures [] = 0 := rfl
  rw [none_spent] at counted
  rw [lastSelection] at high
  have lost : ∀ node serverInfo, connection.attemptOf request world found ≠ .won node serverInfo := by
    intro node serverInfo wins
    rw [refuses] at wins
    cases wins
  have persists : firstAttempt request + connection.settings.maxDiscoverAttempts ≤ found + 1 →
      connection.Persists request world := by
    intro enough
    apply Persists.of_parts
    · intro error _
      rw [counted]
      omega
    · intro reachable
      exact absurd reachable (not_reachable low missed lost (Or.inr enough))
  constructor
  · intro holds
    have enough := holds.exhausted _ result
    rw [counted] at enough
    rcases firstAttempt_cases request with ⟨given, first⟩ | ⟨_, first⟩
    · refine Or.inr (Or.inr (Or.inr ⟨?_, Or.inl given⟩))
      intro other after before
      exact missed other after (by omega)
    · exact Or.inr (Or.inl (by omega))
  · rintro (cached | zero | ⟨other, after, before, ends, earlier⟩ | ⟨allMissed, _⟩)
    · exact absurd cached uncached
    · apply Persists.of_parts
      · intro error _
        rw [zero]
        exact Nat.zero_le _
      · rintro ⟨other, _, _, after, before, _⟩
        omega
    · rcases Nat.lt_trichotomy other found with less | same | more
      · rw [missed other after less] at ends
        rcases ends with impossible | ⟨_, _, impossible⟩ <;> cases impossible
      · rw [same, refuses] at ends
        rcases ends with impossible | ⟨_, _, impossible⟩ <;> cases impossible
      · rw [earlier found low more] at refuses
        cases refuses
    · apply persists
      by_contra fewer
      rw [allMissed found low (by omega)] at refuses
      cases refuses

theorem persists_exhausted {connection : NodeConnection} {request : Option NodeRequest}
    {world : World} {node : Option Endpoint} {error : GrpcConnectionError}
    (uncached : ¬ connection.Cached request)
    (missed : ∀ other, firstAttempt request ≤ other → other < connection.lastSelection →
      connection.attemptOf request world other = .missed)
    (selected : connection.nodeOf request world connection.lastSelection = some node)
    (result : (connection.next request world).result = .err error)
    (counted : failures (connection.next request world).trace = failures [] +
      (connection.lastSelection - firstAttempt request) + if node = none then 1 else 0) :
    connection.Persists request world ↔ connection.Unhindered request world := by
  have none_spent : failures [] = 0 := rfl
  rw [none_spent] at counted
  have last : connection.lastSelection = max connection.settings.maxDiscoverAttempts 1 := rfl
  have first := firstAttempt_cases request
  constructor
  · intro holds
    have enough := holds.exhausted _ result
    rw [counted] at enough
    by_cases zero : connection.settings.maxDiscoverAttempts = 0
    · exact Or.inr (Or.inl zero)
    have same : connection.lastSelection = connection.settings.maxDiscoverAttempts := by omega
    refine Or.inr (Or.inr (Or.inr ⟨?_, ?_⟩))
    · intro other after before
      exact missed other after (by omega)
    · rcases first with ⟨given, _⟩ | ⟨_, first⟩
      · exact Or.inl given
      · refine Or.inr ?_
        intro other chosen
        rw [← same, selected] at chosen
        cases chosen
        simp only [reduceCtorEq, if_false] at enough
        omega
  · rintro (cached | zero | ⟨other, after, before, ends, _⟩ | ⟨_, given | unselected⟩)
    · exact absurd cached uncached
    · apply Persists.of_parts
      · intro error _
        rw [zero]
        exact Nat.zero_le _
      · intro ⟨other, _, _, after, before, _⟩
        omega
    · rw [missed other after (by omega)] at ends
      rcases ends with impossible | ⟨_, _, impossible⟩ <;> cases impossible
    · have zeroth : firstAttempt request = 0 := by
        rcases first with ⟨_, zeroth⟩ | ⟨absent, _⟩
        · exact zeroth
        · rw [given] at absent
          cases absent
      apply Persists.of_parts
      · intro error _
        rw [counted]
        omega
      · intro ⟨other, _, _, after, before, wins, _⟩
        rw [missed other after (by omega)] at wins
        cases wins
    · apply Persists.of_parts
      · intro error _
        by_cases zero : connection.settings.maxDiscoverAttempts = 0
        · rw [zero]
          exact Nat.zero_le _
        have same : connection.lastSelection = connection.settings.maxDiscoverAttempts := by omega
        rw [← same, selected] at unselected
        have empty : node = none := by
          cases node with
          | none => rfl
          | some node => exact absurd rfl (unselected node)
        rw [counted, if_pos empty]
        omega
      · intro ⟨other, endpoint, serverInfo, after, before, wins, _⟩
        by_cases early : other < connection.lastSelection
        · rw [missed other after early] at wins
          cases wins
        · have same : other = connection.settings.maxDiscoverAttempts := by omega
          rw [attemptOf, attempt] at wins
          split at wins
          · cases wins
          · cases wins
          · next chosen =>
              rw [same] at chosen
              exact absurd chosen (unselected _)

theorem persists_panicked {connection : NodeConnection} {request : Option NodeRequest}
    {world : World} {found : Nat} (low : firstAttempt request ≤ found)
    (high : found ≤ connection.lastSelection)
    (missed : ∀ other, firstAttempt request ≤ other → other < found →
      connection.attemptOf request world other = .missed)
    (panics : connection.attemptOf request world found = .panicked)
    (chosen : found = connection.lastSelection → connection.nodeOf request world found = none)
    (result : (connection.next request world).result = .panicked) :
    connection.Persists request world ∧ connection.Unhindered request world := by
  constructor
  · apply Persists.of_parts
    · intro error impossible
      rw [result] at impossible
      cases impossible
    · intro reachable
      refine absurd reachable (not_reachable low missed ?_ (Or.inl panics))
      intro node serverInfo wins
      rw [panics] at wins
      cases wins
  · rcases Nat.eq_or_lt_of_le high with last | early
    · by_cases zero : connection.settings.maxDiscoverAttempts = 0
      · exact Or.inr (Or.inl zero)
      have same : found = connection.settings.maxDiscoverAttempts := by
        rw [last, lastSelection]
        omega
      have first := firstAttempt_cases request
      refine Or.inr (Or.inr (Or.inr ⟨?_, Or.inr ?_⟩))
      · intro other after before
        exact missed other after (by omega)
      · intro node selected
        rw [← same, chosen last] at selected
        cases selected
    · exact unhindered_of_ends low early missed (Or.inl panics)

/-- Discovery takes an unreachable node like one that times out exactly when no refusal comes
before the last attempt and the last attempt is one that gets to a call. -/
theorem unreachable_node_costs_one_attempt_iff (connection : NodeConnection)
    (request : Option NodeRequest) (world : World) :
    connection.Persists request world ↔ connection.Unhindered request world := by
  by_cases cached : connection.Cached request
  · obtain ⟨handle, same⟩ := next_cached cached world
    exact iff_of_true (.of_ok (by rw [same])) (Or.inl cached)
  cases next_searches cached world with
  | won found node serverInfo low high missed wins result =>
      exact iff_of_true (.of_ok result)
        (unhindered_of_ends low high missed (Or.inr ⟨node, serverInfo, wins⟩))
  | refused found status low high missed refuses result counted =>
      exact persists_refused cached low high missed refuses result counted
  | exhausted node missed selected result counted =>
      exact persists_exhausted cached missed selected result counted
  | panicked found low high missed panics chosen result =>
      have both := persists_panicked low high missed panics chosen result
      exact iff_of_true both.1 both.2

def refusingOnce : World :=
  { World.steady .healthy 1 with
    features := fun index =>
      if index = 1 then .replied (.error (.new .unavailable "connection refused")) else .healthy }

theorem refused_node_ends_discovery :
    (solo localNode 3).Reachable none refusingOnce ∧
      (solo localNode 3).next none refusingOnce = ⟨solo localNode 3,
        .err (.grpc (.new .unavailable "connection refused")),
        [.selected (some localNode),
          .called localNode (.refused (.new .unavailable "connection refused"))]⟩ ∧
      (process ⟨solo localNode 3, none⟩ (.getChannel 0) refusingOnce).actor = none ∧
      ¬ (solo localNode 3).Persists none refusingOnce := by
  refine ⟨?_, rfl, rfl, ?_⟩
  · refine ⟨2, localNode, ⟨⟨1, 0, 0⟩, .nothing⟩, by decide, by decide, rfl, ?_⟩
    intro other low high
    have same : other = 1 := by
      simp only [firstAttempt, Option.isSome_none, Bool.false_eq_true, if_false] at low
      omega
    rw [same]
    exact Or.inr ⟨.new .unavailable "connection refused", rfl⟩
  · intro persists
    have enough : 3 ≤ 1 := persists.exhausted _ rfl
    omega

end TrogonEventStore.NodeConnection

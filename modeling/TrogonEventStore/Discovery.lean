import TrogonEventStore.ConnectionActor

/-! Discovery as a search through numbered attempts, and how many of them it makes. -/

namespace TrogonEventStore.NodeConnection

inductive Attempt where
  | missed
  | won (node : Endpoint) (serverInfo : ServerInfo)
  | refused (status : Status)
  | panicked
  deriving DecidableEq, Repr

section Attempts

variable (connection : NodeConnection) (failedEndpoint requested : Option Endpoint) (world : World)

def callAttempt (index : Nat) (node : Endpoint) : Attempt :=
  if !world.crates.uriParses (connection.settings.toHyperUri node) then .panicked
  else
    match (world.features index).contact with
    | .answered serverInfo => .won node serverInfo
    | .refused status => .refused status
    | .timedOut => .missed

/-- In cluster mode only the first selection sees the candidates left from before. -/
def candidatesAt (index : Nat) : Option (List Member) :=
  if connection.clusterMode.isSome ∧ 1 < index then none else connection.previousCandidates

/-- The node of an attempt: number 0 has the requested one, the others select theirs. -/
def nodeAt : Nat → Option (Option Endpoint)
  | 0 => some requested
  | index + 1 => connection.select failedEndpoint world
      ⟨index + 1, none, connection.candidatesAt (index + 1), []⟩

def attempt (index : Nat) : Attempt :=
  match connection.nodeAt failedEndpoint requested world index with
  | none => .panicked
  | some none => .missed
  | some (some node) => connection.callAttempt world index node

def lastSelection : Nat := max connection.settings.maxDiscoverAttempts 1

end Attempts

def isFailure : DiscoveryEvent → Bool
  | .selected none => true
  | .called _ (.refused _) => true
  | .called _ .timedOut => true
  | _ => false

def failures (trace : List DiscoveryEvent) : Nat := trace.countP isFailure

@[simp] theorem failures_append (first second : List DiscoveryEvent) :
    failures (first ++ second) = failures first + failures second :=
  List.countP_append

section Search

variable {connection : NodeConnection} {failedEndpoint requested : Option Endpoint} {world : World}

/-- How the search can end when attempt `index` is the next one. -/
inductive Searched (connection : NodeConnection) (failedEndpoint requested : Option Endpoint)
    (world : World) (index : Nat) (earlier : List DiscoveryEvent) (returned : Returned) : Prop where
  | won (found : Nat) (node : Endpoint) (serverInfo : ServerInfo) (low : index ≤ found)
      (high : found < connection.lastSelection)
      (missed : ∀ other, index ≤ other → other < found →
        connection.attempt failedEndpoint requested world other = .missed)
      (wins : connection.attempt failedEndpoint requested world found = .won node serverInfo)
      (result : returned.result = .ok (connection.newHandle world node serverInfo))
  | refused (found : Nat) (status : Status) (low : index ≤ found)
      (high : found < connection.lastSelection)
      (missed : ∀ other, index ≤ other → other < found →
        connection.attempt failedEndpoint requested world other = .missed)
      (refuses : connection.attempt failedEndpoint requested world found = .refused status)
      (result : returned.result = .err (.grpc status))
      (counted : failures returned.trace = failures earlier + (found - index) + 1)
  | panicked (found : Nat) (low : index ≤ found) (high : found ≤ connection.lastSelection)
      (missed : ∀ other, index ≤ other → other < found →
        connection.attempt failedEndpoint requested world other = .missed)
      (panics : connection.attempt failedEndpoint requested world found = .panicked)
      (chosen : found = connection.lastSelection →
        connection.nodeAt failedEndpoint requested world found = none)
      (result : returned.result = .panicked)
  | exhausted (node : Option Endpoint)
      (missed : ∀ other, index ≤ other → other < connection.lastSelection →
        connection.attempt failedEndpoint requested world other = .missed)
      (selected : connection.nodeAt failedEndpoint requested world connection.lastSelection =
        some node)
      (result : returned.result =
        .err (.maxDiscoveryAttemptReached connection.settings.maxDiscoverAttempts))
      (counted : failures returned.trace =
        failures earlier + (connection.lastSelection - index) + if node = none then 1 else 0)

theorem Searched.miss {index : Nat} {earlier later : List DiscoveryEvent} {returned : Returned}
    (misses : connection.attempt failedEndpoint requested world index = .missed)
    (below : index < connection.lastSelection) (counted : failures later = failures earlier + 1)
    (searched : Searched connection failedEndpoint requested world (index + 1) later returned) :
    Searched connection failedEndpoint requested world index earlier returned := by
  have extend : ∀ bound, (∀ other, index + 1 ≤ other → other < bound →
      connection.attempt failedEndpoint requested world other = .missed) →
      ∀ other, index ≤ other → other < bound →
        connection.attempt failedEndpoint requested world other = .missed := by
    intro bound missed other low high
    rcases Nat.eq_or_lt_of_le low with rfl | further
    · exact misses
    · exact missed other further high
  cases searched with
  | won found node serverInfo low high missed wins result =>
      exact .won found node serverInfo (by omega) high (extend found missed) wins result
  | refused found status low high missed refuses result total =>
      exact .refused found status (by omega) high (extend found missed) refuses result (by omega)
  | panicked found low high missed panics chosen result =>
      exact .panicked found (by omega) high (extend found missed) panics chosen result
  | exhausted node missed selected result total =>
      exact .exhausted node (extend _ missed) selected result (by omega)

theorem Searched.silent {index : Nat} {earlier later : List DiscoveryEvent} {returned : Returned}
    (counted : failures later = failures earlier)
    (searched : Searched connection failedEndpoint requested world index later returned) :
    Searched connection failedEndpoint requested world index earlier returned := by
  cases searched with
  | won found node serverInfo low high missed wins result =>
      exact .won found node serverInfo low high missed wins result
  | refused found status low high missed refuses result total =>
      exact .refused found status low high missed refuses result (by omega)
  | panicked found low high missed panics chosen result =>
      exact .panicked found low high missed panics chosen result
  | exhausted node missed selected result total =>
      exact .exhausted node missed selected result (by omega)

/-- The attempt the locals are at: a selected node belongs to the attempt counted before it. -/
def index (locals : Discovery) : Nat :=
  if locals.selectedNode.isSome then locals.attempts - 1 else locals.attempts

structure Tracks (connection : NodeConnection) (failedEndpoint requested : Option Endpoint)
    (world : World) (locals : Discovery) : Prop where
  started : 1 ≤ locals.attempts
  candidates : locals.previousCandidates = connection.candidatesAt locals.attempts
  chosen : ∀ node, locals.selectedNode = some node →
    connection.nodeAt failedEndpoint requested world (locals.attempts - 1) = some (some node)
  within : index locals + (if locals.selectedNode.isSome then 1 else 0) ≤ connection.lastSelection

theorem attempt_eq_call {index : Nat} {node : Endpoint}
    (chosen : connection.nodeAt failedEndpoint requested world index = some (some node)) :
    connection.attempt failedEndpoint requested world index =
      connection.callAttempt world index node := by
  simp only [attempt, chosen]

theorem nodeAt_select {locals : Discovery} (started : 1 ≤ locals.attempts)
    (candidates : locals.previousCandidates = connection.candidatesAt locals.attempts) :
    connection.nodeAt failedEndpoint requested world locals.attempts =
      connection.select failedEndpoint world locals := by
  obtain ⟨count, counted⟩ := Nat.exists_eq_add_of_le' started
  rw [counted, nodeAt, ← counted]
  simp only [select, candidates]

theorem searched_contact {locals : Discovery} {node : Endpoint} {returned : Returned}
    (tracks : Tracks connection failedEndpoint requested world locals)
    (waits : locals.selectedNode = some node)
    (turn : connection.contactTurn world locals node = .finished returned) :
    Searched connection failedEndpoint requested world (index locals) locals.trace returned := by
  have place : index locals = locals.attempts - 1 := by
    simp only [index, waits, Option.isSome_some, if_true]
  have below := tracks.within
  simp only [waits, Option.isSome_some, if_true] at below
  have called := attempt_eq_call (tracks.chosen node waits)
  rw [← place] at called
  have before : ∀ other, index locals ≤ other → other < index locals →
      connection.attempt failedEndpoint requested world other = .missed := by
    intro other low high
    omega
  unfold contactTurn leave at turn
  simp only [callAttempt] at called
  split at turn
  · next unparsable =>
      cases turn
      rw [if_pos unparsable] at called
      exact .panicked (index locals) (Nat.le_refl _) (by omega) before called (by omega) rfl
  · next parses =>
      rw [if_neg parses, place] at called
      split at turn
      · next serverInfo answers =>
          cases turn
          simp only [answers] at called
          rw [← place] at called
          exact .won (index locals) node serverInfo (Nat.le_refl _) (by omega) before called rfl
      · next status refuses =>
          cases turn
          simp only [refuses] at called
          rw [← place] at called
          refine .refused (index locals) status (Nat.le_refl _) (by omega) before called rfl ?_
          simp [failures, isFailure]
      · cases turn

theorem searched_select {locals : Discovery} {returned : Returned}
    (tracks : Tracks connection failedEndpoint requested world locals)
    (waits : locals.selectedNode = none)
    (turn : connection.selectTurn failedEndpoint world locals = .finished returned) :
    Searched connection failedEndpoint requested world (index locals) locals.trace returned := by
  have place : index locals = locals.attempts := by
    simp only [index, waits, Option.isSome_none, Bool.false_eq_true, if_false]
  have below := tracks.within
  simp only [waits, Option.isSome_none, Bool.false_eq_true, if_false] at below
  have chosen : connection.nodeAt failedEndpoint requested world locals.attempts = _ :=
    nodeAt_select tracks.started tracks.candidates
  have before : ∀ bound, bound ≤ index locals → ∀ other, index locals ≤ other → other < bound →
      connection.attempt failedEndpoint requested world other = .missed := by
    intro bound low other after high
    omega
  unfold selectTurn leave at turn
  split at turn
  · next panics =>
      cases turn
      rw [panics, ← place] at chosen
      have called : connection.attempt failedEndpoint requested world (index locals) =
          .panicked := by
        simp only [attempt, chosen]
      exact .panicked (index locals) (Nat.le_refl _) (by omega) (before _ (Nat.le_refl _)) called
        (fun _ => chosen) rfl
  · next node selected =>
      split at turn
      · cases turn
      · next ended =>
          cases turn
          have started := tracks.started
          have last : index locals = connection.lastSelection := by
            rw [lastSelection] at below ⊢
            omega
          rw [selected, ← place, last] at chosen
          refine .exhausted node (before _ (by omega)) chosen rfl ?_
          rw [last, Nat.sub_self]
          cases node <;> simp [NodeConnection.selected, failures, isFailure]

theorem callAttempt_again {locals next : Discovery} {node : Endpoint}
    (turn : connection.contactTurn world locals node = .again next) :
    connection.callAttempt world (locals.attempts - 1) node = .missed := by
  unfold contactTurn leave at turn
  rw [callAttempt]
  split at turn
  · cases turn
  · next parses =>
      rw [if_neg parses]
      cases contact : (world.features (locals.attempts - 1)).contact with
      | answered serverInfo => simp [contact] at turn
      | refused status => simp [contact] at turn
      | timedOut => rfl

theorem tracks_timeout {locals : Discovery} {node : Endpoint} {trace : List DiscoveryEvent}
    (tracks : Tracks connection failedEndpoint requested world locals)
    (waits : locals.selectedNode = some node) :
    Tracks connection failedEndpoint requested world
      { locals with selectedNode := none, trace := trace } := by
  have started := tracks.started
  have below := tracks.within
  simp only [index, waits, Option.isSome_some, if_true] at below
  refine ⟨started, tracks.candidates, ?_, ?_⟩
  · intro other impossible
    cases impossible
  · simp only [index, Option.isSome_none, Bool.false_eq_true, if_false]
    omega

theorem tracks_selected {locals : Discovery} {node : Option Endpoint}
    (tracks : Tracks connection failedEndpoint requested world locals)
    (selected : connection.select failedEndpoint world locals = some node)
    (allowed : locals.attempts + 1 ≤ connection.settings.maxDiscoverAttempts) :
    Tracks connection failedEndpoint requested world (connection.selected locals node) := by
  have started := tracks.started
  refine ⟨Nat.le_add_left _ _, ?_, ?_, ?_⟩
  · have further : 1 < locals.attempts + 1 := by omega
    simp only [NodeConnection.selected, candidatesAt, tracks.candidates, further, and_true]
    cases connection.clusterMode <;> simp
  · intro other same
    simp only [NodeConnection.selected] at same
    simp only [NodeConnection.selected, Nat.add_sub_cancel]
    rw [nodeAt_select started tracks.candidates, selected, same]
  · simp only [NodeConnection.selected, index, lastSelection]
    cases node with
    | none =>
        simp only [Option.isSome_none, Bool.false_eq_true, if_false]
        omega
    | some node =>
        simp only [Option.isSome_some, if_true]
        omega

theorem discovery_searches (locals : Discovery)
    (tracks : Tracks connection failedEndpoint requested world locals) :
    Searched connection failedEndpoint requested world (index locals) locals.trace
      ((connection.discovery failedEndpoint world).run locals) := by
  revert tracks
  apply (connection.discovery failedEndpoint world).run_rule
    (fun locals returned => Tracks connection failedEndpoint requested world locals →
      Searched connection failedEndpoint requested world (index locals) locals.trace returned)
  · intro locals returned turn tracks
    cases waits : locals.selectedNode with
    | some node =>
        rw [connection.discovery_calls waits] at turn
        exact searched_contact tracks waits turn
    | none =>
        rw [connection.discovery_selects waits] at turn
        exact searched_select tracks waits turn
  · intro locals next returned turn later tracks
    have started := tracks.started
    have within := tracks.within
    cases waits : locals.selectedNode with
    | some node =>
        rw [connection.discovery_calls waits] at turn
        have misses := attempt_eq_call (tracks.chosen node waits)
        rw [callAttempt_again turn] at misses
        have same := contactTurn_again turn
        subst same
        have place : index locals + 1 = locals.attempts := by
          simp only [index, waits, Option.isSome_some, if_true]
          omega
        simp only [waits, Option.isSome_some, if_true] at within
        have rest := later (tracks_timeout tracks waits)
        simp only [index, Option.isSome_none, Bool.false_eq_true, if_false] at rest
        rw [← place] at rest misses
        exact .miss misses within (by simp [failures, isFailure]) rest
    | none =>
        rw [connection.discovery_selects waits] at turn
        obtain ⟨allowed, node, chosen, rfl⟩ := selectTurn_again turn
        have rest := later (tracks_selected tracks chosen allowed)
        have place : index locals = locals.attempts := by
          simp only [index, waits, Option.isSome_none, Bool.false_eq_true, if_false]
        have found : connection.nodeAt failedEndpoint requested world locals.attempts = some node := by
          rw [nodeAt_select started tracks.candidates, chosen]
        cases node with
        | some node =>
            have same : index (connection.selected locals (some node)) = index locals := by
              rw [place]
              simp only [NodeConnection.selected, index, Option.isSome_some, if_true,
                Nat.add_sub_cancel]
            rw [same] at rest
            exact .silent (by simp [NodeConnection.selected, failures, isFailure]) rest
        | none =>
            have same : index (connection.selected locals none) = index locals + 1 := by
              simp only [NodeConnection.selected, index, Option.isSome_none, Bool.false_eq_true,
                if_false, waits]
            have misses : connection.attempt failedEndpoint requested world (index locals) =
                .missed := by
              simp only [attempt, place, found]
            rw [same] at rest
            refine .miss misses ?_ (by simp [NodeConnection.selected, failures, isFailure]) rest
            rw [place, lastSelection]
            omega

end Search

end TrogonEventStore.NodeConnection

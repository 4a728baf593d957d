import TrogonEventStore.SubscriptionRuns

namespace TrogonEventStore.Subscription

structure Surroundings where
  abandoned : Bool
  selectedNode : Option (Option (Except GrpcConnectionError Handle))
  read : ReadReq → MetadataMap → Option (Except Status Responses)
  sleep : Option Unit

/-- A stream that has ended answers at once, so that the call cannot be dropped meanwhile. -/
def Surroundings.tryNext (surroundings : Surroundings) (responses : Responses) :
    Option (Except Status (Option ReadResp × Responses)) :=
  if surroundings.abandoned ∧ ¬ responses.Finished then none
  else
    match responses.tryNext with
    | (.ok resp, rest) => some (.ok (resp, rest))
    | (.error status, _) => some (.error status)

def Surroundings.awaits (surroundings : Surroundings) : Awaits Responses where
  tryNext := surroundings.tryNext
  selectedNode := surroundings.selectedNode
  read := surroundings.read
  sleep := surroundings.sleep

inductive Turning where
  | call
  | turn (surroundings : Surroundings)

def Turning.label : Turning → Label Responses
  | .call => .call
  | .turn surroundings => .turn surroundings.awaits

def feedMachine (decoders : Decoders) : Machine (System Responses) Turning where
  step system turning := (machine decoders).step system turning.label

def Returns (turned : Turned Responses) : Prop := ∃ result, turned.outcome = .returned result

def Consumes (subscription : Subscription Responses) (turned : Turned Responses) : Prop :=
  ∃ held rest resp, subscription.stream = some held ∧ turned.subscription.stream = some rest ∧
    held = ⟨resp :: rest.pending, rest.ending⟩

def Requests (subscription : Subscription Responses) : Prop := subscription.stream = none

def Drops (subscription : Subscription Responses) (turned : Turned Responses) : Prop :=
  subscription.stream ≠ none ∧ turned.subscription.stream = none

/-- A turn that gets something done, and that does not leave a further turn where it was. -/
structure Progresses (subscription : Subscription Responses) (turned : Turned Responses) : Prop where
  advances : Returns turned ∨ Consumes subscription turned ∨ Requests subscription ∨
    Drops subscription turned
  changes : turned.outcome = .again → turned.subscription ≠ subscription

def AtCleanEnd (subscription : Subscription Responses) : Prop :=
  ∃ held, subscription.stream = some held ∧ held.Finished

theorem awaits_tryNext {surroundings : Surroundings} {held rest : Responses}
    {resp : Option ReadResp}
    (arrived : surroundings.awaits.tryNext held = some (.ok (resp, rest))) :
    held.tryNext = (.ok resp, rest) := by
  simp only [Surroundings.awaits, Surroundings.tryNext] at arrived
  split at arrived
  · cases arrived
  · split at arrived
    · next answered =>
        cases arrived
        exact answered
    · cases arrived

theorem turn_at_clean_end (decoders : Decoders) {subscription : Subscription Responses}
    {held : Responses} (holds : subscription.stream = some held) (finished : held.Finished)
    (surroundings : Surroundings) :
    subscription.turn decoders surroundings.awaits = ⟨subscription, .again, [], []⟩ := by
  have answered : surroundings.awaits.tryNext held = some (.ok (none, held)) := by
    simp [Surroundings.awaits, Surroundings.tryNext, finished, Feed.tryNext_finished finished]
  have same : { subscription with stream := some held } = subscription := by rw [← holds]
  simp only [turn, holds, answered, Option.bind_none, same]

theorem consumes_of_tryNext {subscription : Subscription Responses} {turned : Turned Responses}
    {held rest : Responses} {resp : ReadResp} (holds : subscription.stream = some held)
    (arrived : held.tryNext = (.ok (some resp), rest))
    (left : turned.subscription.stream = some rest) : Consumes subscription turned := by
  obtain ⟨taken, kept⟩ := Feed.pending_of_tryNext arrived
  refine ⟨held, rest, resp, holds, left, ?_⟩
  rw [← taken, ← kept]

theorem received_stream {decoders : Decoders} {subscription : Subscription Responses}
    {content : Content} {turned : Turned Responses}
    (received : Received decoders subscription content turned) :
    turned.subscription.stream = subscription.stream ∧ turned.outcome ≠ .again := by
  cases received with
  | appeared wire event options carried decoded tracked => exact ⟨rfl, by simp⟩
  | noted event other control => exact ⟨rfl, by simp⟩
  | panicked => exact ⟨rfl, by simp⟩

theorem consumes_changes {subscription : Subscription Responses} {turned : Turned Responses}
    (consumes : Consumes subscription turned) : turned.subscription ≠ subscription := by
  intro same
  obtain ⟨held, rest, resp, holds, left, split⟩ := consumes
  rw [same, holds] at left
  have lengths := congrArg (fun responses : Responses => responses.pending.length) split
  simp only [Option.some.inj left, List.length_cons] at lengths
  omega

theorem turn_progresses_iff (decoders : Decoders) (subscription : Subscription Responses)
    (surroundings : Surroundings) :
    Progresses subscription (subscription.turn decoders surroundings.awaits) ↔
      ¬ AtCleanEnd subscription := by
  constructor
  · intro progresses atEnd
    obtain ⟨held, holds, finished⟩ := atEnd
    have stays := turn_at_clean_end decoders holds finished surroundings
    rw [stays] at progresses
    exact progresses.changes rfl rfl
  · intro before
    have met := turn_met decoders subscription surroundings.awaits
    generalize subscription.turn decoders surroundings.awaits = turned at met
    cases met with
    | abandoned held holds =>
        have drops : subscription.stream ≠ none := by simp [holds]
        exact ⟨Or.inr (Or.inr (Or.inr ⟨drops, rfl⟩)), by simp⟩
    | dropped held status holds failed =>
        have drops : subscription.stream ≠ none := by simp [holds]
        refine ⟨Or.inr (Or.inr (Or.inr ⟨drops, rfl⟩)), ?_⟩
        intro _ same
        exact drops (congrArg Subscription.stream same).symm
    | received held rest resp content turned holds arrived carried result =>
        have answered := awaits_tryNext arrived
        obtain ⟨left, ends⟩ := received_stream result
        cases resp with
        | none => cases carried
        | some resp =>
            have consumes := consumes_of_tryNext holds answered left
            exact ⟨Or.inr (Or.inl consumes), fun again => absurd again ends⟩
    | ignored held rest resp holds arrived carried =>
        have answered := awaits_tryNext arrived
        cases resp with
        | none => exact absurd ⟨held, holds, Feed.finished_of_tryNext answered⟩ before
        | some resp =>
            have consumes : Consumes subscription
                ⟨{ subscription with stream := some rest }, .again, [], []⟩ :=
              consumes_of_tryNext holds answered rfl
            exact ⟨Or.inr (Or.inl consumes), fun _ => consumes_changes consumes⟩
    | unanswered missing pending => exact ⟨Or.inr (Or.inr (Or.inl missing)), by simp⟩
    | unread handle missing found pending => exact ⟨Or.inr (Or.inr (Or.inl missing)), by simp⟩
    | lookupFailed error missing failed => exact ⟨Or.inl ⟨_, rfl⟩, by simp⟩
    | established handle responses missing found accepted =>
        refine ⟨Or.inr (Or.inr (Or.inl missing)), ?_⟩
        intro _ same
        have unchanged := congrArg Subscription.stream same
        simp [missing] at unchanged
    | retried handle status outcome missing found refused retries goes =>
        refine ⟨Or.inr (Or.inr (Or.inl missing)), ?_⟩
        intro _ same
        have unchanged := congrArg Subscription.attempts same
        simp at unchanged
    | exhausted handle status missing found refused ends => exact ⟨Or.inl ⟨_, rfl⟩, by simp⟩

def TurnProgresses (decoders : Decoders) (system : System Responses) : Turning → Prop
  | .call => True
  | .turn surroundings => system.phase = .calling →
      Progresses system.subscription (system.subscription.turn decoders surroundings.awaits)

def TurnBeforeEnd (system : System Responses) : Turning → Prop
  | .call => True
  | .turn _ => system.phase = .calling → ¬ AtCleanEnd system.subscription

/-- In any run every turn of the loop makes progress, exactly when none is taken at the clean
end of a stream. -/
theorem next_subscription_event_progresses_iff (decoders : Decoders) (system : System Responses)
    (turnings : List Turning) :
    (feedMachine decoders).Guarded (TurnProgresses decoders) system turnings ↔
      (feedMachine decoders).Guarded TurnBeforeEnd system turnings := by
  apply Machine.guarded_congr
  intro system turning
  cases turning with
  | call => exact Iff.rfl
  | turn surroundings =>
      have exactly := turn_progresses_iff decoders system.subscription surroundings
      exact imp_congr_right fun _ => exactly

theorem feedMachine_turn (decoders : Decoders) {system : System Responses}
    (calling : system.phase = .calling) (surroundings : Surroundings) :
    (feedMachine decoders).step system (.turn surroundings) =
      some (system.after (system.subscription.turn decoders surroundings.awaits)) :=
  turn_enabled decoders calling surroundings.awaits

/-- From the clean end of a stream on, the call neither returns nor subscribes again. -/
theorem clean_end_spins (decoders : Decoders) {system : System Responses}
    (calling : system.phase = .calling) (atEnd : AtCleanEnd system.subscription)
    (turns : List Surroundings) :
    (feedMachine decoders).run system (turns.map .turn) = some system := by
  obtain ⟨held, holds, finished⟩ := atEnd
  apply Machine.run_fixed
  intro turning member
  obtain ⟨surroundings, _, rfl⟩ := List.mem_map.mp member
  have stays := turn_at_clean_end decoders holds finished surroundings
  have same : system.after ⟨system.subscription, .again, [], []⟩ = system := by
    obtain ⟨subscription, phase, history⟩ := system
    simp only at calling
    simp [System.after, Outcome.phase, Outcome.events, calling]
  rw [feedMachine_turn decoders calling, stays, same]

structure Silent (responses : Responses) : Prop where
  unknown : ∀ resp ∈ responses.pending, resp.content = none
  clean : responses.ending = none

theorem silent_stream_is_read_out (decoders : Decoders) {responses : Responses}
    (silent : Silent responses) {system : System Responses} (calling : system.phase = .calling)
    (holds : system.subscription.stream = some responses) {turns : List Surroundings}
    (kept : ∀ surroundings ∈ turns, surroundings.abandoned = false)
    (enough : turns.length = responses.pending.length) :
    ∃ last, (feedMachine decoders).run system (turns.map .turn) = some last ∧
      last.phase = .calling ∧ AtCleanEnd last.subscription := by
  obtain ⟨pending, ending⟩ := responses
  obtain ⟨unknown, clean⟩ := silent
  simp only at unknown clean enough
  subst clean
  induction pending generalizing system turns with
  | nil =>
      have used : turns = [] := List.eq_nil_of_length_eq_zero enough
      subst used
      exact ⟨system, rfl, calling, ⟨_, holds, rfl, rfl⟩⟩
  | cons resp pending ih =>
      cases turns with
      | nil => cases enough
      | cons surroundings turns =>
          have empty := unknown resp List.mem_cons_self
          have waits := kept surroundings List.mem_cons_self
          have answered : surroundings.awaits.tryNext ⟨resp :: pending, none⟩ =
              some (.ok (some resp, ⟨pending, none⟩)) := by
            simp [Surroundings.awaits, Surroundings.tryNext, waits]
          have turned : system.subscription.turn decoders surroundings.awaits =
              ⟨{ system.subscription with stream := some ⟨pending, none⟩ }, .again, [], []⟩ := by
            simp only [turn, holds, answered, Option.bind_some, empty]
          rw [List.map_cons, Machine.run_cons, feedMachine_turn decoders calling, turned,
            Option.bind_some]
          apply ih
          · rfl
          · exact fun other member => kept other (List.mem_cons_of_mem _ member)
          · exact Nat.succ.inj enough
          · exact fun other member => unknown other (List.mem_cons_of_mem _ member)
          · rfl

def FailsLater (subscription : Subscription Responses) : Prop :=
  ∀ held, subscription.stream = some held → held.ending ≠ none

def StreamsFail : Turning → Prop
  | .call => True
  | .turn surroundings => ∀ req metadata responses,
      surroundings.read req metadata = some (.ok responses) → responses.ending ≠ none

theorem turn_failsLater {decoders : Decoders} {subscription : Subscription Responses}
    {surroundings : Surroundings} (failsLater : FailsLater subscription)
    (fails : StreamsFail (.turn surroundings)) :
    FailsLater (subscription.turn decoders surroundings.awaits).subscription := by
  have met := turn_met decoders subscription surroundings.awaits
  generalize subscription.turn decoders surroundings.awaits = turned at met
  intro left present
  have shortened : ∀ {held rest : Responses} {resp : Option ReadResp},
      subscription.stream = some held →
      surroundings.awaits.tryNext held = some (.ok (resp, rest)) → rest.ending ≠ none := by
    intro held rest resp holds arrived
    have answered := awaits_tryNext arrived
    cases resp with
    | none =>
        have finished := Feed.finished_of_tryNext answered
        exact absurd finished.2 (failsLater held holds)
    | some resp =>
        rw [← (Feed.pending_of_tryNext answered).2]
        exact failsLater held holds
  cases met with
  | abandoned held holds => cases present
  | dropped held status holds failed => cases present
  | received held rest resp content turned holds arrived carried result =>
      rw [(received_stream result).1] at present
      cases present
      exact shortened holds arrived
  | ignored held rest resp holds arrived carried =>
      cases present
      exact shortened holds arrived
  | unanswered missing pending => exact failsLater left present
  | unread handle missing found pending => exact failsLater left present
  | lookupFailed error missing failed => exact failsLater left present
  | established handle responses missing found accepted =>
      cases present
      exact fails _ _ _ accepted
  | retried handle status outcome missing found refused retries goes =>
      exact failsLater left present
  | exhausted handle status missing found refused ends => exact failsLater left present

theorem failing_streams_progress (decoders : Decoders) {system : System Responses}
    {turnings : List Turning} (failsLater : FailsLater system.subscription)
    (fails : ∀ turning ∈ turnings, StreamsFail turning) :
    (feedMachine decoders).Guarded (TurnProgresses decoders) system turnings := by
  induction turnings generalizing system with
  | nil => trivial
  | cons turning turnings ih =>
      have later := fun other member => fails other (List.mem_cons_of_mem turning member)
      have now := fails turning List.mem_cons_self
      cases turning with
      | call =>
          refine ⟨trivial, fun next stepped => ih ?_ later⟩
          obtain ⟨_, rfl⟩ := call_cases stepped
          exact failsLater
      | turn surroundings =>
          constructor
          · intro _
            apply (turn_progresses_iff decoders system.subscription surroundings).mpr
            intro atEnd
            obtain ⟨held, holds, finished⟩ := atEnd
            exact failsLater held holds finished.2
          · intro next stepped
            obtain ⟨_, rfl⟩ := turn_cases stepped
            exact ih (turn_failsLater failsLater now) later

def closedByServer : System Responses where
  subscription := {
    channelId := Uuid.nil
    stream := some ⟨[], none⟩
    attempts := 1
    limit := 1
    retryEnabled := false
    delay := 0
    options := ⟨0, false, none, none, none, none, none⟩
    metadata := [] }
  phase := .calling
  history := []

def unreachable : Surroundings := ⟨false, some none, fun _ _ => none, some ()⟩

/-- The turn after a clean end of the stream gets nothing done. -/
theorem clean_end_makes_no_progress :
    ¬ ∀ (decoders : Decoders) (system : System Responses) (turnings : List Turning),
      (feedMachine decoders).Guarded (TurnProgresses decoders) system turnings := by
  intro always
  have progresses := (always .blank closedByServer [.turn unreachable]).1 rfl
  exact progresses.changes rfl rfl

end TrogonEventStore.Subscription

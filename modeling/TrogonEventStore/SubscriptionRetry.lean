import TrogonEventStore.Library.Chronicle
import TrogonEventStore.SubscriptionRuns

namespace TrogonEventStore.Subscription

variable {Stream : Type}

def Event.failure : Event → Option Error
  | .dropped error => some error
  | .lookupFailed error => some error
  | .readFailed error => some error
  | _ => none

def Event.attempted (failed : Nat) : Event → Nat
  | .lookupFailed _ => failed + 1
  | .readFailed _ => failed + 1
  | .established => 0
  | .dropped _ => 0
  | _ => failed

def failures (history : List Event) : Nat := history.foldl Event.attempted 0

def attemptLimit (retry : Option RetryOptions) : Nat := (retry.map RetryOptions.limit).getD 1

/-- With retry options, an error is returned when access is denied or the limit is reached. -/
def Justified (retry : Option RetryOptions) (before : List Event) (event : Event) : Prop :=
  ∀ options error, retry = some options → event = .returned (.error error) →
    error = .accessDenied ∨ options.limit ≤ failures before

/-- The failures that end the call at once: a denied access, and any without retry options. -/
def obliged (retry : Option RetryOptions) (event : Event) : Option Event :=
  match event.failure with
  | some error =>
      if error = .accessDenied ∨ retry = none then some (.returned (.error error)) else none
  | none => none

structure RetryContract (retry : Option RetryOptions) (system : System Stream) : Prop where
  justified : Chronicle (Justified retry) system.history
  prompt : Followed (obliged retry) system.history
  bounded : system.subscription.attempts ≤ max (attemptLimit retry) 1

/-- The call ends on the attempt of this turn, by a failed lookup or by a refused read that finds
`attempts` at the limit. -/
inductive GivesUp (limit : Nat) (subscription : Subscription Stream) (awaits : Awaits Stream) :
    Prop where
  | lookup (error : Error) (failed : awaits.LookupFails error)
  | read (handle : Handle) (status : Status) (found : awaits.Finds handle)
      (refused : awaits.Refuses subscription status)
      (granted : (Error.fromGrpc status).isAccessDenied = false)
      (reached : limit ≤ subscription.attempts)

def GivesUpInTime (retry : Option RetryOptions) (system : System Stream) : Label Stream → Prop
  | .call => True
  | .turn awaits => ∀ options, retry = some options → system.phase = .calling →
      system.subscription.stream = none → GivesUp options.limit system.subscription awaits →
      options.limit ≤ failures system.history + 1

structure Invariant (retry : Option RetryOptions) (system : System Stream) : Prop where
  limit : system.subscription.limit = attemptLimit retry
  retryEnabled : system.subscription.retryEnabled = retry.isSome
  positive : 1 ≤ system.subscription.attempts
  bounded : system.subscription.attempts ≤ max (attemptLimit retry) 1
  prompt : Followed (obliged retry) system.history

theorem failures_append (history : List Event) (event : Event) :
    failures (history ++ [event]) = event.attempted (failures history) := by
  simp [failures]

theorem isAccessDenied_iff (error : Error) : error.isAccessDenied = true ↔ error = .accessDenied := by
  cases error <;> simp [Error.isAccessDenied]

theorem lookup_not_denied {awaits : Awaits Stream} {error : Error}
    (failed : awaits.LookupFails error) : error ≠ .accessDenied := by
  obtain ⟨reply, _, result⟩ := failed
  intro denied
  subst denied
  unfold Connection.currentSelectedNode at result
  split at result <;> simp at result

theorem lookup_fails_or_finds {awaits : Awaits Stream} {error : Error} {handle : Handle}
    (failed : awaits.LookupFails error) (found : awaits.Finds handle) : False := by
  obtain ⟨reply, replied, failed⟩ := failed
  obtain ⟨other, answered, found⟩ := found
  simp_all

theorem GivesUp.refused {limit : Nat} {subscription : Subscription Stream} {awaits : Awaits Stream}
    {handle : Handle} (gives : GivesUp limit subscription awaits) (found : awaits.Finds handle) :
    ∃ status, awaits.Refuses subscription status ∧
      (Error.fromGrpc status).isAccessDenied = false ∧ limit ≤ subscription.attempts := by
  cases gives with
  | lookup error failed => exact absurd found (lookup_fails_or_finds failed)
  | read other status _ refused granted reached => exact ⟨status, refused, granted, reached⟩

theorem justified_quiet {retry : Option RetryOptions} {history added : List Event}
    (justified : Chronicle (Justified retry) history)
    (quiet : ∀ event ∈ added, ∀ error, event ≠ .returned (.error error)) :
    Chronicle (Justified retry) (history ++ added) := by
  induction added generalizing history with
  | nil =>
      rw [List.append_nil]
      exact justified
  | cons event added ih =>
      have silent : Justified retry history event := by
        intro options error _ returns
        exact absurd returns (quiet event List.mem_cons_self error)
      have extended := ih (justified.extend silent)
        (fun other member => quiet other (List.mem_cons_of_mem event member))
      simpa only [List.append_assoc, List.singleton_append] using extended

theorem justified_failure {retry : Option RetryOptions} {history : List Event} {event : Event}
    {error : Error} (justified : Chronicle (Justified retry) history)
    (failed : event.failure = some error) :
    Chronicle (Justified retry) (history ++ [event, .returned (.error error)]) ↔
      ∀ options, retry = some options →
        error = .accessDenied ∨ options.limit ≤ failures (history ++ [event]) := by
  have split : history ++ [event, .returned (.error error)] =
      history ++ [event] ++ [.returned (.error error)] := by
    rw [List.append_assoc, List.singleton_append]
  constructor
  · intro chronicle options retries
    exact chronicle (history ++ [event]) (.returned (.error error)) [] split options error retries rfl
  · intro allowed
    rw [split]
    apply Chronicle.extend
    · apply justified_quiet justified
      intro other member result same
      rw [List.mem_singleton.mp member] at same
      rw [same] at failed
      cases failed
    · intro options other retries same
      cases same
      exact allowed options retries

theorem followed_quiet (retry : Option RetryOptions) {event : Event}
    (quiet : event.failure = none) : Followed (obliged retry) [event] := by
  apply Followed.free
  simp only [obliged, quiet]

theorem followed_failure (retry : Option RetryOptions) {event : Event} {error : Error}
    (failed : event.failure = some error) :
    Followed (obliged retry) [event, .returned (.error error)] := by
  apply Followed.kept _ rfl
  intro other owes
  simp only [obliged, failed] at owes
  split at owes
  · exact Option.some.inj owes
  · cases owes

theorem followed_retried {retry : Option RetryOptions} {event : Event} {error : Error}
    (failed : event.failure = some error) (granted : error ≠ .accessDenied)
    (retries : retry ≠ none) : Followed (obliged retry) [event] := by
  apply Followed.free
  simp [obliged, failed, granted, retries]

theorem Invariant.extend {retry : Option RetryOptions} {system : System Stream}
    (invariant : Invariant retry system) {subscription : Subscription Stream} (phase : Phase)
    {added : List Event} (limit : subscription.limit = system.subscription.limit)
    (retryEnabled : subscription.retryEnabled = system.subscription.retryEnabled)
    (positive : 1 ≤ subscription.attempts)
    (bounded : subscription.attempts ≤ max (attemptLimit retry) 1)
    (followed : Followed (obliged retry) added) :
    Invariant retry ⟨subscription, phase, system.history ++ added⟩ where
  limit := limit.trans invariant.limit
  retryEnabled := retryEnabled.trans invariant.retryEnabled
  positive := positive
  bounded := bounded
  prompt := invariant.prompt.append followed

theorem followed_outcome (retry : Option RetryOptions) (outcome : Outcome) :
    Followed (obliged retry) outcome.events := by
  cases outcome with
  | again => exact Followed.empty
  | returned result => exact followed_quiet retry rfl
  | cancelled => exact followed_quiet retry rfl
  | panicked => exact followed_quiet retry rfl

theorem drop_cases (subscription : Subscription Stream) (error : Error) :
    (outcomeOfDrop subscription error = .returned (.error error) ∧
        (error = .accessDenied ∨ subscription.retryEnabled = false)) ∨
      (outcomeOfDrop subscription error = .again ∧ error ≠ .accessDenied ∧
        subscription.retryEnabled = true) := by
  simp only [outcomeOfDrop, isAccessDenied_iff]
  by_cases ends : error = .accessDenied ∨ ¬ subscription.retryEnabled = true
  · rw [if_pos ends]
    exact Or.inl ⟨rfl, by simpa using ends⟩
  · rw [if_neg ends]
    simp only [not_or, not_not] at ends
    exact Or.inr ⟨rfl, ends⟩

theorem Invariant.limit_of {retry : Option RetryOptions} {system : System Stream}
    {options : RetryOptions} (invariant : Invariant retry system)
    (retries : retry = some options) : system.subscription.limit = options.limit := by
  have limit := invariant.limit
  simpa only [attemptLimit, retries, Option.map_some, Option.getD_some] using limit

theorem Invariant.retries {retry : Option RetryOptions} {system : System Stream}
    (invariant : Invariant retry system) (enabled : system.subscription.retryEnabled = true) :
    retry ≠ none := by
  intro absent
  have disabled := invariant.retryEnabled
  simp [absent, enabled] at disabled

theorem Invariant.retries_of_attempts {retry : Option RetryOptions} {system : System Stream}
    (invariant : Invariant retry system)
    (room : system.subscription.attempts < system.subscription.limit) : retry ≠ none := by
  intro absent
  have limit := invariant.limit
  have positive := invariant.positive
  have single : attemptLimit none = 1 := rfl
  rw [absent, single] at limit
  omega

theorem turn_invariant {decoders : Decoders} {retry : Option RetryOptions} {system : System Stream}
    (invariant : Invariant retry system) (awaits : Awaits Stream) :
    Invariant retry (system.after (system.subscription.turn decoders awaits)) := by
  have met := turn_met decoders system.subscription awaits
  generalize system.subscription.turn decoders awaits = turned at met ⊢
  cases met with
  | abandoned stream held =>
      exact invariant.extend _ rfl rfl invariant.positive invariant.bounded
        (followed_outcome retry .cancelled)
  | dropped stream status held failed =>
      have followed : Followed (obliged retry) (.dropped (Error.fromGrpc status) ::
          (outcomeOfDrop system.subscription (Error.fromGrpc status)).events) := by
        rcases drop_cases system.subscription (Error.fromGrpc status) with
          ⟨ends, _⟩ | ⟨goes, granted, enabled⟩
        · rw [ends]
          exact followed_failure retry rfl
        · rw [goes]
          exact followed_retried rfl granted (invariant.retries enabled)
      exact invariant.extend _ rfl rfl (Nat.le_refl 1) (Nat.le_max_right _ 1) followed
  | received stream next resp content turned held arrived carried result =>
      cases result with
      | appeared wire event options carried decoded tracked =>
          exact invariant.extend _ rfl rfl invariant.positive invariant.bounded
            (followed_outcome retry (.returned (.ok (.eventAppeared event))))
      | noted event other control =>
          exact invariant.extend _ rfl rfl invariant.positive invariant.bounded
            (followed_outcome retry (.returned (.ok event)))
      | panicked =>
          exact invariant.extend _ rfl rfl invariant.positive invariant.bounded
            (followed_outcome retry .panicked)
  | ignored stream next resp held arrived carried =>
      exact invariant.extend _ rfl rfl invariant.positive invariant.bounded Followed.empty
  | unanswered missing pending =>
      exact invariant.extend _ rfl rfl invariant.positive invariant.bounded
        (followed_outcome retry .cancelled)
  | unread handle missing found pending =>
      exact invariant.extend _ rfl rfl invariant.positive invariant.bounded
        (followed_outcome retry .cancelled)
  | lookupFailed error missing failed =>
      exact invariant.extend _ rfl rfl invariant.positive invariant.bounded
        (followed_failure retry rfl)
  | established handle stream missing found accepted =>
      exact invariant.extend _ rfl rfl invariant.positive invariant.bounded
        (followed_quiet retry rfl)
  | retried handle status outcome missing found refused retries goes =>
      have granted : Error.fromGrpc status ≠ .accessDenied := by
        rw [ne_eq, ← isAccessDenied_iff]
        exact retries.1
      have followed : Followed (obliged retry) ([.readFailed (Error.fromGrpc status)] ++
          outcome.events) :=
        (followed_retried rfl granted (invariant.retries_of_attempts retries.2)).append
          (followed_outcome retry outcome)
      have room : system.subscription.attempts + 1 ≤ max (attemptLimit retry) 1 := by
        have limit := invariant.limit
        have room := retries.2
        omega
      exact invariant.extend _ rfl rfl (Nat.le_add_left 1 _) room followed
  | exhausted handle status missing found refused ends =>
      exact invariant.extend _ rfl rfl invariant.positive invariant.bounded
        (followed_failure retry rfl)

theorem lookup_justified {retry : Option RetryOptions} {system : System Stream}
    {awaits : Awaits Stream} {error : Error}
    (justified : Chronicle (Justified retry) system.history) (calling : system.phase = .calling)
    (missing : system.subscription.stream = none) (failed : awaits.LookupFails error) :
    Chronicle (Justified retry)
        (system.history ++ [.lookupFailed error, .returned (.error error)]) ↔
      GivesUpInTime retry system (.turn awaits) := by
  have counted := failures_append system.history (.lookupFailed error)
  rw [justified_failure justified rfl, counted, Event.attempted]
  constructor
  · intro allowed options retries _ _ _
    rcases allowed options retries with denied | reached
    · exact absurd denied (lookup_not_denied failed)
    · exact reached
  · intro inTime options retries
    exact Or.inr (inTime options retries calling missing (.lookup error failed))

theorem read_justified {retry : Option RetryOptions} {system : System Stream}
    {awaits : Awaits Stream} {handle : Handle} {status : Status} (invariant : Invariant retry system)
    (justified : Chronicle (Justified retry) system.history) (calling : system.phase = .calling)
    (missing : system.subscription.stream = none) (found : awaits.Finds handle)
    (refused : awaits.Refuses system.subscription status)
    (ends : ¬ system.subscription.Retries (Error.fromGrpc status)) :
    Chronicle (Justified retry) (system.history ++
        [.readFailed (Error.fromGrpc status), .returned (.error (Error.fromGrpc status))]) ↔
      GivesUpInTime retry system (.turn awaits) := by
  have counted := failures_append system.history (.readFailed (Error.fromGrpc status))
  rw [justified_failure justified rfl, counted, Event.attempted]
  constructor
  · intro allowed options retries _ _ gives
    obtain ⟨again, repeated, granted, _⟩ := gives.refused found
    have same : again = status := by
      simpa using repeated.symm.trans refused
    rcases allowed options retries with denied | reached
    · rw [same, ← Bool.not_eq_true, isAccessDenied_iff] at granted
      exact absurd denied granted
    · exact reached
  · intro inTime options retries
    by_cases denied : Error.fromGrpc status = .accessDenied
    · exact Or.inl denied
    · have granted : (Error.fromGrpc status).isAccessDenied = false := by
        rw [← Bool.not_eq_true, isAccessDenied_iff]
        exact denied
      have limit := invariant.limit_of retries
      have reached : options.limit ≤ system.subscription.attempts := by
        simp only [Retries, granted, Bool.false_eq_true, not_false_eq_true, true_and,
          Nat.not_lt] at ends
        omega
      exact Or.inr (inTime options retries calling missing
        (.read handle status found refused granted reached))

/-- The errors stay justified exactly when the turn does not give up too early. -/
theorem turn_justified {decoders : Decoders} {retry : Option RetryOptions} {system : System Stream}
    (invariant : Invariant retry system) (justified : Chronicle (Justified retry) system.history)
    (calling : system.phase = .calling) (awaits : Awaits Stream) :
    Chronicle (Justified retry)
        (system.after (system.subscription.turn decoders awaits)).history ↔
      GivesUpInTime retry system (.turn awaits) := by
  have quiet : ∀ added : List Event, (∀ event ∈ added, ∀ error, event ≠ .returned (.error error)) →
      GivesUpInTime retry system (.turn awaits) →
      (Chronicle (Justified retry) (system.history ++ added) ↔
        GivesUpInTime retry system (.turn awaits)) := by
    intro added silent inTime
    exact ⟨fun _ => inTime, fun _ => justified_quiet justified silent⟩
  have streaming : ∀ stream, system.subscription.stream = some stream →
      GivesUpInTime retry system (.turn awaits) := by
    intro stream held options _ _ missing
    rw [held] at missing
    cases missing
  have met := turn_met decoders system.subscription awaits
  generalize system.subscription.turn decoders awaits = turned at met ⊢
  cases met with
  | abandoned stream held => exact quiet _ (by simp [Outcome.events]) (streaming stream held)
  | dropped stream status held failed =>
      rcases drop_cases system.subscription (Error.fromGrpc status) with
        ⟨ends, denied⟩ | ⟨goes, granted, enabled⟩
      · refine ⟨fun _ => streaming stream held, fun _ => ?_⟩
        simp only [System.after, ends, Outcome.events, List.singleton_append]
        apply (justified_failure justified rfl).mpr
        intro options retries
        have enabled := invariant.retryEnabled
        rw [retries, Option.isSome_some] at enabled
        simp only [enabled, Bool.true_eq_false, or_false] at denied
        exact Or.inl denied
      · simp only [System.after, goes]
        exact quiet _ (by simp [Outcome.events]) (streaming stream held)
  | received stream next resp content turned held arrived carried result =>
      cases result with
      | appeared wire event options carried decoded tracked =>
          exact quiet _ (by simp [Outcome.events]) (streaming stream held)
      | noted event other control => exact quiet _ (by simp [Outcome.events]) (streaming stream held)
      | panicked => exact quiet _ (by simp [Outcome.events]) (streaming stream held)
  | ignored stream next resp held arrived carried =>
      exact quiet _ (by simp [Outcome.events]) (streaming stream held)
  | unanswered missing pending =>
      apply quiet _ (by simp [Outcome.events])
      intro options _ _ _ gives
      cases gives with
      | lookup error failed =>
          obtain ⟨reply, replied, _⟩ := failed
          simp [pending] at replied
      | read handle status found =>
          obtain ⟨reply, replied, _⟩ := found
          simp [pending] at replied
  | unread handle missing found pending =>
      apply quiet _ (by simp [Outcome.events])
      intro options _ _ _ gives
      obtain ⟨status, refused, _⟩ := gives.refused found
      simp [Awaits.Refuses, pending] at refused
  | lookupFailed error missing failed =>
      exact lookup_justified justified calling missing failed
  | established handle stream missing found accepted =>
      apply quiet _ (by simp [Outcome.events])
      intro options _ _ _ gives
      obtain ⟨status, refused, _⟩ := gives.refused found
      simp [Awaits.Refuses, accepted] at refused
  | retried handle status outcome missing found refused retries goes =>
      have silent : ∀ event ∈ outcome.events, ∀ error, event ≠ .returned (.error error) := by
        rcases goes with rfl | rfl <;> simp [Outcome.events]
      apply quiet _ (by simpa using silent)
      intro options enabled _ _ gives
      obtain ⟨_, _, _, reached⟩ := gives.refused found
      have limit := invariant.limit_of enabled
      have room := retries.2
      omega
  | exhausted handle status missing found refused ends =>
      exact read_justified invariant justified calling missing found refused ends

theorem step_invariant {decoders : Decoders} {retry : Option RetryOptions}
    {system next : System Stream} {label : Label Stream} (invariant : Invariant retry system)
    (stepped : (machine decoders).step system label = some next) : Invariant retry next := by
  cases label with
  | call =>
      obtain ⟨_, rfl⟩ := call_cases stepped
      exact invariant.extend .calling rfl rfl invariant.positive invariant.bounded
        (followed_quiet retry rfl)
  | turn awaits =>
      obtain ⟨_, rfl⟩ := turn_cases stepped
      exact turn_invariant invariant awaits

theorem step_contract_iff {decoders : Decoders} {retry : Option RetryOptions}
    {system next : System Stream} {label : Label Stream} (invariant : Invariant retry system)
    (contract : RetryContract retry system)
    (stepped : (machine decoders).step system label = some next) :
    RetryContract retry next ↔ GivesUpInTime retry system label := by
  have kept := step_invariant invariant stepped
  have judged : RetryContract retry next ↔ Chronicle (Justified retry) next.history :=
    ⟨fun contract => contract.justified, fun justified => ⟨justified, kept.prompt, kept.bounded⟩⟩
  rw [judged]
  cases label with
  | call =>
      obtain ⟨_, rfl⟩ := call_cases stepped
      exact ⟨fun _ => trivial, fun _ => justified_quiet contract.justified (by simp)⟩
  | turn awaits =>
      obtain ⟨calling, rfl⟩ := turn_cases stepped
      exact turn_justified invariant contract.justified calling awaits

/-- Whatever the awaits come to, a subscription returns no error before its limit of failed
attempts is reached, unless access is denied, exactly as long as no turn gives up on a node lookup,
or on attempts counted before a stream was established, while more attempts are allowed. -/
theorem retry_contract_iff (decoders : Decoders) (retry : Option RetryOptions)
    (metadata : MetadataMap) (options : ReadReq.Options) (labels : List (Label Stream)) :
    (machine decoders).Always (RetryContract retry) (.start (.new retry metadata options)) labels ↔
      (machine decoders).Guarded (GivesUpInTime retry) (.start (.new retry metadata options))
        labels := by
  have bounded : 1 ≤ max (attemptLimit retry) 1 := Nat.le_max_right _ 1
  apply (machine decoders).always_iff_guarded (GivesUpInTime retry) (Invariant retry)
    (RetryContract retry)
  · intro system label next invariant _ stepped
    exact step_invariant invariant stepped
  · intro system label next invariant contract stepped
    exact step_contract_iff invariant contract stepped
  · intro system label disabled
    cases label with
    | call => trivial
    | turn awaits =>
        intro _ _ calling
        rw [turn_enabled decoders calling] at disabled
        cases disabled
  · cases retry with
    | none => exact ⟨rfl, rfl, Nat.le_refl 1, bounded, Followed.empty⟩
    | some retry => exact ⟨rfl, rfl, Nat.le_refl 1, bounded, Followed.empty⟩
  · cases retry with
    | none => exact ⟨Chronicle.empty, Followed.empty, bounded⟩
    | some retry => exact ⟨Chronicle.empty, Followed.empty, bounded⟩

def Awaits.undiscovered : Awaits Stream :=
  ⟨fun _ => none, some (some (.error (.maxDiscoveryAttemptReached 3))), fun _ _ => none, none⟩

def retriedForever : SubscribeToStreamOptions :=
  { SubscribeToStreamOptions.default with retry := some RetryOptions.default.retryForever }

/-- A subscription to be retried forever ends on its first failed lookup. -/
theorem first_failed_lookup_ends_call :
    ∃ subscription : Subscription Unit,
      subscribeToStream .plain (.solo ⟨"localhost", 2113⟩) (utf8 "orders") retriedForever [] =
        some subscription ∧
      ¬ (machine .blank).Always (RetryContract retriedForever.retry) (.start subscription)
        [.call, .turn .undiscovered] := by
  refine ⟨_, rfl, ?_⟩
  intro always
  have contract := (machine .blank).always_last always rfl
  have justified := contract.justified [.called, .lookupFailed _] (.returned (.error _)) [] rfl
  have allowed := justified RetryOptions.default.retryForever _ rfl rfl
  revert allowed
  decide

end TrogonEventStore.Subscription

import TrogonEventStore.Batch
import TrogonEventStore.EventWire
import TrogonEventStore.Library.Narrowing
import TrogonEventStore.Settings

namespace TrogonEventStore.Batch

open Narrowing

def nanosPerSec : Nat := 1000000000

/-- `std::time::SystemTime`, in nanoseconds since the epoch: its seconds are an `i64`. -/
structure SystemTime where
  nanos : Int
  low : -(2 ^ 63 * nanosPerSec) ≤ nanos
  high : nanos < 2 ^ 63 * nanosPerSec

/-- `SystemTime + Duration`; `none` is the panic of an overflow. -/
def SystemTime.add (time : SystemTime) (duration : Duration) : Option SystemTime :=
  if high : time.nanos + duration < 2 ^ 63 * nanosPerSec then
    some ⟨time.nanos + duration, Int.le_trans time.low (by omega), high⟩
  else none

/-- `duration_since(UNIX_EPOCH)`; `none` is the error for a time before the epoch. -/
def SystemTime.sinceEpoch (time : SystemTime) : Option Duration :=
  if time.nanos < 0 then none else some time.nanos.toNat

structure WireDuration where
  seconds : Int64
  nanos : Int32
  deriving DecidableEq, Repr

structure WireTimestamp where
  seconds : Int64
  nanos : Int32
  deriving DecidableEq, Repr

inductive DeadlineOption where
  | deadline21100 (time : WireTimestamp)
  | deadline (duration : WireDuration)
  deriving DecidableEq, Repr

inductive ExpectedStreamPosition where
  | streamPosition (revision : Nat)
  | noStream
  | any
  | streamExists
  deriving DecidableEq, Repr

def ExpectedStreamPosition.ofState : StreamState → ExpectedStreamPosition
  | .streamRevision rev => .streamPosition rev
  | .noStream => .noStream
  | .streamExists => .streamExists
  | .any => .any

structure Options where
  streamIdentifier : Option Bytes
  deadlineOption : Option DeadlineOption
  expectedStreamPosition : Option ExpectedStreamPosition
  deriving DecidableEq, Repr

structure BatchAppendReq where
  correlationId : Option WireUuid
  options : Option Options
  proposedMessages : List ProposedMessage
  isFinal : Bool
  deriving DecidableEq, Repr

/-- What the generator meets when it takes a request: the caller's tracing context, the ids drawn
for events without one, and the reading of the clock. -/
structure Moment where
  context : TraceContext
  newV4 : Nat → Uuid
  now : SystemTime

/-- The budget of a session: ten seconds unless a deadline is configured. -/
def budget (deadline : Option Duration) : Duration := deadline.getD (Duration.fromSecs 10)

/-- The `deadline` the generator puts in a request; `none` is a panic. -/
def deadlineField (deadline : Option Duration) (now : SystemTime) : Option WireDuration := do
  let deadline ← now.add (budget deadline)
  let deadline ← deadline.sinceEpoch
  some ⟨Int64.ofNat (deadline / nanosPerSec), Int32.ofNat (deadline % nanosPerSec)⟩

/-- The body of the request generator's loop; `none` is a panic. -/
def generate (json : SerdeJson) (deadline : Option Duration) (queued : Req × Moment) :
    Option BatchAppendReq := do
  let (req, moment) := queued
  let proposedMessages := req.events.mapIdx fun index event =>
    convertEventDataToBatchProposedMessage json (moment.newV4 index) event moment.context
  let deadline ← deadlineField deadline moment.now
  some {
    correlationId := some (.ofUuid req.id)
    options := some {
      streamIdentifier := some (utf8 req.streamName)
      deadlineOption := some (.deadline deadline)
      expectedStreamPosition := some (.ofState req.expectedRevision) }
    proposedMessages := proposedMessages
    isFinal := true }

structure WireDuration.Denotes (wire : WireDuration) (duration : Duration) : Prop where
  seconds : Keeps64 wire.seconds (duration / nanosPerSec)
  nanos : Keeps32 wire.nanos (duration % nanosPerSec)

def BatchAppendReq.Grants (req : BatchAppendReq) (duration : Duration) : Prop :=
  ∃ options wire, req.options = some options ∧ options.deadlineOption = some (.deadline wire) ∧
    wire.Denotes duration

theorem SystemTime.add_iff {time later : SystemTime} {duration : Duration} :
    time.add duration = some later ↔ later.nanos = time.nanos + duration := by
  unfold SystemTime.add
  constructor
  · intro added
    split at added
    · cases added
      rfl
    · cases added
  · intro same
    have high := later.high
    rw [same] at high
    rw [dif_pos high]
    obtain ⟨nanos, _, _⟩ := later
    cases same
    rfl

theorem deadlineField_iff (deadline : Option Duration) (now : SystemTime) (wire : WireDuration) :
    deadlineField deadline now = some wire ↔
      ∃ total : Nat, (total : Int) = now.nanos + budget deadline ∧
        total / nanosPerSec < 2 ^ 63 ∧
        wire = ⟨Int64.ofNat (total / nanosPerSec), Int32.ofNat (total % nanosPerSec)⟩ := by
  constructor
  · intro put
    obtain ⟨later, added, put⟩ := Option.bind_eq_some_iff.mp put
    obtain ⟨total, since, put⟩ := Option.bind_eq_some_iff.mp put
    have sum := SystemTime.add_iff.mp added
    have high := later.high
    unfold SystemTime.sinceEpoch at since
    split at since
    · cases since
    · next passed =>
        cases since
        refine ⟨later.nanos.toNat, by omega, ?_, (Option.some.inj put).symm⟩
        unfold nanosPerSec at high ⊢
        omega
  · intro ⟨total, sum, below, same⟩
    have high : (total : Int) < 2 ^ 63 * nanosPerSec := by
      unfold nanosPerSec at below ⊢
      omega
    let later : SystemTime := ⟨total, by unfold nanosPerSec; omega, high⟩
    have added : now.add (budget deadline) = some later := SystemTime.add_iff.mpr sum
    have since : later.sinceEpoch = some total := by
      unfold SystemTime.sinceEpoch
      have passed : ¬ later.nanos < 0 := by
        change ¬ (total : Int) < 0
        omega
      rw [if_neg passed]
      rfl
    unfold deadlineField
    rw [added, Option.bind_eq_bind, Option.bind_some, since, same]
    rfl

theorem fraction_fits (total : Nat) : total % nanosPerSec < 2 ^ 31 := by
  have bound := Nat.mod_lt total (show 0 < nanosPerSec by decide)
  unfold nanosPerSec at bound ⊢
  omega

/-- The deadline is the budget only where the clock stands at the epoch. -/
theorem deadlineField_denotes_iff (deadline : Option Duration) (now : SystemTime) :
    (∃ wire, deadlineField deadline now = some wire ∧ wire.Denotes (budget deadline)) ↔
      now.nanos = 0 ∧ budget deadline / nanosPerSec < 2 ^ 63 := by
  constructor
  · intro ⟨wire, put, denotes⟩
    obtain ⟨total, sum, below, rfl⟩ := (deadlineField_iff deadline now wire).mp put
    have seconds : total / nanosPerSec = budget deadline / nanosPerSec :=
      Keeps64.unique ((keeps64_iff _).mpr below) denotes.seconds
    have nanos : total % nanosPerSec = budget deadline % nanosPerSec :=
      Keeps32.unique ((keeps32_iff _).mpr (fraction_fits total)) denotes.nanos
    have same : total = budget deadline := by
      rw [← Nat.div_add_mod total nanosPerSec, seconds, nanos, Nat.div_add_mod]
    have epoch : now.nanos = 0 := by
      rw [same] at sum
      omega
    refine ⟨epoch, ?_⟩
    rw [← seconds]
    exact below
  · intro ⟨epoch, below⟩
    have sum : (budget deadline : Int) = now.nanos + budget deadline := by
      rw [epoch, Int.zero_add]
    exact ⟨_, (deadlineField_iff deadline now _).mpr ⟨budget deadline, sum, below, rfl⟩,
      (keeps64_iff _).mpr below, (keeps32_iff _).mpr (fraction_fits _)⟩

theorem WireDuration.Denotes.unique {first second : WireDuration} {duration : Duration}
    (one : first.Denotes duration) (other : second.Denotes duration) : first = second := by
  have seconds : first.seconds = second.seconds :=
    Int64.toInt_inj.mp (one.seconds.trans other.seconds.symm)
  have nanos : first.nanos = second.nanos :=
    Int32.toInt_inj.mp (one.nanos.trans other.nanos.symm)
  cases first
  cases second
  cases seconds
  cases nanos
  rfl

theorem generate_grants_iff (json : SerdeJson) (deadline : Option Duration) (queued : Req × Moment) :
    (∃ req, generate json deadline queued = some req ∧ req.Grants (budget deadline)) ↔
      queued.2.now.nanos = 0 ∧ budget deadline / nanosPerSec < 2 ^ 63 := by
  rw [← deadlineField_denotes_iff]
  obtain ⟨req, moment⟩ := queued
  constructor
  · intro ⟨yielded, generated, options, wire, present, relative, denotes⟩
    obtain ⟨field, put, made⟩ := Option.bind_eq_some_iff.mp generated
    cases made
    cases present
    cases relative
    exact ⟨_, put, denotes⟩
  · intro ⟨wire, put, denotes⟩
    unfold generate
    dsimp only at put ⊢
    rw [put]
    exact ⟨_, rfl, _, wire, rfl, rfl, denotes⟩

theorem mapM_all_iff {Input Output : Type} (f : Input → Option Output) (property : Output → Prop)
    (inputs : List Input) :
    (∃ outputs, inputs.mapM f = some outputs ∧ ∀ output ∈ outputs, property output) ↔
      ∀ input ∈ inputs, ∃ output, f input = some output ∧ property output := by
  induction inputs with
  | nil => simp
  | cons input inputs ih =>
      rw [List.forall_mem_cons, ← ih, List.mapM_cons]
      constructor
      · intro ⟨outputs, mapped, all⟩
        obtain ⟨output, first, mapped⟩ := Option.bind_eq_some_iff.mp mapped
        obtain ⟨others, rest, same⟩ := Option.bind_eq_some_iff.mp mapped
        cases same
        have both := List.forall_mem_cons.mp all
        exact ⟨⟨output, first, both.1⟩, others, rest, both.2⟩
      · intro ⟨⟨output, first, holds⟩, others, rest, all⟩
        refine ⟨output :: others, ?_, List.forall_mem_cons.mpr ⟨holds, all⟩⟩
        rw [first, rest]
        rfl

/-- A session yields every request, each with the budget in its relative deadline, and so the same
one whatever the clock reads. -/
def KeepsBudget (json : SerdeJson) (deadline : Option Duration) (session : List (Req × Moment)) :
    Prop :=
  ∃ reqs, session.mapM (generate json deadline) = some reqs ∧
    (∀ req ∈ reqs, req.Grants (budget deadline)) ∧
    ∀ first ∈ reqs, ∀ second ∈ reqs,
      first.options.bind Options.deadlineOption = second.options.bind Options.deadlineOption

theorem same_deadline {first second : BatchAppendReq} {duration : Duration}
    (one : first.Grants duration) (other : second.Grants duration) :
    first.options.bind Options.deadlineOption = second.options.bind Options.deadlineOption := by
  obtain ⟨options, wire, present, relative, denotes⟩ := one
  obtain ⟨options₂, wire₂, present₂, relative₂, denotes₂⟩ := other
  rw [present, present₂, Option.bind_some, Option.bind_some, relative, relative₂,
    denotes.unique denotes₂]

/-- The server is given the budget of a session exactly when the clock stands at the epoch at every
request. -/
theorem session_keeps_budget_iff (json : SerdeJson) (deadline : Option Duration)
    (session : List (Req × Moment)) :
    KeepsBudget json deadline session ↔
      ∀ queued ∈ session, queued.2.now.nanos = 0 ∧ budget deadline / nanosPerSec < 2 ^ 63 := by
  have each : (∀ queued ∈ session, queued.2.now.nanos = 0 ∧
        budget deadline / nanosPerSec < 2 ^ 63) ↔
      ∀ queued ∈ session, ∃ req, generate json deadline queued = some req ∧
        req.Grants (budget deadline) :=
    forall₂_congr fun queued _ => (generate_grants_iff json deadline queued).symm
  rw [each, ← mapM_all_iff]
  constructor
  · intro ⟨reqs, generated, granted, _⟩
    exact ⟨reqs, generated, granted⟩
  · intro ⟨reqs, generated, granted⟩
    exact ⟨reqs, generated, granted,
      fun first one second other => same_deadline (granted first one) (granted second other)⟩

def clockReading : SystemTime := ⟨1700000000 * nanosPerSec, by decide, by decide⟩

theorem absolute_deadline_sent :
    deadlineField none clockReading = some ⟨1700000010, 0⟩ ∧
      ∀ json req context newV4,
        ¬ KeepsBudget json none [(req, ⟨context, newV4, clockReading⟩)] := by
  refine ⟨by decide, ?_⟩
  intro json req context newV4 ⟨reqs, generated, granted, _⟩
  have each := (mapM_all_iff _ _ _).mp ⟨reqs, generated, granted⟩ _ List.mem_cons_self
  have epoch : clockReading.nanos = 0 := ((generate_grants_iff json none _).mp each).1
  exact absurd epoch (by decide)

end TrogonEventStore.Batch

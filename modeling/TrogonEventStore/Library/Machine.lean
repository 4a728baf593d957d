import Mathlib.Data.List.Basic
import Mathlib.Data.Option.Basic

/-! Executable machines whose nondeterminism is carried by labels.

A schedule is a list of labels; `none` means that the label is not enabled in
the state. Invariants, guarded schedules and refinements are proved once here. -/

structure Machine (State Label : Type) where
  step : State → Label → Option State

namespace Machine

variable {State Label Other Command : Type}

def run (machine : Machine State Label) : State → List Label → Option State
  | state, [] => some state
  | state, label :: labels => (machine.step state label).bind fun next => run machine next labels

/-- Every label of the schedule is admitted by the guard in the state that takes it. -/
def Guarded (machine : Machine State Label) (guard : State → Label → Prop) :
    State → List Label → Prop
  | _, [] => True
  | state, label :: labels => guard state label ∧
      ∀ next, machine.step state label = some next → Guarded machine guard next labels

def Always (machine : Machine State Label) (property : State → Prop) :
    State → List Label → Prop
  | state, [] => property state
  | state, label :: labels => property state ∧
      ∀ next, machine.step state label = some next → Always machine property next labels

variable (machine : Machine State Label)

@[simp] theorem run_nil (state : State) : machine.run state [] = some state := rfl

theorem run_cons (state : State) (label : Label) (labels : List Label) :
    machine.run state (label :: labels) =
      (machine.step state label).bind fun next => machine.run next labels := rfl

theorem run_cons_eq_some {state last : State} {label : Label} {labels : List Label} :
    machine.run state (label :: labels) = some last ↔
      ∃ next, machine.step state label = some next ∧ machine.run next labels = some last := by
  rw [run_cons, Option.bind_eq_some_iff]

theorem run_append (state : State) (first second : List Label) :
    machine.run state (first ++ second) =
      (machine.run state first).bind fun next => machine.run next second := by
  induction first generalizing state with
  | nil => rfl
  | cons label labels ih =>
      rw [List.cons_append, run_cons, run_cons, Option.bind_assoc]
      congr 1
      funext next
      exact ih next

theorem run_append_eq_some {state last : State} {first second : List Label} :
    machine.run state (first ++ second) = some last ↔
      ∃ middle, machine.run state first = some middle ∧ machine.run middle second = some last := by
  rw [run_append, Option.bind_eq_some_iff]

theorem run_invariant (invariant : State → Prop)
    (preserved : ∀ state label next, invariant state → machine.step state label = some next →
      invariant next)
    {state last : State} {labels : List Label} (holds : invariant state)
    (ran : machine.run state labels = some last) : invariant last := by
  induction labels generalizing state with
  | nil =>
      rw [run_nil] at ran
      cases ran
      exact holds
  | cons label labels ih =>
      obtain ⟨next, stepped, rest⟩ := (machine.run_cons_eq_some).mp ran
      exact ih (preserved state label next holds stepped) rest

theorem guarded_cons_none {guard : State → Label → Prop} {state : State} {label : Label}
    (labels : List Label) (disabled : machine.step state label = none) :
    guard state label ↔ machine.Guarded guard state (label :: labels) := by
  simp [Guarded, disabled]

theorem guarded_cons_some {guard : State → Label → Prop} {state next : State} {label : Label}
    (labels : List Label) (stepped : machine.step state label = some next) :
    guard state label ∧ machine.Guarded guard next labels ↔
      machine.Guarded guard state (label :: labels) := by
  simp [Guarded, stepped]

theorem guarded_congr {guard other : State → Label → Prop}
    (agree : ∀ state label, guard state label ↔ other state label) (state : State)
    (labels : List Label) :
    machine.Guarded guard state labels ↔ machine.Guarded other state labels := by
  have same : guard = other := by
    funext state label
    exact propext (agree state label)
  rw [same]

theorem run_fixed {state : State} {labels : List Label}
    (fixed : ∀ label ∈ labels, machine.step state label = some state) :
    machine.run state labels = some state := by
  induction labels with
  | nil => rfl
  | cons label labels ih =>
      have later := ih fun other member => fixed other (List.mem_cons_of_mem label member)
      rw [run_cons, fixed label List.mem_cons_self, Option.bind_some, later]

instance decidableGuarded (guard : State → Label → Prop)
    [∀ state label, Decidable (guard state label)] :
    ∀ state labels, Decidable (machine.Guarded guard state labels)
  | _, [] => .isTrue trivial
  | state, label :: labels =>
      match stepped : machine.step state label with
      | none => decidable_of_iff _ (machine.guarded_cons_none labels stepped)
      | some next =>
          have := decidableGuarded guard next labels
          decidable_of_iff _ (machine.guarded_cons_some labels stepped)

/-- A guarded schedule keeps whatever its admitted steps keep. -/
theorem guarded_invariant (guard : State → Label → Prop) (invariant : State → Prop)
    (preserved : ∀ state label next, invariant state → guard state label →
      machine.step state label = some next → invariant next)
    {state last : State} {labels : List Label} (holds : invariant state)
    (guarded : machine.Guarded guard state labels)
    (ran : machine.run state labels = some last) : invariant last := by
  induction labels generalizing state with
  | nil =>
      rw [run_nil] at ran
      cases ran
      exact holds
  | cons label labels ih =>
      obtain ⟨next, stepped, rest⟩ := (machine.run_cons_eq_some).mp ran
      exact ih (preserved state label next holds guarded.1 stepped) (guarded.2 next stepped) rest

theorem always_last {property : State → Prop} {state last : State} {labels : List Label}
    (always : machine.Always property state labels)
    (ran : machine.run state labels = some last) : property last := by
  induction labels generalizing state with
  | nil =>
      rw [run_nil] at ran
      cases ran
      exact always
  | cons label labels ih =>
      obtain ⟨next, stepped, rest⟩ := (machine.run_cons_eq_some).mp ran
      exact ih (always.2 next stepped) rest

/-- When the guard is exactly what keeps the property, from states that meet both the
property and an auxiliary invariant, a schedule keeps the property throughout iff it is guarded. -/
theorem always_iff_guarded (guard : State → Label → Prop) (invariant property : State → Prop)
    (preserved : ∀ state label next, invariant state → property state →
      machine.step state label = some next → invariant next)
    (exact_guard : ∀ state label next, invariant state → property state →
      machine.step state label = some next → (property next ↔ guard state label))
    (disabled : ∀ state label, machine.step state label = none → guard state label)
    {state : State} {labels : List Label} (holds : invariant state) (start : property state) :
    machine.Always property state labels ↔ machine.Guarded guard state labels := by
  induction labels generalizing state with
  | nil => exact ⟨fun _ => trivial, fun _ => start⟩
  | cons label labels ih =>
      have head_holds : ∀ next, machine.step state label = some next →
          machine.Always property next labels → property next := by
        intro next _ always
        cases labels with
        | nil => exact always
        | cons _ _ => exact always.1
      constructor
      · intro always
        constructor
        · cases stepped : machine.step state label with
          | none => exact disabled state label stepped
          | some next =>
              exact (exact_guard state label next holds start stepped).mp
                (head_holds next stepped (always.2 next stepped))
        · intro next stepped
          have later := always.2 next stepped
          exact (ih (preserved state label next holds start stepped)
            (head_holds next stepped later)).mp later
      · intro guarded
        refine ⟨start, ?_⟩
        intro next stepped
        have kept := (exact_guard state label next holds start stepped).mpr guarded.1
        exact (ih (preserved state label next holds start stepped) kept).mpr
          (guarded.2 next stepped)

/-- A forward simulation: each label of the lower machine is answered by a schedule of the
upper one, and related states stay related over whole schedules. -/
theorem simulate (upper : Machine Other Command) (related : State → Other → Prop)
    (answered : ∀ state label next other, related state other →
      machine.step state label = some next →
      ∃ commands after, upper.run other commands = some after ∧ related next after)
    {state last : State} {other : Other} {labels : List Label} (start : related state other)
    (ran : machine.run state labels = some last) :
    ∃ commands after, upper.run other commands = some after ∧ related last after := by
  induction labels generalizing state other with
  | nil =>
      rw [run_nil] at ran
      cases ran
      exact ⟨[], other, rfl, start⟩
  | cons label labels ih =>
      obtain ⟨next, stepped, rest⟩ := (machine.run_cons_eq_some).mp ran
      obtain ⟨front, middle, front_run, middle_related⟩ :=
        answered state label next other start stepped
      obtain ⟨back, after, back_run, after_related⟩ := ih middle_related rest
      exact ⟨front ++ back, after,
        (upper.run_append_eq_some).mpr ⟨middle, front_run, back_run⟩, after_related⟩

end Machine

import Mathlib.Data.Nat.Basic

/-! Loops that either go round again with new locals or return.

A loop is its body together with a variant; its value is computed by structural recursion on
fuel, so it evaluates, and the variant shows that the fuel never runs out. -/

inductive Turn (Locals Result : Type) where
  | again (locals : Locals)
  | finished (result : Result)

structure Loop (Locals Result : Type) where
  body : Locals → Turn Locals Result
  variant : Locals → Nat
  decreases : ∀ locals next, body locals = .again next → variant next < variant locals

namespace Loop

variable {Locals Result : Type}

def iterate (body : Locals → Turn Locals Result) : Nat → Locals → Option Result
  | 0, _ => none
  | fuel + 1, locals =>
      match body locals with
      | .again next => iterate body fuel next
      | .finished result => some result

theorem iterate_isSome (loop : Loop Locals Result) (fuel : Nat) (locals : Locals)
    (enough : loop.variant locals < fuel) : (iterate loop.body fuel locals).isSome := by
  induction fuel generalizing locals with
  | zero => omega
  | succ fuel ih =>
      rw [iterate]
      cases turn : loop.body locals with
      | finished result => rfl
      | again next =>
          have smaller := loop.decreases locals next turn
          exact ih next (by omega)

theorem iterate_fuel (loop : Loop Locals Result) (first second : Nat) (locals : Locals)
    (enough : loop.variant locals < first) (also : loop.variant locals < second) :
    iterate loop.body first locals = iterate loop.body second locals := by
  induction first generalizing second locals with
  | zero => omega
  | succ first ih =>
      cases second with
      | zero => omega
      | succ second =>
          rw [iterate, iterate]
          cases turn : loop.body locals with
          | finished result => rfl
          | again next =>
              have smaller := loop.decreases locals next turn
              exact ih second next (by omega) (by omega)

def run (loop : Loop Locals Result) (locals : Locals) : Result :=
  (iterate loop.body (loop.variant locals + 1) locals).get
    (iterate_isSome loop _ locals (Nat.lt_succ_self _))

theorem run_finished (loop : Loop Locals Result) {locals : Locals} {result : Result}
    (turn : loop.body locals = .finished result) : loop.run locals = result := by
  simp only [run, iterate, turn, Option.get_some]

theorem run_again (loop : Loop Locals Result) {locals next : Locals}
    (turn : loop.body locals = .again next) : loop.run locals = loop.run next := by
  have smaller := loop.decreases locals next turn
  have same : iterate loop.body (loop.variant locals + 1) locals =
      iterate loop.body (loop.variant next + 1) next := by
    rw [iterate, turn]
    exact iterate_fuel loop _ _ next (by omega) (Nat.lt_succ_self _)
  simp only [run, same]

theorem run_congr (loop : Loop Locals Result) {first second : Locals}
    (agree : loop.body first = loop.body second) : loop.run first = loop.run second := by
  cases turn : loop.body second with
  | finished result => rw [loop.run_finished turn, loop.run_finished (agree.trans turn)]
  | again next => rw [loop.run_again turn, loop.run_again (agree.trans turn)]

/-- What every returning turn establishes, and every repeating turn carries back from the rest
of the loop, holds of the whole loop. -/
theorem run_rule (loop : Loop Locals Result) (post : Locals → Result → Prop)
    (finished : ∀ locals result, loop.body locals = .finished result → post locals result)
    (again : ∀ locals next result, loop.body locals = .again next → post next result →
      post locals result)
    (locals : Locals) : post locals (loop.run locals) := by
  induction size : loop.variant locals using Nat.strong_induction_on generalizing locals with
  | _ bound ih =>
      cases turn : loop.body locals with
      | finished result =>
          rw [loop.run_finished turn]
          exact finished locals result turn
      | again next =>
          have smaller := loop.decreases locals next turn
          rw [loop.run_again turn]
          exact again locals next _ turn (ih _ (size ▸ smaller) next rfl)

/-- The loop with a log of what each turn observes when it starts. -/
def logged {Event : Type} (loop : Loop Locals Result) (observe : Locals → List Event) :
    Loop (Locals × List Event) (Result × List Event) where
  body := fun state =>
    match loop.body state.1 with
    | .again next => .again (next, state.2 ++ observe state.1)
    | .finished result => .finished (result, state.2 ++ observe state.1)
  variant := fun state => loop.variant state.1
  decreases := by
    intro state next turn
    split at turn
    · next locals step =>
        cases turn
        exact loop.decreases state.1 locals step
    · cases turn

section Logged

variable {Event : Type} (loop : Loop Locals Result) (observe : Locals → List Event)

theorem logged_again {locals next : Locals} {log : List Event}
    (turn : loop.body locals = .again next) :
    (loop.logged observe).body (locals, log) = .again (next, log ++ observe locals) := by
  simp only [logged, turn]

theorem logged_finished {locals : Locals} {result : Result} {log : List Event}
    (turn : loop.body locals = .finished result) :
    (loop.logged observe).body (locals, log) = .finished (result, log ++ observe locals) := by
  simp only [logged, turn]

theorem logged_run_fst (locals : Locals) (log : List Event) :
    ((loop.logged observe).run (locals, log)).1 = loop.run locals := by
  refine loop.run_rule (fun locals result => ∀ log,
    ((loop.logged observe).run (locals, log)).1 = result) ?_ ?_ locals log
  · intro locals result turn log
    rw [run_finished _ (loop.logged_finished observe turn)]
  · intro locals next result turn later log
    rw [run_again _ (loop.logged_again observe turn)]
    exact later _

/-- What an invariant of the turns makes true of every observation is true of the whole log. -/
theorem logged_run_snd {invariant : Locals → Prop} {property : Event → Prop}
    (kept : ∀ locals next, invariant locals → loop.body locals = .again next → invariant next)
    (seen : ∀ locals, invariant locals → ∀ event ∈ observe locals, property event)
    {locals : Locals} (starts : invariant locals) {log : List Event}
    (earlier : ∀ event ∈ log, property event) :
    ∀ event ∈ ((loop.logged observe).run (locals, log)).2, property event := by
  have extended : ∀ {locals log}, invariant locals → (∀ event ∈ log, property event) →
      ∀ event ∈ log ++ observe locals, property event := by
    intro locals log holds earlier event member
    rcases List.mem_append.mp member with before | now
    · exact earlier event before
    · exact seen locals holds event now
  refine loop.run_rule (fun locals _ => invariant locals → ∀ log,
    (∀ event ∈ log, property event) →
      ∀ event ∈ ((loop.logged observe).run (locals, log)).2, property event) ?_ ?_
    locals starts log earlier
  · intro locals result turn holds log earlier
    rw [run_finished _ (loop.logged_finished observe turn)]
    exact extended holds earlier
  · intro locals next result turn later holds log earlier
    rw [run_again _ (loop.logged_again observe turn)]
    exact later (kept locals next holds turn) _ (extended holds earlier)

end Logged

end Loop

import Mathlib.Data.List.Basic

/-! Folds over entries that each write some fields: the last counted entry decides a field. -/

namespace LastWrites

section Fields

variable {Entry Value : Type} {counts : Entry → Bool} {read : Entry → Option Value}

def lastOf (counts : Entry → Bool) (entries : List Entry) : Option Entry :=
  (entries.filter counts).getLast?

/-- A value is read from the last entry that counts, and stays as it was where none does. -/
inductive Taken (counts : Entry → Bool) (read : Entry → Option Value) (entries : List Entry)
    (before : Value) : Value → Prop
  | kept (none : lastOf counts entries = none) : Taken counts read entries before before
  | written {entry : Entry} {after : Value} (last : lastOf counts entries = some entry)
      (value : read entry = some after) : Taken counts read entries before after

theorem lastOf_append (entries others : List Entry) :
    lastOf counts (entries ++ others) = (lastOf counts others).or (lastOf counts entries) := by
  unfold lastOf
  rw [List.filter_append, List.getLast?_append]

theorem lastOf_congr {group : Entry → Bool} {entries others : List Entry}
    (inside : ∀ entry, counts entry = true → group entry = true)
    (same : entries.filter group = others.filter group) :
    lastOf counts entries = lastOf counts others := by
  have finer : ∀ list : List Entry, list.filter counts = (list.filter group).filter counts := by
    intro list
    rw [List.filter_filter]
    apply List.filter_congr
    intro entry _
    by_cases counted : counts entry = true
    · rw [counted, inside entry counted, Bool.and_self]
    · rw [Bool.eq_false_iff.mpr counted, Bool.false_and]
  unfold lastOf
  rw [finer entries, finer others, same]

theorem Taken.nil (value : Value) : Taken counts read [] value value := .kept rfl

theorem Taken.skip {entry : Entry} (skipped : counts entry = false) (value : Value) :
    Taken counts read [entry] value value := by
  apply Taken.kept
  simp [lastOf, skipped]

theorem Taken.write {entry : Entry} {before after : Value} (counted : counts entry = true)
    (value : read entry = some after) : Taken counts read [entry] before after := by
  apply Taken.written _ value
  simp [lastOf, counted]

theorem Taken.of_none {entries : List Entry} {before after : Value}
    (taken : Taken counts read entries before after) (none : lastOf counts entries = none) :
    after = before := by
  cases taken with
  | kept _ => rfl
  | written last _ => exact absurd (none.symm.trans last) (by simp)

theorem Taken.of_some {entries : List Entry} {before after : Value} {entry : Entry}
    (taken : Taken counts read entries before after) (last : lastOf counts entries = some entry) :
    read entry = some after := by
  cases taken with
  | kept none => exact absurd (none.symm.trans last) (by simp)
  | written own value => rw [← value, Option.some.inj (own.symm.trans last)]

theorem Taken.append {entries others : List Entry} {before middle after : Value}
    (first : Taken counts read entries before middle)
    (second : Taken counts read others middle after) :
    Taken counts read (entries ++ others) before after := by
  cases second with
  | kept unwritten =>
      have same : lastOf counts (entries ++ others) = lastOf counts entries := by
        rw [lastOf_append, unwritten, Option.none_or]
      cases first with
      | kept none => exact .kept (same.trans none)
      | written last value => exact .written (same.trans last) value
  | written last value =>
      apply Taken.written _ value
      rw [lastOf_append, last, Option.some_or]

theorem Taken.unique {entries others : List Entry} {before after other : Value}
    (same : lastOf counts entries = lastOf counts others)
    (first : Taken counts read entries before after)
    (second : Taken counts read others before other) : after = other := by
  cases second with
  | kept none => exact first.of_none (same.trans none)
  | written last value =>
      have own := first.of_some (same.trans last)
      exact Option.some.inj (own.symm.trans value)

end Fields

section Folds

variable {Entry Error State Value : Type} {update : Entry → Except Error (State → State)}

def step (update : Entry → Except Error (State → State)) (state : State) (entry : Entry) :
    Except Error State :=
  (update entry).map fun change => change state

theorem fold_ok_iff {entries : List Entry} {state : State} :
    (∃ next, entries.foldlM (step update) state = .ok next) ↔
      ∀ entry ∈ entries, ∃ change, update entry = .ok change := by
  induction entries generalizing state with
  | nil => exact ⟨fun _ _ impossible => absurd impossible List.not_mem_nil, fun _ => ⟨_, rfl⟩⟩
  | cons entry entries ih =>
      rw [List.foldlM_cons, List.forall_mem_cons, step]
      cases update entry with
      | error error => simp [bind, Except.bind, Except.map]
      | ok change =>
          change (∃ next, entries.foldlM (step update) (change state) = .ok next) ↔ _
          rw [ih]
          simp

/-- What every update takes from its entry, the fold takes from the last entry that counts. -/
theorem taken_fold {counts : Entry → Bool} {read : Entry → Option Value} {field : State → Value}
    (writes : ∀ entry change, update entry = .ok change → ∀ state,
      Taken counts read [entry] (field state) (field (change state)))
    {entries : List Entry} {state next : State}
    (folded : entries.foldlM (step update) state = .ok next) :
    Taken counts read entries (field state) (field next) := by
  induction entries generalizing state with
  | nil =>
      cases folded
      exact Taken.nil (field next)
  | cons entry entries ih =>
      rw [List.foldlM_cons, step] at folded
      cases updated : update entry with
      | error error =>
          rw [updated] at folded
          cases folded
      | ok change =>
          rw [updated] at folded
          exact (writes entry change updated state).append (ih folded)

end Folds

end LastWrites

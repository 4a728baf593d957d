import Mathlib.Data.List.Basic

/-! Histories that grow by one entry at a time.

An entry is judged by the history before it; what holds of every entry when it is added holds of
all of them ever after. -/

def Chronicle {Entry : Type} (admitted : List Entry → Entry → Prop) (history : List Entry) : Prop :=
  ∀ before entry after, history = before ++ entry :: after → admitted before entry

namespace Chronicle

variable {Entry : Type} {admitted : List Entry → Entry → Prop}

theorem empty : Chronicle admitted [] := by
  intro before entry after split
  exact absurd split (List.append_ne_nil_of_right_ne_nil before (List.cons_ne_nil entry after)).symm

theorem split_append {history before after : List Entry} {last entry : Entry}
    (split : history ++ [last] = before ++ entry :: after) :
    (history = before ∧ last = entry ∧ after = []) ∨
      ∃ rest, after = rest ++ [last] ∧ history = before ++ entry :: rest := by
  rcases List.eq_nil_or_concat after with rfl | ⟨rest, final, rfl⟩
  · have ends := List.append_inj' split rfl
    cases ends.2
    exact Or.inl ⟨ends.1, rfl, rfl⟩
  · rw [List.concat_eq_append, ← List.cons_append, ← List.append_assoc] at split
    have ends := List.append_inj' split rfl
    cases ends.2
    exact Or.inr ⟨rest, List.concat_eq_append, ends.1⟩

theorem extend {history : List Entry} {last : Entry} (chronicle : Chronicle admitted history)
    (admits : admitted history last) : Chronicle admitted (history ++ [last]) := by
  intro before entry after split
  rcases split_append split with ⟨rfl, rfl, rfl⟩ | ⟨rest, _, earlier⟩
  · exact admits
  · exact chronicle before entry rest earlier

end Chronicle

/-- Every entry that obliges another one is followed by it at once. -/
def Followed {Entry : Type} (obliged : Entry → Option Entry) (history : List Entry) : Prop :=
  ∀ before entry after next, history = before ++ entry :: after → obliged entry = some next →
    ∃ rest, after = next :: rest

namespace Followed

variable {Entry : Type} {obliged : Entry → Option Entry}

theorem empty : Followed obliged [] := by
  intro before entry after next split
  exact absurd split.symm (List.append_ne_nil_of_right_ne_nil before (List.cons_ne_nil entry after))

theorem free {entry : Entry} (none_obliged : obliged entry = none) : Followed obliged [entry] := by
  intro before other after next split owes
  rcases List.append_eq_singleton_iff.mp split.symm with ⟨_, same⟩ | ⟨_, same⟩
  · cases same
    rw [none_obliged] at owes
    cases owes
  · cases same

theorem kept {entry next : Entry} (owes : ∀ other, obliged entry = some other → next = other)
    (none_obliged : obliged next = none) : Followed obliged [entry, next] := by
  intro before other after required split owed
  cases before with
  | nil =>
      cases split
      exact ⟨[], by rw [owes required owed]⟩
  | cons first before =>
      have later : [next] = before ++ other :: after := (List.cons.inj split).2
      exact free none_obliged before other after required later owed

theorem append {first second : List Entry} (front : Followed obliged first)
    (back : Followed obliged second) : Followed obliged (first ++ second) := by
  intro before entry after next split owes
  rcases List.append_eq_append_iff.mp split with ⟨middle, _, rest⟩ | ⟨middle, rest, tail⟩
  · exact back middle entry after next rest owes
  · cases middle with
    | nil => exact back [] entry after next tail.symm owes
    | cons head middle =>
        rw [List.cons_append] at tail
        obtain ⟨rfl, continues⟩ := List.cons.inj tail
        obtain ⟨kept, same⟩ := front before entry middle next rest owes
        exact ⟨kept ++ second, by rw [continues, same, List.cons_append]⟩

end Followed

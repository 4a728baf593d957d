import Mathlib.Data.List.DropRight
import Mathlib.Data.List.TakeWhile

namespace Replacement

variable {Element : Type} [DecidableEq Element] {old new : Element}

def swap (old new element : Element) : Element := if element = old then new else element

def replaced (old new : Element) (elements : List Element) : List Element :=
  elements.map (swap old new)

theorem swap_old : swap old new old = new := if_pos rfl

theorem swap_ne {element : Element} (other : element ≠ old) : swap old new element = element :=
  if_neg other

theorem swap_eq_iff {separator : Element} (other : separator ≠ old) (differs : separator ≠ new)
    (element : Element) : swap old new element = separator ↔ element = separator := by
  by_cases same : element = old
  · rw [same, swap_old]
    exact iff_of_false differs.symm other.symm
  · rw [swap_ne same]

theorem replaced_cons (element : Element) (elements : List Element) :
    replaced old new (element :: elements) = swap old new element :: replaced old new elements :=
  List.map_cons

theorem replaced_append (first second : List Element) :
    replaced old new (first ++ second) = replaced old new first ++ replaced old new second :=
  List.map_append

theorem replaced_self {elements : List Element} (absent : old ∉ elements) :
    replaced old new elements = elements := by
  have same : ∀ element ∈ elements, swap old new element = element := by
    intro element present
    apply swap_ne
    rintro rfl
    exact absent present
  exact (List.map_congr_left same).trans (List.map_id' elements)

theorem replaced_split {front back : List Element} (absent : old ∉ front) :
    replaced old new (front ++ old :: back) = front ++ new :: replaced old new back := by
  rw [replaced_append, replaced_self absent, replaced_cons, swap_old]

theorem mem_replaced {element : Element} {elements : List Element}
    (present : element ∈ replaced old new elements) : element = new ∨ element ∈ elements := by
  obtain ⟨original, listed, rfl⟩ := List.mem_map.mp present
  by_cases same : original = old
  · rw [same]
    exact Or.inl swap_old
  · rw [swap_ne same]
    exact Or.inr listed

section Cuts

variable {p : Element → Bool}

theorem comp_swap (same : p new = p old) : p ∘ swap old new = p := by
  funext element
  change p (swap old new element) = p element
  by_cases replaces : element = old
  · rw [replaces, swap_old, same]
  · rw [swap_ne replaces]

theorem takeWhile_replaced (same : p new = p old) (elements : List Element) :
    (replaced old new elements).takeWhile p = replaced old new (elements.takeWhile p) := by
  rw [replaced, List.takeWhile_map, comp_swap same, replaced]

theorem dropWhile_replaced (same : p new = p old) (elements : List Element) :
    (replaced old new elements).dropWhile p = replaced old new (elements.dropWhile p) := by
  rw [replaced, List.dropWhile_map, comp_swap same, replaced]

theorem filter_replaced (same : p new = p old) (elements : List Element) :
    (replaced old new elements).filter p = replaced old new (elements.filter p) := by
  rw [replaced, List.filter_map, comp_swap same, replaced]

theorem rdropWhile_replaced (same : p new = p old) (elements : List Element) :
    (replaced old new elements).rdropWhile p = replaced old new (elements.rdropWhile p) := by
  calc
    (replaced old new elements).rdropWhile p
        = ((replaced old new elements.reverse).dropWhile p).reverse := by
          rw [List.rdropWhile, replaced, replaced, List.map_reverse]
    _ = (replaced old new (elements.reverse.dropWhile p)).reverse := by rw [dropWhile_replaced same]
    _ = replaced old new (elements.rdropWhile p) := by
          rw [replaced, ← List.map_reverse, List.rdropWhile, replaced]

theorem splitOn_replaced {separator : Element} (other : separator ≠ old)
    (differs : separator ≠ new) (elements : List Element) :
    (replaced old new elements).splitOn separator =
      (elements.splitOn separator).map (replaced old new) := by
  induction elements with
  | nil => rfl
  | cons element elements ih =>
      rw [replaced_cons, List.splitOn_cons_eq_if_modifyHead, List.splitOn_cons_eq_if_modifyHead, ih]
      by_cases same : element = separator
      · have swapped : swap old new element = separator :=
          (swap_eq_iff other differs element).mpr same
        rw [if_pos (beq_iff_eq.mpr swapped), if_pos (beq_iff_eq.mpr same)]
        rfl
      · have swapped : ¬ swap old new element = separator := fun given =>
          same ((swap_eq_iff other differs element).mp given)
        rw [if_neg (fun given => swapped (beq_iff_eq.mp given)),
          if_neg (fun given => same (beq_iff_eq.mp given))]
        cases elements.splitOn separator with
        | nil => rfl
        | cons first rest => rfl

end Cuts

end Replacement

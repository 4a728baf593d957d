import Mathlib.Data.List.Basic

namespace SplitOnce

variable {Element : Type} [DecidableEq Element] {separator : Element}

def splitOnce (separator : Element) : List Element → Option (List Element × List Element)
  | [] => none
  | element :: elements =>
      if element = separator then some ([], elements)
      else (splitOnce separator elements).map fun parts => (element :: parts.1, parts.2)

def rsplitOnce (separator : Element) (elements : List Element) :
    Option (List Element × List Element) :=
  (splitOnce separator elements.reverse).map fun parts => (parts.2.reverse, parts.1.reverse)

theorem splitOnce_append {front : List Element} (absent : separator ∉ front)
    (back : List Element) :
    splitOnce separator (front ++ separator :: back) = some (front, back) := by
  induction front with
  | nil => exact if_pos rfl
  | cons element front ih =>
      rw [List.mem_cons, not_or] at absent
      rw [List.cons_append, splitOnce, if_neg (Ne.symm absent.1), ih absent.2, Option.map_some]

theorem splitOnce_eq_none_iff {elements : List Element} :
    splitOnce separator elements = none ↔ separator ∉ elements := by
  induction elements with
  | nil => exact iff_of_true rfl List.not_mem_nil
  | cons element elements ih =>
      rw [splitOnce, List.mem_cons, not_or]
      split
      · next same => exact iff_of_false (by simp) fun both => both.1 same.symm
      · next other =>
          rw [Option.map_eq_none_iff, ih]
          exact ⟨fun absent => ⟨Ne.symm other, absent⟩, And.right⟩

theorem splitOnce_some {elements front back : List Element}
    (split : splitOnce separator elements = some (front, back)) :
    elements = front ++ separator :: back ∧ separator ∉ front := by
  induction elements generalizing front with
  | nil => cases split
  | cons element elements ih =>
      rw [splitOnce] at split
      split at split
      · next same =>
          cases split
          rw [same]
          exact ⟨rfl, List.not_mem_nil⟩
      · next other =>
          obtain ⟨⟨rest, tail⟩, found, same⟩ := Option.map_eq_some_iff.mp split
          cases same
          obtain ⟨whole, absent⟩ := ih found
          refine ⟨by rw [whole, List.cons_append], ?_⟩
          rw [List.mem_cons, not_or]
          exact ⟨Ne.symm other, absent⟩

theorem rsplitOnce_append (front : List Element) {back : List Element}
    (absent : separator ∉ back) :
    rsplitOnce separator (front ++ separator :: back) = some (front, back) := by
  have turned : (front ++ separator :: back).reverse =
      back.reverse ++ separator :: front.reverse := by simp
  have other : separator ∉ back.reverse := fun present => absent (List.mem_reverse.mp present)
  rw [rsplitOnce, turned, splitOnce_append other, Option.map_some, List.reverse_reverse,
    List.reverse_reverse]

theorem rsplitOnce_eq_none_iff {elements : List Element} :
    rsplitOnce separator elements = none ↔ separator ∉ elements := by
  rw [rsplitOnce, Option.map_eq_none_iff, splitOnce_eq_none_iff, List.mem_reverse]

theorem rsplitOnce_some {elements front back : List Element}
    (split : rsplitOnce separator elements = some (front, back)) :
    elements = front ++ separator :: back ∧ separator ∉ back := by
  obtain ⟨⟨rest, tail⟩, found, same⟩ := Option.map_eq_some_iff.mp split
  cases same
  obtain ⟨whole, absent⟩ := splitOnce_some found
  refine ⟨?_, fun present => absent (List.mem_reverse.mp present)⟩
  have turned := congrArg List.reverse whole
  rw [List.reverse_reverse] at turned
  rw [turned]
  simp

end SplitOnce

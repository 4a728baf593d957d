import Mathlib.Data.List.GetD
import Mathlib.Data.List.Perm.Basic

namespace Shuffle

variable {Element : Type}

/-- Each draw picks one of the elements left; elements left without a draw keep their order. -/
def shuffle : List Nat → List Element → List Element
  | [], elements => elements
  | _ :: _, [] => []
  | draw :: draws, first :: rest =>
      let index := draw % (rest.length + 1)
      (first :: rest).getD index first :: shuffle draws ((first :: rest).eraseIdx index)

theorem shuffle_perm (draws : List Nat) (elements : List Element) :
    (shuffle draws elements).Perm elements := by
  induction draws generalizing elements with
  | nil => exact List.Perm.refl elements
  | cons draw draws ih =>
      cases elements with
      | nil => exact List.Perm.refl []
      | cons first rest =>
          have bound : draw % (rest.length + 1) < (first :: rest).length :=
            Nat.mod_lt _ (Nat.succ_pos _)
          rw [shuffle, List.getD_eq_getElem _ _ bound]
          exact ((ih _).cons _).trans (List.getElem_cons_eraseIdx_perm bound)

theorem shuffle_map {Image : Type} (convert : Element → Image) (draws : List Nat)
    (elements : List Element) :
    (shuffle draws elements).map convert = shuffle draws (elements.map convert) := by
  induction draws generalizing elements with
  | nil => rfl
  | cons draw draws ih =>
      cases elements with
      | nil => rfl
      | cons first rest =>
          rw [shuffle, List.map_cons, List.map_cons, shuffle, List.length_map, ih,
            ← List.map_cons, List.getD_map, List.eraseIdx_map]

theorem shuffle_eq_nil_iff {draws : List Nat} {elements : List Element} :
    shuffle draws elements = [] ↔ elements = [] := by
  constructor
  · intro empty
    have perm := shuffle_perm draws elements
    rw [empty] at perm
    exact perm.symm.eq_nil
  · intro empty
    rw [empty]
    exact (shuffle_perm draws []).eq_nil

theorem shuffle_reaches {shuffled elements : List Element} (perm : shuffled.Perm elements) :
    ∃ draws, shuffle draws elements = shuffled := by
  induction shuffled generalizing elements with
  | nil => exact ⟨[], perm.symm.eq_nil⟩
  | cons drawn shuffled ih =>
      obtain ⟨index, bound, found⟩ := List.getElem_of_mem (perm.mem_iff.mp List.mem_cons_self)
      cases elements with
      | nil => exact absurd bound (Nat.not_lt_zero index)
      | cons first rest =>
          have split := perm.trans (List.getElem_cons_eraseIdx_perm bound).symm
          rw [found] at split
          obtain ⟨draws, same⟩ := ih split.cons_inv
          have place : index % (rest.length + 1) = index := Nat.mod_eq_of_lt bound
          refine ⟨index :: draws, ?_⟩
          rw [shuffle, place, List.getD_eq_getElem _ _ bound, found, same]

end Shuffle

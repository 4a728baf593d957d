import Mathlib.Algebra.GroupWithZero.Nat
import Mathlib.Data.List.AList

namespace Totals

variable {Key Value : Type} (weight : Value → Nat)

def total (map : AList fun _ : Key => Value) : Nat :=
  (map.entries.map fun entry => weight entry.2).sum

variable [DecidableEq Key]

theorem total_insert {map : AList fun _ : Key => Value} {key : Key} (absent : map.lookup key = none)
    (value : Value) : total weight (map.insert key value) = weight value + total weight map := by
  have fresh : key ∉ map := AList.lookup_eq_none.mp absent
  rw [total, AList.entries_insert_of_notMem fresh, List.map_cons, List.sum_cons]
  rfl

theorem total_erase {map : AList fun _ : Key => Value} {key : Key} {value : Value}
    (present : map.lookup key = some value) :
    weight value + total weight (map.erase key) = total weight map := by
  have member : key ∈ map.entries.keys := by
    by_contra absent
    rw [AList.lookup_eq_none.mpr absent] at present
    cases present
  obtain ⟨found, front, back, _, split, erased⟩ := List.exists_of_kerase member
  have listed : (⟨key, found⟩ : Sigma fun _ : Key => Value) ∈ map.entries := by
    rw [split]
    exact List.mem_append_right front List.mem_cons_self
  have looked : map.lookup key = some found := AList.mem_lookup_iff.mpr listed
  obtain rfl : value = found := Option.some.inj (present.symm.trans looked)
  have rest : (map.erase key).entries = front ++ back := erased
  rw [total, total, rest, split, List.map_append, List.map_append, List.map_cons, List.sum_append,
    List.sum_append, List.sum_cons]
  exact Nat.add_left_comm _ _ _

end Totals

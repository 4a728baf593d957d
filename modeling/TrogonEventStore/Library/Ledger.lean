import Mathlib.Data.List.Count
import Mathlib.Data.List.Nodup
import Mathlib.Data.List.Perm.Basic

/-! Accounts of promises that are each issued once and settled at most once.

A promise is waiting or settled, never both and never twice. The operations of a system move
promises from one side to the other; the account says what follows for each of them. -/

structure Ledger {Key : Type} (issued waiting settled : List Key) : Prop where
  distinct : issued.Nodup
  shared : (waiting ++ settled).Perm issued

namespace Ledger

variable {Key : Type} {issued waiting settled : List Key}

theorem empty : Ledger ([] : List Key) [] [] := ⟨List.nodup_nil, List.Perm.refl []⟩

theorem issue (ledger : Ledger issued waiting settled) {key : Key} (fresh : key ∉ issued) :
    Ledger (issued ++ [key]) (waiting ++ [key]) settled where
  distinct := List.nodup_append_comm.mp (List.nodup_cons.mpr ⟨fresh, ledger.distinct⟩)
  shared := by
    have moved : (waiting ++ [key] ++ settled).Perm (waiting ++ settled ++ [key]) := by
      rw [List.append_assoc, List.append_assoc]
      exact List.Perm.append_left waiting List.perm_append_comm
    exact moved.trans (ledger.shared.append_right [key])

theorem move (ledger : Ledger issued waiting settled) {waiting' settled' : List Key}
    (moved : (waiting' ++ settled').Perm (waiting ++ settled)) :
    Ledger issued waiting' settled' where
  distinct := ledger.distinct
  shared := moved.trans ledger.shared

theorem settle (ledger : Ledger issued waiting settled) {waiting' keys : List Key}
    (rest : waiting.Perm (keys ++ waiting')) : Ledger issued waiting' (settled ++ keys) := by
  apply ledger.move
  have swapped : (waiting' ++ (settled ++ keys)).Perm (keys ++ waiting' ++ settled) := by
    calc
      (waiting' ++ (settled ++ keys)).Perm (waiting' ++ (keys ++ settled)) :=
        List.Perm.append_left waiting' List.perm_append_comm
      _ = waiting' ++ keys ++ settled := (List.append_assoc _ _ _).symm
      _ |>.Perm (keys ++ waiting' ++ settled) :=
        List.Perm.append_right settled List.perm_append_comm
  exact swapped.trans (rest.symm.append_right settled)

theorem nodup (ledger : Ledger issued waiting settled) : (waiting ++ settled).Nodup :=
  ledger.shared.nodup_iff.mpr ledger.distinct

theorem settled_nodup (ledger : Ledger issued waiting settled) : settled.Nodup :=
  (List.nodup_append.mp ledger.nodup).2.1

theorem mem_issued (ledger : Ledger issued waiting settled) (key : Key) :
    key ∈ issued ↔ key ∈ waiting ∨ key ∈ settled := by
  rw [← ledger.shared.mem_iff, List.mem_append]

theorem not_settled (ledger : Ledger issued waiting settled) {key : Key}
    (waits : key ∈ waiting) : key ∉ settled := by
  intro also
  exact (List.nodup_append.mp ledger.nodup).2.2 key waits key also rfl

theorem count_settled_le_one [DecidableEq Key] (ledger : Ledger issued waiting settled)
    (key : Key) : settled.count key ≤ 1 :=
  List.nodup_iff_count_le_one.mp ledger.settled_nodup key

end Ledger

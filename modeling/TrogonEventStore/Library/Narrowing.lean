import Mathlib.Algebra.Group.Int.Defs
import Mathlib.Algebra.Group.Nat.Defs
import Mathlib.Order.Basic

/-! Unsigned numbers cast to signed integers of a fixed width: the cast keeps the number exactly
when it is in the range of the integer. -/

namespace Narrowing

def Keeps32 (cast : Int32) (number : Nat) : Prop := cast.toInt = number
def Keeps64 (cast : Int64) (number : Nat) : Prop := cast.toInt = number

instance (cast : Int32) (number : Nat) : Decidable (Keeps32 cast number) :=
  inferInstanceAs (Decidable (_ = _))

instance (cast : Int64) (number : Nat) : Decidable (Keeps64 cast number) :=
  inferInstanceAs (Decidable (_ = _))

theorem keeps32_iff (number : Nat) : Keeps32 (Int32.ofNat number) number ↔ number < 2 ^ 31 := by
  constructor
  · intro kept
    have bound := Int32.toInt_lt (Int32.ofNat number)
    unfold Keeps32 at kept
    omega
  · intro below
    exact Int32.toInt_ofNat_of_lt below

theorem keeps64_iff (number : Nat) : Keeps64 (Int64.ofNat number) number ↔ number < 2 ^ 63 := by
  constructor
  · intro kept
    have bound := Int64.toInt_lt (Int64.ofNat number)
    unfold Keeps64 at kept
    omega
  · intro below
    exact Int64.toInt_ofNat_of_lt below

theorem Keeps32.nonneg {cast : Int32} {number : Nat} (kept : Keeps32 cast number) :
    0 ≤ cast.toInt := by
  unfold Keeps32 at kept
  omega

theorem Keeps32.unique {cast : Int32} {first second : Nat} (one : Keeps32 cast first)
    (other : Keeps32 cast second) : first = second := by
  unfold Keeps32 at one other
  omega

theorem Keeps64.nonneg {cast : Int64} {number : Nat} (kept : Keeps64 cast number) :
    0 ≤ cast.toInt := by
  unfold Keeps64 at kept
  omega

theorem Keeps64.unique {cast : Int64} {first second : Nat} (one : Keeps64 cast first)
    (other : Keeps64 cast second) : first = second := by
  unfold Keeps64 at one other
  omega

/-- The integer denotes the number, with its sign, and no other number in range is cast to it. -/
structure Carries32 (cast : Int32) (number : Nat) : Prop where
  same : Keeps32 cast number
  sign : 0 ≤ cast.toInt
  distinct : ∀ other, other < 2 ^ 31 → Int32.ofNat other = cast → other = number

structure Carries64 (cast : Int64) (number : Nat) : Prop where
  same : Keeps64 cast number
  sign : 0 ≤ cast.toInt
  distinct : ∀ other, other < 2 ^ 63 → Int64.ofNat other = cast → other = number

theorem carries32_iff (number : Nat) :
    Carries32 (Int32.ofNat number) number ↔ number < 2 ^ 31 := by
  rw [← keeps32_iff]
  constructor
  · intro carries
    exact carries.same
  · intro kept
    refine ⟨kept, kept.nonneg, ?_⟩
    intro other below same
    have also := (keeps32_iff other).mpr below
    rw [same] at also
    exact also.unique kept

theorem carries64_iff (number : Nat) :
    Carries64 (Int64.ofNat number) number ↔ number < 2 ^ 63 := by
  rw [← keeps64_iff]
  constructor
  · intro carries
    exact carries.same
  · intro kept
    refine ⟨kept, kept.nonneg, ?_⟩
    intro other below same
    have also := (keeps64_iff other).mpr below
    rw [same] at also
    exact also.unique kept

end Narrowing

import Mathlib.Data.Int.Basic
import Mathlib.Tactic.Common
import Mathlib.Tactic.Ring

/-!
# Signed C integers

A signed result or conversion that does not fit its type is taken modulo the type's size, and marked:
the standard leaves the first undefined and the second to the implementation.
-/

namespace Curb.Misc

/-- The value is one of the signed type of this width. -/
def Fits (bits : Nat) (value : Int) : Prop := -2 ^ (bits - 1) ≤ value ∧ value < 2 ^ (bits - 1)

instance (bits : Nat) (value : Int) : Decidable (Fits bits value) :=
  inferInstanceAs (Decidable (_ ∧ _))

/-- A computed value, and whether every step to it has been in range. -/
@[ext] structure CInt where
  value : Int
  exact : Bool
  deriving DecidableEq, Repr

namespace CInt

/-- A value of its type. -/
def of (value : Int) : CInt := ⟨value, true⟩

/-- The value as one of the signed type of this width. -/
def fit (bits : Nat) (computed : CInt) : CInt :=
  ⟨computed.value.bmod (2 ^ bits), computed.exact && decide (Fits bits computed.value)⟩

variable {bits : Nat} {computed : CInt} {value : Int}

@[simp] theorem of_value (value : Int) : (of value).value = value := rfl

@[simp] theorem of_exact (value : Int) : (of value).exact = true := rfl

@[simp] theorem fit_exact : (computed.fit bits).exact = true ↔ computed.exact = true ∧ Fits bits computed.value := by
  simp [fit]

private theorem modulus_eq (width : Nat) : ((2 ^ (width + 1) : Nat) : Int) = 2 * 2 ^ width := by
  push_cast
  ring

theorem fit_value (fits : Fits bits computed.value) (positive : 0 < bits) :
    (computed.fit bits).value = computed.value := by
  obtain ⟨width, rfl⟩ : ∃ width, bits = width + 1 := ⟨bits - 1, by omega⟩
  obtain ⟨least, most⟩ := fits
  have half := modulus_eq width
  rw [Nat.add_sub_cancel] at least most
  refine Int.bmod_eq_of_le ?_ ?_
  · omega
  · omega

theorem fit_of (fits : Fits bits value) (positive : 0 < bits) : (of value).fit bits = of value :=
  CInt.ext (fit_value fits positive) (fit_exact.mpr ⟨rfl, fits⟩)

/-- A sum of two values of the type that is too large for it comes out negative. -/
theorem fit_value_neg (large : 2 ^ (bits - 1) ≤ computed.value) (below : computed.value < 2 ^ bits)
    (positive : 0 < bits) : (computed.fit bits).value < 0 := by
  obtain ⟨width, rfl⟩ : ∃ width, bits = width + 1 := ⟨bits - 1, by omega⟩
  have half := modulus_eq width
  have half_pos : (0 : Int) < 2 ^ width := Int.pow_pos (by omega)
  rw [Nat.add_sub_cancel] at large
  rw [show (2 : Int) ^ (width + 1) = 2 * 2 ^ width by ring] at below
  have unchanged : computed.value % ((2 ^ (width + 1) : Nat) : Int) = computed.value :=
    Int.emod_eq_of_lt (by omega) (by omega)
  show computed.value.bmod (2 ^ (width + 1)) < 0
  rw [Int.bmod_def, unchanged]
  split_ifs with small
  · omega
  · omega

end CInt

end Curb.Misc

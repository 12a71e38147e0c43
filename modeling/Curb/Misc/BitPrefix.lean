import Mathlib.Data.List.Basic
import Mathlib.Tactic.Common

/-!
# Bit prefixes of byte strings

A byte string is read through its first byte onwards (`Nat → BitVec 8`, what a C
program holds as a pointer), most significant bit first, as network addresses are.
Comparing the first `bits` bits of two byte strings amounts to comparing
`bits / 8` whole bytes and, when bits are left over, one more byte under a mask of
leading ones.
-/

namespace Curb.Misc

/-- Bit `i` of a byte string, counted from the most significant bit of its first byte. -/
def bitAt (bytes : Nat → BitVec 8) (i : Nat) : Bool := (bytes (i / 8)).getMsbD (i % 8)

/-- The two byte strings agree on their first `bits` bits. -/
def AgreeOnPrefix (bits : Nat) (x y : Nat → BitVec 8) : Prop :=
  ∀ i, i < bits → bitAt x i = bitAt y i

/-- The byte whose `r` leading bits are ones. -/
def leadingMask (r : Nat) : BitVec 8 := 0xff#8 <<< (8 - r)

theorem getMsbD_leadingMask {r : Nat} (hr : r ≤ 8) (i : Nat) :
    (leadingMask r).getMsbD i = decide (i < r) := by
  have ones : (0xff#8 : BitVec 8) = BitVec.allOnes 8 := by decide
  rw [leadingMask, ones, BitVec.getMsbD_shiftLeft, BitVec.getMsbD_allOnes]
  exact decide_eq_decide.mpr (by omega)

/-- Equality under a mask of leading ones is equality of the leading bits. -/
theorem and_leadingMask_eq_iff {r : Nat} (hr : r ≤ 8) (x y : BitVec 8) :
    x &&& leadingMask r = y &&& leadingMask r ↔ ∀ i, i < r → x.getMsbD i = y.getMsbD i := by
  constructor
  · intro masked i hi
    have bit := congrArg (fun b : BitVec 8 => b.getMsbD i) masked
    simpa [getMsbD_leadingMask hr, hi] using bit
  · intro agree
    apply BitVec.eq_of_getMsbD_eq
    intro i _
    rw [BitVec.getMsbD_and, BitVec.getMsbD_and, getMsbD_leadingMask hr]
    by_cases hi : i < r
    · rw [agree i hi]
    · simp [hi]

theorem byte_eq_iff (x y : BitVec 8) : x = y ↔ ∀ i, i < 8 → x.getMsbD i = y.getMsbD i :=
  ⟨fun same i _ => by rw [same], fun agree => BitVec.eq_of_getMsbD_eq fun i hi => agree i hi⟩

/-- Agreement on `bits` bits, split into the whole bytes and the leading bits of the
byte after them. -/
theorem agreeOnPrefix_iff_bytes (bits : Nat) (x y : Nat → BitVec 8) :
    AgreeOnPrefix bits x y ↔
      (∀ j, j < bits / 8 → x j = y j) ∧
      (∀ i, i < bits % 8 → (x (bits / 8)).getMsbD i = (y (bits / 8)).getMsbD i) := by
  constructor
  · intro agree
    refine ⟨?_, ?_⟩
    · intro j hj
      rw [byte_eq_iff]
      intro i hi
      have bit := agree (8 * j + i) (by omega)
      rwa [bitAt, bitAt, show (8 * j + i) / 8 = j by omega,
        show (8 * j + i) % 8 = i by omega] at bit
    · intro i hi
      have bit := agree (8 * (bits / 8) + i) (by omega)
      rwa [bitAt, bitAt, show (8 * (bits / 8) + i) / 8 = bits / 8 by omega,
        show (8 * (bits / 8) + i) % 8 = i by omega] at bit
  · rintro ⟨whole, rest⟩ i hi
    rw [bitAt, bitAt]
    by_cases inside : i / 8 < bits / 8
    · rw [whole _ inside]
    · have last : i / 8 = bits / 8 := by omega
      rw [last]
      exact rest _ (by omega)

/-- Agreement on `bits` bits as a byte loop and one masked comparison decide it. -/
theorem agreeOnPrefix_iff_masked (bits : Nat) (x y : Nat → BitVec 8) :
    AgreeOnPrefix bits x y ↔
      (∀ j, j < bits / 8 → x j = y j) ∧
      (bits % 8 ≠ 0 → x (bits / 8) &&& leadingMask (bits % 8) =
        y (bits / 8) &&& leadingMask (bits % 8)) := by
  rw [agreeOnPrefix_iff_bytes, and_leadingMask_eq_iff (by omega)]
  refine and_congr_right fun _ => ⟨fun rest _ => rest, fun rest i hi => rest (by omega) i hi⟩

/-- Only the bytes that hold the first `bits` bits matter. -/
theorem AgreeOnPrefix.congr_right {bits : Nat} {x y y' : Nat → BitVec 8}
    (same : ∀ j, 8 * j < bits → y j = y' j) :
    AgreeOnPrefix bits x y ↔ AgreeOnPrefix bits x y' := by
  refine forall₂_congr fun i hi => ?_
  have byte : y (i / 8) = y' (i / 8) := same (i / 8) (by omega)
  rw [bitAt, bitAt, bitAt, byte]

end Curb.Misc

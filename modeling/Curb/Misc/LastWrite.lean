import Mathlib.Data.List.Basic
import Mathlib.Logic.Function.Basic
import Mathlib.Tactic.Common

/-!
# Stores that refuse some writes

A store has a value under every key. A write it accepts replaces one of them, and a write it refuses
is lost. Under each key a list of writes leaves the last accepted value, and the value from before
where there is none; two stores agree under a key after the same writes if one of these was accepted
there, or if they agreed already.
-/

namespace Curb.Misc

variable {κ ν : Type} [DecidableEq κ]

/-- A value for a key. -/
structure Write (κ ν : Type) where
  key : κ
  value : ν

variable (accepts : κ → ν → Bool)

def applyWrite (store : κ → ν) (write : Write κ ν) : κ → ν :=
  if accepts write.key write.value then Function.update store write.key write.value else store

/-- The store after these writes, the first of them first. -/
def applyWrites (store : κ → ν) (writes : List (Write κ ν)) : κ → ν :=
  writes.foldl (applyWrite accepts) store

/-- The last accepted value for a key. -/
def lastWrite (key : κ) : List (Write κ ν) → Option ν
  | [] => none
  | write :: rest =>
      match lastWrite key rest with
      | some value => some value
      | none => if write.key = key ∧ accepts key write.value then some write.value else none

variable {accepts} {store store' : κ → ν} {key : κ} {writes : List (Write κ ν)}

theorem applyWrites_append (first rest : List (Write κ ν)) :
    applyWrites accepts store (first ++ rest) =
      applyWrites accepts (applyWrites accepts store first) rest :=
  List.foldl_append

theorem applyWrite_apply (write : Write κ ν) :
    applyWrite accepts store write key =
      if write.key = key ∧ accepts key write.value then write.value else store key := by
  unfold applyWrite
  by_cases same : write.key = key
  · subst same
    cases accepts write.key write.value <;> simp
  · cases accepts write.key write.value <;> simp [same, Function.update_of_ne (Ne.symm same)]

/-- What a store has under a key after some writes. -/
theorem applyWrites_apply :
    applyWrites accepts store writes key = (lastWrite accepts key writes).getD (store key) := by
  induction writes generalizing store with
  | nil => rfl
  | cons write rest ih =>
    show applyWrites accepts (applyWrite accepts store write) rest key = _
    rw [ih, applyWrite_apply, lastWrite]
    cases lastWrite accepts key rest with
    | some value => rfl
    | none =>
      dsimp only
      split <;> rfl

theorem lastWrite_eq_none_iff :
    lastWrite accepts key writes = none ↔
      ∀ write ∈ writes, write.key = key → accepts key write.value = false := by
  induction writes with
  | nil => simp [lastWrite]
  | cons write rest ih =>
    rw [lastWrite, List.forall_mem_cons]
    cases last : lastWrite accepts key rest with
    | some value =>
      rw [last] at ih
      constructor
      · intro none
        cases none
      · intro refused
        cases ih.mpr refused.2
    | none =>
      rw [last] at ih
      have refused := ih.mp rfl
      simpa using fun _ => refused

/-- The writes for other keys do not matter. -/
theorem lastWrite_filter :
    lastWrite accepts key (writes.filter fun write => write.key = key) = lastWrite accepts key writes := by
  induction writes with
  | nil => rfl
  | cons write rest ih =>
    by_cases same : write.key = key
    · simp [same, lastWrite, ih]
    · rw [List.filter_cons, if_neg (by simpa using same), ih, lastWrite]
      cases lastWrite accepts key rest <;> simp [same]

/-- Where two stores agree after the same writes. -/
theorem applyWrites_eq_iff :
    applyWrites accepts store writes key = applyWrites accepts store' writes key ↔
      (∃ write ∈ writes, write.key = key ∧ accepts key write.value = true) ∨
        store key = store' key := by
  rw [applyWrites_apply, applyWrites_apply]
  cases last : lastWrite accepts key writes with
  | none =>
    have refused := lastWrite_eq_none_iff.mp last
    constructor
    · intro same
      exact Or.inr same
    · rintro (⟨write, inside, here, accepted⟩ | same)
      · rw [refused write inside here] at accepted
        cases accepted
      · exact same
  | some value =>
    have accepted : ∃ write ∈ writes, write.key = key ∧ accepts key write.value = true := by
      by_contra none
      push Not at none
      have refused := lastWrite_eq_none_iff.mpr fun write inside here =>
        Bool.eq_false_iff.mpr (none write inside here)
      rw [last] at refused
      cases refused
    exact iff_of_true rfl (Or.inl accepted)

end Curb.Misc

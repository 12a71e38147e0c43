import Mathlib.Data.List.DropRight
import Mathlib.Tactic.Common

/-!
# Trimming around a kept middle

`dropWhile` and `rdropWhile` stop at an element the test fails on, so they leave a middle part that begins,
or ends, with such an element, and work on what stands before, or after, it.
-/

namespace Curb.Misc

variable {α : Type} {p : α → Bool} {front middle back : List α}

theorem dropWhile_append_solid (nonempty : middle ≠ []) (solid : ∀ c ∈ middle.head?, p c = false) :
    (front ++ (middle ++ back)).dropWhile p = front.dropWhile p ++ (middle ++ back) := by
  have kept : (middle ++ back).dropWhile p = middle ++ back := by
    cases middle with
    | nil => exact absurd rfl nonempty
    | cons c rest => simp [solid c rfl]
  rw [List.dropWhile_append]
  split
  · rename_i gone
    rw [kept, List.isEmpty_iff.mp gone, List.nil_append]
  · rfl

theorem rdropWhile_append_solid (nonempty : middle ≠ []) (solid : ∀ c ∈ middle.getLast?, p c = false) :
    (front ++ (middle ++ back)).rdropWhile p = front ++ (middle ++ back.rdropWhile p) := by
  have reversed := @dropWhile_append_solid α p back.reverse middle.reverse front.reverse (by simpa)
    (by simpa using solid)
  rw [List.rdropWhile]
  simp only [List.reverse_append, List.append_assoc] at reversed ⊢
  rw [reversed]
  simp [List.rdropWhile]

theorem rtakeWhile_append_cons {x : α} (stop : p x = false) (all : ∀ c ∈ back, p c = true) :
    (front ++ x :: back).rtakeWhile p = back := by
  rw [List.rtakeWhile]
  have reversed : (front ++ x :: back).reverse = back.reverse ++ x :: front.reverse := by simp
  rw [reversed, List.takeWhile_append_of_pos (by simpa using all), List.takeWhile_cons, stop]
  simp

theorem takeWhile_append_stop (all : ∀ c ∈ front, p c = true) (stop : ∀ c ∈ back.head?, p c = false) :
    (front ++ back).takeWhile p = front := by
  rw [List.takeWhile_append_of_pos all]
  cases back with
  | nil => simp
  | cons c rest => simp [stop c rfl]

/-- What a prefix begins with, the whole begins with. -/
theorem takeWhile_prefix_takeWhile {part : List α} (isPrefix : part <+: front) :
    part.takeWhile p <+: front.takeWhile p := by
  obtain ⟨rest, rfl⟩ := isPrefix
  rw [List.takeWhile_append]
  split
  · rename_i whole
    have same := (List.takeWhile_prefix p).eq_of_length whole
    rw [same]
    exact List.prefix_append part _
  · exact List.prefix_rfl

end Curb.Misc

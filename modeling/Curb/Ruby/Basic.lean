import Mathlib.Data.List.DropRight
import Curb.Misc.CString
import Curb.Misc.Fallible

/-!
# Ruby values and errors

Ruby strings are byte strings, held as `Text`. An operation that may raise returns an
`Except RubyError`.
-/

namespace Curb.Ruby
open Curb.Misc

/-- The exception classes the modelled operations raise. -/
inductive ErrorClass where
  | argumentError
  | typeError
  | runtimeError
  | frozenError
  | notImplementedError
  | rangeError
  | noMethodError
  | curlError
  | unsafeDestinationError
  | ioError
  | indexError
  | noMemoryError
  /-- `URI::InvalidComponentError`. -/
  | invalidComponentError
  deriving DecidableEq, Repr

/-- `Object#object_id`. -/
abbrev ObjectId := Nat

/-- A raised Ruby exception. -/
structure RubyError where
  errorClass : ErrorClass
  message : Text
  deriving DecidableEq, Repr

/-- `rb_raise`. -/
def rbRaise {α : Type} (errorClass : ErrorClass) (message : Text) : Except RubyError α :=
  .error ⟨errorClass, message⟩

/-- `StringValueCStr`: a string with a NUL byte in it has no C form. -/
def stringValueCStr (str : Text) : Except RubyError Text :=
  if Char.ofNat 0 ∈ str then rbRaise .argumentError "string contains null byte".toList else .ok str

/-- The values a list attribute takes: `nil`, an array, or one entry on its own. The entries
are the strings `rb_obj_as_string` makes of them. -/
inductive ListArgument where
  | nil
  | array (items : List Text)
  | single (item : Text)

/-- The entries, as `rb_check_array_type` finds them; `none` for `nil`. -/
def ListArgument.items : ListArgument → Option (List Text)
  | .nil => none
  | .array items => some items
  | .single item => some [item]

/-! ## String methods -/

/-- `String#downcase`. -/
def downcase (text : Text) : Text := text.map Char.toLower

/-- A capital is 32 below its small letter. -/
theorem toNat_of_upper {c : Char} (upper : c.val ≥ 'A'.val ∧ c.val ≤ 'Z'.val) :
    (c.val + ('a'.val - 'A'.val)).toNat = c.val.toNat + 32 ∧ 65 ≤ c.val.toNat ∧ c.val.toNat ≤ 90 := by
  have low : 65 ≤ c.val.toNat := UInt32.le_iff_toNat_le.mp upper.1
  have high : c.val.toNat ≤ 90 := UInt32.le_iff_toNat_le.mp upper.2
  have gap : ('a'.val - 'A'.val).toNat = 32 := by decide
  rw [UInt32.toNat_add, gap]
  omega

theorem toLower_toLower (c : Char) : c.toLower.toLower = c.toLower := by
  unfold Char.toLower
  split
  · rename_i upper
    obtain ⟨shifted, low, -⟩ := toNat_of_upper upper
    split
    · rename_i again
      exfalso
      have atMost : (c.val + ('a'.val - 'A'.val)).toNat ≤ 90 := UInt32.le_iff_toNat_le.mp again.2
      omega
    · rfl
  · simp

/-- Only a letter becomes a letter. -/
theorem toLower_eq_iff {c d : Char} (other : d.isAlpha = false) : c.toLower = d ↔ c = d := by
  have bounds {c : Char} : c.isUpper = true ↔ c.val ≥ 'A'.val ∧ c.val ≤ 'Z'.val := by
    unfold Char.isUpper
    rw [decide_eq_true_eq]
  constructor
  · intro same
    unfold Char.toLower at same
    split at same
    · rename_i upper
      obtain ⟨shifted, low, high⟩ := toNat_of_upper upper
      have letter : d.isLower = true := by
        unfold Char.isLower
        rw [← same, Bool.and_eq_true, decide_eq_true_eq, decide_eq_true_eq,
          ge_iff_le, UInt32.le_iff_toNat_le, UInt32.le_iff_toNat_le]
        show 97 ≤ (c.val + ('a'.val - 'A'.val)).toNat ∧ (c.val + ('a'.val - 'A'.val)).toNat ≤ 122
        omega
      unfold Char.isAlpha at other
      rw [letter, Bool.or_true] at other
      cases other
    · exact same
  · rintro rfl
    unfold Char.toLower
    rw [dif_neg]
    intro upper
    unfold Char.isAlpha at other
    rw [bounds.mpr upper, Bool.true_or] at other
    cases other

theorem downcase_downcase (text : Text) : downcase (downcase text) = downcase text := by
  rw [downcase, downcase, List.map_map]
  exact List.map_congr_left fun c _ => toLower_toLower c

/-- `String#strip`. -/
def strip (text : Text) : Text :=
  (text.dropWhile fun c => isSpace c || c == Char.ofNat 0).rdropWhile fun c =>
    isSpace c || c == Char.ofNat 0

/-- `String#chomp(".")`. -/
def chompDot (text : Text) : Text :=
  if text.getLast? = some '.' then text.dropLast else text

/-- `host[1...-1] if host.start_with?("[") && host.end_with?("]")`. -/
def stripBrackets (host : Text) : Text :=
  if host.head? = some '[' ∧ host.getLast? = some ']' then host.tail.dropLast else host

/-- `text.include?(part)` for a part of one or more characters. -/
def includes (part : Text) (text : Text) : Bool := text.tails.any fun tail => part.isPrefixOf tail

/-- `String#inspect` of a printable string, `nil.inspect` where there is none. -/
def inspect : Option Text → Text
  | none => "nil".toList
  | some text => '"' :: text ++ ['"']

end Curb.Ruby

import Mathlib.Data.List.TakeWhile
import Mathlib.Tactic.Common

/-!
# C strings

A C string is the list of its characters, the terminating NUL left out; one character
stands for one byte. `cutAt` is what `strchr` followed by writing a NUL over the found
character leaves behind, and `strtol` is the C library function at base 10. Each has the
texts it accepts described apart from the function (`DecimalText`), and the theorem that
the function accepts exactly those.
-/

namespace Curb.Misc

abbrev Text := List Char

/-- Membership in a list of texts is decided through this instance. -/
instance instLawfulBEqText : LawfulBEq Text := inferInstance

/-- The two halves around the first `c`, or `none` where there is no `c`. -/
def cutAt (c : Char) : Text → Option (Text × Text)
  | [] => none
  | d :: rest =>
      if d = c then some ([], rest)
      else (cutAt c rest).map fun halves => (d :: halves.1, halves.2)

theorem cutAt_eq_none_iff {c : Char} {text : Text} : cutAt c text = none ↔ c ∉ text := by
  induction text with
  | nil => simp [cutAt]
  | cons d rest ih =>
    by_cases here : d = c
    · simp [cutAt, here]
    · simp [cutAt, here, ih, Ne.symm here]

theorem cutAt_eq_some_iff {c : Char} {text before after : Text} :
    cutAt c text = some (before, after) ↔ text = before ++ c :: after ∧ c ∉ before := by
  induction text generalizing before with
  | nil => simp [cutAt]
  | cons d rest ih =>
    by_cases here : d = c
    · subst here
      cases before with
      | nil => simp [cutAt, eq_comm]
      | cons b bs =>
        simp only [cutAt, if_true, Option.some.injEq, Prod.mk.injEq, List.cons_append,
          List.cons.injEq, List.mem_cons, not_or]
        exact ⟨fun h => absurd h.1 (by simp), fun h => absurd h.1.1 h.2.1⟩
    · simp only [cutAt, here, if_false, Option.map_eq_some_iff, Prod.exists]
      constructor
      · rintro ⟨before', after', found, same⟩
        obtain ⟨rfl, rfl⟩ := Prod.mk.inj same
        obtain ⟨split, fresh⟩ := ih.mp found
        exact ⟨by rw [split, List.cons_append], by simp [fresh, Ne.symm here]⟩
      · rintro ⟨split, fresh⟩
        cases before with
        | nil => exact absurd (List.cons.inj split).1 here
        | cons b bs =>
          rw [List.cons_append, List.cons.injEq] at split
          obtain ⟨rfl, split⟩ := split
          exact ⟨bs, after, ih.mpr ⟨split, fun mem => fresh (by simp [mem])⟩, rfl⟩

/-- C `isspace` in the C locale. -/
def isSpace (c : Char) : Bool :=
  c = ' ' || (9 ≤ c.toNat && c.toNat ≤ 13)

/-- The number a digit string stands for. -/
def decimal (digits : Text) : Nat := digits.foldl (fun n c => 10 * n + (c.toNat - 48)) 0

/-- What C `strtol` leaves: its value, whether `errno` became `ERANGE`, and `*endptr`. -/
structure StrtolResult where
  value : Int
  rangeError : Bool
  rest : Text

def longMin : Int := -9223372036854775808
def longMax : Int := 9223372036854775807

/-- The optional sign after the white space: `true` for a minus. -/
def takeSign : Text → Bool × Text
  | '-' :: rest => (true, rest)
  | '+' :: rest => (false, rest)
  | text => (false, text)

/-- The result for a number read in front of `rest`: out of range it saturates. -/
def toLong (value : Int) (rest : Text) : StrtolResult :=
  if value < longMin then ⟨longMin, true, rest⟩
  else if longMax < value then ⟨longMax, true, rest⟩
  else ⟨value, false, rest⟩

/-- C `strtol (text, &endptr, 10)` on a 64-bit `long`. -/
def strtol (text : Text) : StrtolResult :=
  let signed := takeSign (text.dropWhile isSpace)
  let digits := signed.2.takeWhile Char.isDigit
  if digits = [] then ⟨0, false, text⟩
  else
    toLong (if signed.1 then -decimal digits else decimal digits)
      (signed.2.dropWhile Char.isDigit)

/-- `text` is an integer in decimal notation: white space, a sign, digits. -/
def DecimalText (text : Text) (value : Int) : Prop :=
  ∃ spaces sign digits : Text,
    text = spaces ++ sign ++ digits ∧
    (∀ c ∈ spaces, isSpace c = true) ∧
    digits ≠ [] ∧ (∀ c ∈ digits, c.isDigit = true) ∧
    ((sign = [] ∨ sign = ['+']) ∧ value = decimal digits ∨
      sign = ['-'] ∧ value = -decimal digits)

theorem isSpace_eq_false_of_isDigit {c : Char} (digit : c.isDigit = true) :
    isSpace c = false := by
  have bounds : 48 ≤ c.toNat ∧ c.toNat ≤ 57 := Char.isDigit_iff_toNat.mp digit
  have blank : c ≠ ' ' := by rintro rfl; exact absurd digit (by decide)
  simp only [isSpace, blank, decide_false, Bool.false_or, Bool.and_eq_false_iff,
    decide_eq_false_iff_not]
  omega

/-- A digit string is its own sign-free remainder. -/
theorem takeSign_of_digits {digits : Text} (digit : ∀ c ∈ digits, c.isDigit = true) :
    takeSign digits = (false, digits) := by
  cases digits with
  | nil => rfl
  | cons c rest =>
    have notMinus : c ≠ '-' := by rintro rfl; exact absurd (digit '-' (by simp)) (by decide)
    have notPlus : c ≠ '+' := by rintro rfl; exact absurd (digit '+' (by simp)) (by decide)
    simp [takeSign, notMinus, notPlus]

theorem dropWhile_append_stop {p : Char → Bool} {front back : Text}
    (all : ∀ c ∈ front, p c = true) (stop : ∀ c ∈ back.head?, p c = false) :
    (front ++ back).dropWhile p = back := by
  induction front with
  | nil =>
    cases back with
    | nil => rfl
    | cons c rest => simp [stop c (by simp)]
  | cons c rest ih =>
    simp [all c (by simp), ih fun d mem => all d (by simp [mem])]

/-- White space, a sign and digits come apart as they were put together. -/
theorem takeSign_dropWhile {spaces sign digits : Text}
    (blank : ∀ c ∈ spaces, isSpace c = true) (digit : ∀ c ∈ digits, c.isDigit = true)
    (isSign : sign = [] ∨ sign = ['+'] ∨ sign = ['-']) :
    takeSign ((spaces ++ sign ++ digits).dropWhile isSpace) = (sign == ['-'], digits) := by
  have stop : ∀ c ∈ (sign ++ digits).head?, isSpace c = false := by
    rcases isSign with rfl | rfl | rfl
    · intro c head
      exact isSpace_eq_false_of_isDigit (digit c (List.mem_of_mem_head? head))
    · intro c head
      obtain rfl : '+' = c := by simpa using head
      decide
    · intro c head
      obtain rfl : '-' = c := by simpa using head
      decide
  rw [List.append_assoc, dropWhile_append_stop blank stop]
  rcases isSign with rfl | rfl | rfl
  · exact takeSign_of_digits digit
  · rfl
  · rfl

theorem takeSign_eq_iff_sign (text : Text) :
    ∃ sign : Text, text = sign ++ (takeSign text).2 ∧
      (((takeSign text).1 = false ∧ (sign = [] ∨ sign = ['+'])) ∨
        ((takeSign text).1 = true ∧ sign = ['-'])) := by
  fun_cases takeSign text with
  | case1 rest => exact ⟨['-'], rfl, Or.inr ⟨rfl, rfl⟩⟩
  | case2 rest => exact ⟨['+'], rfl, Or.inl ⟨rfl, Or.inr rfl⟩⟩
  | case3 => exact ⟨[], rfl, Or.inl ⟨rfl, Or.inl rfl⟩⟩

@[simp] theorem toLong_rest (value : Int) (rest : Text) : (toLong value rest).rest = rest := by
  unfold toLong
  split
  · rfl
  · split <;> rfl

theorem toLong_rangeError_eq_false_iff {value : Int} {rest : Text} :
    (toLong value rest).rangeError = false ↔ longMin ≤ value ∧ value ≤ longMax := by
  unfold toLong
  split
  · rename_i low
    simp [Int.not_le.mpr low]
  · rename_i notLow
    split
    · rename_i high
      simp [Int.not_le.mpr high]
    · rename_i notHigh
      simp [Int.not_lt.mp notLow, Int.not_lt.mp notHigh]

theorem toLong_value {value : Int} {rest : Text} (lower : longMin ≤ value)
    (upper : value ≤ longMax) : (toLong value rest).value = value := by
  simp [toLong, Int.not_lt.mpr lower, Int.not_lt.mpr upper]

/-- `strtol` reads a whole non-empty text without a range error exactly when the text is an
integer in decimal notation that a `long` holds, and then it returns that integer. -/
theorem strtol_whole_iff {text : Text} (nonempty : text ≠ []) (value : Int) :
    ((strtol text).rangeError = false ∧ (strtol text).rest = [] ∧ (strtol text).value = value) ↔
      DecimalText text value ∧ longMin ≤ value ∧ value ≤ longMax := by
  constructor
  · rintro ⟨inRange, whole, same⟩
    obtain ⟨sign, split, isSign⟩ := takeSign_eq_iff_sign (text.dropWhile isSpace)
    unfold strtol at inRange whole same
    generalize takeSign (text.dropWhile isSpace) = signed at split isSign inRange whole same
    by_cases noDigit : signed.2.takeWhile Char.isDigit = []
    · simp only [noDigit, if_true] at whole
      exact absurd whole nonempty
    simp only [noDigit, if_false, toLong_rest, toLong_rangeError_eq_false_iff] at inRange whole same
    rw [toLong_value inRange.1 inRange.2] at same
    have digits_whole : signed.2.takeWhile Char.isDigit = signed.2 :=
      List.takeWhile_eq_self_iff.mpr (List.dropWhile_eq_nil_iff.mp whole)
    rw [digits_whole] at inRange same noDigit
    refine ⟨⟨text.takeWhile isSpace, sign, signed.2, ?_, ?_, noDigit, ?_, ?_⟩, ?_, ?_⟩
    · rw [List.append_assoc, ← split, List.takeWhile_append_dropWhile]
    · exact fun c mem => List.mem_takeWhile_imp mem
    · exact List.dropWhile_eq_nil_iff.mp whole
    · rcases isSign with ⟨plus, form⟩ | ⟨minus, form⟩
      · exact Or.inl ⟨form, by rw [← same, plus]; rfl⟩
      · exact Or.inr ⟨form, by rw [← same, minus]; rfl⟩
    · exact same ▸ inRange.1
    · exact same ▸ inRange.2
  · rintro ⟨⟨spaces, sign, digits, rfl, blank, some_digit, digit, reads⟩, lower, upper⟩
    have isSign : sign = [] ∨ sign = ['+'] ∨ sign = ['-'] := by tauto
    have takes : digits.takeWhile Char.isDigit = digits := List.takeWhile_eq_self_iff.mpr digit
    have drops : digits.dropWhile Char.isDigit = [] := List.dropWhile_eq_nil_iff.mpr digit
    have read : (if sign == ['-'] then -(decimal digits : Int) else decimal digits) = value := by
      rcases reads with ⟨rfl | rfl, same⟩ | ⟨rfl, same⟩ <;> simp [same]
    simp only [strtol, takeSign_dropWhile blank digit isSign, takes, drops, some_digit, if_false,
      read, toLong_rest, toLong_value lower upper, toLong_rangeError_eq_false_iff, and_self, lower,
      upper]

end Curb.Misc

import Mathlib.Data.List.TakeWhile
import Curb.Misc.Percent

/-!
# Form-encoded pairs

`application/x-www-form-urlencoded`: pairs of byte strings are written with `=` inside them and `&` between
them. What is written is read back, and what is read of two bodies with `&` between them is what is read of
each.
-/

namespace Curb.Misc

/-! ## One string -/

/-- The bytes that are written as they are: `* - . _`, digits and letters. -/
def isFormByte (byte : UInt8) : Bool :=
  (65 ≤ byte && byte ≤ 90) || (97 ≤ byte && byte ≤ 122) || (48 ≤ byte && byte ≤ 57) ||
    byte == 42 || byte == 45 || byte == 46 || byte == 95

/-- A space is written as `+`. -/
def formEncodeByte (byte : UInt8) : Bytes :=
  if isFormByte byte then [byte]
  else if byte = 32 then [43]
  else [37, hexDigit (byte.toNat / 16), hexDigit (byte.toNat % 16)]

def formEncode (bytes : Bytes) : Bytes := bytes.flatMap formEncodeByte

def plusToSpace (bytes : Bytes) : Bytes := bytes.map fun byte => if byte = 43 then 32 else byte

/-- A `+` is read as a space before the percent signs are read. -/
def formDecode (bytes : Bytes) : Bytes := percentDecode (plusToSpace bytes)

variable {bytes : Bytes} {byte : UInt8}

theorem percentDecode_ne (notPercent : byte ≠ 37) (rest : Bytes) :
    percentDecode (byte :: rest) = byte :: percentDecode rest := by
  rw [percentDecode]
  rintro high low tail rfl
  exact absurd rfl notPercent

theorem hexDigit_isFormByte {n : Nat} (small : n < 16) : isFormByte (hexDigit n) = true := by
  revert n
  decide

theorem hexDigit_ne_plus {n : Nat} (small : n < 16) : hexDigit n ≠ 43 := by
  intro plus
  have written := hexDigit_isFormByte small
  rw [plus] at written
  cases written

theorem formDecode_encodeByte (byte : UInt8) (rest : Bytes) :
    percentDecode (plusToSpace (formEncodeByte byte) ++ rest) = byte :: percentDecode rest := by
  unfold formEncodeByte
  split
  · rename_i written
    have notPlus : byte ≠ 43 := by
      rintro rfl
      cases written
    have notPercent : byte ≠ 37 := by
      rintro rfl
      cases written
    simp [plusToSpace, notPlus, percentDecode_ne notPercent]
  · split
    · rename_i space
      rw [space]
      exact percentDecode_ne (by decide) rest
    · have bound := byte.toNat_lt
      have high := hexDigit_ne_plus (show byte.toNat / 16 < 16 by omega)
      have low := hexDigit_ne_plus (show byte.toNat % 16 < 16 by omega)
      have whole : 16 * (byte.toNat / 16) + byte.toNat % 16 = byte.toNat := Nat.div_add_mod _ _
      simp only [plusToSpace, List.map_cons, List.map_nil, if_neg high, if_neg low]
      show percentDecode (37 :: hexDigit (byte.toNat / 16) :: hexDigit (byte.toNat % 16) :: rest) = _
      rw [percentDecode, hexValue_hexDigit (by omega), hexValue_hexDigit (by omega)]
      dsimp only
      rw [whole, UInt8.ofNat_toNat]

@[simp] theorem formDecode_encode (bytes : Bytes) : formDecode (formEncode bytes) = bytes := by
  unfold formDecode formEncode plusToSpace
  induction bytes with
  | nil => rfl
  | cons byte rest ih =>
    rw [List.flatMap_cons, List.map_append]
    exact (formDecode_encodeByte byte _).trans (congrArg _ ih)

theorem mem_formEncode (mem : byte ∈ formEncode bytes) :
    isFormByte byte = true ∨ byte = 43 ∨ byte = 37 := by
  obtain ⟨source, _, inside⟩ := List.mem_flatMap.mp mem
  have bound := source.toNat_lt
  unfold formEncodeByte at inside
  split at inside
  · rename_i written
    simp at inside
    simp [inside, written]
  · split at inside
    · simp at inside
      simp [inside]
    · have high := hexDigit_isFormByte (show source.toNat / 16 < 16 by omega)
      have low := hexDigit_isFormByte (show source.toNat % 16 < 16 by omega)
      simp at inside
      rcases inside with rfl | rfl | rfl
      · simp
      · simp [high]
      · simp [low]

/-- A separator is not written as it is. -/
theorem not_mem_formEncode {separator : UInt8} (escaped : isFormByte separator = false)
    (notPlus : separator ≠ 43) (notPercent : separator ≠ 37) : separator ∉ formEncode bytes := by
  intro mem
  rcases mem_formEncode mem with written | plus | percent
  · cases escaped.symm.trans written
  · exact notPlus plus
  · exact notPercent percent

theorem formEncode_eq_nil_iff : formEncode bytes = [] ↔ bytes = [] := by
  constructor
  · intro empty
    have read := formDecode_encode bytes
    rw [empty] at read
    exact read.symm
  · rintro rfl
    rfl

/-! ## Pairs -/

/-- What is between two `&`: the name before the first `=`, and the value behind it. -/
def formReadPart (part : Bytes) : Bytes × Bytes :=
  (formDecode (part.takeWhile fun byte => byte ≠ 61),
    formDecode (part.dropWhile fun byte => byte ≠ 61).tail)

/-- The pairs of a body; nothing between two `&` is no pair. -/
def formRead (body : Bytes) : List (Bytes × Bytes) :=
  ((body.splitOn 38).filter fun part => part ≠ []).map formReadPart

@[simp] theorem formRead_nil : formRead [] = [] := rfl

theorem formRead_append (body other : Bytes) :
    formRead (body ++ 38 :: other) = formRead body ++ formRead other := by
  simp [formRead, List.splitOn_append_cons_self]

theorem formRead_intercalate (parts : List Bytes) :
    formRead ([38].intercalate parts) = parts.flatMap formRead := by
  induction parts with
  | nil => rfl
  | cons part rest ih =>
    cases rest with
    | nil => simp [List.intercalate_singleton]
    | cons next rest =>
      rw [List.intercalate_cons_cons, List.append_assoc, List.flatMap_cons, ← ih]
      exact formRead_append part _

theorem mem_intercalate {separator : UInt8} {parts : List Bytes} (mem : byte ∈ [separator].intercalate parts) :
    byte = separator ∨ ∃ part ∈ parts, byte ∈ part := by
  induction parts with
  | nil => simp at mem
  | cons part rest ih =>
    cases rest with
    | nil => exact Or.inr ⟨part, List.mem_cons_self, by simpa using mem⟩
    | cons next rest =>
      rw [List.intercalate_cons_cons, List.append_assoc, List.mem_append] at mem
      rcases mem with here | mem
      · exact Or.inr ⟨part, List.mem_cons_self, here⟩
      · rcases List.mem_cons.mp mem with rfl | mem
        · exact Or.inl rfl
        · rcases ih mem with rfl | ⟨other, inside, mem⟩
          · exact Or.inl rfl
          · exact Or.inr ⟨other, List.mem_cons_of_mem _ inside, mem⟩

/-- Parts that are empty may be left out. -/
theorem formRead_intercalate_filter (parts : List Bytes) :
    formRead ([38].intercalate (parts.filter fun part => part ≠ [])) = parts.flatMap formRead := by
  rw [formRead_intercalate]
  induction parts with
  | nil => rfl
  | cons part rest ih =>
    by_cases empty : part = []
    · simp [empty, ← ih]
    · rw [List.filter_cons_of_pos (by simp [empty]), List.flatMap_cons, List.flatMap_cons, ih]

/-- A body without `&`. -/
theorem formRead_part {part : Bytes} (whole : (38 : UInt8) ∉ part) (filled : part ≠ []) :
    formRead part = [formReadPart part] := by
  have split : part.splitOn 38 = [part] := by
    have one := @List.splitOn_intercalate _ [part] _ _ (38 : UInt8) (by simpa using whole) (by simp)
    rwa [List.intercalate_singleton] at one
  simp [formRead, split, filled]

theorem formRead_pair (name value : Bytes) :
    formRead (formEncode name ++ 61 :: formEncode value) = [(name, value)] := by
  have separates (bytes : Bytes) : (38 : UInt8) ∉ formEncode bytes :=
    not_mem_formEncode (by decide) (by decide) (by decide)
  have before : ∀ byte ∈ formEncode name, decide (byte ≠ 61) = true := by
    intro byte mem
    refine decide_eq_true ?_
    rintro rfl
    exact not_mem_formEncode (by decide) (by decide) (by decide) mem
  rw [formRead_part (by simp [separates]) (by simp), formReadPart,
    List.takeWhile_append_of_pos before, List.dropWhile_append_of_pos before,
    List.takeWhile_cons_of_neg (by decide), List.dropWhile_cons_of_neg (by decide), List.append_nil,
    List.tail_cons, formDecode_encode, formDecode_encode]

/-- A name alone is read as one with an empty value. -/
theorem formRead_name (name : Bytes) :
    formRead (formEncode name) = if name = [] then [] else [(name, [])] := by
  by_cases empty : name = []
  · rw [empty]
    rfl
  · have before : ∀ byte ∈ formEncode name, decide (byte ≠ 61) = true := by
      intro byte mem
      refine decide_eq_true ?_
      rintro rfl
      exact not_mem_formEncode (by decide) (by decide) (by decide) mem
    have filled : formEncode name ≠ [] := fun nothing => empty (formEncode_eq_nil_iff.mp nothing)
    rw [if_neg empty, formRead_part (not_mem_formEncode (by decide) (by decide) (by decide)) filled,
      formReadPart, List.takeWhile_eq_self_iff.mpr before, List.dropWhile_eq_nil_iff.mpr before,
      formDecode_encode]
    rfl

end Curb.Misc

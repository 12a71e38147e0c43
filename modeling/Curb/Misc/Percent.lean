import Mathlib.Tactic.Common

/-!
# Percent-encoding of byte strings

A byte that is not unreserved is written as `%` and two hexadecimal digits. What is encoded contains no
separator, and decoding it gives the bytes back.
-/

namespace Curb.Misc

abbrev Bytes := List UInt8

/-- `A-Z a-z 0-9 - . _ ~`. -/
def isUnreserved (byte : UInt8) : Bool :=
  (65 ≤ byte && byte ≤ 90) || (97 ≤ byte && byte ≤ 122) || (48 ≤ byte && byte ≤ 57) ||
    byte == 45 || byte == 46 || byte == 95 || byte == 126

/-- The hexadecimal digit of a number below 16. -/
def hexDigit (n : Nat) : UInt8 := if n < 10 then UInt8.ofNat (48 + n) else UInt8.ofNat (55 + n)

def hexValue (digit : UInt8) : Option Nat :=
  if 48 ≤ digit ∧ digit ≤ 57 then some (digit.toNat - 48)
  else if 65 ≤ digit ∧ digit ≤ 70 then some (digit.toNat - 55)
  else if 97 ≤ digit ∧ digit ≤ 102 then some (digit.toNat - 87)
  else none

def percentEncodeByte (byte : UInt8) : Bytes :=
  if isUnreserved byte then [byte]
  else [37, hexDigit (byte.toNat / 16), hexDigit (byte.toNat % 16)]

def percentEncode (bytes : Bytes) : Bytes := bytes.flatMap percentEncodeByte

/-- A `%` that two digits do not follow stands for itself. -/
def percentDecode : Bytes → Bytes
  | 37 :: high :: low :: rest =>
      match hexValue high, hexValue low with
      | some high, some low => UInt8.ofNat (16 * high + low) :: percentDecode rest
      | _, _ => 37 :: percentDecode (high :: low :: rest)
  | byte :: rest => byte :: percentDecode rest
  | [] => []

theorem hexValue_hexDigit {n : Nat} (small : n < 16) : hexValue (hexDigit n) = some n := by
  revert n
  decide

theorem hexDigit_isUnreserved {n : Nat} (small : n < 16) : isUnreserved (hexDigit n) = true := by
  revert n
  decide

theorem percentDecode_unreserved {byte : UInt8} (unreserved : isUnreserved byte = true) (rest : Bytes) :
    percentDecode (byte :: rest) = byte :: percentDecode rest := by
  have notPercent : byte ≠ 37 := by
    rintro rfl
    exact absurd unreserved (by decide)
  rw [percentDecode]
  rintro high low tail rfl
  exact absurd rfl notPercent

theorem percentDecode_encodeByte (byte : UInt8) (rest : Bytes) :
    percentDecode (percentEncodeByte byte ++ rest) = byte :: percentDecode rest := by
  unfold percentEncodeByte
  split
  · rename_i unreserved
    exact percentDecode_unreserved unreserved rest
  · have bound := byte.toNat_lt
    have whole : 16 * (byte.toNat / 16) + byte.toNat % 16 = byte.toNat := Nat.div_add_mod _ _
    show percentDecode (37 :: hexDigit (byte.toNat / 16) :: hexDigit (byte.toNat % 16) :: rest) = _
    rw [percentDecode, hexValue_hexDigit (by omega), hexValue_hexDigit (by omega)]
    dsimp only
    rw [whole, UInt8.ofNat_toNat]

theorem percentDecode_encode (bytes : Bytes) : percentDecode (percentEncode bytes) = bytes := by
  induction bytes with
  | nil => rfl
  | cons byte rest ih =>
    show percentDecode (percentEncodeByte byte ++ percentEncode rest) = _
    rw [percentDecode_encodeByte, ih]

/-- What is encoded consists of unreserved bytes and `%`. -/
theorem mem_percentEncode {bytes : Bytes} {byte : UInt8} (mem : byte ∈ percentEncode bytes) :
    isUnreserved byte = true ∨ byte = 37 := by
  obtain ⟨source, _, inside⟩ := List.mem_flatMap.mp mem
  unfold percentEncodeByte at inside
  split at inside
  · rename_i unreserved
    exact Or.inl (List.mem_singleton.mp inside ▸ unreserved)
  · have bound := source.toNat_lt
    rcases List.mem_cons.mp inside with percent | inside
    · exact Or.inr percent
    · rcases List.mem_cons.mp inside with rfl | inside
      · exact Or.inl (hexDigit_isUnreserved (by omega))
      · rw [List.mem_singleton.mp inside]
        exact Or.inl (hexDigit_isUnreserved (by omega))

/-- A reserved byte other than `%` separates what is encoded. -/
theorem not_mem_percentEncode {separator : UInt8} (reserved : isUnreserved separator = false)
    (notPercent : separator ≠ 37) (bytes : Bytes) : separator ∉ percentEncode bytes := by
  intro mem
  rcases mem_percentEncode mem with unreserved | percent
  · cases reserved.symm.trans unreserved
  · exact notPercent percent

end Curb.Misc

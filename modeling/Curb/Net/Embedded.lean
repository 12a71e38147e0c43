import Curb.Net.Destination

/-!
# IPv4 addresses inside IPv6 addresses

The IPv6 forms that carry an IPv4 address, and what the classifier of the `:public` policy makes
of each (`ext/curb_easy.c:118-183`).
-/

namespace Curb.Net
open Curb.Misc

/-! ## The forms -/

/-- `::ffff:0:0/96`. -/
def mappedHead : Vector (BitVec 8) 12 := #v[0, 0, 0, 0, 0, 0, 0, 0, 0, 0, 0xff, 0xff]

/-- `64:ff9b::/96`, the well-known prefix of NAT64. -/
def wellKnownHead : Vector (BitVec 8) 12 := #v[0x00, 0x64, 0xff, 0x9b, 0, 0, 0, 0, 0, 0, 0, 0]

/-- `::/96`. -/
def compatibleHead : Vector (BitVec 8) 12 := #v[0, 0, 0, 0, 0, 0, 0, 0, 0, 0, 0, 0]

/-- `64:ff9b:1::/48`. -/
def localUseHead : Vector (BitVec 8) 6 := #v[0x00, 0x64, 0xff, 0x9b, 0x00, 0x01]

/-- `2002::/16`. -/
def sixToFourHead : Vector (BitVec 8) 2 := #v[0x20, 0x02]

/-- `::ffff:a`. -/
def ipv4Mapped (a : Ipv4) : Ipv6 := mappedHead ++ a

/-- `64:ff9b::a`. -/
def nat64WellKnown (a : Ipv4) : Ipv6 := wellKnownHead ++ a

/-- `::a`. -/
def ipv4Compatible (a : Ipv4) : Ipv6 := compatibleHead ++ a

/-- An address of `2002:a::/48`, with the bits after the prefix. -/
def sixToFour (a : Ipv4) (rest : Vector (BitVec 8) 10) : Ipv6 := sixToFourHead ++ (a ++ rest)

/-- An address of `64:ff9b:1::/48`, with the bits after the prefix. -/
def nat64LocalUse (rest : Vector (BitVec 8) 10) : Ipv6 := localUseHead ++ rest

/-! ## The prefix tests -/

theorem ptr_append_left {m n : Nat} (x : Vector (BitVec 8) m) (y : Vector (BitVec 8) n) {i : Nat}
    (inside : i < m) : ptr (x ++ y) i = ptr x i := by
  rw [ptr_apply _ (by omega), ptr_apply _ inside, Vector.getElem_append_left inside]

theorem ptr_append_right {m n : Nat} (x : Vector (BitVec 8) m) (y : Vector (BitVec 8) n) {i : Nat}
    (inside : i < n) : ptr (x ++ y) (i + m) = ptr y i := by
  have later : m ≤ i + m := Nat.le_add_left m i
  rw [ptr_apply _ (by omega), ptr_apply _ inside, Vector.getElem_append_right _ later]
  simp

/-- A prefix of whole bytes. -/
theorem curbIpPrefixMatches_bytes (ip pfx : BytePtr) (bytes : Nat) :
    curbIpPrefixMatches ip pfx (8 * bytes) = true ↔ ∀ i < bytes, ip i = pfx i := by
  rw [curbIpPrefixMatches_iff, agreeOnPrefix_iff_bytes, Nat.mul_div_cancel_left bytes (by decide),
    Nat.mul_mod_right]
  exact and_iff_left fun i none => absurd none (Nat.not_lt_zero i)

/-- An address that starts with other bytes fails a prefix test. -/
theorem curbIpPrefixMatches_eq_false {ip pfx : BytePtr} {bytes i : Nat} (inside : i < bytes)
    (differs : ip i ≠ pfx i) : curbIpPrefixMatches ip pfx (8 * bytes) = false := by
  rw [Bool.eq_false_iff]
  intro agrees
  exact differs ((curbIpPrefixMatches_bytes ip pfx bytes).mp agrees i inside)

theorem curbIpv6IsAllZero_eq_false {ip : BytePtr} {i : Nat} (inside : i < 16) (set : ip i ≠ 0) :
    curbIpv6IsAllZero ip = false := by
  rw [Bool.eq_false_iff]
  intro zero
  have all := List.all_eq_true.mp zero i (List.mem_range.mpr inside)
  exact set (eq_of_beq all)

/-- The IPv4 verdict looks at four bytes. -/
theorem curbIpv4IsUnsafeDestination_congr {x y : BytePtr} (same : ∀ i < 4, x i = y i) :
    curbIpv4IsUnsafeDestination x = curbIpv4IsUnsafeDestination y := by
  unfold curbIpv4IsUnsafeDestination
  rw [same 0 (by decide), same 1 (by decide), same 2 (by decide), same 3 (by decide)]

/-! ## Verdicts -/

/-- An address whose first byte is not zero has no embedded form. -/
theorem curbIpv6IsUnsafeDestination_of_head {ip : BytePtr} (head : ip 0 ≠ 0) :
    curbIpv6IsUnsafeDestination ip = (
      ip 0 &&& 0xfe == 0xfc ||
      (ip 0 == 0xfe && ip 1 &&& 0xc0 == 0x80) ||
      (ip 0 == 0xfe && ip 1 &&& 0xc0 == 0xc0) ||
      ip 0 == 0xff ||
      curbIpPrefixMatches ip (constBytes [0x20, 0x01, 0x0d, 0xb8]) 32 ||
      curbIpPrefixMatches ip (constBytes [0x20, 0x01, 0x00, 0x02, 0, 0]) 48 ||
      (ip 0 == 0x20 && ip 1 == 0x02)) := by
  have other (pfx : List (BitVec 8)) (zero : constBytes pfx 0 = 0) (bytes : Nat) (some : 0 < bytes) :
      curbIpPrefixMatches ip (constBytes pfx) (8 * bytes) = false := by
    apply curbIpPrefixMatches_eq_false some
    rw [zero]
    exact head
  have notZero : curbIpv6IsAllZero ip = false := curbIpv6IsAllZero_eq_false (by decide) head
  have mapped : curbIpv6IsIpv4Mapped ip = false := other _ rfl 12 (by decide)
  have wellKnown : curbIpv6IsNat64WellKnown ip = false := other _ rfl 12 (by decide)
  have localUse : curbIpv6IsNat64LocalUse ip = false := other _ rfl 6 (by decide)
  have compatible : curbIpv6IsIpv4Compatible ip = false := other _ rfl 12 (by decide)
  have first : (ip 0 == 0) = false := beq_false_of_ne head
  rw [curbIpv6IsUnsafeDestination, notZero, mapped, wellKnown, localUse, compatible, first]
  simp

/-- An address that starts with twelve zero bytes is unsafe. -/
theorem curbIpv6IsUnsafeDestination_of_zeros {ip : BytePtr} (zeros : ∀ i < 12, ip i = 0) :
    curbIpv6IsUnsafeDestination ip = true := by
  have unmapped : curbIpv6IsIpv4Mapped ip = false := by
    apply curbIpPrefixMatches_eq_false (show 10 < 12 by decide)
    rw [zeros 10 (by decide)]
    decide
  have otherwise : curbIpv6IsNat64WellKnown ip = false := by
    apply curbIpPrefixMatches_eq_false (show 1 < 12 by decide)
    rw [zeros 1 (by decide)]
    decide
  have compatible : curbIpv6IsIpv4Compatible ip = true := by
    apply (curbIpPrefixMatches_bytes _ _ 12).mpr
    intro i inside
    rw [zeros i inside]
    decide +revert
  rw [curbIpv6IsUnsafeDestination, unmapped, otherwise, compatible]
  simp

/-- An address under the local-use prefix of NAT64 is unsafe. -/
theorem curbIpv6IsUnsafeDestination_of_localUse {ip : BytePtr} (localUse : curbIpv6IsNat64LocalUse ip = true) :
    curbIpv6IsUnsafeDestination ip = true := by
  have bytes := (curbIpPrefixMatches_bytes _ _ 6).mp localUse
  have unmapped : curbIpv6IsIpv4Mapped ip = false := by
    apply curbIpPrefixMatches_eq_false (show 1 < 12 by decide)
    rw [bytes 1 (by decide)]
    decide
  have otherwise : curbIpv6IsNat64WellKnown ip = false := by
    apply curbIpPrefixMatches_eq_false (show 5 < 12 by decide)
    rw [bytes 5 (by decide)]
    decide
  rw [curbIpv6IsUnsafeDestination, unmapped, otherwise, localUse]
  simp

/-- A mapped address is judged as the IPv4 address in it. -/
theorem ipv4Mapped_verdict (a : Ipv4) : curbIpv6IsUnsafeDestination (ptr (ipv4Mapped a)) =
    curbIpv4IsUnsafeDestination (ptr a) := by
  have byte {i : Nat} (inside : i < 12) : ptr (ipv4Mapped a) i = ptr mappedHead i :=
    ptr_append_left mappedHead a inside
  have notZero : curbIpv6IsAllZero (ptr (ipv4Mapped a)) = false := by
    apply curbIpv6IsAllZero_eq_false (show 10 < 16 by decide)
    rw [byte (by decide)]
    decide
  have mapped : curbIpv6IsIpv4Mapped (ptr (ipv4Mapped a)) = true := by
    apply (curbIpPrefixMatches_bytes _ _ 12).mpr
    intro i inside
    rw [byte inside]
    decide +revert
  have embedded : curbIpv4IsUnsafeDestination ((ptr (ipv4Mapped a)).offset 12) =
      curbIpv4IsUnsafeDestination (ptr a) :=
    curbIpv4IsUnsafeDestination_congr fun i inside => ptr_append_right mappedHead a inside
  rw [curbIpv6IsUnsafeDestination, notZero, mapped, ← embedded]
  rfl

/-- An address under the well-known prefix is judged as the IPv4 address in it. -/
theorem nat64WellKnown_verdict (a : Ipv4) : curbIpv6IsUnsafeDestination (ptr (nat64WellKnown a)) =
    curbIpv4IsUnsafeDestination (ptr a) := by
  have byte {i : Nat} (inside : i < 12) : ptr (nat64WellKnown a) i = ptr wellKnownHead i :=
    ptr_append_left wellKnownHead a inside
  have notZero : curbIpv6IsAllZero (ptr (nat64WellKnown a)) = false := by
    apply curbIpv6IsAllZero_eq_false (show 1 < 16 by decide)
    rw [byte (by decide)]
    decide
  have unmapped : curbIpv6IsIpv4Mapped (ptr (nat64WellKnown a)) = false := by
    apply curbIpPrefixMatches_eq_false (show 1 < 12 by decide)
    rw [byte (by decide)]
    decide
  have wellKnown : curbIpv6IsNat64WellKnown (ptr (nat64WellKnown a)) = true := by
    apply (curbIpPrefixMatches_bytes _ _ 12).mpr
    intro i inside
    rw [byte inside]
    decide +revert
  have embedded : curbIpv4IsUnsafeDestination ((ptr (nat64WellKnown a)).offset 12) =
      curbIpv4IsUnsafeDestination (ptr a) :=
    curbIpv4IsUnsafeDestination_congr fun i inside => ptr_append_right wellKnownHead a inside
  rw [curbIpv6IsUnsafeDestination, notZero, unmapped, wellKnown, ← embedded]
  rfl

/-- An IPv4-compatible address is unsafe, whatever it carries. -/
theorem ipv4Compatible_verdict (a : Ipv4) :
    curbIpv6IsUnsafeDestination (ptr (ipv4Compatible a)) = true := by
  have byte {i : Nat} (inside : i < 12) : ptr (ipv4Compatible a) i = ptr compatibleHead i :=
    ptr_append_left compatibleHead a inside
  apply curbIpv6IsUnsafeDestination_of_zeros
  intro i inside
  rw [byte inside]
  decide +revert

/-- An address under the local-use prefix is unsafe. -/
theorem nat64LocalUse_verdict (rest : Vector (BitVec 8) 10) :
    curbIpv6IsUnsafeDestination (ptr (nat64LocalUse rest)) = true := by
  have byte {i : Nat} (inside : i < 6) : ptr (nat64LocalUse rest) i = ptr localUseHead i :=
    ptr_append_left localUseHead rest inside
  apply curbIpv6IsUnsafeDestination_of_localUse
  apply (curbIpPrefixMatches_bytes _ _ 6).mpr
  intro i inside
  rw [byte inside]
  decide +revert

/-- A 6to4 address is unsafe. It starts with `0x20`, which no test for an embedded form begins
with. -/
theorem sixToFour_verdict (a : Ipv4) (rest : Vector (BitVec 8) 10) :
    curbIpv6IsUnsafeDestination (ptr (sixToFour a rest)) = true := by
  have byte {i : Nat} (inside : i < 2) : ptr (sixToFour a rest) i = ptr sixToFourHead i :=
    ptr_append_left sixToFourHead (a ++ rest) inside
  have first : ptr (sixToFour a rest) 0 = 0x20 := byte (by decide)
  have second : ptr (sixToFour a rest) 1 = 0x02 := byte (by decide)
  have head : ptr (sixToFour a rest) 0 ≠ 0 := by
    rw [first]
    decide
  rw [curbIpv6IsUnsafeDestination_of_head head, first, second]
  simp

/-- Mapped and NAT64 addresses are unsafe exactly where their IPv4 address is; the other forms
always are. -/
theorem embedded_verdicts :
    (∀ a : Ipv4, curbIpv6IsUnsafeDestination (ptr (ipv4Mapped a)) =
      curbIpv4IsUnsafeDestination (ptr a)) ∧
    (∀ a : Ipv4, curbIpv6IsUnsafeDestination (ptr (nat64WellKnown a)) =
      curbIpv4IsUnsafeDestination (ptr a)) ∧
    (∀ a : Ipv4, curbIpv6IsUnsafeDestination (ptr (ipv4Compatible a)) = true) ∧
    (∀ (a : Ipv4) (rest : Vector (BitVec 8) 10),
      curbIpv6IsUnsafeDestination (ptr (sixToFour a rest)) = true) ∧
    ∀ rest : Vector (BitVec 8) 10,
      curbIpv6IsUnsafeDestination (ptr (nat64LocalUse rest)) = true :=
  ⟨ipv4Mapped_verdict, nat64WellKnown_verdict, ipv4Compatible_verdict, sixToFour_verdict,
    nat64LocalUse_verdict⟩

end Curb.Net

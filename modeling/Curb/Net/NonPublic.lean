import Curb.Net.Embedded

/-!
# The non-public address space

The blocks that are not globally reachable, and multicast, against the classifiers of the `:public`
policy, which is to block them (`ext/curb_easy.c:82-183`, `3454-3462`).
-/

namespace Curb.Net
open Curb.Misc

/-- A block of addresses, written as the bytes it starts with and the length of its prefix. -/
structure Block where
  bytes : List (BitVec 8)
  bits : Nat

/-- The address is in one of the blocks. -/
def InBlocks (blocks : List Block) (ip : BytePtr) : Prop :=
  ∃ block ∈ blocks, AgreeOnPrefix block.bits ip (constBytes block.bytes)

/-- 0/8, 10/8, 100.64/10, 127/8, 169.254/16, 172.16/12, 192.168/16, 192.0.0/24, 192.0.2/24, 198.18/15,
198.51.100/24, 203.0.113/24, 224/4 and 240/4. -/
def nonPublicIpv4 : List Block :=
  [⟨[0], 8⟩, ⟨[10], 8⟩, ⟨[100, 64], 10⟩, ⟨[127], 8⟩, ⟨[169, 254], 16⟩, ⟨[172, 16], 12⟩, ⟨[192, 168], 16⟩,
    ⟨[192, 0, 0], 24⟩, ⟨[192, 0, 2], 24⟩, ⟨[198, 18], 15⟩, ⟨[198, 51, 100], 24⟩, ⟨[203, 0, 113], 24⟩,
    ⟨[224], 4⟩, ⟨[240], 4⟩]

/-- ::, ::1, 64:ff9b:1::/48, 2001:2::/48, 2001:db8::/32, fc00::/7, fe80::/10 and ff00::/8. -/
def coveredIpv6 : List Block :=
  [⟨[0, 0, 0, 0, 0, 0, 0, 0, 0, 0, 0, 0, 0, 0, 0, 0], 128⟩,
    ⟨[0, 0, 0, 0, 0, 0, 0, 0, 0, 0, 0, 0, 0, 0, 0, 1], 128⟩, ⟨[0x00, 0x64, 0xff, 0x9b, 0x00, 0x01], 48⟩,
    ⟨[0x20, 0x01, 0x00, 0x02, 0x00, 0x00], 48⟩, ⟨[0x20, 0x01, 0x0d, 0xb8], 32⟩, ⟨[0xfc], 7⟩,
    ⟨[0xfe, 0x80], 10⟩, ⟨[0xff], 8⟩]

/-- 100::/64, 3fff::/20 and 5f00::/16, which no test of the classifier is about. -/
def missedIpv6 : List Block :=
  [⟨[0x01, 0x00, 0, 0, 0, 0, 0, 0], 64⟩, ⟨[0x3f, 0xff, 0x00], 20⟩, ⟨[0x5f, 0x00], 16⟩]

def nonPublicIpv6 : List Block := coveredIpv6 ++ missedIpv6

theorem inBlocks_append {first rest : List Block} {ip : BytePtr} :
    InBlocks (first ++ rest) ip ↔ InBlocks first ip ∨ InBlocks rest ip := by
  simp only [InBlocks, List.mem_append, or_and_right, exists_or]

theorem inBlocks_iff_any {blocks : List Block} {ip : BytePtr} :
    InBlocks blocks ip ↔ blocks.any fun block =>
      curbIpPrefixMatches ip (constBytes block.bytes) block.bits := by
  simp only [InBlocks, List.any_eq_true, curbIpPrefixMatches_iff]

/-! ## IPv4 -/

theorem privateByte_iff (byte : BitVec 8) : byte &&& 240#8 = 16#8 ↔ 16#8 ≤ byte ∧ byte ≤ 31#8 := by
  decide +revert

theorem benchmarkByte_iff (byte : BitVec 8) : byte &&& 254#8 = 18#8 ↔ byte = 18#8 ∨ byte = 19#8 := by
  decide +revert

theorem reservedByte_iff (byte : BitVec 8) :
    byte &&& 240#8 = 224#8 ∨ byte &&& 240#8 = 240#8 ↔ 224#8 ≤ byte := by
  decide +revert

/-- The IPv4 classifier covers its blocks and nothing else: 100.100.100.200 is in 100.64/10. -/
theorem curbIpv4IsUnsafeDestination_iff (ip : BytePtr) :
    curbIpv4IsUnsafeDestination ip = true ↔ InBlocks nonPublicIpv4 ip := by
  have metadata : ip 0 = 100#8 ∧ ip 1 = 100#8 ∧ ip 2 = 100#8 ∧ ip 3 = 200#8 →
      ip 0 = 100#8 ∧ ip 1 &&& 192#8 = 64#8 := by
    rintro ⟨first, second, -⟩
    rw [first, second]
    decide
  rw [inBlocks_iff_any]
  simp only [curbIpv4IsUnsafeDestination, nonPublicIpv4, curbIpPrefixMatches, constBytes]
  simp [List.range_succ, privateByte_iff, benchmarkByte_iff, reservedByte_iff, or_assoc, and_assoc]
  rw [← or_assoc (b := ip 0 = 100#8 ∧ ip 1 = 100#8 ∧ ip 2 = 100#8 ∧ ip 3 = 200#8),
    or_iff_left_of_imp metadata]

/-! ## IPv6 -/

theorem coveredIpv6_unsafe {ip : BytePtr} (covered : InBlocks coveredIpv6 ip) :
    curbIpv6IsUnsafeDestination ip = true := by
  obtain ⟨block, mem, agrees⟩ := covered
  rw [← curbIpPrefixMatches_iff] at agrees
  simp only [coveredIpv6, List.mem_cons, List.not_mem_nil, or_false] at mem
  rcases mem with rfl | rfl | rfl | rfl | rfl | rfl | rfl | rfl
  · have bytes := (curbIpPrefixMatches_bytes _ _ 16).mp agrees
    apply curbIpv6IsUnsafeDestination_of_zeros
    intro i inside
    rw [bytes i (by omega)]
    decide +revert
  · have bytes := (curbIpPrefixMatches_bytes _ _ 16).mp agrees
    apply curbIpv6IsUnsafeDestination_of_zeros
    intro i inside
    rw [bytes i (by omega)]
    decide +revert
  · exact curbIpv6IsUnsafeDestination_of_localUse agrees
  · have bytes := (curbIpPrefixMatches_bytes _ _ 6).mp agrees
    have head : ip 0 = 0x20 := bytes 0 (by decide)
    rw [curbIpv6IsUnsafeDestination_of_head (by rw [head]; decide), agrees]
    simp
  · have bytes := (curbIpPrefixMatches_bytes _ _ 4).mp agrees
    have head : ip 0 = 0x20 := bytes 0 (by decide)
    rw [curbIpv6IsUnsafeDestination_of_head (by rw [head]; decide), agrees]
    simp
  · have byte : ip 0 &&& 0xfe = 0xfc := by simpa [curbIpPrefixMatches, constBytes] using agrees
    have head : ip 0 ≠ 0 := by
      intro zero
      rw [zero] at byte
      exact absurd byte (by decide)
    rw [curbIpv6IsUnsafeDestination_of_head head, byte]
    simp
  · have bytes : ip 0 = 0xfe ∧ ip 1 &&& 0xc0 = 0x80 := by
      simpa [curbIpPrefixMatches, constBytes] using agrees
    rw [curbIpv6IsUnsafeDestination_of_head (by rw [bytes.1]; decide), bytes.1, bytes.2]
    simp
  · have byte : ip 0 = 0xff := (curbIpPrefixMatches_bytes _ _ 1).mp agrees 0 (by decide)
    rw [curbIpv6IsUnsafeDestination_of_head (by rw [byte]; decide), byte]
    simp

/-- What no test is about is taken for public. -/
theorem missedIpv6_safe {ip : BytePtr} (missed : InBlocks missedIpv6 ip) :
    curbIpv6IsUnsafeDestination ip = false := by
  obtain ⟨block, mem, agrees⟩ := missed
  rw [← curbIpPrefixMatches_iff] at agrees
  simp only [missedIpv6, List.mem_cons, List.not_mem_nil, or_false] at mem
  have byte : ip 0 = 0x01 ∨ ip 0 = 0x3f ∨ ip 0 = 0x5f := by
    rcases mem with rfl | rfl | rfl
    · exact Or.inl ((curbIpPrefixMatches_bytes _ _ 8).mp agrees 0 (by decide))
    · have bytes : (ip 0 = 0x3f ∧ ip 1 = 0xff) ∧ ip 2 &&& 0xf0 = 0 := by
        simpa [curbIpPrefixMatches, constBytes, List.range_succ] using agrees
      exact Or.inr (Or.inl bytes.1.1)
    · exact Or.inr (Or.inr ((curbIpPrefixMatches_bytes _ _ 2).mp agrees 0 (by decide)))
  have head : ip 0 ≠ 0 := by rcases byte with same | same | same <;> (rw [same]; decide)
  have other (pfx : List (BitVec 8)) (first : constBytes pfx 0 = 0x20) (bytes : Nat) (some : 0 < bytes) :
      curbIpPrefixMatches ip (constBytes pfx) (8 * bytes) = false := by
    apply curbIpPrefixMatches_eq_false some
    rw [first]
    rcases byte with same | same | same <;> (rw [same]; decide)
  have documentation := other [0x20, 0x01, 0x0d, 0xb8] rfl 4 (by decide)
  have benchmarking := other [0x20, 0x01, 0x00, 0x02, 0, 0] rfl 6 (by decide)
  rw [curbIpv6IsUnsafeDestination_of_head head, documentation, benchmarking]
  rcases byte with same | same | same <;> simp [same]

/-! ## The documented coverage -/

/-- An address of the non-public space is classified unsafe, unless it is in one of the blocks that no
test is about. -/
theorem nonPublic_unsafe_iff (ipv4 : Ipv4) (ipv6 : Ipv6) :
    (InBlocks nonPublicIpv4 (ptr ipv4) → curbIpv4IsUnsafeDestination (ptr ipv4) = true) ∧
    ((InBlocks nonPublicIpv6 (ptr ipv6) → curbIpv6IsUnsafeDestination (ptr ipv6) = true) ↔
      ¬InBlocks missedIpv6 (ptr ipv6)) := by
  refine ⟨(curbIpv4IsUnsafeDestination_iff (ptr ipv4)).mpr, ?_, ?_⟩
  · intro covers missed
    have isUnsafe := covers (inBlocks_append.mpr (Or.inr missed))
    rw [missedIpv6_safe missed] at isUnsafe
    cases isUnsafe
  · intro notMissed nonPublic
    rcases inBlocks_append.mp nonPublic with covered | missed
    · exact coveredIpv6_unsafe covered
    · exact absurd missed notMissed

/-- 100::1 is in a block that is for discarding traffic, and it is classified as public. -/
theorem discardOnly_isPublic :
    InBlocks nonPublicIpv6 (ptr #v[0x01, 0, 0, 0, 0, 0, 0, 0, 0, 0, 0, 0, 0, 0, 0, 1]) ∧
    curbIpv6IsUnsafeDestination (ptr #v[0x01, 0, 0, 0, 0, 0, 0, 0, 0, 0, 0, 0, 0, 0, 0, 1]) = false := by
  rw [inBlocks_iff_any]
  decide

end Curb.Net

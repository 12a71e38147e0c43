import Curb.Misc.BitPrefix

/-!
# Destination addresses

The peer-address classifiers of the `:public` network policy
(`ext/curb_easy.c:82-183`). A `const unsigned char *` is read as the bytes from the
pointer onwards; an `in_addr` or `in6_addr` is a vector of four or sixteen of them.
-/

namespace Curb.Net
open Curb.Misc

/-- What a `const unsigned char *` points at. -/
abbrev BytePtr := Nat → BitVec 8

/-- `in_addr`, in network byte order. -/
abbrev Ipv4 := Vector (BitVec 8) 4

/-- `in6_addr`, in network byte order. -/
abbrev Ipv6 := Vector (BitVec 8) 16

/-- The pointer to the first byte of a fixed-size array. -/
def ptr {n : Nat} (bytes : Vector (BitVec 8) n) : BytePtr := fun i => bytes.getD i 0

/-- Pointer arithmetic `ip + k`. -/
def BytePtr.offset (ip : BytePtr) (k : Nat) : BytePtr := fun i => ip (i + k)

/-- `curb_ipv4_is_unsafe_destination` (`curb_easy.c:82-99`). -/
def curbIpv4IsUnsafeDestination (ip : BytePtr) : Bool :=
  ip 0 == 0 ||
  ip 0 == 10 ||
  (ip 0 == 100 && ip 1 &&& 0xc0 == 0x40) ||
  (ip 0 == 100 && ip 1 == 100 && ip 2 == 100 && ip 3 == 200) ||
  ip 0 == 127 ||
  (ip 0 == 169 && ip 1 == 254) ||
  (ip 0 == 172 && 16 ≤ ip 1 && ip 1 ≤ 31) ||
  (ip 0 == 192 && ip 1 == 168) ||
  (ip 0 == 192 && ip 1 == 0 && ip 2 == 0) ||
  (ip 0 == 192 && ip 1 == 0 && ip 2 == 2) ||
  (ip 0 == 198 && (ip 1 == 18 || ip 1 == 19)) ||
  (ip 0 == 198 && ip 1 == 51 && ip 2 == 100) ||
  (ip 0 == 203 && ip 1 == 0 && ip 2 == 113) ||
  224 ≤ ip 0

/-- `curb_ip_prefix_matches` (`curb_easy.c:101-116`): a loop over the whole bytes, then one
byte under a mask of its leading bits. -/
def curbIpPrefixMatches (ip pfx : BytePtr) (bits : Nat) : Bool :=
  let fullBytes := bits / 8
  let remainingBits := bits % 8
  (List.range fullBytes).all (fun i => ip i == pfx i) &&
  (remainingBits == 0 ||
    let mask : BitVec 8 := 0xff#8 <<< (8 - remainingBits)
    ip fullBytes &&& mask == pfx fullBytes &&& mask)

/-- `curb_ipv6_is_all_zero` (`curb_easy.c:122-130`). -/
def curbIpv6IsAllZero (ip : BytePtr) : Bool := (List.range 16).all fun i => ip i == 0

/-- A `static const unsigned char prefix[]`. -/
def constBytes (bytes : List (BitVec 8)) : BytePtr := fun i => bytes.getD i 0

/-- `curb_ipv6_is_ipv4_mapped` (`curb_easy.c:132-138`). -/
def curbIpv6IsIpv4Mapped (ip : BytePtr) : Bool :=
  curbIpPrefixMatches ip (constBytes [0, 0, 0, 0, 0, 0, 0, 0, 0, 0, 0xff, 0xff]) 96

/-- `curb_ipv6_is_ipv4_compatible` (`curb_easy.c:140-146`). -/
def curbIpv6IsIpv4Compatible (ip : BytePtr) : Bool :=
  curbIpPrefixMatches ip (constBytes [0, 0, 0, 0, 0, 0, 0, 0, 0, 0, 0, 0]) 96

/-- `curb_ipv6_is_nat64_well_known` (`curb_easy.c:148-154`). -/
def curbIpv6IsNat64WellKnown (ip : BytePtr) : Bool :=
  curbIpPrefixMatches ip (constBytes [0x00, 0x64, 0xff, 0x9b, 0, 0, 0, 0, 0, 0, 0, 0]) 96

/-- `curb_ipv6_is_nat64_local_use` (`curb_easy.c:156-162`). -/
def curbIpv6IsNat64LocalUse (ip : BytePtr) : Bool :=
  curbIpPrefixMatches ip (constBytes [0x00, 0x64, 0xff, 0x9b, 0x00, 0x01]) 48

/-- `curb_ipv6_is_unsafe_destination` (`curb_easy.c:164-183`). The embedded IPv4 forms
answer with the IPv4 verdict before any of the later tests is reached. -/
def curbIpv6IsUnsafeDestination (ip : BytePtr) : Bool :=
  if curbIpv6IsAllZero ip then true
  else if curbIpv6IsIpv4Mapped ip then curbIpv4IsUnsafeDestination (ip.offset 12)
  else if curbIpv6IsNat64WellKnown ip then curbIpv4IsUnsafeDestination (ip.offset 12)
  else if curbIpv6IsNat64LocalUse ip then true
  else if curbIpv6IsIpv4Compatible ip then true
  else
    (ip 0 == 0 && ip 1 == 0 && ip 14 == 0 && ip 15 == 1) ||
    ip 0 &&& 0xfe == 0xfc ||
    (ip 0 == 0xfe && ip 1 &&& 0xc0 == 0x80) ||
    (ip 0 == 0xfe && ip 1 &&& 0xc0 == 0xc0) ||
    ip 0 == 0xff ||
    curbIpPrefixMatches ip (constBytes [0x20, 0x01, 0x0d, 0xb8]) 32 ||
    curbIpPrefixMatches ip (constBytes [0x20, 0x01, 0x00, 0x02, 0, 0]) 48 ||
    (ip 0 == 0x20 && ip 1 == 0x02)

/-- The byte loop with its masked last comparison decides agreement on the first `bits`
bits, whatever the bits after them are. -/
theorem curbIpPrefixMatches_iff (ip pfx : BytePtr) (bits : Nat) :
    curbIpPrefixMatches ip pfx bits = true ↔ AgreeOnPrefix bits ip pfx := by
  rw [agreeOnPrefix_iff_masked]
  simp only [curbIpPrefixMatches, Bool.and_eq_true, List.all_eq_true, List.mem_range, beq_iff_eq,
    Bool.or_eq_true, leadingMask]
  refine and_congr_right fun _ => ?_
  by_cases none : bits % 8 = 0
  · simp [none]
  · simp [none]

@[simp] theorem ptr_apply {n : Nat} (bytes : Vector (BitVec 8) n) {i : Nat} (hi : i < n) :
    ptr bytes i = bytes[i] := by
  simp [ptr, Vector.getD, hi]

end Curb.Net

import Curb.Net.Destination
import Curb.Ruby.Basic

/-!
# CIDR rules

The parser of one `allowed_cidrs` entry (`ext/curb_easy.c:185-271`), the list it is applied
to (`ext/curb_easy.c:273-298`) and the loop that matches an address against the prepared
rules (`ext/curb_easy.c:540-552`). `CidrText` says which texts are entries and what each one
means without going through the parser; `curbParseCidrRule_ok_iff` compares the two.
-/

namespace Curb.Net
open Curb.Misc Curb.Ruby

/-- `inet_pton` on its two families. Each field after the first two is what POSIX says of
the texts the family's addresses are written in. -/
structure InetPton where
  inet : Text → Option Ipv4
  inet6 : Text → Option Ipv6
  /-- Dotted decimal: digits and dots only. -/
  inet_chars : ∀ text ip, inet text = some ip → ∀ c ∈ text, c.isDigit = true ∨ c = '.'
  inet_dot : ∀ text ip, inet text = some ip → '.' ∈ text
  /-- Hexadecimal groups between colons, the last four bytes possibly dotted decimal. -/
  inet6_chars : ∀ text ip, inet6 text = some ip →
    ∀ c ∈ text, c.isDigit = true ∨ c ∈ "abcdefABCDEF:.".toList
  inet6_colon : ∀ text ip, inet6 text = some ip → ':' ∈ text

/-- `CURB_CIDR_FAMILY_IPV4` and `CURB_CIDR_FAMILY_IPV6`. -/
inductive CidrFamily where
  | ipv4
  | ipv6
  deriving DecidableEq, Repr

/-- The largest prefix length of a family (`max_prefix`). -/
def CidrFamily.maxPrefix : CidrFamily → Nat
  | .ipv4 => 32
  | .ipv6 => 128

/-- `curb_cidr_rule` (`curb_easy.h`). -/
structure CurbCidrRule where
  family : CidrFamily
  prefixBits : Nat
  address : Vector (BitVec 8) 16
  deriving DecidableEq, Repr

/-- A zeroed `rule->address` with the four bytes of an `in_addr` copied over its start. -/
def padIpv4 (ip : Ipv4) : Vector (BitVec 8) 16 := Vector.append ip (Vector.replicate 12 (0 : BitVec 8))

/-- The two `inet_pton` calls of `curb_parse_cidr_rule` (`curb_easy.c:243-253`), AF_INET first. -/
def InetPton.address (net : InetPton) (text : Text) : Option (CidrFamily × Vector (BitVec 8) 16) :=
  match net.inet text with
  | some ip => some (.ipv4, padIpv4 ip)
  | none => (net.inet6 text).map fun ip => (.ipv6, ip)

/-- `curb_raise_invalid_cidr` (`curb_easy.c:193-196`). -/
def curbRaiseInvalidCidr {α : Type} (cidr : Text) : Except RubyError α :=
  rbRaise .argumentError ("invalid CIDR range: ".toList ++ cidr)

/-- The address and the prefix text of an entry (`curb_easy.c:217-239`); `none` where the
bracket never closes or something else than a prefix follows it. -/
def splitCidr : Text → Option (Text × Option Text)
  | '[' :: rest =>
      match cutAt ']' rest with
      | none => none
      | some (address, []) => some (address, none)
      | some (address, '/' :: prefixStr) => some (address, some prefixStr)
      | some _ => none
  | text =>
      match cutAt '/' text with
      | none => some (text, none)
      | some (address, prefixStr) => some (address, some prefixStr)

/-- The prefix length of an entry (`curb_easy.c:255-267`): `none` where it is rejected. -/
def cidrPrefix (maxPrefix : Nat) : Option Text → Option Int
  | none => some maxPrefix
  | some prefixStr =>
      if prefixStr = [] then none
      else
        let read := strtol prefixStr
        if read.rangeError || read.rest ≠ [] || read.value < 0 || (maxPrefix : Int) < read.value then
          none
        else some read.value

/-- `curb_parse_cidr_rule` (`curb_easy.c:198-271`). The last assignment casts the prefix to
`unsigned char`. -/
def curbParseCidrRule (net : InetPton) (cidr : Text) : Except RubyError CurbCidrRule :=
  if cidr = [] then curbRaiseInvalidCidr cidr
  else
    match splitCidr cidr with
    | none => curbRaiseInvalidCidr cidr
    | some (addressText, prefixStr) =>
        match net.address addressText with
        | none => curbRaiseInvalidCidr cidr
        | some (family, address) =>
            match cidrPrefix family.maxPrefix prefixStr with
            | none => curbRaiseInvalidCidr cidr
            | some bits => .ok ⟨family, bits.toNat % 256, address⟩

/-- One round of the loop of `curb_normalize_cidr_list` (`curb_easy.c:287-294`). -/
def curbNormalizeCidrStep (net : InetPton) (normalized : List Text) (cidr : Text) :
    Except RubyError (List Text) := do
  let cstr ← stringValueCStr cidr
  let _ ← curbParseCidrRule net cstr
  if cidr ∈ normalized then .ok normalized else .ok (normalized ++ [cidr])

/-- `curb_normalize_cidr_list` (`curb_easy.c:273-298`). -/
def curbNormalizeCidrList (net : InetPton) (cidrs : ListArgument) :
    Except RubyError (Option (List Text)) :=
  match cidrs.items with
  | none => .ok none
  | some list => do
      let normalized ← list.foldlM (curbNormalizeCidrStep net) []
      .ok (some normalized)

/-- The rules `curb_prepare_network_allowed_cidr_rules` builds from the stored entries
(`curb_easy.c:524-538`). -/
def curbCidrRules (net : InetPton) (cidrs : Option (List Text)) :
    Except RubyError (List CurbCidrRule) :=
  (cidrs.getD []).mapM fun cidr => do curbParseCidrRule net (← stringValueCStr cidr)

/-- `curb_cidr_rules_match` (`curb_easy.c:540-552`). -/
def curbCidrRulesMatch (rules : List CurbCidrRule) (family : CidrFamily) (ip : BytePtr) : Bool :=
  rules.isEmpty ||
  rules.any fun rule =>
    rule.family == family && curbIpPrefixMatches ip (ptr rule.address) rule.prefixBits

/-! ## The entries and their meaning -/

/-- The prefix part of an entry for addresses of `n` bytes and the length it stands for. -/
inductive PrefixText (n : Nat) : Text → Nat → Prop
  | absent : PrefixText n [] (8 * n)
  | given {prefixStr : Text} {bits : Nat} (reads : DecimalText prefixStr bits)
      (bounded : bits ≤ 8 * n) : PrefixText n ('/' :: prefixStr) bits

theorem PrefixText.given_inv {n : Nat} {prefixStr : Text} {bits : Nat}
    (length : PrefixText n ('/' :: prefixStr) bits) :
    DecimalText prefixStr bits ∧ bits ≤ 8 * n := by
  cases length with
  | given reads bounded => exact ⟨reads, bounded⟩

/-- The entries for addresses of `n` bytes, with the address and the prefix length each one
names. `inetPton` reads the addresses of the family. -/
inductive CidrText {n : Nat} (inetPton : Text → Option (Vector (BitVec 8) n)) :
    Text → Vector (BitVec 8) n → Nat → Prop
  | plain {address rest : Text} {ip : Vector (BitVec 8) n} {bits : Nat}
      (read : inetPton address = some ip) (length : PrefixText n rest bits) :
      CidrText inetPton (address ++ rest) ip bits
  | bracketed {address rest : Text} {ip : Vector (BitVec 8) n} {bits : Nat}
      (read : inetPton address = some ip) (length : PrefixText n rest bits) :
      CidrText inetPton ('[' :: (address ++ ']' :: rest)) ip bits

/-- The text after the address: nothing, or a slash and the prefix. -/
def prefixRest : Option Text → Text
  | none => []
  | some prefixStr => '/' :: prefixStr

/-- A text the address part of an entry cannot be told apart from: it has no delimiter. -/
def PlainAddress (text : Text) : Prop := ∀ c ∈ text, c ≠ '/' ∧ c ≠ '[' ∧ c ≠ ']'

namespace InetPton
variable (net : InetPton)

theorem plain_of_inet {text : Text} {ip : Ipv4} (read : net.inet text = some ip) :
    PlainAddress text := by
  intro c mem
  rcases net.inet_chars text ip read c mem with digit | rfl
  · refine ⟨?_, ?_, ?_⟩ <;> (rintro rfl; exact absurd digit (by decide))
  · decide

theorem plain_of_inet6 {text : Text} {ip : Ipv6} (read : net.inet6 text = some ip) :
    PlainAddress text := by
  intro c mem
  rcases net.inet6_chars text ip read c mem with digit | listed
  · refine ⟨?_, ?_, ?_⟩ <;> (rintro rfl; exact absurd digit (by decide))
  · refine ⟨?_, ?_, ?_⟩ <;> (rintro rfl; exact absurd listed (by decide))

/-- No text is an address of both families: one has a colon, the other cannot. -/
theorem inet_none_of_inet6 {text : Text} {ip : Ipv6} (read : net.inet6 text = some ip) :
    net.inet text = none := by
  rw [Option.eq_none_iff_forall_ne_some]
  intro ip4 read4
  have colon := net.inet_chars text ip4 read4 ':' (net.inet6_colon text ip read)
  exact absurd colon (by decide)

theorem address_eq_some_iff {text : Text} {family : CidrFamily} {address : Vector (BitVec 8) 16} :
    net.address text = some (family, address) ↔
      (∃ ip, net.inet text = some ip ∧ family = .ipv4 ∧ address = padIpv4 ip) ∨
      (net.inet6 text = some address ∧ family = .ipv6) := by
  unfold InetPton.address
  cases read4 : net.inet text with
  | some ip =>
    have no6 : ∀ ip6, net.inet6 text ≠ some ip6 := fun ip6 read6 => by
      rw [net.inet_none_of_inet6 read6] at read4
      cases read4
    simp [no6, eq_comm]
  | none =>
    simp only [Option.map_eq_some_iff, Prod.mk.injEq, reduceCtorEq, false_and, exists_false,
      false_or]
    constructor
    · rintro ⟨ip, read6, rfl, rfl⟩
      exact ⟨read6, rfl⟩
    · rintro ⟨read6, rfl⟩
      exact ⟨address, read6, rfl, rfl⟩

theorem address_nil : net.address [] = none := by
  rw [Option.eq_none_iff_forall_ne_some]
  rintro ⟨family, address⟩ found
  rcases net.address_eq_some_iff.mp found with ⟨ip, read4, _, _⟩ | ⟨read6, _⟩
  · exact absurd (net.inet_dot [] ip read4) (by simp)
  · exact absurd (net.inet6_colon [] address read6) (by simp)

end InetPton

/-- The split leaves an entry's text either as address and prefix, or the same in brackets. -/
theorem splitCidr_sound {text address : Text} {prefixStr : Option Text}
    (split : splitCidr text = some (address, prefixStr)) :
    text = address ++ prefixRest prefixStr ∨
      text = '[' :: (address ++ ']' :: prefixRest prefixStr) := by
  unfold splitCidr at split
  split at split
  · rename_i rest
    right
    cases found : cutAt ']' rest with
    | none => simp [found] at split
    | some halves =>
      obtain ⟨before, after⟩ := halves
      obtain ⟨whole, _⟩ := cutAt_eq_some_iff.mp found
      match after, found, whole with
      | [], found, whole =>
        simp only [found, Option.some.injEq, Prod.mk.injEq] at split
        obtain ⟨rfl, rfl⟩ := split
        rw [whole, prefixRest]
      | c :: tail, found, whole =>
        by_cases slash : c = '/'
        · subst slash
          simp only [found, Option.some.injEq, Prod.mk.injEq] at split
          obtain ⟨rfl, rfl⟩ := split
          rw [whole, prefixRest]
        · simp [found, slash] at split
  · rename_i _ notBracket
    left
    cases found : cutAt '/' text with
    | none =>
      simp only [found, Option.some.injEq, Prod.mk.injEq] at split
      obtain ⟨rfl, rfl⟩ := split
      rw [prefixRest, List.append_nil]
    | some halves =>
      simp only [found, Option.some.injEq, Prod.mk.injEq] at split
      obtain ⟨rfl, rfl⟩ := split
      exact (cutAt_eq_some_iff.mp found).1

theorem splitCidr_plain {address : Text} (plain : PlainAddress address) (nonempty : address ≠ [])
    (prefixStr : Option Text) :
    splitCidr (address ++ prefixRest prefixStr) = some (address, prefixStr) := by
  have noSlash : '/' ∉ address := fun mem => (plain '/' mem).1 rfl
  have head : ∀ rest, address ++ prefixRest prefixStr ≠ '[' :: rest := by
    intro rest same
    cases address with
    | nil => exact nonempty rfl
    | cons c cs => exact (plain c (by simp)).2.1 (List.cons.inj same).1
  unfold splitCidr
  split
  · rename_i rest same
    exact absurd same (head rest)
  · cases prefixStr with
    | none =>
      rw [prefixRest, List.append_nil, cutAt_eq_none_iff.mpr noSlash]
    | some prefixStr =>
      rw [prefixRest, cutAt_eq_some_iff.mpr ⟨rfl, noSlash⟩]

theorem splitCidr_bracketed {address : Text} (plain : PlainAddress address)
    (prefixStr : Option Text) :
    splitCidr ('[' :: (address ++ ']' :: prefixRest prefixStr)) = some (address, prefixStr) := by
  have noClosing : ']' ∉ address := fun mem => (plain ']' mem).2.2 rfl
  have cut : cutAt ']' (address ++ ']' :: prefixRest prefixStr) =
      some (address, prefixRest prefixStr) := cutAt_eq_some_iff.mpr ⟨rfl, noClosing⟩
  simp only [splitCidr, cut]
  cases prefixStr with
  | none => rfl
  | some prefixStr => rfl

/-- The prefix an entry is read with is the one its prefix text stands for. -/
theorem cidrPrefix_eq_some_iff {n : Nat} (small : n ≤ 16) (prefixStr : Option Text) (bits : Int) :
    cidrPrefix (8 * n) prefixStr = some bits ↔
      ∃ p : Nat, bits = p ∧ PrefixText n (prefixRest prefixStr) p := by
  cases prefixStr with
  | none =>
    simp only [cidrPrefix, prefixRest, Option.some.injEq]
    constructor
    · rintro rfl
      exact ⟨8 * n, rfl, .absent⟩
    · rintro ⟨p, rfl, length⟩
      cases length
      rfl
  | some text =>
    simp only [cidrPrefix, prefixRest]
    by_cases empty : text = []
    · subst empty
      simp only [if_true, reduceCtorEq, false_iff]
      rintro ⟨p, -, length⟩
      obtain ⟨reads, -⟩ := length.given_inv
      obtain ⟨spaces, sign, digits, split, -, some_digit, -⟩ := reads
      exact some_digit (by simpa using (List.append_eq_nil_iff.mp split.symm).2)
    · have whole := strtol_whole_iff empty
      have fits : ∀ p : Nat, p ≤ 8 * n → longMin ≤ (p : Int) ∧ (p : Int) ≤ longMax := by
        intro p bounded
        have : longMin ≤ 0 := by decide
        have : (128 : Int) ≤ longMax := by decide
        omega
      simp only [empty, if_false, Option.ite_none_left_eq_some, Bool.or_eq_true,
        decide_eq_true_eq, not_or, Bool.not_eq_true, ne_eq, not_not, Int.not_lt,
        Option.some.injEq]
      constructor
      · rintro ⟨⟨⟨⟨inRange, rest⟩, nonneg⟩, bounded⟩, rfl⟩
        obtain ⟨p, same⟩ := Int.eq_ofNat_of_zero_le nonneg
        refine ⟨p, same, .given ?_ (by omega)⟩
        exact ((whole p).mp ⟨inRange, rest, same⟩).1
      · rintro ⟨p, rfl, length⟩
        obtain ⟨reads, bounded⟩ := length.given_inv
        obtain ⟨inRange, rest, same⟩ := (whole p).mpr ⟨reads, fits p bounded⟩
        exact ⟨⟨⟨⟨inRange, rest⟩, by omega⟩, by omega⟩, same⟩

theorem PrefixText.le {n : Nat} {rest : Text} {bits : Nat} (length : PrefixText n rest bits) :
    bits ≤ 8 * n := by
  cases length with
  | absent => exact le_refl _
  | given _ bounded => exact bounded

theorem CidrText.le {n : Nat} {inetPton : Text → Option (Vector (BitVec 8) n)} {text : Text}
    {ip : Vector (BitVec 8) n} {bits : Nat} (entry : CidrText inetPton text ip bits) :
    bits ≤ 8 * n := by
  cases entry with
  | plain _ length => exact length.le
  | bracketed _ length => exact length.le

theorem PrefixText.exists_rest {n : Nat} {rest : Text} {bits : Nat}
    (length : PrefixText n rest bits) : ∃ prefixStr, rest = prefixRest prefixStr := by
  cases length with
  | absent => exact ⟨none, rfl⟩
  | given _ _ => exact ⟨some _, rfl⟩

/-- The entries of one family, as the parser takes them apart. -/
theorem cidrText_iff_split {n : Nat} (small : n ≤ 16)
    {inetPton : Text → Option (Vector (BitVec 8) n)}
    (plain : ∀ text ip, inetPton text = some ip → PlainAddress text ∧ text ≠ [])
    {text : Text} {ip : Vector (BitVec 8) n} {bits : Nat} :
    CidrText inetPton text ip bits ↔
      ∃ address prefixStr, splitCidr text = some (address, prefixStr) ∧
        inetPton address = some ip ∧ cidrPrefix (8 * n) prefixStr = some (bits : Int) := by
  constructor
  · intro entry
    cases entry with
    | plain read length =>
      obtain ⟨prefixStr, rfl⟩ := length.exists_rest
      have prefixBits := (cidrPrefix_eq_some_iff small prefixStr bits).mpr ⟨bits, rfl, length⟩
      have isPlain := plain _ _ read
      exact ⟨_, prefixStr, splitCidr_plain isPlain.1 isPlain.2 prefixStr, read, prefixBits⟩
    | bracketed read length =>
      obtain ⟨prefixStr, rfl⟩ := length.exists_rest
      have prefixBits := (cidrPrefix_eq_some_iff small prefixStr bits).mpr ⟨bits, rfl, length⟩
      exact ⟨_, prefixStr, splitCidr_bracketed (plain _ _ read).1 prefixStr, read, prefixBits⟩
  · rintro ⟨address, prefixStr, split, read, prefixBits⟩
    obtain ⟨p, same, length⟩ := (cidrPrefix_eq_some_iff small prefixStr bits).mp prefixBits
    obtain rfl := Int.ofNat_inj.mp same
    rcases splitCidr_sound split with rfl | rfl
    · exact .plain read length
    · exact .bracketed read length

theorem InetPton.inet_plain (net : InetPton) (text : Text) (ip : Ipv4)
    (read : net.inet text = some ip) : PlainAddress text ∧ text ≠ [] := by
  refine ⟨net.plain_of_inet read, ?_⟩
  rintro rfl
  exact absurd (net.inet_dot [] ip read) (by simp)

theorem InetPton.inet6_plain (net : InetPton) (text : Text) (ip : Ipv6)
    (read : net.inet6 text = some ip) : PlainAddress text ∧ text ≠ [] := by
  refine ⟨net.plain_of_inet6 read, ?_⟩
  rintro rfl
  exact absurd (net.inet6_colon [] ip read) (by simp)

/-- The parser accepts exactly the entries, each with the address and the prefix length it
names. -/
theorem curbParseCidrRule_ok_iff (net : InetPton) {text : Text} {rule : CurbCidrRule} :
    curbParseCidrRule net text = .ok rule ↔
      (∃ ip bits, CidrText net.inet text ip bits ∧ rule = ⟨.ipv4, bits, padIpv4 ip⟩) ∨
      (∃ ip bits, CidrText net.inet6 text ip bits ∧ rule = ⟨.ipv6, bits, ip⟩) := by
  have parsed : curbParseCidrRule net text = .ok rule ↔
      ∃ address prefixStr family bytes bits, splitCidr text = some (address, prefixStr) ∧
        net.address address = some (family, bytes) ∧
        cidrPrefix family.maxPrefix prefixStr = some bits ∧
        rule = ⟨family, bits.toNat % 256, bytes⟩ := by
    unfold curbParseCidrRule curbRaiseInvalidCidr rbRaise
    by_cases empty : text = []
    · subst empty
      simp [splitCidr, cutAt, net.address_nil]
    · simp only [empty, if_false]
      cases split : splitCidr text with
      | none => simp
      | some parts =>
        obtain ⟨address, prefixStr⟩ := parts
        cases read : net.address address with
        | none => simp [read]
        | some found =>
          obtain ⟨family, bytes⟩ := found
          cases prefixBits : cidrPrefix family.maxPrefix prefixStr with
          | none => simp [read, prefixBits]
          | some bits => simp [read, prefixBits, eq_comm]
  rw [parsed]
  constructor
  · rintro ⟨address, prefixStr, family, bytes, bits, split, read, prefixBits, rfl⟩
    rcases net.address_eq_some_iff.mp read with ⟨ip, read4, rfl, rfl⟩ | ⟨read6, rfl⟩
    · left
      obtain ⟨p, rfl, length⟩ := (cidrPrefix_eq_some_iff (n := 4) (by omega) _ _).mp prefixBits
      have small := length.le
      refine ⟨ip, p, (cidrText_iff_split (by omega) net.inet_plain).mpr
        ⟨address, prefixStr, split, read4, prefixBits⟩, ?_⟩
      rw [Int.toNat_natCast, Nat.mod_eq_of_lt (by omega)]
    · right
      obtain ⟨p, rfl, length⟩ := (cidrPrefix_eq_some_iff (n := 16) (by omega) _ _).mp prefixBits
      have small := length.le
      refine ⟨bytes, p, (cidrText_iff_split (by omega) net.inet6_plain).mpr
        ⟨address, prefixStr, split, read6, prefixBits⟩, ?_⟩
      rw [Int.toNat_natCast, Nat.mod_eq_of_lt (by omega)]
  · rintro (⟨ip, p, entry, rfl⟩ | ⟨ip, p, entry, rfl⟩)
    · have small := entry.le
      obtain ⟨address, prefixStr, split, read, prefixBits⟩ :=
        (cidrText_iff_split (by omega) net.inet_plain).mp entry
      refine ⟨address, prefixStr, .ipv4, padIpv4 ip, p, split, ?_, prefixBits, ?_⟩
      · exact net.address_eq_some_iff.mpr (Or.inl ⟨ip, read, rfl, rfl⟩)
      · rw [Int.toNat_natCast, Nat.mod_eq_of_lt (by omega)]
    · have small := entry.le
      obtain ⟨address, prefixStr, split, read, prefixBits⟩ :=
        (cidrText_iff_split (by omega) net.inet6_plain).mp entry
      refine ⟨address, prefixStr, .ipv6, ip, p, split, ?_, prefixBits, ?_⟩
      · exact net.address_eq_some_iff.mpr (Or.inr ⟨read, rfl⟩)
      · rw [Int.toNat_natCast, Nat.mod_eq_of_lt (by omega)]

/-! ## The list of entries -/

/-- An entry the setter accepts and the rule it becomes. -/
def CidrEntry (net : InetPton) (cidr : Text) (rule : CurbCidrRule) : Prop :=
  Char.ofNat 0 ∉ cidr ∧ curbParseCidrRule net cidr = .ok rule

theorem curbCidrRule_ok_iff (net : InetPton) {cidr : Text} {rule : CurbCidrRule} :
    (do curbParseCidrRule net (← stringValueCStr cidr)) = .ok rule ↔ CidrEntry net cidr rule := by
  rw [except_bind_eq_ok_iff, CidrEntry]
  unfold stringValueCStr rbRaise
  by_cases nul : Char.ofNat 0 ∈ cidr
  · simp [nul]
  · simp [nul]

theorem curbNormalizeCidrStep_ok_iff (net : InetPton) {normalized result : List Text}
    {cidr : Text} :
    curbNormalizeCidrStep net normalized cidr = .ok result ↔
      (∃ rule, CidrEntry net cidr rule) ∧
      result = if cidr ∈ normalized then normalized else normalized ++ [cidr] := by
  unfold curbNormalizeCidrStep CidrEntry stringValueCStr rbRaise
  by_cases nul : Char.ofNat 0 ∈ cidr
  · simp [nul]
  · cases parsed : curbParseCidrRule net cidr with
    | error e => simp [nul, parsed]
    | ok rule =>
      by_cases known : cidr ∈ normalized
      · simp [nul, parsed, known, eq_comm]
      · simp [nul, parsed, known, eq_comm]

/-- The list normalised so far holds the entries read so far, all of them accepted. -/
def NormalizedFrom (net : InetPton) (done normalized : List Text) : Prop :=
  (∀ cidr, cidr ∈ normalized ↔ cidr ∈ done) ∧ ∀ cidr ∈ normalized, ∃ rule, CidrEntry net cidr rule

theorem curbNormalizeCidrStep_normalizedFrom (net : InetPton) (done normalized : List Text)
    (cidr : Text) (result : List Text) (before : NormalizedFrom net done normalized)
    (step : curbNormalizeCidrStep net normalized cidr = .ok result) :
    NormalizedFrom net (done ++ [cidr]) result := by
  obtain ⟨same, accepted⟩ := before
  obtain ⟨entry, rfl⟩ := (curbNormalizeCidrStep_ok_iff net).mp step
  split
  · rename_i known
    refine ⟨?_, accepted⟩
    intro other
    rw [same other, List.mem_append, List.mem_singleton]
    constructor
    · exact Or.inl
    · rintro (mem | rfl)
      · exact mem
      · exact (same other).mp known
  · refine ⟨?_, ?_⟩
    · intro other
      rw [List.mem_append, List.mem_append, same other]
    · intro other mem
      rcases List.mem_append.mp mem with old | new
      · exact accepted other old
      · rw [List.mem_singleton.mp new]
        exact entry

/-- A normalised list has the given entries, every one of them accepted by the parser. -/
theorem curbNormalizeCidrList_ok {net : InetPton} {cidrs : ListArgument}
    {stored : Option (List Text)} (ok : curbNormalizeCidrList net cidrs = .ok stored) :
    (stored = none ↔ cidrs.items = none) ∧
    (∀ cidr, cidr ∈ stored.getD [] ↔ cidr ∈ cidrs.items.getD []) ∧
    ∀ cidr ∈ stored.getD [], ∃ rule, CidrEntry net cidr rule := by
  unfold curbNormalizeCidrList at ok
  cases items : cidrs.items with
  | none =>
    rw [items] at ok
    cases ok
    simp
  | some list =>
    rw [items] at ok
    obtain ⟨normalized, run, same⟩ := except_bind_eq_ok_iff.mp ok
    cases same
    have kept := except_foldlM_induction (P := NormalizedFrom net)
      (curbNormalizeCidrStep_normalizedFrom net) (show NormalizedFrom net [] [] by
        simp [NormalizedFrom]) run
    rw [List.nil_append] at kept
    exact ⟨by simp, kept.1, kept.2⟩

theorem exists_entries (net : InetPton) {list : List Text}
    (accepted : ∀ cidr ∈ list, ∃ rule, CidrEntry net cidr rule) :
    ∃ rules, List.Forall₂ (CidrEntry net) list rules := by
  induction list with
  | nil => exact ⟨[], .nil⟩
  | cons cidr rest ih =>
    obtain ⟨rule, entry⟩ := accepted cidr (by simp)
    obtain ⟨rules, more⟩ := ih fun other mem => accepted other (by simp [mem])
    exact ⟨rule :: rules, .cons entry more⟩

theorem mem_rules_iff (net : InetPton) {list : List Text} {rules : List CurbCidrRule}
    (entries : List.Forall₂ (CidrEntry net) list rules) {rule : CurbCidrRule} :
    rule ∈ rules ↔ ∃ cidr ∈ list, CidrEntry net cidr rule := by
  induction entries with
  | nil => simp
  | @cons cidr head rest tail entry _ ih =>
    have unique : ∀ other, CidrEntry net cidr other ↔ other = head := by
      intro other
      rw [CidrEntry, entry.2, Except.ok.injEq]
      exact ⟨fun h => h.2.symm, fun h => ⟨entry.1, h.symm⟩⟩
    rw [List.mem_cons, ih, List.exists_mem_cons_iff, unique]

/-- Once every stored entry is accepted, preparing the rules succeeds, and the rules are
those of the entries. -/
theorem curbCidrRules_ok {net : InetPton} {cidrs : Option (List Text)}
    (accepted : ∀ cidr ∈ cidrs.getD [], ∃ rule, CidrEntry net cidr rule) :
    ∃ rules, curbCidrRules net cidrs = .ok rules ∧
      ∀ rule, rule ∈ rules ↔ ∃ cidr ∈ cidrs.getD [], CidrEntry net cidr rule := by
  obtain ⟨rules, entries⟩ := exists_entries net accepted
  refine ⟨rules, ?_, fun rule => mem_rules_iff net entries⟩
  refine except_mapM_eq_ok_iff.mpr (entries.imp ?_)
  intro cidr rule entry
  exact (curbCidrRule_ok_iff net).mpr entry

theorem curbCidrRulesMatch_iff (rules : List CurbCidrRule) (family : CidrFamily) (ip : BytePtr) :
    curbCidrRulesMatch rules family ip = true ↔
      rules = [] ∨ ∃ rule ∈ rules, rule.family = family ∧
        AgreeOnPrefix rule.prefixBits ip (ptr rule.address) := by
  simp only [curbCidrRulesMatch, Bool.or_eq_true, List.isEmpty_iff, List.any_eq_true,
    Bool.and_eq_true, beq_iff_eq, curbIpPrefixMatches_iff]

/-- The zero bytes behind a padded IPv4 address are never compared. -/
theorem agreeOnPrefix_padIpv4 {bits : Nat} (small : bits ≤ 32) (ip : BytePtr) (address : Ipv4) :
    AgreeOnPrefix bits ip (ptr (padIpv4 address)) ↔ AgreeOnPrefix bits ip (ptr address) := by
  refine AgreeOnPrefix.congr_right fun j hj => ?_
  have inside : j < 4 := by omega
  rw [ptr_apply _ (show j < 16 by omega), ptr_apply _ inside, padIpv4]
  exact Vector.getElem_append_left inside

end Curb.Net

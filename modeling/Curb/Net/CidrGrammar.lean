import Curb.Net.Cidr

/-!
# The grammar of CIDR entries

An entry is an address, in brackets or not, and may have a slash and a prefix length in decimal digits
after it. The parser hands the prefix to `strtol` (`ext/curb_easy.c:255-267`), which skips white space and
takes a sign, so it accepts more texts than these, and no others.
-/

namespace Curb.Net
open Curb.Misc Curb.Ruby

/-- The prefix part of an entry for addresses of `n` bytes: none, or a slash and digits. -/
inductive DigitPrefix (n : Nat) : Text → Nat → Prop
  | absent : DigitPrefix n [] (8 * n)
  | given {digits : Text} (nonempty : digits ≠ []) (digit : ∀ c ∈ digits, c.isDigit = true)
      (bounded : decimal digits ≤ 8 * n) : DigitPrefix n ('/' :: digits) (decimal digits)

/-- The entries for addresses of `n` bytes, with the address and the prefix length of each. -/
inductive CidrGrammar {n : Nat} (inetPton : Text → Option (Vector (BitVec 8) n)) :
    Text → Vector (BitVec 8) n → Nat → Prop
  | plain {address rest : Text} {ip : Vector (BitVec 8) n} {bits : Nat}
      (read : inetPton address = some ip) (length : DigitPrefix n rest bits) :
      CidrGrammar inetPton (address ++ rest) ip bits
  | bracketed {address rest : Text} {ip : Vector (BitVec 8) n} {bits : Nat}
      (read : inetPton address = some ip) (length : DigitPrefix n rest bits) :
      CidrGrammar inetPton ('[' :: (address ++ ']' :: rest)) ip bits

/-- The rule of an entry: the family, the bytes and the prefix length. -/
def RuleOf (net : InetPton) (text : Text) (rule : CurbCidrRule) : Prop :=
  (∃ ip bits, CidrGrammar net.inet text ip bits ∧ rule = ⟨.ipv4, bits, padIpv4 ip⟩) ∨
  (∃ ip bits, CidrGrammar net.inet6 text ip bits ∧ rule = ⟨.ipv6, bits, ip⟩)

/-- The parser returns the rule of an entry, and raises `ArgumentError` where the text is none. -/
def ParsesExactly (net : InetPton) (text : Text) : Prop :=
  (∀ rule, curbParseCidrRule net text = .ok rule ↔ RuleOf net text rule) ∧
  ((∀ rule, ¬RuleOf net text rule) →
    ∃ message, curbParseCidrRule net text = .error ⟨.argumentError, message⟩)

/-- A prefix that is a number in range, but begins with white space or a sign. -/
def SpacedOrSigned (n : Nat) (prefixStr : Text) : Prop :=
  (∃ bits : Nat, DecimalText prefixStr bits ∧ bits ≤ 8 * n) ∧
    ∃ c ∈ prefixStr.head?, isSpace c = true ∨ c = '+' ∨ c = '-'

/-- The entry is an address with such a prefix. -/
def LooseEntry {n : Nat} (inetPton : Text → Option (Vector (BitVec 8) n)) (text : Text) : Prop :=
  ∃ address prefixStr, (inetPton address).isSome ∧ SpacedOrSigned n prefixStr ∧
    (text = address ++ '/' :: prefixStr ∨ text = '[' :: (address ++ ']' :: '/' :: prefixStr))

/-! ## Digits -/

theorem decimalText_of_digits {digits : Text} (nonempty : digits ≠ [])
    (digit : ∀ c ∈ digits, c.isDigit = true) : DecimalText digits (decimal digits) :=
  ⟨[], [], digits, rfl, nofun, nonempty, digit, Or.inl ⟨Or.inl rfl, rfl⟩⟩

/-- A number that does not begin with white space or a sign is written in digits. -/
theorem digits_of_decimalText {text : Text} {value : Int} (reads : DecimalText text value)
    (plain : ∀ c ∈ text.head?, isSpace c = false ∧ c ≠ '+' ∧ c ≠ '-') :
    text ≠ [] ∧ (∀ c ∈ text, c.isDigit = true) ∧ value = decimal text := by
  obtain ⟨spaces, sign, digits, rfl, blank, some_digit, digit, reads⟩ := reads
  cases spaces with
  | cons c rest =>
    have notBlank := (plain c rfl).1
    rw [blank c List.mem_cons_self] at notBlank
    cases notBlank
  | nil =>
    rcases reads with ⟨rfl | rfl, same⟩ | ⟨rfl, same⟩
    · exact ⟨some_digit, digit, same⟩
    · exact absurd rfl (plain '+' rfl).2.1
    · exact absurd rfl (plain '-' rfl).2.2

theorem not_spacedOrSigned_of_digits {n : Nat} {digits : Text}
    (digit : ∀ c ∈ digits, c.isDigit = true) : ¬SpacedOrSigned n digits := by
  rintro ⟨-, c, head, loose⟩
  have isDigit := digit c (List.mem_of_mem_head? head)
  rcases loose with blank | rfl | rfl
  · rw [isSpace_eq_false_of_isDigit isDigit] at blank
    cases blank
  · exact absurd isDigit (by decide)
  · exact absurd isDigit (by decide)

/-! ## The grammar and what the parser reads -/

theorem DigitPrefix.prefixText {n : Nat} {rest : Text} {bits : Nat} (length : DigitPrefix n rest bits) :
    PrefixText n rest bits := by
  cases length with
  | absent => exact .absent
  | given nonempty digit bounded => exact .given (decimalText_of_digits nonempty digit) bounded

theorem CidrGrammar.cidrText {n : Nat} {inetPton : Text → Option (Vector (BitVec 8) n)} {text : Text}
    {ip : Vector (BitVec 8) n} {bits : Nat} (entry : CidrGrammar inetPton text ip bits) :
    CidrText inetPton text ip bits := by
  cases entry with
  | plain read length => exact .plain read length.prefixText
  | bracketed read length => exact .bracketed read length.prefixText

/-- A prefix the parser reads is one of the grammar, or begins with white space or a sign. -/
theorem PrefixText.digitPrefix {n : Nat} {rest : Text} {bits : Nat} (length : PrefixText n rest bits) :
    DigitPrefix n rest bits ∨ ∃ prefixStr, rest = '/' :: prefixStr ∧ SpacedOrSigned n prefixStr := by
  cases length with
  | absent => exact Or.inl .absent
  | @given prefixStr _ reads bounded =>
    by_cases loose : ∃ c ∈ prefixStr.head?, isSpace c = true ∨ c = '+' ∨ c = '-'
    · exact Or.inr ⟨prefixStr, rfl, ⟨bits, reads, bounded⟩, loose⟩
    · left
      have plain : ∀ c ∈ prefixStr.head?, isSpace c = false ∧ c ≠ '+' ∧ c ≠ '-' := by
        intro c head
        have tight := not_exists.mp loose c
        rw [not_and, not_or, not_or, Bool.not_eq_true] at tight
        exact tight head
      obtain ⟨nonempty, digit, same⟩ := digits_of_decimalText reads plain
      rw [Int.ofNat_inj.mp same] at bounded ⊢
      exact .given nonempty digit bounded

theorem CidrText.grammar {n : Nat} {inetPton : Text → Option (Vector (BitVec 8) n)} {text : Text}
    {ip : Vector (BitVec 8) n} {bits : Nat} (entry : CidrText inetPton text ip bits)
    (tight : ¬LooseEntry inetPton text) : CidrGrammar inetPton text ip bits := by
  cases entry with
  | plain read length =>
    rcases length.digitPrefix with digits | ⟨prefixStr, rfl, loose⟩
    · exact .plain read digits
    · exact absurd ⟨_, prefixStr, by rw [read]; rfl, loose, Or.inl rfl⟩ tight
  | bracketed read length =>
    rcases length.digitPrefix with digits | ⟨prefixStr, rfl, loose⟩
    · exact .bracketed read digits
    · exact absurd ⟨_, prefixStr, by rw [read]; rfl, loose, Or.inr rfl⟩ tight

/-- A loose entry is read, and is none of the grammar. -/
theorem LooseEntry.read {n : Nat} {inetPton : Text → Option (Vector (BitVec 8) n)}
    (plain : ∀ text ip, inetPton text = some ip → PlainAddress text ∧ text ≠ []) {text : Text}
    (loose : LooseEntry inetPton text) :
    (∃ ip bits, CidrText inetPton text ip bits) ∧ ∃ address prefixStr,
      splitCidr text = some (address, some prefixStr) ∧ SpacedOrSigned n prefixStr := by
  obtain ⟨address, prefixStr, isAddress, loose, rfl | rfl⟩ := loose
  · obtain ⟨ip, read⟩ := Option.isSome_iff_exists.mp isAddress
    obtain ⟨⟨bits, reads, bounded⟩, -⟩ := id loose
    have simple := plain _ _ read
    exact ⟨⟨ip, bits, .plain read (.given reads bounded)⟩, address, prefixStr,
      splitCidr_plain simple.1 simple.2 (some prefixStr), loose⟩
  · obtain ⟨ip, read⟩ := Option.isSome_iff_exists.mp isAddress
    obtain ⟨⟨bits, reads, bounded⟩, -⟩ := id loose
    exact ⟨⟨ip, bits, .bracketed read (.given reads bounded)⟩, address, prefixStr,
      splitCidr_bracketed (plain _ _ read).1 (some prefixStr), loose⟩

/-- An entry of the grammar comes apart into an address and digits. -/
theorem CidrGrammar.split {n : Nat} {inetPton : Text → Option (Vector (BitVec 8) n)}
    (plain : ∀ text ip, inetPton text = some ip → PlainAddress text ∧ text ≠ []) {text : Text}
    {ip : Vector (BitVec 8) n} {bits : Nat} (entry : CidrGrammar inetPton text ip bits) {address : Text}
    {prefixStr : Text} (split : splitCidr text = some (address, some prefixStr)) :
    ∀ c ∈ prefixStr, c.isDigit = true := by
  cases entry with
  | plain read length =>
    have simple := plain _ _ read
    cases length with
    | absent => cases (splitCidr_plain simple.1 simple.2 none).symm.trans split
    | given nonempty digit bounded =>
      cases (splitCidr_plain simple.1 simple.2 (some _)).symm.trans split
      exact digit
  | bracketed read length =>
    have simple := (plain _ _ read).1
    cases length with
    | absent => cases (splitCidr_bracketed simple none).symm.trans split
    | given nonempty digit bounded =>
      cases (splitCidr_bracketed simple (some _)).symm.trans split
      exact digit

theorem curbParseCidrRule_error {net : InetPton} {text : Text} {error : RubyError}
    (raised : curbParseCidrRule net text = .error error) : error.errorClass = .argumentError := by
  unfold curbParseCidrRule curbRaiseInvalidCidr rbRaise at raised
  split at raised
  · cases raised
    rfl
  split at raised
  · cases raised
    rfl
  split at raised
  · cases raised
    rfl
  split at raised
  · cases raised
    rfl
  · cases raised

/-- A loose entry has a rule, but none of the grammar. -/
theorem not_parsesExactly_of_loose {net : InetPton} {text : Text}
    (loose : LooseEntry net.inet text ∨ LooseEntry net.inet6 text) : ¬ParsesExactly net text := by
  rintro ⟨exactly, -⟩
  have readAnyway : (∃ rule, curbParseCidrRule net text = .ok rule) ∧ ∃ address prefixStr n,
      splitCidr text = some (address, some prefixStr) ∧ SpacedOrSigned n prefixStr := by
    rcases loose with loose | loose
    · obtain ⟨⟨ip, bits, entry⟩, address, prefixStr, split, spaced⟩ := loose.read net.inet_plain
      exact ⟨⟨_, (curbParseCidrRule_ok_iff net).mpr (Or.inl ⟨ip, bits, entry, rfl⟩)⟩, address,
        prefixStr, 4, split, spaced⟩
    · obtain ⟨⟨ip, bits, entry⟩, address, prefixStr, split, spaced⟩ := loose.read net.inet6_plain
      exact ⟨⟨_, (curbParseCidrRule_ok_iff net).mpr (Or.inr ⟨ip, bits, entry, rfl⟩)⟩, address,
        prefixStr, 16, split, spaced⟩
  obtain ⟨⟨rule, parsed⟩, address, prefixStr, n, split, spaced⟩ := readAnyway
  rcases (exactly rule).mp parsed with ⟨ip, bits, entry, -⟩ | ⟨ip, bits, entry, -⟩
  · exact not_spacedOrSigned_of_digits (entry.split net.inet_plain split) spaced
  · exact not_spacedOrSigned_of_digits (entry.split net.inet6_plain split) spaced

/-- The parser accepts exactly the entries of the grammar, unless the prefix begins with white space or
a sign. -/
theorem parsesExactly_iff (net : InetPton) (text : Text) :
    ParsesExactly net text ↔ ¬(LooseEntry net.inet text ∨ LooseEntry net.inet6 text) := by
  constructor
  · intro exactly loose
    exact not_parsesExactly_of_loose loose exactly
  · intro tight
    have exactly : ∀ rule, curbParseCidrRule net text = .ok rule ↔ RuleOf net text rule := by
      intro rule
      rw [curbParseCidrRule_ok_iff]
      constructor
      · rintro (⟨ip, bits, entry, same⟩ | ⟨ip, bits, entry, same⟩)
        · exact Or.inl ⟨ip, bits, entry.grammar fun loose => tight (Or.inl loose), same⟩
        · exact Or.inr ⟨ip, bits, entry.grammar fun loose => tight (Or.inr loose), same⟩
      · rintro (⟨ip, bits, entry, same⟩ | ⟨ip, bits, entry, same⟩)
        · exact Or.inl ⟨ip, bits, entry.cidrText, same⟩
        · exact Or.inr ⟨ip, bits, entry.cidrText, same⟩
    refine ⟨exactly, fun noRule => ?_⟩
    cases parsed : curbParseCidrRule net text with
    | ok rule => exact absurd ((exactly rule).mp parsed) (noRule rule)
    | error error =>
      obtain ⟨errorClass, message⟩ := error
      cases curbParseCidrRule_error parsed
      exact ⟨message, rfl⟩

/-- An `inet_pton` that reads one address. -/
def tenNetInetPton : InetPton where
  inet text := if text = "10.0.0.0".toList then some #v[10, 0, 0, 0] else none
  inet6 _ := none
  inet_chars := by
    intro text ip read
    obtain ⟨rfl, _⟩ := Option.ite_none_right_eq_some.mp read
    exact List.forall_iff_forall_mem.mp (by decide)
  inet_dot := by
    intro text ip read
    obtain ⟨rfl, _⟩ := Option.ite_none_right_eq_some.mp read
    decide
  inet6_chars := by
    intro text ip read
    cases read
  inet6_colon := by
    intro text ip read
    cases read

/-- The parser takes `10.0.0.0/+8` for the entry `10.0.0.0/8`. -/
theorem signedPrefix_isRead :
    curbParseCidrRule tenNetInetPton "10.0.0.0/+8".toList =
      .ok ⟨.ipv4, 8, padIpv4 #v[10, 0, 0, 0]⟩ ∧
    ¬ParsesExactly tenNetInetPton "10.0.0.0/+8".toList := by
  refine ⟨rfl, not_parsesExactly_of_loose (Or.inl ?_)⟩
  refine ⟨"10.0.0.0".toList, "+8".toList, rfl, ⟨⟨8, ?_, by decide⟩, '+', rfl, ?_⟩, Or.inl rfl⟩
  · exact ⟨[], ['+'], ['8'], rfl, nofun, by decide, List.forall_iff_forall_mem.mp (by decide),
      Or.inl ⟨Or.inr rfl, rfl⟩⟩
  · exact Or.inr (Or.inl rfl)

end Curb.Net

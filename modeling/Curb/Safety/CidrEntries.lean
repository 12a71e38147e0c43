import Curb.Net.CidrGrammar
import Curb.Safety.Applied

/-!
# CIDR entries of a configuration

`SafetyConfig#allowed_cidrs=` (`lib/curl.rb:126-139`) takes what `IPAddr.new` takes: addresses with an
optional prefix length, but also with a netmask or with a zone identifier. `apply_allowed_cidrs!` hands the
entries on to `Easy#allowed_cidrs=`, whose parser knows neither.
-/

namespace Curb
open Curb.Misc Curb.Ruby Curb.Net

namespace Net

/-! ## The entries of `IPAddr` -/

/-- An address without brackets, and whether a zone identifier follows it. -/
inductive ZonedAddress {n : Nat} (inetPton : Text → Option (Vector (BitVec 8) n)) :
    Text → Vector (BitVec 8) n → Bool → Prop
  | plain {text : Text} {ip : Vector (BitVec 8) n} (read : inetPton text = some ip) :
      ZonedAddress inetPton text ip false
  | zoned {text zone : Text} {ip : Vector (BitVec 8) n} (read : inetPton text = some ip)
      (noSlash : '/' ∉ zone) : ZonedAddress inetPton (text ++ '%' :: zone) ip true

/-- An address, in brackets or not. -/
inductive AddressText {n : Nat} (inetPton : Text → Option (Vector (BitVec 8) n)) :
    Text → Vector (BitVec 8) n → Bool → Prop
  | bare {text : Text} {ip : Vector (BitVec 8) n} {zoned : Bool}
      (inner : ZonedAddress inetPton text ip zoned) : AddressText inetPton text ip zoned
  | bracketed {text : Text} {ip : Vector (BitVec 8) n} {zoned : Bool}
      (inner : ZonedAddress inetPton text ip zoned) : AddressText inetPton ('[' :: (text ++ [']'])) ip zoned

/-- The texts `IPAddr.new` takes, with the addresses the object then contains: the address alone, those
that begin with the same bits, or those that agree with it under the netmask. -/
inductive IpAddrText {n : Nat} (inetPton : Text → Option (Vector (BitVec 8) n)) :
    Text → (BytePtr → Prop) → Prop
  | single {text : Text} {ip : Vector (BitVec 8) n} {zoned : Bool}
      (address : AddressText inetPton text ip zoned) :
      IpAddrText inetPton text (AgreeOnPrefix (8 * n) · (ptr ip))
  | prefixLength {text digits : Text} {ip : Vector (BitVec 8) n} {zoned : Bool}
      (address : AddressText inetPton text ip zoned) (nonempty : digits ≠ [])
      (digit : ∀ c ∈ digits, c.isDigit = true) (bounded : decimal digits ≤ 8 * n) :
      IpAddrText inetPton (text ++ '/' :: digits) (AgreeOnPrefix (decimal digits) · (ptr ip))
  | netmask {text maskText : Text} {ip mask : Vector (BitVec 8) n} {zoned maskZoned : Bool}
      (address : AddressText inetPton text ip zoned) (isMask : AddressText inetPton maskText mask maskZoned) :
      IpAddrText inetPton (text ++ '/' :: maskText) fun x =>
        ∀ i, i < n → x i &&& ptr mask i = ptr ip i &&& ptr mask i

/-- An entry of a family. -/
inductive IpAddrEntry (net : InetPton) (text : Text) : CidrFamily → (BytePtr → Prop) → Prop
  | ipv4 {contains : BytePtr → Prop} (isText : IpAddrText net.inet text contains) :
      IpAddrEntry net text .ipv4 contains
  | ipv6 {contains : BytePtr → Prop} (isText : IpAddrText net.inet6 text contains) :
      IpAddrEntry net text .ipv6 contains

/-- The entry has no zone identifier, and what follows a slash is a number, not a netmask. -/
def WrittenWithLength (entry : Text) : Prop :=
  '%' ∉ entry ∧ ∀ before after, cutAt '/' entry = some (before, after) → ∀ c ∈ after, c.isDigit = true

/-- The rule matches exactly these addresses. -/
def RuleMatches (rule : CurbCidrRule) (family : CidrFamily) (contains : BytePtr → Prop) : Prop :=
  ∀ other ip, curbCidrRulesMatch [rule] other ip = true ↔ other = family ∧ contains ip

/-! ## Addresses and their delimiters -/

/-- What is written of the addresses of a family: they have no delimiter, and a dot or a colon. -/
structure AddressReader {n : Nat} (inetPton : Text → Option (Vector (BitVec 8) n)) : Prop where
  plain : ∀ text ip, inetPton text = some ip → PlainAddress text
  percent : ∀ text ip, inetPton text = some ip → '%' ∉ text
  noNul : ∀ text ip, inetPton text = some ip → Char.ofNat 0 ∉ text
  marked : ∀ text ip, inetPton text = some ip → '.' ∈ text ∨ ':' ∈ text

theorem inet_reader (net : InetPton) : AddressReader net.inet where
  plain text ip read := (net.inet_plain text ip read).1
  percent text ip read mem := absurd (net.inet_chars text ip read _ mem) (by decide)
  noNul text ip read mem := absurd (net.inet_chars text ip read _ mem) (by decide)
  marked text ip read := Or.inl (net.inet_dot text ip read)

theorem inet6_reader (net : InetPton) : AddressReader net.inet6 where
  plain text ip read := (net.inet6_plain text ip read).1
  percent text ip read mem := absurd (net.inet6_chars text ip read _ mem) (by decide)
  noNul text ip read mem := absurd (net.inet6_chars text ip read _ mem) (by decide)
  marked text ip read := Or.inr (net.inet6_colon text ip read)

variable {n : Nat} {inetPton : Text → Option (Vector (BitVec 8) n)} {text : Text} {ip : Vector (BitVec 8) n}

theorem noSlash_of_read (reader : AddressReader inetPton) (read : inetPton text = some ip) : '/' ∉ text :=
  fun mem => (reader.plain text ip read '/' mem).1 rfl

theorem ZonedAddress.marked {zoned : Bool} (reader : AddressReader inetPton)
    (address : ZonedAddress inetPton text ip zoned) : '/' ∉ text ∧ ('.' ∈ text ∨ ':' ∈ text) := by
  cases address with
  | plain read => exact ⟨noSlash_of_read reader read, reader.marked _ _ read⟩
  | zoned read noSlash =>
    have front := noSlash_of_read reader read
    refine ⟨?_, ?_⟩
    · simp [front, noSlash]
    · rcases reader.marked _ _ read with dot | colon
      · exact Or.inl (List.mem_append_left _ dot)
      · exact Or.inr (List.mem_append_left _ colon)

/-- No address has a slash, and each has a dot or a colon. -/
theorem AddressText.marked {zoned : Bool} (reader : AddressReader inetPton)
    (address : AddressText inetPton text ip zoned) : '/' ∉ text ∧ ('.' ∈ text ∨ ':' ∈ text) := by
  cases address with
  | bare inner => exact inner.marked reader
  | bracketed inner =>
    obtain ⟨noSlash, mark⟩ := inner.marked reader
    refine ⟨by simp [noSlash], ?_⟩
    rcases mark with dot | colon
    · exact Or.inl (List.mem_cons_of_mem _ (List.mem_append_left _ dot))
    · exact Or.inr (List.mem_cons_of_mem _ (List.mem_append_left _ colon))

/-- Without a zone identifier, an address with what follows it is an entry the extension reads. -/
theorem AddressText.cidrText {zoned : Bool} {rest : Text} {bits : Nat}
    (address : AddressText inetPton text ip zoned) (length : PrefixText n rest bits)
    (noZone : '%' ∉ text) : CidrText inetPton (text ++ rest) ip bits := by
  cases address with
  | bare inner =>
    cases inner with
    | plain read => exact .plain read length
    | zoned read _ => exact absurd (by simp) noZone
  | bracketed inner =>
    cases inner with
    | plain read =>
      have whole := CidrText.bracketed read length
      rwa [List.cons_append, List.append_assoc]
    | zoned read _ => exact absurd (by simp) noZone

/-! ## What the extension reads of them -/

/-- An entry with a length, or none, is read, and means what it does to `IPAddr`. -/
theorem IpAddrText.cidrText {contains : BytePtr → Prop} (reader : AddressReader inetPton)
    (isText : IpAddrText inetPton text contains) (written : WrittenWithLength text) :
    ∃ ip bits, CidrText inetPton text ip bits ∧ contains = (AgreeOnPrefix bits · (ptr ip)) := by
  obtain ⟨noZone, afterSlash⟩ := written
  cases isText with
  | single address =>
    have entry := address.cidrText PrefixText.absent noZone
    rw [List.append_nil] at entry
    exact ⟨_, _, entry, rfl⟩
  | prefixLength address nonempty digit bounded =>
    refine ⟨_, _, address.cidrText (.given (decimalText_of_digits nonempty digit) bounded) ?_, rfl⟩
    exact fun mem => noZone (List.mem_append_left _ mem)
  | netmask address isMask =>
    have digits := afterSlash _ _ (cutAt_eq_some_iff.mpr ⟨rfl, (address.marked reader).1⟩)
    rcases (isMask.marked reader).2 with dot | colon
    · exact absurd (digits _ dot) (by decide)
    · exact absurd (digits _ colon) (by decide)

theorem decimalText_chars {value : Int} (reads : DecimalText text value) :
    ∀ c ∈ text, isSpace c = true ∨ c = '+' ∨ c = '-' ∨ c.isDigit = true := by
  obtain ⟨spaces, sign, digits, rfl, blank, -, digit, reads⟩ := reads
  have isSign : ∀ c ∈ sign, c = '+' ∨ c = '-' := by
    rcases reads with ⟨rfl | rfl, -⟩ | ⟨rfl, -⟩
    · simp
    · simp
    · simp
  intro c mem
  rcases List.mem_append.mp mem with front | inside
  · rcases List.mem_append.mp front with space | inside
    · exact Or.inl (blank c space)
    · rcases isSign c inside with plus | minus
      · exact Or.inr (Or.inl plus)
      · exact Or.inr (Or.inr (Or.inl minus))
  · exact Or.inr (Or.inr (Or.inr (digit c inside)))

/-- The characters of an entry are those of the address, of the number and the delimiters. -/
theorem CidrText.not_mem {c : Char} {bits : Nat} (entry : CidrText inetPton text ip bits)
    (foreign : ∀ text ip, inetPton text = some ip → c ∉ text) (bracket : c ≠ '[' ∧ c ≠ ']' ∧ c ≠ '/')
    (number : ¬(isSpace c = true ∨ c = '+' ∨ c = '-' ∨ c.isDigit = true)) : c ∉ text := by
  have rest {rest : Text} (length : PrefixText n rest bits) : c ∉ rest := by
    cases length with
    | absent => exact List.not_mem_nil
    | given reads bounded =>
      rw [List.mem_cons]
      rintro (slash | inside)
      · exact bracket.2.2 slash
      · exact number (decimalText_chars reads c inside)
  cases entry with
  | plain read length =>
    rw [List.mem_append]
    rintro (front | back)
    · exact foreign _ _ read front
    · exact rest length back
  | bracketed read length =>
    rw [List.mem_cons, List.mem_append, List.mem_cons]
    rintro (opening | inside | closing | back)
    · exact bracket.1 opening
    · exact foreign _ _ read inside
    · exact bracket.2.1 closing
    · exact rest length back

/-- After the slash of an entry the extension reads there is no dot or colon. -/
theorem CidrText.noMask {bits : Nat} (reader : AddressReader inetPton)
    (entry : CidrText inetPton text ip bits) {before after : Text} (cut : cutAt '/' text = some (before, after)) : '.' ∉ after ∧ ':' ∉ after := by
  have rest {front rest : Text} (noSlash : '/' ∉ front) (length : PrefixText n rest bits)
      (cut : cutAt '/' (front ++ rest) = some (before, after)) : '.' ∉ after ∧ ':' ∉ after := by
    cases length with
    | absent =>
      rw [List.append_nil, cutAt_eq_none_iff.mpr noSlash] at cut
      cases cut
    | given reads bounded =>
      have chars := decimalText_chars reads
      rw [cutAt_eq_some_iff.mpr ⟨rfl, noSlash⟩] at cut
      cases cut
      exact ⟨fun dot => absurd (chars _ dot) (by decide), fun colon => absurd (chars _ colon) (by decide)⟩
  cases entry with
  | plain read length => exact rest (noSlash_of_read reader read) length cut
  | @bracketed address tail _ _ read length =>
    have noSlash := noSlash_of_read reader read
    have whole : '[' :: (address ++ ']' :: tail) = '[' :: (address ++ [']']) ++ tail := by simp
    rw [whole] at cut
    exact rest (by simp [noSlash]) length cut

/-- Where no dot or colon follows the slash, what follows it is a number. -/
theorem IpAddrText.writtenWithLength {contains : BytePtr → Prop} (reader : AddressReader inetPton)
    (isText : IpAddrText inetPton text contains) (noZone : '%' ∉ text)
    (noMask : ∀ before after, cutAt '/' text = some (before, after) → '.' ∉ after ∧ ':' ∉ after) :
    WrittenWithLength text := by
  refine ⟨noZone, ?_⟩
  intro before after cut
  cases isText with
  | single address =>
    rw [cutAt_eq_none_iff.mpr (address.marked reader).1] at cut
    cases cut
  | prefixLength address nonempty digit bounded =>
    rw [cutAt_eq_some_iff.mpr ⟨rfl, (address.marked reader).1⟩] at cut
    cases cut
    exact digit
  | netmask address isMask =>
    obtain ⟨noDot, noColon⟩ := noMask _ _ (cutAt_eq_some_iff.mpr ⟨rfl, (address.marked reader).1⟩)
    rcases (isMask.marked reader).2 with dot | colon
    · exact absurd dot noDot
    · exact absurd colon noColon

/-! ## Entries of both families -/

variable {net : InetPton} {family : CidrFamily} {contains : BytePtr → Prop}

/-- An entry the extension reads has no character that neither family's addresses have. -/
theorem curbParseCidrRule_chars {rule : CurbCidrRule} (parsed : curbParseCidrRule net text = .ok rule) :
    Char.ofNat 0 ∉ text ∧ '%' ∉ text ∧
      ∀ before after, cutAt '/' text = some (before, after) → '.' ∉ after ∧ ':' ∉ after := by
  rcases (curbParseCidrRule_ok_iff net).mp parsed with ⟨ip, bits, entry, -⟩ | ⟨ip, bits, entry, -⟩
  · have reader := inet_reader net
    exact ⟨entry.not_mem reader.noNul (by decide) (by decide),
      entry.not_mem reader.percent (by decide) (by decide), fun before after => entry.noMask reader⟩
  · have reader := inet6_reader net
    exact ⟨entry.not_mem reader.noNul (by decide) (by decide),
      entry.not_mem reader.percent (by decide) (by decide), fun before after => entry.noMask reader⟩

theorem curbCidrRulesMatch_single (rule : CurbCidrRule) (other : CidrFamily) (address : BytePtr) :
    curbCidrRulesMatch [rule] other address = true ↔
      other = rule.family ∧ AgreeOnPrefix rule.prefixBits address (ptr rule.address) := by
  rw [curbCidrRulesMatch_iff, or_iff_right (List.cons_ne_nil rule [])]
  simp only [List.mem_singleton, exists_eq_left]
  rw [eq_comm]

/-- An entry with a length, or none, has a rule that matches what its `IPAddr` contains. -/
theorem IpAddrEntry.rule (isEntry : IpAddrEntry net text family contains) (written : WrittenWithLength text) :
    ∃ rule, curbParseCidrRule net text = .ok rule ∧ RuleMatches rule family contains := by
  cases isEntry with
  | ipv4 isText =>
    obtain ⟨ip, bits, entry, rfl⟩ := isText.cidrText (inet_reader net) written
    refine ⟨_, (curbParseCidrRule_ok_iff net).mpr (Or.inl ⟨ip, bits, entry, rfl⟩), ?_⟩
    intro other address
    rw [curbCidrRulesMatch_single, agreeOnPrefix_padIpv4 entry.le]
  | ipv6 isText =>
    obtain ⟨ip, bits, entry, rfl⟩ := isText.cidrText (inet6_reader net) written
    refine ⟨_, (curbParseCidrRule_ok_iff net).mpr (Or.inr ⟨ip, bits, entry, rfl⟩), ?_⟩
    intro other address
    exact curbCidrRulesMatch_single _ other address

/-- The extension reads an entry of `IPAddr` exactly where it is written with a length, or none. -/
theorem IpAddrEntry.read_iff (isEntry : IpAddrEntry net text family contains) :
    (∃ rule, CidrEntry net text rule) ↔ WrittenWithLength text := by
  constructor
  · rintro ⟨rule, -, parsed⟩
    obtain ⟨-, noZone, noMask⟩ := curbParseCidrRule_chars parsed
    cases isEntry with
    | ipv4 isText => exact isText.writtenWithLength (inet_reader net) noZone noMask
    | ipv6 isText => exact isText.writtenWithLength (inet6_reader net) noZone noMask
  · intro written
    obtain ⟨rule, parsed, -⟩ := isEntry.rule written
    exact ⟨rule, (curbParseCidrRule_chars parsed).1, parsed⟩

end Net

open Net

variable {ruby : RubyLibrary} {net : InetPton} {list : List Text} {easy : Easy}

/-! ## The two validators -/

/-- What `IPAddr.new` takes. -/
def IpAddrForms (ruby : RubyLibrary) (net : InetPton) : Prop :=
  ∀ text, ruby.ipAddr text = none → ∃ family contains, IpAddrEntry net text family contains

/-- The rule matches exactly the addresses the `IPAddr` of the entry contains. -/
def RuleOfEntry (net : InetPton) (entry : Text) (rule : CurbCidrRule) : Prop :=
  ∀ family contains, IpAddrEntry net entry family contains → RuleMatches rule family contains

/-- The handle takes the list of the configuration, and each rule made of it is the rule of an entry. -/
def CidrsAgree (net : InetPton) (config : SafetyConfig) (list : List Text) (easy : Easy) : Prop :=
  ∃ after rules, Returns (Easy.applyAllowedCidrs net config list) easy () after ∧
    curbCidrRules net after.allowedCidrs = .ok rules ∧
    (∀ entry ∈ list, ∃ rule ∈ rules, RuleOfEntry net entry rule) ∧
    ∀ rule ∈ rules, ∃ entry ∈ list, RuleOfEntry net entry rule

/-- The entries `allowed_cidrs=` keeps are taken by `IPAddr.new`. -/
theorem allowedCidrsSet_ipAddr {config configured : SafetyConfig} {cidrs : Option (List Text)}
    (accepted : config.allowedCidrsSet ruby cidrs = .ok configured)
    (kept : configured.allowedCidrs = some list) : ∀ entry ∈ list, ruby.ipAddr entry = none := by
  obtain ⟨normalized, ok, same⟩ := except_bind_eq_ok_iff.mp accepted
  cases same
  intro entry mem
  obtain ⟨value, -, isEntry⟩ := (SafetyConfig.normalizeList_mem_iff ok kept entry).mp mem
  unfold SafetyConfig.normalizeAllowedCidr rbRaise at isEntry
  dsimp only at isEntry
  split at isEntry
  · cases isEntry
  · split at isEntry
    · cases isEntry
    · rename_i taken
      cases isEntry
      exact taken

theorem allowedCidrsSet_accepts (each : ∀ entry ∈ list, ∃ rule, CidrEntry net entry rule) (easy : Easy) :
    ∃ after, Returns (Easy.allowedCidrsSet net (.array list)) easy () after := by
  have step : ∀ acc, ∀ entry ∈ list, ∃ acc', curbNormalizeCidrStep net acc entry = .ok acc' := by
    intro acc entry mem
    exact ⟨_, (curbNormalizeCidrStep_ok_iff net).mpr ⟨each entry mem, rfl⟩⟩
  obtain ⟨normalized, run⟩ := except_foldlM_returns [] step
  have stored : curbNormalizeCidrList net (.array list) = .ok (some normalized) := by
    show (list.foldlM (curbNormalizeCidrStep net) [] >>= fun normalized => Except.ok (some normalized)) = _
    rw [run]
    rfl
  obtain ⟨rules, ruled, -⟩ := curbCidrRules_ok (curbNormalizeCidrList_ok stored).2.2
  exact ⟨_, Easy.allowedCidrsSet_accepted stored ruled easy⟩

/-- Under the `:public` policy the two validators agree about a list exactly where no entry of it has a
netmask or a zone identifier. -/
theorem cidrValidators_agree_iff {config configured : SafetyConfig} {cidrs : Option (List Text)}
    (forms : IpAddrForms ruby net) (accepted : config.allowedCidrsSet ruby cidrs = .ok configured)
    (kept : configured.allowedCidrs = some list) (isPublic : configured.networkPolicy = some .policyPublic) :
    CidrsAgree net configured list easy ↔ ∀ entry ∈ list, WrittenWithLength entry := by
  have taken := allowedCidrsSet_ipAddr accepted kept
  constructor
  · rintro ⟨after, rules, run, -, -, -⟩ entry inside
    obtain ⟨family, contains, isEntry⟩ := forms entry (taken entry inside)
    obtain ⟨stored, -⟩ := Easy.allowedCidrsSet_returns (Easy.applyAllowedCidrs_returns run).2
    obtain ⟨-, same, each⟩ := curbNormalizeCidrList_ok stored
    exact isEntry.read_iff.mp (each entry ((same entry).mpr inside))
  · intro written
    have each : ∀ entry ∈ list, ∃ rule, CidrEntry net entry rule := by
      intro entry inside
      obtain ⟨family, contains, isEntry⟩ := forms entry (taken entry inside)
      exact isEntry.read_iff.mpr (written entry inside)
    have ruleOfEntry {entry : Text} {rule : CurbCidrRule} (inside : entry ∈ list)
        (made : CidrEntry net entry rule) : RuleOfEntry net entry rule := by
      intro family contains isEntry
      obtain ⟨other, parsed, isMatch⟩ := isEntry.rule (written entry inside)
      cases made.2.symm.trans parsed
      exact isMatch
    obtain ⟨after, run⟩ := allowedCidrsSet_accepts each easy
    obtain ⟨stored, -⟩ := Easy.allowedCidrsSet_returns run
    obtain ⟨-, same, accepted⟩ := curbNormalizeCidrList_ok stored
    obtain ⟨rules, ruled, mem⟩ := curbCidrRules_ok accepted
    refine ⟨after, rules, ?_, ruled, ?_, ?_⟩
    · rw [Easy.applyAllowedCidrs, if_pos isPublic]
      exact run
    · intro entry inside
      obtain ⟨rule, made⟩ := each entry inside
      exact ⟨rule, (mem rule).mpr ⟨entry, (same entry).mpr inside, made⟩, ruleOfEntry inside made⟩
    · intro rule isRule
      obtain ⟨entry, stored, made⟩ := (mem rule).mp isRule
      have inside := (same entry).mp stored
      exact ⟨entry, inside, ruleOfEntry inside made⟩

/-! ## A netmask -/

/-- The address and the mask of one network. -/
def maskedInet (text : Text) : Option Ipv4 :=
  if text = "255.0.0.0".toList then some #v[255, 0, 0, 0] else tenNetInetPton.inet text

theorem maskedInet_eq {text : Text} {ip : Ipv4} (read : maskedInet text = some ip) :
    text = "10.0.0.0".toList ∨ text = "255.0.0.0".toList := by
  unfold maskedInet at read
  split at read
  · rename_i same
    exact Or.inr same
  · exact Or.inl (Option.ite_none_right_eq_some.mp read).1

theorem maskedInet_chars (text : Text) (ip : Ipv4) (read : maskedInet text = some ip) :
    ∀ c ∈ text, c.isDigit = true ∨ c = '.' := by
  rcases maskedInet_eq read with rfl | rfl
  · exact List.forall_iff_forall_mem.mp (by decide)
  · exact List.forall_iff_forall_mem.mp (by decide)

theorem maskedInet_dot (text : Text) (ip : Ipv4) (read : maskedInet text = some ip) : '.' ∈ text := by
  rcases maskedInet_eq read with rfl | rfl
  · decide
  · decide

/-- An `inet_pton` that reads these two. -/
def maskedInetPton : InetPton where
  inet := maskedInet
  inet6 _ := none
  inet_chars := maskedInet_chars
  inet_dot := maskedInet_dot
  inet6_chars := tenNetInetPton.inet6_chars
  inet6_colon := tenNetInetPton.inet6_colon

/-- `IPAddr.new` where it takes one network, written in two ways. -/
def tenNet : RubyLibrary where
  uriHost _ := .ok none
  ipAddr text :=
    if text = "10.0.0.0/8".toList ∨ text = "10.0.0.0/255.0.0.0".toList then none
    else some "invalid address".toList
  takesProtocols _ := true
  takes_valid _ _ := rfl

theorem tenNet_forms : IpAddrForms tenNet maskedInetPton := by
  have address : AddressText maskedInetPton.inet "10.0.0.0".toList #v[10, 0, 0, 0] false := .bare (.plain rfl)
  have mask : AddressText maskedInetPton.inet "255.0.0.0".toList #v[255, 0, 0, 0] false := .bare (.plain rfl)
  intro text taken
  unfold tenNet at taken
  dsimp only at taken
  split at taken
  · rename_i isNet
    rcases isNet with rfl | rfl
    · have digit : ∀ c ∈ ['8'], c.isDigit = true := List.forall_iff_forall_mem.mp (by decide)
      exact ⟨.ipv4, _, .ipv4 (.prefixLength address (List.cons_ne_nil '8' []) digit (by decide))⟩
    · exact ⟨.ipv4, _, .ipv4 (.netmask address mask)⟩
  · cases taken

/-- A configuration with the `:public` policy. -/
def publicConfig : SafetyConfig := { SafetyConfig.new with networkPolicy := some .policyPublic }

theorem cidrValidators_agree_iff_example : ∃ configured,
    publicConfig.allowedCidrsSet tenNet (some ["10.0.0.0/8".toList]) = .ok configured ∧
    CidrsAgree maskedInetPton configured ["10.0.0.0/8".toList] (Easy.new none) := by
  have accepted : publicConfig.allowedCidrsSet tenNet (some ["10.0.0.0/8".toList]) = .ok _ := rfl
  refine ⟨_, accepted, (cidrValidators_agree_iff tenNet_forms accepted rfl rfl).mpr ?_⟩
  intro entry inside
  rw [List.mem_singleton.mp inside]
  refine ⟨by decide, ?_⟩
  intro before after cut
  cases cut
  exact List.forall_iff_forall_mem.mp (by decide)

/-- The configuration takes `10.0.0.0/255.0.0.0`, and the handle raises an `ArgumentError` for it. -/
theorem netmask_isRefused :
    IpAddrEntry maskedInetPton "10.0.0.0/255.0.0.0".toList .ipv4 (fun x =>
      ∀ i, i < 4 → x i &&& ptr #v[255, 0, 0, 0] i = ptr #v[10, 0, 0, 0] i &&& ptr #v[255, 0, 0, 0] i) ∧
    ∃ configured, publicConfig.allowedCidrsSet tenNet (some ["10.0.0.0/255.0.0.0".toList]) = .ok configured ∧
      configured.allowedCidrs = some ["10.0.0.0/255.0.0.0".toList] ∧
      Raises (Easy.applyAllowedCidrs maskedInetPton configured ["10.0.0.0/255.0.0.0".toList]) (Easy.new none)
        ⟨.argumentError, "invalid CIDR range: 10.0.0.0/255.0.0.0".toList⟩ (Easy.new none) ∧
      ¬CidrsAgree maskedInetPton configured ["10.0.0.0/255.0.0.0".toList] (Easy.new none) := by
  have address : AddressText maskedInetPton.inet "10.0.0.0".toList #v[10, 0, 0, 0] false := .bare (.plain rfl)
  have mask : AddressText maskedInetPton.inet "255.0.0.0".toList #v[255, 0, 0, 0] false := .bare (.plain rfl)
  have accepted : publicConfig.allowedCidrsSet tenNet (some ["10.0.0.0/255.0.0.0".toList]) = .ok _ := rfl
  refine ⟨.ipv4 (.netmask address mask), _, accepted, rfl, rfl, ?_⟩
  rintro ⟨after, rules, run, -⟩
  cases run

end Curb

import Curb.Easy.NetworkPolicy

/-!
# The peer-address gate

`curb_public_network_opensocket` (`ext/curb_easy.c:654-718`), the callback libcurl asks for
every socket under the `:public` policy, and the error texts it stores. The gate is followed
from the list handed to `allowed_cidrs=` to the decision about one destination.
-/

namespace Curb
open Curb.Misc Curb.Ruby Curb.Net

/-- `address->family`. -/
inductive AddressFamily where
  | inet
  | inet6
  | other (number : Nat)
  deriving DecidableEq, Repr

/-- `struct curl_sockaddr`. -/
structure CurlSockaddr where
  family : AddressFamily
  socktype : Int
  protocol : Int
  addrlen : Nat
  addr : BytePtr

/-- `sizeof(struct sockaddr_in)`, whose `sin_addr` starts at its fourth byte. -/
def sizeofSockaddrIn : Nat := 16

/-- `sizeof(struct sockaddr_in6)`, whose `sin6_addr` starts at its eighth byte. -/
def sizeofSockaddrIn6 : Nat := 28

/-- `&sin->sin_addr`. -/
def CurlSockaddr.sinAddr (address : CurlSockaddr) : BytePtr := address.addr.offset 4

/-- `&sin6->sin6_addr`. -/
def CurlSockaddr.sin6Addr (address : CurlSockaddr) : BytePtr := address.addr.offset 8

/-- The system calls of the callback. -/
structure Platform where
  /-- `socket`; `none` is `CURL_SOCKET_BAD`. -/
  socket : AddressFamily → Int → Int → Option Nat
  /-- `inet_ntop (AF_INET6, …)`; `none` is `NULL`. -/
  inetNtop : BytePtr → Option Text

/-- What the callback returned (`none` is `CURL_SOCKET_BAD`), and whether it got as far as
calling `socket`. -/
structure OpensocketResult where
  socketReached : Bool
  sockfd : Option Nat
  deriving DecidableEq, Repr

/-- `CURL_ERROR_SIZE`. -/
def curlErrorSize : Nat := 256

/-- `snprintf` into a buffer of `size` bytes. -/
def snprintf (size : Nat) (text : Text) : Text := text.take (size - 1)

/-- `%u` of a byte. -/
def decimalByte (byte : BitVec 8) : Text := (toString byte.toNat).toList

/-- `%02x` of a byte. -/
def hexByte (byte : BitVec 8) : Text :=
  [Nat.digitChar (byte.toNat / 16), Nat.digitChar (byte.toNat % 16)]

/-- `curb_format_ipv4` (`curb_easy.c:554-558`). -/
def curbFormatIpv4 (ip : BytePtr) : Text :=
  snprintf 80 (decimalByte (ip 0) ++ ['.'] ++ decimalByte (ip 1) ++ ['.'] ++
    decimalByte (ip 2) ++ ['.'] ++ decimalByte (ip 3))

/-- `curb_format_ipv6` (`curb_easy.c:560-579`): the long form where `inet_ntop` fails. -/
def curbFormatIpv6 (platform : Platform) (ip : BytePtr) : Text :=
  match platform.inetNtop ip with
  | some text => text
  | none =>
      snprintf 80 (List.intercalate [':']
        ((List.range 8).map fun group => hexByte (ip (2 * group)) ++ hexByte (ip (2 * group + 1))))

namespace Easy

/-- `curb_store_destination_error` (`curb_easy.c:581-595`). -/
def curbStoreDestinationError (easy : Easy) (address : Text) (reason : Option Text) : Easy :=
  let message := match reason with
    | some reason => "blocked destination address ".toList ++ address ++ [' '] ++ reason ++
        " by public network policy".toList
    | none => "blocked unsafe destination address ".toList ++ address ++
        " by public network policy".toList
  { easy with
    unsafeDestinationBlocked := true
    unsafeDestinationError := snprintf curlErrorSize message
    errBuf := snprintf curlErrorSize message }

/-- One of the two address checks of the callback (`curb_easy.c:669-704`): `none` where the
address passes. -/
def checkDestination (easy : Easy) (isUnsafe : BytePtr → Bool) (family : CidrFamily)
    (format : BytePtr → Text) (ip : BytePtr) : Option Easy :=
  if isUnsafe ip then some (easy.curbStoreDestinationError (format ip) none)
  else if curbCidrRulesMatch easy.networkAllowedCidrRules family ip then none
  else some (easy.curbStoreDestinationError (format ip)
    (some "outside allowed CIDR ranges".toList))

/-- `curb_public_network_opensocket` (`curb_easy.c:654-718`); `none` is a `NULL` address. -/
def curbPublicNetworkOpensocket (platform : Platform) (easy : Easy) (address : Option CurlSockaddr) :
    OpensocketResult × Easy :=
  match address with
  | none => (⟨false, none⟩, easy.curbStoreDestinationError "unknown".toList none)
  | some address =>
      let isIpv4 := address.family = .inet ∧ sizeofSockaddrIn ≤ address.addrlen
      let isIpv6 := address.family = .inet6 ∧ sizeofSockaddrIn6 ≤ address.addrlen
      let blocked :=
        if isIpv4 then
          easy.checkDestination curbIpv4IsUnsafeDestination .ipv4 curbFormatIpv4 address.sinAddr
        else if isIpv6 then
          easy.checkDestination curbIpv6IsUnsafeDestination .ipv6 (curbFormatIpv6 platform)
            address.sin6Addr
        else if easy.networkAllowedCidrRules ≠ [] then
          some (easy.curbStoreDestinationError "unknown".toList
            (some "outside allowed CIDR ranges".toList))
        else none
      match blocked with
      | some easy => (⟨false, none⟩, easy)
      | none => (⟨true, platform.socket address.family address.socktype address.protocol⟩, easy)

theorem checkDestination_eq_none_iff {easy : Easy} {isUnsafe : BytePtr → Bool}
    {family : CidrFamily} {format : BytePtr → Text} {ip : BytePtr} :
    easy.checkDestination isUnsafe family format ip = none ↔
      isUnsafe ip = false ∧ curbCidrRulesMatch easy.networkAllowedCidrRules family ip = true := by
  unfold checkDestination
  cases isUnsafe ip with
  | true => simp
  | false =>
    cases curbCidrRulesMatch easy.networkAllowedCidrRules family ip <;> simp

theorem checkDestination_blocked {easy blocked : Easy} {isUnsafe : BytePtr → Bool}
    {family : CidrFamily} {format : BytePtr → Text} {ip : BytePtr}
    (refused : easy.checkDestination isUnsafe family format ip = some blocked) :
    blocked.unsafeDestinationBlocked = true := by
  unfold checkDestination at refused
  split at refused
  · cases refused
    rfl
  · split at refused
    · cases refused
    · cases refused
      rfl

/-! ## From the list to the decision -/

/-- The entries of the list leave the address `ip` of the family `inetPton` reads: there is
no entry at all, or one of the family whose leading bits `ip` shares. -/
def CidrsAdmit {n : Nat} (inetPton : Text → Option (Vector (BitVec 8) n)) (entries : List Text)
    (ip : BytePtr) : Prop :=
  entries = [] ∨ ∃ entry ∈ entries, ∃ address bits,
    CidrText inetPton entry address bits ∧ AgreeOnPrefix bits ip (ptr address)

/-- The callback's decision is `admitted`: `socket` is reached exactly then, and otherwise
the callback returns `CURL_SOCKET_BAD` and leaves the block on record. -/
structure GateDecides (admitted : Prop) (decision : OpensocketResult × Easy) : Prop where
  reached : decision.1.socketReached = true ↔ admitted
  refused : ¬admitted → decision.1.sockfd = none ∧ decision.2.unsafeDestinationBlocked = true

/-- The prepared rules of an accepted list, family by family. -/
structure RulesOf (net : InetPton) (entries : List Text) (rules : List CurbCidrRule) : Prop where
  nil_iff : rules = [] ↔ entries = []
  ipv4_iff : ∀ bits address, (∃ rule ∈ rules, rule = ⟨.ipv4, bits, address⟩) ↔
    ∃ entry ∈ entries, ∃ ip, CidrText net.inet entry ip bits ∧ address = padIpv4 ip
  ipv6_iff : ∀ bits address, (∃ rule ∈ rules, rule = ⟨.ipv6, bits, address⟩) ↔
    ∃ entry ∈ entries, CidrText net.inet6 entry address bits

theorem rulesOf_accepted {net : InetPton} {cidrs : ListArgument} {stored : Option (List Text)}
    {rules : List CurbCidrRule} (normalized : curbNormalizeCidrList net cidrs = .ok stored)
    (prepared : curbCidrRules net stored = .ok rules) :
    RulesOf net (cidrs.items.getD []) rules := by
  obtain ⟨_, same, accepted⟩ := curbNormalizeCidrList_ok normalized
  obtain ⟨built, builtOk, mem⟩ := curbCidrRules_ok accepted
  obtain rfl : built = rules := Except.ok.inj (builtOk.symm.trans prepared)
  have parsed : ∀ rule, rule ∈ built ↔
      ∃ entry ∈ cidrs.items.getD [], curbParseCidrRule net entry = .ok rule := by
    intro rule
    rw [mem]
    constructor
    · rintro ⟨entry, inside, entryRule⟩
      exact ⟨entry, (same entry).mp inside, entryRule.2⟩
    · rintro ⟨entry, inside, parses⟩
      have stored_mem := (same entry).mpr inside
      obtain ⟨_, noNul, _⟩ := accepted entry stored_mem
      exact ⟨entry, stored_mem, noNul, parses⟩
  refine ⟨?_, ?_, ?_⟩
  · rw [List.eq_nil_iff_forall_not_mem, List.eq_nil_iff_forall_not_mem]
    constructor
    · intro noRule entry inside
      obtain ⟨rule, entryRule⟩ := accepted entry ((same entry).mpr inside)
      exact noRule rule ((parsed rule).mpr ⟨entry, inside, entryRule.2⟩)
    · intro noEntry rule inside
      obtain ⟨entry, entry_mem, _⟩ := (parsed rule).mp inside
      exact noEntry entry entry_mem
  · intro bits address
    simp only [exists_eq_right, parsed, curbParseCidrRule_ok_iff, CurbCidrRule.mk.injEq,
      reduceCtorEq, false_and, and_false, exists_false, or_false, true_and]
    refine exists_congr fun entry => and_congr_right fun _ => exists_congr fun ip => ?_
    constructor
    · rintro ⟨_, entryText, rfl, rfl⟩
      exact ⟨entryText, rfl⟩
    · rintro ⟨entryText, rfl⟩
      exact ⟨bits, entryText, rfl, rfl⟩
  · intro bits address
    simp only [exists_eq_right, parsed, curbParseCidrRule_ok_iff, CurbCidrRule.mk.injEq,
      reduceCtorEq, false_and, and_false, exists_false, false_or, true_and]
    refine exists_congr fun entry => and_congr_right fun _ => ?_
    constructor
    · rintro ⟨_, _, entryText, rfl, rfl⟩
      exact entryText
    · intro entryText
      exact ⟨address, bits, entryText, rfl, rfl⟩

theorem curbCidrRulesMatch_ipv4_iff {net : InetPton} {entries : List Text}
    {rules : List CurbCidrRule} (ruled : RulesOf net entries rules) (ip : BytePtr) :
    curbCidrRulesMatch rules .ipv4 ip = true ↔ CidrsAdmit net.inet entries ip := by
  rw [curbCidrRulesMatch_iff, ruled.nil_iff, CidrsAdmit]
  refine or_congr_right ?_
  constructor
  · rintro ⟨⟨family, bits, address⟩, mem, rfl, agree⟩
    obtain ⟨entry, inside, text, entryText, rfl⟩ := (ruled.ipv4_iff bits address).mp ⟨_, mem, rfl⟩
    exact ⟨entry, inside, text, bits, entryText, (agreeOnPrefix_padIpv4 entryText.le ip text).mp agree⟩
  · rintro ⟨entry, inside, address, bits, entryText, agree⟩
    obtain ⟨rule, mem, rfl⟩ :=
      (ruled.ipv4_iff bits (padIpv4 address)).mpr ⟨entry, inside, address, entryText, rfl⟩
    exact ⟨_, mem, rfl, (agreeOnPrefix_padIpv4 entryText.le ip address).mpr agree⟩

theorem curbCidrRulesMatch_ipv6_iff {net : InetPton} {entries : List Text}
    {rules : List CurbCidrRule} (ruled : RulesOf net entries rules) (ip : BytePtr) :
    curbCidrRulesMatch rules .ipv6 ip = true ↔ CidrsAdmit net.inet6 entries ip := by
  rw [curbCidrRulesMatch_iff, ruled.nil_iff, CidrsAdmit]
  refine or_congr_right ?_
  constructor
  · rintro ⟨⟨family, bits, address⟩, mem, rfl, agree⟩
    obtain ⟨entry, inside, entryText⟩ := (ruled.ipv6_iff bits address).mp ⟨_, mem, rfl⟩
    exact ⟨entry, inside, address, bits, entryText, agree⟩
  · rintro ⟨entry, inside, address, bits, entryText, agree⟩
    obtain ⟨rule, mem, rfl⟩ := (ruled.ipv6_iff bits address).mpr ⟨entry, inside, entryText⟩
    exact ⟨_, mem, rfl, agree⟩

/-- A decision taken by one address check is the check's verdict. -/
theorem gateDecides_of_check {platform : Platform} {easy : Easy} {address : CurlSockaddr}
    {isUnsafe : BytePtr → Bool} {family : CidrFamily} {ip : BytePtr} (format : BytePtr → Text)
    (decided : curbPublicNetworkOpensocket platform easy (some address) =
      match easy.checkDestination isUnsafe family format ip with
      | some blocked => (⟨false, none⟩, blocked)
      | none =>
          (⟨true, platform.socket address.family address.socktype address.protocol⟩, easy)) :
    GateDecides (isUnsafe ip = false ∧
        curbCidrRulesMatch easy.networkAllowedCidrRules family ip = true)
      (curbPublicNetworkOpensocket platform easy (some address)) := by
  rw [decided]
  cases verdict : easy.checkDestination isUnsafe family format ip with
  | none =>
    have passes := checkDestination_eq_none_iff.mp verdict
    exact ⟨by simp [passes], fun refused => absurd passes refused⟩
  | some blocked =>
    have fails := mt checkDestination_eq_none_iff.mpr (by rw [verdict]; exact nofun)
    exact ⟨by simp only [Bool.false_eq_true, false_iff]; exact fails,
      fun _ => ⟨rfl, checkDestination_blocked verdict⟩⟩

/-- The handles whose callback follows the list that `stored` has accepted: `stored` itself
under the `:public` policy, and every handle that has kept the list up to a setup under it. -/
inductive FollowsList (net : InetPton) (stored : Easy) : Easy → Prop
  | accepted (isPublic : stored.networkPolicy = .policyPublic) : FollowsList net stored stored
  | installed {replies : SetupReplies} {atSetup ready : Easy}
      (kept : atSetup.allowedCidrs = stored.allowedCidrs)
      (isPublic : atSetup.networkPolicy = .policyPublic)
      (install : Returns (setup net replies) atSetup () ready) : FollowsList net stored ready

theorem FollowsList.rulesOf {net : InetPton} {cidrs : ListArgument} {easy stored ready : Easy}
    (follows : FollowsList net stored ready)
    (accepted : Returns (allowedCidrsSet net cidrs) easy () stored) :
    RulesOf net (cidrs.items.getD []) ready.networkAllowedCidrRules := by
  obtain ⟨normalized, atOnce⟩ := allowedCidrsSet_returns accepted
  cases follows with
  | accepted isPublic => exact rulesOf_accepted normalized (atOnce isPublic)
  | installed kept isPublic install =>
    obtain ⟨_, hosts, rules, part, rfl⟩ := setup_returns install
    rw [← kept] at normalized
    exact rulesOf_accepted normalized (part.cidrRules isPublic)

/-- Once a list has been accepted and the `:public` policy follows it, the socket of an IPv4
or IPv6 destination is opened exactly when the address is not an unsafe one and the list is
empty or has an entry of the family that shares the leading bits the entry asks for; every
other destination is refused and recorded. -/
theorem allowedCidrs_gate (net : InetPton) (platform : Platform) (address : CurlSockaddr)
    {cidrs : ListArgument} {easy stored ready : Easy}
    (accepted : Returns (allowedCidrsSet net cidrs) easy () stored)
    (follows : FollowsList net stored ready) :
    (address.family = .inet → sizeofSockaddrIn ≤ address.addrlen →
      GateDecides (curbIpv4IsUnsafeDestination address.sinAddr = false ∧
          CidrsAdmit net.inet (cidrs.items.getD []) address.sinAddr)
        (curbPublicNetworkOpensocket platform ready (some address))) ∧
    (address.family = .inet6 → sizeofSockaddrIn6 ≤ address.addrlen →
      GateDecides (curbIpv6IsUnsafeDestination address.sin6Addr = false ∧
          CidrsAdmit net.inet6 (cidrs.items.getD []) address.sin6Addr)
        (curbPublicNetworkOpensocket platform ready (some address))) := by
  have ruled := follows.rulesOf accepted
  refine ⟨?_, ?_⟩
  · intro isInet long
    rw [← curbCidrRulesMatch_ipv4_iff ruled]
    apply gateDecides_of_check curbFormatIpv4
    simp only [curbPublicNetworkOpensocket, isInet, long, and_self, if_true]
  · intro isInet6 long
    rw [← curbCidrRulesMatch_ipv6_iff ruled]
    apply gateDecides_of_check (curbFormatIpv6 platform)
    simp only [curbPublicNetworkOpensocket, isInet6, long, and_self, if_true, reduceCtorEq,
      false_and, if_false]

/-- `inet_pton` on one address of each family, for a run of the gate. -/
def oneNetInetPton : InetPton where
  inet text := if text = "1.1.1.0".toList then some #v[1, 1, 1, 0] else none
  inet6 text :=
    if text = "2606:4700::".toList then
      some #v[0x26, 0x06, 0x47, 0, 0, 0, 0, 0, 0, 0, 0, 0, 0, 0, 0, 0]
    else none
  inet_chars := by
    intro text ip read
    obtain ⟨rfl, _⟩ := Option.ite_none_right_eq_some.mp read
    exact List.forall_iff_forall_mem.mp (by decide)
  inet_dot := by
    intro text ip read
    obtain ⟨rfl, _⟩ := Option.ite_none_right_eq_some.mp read
    decide
  inet6_chars := by
    intro text ip read
    obtain ⟨rfl, _⟩ := Option.ite_none_right_eq_some.mp read
    exact List.forall_iff_forall_mem.mp (by decide)
  inet6_colon := by
    intro text ip read
    obtain ⟨rfl, _⟩ := Option.ite_none_right_eq_some.mp read
    decide

/-- A handle under the `:public` policy, before and after `allowed_cidrs = ["1.1.1.0/24"]`. -/
def publicEasy (cidrs : Option (List Text)) (rules : List CurbCidrRule) : Easy :=
  { Easy.new (some "http://example.com/".toList) with
    networkPolicy := .policyPublic
    allowedCidrs := cidrs
    networkAllowedCidrRules := rules }

/-- A destination inside the only entry of a list: its socket is opened. -/
theorem allowedCidrs_gate_oneNet :
    let platform : Platform := ⟨fun _ _ _ => some 3, fun _ => none⟩
    let address : CurlSockaddr := ⟨.inet, 1, 6, 16, constBytes [2, 0, 0, 80, 1, 1, 1, 77]⟩
    let ready := { publicEasy (some ["1.1.1.0/24".toList]) [⟨.ipv4, 24, padIpv4 #v[1, 1, 1, 0]⟩] with
      policyCalls := [.allowedCidrs .policyPublic] }
    GateDecides (curbIpv4IsUnsafeDestination address.sinAddr = false ∧
        CidrsAdmit oneNetInetPton.inet ["1.1.1.0/24".toList] address.sinAddr)
      (curbPublicNetworkOpensocket platform ready (some address)) ∧
    (curbPublicNetworkOpensocket platform ready (some address)).1 = ⟨true, some 3⟩ :=
  have accepted : Returns (allowedCidrsSet oneNetInetPton (.array ["1.1.1.0/24".toList]))
      (publicEasy none []) ()
      { publicEasy (some ["1.1.1.0/24".toList]) [⟨.ipv4, 24, padIpv4 #v[1, 1, 1, 0]⟩] with
        policyCalls := [.allowedCidrs .policyPublic] } := rfl
  ⟨(allowedCidrs_gate _ _ _ accepted (.accepted rfl)).1 rfl (by decide), rfl⟩

end Easy
end Curb

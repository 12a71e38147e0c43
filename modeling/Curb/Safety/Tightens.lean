import Curb.Safety.Enforces

/-!
# What a handle admits before and after `apply_safety!`

A request is judged in five dimensions: its protocol, the protocol of a redirect, the host,
the peer address and the size of the body. `apply_safety!` narrows the last one; in each of
the others a setting takes the place of the handle's own restriction, and without a setting
the handle's own restriction stays. A handle that has been given no list for redirects has the one
libcurl starts it with.
-/

namespace Curb
open Curb.Misc Curb.Ruby Curb.Net

/-- A destination address. -/
inductive Peer where
  | ipv4 (ip : Ipv4)
  | ipv6 (ip : Ipv6)

/-- What the restrictions of a handle are asked about. -/
structure Request where
  protocol : ProtocolName
  redirect : ProtocolName
  host : Text
  peer : Peer
  bodySize : Nat

/-- The peers a network policy admits: under `:public` those the gate opens a socket to. -/
def PeerAdmitted (net : InetPton) (policy : NetworkPolicy) (cidrs : List Text) : Peer → Prop
  | .ipv4 ip => policy = .policyPublic →
      curbIpv4IsUnsafeDestination (ptr ip) = false ∧ Easy.CidrsAdmit net.inet cidrs (ptr ip)
  | .ipv6 ip => policy = .policyPublic →
      curbIpv6IsUnsafeDestination (ptr ip) = false ∧ Easy.CidrsAdmit net.inet6 cidrs (ptr ip)

/-- The protocols libcurl follows a redirect to on a handle whose `CURLOPT_REDIR_PROTOCOLS` has not
been set. -/
structure RedirectDefault where
  protocols : List ProtocolName
  documented : ∀ name, name ∈ protocols ↔ name.text ∈ ["http", "https", "ftp", "ftps"].map String.toList

theorem eq_protocolName_iff {name : ProtocolName} {text : Text} :
    name = protocolName text ↔ name.text = downcase text := by
  cases name with
  | mk text' lower => simp [protocolName]

/-- The documented list. -/
def RedirectDefault.libcurl : RedirectDefault where
  protocols := ["http", "https", "ftp", "ftps"].map fun name => protocolName name.toList
  documented name := by
    simp only [List.map_cons, List.map_nil, List.mem_cons, eq_protocolName_iff, List.not_mem_nil]
    exact Iff.rfl

namespace Easy

def AdmitsProtocol (easy : Easy) (protocol : ProtocolName) : Prop :=
  ∀ list ∈ easy.native.protocols, protocol ∈ list

/-- What the redirect list of the handle admits, its own or libcurl's. -/
def RedirectListed (libcurl : RedirectDefault) (easy : Easy) (protocol : ProtocolName) : Prop :=
  protocol ∈ easy.native.redirProtocols.getD libcurl.protocols

/-- libcurl follows a redirect to a protocol that both lists admit. -/
def AdmitsRedirect (libcurl : RedirectDefault) (easy : Easy) (protocol : ProtocolName) : Prop :=
  easy.RedirectListed libcurl protocol ∧ easy.AdmitsProtocol protocol

def AdmitsHost (easy : Easy) (host : Text) : Prop :=
  curbHostRulesMatch (easy.allowedHosts.getD []) host = true

def AdmitsPeer (net : InetPton) (easy : Easy) (peer : Peer) : Prop :=
  PeerAdmitted net easy.networkPolicy (easy.allowedCidrs.getD []) peer

def AdmitsBody (easy : Easy) (size : Nat) : Prop := ∀ limit ∈ easy.maxBodyBytes, size ≤ limit

/-- The handle's own restrictions admit the request. -/
structure Admits (net : InetPton) (libcurl : RedirectDefault) (easy : Easy) (request : Request) :
    Prop where
  protocol : easy.AdmitsProtocol request.protocol
  redirect : easy.AdmitsRedirect libcurl request.redirect
  host : easy.AdmitsHost request.host
  peer : easy.AdmitsPeer net request.peer
  body : easy.AdmitsBody request.bodySize

/-- The protocols the settings admit, or the handle itself where they have no lists. -/
def SettingsAdmitProtocol (config : Option SafetyConfig) (before : Easy) (protocol : ProtocolName) : Prop :=
  if restrictingProtocols config before.safetyOverride = [] then before.AdmitsProtocol protocol
  else ∀ list ∈ restrictingProtocols config before.safetyOverride, protocol ∈ list

/-- What the settings put in the place of the handle's own restrictions. Where they have
nothing to say about a dimension, it is the handle's own restriction again. -/
structure SettingsAdmit (net : InetPton) (libcurl : RedirectDefault) (config : Option SafetyConfig)
    (before : Easy) (request : Request) : Prop where
  protocol : SettingsAdmitProtocol config before request.protocol
  redirect : (if restrictingRedirects config before.safetyOverride = [] then
      before.RedirectListed libcurl request.redirect
    else ∀ list ∈ restrictingRedirects config before.safetyOverride, request.redirect ∈ list) ∧
      SettingsAdmitProtocol config before request.redirect
  host : match config.bind (·.allowedHosts) with
    | none => before.AdmitsHost request.host
    | some hosts => ∃ item ∈ hosts, HostEntry item request.host
  peer : PeerAdmitted net ((config.bind (·.networkPolicy)).getD before.networkPolicy)
    (((config.bind (·.allowedCidrs)).or before.allowedCidrs).getD []) request.peer

/-! ## Dimension by dimension -/

theorem restrictingRedirects_eq_nil_iff (config : Option SafetyConfig)
    (override : Option SafetyOverride) :
    restrictingRedirects config override = [] ↔ restrictingProtocols config override = [] := by
  constructor
  · intro none
    cases config with
    | some given => simp [restrictingRedirects] at none
    | none =>
      cases override with
      | none => rfl
      | some override =>
        cases isProtocols : override.protocols with
        | none => simp [restrictingProtocols, isProtocols]
        | some list =>
          cases isRedirects : override.redirectProtocols with
          | none => simp [restrictingRedirects, isProtocols, isRedirects] at none
          | some redirects => simp [restrictingRedirects, isRedirects] at none
  · intro none
    by_contra some_list
    exact restrictingProtocols_ne some_list none

/-- A list merged from a base and an override holds exactly what both hold. -/
theorem mem_narrowedBy_iff {base overrideProtocols : Option (List ProtocolName)}
    {list : List ProtocolName} (ok : narrowedBy base overrideProtocols = .ok (some list))
    (name : ProtocolName) :
    name ∈ list ↔ ∀ names ∈ base.toList ++ overrideProtocols.toList, name ∈ names := by
  obtain ⟨merged_none, merged_some⟩ := narrowedBy_ok ok
  rw [merged_some list rfl name]
  constructor
  · rintro (⟨inOverride, inBase⟩ | absent) names mem
    · rcases List.mem_append.mp mem with ofBase | ofOverride
      · exact inBase names (Option.mem_toList.mp ofBase)
      · exact inOverride names (Option.mem_toList.mp ofOverride)
    · cases merged_none.mpr absent
  · intro all
    refine Or.inl ⟨?_, ?_⟩
    · intro names mem
      exact all names (List.mem_append_right _ (Option.mem_toList.mpr mem))
    · intro names mem
      exact all names (List.mem_append_left _ (Option.mem_toList.mpr mem))

theorem narrowedBy_none_iff {base overrideProtocols merged : Option (List ProtocolName)}
    (ok : narrowedBy base overrideProtocols = .ok merged) :
    merged = none ↔ base.toList ++ overrideProtocols.toList = [] := by
  rw [(narrowedBy_ok ok).1]
  cases base <;> cases overrideProtocols <;> simp

/-- CIDR lists with the same entries admit the same addresses. -/
theorem cidrsAdmit_congr {n : Nat} {inetPton : Text → Option (Vector (BitVec 8) n)}
    {entries entries' : List Text} (same : ∀ entry, entry ∈ entries ↔ entry ∈ entries')
    (ip : BytePtr) : CidrsAdmit inetPton entries ip ↔ CidrsAdmit inetPton entries' ip := by
  simp only [CidrsAdmit, List.eq_nil_iff_forall_not_mem, same]

theorem peerAdmitted_congr {net : InetPton} {policy : NetworkPolicy} {entries entries' : List Text}
    (same : ∀ entry, entry ∈ entries ↔ entry ∈ entries') (peer : Peer) :
    PeerAdmitted net policy entries peer ↔ PeerAdmitted net policy entries' peer := by
  cases peer with
  | ipv4 ip => simp only [PeerAdmitted, cidrsAdmit_congr same]
  | ipv6 ip => simp only [PeerAdmitted, cidrsAdmit_congr same]

/-- A size within the tightened limit is within both limits. -/
theorem le_tightened_iff {maxBodyBytes current : Option Nat}
    (positive : ∀ limit ∈ maxBodyBytes, 0 < limit) (size : Nat) :
    (∀ limit ∈ tightened maxBodyBytes current, size ≤ limit) ↔
      (∀ limit ∈ maxBodyBytes, size ≤ limit) ∧ ∀ limit ∈ current, size ≤ limit := by
  cases maxBodyBytes with
  | none => simp [tightened]
  | some limit =>
    have nonzero : limit ≠ 0 := by
      have limit_pos := positive limit rfl
      omega
    cases current with
    | none => simp [tightened, nonzero]
    | some before =>
      by_cases lower : limit < before
      · simp only [tightened, Option.all_some, lower, decide_true, if_true, nonzero, if_false,
          Option.mem_def, Option.some.injEq, forall_eq']
        omega
      · simp only [tightened, Option.all_some, lower, decide_false, Bool.false_eq_true, if_false,
          Option.mem_def, Option.some.injEq, forall_eq']
        omega

theorem applied_protocol_iff {config : Option SafetyConfig} {before : Easy} {native : NativeOptions}
    (applied : ListsApplied config before native) (protocol : ProtocolName) :
    (∀ list ∈ native.protocols, protocol ∈ list) ↔ SettingsAdmitProtocol config before protocol := by
  unfold SettingsAdmitProtocol
  obtain ⟨protocols, redirects, isProtocols, _, _, rfl⟩ := applied
  have unrestricted : protocols = none ↔ restrictingProtocols config before.safetyOverride = [] :=
    narrowedBy_none_iff isProtocols
  cases protocols with
  | none =>
    rw [if_pos (unrestricted.mp rfl)]
    rfl
  | some list =>
    rw [if_neg (mt unrestricted.mpr nofun)]
    simp only [withLists, Option.mem_def, Option.some.injEq, forall_eq']
    exact mem_narrowedBy_iff isProtocols protocol

theorem applied_redirect_iff {libcurl : RedirectDefault} {config : Option SafetyConfig} {before : Easy}
    {native : NativeOptions} (applied : ListsApplied config before native) (protocol : ProtocolName) :
    protocol ∈ native.redirProtocols.getD libcurl.protocols ↔
      if restrictingRedirects config before.safetyOverride = [] then
        before.RedirectListed libcurl protocol
      else ∀ list ∈ restrictingRedirects config before.safetyOverride, protocol ∈ list := by
  obtain ⟨protocols, redirects, isProtocols, isRedirects, _, rfl⟩ := applied
  have unlisted : protocols = none ↔ restrictingProtocols config before.safetyOverride = [] :=
    narrowedBy_none_iff isProtocols
  have unrestricted : redirects = none ↔ restrictingRedirects config before.safetyOverride = [] :=
    narrowedBy_none_iff isRedirects
  have together : redirects = none ↔ protocols = none := by
    rw [unlisted, unrestricted, restrictingRedirects_eq_nil_iff]
  cases redirects with
  | none =>
    rw [if_pos (unrestricted.mp rfl), together.mp rfl]
    rfl
  | some redirectList =>
    obtain ⟨list, rfl⟩ : ∃ list, protocols = some list := by
      rw [← Option.ne_none_iff_exists']
      exact fun absent => nomatch together.mpr absent
    rw [if_neg (mt unrestricted.mpr nofun)]
    simp only [withLists, Option.getD_some]
    exact mem_narrowedBy_iff isRedirects protocol

theorem applied_host_iff {ruby : RubyLibrary} {net : InetPton} {config : Option SafetyConfig}
    {before after : Easy} (applied : Applied ruby net config before after) (host : Text) :
    after.AdmitsHost host ↔ match config.bind (·.allowedHosts) with
      | none => before.AdmitsHost host
      | some hosts => ∃ item ∈ hosts, HostEntry item host := by
  have listed := applied.hosts
  cases isHosts : config.bind (·.allowedHosts) with
  | none =>
    rw [isHosts] at listed
    rw [AdmitsHost, listed, AdmitsHost]
  | some hosts =>
    rw [isHosts] at listed
    obtain ⟨_, mem, accepted⟩ := curbNormalizeHostList_ok listed.2
    have nonempty : after.allowedHosts.getD [] ≠ [] := by
      obtain ⟨given, _, isGiven⟩ := Option.bind_eq_some_iff.mp isHosts
      obtain ⟨item, inside⟩ := List.exists_mem_of_ne_nil _ (given.hosts_ne hosts isGiven)
      obtain ⟨entry, isEntry⟩ := accepted item inside
      exact List.ne_nil_of_mem ((mem entry).mpr ⟨item, inside, isEntry⟩)
    rw [AdmitsHost, curbHostRulesMatch, Bool.or_eq_true, List.isEmpty_iff, List.contains_iff_mem]
    rw [mem host]
    exact or_iff_right nonempty

theorem applied_peer_iff {ruby : RubyLibrary} {net : InetPton} {config : Option SafetyConfig}
    {before after : Easy} (applied : Applied ruby net config before after) (peer : Peer) :
    after.AdmitsPeer net peer ↔
      PeerAdmitted net ((config.bind (·.networkPolicy)).getD before.networkPolicy)
        (((config.bind (·.allowedCidrs)).or before.allowedCidrs).getD []) peer := by
  have listed := applied.cidrs
  rw [AdmitsPeer, applied.policy]
  cases isCidrs : config.bind (·.allowedCidrs) with
  | none =>
    rw [isCidrs] at listed
    rw [listed, Option.none_or]
  | some cidrs =>
    rw [isCidrs] at listed
    obtain ⟨_, same, _⟩ := curbNormalizeCidrList_ok listed.2
    exact peerAdmitted_congr same peer

theorem applied_body_iff {ruby : RubyLibrary} {net : InetPton} {config : Option SafetyConfig}
    {before after : Easy} (applied : Applied ruby net config before after) (size : Nat) :
    after.AdmitsBody size ↔
      before.AdmitsBody size ∧ ∀ bound ∈ bodyLimits config before.safetyOverride, size ≤ bound := by
  rw [AdmitsBody, applied.limit, le_tightened_iff (overrideLimit_pos before.safetyOverride),
    le_tightened_iff (configLimit_pos config), AdmitsBody, bodyLimits, List.forall_mem_append]
  simp only [Option.mem_toList, Option.mem_def]
  tauto

/-! ## The whole request -/

/-- After `apply_safety!` a handle admits what the settings put in the place of its own
restrictions, and no body larger than its own limit was. So where the settings admit nothing
its own restrictions did not, it admits nothing it did not admit before. -/
theorem applySafety_admits {ruby : RubyLibrary} {net : InetPton} {libcurl : RedirectDefault}
    {config : Option SafetyConfig} {before after : Easy}
    (run : Returns (applySafety ruby net config) before () after) :
    (∀ request, after.Admits net libcurl request ↔ SettingsAdmit net libcurl config before request ∧
      before.AdmitsBody request.bodySize ∧
      ∀ bound ∈ bodyLimits config before.safetyOverride, request.bodySize ≤ bound) ∧
    ((∀ request, SettingsAdmit net libcurl config before request →
        before.AdmitsProtocol request.protocol ∧ before.AdmitsRedirect libcurl request.redirect ∧
        before.AdmitsHost request.host ∧ before.AdmitsPeer net request.peer) →
      ∀ request, after.Admits net libcurl request → before.Admits net libcurl request) := by
  have applied := applySafety_applied run
  have exact_admission : ∀ request, after.Admits net libcurl request ↔
      SettingsAdmit net libcurl config before request ∧ before.AdmitsBody request.bodySize ∧
      ∀ bound ∈ bodyLimits config before.safetyOverride, request.bodySize ≤ bound := by
    intro request
    have protocol := applied_protocol_iff applied.lists request.protocol
    have redirect := and_congr
      (@applied_redirect_iff libcurl config before _ applied.lists request.redirect)
      (applied_protocol_iff applied.lists request.redirect)
    have host := applied_host_iff applied request.host
    have peer := applied_peer_iff applied request.peer
    have body := applied_body_iff applied request.bodySize
    constructor
    · intro admits
      exact ⟨⟨protocol.mp admits.protocol, redirect.mp admits.redirect, host.mp admits.host,
        peer.mp admits.peer⟩, body.mp admits.body⟩
    · rintro ⟨settings, within⟩
      exact ⟨protocol.mpr settings.protocol, redirect.mpr settings.redirect,
        host.mpr settings.host, peer.mpr settings.peer, body.mpr within⟩
  refine ⟨exact_admission, ?_⟩
  intro stricter request admits
  obtain ⟨settings, ownLimit, _⟩ := (exact_admission request).mp admits
  obtain ⟨protocol, redirect, host, peer⟩ := stricter request settings
  exact ⟨protocol, redirect, host, peer, ownLimit⟩

/-- `Curl.safe!` on a handle without restrictions of its own: the settings are its only ones. -/
theorem applySafety_admits_unrestricted :
    let ruby : RubyLibrary := ⟨fun _ => .ok none, fun _ => none, fun _ => true, fun _ _ => rfl⟩
    let before := Easy.new (some "http://example.com/".toList)
    ∃ after, Returns (applySafety ruby oneNetInetPton (some SafetyConfig.new)) before () after ∧
      ∀ request, after.Admits oneNetInetPton .libcurl request →
        before.Admits oneNetInetPton .libcurl request := by
  intro ruby before
  have run : Returns (applySafety ruby oneNetInetPton (some SafetyConfig.new)) before () _ := rfl
  refine ⟨_, run, (applySafety_admits run).2 ?_⟩
  intro request settings
  have listed : request.redirect ∈ ["http", "https"].map fun name => protocolName name.toList :=
    settings.redirect.1 _ List.mem_cons_self
  have more : (["http", "https"].map fun name => protocolName name.toList) ⊆
      RedirectDefault.libcurl.protocols := by decide
  exact ⟨nofun, ⟨more listed, nofun⟩, settings.host, settings.peer⟩

/-- A handle narrowed to `https` admits `http` once the default configuration of `Curl.safe!`
has been applied to it. -/
theorem applySafety_replaces_allowedProtocols :
    let ruby : RubyLibrary := ⟨fun _ => .ok none, fun _ => none, fun _ => true, fun _ _ => rfl⟩
    let request : Request := ⟨protocolName "http".toList, protocolName "http".toList,
      "example.com".toList, .ipv4 #v[1, 1, 1, 1], 0⟩
    ∃ before after,
      Returns (allowedProtocolsSet ruby ["https".toList])
        (Easy.new (some "http://example.com/".toList)) () before ∧
      Returns (applySafety ruby oneNetInetPton (some SafetyConfig.new)) before () after ∧
      after.Admits oneNetInetPton .libcurl request ∧ ¬before.Admits oneNetInetPton .libcurl request := by
  intro ruby request
  refine ⟨_, _, rfl, rfl, ⟨?_, ⟨?_, ?_⟩, ?_, ?_, ?_⟩, ?_⟩
  · rintro _ ⟨⟩
    decide
  · show request.redirect ∈ (SafetyConfig.new.redirectProtocols.getD SafetyConfig.new.protocols)
    decide
  · rintro _ ⟨⟩
    decide
  · rfl
  · exact nofun
  · exact nofun
  · intro admits
    exact absurd (admits.protocol _ rfl) (by decide)

end Easy
end Curb

import Curb.Safety.Apply

/-!
# What `apply_safety!` leaves behind

One lemma for each helper of `apply_safety!` says what a handle is after the helper has
returned; `Applied` collects them for the whole call.
-/

namespace Curb
open Curb.Misc Curb.Ruby Curb.Net

namespace Easy

/-! ## Setters -/

theorem protocolAllowlist_ok {protocols : List Text} {names : List ProtocolName}
    (ok : protocolAllowlist protocols = .ok names) :
    names = protocols.map protocolName ∧ names ≠ [] := by
  unfold protocolAllowlist rbRaise at ok
  dsimp only at ok
  split at ok
  · cases ok
  · rename_i given
    split at ok
    · cases ok
    · cases ok
      exact ⟨rfl, given⟩

/-- libcurl takes the names it is handed. -/
theorem takes_protocolAllowlist (ruby : RubyLibrary) {protocols : List Text} {names : List ProtocolName}
    (ok : protocolAllowlist protocols = .ok names) : ruby.takesProtocols names = true := by
  unfold protocolAllowlist rbRaise at ok
  dsimp only at ok
  split at ok
  · cases ok
  · split at ok
    · cases ok
    · rename_i valid
      cases ok
      refine ruby.takes_valid _ fun name mem => ?_
      simpa using List.find?_eq_none.mp valid name mem

theorem map_protocolName_text (names : List ProtocolName) :
    (names.map (·.text)).map protocolName = names := by
  rw [List.map_map]
  exact List.map_id'' protocolName_text names

theorem allowedProtocolsSet_sets {ruby : RubyLibrary} {names : List ProtocolName}
    (takes : ruby.takesProtocols names = true) (allowed : protocolAllowlist (names.map (·.text)) = .ok names)
    (easy : Easy) :
    Returns (allowedProtocolsSet ruby (names.map (·.text))) easy ()
      { easy with native := { easy.native with protocols := some names } } := by
  unfold allowedProtocolsSet
  refine bind_returns_iff.mpr ⟨names, easy, returns_lift_iff.mpr ⟨allowed, rfl⟩, ?_⟩
  rw [if_pos takes]
  exact returns_modify_iff.mpr rfl

theorem allowedRedirectProtocolsSet_sets {ruby : RubyLibrary} {names : List ProtocolName}
    (takes : ruby.takesProtocols names = true) (allowed : protocolAllowlist (names.map (·.text)) = .ok names)
    (easy : Easy) :
    Returns (allowedRedirectProtocolsSet ruby (names.map (·.text))) easy ()
      { easy with native := { easy.native with redirProtocols := some names } } := by
  unfold allowedRedirectProtocolsSet
  refine bind_returns_iff.mpr ⟨names, easy, returns_lift_iff.mpr ⟨allowed, rfl⟩, ?_⟩
  rw [if_pos takes]
  exact returns_modify_iff.mpr rfl

theorem allowedProtocolsSet_returns {ruby : RubyLibrary} {names : List ProtocolName} {easy after : Easy}
    (run : Returns (allowedProtocolsSet ruby (names.map (·.text))) easy () after) :
    names ≠ [] ∧ after = { easy with native := { easy.native with protocols := some names } } := by
  simp only [allowedProtocolsSet, bind_returns_iff, returns_lift_iff] at run
  obtain ⟨_, _, ⟨allowed, rfl⟩, run⟩ := run
  rw [if_pos (takes_protocolAllowlist ruby allowed)] at run
  obtain rfl := returns_modify_iff.mp run
  obtain ⟨rfl, given⟩ := protocolAllowlist_ok allowed
  rw [map_protocolName_text] at given ⊢
  exact ⟨given, rfl⟩

theorem allowedRedirectProtocolsSet_returns {ruby : RubyLibrary} {names : List ProtocolName} {easy after : Easy}
    (run : Returns (allowedRedirectProtocolsSet ruby (names.map (·.text))) easy () after) :
    names ≠ [] ∧
      after = { easy with native := { easy.native with redirProtocols := some names } } := by
  simp only [allowedRedirectProtocolsSet, bind_returns_iff, returns_lift_iff] at run
  obtain ⟨_, _, ⟨allowed, rfl⟩, run⟩ := run
  rw [if_pos (takes_protocolAllowlist ruby allowed)] at run
  obtain rfl := returns_modify_iff.mp run
  obtain ⟨rfl, given⟩ := protocolAllowlist_ok allowed
  rw [map_protocolName_text] at given ⊢
  exact ⟨given, rfl⟩

theorem maxBodyBytesSet_returns {limit : Nat} {easy after : Easy}
    (run : Returns (maxBodyBytesSet (some limit)) easy () after) :
    after = { easy with maxBodyBytes := if limit = 0 then none else some limit } := by
  unfold maxBodyBytesSet at run
  simp only at run
  split at run
  · exact absurd run returns_raise_iff
  · split at run
    · exact absurd run returns_raise_iff
    · split at run
      · rename_i zero
        rw [if_pos (by omega)]
        exact returns_modify_iff.mp run
      · rename_i positive
        rw [if_neg (by omega)]
        exact returns_modify_iff.mp run

/-! ## Helpers -/

/-- The limit `apply_max_body_bytes!` leaves on a handle whose limit is `current`. -/
def tightened (maxBodyBytes current : Option Nat) : Option Nat :=
  match maxBodyBytes with
  | none => current
  | some limit =>
      if current.all (fun current => limit < current) then
        if limit = 0 then none else some limit
      else current

theorem applyMaxBodyBytes_returns {maxBodyBytes : Option Nat} {easy after : Easy}
    (run : Returns (applyMaxBodyBytes maxBodyBytes) easy () after) :
    after = { easy with maxBodyBytes := tightened maxBodyBytes easy.maxBodyBytes } := by
  unfold applyMaxBodyBytes at run
  cases maxBodyBytes with
  | none => exact (returns_pure_iff.mp run).2.symm
  | some limit =>
    simp only [bind_returns_iff, returns_get_iff] at run
    obtain ⟨_, _, ⟨rfl, rfl⟩, run⟩ := run
    split at run
    · rename_i lower
      rw [tightened, if_pos lower]
      exact maxBodyBytesSet_returns run
    · rename_i notLower
      rw [tightened, if_neg notLower]
      exact (returns_pure_iff.mp run).2.symm

theorem rejectOverride_returns {isSet : Easy → Bool} {message : String} {easy after : Easy}
    (run : Returns (rejectOverride isSet message) easy () after) :
    isSet easy = false ∧ easy = after := by
  simp only [rejectOverride, bind_returns_iff, returns_get_iff] at run
  obtain ⟨_, _, ⟨rfl, rfl⟩, run⟩ := run
  split at run
  · exact absurd run returns_raise_iff
  · rename_i unset
    exact ⟨by simpa using unset, (returns_pure_iff.mp run).2⟩

/-- A check made only where it applies. -/
theorem unlessAllowed_returns {isSet : Easy → Bool} {message : String} {allow : Bool}
    {easy after : Easy}
    (run : Returns (unlessAllowed allow (rejectOverride isSet message)) easy () after) :
    (allow = false → isSet easy = false) ∧ easy = after := by
  cases allow with
  | true =>
    obtain ⟨_, same⟩ := returns_pure_iff.mp run
    exact ⟨fun refused => (nomatch refused), same⟩
  | false =>
    obtain ⟨unset, same⟩ := rejectOverride_returns run
    exact ⟨fun _ => unset, same⟩

theorem allowedHostsSet_returns {hosts : ListArgument} {easy after : Easy}
    (run : Returns (allowedHostsSet hosts) easy () after) :
    curbNormalizeHostList hosts = .ok after.allowedHosts ∧
      curbHostRules after.allowedHosts = .ok after.networkAllowedHosts ∧
      after = { easy with
        allowedHosts := after.allowedHosts
        networkAllowedHosts := after.networkAllowedHosts } := by
  simp only [allowedHostsSet, bind_returns_iff, returns_lift_iff, returns_modify_iff] at run
  obtain ⟨normalized, _, ⟨built, rfl⟩, _, _, rfl, run⟩ := run
  obtain ⟨rules, ruled, rfl⟩ := curbPrepareNetworkAllowedHosts_returns run
  exact ⟨built, ruled, rfl⟩

theorem applyAllowedHosts_returns {ruby : RubyLibrary} {hosts : List Text} {easy after : Easy}
    (run : Returns (applyAllowedHosts ruby hosts) easy () after) :
    (∃ host, urlHost ruby easy.url = .ok host ∧ host ∈ hosts) ∧
      Returns (allowedHostsSet (.array hosts)) easy () after := by
  simp only [applyAllowedHosts, bind_returns_iff, returns_get_iff, returns_lift_iff] at run
  obtain ⟨_, _, ⟨rfl, rfl⟩, _, _, ⟨_, rfl⟩, host, _, ⟨isHost, rfl⟩, run⟩ := run
  split at run
  · rename_i listed
    exact ⟨⟨host, isHost, listed⟩, run⟩
  · exact absurd run returns_throw_iff

theorem applyAllowedCidrs_returns {net : InetPton} {config : SafetyConfig} {cidrs : List Text}
    {easy after : Easy} (run : Returns (applyAllowedCidrs net config cidrs) easy () after) :
    config.networkPolicy = some .policyPublic ∧
      Returns (Easy.allowedCidrsSet net (.array cidrs)) easy () after := by
  unfold applyAllowedCidrs at run
  split at run
  · rename_i isPublic
    exact ⟨isPublic, run⟩
  · exact absurd run returns_raise_iff

/-- The proxy settings of a handle that goes through no proxy. -/
def ProxyDisabled (easy : Easy) : Prop :=
  easy.proxyUrl = some [] ∧ easy.proxyTunnel = false ∧ easy.noproxy = some "*".toList

theorem disableProxy_returns {easy after : Easy} (run : Returns disableProxy easy () after) :
    ProxyDisabled after ∧ after = { easy with
      proxyUrl := after.proxyUrl, proxyTunnel := after.proxyTunnel, noproxy := after.noproxy } := by
  simp only [disableProxy, noproxySet, bind_returns_iff, returns_modify_iff] at run
  obtain ⟨_, _, rfl, _, _, rfl, rfl⟩ := run
  exact ⟨⟨rfl, rfl, rfl⟩, rfl⟩

theorem applyAllowedProxy_returns {ruby : RubyLibrary} {hosts : List Text} {easy after : Easy}
    (run : Returns (applyAllowedProxy ruby hosts) easy () after) :
    (ProxyDisabled after ∨ ∃ proxyUrl host, after.proxyUrl = some proxyUrl ∧
        normalizeProxyHost ruby proxyUrl = .ok host ∧ host ∈ hosts) ∧
      after = { easy with
        proxyUrl := after.proxyUrl, proxyTunnel := after.proxyTunnel, noproxy := after.noproxy } := by
  simp only [applyAllowedProxy, bind_returns_iff, returns_get_iff] at run
  obtain ⟨_, _, ⟨rfl, rfl⟩, run⟩ := run
  split at run
  · rename_i given
    simp only [bind_returns_iff, returns_lift_iff] at run
    obtain ⟨host, _, ⟨isHost, rfl⟩, run⟩ := run
    split at run
    · rename_i listed
      obtain rfl := returns_modify_iff.mp run
      refine ⟨Or.inr ?_, rfl⟩
      obtain ⟨proxyUrl, url⟩ : ∃ proxyUrl, easy.proxyUrl = some proxyUrl := by
        cases url : easy.proxyUrl with
        | none => simp [isSetText, url] at given
        | some proxyUrl => exact ⟨proxyUrl, rfl⟩
      rw [url] at isHost
      exact ⟨proxyUrl, host, url, isHost, listed⟩
    · exact absurd run returns_throw_iff
  · obtain ⟨disabled, same⟩ := disableProxy_returns run
    exact ⟨Or.inl disabled, same⟩

/-- What the `:public` policy asks of the options that could lead around it. -/
structure PublicControls (ruby : RubyLibrary) (config : SafetyConfig) (easy : Easy) : Prop where
  resolve : config.allowResolve = false → isSetList easy.resolve = false
  connectTo : config.allowConnectTo = false → isSetList easy.connectTo = false
  doh : config.allowDoh = false → isSetText easy.dohUrl = false
  dnsServers : isSetText easy.dnsServers = false
  unixSocket : config.allowUnixSocket = false → isSetText easy.unixSocketPath = false
  unixSocketFlag : easy.allowUnixSocket = config.allowUnixSocket
  proxy : config.allowProxies = true ∨ ProxyDisabled easy ∨
    ∃ hosts proxyUrl host, config.allowedProxyHosts = some hosts ∧ easy.proxyUrl = some proxyUrl ∧
      normalizeProxyHost ruby proxyUrl = .ok host ∧ host ∈ hosts

/-- The fields `apply_public_network_policy_controls!` writes. -/
def withControlsOf (easy after : Easy) : Easy :=
  { easy with
    allowProxy := after.allowProxy
    allowUnixSocket := after.allowUnixSocket
    proxyUrl := after.proxyUrl
    proxyTunnel := after.proxyTunnel
    noproxy := after.noproxy }

theorem applyPublicNetworkPolicyControls_returns {ruby : RubyLibrary} {config : SafetyConfig}
    {easy after : Easy} (run : Returns (applyPublicNetworkPolicyControls ruby config) easy () after) :
    PublicControls ruby config after ∧ after = easy.withControlsOf after := by
  unfold applyPublicNetworkPolicyControls at run
  simp only [rejectResolveOverride, rejectConnectToOverride, rejectDohOverride,
    rejectDnsServersOverride, rejectUnixSocketOverride] at run
  obtain ⟨_, _, resolveRun, run⟩ := bind_returns_iff.mp run
  obtain ⟨noResolve, rfl⟩ := unlessAllowed_returns resolveRun
  obtain ⟨_, _, connectRun, run⟩ := bind_returns_iff.mp run
  obtain ⟨noConnect, rfl⟩ := unlessAllowed_returns connectRun
  obtain ⟨_, _, dohRun, run⟩ := bind_returns_iff.mp run
  obtain ⟨noDoh, rfl⟩ := unlessAllowed_returns dohRun
  obtain ⟨_, _, dnsRun, run⟩ := bind_returns_iff.mp run
  obtain ⟨noDns, rfl⟩ := rejectOverride_returns dnsRun
  simp only [bind_returns_iff, returns_modify_iff] at run
  obtain ⟨_, _, rfl, _, _, rfl, _, _, unixRun, run⟩ := run
  obtain ⟨noUnix, rfl⟩ := unlessAllowed_returns unixRun
  cases hosts : config.allowedProxyHosts with
  | some list =>
    rw [hosts] at run
    obtain ⟨proxied, same⟩ := applyAllowedProxy_returns run
    rw [same]
    refine ⟨⟨noResolve, noConnect, noDoh, noDns, noUnix, rfl, ?_⟩, rfl⟩
    rcases proxied with disabled | ⟨proxyUrl, host, isUrl, isHost, listed⟩
    · exact Or.inr (Or.inl disabled)
    · exact Or.inr (Or.inr ⟨list, proxyUrl, host, hosts, isUrl, isHost, listed⟩)
  | none =>
    rw [hosts] at run
    cases proxies : config.allowProxies with
    | true =>
      rw [proxies] at run
      obtain ⟨_, rfl⟩ := returns_pure_iff.mp run
      exact ⟨⟨noResolve, noConnect, noDoh, noDns, noUnix, rfl, Or.inl proxies⟩, rfl⟩
    | false =>
      rw [proxies] at run
      obtain ⟨disabled, same⟩ := disableProxy_returns run
      rw [same]
      exact ⟨⟨noResolve, noConnect, noDoh, noDns, noUnix, rfl, Or.inr (Or.inl disabled)⟩, rfl⟩

/-- The protocol options after `apply_safety!` has merged these lists. -/
def withLists (native : NativeOptions) (protocols redirects : Option (List ProtocolName)) :
    NativeOptions :=
  match protocols with
  | none => native
  | some list =>
      { native with protocols := some list, redirProtocols := some (redirects.getD list) }

theorem applyProtocols_returns {ruby : RubyLibrary} {config : Option SafetyConfig}
    {override : Option SafetyOverride} {easy after : Easy}
    (run : Returns (applyProtocols ruby config override) easy () after) :
    ∃ protocols redirects,
      narrowedBy (config.map (·.protocols)) (override.bind (·.protocols)) = .ok protocols ∧
      narrowedBy (config.map fun config => config.redirectProtocols.getD config.protocols)
        (override.bind overrideRedirects) = .ok redirects ∧
      (∀ list, protocols = some list → list ≠ [] ∧ redirects.getD list ≠ []) ∧
      after = { easy with native := withLists easy.native protocols redirects } := by
  simp only [applyProtocols, bind_returns_iff, returns_lift_iff] at run
  obtain ⟨protocols, _, ⟨isProtocols, rfl⟩, redirects, _, ⟨isRedirects, rfl⟩, run⟩ := run
  refine ⟨protocols, redirects, isProtocols, isRedirects, ?_⟩
  cases protocols with
  | none =>
    refine ⟨?_, (returns_pure_iff.mp run).2.symm⟩
    rintro list ⟨⟩
  | some list =>
    obtain ⟨_, _, listRun, run⟩ := bind_returns_iff.mp run
    obtain ⟨list_ne, rfl⟩ := allowedProtocolsSet_returns listRun
    obtain ⟨redirects_ne, rfl⟩ := allowedRedirectProtocolsSet_returns run
    refine ⟨?_, rfl⟩
    rintro _ ⟨⟩
    exact ⟨list_ne, redirects_ne⟩

theorem allowedCidrsSet_frame {net : InetPton} {cidrs : ListArgument} {easy after : Easy}
    (run : Returns (allowedCidrsSet net cidrs) easy () after) :
    after = { easy with
      allowedCidrs := after.allowedCidrs
      networkAllowedCidrRules := after.networkAllowedCidrRules
      policyCalls := .allowedCidrs easy.networkPolicy :: easy.policyCalls } := by
  simp only [allowedCidrsSet, bind_returns_iff, returns_modify_iff, returns_get_iff,
    returns_lift_iff] at run
  obtain ⟨normalized, _, ⟨_, rfl⟩, _, _, rfl, _, _, ⟨rfl, rfl⟩, run⟩ := run
  split at run
  · obtain ⟨rules, _, rfl⟩ := curbPrepareNetworkAllowedCidrRules_returns run
    rfl
  · obtain rfl := returns_modify_iff.mp run
    rfl

theorem applyNetworkPolicy_returns {ruby : RubyLibrary} {config : SafetyConfig} {easy after : Easy}
    (run : Returns (applyNetworkPolicy ruby config) easy () after) :
    after.networkPolicy = config.networkPolicy.getD easy.networkPolicy ∧
      (config.networkPolicy = some .policyPublic → PublicControls ruby config after) ∧
      (config.networkPolicy ≠ some .policyPublic → after.allowUnixSocket = easy.allowUnixSocket) ∧
      after = { easy.withControlsOf after with networkPolicy := after.networkPolicy } := by
  unfold applyNetworkPolicy at run
  cases policy : config.networkPolicy with
  | none =>
    rw [policy] at run
    obtain ⟨_, rfl⟩ := returns_pure_iff.mp run
    exact ⟨rfl, nofun, fun _ => rfl, rfl⟩
  | some policy' =>
    rw [policy] at run
    cases policy' with
    | policyNone =>
      obtain rfl := returns_modify_iff.mp run
      exact ⟨rfl, nofun, fun _ => rfl, rfl⟩
    | policyPublic =>
      obtain ⟨_, _, setRun, run⟩ := bind_returns_iff.mp run
      obtain rfl := returns_modify_iff.mp setRun
      obtain ⟨controls, same⟩ := applyPublicNetworkPolicyControls_returns run
      refine ⟨by rw [same]; rfl, fun _ => controls, fun other => absurd rfl other, ?_⟩
      rw [same]
      rfl

theorem ifGiven_returns {α : Type} {value : Option α} {apply : α → EasyM Unit} {easy after : Easy}
    (run : Returns (ifGiven value apply) easy () after) :
    (value = none ∧ easy = after) ∨ ∃ given, value = some given ∧ Returns (apply given) easy () after := by
  cases value with
  | none => exact Or.inl ⟨rfl, (returns_pure_iff.mp run).2⟩
  | some given => exact Or.inr ⟨given, rfl, run⟩

/-- What a configuration does to a handle beyond the protocol lists. -/
structure ConfigApplied (ruby : RubyLibrary) (net : InetPton) (config : SafetyConfig)
    (easy after : Easy) : Prop where
  hosts : match config.allowedHosts with
    | none => after.allowedHosts = easy.allowedHosts ∧
        after.networkAllowedHosts = easy.networkAllowedHosts
    | some hosts => (∃ host, urlHost ruby easy.url = .ok host ∧ host ∈ hosts) ∧
        curbNormalizeHostList (.array hosts) = .ok after.allowedHosts ∧
        curbHostRules after.allowedHosts = .ok after.networkAllowedHosts
  cidrs : match config.allowedCidrs with
    | none => after.allowedCidrs = easy.allowedCidrs ∧
        after.networkAllowedCidrRules = easy.networkAllowedCidrRules ∧
        after.policyCalls = easy.policyCalls
    | some cidrs => config.networkPolicy = some .policyPublic ∧
        curbNormalizeCidrList net (.array cidrs) = .ok after.allowedCidrs ∧
        after.policyCalls = .allowedCidrs easy.networkPolicy :: easy.policyCalls
  policy : after.networkPolicy = config.networkPolicy.getD easy.networkPolicy
  controls : config.networkPolicy = some .policyPublic → PublicControls ruby config after
  unixSocketFlag : config.networkPolicy ≠ some .policyPublic →
    after.allowUnixSocket = easy.allowUnixSocket
  limit : after.maxBodyBytes = tightened config.maxBodyBytes easy.maxBodyBytes
  frame : after = { easy.withControlsOf after with
    allowedHosts := after.allowedHosts
    networkAllowedHosts := after.networkAllowedHosts
    allowedCidrs := after.allowedCidrs
    networkAllowedCidrRules := after.networkAllowedCidrRules
    policyCalls := after.policyCalls
    networkPolicy := after.networkPolicy
    maxBodyBytes := after.maxBodyBytes }

theorem applyConfig_returns {ruby : RubyLibrary} {net : InetPton} {config : SafetyConfig}
    {easy after : Easy} (run : Returns (applyConfig ruby net config) easy () after) :
    ConfigApplied ruby net config easy after := by
  unfold applyConfig at run
  obtain ⟨_, withHosts, hostsRun, run⟩ := bind_returns_iff.mp run
  obtain ⟨_, withCidrs, cidrsRun, run⟩ := bind_returns_iff.mp run
  obtain ⟨_, withPolicy, policyRun, run⟩ := bind_returns_iff.mp run
  have limited := applyMaxBodyBytes_returns run
  obtain ⟨isPolicy, controls, flag, policyFrame⟩ := applyNetworkPolicy_returns policyRun
  have hostsPart : withHosts = { easy with
        allowedHosts := withHosts.allowedHosts
        networkAllowedHosts := withHosts.networkAllowedHosts } ∧
      match config.allowedHosts with
      | none => withHosts.allowedHosts = easy.allowedHosts ∧
          withHosts.networkAllowedHosts = easy.networkAllowedHosts
      | some hosts => (∃ host, urlHost ruby easy.url = .ok host ∧ host ∈ hosts) ∧
          curbNormalizeHostList (.array hosts) = .ok withHosts.allowedHosts ∧
          curbHostRules withHosts.allowedHosts = .ok withHosts.networkAllowedHosts := by
    rcases ifGiven_returns hostsRun with ⟨absent, rfl⟩ | ⟨hosts, given, hostsRun⟩
    · rw [absent]
      exact ⟨rfl, rfl, rfl⟩
    · obtain ⟨listed, setRun⟩ := applyAllowedHosts_returns hostsRun
      obtain ⟨built, ruled, frame⟩ := allowedHostsSet_returns setRun
      rw [given]
      exact ⟨frame, listed, built, ruled⟩
  have cidrsPart : withCidrs = { withHosts with
        allowedCidrs := withCidrs.allowedCidrs
        networkAllowedCidrRules := withCidrs.networkAllowedCidrRules
        policyCalls := withCidrs.policyCalls } ∧
      match config.allowedCidrs with
      | none => withCidrs.allowedCidrs = withHosts.allowedCidrs ∧
          withCidrs.networkAllowedCidrRules = withHosts.networkAllowedCidrRules ∧
          withCidrs.policyCalls = withHosts.policyCalls
      | some cidrs => config.networkPolicy = some .policyPublic ∧
          curbNormalizeCidrList net (.array cidrs) = .ok withCidrs.allowedCidrs ∧
          withCidrs.policyCalls = .allowedCidrs withHosts.networkPolicy :: withHosts.policyCalls := by
    rcases ifGiven_returns cidrsRun with ⟨absent, rfl⟩ | ⟨cidrs, given, cidrsRun⟩
    · rw [absent]
      exact ⟨rfl, rfl, rfl, rfl⟩
    · obtain ⟨isPublic, setRun⟩ := applyAllowedCidrs_returns cidrsRun
      have frame := allowedCidrsSet_frame setRun
      have calls : withCidrs.policyCalls = .allowedCidrs withHosts.networkPolicy ::
          withHosts.policyCalls := congrArg Easy.policyCalls frame
      rw [given]
      refine ⟨?_, isPublic, (allowedCidrsSet_returns setRun).1, calls⟩
      rw [calls]
      exact frame
  obtain ⟨hostsFrame, hostsSet⟩ := hostsPart
  obtain ⟨cidrsFrame, cidrsSet⟩ := cidrsPart
  rw [hostsFrame] at cidrsFrame
  rw [cidrsFrame] at policyFrame
  rw [policyFrame] at limited
  refine ⟨?_, ?_, ?_, ?_, ?_, ?_, ?_⟩
  · rw [limited]
    exact hostsSet
  · rw [hostsFrame] at cidrsSet
    rw [limited]
    exact cidrsSet
  · rw [limited]
    rw [cidrsFrame] at isPolicy
    exact isPolicy
  · intro isPublic
    have given := controls isPublic
    rw [policyFrame] at given
    rw [limited]
    exact ⟨given.resolve, given.connectTo, given.doh, given.dnsServers, given.unixSocket,
      given.unixSocketFlag, given.proxy⟩
  · intro other
    have kept := flag other
    rw [policyFrame, cidrsFrame] at kept
    rw [limited]
    exact kept
  · rw [limited]
    rfl
  · rw [limited]
    rfl

/-- The stages of `apply_safety!`: the protocol lists, the configuration, the limit of the
override. Without a configuration and an override every stage leaves the handle alone. -/
theorem applySafety_returns {ruby : RubyLibrary} {net : InetPton} {config : Option SafetyConfig}
    {easy after : Easy} (run : Returns (applySafety ruby net config) easy () after) :
    ∃ protocols redirects listed configured,
      narrowedBy (config.map (·.protocols)) (easy.safetyOverride.bind (·.protocols)) =
        .ok protocols ∧
      narrowedBy (config.map fun config => config.redirectProtocols.getD config.protocols)
        (easy.safetyOverride.bind overrideRedirects) = .ok redirects ∧
      (∀ list, protocols = some list → list ≠ [] ∧ redirects.getD list ≠ []) ∧
      listed = { easy with native := withLists easy.native protocols redirects } ∧
      (config = none → configured = listed) ∧
      (∀ given, config = some given → ConfigApplied ruby net given listed configured) ∧
      after = { configured with
        maxBodyBytes :=
          tightened (easy.safetyOverride.bind (·.maxBodyBytes)) configured.maxBodyBytes } := by
  simp only [applySafety, bind_returns_iff, returns_get_iff] at run
  obtain ⟨_, _, ⟨rfl, rfl⟩, run⟩ := run
  split at run
  · rename_i inactive
    obtain ⟨noConfig, noOverride⟩ := inactive
    rw [Option.isNone_iff_eq_none] at noConfig noOverride
    obtain ⟨_, rfl⟩ := returns_pure_iff.mp run
    refine ⟨none, none, easy, easy, ?_, ?_, ?_, rfl, fun _ => rfl, ?_, ?_⟩
    · rw [noConfig, noOverride]
      rfl
    · rw [noConfig, noOverride]
      rfl
    · rintro list ⟨⟩
    · intro given some_config
      rw [noConfig] at some_config
      cases some_config
    · have unlimited : tightened (easy.safetyOverride.bind (·.maxBodyBytes)) easy.maxBodyBytes =
          easy.maxBodyBytes := by
        rw [noOverride]
        rfl
      rw [unlimited]
  · simp only [bind_returns_iff] at run
    obtain ⟨_, listed, listedRun, _, configured, configuredRun, limitRun⟩ := run
    obtain ⟨protocols, redirects, isProtocols, isRedirects, given, isListed⟩ :=
      applyProtocols_returns listedRun
    refine ⟨protocols, redirects, listed, configured, isProtocols, isRedirects, given, isListed,
      ?_, ?_, applyMaxBodyBytes_returns limitRun⟩
    · intro absent
      rcases ifGiven_returns configuredRun with ⟨_, same⟩ | ⟨found, some_config, _⟩
      · exact same.symm
      · rw [absent] at some_config
        cases some_config
    · intro found some_config
      rw [some_config] at configuredRun
      exact applyConfig_returns configuredRun

/-- The native options `apply_safety!` leaves: those of before, with the merged lists. -/
def ListsApplied (config : Option SafetyConfig) (before : Easy) (native : NativeOptions) : Prop :=
  ∃ protocols redirects,
    narrowedBy (config.map (·.protocols)) (before.safetyOverride.bind (·.protocols)) =
      .ok protocols ∧
    narrowedBy (config.map fun config => config.redirectProtocols.getD config.protocols)
      (before.safetyOverride.bind overrideRedirects) = .ok redirects ∧
    (∀ list, protocols = some list → list ≠ [] ∧ redirects.getD list ≠ []) ∧
    native = withLists before.native protocols redirects

/-- What `apply_safety!` has made of a handle by the time it returns. -/
structure Applied (ruby : RubyLibrary) (net : InetPton) (config : Option SafetyConfig)
    (before after : Easy) : Prop where
  lists : ListsApplied config before after.native
  hosts : match config.bind (·.allowedHosts) with
    | none => after.allowedHosts = before.allowedHosts
    | some hosts => (∃ host, urlHost ruby after.url = .ok host ∧ host ∈ hosts) ∧
        curbNormalizeHostList (.array hosts) = .ok after.allowedHosts
  cidrs : match config.bind (·.allowedCidrs) with
    | none => after.allowedCidrs = before.allowedCidrs
    | some cidrs => config.bind (·.networkPolicy) = some .policyPublic ∧
        curbNormalizeCidrList net (.array cidrs) = .ok after.allowedCidrs
  policy : after.networkPolicy = (config.bind (·.networkPolicy)).getD before.networkPolicy
  controls : ∀ given, config = some given → given.networkPolicy = some .policyPublic →
    PublicControls ruby given after
  limit : after.maxBodyBytes = tightened (before.safetyOverride.bind (·.maxBodyBytes))
    (tightened (config.bind (·.maxBodyBytes)) before.maxBodyBytes)

theorem applySafety_applied {ruby : RubyLibrary} {net : InetPton} {config : Option SafetyConfig}
    {before after : Easy} (run : Returns (applySafety ruby net config) before () after) :
    Applied ruby net config before after := by
  obtain ⟨protocols, redirects, listed, configured, isProtocols, isRedirects, nonempty, isListed,
    unconfigured, isConfigured, isAfter⟩ := applySafety_returns run
  have lists : ListsApplied config before (withLists before.native protocols redirects) :=
    ⟨protocols, redirects, isProtocols, isRedirects, nonempty, rfl⟩
  cases config with
  | none =>
    obtain rfl := unconfigured rfl
    rw [isListed] at isAfter
    rw [isAfter]
    exact ⟨lists, rfl, rfl, rfl, fun _ absent => (nomatch absent), rfl⟩
  | some given =>
    rw [isListed] at isConfigured
    have applied := isConfigured given rfl
    have native : configured.native = withLists before.native protocols redirects := by
      rw [applied.frame, withControlsOf]
    have url : configured.url = before.url := by rw [applied.frame, withControlsOf]
    rw [isAfter]
    refine ⟨native ▸ lists, ?_, ?_, ?_, ?_, ?_⟩
    · have hosts := applied.hosts
      cases isHosts : given.allowedHosts with
      | none =>
        rw [isHosts] at hosts
        simp only [Option.bind_some, isHosts]
        exact hosts.1
      | some list =>
        rw [isHosts] at hosts
        simp only [Option.bind_some, isHosts, url]
        exact ⟨hosts.1, hosts.2.1⟩
    · have cidrs := applied.cidrs
      cases isCidrs : given.allowedCidrs with
      | none =>
        rw [isCidrs] at cidrs
        simp only [Option.bind_some, isCidrs]
        exact cidrs.1
      | some list =>
        rw [isCidrs] at cidrs
        simp only [Option.bind_some, isCidrs]
        exact ⟨cidrs.1, cidrs.2.1⟩
    · exact applied.policy
    · rintro _ ⟨⟩ isPublic
      have controls := applied.controls isPublic
      exact ⟨controls.resolve, controls.connectTo, controls.doh, controls.dnsServers,
        controls.unixSocket, controls.unixSocketFlag, controls.proxy⟩
    · have limit : configured.maxBodyBytes = tightened given.maxBodyBytes before.maxBodyBytes :=
        applied.limit
      simp only [limit, Option.bind_some]

/-! ## Merged restrictions -/

theorem safetyProtocolIntersection_ok {base : Option (List ProtocolName)}
    {overrideProtocols list : List ProtocolName}
    (ok : safetyProtocolIntersection base overrideProtocols = .ok list) :
    (∀ name, name ∈ list ↔ name ∈ overrideProtocols ∧ ∀ names ∈ base, name ∈ names) := by
  unfold safetyProtocolIntersection rbRaise at ok
  cases base with
  | none =>
    cases ok
    simp
  | some names =>
    dsimp only at ok
    split at ok
    · cases ok
    · cases ok
      intro name
      simp [List.mem_eraseDups]

/-- A merged list is within every list it was merged from, and it exists when one of them
does. -/
theorem narrowedBy_ok {base overrideProtocols merged : Option (List ProtocolName)}
    (ok : narrowedBy base overrideProtocols = .ok merged) :
    (merged = none ↔ base = none ∧ overrideProtocols = none) ∧
      ∀ list, merged = some list → ∀ name, name ∈ list ↔
        (∀ names ∈ overrideProtocols, name ∈ names) ∧ (∀ names ∈ base, name ∈ names) ∨
          base = none ∧ overrideProtocols = none := by
  unfold narrowedBy at ok
  cases overrideProtocols with
  | none =>
    cases ok
    refine ⟨by simp, ?_⟩
    rintro list rfl name
    simp
  | some names =>
    obtain ⟨list, intersected, same⟩ := except_bind_eq_ok_iff.mp ok
    cases same
    refine ⟨by simp, ?_⟩
    rintro _ ⟨⟩ name
    rw [safetyProtocolIntersection_ok intersected]
    simp

theorem tightened_le {maxBodyBytes current : Option Nat} (positive : ∀ limit ∈ maxBodyBytes, 0 < limit) :
    (∀ limit ∈ maxBodyBytes, ∃ result, tightened maxBodyBytes current = some result ∧ result ≤ limit) ∧
      ∀ before ∈ current, ∃ result, tightened maxBodyBytes current = some result ∧ result ≤ before := by
  cases maxBodyBytes with
  | none =>
    constructor
    · rintro limit ⟨⟩
    · intro before isBefore
      exact ⟨before, isBefore, le_refl _⟩
  | some limit =>
    have limit_pos := positive limit rfl
    have nonzero : limit ≠ 0 := by omega
    cases current with
    | none =>
      constructor
      · rintro _ ⟨⟩
        exact ⟨limit, by simp [tightened, nonzero], le_refl _⟩
      · rintro before ⟨⟩
    | some before =>
      by_cases lower : limit < before
      · have result : tightened (some limit) (some before) = some limit := by
          simp [tightened, nonzero, lower]
        rw [result]
        refine ⟨?_, ?_⟩
        · rintro _ ⟨⟩
          exact ⟨limit, rfl, le_refl _⟩
        · rintro _ ⟨⟩
          exact ⟨limit, rfl, le_of_lt lower⟩
      · have result : tightened (some limit) (some before) = some before := by
          simp [tightened, lower]
        rw [result]
        refine ⟨?_, ?_⟩
        · rintro _ ⟨⟩
          exact ⟨before, rfl, not_lt.mp lower⟩
        · rintro _ ⟨⟩
          exact ⟨before, rfl, le_refl _⟩

end Easy
end Curb

import Curb.Easy.OpenSocket
import Curb.Safety.Enforces

/-!
# `apply_safety!` once more

Adding a handle to a multi, every `perform` and `safe_http!` call `apply_safety!` (`easy.rb:202`,
`multi.rb:428-453`). On a handle it has been applied to it returns again and leaves the handle alone; only
the prepared CIDR rules wait for the second call where the first one has made the handle `:public`.
-/

namespace Curb
open Curb.Misc Curb.Ruby Curb.Net

namespace Easy

variable {ruby : RubyLibrary} {net : InetPton} {config : Option SafetyConfig} {given : SafetyConfig}
  {easy middle before after : Easy}

/-- The handle with these prepared rules, limit and history. -/
def withPrepared (easy : Easy) (rules : List CurbCidrRule) (limit : Option Nat) (calls : List PolicyCall) :
    Easy :=
  { easy with
    networkAllowedCidrRules := rules
    maxBodyBytes := limit
    policyCalls := calls }

/-! ## Helpers that change nothing -/

theorem allowedProtocolsSet_fixed {names : List ProtocolName} {easy' middle' : Easy}
    (run : Returns (allowedProtocolsSet ruby (names.map (·.text))) easy () middle)
    (set : easy'.native.protocols = some names) (same : middle' = easy') :
    Returns (allowedProtocolsSet ruby (names.map (·.text))) easy' () middle' := by
  simp only [allowedProtocolsSet, bind_returns_iff, returns_lift_iff] at run ⊢
  obtain ⟨listed, _, ⟨allowed, rfl⟩, -⟩ := run
  obtain ⟨isNames, -⟩ := protocolAllowlist_ok allowed
  rw [map_protocolName_text] at isNames
  rw [isNames] at allowed
  refine ⟨names, easy', ⟨allowed, rfl⟩, ?_⟩
  rw [if_pos (takes_protocolAllowlist ruby allowed), returns_modify_iff, same, ← set]

theorem allowedRedirectProtocolsSet_fixed {names : List ProtocolName} {easy' middle' : Easy}
    (run : Returns (allowedRedirectProtocolsSet ruby (names.map (·.text))) easy () middle)
    (set : easy'.native.redirProtocols = some names) (same : middle' = easy') :
    Returns (allowedRedirectProtocolsSet ruby (names.map (·.text))) easy' () middle' := by
  simp only [allowedRedirectProtocolsSet, bind_returns_iff, returns_lift_iff] at run ⊢
  obtain ⟨listed, _, ⟨allowed, rfl⟩, -⟩ := run
  obtain ⟨isNames, -⟩ := protocolAllowlist_ok allowed
  rw [map_protocolName_text] at isNames
  rw [isNames] at allowed
  refine ⟨names, easy', ⟨allowed, rfl⟩, ?_⟩
  rw [if_pos (takes_protocolAllowlist ruby allowed), returns_modify_iff, same, ← set]

/-- The merged lists do not depend on the handle. -/
theorem applyProtocols_fixed {override : Option SafetyOverride}
    (run : Returns (applyProtocols ruby config override) easy () middle)
    (native : after.native = middle.native) : Returns (applyProtocols ruby config override) after () after := by
  simp only [applyProtocols, bind_returns_iff, returns_lift_iff] at run ⊢
  obtain ⟨protocols, _, ⟨isProtocols, rfl⟩, redirects, _, ⟨isRedirects, rfl⟩, run⟩ := run
  refine ⟨protocols, after, ⟨isProtocols, rfl⟩, redirects, after, ⟨isRedirects, rfl⟩, ?_⟩
  cases protocols with
  | none => exact returns_pure_iff.mpr ⟨rfl, rfl⟩
  | some list =>
    obtain ⟨_, listed, listRun, redirectRun⟩ := bind_returns_iff.mp run
    obtain ⟨-, isListed⟩ := allowedProtocolsSet_returns listRun
    obtain ⟨-, isMiddle⟩ := allowedRedirectProtocolsSet_returns redirectRun
    refine bind_returns_iff.mpr ⟨(), after, allowedProtocolsSet_fixed listRun ?_ rfl,
      allowedRedirectProtocolsSet_fixed redirectRun ?_ rfl⟩
    · rw [native, isMiddle, isListed]
    · rw [native, isMiddle]

theorem applyAllowedHosts_fixed {hosts : List Text}
    (run : Returns (applyAllowedHosts ruby hosts) easy () middle) (url : after.url = easy.url)
    (list : after.allowedHosts = middle.allowedHosts)
    (rules : after.networkAllowedHosts = middle.networkAllowedHosts) :
    Returns (applyAllowedHosts ruby hosts) after () after := by
  obtain ⟨-, setRun⟩ := applyAllowedHosts_returns run
  obtain ⟨built, ruled, -⟩ := allowedHostsSet_returns setRun
  simp only [applyAllowedHosts, bind_returns_iff, returns_get_iff, returns_lift_iff] at run ⊢
  obtain ⟨_, _, ⟨rfl, rfl⟩, raw, _, ⟨isRaw, rfl⟩, host, _, ⟨isHost, rfl⟩, run⟩ := run
  rw [← url] at isRaw isHost
  refine ⟨after, after, ⟨rfl, rfl⟩, raw, after, ⟨isRaw, rfl⟩, host, after, ⟨isHost, rfl⟩, ?_⟩
  split at run
  · rename_i listed
    rw [if_pos listed]
    simp only [allowedHostsSet, curbPrepareNetworkAllowedHosts, curbClearNetworkAllowedHosts,
      bind_returns_iff, returns_lift_iff, returns_modify_iff, returns_get_iff]
    refine ⟨_, after, ⟨built, rfl⟩, (), _, rfl, (), _, rfl, _, _, ⟨rfl, rfl⟩, _, _, ⟨ruled, rfl⟩, ?_⟩
    rw [← list, ← rules]
  · exact absurd run returns_throw_iff

/-- The rules are prepared for a handle that is `:public` by now. -/
theorem applyAllowedCidrs_fixed {cidrs : List Text}
    (run : Returns (applyAllowedCidrs net given cidrs) easy () middle)
    (list : after.allowedCidrs = middle.allowedCidrs) (isPublic : after.networkPolicy = .policyPublic) :
    ∃ rules, curbCidrRules net after.allowedCidrs = .ok rules ∧
      Returns (applyAllowedCidrs net given cidrs) after ()
        (after.withPrepared rules after.maxBodyBytes (.allowedCidrs .policyPublic :: after.policyCalls)) := by
  obtain ⟨policied, setRun⟩ := applyAllowedCidrs_returns run
  have built := (allowedCidrsSet_returns setRun).1
  obtain ⟨-, -, accepted⟩ := curbNormalizeCidrList_ok built
  rw [← list] at accepted built
  obtain ⟨rules, ruled, -⟩ := curbCidrRules_ok accepted
  refine ⟨rules, ruled, ?_⟩
  unfold applyAllowedCidrs
  rw [if_pos policied]
  simp only [allowedCidrsSet, bind_returns_iff, returns_lift_iff, returns_modify_iff, returns_get_iff]
  refine ⟨_, after, ⟨built, rfl⟩, (), _, rfl, _, _, ⟨rfl, rfl⟩, ?_⟩
  rw [if_pos isPublic]
  simp only [curbPrepareNetworkAllowedCidrRules, curbClearNetworkAllowedCidrRules, bind_returns_iff,
    returns_lift_iff, returns_modify_iff, returns_get_iff]
  refine ⟨(), _, rfl, _, _, ⟨rfl, rfl⟩, rules, _, ⟨ruled, rfl⟩, ?_⟩
  rw [withPrepared, isPublic]

theorem unlessAllowed_fixed {isSet : Easy → Bool} {message : String} {allow : Bool}
    (unset : allow = false → isSet easy = false) :
    Returns (unlessAllowed allow (rejectOverride isSet message)) easy () easy := by
  cases allow with
  | true => exact returns_pure_iff.mpr ⟨rfl, rfl⟩
  | false =>
    show Returns (rejectOverride isSet message) easy () easy
    refine bind_returns_iff.mpr ⟨easy, easy, returns_get_iff.mpr ⟨rfl, rfl⟩, ?_⟩
    rw [unset rfl, if_neg Bool.false_ne_true]
    exact returns_pure_iff.mpr ⟨rfl, rfl⟩

theorem disableProxy_fixed (disabled : ProxyDisabled easy) : Returns disableProxy easy () easy := by
  obtain ⟨url, tunnel, noproxy⟩ := disabled
  simp only [disableProxy, noproxySet, bind_returns_iff, returns_modify_iff]
  refine ⟨(), _, rfl, (), _, rfl, ?_⟩
  rw [← url, ← tunnel, ← noproxy]

theorem applyAllowedProxy_fixed {hosts : List Text}
    (run : Returns (applyAllowedProxy ruby hosts) easy () middle) (url : after.proxyUrl = middle.proxyUrl)
    (tunnel : after.proxyTunnel = middle.proxyTunnel) (noproxy : after.noproxy = middle.noproxy) :
    Returns (applyAllowedProxy ruby hosts) after () after := by
  simp only [applyAllowedProxy, bind_returns_iff, returns_get_iff] at run ⊢
  obtain ⟨_, _, ⟨rfl, rfl⟩, run⟩ := run
  refine ⟨after, after, ⟨rfl, rfl⟩, ?_⟩
  split at run
  · rename_i set
    simp only [bind_returns_iff, returns_lift_iff] at run
    obtain ⟨host, _, ⟨isHost, rfl⟩, run⟩ := run
    split at run
    · rename_i listed
      obtain rfl := returns_modify_iff.mp run
      rw [if_pos (url ▸ set)]
      simp only [bind_returns_iff, returns_lift_iff]
      refine ⟨host, after, ⟨url ▸ isHost, rfl⟩, ?_⟩
      rw [if_pos listed]
      refine returns_modify_iff.mpr ?_
      rw [← show after.noproxy = some "".toList from noproxy]
    · exact absurd run returns_throw_iff
  · obtain ⟨⟨noUrl, noTunnel, star⟩, -⟩ := disableProxy_returns run
    have unset : ¬isSetText after.proxyUrl = true := by
      rw [url, noUrl]
      exact Bool.false_ne_true
    rw [if_neg unset]
    exact disableProxy_fixed ⟨url.trans noUrl, tunnel.trans noTunnel, noproxy.trans star⟩

/-- The controls of the `:public` policy stand already. -/
theorem applyPublicNetworkPolicyControls_fixed {start : Easy}
    (run : Returns (applyPublicNetworkPolicyControls ruby given) easy () middle)
    (controls : after.withControlsOf middle = after) (options : after.resolve = easy.resolve ∧
      after.connectTo = easy.connectTo ∧ after.dohUrl = easy.dohUrl ∧ after.dnsServers = easy.dnsServers ∧
      after.unixSocketPath = easy.unixSocketPath)
    (starts : start = { after with allowProxy := start.allowProxy }) :
    Returns (applyPublicNetworkPolicyControls ruby given) start () after := by
  obtain ⟨resolve, connectTo, doh, dnsServers, unixSocketPath⟩ := options
  unfold applyPublicNetworkPolicyControls at run ⊢
  simp only [rejectResolveOverride, rejectConnectToOverride, rejectDohOverride,
    rejectDnsServersOverride, rejectUnixSocketOverride] at run ⊢
  obtain ⟨_, _, resolveRun, run⟩ := bind_returns_iff.mp run
  obtain ⟨noResolve, rfl⟩ := unlessAllowed_returns resolveRun
  obtain ⟨_, _, connectRun, run⟩ := bind_returns_iff.mp run
  obtain ⟨noConnect, rfl⟩ := unlessAllowed_returns connectRun
  obtain ⟨_, _, dohRun, run⟩ := bind_returns_iff.mp run
  obtain ⟨noDoh, rfl⟩ := unlessAllowed_returns dohRun
  obtain ⟨_, _, dnsRun, run⟩ := bind_returns_iff.mp run
  obtain ⟨noDns, rfl⟩ := rejectOverride_returns dnsRun
  simp only [bind_returns_iff, returns_modify_iff] at run
  obtain ⟨_, _, rfl, _, _, rfl, _, _, unixRun, run⟩ := run
  obtain ⟨noUnix, rfl⟩ := unlessAllowed_returns unixRun
  rw [← resolve] at noResolve
  rw [← connectTo] at noConnect
  rw [← doh] at noDoh
  rw [← dnsServers] at noDns
  rw [← unixSocketPath] at noUnix
  have proxied : Returns (given.allowedProxyHosts.elim (unlessAllowed given.allowProxies disableProxy)
      (applyAllowedProxy ruby)) after () after ∧
      middle.allowProxy = (given.allowProxies || given.allowedProxyHosts.isSome) ∧
      middle.allowUnixSocket = given.allowUnixSocket := by
    cases hosts : given.allowedProxyHosts with
    | some list =>
      rw [hosts] at run
      obtain ⟨-, same⟩ := applyAllowedProxy_returns run
      refine ⟨applyAllowedProxy_fixed run (congrArg Easy.proxyUrl controls).symm
        (congrArg Easy.proxyTunnel controls).symm (congrArg Easy.noproxy controls).symm, ?_, ?_⟩
      · rw [same]
      · rw [same]
    | none =>
      rw [hosts] at run
      cases proxies : given.allowProxies with
      | true =>
        rw [proxies] at run
        obtain ⟨-, rfl⟩ := returns_pure_iff.mp run
        exact ⟨returns_pure_iff.mpr ⟨rfl, rfl⟩, rfl, rfl⟩
      | false =>
        rw [proxies] at run
        obtain ⟨⟨url, tunnel, star⟩, same⟩ := disableProxy_returns run
        refine ⟨disableProxy_fixed ⟨(congrArg Easy.proxyUrl controls).symm.trans url,
          (congrArg Easy.proxyTunnel controls).symm.trans tunnel,
          (congrArg Easy.noproxy controls).symm.trans star⟩, ?_, ?_⟩
        · rw [same]
        · rw [same]
  obtain ⟨proxied, allowProxy, allowUnixSocket⟩ := proxied
  have isAfter : { start with
      allowProxy := given.allowProxies || given.allowedProxyHosts.isSome
      allowUnixSocket := given.allowUnixSocket } = after := by
    have proxyFlag := (congrArg Easy.allowProxy controls).symm.trans allowProxy
    have unixSocketFlag := (congrArg Easy.allowUnixSocket controls).symm.trans allowUnixSocket
    rw [starts, ← proxyFlag, ← unixSocketFlag]
  refine bind_returns_iff.mpr ⟨(), start, unlessAllowed_fixed fun allow => ?_, ?_⟩
  · rw [starts]
    exact noResolve allow
  refine bind_returns_iff.mpr ⟨(), start, unlessAllowed_fixed fun allow => ?_, ?_⟩
  · rw [starts]
    exact noConnect allow
  refine bind_returns_iff.mpr ⟨(), start, unlessAllowed_fixed fun allow => ?_, ?_⟩
  · rw [starts]
    exact noDoh allow
  refine bind_returns_iff.mpr ⟨(), start, @unlessAllowed_fixed start _ _ false (fun _ => ?_), ?_⟩
  · rw [starts]
    exact noDns
  refine bind_returns_iff.mpr ⟨(), _, returns_modify_iff.mpr rfl, ?_⟩
  refine bind_returns_iff.mpr ⟨(), after, returns_modify_iff.mpr isAfter.symm, ?_⟩
  refine bind_returns_iff.mpr ⟨(), after, unlessAllowed_fixed noUnix, ?_⟩
  cases hosts : given.allowedProxyHosts with
  | some list =>
    rw [hosts] at proxied
    exact proxied
  | none =>
    rw [hosts] at proxied
    exact proxied

/-- The policy stands already. -/
theorem applyNetworkPolicy_fixed (run : Returns (applyNetworkPolicy ruby given) easy () middle)
    (controls : after.withControlsOf middle = after) (policy : after.networkPolicy = middle.networkPolicy)
    (options : after.resolve = easy.resolve ∧ after.connectTo = easy.connectTo ∧
      after.dohUrl = easy.dohUrl ∧ after.dnsServers = easy.dnsServers ∧
      after.unixSocketPath = easy.unixSocketPath) :
    Returns (applyNetworkPolicy ruby given) after () after := by
  unfold applyNetworkPolicy at run ⊢
  cases isPolicy : given.networkPolicy with
  | none => exact returns_pure_iff.mpr ⟨rfl, rfl⟩
  | some configured =>
    rw [isPolicy] at run
    cases configured with
    | policyNone =>
      obtain rfl := returns_modify_iff.mp run
      refine returns_modify_iff.mpr ?_
      have allowProxy : after.allowProxy = false := (congrArg Easy.allowProxy controls).symm
      change after.networkPolicy = .policyNone at policy
      rw [← policy, ← allowProxy]
    | policyPublic =>
      obtain ⟨_, _, setRun, run⟩ := bind_returns_iff.mp run
      obtain rfl := returns_modify_iff.mp setRun
      obtain ⟨-, same⟩ := applyPublicNetworkPolicyControls_returns run
      have isPublic : after.networkPolicy = .policyPublic :=
        policy.trans (congrArg Easy.networkPolicy same)
      refine bind_returns_iff.mpr ⟨(), _, returns_modify_iff.mpr rfl, ?_⟩
      refine applyPublicNetworkPolicyControls_fixed run controls options ?_
      rw [← isPublic]

/-! ## Limits -/

/-- A limit that tightens nothing is not set. -/
theorem applyMaxBodyBytes_fixed {limit : Option Nat} (positive : ∀ bound ∈ limit, 0 < bound)
    (tight : ∀ bound ∈ limit, ∃ current, easy.maxBodyBytes = some current ∧ current ≤ bound) :
    Returns (applyMaxBodyBytes limit) easy () easy := by
  unfold applyMaxBodyBytes
  cases limit with
  | none => exact returns_pure_iff.mpr ⟨rfl, rfl⟩
  | some bound =>
    obtain ⟨current, isCurrent, below⟩ := tight bound rfl
    refine bind_returns_iff.mpr ⟨easy, easy, returns_get_iff.mpr ⟨rfl, rfl⟩, ?_⟩
    have notLower : ¬easy.maxBodyBytes.all (fun current => bound < current) = true := by
      rw [isCurrent, Option.all_some, decide_eq_true_eq]
      exact Nat.not_lt.mpr below
    rw [if_neg notLower]
    exact returns_pure_iff.mpr ⟨rfl, rfl⟩

/-! ## The whole call -/

theorem ifGiven_fixed {α : Type} {value : Option α} {apply : α → EasyM Unit}
    (fixed : ∀ given, value = some given → Returns (apply given) easy () easy) :
    Returns (ifGiven value apply) easy () easy := by
  cases value with
  | none => exact returns_pure_iff.mpr ⟨rfl, rfl⟩
  | some given => exact fixed given rfl

/-- The CIDR list is there already; its rules are prepared where the handle is `:public` by now. -/
theorem cidrs_again (run : Returns (ifGiven given.allowedCidrs (applyAllowedCidrs net given)) easy () middle)
    (list : after.allowedCidrs = middle.allowedCidrs)
    (kept : after.networkAllowedCidrRules = middle.networkAllowedCidrRules)
    (policied : given.networkPolicy = some .policyPublic → after.networkPolicy = .policyPublic) :
    ∃ rules calls, Returns (ifGiven given.allowedCidrs (applyAllowedCidrs net given)) after ()
        (after.withPrepared rules after.maxBodyBytes calls) ∧
      (easy.networkPolicy = after.networkPolicy → rules = after.networkAllowedCidrRules) := by
  rcases ifGiven_returns run with ⟨absent, -⟩ | ⟨cidrs, isCidrs, cidrsRun⟩
  · rw [absent]
    exact ⟨after.networkAllowedCidrRules, after.policyCalls, returns_pure_iff.mpr ⟨rfl, rfl⟩, fun _ => rfl⟩
  · obtain ⟨configured, setRun⟩ := applyAllowedCidrs_returns cidrsRun
    have isPublic := policied configured
    obtain ⟨rules, ruled, again⟩ := applyAllowedCidrs_fixed cidrsRun list isPublic
    rw [isCidrs]
    refine ⟨rules, _, again, fun same => ?_⟩
    have policy : middle.networkPolicy = easy.networkPolicy := by rw [allowedCidrsSet_frame setRun]
    have prepared := (allowedCidrsSet_returns setRun).2 (policy.trans (same.trans isPublic))
    rw [← list] at prepared
    rw [kept]
    exact Except.ok.inj (ruled.symm.trans prepared)

/-- The restrictions of a configuration stand already. -/
theorem applyConfig_again (run : Returns (applyConfig ruby net given) easy () middle)
    (frame : after = { middle with maxBodyBytes := after.maxBodyBytes })
    (tight : ∀ bound ∈ given.maxBodyBytes, ∃ current, after.maxBodyBytes = some current ∧ current ≤ bound) :
    ∃ rules calls, Returns (applyConfig ruby net given) after ()
        (after.withPrepared rules after.maxBodyBytes calls) ∧
      (easy.networkPolicy = after.networkPolicy → rules = after.networkAllowedCidrRules) := by
  unfold applyConfig at run ⊢
  obtain ⟨_, withHosts, hostsRun, run⟩ := bind_returns_iff.mp run
  obtain ⟨_, withCidrs, cidrsRun, run⟩ := bind_returns_iff.mp run
  obtain ⟨_, withPolicy, policyRun, run⟩ := bind_returns_iff.mp run
  rw [applyMaxBodyBytes_returns run] at frame
  obtain ⟨isPolicy, -, -, policyFrame⟩ := applyNetworkPolicy_returns policyRun
  have cidrsFrame : withCidrs = { withHosts with
      allowedCidrs := withCidrs.allowedCidrs
      networkAllowedCidrRules := withCidrs.networkAllowedCidrRules
      policyCalls := withCidrs.policyCalls } := by
    rcases ifGiven_returns cidrsRun with ⟨-, rfl⟩ | ⟨cidrs, -, cidrsRun⟩
    · rfl
    · have same := allowedCidrsSet_frame (applyAllowedCidrs_returns cidrsRun).2
      have calls := congrArg Easy.policyCalls same
      rw [show withCidrs.policyCalls = _ from calls]
      exact same
  have hostsFrame : withHosts = { easy with
      allowedHosts := withHosts.allowedHosts
      networkAllowedHosts := withHosts.networkAllowedHosts } := by
    rcases ifGiven_returns hostsRun with ⟨-, rfl⟩ | ⟨hosts, -, hostsRun⟩
    · rfl
    · exact (allowedHostsSet_returns (applyAllowedHosts_returns hostsRun).2).2.2
  -- what the later stages leave of the earlier ones
  have hosts : after.allowedHosts = withHosts.allowedHosts ∧
      after.networkAllowedHosts = withHosts.networkAllowedHosts ∧ after.url = easy.url := by
    rw [frame, policyFrame, cidrsFrame]
    exact ⟨rfl, rfl, show withHosts.url = easy.url by rw [hostsFrame]⟩
  have cidrs : after.allowedCidrs = withCidrs.allowedCidrs ∧
      after.networkAllowedCidrRules = withCidrs.networkAllowedCidrRules := by
    rw [frame, policyFrame]
    exact ⟨rfl, rfl⟩
  have policy : after.networkPolicy = withPolicy.networkPolicy := by rw [frame]
  have samePolicy : withHosts.networkPolicy = easy.networkPolicy := by rw [hostsFrame]
  obtain ⟨rules, calls, cidrsAgain, kept⟩ := cidrs_again cidrsRun cidrs.1 cidrs.2 fun configured => by
    rw [policy, isPolicy, configured]
    rfl
  refine ⟨rules, calls, ?_, samePolicy ▸ kept⟩
  refine bind_returns_iff.mpr ⟨(), after, ifGiven_fixed fun list isList => ?_, ?_⟩
  · rw [isList] at hostsRun
    exact applyAllowedHosts_fixed hostsRun hosts.2.2 hosts.1 hosts.2.1
  refine bind_returns_iff.mpr ⟨(), _, cidrsAgain, ?_⟩
  have policyAgain : Returns (applyNetworkPolicy ruby given) (after.withPrepared rules after.maxBodyBytes calls)
      () (after.withPrepared rules after.maxBodyBytes calls) := by
    refine applyNetworkPolicy_fixed policyRun ?_ policy ?_
    · rw [frame]
      rfl
    · rw [frame, policyFrame]
      exact ⟨rfl, rfl, rfl, rfl, rfl⟩
  refine bind_returns_iff.mpr ⟨(), _, policyAgain, applyMaxBodyBytes_fixed given.limit_pos tight⟩

/-- What a second call leaves: the handle of the first one, with rules that may only now be prepared. -/
structure Again (before after again : Easy) : Prop where
  same : again = { after with
    networkAllowedCidrRules := again.networkAllowedCidrRules
    policyCalls := again.policyCalls }
  rules : before.networkPolicy = after.networkPolicy →
    again.networkAllowedCidrRules = after.networkAllowedCidrRules

theorem applySafety_again (run : Returns (applySafety ruby net config) before () after) :
    ∃ again, Returns (applySafety ruby net config) after () again ∧ Again before after again := by
  have bounded := tightened_tightened (configLimit_pos config) (overrideLimit_pos before.safetyOverride)
    before.maxBodyBytes
  have limit := (applySafety_applied run).limit
  rw [← limit] at bounded
  simp only [applySafety, bind_returns_iff, returns_get_iff] at run ⊢
  obtain ⟨_, _, ⟨rfl, rfl⟩, run⟩ := run
  split at run
  · rename_i inactive
    obtain ⟨-, rfl⟩ := returns_pure_iff.mp run
    refine ⟨before, ⟨before, before, ⟨rfl, rfl⟩, ?_⟩, rfl, fun _ => rfl⟩
    rw [if_pos inactive]
    exact returns_pure_iff.mpr ⟨rfl, rfl⟩
  · rename_i active
    simp only [bind_returns_iff] at run
    obtain ⟨_, listed, listedRun, _, configured, configuredRun, limitRun⟩ := run
    have frame := applyMaxBodyBytes_returns limitRun
    obtain ⟨_, _, -, -, -, listedFrame⟩ := applyProtocols_returns listedRun
    -- the configuration leaves the lists and the override alone
    have rest : configured.native = listed.native ∧
        configured.safetyOverride = before.safetyOverride := by
      rcases ifGiven_returns configuredRun with ⟨-, rfl⟩ | ⟨given, -, givenRun⟩
      · rw [listedFrame]
        exact ⟨rfl, rfl⟩
      · rw [(applyConfig_returns givenRun).frame, listedFrame]
        exact ⟨rfl, rfl⟩
    have override : after.safetyOverride = before.safetyOverride := by
      rw [frame]
      exact rest.2
    have native : after.native = listed.native := by
      rw [frame]
      exact rest.1
    have listedPolicy : listed.networkPolicy = before.networkPolicy := by rw [listedFrame]
    have isAfter : after = { configured with maxBodyBytes := after.maxBodyBytes } := by rw [frame]
    have protocols := applyProtocols_fixed listedRun native
    have limits (bound : Nat) (mem : bound ∈ (config.bind (·.maxBodyBytes)).toList ++
        (before.safetyOverride.bind (·.maxBodyBytes)).toList) :
        ∃ current, after.maxBodyBytes = some current ∧ current ≤ bound :=
      bounded bound (List.mem_append_left _ mem)
    have configAgain : ∃ rules calls, Returns (ifGiven config (applyConfig ruby net)) after ()
        (after.withPrepared rules after.maxBodyBytes calls) ∧
        (before.networkPolicy = after.networkPolicy → rules = after.networkAllowedCidrRules) := by
      rcases ifGiven_returns configuredRun with ⟨none, -⟩ | ⟨given, isGiven, givenRun⟩
      · rw [none]
        exact ⟨after.networkAllowedCidrRules, after.policyCalls, returns_pure_iff.mpr ⟨rfl, rfl⟩,
          fun _ => rfl⟩
      · rw [isGiven] at limits ⊢
        rw [← listedPolicy]
        exact applyConfig_again givenRun isAfter fun bound mem =>
          limits bound (List.mem_append_left _ (Option.mem_toList.mpr mem))
    obtain ⟨rules, calls, configAgain, kept⟩ := configAgain
    refine ⟨after.withPrepared rules after.maxBodyBytes calls, ⟨after, after, ⟨rfl, rfl⟩, ?_⟩, rfl, kept⟩
    rw [override, if_neg active]
    refine bind_returns_iff.mpr ⟨(), after, protocols, bind_returns_iff.mpr ⟨(), _, configAgain, ?_⟩⟩
    exact applyMaxBodyBytes_fixed (overrideLimit_pos before.safetyOverride) fun bound mem =>
      limits bound (List.mem_append_right _ (Option.mem_toList.mpr mem))

/-- `n` more calls. -/
def applySafetyTimes (ruby : RubyLibrary) (net : InetPton) (config : Option SafetyConfig) : Nat → EasyM Unit
  | 0 => pure ()
  | n + 1 => do
      applySafety ruby net config
      applySafetyTimes ruby net config n

/-- However often `apply_safety!` is called once more, it returns and changes no attribute and no native
option. -/
theorem applySafety_repeated {ruby : RubyLibrary} {net : InetPton} {config : Option SafetyConfig}
    {before after : Easy} (run : Returns (applySafety ruby net config) before () after) (n : Nat) :
    ∃ last, Returns (applySafetyTimes ruby net config n) after () last ∧ Again before after last := by
  induction n generalizing before after with
  | zero => exact ⟨after, returns_pure_iff.mpr ⟨rfl, rfl⟩, rfl, fun _ => rfl⟩
  | succ n ih =>
    obtain ⟨again, second, once⟩ := applySafety_again run
    obtain ⟨last, rest, more⟩ := ih second
    have policy : again.networkPolicy = after.networkPolicy := by rw [once.same]
    refine ⟨last, bind_returns_iff.mpr ⟨(), again, second, rest⟩, ?_, fun same => ?_⟩
    · rw [more.same, once.same]
    · exact (more.rules policy.symm).trans (once.rules same)

/-- The first call makes the handle `:public` and tightens its limit. -/
theorem applySafety_repeated_publicConfig :
    let ruby : RubyLibrary := ⟨fun _ => .ok none, fun _ => none, fun _ => true, fun _ _ => rfl⟩
    let before := { Easy.new (some "http://example.com/".toList) with maxBodyBytes := some 500 }
    ∃ after last, Returns (applySafetyTimes ruby oneNetInetPton (some publicConfig) 2) after () last ∧
      after.networkPolicy = .policyPublic ∧ after.maxBodyBytes = some 100 ∧ Again before after last := by
  intro ruby before
  obtain ⟨last, again, same⟩ := applySafety_repeated
    (show Returns (applySafety ruby oneNetInetPton (some publicConfig)) before () _ from rfl) 2
  exact ⟨_, last, again, rfl, rfl, same⟩

end Easy
end Curb

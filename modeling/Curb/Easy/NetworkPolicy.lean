import Curb.Easy.Basic
import Curb.Net.Host

/-!
# The network policy of a handle

The setters of the policy and of its allowlists, `set`/`setopt` of the two options that reach
libcurl at once, and the part of `ruby_curl_easy_setup_body` that installs the policy
(`ext/curb_easy.c:3890-3938`).
-/

namespace Curb
open Curb.Misc Curb.Ruby Curb.Net

/-- What is given to `network_policy=`. -/
inductive PolicyArgument where
  | nil
  | symbol (name : Text)
  | other

namespace Easy

/-- `ruby_curl_easy_network_policy_set` (`curb_easy.c:3463-3495`). Only the two symbols reset
`allow_proxy`. -/
def networkPolicySet : PolicyArgument → EasyM Unit
  | .nil => modify fun easy => { easy with networkPolicy := .policyNone }
  | .other => raise .typeError "network_policy must be a Symbol"
  | .symbol name =>
      if name = "none".toList then
        modify fun easy => { easy with networkPolicy := .policyNone, allowProxy := false }
      else if name = "public".toList then
        modify fun easy => { easy with networkPolicy := .policyPublic, allowProxy := false }
      else raise .argumentError "network_policy must be one of :none, :public"

/-- `curb_clear_network_allowed_cidr_rules` (`curb_easy.c:185-191`). -/
def curbClearNetworkAllowedCidrRules : EasyM Unit :=
  modify fun easy => { easy with networkAllowedCidrRules := [] }

/-- `curb_prepare_network_allowed_cidr_rules` (`curb_easy.c:514-538`). -/
def curbPrepareNetworkAllowedCidrRules (net : InetPton) : EasyM Unit := do
  curbClearNetworkAllowedCidrRules
  let easy ← get
  let rules ← lift (curbCidrRules net easy.allowedCidrs)
  modify fun easy => { easy with networkAllowedCidrRules := rules }

/-- `ruby_curl_easy_allowed_cidrs_set` (`curb_easy.c:2382-2398`). -/
def allowedCidrsSet (net : InetPton) (cidrs : ListArgument) : EasyM Unit := do
  let normalized ← lift (curbNormalizeCidrList net cidrs)
  modify fun easy => { easy with
    allowedCidrs := normalized
    policyCalls := .allowedCidrs easy.networkPolicy :: easy.policyCalls }
  let easy ← get
  if easy.networkPolicy = .policyPublic then curbPrepareNetworkAllowedCidrRules net
  else curbClearNetworkAllowedCidrRules

/-- `curb_clear_network_allowed_hosts` (`curb_easy.c:456-467`). -/
def curbClearNetworkAllowedHosts : EasyM Unit :=
  modify fun easy => { easy with networkAllowedHosts := [] }

/-- `curb_prepare_network_allowed_hosts` (`curb_easy.c:476-500`). -/
def curbPrepareNetworkAllowedHosts : EasyM Unit := do
  curbClearNetworkAllowedHosts
  let easy ← get
  let rules ← lift (curbHostRules easy.allowedHosts)
  modify fun easy => { easy with networkAllowedHosts := rules }

/-- `ruby_curl_easy_allowed_hosts_set` (`curb_easy.c:2422-2434`). -/
def allowedHostsSet (hosts : ListArgument) : EasyM Unit := do
  let normalized ← lift (curbNormalizeHostList hosts)
  modify fun easy => { easy with allowedHosts := normalized }
  curbPrepareNetworkAllowedHosts

/-- `NIL_P(val) ? NULL : StringValueCStr(val)`. -/
def cStringArgument : Option Text → Except RubyError (Option Text)
  | none => .ok none
  | some text => do
      let cstr ← stringValueCStr text
      .ok (some cstr)

/-- `set`/`setopt` of `CURLOPT_UNIX_SOCKET_PATH` (`curb_easy.c:5819-5822`): the attribute is
stored before the string is checked for its C form. -/
def setUnixSocketPath (path : Option Text) : EasyM Unit := do
  modify fun easy => { easy with unixSocketPath := path }
  let path ← lift (cStringArgument path)
  modify fun easy => { easy with
    native := { easy.native with unixSocketPath := path }
    policyCalls := .unixSocketPath path :: easy.policyCalls }

/-- `set`/`setopt` of `CURLOPT_DNS_SERVERS` (`curb_easy.c:5825-5828`); `accepted` is whether libcurl takes
the value, which the code does not look at. -/
def setDnsServers (servers : Option Text) (accepted : Bool) : EasyM Unit := do
  modify fun easy => { easy with dnsServers := servers }
  let servers ← lift (cStringArgument servers)
  if accepted then
    modify fun easy => { easy with
      native := { easy.native with dnsServers := servers }
      policyCalls := .dnsServers servers :: easy.policyCalls }

/-- The host part of the setup (`curb_easy.c:3897-3909`). -/
def setupAllowedHosts : EasyM Unit := do
  let easy ← get
  if easy.allowedHosts.isSome then
    curbPrepareNetworkAllowedHosts
    modify fun easy => { easy with native := { easy.native with prereqFunction := true } }
  else
    curbClearNetworkAllowedHosts
    modify fun easy => { easy with native := { easy.native with prereqFunction := false } }

/-- The socket part of the setup (`curb_easy.c:3911-3938`). -/
def setupOpensocket (net : InetPton) : EasyM Unit := do
  let easy ← get
  if easy.networkPolicy = .policyPublic then
    curbPrepareNetworkAllowedCidrRules net
    modify fun easy => { easy with native := { easy.native with
      opensocketFunction := true
      freshConnect := true
      forbidReuse := 1
      unixSocketPath := if easy.allowUnixSocket then easy.native.unixSocketPath else none } }
  else
    curbClearNetworkAllowedCidrRules
    modify fun easy => { easy with native := { easy.native with
      opensocketFunction := false
      freshConnect := false
      forbidReuse := if easy.forbidReuseSet then easy.forbidReuse else 0 } }

/-- `public_policy_disables_proxy` (`curb_easy.c:3874`). -/
def publicPolicyDisablesProxy (easy : Easy) : Bool :=
  easy.networkPolicy = .policyPublic && !easy.allowProxy

/-- The servers a setup leaves in libcurl: `NULL` is always taken. -/
def dnsServersGiven (easy : Easy) (accepted : Bool) : Option Text :=
  if easy.dnsServers = none ∨ accepted then easy.dnsServers else easy.native.dnsServers

/-- The history entry of a setup. -/
def policySetup (easy : Easy) : PolicySetup where
  policy := easy.networkPolicy
  allowUnixSocket := easy.allowUnixSocket
  hostsListed := easy.allowedHosts.isSome
  dnsServers := easy.native.dnsServers

/-- The policy part of the setup (`curb_easy.c:3890-3938`). -/
def setupPolicy (net : InetPton) (dnsAccepted : Bool) : EasyM Unit := do
  let easy ← get
  if easy.networkPolicy = .policyPublic ∧ easy.dnsServers ≠ none then
    raise .unsafeDestinationError "DNS server overrides are disabled by public network policy"
  modify fun easy => { easy with
    native := { easy.native with dnsServers := easy.dnsServersGiven dnsAccepted } }
  setupAllowedHosts
  setupOpensocket net
  modify fun easy => { easy with policyCalls := .setup easy.policySetup :: easy.policyCalls }

/-- How the rest of a setup ends, the conversions and callbacks of the attributes that have nothing to do
with the policy, and whether libcurl takes the DNS servers. -/
structure SetupReplies where
  /-- The URL and the DNS-over-HTTPS URL (`curb_easy.c:3879-3888`). -/
  url : Except RubyError Unit
  dnsAccepted : Bool
  /-- The interface, the credentials and the proxy's URL (`curb_easy.c:3940-3977`). -/
  credentials : Except RubyError Unit
  /-- The proxy's credentials, the hosts without it and the encoding (`curb_easy.c:3979-4023`). -/
  proxy : Except RubyError Unit
  /-- The cookies, the certificate, the user agent and the lists (`curb_easy.c:4167-4333`). -/
  rest : Except RubyError Unit

/-- Nothing raises, and libcurl takes the servers. -/
def SetupReplies.accepted : SetupReplies := ⟨.ok (), true, .ok (), .ok (), .ok ()⟩

/-- The setup up to the policy (`curb_easy.c:3873-3888`). -/
def setupStart (url : Except RubyError Unit) : EasyM Unit := do
  modify fun easy => { easy with unsafeDestinationBlocked := false, unsafeDestinationError := [] }
  let easy ← get
  if easy.url = none then raise .curlError "No URL supplied"
  lift url
  modify fun easy => { easy with native := { easy.native with dohUrl := easy.dohUrl } }

/-- The setup behind the policy (`curb_easy.c:3940-4336`). -/
def setupRest (replies : SetupReplies) : EasyM Unit := do
  lift replies.credentials
  modify fun easy => { easy with native := { easy.native with
    proxy := if easy.publicPolicyDisablesProxy then some [] else easy.proxyUrl } }
  lift replies.proxy
  modify fun easy => { easy with native := { easy.native with
    noproxy := easy.noproxy
    httpProxyTunnel := if easy.publicPolicyDisablesProxy then false else easy.proxyTunnel } }
  lift replies.rest

/-- The network part of `ruby_curl_easy_setup_body`. What a setup that raises has given to libcurl stays
there. -/
def setup (net : InetPton) (replies : SetupReplies) : EasyM Unit := do
  setupStart replies.url
  setupPolicy net replies.dnsAccepted
  setupRest replies

/-! ## What the setters and the setup leave behind -/

theorem curbPrepareNetworkAllowedCidrRules_returns {net : InetPton} {easy after : Easy}
    (run : Returns (curbPrepareNetworkAllowedCidrRules net) easy () after) :
    ∃ rules, curbCidrRules net easy.allowedCidrs = .ok rules ∧
      after = { easy with networkAllowedCidrRules := rules } := by
  simp only [curbPrepareNetworkAllowedCidrRules, curbClearNetworkAllowedCidrRules, bind_returns_iff,
    returns_modify_iff, returns_get_iff, returns_lift_iff] at run
  obtain ⟨_, _, rfl, _, _, ⟨rfl, rfl⟩, rules, _, ⟨built, rfl⟩, rfl⟩ := run
  exact ⟨rules, built, rfl⟩

theorem curbPrepareNetworkAllowedHosts_returns {easy after : Easy}
    (run : Returns curbPrepareNetworkAllowedHosts easy () after) :
    ∃ rules, curbHostRules easy.allowedHosts = .ok rules ∧
      after = { easy with networkAllowedHosts := rules } := by
  simp only [curbPrepareNetworkAllowedHosts, curbClearNetworkAllowedHosts, bind_returns_iff,
    returns_modify_iff, returns_get_iff, returns_lift_iff] at run
  obtain ⟨_, _, rfl, _, _, ⟨rfl, rfl⟩, rules, _, ⟨built, rfl⟩, rfl⟩ := run
  exact ⟨rules, built, rfl⟩

/-- An accepted list is stored, normalised, and under the `:public` policy its rules are
prepared at once. -/
theorem allowedCidrsSet_returns {net : InetPton} {cidrs : ListArgument} {easy after : Easy}
    (run : Returns (allowedCidrsSet net cidrs) easy () after) :
    curbNormalizeCidrList net cidrs = .ok after.allowedCidrs ∧
      (after.networkPolicy = .policyPublic →
        curbCidrRules net after.allowedCidrs = .ok after.networkAllowedCidrRules) := by
  simp only [allowedCidrsSet, bind_returns_iff, returns_modify_iff, returns_get_iff,
    returns_lift_iff] at run
  obtain ⟨normalized, _, ⟨built, rfl⟩, _, _, rfl, _, _, ⟨rfl, rfl⟩, run⟩ := run
  split at run
  · obtain ⟨rules, prepared, rfl⟩ := curbPrepareNetworkAllowedCidrRules_returns run
    exact ⟨built, fun _ => prepared⟩
  · rename_i notPublic
    obtain rfl := returns_modify_iff.mp run
    exact ⟨built, fun isPublic => absurd isPublic notPublic⟩

/-- The whole of `allowed_hosts=` when the list is accepted: the rules never lag behind. -/
theorem allowedHostsSet_accepted {hosts : ListArgument} {normalized : Option (List Text)}
    (ok : curbNormalizeHostList hosts = .ok normalized) (easy : Easy) :
    Returns (allowedHostsSet hosts) easy () { easy with
      allowedHosts := normalized, networkAllowedHosts := normalized.getD [] } := by
  refine bind_returns_iff.mpr ⟨_, _, returns_lift_iff.mpr ⟨ok, rfl⟩, ?_⟩
  refine bind_returns_iff.mpr ⟨(), _, returns_modify_iff.mpr rfl, ?_⟩
  refine bind_returns_iff.mpr ⟨(), _, returns_modify_iff.mpr rfl, ?_⟩
  refine bind_returns_iff.mpr ⟨_, _, returns_get_iff.mpr ⟨rfl, rfl⟩, ?_⟩
  refine bind_returns_iff.mpr ⟨_, _, returns_lift_iff.mpr ⟨curbHostRules_ok ok, rfl⟩, ?_⟩
  exact returns_modify_iff.mpr rfl

/-- The rules `allowed_cidrs=` leaves for a list under a policy. -/
def cidrRulesUnder (policy : NetworkPolicy) (rules : List CurbCidrRule) : List CurbCidrRule :=
  if policy = .policyPublic then rules else []

/-- The whole of `allowed_cidrs=` when the list is accepted. -/
theorem allowedCidrsSet_accepted {net : InetPton} {cidrs : ListArgument} {normalized : Option (List Text)}
    {rules : List CurbCidrRule} (ok : curbNormalizeCidrList net cidrs = .ok normalized)
    (ruled : curbCidrRules net normalized = .ok rules) (easy : Easy) :
    Returns (allowedCidrsSet net cidrs) easy () { easy with
      allowedCidrs := normalized
      networkAllowedCidrRules := cidrRulesUnder easy.networkPolicy rules
      policyCalls := .allowedCidrs easy.networkPolicy :: easy.policyCalls } := by
  refine bind_returns_iff.mpr ⟨_, _, returns_lift_iff.mpr ⟨ok, rfl⟩, ?_⟩
  refine bind_returns_iff.mpr ⟨(), _, returns_modify_iff.mpr rfl, ?_⟩
  refine bind_returns_iff.mpr ⟨_, _, returns_get_iff.mpr ⟨rfl, rfl⟩, ?_⟩
  by_cases isPublic : easy.networkPolicy = .policyPublic
  · rw [if_pos isPublic, cidrRulesUnder, if_pos isPublic]
    refine bind_returns_iff.mpr ⟨(), _, returns_modify_iff.mpr rfl, ?_⟩
    refine bind_returns_iff.mpr ⟨_, _, returns_get_iff.mpr ⟨rfl, rfl⟩, ?_⟩
    refine bind_returns_iff.mpr ⟨_, _, returns_lift_iff.mpr ⟨ruled, rfl⟩, ?_⟩
    exact returns_modify_iff.mpr rfl
  · rw [if_neg isPublic, cidrRulesUnder, if_neg isPublic]
    exact returns_modify_iff.mpr rfl

/-- A handle whose policy the policy part of a setup has put into libcurl, with these host and CIDR
rules. -/
def policyInstalled (easy : Easy) (dnsAccepted : Bool) (hosts : List Text) (rules : List CurbCidrRule) : Easy :=
  let servers := easy.dnsServersGiven dnsAccepted
  { easy with
    networkAllowedHosts := hosts
    networkAllowedCidrRules := rules
    policyCalls := .setup { easy.policySetup with dnsServers := servers } :: easy.policyCalls
    native := { easy.native with
      dnsServers := servers
      prereqFunction := easy.allowedHosts.isSome
      opensocketFunction := easy.networkPolicy = .policyPublic
      freshConnect := easy.networkPolicy = .policyPublic
      forbidReuse :=
        if easy.networkPolicy = .policyPublic then 1
        else if easy.forbidReuseSet then easy.forbidReuse else 0
      unixSocketPath :=
        if easy.networkPolicy = .policyPublic ∧ easy.allowUnixSocket = false then none
        else easy.native.unixSocketPath } }

/-- A handle on which a setup has begun. -/
def setupBegun (easy : Easy) : Easy :=
  { easy with
    unsafeDestinationBlocked := false
    unsafeDestinationError := []
    native := { easy.native with dohUrl := easy.dohUrl } }

/-- A handle that has been set up, with these host and CIDR rules. -/
def installed (easy : Easy) (dnsAccepted : Bool) (hosts : List Text) (rules : List CurbCidrRule) : Easy :=
  let policied := easy.setupBegun.policyInstalled dnsAccepted hosts rules
  { policied with native := { policied.native with
      proxy := if easy.publicPolicyDisablesProxy then some [] else easy.proxyUrl
      noproxy := easy.noproxy
      httpProxyTunnel := if easy.publicPolicyDisablesProxy then false else easy.proxyTunnel } }

theorem setupAllowedHosts_returns {easy after : Easy}
    (run : Returns setupAllowedHosts easy () after) :
    ∃ hosts, curbHostRules easy.allowedHosts = .ok hosts ∧
      after = { easy with
        networkAllowedHosts := hosts
        native := { easy.native with prereqFunction := easy.allowedHosts.isSome } } := by
  simp only [setupAllowedHosts, bind_returns_iff, returns_get_iff] at run
  obtain ⟨_, _, ⟨rfl, rfl⟩, run⟩ := run
  split at run
  · rename_i given
    obtain ⟨_, prepared, prepare, run⟩ := bind_returns_iff.mp run
    obtain ⟨hosts, built, rfl⟩ := curbPrepareNetworkAllowedHosts_returns prepare
    obtain rfl := returns_modify_iff.mp run
    exact ⟨hosts, built, by rw [given]⟩
  · rename_i absent
    simp only [curbClearNetworkAllowedHosts, bind_returns_iff, returns_modify_iff] at run
    obtain ⟨_, _, rfl, rfl⟩ := run
    have none : easy.allowedHosts = none := by simpa using absent
    exact ⟨[], by rw [none]; rfl, by rw [none]; rfl⟩

theorem setupOpensocket_returns {net : InetPton} {easy after : Easy}
    (run : Returns (setupOpensocket net) easy () after) :
    ∃ rules, (easy.networkPolicy = .policyPublic → curbCidrRules net easy.allowedCidrs = .ok rules) ∧
      (easy.networkPolicy ≠ .policyPublic → rules = []) ∧
      after = { easy with
        networkAllowedCidrRules := rules
        native := { easy.native with
          opensocketFunction := easy.networkPolicy = .policyPublic
          freshConnect := easy.networkPolicy = .policyPublic
          forbidReuse :=
            if easy.networkPolicy = .policyPublic then 1
            else if easy.forbidReuseSet then easy.forbidReuse else 0
          unixSocketPath :=
            if easy.networkPolicy = .policyPublic ∧ easy.allowUnixSocket = false then none
            else easy.native.unixSocketPath } } := by
  simp only [setupOpensocket, bind_returns_iff, returns_get_iff] at run
  obtain ⟨_, _, ⟨rfl, rfl⟩, run⟩ := run
  split at run
  · rename_i isPublic
    obtain ⟨_, prepared, prepare, run⟩ := bind_returns_iff.mp run
    obtain ⟨rules, built, rfl⟩ := curbPrepareNetworkAllowedCidrRules_returns prepare
    obtain rfl := returns_modify_iff.mp run
    refine ⟨rules, fun _ => built, fun other => absurd isPublic other, ?_⟩
    cases easy.allowUnixSocket <;> simp [isPublic]
  · rename_i notPublic
    simp only [curbClearNetworkAllowedCidrRules, bind_returns_iff, returns_modify_iff] at run
    obtain ⟨_, _, rfl, rfl⟩ := run
    refine ⟨[], fun isPublic => absurd isPublic notPublic, fun _ => rfl, ?_⟩
    simp [notPublic]

/-- What the policy part goes by. -/
structure PolicyPart (net : InetPton) (easy : Easy) (hosts : List Text) (rules : List CurbCidrRule) : Prop where
  noServers : easy.networkPolicy = .policyPublic → easy.dnsServers = none
  hostRules : curbHostRules easy.allowedHosts = .ok hosts
  cidrRules : easy.networkPolicy = .policyPublic → curbCidrRules net easy.allowedCidrs = .ok rules
  cleared : easy.networkPolicy ≠ .policyPublic → rules = []

theorem setupPolicy_returns {net : InetPton} {dnsAccepted : Bool} {easy after : Easy}
    (run : Returns (setupPolicy net dnsAccepted) easy () after) :
    ∃ hosts rules, PolicyPart net easy hosts rules ∧ after = easy.policyInstalled dnsAccepted hosts rules := by
  simp only [setupPolicy, bind_returns_iff, returns_get_iff] at run
  obtain ⟨_, _, ⟨rfl, rfl⟩, run⟩ := run
  split at run
  · simp only [bind_returns_iff, returns_raise_iff, false_and, exists_false] at run
  rename_i noServers
  simp only [bind_returns_iff, returns_modify_iff] at run
  obtain ⟨_, _, rfl, _, _, hostsRun, _, _, rulesRun, rfl⟩ := run
  obtain ⟨hosts, hostsBuilt, rfl⟩ := setupAllowedHosts_returns hostsRun
  obtain ⟨rules, rulesBuilt, rulesCleared, rfl⟩ := setupOpensocket_returns rulesRun
  refine ⟨hosts, rules, ⟨?_, hostsBuilt, rulesBuilt, rulesCleared⟩, rfl⟩
  intro isPublic
  by_contra servers
  exact noServers ⟨isPublic, servers⟩

theorem setupStart_returns {url : Except RubyError Unit} {easy after : Easy}
    (run : Returns (setupStart url) easy () after) : easy.url ≠ none ∧ after = easy.setupBegun := by
  simp only [setupStart, bind_returns_iff, returns_modify_iff, returns_get_iff] at run
  obtain ⟨_, _, rfl, _, _, ⟨rfl, rfl⟩, run⟩ := run
  split at run
  · simp only [bind_returns_iff, returns_raise_iff, false_and, exists_false] at run
  rename_i hasUrl
  simp only [bind_returns_iff, returns_modify_iff, returns_lift_iff] at run
  obtain ⟨_, _, ⟨_, rfl⟩, rfl⟩ := run
  exact ⟨hasUrl, rfl⟩

/-- A setup that does not raise installs the policy the attributes describe. -/
theorem setup_returns {net : InetPton} {replies : SetupReplies} {easy after : Easy}
    (run : Returns (setup net replies) easy () after) :
    easy.url ≠ none ∧ ∃ hosts rules, PolicyPart net easy hosts rules ∧
      after = easy.installed replies.dnsAccepted hosts rules := by
  simp only [setup, setupRest, bind_returns_iff, returns_modify_iff, returns_lift_iff] at run
  obtain ⟨_, _, startRun, _, _, policyRun, _, _, ⟨_, rfl⟩, _, _, rfl, _, _, ⟨_, rfl⟩, _, _, rfl, _, rfl⟩ := run
  obtain ⟨hasUrl, rfl⟩ := setupStart_returns startRun
  obtain ⟨hosts, rules, ⟨noServers, hostsBuilt, rulesBuilt, cleared⟩, rfl⟩ := setupPolicy_returns policyRun
  exact ⟨hasUrl, hosts, rules, ⟨noServers, hostsBuilt, rulesBuilt, cleared⟩, rfl⟩

end Easy
end Curb

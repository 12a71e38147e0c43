import Curb.Easy.NetworkPolicy
import Curb.Safety.Config

/-!
# Applying the safety settings

`Curl.apply_safety!` and its helpers (`lib/curl.rb:196-409`), with the setters of the handle
they call (`lib/curl/easy.rb:179-253`, `ext/curb_easy.c:4794-4818`) and `safe_http!`.
-/

namespace Curb
open Curb.Misc Curb.Ruby Curb.Net

namespace Easy

/-- The names `set_protocol_allowlist` hands to libcurl (`easy.rb:223-253`). -/
def protocolAllowlist (protocols : List Text) : Except RubyError (List ProtocolName) :=
  let names := protocols.map protocolName
  if names = [] then rbRaise .argumentError "at least one protocol is required".toList
  else
    match names.find? (fun name => !validNames.contains name.text) with
    | some name =>
        rbRaise .argumentError ("unsupported protocol: ".toList ++ inspect (some name.text))
    | none => .ok names

/-- `allowed_protocols=` (`easy.rb:179-181`); what libcurl answers is not looked at. -/
def allowedProtocolsSet (ruby : RubyLibrary) (protocols : List Text) : EasyM Unit := do
  let names ← lift (protocolAllowlist protocols)
  if ruby.takesProtocols names then
    modify fun easy => { easy with native := { easy.native with protocols := some names } }

/-- `allowed_redirect_protocols=` (`easy.rb:183-185`). -/
def allowedRedirectProtocolsSet (ruby : RubyLibrary) (protocols : List Text) : EasyM Unit := do
  let names ← lift (protocolAllowlist protocols)
  if ruby.takesProtocols names then
    modify fun easy => { easy with native := { easy.native with redirProtocols := some names } }

/-- `ruby_curl_easy_max_body_bytes_set` (`curb_easy.c:4794-4818`): zero clears the limit. -/
def maxBodyBytesSet : Option Int → EasyM Unit
  | none => modify fun easy => { easy with maxBodyBytes := none }
  | some limit =>
      if longMax < limit then raise .rangeError "bignum too big to convert into 'long long'"
      else if limit < 0 then
        raise .argumentError "max_body_bytes must be greater than or equal to zero"
      else if limit = 0 then modify fun easy => { easy with maxBodyBytes := none }
      else modify fun easy => { easy with maxBodyBytes := some limit.toNat }

/-- `easy.set (Curl::CURLOPT_NOPROXY, …)`. -/
def noproxySet (hosts : String) : EasyM Unit :=
  modify fun easy => { easy with noproxy := some hosts.toList }

/-! ## The helpers of `apply_safety!` -/

/-- `safety_protocol_intersection` (`curl.rb:263-270`). -/
def safetyProtocolIntersection (baseProtocols : Option (List ProtocolName))
    (overrideProtocols : List ProtocolName) : Except RubyError (List ProtocolName) :=
  match baseProtocols with
  | none => .ok overrideProtocols
  | some base =>
      let protocols := (overrideProtocols.filter base.contains).eraseDups
      if protocols = [] then rbRaise .argumentError "safety policies allow no protocols".toList
      else .ok protocols

/-- A list narrowed by an override's list, where the override has one. -/
def narrowedBy (baseProtocols overrideProtocols : Option (List ProtocolName)) :
    Except RubyError (Option (List ProtocolName)) :=
  match overrideProtocols with
  | none => .ok baseProtocols
  | some list => do
      let protocols ← safetyProtocolIntersection baseProtocols list
      .ok (some protocols)

/-- `override[:redirect_protocols] || override_protocols`. -/
def overrideRedirects (override : SafetyOverride) : Option (List ProtocolName) :=
  override.redirectProtocols.or override.protocols

/-- The protocol part of `apply_safety!` (`curl.rb:201-215`). -/
def applyProtocols (ruby : RubyLibrary) (config : Option SafetyConfig) (override : Option SafetyOverride) :
    EasyM Unit := do
  let protocols ← lift (narrowedBy (config.map (·.protocols)) (override.bind (·.protocols)))
  let redirectProtocols ← lift (narrowedBy
    (config.map fun config => config.redirectProtocols.getD config.protocols)
    (override.bind overrideRedirects))
  match protocols with
  | none => pure ()
  | some protocols => do
      allowedProtocolsSet ruby (protocols.map (·.text))
      allowedRedirectProtocolsSet ruby ((redirectProtocols.getD protocols).map (·.text))

/-- The host `apply_allowed_hosts!` compares (`curl.rb:301-308`). -/
def urlHost (ruby : RubyLibrary) (url : Option Text) : Except RubyError Text := do
  let host ← ruby.uriHost (url.getD [])
  .ok (stripBrackets (chompDot (downcase (host.getD []))))

/-- `apply_allowed_hosts!` (`curl.rb:295-316`). -/
def applyAllowedHosts (ruby : RubyLibrary) (allowedHosts : List Text) : EasyM Unit := do
  let easy ← get
  let host ← lift (ruby.uriHost (easy.url.getD []))
  let normalizedHost ← lift (urlHost ruby easy.url)
  if normalizedHost ∈ allowedHosts then allowedHostsSet (.array allowedHosts)
  else
    throw ⟨.unsafeDestinationError, "URL host ".toList ++ inspect host ++
      " is not allowed by safe mode host allowlist".toList⟩

/-- `apply_allowed_cidrs!` (`curl.rb:318-324`). -/
def applyAllowedCidrs (net : InetPton) (config : SafetyConfig) (allowedCidrs : List Text) :
    EasyM Unit :=
  if config.networkPolicy = some .policyPublic then allowedCidrsSet net (.array allowedCidrs)
  else raise .argumentError "allowed_cidrs require network_policy = :public"

/-- The five `reject_*_override!` checks (`curl.rb:360-403`): an option that is neither absent
nor empty is refused. -/
def rejectOverride (isSet : Easy → Bool) (message : String) : EasyM Unit := do
  let easy ← get
  if isSet easy then raise .unsafeDestinationError message

/-- Whether an option is neither `nil` nor empty. -/
def isSetText (text : Option Text) : Bool := text.any fun text => !text.isEmpty

/-- Whether a list option is neither `nil` nor empty. -/
def isSetList (value : Option OptionValue) : Bool := value.any fun value => !value.isEmpty

/-- `reject_resolve_override!`. -/
def rejectResolveOverride : EasyM Unit :=
  rejectOverride (fun easy => isSetList easy.resolve)
    "resolve overrides are disabled by public network policy"

/-- `reject_connect_to_override!`. -/
def rejectConnectToOverride : EasyM Unit :=
  rejectOverride (fun easy => isSetList easy.connectTo)
    "connect_to overrides are disabled by public network policy"

/-- `reject_doh_override!`. -/
def rejectDohOverride : EasyM Unit :=
  rejectOverride (fun easy => isSetText easy.dohUrl)
    "DoH URL overrides are disabled by public network policy"

/-- `reject_dns_servers_override!`. -/
def rejectDnsServersOverride : EasyM Unit :=
  rejectOverride (fun easy => isSetText easy.dnsServers)
    "DNS server overrides are disabled by public network policy"

/-- `reject_unix_socket_override!`. -/
def rejectUnixSocketOverride : EasyM Unit :=
  rejectOverride (fun easy => isSetText easy.unixSocketPath)
    "Unix socket paths are disabled by public network policy"

/-- `disable_proxy!` (`curl.rb:405-409`). -/
def disableProxy : EasyM Unit := do
  modify fun easy => { easy with proxyUrl := some [] }
  modify fun easy => { easy with proxyTunnel := false }
  noproxySet "*"

/-- `normalize_proxy_host` (`curl.rb:342-358`). -/
def normalizeProxyHost (ruby : RubyLibrary) (proxyUrl : Text) : Except RubyError Text := do
  let value := strip proxyUrl
  if value = [] then rbRaise .unsafeDestinationError "proxy URL is empty".toList
  else
    let host ← ruby.uriHost
      (if includes "://".toList value then value else "http://".toList ++ value)
    if host.getD [] = [] then rbRaise .unsafeDestinationError "proxy URL host is invalid".toList
    else .ok (stripBrackets (chompDot (downcase (host.getD []))))

/-- `apply_allowed_proxy!` (`curl.rb:326-340`). -/
def applyAllowedProxy (ruby : RubyLibrary) (allowedProxyHosts : List Text) : EasyM Unit := do
  let easy ← get
  if isSetText easy.proxyUrl then
    let proxyHost ← lift (normalizeProxyHost ruby (easy.proxyUrl.getD []))
    if proxyHost ∈ allowedProxyHosts then noproxySet ""
    else
      throw ⟨.unsafeDestinationError, "proxy host ".toList ++ inspect (some proxyHost) ++
        " is not allowed by safe mode proxy allowlist".toList⟩
  else disableProxy

/-- `check unless allow`. -/
def unlessAllowed (allow : Bool) (check : EasyM Unit) : EasyM Unit :=
  if allow then pure () else check

/-- `apply_public_network_policy_controls!` (`curl.rb:279-293`). -/
def applyPublicNetworkPolicyControls (ruby : RubyLibrary) (config : SafetyConfig) : EasyM Unit := do
  unlessAllowed config.allowResolve rejectResolveOverride
  unlessAllowed config.allowConnectTo rejectConnectToOverride
  unlessAllowed config.allowDoh rejectDohOverride
  rejectDnsServersOverride
  modify fun easy => { easy with allowProxy := config.allowProxies || config.allowedProxyHosts.isSome }
  modify fun easy => { easy with allowUnixSocket := config.allowUnixSocket }
  unlessAllowed config.allowUnixSocket rejectUnixSocketOverride
  match config.allowedProxyHosts with
  | some hosts => applyAllowedProxy ruby hosts
  | none => unlessAllowed config.allowProxies disableProxy

/-- `apply_max_body_bytes!` (`curl.rb:272-277`). -/
def applyMaxBodyBytes (maxBodyBytes : Option Nat) : EasyM Unit := do
  match maxBodyBytes with
  | none => pure ()
  | some limit => do
      let easy ← get
      if easy.maxBodyBytes.all (fun current => limit < current) then maxBodyBytesSet (some limit)

/-- The network policy part of `apply_safety!` (`curl.rb:220-223`). -/
def applyNetworkPolicy (ruby : RubyLibrary) (config : SafetyConfig) : EasyM Unit := do
  match config.networkPolicy with
  | none => pure ()
  | some .policyNone => networkPolicySet (.symbol "none".toList)
  | some .policyPublic => do
      networkPolicySet (.symbol "public".toList)
      applyPublicNetworkPolicyControls ruby config

/-- `apply (value) if value`. -/
def ifGiven {α : Type} (value : Option α) (apply : α → EasyM Unit) : EasyM Unit :=
  match value with
  | none => pure ()
  | some value => apply value

/-- The part of `apply_safety!` only a configuration takes (`curl.rb:217-225`). -/
def applyConfig (ruby : RubyLibrary) (net : InetPton) (config : SafetyConfig) : EasyM Unit := do
  ifGiven config.allowedHosts (applyAllowedHosts ruby)
  ifGiven config.allowedCidrs (applyAllowedCidrs net config)
  applyNetworkPolicy ruby config
  applyMaxBodyBytes config.maxBodyBytes

/-- `apply_safety!` (`curl.rb:196-228`); `config` is the one of the current Ractor. -/
def applySafety (ruby : RubyLibrary) (net : InetPton) (config : Option SafetyConfig) :
    EasyM Unit := do
  let easy ← get
  let override := easy.safetyOverride
  if config.isNone ∧ override.isNone then pure ()
  else
    applyProtocols ruby config override
    ifGiven config (applyConfig ruby net)
    applyMaxBodyBytes (override.bind (·.maxBodyBytes))

/-- The override `safe_http!` sets (`easy.rb:187-192`): both lists anew, an earlier limit kept. -/
def safeHttpOverride (override : Option SafetyOverride) : SafetyOverride where
  protocols := some SafetyConfig.defaultProtocols
  redirectProtocols := some SafetyConfig.defaultProtocols
  maxBodyBytes := override.bind (·.maxBodyBytes)
  redirects_with_protocols := fun _ => rfl
  limit_pos := by
    intro limit mem
    obtain ⟨override, _, mem⟩ := Option.bind_eq_some_iff.mp mem
    exact override.limit_pos limit mem

/-- `safe_http!` (`easy.rb:187-204`). -/
def safeHttp (ruby : RubyLibrary) (net : InetPton) (config : Option SafetyConfig) : EasyM Unit := do
  modify fun easy => { easy with
    safetyOverride := some (safeHttpOverride easy.safetyOverride)
    safetyOverrideGeneration := easy.safetyOverrideGeneration + 1 }
  applySafety ruby net config

end Easy
end Curb

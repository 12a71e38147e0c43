import Curb.Easy.Basic

/-!
# `SafetyConfig`

The configuration `Curl.safe!` builds (`lib/curl.rb:24-187`). Every setter normalises what it
is given and refuses what would leave a restriction empty, so a configuration carries these
facts as fields.
-/

namespace Curb
open Curb.Misc Curb.Ruby Curb.Net

/-- `valid_names` of `set_protocol_allowlist` (`easy.rb:227-231`). -/
def validNames : List Text :=
  ["dict", "file", "ftp", "ftps", "gopher", "gophers", "http", "https", "imap", "imaps", "ldap",
    "ldaps", "mqtt", "pop3", "pop3s", "rtmp", "rtmpe", "rtmps", "rtmpt", "rtmpte", "rtmpts", "rtsp",
    "scp", "sftp", "smb", "smbs", "smtp", "smtps", "telnet", "tftp", "ws", "wss"].map String.toList

/-- Ruby's `uri` and `ipaddr` libraries, and the protocols of the libcurl that Ruby has loaded. -/
structure RubyLibrary where
  /-- `URI.parse(text).host`, with `InvalidURIError` rescued to `nil`. -/
  uriHost : Text → Except RubyError (Option Text)
  /-- The message `IPAddr.new(text)` raises `InvalidAddressError` with, or `none`. -/
  ipAddr : Text → Option Text
  /-- libcurl takes these protocols for an allowlist; it refuses one with a protocol it was built without. -/
  takesProtocols : List ProtocolName → Bool
  /-- It was built with all of `valid_names`. -/
  takes_valid : ∀ names : List ProtocolName, (∀ name ∈ names, validNames.contains name.text = true) →
    takesProtocols names = true

/-- `SafetyConfig` (`curl.rb:24-43`). -/
structure SafetyConfig where
  protocols : List ProtocolName
  redirectProtocols : Option (List ProtocolName)
  maxBodyBytes : Option Nat
  networkPolicy : Option NetworkPolicy
  allowedHosts : Option (List Text)
  allowedProxyHosts : Option (List Text)
  allowedCidrs : Option (List Text)
  allowProxies : Bool
  allowResolve : Bool
  allowConnectTo : Bool
  allowDoh : Bool
  allowUnixSocket : Bool
  protocols_ne : protocols ≠ []
  redirects_ne : ∀ list ∈ redirectProtocols, list ≠ []
  limit_pos : ∀ limit ∈ maxBodyBytes, 0 < limit
  hosts_ne : ∀ list ∈ allowedHosts, list ≠ []
  proxyHosts_ne : ∀ list ∈ allowedProxyHosts, list ≠ []
  cidrs_ne : ∀ list ∈ allowedCidrs, list ≠ []

namespace SafetyConfig

/-- `DEFAULT_PROTOCOLS`. -/
def defaultProtocols : List ProtocolName :=
  [protocolName "http".toList, protocolName "https".toList]

/-- `SafetyConfig#initialize`. -/
def new : SafetyConfig where
  protocols := defaultProtocols
  redirectProtocols := none
  maxBodyBytes := none
  networkPolicy := none
  allowedHosts := none
  allowedProxyHosts := none
  allowedCidrs := none
  allowProxies := false
  allowResolve := false
  allowConnectTo := false
  allowDoh := false
  allowUnixSocket := false
  protocols_ne := by decide
  redirects_ne := nofun
  limit_pos := nofun
  hosts_ne := nofun
  proxyHosts_ne := nofun
  cidrs_ne := nofun

/-- A list that has at least one item, or an `ArgumentError`. -/
def nonEmpty {α : Type} (message : String) (list : List α) :
    Except RubyError { list : List α // list ≠ [] } :=
  if given : list = [] then rbRaise .argumentError message.toList else .ok ⟨list, given⟩

/-- `normalize_protocols` (`curl.rb:103-108`). -/
def normalizeProtocols (protocols : List Text) :
    Except RubyError { list : List ProtocolName // list ≠ [] } :=
  nonEmpty "at least one protocol is required" (protocols.map protocolName)

/-- `protocols=` (`curl.rb:49-51`). -/
def protocolsSet (config : SafetyConfig) (protocols : List Text) : Except RubyError SafetyConfig := do
  let list ← normalizeProtocols protocols
  .ok { config with protocols := list.val, protocols_ne := list.property }

/-- `redirect_protocols=` (`curl.rb:57-59`). -/
def redirectProtocolsSet (config : SafetyConfig) :
    Option (List Text) → Except RubyError SafetyConfig
  | none => .ok { config with redirectProtocols := none, redirects_ne := nofun }
  | some protocols => do
      let list ← normalizeProtocols protocols
      .ok { config with
        redirectProtocols := some list.val
        redirects_ne := fun _ same => Option.some.inj same ▸ list.property }

/-- `max_body_bytes=` (`curl.rb:73-83`): zero is no limit. -/
def maxBodyBytesSet (config : SafetyConfig) : Option Int → Except RubyError SafetyConfig
  | none => .ok { config with maxBodyBytes := none, limit_pos := nofun }
  | some bytes =>
      if bytes < 0 then
        rbRaise .argumentError "max_body_bytes must be greater than or equal to zero".toList
      else if positive : 0 < bytes.toNat then
        .ok { config with
          maxBodyBytes := some bytes.toNat
          limit_pos := fun _ same => Option.some.inj same ▸ positive }
      else .ok { config with maxBodyBytes := none, limit_pos := nofun }

/-- `normalize_network_policy` (`curl.rb:110-117`). -/
def networkPolicySet (config : SafetyConfig) : Option Text → Except RubyError SafetyConfig
  | none => .ok { config with networkPolicy := none }
  | some policy =>
      if downcase policy = "none".toList then .ok { config with networkPolicy := some .policyNone }
      else if downcase policy = "public".toList then
        .ok { config with networkPolicy := some .policyPublic }
      else rbRaise .argumentError "network_policy must be one of :none, :public".toList

/-- `normalize_host_authority` (`curl.rb:170-186`). The `split` of an empty authority has no
first part, on which `normalize_allowed_host` then calls `start_with?`. -/
def normalizeHostAuthority (host : Text) : Except RubyError Text :=
  let authority := (host.takeWhile fun c => c != '/' && c != '?' && c != '#').rtakeWhile (· != '@')
  match authority with
  | [] => rbRaise .noMethodError "undefined method 'start_with?' for nil".toList
  | '[' :: rest =>
      match cutAt ']' rest with
      | none => rbRaise .argumentError ("invalid allowed host: ".toList ++ host)
      | some (inside, _) => .ok inside
  | _ => .ok (if authority.count ':' ≤ 1 then authority.takeWhile (· != ':') else authority)

/-- `normalize_allowed_host` (`curl.rb:150-168`). -/
def normalizeAllowedHost (ruby : RubyLibrary) (host : Text) : Except RubyError Text := do
  let host := downcase (strip host)
  if host = [] then
    rbRaise .argumentError "allowed_hosts cannot include blank entries".toList
  else
    let parsedHost ← if includes "://".toList host then ruby.uriHost host else .ok none
    let host ← match parsedHost with
      | some parsed => .ok (downcase parsed)
      | none => normalizeHostAuthority host
    let host := chompDot (stripBrackets host)
    if host = [] then rbRaise .argumentError "allowed_hosts cannot include blank entries".toList
    else .ok host

/-- One item of the list in `normalize_allowed_cidrs` (`curl.rb:130-136`). -/
def normalizeAllowedCidr (ruby : RubyLibrary) (cidr : Text) : Except RubyError Text :=
  let cidr := strip cidr
  if cidr = [] then rbRaise .argumentError "allowed_cidrs cannot include blank entries".toList
  else
    match ruby.ipAddr cidr with
    | some message => rbRaise .argumentError ("invalid CIDR range: ".toList ++ message)
    | none => .ok cidr

/-- `normalize_optional_list` and the `map … uniq` after it (`curl.rb:119-148`): `nil` and an
empty list both mean no list. -/
def normalizeList (normalize : Text → Except RubyError Text) (values : Option (List Text)) :
    Except RubyError { list : Option (List Text) // ∀ items ∈ list, items ≠ [] } := do
  match values.getD [] with
  | [] => .ok ⟨none, nofun⟩
  | first :: rest => do
      let first ← normalize first
      let rest ← rest.mapM normalize
      .ok ⟨some (first :: (rest.filter (· ≠ first)).eraseDups), fun _ same =>
        Option.some.inj same ▸ List.cons_ne_nil _ _⟩

/-- `allowed_hosts=` (`curl.rb:89-91`). -/
def allowedHostsSet (ruby : RubyLibrary) (config : SafetyConfig) (hosts : Option (List Text)) :
    Except RubyError SafetyConfig := do
  let list ← normalizeList (normalizeAllowedHost ruby) hosts
  .ok { config with allowedHosts := list.val, hosts_ne := list.property }

/-- `allowed_proxy_hosts=` (`curl.rb:93-95`). -/
def allowedProxyHostsSet (ruby : RubyLibrary) (config : SafetyConfig) (hosts : Option (List Text)) :
    Except RubyError SafetyConfig := do
  let list ← normalizeList (normalizeAllowedHost ruby) hosts
  .ok { config with allowedProxyHosts := list.val, proxyHosts_ne := list.property }

/-- `allowed_cidrs=` (`curl.rb:97-99`). -/
def allowedCidrsSet (ruby : RubyLibrary) (config : SafetyConfig) (cidrs : Option (List Text)) :
    Except RubyError SafetyConfig := do
  let list ← normalizeList (normalizeAllowedCidr ruby) cidrs
  .ok { config with allowedCidrs := list.val, cidrs_ne := list.property }

/-! ## The items of a list -/

theorem mapM_ok_mem_iff {normalize : Text → Except RubyError Text} {values items : List Text}
    (ok : values.mapM normalize = .ok items) (item : Text) :
    item ∈ items ↔ ∃ value ∈ values, normalize value = .ok item := by
  rw [except_mapM_eq_ok_iff] at ok
  induction ok with
  | nil => simp
  | cons first rest ih =>
    simp only [List.mem_cons, ih, exists_eq_or_imp, first, Except.ok.injEq]
    exact or_congr_left eq_comm

/-- A list that is kept has the normal forms of the values it was made of. -/
theorem normalizeList_mem_iff {normalize : Text → Except RubyError Text} {values : Option (List Text)}
    {list : { list : Option (List Text) // ∀ items ∈ list, items ≠ [] }} {items : List Text}
    (ok : normalizeList normalize values = .ok list) (kept : list.val = some items) (item : Text) :
    item ∈ items ↔ ∃ value ∈ values.getD [], normalize value = .ok item := by
  unfold normalizeList at ok
  cases given : values.getD [] with
  | nil =>
    rw [given] at ok
    cases ok
    cases kept
  | cons value values =>
    rw [given] at ok
    obtain ⟨first, isFirst, ok⟩ := except_bind_eq_ok_iff.mp ok
    obtain ⟨rest, isRest, ok⟩ := except_bind_eq_ok_iff.mp ok
    cases ok
    cases kept
    have tail := mapM_ok_mem_iff isRest item
    simp only [List.mem_cons, List.mem_eraseDups, List.mem_filter, tail, exists_eq_or_imp, isFirst,
      Except.ok.injEq, decide_eq_true_eq]
    by_cases same : item = first
    · simp [same]
    · simp [same, Ne.symm same]

end SafetyConfig
end Curb

import Curb.Misc.Fallible
import Curb.Net.Cidr

/-!
# `Curl::Easy` handles

The part of a handle the network policy and the safety settings read and write: the
attributes kept in `rbce->opts`, the fields of `ruby_curl_easy` (`ext/curb_easy.h`), the
instance variables of the safety override (`lib/curl/easy.rb:187-221`) and the options that
have reached the libcurl handle. The build is one with every optional libcurl feature and
every protocol.
-/

namespace Curb
open Curb.Misc Curb.Ruby Curb.Net

/-- `CURB_NETWORK_POLICY_NONE` and `CURB_NETWORK_POLICY_PUBLIC`. -/
inductive NetworkPolicy where
  | policyNone
  | policyPublic
  deriving DecidableEq, Repr

/-- A list option, which may also be given as one string. -/
inductive OptionValue where
  | str (text : Text)
  | array (items : List Text)
  deriving DecidableEq, Repr

/-- Ruby `empty?`. -/
def OptionValue.isEmpty : OptionValue → Bool
  | .str text => text.isEmpty
  | .array items => items.isEmpty

/-- A protocol name as every setter keeps it, `protocol.to_s.downcase`. -/
structure ProtocolName where
  text : Text
  lower : downcase text = text
  deriving DecidableEq, Repr

/-- `protocol.to_s.downcase.to_sym`. -/
def protocolName (protocol : Text) : ProtocolName := ⟨downcase protocol, downcase_downcase protocol⟩

@[simp] theorem protocolName_text (name : ProtocolName) : protocolName name.text = name := by
  cases name with
  | mk text lower => simp [protocolName, lower]

/-- The hash `__curb_set_safety_override!` keeps (`lib/curl/easy.rb:196-201`). Its only
caller, `safe_http!`, sets both lists, and nothing gives it a limit of zero, which the
setters read as no limit. -/
structure SafetyOverride where
  protocols : Option (List ProtocolName)
  redirectProtocols : Option (List ProtocolName)
  maxBodyBytes : Option Nat
  redirects_with_protocols : redirectProtocols.isSome → protocols.isSome
  limit_pos : ∀ limit ∈ maxBodyBytes, 0 < limit
  deriving DecidableEq, Repr

/-- Options as libcurl holds them. -/
structure NativeOptions where
  protocols : Option (List ProtocolName)
  redirProtocols : Option (List ProtocolName)
  dohUrl : Option Text
  dnsServers : Option Text
  unixSocketPath : Option Text
  /-- `CURLOPT_PREREQFUNCTION` is `curb_host_allowlist_prereq`. -/
  prereqFunction : Bool
  /-- `CURLOPT_OPENSOCKETFUNCTION` is `curb_public_network_opensocket`. -/
  opensocketFunction : Bool
  freshConnect : Bool
  forbidReuse : Int
  proxy : Option Text
  noproxy : Option Text
  httpProxyTunnel : Bool
  deriving DecidableEq, Repr

/-- What the policy part of a setup has gone by, and the DNS servers it has left in libcurl. -/
structure PolicySetup where
  policy : NetworkPolicy
  allowUnixSocket : Bool
  hostsListed : Bool
  dnsServers : Option Text
  deriving DecidableEq, Repr

/-- A call that may change what the network policy has put into libcurl. -/
inductive PolicyCall where
  /-- `set` of `CURLOPT_UNIX_SOCKET_PATH` with a value libcurl was given. -/
  | unixSocketPath (path : Option Text)
  /-- `set` of `CURLOPT_DNS_SERVERS` with a value libcurl has taken. -/
  | dnsServers (servers : Option Text)
  /-- `allowed_cidrs=` with an accepted list, under this policy. -/
  | allowedCidrs (policy : NetworkPolicy)
  /-- The policy part of a setup, whether the rest of the setup raised or not. -/
  | setup (installed : PolicySetup)
  deriving DecidableEq, Repr

/-- A `Curl::Easy` handle. -/
structure Easy where
  url : Option Text
  allowedHosts : Option (List Text)
  allowedCidrs : Option (List Text)
  resolve : Option OptionValue
  connectTo : Option OptionValue
  dohUrl : Option Text
  dnsServers : Option Text
  unixSocketPath : Option Text
  proxyUrl : Option Text
  noproxy : Option Text
  maxBodyBytes : Option Nat
  networkPolicy : NetworkPolicy
  proxyTunnel : Bool
  followLocation : Bool
  unsafeDestinationBlocked : Bool
  allowProxy : Bool
  allowUnixSocket : Bool
  forbidReuseSet : Bool
  forbidReuse : Int
  networkAllowedCidrRules : List CurbCidrRule
  networkAllowedHosts : List Text
  unsafeDestinationError : Text
  errBuf : Text
  safetyOverride : Option SafetyOverride
  safetyOverrideGeneration : Nat
  native : NativeOptions
  /-- A history variable, newest call first; the operations write it and none reads it. -/
  policyCalls : List PolicyCall
  deriving DecidableEq, Repr

/-- The options of a fresh libcurl handle that this model keeps. -/
def NativeOptions.fresh : NativeOptions where
  protocols := none
  redirProtocols := none
  dohUrl := none
  dnsServers := none
  unixSocketPath := none
  prereqFunction := false
  opensocketFunction := false
  freshConnect := false
  forbidReuse := 0
  proxy := none
  noproxy := none
  httpProxyTunnel := false

/-- `ruby_curl_easy_zero` (`curb_easy.c:1401-1466`) and a given URL. -/
def Easy.new (url : Option Text) : Easy where
  url := url
  allowedHosts := none
  allowedCidrs := none
  resolve := none
  connectTo := none
  dohUrl := none
  dnsServers := none
  unixSocketPath := none
  proxyUrl := none
  noproxy := none
  maxBodyBytes := none
  networkPolicy := .policyNone
  proxyTunnel := false
  followLocation := false
  unsafeDestinationBlocked := false
  allowProxy := false
  allowUnixSocket := false
  forbidReuseSet := false
  forbidReuse := 0
  networkAllowedCidrRules := []
  networkAllowedHosts := []
  unsafeDestinationError := []
  errBuf := []
  safetyOverride := none
  safetyOverrideGeneration := 0
  native := NativeOptions.fresh
  policyCalls := []

/-- An operation on a handle; a raise keeps what it has written so far. -/
abbrev EasyM := EStateM RubyError Easy

/-- `rb_raise` in an operation on a handle. -/
def raise {α : Type} (errorClass : ErrorClass) (message : String) : EasyM α :=
  throw ⟨errorClass, message.toList⟩

/-- An operation that reads no handle. -/
def lift {α : Type} : Except RubyError α → EasyM α
  | .ok value => pure value
  | .error error => throw error

@[simp] theorem returns_raise_iff {α : Type} {errorClass : ErrorClass} {message : String}
    {easy after : Easy} {value : α} : ¬Returns (raise errorClass message) easy value after :=
  returns_throw_iff

@[simp] theorem returns_lift_iff {α : Type} {x : Except RubyError α} {easy after : Easy}
    {value : α} : Returns (lift x) easy value after ↔ x = .ok value ∧ easy = after := by
  cases x with
  | ok found =>
    rw [lift, returns_pure_iff, Except.ok.injEq]
  | error e =>
    simp [lift]

end Curb

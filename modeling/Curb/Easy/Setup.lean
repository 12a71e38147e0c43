import Curb.Easy.NetworkPolicy
import Curb.Easy.Verbs
import Curb.Misc.LastWrite

/-!
# The options of a setup

The attributes of a handle are kept on the Ruby side, in `rbce->opts` and in the fields of
`ruby_curl_easy`. `ruby_curl_easy_setup_body` (`ext/curb_easy.c:3861-4336`) gives them to libcurl, one
`curl_easy_setopt` after the other, and some options of `setopt` reach libcurl at once
(`curb_easy.c:5610-5999`). The options that hold one value are here; those of the cookies and those
that hold a list are left out. The build has every optional libcurl feature.
-/

namespace Curb.Setup
open Curb.Misc Curb.Ruby Curb.Net

/-! ## Native options -/

/-- The options of libcurl a setup gives one value. `CONNECTTIMEOUT` and `CONNECTTIMEOUT_MS` set the
same one, and `USERPWD` sets `USERNAME` and `PASSWORD`. -/
inductive NativeOption where
  | url | dohUrl | dnsServers
  | prereqFunction | prereqData | openSocketFunction | openSocketData
  | freshConnect | forbidReuse | unixSocketPath
  | interface | username | password | proxy | proxyUserpwd | noproxy
  | writeFunction | writeData | headerFunction | headerData | encoding
  | xferInfoFunction | xferInfoData | noprogress | debugFunction | debugData | verbose
  | header | followLocation | maxRedirs | httpProxyTunnel | filetime
  | sslVerifyPeer | sslVerifyHost | netrc | unrestrictedAuth
  | timeoutMs | connectTimeoutMs | dnsCacheTimeout | ignoreContentLength | ipResolve | httpVersion
  | ftpResponseTimeout | lowSpeedLimit | lowSpeedTime | maxRecvSpeedLarge | maxSendSpeedLarge
  | proxyPort | localPort | localPortRange | proxyType | httpAuth | proxyAuth
  | sslCertType | sslCert | sslCertPasswd | sslKey | caInfo | sslVersion | ftpSsl | ftpFilemethod
  | userAgent
  deriving DecidableEq, Repr

/-- The functions a setup may give to libcurl. -/
inductive NativeFunction where
  | hostAllowlistPrereq
  | publicNetworkOpensocket
  | procDataHandlerBody
  | defaultBodyHandler
  | procDataHandlerHeader
  | defaultHeaderHandler
  | procXferinfoHandler
  | procDebugHandler
  deriving DecidableEq, Repr

/-- What an option of libcurl may hold. -/
inductive Value where
  | null
  | string (text : Text)
  | long (value : Int)
  | function (callback : NativeFunction)
  /-- The handle itself, as the data of a callback. -/
  | rbce
  deriving DecidableEq, Repr

/-- libcurl: the options of a new handle, the values it takes (a `curl_easy_setopt` that fails leaves
its option as it was, and no caller looks at the result), and the two halves of a `USERPWD`. -/
structure Libcurl where
  default : NativeOption → Value
  accepts : NativeOption → Value → Bool
  userpwd : Text → Option Text × Option Text

/-- What the build fixes: the path of `HAVE_CURL_CONFIG_CA`, and whether it is against libcurl 8.16.0,
where a setup must not write a negative `MAXREDIRS`. -/
structure Build where
  curlConfigCa : Option Text
  clampsMaxRedirs : Bool

/-- The characters of a C string. -/
def cString (text : Text) : Text := text.takeWhile (· ≠ Char.ofNat 0)

/-- `nil` is `NULL`. -/
def text : Option Text → Value
  | none => .null
  | some str => .string (cString str)

def flag (on : Bool) : Value := .long (if on then 1 else 0)

/-! ## Attributes -/

/-- The keys of `rbce->opts` that `CURB_OBJECT_HSETTER` writes. -/
inductive OptsKey where
  | url | dohUrl | interfaceHm | username | password | userpwd | proxyUrl | proxypwd | noproxy
  | encoding | cert | certtype | certpassword | certKey | cacert | useragent
  deriving DecidableEq, Repr

/-- The keys of `rbce->opts` that hold a handler of a setup. -/
inductive ProcKey where
  | bodyProc | headerProc | progressProc | debugProc
  deriving DecidableEq, Repr

/-- The fields that `CURB_IMMED_PORT_SETTER` writes. -/
inductive PortField where
  | localPort | localPortRange | proxyPort
  deriving DecidableEq, Repr

/-- The fields that `CURB_IMMED_SETTER` writes. -/
inductive LongField where
  | proxyType | proxyAuthTypes | maxRedirs | connectTimeout | connectTimeoutMs | dnsCacheTimeout
  | ftpResponseTimeout | lowSpeedLimit | lowSpeedTime | maxSendSpeedLarge | maxRecvSpeedLarge
  | sslVersion | useSsl | ftpFilemethod | sslVerifyHost
  deriving DecidableEq, Repr

/-- The fields that `CURB_BOOLEAN_SETTER` writes, and the two of the network policy. -/
inductive BooleanField where
  | proxyTunnel | fetchFileTime | sslVerifyPeer | headerInBody | useNetrc | followLocation
  | unrestrictedAuth | verbose | ignoreContentLength | allowProxy | allowUnixSocket
  deriving DecidableEq, Repr

/-- The attributes of a handle that a setup reads. -/
structure Attributes where
  opts : OptsKey → Option Text
  dnsServers : Option Text
  unixSocketPath : Option Text
  allowedHosts : Option (List Text)
  procs : ProcKey → Bool
  ports : PortField → Int
  longs : LongField → Int
  booleans : BooleanField → Bool
  networkPolicy : NetworkPolicy
  httpAuthTypes : Int
  timeoutMs : Int
  httpVersion : Int
  resolveMode : Int
  forbidReuseSet : Bool
  forbidReuse : Int

/-- `ruby_curl_easy_zero` (`curb_easy.c:1401-1466`). -/
def Attributes.zero : Attributes where
  opts := fun _ => none
  dnsServers := none
  unixSocketPath := none
  allowedHosts := none
  procs := fun _ => false
  ports := fun _ => 0
  longs := fun
    | .proxyType | .maxRedirs | .sslVersion | .useSsl | .ftpFilemethod => -1
    | .dnsCacheTimeout => 60
    | .sslVerifyHost => 2
    | .proxyAuthTypes | .connectTimeout | .connectTimeoutMs | .ftpResponseTimeout | .lowSpeedLimit
    | .lowSpeedTime | .maxSendSpeedLarge | .maxRecvSpeedLarge => 0
  booleans := fun field => field = .sslVerifyPeer
  networkPolicy := .policyNone
  httpAuthTypes := 0
  timeoutMs := 0
  httpVersion := 0
  resolveMode := 0
  forbidReuseSet := false
  forbidReuse := 0

/-! ## Setters -/

/-- What `http_auth_types=` is given: `nil`, one integer, or names. -/
inductive AuthTypes where
  | nil
  | mask (value : Int)
  | names (names : List Text)

/-- `CURL_HTTPAUTH_STR_TO_NUM`. -/
def curlHttpauthStrToNum (node : Text) : BitVec 64 :=
  if "basic".toList.isPrefixOf node then 1#64
  else if "digest_ie".toList.isPrefixOf node then 16#64
  else if "digest".toList.isPrefixOf node then 2#64
  else if "gssnegotiate".toList.isPrefixOf node then 4#64
  else if "ntlm".toList.isPrefixOf node then 8#64
  else if "anysafe".toList.isPrefixOf node then ~~~(1#64 ||| 16#64)
  else if "any".toList.isPrefixOf node then ~~~16#64
  else 0#64

/-- A call of a setter of an attribute. -/
inductive Setter where
  | object (key : OptsKey) (value : Option Text)
  | handler (key : ProcKey) (given : Bool)
  | port (field : PortField) (value : Option Int)
  | immed (field : LongField) (value : Option Int)
  | boolean (field : BooleanField) (value : Bool)
  | allowedHosts (hosts : ListArgument)
  | networkPolicy (policy : PolicyArgument)
  | httpAuthTypes (types : AuthTypes)
  | timeoutMs (value : Option Int)
  | httpVersion (value : Option Int)
  | resolveMode (mode : Option Text)

/-- The `msg` of each `CURB_IMMED_PORT_SETTER`. -/
def PortField.msg : PortField → String
  | .localPort | .proxyPort => "port"
  | .localPortRange => "port range"

/-- `NUM2INT`. -/
def num2int (value : Int) : Except RubyError Int := do
  let long ← Easy.num2long (some value)
  if long < -0x80000000 then rbRaise .rangeError s!"integer {long} too small to convert to 'int'".toList
  else if 0x7FFFFFFF < long then rbRaise .rangeError s!"integer {long} too big to convert to 'int'".toList
  else .ok long

/-- `CURB_IMMED_PORT_SETTER` (`curb_macros.h:127-143`). -/
def immedPort (field : PortField) : Option Int → Except RubyError Int
  | none => .ok 0
  | some value => do
      let port ← num2int value
      if 1 ≤ port ∧ port ≤ 0xFFFF then .ok port
      else
        let msg := field.msg
        rbRaise .argumentError s!"Invalid {msg} {port} (expected between 1 and 65535)".toList

/-- The `nilval` of each `CURB_IMMED_SETTER`. -/
def LongField.nilval : LongField → Int
  | .proxyType | .maxRedirs | .dnsCacheTimeout | .sslVersion | .useSsl | .ftpFilemethod => -1
  | .proxyAuthTypes | .connectTimeout | .connectTimeoutMs | .ftpResponseTimeout | .lowSpeedLimit
  | .lowSpeedTime | .maxSendSpeedLarge | .maxRecvSpeedLarge | .sslVerifyHost => 0

/-- A `long` as the field holds it: `proxy_type` is an `int` and `ssl_verify_host` a `char`. -/
def LongField.store (field : LongField) (value : Int) : Int :=
  match field with
  | .proxyType => value.bmod 0x100000000
  | .sslVerifyHost => value.bmod 0x100
  | _ => value

/-- `CURB_IMMED_SETTER` (`curb_macros.h:103-113`). -/
def immedLong (field : LongField) : Option Int → Except RubyError Int
  | none => .ok field.nilval
  | some value => (Easy.num2long (some value)).map field.store

/-- `ruby_curl_easy_http_auth_types_set` (`curb_easy.c:2578-2610`). -/
def httpAuthTypesSet : AuthTypes → Except RubyError Int
  | .nil => .ok 0
  | .mask value => Easy.num2long (some value)
  | .names names =>
      .ok (names.foldl (fun mask node => mask ||| curlHttpauthStrToNum node) 0#64).toInt

/-- `ruby_curl_easy_timeout_ms_set` (`curb_easy.c:2730-2741`), as a `long`; `timeout=` stores its
seconds in the same field. -/
def timeoutMsSet : Option Int → Except RubyError Int
  | none => .ok 0
  | some value =>
      if value ≤ 0 then .ok 0
      else if value < 0x10000000000000000 then .ok (value.bmod 0x10000000000000000)
      else rbRaise .rangeError "bignum too big to convert into 'unsigned long'".toList

/-- `ruby_curl_easy_http_version_set` (`curb_easy.c:3538-3553`). -/
def httpVersionSet : Option Int → Except RubyError Int
  | none => .ok 0
  | some value => Easy.num2long (some value)

/-- `ruby_curl_easy_resolve_mode_set` (`curb_easy.c:3407-3432`); what is no symbol is `none`. -/
def resolveModeSet : Option Text → Except RubyError Int
  | none => rbRaise .typeError "Must pass a symbol".toList
  | some mode =>
      if mode = "auto".toList then .ok 0
      else if mode = "ipv4".toList then .ok 1
      else if mode = "ipv6".toList then .ok 2
      else rbRaise .argumentError "Must set to one of :auto, :ipv4, :ipv6".toList

/-- `ruby_curl_easy_network_policy_set` (`curb_easy.c:3463-3495`). -/
def networkPolicySet (attributes : Attributes) : PolicyArgument → Except RubyError Attributes
  | .nil => .ok { attributes with networkPolicy := .policyNone }
  | .other => rbRaise .typeError "network_policy must be a Symbol".toList
  | .symbol name =>
      let booleans := Function.update attributes.booleans .allowProxy false
      if name = "none".toList then
        .ok { attributes with networkPolicy := .policyNone, booleans := booleans }
      else if name = "public".toList then
        .ok { attributes with networkPolicy := .policyPublic, booleans := booleans }
      else rbRaise .argumentError "network_policy must be one of :none, :public".toList

/-- What a setter does to the attributes, or its error. -/
def Setter.run (attributes : Attributes) : Setter → Except RubyError Attributes
  | .object key value =>
      .ok { attributes with opts := Function.update attributes.opts key value }
  | .handler key given =>
      .ok { attributes with procs := Function.update attributes.procs key given }
  | .port field value => do
      let port ← immedPort field value
      .ok { attributes with ports := Function.update attributes.ports field port }
  | .immed field value => do
      let long ← immedLong field value
      .ok { attributes with longs := Function.update attributes.longs field long }
  | .boolean field value =>
      .ok { attributes with booleans := Function.update attributes.booleans field value }
  | .allowedHosts hosts => do
      let stored ← curbNormalizeHostList hosts
      .ok { attributes with allowedHosts := stored }
  | .networkPolicy policy => networkPolicySet attributes policy
  | .httpAuthTypes types => do
      let mask ← httpAuthTypesSet types
      .ok { attributes with httpAuthTypes := mask }
  | .timeoutMs value => do
      let timeout ← timeoutMsSet value
      .ok { attributes with timeoutMs := timeout }
  | .httpVersion value => do
      let version ← httpVersionSet value
      .ok { attributes with httpVersion := version }
  | .resolveMode mode => do
      let resolveMode ← resolveModeSet mode
      .ok { attributes with resolveMode := resolveMode }

/-- A `curl_easy_setopt`. -/
abbrev NativeWrite := Write NativeOption Value

/-- The options of a setup that `setopt` gives to libcurl itself. What `to_i` makes of the value is an
integer. -/
inductive SetOpt where
  | dohUrl (value : Option Text)
  | unixSocketPath (value : Option Text)
  | dnsServers (value : Option Text)
  | httpVersion (value : Option Int)
  | header (value : Int)
  | noprogress (value : Int)
  | ftpResponseTimeout (value : Int)
  | ftpFilemethod (value : Int)
  | forbidReuse (value : Option Int)
  | maxSendSpeedLarge (value : Option Int)
  | maxRecvSpeedLarge (value : Option Int)

/-- A string option of `setopt`: the attribute has been stored when `StringValueCStr` raises. -/
def setOptString (option : NativeOption) : Option Text → List NativeWrite
  | none => [⟨option, .null⟩]
  | some str =>
      match stringValueCStr str with
      | .ok cstr => [⟨option, .string cstr⟩]
      | .error _ => []

/-- A number option of `setopt`, with what it does to the attributes. -/
def setOptLong (attributes : Attributes) (option : NativeOption) (value : Option Int)
    (stores : Int → Attributes) : Attributes × List NativeWrite :=
  match Easy.num2long value with
  | .ok long => (stores long, [⟨option, .long long⟩])
  | .error _ => (attributes, [])

/-- What `ruby_curl_easy_set_opt` does to the attributes and gives to libcurl. -/
def SetOpt.run (attributes : Attributes) : SetOpt → Attributes × List NativeWrite
  | .dohUrl value =>
      ({ attributes with opts := Function.update attributes.opts .dohUrl value },
        setOptString .dohUrl value)
  | .unixSocketPath value =>
      ({ attributes with unixSocketPath := value }, setOptString .unixSocketPath value)
  | .dnsServers value => ({ attributes with dnsServers := value }, setOptString .dnsServers value)
  | .httpVersion value =>
      setOptLong attributes .httpVersion (some (value.getD 0)) fun long =>
        { attributes with httpVersion := long }
  | .header value => setOptLong attributes .header (some value) fun _ => attributes
  | .noprogress value => setOptLong attributes .noprogress (some value) fun _ => attributes
  | .ftpResponseTimeout value =>
      setOptLong attributes .ftpResponseTimeout (some value) fun long =>
        { attributes with longs := Function.update attributes.longs .ftpResponseTimeout long }
  | .ftpFilemethod value =>
      setOptLong attributes .ftpFilemethod (some value) fun long =>
        { attributes with longs := Function.update attributes.longs .ftpFilemethod long }
  | .forbidReuse value =>
      setOptLong attributes .forbidReuse value fun long =>
        { attributes with forbidReuse := long, forbidReuseSet := true }
  | .maxSendSpeedLarge value =>
      setOptLong attributes .maxSendSpeedLarge value fun _ => attributes
  | .maxRecvSpeedLarge value =>
      setOptLong attributes .maxRecvSpeedLarge value fun _ => attributes

/-! ## The setup -/

/-- A `curl_easy_setopt` of the setup body, and whether the branch it stands in is taken. -/
structure Call where
  option : NativeOption
  value : Value
  taken : Bool

def Call.write (call : Call) : NativeWrite := ⟨call.option, call.value⟩

def setopt (option : NativeOption) (value : Value) : Call := ⟨option, value, true⟩

def setoptIf (taken : Bool) (option : NativeOption) (value : Value) : Call := ⟨option, value, taken⟩

section
variable (libcurl : Libcurl) (build : Build) (attributes : Attributes)

/-- `rbce->network_policy == CURB_NETWORK_POLICY_PUBLIC`. -/
def isPublic : Bool := attributes.networkPolicy = .policyPublic

/-- `public_policy_disables_proxy`. -/
def publicPolicyDisablesProxy : Bool := isPublic attributes && !attributes.booleans .allowProxy

/-- The URL and the resolver (`curb_easy.c:3879-3888`). -/
def urlCalls (url : Text) : List Call :=
  [setopt .url (text (some url)), setopt .dohUrl (text (attributes.opts .dohUrl))]

/-- The servers, the allowlist and the policy (`curb_easy.c:3890-3938`). -/
def policyCalls : List Call :=
  let isPublic := isPublic attributes
  let allowlist := attributes.allowedHosts.isSome
  [setopt .dnsServers (text attributes.dnsServers),
    setopt .prereqFunction (if allowlist then .function .hostAllowlistPrereq else .null),
    setopt .prereqData (if allowlist then .rbce else .null),
    setopt .openSocketFunction (if isPublic then .function .publicNetworkOpensocket else .null),
    setopt .openSocketData (if isPublic then .rbce else .null),
    setopt .freshConnect (flag isPublic),
    setopt .forbidReuse (.long (if isPublic then 1
      else if attributes.forbidReuseSet then attributes.forbidReuse else 0)),
    setoptIf (isPublic && !attributes.booleans .allowUnixSocket) .unixSocketPath .null]

/-- `CURLOPT_USERPWD` of a string, or of `NULL`. -/
def userpwdCalls (taken : Bool) (userpwd : Option Text) : List Call :=
  let halves := (userpwd.map fun str => libcurl.userpwd (cString str)).getD (none, none)
  [setoptIf taken .username (text halves.1), setoptIf taken .password (text halves.2)]

/-- The interface and the credentials (`curb_easy.c:3940-3969`). -/
def authCalls : List Call :=
  [setopt .interface (text (attributes.opts .interfaceHm)),
    setopt .username (text (attributes.opts .username)),
    setopt .password (text (attributes.opts .password))] ++
  userpwdCalls libcurl ((attributes.opts .userpwd).isSome ||
    (attributes.opts .username).isNone && (attributes.opts .password).isNone)
    (attributes.opts .userpwd)

/-- The proxy (`curb_easy.c:3971-3993`). -/
def proxyCalls : List Call :=
  let disabled := publicPolicyDisablesProxy attributes
  [setopt .proxy (if disabled then .string [] else text (attributes.opts .proxyUrl)),
    setopt .proxyUserpwd (if disabled then .null else text (attributes.opts .proxypwd)),
    setopt .noproxy (text (attributes.opts .noproxy))]

/-- The handlers (`curb_easy.c:3998-4053`). -/
def handlerCalls : List Call :=
  [setopt .writeFunction (.function (if attributes.procs .bodyProc then .procDataHandlerBody
      else .defaultBodyHandler)),
    setopt .writeData .rbce,
    setopt .headerFunction (.function (if attributes.procs .headerProc then .procDataHandlerHeader
      else .defaultHeaderHandler)),
    setopt .headerData .rbce,
    setoptIf (attributes.opts .encoding).isSome .encoding (text (attributes.opts .encoding)),
    setoptIf (attributes.procs .progressProc) .xferInfoFunction (.function .procXferinfoHandler),
    setopt .xferInfoData .rbce,
    setopt .noprogress (flag (!attributes.procs .progressProc)),
    setopt .debugFunction (if attributes.procs .debugProc then .function .procDebugHandler
      else .null),
    setopt .debugData .rbce,
    setopt .verbose (flag (attributes.procs .debugProc || attributes.booleans .verbose))]

/-- The general options (`curb_easy.c:4055-4112`); a second is 1000 milliseconds to libcurl. -/
def generalCalls : List Call :=
  [setopt .header (flag (attributes.booleans .headerInBody)),
    setopt .followLocation (flag (attributes.booleans .followLocation)),
    setoptIf (!build.clampsMaxRedirs || 0 ≤ attributes.longs .maxRedirs) .maxRedirs
      (.long (attributes.longs .maxRedirs)),
    setopt .httpProxyTunnel
      (flag (!publicPolicyDisablesProxy attributes && attributes.booleans .proxyTunnel)),
    setopt .filetime (flag (attributes.booleans .fetchFileTime)),
    setopt .sslVerifyPeer (flag (attributes.booleans .sslVerifyPeer)),
    setopt .sslVerifyHost (.long (attributes.longs .sslVerifyHost)),
    setopt .netrc (flag (attributes.booleans .useNetrc)),
    setopt .unrestrictedAuth (flag (attributes.booleans .unrestrictedAuth)),
    setopt .timeoutMs (.long attributes.timeoutMs),
    setopt .connectTimeoutMs (.long (1000 * attributes.longs .connectTimeout)),
    setopt .connectTimeoutMs (.long (attributes.longs .connectTimeoutMs)),
    setopt .dnsCacheTimeout (.long (attributes.longs .dnsCacheTimeout)),
    setopt .ignoreContentLength (flag (attributes.booleans .ignoreContentLength)),
    setopt .ipResolve (.long attributes.resolveMode),
    setopt .httpVersion (.long attributes.httpVersion),
    setopt .ftpResponseTimeout (.long (attributes.longs .ftpResponseTimeout)),
    setopt .lowSpeedLimit (.long (attributes.longs .lowSpeedLimit)),
    setopt .lowSpeedTime (.long (attributes.longs .lowSpeedTime)),
    setopt .maxRecvSpeedLarge (.long (attributes.longs .maxRecvSpeedLarge)),
    setopt .maxSendSpeedLarge (.long (attributes.longs .maxSendSpeedLarge))]

/-- The ports, the type of the proxy and the authentication types (`curb_easy.c:4114-4163`). -/
def portCalls : List Call :=
  let localPort := attributes.ports .localPort
  let localPortRange := attributes.ports .localPortRange
  let proxyType := attributes.longs .proxyType
  [setoptIf (0 < attributes.ports .proxyPort) .proxyPort (.long (attributes.ports .proxyPort)),
    setoptIf (0 < localPort) .localPort (.long localPort),
    setoptIf (0 < localPort && 0 < localPortRange) .localPortRange (.long localPortRange),
    setoptIf (proxyType ≠ -2) .proxyType (.long (if proxyType = -1 then 0 else proxyType)),
    setoptIf (attributes.httpAuthTypes ≠ 0) .httpAuth (.long attributes.httpAuthTypes),
    setoptIf (attributes.longs .proxyAuthTypes ≠ 0) .proxyAuth
      (.long (attributes.longs .proxyAuthTypes))]

/-- The certificates, TLS, the FTP method and the user agent (`curb_easy.c:4186-4230`). -/
def tlsCalls : List Call :=
  let cert := attributes.opts .cert
  let cacert := attributes.opts .cacert
  [setoptIf (cert.isSome && (attributes.opts .certtype).isSome) .sslCertType
      (text (attributes.opts .certtype)),
    setoptIf cert.isSome .sslCert (text cert),
    setoptIf (cert.isSome && (attributes.opts .certpassword).isSome) .sslCertPasswd
      (text (attributes.opts .certpassword)),
    setoptIf (cert.isSome && (attributes.opts .certKey).isSome) .sslKey
      (text (attributes.opts .certKey)),
    setoptIf (cacert.isSome || build.curlConfigCa.isSome) .caInfo (text (cacert.or build.curlConfigCa)),
    setoptIf (0 < attributes.longs .sslVersion) .sslVersion (.long (attributes.longs .sslVersion)),
    setoptIf (0 < attributes.longs .useSsl) .ftpSsl (.long (attributes.longs .useSsl)),
    setoptIf (0 < attributes.longs .ftpFilemethod) .ftpFilemethod
      (.long (attributes.longs .ftpFilemethod)),
    setoptIf (attributes.opts .useragent).isSome .userAgent (text (attributes.opts .useragent))]

/-- The calls of a setup that does not raise, in their order. -/
def calls (url : Text) : List Call :=
  urlCalls attributes url ++ policyCalls attributes ++ authCalls libcurl attributes ++
    proxyCalls attributes ++ handlerCalls attributes ++ generalCalls build attributes ++
    portCalls attributes ++ tlsCalls build attributes

/-- The writes of the calls whose branch is taken. -/
def writes (calls : List Call) : List NativeWrite := (calls.filter (·.taken)).map Call.write

/-- `ruby_curl_easy_setup_body`: what it gives to libcurl, and how it ends. -/
def setup : List NativeWrite × Except RubyError Unit :=
  match attributes.opts .url with
  | none => ([], rbRaise .curlError "No URL supplied".toList)
  | some url =>
      if isPublic attributes && attributes.dnsServers.isSome then
        (writes (urlCalls attributes url), rbRaise .unsafeDestinationError
          "DNS server overrides are disabled by public network policy".toList)
      else (writes (calls libcurl build attributes url), .ok ())

end

/-! ## Histories -/

variable (libcurl : Libcurl) (build : Build)

/-- A handle: its attributes and what libcurl holds. -/
structure Handle where
  attributes : Attributes
  native : NativeOption → Value

/-- What may happen to a handle. -/
inductive Step where
  | set (setter : Setter)
  | setopt (option : SetOpt)
  /-- A setup, where a value that is no string, an entry of a list or the memory may end it after so
  many options. -/
  | setup (stops : Option Nat)

/-- What a step does to the attributes; a setter that raises does nothing. -/
def Step.attributes (attributes : Attributes) : Step → Attributes
  | .set setter =>
      match setter.run attributes with
      | .ok attributes' => attributes'
      | .error _ => attributes
  | .setopt option => (option.run attributes).1
  | .setup _ => attributes

/-- What a step gives to libcurl. -/
def Step.writes (attributes : Attributes) : Step → List NativeWrite
  | .set _ => []
  | .setopt option => (option.run attributes).2
  | .setup none => (Setup.setup libcurl build attributes).1
  | .setup (some stops) => (Setup.setup libcurl build attributes).1.take stops

def Handle.step (handle : Handle) (step : Step) : Handle where
  attributes := step.attributes handle.attributes
  native := applyWrites libcurl.accepts handle.native (step.writes libcurl build handle.attributes)

def Handle.run (handle : Handle) (history : List Step) : Handle :=
  history.foldl (Handle.step libcurl build) handle

/-- A new handle. -/
def Handle.new : Handle := ⟨.zero, libcurl.default⟩

/-- A new handle that has been given these attributes. The path of a Unix socket is the one that only
`setopt` gives to libcurl. -/
def Handle.fresh (attributes : Attributes) : Handle where
  attributes := attributes
  native := applyWrites libcurl.accepts libcurl.default
    (match attributes.unixSocketPath with
    | none => []
    | some path => setOptString .unixSocketPath (some path))

end Curb.Setup

import Curb.Easy.Verbs

/-!
# `setopt`

`ruby_curl_easy_set_opt` (`ext/curb_easy.c:5610-5999`) with every option it knows. An option is stored in
`rbce->opts` or in a field, given to libcurl at once, or both, and the conversion of its value stands
between the two or before them. What libcurl makes of an option it is given is a parameter.
-/

namespace Curb.SetOpt
open Curb.Misc Curb.Ruby

/-! ## Ruby values -/

/-- What the conversions of the C API make of an object. -/
structure Conversions where
  /-- `NUM2LONG` of its `to_i`. -/
  toLong : Except RubyError Int
  num2long : Except RubyError Int
  num2ll : Except RubyError Int
  /-- `StringValue`. -/
  stringValue : Except RubyError Text
  /-- `StringValue` of its `to_s`, if it responds to that. -/
  toS : Option (Except RubyError Text)

/-- A Ruby value. `text` is what `to_s` makes of it. -/
inductive RubyValue where
  | nil
  | yes
  | no
  | integer (value : Int)
  | text (text : Text)
  | array (items : List RubyValue) (text : Text)
  /-- An `IO`, with the file that `GetOpenFile` and `rb_io_stdio_file` find in it and its descriptor, or what
  is raised where it is closed. -/
  | file (file : Except RubyError ObjectId) (descriptor : Except RubyError Int) (text : Text)
  /-- Any other object. -/
  | object (object : ObjectId) (conversions : Conversions)

namespace RubyValue

/-- How the messages name a value of this class. -/
def className : RubyValue → String
  | .nil => "nil"
  | .yes => "true"
  | .no => "false"
  | .integer _ => "Integer"
  | .text _ => "String"
  | .array _ _ => "Array"
  | .file _ _ _ => "File"
  | .object _ _ => "Object"

def noConversion {α : Type} (value : RubyValue) (target : String) : Except RubyError α :=
  let name := value.className
  rbRaise .typeError s!"no implicit conversion of {name} into {target}".toList

/-- `StringValue`. -/
def stringValue : RubyValue → Except RubyError Text
  | .text str => .ok str
  | .object _ conversions => conversions.stringValue
  | value => value.noConversion "String"

/-- `StringValueCStr`. -/
def stringValueCStr (value : RubyValue) : Except RubyError Text := value.stringValue.bind Ruby.stringValueCStr

/-- `NUM2LONG`. -/
def num2long : RubyValue → Except RubyError Int
  | .nil => Easy.num2long none
  | .integer value => Easy.num2long (some value)
  | .object _ conversions => conversions.num2long
  | value => value.noConversion "Integer"

/-- `NUM2LL`. -/
def num2ll : RubyValue → Except RubyError Int
  | .nil => rbRaise .typeError "no implicit conversion from nil".toList
  | .integer value =>
      if -0x8000000000000000 ≤ value ∧ value < 0x8000000000000000 then .ok value
      else rbRaise .rangeError "bignum too big to convert into 'long long'".toList
  | .object _ conversions => conversions.num2ll
  | value => value.noConversion "Integer"

def noToI {α : Type} (value : RubyValue) : Except RubyError α :=
  let name := value.className
  rbRaise .noMethodError s!"undefined method 'to_i' for an instance of {name}".toList

/-- `ruby_curl_easy_option_to_long`. -/
def toLong : RubyValue → Except RubyError Int
  | .yes => .ok 1
  | .no => .ok 0
  | .nil => .ok 0
  | .integer value => Easy.num2long (some value)
  | .text str => Easy.num2long (some (Easy.toI str))
  | .file _ descriptor _ => descriptor.bind fun value => Easy.num2long (some value)
  | .object _ conversions => conversions.toLong
  | value => value.noToI

/-- `Check_Type(val, T_FILE)`, `GetOpenFile` and `rb_io_stdio_file`. -/
def openFile : RubyValue → Except RubyError ObjectId
  | .file opened _ _ => opened
  | value =>
      let name := value.className
      rbRaise .typeError s!"wrong argument type {name} (expected File)".toList

/-- The string of a body (`curb_easy.c:2091-2101`). -/
def bodyString : RubyValue → Except RubyError Text
  | .nil => .ok []
  | .yes => .ok "true".toList
  | .no => .ok "false".toList
  | .integer value => .ok (toString value).toList
  | .text str => .ok str
  | .array _ str => .ok str
  | .file _ _ str => .ok str
  | .object _ conversions =>
      conversions.toS.getD (rbRaise .runtimeError "post data must respond_to .to_s".toList)

end RubyValue

/-! ## Options -/

/-- The options of libcurl that `setopt` names, and those it gives to libcurl under another name. -/
inductive CurlOption where
  | verbose | followlocation | url | customrequest | httpVersion | proxy | interface
  | header | noprogress | nosignal | pathAsIs | pipewait | httpget | nobody | post | maxconnects
  | postfields | postfieldsize | copypostfields | userpwd | proxyuserpwd | noproxy
  | cookie | cookiefile | cookiejar | requestTarget | dohUrl | tcpNodelay
  | dirlistonly | ftpport | append | ftpUseEpsv | ftpUseEprt | ftpUsePret | ftpCreateMissingDirs
  | ftpResponseTimeout | ftpAlternativeToUser | ftpSkipPasvIp | ftpsslauth | ftpSslCcc | ftpAccount
  | ftpFilemethod | range | resumeFrom | failonerror | sslCipherList | forbidReuse
  | gssapiDelegation | unixSocketPath | dnsServers | maxSendSpeedLarge | maxRecvSpeedLarge
  | maxfilesize | maxfilesizeLarge | tcpKeepalive | tcpKeepidle | tcpKeepintvl | haproxyprotocol
  | stderr | protocols | redirProtocols | protocolsStr | redirProtocolsStr | sslSessionidCache
  | cookielist | proxySslVerifyhost | dohSslVerifypeer | dohSslVerifyhost | dohSslVerifystatus
  | resolve | connectTo
  /-- Any other number. -/
  | other (number : Int)
  deriving DecidableEq, Repr

/-- The keys of `rbce->opts` that `setopt` writes. -/
inductive OptsKey where
  | url | proxyUrl | interfaceHm | userpwd | proxypwd | noproxy | cookies | cookiefile | cookiejar
  | dohUrl | ftpCreateMissingDirs | unixSocketPath | dnsServers | stderrIo | resolve | connectTo
  | postdataBuffer
  deriving DecidableEq, Repr

/-- The lists that are kept for libcurl. -/
inductive ListField where
  | curlResolve
  | curlConnectTo
  deriving DecidableEq, Repr

def ListField.option : ListField → CurlOption
  | .curlResolve => .resolve
  | .curlConnectTo => .connectTo

def ListField.key : ListField → OptsKey
  | .curlResolve => .resolve
  | .curlConnectTo => .connectTo

/-- How the messages name a list. -/
def ListField.name : ListField → String
  | .curlResolve => "resolve"
  | .curlConnectTo => "connect-to"

/-- What libcurl is given. -/
inductive NativeValue where
  | null
  | string (text : Text)
  /-- A buffer with its length. -/
  | data (text : Text)
  | long (value : Int)
  | file (file : ObjectId)
  | slist (entries : List Text)

/-- libcurl: what `curl_easy_setopt` does to it, and whether `curl_slist_append` finds memory for one
more entry. -/
structure Libcurl (ν : Type) where
  setopt : CurlOption → NativeValue → ν → ν
  append : List Text → Bool

/-- A handle, as far as `setopt` goes. -/
structure Handle (ν : Type) where
  opts : OptsKey → Option RubyValue
  verbose : Bool
  followLocation : Bool
  httpVersion : Int
  ftpResponseTimeout : Int
  ftpFilemethod : Int
  forbidReuse : Int
  forbidReuseSet : Bool
  cookielistEngineEnabled : Bool
  nativeActive : Nat
  /-- The retained lists; `NULL` is the empty one. -/
  lists : ListField → List Text
  native : ν

section
variable {ν : Type} (libcurl : Libcurl ν)

abbrev Setting (ν : Type) := EStateM RubyError (Handle ν)

/-- A conversion. -/
def convert {α : Type} : Except RubyError α → Setting ν α
  | .ok a => pure a
  | .error error => throw error

/-- `rb_hash_aset(rbce->opts, ..)`. -/
def store (key : OptsKey) (value : RubyValue) : Setting ν Unit :=
  modify fun handle => { handle with opts := Function.update handle.opts key (some value) }

/-- `rb_easy_del`. -/
def delete (key : OptsKey) : Setting ν Unit :=
  modify fun handle => { handle with opts := Function.update handle.opts key none }

/-- `curl_easy_setopt`. -/
def setopt (option : CurlOption) (value : NativeValue) : Setting ν Unit :=
  modify fun handle => { handle with native := libcurl.setopt option value handle.native }

/-! ## Families of options -/

/-- `CURB_BOOLEAN_SETTER`: what the field is set to. -/
def truthy : RubyValue → Bool
  | .nil | .no => false
  | _ => true

/-- `StringValueCStr`, without a test for `nil`. -/
def setString (option : CurlOption) (value : RubyValue) : Setting ν Unit := do
  let str ← convert value.stringValueCStr
  setopt libcurl option (.string str)

/-- `NIL_P(val) ? NULL : StringValueCStr(val)`. -/
def setStringOrNull (option : CurlOption) (value : RubyValue) : Setting ν Unit :=
  match value with
  | .nil => setopt libcurl option .null
  | value => setString libcurl option value

/-- The value is stored, and then converted. -/
def storeString (key : OptsKey) (option : CurlOption) (value : RubyValue) : Setting ν Unit := do
  store key value
  setStringOrNull libcurl option value

/-- The conversion is `toLong`, `NUM2LONG` or `NUM2LL`. -/
def setLong (option : CurlOption) (long : Except RubyError Int) : Setting ν Unit := do
  let long ← convert long
  setopt libcurl option (.long long)

/-- A number that is kept in a field, too. -/
def setField (option : CurlOption) (long : Except RubyError Int) (field : Handle ν → Int → Handle ν) :
    Setting ν Unit := do
  let long ← convert long
  modify fun handle => field handle long
  setopt libcurl option (.long long)

/-! ## Bodies, files and cookies -/

/-- `ruby_curl_easy_post_body_set_with_mode_body`, where `nil` does not ask for a `GET`. -/
def postBodySetBody (body : RubyValue) : Setting ν Unit :=
  match body with
  | .nil => do
      delete .postdataBuffer
      setopt libcurl .postfields .null
      setopt libcurl .postfieldsize (.long 0)
  | body => do
      let str ← convert body.bodyString
      store .postdataBuffer (.text str)
      setopt libcurl .post (.long 1)
      setopt libcurl .postfieldsize (.long str.length)
      setopt libcurl .copypostfields (.data str)

/-- `ruby_curl_easy_post_body_set_with_mode`. -/
def postBodySet (body : RubyValue) : Setting ν Unit := do
  modify fun handle => { handle with nativeActive := handle.nativeActive + 1 }
  ensuring (postBodySetBody libcurl body)
    (modify fun handle => { handle with nativeActive := handle.nativeActive - 1 })

def setStderr (value : RubyValue) : Setting ν Unit := do
  let file ← convert value.openFile
  setopt libcurl .stderr (.file file)
  store .stderrIo value

/-- The strings that are commands to the cookie engine. -/
def cookieCommands : List Text := ["ALL".toList, "SESS".toList, "FLUSH".toList, "RELOAD".toList]

def setCookielist (value : RubyValue) : Setting ν Unit := do
  let str ← convert value.stringValueCStr
  setopt libcurl .cookielist (.string str)
  if str ∈ cookieCommands then pure ()
  else modify fun handle => { handle with cookielistEngineEnabled := true }

/-! ## Lists -/

/-- A list that is retained is taken from libcurl and freed (`curb_easy.c:1243-1267`). -/
def Handle.clearList (handle : Handle ν) (field : ListField) : Handle ν :=
  if handle.lists field = [] then handle
  else { handle with
    native := libcurl.setopt field.option .null handle.native
    lists := Function.update handle.lists field [] }

/-- The entries of an array are appended. -/
def appendItems (field : ListField) : List RubyValue → List Text → Except RubyError (List Text)
  | [], list => .ok list
  | item :: rest, list => do
      let str ← item.stringValueCStr
      if libcurl.append list then appendItems field rest (list ++ [str])
      else
        let name := field.name
        rbRaise .noMemoryError s!"Failed to append to {name} list".toList

/-- The list of a value. -/
def listOf (field : ListField) : RubyValue → Except RubyError (List Text)
  | .nil => .ok []
  | .array items _ => appendItems libcurl field items []
  | value => do
      let str ← value.stringValueCStr
      if libcurl.append [] then .ok [str]
      else
        let name := field.name
        rbRaise .noMemoryError s!"Failed to create {name} list".toList

def setList (field : ListField) (value : RubyValue) : Setting ν Unit := do
  modify fun handle => handle.clearList libcurl field
  let list ← convert (listOf libcurl field value)
  modify fun handle => { handle with lists := Function.update handle.lists field list }
  store field.key value
  setopt libcurl field.option (if list = [] then .null else .slist list)

/-! ## `ruby_curl_easy_set_opt` -/

/-- `ruby_curl_easy_set_opt`. The build has every optional option of libcurl. -/
def setOpt (option : CurlOption) (value : RubyValue) : Setting ν Unit :=
  match option with
  | .verbose => modify fun handle => { handle with verbose := truthy value }
  | .followlocation => modify fun handle => { handle with followLocation := truthy value }
  | .url => store .url value
  | .customrequest => setStringOrNull libcurl .customrequest value
  | .httpVersion =>
      let long := match value with
        | .nil => .ok 0
        | value => value.num2long
      setField libcurl .httpVersion long fun handle long => { handle with httpVersion := long }
  | .proxy => store .proxyUrl value
  | .interface => store .interfaceHm value
  | .header => setLong libcurl .header value.toLong
  | .noprogress => setLong libcurl .noprogress value.toLong
  | .nosignal => setLong libcurl .nosignal value.toLong
  | .pathAsIs => setLong libcurl .pathAsIs value.toLong
  | .pipewait => setLong libcurl .pipewait value.toLong
  | .httpget => setLong libcurl .httpget value.toLong
  | .nobody => setLong libcurl .nobody value.toLong
  | .post =>
      let on := match value with
        | .yes => 1
        | _ => 0
      setopt libcurl .post (.long on)
  | .maxconnects => setLong libcurl .maxconnects value.num2long
  | .postfields => postBodySet libcurl value
  | .userpwd => store .userpwd value
  | .proxyuserpwd => store .proxypwd value
  | .noproxy => store .noproxy value
  | .cookie => store .cookies value
  | .cookiefile => store .cookiefile value
  | .cookiejar => store .cookiejar value
  | .requestTarget => setStringOrNull libcurl .requestTarget value
  | .dohUrl => storeString libcurl .dohUrl .dohUrl value
  | .tcpNodelay => setLong libcurl .tcpNodelay value.num2long
  | .dirlistonly => setLong libcurl .dirlistonly value.toLong
  | .ftpport => setStringOrNull libcurl .ftpport value
  | .append => setLong libcurl .append value.toLong
  | .ftpUseEpsv => setLong libcurl .ftpUseEpsv value.toLong
  | .ftpUseEprt => setLong libcurl .ftpUseEprt value.toLong
  | .ftpUsePret => setLong libcurl .ftpUsePret value.toLong
  | .ftpCreateMissingDirs => do
      store .ftpCreateMissingDirs value
      setLong libcurl .ftpCreateMissingDirs value.toLong
  | .ftpResponseTimeout =>
      setField libcurl .ftpResponseTimeout value.toLong fun handle long =>
        { handle with ftpResponseTimeout := long }
  | .ftpAlternativeToUser => setStringOrNull libcurl .ftpAlternativeToUser value
  | .ftpSkipPasvIp => setLong libcurl .ftpSkipPasvIp value.toLong
  | .ftpsslauth => setLong libcurl .ftpsslauth value.toLong
  | .ftpSslCcc => setLong libcurl .ftpSslCcc value.toLong
  | .ftpAccount => setStringOrNull libcurl .ftpAccount value
  | .ftpFilemethod =>
      setField libcurl .ftpFilemethod value.toLong fun handle long => { handle with ftpFilemethod := long }
  | .range => setString libcurl .range value
  | .resumeFrom => setLong libcurl .resumeFrom value.num2long
  | .failonerror => setLong libcurl .failonerror value.num2long
  | .sslCipherList => setString libcurl .sslCipherList value
  | .forbidReuse =>
      setField libcurl .forbidReuse value.num2long fun handle long =>
        { handle with forbidReuse := long, forbidReuseSet := true }
  | .gssapiDelegation => setLong libcurl .gssapiDelegation value.num2long
  | .unixSocketPath => storeString libcurl .unixSocketPath .unixSocketPath value
  | .dnsServers => storeString libcurl .dnsServers .dnsServers value
  | .maxSendSpeedLarge => setLong libcurl .maxSendSpeedLarge value.num2ll
  | .maxRecvSpeedLarge => setLong libcurl .maxRecvSpeedLarge value.num2ll
  | .maxfilesize => setLong libcurl .maxfilesize value.num2long
  | .maxfilesizeLarge => setLong libcurl .maxfilesizeLarge value.num2ll
  | .tcpKeepalive => setLong libcurl .tcpKeepalive value.num2long
  | .tcpKeepidle => setLong libcurl .tcpKeepidle value.num2long
  | .tcpKeepintvl => setLong libcurl .tcpKeepintvl value.num2long
  | .haproxyprotocol => setLong libcurl .haproxyprotocol value.num2long
  | .stderr => setStderr libcurl value
  | .protocols => setLong libcurl .protocols value.num2long
  | .redirProtocols => setLong libcurl .redirProtocols value.num2long
  | .protocolsStr => setStringOrNull libcurl .protocolsStr value
  | .redirProtocolsStr => setStringOrNull libcurl .redirProtocolsStr value
  | .sslSessionidCache => setLong libcurl .sslSessionidCache value.num2long
  | .cookielist => setCookielist libcurl value
  | .proxySslVerifyhost => setLong libcurl .proxySslVerifyhost value.num2long
  | .dohSslVerifypeer => setLong libcurl .dohSslVerifypeer value.num2long
  | .dohSslVerifyhost => setLong libcurl .dohSslVerifyhost value.num2long
  | .dohSslVerifystatus => setLong libcurl .dohSslVerifystatus value.num2long
  | .resolve => setList libcurl .curlResolve value
  | .connectTo => setList libcurl .curlConnectTo value
  | .postfieldsize | .copypostfields | .other _ =>
      throw ⟨.typeError, "Curb unsupported option".toList⟩

end

end Curb.SetOpt

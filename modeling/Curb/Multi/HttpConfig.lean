import Curb.Easy.FormBody
import Curb.Easy.Verbs

/-!
# Request configurations of `Multi.http`

`add_free_handle` (`lib/curl/multi.rb:110-163`) sets a configuration up on a handle, which may be one that has
run another request. It replaces what the configuration names and resets nothing.
-/

namespace Curb.Http
open Curb.Misc Curb.Ruby Curb.Easy

/-- The callbacks a configuration may name. -/
inductive CallbackKey where
  | onProgress | onDebug | onFailure | onSuccess | onRedirect | onMissing | onBody | onHeader
  deriving DecidableEq, Repr

/-- `:method`, with what it takes from the configuration. -/
inductive ConfigMethod where
  | post (postFields : List (Bytes × Bytes))
  | put (putData : Option PutObject)
  | head
  | delete
  | get
  /-- Anything else, and `nil`. -/
  | other

/-- One of the remaining options, each a setter of the handle. -/
inductive OptionSetter where
  | postBody (body : Option (Except RubyError Text))
  | putData (data : Option PutObject)
  | head (on : Bool)
  | delete (on : Bool)
  /-- A setter of an attribute, which has no part in the method of the request, with the value it stores or
  what it raises. -/
  | setter (name : Text) (value : Except RubyError ObjectId)

/-- A request configuration. -/
structure Config where
  url : Option Text
  callbacks : CallbackKey → Option ObjectId
  method : ConfigMethod
  headers : List (Text × HeaderValue)
  options : List OptionSetter

/-- `{ url: url }`. -/
def Config.ofUrl (url : Text) : Config := ⟨some url, fun _ => none, .other, [], []⟩

/-- A handle, as far as configurations go. -/
structure Handle where
  url : Option Text
  callbacks : CallbackKey → Option ObjectId
  request : RequestState
  attributes : Text → Option ObjectId

/-- `Curl::Easy.new`. -/
def Handle.new : Handle where
  url := none
  callbacks := fun _ => none
  request := newRequestState
  attributes := fun _ => none

abbrev Setup := EStateM RubyError Handle

/-- A setter of the request. -/
def onRequest (set : Verb Unit) : Setup Unit :=
  zoom Handle.request (fun handle request => { handle with request := request }) set

/-- `easy.headers[key] = value`; the getter stores a `Hash` where there is none. -/
def storeHeader (header : Text × HeaderValue) : Verb Unit := do
  let state ← get
  match state.headers with
  | .nil => modify fun state => state.setHeaders (.hash ⟨setEntry header.1 header.2 [], none⟩)
  | .hash ⟨entries, none⟩ =>
      modify fun state => state.setHeaders (.hash ⟨setEntry header.1 header.2 entries, none⟩)
  | .hash ⟨_, some inspected⟩ => throw (frozenHash inspected)
  | .array => fromExcept (rbRaise .typeError "no implicit conversion of String into Integer".toList)
  | .string => fromExcept (rbRaise .indexError "string not matched".toList)

/-- `case method` (`multi.rb:127-142`). -/
def ConfigMethod.set : ConfigMethod → Verb Unit
  | .post fields => do
      let body ← fromExcept (Form.multiPostBody fields)
      Easy.postBody (some (.ok (Form.bytesText body)))
  | .put data => putDataSet data
  | .head => setNative fun native => native.setNobody true
  | .delete => setNative fun native => native.setCustomRequest (some "DELETE".toList)
  | .get => pure ()
  | .other => pure ()

/-- `easy.send("#{k}=", v)`. -/
def OptionSetter.set : OptionSetter → Setup Unit
  | .postBody body => onRequest (Easy.postBody body)
  | .putData data => onRequest (putDataSet data)
  | .head on => onRequest (setNative fun native => native.setNobody on)
  | .delete on =>
      onRequest (setNative fun native => native.setCustomRequest (if on then some "DELETE".toList else none))
  | .setter name value => do
      let stored ← fromExcept value
      modify fun handle => { handle with attributes := Function.update handle.attributes name (some stored) }

/-- A configuration is set up on a handle, up to its `on_complete`. -/
def Config.setUp (config : Config) : Setup Unit := do
  modify fun handle => { handle with url := config.url }
  modify fun handle => { handle with callbacks := fun key => (config.callbacks key).or (handle.callbacks key) }
  onRequest config.method.set
  onRequest (config.headers.forM storeHeader)
  config.options.forM OptionSetter.set

/-! ## What is sent -/

/-- The body of a request. -/
inductive Content where
  | none
  | fields (postFields : Option Text)
  | upload (stream : Option PutStream) (infileSize : Int)
  deriving DecidableEq, Repr

/-- What a handle asks libcurl for. -/
structure Request where
  url : Option Text
  customRequest : Option Text
  nobody : Bool
  content : Content
  headers : Text → HeaderValue
  callbacks : CallbackKey → Option ObjectId
  attributes : Text → Option ObjectId

/-- The value of a header, by its key. -/
def headerValue (entries : List (Text × HeaderValue)) (key : Text) : HeaderValue :=
  match entries.find? fun entry => entry.1 == key with
  | some entry => entry.2
  | none => .nil

def requestHeaders : PutHeaders → Text → HeaderValue
  | .hash hash => headerValue hash.entries
  | _ => fun _ => .nil

def requestContent (state : RequestState) : Content :=
  match state.native.method with
  | .get => .none
  | .head => .none
  | .post => .fields state.native.postFields
  | .put => .upload (state.upload.map Prod.snd) state.native.infileSize

def Handle.sends (handle : Handle) : Request where
  url := handle.url
  customRequest := handle.request.native.customRequest
  nobody := handle.request.native.nobody
  content := requestContent handle.request
  headers := requestHeaders handle.request.headers
  callbacks := handle.callbacks
  attributes := handle.attributes

/-- The transfer of a handle is over, and the multi lets it go. -/
def Handle.letGo (handle : Handle) : Handle :=
  { handle with request := cleanup { handle.request with
      requests := handle.request.requests ++ [handle.request.native.token] } }

/-- The request of a configuration, as a new handle sends it. -/
def Config.request (config : Config) : Request := (finalState config.setUp Handle.new).sends

end Curb.Http

import Curb.Easy.PutData

/-!
# The HTTP verbs of a handle

Each verb sets some of the options that decide the method before the transfer and resets some of them after it
(`curb_easy.c:4407-4766`, `easy.rb:583-615`), with `multipart_form_post` off.
-/

namespace Curb.Easy
open Curb.Misc Curb.Ruby

/-- A handle, as far as its method goes, and the method tokens of the requests it has sent. -/
structure RequestState extends PutState where
  postdataBuffer : Option Text
  requests : List Text

/-- `Curl::Easy.new`. -/
def newRequestState : RequestState where
  toPutState := newPutState .nil
  postdataBuffer := none
  requests := []

abbrev Verb := EStateM RubyError RequestState

/-- `curl_easy_setopt` of one of the options that decide the method. -/
def RequestState.setRequest (state : RequestState) (set : NativeRequest → NativeRequest) : RequestState :=
  { state with native := { state.native with toNativeRequest := set state.native.toNativeRequest } }

/-- `rb_easy_set ("headers", …)`. -/
def RequestState.setHeaders (state : RequestState) (headers : PutHeaders) : RequestState :=
  { state with headers := headers }

def setNative (set : NativeRequest → NativeRequest) : Verb Unit := modify fun state => state.setRequest set

/-! ## A transfer -/

/-- The options `ruby_curl_easy_cleanup` resets after an upload. -/
def PutNative.endUpload (native : PutNative) : PutNative :=
  { native with
    toNativeRequest := native.toNativeRequest.setUpload false
    readFunction := false
    readData := false
    seekFunction := false
    seekData := false
    infileSize := 0 }

/-- `ruby_curl_easy_cleanup` (`curb_easy.c:4386-4399`), where a multi lets the handle go. -/
def cleanup (state : RequestState) : RequestState :=
  if state.upload.isSome then { state with
    upload := none
    native := state.native.endUpload
    fresh := nofun }
  else state

/-- How a `perform` goes: the handle may first be let go by a multi that an earlier call has left it in,
a request may be sent, the handle may be let go again, and an exception may be raised. -/
structure Outcome where
  letGoFirst : Bool
  sends : Bool
  letGo : Bool
  raises : Option RubyError
  returns : raises = none → letGo = true

/-- `Easy#perform`. -/
def performRequest (outcome : Outcome) : Verb Unit := do
  modify fun state => if outcome.letGoFirst then cleanup state else state
  modify fun state =>
    if outcome.sends then { state with requests := state.requests ++ [state.native.token] } else state
  modify fun state => if outcome.letGo then cleanup state else state
  match outcome.raises with
  | none => pure ()
  | some error => throw error

/-- `perform_with_request_restore_ensure`. -/
def requestRestore (clearCustomrequest clearNobody clearPostfields : Bool) : Verb PUnit := do
  setNative fun native => if clearNobody then native.setNobody false else native
  setNative fun native => if clearCustomrequest then native.setCustomRequest none else native
  modify fun state => if clearPostfields then { state with
      native := { state.native with
        toNativeRequest := (state.native.toNativeRequest.setPost false).setHttpGet true
        postFields := none
        postFieldSize := 0 }
      postdataBuffer := none }
    else state

/-- `perform` under `rb_ensure`. -/
def performWithRequestRestore (outcome : Outcome) (clearCustomrequest clearNobody clearPostfields : Bool) :
    Verb Unit :=
  ensuring (performRequest outcome) (requestRestore clearCustomrequest clearNobody clearPostfields)

/-! ## Bodies -/

/-- `ruby_curl_easy_post_body_set` of a string (`curb_easy.c:2101-2127`). -/
def RequestState.postBodySet (state : RequestState) (body : Text) : RequestState :=
  { state with
    postdataBuffer := some body
    native := { state.native with
      toNativeRequest := state.native.toNativeRequest.setPost true
      postFieldSize := body.length
      postFields := some body } }

/-- `post_body = nil` (`curb_easy.c:2082-2088`). -/
def RequestState.postBodyDelete (state : RequestState) : RequestState :=
  { state with
    postdataBuffer := none
    native := { state.native with
      toNativeRequest := state.native.toNativeRequest.setHttpGet true
      postFields := none
      postFieldSize := 0 } }

/-- `post_body=`, of `nil` or of an object with the string form it has, which may raise. -/
def postBody : Option (Except RubyError Text) → Verb Unit
  | none => modify fun state => state.postBodyDelete
  | some form => do
      let body ← fromExcept form
      modify fun state => state.postBodySet body

/-- What `http_post` and `http_patch` do with their joined arguments: an empty body does not replace
the one that is retained. -/
def RequestState.setJoinedBody (state : RequestState) (body : Text) : RequestState :=
  let given := if body.isEmpty then state else state.postBodySet body
  if given.postdataBuffer.isNone then given.postBodySet body else given

/-- `put_data=`. -/
def putDataSet (data : Option PutObject) : Verb Unit :=
  zoom RequestState.toPutState (fun state put => { state with toPutState := put }) (putData data)

/-! ## Verbs -/

/-- `args.join("&")`, which may raise. -/
def joinArguments (join : Except RubyError Text) : Verb Text := fromExcept join

/-- `strcasecmp(verb, "HEAD") == 0`. -/
def isHead (verb : Text) : Bool := downcase verb == "head".toList

/-- `ruby_curl_easy_perform_verb_str`. -/
def performVerbStr (verb : Text) (outcome : Outcome) : Verb Unit := do
  setNative fun native => native.setCustomRequest (some verb)
  setNative fun native =>
    if isHead verb then ((native.setNobody true).setHttpGet false).setPost false else native
  performWithRequestRestore outcome true (isHead verb) false

def httpGet (outcome : Outcome) : Verb Unit := do
  setNative fun native => native.setHttpGet true
  performVerbStr "GET".toList outcome

def httpDelete (outcome : Outcome) : Verb Unit := performVerbStr "DELETE".toList outcome

def httpHead (outcome : Outcome) : Verb Unit := do
  setNative fun native => native.setNobody true
  performRequest outcome
  setNative fun native => native.setNobody false

def httpPost (join : Except RubyError Text) (outcome : Outcome) : Verb Unit := do
  setNative fun native => native.setCustomRequest none
  let body ← joinArguments join
  modify fun state => state.setJoinedBody body
  performWithRequestRestore outcome true false false

def httpPatch (join : Except RubyError Text) (outcome : Outcome) : Verb Unit := do
  setNative fun native => native.setCustomRequest (some "PATCH".toList)
  let body ← joinArguments join
  modify fun state => state.setJoinedBody body
  performWithRequestRestore outcome true false true

/-- A `String`. -/
def PutObject.ofText (text : Text) : PutObject := ⟨false, none, some (.ok text)⟩

/-- The arguments of `http_put`: none, a single string or reader, or anything else, which is joined. -/
inductive PutArguments where
  | none
  | single (data : PutObject)
  | several (join : Except RubyError Text)

/-- What `http_put` does with its arguments. -/
def putArguments : PutArguments → Verb Unit
  | .none => putDataSet (some (.ofText []))
  | .single data => putDataSet (some data)
  | .several join => do
      let body ← joinArguments join
      if body.isEmpty then pure () else putDataSet (some (.ofText body))

def httpPut (arguments : PutArguments) (outcome : Outcome) : Verb Unit := do
  setNative fun native => native.setCustomRequest (some "PUT".toList)
  putArguments arguments
  performWithRequestRestore outcome true false false

/-- A call of a verb, with what its arguments are and how its transfer goes. -/
inductive VerbCall where
  | get (outcome : Outcome)
  | head (outcome : Outcome)
  | post (join : Except RubyError Text) (outcome : Outcome)
  | put (arguments : PutArguments) (outcome : Outcome)
  | patch (join : Except RubyError Text) (outcome : Outcome)
  | delete (outcome : Outcome)

def VerbCall.run : VerbCall → Verb Unit
  | .get outcome => httpGet outcome
  | .head outcome => httpHead outcome
  | .post join outcome => httpPost join outcome
  | .put arguments outcome => httpPut arguments outcome
  | .patch join outcome => httpPatch join outcome
  | .delete outcome => httpDelete outcome

/-- The method of the verb. -/
def VerbCall.verb : VerbCall → Text
  | .get _ => "GET".toList
  | .head _ => "HEAD".toList
  | .post _ _ => "POST".toList
  | .put _ _ => "PUT".toList
  | .patch _ _ => "PATCH".toList
  | .delete _ => "DELETE".toList

end Curb.Easy

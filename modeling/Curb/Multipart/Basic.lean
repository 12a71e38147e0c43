import Mathlib.Logic.Function.Basic
import Curb.Easy.FormBody
import Curb.Misc.Runs

/-!
# Multipart forms

`http_post`, `http_patch` and `http_put` of a handle with `multipart_form_post` (`curb_easy.c:4509-4590`,
`4616-4760`). The fields are appended to a form of libcurl one after the other (`append_to_form`,
`curb_postfield.c:29-176`), libcurl gets the form as `CURLOPT_HTTPPOST`, and the form is freed behind the
request. libcurl copies neither names nor contents: a part points into the strings of its field. The
blocks of the fields, callbacks, other fibers and the collector run in between; an `Event` is what happens
next, in any of the calls that are in progress or beside them.

Strings, `CURL`s and forms have addresses, and nothing is at an address that is free. `memoryError` is set
where something is used that is not there any more.
-/

namespace Curb.Multipart
open Curb.Misc Curb.Ruby Curb.Form

abbrev Address := Nat

/-- A Ruby string, and how often its bytes have moved. -/
structure RString where
  bytes : Bytes
  moved : Nat

/-- What `StringValuePtr` returns: a pointer to the bytes of a string where they are now. -/
structure Pointer where
  string : Address
  moved : Nat
  deriving DecidableEq, Repr

abbrev Strings := Address → Option RString

def Strings.pointer (strings : Strings) (string : Address) : Pointer :=
  ⟨string, ((strings string).map RString.moved).getD 0⟩

/-- The bytes of a string, `RSTRING_LEN` of them. -/
def Strings.bytes (strings : Strings) (string : Address) : Bytes :=
  ((strings string).map RString.bytes).getD []

/-- The string as C sees it. -/
def Strings.cString (strings : Strings) (string : Address) : Bytes :=
  (strings.bytes string).takeWhile fun byte => byte ≠ 0

/-- The bytes are still where the pointer points to. -/
def Strings.valid (strings : Strings) (pointer : Pointer) : Bool :=
  (strings pointer.string).any fun string => string.moved = pointer.moved

/-! ## Fields and parts -/

/-- `ruby_curl_postfield`. -/
structure PostField where
  name : Option Address
  content : Option Address
  contentType : Option Address
  contentProc : Bool
  localFile : Option Address
  remoteFile : Option Address
  bufferStr : Option Address

/-- `curl_postfield_mark` (`curb_postfield.c:180-191`). -/
def PostField.marks (field : PostField) : List Address :=
  field.name.toList ++ field.content.toList ++ field.contentType.toList ++ field.localFile.toList ++
    field.remoteFile.toList ++ field.bufferStr.toList

/-- What a part is made of. -/
inductive Contents where
  /-- `CURLFORM_PTRCONTENTS` and `CURLFORM_CONTENTSLENGTH`. -/
  | contents (data : Pointer) (length : Nat)
  /-- `CURLFORM_BUFFER`, which is copied, `CURLFORM_BUFFERPTR` and `CURLFORM_BUFFERLENGTH`. -/
  | buffer (filename : Bytes) (data : Pointer) (length : Nat)
  /-- `CURLFORM_FILE` and `CURLFORM_FILENAME`, which are copied. -/
  | file (path filename : Bytes)
  deriving DecidableEq, Repr

/-- A part of a form; `CURLFORM_PTRNAME` is not copied, `CURLFORM_CONTENTTYPE` is. -/
structure Part where
  name : Pointer
  contents : Contents
  contentType : Option Bytes
  deriving DecidableEq, Repr

/-- The pointers libcurl follows. -/
def Part.pointers (part : Part) : List Pointer :=
  part.name :: match part.contents with
    | .contents data _ | .buffer _ data _ => [data]
    | .file _ _ => []

/-- The content of a field as bytes where they are: the string of its block, or its content. -/
def PostField.data (field : PostField) : Option Address :=
  if field.contentProc then field.bufferStr else field.content

/-- `append_to_form` (`curb_postfield.c:29-147`) behind the call of the block: the field, whose remote name
may be set, and the part. -/
def appendToForm (strings : Strings) (field : PostField) : Except RubyError (PostField × Part) := do
  let name ← orRaise field.name (invalidPostField "Cannot post unnamed field")
  let contentType := field.contentType.map strings.cString
  if field.localFile.isSome || field.remoteFile.isSome then
    if field.contentProc || field.content.isSome then do
      let remoteFile ← orRaise field.remoteFile
        (invalidPostField "Cannot post file upload field with no filename")
      let data ← orRaise field.data (invalidPostField "Cannot post file upload field with no data")
      pure (field, ⟨strings.pointer name, .buffer (strings.cString remoteFile) (strings.pointer data)
        (strings.bytes data).length, contentType⟩)
    else do
      let localFile ← orRaise field.localFile
        (invalidPostField "Cannot post file upload field with no data")
      let remoteFile := field.remoteFile.getD localFile
      pure ({ field with remoteFile := some remoteFile }, ⟨strings.pointer name,
        .file (strings.cString localFile) (strings.cString remoteFile), contentType⟩)
  else do
    let data ← orRaise field.data (invalidPostField "Cannot post content field with no data")
    pure (field, ⟨strings.pointer name, .contents (strings.pointer data) (strings.bytes data).length,
      contentType⟩)

/-- `append_to_form` calls the block of the field first. -/
def PostField.callsProc (field : PostField) : Bool := field.name.isSome && field.contentProc

/-- `CURLFORMcode`. -/
inductive CurlFormCode where
  | ok
  | memory
  | optionTwice
  | null
  | unknownOption
  | incomplete
  | illegalArray
  | disabled
  | other
  deriving DecidableEq, Repr

/-- The reason of a failure (`curb_postfield.c:149-173`). -/
def CurlFormCode.reason : CurlFormCode → Option String
  | .ok => none
  | .memory => some "Memory allocation failed"
  | .optionTwice => some "Duplicate option"
  | .null => some "Unexpected NULL string"
  | .unknownOption => some "Unknown option"
  | .incomplete => some "Incomplete form data"
  | .illegalArray => some "Illegal array [BINDING BUG]"
  | .disabled => some "Installed libcurl cannot support requested feature(s)"
  | .other => some "Unknown error"

/-! ## Calls -/

/-- A `PostField`, or something that is none. -/
inductive Item where
  | field (field : ObjectId)
  | other
  deriving DecidableEq, Repr

/-- An argument of `http_post`. -/
inductive Argument where
  | item (item : Item)
  | array (items : List Item)

/-- The order in which `append_multipart_form_argument` comes by them (`curb_easy.c:4537-4557`). -/
def Argument.items : Argument → List Item
  | .item single => [single]
  | .array several => several

def Item.fields : List Item → List ObjectId
  | [] => []
  | .field id :: items => id :: Item.fields items
  | .other :: items => Item.fields items

/-- Where a call is. -/
inductive Stage where
  | appending
  /-- In the block of the next field. -/
  | inProc
  /-- In `perform`. -/
  | performing
  deriving DecidableEq, Repr

/-- `struct easy_form_perform_args`, with the fields that are in the form and the items still to come. -/
structure Call where
  curl : Address
  items : List Item
  appended : List ObjectId
  rest : List Item
  first : Option Address
  clearCustomrequest : Bool
  formSetOnCurl : Bool
  stage : Stage

/-- The fields of a call. -/
def Call.fields (call : Call) : List ObjectId := Item.fields call.items

/-- Options of a `CURL`. -/
structure Curl where
  httppost : Option Address
  customrequest : Option String
  post : Bool

/-- `ruby_curl_easy`. -/
structure Easy where
  curl : Address
  multipartFormPost : Bool

/-- The memory, and the calls in progress. -/
structure State where
  strings : Strings
  fields : ObjectId → PostField
  easies : ObjectId → Option Easy
  curls : Address → Option Curl
  forms : Address → Option (List Part)
  calls : Nat → Option Call
  outcomes : Nat → Option (Except RubyError Unit)
  memoryError : Bool

/-- Nothing has been made yet. -/
def fresh : State where
  strings := fun _ => none
  fields := fun _ => ⟨none, none, none, false, none, none, none⟩
  easies := fun _ => none
  curls := fun _ => none
  forms := fun _ => none
  calls := fun _ => none
  outcomes := fun _ => none
  memoryError := false

namespace State

/-- What `curl_easy_setopt` sets. -/
def onCurl (state : State) (address : Address) (set : Curl → Curl) : State :=
  match state.curls address with
  | some curl => { state with curls := Function.update state.curls address (some (set curl)) }
  | none => { state with memoryError := true }

/-- `curl_formadd` behind the first part. -/
def formadd (state : State) (first : Address) (part : Part) : State :=
  match state.forms first with
  | some parts => { state with forms := Function.update state.forms first (some (parts ++ [part])) }
  | none => { state with memoryError := true }

/-- `curl_formfree`. -/
def formfree (state : State) (first : Address) : State :=
  match state.forms first with
  | some _ => { state with forms := Function.update state.forms first none }
  | none => { state with memoryError := true }

/-- Pointers are followed. -/
def follow (state : State) (pointers : List Pointer) : State :=
  if pointers.all state.strings.valid then state else { state with memoryError := true }

/-- libcurl reads the form it has. -/
def readForm (state : State) (address : Address) : State :=
  match state.curls address with
  | none => { state with memoryError := true }
  | some curl =>
      match curl.httppost with
      | none => state
      | some form =>
          match state.forms form with
          | none => { state with memoryError := true }
          | some parts => state.follow (parts.flatMap Part.pointers)

def setCall (state : State) (id : Nat) (call : Call) : State :=
  { state with calls := Function.update state.calls id (some call) }

def setField (state : State) (field : ObjectId) (value : PostField) : State :=
  { state with fields := Function.update state.fields field value }

/-- `ensure_free_form_post` (`curb_easy.c:4574-4590`). -/
def ensureFreeFormPost (state : State) (call : Call) : State :=
  let unposted :=
    if call.formSetOnCurl then state.onCurl call.curl fun curl => { curl with httppost := none } else state
  let cleared :=
    if call.clearCustomrequest then unposted.onCurl call.curl fun curl => { curl with customrequest := none }
    else unposted
  match call.first with
  | some first => cleared.formfree first
  | none => cleared

/-- A call ends. -/
def endCall (state : State) (id : Nat) (call : Call) (outcome : Except RubyError Unit) : State :=
  let freed := state.ensureFreeFormPost call
  { freed with
    calls := Function.update freed.calls id none
    outcomes := Function.update freed.outcomes id (some outcome) }

/-- The next field is appended; `address` is where a new form is. -/
def appendField (state : State) (id : Nat) (call : Call) (field : ObjectId) (rest : List Item)
    (address : Address) (code : CurlFormCode) : Option State :=
  let read := state.follow ((state.fields field).marks.map state.strings.pointer)
  match appendToForm state.strings (state.fields field) with
  | .error error => some (read.endCall id call (.error error))
  | .ok (settled, part) =>
      let read := read.setField field settled
      let after := { call with
        appended := call.appended ++ [field]
        rest := rest
        stage := .appending }
      match code.reason with
      | some reason =>
          some (read.endCall id call (invalidPostField ("Failed to add field (" ++ reason ++ ")")))
      | none =>
          match call.first with
          | some first => some ((read.formadd first part).setCall id after)
          | none =>
              if (state.forms address).isNone then
                some ({ read with forms := Function.update read.forms address (some [part]) }.setCall id
                  { after with first := some address })
              else none

/-- One round of the loops over the arguments, where no block is called. -/
def appendNext (state : State) (id : Nat) (call : Call) (address : Address) (code : CurlFormCode) :
    Option State :=
  match call.rest with
  | [] => none
  | .other :: _ => some (state.endCall id call
      (invalidPostField "You must use PostFields only with multipart form posts"))
  | .field field :: rest =>
      if (state.fields field).callsProc then none else state.appendField id call field rest address code

/-- The block of the next field has returned this string. -/
def procReturns (state : State) (id : Nat) (call : Call) (string : Address) (address : Address)
    (code : CurlFormCode) : Option State :=
  match call.rest with
  | .field field :: rest =>
      (state.setField field { state.fields field with bufferStr := some string }).appendField id call field
        rest address code
  | _ => none

/-- The next field has a block. -/
def nextCallsProc (state : State) (call : Call) : Bool :=
  match call.rest with
  | .field field :: _ => (state.fields field).callsProc
  | _ => false

end State

/-- What may happen next. -/
inductive Event where
  /-- `http_post`, or `http_patch` or `http_put` with the method they set. -/
  | httpPost (id : Nat) (easy : ObjectId) (method : Option String) (arguments : List Argument)
  | append (id : Nat) (address : Address) (code : CurlFormCode)
  | callProc (id : Nat)
  | procReturns (id : Nat) (string : Address) (address : Address) (code : CurlFormCode)
  | procRaises (id : Nat) (error : RubyError)
  | perform (id : Nat)
  /-- libcurl reads the form of a handle. -/
  | readForm (easy : ObjectId)
  | performEnds (id : Nat) (outcome : Except RubyError Unit)
  | newEasy (easy : ObjectId) (curl : Address)
  | multipartFormPostSet (easy : ObjectId) (multipartFormPost : Bool)
  /-- A handle is closed, and its new `CURL` is here. -/
  | close (easy : ObjectId) (curl : Address)
  | reset (easy : ObjectId)
  | clone (easy : ObjectId) (other : ObjectId) (curl : Address)
  /-- The collector frees a handle. -/
  | freeEasy (easy : ObjectId)
  | newString (address : Address) (bytes : Bytes)
  /-- A string is changed in place. -/
  | stringChanges (address : Address) (bytes : Bytes)
  /-- The attributes of a field are set. -/
  | fieldSet (field : ObjectId) (value : PostField)
  /-- The collector frees strings. -/
  | sweep (dead : List Address)

/-- A `CURL` as `curl_easy_init` makes it. -/
def freshCurl : Curl := ⟨none, none, false⟩

/-- The next state, where the event may happen. -/
def step (state : State) : Event → Option State
  | .httpPost id easy method arguments =>
      (state.easies easy).bind fun handle =>
        if handle.multipartFormPost ∧ (state.calls id).isNone then
          let items := arguments.flatMap Argument.items
          some ((state.onCurl handle.curl fun curl => { curl with customrequest := method }).setCall id
            ⟨handle.curl, items, [], items, none, method.isSome, false, .appending⟩)
        else none
  | .append id address code =>
      (state.calls id).bind fun call =>
        if call.stage = .appending then state.appendNext id call address code else none
  | .callProc id =>
      (state.calls id).bind fun call =>
        if call.stage = .appending ∧ state.nextCallsProc call then
          some (state.setCall id { call with stage := .inProc })
        else none
  | .procReturns id string address code =>
      (state.calls id).bind fun call =>
        if call.stage = .inProc then state.procReturns id call string address code else none
  | .procRaises id error =>
      (state.calls id).bind fun call =>
        if call.stage = .inProc then some (state.endCall id call (.error error)) else none
  | .perform id =>
      (state.calls id).bind fun call =>
        if call.stage = .appending ∧ call.rest = [] then
          some ((state.onCurl call.curl fun curl => { curl with
            post := false
            httppost := call.first }).setCall id { call with
              formSetOnCurl := true
              stage := .performing })
        else none
  | .readForm easy => (state.easies easy).map fun handle => state.readForm handle.curl
  | .performEnds id outcome =>
      (state.calls id).bind fun call =>
        if call.stage = .performing then some (state.endCall id call outcome) else none
  | .newEasy easy curl =>
      if (state.easies easy).isNone ∧ (state.curls curl).isNone then some { state with
        easies := Function.update state.easies easy (some ⟨curl, false⟩)
        curls := Function.update state.curls curl (some freshCurl) }
      else none
  | .multipartFormPostSet easy multipartFormPost =>
      (state.easies easy).bind fun handle => some { state with
        easies := Function.update state.easies easy (some { handle with
          multipartFormPost := multipartFormPost }) }
  | .close easy curl =>
      (state.easies easy).bind fun handle =>
        if curl = handle.curl ∨ (state.curls curl).isNone then some { state with
          easies := Function.update state.easies easy (some ⟨curl, false⟩)
          curls := Function.update (Function.update state.curls handle.curl none) curl (some freshCurl) }
        else none
  | .reset easy =>
      (state.easies easy).bind fun handle =>
        let reset := state.onCurl handle.curl fun _ => freshCurl
        some { reset with easies := Function.update reset.easies easy (some ⟨handle.curl, false⟩) }
  | .clone easy other curl =>
      (state.easies easy).bind fun handle =>
        (state.curls handle.curl).bind fun options =>
          if (state.easies other).isNone ∧ (state.curls curl).isNone then some { state with
            easies := Function.update state.easies other (some { handle with curl := curl })
            curls := Function.update state.curls curl (some options) }
          else none
  | .freeEasy easy =>
      (state.easies easy).bind fun handle => some { state with
        easies := Function.update state.easies easy none
        curls := Function.update state.curls handle.curl none }
  | .newString address bytes =>
      if (state.strings address).isNone then some { state with
        strings := Function.update state.strings address (some ⟨bytes, 0⟩) }
      else none
  | .stringChanges address bytes =>
      (state.strings address).bind fun string => some { state with
        strings := Function.update state.strings address (some ⟨bytes, string.moved + 1⟩) }
  | .fieldSet field value => some (state.setField field value)
  | .sweep dead => some { state with
      strings := fun address => if address ∈ dead then none else state.strings address }

end Curb.Multipart

import Curb.Ruby.Basic

/-!
# `put_data=`

`ruby_curl_easy_put_data_set` (`ext/curb_easy.c:2166-2262`) step by step: which headers and which methods of
the data the size of an upload comes from, and what has been changed when one of the steps raises. The method
of a request is spread over the native options `HTTPGET`, `POST`, `UPLOAD`, `NOBODY` and `CUSTOMREQUEST`.
-/

namespace Curb.Easy
open Curb.Misc Curb.Ruby

/-- What libcurl has been told to send, `CUSTOMREQUEST` apart. -/
inductive Method where
  | get
  | post
  | put
  | head
  deriving DecidableEq, Repr

/-- The native options that decide the method. -/
structure NativeRequest where
  method : Method
  nobody : Bool
  customRequest : Option Text
  deriving DecidableEq, Repr

namespace NativeRequest

/-- `CURLOPT_HTTPGET`, which has no effect where it is 0. -/
def setHttpGet (native : NativeRequest) (on : Bool) : NativeRequest :=
  if on then { native with method := .get, nobody := false } else native

/-- `CURLOPT_POST`. -/
def setPost (native : NativeRequest) (on : Bool) : NativeRequest :=
  if on then { native with method := .post, nobody := false } else { native with method := .get }

/-- `CURLOPT_UPLOAD`. -/
def setUpload (native : NativeRequest) (on : Bool) : NativeRequest :=
  if on then { native with method := .put, nobody := false } else { native with method := .get }

/-- `CURLOPT_NOBODY`. -/
def setNobody (native : NativeRequest) (on : Bool) : NativeRequest :=
  if on then { native with method := .head, nobody := true }
  else { native with method := if native.method = .head then .get else native.method, nobody := false }

def setCustomRequest (native : NativeRequest) (verb : Option Text) : NativeRequest :=
  { native with customRequest := verb }

/-- The method token of a request. -/
def token (native : NativeRequest) : Text :=
  native.customRequest.getD (
    if native.nobody then "HEAD".toList
    else match native.method with
      | .get => "GET".toList
      | .post => "POST".toList
      | .put => "PUT".toList
      | .head => "HEAD".toList)

end NativeRequest

/-! ## Sizes -/

/-- The digits a number begins with, which may have single underscores between them. -/
def takeDigits : Text → Text
  | '_' :: c :: rest => if c.isDigit then c :: takeDigits rest else []
  | c :: rest => if c.isDigit then c :: takeDigits rest else []
  | [] => []

/-- `String#to_i`. -/
def toI (text : Text) : Int :=
  let signed := takeSign (text.dropWhile isSpace)
  let digits := if signed.2.head? = some '_' then [] else takeDigits signed.2
  if signed.1 then -decimal digits else decimal digits

/-- `NUM2LONG`. -/
def num2long : Option Int → Except RubyError Int
  | none => rbRaise .typeError "no implicit conversion to integer".toList
  | some value =>
      if longMin ≤ value ∧ value ≤ longMax then .ok value
      else rbRaise .rangeError "bignum too big to convert into 'long'".toList

/-- What `size` or `to_i` returns. -/
inductive SizeValue where
  | nil
  | number (value : Int)
  /-- `LONG2NUM`. -/
  | long (value : Int)
  /-- Any other object, and what `NUM2LONG` makes of it. -/
  | other (converted : Except RubyError Int)

def SizeValue.isNil : SizeValue → Bool
  | .nil => true
  | _ => false

/-- `NUM2LONG`. -/
def SizeValue.num2long : SizeValue → Except RubyError Int
  | .nil => Easy.num2long none
  | .number value => Easy.num2long (some value)
  | .long value => .ok value
  | .other converted => converted

/-- The value of a header. -/
inductive HeaderValue where
  | nil
  | no
  | text (text : Text)
  | integer (value : Int)
  /-- Any other object, with its string form and what its `to_i` does. -/
  | object (text : Text) (toI : Except RubyError SizeValue)

def HeaderValue.isNil : HeaderValue → Bool
  | .nil => true
  | _ => false

/-- `if (value)`: the only value that is false in C is `Qfalse`. -/
def HeaderValue.isCTrue : HeaderValue → Bool
  | .no => false
  | _ => true

/-- `value.to_i`. -/
def HeaderValue.toI : HeaderValue → Except RubyError SizeValue
  | .nil => .ok (.number 0)
  | .no => rbRaise .noMethodError "undefined method 'to_i' for false".toList
  | .text str => .ok (.number (Easy.toI str))
  | .integer value => .ok (.number value)
  | .object _ toI => toI

/-- A `Hash` of headers. -/
structure HeaderHash where
  entries : List (Text × HeaderValue)
  /-- Where it is frozen, its `inspect`. -/
  frozen : Option Text

/-- `rb_hash_aref`. -/
def HeaderHash.aref (headers : HeaderHash) (key : String) : HeaderValue :=
  match headers.entries.find? fun entry => entry.1 == key.toList with
  | some entry => entry.2
  | none => .nil

/-- The entries with a value for a key, in its place where there is one. -/
def setEntry (key : Text) (value : HeaderValue) : List (Text × HeaderValue) → List (Text × HeaderValue)
  | [] => [(key, value)]
  | entry :: rest => if entry.1 = key then (key, value) :: rest else entry :: setEntry key value rest

def frozenHash (inspected : Text) : RubyError := ⟨.frozenError, "can't modify frozen Hash: ".toList ++ inspected⟩

/-- `rb_hash_aset`: the hash after the call, and whether it raised. -/
def HeaderHash.aset (headers : HeaderHash) (key value : String) : HeaderHash × Except RubyError Unit :=
  match headers.frozen with
  | some inspected => (headers, .error (frozenHash inspected))
  | none => ({ headers with entries := setEntry key.toList (.text value.toList) headers.entries }, .ok ())

/-- A header is set where it has no value. -/
def HeaderHash.addExpect (headers : HeaderHash) : HeaderHash × Except RubyError Unit :=
  if (headers.aref "Expect").isNil then headers.aset "Expect" "" else (headers, .ok ())

/-- What `data.stat` returns: `nil` or `false`, or an object with what its `size` does. -/
inductive StatValue where
  | falsy
  | object (size : Except RubyError SizeValue)

/-- The data of an upload, by its methods; `none` is a method it does not have. -/
structure PutObject where
  read : Bool
  stat : Option (Except RubyError StatValue)
  toS : Option (Except RubyError Text)

/-- `stat`, or `nil`. -/
def PutObject.statValue (data : PutObject) : Except RubyError StatValue :=
  match data.stat with
  | none => .ok .falsy
  | some result => result

/-- The stream of an upload. -/
inductive PutStream where
  | nil
  | reader
  | text (text : Text)
  deriving DecidableEq, Repr

def putDataForm : RubyError := ⟨.runtimeError, "PUT data must respond to read or to_s".toList⟩

/-- `upload_stream` (`curb_easy.c:2186-2192`). -/
def uploadStream : Option PutObject → Except RubyError PutStream
  | none => .ok .nil
  | some data =>
      if data.read then .ok .reader
      else
        match data.toS with
        | some (.ok text) => .ok (.text text)
        | some (.error error) => .error error
        | none => .error putDataForm

/-- The size of a reader whose `stat` is not asked (`curb_easy.c:2212-2218`). The last test is one of C, to
which a header that is `nil` is true. -/
def lengthOrChunked (headers : HeaderHash) : HeaderHash × Except RubyError SizeValue :=
  let contentLength := headers.aref "Content-Length"
  if contentLength.isNil ∧ (headers.aref "Transfer-Encoding").isNil then
    let (changed, result) := headers.aset "Transfer-Encoding" "chunked"
    (changed, result.map fun _ => .nil)
  else if contentLength.isCTrue then (headers, contentLength.toI)
  else (headers, .ok .nil)

/-- The size of a reader (`curb_easy.c:2200-2218`), with the headers after the steps that were made. -/
def readerSize (data : PutObject) (headers : HeaderHash) : HeaderHash × Except RubyError SizeValue :=
  match data.statValue with
  | .error error => (headers, .error error)
  | .ok .falsy => lengthOrChunked headers
  | .ok (.object size) =>
      if (headers.aref "Content-Length").isNil then
        let (changed, result) := headers.addExpect
        (changed, result.bind fun _ => size)
      else lengthOrChunked headers

/-- `infile_size` (`curb_easy.c:2199-2231`). -/
def infileSize (data : Option PutObject) (stream : PutStream) (headers : HeaderHash) :
    HeaderHash × Except RubyError SizeValue :=
  match data, stream with
  | none, _ => (headers, .ok .nil)
  | some data, .reader => readerSize data headers
  | some _, .nil => (headers, .error putDataForm)
  | some _, .text text =>
      let (changed, result) := headers.addExpect
      (changed, result.map fun _ => .long text.length)

def headersNotHash : RubyError :=
  ⟨.runtimeError, "Must set headers as a HASH to modify the headers in an PUT request".toList⟩

/-- `headers` of a handle. -/
inductive PutHeaders where
  | nil
  | hash (hash : HeaderHash)
  | array
  | string

/-- The options `put_data=` sets. -/
structure PutNative extends NativeRequest where
  postFields : Option Text
  postFieldSize : Int
  readFunction : Bool
  seekFunction : Bool
  readData : Bool
  seekData : Bool
  infileSize : Int
  deriving DecidableEq, Repr

/-- The options of an upload (`curb_easy.c:2242-2254`). -/
def PutNative.beginUpload (native : PutNative) : PutNative :=
  { native with
    toNativeRequest := ((native.toNativeRequest.setNobody false).setPost false).setUpload true
    postFields := none
    postFieldSize := 0
    readFunction := true
    seekFunction := true
    readData := true
    seekData := true }

/-- A handle, as far as `put_data=` goes. An upload object is a number and its stream. -/
structure PutState where
  headers : PutHeaders
  upload : Option (ObjectId × PutStream)
  nextUpload : ObjectId
  native : PutNative
  /-- A history variable, newest first: the sizes that were given to libcurl. -/
  announced : List Int
  fresh : ∀ object ∈ upload, object.1 < nextUpload

/-- A handle with these headers and no upload. -/
def newPutState (headers : PutHeaders) : PutState where
  headers := headers
  upload := none
  nextUpload := 0
  native := ⟨⟨.get, false, none⟩, none, -1, false, false, false, false, -1⟩
  announced := []
  fresh := nofun

/-- `rb_easy_set ("upload", …)` of a new upload. -/
def PutState.newUpload (state : PutState) (stream : PutStream) : PutState :=
  { state with
    upload := some (state.nextUpload, stream)
    nextUpload := state.nextUpload + 1
    fresh := by
      intro object same
      rw [← Option.some.inj same]
      exact Nat.lt_succ_self _ }

/-- `CURLOPT_INFILESIZE`. -/
def PutState.announce (state : PutState) (size : Int) : PutState :=
  { state with
    native := { state.native with infileSize := size }
    announced := size :: state.announced }

abbrev Put := EStateM RubyError PutState

/-- The steps after the check of the headers; the caller's `Hash` is changed in place. -/
def putDataWith (headers : HeaderHash) (stored : Bool) (data : Option PutObject) : Put Unit := do
  match uploadStream data with
  | .error error => throw error
  | .ok stream =>
      match infileSize data stream headers with
      | (changed, .error error) => do
          modify fun state => if stored then { state with headers := .hash changed } else state
          throw error
      | (changed, .ok size) => do
          modify fun state => { state with headers := .hash changed }
          modify fun state => state.newUpload stream
          modify fun state => { state with native := state.native.beginUpload }
          if size.isNil then pure ()
          else
            match size.num2long with
            | .error error => throw error
            | .ok size => modify fun state => state.announce size

/-- `ruby_curl_easy_put_data_set` (`curb_easy.c:2166-2262`). -/
def putData (data : Option PutObject) : Put Unit := do
  let state ← get
  match state.headers with
  | .array => throw headersNotHash
  | .string => throw headersNotHash
  | .nil => putDataWith ⟨[], none⟩ false data
  | .hash headers => putDataWith headers true data

end Curb.Easy

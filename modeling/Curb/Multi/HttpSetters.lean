import Curb.Easy.PutDataAtomic
import Curb.Multi.HttpConfig

/-!
# The setters of a configuration on two handles

A setter that returns on a new handle returns on one that has been used, and what the two have in common
afterwards is said by what they had in common before (`Agreed`).
-/

namespace Curb.Http
open Curb.Misc Curb.Ruby Curb.Easy

/-! ## Headers -/

/-- No headers, or a `Hash` that can be changed. -/
def Plain : PutHeaders → Prop
  | .nil => True
  | .hash hash => hash.frozen = none
  | .array => False
  | .string => False

theorem Plain.frozen {headers : PutHeaders} (plain : Plain headers) : headers.asHash.frozen = none := by
  cases headers with
  | hash hash => exact plain
  | _ => rfl

theorem Plain.usable {headers : PutHeaders} (plain : Plain headers) : headers.Usable := by
  cases headers with
  | nil => trivial
  | hash hash => trivial
  | array => cases plain
  | string => cases plain

theorem requestHeaders_asHash (headers : PutHeaders) :
    requestHeaders headers = headerValue headers.asHash.entries := by
  cases headers <;> rfl

theorem headerValue_setEntry (key other : Text) (value : HeaderValue) (entries : List (Text × HeaderValue)) :
    headerValue (setEntry key value entries) other = if other = key then value else headerValue entries other := by
  unfold headerValue
  by_cases same : other = key
  · rw [same, find?_setEntry_self, if_pos rfl]
  · rw [find?_setEntry_ne value same, if_neg same]

/-- A header is set in the `Hash`, or in a new one. -/
theorem storeHeader_returns {state : RequestState} (plain : Plain state.headers) (header : Text × HeaderValue) :
    Returns (storeHeader header) state () { state with
      headers := .hash ⟨setEntry header.1 header.2 state.headers.asHash.entries, none⟩ } := by
  unfold Returns storeHeader
  rw [get_bind_apply]
  cases same : state.headers with
  | nil => rfl
  | hash hash =>
    obtain ⟨entries, frozen⟩ := hash
    rw [same] at plain
    cases plain
    rfl
  | array =>
    rw [same] at plain
    cases plain
  | string =>
    rw [same] at plain
    cases plain

/-! ## `put_data=` -/

def contentLength : Text := "Content-Length".toList
def transferEncoding : Text := "Transfer-Encoding".toList
def expect : Text := "Expect".toList

/-- The header that `put_data=` adds. -/
inductive Adds where
  | nothing
  | expect
  | chunked

/-- What comes of the `Content-Length` and the `Transfer-Encoding` where the `stat` does not give the size. -/
def lengthSize (length encoding : HeaderValue) : Adds × Except RubyError SizeValue :=
  if length.isNil ∧ encoding.isNil then (.chunked, .ok .nil)
  else (.nothing, if length.isCTrue then length.toI else .ok .nil)

/-- What `put_data=` adds to headers that can be changed, and the size it finds. -/
def putSize (stream : PutStream) (length encoding : HeaderValue) :
    Option PutObject → Adds × Except RubyError SizeValue
  | none => (.nothing, .ok .nil)
  | some data =>
      match stream, data.statValue with
      | .nil, _ => (.nothing, .error putDataForm)
      | .text text, _ => (.expect, .ok (.long text.length))
      | .reader, .error error => (.nothing, .error error)
      | .reader, .ok .falsy => lengthSize length encoding
      | .reader, .ok (.object size) => if length.isNil then (.expect, size) else lengthSize length encoding

/-- The headers after that. -/
def adding (headers : HeaderHash) : Adds → HeaderHash
  | .nothing => headers
  | .expect =>
      if (headers.aref "Expect").isNil then
        { headers with entries := setEntry expect (.text []) headers.entries }
      else headers
  | .chunked => { headers with entries := setEntry transferEncoding (.text "chunked".toList) headers.entries }

theorem adding_frozen (headers : HeaderHash) (adds : Adds) : (adding headers adds).frozen = headers.frozen := by
  cases adds with
  | nothing => rfl
  | expect =>
    unfold adding
    dsimp only
    split <;> rfl
  | chunked => rfl

theorem aset_plain {headers : HeaderHash} (plain : headers.frozen = none) (key value : String) :
    headers.aset key value =
      ({ headers with entries := setEntry key.toList (.text value.toList) headers.entries }, .ok ()) := by
  unfold HeaderHash.aset
  rw [plain]

theorem addExpect_plain {headers : HeaderHash} (plain : headers.frozen = none) :
    headers.addExpect = (adding headers .expect, .ok ()) := by
  unfold HeaderHash.addExpect adding
  rw [aset_plain plain]
  split <;> rfl

theorem lengthOrChunked_plain {headers : HeaderHash} (plain : headers.frozen = none) :
    lengthOrChunked headers =
      (adding headers (lengthSize (headers.aref "Content-Length") (headers.aref "Transfer-Encoding")).1,
        (lengthSize (headers.aref "Content-Length") (headers.aref "Transfer-Encoding")).2) := by
  unfold lengthOrChunked lengthSize
  dsimp only
  rw [aset_plain plain]
  split
  · rfl
  · split <;> rfl

theorem infileSize_plain {headers : HeaderHash} (plain : headers.frozen = none) (given : Option PutObject)
    (stream : PutStream) :
    infileSize given stream headers =
      (adding headers (putSize stream (headers.aref "Content-Length") (headers.aref "Transfer-Encoding") given).1,
        (putSize stream (headers.aref "Content-Length") (headers.aref "Transfer-Encoding") given).2) := by
  cases given with
  | none => rfl
  | some data =>
    cases stream with
    | nil => rfl
    | text text =>
      rw [infileSize, addExpect_plain plain]
      rfl
    | reader =>
      show readerSize data headers = _
      unfold readerSize putSize
      dsimp only
      cases data.statValue with
      | error error => rfl
      | ok value =>
        cases value with
        | falsy => exact lengthOrChunked_plain plain
        | object size =>
          dsimp only
          split
          · rw [addExpect_plain plain]
            rfl
          · exact lengthOrChunked_plain plain

/-- The values of the headers after a `put_data=`. -/
theorem headerValue_adding (headers : HeaderHash) (adds : Adds) (key : Text) :
    headerValue (adding headers adds).entries key =
      match adds with
      | .nothing => headerValue headers.entries key
      | .expect => if key = expect ∧ (headerValue headers.entries key).isNil then .text []
          else headerValue headers.entries key
      | .chunked => if key = transferEncoding then .text "chunked".toList
          else headerValue headers.entries key := by
  cases adds with
  | nothing => rfl
  | chunked => exact headerValue_setEntry _ _ _ _
  | expect =>
    have asked : headers.aref "Expect" = headerValue headers.entries expect := rfl
    simp only [adding, asked]
    by_cases isNil : (headerValue headers.entries expect).isNil = true
    · rw [if_pos isNil, headerValue_setEntry]
      by_cases isExpect : key = expect
      · rw [if_pos isExpect, if_pos ⟨isExpect, isExpect ▸ isNil⟩]
      · rw [if_neg isExpect, if_neg fun both => isExpect both.1]
    · rw [if_neg isNil, if_neg]
      rintro ⟨rfl, isNil'⟩
      exact isNil isNil'

/-! ## What a setter reads and selects -/

/-- The data is a reader. -/
def Reads (given : Option PutObject) : Prop := ∃ data, given = some data ∧ data.read = true

/-- The data is a reader without a `stat`. -/
def Unstated (given : Option PutObject) : Prop :=
  ∃ data, given = some data ∧ data.read = true ∧ data.statValue = .ok .falsy

/-- The method is selected anew. -/
def ConfigMethod.selects : ConfigMethod → Bool
  | .post _ | .put _ | .head => true
  | .delete | .get | .other => false

def OptionSetter.selects : OptionSetter → Bool
  | .postBody _ | .putData _ => true
  | .head on => on
  | .delete _ | .setter _ _ => false

/-! ## Two handles -/

/-- The same method and the same body, up to the size of an upload. -/
structure SameMethod (used fresh : RequestState) : Prop where
  method : used.native.method = fresh.native.method
  nobody : used.native.nobody = fresh.native.nobody
  fields : fresh.native.method = .post → used.native.postFields = fresh.native.postFields
  stream : fresh.native.method = .put → used.upload.map Prod.snd = fresh.upload.map Prod.snd

/-- What two handles have been given the same of. -/
structure Agreed where
  /-- The headers that have yet to be set. -/
  named : Text → Prop
  /-- What the headers will be. -/
  own : Text → HeaderValue
  length : Prop
  encoding : Prop
  method : Prop
  /-- `NOBODY` decides the method. -/
  clears : Prop
  customRequest : Prop
  size : Prop
  attributes : Text → Prop

/-- A request that `NOBODY=0` makes a `GET`. -/
def Clears (state : RequestState) : Prop := state.native.method ∈ [Method.get, Method.head]

/-- The requests agree where it says so; a header of the used handle may already be what it will be. -/
structure SameRequest (agreed : Agreed) (used fresh : RequestState) : Prop where
  usedPlain : Plain used.headers
  freshPlain : Plain fresh.headers
  headers : ∀ key, agreed.named key ∨ requestHeaders used.headers key = requestHeaders fresh.headers key ∨
    (requestHeaders used.headers key).isNil = false ∧ requestHeaders used.headers key = agreed.own key
  length : agreed.length →
    requestHeaders used.headers contentLength = requestHeaders fresh.headers contentLength
  encoding : agreed.encoding →
    requestHeaders used.headers transferEncoding = requestHeaders fresh.headers transferEncoding
  method : agreed.method → SameMethod used fresh
  clears : agreed.clears → SameMethod used fresh ∨ Clears used ∧ Clears fresh
  customRequest : agreed.customRequest → used.native.customRequest = fresh.native.customRequest
  size : agreed.size ∨ fresh.announced ≠ [] → used.native.infileSize = fresh.native.infileSize

/-- What returns on the fresh handle returns on the used one, and they agree afterwards. -/
def Carries (before after : Agreed) (set : Verb Unit) : Prop :=
  ∀ used fresh fresh', SameRequest before used fresh → Returns set fresh () fresh' →
    ∃ used', Returns set used () used' ∧ SameRequest after used' fresh'

theorem carries_bind {first second third : Agreed} {set rest : Verb Unit} (here : Carries first second set)
    (there : Carries second third rest) : Carries first third (set >>= fun _ => rest) := by
  intro used fresh fresh' same returns
  obtain ⟨value, middle, ran, left⟩ := bind_returns_iff.mp returns
  obtain ⟨used', ran', same'⟩ := here used fresh middle same ran
  obtain ⟨used'', left', same''⟩ := there used' middle fresh' same' left
  exact ⟨used'', bind_returns_iff.mpr ⟨(), used', ran', left'⟩, same''⟩

theorem carries_pure (agreed : Agreed) : Carries agreed agreed (pure ()) := by
  rintro used fresh fresh' same ⟨⟩
  exact ⟨used, rfl, same⟩

/-- A change of the request that leaves the headers and the size. -/
theorem carries_modify {agreed after : Agreed} {set : RequestState → RequestState}
    (headers : ∀ state, (set state).headers = state.headers)
    (size : ∀ state, (set state).native.infileSize = state.native.infileSize)
    (announced : ∀ state, (set state).announced = state.announced)
    (same : after = { agreed with method := after.method, customRequest := after.customRequest })
    (method : ∀ used fresh, SameRequest agreed used fresh → after.method → SameMethod (set used) (set fresh))
    (clears : ∀ used fresh, SameRequest agreed used fresh → agreed.clears →
      SameMethod (set used) (set fresh) ∨ Clears (set used) ∧ Clears (set fresh))
    (custom : ∀ used fresh, SameRequest agreed used fresh → after.customRequest →
      (set used).native.customRequest = (set fresh).native.customRequest) :
    Carries agreed after (modify set) := by
  rintro used fresh fresh' before ⟨⟩
  refine ⟨set used, rfl, ?_⟩
  rw [same]
  refine ⟨?_, ?_, ?_, ?_, ?_, method used fresh before, clears used fresh before, custom used fresh before, ?_⟩
  · rw [headers]
    exact before.usedPlain
  · rw [headers]
    exact before.freshPlain
  · rw [headers, headers]
    exact before.headers
  · rw [headers, headers]
    exact before.length
  · rw [headers, headers]
    exact before.encoding
  · rw [size, size, announced]
    exact before.size

/-! ## Setters -/

variable {agreed : Agreed}

theorem carries_setBody (body : Text) :
    Carries agreed { agreed with method := True } (modify fun state => state.postBodySet body) := by
  refine carries_modify (fun _ => rfl) (fun _ => rfl) (fun _ => rfl) rfl ?_ ?_ ?_
  · exact fun used fresh same _ => ⟨rfl, rfl, fun _ => rfl, fun put => Method.noConfusion put⟩
  · exact fun used fresh same _ => Or.inl ⟨rfl, rfl, fun _ => rfl, fun put => Method.noConfusion put⟩
  · exact fun used fresh same agreed => same.customRequest agreed

theorem carries_postBody (body : Option (Except RubyError Text)) :
    Carries agreed { agreed with method := True } (postBody body) := by
  cases body with
  | none =>
    refine carries_modify (fun _ => rfl) (fun _ => rfl) (fun _ => rfl) rfl ?_ ?_ ?_
    · exact fun used fresh same _ =>
        ⟨rfl, rfl, fun post => Method.noConfusion post, fun put => Method.noConfusion put⟩
    · exact fun used fresh same _ => Or.inr ⟨List.mem_cons_self, List.mem_cons_self⟩
    · exact fun used fresh same agreed => same.customRequest agreed
  | some form =>
    cases form with
    | ok text => exact carries_setBody text
    | error error =>
      rintro used fresh fresh' same ⟨⟩

theorem SameMethod.setNobody {used fresh : RequestState} (same : SameMethod used fresh) (on : Bool) :
    SameMethod (used.setRequest fun native => native.setNobody on)
      (fresh.setRequest fun native => native.setNobody on) := by
  cases on with
  | true => exact ⟨rfl, rfl, fun post => Method.noConfusion post, fun put => Method.noConfusion put⟩
  | false =>
    have method := same.method
    refine ⟨?_, rfl, fun post => same.fields ?_, fun put => same.stream ?_⟩
    · show (if used.native.method = .head then _ else _) = (if fresh.native.method = .head then _ else _)
      rw [method]
    · change (if fresh.native.method = .head then Method.get else _) = _ at post
      split at post
      · cases post
      · exact post
    · change (if fresh.native.method = .head then Method.get else _) = _ at put
      split at put
      · cases put
      · exact put

theorem Clears.setNobody {state : RequestState} (clears : Clears state) :
    (state.setRequest fun native => native.setNobody false).native.method = .get := by
  show (if state.native.method = .head then Method.get else state.native.method) = .get
  rcases List.mem_cons.mp clears with get | head
  · rw [get]
    rfl
  · rw [if_pos (List.mem_singleton.mp head)]

theorem carries_head (on : Bool) :
    Carries agreed { agreed with method := agreed.method ∨ on = true ∨ agreed.clears }
      (setNative fun native => native.setNobody on) := by
  have cleared {used fresh : RequestState} (low : Clears used ∧ Clears fresh) :
      SameMethod (used.setRequest fun native => native.setNobody on)
        (fresh.setRequest fun native => native.setNobody on) := by
    cases on with
    | true => exact ⟨rfl, rfl, fun post => Method.noConfusion post, fun put => Method.noConfusion put⟩
    | false =>
      refine ⟨low.1.setNobody.trans low.2.setNobody.symm, rfl, fun post => ?_, fun put => ?_⟩
      · cases low.2.setNobody.symm.trans post
      · cases low.2.setNobody.symm.trans put
  refine carries_modify (fun _ => rfl) (fun _ => rfl) (fun _ => rfl) rfl ?_ ?_ ?_
  · rintro used fresh same (agreed | isOn | clears)
    · exact (same.method agreed).setNobody on
    · rw [isOn]
      exact ⟨rfl, rfl, fun post => Method.noConfusion post, fun put => Method.noConfusion put⟩
    · exact (same.clears clears).elim (fun method => method.setNobody on) cleared
  · intro used fresh same clears
    exact Or.inl ((same.clears clears).elim (fun method => method.setNobody on) cleared)
  · intro used fresh same agreed
    have custom := same.customRequest agreed
    cases on <;> exact custom

theorem carries_delete (verb : Option Text) :
    Carries agreed { agreed with customRequest := True }
      (setNative fun native => native.setCustomRequest verb) := by
  refine carries_modify (fun _ => rfl) (fun _ => rfl) (fun _ => rfl) rfl ?_ ?_ ?_
  · intro used fresh same agreed
    obtain ⟨method, nobody, fields, stream⟩ := same.method agreed
    exact ⟨method, nobody, fields, stream⟩
  · intro used fresh same clears
    refine (same.clears clears).imp (fun same => ?_) id
    obtain ⟨method, nobody, fields, stream⟩ := same
    exact ⟨method, nobody, fields, stream⟩
  · exact fun _ _ _ _ => rfl

/-- A header that is set is the same afterwards. -/
theorem carries_storeHeader (header : Text × HeaderValue) :
    Carries agreed { agreed with
      named := fun key => agreed.named key ∧ key ≠ header.1
      length := agreed.length ∨ contentLength = header.1
      encoding := agreed.encoding ∨ transferEncoding = header.1 } (storeHeader header) := by
  intro used fresh fresh' same returns
  have stored (state : RequestState) (key : Text) :
      requestHeaders (.hash ⟨setEntry header.1 header.2 state.headers.asHash.entries, none⟩) key =
        if key = header.1 then header.2 else requestHeaders state.headers key := by
    rw [requestHeaders_asHash state.headers]
    exact headerValue_setEntry ..
  cases (storeHeader_returns same.freshPlain header).unique returns |>.2
  refine ⟨_, storeHeader_returns same.usedPlain header, rfl, rfl, ?_, ?_, ?_, ?_, ?_, ?_, ?_⟩
  · intro key
    dsimp only
    rw [stored, stored]
    by_cases isKey : key = header.1
    · rw [if_pos isKey, if_pos isKey]
      exact Or.inr (Or.inl rfl)
    · rw [if_neg isKey, if_neg isKey]
      exact (same.headers key).imp_left fun named => ⟨named, isKey⟩
  · intro known
    dsimp only
    rw [stored, stored]
    split
    · rfl
    · rename_i other
      exact same.length (known.resolve_right other)
  · intro known
    dsimp only
    rw [stored, stored]
    split
    · rfl
    · rename_i other
      exact same.encoding (known.resolve_right other)
  · intro agreed
    obtain ⟨method, nobody, fields, stream⟩ := same.method agreed
    exact ⟨method, nobody, fields, stream⟩
  · intro clears
    refine (same.clears clears).imp (fun same => ?_) id
    obtain ⟨method, nobody, fields, stream⟩ := same
    exact ⟨method, nobody, fields, stream⟩
  · exact same.customRequest
  · exact same.size

/-! ## Uploads -/

theorem lengthSize_of_length {length : HeaderValue} (isLength : length.isNil = false) (encoding : HeaderValue) :
    lengthSize length encoding = (.nothing, if length.isCTrue then length.toI else .ok .nil) := by
  rw [lengthSize, isLength, if_neg]
  rintro ⟨isNil, _⟩
  cases isNil

/-- What `put_data=` reads of the headers. -/
theorem putSize_congr {given : Option PutObject} {stream : PutStream} {length length' encoding encoding' : HeaderValue}
    (isStream : uploadStream given = .ok stream) (sameLength : Reads given → length = length')
    (sameEncoding : Unstated given → encoding = encoding') :
    putSize stream length encoding given = putSize stream length' encoding' given := by
  cases given with
  | none => rfl
  | some data =>
    cases stream with
    | nil => rfl
    | text text => rfl
    | reader =>
      have read := read_of_uploadStream isStream
      rw [sameLength ⟨data, rfl, read⟩]
      unfold putSize
      dsimp only
      cases stat : data.statValue with
      | error error => rfl
      | ok value =>
        cases value with
        | falsy => rw [sameEncoding ⟨data, rfl, read, stat⟩]
        | object size =>
          dsimp only
          cases isLength : length'.isNil with
          | true => rfl
          | false => rw [lengthSize_of_length isLength, lengthSize_of_length isLength]

/-- A `put_data=` that returns has begun an upload, and may have announced its size. -/
structure Begun (given : Option PutObject) (put after : PutState) (stream : PutStream) (size : SizeValue) : Prop where
  isStream : uploadStream given = .ok stream
  sized : (putSize stream (requestHeaders put.headers contentLength)
    (requestHeaders put.headers transferEncoding) given).2 = .ok size
  finished : put.finish (adding put.headers.asHash (putSize stream (requestHeaders put.headers contentLength)
    (requestHeaders put.headers transferEncoding) given).1) stream size = .ok () after

theorem putData_returns_iff {given : Option PutObject} {put after : PutState} (plain : Plain put.headers) :
    Returns (putData given) put () after ↔ ∃ stream size, Begun given put after stream size := by
  have run {stream : PutStream} (isStream : uploadStream given = .ok stream) :=
    putData_of_stream plain.usable isStream
  have sized (stream : PutStream) := infileSize_plain plain.frozen given stream
  constructor
  · intro returns
    rcases putData_eq given put with ⟨error, raised⟩ | ⟨_, stream, isStream⟩
    · cases raised.symm.trans returns
    · have finished := (run isStream).symm.trans returns
      rw [sized] at finished
      cases size : (putSize stream (put.headers.asHash.aref "Content-Length")
          (put.headers.asHash.aref "Transfer-Encoding") given).2 with
      | error error =>
        rw [size] at finished
        cases finished
      | ok value =>
        rw [size] at finished
        refine ⟨stream, value, isStream, ?_, ?_⟩
        · rw [requestHeaders_asHash]
          exact size
        · rw [requestHeaders_asHash]
          exact finished
  · rintro ⟨stream, size, isStream, found, finished⟩
    rw [requestHeaders_asHash] at found finished
    have converted : infileSize given stream put.headers.asHash = (adding put.headers.asHash _, .ok size) :=
      (sized stream).trans (congrArg (Prod.mk _) found)
    unfold Returns
    rw [run isStream, converted]
    exact finished

/-- What is left of an upload that has begun. -/
theorem finish_eq {put after : PutState} {changed : HeaderHash} {stream : PutStream} {size : SizeValue}
    (finished : put.finish changed stream size = .ok () after) :
    after.headers = .hash changed ∧ after.upload.map Prod.snd = some stream ∧
      after.native.toNativeRequest =
        ((put.native.toNativeRequest.setNobody false).setPost false).setUpload true ∧
      (size.isNil = true ∧ after.native.infileSize = put.native.infileSize ∧ after.announced = put.announced ∨
        ∃ number, size.isNil = false ∧ size.num2long = .ok number ∧ after.native.infileSize = number) := by
  unfold PutState.finish at finished
  cases isNil : size.isNil with
  | true =>
    rw [isNil] at finished
    cases finished
    exact ⟨rfl, rfl, rfl, Or.inl ⟨rfl, rfl, rfl⟩⟩
  | false =>
    rw [isNil] at finished
    cases long : size.num2long with
    | error error =>
      rw [long] at finished
      cases finished
    | ok number =>
      rw [long] at finished
      cases finished
      exact ⟨rfl, rfl, rfl, Or.inr ⟨number, rfl, rfl, rfl⟩⟩

/-- A size that the one accepts the other does. -/
theorem finish_returns_of {put after : PutState} {changed : HeaderHash} {stream : PutStream} {size : SizeValue}
    (put' : PutState) (changed' : HeaderHash) (finished : put.finish changed stream size = .ok () after) :
    ∃ after', put'.finish changed' stream size = .ok () after' := by
  unfold PutState.finish at finished ⊢
  cases isNil : size.isNil with
  | true => exact ⟨_, rfl⟩
  | false =>
    rw [isNil] at finished
    cases long : size.num2long with
    | error error =>
      rw [long] at finished
      cases finished
    | ok number => exact ⟨_, rfl⟩

/-- What an upload adds to the headers, in lockstep. -/
theorem adding_alike (own : Text → HeaderValue) {headers headers' : HeaderHash} (adds : Adds) (key : Text)
    (alike : headerValue headers.entries key = headerValue headers'.entries key ∨
      (headerValue headers.entries key).isNil = false ∧ headerValue headers.entries key = own key)
 :
    headerValue (adding headers adds).entries key = headerValue (adding headers' adds).entries key ∨
      (headerValue (adding headers adds).entries key).isNil = false ∧
        headerValue (adding headers adds).entries key = own key := by
  rw [headerValue_adding, headerValue_adding]
  cases adds with
  | nothing => exact alike
  | chunked =>
    by_cases isKey : key = transferEncoding
    · simp only [if_pos isKey, true_or]
    · simp only [if_neg isKey]
      exact alike
  | expect =>
    rcases alike with same | ⟨isSet, isOwn⟩
    · simp only [same, true_or]
    · have kept : ¬(key = expect ∧ (headerValue headers.entries key).isNil = true) := by
        rw [isSet]
        exact fun both => Bool.false_ne_true both.2
      simp only [if_neg kept]
      exact Or.inr ⟨isSet, isOwn⟩

/-- A header that is the same on both handles still is when both have begun the same upload. -/
theorem adding_congr {headers headers' : HeaderHash} (adds : Adds) {key : Text}
    (same : headerValue headers.entries key = headerValue headers'.entries key) :
    headerValue (adding headers adds).entries key = headerValue (adding headers' adds).entries key := by
  rw [headerValue_adding, headerValue_adding, same]

theorem sameMethod_of_upload {used fresh : RequestState} {stream : PutStream}
    (usedPut : used.native.toNativeRequest.method = .put) (freshPut : fresh.native.toNativeRequest.method = .put)
    (usedBody : used.native.toNativeRequest.nobody = false) (freshBody : fresh.native.toNativeRequest.nobody = false)
    (usedStream : used.upload.map Prod.snd = some stream) (freshStream : fresh.upload.map Prod.snd = some stream) :
    SameMethod used fresh where
  method := usedPut.trans freshPut.symm
  nobody := usedBody.trans freshBody.symm
  fields := by
    intro post
    cases freshPut.symm.trans post
  stream := fun _ => usedStream.trans freshStream.symm

theorem carries_put {given : Option PutObject} (length : Reads given → agreed.length)
    (encoding : Unstated given → agreed.encoding) :
    Carries agreed { agreed with method := True } (putDataSet given) := by
  intro used fresh fresh' same returns
  obtain ⟨put', ran, rfl⟩ := zoom_returns_iff.mp returns
  obtain ⟨stream, size, begun⟩ := (putData_returns_iff same.freshPlain).mp ran
  have congr := putSize_congr begun.isStream (fun reads => same.length (length reads))
    (fun unstated => same.encoding (encoding unstated))
  obtain ⟨after, finished⟩ := finish_returns_of used.toPutState
    (adding used.headers.asHash (putSize stream (requestHeaders used.headers contentLength)
      (requestHeaders used.headers transferEncoding) given).1) begun.finished
  have began : Begun given used.toPutState after stream size := by
    refine ⟨begun.isStream, ?_, finished⟩
    rw [congr]
    exact begun.sized
  have ran' := (putData_returns_iff same.usedPlain).mpr ⟨stream, size, began⟩
  refine ⟨_, zoom_returns_iff.mpr ⟨after, ran', rfl⟩, ?_⟩
  rw [congr] at finished
  obtain ⟨headers, upload, request, sized⟩ := finish_eq finished
  obtain ⟨headers', upload', request', sized'⟩ := finish_eq begun.finished
  have method (native : NativeRequest) : (((native.setNobody false).setPost false).setUpload true).method = .put ∧
      (((native.setNobody false).setPost false).setUpload true).nobody = false := ⟨rfl, rfl⟩
  have alike : SameMethod { used with toPutState := after } { fresh with toPutState := put' } := by
    refine sameMethod_of_upload ?_ ?_ ?_ ?_ upload upload'
    · exact (congrArg NativeRequest.method request).trans (method _).1
    · exact (congrArg NativeRequest.method request').trans (method _).1
    · exact (congrArg NativeRequest.nobody request).trans (method _).2
    · exact (congrArg NativeRequest.nobody request').trans (method _).2
  have kept {key : Text} (known : requestHeaders used.headers key = requestHeaders fresh.headers key) :
      requestHeaders after.headers key = requestHeaders put'.headers key := by
    rw [headers, headers']
    refine adding_congr _ ?_
    rw [← requestHeaders_asHash, ← requestHeaders_asHash]
    exact known
  refine ⟨?_, ?_, ?_, fun known => kept (same.length known), fun known => kept (same.encoding known),
    fun _ => alike, fun _ => Or.inl alike, ?_, ?_⟩
  · show Plain after.headers
    rw [headers]
    exact (adding_frozen _ _).trans same.usedPlain.frozen
  · show Plain put'.headers
    rw [headers']
    exact (adding_frozen _ _).trans same.freshPlain.frozen
  · intro key
    show _ ∨ requestHeaders after.headers key = requestHeaders put'.headers key ∨
      (requestHeaders after.headers key).isNil = false ∧ requestHeaders after.headers key = _
    rw [headers, headers']
    refine (same.headers key).imp_right fun known => adding_alike agreed.own _ key ?_
    rw [← requestHeaders_asHash, ← requestHeaders_asHash]
    exact known
  · intro known
    show after.native.toNativeRequest.customRequest = put'.native.toNativeRequest.customRequest
    rw [request, request']
    exact same.customRequest known
  · show _ ∨ put'.announced ≠ [] → after.native.infileSize = put'.native.infileSize
    intro known
    rcases sized' with ⟨isNil, left, told⟩ | ⟨number, notNil, isNumber, told⟩
    · rcases sized with ⟨-, left', -⟩ | ⟨-, notNil', -, -⟩
      · rw [left, left']
        rw [told] at known
        exact same.size known
      · cases isNil.symm.trans notNil'
    · rcases sized with ⟨isNil', -, -⟩ | ⟨number', -, isNumber', told'⟩
      · cases isNil'.symm.trans notNil
      · cases isNumber.symm.trans isNumber'
        exact told'.trans told.symm

/-! ## The method and the headers -/

/-- The one knows no more than the other. -/
structure Agreed.Weaker (weak strong : Agreed) : Prop where
  named : ∀ key, strong.named key → weak.named key
  own : weak.own = strong.own
  length : weak.length → strong.length
  encoding : weak.encoding → strong.encoding
  method : weak.method → strong.method
  clears : weak.clears → strong.clears
  customRequest : weak.customRequest → strong.customRequest
  size : weak.size → strong.size
  attributes : ∀ name, weak.attributes name → strong.attributes name

theorem SameRequest.weaken {weak strong : Agreed} {used fresh : RequestState} (same : SameRequest strong used fresh)
    (weaker : weak.Weaker strong) : SameRequest weak used fresh where
  usedPlain := same.usedPlain
  freshPlain := same.freshPlain
  headers key := by
    rw [weaker.own]
    exact (same.headers key).imp_left (weaker.named key)
  length known := same.length (weaker.length known)
  encoding known := same.encoding (weaker.encoding known)
  method known := same.method (weaker.method known)
  clears known := same.clears (weaker.clears known)
  customRequest known := same.customRequest (weaker.customRequest known)
  size known := same.size (known.imp_left weaker.size)

theorem Carries.weaken {before weak strong : Agreed} {set : Verb Unit} (carries : Carries before strong set)
    (weaker : weak.Weaker strong) : Carries before weak set := by
  intro used fresh fresh' same returns
  obtain ⟨used', returns', same'⟩ := carries used fresh fresh' same returns
  exact ⟨used', returns', same'.weaken weaker⟩

theorem carries_headers (headers : List (Text × HeaderValue)) (agreed : Agreed) :
    Carries agreed { agreed with
      named := fun key => agreed.named key ∧ key ∉ headers.map Prod.fst
      length := agreed.length ∨ contentLength ∈ headers.map Prod.fst
      encoding := agreed.encoding ∨ transferEncoding ∈ headers.map Prod.fst } (headers.forM storeHeader) := by
  induction headers generalizing agreed with
  | nil =>
    refine (carries_pure agreed).weaken ⟨?_, rfl, ?_, ?_, id, id, id, id, fun _ => id⟩
    · exact fun key named => ⟨named, List.not_mem_nil⟩
    · exact fun known => known.resolve_right List.not_mem_nil
    · exact fun known => known.resolve_right List.not_mem_nil
  | cons header rest ih =>
    refine Carries.weaken (carries_bind (carries_storeHeader header) (ih _))
      ⟨?_, rfl, ?_, ?_, id, id, id, id, fun _ => id⟩
    · rintro key ⟨⟨named, other⟩, notRest⟩
      exact ⟨named, List.not_mem_cons_of_ne_of_not_mem other notRest⟩
    · simp only [List.map_cons, List.mem_cons]
      tauto
    · simp only [List.map_cons, List.mem_cons]
      tauto

/-- What a reader asks of the headers is known. -/
def Agreed.Sizes (agreed : Agreed) (given : Option PutObject) : Prop :=
  (Reads given → agreed.length) ∧ (Unstated given → agreed.encoding)

theorem carries_method (method : ConfigMethod) (sizes : ∀ given, method = .put given → agreed.Sizes given) :
    Carries agreed { agreed with
      method := agreed.method ∨ method.selects = true
      customRequest := agreed.customRequest ∨ method = .delete } method.set := by
  have unselected {rest : ConfigMethod} (none : rest.selects = false) (known : agreed.method ∨ rest.selects = true) :
      agreed.method := by
    rw [none] at known
    exact known.resolve_right Bool.false_ne_true
  cases method with
  | post fields =>
    intro used fresh fresh' same returns
    obtain ⟨body, middle, isBody, rest⟩ := bind_returns_iff.mp returns
    obtain ⟨escaped, unchanged⟩ := returns_fromExcept_iff.mp isBody
    rw [unchanged] at rest
    obtain ⟨used', ran, same'⟩ := carries_postBody (some (.ok (Form.bytesText body))) used fresh fresh' same rest
    refine ⟨used', bind_returns_iff.mpr ⟨body, used, returns_fromExcept_iff.mpr ⟨escaped, rfl⟩, ran⟩, ?_⟩
    refine same'.weaken ⟨fun _ => id, rfl, id, id, fun _ => trivial, id, ?_, id, fun _ => id⟩
    exact fun known => known.resolve_right ConfigMethod.noConfusion
  | put given =>
    refine Carries.weaken (carries_put (sizes given rfl).1 (sizes given rfl).2)
      ⟨fun _ => id, rfl, id, id, fun _ => trivial, id, ?_, id, fun _ => id⟩
    exact fun known => known.resolve_right ConfigMethod.noConfusion
  | head =>
    refine (carries_head true).weaken
      ⟨fun _ => id, rfl, id, id, fun _ => Or.inr (Or.inl rfl), id, ?_, id, fun _ => id⟩
    exact fun known => known.resolve_right ConfigMethod.noConfusion
  | delete =>
    exact (carries_delete _).weaken
      ⟨fun _ => id, rfl, id, id, unselected rfl, id, fun _ => trivial, id, fun _ => id⟩
  | get =>
    refine (carries_pure agreed).weaken ⟨fun _ => id, rfl, id, id, unselected rfl, id, ?_, id, fun _ => id⟩
    exact fun known => known.resolve_right ConfigMethod.noConfusion
  | other =>
    refine (carries_pure agreed).weaken ⟨fun _ => id, rfl, id, id, unselected rfl, id, ?_, id, fun _ => id⟩
    exact fun known => known.resolve_right ConfigMethod.noConfusion

end Curb.Http

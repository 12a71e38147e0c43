import Curb.Easy.PutDataAtomic

/-!
# When `put_data=` returns

What its data and the headers must give it, and the upload it then selects.
-/

namespace Curb.Easy
open Curb.Misc Curb.Ruby

variable {headers : HeaderHash} {data : PutObject}

/-- `Expect` can be set, or is. -/
def HeaderHash.TakesExpect (headers : HeaderHash) : Prop :=
  headers.frozen = none ∨ (headers.aref "Expect").isNil = false

/-- A size that is `nil` or a `long`. -/
def SizeValue.Fits (size : SizeValue) : Prop := size.isNil = false → ∃ long, size.num2long = .ok long

/-- The data has a string form or a size, and the headers it needs can be set. -/
inductive PutObject.Converts (data : PutObject) (headers : HeaderHash) : Prop where
  | text (noRead : data.read = false) (form : ∃ text, data.toS = some (.ok text))
      (takes : headers.TakesExpect)
  | stat (read : data.read = true) (size : SizeValue) (stat : data.statValue = .ok (.object (.ok size)))
      (noLength : (headers.aref "Content-Length").isNil = true) (takes : headers.TakesExpect)
      (fits : size.Fits)
  | length (read : data.read = true) (asked : ∃ value, data.statValue = .ok value)
      (isLength : (headers.aref "Content-Length").isNil = false)
      (fits : (headers.aref "Content-Length").isCTrue = true →
        ∃ size, (headers.aref "Content-Length").toI = .ok size ∧ size.Fits)
  | unsized (read : data.read = true) (stat : data.statValue = .ok .falsy)
      (noLength : (headers.aref "Content-Length").isNil = true)
      (takes : headers.frozen = none ∨ (headers.aref "Transfer-Encoding").isNil = false)

/-- `put_data=` does not raise. -/
def PutObject.Convertible (headers : PutHeaders) (data : PutObject) : Prop :=
  headers.Usable ∧ data.Converts headers.asHash

/-! ## Runs that return -/

theorem lengthOrChunked_of_length (isLength : (headers.aref "Content-Length").isNil = false) :
    lengthOrChunked headers = if (headers.aref "Content-Length").isCTrue
      then (headers, (headers.aref "Content-Length").toI) else (headers, .ok .nil) := by
  unfold lengthOrChunked
  dsimp only
  rw [isLength, if_neg]
  rintro ⟨isNil, _⟩
  cases isNil

/-- The headers can be told that a reader has no size, or need not be. -/
theorem lengthOrChunked_of_noLength (noLength : (headers.aref "Content-Length").isNil = true) :
    (∃ changed size, lengthOrChunked headers = (changed, .ok size)) ↔
      headers.frozen = none ∨ (headers.aref "Transfer-Encoding").isNil = false := by
  unfold lengthOrChunked HeaderHash.aset
  dsimp only
  rw [HeaderValue.eq_nil noLength]
  cases (headers.aref "Transfer-Encoding").isNil with
  | false => simp [HeaderValue.isNil, HeaderValue.isCTrue, HeaderValue.toI]
  | true => cases headers.frozen <;> simp [HeaderValue.isNil, Except.map]

/-- A size that is found where there is no `Content-Length` is `nil` or 0. -/
theorem fits_of_noLength {changed : HeaderHash} {size : SizeValue}
    (noLength : (headers.aref "Content-Length").isNil = true)
    (sized : lengthOrChunked headers = (changed, .ok size)) : size.Fits := by
  rcases lengthOrChunked_ok sized with ⟨_, _, isNil, _⟩ | ⟨_, _, rfl⟩ | ⟨isLength, _⟩
  · intro notNil
    cases isNil.symm.trans notNil
  · exact fun _ => ⟨0, rfl⟩
  · cases isLength.symm.trans noLength

/-- The steps of `put_data=` that may raise go through. -/
def PutObject.Sized (data : PutObject) (headers : HeaderHash) : Prop :=
  ∃ stream changed size, uploadStream (some data) = .ok stream ∧
    infileSize (some data) stream headers = (changed, .ok size) ∧ size.Fits

theorem sized_of_converts (converts : data.Converts headers) : data.Sized headers := by
  cases converts with
  | text noRead form takes =>
    obtain ⟨text, form⟩ := form
    obtain ⟨changed, added⟩ := addExpect_takes takes
    refine ⟨.text text, changed, .long text.length, ?_, ?_, fun _ => ⟨_, rfl⟩⟩
    · simp [uploadStream, noRead, form]
    · simp [infileSize, added, Except.map]
  | stat read size stat noLength takes fits =>
    obtain ⟨changed, sized⟩ := readerSize_of_sizeFrom (.stat stat noLength takes)
    exact ⟨.reader, changed, size, uploadStream_of_read read, sized, fits⟩
  | length read asked isLength fits =>
    cases isTrue : (headers.aref "Content-Length").isCTrue with
    | true =>
      obtain ⟨size, toI, fits⟩ := fits isTrue
      obtain ⟨changed, sized⟩ := readerSize_of_sizeFrom (.length asked isLength toI)
      exact ⟨.reader, changed, size, uploadStream_of_read read, sized, fits⟩
    | false =>
      obtain ⟨value, stat⟩ := asked
      have sized : readerSize data headers = (headers, .ok .nil) := by
        have unsized := lengthOrChunked_of_length isLength
        rw [isTrue] at unsized
        cases value <;> simp [readerSize, stat, isLength, unsized]
      refine ⟨.reader, headers, .nil, uploadStream_of_read read, sized, ?_⟩
      intro notNil
      cases notNil
  | unsized read stat noLength takes =>
    obtain ⟨changed, size, sized⟩ := (lengthOrChunked_of_noLength noLength).mpr takes
    refine ⟨.reader, changed, size, uploadStream_of_read read, ?_, fits_of_noLength noLength sized⟩
    show readerSize data headers = _
    rw [readerSize, stat]
    exact sized

theorem converts_of_sized (sized : data.Sized headers) : data.Converts headers := by
  obtain ⟨stream, changed, size, isStream, sized, fits⟩ := sized
  cases read : data.read with
  | false =>
    obtain ⟨text, form, rfl⟩ := uploadStream_of_no_read read isStream
    exact .text read ⟨text, form⟩ (addExpect_ok (infileSize_text sized).1)
  | true =>
    rw [uploadStream_of_read read] at isStream
    cases isStream
    change readerSize data headers = _ at sized
    have asked := readerSize_stat sized
    rcases readerSize_ok sized with ⟨stat, noLength, added⟩ | ⟨way, sized⟩
    · exact .stat read size stat noLength (addExpect_ok added) fits
    · cases length : (headers.aref "Content-Length").isNil with
      | false =>
        refine .length read asked length fun isTrue => ⟨size, ?_, fits⟩
        rw [lengthOrChunked_of_length length, if_pos isTrue] at sized
        exact (Prod.mk.inj sized).2
      | true =>
        have stat := way.resolve_right (by rw [length]; decide)
        exact .unsized read stat length ((lengthOrChunked_of_noLength length).mp ⟨changed, size, sized⟩)

/-- `put_data=` selects an upload that was not there before. -/
structure Uploads (before after : PutState) : Prop where
  request : after.native.toNativeRequest =
    ((before.native.toNativeRequest.setNobody false).setPost false).setUpload true
  upload : ∃ object, after.upload = some object ∧ before.nextUpload ≤ object.1

/-- `put_data=` either returns and selects an upload, or raises; where it raises the request is that of before, or
an upload. -/
theorem putData_spec (data : PutObject) (put : PutState) :
    (data.Convertible put.headers ∧ ∃ after, Returns (putData (some data)) put () after ∧ Uploads put after) ∨
    (¬data.Convertible put.headers ∧ ∃ error after, Raises (putData (some data)) put error after ∧
      (after.native.toNativeRequest = put.native.toNativeRequest ∨ Uploads put after)) := by
  have unsized {stream : PutStream} (isStream : uploadStream (some data) = .ok stream)
      (unfit : ∀ changed size, infileSize (some data) stream put.headers.asHash = (changed, .ok size) →
        ¬size.Fits) : ¬data.Convertible put.headers := by
    rintro ⟨_, converts⟩
    obtain ⟨stream', changed, size, isStream', sized, fits⟩ := sized_of_converts converts
    cases isStream'.symm.trans isStream
    exact unfit changed size sized fits
  rcases putData_eq (some data) put with ⟨error, raised⟩ | ⟨usable, stream, isStream⟩
  · refine Or.inr ⟨?_, error, put, raised, Or.inl rfl⟩
    rintro ⟨usable, converts⟩
    obtain ⟨stream, changed, size, isStream, sized, fits⟩ := sized_of_converts converts
    have run := putData_of_stream usable isStream
    rw [raised, sized] at run
    dsimp only at run
    unfold PutState.finish at run
    cases isNil : size.isNil with
    | true =>
      rw [isNil] at run
      cases run
    | false =>
      obtain ⟨long, isLong⟩ := fits isNil
      rw [isNil, isLong] at run
      cases run
  · have run := putData_of_stream usable isStream
    cases sized : infileSize (some data) stream put.headers.asHash with
    | mk changed result =>
      rw [sized] at run
      cases result with
      | error error =>
        refine Or.inr ⟨unsized isStream ?_, error, _, run, Or.inl ?_⟩
        · intro changed' size' same
          cases sized.symm.trans same
        · unfold PutState.inPlace
          split <;> rfl
      | ok size =>
        have begun : Uploads put (put.begun changed stream) := ⟨rfl, _, rfl, le_refl _⟩
        dsimp only at run
        by_cases fits : size.Fits
        · refine Or.inl ⟨⟨usable, converts_of_sized ⟨stream, changed, size, isStream, sized, fits⟩⟩, ?_⟩
          unfold PutState.finish at run
          cases isNil : size.isNil with
          | true =>
            rw [isNil] at run
            exact ⟨_, run, begun⟩
          | false =>
            obtain ⟨long, isLong⟩ := fits isNil
            rw [isNil, isLong] at run
            exact ⟨_, run, begun.request, begun.upload⟩
        · have unfit := fits
          unfold SizeValue.Fits at fits
          push Not at fits
          obtain ⟨notNil, notLong⟩ := fits
          refine Or.inr ⟨unsized isStream ?_, ?_⟩
          · intro changed' size' same
            cases sized.symm.trans same
            exact unfit
          · cases long : size.num2long with
            | ok number => exact absurd long (notLong number)
            | error error =>
              rw [finish_of_refused notNil long] at run
              exact ⟨error, _, run, Or.inr begun⟩

/-- Whatever the data, the request is that of before or an upload. -/
theorem putData_request (given : Option PutObject) (put : PutState) :
    (finalState (putData given) put).native.toNativeRequest = put.native.toNativeRequest ∨
      (finalState (putData given) put).native.toNativeRequest =
        ((put.native.toNativeRequest.setNobody false).setPost false).setUpload true := by
  unfold finalState
  rcases putData_eq given put with ⟨error, raised⟩ | ⟨usable, stream, isStream⟩
  · rw [raised]
    exact Or.inl rfl
  · rw [putData_of_stream usable isStream]
    cases sized : infileSize given stream put.headers.asHash with
    | mk changed result =>
      cases result with
      | error error =>
        left
        dsimp only
        unfold PutState.inPlace
        split <;> rfl
      | ok size =>
        right
        dsimp only
        unfold PutState.finish
        cases size.isNil with
        | true => rfl
        | false => cases size.num2long <;> rfl

end Curb.Easy

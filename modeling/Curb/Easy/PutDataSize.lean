import Curb.Easy.PutData

/-!
# What `put_data=` announces, and what it leaves when it raises

The size it gives to libcurl against the sizes there are, and the changes it has made when a step raises.
-/

namespace Curb.Easy
open Curb.Misc Curb.Ruby

/-! ## Headers -/

/-- The `Hash` the headers are, or a new one. -/
def PutHeaders.asHash : PutHeaders → HeaderHash
  | .hash headers => headers
  | _ => ⟨[], none⟩

theorem find?_setEntry_ne {key other : Text} (value : HeaderValue) (ne : other ≠ key)
    (entries : List (Text × HeaderValue)) :
    (setEntry key value entries).find? (fun entry => entry.1 == other) =
      entries.find? fun entry => entry.1 == other := by
  induction entries with
  | nil => simp [setEntry, Ne.symm ne]
  | cons entry rest ih =>
    by_cases here : entry.1 = key
    · have skipped : (entry.1 == other) = false := by simp [here, Ne.symm ne]
      have skippedNew : (key == other) = false := by simp [Ne.symm ne]
      rw [setEntry, if_pos here, List.find?_cons, List.find?_cons, skipped, skippedNew]
    · rw [setEntry, if_neg here, List.find?_cons, List.find?_cons, ih]

theorem find?_setEntry_self (key : Text) (value : HeaderValue) (entries : List (Text × HeaderValue)) :
    (setEntry key value entries).find? (fun entry => entry.1 == key) = some (key, value) := by
  induction entries with
  | nil => simp [setEntry]
  | cons entry rest ih =>
    by_cases here : entry.1 = key
    · simp [setEntry, here]
    · have skipped : (entry.1 == key) = false := by simp [here]
      rw [setEntry, if_neg here, List.find?_cons, skipped, ih]

variable {headers changed : HeaderHash} {key value : String}

/-- A header that is set is set where the `Hash` is not frozen. -/
theorem aset_ok (ok : headers.aset key value = (changed, .ok ())) : headers.frozen = none ∧
    changed = { headers with entries := setEntry key.toList (.text value.toList) headers.entries } := by
  unfold HeaderHash.aset at ok
  split at ok
  · cases ok
  · rename_i notFrozen
    cases ok
    exact ⟨notFrozen, rfl⟩

theorem aset_error {error : RubyError} (raised : headers.aset key value = (changed, .error error)) :
    changed = headers := by
  unfold HeaderHash.aset at raised
  split at raised
  · cases raised
    rfl
  · cases raised

theorem aref_aset_self (ok : headers.aset key value = (changed, .ok ())) :
    changed.aref key = .text value.toList := by
  obtain ⟨-, rfl⟩ := aset_ok ok
  unfold HeaderHash.aref
  rw [find?_setEntry_self]

variable {data : PutObject} {size : SizeValue}

theorem HeaderValue.eq_nil {value : HeaderValue} (isNil : value.isNil = true) : value = .nil := by
  cases value with
  | nil => rfl
  | _ => cases isNil

/-- Where `stat` is not asked, `Transfer-Encoding` is set, or the size is that of `Content-Length`. -/
theorem lengthOrChunked_ok (ok : lengthOrChunked headers = (changed, .ok size)) :
    ((headers.aref "Content-Length").isNil = true ∧ (headers.aref "Transfer-Encoding").isNil = true ∧
      size.isNil = true ∧ headers.aset "Transfer-Encoding" "chunked" = (changed, .ok ())) ∨
    ((headers.aref "Content-Length").isNil = true ∧ (headers.aref "Transfer-Encoding").isNil = false ∧
      size = .number 0) ∨
    ((headers.aref "Content-Length").isNil = false ∧ changed = headers ∧
      ((headers.aref "Content-Length").toI = .ok size ∨ size.isNil = true)) := by
  unfold lengthOrChunked at ok
  dsimp only at ok
  split at ok
  · rename_i both
    cases set : headers.aset "Transfer-Encoding" "chunked" with
    | mk after result =>
      rw [set] at ok
      cases result with
      | error error => cases ok
      | ok done =>
        cases ok
        exact Or.inl ⟨both.1, both.2, rfl, rfl⟩
  · rename_i notBoth
    right
    cases isNil : (headers.aref "Content-Length").isNil with
    | true =>
      rw [HeaderValue.eq_nil isNil] at ok
      cases ok
      refine Or.inl ⟨rfl, ?_, rfl⟩
      rw [isNil] at notBoth
      simpa using notBoth
    | false =>
      refine Or.inr ⟨rfl, ?_⟩
      split at ok
      · obtain ⟨rfl, length⟩ := Prod.mk.inj ok
        exact ⟨rfl, Or.inl length⟩
      · cases ok
        exact ⟨rfl, Or.inr rfl⟩

/-- The ways of a reader to a size, or to none. -/
theorem readerSize_ok (ok : readerSize data headers = (changed, .ok size)) :
    (data.statValue = .ok (.object (.ok size)) ∧ (headers.aref "Content-Length").isNil = true ∧
      headers.addExpect = (changed, .ok ())) ∨
    ((data.statValue = .ok .falsy ∨ (headers.aref "Content-Length").isNil = false) ∧
      lengthOrChunked headers = (changed, .ok size)) := by
  unfold readerSize at ok
  cases stat : data.statValue with
  | error error =>
    rw [stat] at ok
    cases ok
  | ok value =>
    rw [stat] at ok
    cases value with
    | falsy => exact Or.inr ⟨Or.inl rfl, ok⟩
    | object asked =>
      dsimp only at ok
      split at ok
      · rename_i isNil
        cases added : headers.addExpect with
        | mk after result =>
          rw [added] at ok
          cases result with
          | error error => cases ok
          | ok done =>
            obtain ⟨rfl, same⟩ := Prod.mk.inj ok
            cases same
            exact Or.inl ⟨rfl, isNil, rfl⟩
      · rename_i notNil
        exact Or.inr ⟨Or.inr (Bool.eq_false_iff.mpr notNil), ok⟩

/-! ## Runs -/

variable {state after : PutState} {given : Option PutObject} {stream : PutStream}

/-- `headers` and `upload` are replaced and the options of an upload set. -/
def PutState.begun (state : PutState) (changed : HeaderHash) (stream : PutStream) : PutState :=
  let stored := ({ state with headers := .hash changed }).newUpload stream
  { stored with native := state.native.beginUpload }

/-- The `Hash` of the caller is changed in place. -/
def PutState.inPlace (state : PutState) (changed : HeaderHash) : PutState :=
  match state.headers with
  | .hash _ => { state with headers := .hash changed }
  | _ => state

/-- The end of a run, from the size that was found. -/
def PutState.finish (state : PutState) (changed : HeaderHash) (stream : PutStream) (size : SizeValue) :
    EStateM.Result RubyError PutState Unit :=
  if size.isNil then .ok () (state.begun changed stream)
  else
    match size.num2long with
    | .error error => .error error (state.begun changed stream)
    | .ok number => .ok () ((state.begun changed stream).announce number)

theorem putDataWith_eq (headers : HeaderHash) (stored : Bool)
    (isStream : uploadStream given = .ok stream) :
    putDataWith headers stored given state =
      match infileSize given stream headers with
      | (changed, .error error) =>
          .error error (if stored then { state with headers := .hash changed } else state)
      | (changed, .ok size) => state.finish changed stream size := by
  unfold putDataWith
  rw [isStream]
  dsimp only
  obtain ⟨changed, result⟩ := infileSize given stream headers
  cases result with
  | error error => rfl
  | ok size =>
    dsimp only
    unfold PutState.finish
    cases size.isNil with
    | true => rfl
    | false =>
      cases size.num2long with
      | error error => rfl
      | ok number => rfl

/-- The headers are a `Hash`, or there are none. -/
def PutHeaders.Usable : PutHeaders → Prop
  | .array => False
  | .string => False
  | .nil => True
  | .hash _ => True

/-- Headers that are no `Hash` are refused at once. -/
theorem putData_of_not_usable (unusable : ¬state.headers.Usable) :
    putData given state = .error headersNotHash state := by
  unfold putData
  rw [get_bind_apply]
  cases same : state.headers with
  | array => rfl
  | string => rfl
  | nil =>
    rw [same] at unusable
    exact absurd trivial unusable
  | hash headers =>
    rw [same] at unusable
    exact absurd trivial unusable

theorem putData_of_usable (given : Option PutObject) (usable : state.headers.Usable) :
    ∃ stored, (∀ changed, (if stored then { state with headers := .hash changed } else state) =
        state.inPlace changed) ∧
      putData given state = putDataWith state.headers.asHash stored given state := by
  unfold putData PutState.inPlace
  rw [get_bind_apply]
  cases same : state.headers with
  | array =>
    rw [same] at usable
    cases usable
  | string =>
    rw [same] at usable
    cases usable
  | nil => exact ⟨false, fun changed => rfl, rfl⟩
  | hash headers => exact ⟨true, fun changed => rfl, rfl⟩

/-- With a stream the run goes to the size. -/
theorem putData_of_stream (usable : state.headers.Usable) (isStream : uploadStream given = .ok stream) :
    putData given state =
      match infileSize given stream state.headers.asHash with
      | (changed, .error error) => .error error (state.inPlace changed)
      | (changed, .ok size) => state.finish changed stream size := by
  obtain ⟨stored, inPlace, started⟩ := putData_of_usable given usable
  rw [started, putDataWith_eq _ _ isStream]
  simp only [inPlace]

/-- One run of `put_data=`: refused at once, stopped before or at the size, or gone through. -/
theorem putData_eq (given : Option PutObject) (state : PutState) :
    (∃ error, putData given state = .error error state) ∨
    state.headers.Usable ∧ ∃ stream, uploadStream given = .ok stream := by
  by_cases usable : state.headers.Usable
  · cases isStream : uploadStream given with
    | ok stream => exact Or.inr ⟨usable, stream, rfl⟩
    | error error =>
      obtain ⟨stored, -, started⟩ := putData_of_usable given usable
      refine Or.inl ⟨error, ?_⟩
      rw [started, putDataWith, isStream]
      rfl
  · exact Or.inl ⟨headersNotHash, putData_of_not_usable usable⟩

/-! ## Sizes that are known -/

/-- The number libcurl is given for a size, where it is one. -/
def SizeValue.number? (size : SizeValue) : Option Int := if size.isNil then none else size.num2long.toOption

/-- The integer value of the `Content-Length` header. -/
def HeaderHash.lengthSize (headers : HeaderHash) : Option Int :=
  if (headers.aref "Content-Length").isNil then none
  else (headers.aref "Content-Length").toI.toOption.bind SizeValue.number?

theorem uploadStream_of_no_read (read : data.read = false) (isStream : uploadStream (some data) = .ok stream) :
    ∃ text, data.toS = some (.ok text) ∧ stream = .text text := by
  simp only [uploadStream, read, Bool.false_eq_true, if_false] at isStream
  split at isStream
  · rename_i text form
    cases isStream
    exact ⟨text, form, rfl⟩
  · cases isStream
  · cases isStream

/-- The size of a text is its length, and `Expect` is set. -/
theorem infileSize_text {text : Text} (sized : infileSize (some data) (.text text) headers = (changed, .ok size)) :
    headers.addExpect = (changed, .ok ()) ∧ size = .long text.length := by
  unfold infileSize at sized
  cases added : headers.addExpect with
  | mk after result =>
    rw [added] at sized
    cases result with
    | error error => cases sized
    | ok done =>
      cases sized
      exact ⟨rfl, rfl⟩

end Curb.Easy

import Curb.Easy.PutDataSize

/-!
# What `put_data=` leaves when it raises

The size of a `stat` is asked after the `Expect` header has been set in the caller's `Hash`, and a size is
converted after everything else has been changed. The other steps that raise come before the changes.
-/

namespace Curb.Easy
open Curb.Misc Curb.Ruby

variable {headers changed : HeaderHash} {data : PutObject} {size : SizeValue} {error : RubyError}
  {state after : PutState} {given : Option PutObject} {stream : PutStream}

/-- The headers with what is in them, the upload and the options are as before. -/
structure Untouched (before after : PutState) : Prop where
  headers : after.headers = before.headers
  upload : after.upload = before.upload
  native : after.native = before.native

/-- Where it raises, nothing is changed. -/
def AtomicOnError (data : Option PutObject) (state : PutState) : Prop :=
  ∀ error after, Raises (putData data) state error after → Untouched state after

/-- The caller's `Hash` has no `Content-Length` and takes a new `Expect`, and the `size` of the `stat`
raises. -/
structure StatSizeRaises (data : PutObject) (state : PutState) (headers : HeaderHash) : Prop where
  stored : state.headers = .hash headers
  noLength : (headers.aref "Content-Length").isNil = true
  noExpect : (headers.aref "Expect").isNil = true
  notFrozen : headers.frozen = none
  stat : ∃ error, data.statValue = .ok (.object (.error error))

/-- The size is that of the `stat` where there is no `Content-Length` and `Expect` can be set, and the integer
value of a `Content-Length` where the `stat` does not raise. -/
inductive SizeFrom (data : PutObject) (headers : HeaderHash) (size : SizeValue) : Prop where
  | stat (isStat : data.statValue = .ok (.object (.ok size)))
      (noLength : (headers.aref "Content-Length").isNil = true)
      (takesExpect : headers.frozen = none ∨ (headers.aref "Expect").isNil = false)
  | length (asked : ∃ value, data.statValue = .ok value)
      (isLength : (headers.aref "Content-Length").isNil = false)
      (toI : (headers.aref "Content-Length").toI = .ok size)

/-- The data is a reader, and its size raises, or is not `nil` and no `long`. -/
def RaisesLate (given : Option PutObject) (state : PutState) : Prop :=
  ∃ data, given = some data ∧ data.read = true ∧
    ((∃ headers, StatSizeRaises data state headers) ∨
      state.headers.Usable ∧ ∃ size error, SizeFrom data state.headers.asHash size ∧
        size.isNil = false ∧ size.num2long = .error error)

/-! ## Steps that raise -/

/-- A header that is not set leaves the `Hash` as it was. -/
theorem addExpect_error (raised : headers.addExpect = (changed, .error error)) : changed = headers := by
  unfold HeaderHash.addExpect at raised
  split at raised
  · exact aset_error raised
  · cases raised

theorem lengthOrChunked_error (raised : lengthOrChunked headers = (changed, .error error)) :
    changed = headers := by
  unfold lengthOrChunked at raised
  dsimp only at raised
  split at raised
  · cases set : headers.aset "Transfer-Encoding" "chunked" with
    | mk after result =>
      rw [set] at raised
      cases result with
      | ok done => cases raised
      | error error =>
        cases raised
        exact aset_error set
  · split at raised
    · exact (Prod.mk.inj raised).1.symm
    · cases raised

/-- `Expect` is set only where the `Hash` has none and is not frozen. -/
theorem addExpect_changes (added : headers.addExpect = (changed, .ok ())) :
    changed = headers ∨ (headers.aref "Expect").isNil = true ∧ headers.frozen = none := by
  unfold HeaderHash.addExpect at added
  split at added
  · rename_i noExpect
    exact Or.inr ⟨noExpect, (aset_ok added).1⟩
  · cases added
    exact Or.inl rfl

/-- A reader whose size raises has changed the headers only by the `Expect` it set before. -/
theorem readerSize_error (raised : readerSize data headers = (changed, .error error)) : changed = headers ∨
    data.statValue = .ok (.object (.error error)) ∧ (headers.aref "Content-Length").isNil = true ∧
      (headers.aref "Expect").isNil = true ∧ headers.frozen = none := by
  unfold readerSize at raised
  cases stat : data.statValue with
  | error error =>
    rw [stat] at raised
    cases raised
    exact Or.inl rfl
  | ok value =>
    rw [stat] at raised
    cases value with
    | falsy => exact Or.inl (lengthOrChunked_error raised)
    | object asked =>
      dsimp only at raised
      split at raised
      · rename_i isNil
        cases added : headers.addExpect with
        | mk after result =>
          rw [added] at raised
          cases result with
          | error error =>
            cases raised
            exact Or.inl (addExpect_error added)
          | ok done =>
            obtain ⟨rfl, same⟩ := Prod.mk.inj raised
            cases same
            exact (addExpect_changes added).imp_right fun new => ⟨rfl, isNil, new⟩
      · exact Or.inl (lengthOrChunked_error raised)

/-- `Expect` can be set where the `Hash` is not frozen, or has one. -/
theorem addExpect_takes (takes : headers.frozen = none ∨ (headers.aref "Expect").isNil = false) :
    ∃ changed, headers.addExpect = (changed, .ok ()) := by
  unfold HeaderHash.addExpect HeaderHash.aset
  rcases takes with notFrozen | isSet
  · rw [notFrozen]
    split
    · exact ⟨_, rfl⟩
    · exact ⟨_, rfl⟩
  · exact ⟨_, if_neg (by rw [isSet]; decide)⟩

theorem addExpect_ok (ok : headers.addExpect = (changed, .ok ())) :
    headers.frozen = none ∨ (headers.aref "Expect").isNil = false := by
  unfold HeaderHash.addExpect at ok
  split at ok
  · exact Or.inl (aset_ok ok).1
  · rename_i isSet
    exact Or.inr (Bool.eq_false_iff.mpr isSet)

theorem isCTrue_of_toI {value : HeaderValue} (toI : value.toI = .ok size) : value.isCTrue = true := by
  cases value with
  | no => cases toI
  | _ => rfl

/-- A reader with a size has a `stat` that does not raise. -/
theorem readerSize_stat (sized : readerSize data headers = (changed, .ok size)) :
    ∃ value, data.statValue = .ok value := by
  unfold readerSize at sized
  cases stat : data.statValue with
  | ok value => exact ⟨value, rfl⟩
  | error error =>
    rw [stat] at sized
    cases sized

/-- The size is found where it comes from. -/
theorem readerSize_of_sizeFrom (found : SizeFrom data headers size) :
    ∃ changed, readerSize data headers = (changed, .ok size) := by
  unfold readerSize
  cases found with
  | stat isStat noLength takesExpect =>
    obtain ⟨changed, added⟩ := addExpect_takes takesExpect
    refine ⟨changed, ?_⟩
    rw [isStat]
    dsimp only
    rw [if_pos noLength, added]
    rfl
  | length asked isLength toI =>
    obtain ⟨value, isValue⟩ := asked
    have isOf : lengthOrChunked headers = (headers, .ok size) := by
      unfold lengthOrChunked
      dsimp only
      rw [if_neg (by rw [isLength]; exact fun both => absurd both.1 Bool.false_ne_true),
        if_pos (isCTrue_of_toI toI), toI]
    refine ⟨headers, ?_⟩
    rw [isValue]
    cases value with
    | falsy => exact isOf
    | object asked =>
      dsimp only
      rw [if_neg (by rw [isLength]; decide)]
      exact isOf

/-- A size that `NUM2LONG` refuses comes from the `stat` or from `Content-Length`. -/
theorem sizeFrom_of_readerSize (sized : readerSize data headers = (changed, .ok size))
    (notNil : size.isNil = false) (refused : size.num2long = .error error) : SizeFrom data headers size := by
  rcases readerSize_ok sized with ⟨stat, noLength, added⟩ | ⟨way, chunked⟩
  · exact .stat stat noLength (addExpect_ok added)
  · rcases lengthOrChunked_ok chunked with ⟨-, -, isNil, -⟩ | ⟨-, -, rfl⟩ | ⟨isLength, -, toI | isNil⟩
    · rw [isNil] at notNil
      cases notNil
    · cases refused
    · exact .length (readerSize_stat sized) isLength toI
    · rw [isNil] at notNil
      cases notNil

/-! ## Runs that raise -/

/-- A run that raises after its size has stored the new upload. -/
theorem finish_raises (raised : state.finish changed stream size = .error error after) :
    size.isNil = false ∧ size.num2long = .error error ∧ after = state.begun changed stream := by
  unfold PutState.finish at raised
  cases isNil : size.isNil with
  | true =>
    rw [isNil] at raised
    cases raised
  | false =>
    rw [isNil] at raised
    cases long : size.num2long with
    | ok number =>
      rw [long] at raised
      cases raised
    | error error =>
      rw [long] at raised
      cases raised
      exact ⟨rfl, rfl, rfl⟩

theorem finish_of_refused (notNil : size.isNil = false) (refused : size.num2long = .error error) :
    state.finish changed stream size = .error error (state.begun changed stream) := by
  rw [PutState.finish, notNil, if_neg Bool.false_ne_true, refused]

/-- The new upload is not the old one. -/
theorem begun_upload_ne (state : PutState) (changed : HeaderHash) (stream : PutStream) :
    (state.begun changed stream).upload ≠ state.upload := by
  intro same
  exact absurd (state.fresh (state.nextUpload, stream) same.symm) (Nat.lt_irrefl _)

/-- An `Expect` that is set where there was none is a change. -/
theorem addExpect_ne (noExpect : (headers.aref "Expect").isNil = true)
    (added : headers.addExpect = (changed, .ok ())) : changed ≠ headers := by
  rw [HeaderHash.addExpect, if_pos noExpect] at added
  intro same
  rw [← same, aref_aset_self added] at noExpect
  cases noExpect

theorem uploadStream_of_read (read : data.read = true) : uploadStream (some data) = .ok .reader := by
  rw [uploadStream, read, if_pos rfl]

/-- A run that raises late leaves the `Expect` it has set, or the new upload. -/
theorem not_atomic_of_raisesLate (late : RaisesLate given state) : ¬AtomicOnError given state := by
  intro atomic
  obtain ⟨data, rfl, read, ⟨headers, raises⟩ | ⟨usable, size, error, found, notNil, refused⟩⟩ := late
  · obtain ⟨error, stat⟩ := raises.stat
    obtain ⟨changed, added⟩ := addExpect_takes (Or.inl raises.notFrozen)
    have usable : state.headers.Usable := by
      rw [raises.stored]
      trivial
    have run : putData (some data) state = .error error { state with headers := .hash changed } := by
      rw [putData_of_stream usable (uploadStream_of_read read), raises.stored]
      dsimp only [infileSize, PutHeaders.asHash, PutState.inPlace]
      rw [readerSize, stat, raises.stored]
      dsimp only
      rw [if_pos raises.noLength, added]
      rfl
    have same := (atomic _ _ run).headers.trans raises.stored
    exact addExpect_ne raises.noExpect added (PutHeaders.hash.inj same)
  · obtain ⟨changed, sized⟩ := readerSize_of_sizeFrom found
    have run : putData (some data) state = .error error (state.begun changed .reader) := by
      rw [putData_of_stream usable (uploadStream_of_read read)]
      dsimp only [infileSize]
      rw [sized]
      exact finish_of_refused notNil refused
    exact begun_upload_ne state changed .reader (atomic _ _ run).upload

theorem read_of_uploadStream (isStream : uploadStream (some data) = .ok .reader) : data.read = true := by
  cases read : data.read with
  | true => rfl
  | false =>
    obtain ⟨text, -, same⟩ := uploadStream_of_no_read read isStream
    cases same

/-- Only the size of a reader changes the headers and raises. -/
theorem infileSize_error (isStream : uploadStream given = .ok stream)
    (raised : infileSize given stream headers = (changed, .error error)) : changed = headers ∨
      ∃ data, given = some data ∧ data.read = true ∧ readerSize data headers = (changed, .error error) := by
  cases given with
  | none => cases raised
  | some data =>
    cases stream with
    | nil =>
      cases raised
      exact Or.inl rfl
    | reader => exact Or.inr ⟨data, rfl, read_of_uploadStream isStream, raised⟩
    | text text =>
      unfold infileSize at raised
      cases added : headers.addExpect with
      | mk after result =>
        rw [added] at raised
        cases result with
        | ok done => cases raised
        | error error =>
          cases raised
          exact Or.inl (addExpect_error added)

/-- Only the size of a reader may be one that `NUM2LONG` refuses. -/
theorem infileSize_refused (isStream : uploadStream given = .ok stream)
    (sized : infileSize given stream headers = (changed, .ok size)) (notNil : size.isNil = false)
    (refused : size.num2long = .error error) :
    ∃ data, given = some data ∧ data.read = true ∧ readerSize data headers = (changed, .ok size) := by
  cases given with
  | none =>
    cases sized
    cases notNil
  | some data =>
    cases stream with
    | nil => cases sized
    | reader => exact ⟨data, rfl, read_of_uploadStream isStream, sized⟩
    | text text =>
      obtain ⟨-, rfl⟩ := infileSize_text sized
      cases refused

/-- Headers that were not changed are as they were. -/
theorem untouched_inPlace (state : PutState) : Untouched state (state.inPlace state.headers.asHash) := by
  unfold PutState.inPlace
  cases same : state.headers with
  | hash headers => exact ⟨same.symm, rfl, rfl⟩
  | _ => exact ⟨rfl, rfl, rfl⟩

/-- A run that raises and has changed something raises late. -/
theorem atomic_of_not_raisesLate (early : ¬RaisesLate given state) : AtomicOnError given state := by
  intro error after run
  rw [Raises] at run
  rcases putData_eq given state with ⟨refusal, raised⟩ | ⟨usable, stream, isStream⟩
  · rw [raised] at run
    cases run
    exact ⟨rfl, rfl, rfl⟩
  have same := putData_of_stream usable isStream
  rw [run] at same
  cases sized : infileSize given stream state.headers.asHash with
  | mk changed result =>
    rw [sized] at same
    cases result with
    | ok size =>
      obtain ⟨notNil, refused, -⟩ := finish_raises same.symm
      obtain ⟨data, isData, read, isSize⟩ := infileSize_refused isStream sized notNil refused
      exact absurd ⟨data, isData, read, Or.inr ⟨usable, size, error,
        sizeFrom_of_readerSize isSize notNil refused, notNil, refused⟩⟩ early
    | error raisedError =>
      cases same
      rcases infileSize_error isStream sized with rfl | ⟨data, isData, read, raised⟩
      · exact untouched_inPlace state
      rcases readerSize_error raised with rfl | ⟨stat, noLength, noExpect, notFrozen⟩
      · exact untouched_inPlace state
      -- Without a `Hash` of the caller the `Expect` is set in one that is thrown away.
      cases stored : state.headers with
      | hash headers =>
        rw [stored] at noLength noExpect notFrozen
        exact absurd ⟨data, isData, read,
          Or.inl ⟨headers, stored, noLength, noExpect, notFrozen, error, stat⟩⟩ early
      | _ =>
        simp only [PutState.inPlace, stored]
        exact ⟨rfl, rfl, rfl⟩

/-- `put_data=` changes nothing where it raises, exactly where it does not raise late. -/
theorem putData_atomic_iff : AtomicOnError given state ↔ ¬RaisesLate given state :=
  ⟨fun atomic late => not_atomic_of_raisesLate late atomic, atomic_of_not_raisesLate⟩

/-- A reader whose `stat` has no `size`. -/
def sizelessReader : PutObject :=
  ⟨true, some (.ok (.object (rbRaise .noMethodError "undefined method 'size'".toList))), none⟩

/-- The caller's empty `Hash` has an `Expect` after the error. -/
theorem sizelessReader_changesHeaders :
    ¬∀ (data : Option PutObject) (state : PutState), AtomicOnError data state := by
  intro always
  have atomic := always (some sizelessReader) (newPutState (.hash ⟨[], none⟩))
  have same := (atomic _ _ rfl).headers
  exact List.cons_ne_nil _ _ (HeaderHash.mk.inj (PutHeaders.hash.inj same)).1

end Curb.Easy

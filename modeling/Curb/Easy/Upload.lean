import Curb.Misc.Runs
import Curb.Ruby.Basic

/-!
# Upload callbacks

`read_data_handler` and `seek_data_handler` (`ext/curb_easy.c:918-1029`) over the offset of a `Curl::Upload`.
A stream without a `read` method is read from its string form at the offset. Whether a seek moves the offset
depends on another method, `seek`. Such a stream is `nil` or the String that `put_data=` has made of its data, which may
be one of a subclass or have methods of its own.
-/

namespace Curb
open Curb.Misc Curb.Ruby

/-- What a call of `read` or `to_s` on a stream gives. -/
inductive StringResult where
  | nil
  | str (text : Text)
  /-- The call raises, or `StringValue` does on what it returns. -/
  | raises (error : RubyError)

/-- The methods a stream has. -/
structure UploadStream where
  respondsToRead : Bool
  respondsToSeek : Bool
  respondsToToS : Bool
  deriving DecidableEq, Repr

/-- A `String` without further methods, and `nil`. -/
def plainText : UploadStream := ⟨false, false, true⟩

/-- What is passed to `put_data=`. -/
inductive UploadData where
  | nil
  | string (string : UploadStream)
  /-- Any other object, and the `String` that its `to_s` returns; `none` where that is no `String`. -/
  | object (object : UploadStream) (toS : Option UploadStream)
  deriving DecidableEq, Repr

/-- The methods of the data. -/
def UploadData.methods : UploadData → UploadStream
  | .nil => plainText
  | .string str => str
  | .object obj _ => obj

/-- `rb_obj_as_string`, which takes a `String` as it is, and describes an object whose `to_s` returns none. -/
def UploadData.objAsString : UploadData → UploadStream
  | .nil => plainText
  | .string str => str
  | .object _ toS => toS.getD plainText

/-- `upload_stream`, the stream `put_data=` stores (`curb_easy.c:2186-2192`, `:2235`); `none` where it raises. -/
def UploadData.uploadStream (data : UploadData) : Option UploadStream :=
  if data ≠ .nil ∧ data.methods.respondsToRead = false then
    if data.methods.respondsToToS then some data.objAsString else none
  else some data.methods

/-- `ruby_curl_upload` (`ext/curb_upload.h`). -/
structure Upload where
  stream : UploadStream
  offset : Nat
  deriving DecidableEq, Repr

/-- What a read callback returns: bytes in libcurl's buffer, or `CURL_READFUNC_ABORT`. -/
inductive ReadResult where
  | bytes (text : Text)
  | abort
  deriving DecidableEq, Repr

/-- The part of a handle the two callbacks work on. -/
structure UploadTransfer where
  upload : Option Upload
  callbackError : Option RubyError
  errBuf : Text

/-- `memcpy (ptr, str + offset, count)`; `none` where it reads outside of `str`. -/
def memcpy (str : Text) (offset count : Nat) : Option Text :=
  if offset + count ≤ str.length then some ((str.drop offset).take count) else none

theorem memcpy_eq {str : Text} {offset count : Nat} (inside : offset + count ≤ str.length) :
    memcpy str offset count = some ((str.drop offset).take count) := if_pos inside

namespace UploadTransfer

/-- `callback_exception_store_on_easy` (`curb_easy.c:725-733`). -/
def storeCallbackError (transfer : UploadTransfer) (error : RubyError) : UploadTransfer :=
  { transfer with callbackError := transfer.callbackError.or (some error) }

/-- `StringValue (nil)`. -/
def nilStringError : RubyError := ⟨.typeError, "no implicit conversion of nil into String".toList⟩

/-- The branch of `read_data_handler` for a stream with a `read` method (`curb_easy.c:932-958`). -/
def readStream (transfer : UploadTransfer) (readBytes : Nat) :
    StringResult → Option (ReadResult × UploadTransfer)
  | .nil => some (.bytes [], transfer)
  | .raises error => some (.abort, transfer.storeCallbackError error)
  | .str text =>
      if readBytes < text.length then
        some (.abort, { transfer with
          errBuf := "read callback returned more data than requested".toList })
      else (memcpy text 0 text.length).map fun copied => (.bytes copied, transfer)

/-- The branch for one with a string form (`curb_easy.c:959-993`). -/
def readText (transfer : UploadTransfer) (upload : Upload) (readBytes : Nat) :
    StringResult → Option (ReadResult × UploadTransfer)
  | .nil => some (.abort, transfer.storeCallbackError nilStringError)
  | .raises error => some (.abort, transfer.storeCallbackError error)
  | .str text =>
      if text.length ≤ upload.offset then some (.bytes [], transfer)
      else
        let remaining := text.length - upload.offset
        let count := if remaining ≤ readBytes then remaining else readBytes
        (memcpy text upload.offset count).map fun copied =>
          (.bytes copied, { transfer with upload := some { upload with offset := upload.offset + count } })

/-- `read_data_handler` (`curb_easy.c:918-997`), with what the stream's method gives. -/
def readDataHandler (transfer : UploadTransfer) (readBytes : Nat) (result : StringResult) :
    Option (ReadResult × UploadTransfer) :=
  match transfer.upload with
  | none => some (.abort, transfer)
  | some upload =>
      if upload.stream.respondsToRead then transfer.readStream readBytes result
      else if upload.stream.respondsToToS then transfer.readText upload readBytes result
      else some (.bytes [], transfer)

/-- `seek_data_handler` (`curb_easy.c:999-1029`), with what the stream's `seek` raises; `true` is
`CURL_SEEKFUNC_OK`. -/
def seekDataHandler (transfer : UploadTransfer) (offset : Nat) (raised : Option RubyError) :
    Bool × UploadTransfer :=
  match transfer.upload with
  | none => (false, transfer)
  | some upload =>
      if upload.stream.respondsToSeek then
        let transfer := match raised with
          | none => transfer
          | some error => transfer.storeCallbackError error
        (transfer.callbackError.isNone, transfer)
      else (true, { transfer with upload := some { upload with offset := offset } })

end UploadTransfer

/-! ## Runs of the two callbacks -/

/-- A callback libcurl makes. -/
inductive UploadEvent where
  | read (readBytes : Nat)
  | seek (offset : Nat) (raised : Option RubyError)

/-- A transfer with the bytes returned since the last seek; the last two fields are history variables. -/
structure UploadRun where
  transfer : UploadTransfer
  sought : Nat
  sent : Text

/-- The bytes of a read result. -/
def ReadResult.text : ReadResult → Text
  | .bytes text => text
  | .abort => []

namespace UploadRun

/-- One callback on a stream whose string form is `text`; `none` where a read touches a byte outside of it.
A seek that fails is none. -/
def step (text : Text) (run : UploadRun) : UploadEvent → Option UploadRun
  | .read readBytes => (run.transfer.readDataHandler readBytes (.str text)).map fun result =>
      { run with transfer := result.2, sent := run.sent ++ result.1.text }
  | .seek offset raised =>
      let result := run.transfer.seekDataHandler offset raised
      if result.1 then some ⟨result.2, offset, []⟩ else some { run with transfer := result.2 }

/-- A new upload of a stream (`curb_upload.c:47-57`). -/
def start (stream : UploadStream) : UploadRun where
  transfer := ⟨some ⟨stream, 0⟩, none, []⟩
  sought := 0
  sent := []

variable {transfer : UploadTransfer} {stream : UploadStream} {text : Text} {offset readBytes : Nat}

/-- A read copies from the offset, as much as the buffer or the text has, and moves the offset behind it. -/
theorem readDataHandler_text (noRead : stream.respondsToRead = false) (toS : stream.respondsToToS = true)
    (isUpload : transfer.upload = some ⟨stream, offset⟩) (inside : offset ≤ text.length) :
    transfer.readDataHandler readBytes (.str text) =
      some (.bytes ((text.drop offset).take readBytes),
        { transfer with upload := some ⟨stream, offset + min readBytes (text.length - offset)⟩ }) := by
  unfold UploadTransfer.readDataHandler UploadTransfer.readText
  rw [isUpload]
  dsimp only
  rw [noRead, toS, if_neg Bool.false_ne_true, if_pos rfl]
  by_cases atEnd : text.length ≤ offset
  · have gone : text.drop offset = [] := List.drop_eq_nil_of_le atEnd
    have still : offset + min readBytes (text.length - offset) = offset := by omega
    rw [if_pos atEnd, gone, still, ← isUpload, List.take_nil]
  · rw [if_neg atEnd]
    split
    · rename_i short
      have whole : (text.drop offset).take readBytes = (text.drop offset).take (text.length - offset) := by
        rw [← List.length_drop, List.take_length, List.take_of_length_le (by rw [List.length_drop]; exact short)]
      rw [memcpy_eq (by omega), Option.map_some, min_eq_right short, whole]
    · rename_i long
      rw [memcpy_eq (by omega), Option.map_some, min_eq_left (by omega)]

/-- The offset is within the text, and what has been sent reaches up to it. -/
structure AtOffset (stream : UploadStream) (text : Text) (run : UploadRun) (offset : Nat) : Prop where
  isUpload : run.transfer.upload = some ⟨stream, offset⟩
  inside : offset ≤ text.length
  sent : run.sent ++ text.drop offset = text.drop run.sought

/-- A read keeps what has been sent up to the offset. -/
theorem AtOffset.read {run after : UploadRun} (noRead : stream.respondsToRead = false)
    (toS : stream.respondsToToS = true) (atOffset : AtOffset stream text run offset)
    (steps : run.step text (.read readBytes) = some after) : ∃ offset, AtOffset stream text after offset := by
  obtain ⟨result, reads, rfl⟩ := Option.map_eq_some_iff.mp steps
  rw [readDataHandler_text noRead toS atOffset.isUpload atOffset.inside] at reads
  cases reads
  refine ⟨offset + min readBytes (text.length - offset), rfl, ?_, ?_⟩
  · have inside := atOffset.inside
    omega
  · have sent := atOffset.sent
    have rest : (text.drop offset).take readBytes ++ text.drop (offset + min readBytes (text.length - offset)) =
        text.drop offset := by
      rw [← List.drop_drop, ← List.length_drop, List.take_eq_take_min, List.take_append_drop]
    simp only [ReadResult.text]
    rw [List.append_assoc, rest, sent]

/-- Without a `seek` method, a seek moves the offset. -/
theorem AtOffset.seek {run after : UploadRun} {sought : Nat} {raised : Option RubyError}
    (noSeek : stream.respondsToSeek = false) (atOffset : AtOffset stream text run offset)
    (inside : sought ≤ text.length) (steps : run.step text (.seek sought raised) = some after) :
    AtOffset stream text after sought := by
  have moved : run.transfer.seekDataHandler sought raised =
      (true, { run.transfer with upload := some ⟨stream, sought⟩ }) := by
    unfold UploadTransfer.seekDataHandler
    rw [atOffset.isUpload]
    dsimp only
    rw [noSeek, if_neg Bool.false_ne_true]
  dsimp only [step] at steps
  rw [moved] at steps
  cases steps
  exact ⟨rfl, inside, rfl⟩

end UploadRun
end Curb

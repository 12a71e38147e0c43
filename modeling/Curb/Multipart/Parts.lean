import Mathlib.Data.List.Forall2
import Curb.Multipart.Basic

/-!
# What a part says

A part of a form against the field it was made of: `Part.formData` is what libcurl reads behind the
pointers, `PostField.formData` what the field says, with the name, the data and the file names it has.
-/

namespace Curb.Multipart
open Curb.Misc Curb.Ruby Curb.Form

variable {strings strings' : Strings} {field settled : PostField} {part : Part}

/-- The body of a part: bytes, or what is in a file. -/
inductive Body where
  | inline (bytes : Bytes)
  | ofFile (path : Bytes)
  deriving DecidableEq, Repr

/-- `length` bytes from where a pointer points to. -/
def Strings.read (strings : Strings) (pointer : Pointer) (length : Nat) : Bytes :=
  (strings.bytes pointer.string).take length

theorem Strings.pointer_congr {string : Address} (same : strings string = strings' string) :
    strings.pointer string = strings'.pointer string := by
  rw [Strings.pointer, Strings.pointer, same]

theorem Strings.bytes_congr {string : Address} (same : strings string = strings' string) :
    strings.bytes string = strings'.bytes string := by
  rw [Strings.bytes, Strings.bytes, same]

theorem Strings.cString_congr {string : Address} (same : strings string = strings' string) :
    strings.cString string = strings'.cString string := by
  rw [Strings.cString, Strings.cString, Strings.bytes_congr same]

/-- A pointer to a string that is there points to its bytes. -/
theorem Strings.valid_pointer {string : Address} (there : (strings string).isSome) :
    strings.valid (strings.pointer string) = true := by
  obtain ⟨value, found⟩ := Option.isSome_iff_exists.mp there
  simp [Strings.valid, Strings.pointer, found]

/-! ## `append_to_form` -/

/-- The contents a field gives its part, and the field behind it. -/
inductive Fills (strings : Strings) (field : PostField) : PostField → Contents → Prop where
  | buffer {remoteFile data : Address} (isRemote : field.remoteFile = some remoteFile)
      (own : (field.contentProc || field.content.isSome) = true) (isData : field.data = some data) :
      Fills strings field field
        (.buffer (strings.cString remoteFile) (strings.pointer data) (strings.bytes data).length)
  | file {localFile : Address} (own : (field.contentProc || field.content.isSome) = false)
      (isLocal : field.localFile = some localFile) :
      Fills strings field { field with remoteFile := some (field.remoteFile.getD localFile) }
        (.file (strings.cString localFile) (strings.cString (field.remoteFile.getD localFile)))
  | contents {data : Address} (noLocal : field.localFile = none) (noRemote : field.remoteFile = none)
      (isData : field.data = some data) :
      Fills strings field field (.contents (strings.pointer data) (strings.bytes data).length)

theorem orRaise_bind_eq_ok_iff {α β : Type} {found : Option α} {message : String}
    {f : α → Except RubyError β} {b : β} :
    (orRaise found (invalidPostField message) >>= f) = .ok b ↔ ∃ a, found = some a ∧ f a = .ok b := by
  cases found with
  | some a => exact ⟨fun ok => ⟨a, rfl, ok⟩, fun ⟨_, same, ok⟩ => Option.some.inj same ▸ ok⟩
  | none =>
    constructor
    · intro raised
      cases raised
    · rintro ⟨_, absent, _⟩
      cases absent

theorem appendToForm_ok_iff : appendToForm strings field = .ok (settled, part) ↔
    ∃ name contents, field.name = some name ∧ Fills strings field settled contents ∧
      part = ⟨strings.pointer name, contents, field.contentType.map strings.cString⟩ := by
  unfold appendToForm
  rw [orRaise_bind_eq_ok_iff]
  refine exists_congr fun name => ?_
  constructor
  · rintro ⟨named, ok⟩
    dsimp only at ok
    split at ok
    · rename_i upload
      split at ok
      · rename_i own
        simp only [orRaise_bind_eq_ok_iff] at ok
        obtain ⟨remoteFile, isRemote, data, isData, same⟩ := ok
        cases same
        exact ⟨_, named, .buffer isRemote own isData, rfl⟩
      · rename_i noOwn
        obtain ⟨localFile, isLocal, same⟩ := orRaise_bind_eq_ok_iff.mp ok
        cases same
        exact ⟨_, named, .file (Bool.eq_false_iff.mpr noOwn) isLocal, rfl⟩
    · rename_i noUpload
      obtain ⟨data, isData, same⟩ := orRaise_bind_eq_ok_iff.mp ok
      cases same
      rw [Bool.or_eq_true, not_or, Option.not_isSome_iff_eq_none, Option.not_isSome_iff_eq_none] at noUpload
      exact ⟨_, named, .contents noUpload.1 noUpload.2 isData, rfl⟩
  · rintro ⟨contents, named, fills, rfl⟩
    refine ⟨named, ?_⟩
    cases fills with
    | buffer isRemote own isData =>
      dsimp only
      rw [if_pos (by rw [isRemote]; exact Bool.or_true _), if_pos own, isRemote, isData]
      rfl
    | file own isLocal =>
      dsimp only
      rw [if_pos (by rw [isLocal]; rfl), if_neg (by rw [own]; exact Bool.false_ne_true), isLocal]
      rfl
    | contents noLocal noRemote isData =>
      dsimp only
      rw [if_neg (by rw [noLocal, noRemote]; exact Bool.false_ne_true), isData]
      rfl

/-- The strings of a field are those its part is made of. -/
theorem PostField.mem_marks {string : Address} : string ∈ field.marks ↔
    field.name = some string ∨ field.content = some string ∨ field.contentType = some string ∨
      field.localFile = some string ∨ field.remoteFile = some string ∨ field.bufferStr = some string := by
  simp only [PostField.marks, List.mem_append, Option.mem_toList, or_assoc]

theorem PostField.data_mem_marks {data : Address} (isData : field.data = some data) : data ∈ field.marks := by
  rw [PostField.mem_marks]
  unfold PostField.data at isData
  split at isData
  · exact Or.inr (Or.inr (Or.inr (Or.inr (Or.inr isData))))
  · exact Or.inr (Or.inl isData)

/-- The marks of a field that has been appended are those of before. -/
theorem Fills.marks {contents : Contents} (fills : Fills strings field settled contents) :
    settled.contentProc = field.contentProc ∧ ∀ string ∈ settled.marks, string ∈ field.marks := by
  cases fills with
  | buffer | contents => exact ⟨rfl, fun _ mem => mem⟩
  | @file localFile _ isLocal =>
    refine ⟨rfl, fun string mem => ?_⟩
    rw [PostField.mem_marks] at mem ⊢
    rcases mem with name | content | type | file | remote | buffer
    · exact Or.inl name
    · exact Or.inr (Or.inl content)
    · exact Or.inr (Or.inr (Or.inl type))
    · exact Or.inr (Or.inr (Or.inr (Or.inl file)))
    · cases isRemote : field.remoteFile with
      | some remoteFile =>
        rw [isRemote] at remote
        exact Or.inr (Or.inr (Or.inr (Or.inr (Or.inl remote))))
      | none =>
        rw [isRemote] at remote
        exact Or.inr (Or.inr (Or.inr (Or.inl (isLocal.trans remote))))
    · exact Or.inr (Or.inr (Or.inr (Or.inr (Or.inr buffer))))

/-- Appended once more, a field gives the same part and is left as it is. -/
theorem Fills.again {contents : Contents} (fills : Fills strings field settled contents) :
    settled.name = field.name ∧ settled.contentType = field.contentType ∧
      Fills strings settled settled contents := by
  cases fills with
  | buffer isRemote own isData => exact ⟨rfl, rfl, .buffer isRemote own isData⟩
  | contents noLocal noRemote isData => exact ⟨rfl, rfl, .contents noLocal noRemote isData⟩
  | file own isLocal => exact ⟨rfl, rfl, .file own isLocal⟩

theorem appendToForm_again (ok : appendToForm strings field = .ok (settled, part)) :
    appendToForm strings settled = .ok (settled, part) := by
  obtain ⟨name, contents, named, fills, same⟩ := appendToForm_ok_iff.mp ok
  obtain ⟨sameName, sameType, again⟩ := fills.again
  exact appendToForm_ok_iff.mpr ⟨name, contents, sameName.trans named, again, sameType ▸ same⟩

/-- A part depends on the strings of its field alone. -/
theorem Fills.congr {contents : Contents} (fills : Fills strings field settled contents)
    (same : ∀ string ∈ field.marks, strings string = strings' string) :
    Fills strings' field settled contents := by
  have mark {string : Address} := @PostField.mem_marks field string
  cases fills with
  | @buffer remoteFile data isRemote own isData =>
    have sameData := same data (PostField.data_mem_marks isData)
    have sameRemote := same remoteFile
      (mark.mpr (Or.inr (Or.inr (Or.inr (Or.inr (Or.inl isRemote))))))
    rw [Strings.cString_congr sameRemote, Strings.pointer_congr sameData, Strings.bytes_congr sameData]
    exact .buffer isRemote own isData
  | @file localFile own isLocal =>
    have localMem : localFile ∈ field.marks := mark.mpr (Or.inr (Or.inr (Or.inr (Or.inl isLocal))))
    have remoteMem : field.remoteFile.getD localFile ∈ field.marks := by
      cases isRemote : field.remoteFile with
      | none => exact localMem
      | some remoteFile => exact mark.mpr (Or.inr (Or.inr (Or.inr (Or.inr (Or.inl isRemote)))))
    rw [Strings.cString_congr (same _ localMem), Strings.cString_congr (same _ remoteMem)]
    exact .file own isLocal
  | @contents data noLocal noRemote isData =>
    have sameData := same data (PostField.data_mem_marks isData)
    rw [Strings.pointer_congr sameData, Strings.bytes_congr sameData]
    exact .contents noLocal noRemote isData

theorem appendToForm_congr (ok : appendToForm strings field = .ok (settled, part))
    (same : ∀ string ∈ field.marks, strings string = strings' string) :
    appendToForm strings' field = .ok (settled, part) := by
  obtain ⟨name, contents, named, fills, rfl⟩ := appendToForm_ok_iff.mp ok
  refine appendToForm_ok_iff.mpr ⟨name, contents, named, fills.congr same, ?_⟩
  rw [Strings.pointer_congr (same name (PostField.mem_marks.mpr (Or.inl named)))]
  congr 1
  refine Option.map_congr fun type isType => Strings.cString_congr (same type ?_)
  exact PostField.mem_marks.mpr (Or.inr (Or.inr (Or.inl isType)))

/-- libcurl follows pointers to strings of the field. -/
theorem appendToForm_pointers (ok : appendToForm strings field = .ok (settled, part)) :
    ∀ pointer ∈ part.pointers, ∃ string ∈ field.marks, pointer = strings.pointer string := by
  obtain ⟨name, contents, named, fills, rfl⟩ := appendToForm_ok_iff.mp ok
  intro pointer mem
  rcases List.mem_cons.mp mem with rfl | mem
  · exact ⟨name, PostField.mem_marks.mpr (Or.inl named), rfl⟩
  · cases fills with
    | buffer _ _ isData => exact ⟨_, PostField.data_mem_marks isData, List.mem_singleton.mp mem⟩
    | contents _ _ isData => exact ⟨_, PostField.data_mem_marks isData, List.mem_singleton.mp mem⟩
    | file => exact absurd mem List.not_mem_nil

end Curb.Multipart

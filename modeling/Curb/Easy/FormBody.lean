import Mathlib.Data.List.TakeDrop
import Curb.Misc.Percent
import Curb.Ruby.Basic

/-!
# URL-encoded form bodies

`PostField#to_str` (`ext/curb_postfield.c:456-560`) and `Easy#escape` (`ext/curb_easy.c:6076-6097`) hand a
string to libcurl with its length as an `int`. `http_post` joins the fields (`curb_easy.c:4524-4535`),
`Multi.http` the pairs of `:post_fields` (`lib/curl/multi.rb:127-131`).
-/

namespace Curb.Form
open Curb.Misc Curb.Ruby

/-! ## Escaping -/

/-- The conversion `(int)RSTRING_LEN(str)`. -/
def toInt (length : Nat) : Int := Int.bmod length 4294967296

/-- `strlen` of a string, behind which there is a NUL. -/
def strlen (string : Bytes) : Nat := (string.takeWhile fun byte => byte ≠ 0).length

/-- `curl_easy_escape`, which returns `NULL` for a negative length. -/
def curlEasyEscape (string : Bytes) (length : Int) : Option Bytes :=
  if length < 0 then none
  else if length = 0 then some (percentEncode (string.take (strlen string)))
  else some (percentEncode (string.take length.toNat))

/-- A Ruby object where a string is expected, with its `to_s`. -/
inductive FieldValue where
  | string (bytes : Bytes)
  | object (toS : Option Bytes)

/-- The string of an object, as far as it has one. -/
def FieldValue.text : FieldValue → Option Bytes
  | .string bytes => some bytes
  | .object toS => toS

/-- A `Curl::PostField`. -/
structure PostField where
  name : Option FieldValue
  content : Option FieldValue
  /-- What the block returns. -/
  contentProc : Option FieldValue
  localFile : Option FieldValue
  remoteFile : Option FieldValue

/-- `PostField.content`. -/
def PostField.ofContent (name content : Bytes) : PostField :=
  ⟨some (.string name), some (.string content), none, none, none⟩

/-- `eCurlErrInvalidPostField`. -/
def invalidPostField {α : Type} (message : String) : Except RubyError α :=
  rbRaise .curlError message.toList

/-- The content of a field (`curb_postfield.c:508-519`). -/
def PostField.fieldContent (field : PostField) : FieldValue :=
  (field.contentProc.or (field.content.or (field.localFile.or field.remoteFile))).getD (.string [])

/-- What is there, or an exception. -/
def orRaise {α : Type} (found : Option α) (refuse : Except RubyError α) : Except RubyError α :=
  found.elim refuse .ok

@[simp] theorem orRaise_some {α : Type} (a : α) (refuse : Except RubyError α) :
    orRaise (some a) refuse = .ok a := rfl

/-- A string is handed to `curl_easy_escape`, and a `NULL` is refused. -/
def escapeString (bytes : Bytes) (refuse : Except RubyError Bytes) : Except RubyError Bytes :=
  orRaise (curlEasyEscape bytes (toInt bytes.length)) refuse

/-- The name of a field, escaped (`curb_postfield.c:467-501`). -/
def PostField.escapedName (field : PostField) : Except RubyError Bytes := do
  let name ← orRaise (field.name.bind FieldValue.text)
    (invalidPostField "Cannot convert unnamed field to string %s:%d, make sure your field name responds_to :to_s")
  escapeString name (invalidPostField "Failed to url-encode name")

/-- A byte string in a message. -/
def bytesText (bytes : Bytes) : Text := bytes.map fun byte => Char.ofNat byte.toNat

/-- Its content, escaped (`curb_postfield.c:520-547`). -/
def PostField.escapedContent (field : PostField) (name : Bytes) : Except RubyError Bytes := do
  let content ← orRaise field.fieldContent.text (rbRaise .runtimeError
    ("postfield(".toList ++ bytesText name ++ ") is not a string and does not respond_to to_s".toList))
  escapeString content (invalidPostField "Failed to url-encode content")

/-- `ruby_curl_postfield_to_str`. -/
def PostField.toStr (field : PostField) : Except RubyError Bytes := do
  let name ← field.escapedName
  let content ← field.escapedContent name
  pure (name ++ 61 :: content)

/-- `ruby_curl_easy_escape` of a string; `rb_str_new2` refuses `NULL`. -/
def escape (string : Bytes) : Except RubyError Bytes :=
  escapeString string (rbRaise .argumentError "NULL pointer given".toList)

/-! ## Bodies -/

/-- `Array#join("&")`. -/
def joinAmp (parts : List Bytes) : Bytes := [38].intercalate parts

/-- The body of `http_post`, as `join_easy_arguments` makes it. -/
def httpPostBody (fields : List PostField) : Except RubyError Bytes := do
  let parts ← fields.mapM PostField.toStr
  pure (joinAmp parts)

/-- `"#{easy.escape(f)}=#{easy.escape(k)}"`. -/
def escapePair (pair : Bytes × Bytes) : Except RubyError Bytes := do
  let name ← escape pair.1
  let content ← escape pair.2
  pure (name ++ 61 :: content)

/-- The body of `Multi.http` for `:post`. -/
def multiPostBody (postFields : List (Bytes × Bytes)) : Except RubyError Bytes := do
  let parts ← postFields.mapM escapePair
  pure (joinAmp parts)

/-- What a server reads: split at `&`, each part at its first `=`, both halves decoded. -/
def parsePart (part : Bytes) : Bytes × Bytes :=
  (percentDecode (part.takeWhile fun byte => byte ≠ 61),
    percentDecode (part.dropWhile fun byte => byte ≠ 61).tail)

def parseForm (body : Bytes) : List (Bytes × Bytes) :=
  if body = [] then [] else (body.splitOn 38).map parsePart

/-- Both bodies are the same, and they are read as the pairs. -/
def RoundTrips (pairs : List (Bytes × Bytes)) : Prop :=
  ∃ body, httpPostBody (pairs.map fun pair => .ofContent pair.1 pair.2) = .ok body ∧
    multiPostBody pairs = .ok body ∧ parseForm body = pairs

/-- The length of the string is not changed by the conversion to `int`, or it becomes 0 and there is no
NUL in the string. -/
def FitsInt (string : Bytes) : Prop :=
  string.length < 2147483648 ∨ 4294967296 ∣ string.length ∧ 0 ∉ string

variable {string : Bytes} {pairs : List (Bytes × Bytes)}

/-! ## One string -/

/-- The part of a string that is escaped, if any. -/
def escapedPart (string : Bytes) : Option Bytes :=
  let length := toInt string.length
  if length < 0 then none
  else if length = 0 then some (string.take (strlen string))
  else some (string.take length.toNat)

theorem curlEasyEscape_eq (string : Bytes) :
    curlEasyEscape string (toInt string.length) = (escapedPart string).map percentEncode := by
  unfold curlEasyEscape escapedPart
  dsimp only
  split
  · rfl
  · split <;> rfl

theorem take_strlen_eq_iff : string.take (strlen string) = string ↔ 0 ∉ string := by
  have part : string.take (strlen string) = string.takeWhile fun byte => byte ≠ 0 :=
    (List.prefix_iff_eq_take.mp (List.takeWhile_prefix _)).symm
  rw [part, List.takeWhile_eq_self_iff]
  constructor
  · exact fun none mem => of_decide_eq_true (none 0 mem) rfl
  · rintro none byte mem
    refine decide_eq_true ?_
    rintro rfl
    exact none mem

/-- The whole string is escaped exactly where its length fits. -/
theorem escapedPart_eq_iff : escapedPart string = some string ↔ FitsInt string := by
  have length : toInt string.length = if (string.length : Int) % 4294967296 < 2147483648 then
      (string.length : Int) % 4294967296 else (string.length : Int) % 4294967296 - 4294967296 := by
    unfold toInt Int.bmod
    rfl
  unfold escapedPart FitsInt
  dsimp only
  by_cases negative : toInt string.length < 0
  · rw [if_pos negative]
    refine iff_of_false nofun ?_
    split at length <;> omega
  · rw [if_neg negative]
    by_cases isZero : toInt string.length = 0
    · rw [if_pos isZero, Option.some_inj, take_strlen_eq_iff]
      have divides : 4294967296 ∣ string.length := by split at length <;> omega
      constructor
      · exact fun none => Or.inr ⟨divides, none⟩
      · rintro (small | fits)
        · have empty : string = [] := List.eq_nil_of_length_eq_zero (by omega)
          rw [empty]
          exact List.not_mem_nil
        · exact fits.2
    · rw [if_neg isZero, Option.some_inj, List.take_eq_self_iff]
      split at length <;> omega

/-! ## One pair -/

/-- The pair is written as this part, with these strings escaped in it. -/
structure Written (pair read : Bytes × Bytes) (part : Bytes) : Prop where
  name : escapedPart pair.1 = some read.1
  content : escapedPart pair.2 = some read.2
  part : part = percentEncode read.1 ++ 61 :: percentEncode read.2

variable {pair read : Bytes × Bytes} {part : Bytes} {parts : List Bytes}

theorem escapeString_eq_ok_iff {error : RubyError} {escaped : Bytes} :
    escapeString string (.error error) = .ok escaped ↔
      ∃ inside, escapedPart string = some inside ∧ escaped = percentEncode inside := by
  rw [escapeString, curlEasyEscape_eq]
  generalize escapedPart string = part
  cases part with
  | none => exact ⟨nofun, fun ⟨_, absent, _⟩ => (nomatch absent)⟩
  | some inside =>
    constructor
    · intro same
      exact ⟨inside, rfl, (Except.ok.inj same).symm⟩
    · rintro ⟨_, same, rfl⟩
      rw [← Option.some.inj same]
      rfl

/-- Both halves are escaped, and joined by `=`. -/
theorem written_iff {error error' : RubyError} :
    (escapeString pair.1 (.error error) >>= fun name =>
      escapeString pair.2 (.error error') >>= fun content => pure (name ++ 61 :: content)) = .ok part ↔
        ∃ read, Written pair read part := by
  constructor
  · intro written
    obtain ⟨name, escapes, written⟩ := except_bind_eq_ok_iff.mp written
    obtain ⟨content, escapes', written⟩ := except_bind_eq_ok_iff.mp written
    obtain ⟨inName, isName, rfl⟩ := escapeString_eq_ok_iff.mp escapes
    obtain ⟨inContent, isContent, rfl⟩ := escapeString_eq_ok_iff.mp escapes'
    exact ⟨(inName, inContent), isName, isContent, (Except.ok.inj written).symm⟩
  · rintro ⟨read, isName, isContent, rfl⟩
    refine except_bind_eq_ok_iff.mpr ⟨_, escapeString_eq_ok_iff.mpr ⟨_, isName, rfl⟩, ?_⟩
    exact except_bind_eq_ok_iff.mpr ⟨_, escapeString_eq_ok_iff.mpr ⟨_, isContent, rfl⟩, rfl⟩

/-- The C encoder writes a pair. -/
theorem toStr_ofContent_eq_ok_iff :
    (PostField.ofContent pair.1 pair.2).toStr = .ok part ↔ ∃ read, Written pair read part := by
  have name : (PostField.ofContent pair.1 pair.2).escapedName =
      escapeString pair.1 (.error ⟨.curlError, "Failed to url-encode name".toList⟩) := by
    have given : (PostField.ofContent pair.1 pair.2).name.bind FieldValue.text = some pair.1 := rfl
    rw [PostField.escapedName, given, orRaise_some, except_ok_bind, invalidPostField, rbRaise]
  have content (name : Bytes) : (PostField.ofContent pair.1 pair.2).escapedContent name =
      escapeString pair.2 (.error ⟨.curlError, "Failed to url-encode content".toList⟩) := by
    have given : (PostField.ofContent pair.1 pair.2).fieldContent.text = some pair.2 := rfl
    rw [PostField.escapedContent, given, orRaise_some, except_ok_bind, invalidPostField, rbRaise]
  rw [PostField.toStr, name]
  simp only [content]
  exact written_iff

/-- The Ruby encoder writes it the same way. -/
theorem escapePair_eq_ok_iff : escapePair pair = .ok part ↔ ∃ read, Written pair read part := by
  rw [escapePair, escape, escape, rbRaise]
  exact written_iff

/-- No half of a part contains a separator. -/
theorem Written.separated (written : Written pair read part) : part ≠ [] ∧ 38 ∉ part := by
  rw [written.part]
  refine ⟨List.append_ne_nil_of_right_ne_nil _ (List.cons_ne_nil _ _), fun mem => ?_⟩
  rcases List.mem_append.mp mem with inName | rest
  · exact not_mem_percentEncode (by decide) (by decide) _ inName
  · rcases List.mem_cons.mp rest with same | inContent
    · exact absurd same (by decide)
    · exact not_mem_percentEncode (by decide) (by decide) _ inContent

/-- What is read of a part is what was escaped in it. -/
theorem Written.parsePart_eq (written : Written pair read part) : parsePart part = read := by
  have noEquals : ∀ byte ∈ percentEncode read.1, decide (byte ≠ 61) = true := by
    intro byte mem
    refine decide_eq_true ?_
    rintro rfl
    exact not_mem_percentEncode (by decide) (by decide) _ mem
  unfold parsePart
  rw [written.part, List.takeWhile_append_of_pos noEquals, List.dropWhile_append_of_pos noEquals,
    List.takeWhile_cons_of_neg (by decide), List.dropWhile_cons_of_neg (by decide), List.append_nil,
    List.tail_cons, percentDecode_encode, percentDecode_encode]

/-! ## A list of pairs -/

theorem parseForm_joinAmp (separated : ∀ part ∈ parts, part ≠ [] ∧ (38 : UInt8) ∉ part) :
    parseForm (joinAmp parts) = parts.map parsePart := by
  cases parts with
  | nil => rfl
  | cons first rest =>
    have filled : joinAmp (first :: rest) ≠ [] := by
      have notEmpty := (separated first List.mem_cons_self).1
      cases rest with
      | nil => rwa [joinAmp, List.intercalate_singleton]
      | cons next rest =>
        rw [joinAmp, List.intercalate_cons_cons, List.append_assoc]
        exact List.append_ne_nil_of_left_ne_nil notEmpty _
    rw [parseForm, if_neg filled, joinAmp,
      List.splitOn_intercalate 38 (fun part mem => (separated part mem).2) (List.cons_ne_nil _ _)]

/-- The pairs are written as these parts, one each. -/
abbrev AllWritten (pairs : List (Bytes × Bytes)) (parts : List Bytes) : Prop :=
  List.Forall₂ (fun pair part => ∃ read, Written pair read part) pairs parts

theorem AllWritten.separated (written : AllWritten pairs parts) :
    ∀ part ∈ parts, part ≠ [] ∧ (38 : UInt8) ∉ part := by
  induction written with
  | nil => exact nofun
  | cons isWritten _ ih =>
    obtain ⟨read, isWritten⟩ := isWritten
    intro other mem
    rcases List.mem_cons.mp mem with rfl | mem
    · exact isWritten.separated
    · exact ih other mem

theorem httpPostBody_eq_ok_iff {body : Bytes} :
    httpPostBody (pairs.map fun pair => .ofContent pair.1 pair.2) = .ok body ↔
      ∃ parts, AllWritten pairs parts ∧ body = joinAmp parts := by
  unfold httpPostBody
  rw [except_bind_eq_ok_iff]
  refine exists_congr fun parts => and_congr ?_ ⟨fun same => (Except.ok.inj same).symm, fun same => same ▸ rfl⟩
  rw [except_mapM_eq_ok_iff, List.forall₂_map_left_iff]
  simp only [toStr_ofContent_eq_ok_iff]

theorem multiPostBody_eq_ok_iff {body : Bytes} :
    multiPostBody pairs = .ok body ↔ ∃ parts, AllWritten pairs parts ∧ body = joinAmp parts := by
  unfold multiPostBody
  rw [except_bind_eq_ok_iff]
  refine exists_congr fun parts => and_congr ?_ ⟨fun same => (Except.ok.inj same).symm, fun same => same ▸ rfl⟩
  rw [except_mapM_eq_ok_iff]
  simp only [escapePair_eq_ok_iff]

/-- Pairs that are read back as they were have been escaped whole. -/
theorem AllWritten.fits (written : AllWritten pairs parts) (same : parts.map parsePart = pairs) :
    ∀ pair ∈ pairs, FitsInt pair.1 ∧ FitsInt pair.2 := by
  induction written with
  | nil => exact nofun
  | cons isWritten _ ih =>
    obtain ⟨read, isWritten⟩ := isWritten
    obtain ⟨head, tail⟩ := List.cons.inj same
    rw [isWritten.parsePart_eq] at head
    intro other mem
    rcases List.mem_cons.mp mem with rfl | mem
    · rw [← escapedPart_eq_iff, ← escapedPart_eq_iff, isWritten.name, isWritten.content, head]
      exact ⟨rfl, rfl⟩
    · exact ih tail other mem

/-- Pairs whose lengths fit are written, and read back as they were. -/
theorem exists_allWritten (fits : ∀ pair ∈ pairs, FitsInt pair.1 ∧ FitsInt pair.2) :
    ∃ parts, AllWritten pairs parts ∧ parts.map parsePart = pairs := by
  induction pairs with
  | nil => exact ⟨[], .nil, rfl⟩
  | cons pair rest ih =>
    obtain ⟨name, content⟩ := fits pair List.mem_cons_self
    obtain ⟨parts, written, same⟩ := ih fun other mem => fits other (List.mem_cons_of_mem _ mem)
    have isWritten : Written pair pair (percentEncode pair.1 ++ 61 :: percentEncode pair.2) :=
      ⟨escapedPart_eq_iff.mpr name, escapedPart_eq_iff.mpr content, rfl⟩
    refine ⟨_ :: parts, .cons ⟨pair, isWritten⟩ written, ?_⟩
    rw [List.map_cons, isWritten.parsePart_eq, same]

/-- The two bodies agree and are read back as the pairs, exactly where every length fits. -/
theorem roundTrips_iff (pairs : List (Bytes × Bytes)) :
    RoundTrips pairs ↔ ∀ pair ∈ pairs, FitsInt pair.1 ∧ FitsInt pair.2 := by
  constructor
  · rintro ⟨body, posted, _, parsed⟩
    obtain ⟨parts, written, rfl⟩ := httpPostBody_eq_ok_iff.mp posted
    rw [parseForm_joinAmp written.separated] at parsed
    exact written.fits parsed
  · intro fits
    obtain ⟨parts, written, same⟩ := exists_allWritten fits
    refine ⟨joinAmp parts, httpPostBody_eq_ok_iff.mpr ⟨parts, written, rfl⟩,
      multiPostBody_eq_ok_iff.mpr ⟨parts, written, rfl⟩, ?_⟩
    rw [parseForm_joinAmp written.separated, same]

/-- A content of 2^32 + 1 bytes is cut off after the first. -/
theorem longContent_isCutOff : ¬∀ pairs, RoundTrips pairs := by
  intro always
  obtain ⟨body, posted, _, parsed⟩ := always [([110], List.replicate 4294967297 120)]
  obtain ⟨parts, written, rfl⟩ := httpPostBody_eq_ok_iff.mp posted
  rw [parseForm_joinAmp written.separated] at parsed
  obtain ⟨_, fits⟩ := written.fits parsed _ (List.mem_singleton_self _)
  unfold FitsInt at fits
  rw [List.length_replicate] at fits
  omega

end Curb.Form

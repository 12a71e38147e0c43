import Curb.Misc.Regex
import Curb.Ruby.Basic

/-!
# `Easy#status`

The status is found by scanning all header data for a status line (`lib/curl/easy.rb:143-147`). The
pattern is not anchored: it matches behind the beginning of a line as well.
-/

namespace Curb.Status
open Curb.Misc Curb.Misc.Regex Curb.Ruby

/-- `default_header_handler` (`ext/curb_easy.c:903-915`). -/
def defaultHeaderHandler (headerData : Option Text) (stream : Text) : Option Text :=
  some (headerData.getD [] ++ stream)

/-- `header_str` after these calls of the handler. -/
def headerStr (chunks : List Text) : Option Text := chunks.foldl defaultHeaderHandler none

/-- `.` -/
def notNewline (c : Char) : Bool := c != '\n'

/-- `(\d+\s.*)` -/
def codeAndReason : Regex :=
  .group 2 (.seq (.some_ Char.isDigit) (.seq (.one isSpace) (.many notNewline)))

/-- `(\.\d)?` -/
def minorVersion : Regex :=
  .optional (.group 1 (.seq (.one fun c => c == '.') (.one Char.isDigit)))

/-- `/HTTP\/\d(\.\d)?\s(\d+\s.*)\r\n/` -/
def statusPattern : Regex :=
  .seq (.literal "HTTP/".toList) (.seq (.one Char.isDigit) (.seq minorVersion (.seq (.one isSpace)
    (.seq codeAndReason (.literal "\r\n".toList)))))

/-- `match[1]`. -/
def secondGroup (captures : Captures) : Text := (captures.lookup 2).getD []

/-- `Easy#status`. -/
def status (headerData : Option Text) : Option Text :=
  let statuses := (statusPattern.scan (headerData.getD [])).map secondGroup
  statuses.getLast?.map strip

/-! ## Heads -/

/-- There is no line break in the text. -/
def NoBreak (text : Text) : Prop := '\r' ∉ text ∧ '\n' ∉ text

/-- `HTTP/1.1` or `HTTP/2`, for example. -/
structure Version where
  major : Char
  minor : Option Char
  major_isDigit : major.isDigit = true
  minor_isDigit : ∀ c ∈ minor, c.isDigit = true

/-- The head of a response. -/
structure Head where
  version : Version
  code : Text
  reason : Text
  headers : List Text
  code_ne_nil : code ≠ []
  code_isDigit : ∀ c ∈ code, c.isDigit = true
  reason_noBreak : NoBreak reason
  headers_noBreak : ∀ header ∈ headers, NoBreak header

def Version.minorText (version : Version) : Text := version.minor.elim [] fun c => ['.', c]

/-- The code and the reason, as they stand in the status line. -/
def Head.codeReason (head : Head) : Text := head.code ++ ' ' :: head.reason

def Head.statusLine (head : Head) : Text :=
  "HTTP/".toList ++ head.version.major :: (head.version.minorText ++ ' ' :: head.codeReason)

/-- The lines of a head, with the empty one at its end. -/
def Head.lines (head : Head) : List Text := head.statusLine :: head.headers ++ [[]]

def crlf : Text := ['\r', '\n']

/-- What libcurl hands over of these heads, line by line. -/
def chunks (heads : List Head) : List Text := heads.flatMap fun head => head.lines.map fun line => line ++ crlf

/-! ## Status lines in a line -/

/-- A dot and a digit, or nothing at all. -/
def IsMinor (minor : Text) : Prop := minor = [] ∨ ∃ c, c.isDigit = true ∧ minor = ['.', c]

/-- The text is a version and a blank, with this rest behind them. -/
def VersionAt (text rest : Text) : Prop :=
  ∃ major minor blank, major.isDigit = true ∧ IsMinor minor ∧ isSpace blank = true ∧
    text = "HTTP/".toList ++ major :: (minor ++ blank :: rest)

/-- The text is a code, a blank, and this rest behind them. -/
def CodeAt (text rest : Text) : Prop :=
  ∃ code blank, code ≠ [] ∧ (∀ c ∈ code, c.isDigit = true) ∧ isSpace blank = true ∧
    text = code ++ blank :: rest

/-- The text is a version and a blank, with this code and reason behind them. -/
def StatusAt (text found : Text) : Prop := VersionAt text found ∧ ∃ reason, CodeAt found reason

/-- The version and a blank are taken off, if they are there. -/
def dropVersion : Text → Option Text
  | 'H' :: 'T' :: 'T' :: 'P' :: '/' :: major :: rest =>
      if major.isDigit then
        match rest with
        | '.' :: minor :: blank :: found =>
            if minor.isDigit && isSpace blank then some found else none
        | blank :: found => if isSpace blank then some found else none
        | [] => none
      else none
  | _ => none

/-- A code and a blank begin the text. -/
def startsWithCode (text : Text) : Bool :=
  (text.head?.any Char.isDigit) && ((text.dropWhile Char.isDigit).head?.any isSpace)

/-- The code and reason of the first status line in a line. -/
def firstStatus : Text → Option Text
  | [] => none
  | c :: rest => ((dropVersion (c :: rest)).filter startsWithCode).or (firstStatus rest)

/-- The last header of a head that contains a status line has the code and reason of the head. -/
def HeadersAgree (head : Head) : Prop :=
  ∀ found ∈ (head.headers.filterMap firstStatus).getLast?, strip found = strip head.codeReason

/-! ## The matches of the pattern -/

section Matches
variable {input text found rest after : Text} {captures : Captures}

theorem mem_minorVersion (mem : (captures, rest) ∈ minorVersion.run input) :
    ∃ minor, IsMinor minor ∧ input = minor ++ rest ∧ captures.lookup 2 = none := by
  rcases mem_run_optional.mp mem with mem | ⟨rfl, rfl⟩
  · obtain ⟨inner, taken, memInner, split, rfl⟩ := mem_run_group.mp mem
    obtain ⟨_, _, _, memDot, memDigit, rfl⟩ := mem_run_seq.mp memInner
    obtain ⟨rfl, dot, isDot, rfl⟩ := mem_run_one.mp memDot
    obtain ⟨rfl, digit, isDigit, rfl⟩ := mem_run_one.mp memDigit
    have same : taken = [dot, digit] := List.append_cancel_right split.symm
    exact ⟨taken, Or.inr ⟨digit, isDigit, by rw [same, beq_iff_eq.mp isDot]⟩, split, rfl⟩
  · exact ⟨[], Or.inl rfl, rfl, rfl⟩

theorem minorVersion_mem {minor : Text} (isMinor : IsMinor minor) (rest : Text) :
    ∃ captures : Captures, captures.lookup 2 = none ∧ (captures, rest) ∈ minorVersion.run (minor ++ rest) := by
  rcases isMinor with rfl | ⟨digit, isDigit, rfl⟩
  · exact ⟨[], rfl, mem_run_optional.mpr (Or.inr ⟨rfl, rfl⟩)⟩
  · have memDot : ([], digit :: rest) ∈ (one fun c => c == '.').run ('.' :: digit :: rest) :=
      mem_run_one.mpr ⟨rfl, '.', rfl, rfl⟩
    have memDigit : ([], rest) ∈ (one Char.isDigit).run (digit :: rest) :=
      mem_run_one.mpr ⟨rfl, digit, isDigit, rfl⟩
    refine ⟨[(1, ['.', digit])], rfl, mem_run_optional.mpr (Or.inl ?_)⟩
    refine mem_run_group.mpr ⟨[], ['.', digit], ?_, rfl, rfl⟩
    exact mem_run_seq.mpr ⟨[], digit :: rest, [], memDot, memDigit, rfl⟩

theorem mem_codeAndReason : (captures, rest) ∈ codeAndReason.run input ↔
    ∃ found reason, CodeAt found reason ∧ '\n' ∉ reason ∧ input = found ++ rest ∧ captures = [(2, found)] := by
  have noNewline (reason : Text) : (∀ c ∈ reason, notNewline c = true) ↔ '\n' ∉ reason := by
    simp [notNewline, List.forall_mem_ne']
  constructor
  · intro mem
    obtain ⟨_, found, memInner, split, rfl⟩ := mem_run_group.mp mem
    obtain ⟨_, _, _, memCode, memRest, rfl⟩ := mem_run_seq.mp memInner
    obtain ⟨_, _, _, memBlank, memReason, rfl⟩ := mem_run_seq.mp memRest
    obtain ⟨rfl, code, notNil, digits, rfl⟩ := mem_run_some.mp memCode
    obtain ⟨rfl, blank, isBlank, rfl⟩ := mem_run_one.mp memBlank
    obtain ⟨rfl, reason, all, rfl⟩ := mem_run_many.mp memReason
    rw [← List.cons_append, ← List.append_assoc] at split
    have same : found = code ++ blank :: reason := List.append_cancel_right split.symm
    refine ⟨found, reason, ⟨code, blank, notNil, digits, isBlank, same⟩, (noNewline reason).mp all, ?_, rfl⟩
    rw [same, List.append_assoc, List.cons_append]
  · rintro ⟨_, reason, ⟨code, blank, notNil, digits, isBlank, rfl⟩, fresh, rfl, rfl⟩
    have memCode : ([], blank :: (reason ++ rest)) ∈ (some_ Char.isDigit).run (code ++ blank :: reason ++ rest) :=
      mem_run_some.mpr ⟨rfl, code, notNil, digits, List.append_assoc code (blank :: reason) rest⟩
    have memBlank : ([], reason ++ rest) ∈ (one isSpace).run (blank :: (reason ++ rest)) :=
      mem_run_one.mpr ⟨rfl, blank, isBlank, rfl⟩
    have memReason : ([], rest) ∈ (many notNewline).run (reason ++ rest) :=
      mem_run_many.mpr ⟨rfl, reason, (noNewline reason).mpr fresh, rfl⟩
    refine mem_run_group.mpr ⟨[], code ++ blank :: reason, ?_, rfl, rfl⟩
    refine mem_run_seq.mpr ⟨[], blank :: (reason ++ rest), [], memCode, ?_, rfl⟩
    exact mem_run_seq.mpr ⟨[], reason ++ rest, [], memBlank, memReason, rfl⟩

/-- The pattern matches the beginning of the text, with this second group and this text behind it. -/
def MatchAt (input found after : Text) : Prop :=
  VersionAt input (found ++ '\r' :: '\n' :: after) ∧ ∃ reason, CodeAt found reason ∧ '\n' ∉ reason

theorem matchAt_of_mem (mem : (captures, after) ∈ statusPattern.run input) :
    MatchAt input (secondGroup captures) after := by
  obtain ⟨_, _, _, memName, behindName, rfl⟩ := mem_run_seq.mp mem
  obtain ⟨_, _, _, memMajor, behindMajor, rfl⟩ := mem_run_seq.mp behindName
  obtain ⟨minorCaptures, _, _, memMinor, behindMinor, rfl⟩ := mem_run_seq.mp behindMajor
  obtain ⟨_, _, _, memBlank, behindBlank, rfl⟩ := mem_run_seq.mp behindMinor
  obtain ⟨_, _, _, memCode, memEnd, rfl⟩ := mem_run_seq.mp behindBlank
  obtain ⟨rfl, rfl⟩ := mem_run_literal.mp memName
  obtain ⟨rfl, major, isMajor, rfl⟩ := mem_run_one.mp memMajor
  obtain ⟨minor, isMinor, rfl, noGroup⟩ := mem_minorVersion memMinor
  obtain ⟨rfl, blank, isBlank, rfl⟩ := mem_run_one.mp memBlank
  obtain ⟨found, reason, code, fresh, rfl, rfl⟩ := mem_codeAndReason.mp memCode
  obtain ⟨rfl, rfl⟩ := mem_run_literal.mp memEnd
  have same : secondGroup (minorCaptures ++ [(2, found)]) = found := by
    rw [secondGroup, List.lookup_append, noGroup]
    rfl
  change MatchAt _ (secondGroup (minorCaptures ++ [(2, found)])) after
  rw [same]
  exact ⟨⟨major, minor, blank, isMajor, isMinor, isBlank, rfl⟩, reason, code, fresh⟩

theorem mem_of_matchAt (matched : MatchAt input found after) :
    ∃ captures, (captures, after) ∈ statusPattern.run input := by
  obtain ⟨⟨major, minor, blank, isMajor, isMinor, isBlank, rfl⟩, reason, code, fresh⟩ := matched
  obtain ⟨minorCaptures, _, memMinor⟩ :=
    minorVersion_mem isMinor (blank :: (found ++ '\r' :: '\n' :: after))
  have memCode : ([(2, found)], '\r' :: '\n' :: after) ∈ codeAndReason.run (found ++ '\r' :: '\n' :: after) :=
    mem_codeAndReason.mpr ⟨found, reason, code, fresh, rfl, rfl⟩
  have memEnd : ([], after) ∈ (literal "\r\n".toList).run ('\r' :: '\n' :: after) :=
    mem_run_literal.mpr ⟨rfl, rfl⟩
  refine ⟨minorCaptures ++ [(2, found)], ?_⟩
  refine mem_run_seq.mpr ⟨[], _, minorCaptures ++ [(2, found)], mem_run_literal.mpr ⟨rfl, rfl⟩, ?_, rfl⟩
  refine mem_run_seq.mpr ⟨[], _, _, mem_run_one.mpr ⟨rfl, major, isMajor, rfl⟩, ?_, rfl⟩
  refine mem_run_seq.mpr ⟨minorCaptures, _, [(2, found)], memMinor, ?_, rfl⟩
  refine mem_run_seq.mpr ⟨[], _, _, mem_run_one.mpr ⟨rfl, blank, isBlank, rfl⟩, ?_, rfl⟩
  exact mem_run_seq.mpr ⟨_, _, _, memCode, memEnd, rfl⟩

end Matches

/-! ## Lines without breaks -/

section Lines
variable {text other line more found front rest after : Text} {c : Char}

theorem noBreak_nil : NoBreak [] := ⟨nofun, nofun⟩

theorem noBreak_cons_iff : NoBreak (c :: text) ↔ (c ≠ '\r' ∧ c ≠ '\n') ∧ NoBreak text := by
  simp only [NoBreak, List.mem_cons, not_or, ne_eq, @eq_comm _ c]
  tauto

theorem noBreak_append_iff : NoBreak (text ++ other) ↔ NoBreak text ∧ NoBreak other := by
  simp only [NoBreak, List.mem_append, not_or]
  tauto

theorem noBreak_of_isDigit (digits : ∀ c ∈ text, c.isDigit = true) : NoBreak text :=
  ⟨fun mem => absurd (digits _ mem) (by decide), fun mem => absurd (digits _ mem) (by decide)⟩

theorem IsMinor.noBreak {minor : Text} (isMinor : IsMinor minor) : NoBreak minor := by
  rcases isMinor with rfl | ⟨digit, isDigit, rfl⟩
  · exact noBreak_nil
  · refine noBreak_cons_iff.mpr ⟨by decide, noBreak_of_isDigit ?_⟩
    simpa using isDigit

/-- The first break behind such a line is the one that ends it. -/
theorem NoBreak.next (lineFree : NoBreak line) (frontFree : NoBreak front)
    (same : line ++ '\r' :: '\n' :: more = front ++ c :: rest) :
    (c = '\r' ∧ line = front ∧ '\n' :: more = rest) ∨ c ≠ '\r' ∧ c ≠ '\n' := by
  induction line generalizing front with
  | nil =>
    cases front with
    | nil =>
      obtain ⟨rfl, rfl⟩ := List.cons.inj same
      exact Or.inl ⟨rfl, rfl, rfl⟩
    | cons d front =>
      obtain ⟨rfl, _⟩ := List.cons.inj same
      exact absurd List.mem_cons_self frontFree.1
  | cons b line ih =>
    cases front with
    | nil =>
      obtain ⟨rfl, _⟩ := List.cons.inj same
      exact Or.inr (noBreak_cons_iff.mp lineFree).1
    | cons d front =>
      obtain ⟨rfl, tailSame⟩ := List.cons.inj same
      rcases ih (noBreak_cons_iff.mp lineFree).2 (noBreak_cons_iff.mp frontFree).2 tailSame with
        ⟨cr, rfl, rfl⟩ | other
      · exact Or.inl ⟨cr, rfl, rfl⟩
      · exact Or.inr other

/-- A blank in front of a character that is no line break is not one of the line's end. -/
theorem NoBreak.next_blank {d : Char} (lineFree : NoBreak line) (frontFree : NoBreak front) (notNewline : d ≠ '\n')
    (same : line ++ '\r' :: '\n' :: more = front ++ c :: d :: rest) : NoBreak (front ++ [c]) := by
  rcases lineFree.next frontFree same with ⟨_, _, ends⟩ | other
  · exact absurd (List.cons.inj ends).1.symm notNewline
  · exact noBreak_append_iff.mpr ⟨frontFree, noBreak_cons_iff.mpr ⟨other, noBreak_nil⟩⟩

/-- The text up to the first newline decides where a line ends. -/
theorem NoBreak.ends (lineFree : NoBreak line) (fresh : '\n' ∉ front)
    (same : line ++ '\r' :: '\n' :: more = front ++ '\r' :: '\n' :: after) : line = front ∧ more = after := by
  have cut {text : Text} (free : '\n' ∉ text) (rest : Text) :
      cutAt '\n' (text ++ '\r' :: '\n' :: rest) = some (text ++ ['\r'], rest) :=
    cutAt_eq_some_iff.mpr ⟨List.append_cons text '\r' _, by simp [free]⟩
  have halves := cut lineFree.2 more
  rw [same, cut fresh after] at halves
  obtain ⟨lines, rfl⟩ := Prod.mk.inj (Option.some.inj halves)
  exact ⟨(List.append_cancel_right lines).symm, rfl⟩

/-- A match that begins in a line ends with it. -/
theorem matchAt_line_iff (lineFree : NoBreak line) :
    MatchAt (line ++ '\r' :: '\n' :: more) found after ↔ StatusAt line found ∧ after = more := by
  constructor
  · rintro ⟨⟨major, minor, blank, isMajor, isMinor, isBlank, split⟩, reason,
      ⟨_ | ⟨digit, code⟩, blank', notNil, digits, isBlank', rfl⟩, fresh⟩
    · exact absurd rfl notNil
    have majorFree : NoBreak [major] := noBreak_of_isDigit (by simpa using isMajor)
    have codeFree : NoBreak (digit :: code) := noBreak_of_isDigit digits
    have versionFree : NoBreak ("HTTP/".toList ++ major :: minor) :=
      noBreak_append_iff.mpr ⟨⟨by decide, by decide⟩, noBreak_append_iff.mpr ⟨majorFree, isMinor.noBreak⟩⟩
    have blankFree : NoBreak ("HTTP/".toList ++ major :: minor ++ [blank]) :=
      lineFree.next_blank versionFree (noBreak_cons_iff.mp codeFree).1.2 (by simpa using split)
    have numberFree : NoBreak ("HTTP/".toList ++ major :: minor ++ [blank] ++ digit :: code) :=
      noBreak_append_iff.mpr ⟨blankFree, codeFree⟩
    -- Behind the second blank there is the reason, or the break at its end.
    have blankFree' : NoBreak ("HTTP/".toList ++ major :: minor ++ [blank] ++ digit :: code ++ [blank']) := by
      cases reason with
      | nil => exact lineFree.next_blank numberFree (by decide : '\r' ≠ '\n') (by simpa using split)
      | cons c reason =>
        exact lineFree.next_blank numberFree (List.ne_of_not_mem_cons fresh).symm (by simpa using split)
    obtain ⟨rfl, rfl⟩ := lineFree.ends (List.not_mem_append blankFree'.2 fresh) (by simpa using split)
    refine ⟨⟨⟨major, minor, blank, isMajor, isMinor, isBlank, by simp⟩, reason, ?_⟩, rfl⟩
    exact ⟨digit :: code, blank', notNil, digits, isBlank', rfl⟩
  · rintro ⟨⟨⟨major, minor, blank, isMajor, isMinor, isBlank, rfl⟩, reason, code⟩, rfl⟩
    refine ⟨⟨major, minor, blank, isMajor, isMinor, isBlank, by simp⟩, reason, code, ?_⟩
    obtain ⟨_, _, _, _, _, rfl⟩ := code
    intro mem
    exact lineFree.2 (by simp [mem])

end Lines

/-! ## The first status line in a line -/

section First
variable {text line more found rest : Text}

theorem dropVersion_eq_some_iff : dropVersion text = some rest ↔ VersionAt text rest := by
  constructor
  · fun_cases dropVersion text with
    | case1 major isMajor minor blank found both =>
      rintro ⟨⟩
      obtain ⟨isMinor, isBlank⟩ := Bool.and_eq_true_iff.mp both
      exact ⟨major, ['.', minor], blank, isMajor, Or.inr ⟨minor, isMinor, rfl⟩, isBlank, rfl⟩
    | case3 major isMajor blank found _ isBlank =>
      rintro ⟨⟩
      exact ⟨major, [], blank, isMajor, Or.inl rfl, isBlank, rfl⟩
    | _ => exact nofun
  · rintro ⟨major, minor, blank, isMajor, isMinor, isBlank, rfl⟩
    rcases isMinor with rfl | ⟨minor, isMinor, rfl⟩
    · have notDot : blank ≠ '.' := by
        rintro rfl
        exact absurd isBlank (by decide)
      simp [dropVersion, isMajor, isBlank, notDot]
    · simp [dropVersion, isMajor, isMinor, isBlank]

theorem startsWithCode_iff : startsWithCode text = true ↔ ∃ rest, CodeAt text rest := by
  rw [startsWithCode, Bool.and_eq_true, Option.any_eq_true, Option.any_eq_true]
  constructor
  · rintro ⟨⟨digit, head, isDigit⟩, blank, next, isBlank⟩
    obtain ⟨rest, behind⟩ := List.head?_eq_some_iff.mp next
    refine ⟨rest, text.takeWhile Char.isDigit, blank, ?_, fun c mem => List.mem_takeWhile_imp mem, isBlank, ?_⟩
    · obtain ⟨tail, rfl⟩ := List.head?_eq_some_iff.mp head
      rw [List.takeWhile_cons_of_pos isDigit]
      exact List.cons_ne_nil _ _
    · rw [← behind, List.takeWhile_append_dropWhile]
  · rintro ⟨rest, code, blank, notNil, digits, isBlank, rfl⟩
    have stop : blank.isDigit = false := by
      by_contra digit
      rw [Bool.not_eq_false] at digit
      exact absurd isBlank (by simp [isSpace_eq_false_of_isDigit digit])
    obtain ⟨digit, code, rfl⟩ := List.exists_cons_of_ne_nil notNil
    refine ⟨⟨digit, rfl, digits digit List.mem_cons_self⟩, blank, ?_, isBlank⟩
    rw [dropWhile_append_stop digits (by simpa using stop)]
    rfl

/-- The status line at the beginning of a text, if there is one. -/
theorem statusAt_iff : (dropVersion text).filter startsWithCode = some found ↔ StatusAt text found := by
  rw [Option.filter_eq_some_iff, dropVersion_eq_some_iff, startsWithCode_iff]
  rfl

/-- The second groups of all matches in the text. -/
def statusesOf (text : Text) : List Text := (statusPattern.scan text).map secondGroup

theorem statusesOf_cons_of_none {c : Char} (noMatch : ∀ found after, ¬ MatchAt (c :: rest) found after) :
    statusesOf (c :: rest) = statusesOf rest := by
  have none (captures : Captures) (after : Text) : (captures, after) ∉ statusPattern.run (c :: rest) :=
    fun mem => noMatch _ after (matchAt_of_mem mem)
  rw [statusesOf, scan_cons_of_none none]
  rfl

theorem not_matchAt_of_ne {c : Char} (other : c ≠ 'H') (found after : Text) :
    ¬ MatchAt (c :: rest) found after := by
  rintro ⟨⟨major, minor, blank, _, _, _, split⟩, _⟩
  exact other (List.cons.inj split).1

/-- The scan takes the first status line out of a line, and goes on behind it. -/
theorem statusesOf_line (lineFree : NoBreak line) :
    statusesOf (line ++ '\r' :: '\n' :: more) = (firstStatus line).toList ++ statusesOf more := by
  induction line with
  | nil =>
    rw [List.nil_append, statusesOf_cons_of_none (not_matchAt_of_ne (by decide)),
      statusesOf_cons_of_none (not_matchAt_of_ne (by decide))]
    rfl
  | cons c line ih =>
    rw [firstStatus]
    cases here : (dropVersion (c :: line)).filter startsWithCode with
    | none =>
      have noMatch (found after : Text) : ¬ MatchAt (c :: (line ++ '\r' :: '\n' :: more)) found after := by
        intro matched
        have status := statusAt_iff.mpr ((matchAt_line_iff lineFree).mp matched).1
        rw [here] at status
        cases status
      rw [List.cons_append, statusesOf_cons_of_none noMatch, ih (noBreak_cons_iff.mp lineFree).2]
      rfl
    | some found =>
      have matched : MatchAt (c :: (line ++ '\r' :: '\n' :: more)) found more :=
        (matchAt_line_iff lineFree).mpr ⟨statusAt_iff.mp here, rfl⟩
      have split : line ++ '\r' :: '\n' :: more = line ++ crlf ++ more := (List.append_assoc line crlf more).symm
      obtain ⟨captures, mem⟩ := mem_of_matchAt matched
      refine map_scan_of_agree split mem fun captures after mem => ?_
      obtain ⟨status, rfl⟩ := (matchAt_line_iff lineFree).mp (matchAt_of_mem mem)
      have same := statusAt_iff.mpr status
      rw [here] at same
      exact ⟨(Option.some.inj same).symm, rfl⟩

end First

/-! ## The status of a stream of heads -/

section Heads
variable {head : Head}

theorem headerStr_append (chunks : List Text) (headerData : Text) :
    chunks.foldl defaultHeaderHandler (some headerData) = some (headerData ++ chunks.flatten) := by
  induction chunks generalizing headerData with
  | nil => simp
  | cons chunk chunks ih =>
    rw [List.foldl_cons, defaultHeaderHandler, ih]
    simp

/-- All header data is kept, in the order in which it came. -/
theorem headerStr_getD (chunks : List Text) : (headerStr chunks).getD [] = chunks.flatten := by
  cases chunks with
  | nil => rfl
  | cons chunk chunks =>
    rw [headerStr, List.foldl_cons, defaultHeaderHandler, headerStr_append]
    simp

theorem statusesOf_lines {lines : List Text} (free : ∀ line ∈ lines, NoBreak line) (more : Text) :
    statusesOf ((lines.map fun line => line ++ crlf).flatten ++ more) =
      lines.filterMap firstStatus ++ statusesOf more := by
  induction lines with
  | nil => rfl
  | cons line lines ih =>
    obtain ⟨lineFree, free⟩ := List.forall_mem_cons.mp free
    have split : ((line :: lines).map fun line => line ++ crlf).flatten ++ more =
        line ++ '\r' :: '\n' :: ((lines.map fun line => line ++ crlf).flatten ++ more) := by
      simp [crlf]
    rw [split, statusesOf_line lineFree, ih free, List.filterMap_cons]
    cases firstStatus line <;> rfl

theorem Version.isMinor (version : Version) : IsMinor version.minorText := by
  rw [minorText]
  cases minor : version.minor with
  | none => exact Or.inl rfl
  | some c => exact Or.inr ⟨c, version.minor_isDigit c minor, rfl⟩

theorem Head.statusAt (head : Head) : StatusAt head.statusLine head.codeReason :=
  ⟨⟨head.version.major, head.version.minorText, ' ', head.version.major_isDigit, head.version.isMinor, rfl, rfl⟩,
    head.reason, head.code, ' ', head.code_ne_nil, head.code_isDigit, rfl, rfl⟩

theorem Head.firstStatus_statusLine (head : Head) : firstStatus head.statusLine = some head.codeReason := by
  obtain ⟨tail, whole⟩ : ∃ tail, head.statusLine = 'H' :: tail := ⟨_, rfl⟩
  have here := statusAt_iff.mpr head.statusAt
  rw [whole] at here ⊢
  rw [firstStatus, here, Option.some_or]

theorem Head.lines_noBreak (head : Head) : ∀ line ∈ head.lines, NoBreak line := by
  have majorFree : NoBreak [head.version.major] := noBreak_of_isDigit (by simpa using head.version.major_isDigit)
  have codeFree : NoBreak head.codeReason :=
    noBreak_append_iff.mpr ⟨noBreak_of_isDigit head.code_isDigit,
      noBreak_cons_iff.mpr ⟨by decide, head.reason_noBreak⟩⟩
  have versionFree : NoBreak (head.version.minorText ++ ' ' :: head.codeReason) :=
    noBreak_append_iff.mpr ⟨head.version.isMinor.noBreak, noBreak_cons_iff.mpr ⟨by decide, codeFree⟩⟩
  have statusFree : NoBreak head.statusLine :=
    noBreak_append_iff.mpr ⟨⟨by decide, by decide⟩, noBreak_append_iff.mpr ⟨majorFree, versionFree⟩⟩
  intro line mem
  rcases List.mem_append.mp mem with mem | mem
  · exact List.forall_mem_cons.mpr ⟨statusFree, head.headers_noBreak⟩ line mem
  · rw [List.mem_singleton.mp mem]
    exact noBreak_nil

/-- What the scan finds in a head: its status line, and what looks like one in its headers. -/
def Head.statuses (head : Head) : List Text := head.codeReason :: head.headers.filterMap firstStatus

theorem Head.filterMap_lines (head : Head) : head.lines.filterMap firstStatus = head.statuses := by
  rw [lines, List.filterMap_append, List.filterMap_cons, firstStatus_statusLine, statuses]
  simp [firstStatus]

theorem statusesOf_chunks (heads : List Head) : statusesOf (chunks heads).flatten = heads.flatMap Head.statuses := by
  induction heads with
  | nil => rfl
  | cons head heads ih =>
    rw [chunks, List.flatMap_cons, List.flatten_append, statusesOf_lines head.lines_noBreak, head.filterMap_lines,
      List.flatMap_cons]
    exact congrArg (head.statuses ++ ·) ih

/-- `status` is that of the last head exactly where its headers do not say otherwise. -/
theorem status_chunks_iff (init : List Head) (last : Head) :
    status (headerStr (chunks (init ++ [last]))) = some (strip last.codeReason) ↔ HeadersAgree last := by
  have found : status (headerStr (chunks (init ++ [last]))) =
      some (strip ((last.headers.filterMap firstStatus).getLast?.getD last.codeReason)) := by
    change ((statusesOf ((headerStr (chunks (init ++ [last]))).getD [])).getLast?).map strip = _
    rw [headerStr_getD, statusesOf_chunks, List.flatMap_append, List.flatMap_singleton, Head.statuses,
      List.getLast?_append, List.getLast?_cons, Option.some_or]
    rfl
  rw [found, HeadersAgree]
  cases (last.headers.filterMap firstStatus).getLast? with
  | none => exact ⟨fun _ => nofun, fun _ => rfl⟩
  | some text => simp

/-- The last response is a success behind a proxy that passes the status of its upstream on. -/
def upstreamHead : Head where
  version := ⟨'1', some '1', rfl, by simp⟩
  code := "200".toList
  reason := "OK".toList
  headers := ["X-Upstream: HTTP/1.1 502 Bad Gateway".toList]
  code_ne_nil := by decide
  code_isDigit := by simp
  reason_noBreak := by simp [NoBreak]
  headers_noBreak := by simp [NoBreak]

theorem upstreamStatus_isTaken :
    status (headerStr (chunks [upstreamHead])) = some "502 Bad Gateway".toList ∧
      status (headerStr (chunks [upstreamHead])) ≠ some (strip upstreamHead.codeReason) := by
  constructor <;> decide

end Heads

end Curb.Status

import Mathlib.Tactic.Common
import Curb.Misc.CString

/-!
# Regular expressions with priorities

A backtracking matcher tries the ways to match in order: an option and a repetition take as much as they
can before they take less. The matches of an expression are the list of these ways, each with the groups
it has captured and the text that is left; the first one counts.
-/

namespace Curb.Misc

/-- The captured groups, by their numbers. -/
abbrev Captures := List (Nat × Text)

inductive Regex where
  | empty
  /-- One character of a class. -/
  | one (class_ : Char → Bool)
  | seq (first second : Regex)
  /-- `r?` -/
  | optional (regex : Regex)
  /-- `c*` for a class of characters. -/
  | many (class_ : Char → Bool)
  | group (number : Nat) (regex : Regex)

/-- What `c*` may leave, the longest repetition first. -/
@[simp] def rests (class_ : Char → Bool) : Text → List Text
  | [] => [[]]
  | c :: rest => if class_ c then rests class_ rest ++ [c :: rest] else [c :: rest]

namespace Regex

/-- All matches at the beginning of a text, in the order in which they are tried. -/
@[simp] def run : Regex → Text → List (Captures × Text)
  | .empty, input => [([], input)]
  | .one _, [] => []
  | .one class_, c :: rest => if class_ c then [([], rest)] else []
  | .seq first second, input => (first.run input).flatMap fun found =>
      (second.run found.2).map fun next => (found.1 ++ next.1, next.2)
  | .optional regex, input => regex.run input ++ [([], input)]
  | .many class_, input => (rests class_ input).map fun rest => ([], rest)
  | .group number regex, input => (regex.run input).map fun found =>
      (found.1 ++ [(number, input.take (input.length - found.2.length))], found.2)

/-- A literal text. -/
@[simp] def literal : Text → Regex
  | [] => .empty
  | c :: rest => .seq (.one fun d => d == c) (literal rest)

/-- `c+` for a class of characters. -/
def some_ (class_ : Char → Bool) : Regex := .seq (.one class_) (.many class_)

/-- `String#scan` behind the next `skip` characters: the groups of the matches, from left to right. -/
@[simp] def scanFrom (regex : Regex) : Nat → Text → List Captures
  | skip + 1, _ :: rest => regex.scanFrom skip rest
  | _ + 1, [] => []
  | 0, [] => ((regex.run []).head?.map Prod.fst).toList
  | 0, c :: rest =>
      match (regex.run (c :: rest)).head? with
      | none => regex.scanFrom 0 rest
      | some (captures, after) => captures :: regex.scanFrom (rest.length - after.length) rest

def scan (regex : Regex) (text : Text) : List Captures := regex.scanFrom 0 text

/-! ## What the matches are -/

variable {regex first second : Regex} {class_ : Char → Bool} {input rest : Text} {captures : Captures}
  {number : Nat}

theorem mem_rests : rest ∈ rests class_ input ↔
    ∃ front, (∀ c ∈ front, class_ c = true) ∧ input = front ++ rest := by
  induction input with
  | nil =>
    rw [rests, List.mem_singleton]
    constructor
    · rintro rfl
      exact ⟨[], nofun, rfl⟩
    · rintro ⟨front, _, same⟩
      exact (List.append_eq_nil_iff.mp same.symm).2
  | cons c tail ih =>
    have whole : rest = c :: tail → ∃ front, (∀ c ∈ front, class_ c = true) ∧ c :: tail = front ++ rest := by
      rintro rfl
      exact ⟨[], nofun, rfl⟩
    unfold rests
    split
    · rename_i inClass
      rw [List.mem_append, List.mem_singleton, ih]
      constructor
      · rintro (⟨front, all, rfl⟩ | same)
        · exact ⟨c :: front, List.forall_mem_cons.mpr ⟨inClass, all⟩, rfl⟩
        · exact whole same
      · rintro ⟨front, all, same⟩
        cases front with
        | nil => exact Or.inr same.symm
        | cons d front =>
          obtain ⟨rfl, tailSame⟩ := List.cons.inj same
          exact Or.inl ⟨front, (List.forall_mem_cons.mp all).2, tailSame⟩
    · rename_i notInClass
      rw [List.mem_singleton]
      refine ⟨whole, ?_⟩
      rintro ⟨front, all, same⟩
      cases front with
      | nil => exact same.symm
      | cons d front =>
        obtain ⟨rfl, _⟩ := List.cons.inj same
        exact absurd (all c List.mem_cons_self) notInClass

theorem mem_run_empty : (captures, rest) ∈ empty.run input ↔ captures = [] ∧ input = rest := by
  rw [run, List.mem_singleton, Prod.mk.injEq, @eq_comm _ rest]

theorem mem_run_one : (captures, rest) ∈ (one class_).run input ↔
    captures = [] ∧ ∃ c, class_ c = true ∧ input = c :: rest := by
  cases input with
  | nil => exact ⟨nofun, fun ⟨_, _, _, same⟩ => (nomatch same)⟩
  | cons c tail =>
    rw [run]
    split
    · rename_i inClass
      rw [List.mem_singleton]
      constructor
      · rintro ⟨⟩
        exact ⟨rfl, c, inClass, rfl⟩
      · rintro ⟨rfl, d, _, same⟩
        obtain ⟨_, rfl⟩ := List.cons.inj same
        rfl
    · rename_i notInClass
      refine ⟨nofun, ?_⟩
      rintro ⟨_, d, inClass, same⟩
      obtain ⟨rfl, _⟩ := List.cons.inj same
      exact absurd inClass notInClass

theorem mem_run_seq : (captures, rest) ∈ (seq first second).run input ↔
    ∃ front middle back, (front, middle) ∈ first.run input ∧ (back, rest) ∈ second.run middle ∧
      captures = front ++ back := by
  rw [run, List.mem_flatMap]
  constructor
  · rintro ⟨⟨front, middle⟩, memFirst, mem⟩
    obtain ⟨⟨back, last⟩, memSecond, ⟨⟩⟩ := List.mem_map.mp mem
    exact ⟨front, middle, back, memFirst, memSecond, rfl⟩
  · rintro ⟨front, middle, back, memFirst, memSecond, rfl⟩
    exact ⟨(front, middle), memFirst, List.mem_map.mpr ⟨(back, rest), memSecond, rfl⟩⟩

theorem mem_run_optional : (captures, rest) ∈ (optional regex).run input ↔
    (captures, rest) ∈ regex.run input ∨ captures = [] ∧ input = rest := by
  rw [run, List.mem_append, List.mem_singleton, Prod.mk.injEq, @eq_comm _ rest]

theorem mem_run_many : (captures, rest) ∈ (many class_).run input ↔
    captures = [] ∧ ∃ front, (∀ c ∈ front, class_ c = true) ∧ input = front ++ rest := by
  rw [run, List.mem_map]
  constructor
  · rintro ⟨_, mem, ⟨⟩⟩
    exact ⟨rfl, mem_rests.mp mem⟩
  · rintro ⟨rfl, front⟩
    exact ⟨rest, mem_rests.mpr front, rfl⟩

/-- A match takes a first part of the text. -/
theorem exists_taken (regex : Regex) {input rest : Text} {captures : Captures}
    (mem : (captures, rest) ∈ regex.run input) : ∃ taken, input = taken ++ rest := by
  induction regex generalizing input rest captures with
  | empty => exact ⟨[], (mem_run_empty.mp mem).2⟩
  | one class_ =>
    obtain ⟨_, c, _, same⟩ := mem_run_one.mp mem
    exact ⟨[c], same⟩
  | seq first second ihFirst ihSecond =>
    obtain ⟨_, middle, _, memFirst, memSecond, _⟩ := mem_run_seq.mp mem
    obtain ⟨front, rfl⟩ := ihFirst memFirst
    obtain ⟨back, rfl⟩ := ihSecond memSecond
    exact ⟨front ++ back, (List.append_assoc front back rest).symm⟩
  | optional regex ih =>
    rcases mem_run_optional.mp mem with taken | ⟨_, rfl⟩
    · exact ih taken
    · exact ⟨[], rfl⟩
  | many class_ =>
    obtain ⟨_, front, _, same⟩ := mem_run_many.mp mem
    exact ⟨front, same⟩
  | group number regex ih =>
    obtain ⟨inner, memInner, ⟨⟩⟩ := List.mem_map.mp mem
    exact ih memInner

theorem mem_run_group : (captures, rest) ∈ (group number regex).run input ↔
    ∃ inner taken, (inner, rest) ∈ regex.run input ∧ input = taken ++ rest ∧
      captures = inner ++ [(number, taken)] := by
  have takes (taken rest : Text) : (taken ++ rest).take ((taken ++ rest).length - rest.length) = taken := by
    rw [List.length_append, Nat.add_sub_cancel, List.take_left]
  rw [run, List.mem_map]
  constructor
  · rintro ⟨⟨inner, after⟩, mem, ⟨⟩⟩
    obtain ⟨taken, rfl⟩ := exists_taken regex mem
    exact ⟨inner, taken, mem, rfl, by rw [takes]⟩
  · rintro ⟨inner, taken, mem, rfl, rfl⟩
    exact ⟨(inner, rest), mem, by rw [takes]⟩

theorem mem_run_literal {text : Text} : (captures, rest) ∈ (literal text).run input ↔
    captures = [] ∧ input = text ++ rest := by
  induction text generalizing input captures with
  | nil => exact mem_run_empty
  | cons c text ih =>
    rw [literal, mem_run_seq]
    constructor
    · rintro ⟨front, middle, back, mem, memBack, rfl⟩
      obtain ⟨rfl, d, same, rfl⟩ := mem_run_one.mp mem
      obtain ⟨rfl, rfl⟩ := ih.mp memBack
      exact ⟨rfl, by rw [beq_iff_eq.mp same, List.cons_append]⟩
    · rintro ⟨rfl, rfl⟩
      have mem : ([], text ++ rest) ∈ (one fun d => d == c).run (c :: (text ++ rest)) :=
        mem_run_one.mpr ⟨rfl, c, beq_self_eq_true c, rfl⟩
      exact ⟨[], text ++ rest, [], mem, ih.mpr ⟨rfl, rfl⟩, rfl⟩

theorem mem_run_some : (captures, rest) ∈ (some_ class_).run input ↔
    captures = [] ∧ ∃ front, front ≠ [] ∧ (∀ c ∈ front, class_ c = true) ∧ input = front ++ rest := by
  rw [some_, mem_run_seq]
  constructor
  · rintro ⟨front, middle, back, mem, memBack, rfl⟩
    obtain ⟨rfl, c, inClass, rfl⟩ := mem_run_one.mp mem
    obtain ⟨rfl, taken, all, rfl⟩ := mem_run_many.mp memBack
    exact ⟨rfl, c :: taken, List.cons_ne_nil _ _, List.forall_mem_cons.mpr ⟨inClass, all⟩, rfl⟩
  · rintro ⟨rfl, front, notEmpty, all, rfl⟩
    cases front with
    | nil => exact absurd rfl notEmpty
    | cons c front =>
      obtain ⟨inClass, all⟩ := List.forall_mem_cons.mp all
      have mem : ([], front ++ rest) ∈ (one class_).run (c :: (front ++ rest)) :=
        mem_run_one.mpr ⟨rfl, c, inClass, rfl⟩
      exact ⟨[], front ++ rest, [], mem, mem_run_many.mpr ⟨rfl, front, all, rfl⟩, rfl⟩

/-! ## Scanning -/

/-- Where nothing matches at the first character, the scan goes on behind it. -/
theorem scan_cons_of_none {c : Char} (none : ∀ captures after, (captures, after) ∉ regex.run (c :: rest)) :
    regex.scan (c :: rest) = regex.scan rest := by
  have empty : regex.run (c :: rest) = [] :=
    List.eq_nil_iff_forall_not_mem.mpr fun found => none found.1 found.2
  rw [scan, scanFrom, empty]
  rfl

theorem scanFrom_skip (skipped after : Text) :
    regex.scanFrom skipped.length (skipped ++ after) = regex.scan after := by
  induction skipped with
  | nil => rfl
  | cons c skipped ih => exact ih

/-- Where all ways to match agree on a value and on what is left, the scan goes on there. -/
theorem map_scan_of_agree {β : Type} {value : Captures → β} {c : Char} {taken after last : Text} {x : β}
    (split : rest = taken ++ after) (mem : (captures, last) ∈ regex.run (c :: rest))
    (agree : ∀ captures last, (captures, last) ∈ regex.run (c :: rest) → value captures = x ∧ last = after) :
    (regex.scan (c :: rest)).map value = x :: (regex.scan after).map value := by
  obtain ⟨first, head, same⟩ : ∃ first,
      (regex.run (c :: rest)).head? = some (first, after) ∧ value first = x := by
    cases run : regex.run (c :: rest) with
    | nil =>
      rw [run] at mem
      cases mem
    | cons found others =>
      rw [run] at agree
      obtain ⟨same, left⟩ := agree found.1 found.2 List.mem_cons_self
      exact ⟨found.1, congrArg (fun after => some (found.1, after)) left, same⟩
  have length : rest.length - after.length = taken.length := by
    rw [split, List.length_append, Nat.add_sub_cancel]
  rw [scan, scanFrom, head]
  dsimp only
  rw [length, split, scanFrom_skip, List.map_cons, same]

end Regex
end Curb.Misc

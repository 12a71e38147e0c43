import Curb.Misc.CString
import Curb.Misc.Trim

/-!
# Paths

Absolute paths without empty components, `.` and `..`, as they are made from any text, and the two
parts of a path: the directory and the name.
-/

namespace Curb.Misc

/-- The parts between the slashes. -/
def splitSlash : Text → List Text
  | [] => [[]]
  | c :: rest =>
      if c = '/' then [] :: splitSlash rest
      else
        match splitSlash rest with
        | [] => [[c]]
        | part :: parts => (c :: part) :: parts

/-- One more part of a path, whose parts are held in reverse. -/
def pushPart (stack : List Text) (part : Text) : List Text :=
  if part = [] ∨ part = ['.'] then stack else if part = ['.', '.'] then stack.tail else part :: stack

/-- The parts of a path without `.` and `..`. -/
def normalParts (path : Text) : List Text := ((splitSlash path).foldl pushPart []).reverse

/-- The absolute path of these parts. -/
def absolutePath : List Text → Text
  | [] => ['/']
  | parts => parts.flatMap fun part => '/' :: part

def isSlash (c : Char) : Bool := c == '/'

/-- A path without the slashes at its end. -/
def chompSlashes (path : Text) : Text := path.rdropWhile isSlash

/-- `File.basename`. -/
def pathName (path : Text) : Text :=
  if path = [] then []
  else if chompSlashes path = [] then ['/']
  else (chompSlashes path).rtakeWhile fun c => !isSlash c

/-- `File.dirname`. -/
def pathParent (path : Text) : Text :=
  let parent := chompSlashes ((chompSlashes path).rdropWhile fun c => !isSlash c)
  if parent ≠ [] then parent else if path.head? = some '/' then ['/'] else ['.']

/-- `File.join` of two names. -/
def joinPath (dir name : Text) : Text :=
  if name.head? = some '/' then chompSlashes dir ++ name
  else if dir.getLast? = some '/' then dir ++ name
  else dir ++ '/' :: name

variable {path name : Text}

/-! ## Parts -/

theorem slash_not_mem_splitSlash (path : Text) : ∀ part ∈ splitSlash path, '/' ∉ part := by
  induction path with
  | nil =>
    intro part mem
    cases List.mem_singleton.mp mem
    exact List.not_mem_nil
  | cons c rest ih =>
    unfold splitSlash
    split
    · intro part mem
      rcases List.mem_cons.mp mem with rfl | mem
      · exact List.not_mem_nil
      · exact ih part mem
    · rename_i other
      split
      · intro part mem
        cases List.mem_singleton.mp mem
        exact fun inside => other (List.mem_singleton.mp inside).symm
      · rename_i first parts splits
        rw [splits] at ih
        intro part mem
        rcases List.mem_cons.mp mem with rfl | mem
        · intro inside
          rcases List.mem_cons.mp inside with same | inside
          · exact other same.symm
          · exact ih first List.mem_cons_self inside
        · exact ih part (List.mem_cons_of_mem _ mem)

/-- The parts of a path are names. -/
def IsPart (part : Text) : Prop := part ≠ [] ∧ '/' ∉ part

theorem isPart_pushPart {stack : List Text} {part : Text} (parts : ∀ part ∈ stack, IsPart part)
    (noSlash : '/' ∉ part) : ∀ other ∈ pushPart stack part, IsPart other := by
  unfold pushPart
  split
  · exact parts
  · rename_i kept
    split
    · exact fun other mem => parts other (List.mem_of_mem_tail mem)
    · intro other mem
      rcases List.mem_cons.mp mem with rfl | mem
      · exact ⟨fun empty => kept (Or.inl empty), noSlash⟩
      · exact parts other mem

theorem isPart_normalParts (path : Text) : ∀ part ∈ normalParts path, IsPart part := by
  have folds (parts : List Text) (slashless : ∀ part ∈ parts, '/' ∉ part) (stack : List Text)
      (names : ∀ part ∈ stack, IsPart part) : ∀ part ∈ parts.foldl pushPart stack, IsPart part := by
    induction parts generalizing stack with
    | nil => exact names
    | cons part rest ih =>
      refine ih (fun other mem => slashless other (List.mem_cons_of_mem _ mem)) _ ?_
      exact isPart_pushPart names (slashless part List.mem_cons_self)
  intro part mem
  exact folds _ (slash_not_mem_splitSlash path) [] nofun part (List.mem_reverse.mp mem)

/-- A path that ends with a name ends with no slash. -/
theorem chompSlashes_afterSlash (before : Text) (notEmpty : name ≠ []) (noSlash : '/' ∉ name) :
    chompSlashes (before ++ '/' :: name) = before ++ '/' :: name := by
  rw [chompSlashes, List.rdropWhile_eq_self_iff]
  intro filled
  rw [List.getLast_append_of_ne_nil filled (List.cons_ne_nil _ _), List.getLast_cons notEmpty]
  intro slashed
  refine noSlash ?_
  rw [← beq_iff_eq.mp slashed]
  exact List.getLast_mem notEmpty

/-- An absolute path is the root, or it ends with a name. -/
theorem absolutePath_cases {parts : List Text} (names : ∀ part ∈ parts, IsPart part) :
    absolutePath parts = ['/'] ∨
      absolutePath parts ≠ [] ∧ chompSlashes (absolutePath parts) = absolutePath parts := by
  rcases List.eq_nil_or_concat parts with rfl | ⟨front, last, rfl⟩
  · exact Or.inl rfl
  · refine Or.inr ?_
    rw [List.concat_eq_append] at names ⊢
    have filled : absolutePath (front ++ [last]) =
        (front ++ [last]).flatMap fun part => '/' :: part := by
      cases front <;> rfl
    have ends : absolutePath (front ++ [last]) =
        (front.flatMap fun part => '/' :: part) ++ '/' :: last := by
      rw [filled, List.flatMap_append, List.flatMap_singleton]
    obtain ⟨notEmpty, noSlash⟩ := names last (List.mem_append_right _ (List.mem_singleton_self _))
    rw [ends]
    exact ⟨List.append_ne_nil_of_right_ne_nil _ (List.cons_ne_nil _ _),
      chompSlashes_afterSlash _ notEmpty noSlash⟩

/-! ## The directory and the name -/

theorem rtakeWhile_afterSlash (before : Text) (noSlash : '/' ∉ name) :
    (before ++ '/' :: name).rtakeWhile (fun c => !isSlash c) = name := by
  refine rtakeWhile_append_cons rfl ?_
  intro c mem
  rw [isSlash, Bool.not_eq_true', beq_eq_false_iff_ne]
  rintro rfl
  exact noSlash mem

theorem rdropWhile_afterSlash (before : Text) (noSlash : '/' ∉ name) :
    (before ++ '/' :: name).rdropWhile (fun c => !isSlash c) = before ++ ['/'] := by
  have parts := @List.rdropWhile_append_rtakeWhile Char (fun c => !isSlash c) (before ++ '/' :: name)
  rw [rtakeWhile_afterSlash before noSlash] at parts
  have whole : before ++ '/' :: name = before ++ ['/'] ++ name := by
    rw [List.append_assoc, List.singleton_append]
  rw [whole] at parts ⊢
  exact List.append_cancel_right parts

theorem pathName_afterSlash (before : Text) (notEmpty : name ≠ []) (noSlash : '/' ∉ name) :
    pathName (before ++ '/' :: name) = name := by
  have filled : before ++ '/' :: name ≠ [] :=
    List.append_ne_nil_of_right_ne_nil _ (List.cons_ne_nil _ _)
  rw [pathName, chompSlashes_afterSlash before notEmpty noSlash, if_neg filled, if_neg filled,
    rtakeWhile_afterSlash before noSlash]

theorem chompSlashes_slash (before : Text) : chompSlashes (before ++ ['/']) = chompSlashes before :=
  List.rdropWhile_concat_pos _ _ _ rfl

/-- A name that is joined to an absolute path is in that directory. -/
theorem joinPath_absolutePath {parts : List Text} (names : ∀ part ∈ parts, IsPart part)
    (notEmpty : name ≠ []) (noSlash : '/' ∉ name) :
    pathParent (joinPath (absolutePath parts) name) = absolutePath parts ∧
      pathName (joinPath (absolutePath parts) name) = name := by
  have notRooted : name.head? ≠ some '/' := by
    intro rooted
    exact noSlash (List.mem_of_head? rooted)
  rcases absolutePath_cases names with root | ⟨filled, noEnd⟩
  · have joins : joinPath (absolutePath parts) name = [] ++ '/' :: name := by
      rw [root, joinPath, if_neg notRooted]
      rfl
    rw [joins, pathName_afterSlash [] notEmpty noSlash, root]
    refine ⟨?_, rfl⟩
    rw [pathParent, chompSlashes_afterSlash [] notEmpty noSlash, rdropWhile_afterSlash [] noSlash]
    rfl
  · have notSlashed : (absolutePath parts).getLast? ≠ some '/' := by
      intro slashed
      obtain ⟨front, same⟩ := List.getLast?_eq_some_iff.mp slashed
      rw [same, chompSlashes_slash] at noEnd
      have shorter : (chompSlashes front).length ≤ front.length :=
        (List.rdropWhile_prefix _ front).length_le
      rw [noEnd, List.length_append, List.length_singleton] at shorter
      omega
    have joins : joinPath (absolutePath parts) name = absolutePath parts ++ '/' :: name := by
      rw [joinPath, if_neg notRooted, if_neg notSlashed]
    rw [joins, pathName_afterSlash _ notEmpty noSlash]
    refine ⟨?_, rfl⟩
    rw [pathParent, chompSlashes_afterSlash _ notEmpty noSlash, rdropWhile_afterSlash _ noSlash,
      chompSlashes_slash, noEnd, if_pos filled]

end Curb.Misc

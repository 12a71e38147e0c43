import Curb.Misc.Trim
import Curb.Net.Host

/-!
# Authorities

The steps of the native normaliser (`ext/curb_easy.c:329-426`): the white space around a value, the first
`://` in it, the authority that follows, and the host of that authority, each as a function and as a relation
between what is written and what it says.
-/

namespace Curb.Net
open Curb.Misc Curb.Ruby

/-- The characters an authority does not end at. -/
def inAuthority (c : Char) : Bool := c != '/' && c != '?' && c != '#'

/-- The authority a text begins with, without the user information. -/
def authorityOf (text : Text) : Text := afterLastAt (text.takeWhile inAuthority)

/-- The part of an authority its host is read from; `none` where a bracket is not closed. -/
def hostRange (authority : Text) : Option Text :=
  match authority with
  | '[' :: rest => (cutAt ']' rest).map Prod.fst
  | _ => some (if authority.count ':' ≤ 1 then authority.takeWhile (· != ':') else authority)

/-- The host of an authority. -/
def hostOfAuthority (authority : Text) : Except HostError Text :=
  match hostRange authority with
  | none => .error .invalid
  | some range => curbNormalizedHostFromRange range

theorem hostRange_bracket (rest : Text) : hostRange ('[' :: rest) = (cutAt ']' rest).map Prod.fst := rfl

theorem head?_ne_of_plain {text : Text} (plain : ∀ rest, text = '[' :: rest → False) : text.head? ≠ some '[' := by
  cases text with
  | nil => exact nofun
  | cons c rest => exact fun bracket => plain rest (Option.some.inj bracket ▸ rfl)

theorem hostRange_plain {authority : Text} (head : authority.head? ≠ some '[') : hostRange authority =
    some (if authority.count ':' ≤ 1 then authority.takeWhile (· != ':') else authority) := by
  unfold hostRange
  split
  · exact absurd rfl head
  · rfl

theorem curbNormalizeHostValueImpl_eq {value : Text} (given : trimBlank value ≠ []) :
    curbNormalizeHostValueImpl value =
      hostOfAuthority (authorityOf ((afterScheme (trimBlank value)).getD (trimBlank value))) := by
  have authority : afterLastAt (((afterScheme (trimBlank value)).getD (trimBlank value)).takeWhile fun c =>
      c != '/' && c != '?' && c != '#') =
      authorityOf ((afterScheme (trimBlank value)).getD (trimBlank value)) := rfl
  unfold curbNormalizeHostValueImpl
  dsimp only
  rw [if_neg given, authority]
  generalize authorityOf ((afterScheme (trimBlank value)).getD (trimBlank value)) = text
  split
  · rename_i rest
    rw [hostOfAuthority, hostRange_bracket]
    cases cutAt ']' rest <;> rfl
  · rename_i plain
    rw [hostOfAuthority, hostRange_plain (head?_ne_of_plain plain)]
    dsimp only
    split <;> rfl

/-- `://` occurs in the text. -/
def HasSchemeMark (text : Text) : Prop := (afterScheme text).isSome

/-- The host a normaliser is to return: in lower case, without the dots at its end. -/
def bareHost (host : Text) : Text := downcase (host.rdropWhile (· == '.'))

/-! ## White space and schemes -/

variable {front after range host entry text : Text}

theorem trimBlank_sublist (range : Text) : (trimBlank range).Sublist range :=
  (List.rdropWhile_prefix _ _).sublist.trans (List.dropWhile_sublist _)

theorem trimBlank_eq_self (solid : ∀ c ∈ range, isHostBlank c = false) : trimBlank range = range := by
  have left : range.dropWhile isHostBlank = range := by
    cases range with
    | nil => rfl
    | cons c rest => simp [solid c List.mem_cons_self]
  rw [trimBlank, left, List.rdropWhile_eq_self_iff]
  intro nonempty
  rw [solid _ (List.getLast_mem nonempty)]
  exact Bool.false_ne_true

theorem hasSchemeMark_iff {text : Text} :
    HasSchemeMark text ↔ ∃ first rest, text = first ++ ("://".toList ++ rest) := by
  constructor
  · intro marked
    unfold HasSchemeMark at marked
    induction text using afterScheme.induct with
    | case1 rest => exact ⟨[], rest, rfl⟩
    | case2 c rest notMark ih =>
      rw [afterScheme] at marked
      · obtain ⟨first, later, rfl⟩ := ih marked
        exact ⟨c :: first, later, rfl⟩
      · exact notMark
    | case3 => cases marked
  · rintro ⟨first, rest, rfl⟩
    unfold HasSchemeMark
    induction first with
    | nil => rfl
    | cons c first ih =>
      by_cases mark : ∃ later, c :: first ++ ("://".toList ++ rest) = ':' :: '/' :: '/' :: later
      · obtain ⟨later, same⟩ := mark
        rw [same]
        rfl
      · rw [List.cons_append, afterScheme]
        · exact ih
        · intro later isColon same
          exact mark ⟨later, by rw [isColon, List.cons_append, same]⟩

/-- No `://` begins in what has no slash and does not end in a colon. -/
theorem afterScheme_append (noSlash : '/' ∉ front) (noColon : front.getLast? ≠ some ':') :
    afterScheme (front ++ after) = afterScheme after := by
  induction front with
  | nil => rfl
  | cons c rest ih =>
    rw [List.mem_cons, not_or] at noSlash
    have further : rest.getLast? ≠ some ':' := by
      intro last
      apply noColon
      rw [List.getLast?_cons, last]
      rfl
    rw [List.cons_append, afterScheme]
    · exact ih noSlash.2 further
    · intro later isColon same
      cases rest with
      | nil =>
        rw [isColon] at noColon
        exact noColon rfl
      | cons d rest =>
        have slash : d = '/' := (List.cons.inj same).1
        exact noSlash.2 (slash ▸ List.mem_cons_self)

/-- A scheme ends at the first `://`. -/
theorem afterScheme_scheme {scheme rest : Text} (noColon : ∀ c ∈ scheme, c ≠ ':') :
    afterScheme (scheme ++ ("://".toList ++ rest)) = some rest := by
  induction scheme with
  | nil => rfl
  | cons c scheme ih =>
    rw [List.cons_append, afterScheme]
    · exact ih fun d mem => noColon d (List.mem_cons_of_mem c mem)
    · exact fun later isColon _ => noColon c List.mem_cons_self isColon

theorem noSlash_of_inAuthority (chars : ∀ c ∈ front, inAuthority c = true) : '/' ∉ front :=
  fun mem => absurd (chars '/' mem) (by decide)

theorem curbAsciiDowncase_eq_toLower (c : Char) : curbAsciiDowncase c = c.toLower := by
  have bounds : ('A' ≤ c && c ≤ 'Z') = true ↔ c.val ≥ 'A'.val ∧ c.val ≤ 'Z'.val := by
    rw [Bool.and_eq_true, decide_eq_true_eq, decide_eq_true_eq]
    rfl
  unfold curbAsciiDowncase Char.toLower
  by_cases upper : c.val ≥ 'A'.val ∧ c.val ≤ 'Z'.val
  · rw [if_pos (bounds.mpr upper), dif_pos upper]
    obtain ⟨shifted, low, high⟩ := toNat_of_upper upper
    have same : c.toNat = c.val.toNat := rfl
    have valid : (c.toNat - 65 + 97).isValidChar := Or.inl (by omega)
    apply Char.ext
    apply UInt32.toNat_inj.mp
    have left : (Char.ofNat (c.toNat - 65 + 97)).val.toNat = c.toNat - 65 + 97 := by
      rw [Char.ofNat, dif_pos valid]
      rfl
    refine left.trans ?_
    rw [shifted]
    omega
  · rw [if_neg fun inside => upper (bounds.mp inside), dif_neg upper]

/-! ## The host of an authority -/

/-- A range spells the host: white space around it and the dots at its end do not count. -/
def Spells (range host : Text) : Prop :=
  ∃ body dots, trimBlank range = body ++ dots ∧ (∀ c ∈ dots, c = '.') ∧ body ≠ [] ∧
    body.getLast? ≠ some '.' ∧ downcase body = host

/-- The part of an authority its host is read from. -/
inductive HostRange : Text → Text → Prop
  /-- Between brackets. -/
  | bracketed {inside rest : Text} (closed : ']' ∉ inside) : HostRange ('[' :: (inside ++ ']' :: rest)) inside
  /-- Before the only colon. -/
  | port {name port : Text} (head : name.head? ≠ some '[') (nameColon : ':' ∉ name) (portColon : ':' ∉ port) :
      HostRange (name ++ ':' :: port) name
  /-- The whole of it. -/
  | whole {text : Text} (head : text.head? ≠ some '[') (colons : text.count ':' ≠ 1) : HostRange text text

theorem curbNormalizedHostFromRange_ok_iff :
    curbNormalizedHostFromRange range = .ok host ↔ Spells range host := by
  have lower (body : Text) : body.map curbAsciiDowncase = downcase body :=
    List.map_congr_left fun c _ => curbAsciiDowncase_eq_toLower c
  unfold curbNormalizedHostFromRange Spells
  dsimp only
  rw [lower]
  constructor
  · intro ok
    split at ok
    · cases ok
    · rename_i given
      cases ok
      refine ⟨(trimBlank range).rdropWhile (· == '.'), (trimBlank range).rtakeWhile (· == '.'), ?_, ?_, given,
        ?_, rfl⟩
      · exact List.rdropWhile_append_rtakeWhile.symm
      · intro c mem
        have isDot := List.mem_rtakeWhile_imp mem
        exact beq_iff_eq.mp isDot
      · intro last
        have stop := List.rdropWhile_last_not (· == '.') (trimBlank range) given
        rw [List.getLast?_eq_some_getLast given] at last
        rw [Option.some.inj last] at stop
        exact stop rfl
  · rintro ⟨body, dots, same, areDots, given, last, rfl⟩
    have gone : dots.rdropWhile (· == '.') = [] := by
      rw [List.rdropWhile_eq_nil_iff]
      intro c mem
      exact beq_iff_eq.mpr (areDots c mem)
    have stop : ∀ c ∈ body.getLast?, (c == '.') = false := by
      intro c isLast
      rw [beq_eq_false_iff_ne]
      rintro rfl
      exact last isLast
    have kept := @rdropWhile_append_solid _ (· == '.') [] body dots given stop
    rw [gone, List.nil_append, List.nil_append, List.append_nil] at kept
    rw [same, kept, if_neg given]

theorem count_colon_eq_one {text : Text} : text.count ':' = 1 ↔
    ∃ name port, text = name ++ ':' :: port ∧ ':' ∉ name ∧ ':' ∉ port := by
  constructor
  · intro one
    have mem : ':' ∈ text := List.count_pos_iff.mp (one ▸ Nat.one_pos)
    obtain ⟨name, port, rfl, fresh⟩ := List.eq_append_cons_of_mem mem
    refine ⟨name, port, rfl, fresh, ?_⟩
    rw [List.count_append, List.count_cons_self, List.count_eq_zero_of_not_mem fresh] at one
    rw [← List.count_eq_zero]
    omega
  · rintro ⟨name, port, rfl, nameColon, portColon⟩
    rw [List.count_append, List.count_cons_self, List.count_eq_zero_of_not_mem nameColon,
      List.count_eq_zero_of_not_mem portColon]

theorem takeWhile_before_colon {name port : Text} (noColon : ':' ∉ name) :
    (name ++ ':' :: port).takeWhile (· != ':') = name := by
  apply takeWhile_append_stop
  · intro c mem
    rw [bne_iff_ne]
    rintro rfl
    exact noColon mem
  · intro c head
    rw [← Option.some.inj head]
    rfl

theorem takeWhile_without_colon (zero : text.count ':' = 0) : text.takeWhile (· != ':') = text := by
  rw [List.takeWhile_eq_self_iff]
  intro c mem
  rw [bne_iff_ne]
  rintro rfl
  exact List.count_eq_zero.mp zero mem

theorem hostRange_eq_some_iff : hostRange text = some range ↔ HostRange text range := by
  by_cases head : text.head? = some '['
  · obtain ⟨rest, rfl⟩ : ∃ rest, text = '[' :: rest := by
      cases text with
      | nil => cases head
      | cons c rest => exact ⟨rest, Option.some.inj head ▸ rfl⟩
    rw [hostRange]
    constructor
    · intro found
      obtain ⟨⟨inside, outside⟩, cut, rfl⟩ := Option.map_eq_some_iff.mp found
      obtain ⟨rfl, closed⟩ := cutAt_eq_some_iff.mp cut
      exact .bracketed closed
    · intro isRange
      generalize whole : '[' :: rest = text at isRange
      cases isRange with
      | bracketed closed =>
        rw [(List.cons.inj whole).2, cutAt_eq_some_iff.mpr ⟨rfl, closed⟩]
        rfl
      | port plain nameColon portColon =>
        cases range with
        | nil => exact absurd (List.cons.inj whole).1 (by decide)
        | cons c rest => exact absurd (congrArg some (List.cons.inj whole).1.symm) plain
      | whole plain colons => exact absurd (whole ▸ rfl) plain
  · rw [hostRange_plain head, Option.some.injEq]
    constructor
    · rintro rfl
      by_cases one : text.count ':' = 1
      · obtain ⟨name, port, rfl, nameColon, portColon⟩ := count_colon_eq_one.mp one
        rw [if_pos one.le, takeWhile_before_colon nameColon]
        refine .port ?_ nameColon portColon
        intro bracket
        apply head
        rw [List.head?_append, bracket]
        rfl
      · have kept : (if text.count ':' ≤ 1 then text.takeWhile (· != ':') else text) = text := by
          split
          · exact takeWhile_without_colon (by omega)
          · rfl
        rw [kept]
        exact .whole head one
    · intro isRange
      cases isRange with
      | bracketed closed => exact absurd rfl head
      | port plain nameColon portColon =>
        rename_i port
        have one := count_colon_eq_one.mpr ⟨range, port, rfl, nameColon, portColon⟩
        rw [if_pos one.le, takeWhile_before_colon nameColon]
      | whole plain colons =>
        split
        · exact takeWhile_without_colon (by omega)
        · rfl

/-- A text that is all read as its host has no bracket at its head and not one colon. -/
theorem HostRange.whole_self (isRange : HostRange text range) (same : range = text) :
    text.head? ≠ some '[' ∧ text.count ':' ≠ 1 := by
  cases isRange with
  | bracketed closed =>
    have length := congrArg List.length same
    simp only [List.length_cons, List.length_append] at length
    omega
  | port head nameColon portColon =>
    have length := congrArg List.length same
    simp only [List.length_cons, List.length_append] at length
    omega
  | whole head colons => exact ⟨head, colons⟩

theorem hostOfAuthority_ok_iff :
    hostOfAuthority text = .ok host ↔ ∃ range, HostRange text range ∧ Spells range host := by
  simp only [← curbNormalizedHostFromRange_ok_iff, ← hostRange_eq_some_iff]
  unfold hostOfAuthority
  cases hostRange text with
  | none => exact ⟨nofun, nofun⟩
  | some range => exact ⟨fun ok => ⟨range, rfl, ok⟩, fun ⟨_, same, ok⟩ => Option.some.inj same ▸ ok⟩

theorem HostRange.sublist (isRange : HostRange text range) : range.Sublist text := by
  cases isRange with
  | bracketed closed => exact (List.sublist_append_left _ _).cons '['
  | port head nameColon portColon => exact List.sublist_append_left _ _
  | whole head colons => exact List.Sublist.refl _

theorem Spells.nonempty (spells : Spells range host) : host ≠ [] := by
  obtain ⟨body, -, -, -, given, -, rfl⟩ := spells
  rwa [downcase, ne_eq, List.map_eq_nil_iff]

/-- No host is empty. -/
theorem hostOfAuthority_ne_nil {authority : Text} (ok : hostOfAuthority authority = .ok host) : host ≠ [] := by
  obtain ⟨range, -, spells⟩ := hostOfAuthority_ok_iff.mp ok
  exact spells.nonempty

/-! ## The authority of a text -/

/-- What may stand before a host in an authority. -/
def IsUserinfo (front : Text) : Prop :=
  front = [] ∨ ∃ userinfo, front = userinfo ++ ['@'] ∧ ∀ c ∈ userinfo, inAuthority c = true

theorem IsUserinfo.inAuthority (isUserinfo : IsUserinfo front) : ∀ c ∈ front, inAuthority c = true := by
  rcases isUserinfo with rfl | ⟨userinfo, rfl, chars⟩
  · exact nofun
  · intro c mem
    rcases List.mem_append.mp mem with inside | last
    · exact chars c inside
    · rw [List.mem_singleton.mp last]
      rfl

/-- The authority a text begins with, without its user information. -/
inductive AuthorityText : Text → Text → Prop
  | intro {front authority tail : Text} (isUserinfo : IsUserinfo front)
      (chars : ∀ c ∈ authority, inAuthority c = true ∧ c ≠ '@')
      (ends : ∀ c ∈ tail.head?, inAuthority c = false) :
      AuthorityText (front ++ (authority ++ tail)) authority

/-- What stands up to the last `@`. -/
theorem isUserinfo_rdropWhile {whole : Text} (chars : ∀ c ∈ whole, inAuthority c = true) :
    IsUserinfo (whole.rdropWhile (· != '@')) := by
  by_cases empty : whole.rdropWhile (· != '@') = []
  · exact Or.inl empty
  · right
    have last := List.rdropWhile_last_not _ _ empty
    rw [bne_iff_ne, not_not] at last
    refine ⟨(whole.rdropWhile (· != '@')).dropLast, ?_, ?_⟩
    · have whole := List.dropLast_append_getLast empty
      rw [last] at whole
      exact whole.symm
    · intro c mem
      exact chars c ((List.rdropWhile_prefix _ _).subset ((List.dropLast_prefix _).subset mem))

theorem authorityOf_sublist (text : Text) : (authorityOf text).Sublist text :=
  (List.rtakeWhile_suffix _ _).sublist.trans (List.takeWhile_prefix _).sublist

theorem authorityText_authorityOf (text : Text) : AuthorityText text (authorityOf text) := by
  have inside : ∀ c ∈ text.takeWhile inAuthority, inAuthority c = true := fun c => List.mem_takeWhile_imp
  have built := @AuthorityText.intro ((text.takeWhile inAuthority).rdropWhile (· != '@')) (authorityOf text)
    (text.dropWhile inAuthority) (isUserinfo_rdropWhile inside) ?_ ?_
  · rwa [← List.append_assoc, authorityOf, afterLastAt, List.rdropWhile_append_rtakeWhile,
      List.takeWhile_append_dropWhile] at built
  · intro c mem
    refine ⟨inside c ((List.rtakeWhile_suffix _ _).subset mem), ?_⟩
    have notAt := List.mem_rtakeWhile_imp mem
    exact bne_iff_ne.mp notAt
  · intro c head
    have stop := List.head?_dropWhile_not inAuthority text
    rwa [Option.mem_def.mp head] at stop

theorem AuthorityText.chars {authority : Text} (isAuthority : AuthorityText text authority) :
    ∀ c ∈ authority, inAuthority c = true ∧ c ≠ '@' := by
  cases isAuthority with
  | intro isUserinfo chars ends => exact chars

theorem authorityOf_eq_iff {authority : Text} : authorityOf text = authority ↔ AuthorityText text authority := by
  constructor
  · rintro rfl
    exact authorityText_authorityOf text
  · rintro ⟨isUserinfo, chars, ends⟩
    rename_i front tail
    have noAt : ∀ c ∈ authority, (c != '@') = true := by
      intro c mem
      rw [bne_iff_ne]
      exact (chars c mem).2
    have whole : (authority ++ tail).takeWhile inAuthority = authority :=
      takeWhile_append_stop (fun c mem => (chars c mem).1) ends
    rw [authorityOf, List.takeWhile_append_of_pos isUserinfo.inAuthority, whole, afterLastAt]
    rcases isUserinfo with rfl | ⟨userinfo, rfl, -⟩
    · rw [List.nil_append, List.rtakeWhile_eq_self_iff]
      exact noAt
    · rw [List.append_assoc]
      exact rtakeWhile_append_cons rfl noAt

end Curb.Net

import Curb.Net.Authority

/-!
# Hosts as they are written

The texts `[scheme "://"] [userinfo "@"] host [":" port] [("/" | "?" | "#") rest]`, and the host the native
normaliser takes out of them (`ext/curb_easy.c:329-426`). It looks for `://` in the whole text, so without
a scheme a `://` behind the host is taken for the end of one.
-/

namespace Curb.Net
open Curb.Misc Curb.Ruby

/-- `curb_try_normalize_host_value` (`curb_easy.c:424-426`). -/
def curbTryNormalizeHostValue (value : Text) : Option Text := (curbNormalizeHostValueImpl value).toOption

/-! ## The grammar -/

/-- A host as it is written, and the host itself. -/
inductive HostText : Text → Text → Prop
  /-- A name. -/
  | name {host : Text} (nonempty : host ≠ []) (head : host.head? ≠ some '[')
      (chars : ∀ c ∈ host, inAuthority c = true ∧ c ≠ '@' ∧ c ≠ ':' ∧ isHostBlank c = false) :
      HostText host host
  /-- A literal address in brackets. -/
  | literal {host : Text} (nonempty : host ≠ [])
      (chars : ∀ c ∈ host, inAuthority c = true ∧ c ≠ '@' ∧ c ≠ ']' ∧ isHostBlank c = false) :
      HostText ('[' :: (host ++ [']'])) host

/-- What stands around a host. -/
structure HostShape where
  scheme : Option Text
  userinfo : Option Text
  port : Option Text
  /-- Empty, or the path, the query or the fragment with its delimiter. -/
  tail : Text
  scheme_chars : ∀ text ∈ scheme, ∀ c ∈ text, c ≠ ':' ∧ isHostBlank c = false
  userinfo_chars : ∀ text ∈ userinfo, ∀ c ∈ text, inAuthority c = true
  port_chars : ∀ text ∈ port, ∀ c ∈ text, inAuthority c = true ∧ c ≠ '@' ∧ c ≠ ':'
  tail_head : ∀ c ∈ tail.head?, inAuthority c = false

namespace HostShape

def schemePart (shape : HostShape) : Text :=
  match shape.scheme with
  | some scheme => scheme ++ "://".toList
  | none => []

def userinfoPart (shape : HostShape) : Text :=
  match shape.userinfo with
  | some userinfo => userinfo ++ ['@']
  | none => []

def portPart (shape : HostShape) : Text :=
  match shape.port with
  | some port => ':' :: port
  | none => []

/-- What follows the host. -/
def after (shape : HostShape) : Text := shape.portPart ++ shape.tail

/-- The text with a host, as that one is written. -/
def text (shape : HostShape) (written : Text) : Text :=
  shape.schemePart ++ (shape.userinfoPart ++ (written ++ shape.after))

end HostShape

/-- Both normalisers return the host. -/
def ExtractsHost (text host : Text) : Prop :=
  curbNormalizeHostValue text = .ok (bareHost host) ∧
    curbTryNormalizeHostValue text = some (bareHost host)

/-! ## Authorities -/

/-- What follows a host in an authority: nothing, or one colon and a port. -/
structure FollowsHost (after : Text) : Prop where
  noAt : '@' ∉ after.takeWhile inAuthority
  colons : (after.takeWhile inAuthority).count ':' ≤ 1
  head : ∀ c ∈ (after.takeWhile inAuthority).head?, c = ':'

theorem FollowsHost.of_prefix {after part : Text} (follows : FollowsHost after) (isPrefix : part <+: after) :
    FollowsHost part := by
  have fewer := @takeWhile_prefix_takeWhile _ inAuthority _ _ isPrefix
  refine ⟨fun mem => follows.noAt (fewer.subset mem), ?_, ?_⟩
  · exact (fewer.sublist.count_le ':').trans follows.colons
  · intro c head
    obtain ⟨rest, same⟩ := fewer
    apply follows.head
    rw [← same, List.head?_append, Option.mem_def.mp head]
    rfl

theorem HostShape.followsHost (shape : HostShape) : FollowsHost shape.after := by
  have noTail : shape.portPart.takeWhile inAuthority = shape.portPart → shape.after.takeWhile inAuthority =
      shape.portPart := by
    intro whole
    apply takeWhile_append_stop
    · exact List.takeWhile_eq_self_iff.mp whole
    · exact shape.tail_head
  cases port : shape.port with
  | none =>
    have empty : shape.portPart = [] := by rw [HostShape.portPart, port]
    have whole := noTail (by rw [empty]; rfl)
    rw [empty] at whole
    refine ⟨?_, ?_, ?_⟩
    · rw [whole]
      exact List.not_mem_nil
    · rw [whole]
      exact Nat.zero_le 1
    · rw [whole]
      exact nofun
  | some text =>
    have chars := shape.port_chars text port
    have given : shape.portPart = ':' :: text := by rw [HostShape.portPart, port]
    have whole := noTail (by
      rw [given, List.takeWhile_eq_self_iff]
      intro c mem
      rcases List.mem_cons.mp mem with rfl | inside
      · rfl
      · exact (chars c inside).1)
    rw [given] at whole
    refine ⟨?_, ?_, ?_⟩
    · rw [whole, List.mem_cons]
      rintro (same | inside)
      · exact absurd same (by decide)
      · exact (chars '@' inside).2.1 rfl
    · rw [whole, List.count_cons_self, List.count_eq_zero_of_not_mem fun inside => (chars ':' inside).2.2 rfl]
    · rw [whole]
      intro c head
      exact (Option.some.inj head).symm

theorem HostShape.isUserinfo (shape : HostShape) : IsUserinfo shape.userinfoPart := by
  cases userinfo : shape.userinfo with
  | none =>
    left
    rw [HostShape.userinfoPart, userinfo]
  | some text =>
    right
    refine ⟨text, ?_, shape.userinfo_chars text userinfo⟩
    rw [HostShape.userinfoPart, userinfo]

variable {front written host after : Text}

/-- User information stays what it is where the blanks before it are dropped. -/
theorem IsUserinfo.dropWhile (isUserinfo : IsUserinfo front) : IsUserinfo (front.dropWhile isHostBlank) := by
  rcases isUserinfo with rfl | ⟨userinfo, rfl, chars⟩
  · exact Or.inl rfl
  · right
    have solid : ∀ c ∈ ['@'].head?, isHostBlank c = false := by
      intro c head
      rw [← Option.some.inj head]
      rfl
    have kept := @dropWhile_append_solid _ isHostBlank userinfo ['@'] [] (by simp) solid
    rw [List.append_nil] at kept
    refine ⟨userinfo.dropWhile isHostBlank, kept, ?_⟩
    exact fun c mem => chars c ((List.dropWhile_sublist _).subset mem)

theorem HostText.inAuthority (isHost : HostText written host) :
    ∀ c ∈ written, inAuthority c = true ∧ c ≠ '@' := by
  cases isHost with
  | name nonempty head chars => exact fun c mem => ⟨(chars c mem).1, (chars c mem).2.1⟩
  | literal nonempty chars =>
    intro c mem
    rcases List.mem_cons.mp mem with rfl | inside
    · decide
    · rcases List.mem_append.mp inside with inside | last
      · exact ⟨(chars c inside).1, (chars c inside).2.1⟩
      · rw [List.mem_singleton.mp last]
        decide

theorem authorityOf_append (isUserinfo : IsUserinfo front)
    (chars : ∀ c ∈ written, Net.inAuthority c = true ∧ c ≠ '@') (follows : FollowsHost after) :
    authorityOf (front ++ (written ++ after)) = written ++ after.takeWhile Net.inAuthority := by
  rw [authorityOf_eq_iff]
  have whole : written ++ after = (written ++ after.takeWhile Net.inAuthority) ++ after.dropWhile Net.inAuthority := by
    rw [List.append_assoc, List.takeWhile_append_dropWhile]
  rw [whole]
  refine .intro isUserinfo ?_ ?_
  · intro c mem
    rcases List.mem_append.mp mem with inside | later
    · exact chars c inside
    · refine ⟨List.mem_takeWhile_imp later, ?_⟩
      rintro rfl
      exact follows.noAt later
  · intro c head
    have stop := List.head?_dropWhile_not Net.inAuthority after
    rwa [Option.mem_def.mp head] at stop

theorem hostOfAuthority_append (isHost : HostText written host) (follows : FollowsHost after) :
    hostOfAuthority (written ++ after.takeWhile inAuthority) = curbNormalizedHostFromRange host := by
  have range : hostRange (written ++ after.takeWhile inAuthority) = some host := by
    cases isHost with
    | name nonempty head chars =>
      have noColon : ∀ c ∈ written, (c != ':') = true := by
        intro c mem
        rw [bne_iff_ne]
        exact (chars c mem).2.2.1
      have cut : (written ++ after.takeWhile inAuthority).takeWhile (· != ':') = written := by
        apply takeWhile_append_stop noColon
        intro c first
        rw [follows.head c first]
        rfl
      have few : (written ++ after.takeWhile inAuthority).count ':' ≤ 1 := by
        have none : ':' ∉ written := fun mem => (chars ':' mem).2.2.1 rfl
        rw [List.count_append, List.count_eq_zero_of_not_mem none, Nat.zero_add]
        exact follows.colons
      have first : (written ++ after.takeWhile inAuthority).head? ≠ some '[' := by
        cases written with
        | nil => exact absurd rfl nonempty
        | cons c rest => exact head
      rw [hostRange_plain first, if_pos few, cut]
    | literal nonempty chars =>
      have noClosing : ']' ∉ host := fun mem => (chars ']' mem).2.2.1 rfl
      rw [hostRange_eq_some_iff, List.cons_append, List.append_assoc]
      exact .bracketed noClosing
  rw [hostOfAuthority, range]

/-! ## Ranges -/

theorem HostText.solid (isHost : HostText written host) :
    host ≠ [] ∧ ∀ c ∈ host, isHostBlank c = false := by
  cases isHost with
  | name nonempty head chars => exact ⟨nonempty, fun c mem => (chars c mem).2.2.2⟩
  | literal nonempty chars => exact ⟨nonempty, fun c mem => (chars c mem).2.2.2⟩

theorem curbNormalizedHostFromRange_eq (isHost : HostText written host) :
    curbNormalizedHostFromRange host =
      if bareHost host = [] then .error .blank else .ok (bareHost host) := by
  obtain ⟨nonempty, chars⟩ := isHost.solid
  have solid := trimBlank_eq_self chars
  have lower : (host.rdropWhile (· == '.')).map curbAsciiDowncase = bareHost host :=
    List.map_congr_left fun c _ => curbAsciiDowncase_eq_toLower c
  unfold curbNormalizedHostFromRange
  rw [solid]
  dsimp only
  rw [lower]
  have empty : host.rdropWhile (· == '.') = [] ↔ bareHost host = [] := List.map_eq_nil_iff.symm
  simp only [empty]

/-! ## The whole text -/

/-- A host has no blanks at its ends. -/
theorem HostText.ends (isHost : HostText written host) : written ≠ [] ∧
    (∀ c ∈ written.head?, isHostBlank c = false) ∧ ∀ c ∈ written.getLast?, isHostBlank c = false := by
  cases isHost with
  | name nonempty head chars =>
    exact ⟨nonempty, fun c first => (chars c (List.mem_of_mem_head? first)).2.2.2,
      fun c last => (chars c (List.mem_of_mem_getLast? last)).2.2.2⟩
  | literal nonempty chars =>
    refine ⟨List.cons_ne_nil _ _, ?_, ?_⟩
    · intro c first
      rw [← Option.some.inj first]
      rfl
    · intro c last
      rw [← List.cons_append, List.getLast?_concat] at last
      rw [← Option.some.inj last]
      rfl

theorem HostText.rdropWhile_append (isHost : HostText written host) :
    (front ++ (written ++ after)).rdropWhile isHostBlank = front ++ (written ++ after.rdropWhile isHostBlank) :=
  rdropWhile_append_solid isHost.ends.1 isHost.ends.2.2

theorem IsUserinfo.rdropWhile_append (isUserinfo : IsUserinfo front) :
    (front ++ after).rdropWhile isHostBlank = front ++ after.rdropWhile isHostBlank := by
  rcases isUserinfo with rfl | ⟨userinfo, rfl, -⟩
  · rw [List.nil_append, List.nil_append]
  · have solid : ∀ c ∈ ['@'].getLast?, isHostBlank c = false := by
      intro c last
      rw [← Option.some.inj last]
      rfl
    rw [List.append_assoc, rdropWhile_append_solid (by simp) solid, List.append_assoc]

/-- Blanks are trimmed off what stands before and after the host. -/
theorem trimBlank_append (isHost : HostText written host) :
    trimBlank (front ++ (written ++ after)) =
      front.dropWhile isHostBlank ++ (written ++ after.rdropWhile isHostBlank) := by
  rw [trimBlank, dropWhile_append_solid isHost.ends.1 isHost.ends.2.1, isHost.rdropWhile_append]

/-- A scheme has no blanks at its ends. -/
theorem HostShape.trimBlank_scheme (shape : HostShape) {name : Text} (scheme : shape.scheme = some name)
    (rest : Text) : trimBlank (shape.schemePart ++ rest) = name ++ ("://".toList ++ rest.rdropWhile isHostBlank) := by
  have part : shape.schemePart = name ++ "://".toList := by rw [HostShape.schemePart, scheme]
  have nonempty : name ++ "://".toList ≠ [] := by simp
  have first : ∀ c ∈ (name ++ "://".toList).head?, isHostBlank c = false := by
    intro c head
    cases name with
    | nil =>
      rw [← Option.some.inj head]
      rfl
    | cons d name =>
      rw [← Option.some.inj head]
      exact (shape.scheme_chars _ scheme d List.mem_cons_self).2
  have last : ∀ c ∈ (name ++ "://".toList).getLast?, isHostBlank c = false := by
    intro c isLast
    rw [List.getLast?_append] at isLast
    rw [← Option.some.inj isLast]
    rfl
  have front := @dropWhile_append_solid _ isHostBlank [] _ rest nonempty first
  have back := @rdropWhile_append_solid _ isHostBlank [] _ rest nonempty last
  rw [List.dropWhile_nil, List.nil_append] at front
  rw [List.nil_append, List.nil_append _] at back
  rw [part, trimBlank, front, back, List.append_assoc]

/-- Behind a scheme the host is read where it is written, also an empty one. -/
theorem curbNormalizeHostValueImpl_scheme (shape : HostShape) (given : shape.scheme.isSome)
    (chars : ∀ c ∈ written, Net.inAuthority c = true ∧ c ≠ '@')
    (kept : (shape.userinfoPart ++ (written ++ shape.after)).rdropWhile isHostBlank =
      shape.userinfoPart ++ (written ++ shape.after.rdropWhile isHostBlank)) :
    curbNormalizeHostValueImpl (shape.text written) =
      hostOfAuthority (written ++ (shape.after.rdropWhile isHostBlank).takeWhile Net.inAuthority) := by
  obtain ⟨name, scheme⟩ := Option.isSome_iff_exists.mp given
  have trimmed := shape.trimBlank_scheme scheme (shape.userinfoPart ++ (written ++ shape.after))
  have follows := shape.followsHost.of_prefix (List.rdropWhile_prefix isHostBlank shape.after)
  rw [kept] at trimmed
  have nonempty : trimBlank (shape.text written) ≠ [] := by
    rw [HostShape.text, trimmed]
    simp
  rw [curbNormalizeHostValueImpl_eq nonempty, HostShape.text, trimmed,
    afterScheme_scheme fun c mem => (shape.scheme_chars _ scheme c mem).1, Option.getD_some,
    authorityOf_append shape.isUserinfo chars follows]

theorem IsUserinfo.getLast? (isUserinfo : IsUserinfo front) : front.getLast? ≠ some ':' := by
  rcases isUserinfo with rfl | ⟨userinfo, rfl, -⟩
  · exact nofun
  · rw [List.getLast?_concat]
    decide

/-- Before the end of a host no `://` begins. -/
theorem afterScheme_host (isUserinfo : IsUserinfo front) (isHost : HostText written host) :
    afterScheme (front ++ (written ++ after)) = afterScheme after := by
  have last : written.getLast? ≠ some ':' := by
    cases isHost with
    | name nonempty head chars =>
      intro colon
      exact (chars ':' (List.mem_of_mem_getLast? colon)).2.2.1 rfl
    | literal nonempty chars =>
      rw [← List.cons_append, List.getLast?_concat]
      decide
  rw [afterScheme_append (noSlash_of_inAuthority isUserinfo.inAuthority) isUserinfo.getLast?]
  exact afterScheme_append (noSlash_of_inAuthority fun c mem => (isHost.inAuthority c mem).1) last

/-- The host of an authority and what is around it. -/
theorem curbNormalizeHost_authority {value : Text} (isUserinfo : IsUserinfo front)
    (isHost : HostText written host) (follows : FollowsHost after) (given : trimBlank value ≠ [])
    (start : (afterScheme (trimBlank value)).getD (trimBlank value) = front ++ (written ++ after)) :
    curbNormalizeHostValueImpl value =
      if bareHost host = [] then .error .blank else .ok (bareHost host) := by
  rw [curbNormalizeHostValueImpl_eq given, start, authorityOf_append isUserinfo isHost.inAuthority follows,
    hostOfAuthority_append isHost follows, curbNormalizedHostFromRange_eq isHost]

theorem HostText.append_ne_nil (isHost : HostText written host) : front ++ (written ++ after) ≠ [] := by
  cases isHost with
  | name nonempty head chars => simp [nonempty]
  | literal nonempty chars => simp

/-- Where the scheme is given, or no `://` follows the host, the host is found. -/
theorem curbNormalizeHostValueImpl_text (shape : HostShape)
    (marked : shape.scheme.isSome ∨ ¬HasSchemeMark shape.after) (isHost : HostText written host) :
    curbNormalizeHostValueImpl (shape.text written) =
      if bareHost host = [] then .error .blank else .ok (bareHost host) := by
  have follows : FollowsHost (shape.after.rdropWhile isHostBlank) :=
    shape.followsHost.of_prefix (List.rdropWhile_prefix _ _)
  cases scheme : shape.scheme with
  | none =>
    have noMark : afterScheme (shape.after.rdropWhile isHostBlank) = none := by
      rcases marked with given | noMark
      · rw [scheme] at given
        cases given
      · cases found : afterScheme (shape.after.rdropWhile isHostBlank) with
        | none => rfl
        | some rest =>
          have inPart : HasSchemeMark (shape.after.rdropWhile isHostBlank) := by
            rw [HasSchemeMark, found]
            rfl
          obtain ⟨first, later, same⟩ := hasSchemeMark_iff.mp inPart
          obtain ⟨blanks, whole⟩ := List.rdropWhile_prefix isHostBlank shape.after
          refine absurd (hasSchemeMark_iff.mpr ⟨first, later ++ blanks, ?_⟩) noMark
          rw [← whole, same, List.append_assoc, List.append_assoc]
    have noScheme : shape.schemePart = [] := by rw [HostShape.schemePart, scheme]
    have trimmed := @trimBlank_append shape.userinfoPart written host shape.after isHost
    have isUserinfo := shape.isUserinfo.dropWhile
    have text : shape.text written = shape.userinfoPart ++ (written ++ shape.after) := by
      rw [HostShape.text, noScheme, List.nil_append]
    apply curbNormalizeHost_authority isUserinfo isHost follows
    · rw [text, trimmed]
      exact isHost.append_ne_nil
    · rw [text, trimmed, afterScheme_host isUserinfo isHost, noMark]
      rfl
  | some name =>
    rw [curbNormalizeHostValueImpl_scheme shape (by rw [scheme]; rfl) isHost.inAuthority
      isHost.rdropWhile_append, hostOfAuthority_append isHost follows, curbNormalizedHostFromRange_eq isHost]

/-- Without a scheme, what follows a `://` behind the host is normalised in its place. -/
theorem curbNormalizeHostValueImpl_mark (shape : HostShape) (noScheme : shape.scheme = none)
    (mark : HasSchemeMark shape.after) (isHost : HostText written host) :
    ∃ start, afterScheme (shape.after.rdropWhile isHostBlank) = some start ∧
      curbNormalizeHostValueImpl (shape.text written) = hostOfAuthority (authorityOf start) := by
  obtain ⟨first, rest, same⟩ := hasSchemeMark_iff.mp mark
  have solid : ∀ c ∈ "://".toList.getLast?, isHostBlank c = false := by
    intro c last
    rw [← Option.some.inj last]
    rfl
  have kept : shape.after.rdropWhile isHostBlank =
      first ++ ("://".toList ++ rest.rdropWhile isHostBlank) := by
    rw [same, rdropWhile_append_solid (by decide) solid]
  have stillMarked : HasSchemeMark (shape.after.rdropWhile isHostBlank) :=
    hasSchemeMark_iff.mpr ⟨_, _, kept⟩
  obtain ⟨start, found⟩ := Option.isSome_iff_exists.mp stillMarked
  refine ⟨start, found, ?_⟩
  have text : shape.text written = shape.userinfoPart ++ (written ++ shape.after) := by
    rw [HostShape.text, HostShape.schemePart, noScheme, List.nil_append]
  have trimmed := @trimBlank_append shape.userinfoPart written host shape.after isHost
  have given : trimBlank (shape.text written) ≠ [] := by
    rw [text, trimmed]
    exact isHost.append_ne_nil
  rw [curbNormalizeHostValueImpl_eq given, text, trimmed,
    afterScheme_host shape.isUserinfo.dropWhile isHost, found]
  rfl

/-! ## What the normalisers return -/

theorem extractsHost_iff {text : Text} :
    ExtractsHost text host ↔ curbNormalizeHostValueImpl text = .ok (bareHost host) := by
  unfold ExtractsHost curbNormalizeHostValue curbTryNormalizeHostValue rbRaise
  cases curbNormalizeHostValueImpl text with
  | ok found => simp [Except.toOption]
  | error error => cases error <;> simp [Except.toOption]

/-- Behind the first `://` of a text an authority names the host. -/
def NamesBehindMark (text host : Text) : Prop :=
  ∃ rest authority range, afterScheme text = some rest ∧ AuthorityText rest authority ∧
    HostRange authority range ∧ Spells range host

/-- The host is more than dots, and the scheme is given, no `://` follows the host, or the authority behind
that names the same host. -/
def FindsHost (shape : HostShape) (host : Text) : Prop :=
  bareHost host ≠ [] ∧ (shape.scheme.isSome ∨ ¬HasSchemeMark shape.after ∨
    NamesBehindMark (shape.after.rdropWhile isHostBlank) (bareHost host))

theorem hostOfAuthority_behindMark_iff {text rest : Text} (found : afterScheme text = some rest) :
    hostOfAuthority (authorityOf rest) = .ok host ↔ NamesBehindMark text host := by
  rw [hostOfAuthority_ok_iff]
  constructor
  · rintro ⟨range, isRange, spells⟩
    exact ⟨rest, authorityOf rest, range, found, authorityText_authorityOf rest, isRange, spells⟩
  · rintro ⟨rest', authority, range, found', isAuthority, isRange, spells⟩
    cases found.symm.trans found'
    rw [authorityOf_eq_iff.mpr isAuthority]
    exact ⟨range, isRange, spells⟩

/-- The normalisers find the host exactly under the condition. -/
theorem extractsHost_text_iff (shape : HostShape) (isHost : HostText written host) :
    ExtractsHost (shape.text written) host ↔ FindsHost shape host := by
  rw [extractsHost_iff, FindsHost]
  by_cases marked : shape.scheme.isSome ∨ ¬HasSchemeMark shape.after
  · rw [curbNormalizeHostValueImpl_text shape marked isHost]
    by_cases dots : bareHost host = []
    · rw [if_pos dots]
      exact iff_of_false nofun fun finds => finds.1 dots
    · rw [if_neg dots]
      exact iff_of_true rfl ⟨dots, or_assoc.mp (Or.inl marked)⟩
  · obtain ⟨noScheme, mark⟩ := not_or.mp marked
    rw [Bool.not_eq_true, Option.isSome_eq_false_iff, Option.isNone_iff_eq_none] at noScheme
    obtain ⟨start, found, same⟩ := curbNormalizeHostValueImpl_mark shape noScheme (not_not.mp mark) isHost
    rw [same, ← or_assoc, or_iff_right marked, ← hostOfAuthority_behindMark_iff found]
    exact ⟨fun ok => ⟨hostOfAuthority_ne_nil ok, ok⟩, And.right⟩

/-- `?u=http://evil.test/` behind a host. -/
def queryShape : HostShape where
  scheme := none
  userinfo := none
  port := none
  tail := "/?u=http://evil.test/".toList
  scheme_chars := nofun
  userinfo_chars := nofun
  port_chars := nofun
  tail_head := by
    intro c head
    rw [← Option.some.inj head]
    rfl

theorem exampleCom_isHost : HostText "example.com".toList "example.com".toList :=
  .name (by decide) (by decide) (List.forall_iff_forall_mem.mp (by decide))

theorem extractsHost_text_iff_example :
    ExtractsHost (queryShape.text "example.com".toList) "example.com".toList ↔
      FindsHost queryShape "example.com".toList :=
  extractsHost_text_iff queryShape exampleCom_isHost

/-- Of `example.com/?u=http://evil.test/` the normalisers return `evil.test`. -/
theorem query_isTaken :
    HostText "example.com".toList "example.com".toList ∧
    queryShape.text "example.com".toList = "example.com/?u=http://evil.test/".toList ∧
    curbNormalizeHostValue (queryShape.text "example.com".toList) = .ok "evil.test".toList ∧
    ¬ExtractsHost (queryShape.text "example.com".toList) "example.com".toList := by
  refine ⟨exampleCom_isHost, by decide, by decide +kernel, ?_⟩
  rw [extractsHost_iff]
  decide +kernel

end Curb.Net

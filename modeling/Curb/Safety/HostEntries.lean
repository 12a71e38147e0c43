import Curb.Net.HostText
import Curb.Safety.Config
import Mathlib.Data.List.Infix

/-!
# Host entries of a configuration

What `SafetyConfig#allowed_hosts=` and `#allowed_proxy_hosts=` make of an entry (`lib/curl.rb:150-186`): the
entries that are refused with an `ArgumentError` or normalised to a host that is normalised to itself, and
the others.
-/

namespace Curb.SafetyConfig
open Curb.Misc Curb.Ruby Curb.Net

/-- The entry is refused with an `ArgumentError`, or its host is a host alone, and normalised already. -/
def CleanEntry (ruby : RubyLibrary) (entry : Text) : Prop :=
  match normalizeAllowedHost ruby entry with
  | .error error => error.errorClass = .argumentError
  | .ok host => host ≠ [] ∧ (∀ c ∈ host, inAuthority c = true ∧ c ≠ '@') ∧
      ¬(host.head? = some '[' ∧ host.getLast? = some ']') ∧ normalizeAllowedHost ruby host = .ok host

/-- The texts in lower case that are normalised to themselves. -/
structure FixedHost (host : Text) : Prop where
  nonempty : host ≠ []
  chars : ∀ c ∈ host, inAuthority c = true ∧ c ≠ '@'
  head : host.head? ≠ some '['
  last : host.getLast? ≠ some '.'
  trimmed : strip host = host
  colons : host.count ':' ≠ 1

/-- A host as it is written in an entry, with its brackets and one dot taken off. -/
def unwrap (written : Text) : Text := chompDot (stripBrackets written)

/-- What is written is no host, or a host that is normalised to itself. -/
def OkWritten (written : Text) : Prop := unwrap written = [] ∨ FixedHost (unwrap written)

/-- There is no `://` in the entry, or `URI.parse` finds no host. -/
def NoUriHost (ruby : RubyLibrary) (entry : Text) : Prop :=
  includes "://".toList entry = true → ruby.uriHost entry = .ok none

/-- Where the host of an entry is written. -/
inductive WrittenHost (ruby : RubyLibrary) (entry : Text) : Text → Prop
  /-- In a URI. -/
  | uri {parsed : Text} (mark : includes "://".toList entry = true)
      (isUri : ruby.uriHost entry = .ok (some parsed)) : WrittenHost ruby entry (downcase parsed)
  /-- In the authority. -/
  | authority {authority written : Text} (noUri : NoUriHost ruby entry)
      (isAuthority : AuthorityText entry authority) (isRange : HostRange authority written) :
      WrittenHost ruby entry written

/-- `URI.parse` raises nothing but an `ArgumentError`, there is an authority, and the host written in the entry
is as it should be. -/
structure OkParts (ruby : RubyLibrary) (entry : Text) : Prop where
  errors : ∀ error, includes "://".toList entry = true → ruby.uriHost entry = .error error →
    error.errorClass = .argumentError
  nonempty : NoUriHost ruby entry → ¬AuthorityText entry []
  hosts : ∀ written, WrittenHost ruby entry written → OkWritten written

/-- The entries that are normalised cleanly, in lower case and without white space around them. -/
def OkEntry (ruby : RubyLibrary) (entry : Text) : Prop := entry = [] ∨ OkParts ruby entry

/-! ## The steps of the normalisation -/

def blankEntry : RubyError := ⟨.argumentError, "allowed_hosts cannot include blank entries".toList⟩

/-- The end of `normalize_allowed_host`. -/
def finish (written : Text) : Except RubyError Text :=
  if unwrap written = [] then .error blankEntry else .ok (unwrap written)

theorem normalizeAllowedHost_eq (ruby : RubyLibrary) (entry : Text) :
    normalizeAllowedHost ruby entry =
      if downcase (strip entry) = [] then .error blankEntry
      else
        match if includes "://".toList (downcase (strip entry)) then ruby.uriHost (downcase (strip entry))
          else .ok none with
        | .error error => .error error
        | .ok (some parsed) => finish (downcase parsed)
        | .ok none => normalizeHostAuthority (downcase (strip entry)) >>= finish := by
  unfold normalizeAllowedHost
  dsimp only
  generalize downcase (strip entry) = text
  by_cases blank : text = []
  · rw [if_pos blank, if_pos blank]
    rfl
  · rw [if_neg blank, if_neg blank]
    by_cases marked : includes "://".toList text = true
    · rw [if_pos marked, if_pos marked]
      cases ruby.uriHost text with
      | error error => rfl
      | ok parsed => cases parsed <;> rfl
    · rw [if_neg marked, if_neg marked]
      rfl

/-- The splitter goes by the authority. -/
theorem normalizeHostAuthority_eq (host : Text) :
    normalizeHostAuthority host =
      if authorityOf host = [] then .error ⟨.noMethodError, "undefined method 'start_with?' for nil".toList⟩
      else
        match hostRange (authorityOf host) with
        | none => .error ⟨.argumentError, "invalid allowed host: ".toList ++ host⟩
        | some written => .ok written := by
  have authority : (host.takeWhile fun c => c != '/' && c != '?' && c != '#').rtakeWhile (· != '@') =
      authorityOf host := rfl
  unfold normalizeHostAuthority
  dsimp only
  rw [authority]
  generalize authorityOf host = text
  split
  · rfl
  · rename_i rest
    rw [if_neg (List.cons_ne_nil _ _), hostRange_bracket]
    cases cutAt ']' rest <;> rfl
  · rename_i nonempty plain
    rw [if_neg nonempty, hostRange_plain (head?_ne_of_plain plain)]

theorem normalizeHostAuthority_ok_iff {text written : Text} : normalizeHostAuthority text = .ok written ↔
    authorityOf text ≠ [] ∧ HostRange (authorityOf text) written := by
  rw [normalizeHostAuthority_eq, ← hostRange_eq_some_iff]
  by_cases empty : authorityOf text = []
  · rw [if_pos empty]
    exact iff_of_false nofun fun both => both.1 empty
  · rw [if_neg empty, and_iff_right empty]
    cases hostRange (authorityOf text) with
    | none => exact iff_of_false nofun nofun
    | some range => rw [Except.ok.injEq, Option.some.injEq]

/-! ## Hosts that are normalised already -/

variable {ruby : RubyLibrary} {host written : Text}

theorem stripBrackets_sublist (host : Text) : (stripBrackets host).Sublist host := by
  unfold stripBrackets
  split
  · exact (List.dropLast_sublist _).trans (List.tail_sublist _)
  · exact List.Sublist.refl _

theorem chompDot_sublist (host : Text) : (chompDot host).Sublist host := by
  unfold chompDot
  split
  · exact List.dropLast_sublist _
  · exact List.Sublist.refl _

theorem unwrap_sublist (written : Text) : (unwrap written).Sublist written :=
  (chompDot_sublist _).trans (stripBrackets_sublist _)

theorem strip_sublist (text : Text) : (strip text).Sublist text :=
  (List.rdropWhile_prefix _ _).sublist.trans (List.dropWhile_sublist _)

theorem finish_ok (ok : finish written = .ok host) : unwrap written = host ∧ host ≠ [] := by
  unfold finish at ok
  split at ok
  · cases ok
  · rename_i given
    cases ok
    exact ⟨rfl, given⟩

theorem downcase_eq_self_iff {text : Text} : downcase text = text ↔ ∀ c ∈ text, c.toLower = c := by
  have unchanged : text.map id = text := List.map_id text
  have each := List.map_inj_left (l := text) (f := Char.toLower) (g := id)
  rwa [unchanged] at each

/-- What has no delimiter is its own authority. -/
theorem authorityOf_eq_self (chars : ∀ c ∈ host, inAuthority c = true ∧ c ≠ '@') :
    authorityOf host = host := by
  have whole := @AuthorityText.intro [] host [] (Or.inl rfl) chars nofun
  rw [List.nil_append, List.append_nil] at whole
  exact authorityOf_eq_iff.mpr whole

theorem not_includes_of_inAuthority (chars : ∀ c ∈ host, inAuthority c = true ∧ c ≠ '@') :
    includes "://".toList host = false := by
  rw [Bool.eq_false_iff]
  intro marked
  obtain ⟨tail, isTail, isPrefix⟩ := List.any_eq_true.mp marked
  obtain ⟨rest, same⟩ := List.isPrefixOf_iff_prefix.mp isPrefix
  have slash : '/' ∈ tail := by
    rw [← same]
    simp
  have mem := ((List.mem_tails _ _).mp isTail).subset slash
  exact absurd (chars '/' mem).1 (by decide)

/-- A text without delimiters goes through the hand-written splitter. -/
theorem normalizeAllowedHost_plain (chars : ∀ c ∈ host, inAuthority c = true ∧ c ≠ '@')
    (lower : downcase host = host) (trimmed : strip host = host) (nonempty : host ≠ []) :
    normalizeAllowedHost ruby host = normalizeHostAuthority host >>= finish := by
  rw [normalizeAllowedHost_eq, trimmed, lower, if_neg nonempty, if_neg]
  rw [not_includes_of_inAuthority chars]
  exact Bool.false_ne_true

theorem stripBrackets_plain (head : host.head? ≠ some '[') : stripBrackets host = host := by
  rw [stripBrackets, if_neg]
  exact fun enclosed => head enclosed.1

/-- A host in lower case that is normalised to itself. -/
theorem fixedHost_iff (lower : downcase host = host) (nonempty : host ≠ []) :
    ((∀ c ∈ host, inAuthority c = true ∧ c ≠ '@') ∧
      ¬(host.head? = some '[' ∧ host.getLast? = some ']') ∧ normalizeAllowedHost ruby host = .ok host) ↔
      FixedHost host := by
  constructor
  · rintro ⟨chars, -, again⟩
    have stripped := strip_sublist host
    have inner : ∀ c ∈ strip host, inAuthority c = true ∧ c ≠ '@' :=
      fun c mem => chars c (stripped.subset mem)
    have lower' : downcase (strip host) = strip host := by
      have each := downcase_eq_self_iff.mp lower
      exact downcase_eq_self_iff.mpr fun c mem => each c (stripped.subset mem)
    rw [normalizeAllowedHost_eq, lower', not_includes_of_inAuthority inner] at again
    split at again
    · cases again
    obtain ⟨written, split, finished⟩ := except_bind_eq_ok_iff.mp again
    obtain ⟨unwrapped, -⟩ := finish_ok finished
    obtain ⟨-, isRange⟩ := normalizeHostAuthority_ok_iff.mp split
    rw [authorityOf_eq_self inner] at isRange
    -- Each step takes characters off, so none did.
    have kept : (unwrap written).Sublist written := unwrap_sublist written
    rw [unwrapped] at kept
    have shorter := (isRange.sublist.trans stripped).length_le
    have same : written = host := (kept.eq_of_length_le shorter).symm
    rw [same] at unwrapped isRange
    have trimmed : strip host = host := stripped.eq_of_length_le isRange.sublist.length_le
    rw [trimmed] at isRange
    obtain ⟨head, colons⟩ := isRange.whole_self rfl
    refine ⟨nonempty, chars, head, ?_, trimmed, colons⟩
    intro dot
    rw [unwrap, stripBrackets_plain head, chompDot, if_pos dot] at unwrapped
    have fewer := congrArg List.length unwrapped
    have some := List.length_pos_iff.mpr nonempty
    rw [List.length_dropLast] at fewer
    omega
  · intro fixed
    have whole := authorityOf_eq_self fixed.chars
    refine ⟨fixed.chars, fun enclosed => fixed.head enclosed.1, ?_⟩
    have kept : unwrap host = host := by
      rw [unwrap, stripBrackets_plain fixed.head, chompDot, if_neg fixed.last]
    have split : normalizeHostAuthority host = .ok host := by
      rw [normalizeHostAuthority_ok_iff, whole]
      exact ⟨nonempty, .whole fixed.head fixed.colons⟩
    rw [normalizeAllowedHost_plain fixed.chars lower fixed.trimmed nonempty, split]
    show finish host = _
    rw [finish, kept, if_neg nonempty]

/-! ## Entries -/

theorem downcase_unwrap (lower : downcase written = written) : downcase (unwrap written) = unwrap written := by
  have each := downcase_eq_self_iff.mp lower
  exact downcase_eq_self_iff.mpr fun c mem => each c ((unwrap_sublist written).subset mem)

/-- The end of the normalisation is clean where what is written is as it should be. -/
theorem clean_finish_iff (lower : downcase written = written) :
    (match finish written with
      | .error error => error.errorClass = .argumentError
      | .ok host => host ≠ [] ∧ (∀ c ∈ host, inAuthority c = true ∧ c ≠ '@') ∧
          ¬(host.head? = some '[' ∧ host.getLast? = some ']') ∧
          normalizeAllowedHost ruby host = .ok host) ↔ OkWritten written := by
  unfold finish OkWritten
  by_cases empty : unwrap written = []
  · rw [if_pos empty]
    exact ⟨fun _ => Or.inl empty, fun _ => rfl⟩
  · rw [if_neg empty]
    dsimp only
    rw [fixedHost_iff (downcase_unwrap lower) empty, or_iff_right empty]
    exact and_iff_right empty

/-- The characters of an authority are in lower case with the text. -/
theorem downcase_of_sublist {part : Text} (sub : part.Sublist host) (lower : downcase host = host) :
    downcase part = part := by
  have each := downcase_eq_self_iff.mp lower
  exact downcase_eq_self_iff.mpr fun c mem => each c (sub.subset mem)

/-- Where `URI.parse` finds no host, the splitter decides. -/
theorem clean_splitter_iff (lower : downcase host = host) :
    (match normalizeHostAuthority host >>= finish with
      | .error error => error.errorClass = .argumentError
      | .ok found => found ≠ [] ∧ (∀ c ∈ found, inAuthority c = true ∧ c ≠ '@') ∧
          ¬(found.head? = some '[' ∧ found.getLast? = some ']') ∧
          normalizeAllowedHost ruby found = .ok found) ↔
      authorityOf host ≠ [] ∧ ∀ written, HostRange (authorityOf host) written → OkWritten written := by
  rw [normalizeHostAuthority_eq]
  by_cases empty : authorityOf host = []
  · rw [if_pos empty]
    exact iff_of_false nofun fun both => both.1 empty
  · rw [if_neg empty, and_iff_right empty]
    simp only [← hostRange_eq_some_iff]
    cases range : hostRange (authorityOf host) with
    | none => exact iff_of_true rfl nofun
    | some written =>
      have sub := (hostRange_eq_some_iff.mp range).sublist.trans (authorityOf_sublist host)
      refine (clean_finish_iff (downcase_of_sublist sub lower)).trans ⟨?_, fun all => all written rfl⟩
      intro isOk other same
      rwa [← Option.some.inj same]

/-- Where `URI.parse` finds no host, the authority has to be as it should. -/
theorem okParts_iff_of_noUriHost (noUri : NoUriHost ruby host) : OkParts ruby host ↔
    authorityOf host ≠ [] ∧ ∀ written, HostRange (authorityOf host) written → OkWritten written := by
  constructor
  · intro ok
    exact ⟨fun empty => ok.nonempty noUri (authorityOf_eq_iff.mp empty),
      fun written isRange => ok.hosts written (.authority noUri (authorityText_authorityOf host) isRange)⟩
  · rintro ⟨nonempty, hosts⟩
    refine ⟨?_, fun _ empty => nonempty (authorityOf_eq_iff.mpr empty), ?_⟩
    · intro error mark raised
      cases raised.symm.trans (noUri mark)
    · intro written isWritten
      cases isWritten with
      | uri mark isUri => cases isUri.symm.trans (noUri mark)
      | authority _ isAuthority isRange =>
        rw [← authorityOf_eq_iff.mpr isAuthority] at isRange
        exact hosts written isRange

/-- Where `URI.parse` finds a host, that one has to be as it should. -/
theorem okParts_iff_of_uri {parsed : Text} (mark : includes "://".toList host = true)
    (isUri : ruby.uriHost host = .ok (some parsed)) : OkParts ruby host ↔ OkWritten (downcase parsed) := by
  constructor
  · exact fun ok => ok.hosts _ (.uri mark isUri)
  · intro ok
    refine ⟨?_, ?_, ?_⟩
    · intro error _ raised
      cases raised.symm.trans isUri
    · intro noUri
      cases isUri.symm.trans (noUri mark)
    · intro written isWritten
      cases isWritten with
      | uri _ isUri' =>
        cases isUri.symm.trans isUri'
        exact ok
      | authority noUri _ _ => cases isUri.symm.trans (noUri mark)

/-- Where `URI.parse` raises, the exception has to be an `ArgumentError`. -/
theorem okParts_iff_of_error {error : RubyError} (mark : includes "://".toList host = true)
    (raised : ruby.uriHost host = .error error) : OkParts ruby host ↔ error.errorClass = .argumentError := by
  constructor
  · exact fun ok => ok.errors error mark raised
  · intro isArgument
    refine ⟨?_, ?_, ?_⟩
    · intro other _ raised'
      cases raised.symm.trans raised'
      exact isArgument
    · intro noUri
      cases raised.symm.trans (noUri mark)
    · intro written isWritten
      cases isWritten with
      | uri _ isUri => cases raised.symm.trans isUri
      | authority noUri _ _ => cases raised.symm.trans (noUri mark)

/-- An entry is refused with an `ArgumentError` or normalised to a fixed point exactly where the host that
is written in it is as it should be. -/
theorem cleanEntry_iff (ruby : RubyLibrary) (entry : Text) :
    CleanEntry ruby entry ↔ OkEntry ruby (downcase (strip entry)) := by
  unfold CleanEntry OkEntry
  rw [normalizeAllowedHost_eq]
  have lower := downcase_downcase (strip entry)
  generalize downcase (strip entry) = text at lower
  by_cases blank : text = []
  · rw [if_pos blank]
    exact ⟨fun _ => Or.inl blank, fun _ => rfl⟩
  rw [if_neg blank, or_iff_right blank]
  by_cases mark : includes "://".toList text = true
  · rw [if_pos mark]
    cases parsed : ruby.uriHost text with
    | error error => exact (okParts_iff_of_error mark parsed).symm
    | ok found =>
      cases found with
      | some host => exact (clean_finish_iff (downcase_downcase host)).trans (okParts_iff_of_uri mark parsed).symm
      | none => exact (clean_splitter_iff lower).trans (okParts_iff_of_noUriHost fun _ => parsed).symm
  · rw [if_neg mark]
    exact (clean_splitter_iff lower).trans (okParts_iff_of_noUriHost fun isMark => absurd isMark mark).symm

/-- Ruby libraries that find no host. -/
def noHosts : RubyLibrary where
  uriHost _ := .ok none
  ipAddr _ := none
  takesProtocols _ := true
  takes_valid _ _ := rfl

/-- `user@` raises a `NoMethodError`, and `example.com..` is normalised to `example.com.`, which is
normalised to `example.com`. -/
theorem uncleanEntries :
    normalizeAllowedHost noHosts "user@".toList =
      .error ⟨.noMethodError, "undefined method 'start_with?' for nil".toList⟩ ∧
    ¬CleanEntry noHosts "user@".toList ∧
    normalizeAllowedHost noHosts "example.com..".toList = .ok "example.com.".toList ∧
    normalizeAllowedHost noHosts "example.com.".toList = .ok "example.com".toList ∧
    ¬CleanEntry noHosts "example.com..".toList := by
  have raises : normalizeAllowedHost noHosts "user@".toList =
      .error ⟨.noMethodError, "undefined method 'start_with?' for nil".toList⟩ := by decide +kernel
  have once : normalizeAllowedHost noHosts "example.com..".toList = .ok "example.com.".toList := by
    decide +kernel
  have twice : normalizeAllowedHost noHosts "example.com.".toList = .ok "example.com".toList := by
    decide +kernel
  refine ⟨raises, ?_, once, twice, ?_⟩
  · intro clean
    unfold CleanEntry at clean
    rw [raises] at clean
    cases clean
  · intro clean
    unfold CleanEntry at clean
    rw [once] at clean
    exact absurd (twice.symm.trans clean.2.2.2) (by decide)

end Curb.SafetyConfig

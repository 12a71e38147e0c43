import Curb.Easy.OpenSocket
import Curb.Safety.Applied
import Curb.Safety.HostEntries

/-!
# The two host gates

`apply_allowed_hosts!` (`lib/curl.rb:295-316`) checks the host `URI.parse` finds in the URL against the list
of the configuration. `curb_host_allowlist_prereq` (`ext/curb_easy.c:610-651`) checks the host it takes out of
the effective URL against that list as the handle's setter has normalised it again. Ruby takes one dot off a
name, the extension all of them, and the extension reads an entry once more as an authority.
-/

namespace Curb
open Curb.Misc Curb.Ruby Curb.Net

namespace Easy

/-- `curb_store_host_allowlist_error` (`curb_easy.c:601-608`). -/
def curbStoreHostAllowlistError (easy : Easy) (host : Option Text) : Easy :=
  let message := "blocked URL host ".toList ++ host.getD "unknown".toList ++
    " by safe mode host allowlist".toList
  { easy with
    unsafeDestinationBlocked := true
    unsafeDestinationError := snprintf curlErrorSize message
    errBuf := snprintf curlErrorSize message }

/-- `CURL_PREREQFUNC_OK` and `CURL_PREREQFUNC_ABORT`. -/
inductive PrereqResult where
  | ok
  | abort
  deriving DecidableEq, Repr

/-- `curb_host_allowlist_prereq` (`curb_easy.c:611-650`); `none` is an effective URL libcurl does not
give. -/
def curbHostAllowlistPrereq (easy : Easy) (effectiveUrl : Option Text) : PrereqResult × Easy :=
  if easy.networkAllowedHosts = [] then (.ok, easy)
  else
    match effectiveUrl with
    | none => (.abort, easy.curbStoreHostAllowlistError none)
    | some url =>
        match curbTryNormalizeHostValue url with
        | none => (.abort, easy.curbStoreHostAllowlistError none)
        | some host =>
            if curbHostRulesMatch easy.networkAllowedHosts host then (.ok, easy)
            else (.abort, easy.curbStoreHostAllowlistError (some host))

theorem curbHostAllowlistPrereq_ok_iff {easy : Easy} {url : Text} (given : easy.networkAllowedHosts ≠ []) :
    (curbHostAllowlistPrereq easy (some url)).1 = .ok ↔
      ∃ host ∈ easy.networkAllowedHosts, curbNormalizeHostValueImpl url = .ok host := by
  have tried : curbTryNormalizeHostValue url = (curbNormalizeHostValueImpl url).toOption := rfl
  unfold curbHostAllowlistPrereq curbHostRulesMatch
  dsimp only
  rw [if_neg given, tried]
  cases curbNormalizeHostValueImpl url with
  | error error => simp [Except.toOption]
  | ok host =>
    by_cases listed : host ∈ easy.networkAllowedHosts
    · simp [Except.toOption, listed]
    · simp [Except.toOption, listed, given]

end Easy

namespace Net

/-! ## The host an entry names -/

/-- The host the extension reads in an entry without delimiters. -/
def NamesHost (entry host : Text) : Prop := ∃ range, HostRange (trimBlank entry) range ∧ Spells range host

variable {range host entry text : Text}

theorem NamesHost.unique {other : Text} (names : NamesHost entry host) (also : NamesHost entry other) :
    host = other := by
  have first := hostOfAuthority_ok_iff.mpr names
  rw [hostOfAuthority_ok_iff.mpr also] at first
  exact (Except.ok.inj first).symm

theorem NamesHost.nonempty (names : NamesHost entry host) : host ≠ [] :=
  hostOfAuthority_ne_nil (hostOfAuthority_ok_iff.mpr names)

/-- In an entry without delimiters the extension reads the host it names. -/
theorem curbNormalizeHostValueImpl_ok_iff (chars : ∀ c ∈ entry, inAuthority c = true ∧ c ≠ '@') :
    curbNormalizeHostValueImpl entry = .ok host ↔ NamesHost entry host := by
  have inner : ∀ c ∈ trimBlank entry, inAuthority c = true ∧ c ≠ '@' :=
    fun c mem => chars c ((trimBlank_sublist entry).subset mem)
  have noMark : afterScheme (trimBlank entry) = none := by
    by_contra marked
    obtain ⟨first, rest, same⟩ := hasSchemeMark_iff.mp (Option.isSome_iff_ne_none.mpr marked)
    have slash : '/' ∈ trimBlank entry := by
      rw [same]
      simp
    exact absurd (inner '/' slash).1 (by decide)
  rw [NamesHost, ← hostOfAuthority_ok_iff]
  by_cases blank : trimBlank entry = []
  · rw [curbNormalizeHostValueImpl, if_pos blank, blank]
    exact ⟨nofun, nofun⟩
  · rw [curbNormalizeHostValueImpl_eq blank, noMark, Option.getD_none,
      SafetyConfig.authorityOf_eq_self inner]

/-- An entry the setter takes, and the host it is stored as. -/
theorem hostEntry_iff (chars : ∀ c ∈ entry, inAuthority c = true ∧ c ≠ '@') :
    HostEntry entry host ↔ Char.ofNat 0 ∉ entry ∧ NamesHost entry host := by
  rw [HostEntry, ← curbNormalizeHostValueImpl_ok_iff chars]
  unfold curbNormalizeHostValue rbRaise
  cases curbNormalizeHostValueImpl entry with
  | ok found => simp
  | error error => cases error <;> simp

/-! ## Hosts in lower case -/

variable {written : Text}

theorem mem_downcase {c : Char} (mem : c ∈ downcase text) (other : c.isAlpha = false) : c ∈ text := by
  obtain ⟨d, inside, same⟩ := List.mem_map.mp mem
  rwa [(toLower_eq_iff other).mp same] at inside

/-- A letter is no delimiter. -/
theorem ne_of_isAlpha {c d : Char} (letter : c.isAlpha = true) (other : d.isAlpha = false) : c ≠ d := by
  rintro rfl
  rw [letter] at other
  cases other

theorem plain_of_isAlpha {c : Char} (letter : c.isAlpha = true) :
    (inAuthority c = true ∧ c ≠ '@') ∧ isHostBlank c = false := by
  have ne {d : Char} (other : d.isAlpha = false) : c ≠ d := ne_of_isAlpha letter other
  refine ⟨⟨?_, ne rfl⟩, ?_⟩
  · simp only [inAuthority, Bool.and_eq_true, bne_iff_ne]
    exact ⟨⟨ne rfl, ne rfl⟩, ne rfl⟩
  · simp only [isHostBlank, Bool.or_eq_false_iff, beq_eq_false_iff_ne]
    exact ⟨⟨⟨ne rfl, ne rfl⟩, ne rfl⟩, ne rfl⟩

/-- What holds of every letter survives `downcase`. -/
theorem forall_mem_downcase {p : Char → Prop} (letters : ∀ c, c.isAlpha = true → p c)
    (all : ∀ c ∈ text, p c) : ∀ c ∈ downcase text, p c := by
  intro c mem
  cases letter : c.isAlpha with
  | true => exact letters c letter
  | false => exact all c (mem_downcase mem letter)

theorem head?_downcase {c : Char} (other : c.isAlpha = false) :
    (downcase text).head? = some c ↔ text.head? = some c := by
  cases text with
  | nil => exact Iff.rfl
  | cons d rest =>
    show some d.toLower = some c ↔ some d = some c
    rw [Option.some.injEq, Option.some.injEq, toLower_eq_iff other]

theorem rdropWhile_downcase (text : Text) :
    (downcase text).rdropWhile (· == '.') = downcase (text.rdropWhile (· == '.')) := by
  have same : ((· == '.') ∘ Char.toLower) = fun c => c == '.' := by
    funext c
    show (c.toLower == '.') = (c == '.')
    rw [Bool.eq_iff_iff, beq_iff_eq, beq_iff_eq, toLower_eq_iff rfl]
  rw [List.rdropWhile, List.rdropWhile, downcase, downcase, ← List.map_reverse, List.dropWhile_map, same,
    List.map_reverse]

theorem bareHost_downcase (host : Text) : bareHost (downcase host) = bareHost host := by
  rw [bareHost, rdropWhile_downcase, downcase_downcase, bareHost]

theorem bareHost_chompDot (host : Text) : bareHost (chompDot host) = bareHost host := by
  rw [bareHost, bareHost, chompDot]
  split
  · rename_i last
    obtain ⟨front, rfl⟩ := List.getLast?_eq_some_iff.mp last
    rw [List.dropLast_concat, List.rdropWhile_concat_pos _ _ _ rfl]
  · rfl

/-! ## The entry a host is looked up as -/

/-- The host of a URL as Ruby looks it up: in lower case, without one dot at its end or without its
brackets. -/
def lookedUp (written : Text) : Text := stripBrackets (chompDot (downcase written))

/-- A literal with exactly one colon in it. -/
def OneColonLiteral (written : Text) : Prop := written.head? = some '[' ∧ written.count ':' = 1

theorem head?_chompDot_downcase (head : host.head? ≠ some '[') :
    (chompDot (downcase host)).head? ≠ some '[' := by
  intro bracket
  apply head
  rw [← head?_downcase rfl]
  unfold chompDot at bracket
  split at bracket
  · rw [List.head?_dropLast] at bracket
    split at bracket
    · exact bracket
    · cases bracket
  · exact bracket

theorem lookedUp_name (head : host.head? ≠ some '[') : lookedUp host = chompDot (downcase host) := by
  rw [lookedUp, SafetyConfig.stripBrackets_plain (head?_chompDot_downcase head)]

theorem lookedUp_literal (host : Text) : lookedUp ('[' :: (host ++ [']'])) = downcase host := by
  have lower : downcase ('[' :: (host ++ [']'])) = '[' :: (downcase host ++ [']']) := by
    simp [downcase]
  have closing : ('[' :: (downcase host ++ [']'])).getLast? = some ']' := by
    rw [← List.cons_append, List.getLast?_concat]
  rw [lookedUp, lower, chompDot, if_neg (by rw [closing]; decide), stripBrackets, if_pos ⟨rfl, closing⟩,
    List.tail_cons, List.dropLast_concat]

/-- A range without white space spells its bare host. -/
theorem Spells.eq_bareHost (spells : Spells range host) (solid : ∀ c ∈ range, isHostBlank c = false) :
    host = bareHost range := by
  have ok := curbNormalizedHostFromRange_ok_iff.mpr spells
  unfold curbNormalizedHostFromRange at ok
  rw [trimBlank_eq_self solid] at ok
  dsimp only at ok
  split at ok
  · cases ok
  · rw [← Except.ok.inj ok]
    exact List.map_congr_left fun c _ => curbAsciiDowncase_eq_toLower c

theorem count_colon_downcase (text : Text) : (downcase text).count ':' = text.count ':' := by
  induction text with
  | nil => rfl
  | cons c rest ih =>
    show (c.toLower :: downcase rest).count ':' = _
    rw [List.count_cons, List.count_cons, ih]
    congr 1
    simp only [beq_iff_eq, toLower_eq_iff (show ':'.isAlpha = false from rfl)]

/-- Where the entry a host is looked up as names a host, that is the host, unless it is cut at a colon. -/
theorem NamesHost.of_lookedUp {named : Text} (isHost : HostText written host)
    (colons : ¬OneColonLiteral written) (names : NamesHost (lookedUp written) named) :
    named = bareHost host := by
  have solid := forall_mem_downcase (fun c letter => (plain_of_isAlpha letter).2) isHost.solid.2
  obtain ⟨range, isRange, spells⟩ := names
  cases isHost with
  | name nonempty head chars =>
    rw [lookedUp_name head] at isRange
    have sub := SafetyConfig.chompDot_sublist (downcase host)
    have solid' : ∀ c ∈ chompDot (downcase host), isHostBlank c = false :=
      fun c mem => solid c (sub.subset mem)
    have noColon : ':' ∉ chompDot (downcase host) := fun mem =>
      (chars ':' (mem_downcase (sub.subset mem) rfl)).2.2.1 rfl
    have noBracket := head?_chompDot_downcase head
    rw [trimBlank_eq_self solid'] at isRange
    generalize isText : chompDot (downcase host) = text at isRange noColon noBracket solid'
    cases isRange with
    | bracketed closed => exact absurd rfl noBracket
    | port bracket nameColon portColon => exact absurd (by simp) noColon
    | whole bracket colons =>
      rw [spells.eq_bareHost solid', ← isText, bareHost_chompDot, bareHost_downcase]
  | literal nonempty chars =>
    rw [lookedUp_literal, trimBlank_eq_self solid] at isRange
    have noClosing : ']' ∉ downcase host := fun mem => (chars ']' (mem_downcase mem rfl)).2.2.1 rfl
    have notOne : (downcase host).count ':' ≠ 1 := by
      intro one
      refine colons ⟨rfl, ?_⟩
      rw [count_colon_downcase] at one
      simp [one]
    generalize isText : downcase host = text at isRange noClosing notOne solid
    cases isRange with
    | bracketed closed => exact absurd (by simp) noClosing
    | port bracket nameColon portColon =>
      exact absurd (count_colon_eq_one.mpr ⟨_, _, rfl, nameColon, portColon⟩) notOne
    | whole bracket colons => rw [spells.eq_bareHost solid, ← isText, bareHost_downcase]

/-! ## Absolute URLs -/

/-- What stands between the user information and the port of a URL, and the host it is. -/
inductive UrlHost : Text → Text → Prop
  | empty : UrlHost [] []
  | given {written host : Text} (isHost : HostText written host) : UrlHost written host

/-- The URL is absolute, and `URI.parse` finds the host that is written in it. -/
structure AbsoluteUrl (ruby : RubyLibrary) (url written host : Text) : Prop where
  isHost : UrlHost written host
  parts : ∃ shape : HostShape, shape.scheme.isSome ∧ url = shape.text written
  parsed : ∃ found, ruby.uriHost url = .ok found ∧ found.getD [] = written

theorem hostOfAuthority_noHost {after : Text} (follows : FollowsHost after) :
    hostOfAuthority (after.takeWhile inAuthority) = .error .blank := by
  have range : hostRange (after.takeWhile inAuthority) = some [] := by
    have colons := follows.colons
    have head := follows.head
    cases part : after.takeWhile inAuthority with
    | nil => rfl
    | cons c rest =>
      rw [part] at colons head
      obtain rfl : c = ':' := head c rfl
      have first : (':' :: rest).head? ≠ some '[' := fun same => absurd (Option.some.inj same) (by decide)
      rw [hostRange_plain first, if_pos colons]
      rfl
  rw [hostOfAuthority, range]
  rfl

/-- After the scheme, an empty host is a blank one. -/
theorem curbNormalizeHostValueImpl_noHost (shape : HostShape) (given : shape.scheme.isSome) :
    curbNormalizeHostValueImpl (shape.text []) = .error .blank := by
  have follows := shape.followsHost.of_prefix (List.rdropWhile_prefix isHostBlank shape.after)
  rw [curbNormalizeHostValueImpl_scheme shape given (fun _ mem => absurd mem List.not_mem_nil)
    shape.isUserinfo.rdropWhile_append, List.nil_append, hostOfAuthority_noHost follows]

theorem AbsoluteUrl.native {ruby : RubyLibrary} {url : Text} (absolute : AbsoluteUrl ruby url written host)
    {found : Text} : curbNormalizeHostValueImpl url = .ok found ↔ bareHost host = found ∧ found ≠ [] := by
  obtain ⟨shape, given, rfl⟩ := absolute.parts
  cases absolute.isHost with
  | empty =>
    rw [curbNormalizeHostValueImpl_noHost shape given]
    refine ⟨nofun, ?_⟩
    rintro ⟨rfl, nonempty⟩
    exact absurd rfl nonempty
  | given isHost =>
    rw [curbNormalizeHostValueImpl_text shape (Or.inl given) isHost]
    by_cases blank : bareHost host = []
    · rw [if_pos blank, blank]
      refine ⟨nofun, ?_⟩
      rintro ⟨rfl, nonempty⟩
      exact absurd rfl nonempty
    · rw [if_neg blank, Except.ok.injEq]
      refine ⟨?_, And.left⟩
      rintro rfl
      exact ⟨rfl, blank⟩

end Net

open Net

/-! ## Lists of entries -/

/-- What `URI.parse` documents: a host has no delimiter of the authority in it. -/
def UriHosts (ruby : RubyLibrary) : Prop :=
  ∀ text host, ruby.uriHost text = .ok (some host) → ∀ c ∈ host, inAuthority c = true ∧ c ≠ '@'

namespace SafetyConfig

variable {ruby : RubyLibrary} {text host written : Text}

theorem normalizeHostAuthority_chars (ok : normalizeHostAuthority text = .ok written) :
    ∀ c ∈ written, inAuthority c = true ∧ c ≠ '@' := by
  obtain ⟨-, isRange⟩ := normalizeHostAuthority_ok_iff.mp ok
  exact fun c mem => (authorityText_authorityOf text).chars c (isRange.sublist.subset mem)

/-- A normalised entry is not empty and has no delimiter in it. -/
theorem normalizeAllowedHost_chars (uriHosts : UriHosts ruby)
    (ok : normalizeAllowedHost ruby text = .ok host) : host ≠ [] ∧ ∀ c ∈ host, inAuthority c = true ∧ c ≠ '@' := by
  have finished {written : Text} (chars : ∀ c ∈ written, inAuthority c = true ∧ c ≠ '@')
      (ok : finish written = .ok host) : host ≠ [] ∧ ∀ c ∈ host, inAuthority c = true ∧ c ≠ '@' := by
    obtain ⟨rfl, nonempty⟩ := finish_ok ok
    exact ⟨nonempty, fun c mem => chars c ((unwrap_sublist written).subset mem)⟩
  rw [normalizeAllowedHost_eq] at ok
  split at ok
  · cases ok
  · split at ok
    · cases ok
    · rename_i parsed found
      refine finished (forall_mem_downcase (fun c letter => (plain_of_isAlpha letter).1) ?_) ok
      split at found
      · exact uriHosts _ _ found
      · cases found
    · obtain ⟨written, isAuthority, ok⟩ := except_bind_eq_ok_iff.mp ok
      exact finished (normalizeHostAuthority_chars isAuthority) ok

/-- The entries `allowed_hosts=` keeps. -/
theorem allowedHostsSet_chars {config configured : SafetyConfig} {hosts : Option (List Text)}
    {list : List Text} (uriHosts : UriHosts ruby)
    (accepted : config.allowedHostsSet ruby hosts = .ok configured)
    (kept : configured.allowedHosts = some list) :
    ∀ entry ∈ list, entry ≠ [] ∧ ∀ c ∈ entry, inAuthority c = true ∧ c ≠ '@' := by
  obtain ⟨normalized, ok, same⟩ := except_bind_eq_ok_iff.mp accepted
  cases same
  intro entry mem
  obtain ⟨value, -, isEntry⟩ := (normalizeList_mem_iff ok kept entry).mp mem
  exact normalizeAllowedHost_chars uriHosts isEntry

end SafetyConfig

/-! ## The gates -/

/-- `apply_allowed_hosts!` returns. -/
def PassesApply (ruby : RubyLibrary) (list : List Text) (easy : Easy) : Prop :=
  ∃ after, Returns (Easy.applyAllowedHosts ruby list) easy () after

/-- The list can be set on the handle, and with it the gate lets the effective URL pass. -/
def PassesPrereq (list : List Text) (easy : Easy) (url : Text) : Prop :=
  ∃ after, Returns (Easy.allowedHostsSet (.array list)) easy () after ∧
    (after.curbHostAllowlistPrereq (some url)).1 = .ok

/-- The handle's setter refuses an entry; or else the host is looked up as an entry, and is no literal with
exactly one colon that no entry names; or it is looked up as none, and no entry names it. -/
def HostsAgree (list : List Text) (written host : Text) : Prop :=
  (∃ entry ∈ list, Char.ofNat 0 ∈ entry ∨ ∀ named, ¬NamesHost entry named) ∨
  (lookedUp written ∈ list ∧
    (OneColonLiteral written → ∃ entry ∈ list, NamesHost entry (bareHost host))) ∨
  (lookedUp written ∉ list ∧ ∀ entry ∈ list, ¬NamesHost entry (bareHost host))

variable {ruby : RubyLibrary} {list : List Text} {easy : Easy} {url written host : Text}

theorem allowedHostsSet_accepts (each : ∀ item ∈ list, ∃ host, HostEntry item host) (easy : Easy) :
    ∃ after, Returns (Easy.allowedHostsSet (.array list)) easy () after := by
  have step : ∀ acc, ∀ item ∈ list, ∃ acc', curbNormalizeHostStep acc item = .ok acc' := by
    intro acc item mem
    obtain ⟨host, entry⟩ := each item mem
    exact ⟨_, curbNormalizeHostStep_ok_iff.mpr ⟨host, entry, rfl⟩⟩
  obtain ⟨normalized, run⟩ := except_foldlM_returns [] step
  have stored : curbNormalizeHostList (.array list) = .ok (some normalized) := by
    show (list.foldlM curbNormalizeHostStep [] >>= fun normalized => Except.ok (some normalized)) = _
    rw [run]
    rfl
  exact ⟨_, Easy.allowedHostsSet_accepted stored easy⟩

/-- Ruby's gate looks the host up, and sets the list. -/
theorem passesApply_iff (each : ∀ item ∈ list, ∃ host, HostEntry item host)
    (absolute : AbsoluteUrl ruby url written host) (given : easy.url = some url) :
    PassesApply ruby list easy ↔ lookedUp written ∈ list := by
  obtain ⟨found, parsed, isWritten⟩ := absolute.parsed
  have looked : Easy.urlHost ruby easy.url = .ok (lookedUp written) := by
    rw [given, Easy.urlHost, Option.getD_some, parsed, except_ok_bind, isWritten, lookedUp]
  constructor
  · rintro ⟨after, run⟩
    obtain ⟨⟨host, isHost, listed⟩, -⟩ := Easy.applyAllowedHosts_returns run
    rw [looked] at isHost
    rwa [Except.ok.inj isHost]
  · intro listed
    obtain ⟨after, set⟩ := allowedHostsSet_accepts each easy
    refine ⟨after, ?_⟩
    simp only [Easy.applyAllowedHosts, bind_returns_iff, returns_get_iff, returns_lift_iff]
    refine ⟨_, _, ⟨rfl, rfl⟩, found, _, ⟨?_, rfl⟩, _, _, ⟨looked, rfl⟩, ?_⟩
    · rw [given]
      exact parsed
    · rw [if_pos listed]
      exact set

/-- The extension's gate compares the host with those the entries name. -/
theorem passesPrereq_iff (nonempty : list ≠ []) (each : ∀ item ∈ list, ∃ host, HostEntry item host)
    (chars : ∀ entry ∈ list, ∀ c ∈ entry, inAuthority c = true ∧ c ≠ '@')
    (absolute : AbsoluteUrl ruby url written host) :
    PassesPrereq list easy url ↔ ∃ entry ∈ list, NamesHost entry (bareHost host) := by
  have set {after : Easy} (run : Returns (Easy.allowedHostsSet (.array list)) easy () after) :
      (after.curbHostAllowlistPrereq (some url)).1 = .ok ↔
        ∃ entry ∈ list, NamesHost entry (bareHost host) := by
    obtain ⟨stored, ruled, -⟩ := Easy.allowedHostsSet_returns run
    obtain ⟨-, mem, -⟩ := curbNormalizeHostList_ok stored
    rw [curbHostRules_ok stored] at ruled
    have rules := Except.ok.inj ruled
    have listed (host : Text) : host ∈ after.networkAllowedHosts ↔ ∃ entry ∈ list, NamesHost entry host := by
      rw [← rules, mem host]
      refine exists_congr fun entry => and_congr_right fun inside => ?_
      rw [hostEntry_iff (chars entry inside)]
      refine and_iff_right_of_imp fun _ => ?_
      obtain ⟨named, noNul, -⟩ := each entry inside
      exact noNul
    have given : after.networkAllowedHosts ≠ [] := by
      obtain ⟨entry, inside⟩ := List.exists_mem_of_ne_nil list nonempty
      obtain ⟨named, isEntry⟩ := each entry inside
      have names := ((hostEntry_iff (chars entry inside)).mp isEntry).2
      exact List.ne_nil_of_mem ((listed named).mpr ⟨entry, inside, names⟩)
    rw [Easy.curbHostAllowlistPrereq_ok_iff given]
    constructor
    · rintro ⟨found, inside, native⟩
      obtain ⟨rfl, -⟩ := absolute.native.mp native
      exact (listed _).mp inside
    · rintro ⟨entry, inside, names⟩
      exact ⟨_, (listed _).mpr ⟨entry, inside, names⟩, absolute.native.mpr ⟨rfl, names.nonempty⟩⟩
  obtain ⟨after, run⟩ := allowedHostsSet_accepts each easy
  constructor
  · rintro ⟨after, run, ok⟩
    exact (set run).mp ok
  · intro names
    exact ⟨after, run, (set run).mpr names⟩

/-- A list the handle's setter refuses passes neither gate. -/
theorem not_passes_of_refused (refused : ∃ item ∈ list, ∀ host, ¬HostEntry item host) :
    ¬PassesApply ruby list easy ∧ ¬PassesPrereq list easy url := by
  obtain ⟨item, inside, never⟩ := refused
  have noSet {after : Easy} : ¬Returns (Easy.allowedHostsSet (.array list)) easy () after := by
    intro run
    obtain ⟨stored, -, -⟩ := Easy.allowedHostsSet_returns run
    obtain ⟨-, -, accepted⟩ := curbNormalizeHostList_ok stored
    obtain ⟨host, isEntry⟩ := accepted item inside
    exact never host isEntry
  constructor
  · rintro ⟨after, run⟩
    exact noSet (Easy.applyAllowedHosts_returns run).2
  · rintro ⟨after, run, -⟩
    exact noSet run

/-- The two gates agree about a URL under the list of a configuration exactly where the entries and the
host, as the two sides read them, do. -/
theorem hostGates_agree_iff {config configured : SafetyConfig} {hosts : Option (List Text)}
    (uriHosts : UriHosts ruby) (accepted : config.allowedHostsSet ruby hosts = .ok configured)
    (kept : configured.allowedHosts = some list) (absolute : AbsoluteUrl ruby url written host)
    (given : easy.url = some url) :
    (PassesApply ruby list easy ↔ PassesPrereq list easy url) ↔ HostsAgree list written host := by
  have nonempty := configured.hosts_ne list kept
  have entries := SafetyConfig.allowedHostsSet_chars uriHosts accepted kept
  have chars : ∀ entry ∈ list, ∀ c ∈ entry, inAuthority c = true ∧ c ≠ '@' :=
    fun entry inside => (entries entry inside).2
  by_cases refused : ∃ entry ∈ list, Char.ofNat 0 ∈ entry ∨ ∀ named, ¬NamesHost entry named
  · refine iff_of_true ?_ (Or.inl refused)
    obtain ⟨entry, inside, why⟩ := refused
    have passes := @not_passes_of_refused ruby list easy url ⟨entry, inside, fun host isEntry => by
      obtain ⟨noNul, names⟩ := (hostEntry_iff (chars entry inside)).mp isEntry
      rcases why with nul | noHost
      · exact noNul nul
      · exact noHost host names⟩
    exact iff_of_false passes.1 passes.2
  · have each : ∀ item ∈ list, ∃ host, HostEntry item host := by
      intro item inside
      by_contra never
      refine refused ⟨item, inside, ?_⟩
      by_contra neither
      rw [not_or, not_forall_not] at neither
      obtain ⟨noNul, named, names⟩ := neither
      exact never ⟨named, (hostEntry_iff (chars item inside)).mpr ⟨noNul, names⟩⟩
    rw [passesApply_iff each absolute given, passesPrereq_iff nonempty each chars absolute, HostsAgree,
      or_iff_right refused]
    by_cases listed : lookedUp written ∈ list
    · rw [or_iff_left fun neither => neither.1 listed]
      simp only [listed, true_iff, true_and]
      refine ⟨fun names _ => names, fun names => ?_⟩
      by_cases colons : OneColonLiteral written
      · exact names colons
      · obtain ⟨named, isEntry⟩ := each _ listed
        have names := ((hostEntry_iff (chars _ listed)).mp isEntry).2
        cases absolute.isHost with
        | empty => exact absurd rfl (entries _ listed).1
        | given isHost =>
          rw [names.of_lookedUp isHost colons] at names
          exact ⟨_, listed, names⟩
    · rw [or_iff_right fun both => listed both.1]
      simp only [listed, false_iff, not_false_eq_true, true_and, not_exists, not_and]

/-- `URI.parse` of `http://example.com/` and `http://example.com../`. -/
def exampleUris : RubyLibrary where
  uriHost text :=
    if text = "http://example.com/".toList then .ok (some "example.com".toList)
    else if text = "http://example.com../".toList then .ok (some "example.com..".toList)
    else .ok none
  ipAddr _ := none
  takesProtocols _ := true
  takes_valid _ _ := rfl

theorem http_chars : ∀ text ∈ some "http".toList, ∀ c ∈ text, c ≠ ':' ∧ isHostBlank c = false := by
  intro text given
  rw [← Option.some.inj given]
  exact List.forall_iff_forall_mem.mp (by decide)

/-- `http://`, a host and `/`. -/
def httpShape : HostShape where
  scheme := some "http".toList
  userinfo := none
  port := none
  tail := "/".toList
  scheme_chars := http_chars
  userinfo_chars := queryShape.userinfo_chars
  port_chars := queryShape.port_chars
  tail_head := by
    intro c head
    rw [← Option.some.inj head]
    rfl

theorem exampleUris_uriHosts : UriHosts exampleUris := by
  intro text host found
  unfold exampleUris at found
  dsimp only at found
  split at found
  · cases found
    exact List.forall_iff_forall_mem.mp (by decide)
  · split at found
    · cases found
      exact List.forall_iff_forall_mem.mp (by decide)
    · cases found

theorem exampleUris_name (written : Text) (nonempty : written ≠ []) (head : written.head? ≠ some '[')
    (chars : ∀ c ∈ written, inAuthority c = true ∧ c ≠ '@' ∧ c ≠ ':' ∧ isHostBlank c = false)
    (parsed : exampleUris.uriHost (httpShape.text written) = .ok (some written)) :
    AbsoluteUrl exampleUris (httpShape.text written) written written :=
  ⟨.given (.name nonempty head chars), ⟨httpShape, rfl, rfl⟩, ⟨_, parsed, rfl⟩⟩

theorem hostGates_agree_iff_example :
    PassesApply exampleUris ["example.com".toList] (Easy.new (some "http://example.com/".toList)) ↔
      PassesPrereq ["example.com".toList] (Easy.new (some "http://example.com/".toList))
        "http://example.com/".toList := by
  have accepted : SafetyConfig.new.allowedHostsSet exampleUris (some ["example.com".toList]) = .ok _ := rfl
  have absolute := exampleUris_name "example.com".toList (by decide) (by decide)
    (List.forall_iff_forall_mem.mp (by decide)) (by decide +kernel)
  refine (hostGates_agree_iff exampleUris_uriHosts accepted rfl absolute rfl).mpr (Or.inr (Or.inl ⟨?_, ?_⟩))
  · decide +kernel
  · exact fun literal => absurd literal.1 (by decide)

/-- With `example.com` allowed, Ruby refuses `http://example.com../`, and the extension lets it pass. -/
theorem dots_disagree :
    (SafetyConfig.new.allowedHostsSet exampleUris (some ["example.com".toList])).toOption.map
        (·.allowedHosts) = some (some ["example.com".toList]) ∧
    AbsoluteUrl exampleUris "http://example.com../".toList "example.com..".toList "example.com..".toList ∧
    ¬PassesApply exampleUris ["example.com".toList] (Easy.new (some "http://example.com../".toList)) ∧
    PassesPrereq ["example.com".toList] (Easy.new (some "http://example.com../".toList))
      "http://example.com../".toList := by
  have absolute := exampleUris_name "example.com..".toList (by decide) (by decide)
    (List.forall_iff_forall_mem.mp (by decide)) (by decide +kernel)
  refine ⟨by decide +kernel, absolute, ?_, ⟨_, rfl, by decide +kernel⟩⟩
  rintro ⟨after, run⟩
  obtain ⟨⟨host, isHost, listed⟩, -⟩ := Easy.applyAllowedHosts_returns run
  have looked : Easy.urlHost exampleUris (some "http://example.com../".toList) =
      .ok "example.com.".toList := by decide +kernel
  cases looked.symm.trans isHost
  exact absurd listed (by decide)

end Curb

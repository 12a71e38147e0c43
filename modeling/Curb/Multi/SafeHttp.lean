import Mathlib.Logic.Relation
import Curb.Easy.OpenSocket
import Curb.Multi.NeverStale
import Curb.Safety.Clone
import Curb.Safety.Enforces

/-!
# `safe_http!` to the end

`safe_http!` leaves an override with the handle (`easy.rb:187-204`), and both ways to libcurl, `Multi#add`
and `Multi#perform`, call `apply_safety!` first. Whatever the program does in between, short of closing or
resetting the handle, libcurl gets it with HTTP and HTTPS alone.
-/

namespace Curb
open Curb.Misc Curb.Ruby Curb.Net Relation

namespace Easy

variable {ruby : RubyLibrary} {net : InetPton} {config : Option SafetyConfig} {easy before after : Easy}

/-- The override is one of `safe_http!`. -/
def SafeHttp (easy : Easy) : Prop := ∃ previous, easy.safetyOverride = some (safeHttpOverride previous)

/-- libcurl allows no protocol but HTTP and HTTPS, and nothing that the configuration does not. -/
structure HttpOnly (config : Option SafetyConfig) (easy : Easy) : Prop where
  protocols : ∃ allowed, easy.native.protocols = some allowed ∧ allowed ≠ [] ∧
    allowed ⊆ SafetyConfig.defaultProtocols ∧ ∀ given ∈ config, allowed ⊆ given.protocols
  redirects : ∃ allowed, easy.native.redirProtocols = some allowed ∧ allowed ≠ [] ∧
    allowed ⊆ SafetyConfig.defaultProtocols ∧
    ∀ given ∈ config, allowed ⊆ given.redirectProtocols.getD given.protocols
  body : ∀ given ∈ config, ∀ bound ∈ given.maxBodyBytes, ∃ limit,
    easy.maxBodyBytes = some limit ∧ limit ≤ bound

/-- A list narrowed by the one of `safe_http!`. -/
theorem narrowedBy_http {base merged : Option (List ProtocolName)}
    (ok : narrowedBy base (some SafetyConfig.defaultProtocols) = .ok merged) :
    ∃ list, merged = some list ∧ list ⊆ SafetyConfig.defaultProtocols ∧ ∀ names ∈ base, list ⊆ names := by
  obtain ⟨list, rfl⟩ := narrowedBy_exists ok (List.append_ne_nil_of_right_ne_nil _ (List.cons_ne_nil _ _))
  have within := narrowedBy_subset ok
  exact ⟨list, rfl, within _ (List.mem_append_right _ (List.mem_singleton_self _)),
    fun names given => within names (List.mem_append_left _ (Option.mem_toList.mpr given))⟩

theorem Applied.httpOnly (applied : Applied ruby net config before after) (safe : SafeHttp before) :
    HttpOnly config after := by
  obtain ⟨previous, override⟩ := safe
  obtain ⟨protocols, redirects, isProtocols, isRedirects, nonempty, native⟩ := applied.lists
  rw [override] at isProtocols isRedirects
  obtain ⟨list, rfl, http, within⟩ := narrowedBy_http isProtocols
  obtain ⟨redirectList, rfl, httpRedirects, withinRedirects⟩ := narrowedBy_http isRedirects
  obtain ⟨protocols_ne, redirects_ne⟩ := nonempty list rfl
  have isNative : after.native = { before.native with
      protocols := some list
      redirProtocols := some redirectList } := native
  refine ⟨⟨list, ?_, protocols_ne, http, fun given isGiven => ?_⟩,
    ⟨redirectList, ?_, redirects_ne, httpRedirects, fun given isGiven => ?_⟩, ?_⟩
  · rw [isNative]
  · exact within _ (Option.map_eq_some_iff.mpr ⟨given, isGiven, rfl⟩)
  · rw [isNative]
  · exact withinRedirects _ (Option.map_eq_some_iff.mpr ⟨given, isGiven, rfl⟩)
  · intro given isGiven bound isBound
    have configured : config.bind (·.maxBodyBytes) = some bound :=
      Option.bind_eq_some_iff.mpr ⟨given, isGiven, isBound⟩
    rw [applied.limit]
    exact tightened_tightened (configLimit_pos config) (overrideLimit_pos before.safetyOverride)
      before.maxBodyBytes bound (List.mem_append_left _ (List.mem_append_left _
        (Option.mem_toList.mpr configured)))

/-- A setup leaves the lists and the limit alone. -/
theorem HttpOnly.setup {replies : SetupReplies} (only : HttpOnly config before)
    (run : Returns (setup net replies) before () after) : HttpOnly config after := by
  obtain ⟨-, hosts, rules, -, rfl⟩ := setup_returns run
  exact ⟨only.protocols, only.redirects, only.body⟩

/-! ## What leaves the override alone -/

/-- The operation does not write the override. -/
def KeepsOverride {α : Type} (operation : EasyM α) : Prop :=
  ∀ override, Keeps (fun easy => easy.safetyOverride = override) operation

theorem keepsOverride_respects {α : Type} {operation : EasyM α}
    (respects : ∀ override, Respects (Clone.Alike override) operation) : KeepsOverride operation :=
  fun override _ same => ((respects override).finalState ⟨rfl, same⟩).override

theorem keepsOverride_modify {f : Easy → Easy} (kept : ∀ easy, (f easy).safetyOverride = easy.safetyOverride) :
    KeepsOverride (modify f) := fun _ => keeps_modify fun easy same => (kept easy).trans same

theorem keepsOverride_bind {α β : Type} {x : EasyM α} {f : α → EasyM β} (first : KeepsOverride x)
    (rest : ∀ a, KeepsOverride (f a)) : KeepsOverride (x >>= f) :=
  fun override => keeps_bind (first override) fun a => rest a override

theorem keepsOverride_get : KeepsOverride (get : EasyM Easy) := fun _ => keeps_get

theorem keepsOverride_throw {α : Type} {error : RubyError} : KeepsOverride (throw error : EasyM α) :=
  fun _ => keeps_throw

/-- What stands behind a raise is never reached. -/
theorem keepsOverride_raise_bind {α : Type} {error : ErrorClass} {message : String} {f : Unit → EasyM α} :
    KeepsOverride (raise error message >>= f) := fun _ _ same => same

theorem keepsOverride_lift {α : Type} {x : Except RubyError α} : KeepsOverride (lift x) := by
  cases x with
  | ok a => exact fun _ => keeps_pure
  | error error => exact keepsOverride_throw

theorem keepsOverride_setUnixSocketPath {path : Option Text} : KeepsOverride (setUnixSocketPath path) :=
  keepsOverride_bind (keepsOverride_modify fun _ => rfl) fun _ =>
    keepsOverride_bind keepsOverride_lift fun _ => keepsOverride_modify fun _ => rfl

theorem keepsOverride_pure {α : Type} {value : α} : KeepsOverride (pure value : EasyM α) := fun _ => keeps_pure

theorem keepsOverride_setDnsServers {servers : Option Text} {accepted : Bool} :
    KeepsOverride (setDnsServers servers accepted) := by
  refine keepsOverride_bind (keepsOverride_modify fun _ => rfl) fun _ => ?_
  refine keepsOverride_bind keepsOverride_lift fun _ => ?_
  cases accepted with
  | true => exact keepsOverride_modify fun _ => rfl
  | false => exact keepsOverride_pure

theorem keepsOverride_prepareHosts : KeepsOverride curbPrepareNetworkAllowedHosts :=
  keepsOverride_bind (keepsOverride_modify fun _ => rfl) fun _ => keepsOverride_bind keepsOverride_get
    fun _ => keepsOverride_bind keepsOverride_lift fun _ => keepsOverride_modify fun _ => rfl

theorem keepsOverride_setupAllowedHosts : KeepsOverride setupAllowedHosts := by
  refine keepsOverride_bind keepsOverride_get fun easy => ?_
  split
  · exact keepsOverride_bind keepsOverride_prepareHosts fun _ => keepsOverride_modify fun _ => rfl
  · exact keepsOverride_bind (keepsOverride_modify fun _ => rfl) fun _ => keepsOverride_modify fun _ => rfl

theorem keepsOverride_setupOpensocket : KeepsOverride (setupOpensocket net) := by
  refine keepsOverride_bind keepsOverride_get fun easy => ?_
  split
  · refine keepsOverride_bind (keepsOverride_respects fun _ => Clone.respects_prepareRules) fun _ => ?_
    exact keepsOverride_modify fun _ => rfl
  · exact keepsOverride_bind (keepsOverride_modify fun _ => rfl) fun _ => keepsOverride_modify fun _ => rfl

theorem keepsOverride_setupStart {url : Except RubyError Unit} : KeepsOverride (setupStart url) := by
  refine keepsOverride_bind (keepsOverride_modify fun _ => rfl) fun _ => ?_
  refine keepsOverride_bind keepsOverride_get fun easy => ?_
  dsimp only
  split
  · exact keepsOverride_raise_bind
  · exact keepsOverride_bind keepsOverride_lift fun _ => keepsOverride_modify fun _ => rfl

theorem keepsOverride_setupPolicy {dnsAccepted : Bool} : KeepsOverride (setupPolicy net dnsAccepted) := by
  refine keepsOverride_bind keepsOverride_get fun easy => ?_
  dsimp only
  split
  · exact keepsOverride_raise_bind
  refine keepsOverride_bind (keepsOverride_modify fun _ => rfl) fun _ => ?_
  refine keepsOverride_bind keepsOverride_setupAllowedHosts fun _ => ?_
  exact keepsOverride_bind keepsOverride_setupOpensocket fun _ => keepsOverride_modify fun _ => rfl

theorem keepsOverride_setup {replies : SetupReplies} : KeepsOverride (Easy.setup net replies) := by
  refine keepsOverride_bind keepsOverride_setupStart fun _ => ?_
  refine keepsOverride_bind keepsOverride_setupPolicy fun _ => ?_
  refine keepsOverride_bind keepsOverride_lift fun _ => ?_
  refine keepsOverride_bind (keepsOverride_modify fun _ => rfl) fun _ => ?_
  refine keepsOverride_bind keepsOverride_lift fun _ => ?_
  exact keepsOverride_bind (keepsOverride_modify fun _ => rfl) fun _ => keepsOverride_lift

theorem keepsOverride_cleanupPolicy : KeepsOverride cleanupPolicy :=
  keepsOverride_bind (keepsOverride_modify fun _ => rfl) fun _ => keepsOverride_modify fun _ => rfl

theorem keepsOverride_applySafety : KeepsOverride (applySafety ruby net config) :=
  keepsOverride_respects fun _ => Clone.respects_applySafety

end Easy

namespace World
open Easy

variable {ruby : RubyLibrary} {net : InetPton} {multi easy other : ObjectId} {world start after : World}
  {setup : SetupReplies} {setups : ObjectId → SetupReplies}

/-- `safe_http!` has been called on the handle, and the override still stands. -/
def IsSafe (easy : ObjectId) (world : World) : Prop := SafeHttp (world.easies easy)

/-! ## The operations -/

theorem isSafe_setEasy {state : Easy} (kept : state.safetyOverride = (world.easies other).safetyOverride)
    (safe : IsSafe easy world) : IsSafe easy (world.setEasy other state) := by
  unfold IsSafe SafeHttp
  by_cases same : easy = other
  · rw [same, setEasy_easies_self, kept, ← same]
    exact safe
  · rw [setEasy_easies_of_ne world state same]
    exact safe

theorem keepsSafe_onEasy {operation : EasyM Unit} (keeps : KeepsOverride operation) :
    Keeps (IsSafe easy) (onEasy other operation) := by
  intro world safe
  rw [onEasy_finalState]
  exact isSafe_setEasy (keeps _ _ rfl) safe

theorem keepsSafe_safeHttp : Keeps (IsSafe easy) (safeHttp ruby net other) := by
  refine keeps_bind keeps_get fun current world safe => ?_
  rw [onEasy_finalState]
  by_cases same : easy = other
  · unfold IsSafe
    rw [same, setEasy_easies_self]
    exact ⟨_, Clone.safetyOverride_safeHttp _⟩
  · unfold IsSafe
    rw [setEasy_easies_of_ne world _ same]
    exact safe

theorem keepsSafe_nativeAdd {reply : Except RubyError Unit} :
    Keeps (IsSafe easy) (nativeAdd net multi other setup reply) := by
  refine keeps_bind keeps_get fun current => ?_
  split
  · split
    · exact keeps_pure
    · exact keeps_throw
  · refine keeps_bind (keepsSafe_onEasy keepsOverride_setup) fun _ => ?_
    cases reply with
    | ok value => exact keeps_modify fun _ safe => safe
    | error error => exact keeps_bind (keepsSafe_onEasy keepsOverride_cleanupPolicy) fun _ => keeps_throw

theorem keepsSafe_add {reply : Except RubyError Unit} :
    Keeps (IsSafe easy) (add ruby net multi other setup reply) := by
  refine keeps_bind keeps_get fun current => ?_
  split
  · exact keeps_pure
  · refine keeps_bind (keepsSafe_onEasy keepsOverride_applySafety) fun _ => ?_
    refine keeps_bind keepsSafe_nativeAdd fun _ => ?_
    exact keeps_bind (keeps_modify fun _ safe => safe) fun _ => keeps_modify fun _ safe => safe

theorem keepsSafe_nativeRemove {reply : Except RubyError Unit} :
    Keeps (IsSafe easy) (nativeRemove other reply) := by
  cases reply with
  | ok value =>
    exact keeps_bind (keepsSafe_onEasy keepsOverride_cleanupPolicy) fun _ => keeps_modify fun _ safe => safe
  | error error => exact keeps_throw

theorem keepsSafe_removeRequestReference : Keeps (IsSafe easy) (removeRequestReference multi other) :=
  keeps_bind (keeps_modify fun _ safe => safe) fun _ => keeps_modify fun _ safe => safe

theorem keepsSafe_remove {reply : Except RubyError Unit} : Keeps (IsSafe easy) (remove multi other reply) := by
  refine keeps_bind keeps_get fun current => ?_
  split
  · exact keeps_bind keepsSafe_removeRequestReference fun _ => keepsSafe_nativeRemove
  · exact keeps_pure

theorem keepsSafe_completed {reply : Except RubyError Unit} :
    Keeps (IsSafe easy) (completed multi other reply) := by
  cases reply with
  | ok value =>
    refine keeps_bind keeps_get fun current => ?_
    split
    · exact keeps_bind keepsSafe_removeRequestReference fun _ => keepsSafe_nativeRemove
    · exact keeps_pure
  | error error => exact keeps_throw

theorem keepsSafe_performEach : Keeps (IsSafe easy) (performEach ruby net multi setups other) := by
  refine keeps_bind keeps_get fun current => ?_
  refine keeps_bind (keepsSafe_onEasy keepsOverride_applySafety) fun _ => ?_
  refine keeps_bind keeps_get fun applied => ?_
  dsimp only
  split
  · exact keeps_bind (keepsSafe_onEasy keepsOverride_setup) fun _ => keeps_modify fun _ safe => safe
  · exact keeps_pure

/-- No operation takes the override of `safe_http!` away. -/
theorem keepsSafe_execute (operation : Operation) : Keeps (IsSafe easy) (execute ruby net operation) := by
  cases operation with
  | safe config => exact keeps_modify fun _ safe => safe
  | clearSafe => exact keeps_modify fun _ safe => safe
  | safeHttp other => exact keepsSafe_safeHttp
  | attributesSet other attributes =>
    have kept : KeepsOverride (attributesSet attributes) := keepsOverride_modify fun _ => rfl
    exact keepsSafe_onEasy kept
  | networkPolicySet other policy =>
    exact keepsSafe_onEasy (keepsOverride_respects fun _ => Clone.respects_networkPolicySet)
  | allowedHostsSet other hosts =>
    exact keepsSafe_onEasy (keepsOverride_respects fun _ => Clone.respects_allowedHostsSet)
  | allowedCidrsSet other cidrs =>
    exact keepsSafe_onEasy (keepsOverride_respects fun _ => Clone.respects_allowedCidrsSet)
  | setUnixSocketPath other path => exact keepsSafe_onEasy keepsOverride_setUnixSocketPath
  | setDnsServers other servers accepted => exact keepsSafe_onEasy keepsOverride_setDnsServers
  | add multi other setup reply => exact keepsSafe_add
  | remove multi other reply => exact keepsSafe_remove
  | completed multi other reply => exact keepsSafe_completed
  | perform multi setups => exact keeps_bind keeps_get fun _ => keeps_forM fun _ _ => keepsSafe_performEach

/-! ## The ways to libcurl -/

theorem performEach_httpOnly (safe : IsSafe easy world)
    (run : Returns (performEach ruby net multi setups easy) world () after) :
    HttpOnly world.safetyConfig (after.easies easy) := by
  obtain ⟨applied, isApplied, outcome⟩ := performEach_returns run
  have only := (applySafety_applied isApplied).httpOnly safe
  rcases outcome with ⟨-, rfl⟩ | ⟨-, ready, isReady, rfl⟩
  · rw [setEasy_easies_self]
    exact only
  · have state : (setSignature ((world.setEasy easy applied).setEasy easy ready) multi easy
        (some (world.safetySignatureFor applied))).easies easy = ready := setEasy_easies_self ..
    rw [state]
    exact only.setup isReady

/-- The requests one after the other: what the last check of the handle has made of it stays. -/
theorem performAll_httpOnly {list : List ObjectId} (safe : IsSafe easy world)
    (run : Returns (list.forM (performEach ruby net multi setups)) world () after) :
    after.safetyConfig = world.safetyConfig ∧ (easy ∉ list → after.easies easy = world.easies easy) ∧
      (easy ∈ list → HttpOnly world.safetyConfig (after.easies easy)) := by
  induction list generalizing world with
  | nil =>
    obtain ⟨-, rfl⟩ := returns_pure_iff.mp run
    exact ⟨rfl, fun _ => rfl, fun mem => absurd mem List.not_mem_nil⟩
  | cons head tail ih =>
    obtain ⟨_, middle, headRun, tailRun⟩ := bind_returns_iff.mp run
    obtain ⟨config, -, -, others⟩ := performEach_frame headRun
    obtain ⟨config', untouched, checked⟩ := ih (keepsSafe_performEach.of_returns headRun safe) tailRun
    refine ⟨config'.trans config, fun absent => ?_, fun mem => ?_⟩
    · obtain ⟨ne, absentTail⟩ := List.ne_and_not_mem_of_not_mem_cons absent
      exact (untouched absentTail).trans (others easy ne).1
    · by_cases inTail : easy ∈ tail
      · rw [← config]
        exact checked inTail
      · have same : easy = head := (List.mem_cons.mp mem).resolve_right inTail
        rw [untouched inTail]
        exact performEach_httpOnly safe (same ▸ headRun)

theorem nativeAdd_easies {reply : Except RubyError Unit}
    (run : Returns (nativeAdd net multi easy setup reply) world () after) :
    after.safetyConfig = world.safetyConfig ∧ (after.easies easy = world.easies easy ∨
      Returns (Easy.setup net setup) (world.easies easy) () (after.easies easy)) := by
  obtain ⟨_, _, getRun, run⟩ := bind_returns_iff.mp run
  obtain ⟨rfl, rfl⟩ := returns_get_iff.mp getRun
  split at run
  · split at run
    · obtain ⟨-, rfl⟩ := returns_pure_iff.mp run
      exact ⟨rfl, Or.inl rfl⟩
    · exact absurd run returns_throw_iff
  · obtain ⟨_, _, setupRun, run⟩ := bind_returns_iff.mp run
    obtain ⟨ready, isReady, rfl⟩ := onEasy_returns_iff.mp setupRun
    cases reply with
    | ok value =>
      obtain rfl := returns_modify_iff.mp run
      have state : ((world.setEasy easy ready).setAttached easy (some multi)).easies easy = ready :=
        setEasy_easies_self ..
      rw [state]
      exact ⟨rfl, Or.inr isReady⟩
    | error e =>
      obtain ⟨_, _, _, run⟩ := bind_returns_iff.mp run
      exact absurd run returns_throw_iff

theorem add_httpOnly {reply : Except RubyError Unit} (safe : IsSafe easy world)
    (absent : easy ∉ world.requests multi)
    (run : Returns (add ruby net multi easy setup reply) world () after) :
    HttpOnly world.safetyConfig (after.easies easy) := by
  obtain ⟨_, _, getRun, run⟩ := bind_returns_iff.mp run
  obtain ⟨rfl, rfl⟩ := returns_get_iff.mp getRun
  rw [if_neg absent] at run
  obtain ⟨_, _, applyRun, run⟩ := bind_returns_iff.mp run
  obtain ⟨applied, isApplied, rfl⟩ := onEasy_returns_iff.mp applyRun
  obtain ⟨_, added, addRun, run⟩ := bind_returns_iff.mp run
  obtain ⟨_, _, requestsRun, run⟩ := bind_returns_iff.mp run
  obtain rfl := returns_modify_iff.mp requestsRun
  obtain rfl := returns_modify_iff.mp run
  have only := (applySafety_applied isApplied).httpOnly safe
  show HttpOnly _ (added.easies easy)
  obtain ⟨-, same | isReady⟩ := nativeAdd_easies addRun
  · rw [same, setEasy_easies_self]
    exact only
  · rw [setEasy_easies_self] at isReady
    exact only.setup isReady

/-! ## Runs -/

/-- An operation, or anything else that does not close or reset the handle: its options and attributes
are set, callbacks run, its transfer goes on. -/
inductive Happens (ruby : RubyLibrary) (net : InetPton) (easy : ObjectId) (world : World) : World → Prop where
  | operation (operation : Operation) :
      Happens ruby net easy world (finalState (execute ruby net operation) world)
  | anything {after : World}
      (kept : (after.easies easy).safetyOverride = (world.easies easy).safetyOverride) :
      Happens ruby net easy world after

theorem isSafe_run (run : ReflTransGen (Happens ruby net easy) start world) (safe : IsSafe easy start) :
    IsSafe easy world := by
  induction run with
  | refl => exact safe
  | tail _ happens ih =>
    cases happens with
    | operation operation => exact keepsSafe_execute operation _ ih
    | anything kept =>
      unfold IsSafe SafeHttp
      rw [kept]
      exact ih

/-- Once `safe_http!` has been called on a handle, whether it raises or not, libcurl gets the handle with
HTTP and HTTPS alone, at every later `Multi#perform` and at every later `Multi#add`. -/
theorem safeHttp_kept
    (run : ReflTransGen (Happens ruby net easy) (finalState (safeHttp ruby net easy) start) world) :
    (∀ multi setups after, easy ∈ world.requests multi →
      Returns (perform ruby net multi setups) world () after →
      HttpOnly world.safetyConfig (after.easies easy)) ∧
    ∀ multi setup reply after, easy ∉ world.requests multi → Returns (add ruby net multi easy setup reply) world () after →
      HttpOnly world.safetyConfig (after.easies easy) := by
  have called : IsSafe easy (finalState (safeHttp ruby net easy) start) := by
    have now := onEasy_finalState easy (Easy.safeHttp ruby net start.safetyConfig) start
    unfold IsSafe
    rw [show finalState (safeHttp ruby net easy) start =
      finalState (onEasy easy (Easy.safeHttp ruby net start.safetyConfig)) start from rfl, now,
      setEasy_easies_self]
    exact ⟨_, Clone.safetyOverride_safeHttp _⟩
  have safe := isSafe_run run called
  refine ⟨fun multi setups after mem entered => ?_,
    fun multi setup reply after absent added => add_httpOnly safe absent added⟩
  obtain ⟨_, _, getRun, entered⟩ := bind_returns_iff.mp entered
  obtain ⟨rfl, rfl⟩ := returns_get_iff.mp getRun
  exact (performAll_httpOnly safe entered).2.2 mem

/-- `easy.url = "http://example.com/"`. -/
def urlSet : Operation :=
  .attributesSet 1 ⟨some "http://example.com/".toList, none, none, none, none, none, false, none⟩

/-- A handle that `safe_http!` has been called on, and that is then added to a multi. -/
def safeThenAdded : World := run noRubyLibrary oneNetInetPton [urlSet, .add 0 1 .accepted (.ok ())]
  (finalState (safeHttp noRubyLibrary oneNetInetPton 1) fresh)

/-- `easy.allowed_protocols = %w[ftp]`. -/
def ftpAllowed : World := finalState (onEasy 1 (Easy.allowedProtocolsSet noRubyLibrary ["ftp".toList])) safeThenAdded

/-- A list that the program sets itself is replaced by the next `perform`. -/
theorem safeHttp_kept_ftpAllowed :
    ∃ after, Returns performs ftpAllowed () after ∧
      (ftpAllowed.easies 1).native.protocols = some [protocolName "ftp".toList] ∧
      HttpOnly ftpAllowed.safetyConfig (after.easies 1) := by
  have enters : succeeds performs ftpAllowed = true := by decide +kernel
  have among : 1 ∈ ftpAllowed.requests 0 := by decide +kernel
  have widened : (ftpAllowed.easies 1).native.protocols = some [protocolName "ftp".toList] := by
    decide +kernel
  have added : ReflTransGen (Happens noRubyLibrary oneNetInetPton 1)
      (finalState (safeHttp noRubyLibrary oneNetInetPton 1) fresh) safeThenAdded :=
    (ReflTransGen.single (.operation urlSet)).tail (.operation (.add 0 1 .accepted (.ok ())))
  have set : (ftpAllowed.easies 1).safetyOverride = (safeThenAdded.easies 1).safetyOverride := by
    decide +kernel
  refine ⟨_, returns_finalState enters, widened, ?_⟩
  exact (safeHttp_kept (added.tail (.anything set))).1 0 _ _ among (returns_finalState enters)

end World
end Curb

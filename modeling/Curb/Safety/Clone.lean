import Curb.Misc.Related
import Curb.Misc.Runs
import Curb.Safety.Tightens

/-!
# Clones

`ruby_curl_easy_clone` (`ext/curb_easy.c:1575-1637`) copies the struct of a handle as it is and then sets
some of its fields. The copy is a new Ruby object, so it has no instance variables: the safety override is
one (`lib/curl/easy.rb:196-221`). A handle is followed here with the marks that refuse a `close` and with
its multi.
-/

namespace Curb.Clone
open Curb.Misc Curb.Ruby Curb.Net Curb.Easy

/-- A handle. -/
structure Handle where
  easy : Easy
  multi : Option ObjectId
  callbackActive : Bool
  nativeActive : Nat
  callbackError : Option RubyError
  frozen : Bool

/-- A new handle. -/
def Handle.new (url : Option Text) : Handle where
  easy := Easy.new url
  multi := none
  callbackActive := false
  nativeActive := 0
  callbackError := none
  frozen := false

/-- `ruby_curl_easy_clone`. `curl_easy_duphandle` keeps the options libcurl was given. -/
def Handle.clone (handle : Handle) : Handle where
  easy := { handle.easy with
    networkAllowedCidrRules := []
    networkAllowedHosts := []
    unsafeDestinationBlocked := false
    unsafeDestinationError := []
    safetyOverride := none
    safetyOverrideGeneration := 0 }
  multi := none
  callbackActive := handle.callbackActive
  nativeActive := 0
  callbackError := none
  frozen := false

/-- Whether `close` and `reset` are refused (`curb_easy.c:1653-1659`, `1704-1710`). -/
def Handle.isActive (handle : Handle) : Bool := handle.callbackActive || handle.nativeActive != 0

/-- `__curb_clear_safety_override!` (`easy.rb:206-213`). -/
def clearSafetyOverride (frozen : Bool) (easy : Easy) : Easy :=
  if easy.safetyOverride.isSome && !frozen then
    { easy with
      safetyOverride := none
      safetyOverrideGeneration := easy.safetyOverrideGeneration + 1 }
  else easy

/-- `ruby_curl_easy_zero`, which leaves the instance variables alone. -/
def Handle.zero (handle : Handle) : Handle := { handle with
  easy := { Easy.new none with
    safetyOverride := handle.easy.safetyOverride
    safetyOverrideGeneration := handle.easy.safetyOverrideGeneration }
  callbackActive := false
  nativeActive := 0
  callbackError := none }

/-- `reset` (`easy.rb:120-124`), where it is not refused. -/
def Handle.reset (handle : Handle) : Handle :=
  { handle.zero with easy := clearSafetyOverride handle.frozen handle.zero.easy }

/-- `close` (`easy.rb:98-104`), where it is not refused. -/
def Handle.close (handle : Handle) : Handle := { handle.reset with multi := none }

/-! ## What happens to a handle -/

inductive Step where
  /-- Any operation but `safe_http!`: an attribute is set, a setup, `apply_safety!` before a request. -/
  | configure (operation : EasyM Unit)
  /-- `safe_http!` under this configuration. -/
  | safeHttp (config : Option SafetyConfig)
  | attach (multi : ObjectId)
  | detach
  /-- `with_easy_callback_active`, and its end, with the exception that the callback has raised. -/
  | callbackBegin
  | callbackEnd (error : Option RubyError)
  | takeCallbackError
  /-- `ruby_curl_easy_enter_native`. -/
  | enterNative
  /-- `ruby_curl_easy_leave_native`. -/
  | leaveNative
  | close
  | reset
  | freeze
  /-- It goes on with the clone. -/
  | clone

/-- No operation but `safe_http!`, `close` and `reset` writes the override. -/
def Allowed (_ : Handle) : Step → Prop
  | .configure operation => ∀ override, Keeps (fun easy => easy.safetyOverride = override) operation
  | _ => True

section
variable (ruby : RubyLibrary) (net : InetPton)

def step (handle : Handle) : Step → Option Handle
  | .configure operation => some { handle with easy := finalState operation handle.easy }
  | .safeHttp config =>
      if handle.frozen then none
      else some { handle with easy := finalState (safeHttp ruby net config) handle.easy }
  | .attach multi => some { handle with multi := some multi }
  | .detach => some { handle with multi := none }
  | .callbackBegin => some { handle with callbackActive := true }
  | .callbackEnd error => some { handle with
      callbackActive := false, callbackError := handle.callbackError.or error }
  | .takeCallbackError => some { handle with callbackError := none }
  | .enterNative => some { handle with nativeActive := handle.nativeActive + 1 }
  | .leaveNative => some { handle with nativeActive := handle.nativeActive - 1 }
  | .close => if handle.isActive then none else some handle.close
  | .reset => if handle.isActive then none else some handle.reset
  | .freeze => some { handle with frozen := true }
  | .clone => some handle.clone

/-- A handle that some run has made. -/
def Reachable (handle : Handle) : Prop := ∃ url, Reached (step ruby net) Allowed (Handle.new url) handle

end

/-! ## What a clone is to be -/

/-- The restrictions of a handle: protocols, redirects, hosts, addresses, the ways around the network, and
the size of the body. -/
structure Restrictions where
  protocols : Option (List ProtocolName)
  redirProtocols : Option (List ProtocolName)
  allowedHosts : Option (List Text)
  allowedCidrs : Option (List Text)
  networkPolicy : NetworkPolicy
  allowProxy : Bool
  allowUnixSocket : Bool
  proxyUrl : Option Text
  noproxy : Option Text
  proxyTunnel : Bool
  maxBodyBytes : Option Nat

def restrictions (easy : Easy) : Restrictions where
  protocols := easy.native.protocols
  redirProtocols := easy.native.redirProtocols
  allowedHosts := easy.allowedHosts
  allowedCidrs := easy.allowedCidrs
  networkPolicy := easy.networkPolicy
  allowProxy := easy.allowProxy
  allowUnixSocket := easy.allowUnixSocket
  proxyUrl := easy.proxyUrl
  noproxy := easy.noproxy
  proxyTunnel := easy.proxyTunnel
  maxBodyBytes := easy.maxBodyBytes

/-- The two handles have the same restrictions. -/
def SameRestrictions (easy other : Easy) : Prop := restrictions easy = restrictions other

/-- The clone is idle and in no multi, and whatever the configuration `apply_safety!` does the same to it
as to the source. -/
structure Independent (ruby : RubyLibrary) (net : InetPton) (source : Handle) : Prop where
  multi : source.clone.multi = none
  callback : source.clone.callbackActive = false
  native : source.clone.nativeActive = 0
  safety : ∀ config, SameResult SameRestrictions (applySafety ruby net config source.easy)
    (applySafety ruby net config source.clone.easy)

/-! ## What `apply_safety!` looks at -/

section Alike
variable {ruby : RubyLibrary} {net : InetPton} {override : Option SafetyOverride} {easy other : Easy}

/-- The handle without what `apply_safety!` does not look at. -/
def core (easy : Easy) : Easy := { easy with
  networkAllowedCidrRules := []
  networkAllowedHosts := []
  unsafeDestinationBlocked := false
  unsafeDestinationError := []
  safetyOverrideGeneration := 0 }

/-- The same handle for `apply_safety!`, with this override. -/
structure Alike (override : Option SafetyOverride) (easy other : Easy) : Prop where
  same : core easy = core other
  override : easy.safetyOverride = override

theorem Alike.read {α : Type} (alike : Alike override easy other) (field : Easy → α)
    (seen : ∀ easy, field (core easy) = field easy) : field easy = field other := by
  rw [← seen, alike.same, seen]

theorem respects_lift {α : Type} {x : Except RubyError α} : Respects (Alike override) (lift x) := by
  cases x with
  | ok a => exact respects_pure
  | error e => exact respects_throw

theorem respects_update {f : Easy → Easy} (seen : ∀ easy, core (f (core easy)) = core (f easy))
    (kept : ∀ easy, (f easy).safetyOverride = easy.safetyOverride) :
    Respects (Alike override) (modify f : EasyM Unit) := by
  refine respects_modify fun easy other alike => ⟨?_, (kept easy).trans alike.override⟩
  rw [← seen, alike.same, seen]

theorem respects_allowedProtocolsSet {ruby : RubyLibrary} {protocols : List Text} :
    Respects (Alike override) (allowedProtocolsSet ruby protocols) := by
  refine respects_bind respects_lift fun _ => ?_
  split
  · exact respects_update (fun _ => rfl) fun _ => rfl
  · exact respects_pure

theorem respects_allowedRedirectProtocolsSet {ruby : RubyLibrary} {protocols : List Text} :
    Respects (Alike override) (allowedRedirectProtocolsSet ruby protocols) := by
  refine respects_bind respects_lift fun _ => ?_
  split
  · exact respects_update (fun _ => rfl) fun _ => rfl
  · exact respects_pure

theorem respects_maxBodyBytesSet {limit : Option Int} : Respects (Alike override) (maxBodyBytesSet limit) := by
  unfold maxBodyBytesSet
  split
  · exact respects_update (fun _ => rfl) fun _ => rfl
  · split
    · exact respects_throw
    · split
      · exact respects_throw
      · split <;> exact respects_update (fun _ => rfl) fun _ => rfl

theorem respects_applyMaxBodyBytes {limit : Option Nat} : Respects (Alike override) (applyMaxBodyBytes limit) := by
  unfold applyMaxBodyBytes
  cases limit with
  | none => exact respects_pure
  | some limit =>
    refine respects_get_bind (fun easy other alike => ?_) fun easy => ?_
    · rw [alike.read Easy.maxBodyBytes fun _ => rfl]
    · split
      · exact respects_maxBodyBytesSet
      · exact respects_pure

theorem respects_applyProtocols {ruby : RubyLibrary} {config : Option SafetyConfig}
    {given : Option SafetyOverride} : Respects (Alike override) (applyProtocols ruby config given) := by
  refine respects_bind respects_lift fun protocols => respects_bind respects_lift fun redirects => ?_
  cases protocols with
  | none => exact respects_pure
  | some list => exact respects_bind respects_allowedProtocolsSet fun _ => respects_allowedRedirectProtocolsSet

theorem respects_allowedHostsSet {hosts : ListArgument} : Respects (Alike override) (allowedHostsSet hosts) := by
  refine respects_bind respects_lift fun normalized => ?_
  refine respects_bind (respects_update (fun _ => rfl) fun _ => rfl) fun _ => ?_
  refine respects_bind (respects_update (fun _ => rfl) fun _ => rfl) fun _ => ?_
  refine respects_get_bind (fun easy other alike => ?_) fun easy => ?_
  · rw [alike.read Easy.allowedHosts fun _ => rfl]
  · exact respects_bind respects_lift fun _ => respects_update (fun _ => rfl) fun _ => rfl

theorem respects_applyAllowedHosts {hosts : List Text} :
    Respects (Alike override) (applyAllowedHosts ruby hosts) := by
  refine respects_get_bind (fun easy other alike => ?_) fun easy => ?_
  · rw [alike.read Easy.url fun _ => rfl]
  · refine respects_bind respects_lift fun host => respects_bind respects_lift fun normalized => ?_
    split
    · exact respects_allowedHostsSet
    · exact respects_throw

theorem respects_prepareRules : Respects (Alike override) (curbPrepareNetworkAllowedCidrRules net) := by
  refine respects_bind (respects_update (fun _ => rfl) fun _ => rfl) fun _ => ?_
  refine respects_get_bind (fun easy other alike => ?_) fun easy => ?_
  · rw [alike.read Easy.allowedCidrs fun _ => rfl]
  · exact respects_bind respects_lift fun _ => respects_update (fun _ => rfl) fun _ => rfl

theorem respects_allowedCidrsSet {cidrs : ListArgument} :
    Respects (Alike override) (allowedCidrsSet net cidrs) := by
  refine respects_bind respects_lift fun normalized => ?_
  refine respects_bind (respects_update (fun _ => rfl) fun _ => rfl) fun _ => ?_
  refine respects_get_bind (fun easy other alike => ?_) fun easy => ?_
  · rw [alike.read Easy.networkPolicy fun _ => rfl]
  · split
    · exact respects_prepareRules
    · exact respects_update (fun _ => rfl) fun _ => rfl

theorem respects_applyAllowedCidrs {config : SafetyConfig} {cidrs : List Text} :
    Respects (Alike override) (applyAllowedCidrs net config cidrs) := by
  unfold applyAllowedCidrs
  split
  · exact respects_allowedCidrsSet
  · exact respects_throw

theorem respects_networkPolicySet {policy : PolicyArgument} :
    Respects (Alike override) (networkPolicySet policy) := by
  unfold networkPolicySet
  split
  · exact respects_update (fun _ => rfl) fun _ => rfl
  · exact respects_throw
  · split
    · exact respects_update (fun _ => rfl) fun _ => rfl
    · split
      · exact respects_update (fun _ => rfl) fun _ => rfl
      · exact respects_throw

theorem respects_rejectOverride {isSet : Easy → Bool} {message : String}
    (seen : ∀ easy, isSet (core easy) = isSet easy) : Respects (Alike override) (rejectOverride isSet message) := by
  refine respects_get_bind (fun easy other alike => ?_) fun easy => ?_
  · rw [alike.read isSet seen]
  · split
    · exact respects_throw
    · exact respects_pure

theorem respects_unlessAllowed {allow : Bool} {check : EasyM Unit} (each : Respects (Alike override) check) :
    Respects (Alike override) (unlessAllowed allow check) := by
  unfold unlessAllowed
  split
  · exact respects_pure
  · exact each

theorem respects_disableProxy : Respects (Alike override) disableProxy := by
  refine respects_bind (respects_update (fun _ => rfl) fun _ => rfl) fun _ => ?_
  exact respects_bind (respects_update (fun _ => rfl) fun _ => rfl) fun _ =>
    respects_update (fun _ => rfl) fun _ => rfl

theorem respects_applyAllowedProxy {hosts : List Text} :
    Respects (Alike override) (applyAllowedProxy ruby hosts) := by
  refine respects_get_bind (fun easy other alike => ?_) fun easy => ?_
  · rw [alike.read Easy.proxyUrl fun _ => rfl]
  · split
    · refine respects_bind respects_lift fun host => ?_
      split
      · exact respects_update (fun _ => rfl) fun _ => rfl
      · exact respects_throw
    · exact respects_disableProxy

theorem respects_publicControls {config : SafetyConfig} :
    Respects (Alike override) (applyPublicNetworkPolicyControls ruby config) := by
  have reject {isSet : Easy → Bool} {message : String} (seen : ∀ easy, isSet (core easy) = isSet easy) :=
    @respects_rejectOverride override isSet message seen
  refine respects_bind (respects_unlessAllowed (reject fun _ => rfl)) fun _ => ?_
  refine respects_bind (respects_unlessAllowed (reject fun _ => rfl)) fun _ => ?_
  refine respects_bind (respects_unlessAllowed (reject fun _ => rfl)) fun _ => ?_
  refine respects_bind (reject fun _ => rfl) fun _ => ?_
  refine respects_bind (respects_update (fun _ => rfl) fun _ => rfl) fun _ => ?_
  refine respects_bind (respects_update (fun _ => rfl) fun _ => rfl) fun _ => ?_
  refine respects_bind (respects_unlessAllowed (reject fun _ => rfl)) fun _ => ?_
  split
  · exact respects_applyAllowedProxy
  · exact respects_unlessAllowed respects_disableProxy

theorem respects_applyNetworkPolicy {config : SafetyConfig} :
    Respects (Alike override) (applyNetworkPolicy ruby config) := by
  unfold applyNetworkPolicy
  split
  · exact respects_pure
  · exact respects_networkPolicySet
  · exact respects_bind respects_networkPolicySet fun _ => respects_publicControls

theorem respects_ifGiven {α : Type} {value : Option α} {apply : α → EasyM Unit}
    (each : ∀ a, Respects (Alike override) (apply a)) : Respects (Alike override) (ifGiven value apply) := by
  cases value with
  | none => exact respects_pure
  | some a => exact each a

theorem respects_applyConfig {config : SafetyConfig} :
    Respects (Alike override) (applyConfig ruby net config) := by
  refine respects_bind (respects_ifGiven fun _ => respects_applyAllowedHosts) fun _ => ?_
  refine respects_bind (respects_ifGiven fun _ => respects_applyAllowedCidrs) fun _ => ?_
  exact respects_bind respects_applyNetworkPolicy fun _ => respects_applyMaxBodyBytes

/-- `apply_safety!` does the same to handles that are alike, and it leaves the override as it is. -/
theorem respects_applySafety {config : Option SafetyConfig} :
    Respects (Alike override) (applySafety ruby net config) := by
  refine respects_get_bind (fun easy other alike => ?_) fun easy => ?_
  · rw [alike.read Easy.safetyOverride fun _ => rfl]
  · dsimp only
    split
    · exact respects_pure
    · refine respects_bind respects_applyProtocols fun _ => ?_
      exact respects_bind (respects_ifGiven fun _ => respects_applyConfig) fun _ => respects_applyMaxBodyBytes

end Alike

/-! ## The overrides there are -/

section Overrides
variable {ruby : RubyLibrary} {net : InetPton} {handle after : Handle}

/-- There is no override, or the one of `safe_http!`. -/
def HttpOverride (easy : Easy) : Prop :=
  easy.safetyOverride = none ∨ easy.safetyOverride = some (safeHttpOverride none)

theorem safetyOverride_safeHttp {config : Option SafetyConfig} (easy : Easy) :
    (finalState (safeHttp ruby net config) easy).safetyOverride = some (safeHttpOverride easy.safetyOverride) := by
  rw [safeHttp, finalState_modify_bind]
  exact (respects_applySafety.finalState ⟨rfl, rfl⟩).override

theorem httpOverride_clear {frozen : Bool} {easy : Easy} (http : HttpOverride easy) :
    HttpOverride (clearSafetyOverride frozen easy) := by
  unfold clearSafetyOverride
  split
  · exact Or.inl rfl
  · exact http

theorem httpOverride_step {event : Step} (http : HttpOverride handle.easy) (allowed : Allowed handle event)
    (steps : step ruby net handle event = some after) : HttpOverride after.easy := by
  cases event with
  | configure operation =>
    cases steps
    exact http.imp (allowed none handle.easy) (allowed (some (safeHttpOverride none)) handle.easy)
  | safeHttp config =>
    simp only [step, Option.ite_none_left_eq_some] at steps
    obtain ⟨_, ⟨⟩⟩ := steps
    refine Or.inr ((safetyOverride_safeHttp handle.easy).trans ?_)
    rcases http with same | same <;> rw [same]
    rfl
  | close =>
    simp only [step, Option.ite_none_left_eq_some] at steps
    obtain ⟨_, ⟨⟩⟩ := steps
    exact httpOverride_clear http
  | reset =>
    simp only [step, Option.ite_none_left_eq_some] at steps
    obtain ⟨_, ⟨⟩⟩ := steps
    exact httpOverride_clear http
  | clone =>
    cases steps
    exact Or.inl rfl
  | _ =>
    cases steps
    exact http

/-- Every handle has the override of `safe_http!` or none. -/
theorem reachable_httpOverride (reachable : Reachable ruby net handle) : HttpOverride handle.easy := by
  obtain ⟨url, reached⟩ := reachable
  exact reached.invariant (Or.inl rfl) fun _ _ _ http allowed steps => httpOverride_step http allowed steps

end Overrides

/-! ## When a clone is independent -/

section Independence
variable {ruby : RubyLibrary} {net : InetPton} {handle : Handle}

/-- A configuration that allows more than `safe_http!`. -/
def httpAndFtp : SafetyConfig := { SafetyConfig.new with
  protocols := [protocolName "http".toList, protocolName "ftp".toList]
  protocols_ne := List.cons_ne_nil _ _ }

theorem applySafety_httpAndFtp {easy : Easy} (noOverride : easy.safetyOverride = none) :
    Returns (applySafety ruby net (some httpAndFtp)) easy ()
      { easy with native := withLists easy.native (some httpAndFtp.protocols) (some httpAndFtp.protocols) } := by
  have takes : ruby.takesProtocols httpAndFtp.protocols = true := ruby.takes_valid _ (by decide)
  have lists : Returns (applyProtocols ruby (some httpAndFtp) none) easy ()
      { easy with native := withLists easy.native (some httpAndFtp.protocols) (some httpAndFtp.protocols) } := by
    have both : applyProtocols ruby (some httpAndFtp) none =
        (allowedProtocolsSet ruby (httpAndFtp.protocols.map (·.text)) >>= fun _ =>
          allowedRedirectProtocolsSet ruby (httpAndFtp.protocols.map (·.text))) := rfl
    have set := allowedProtocolsSet_sets takes (by decide) easy
    rw [both]
    exact bind_returns_iff.mpr ⟨(), _, set, allowedRedirectProtocolsSet_sets takes (by decide) _⟩
  have nothing : (ifGiven (some httpAndFtp) (applyConfig ruby net) >>= fun _ =>
      applyMaxBodyBytes none) = pure () := rfl
  unfold applySafety
  refine bind_returns_iff.mpr ⟨easy, easy, returns_get_iff.mpr ⟨rfl, rfl⟩, ?_⟩
  rw [noOverride, if_neg (by simp)]
  refine bind_returns_iff.mpr ⟨(), _, lists, ?_⟩
  rw [Option.bind_none, nothing]
  exact returns_pure_iff.mpr ⟨rfl, by rw [noOverride]⟩

/-- A source without an override and its clone are the same handle for `apply_safety!`. -/
theorem alike_clone (noOverride : handle.easy.safetyOverride = none) :
    Alike none handle.easy handle.clone.easy := by
  refine ⟨?_, noOverride⟩
  rw [core, core, Handle.clone, noOverride]

theorem not_same_of_override (override : handle.easy.safetyOverride = some (safeHttpOverride none)) :
    ¬SameResult SameRestrictions (applySafety ruby net (some httpAndFtp) handle.easy)
      (applySafety ruby net (some httpAndFtp) handle.clone.easy) := by
  intro same
  obtain ⟨after, run, restricted⟩ := same.returns (applySafety_httpAndFtp rfl)
  have protocols : after.native.protocols = some httpAndFtp.protocols := congrArg Restrictions.protocols restricted
  have admitted := applied_protocol_iff (applySafety_applied run).lists (protocolName "ftp".toList)
  rw [protocols, SettingsAdmitProtocol, override, if_neg (by decide)] at admitted
  have ftp : protocolName "ftp".toList ∈ SafetyConfig.defaultProtocols :=
    admitted.mp (by rintro _ ⟨⟩; decide) SafetyConfig.defaultProtocols (by decide)
  exact absurd ftp (by decide)

/-- The clone of a handle is independent exactly where the handle is in no callback and has no override. -/
theorem independent_iff (reachable : Reachable ruby net handle) :
    Independent ruby net handle ↔ handle.callbackActive = false ∧ handle.easy.safetyOverride = none := by
  constructor
  · intro independent
    refine ⟨independent.callback, ?_⟩
    rcases reachable_httpOverride reachable with noOverride | override
    · exact noOverride
    · exact absurd (independent.safety (some httpAndFtp)) (not_same_of_override override)
  · rintro ⟨idle, noOverride⟩
    refine ⟨rfl, idle, rfl, fun config => ?_⟩
    refine (respects_applySafety handle.easy handle.clone.easy (alike_clone noOverride)).mono ?_
    intro easy other alike
    have same := congrArg restrictions alike.same
    exact same

/-- A handle in a multi, during a native operation. -/
def attachedHandle : Handle := { Handle.new none with multi := some 1, nativeActive := 1 }

theorem independent_iff_attached :
    let ruby : RubyLibrary := ⟨fun _ => .ok none, fun _ => none, fun _ => true, fun _ _ => rfl⟩
    Independent ruby oneNetInetPton attachedHandle := by
  refine (independent_iff ⟨none, ?_⟩).mpr ⟨rfl, rfl⟩
  exact Reached.next .enterNative (Reached.next (.attach 1) Reached.start trivial rfl) trivial rfl

/-- A handle inside one of its callbacks. -/
def callingHandle : Handle := { Handle.new none with callbackActive := true }

/-- A handle after `safe_http!`, with no configuration. -/
def safeHandle (ruby : RubyLibrary) (net : InetPton) : Handle :=
  { Handle.new none with easy := finalState (safeHttp ruby net none) (Easy.new none) }

theorem clone_keepsMark_losesOverride :
    let ruby : RubyLibrary := ⟨fun _ => .ok none, fun _ => none, fun _ => true, fun _ _ => rfl⟩
    let safe := safeHandle ruby oneNetInetPton
    (Reachable ruby oneNetInetPton callingHandle ∧
        step ruby oneNetInetPton callingHandle.clone .close = none ∧
        ¬Independent ruby oneNetInetPton callingHandle) ∧
      Reachable ruby oneNetInetPton safe ∧
      (finalState (applySafety ruby oneNetInetPton (some httpAndFtp)) safe.easy).native.protocols =
        some [protocolName "http".toList] ∧
      (finalState (applySafety ruby oneNetInetPton (some httpAndFtp)) safe.clone.easy).native.protocols =
        some [protocolName "http".toList, protocolName "ftp".toList] ∧
      ¬Independent ruby oneNetInetPton safe := by
  refine ⟨⟨⟨none, Reached.next .callbackBegin Reached.start trivial rfl⟩, rfl, ?_⟩, ?_, rfl, rfl, ?_⟩
  · intro independent
    exact nomatch independent.callback
  · exact ⟨none, Reached.next (.safeHttp none) Reached.start trivial rfl⟩
  · intro independent
    exact not_same_of_override rfl (independent.safety (some httpAndFtp))

end Independence

end Curb.Clone

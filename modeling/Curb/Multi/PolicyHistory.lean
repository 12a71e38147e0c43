import Curb.Multi.Safety
import Curb.Safety.Applied

/-!
# The network policy of a handle and the calls that made it

What libcurl holds of the policy is a function of the calls made on the handle since its last
setup. Every operation on a handle keeps this, and a setup starts it anew.
-/

namespace Curb
open Curb.Misc Curb.Ruby Curb.Net

/-- The fields of a handle its network policy is made of. -/
structure PolicyFields where
  allowedHosts : Option (List Text)
  allowedCidrs : Option (List Text)
  networkAllowedCidrRules : List CurbCidrRule
  networkAllowedHosts : List Text
  unixSocketPath : Option Text
  dnsServers : Option Text
  prereqFunction : Bool
  opensocketFunction : Bool
  policyCalls : List PolicyCall

namespace Easy

/-- The fields of the policy. -/
def policyFields (easy : Easy) : PolicyFields where
  allowedHosts := easy.allowedHosts
  allowedCidrs := easy.allowedCidrs
  networkAllowedCidrRules := easy.networkAllowedCidrRules
  networkAllowedHosts := easy.networkAllowedHosts
  unixSocketPath := easy.native.unixSocketPath
  dnsServers := easy.native.dnsServers
  prereqFunction := easy.native.prereqFunction
  opensocketFunction := easy.native.opensocketFunction
  policyCalls := easy.policyCalls

end Easy

/-! ## Histories -/

/-- The socket path last given to libcurl and not cleared by a setup since. -/
def unixSocketPathSince : List PolicyCall → Option Text
  | [] => none
  | .unixSocketPath path :: _ => path
  | .setup installed :: calls =>
      if installed.policy = .policyPublic ∧ installed.allowUnixSocket = false then none
      else unixSocketPathSince calls
  | _ :: calls => unixSocketPathSince calls

/-- The DNS servers libcurl has: those given to it last, or those the last setup has left. -/
def dnsServersSince : List PolicyCall → Option Text
  | [] => none
  | .dnsServers servers :: _ => servers
  | .setup installed :: _ => installed.dnsServers
  | _ :: calls => dnsServersSince calls

/-- Whether the last setup or `allowed_cidrs=` found another policy than `:public`, so that it
dropped the prepared rules. -/
def cidrRulesDropped : List PolicyCall → Bool
  | [] => false
  | .allowedCidrs policy :: _ => policy ≠ .policyPublic
  | .setup installed :: _ => installed.policy ≠ .policyPublic
  | _ :: calls => cidrRulesDropped calls

/-- The last setup. -/
def lastSetup : List PolicyCall → Option PolicySetup
  | [] => none
  | .setup installed :: _ => some installed
  | _ :: calls => lastSetup calls

/-- Whether the last setup has installed the open-socket callback. -/
def opensocketSince (calls : List PolicyCall) : Bool :=
  (lastSetup calls).any (·.policy = .policyPublic)

/-- Whether the last setup has installed the prerequest callback. -/
def prereqSince (calls : List PolicyCall) : Bool := (lastSetup calls).any (·.hostsListed)

/-- The rules of a handle that is attached, and has been set up at least once. -/
structure Installed (net : InetPton) (fields : PolicyFields) : Prop where
  hostRules : curbHostRules fields.allowedHosts = .ok fields.networkAllowedHosts
  dropped : cidrRulesDropped fields.policyCalls = true → fields.networkAllowedCidrRules = []
  cidrRules : cidrRulesDropped fields.policyCalls = false →
    curbCidrRules net fields.allowedCidrs = .ok fields.networkAllowedCidrRules

/-- What holds of every handle, and of one that is attached. -/
structure Tracked (net : InetPton) (attached : Bool) (fields : PolicyFields) : Prop where
  unixSocketPath : fields.unixSocketPath = unixSocketPathSince fields.policyCalls
  dnsServers : fields.dnsServers = dnsServersSince fields.policyCalls
  opensocket : fields.opensocketFunction = opensocketSince fields.policyCalls
  prereq : fields.prereqFunction = prereqSince fields.policyCalls
  cidrs : ∃ rules, curbCidrRules net fields.allowedCidrs = .ok rules
  hosts : ∃ rules, curbHostRules fields.allowedHosts = .ok rules
  installed : attached = true → Installed net fields

/-- A handle no multi holds may have lost its rules. -/
theorem Tracked.detached {net : InetPton} {attached : Bool} {fields : PolicyFields}
    (tracked : Tracked net attached fields) : Tracked net false fields :=
  { tracked with installed := nofun }

namespace Easy

/-- The operation keeps `Tracked`. -/
abbrev KeepsPolicy {α : Type} (net : InetPton) (attached : Bool) (operation : EasyM α) : Prop :=
  Keeps (fun easy => Tracked net attached easy.policyFields) operation

variable {ruby : RubyLibrary} {net : InetPton} {attached : Bool} {config : Option SafetyConfig}

/-! ## Operations apart from the policy -/

theorem keepsPolicy_lift {α : Type} {x : Except RubyError α} :
    KeepsPolicy net attached (lift x) := by
  cases x with
  | error e => exact keeps_throw
  | ok a => exact keeps_pure

theorem keepsPolicy_modify {f : Easy → Easy}
    (same : ∀ easy, (f easy).policyFields = easy.policyFields) :
    KeepsPolicy net attached (modify f) := by
  apply keeps_modify
  intro easy tracked
  rw [same easy]
  exact tracked

theorem keepsPolicy_networkPolicySet {policy : PolicyArgument} :
    KeepsPolicy net attached (networkPolicySet policy) := by
  unfold networkPolicySet
  split
  · exact keepsPolicy_modify fun _ => rfl
  · exact keeps_throw
  · split
    · exact keepsPolicy_modify fun _ => rfl
    · split
      · exact keepsPolicy_modify fun _ => rfl
      · exact keeps_throw

theorem keepsPolicy_rejectOverride {isSet : Easy → Bool} {message : String} :
    KeepsPolicy net attached (rejectOverride isSet message) := by
  refine keeps_bind keeps_get fun easy => ?_
  split
  · exact keeps_throw
  · exact keeps_pure

theorem keepsPolicy_unlessAllowed {allow : Bool} {check : EasyM Unit}
    (keeps : KeepsPolicy net attached check) :
    KeepsPolicy net attached (unlessAllowed allow check) := by
  cases allow with
  | true => exact keeps_pure
  | false => exact keeps

theorem keepsPolicy_ifGiven {α : Type} {value : Option α} {apply : α → EasyM Unit}
    (keeps : ∀ given, KeepsPolicy net attached (apply given)) :
    KeepsPolicy net attached (ifGiven value apply) := by
  cases value with
  | none => exact keeps_pure
  | some given => exact keeps given

theorem keepsPolicy_maxBodyBytesSet {limit : Option Int} :
    KeepsPolicy net attached (maxBodyBytesSet limit) := by
  cases limit with
  | none => exact keepsPolicy_modify fun _ => rfl
  | some limit =>
    unfold maxBodyBytesSet
    dsimp only
    split
    · exact keeps_throw
    · split
      · exact keeps_throw
      · split
        · exact keepsPolicy_modify fun _ => rfl
        · exact keepsPolicy_modify fun _ => rfl

theorem keepsPolicy_applyMaxBodyBytes {maxBodyBytes : Option Nat} :
    KeepsPolicy net attached (applyMaxBodyBytes maxBodyBytes) := by
  cases maxBodyBytes with
  | none => exact keeps_pure
  | some limit =>
    unfold applyMaxBodyBytes
    refine keeps_bind keeps_get fun easy => ?_
    split
    · exact keepsPolicy_maxBodyBytesSet
    · exact keeps_pure

theorem keepsPolicy_applyProtocols {override : Option SafetyOverride} :
    KeepsPolicy net attached (applyProtocols ruby config override) := by
  refine keeps_bind keepsPolicy_lift fun protocols => ?_
  refine keeps_bind keepsPolicy_lift fun redirects => ?_
  cases protocols with
  | none => exact keeps_pure
  | some list =>
    refine keeps_bind ?_ fun _ => ?_ <;> refine keeps_bind keepsPolicy_lift fun _ => ?_ <;> split
    · exact keepsPolicy_modify fun _ => rfl
    · exact keeps_pure
    · exact keepsPolicy_modify fun _ => rfl
    · exact keeps_pure

theorem keepsPolicy_disableProxy : KeepsPolicy net attached disableProxy := by
  refine keeps_bind (keepsPolicy_modify fun _ => rfl) fun _ => ?_
  exact keeps_bind (keepsPolicy_modify fun _ => rfl) fun _ => keepsPolicy_modify fun _ => rfl

theorem keepsPolicy_applyAllowedProxy {hosts : List Text} :
    KeepsPolicy net attached (applyAllowedProxy ruby hosts) := by
  refine keeps_bind keeps_get fun easy => ?_
  split
  · refine keeps_bind keepsPolicy_lift fun host => ?_
    split
    · exact keepsPolicy_modify fun _ => rfl
    · exact keeps_throw
  · exact keepsPolicy_disableProxy

theorem keepsPolicy_applyPublicNetworkPolicyControls {given : SafetyConfig} :
    KeepsPolicy net attached (applyPublicNetworkPolicyControls ruby given) := by
  refine keeps_bind (keepsPolicy_unlessAllowed keepsPolicy_rejectOverride) fun _ => ?_
  refine keeps_bind (keepsPolicy_unlessAllowed keepsPolicy_rejectOverride) fun _ => ?_
  refine keeps_bind (keepsPolicy_unlessAllowed keepsPolicy_rejectOverride) fun _ => ?_
  refine keeps_bind keepsPolicy_rejectOverride fun _ => ?_
  refine keeps_bind (keepsPolicy_modify fun _ => rfl) fun _ => ?_
  refine keeps_bind (keepsPolicy_modify fun _ => rfl) fun _ => ?_
  refine keeps_bind (keepsPolicy_unlessAllowed keepsPolicy_rejectOverride) fun _ => ?_
  split
  · exact keepsPolicy_applyAllowedProxy
  · exact keepsPolicy_unlessAllowed keepsPolicy_disableProxy

theorem keepsPolicy_applyNetworkPolicy {given : SafetyConfig} :
    KeepsPolicy net attached (applyNetworkPolicy ruby given) := by
  unfold applyNetworkPolicy
  split
  · exact keeps_pure
  · exact keepsPolicy_networkPolicySet
  · exact keeps_bind keepsPolicy_networkPolicySet fun _ =>
      keepsPolicy_applyPublicNetworkPolicyControls

/-! ## The setters of the policy -/

theorem keepsPolicy_setUnixSocketPath {path : Option Text} :
    KeepsPolicy net attached (setUnixSocketPath path) := by
  refine keeps_bind (keepsPolicy_modify fun _ => rfl) fun _ => ?_
  refine keeps_bind keepsPolicy_lift fun given => ?_
  apply keeps_modify
  intro easy tracked
  refine { tracked with unixSocketPath := rfl, installed := ?_ }
  intro isAttached
  have installed := tracked.installed isAttached
  exact ⟨installed.hostRules, installed.dropped, installed.cidrRules⟩

theorem keepsPolicy_setDnsServers {servers : Option Text} {accepted : Bool} :
    KeepsPolicy net attached (setDnsServers servers accepted) := by
  refine keeps_bind (keepsPolicy_modify fun _ => rfl) fun _ => ?_
  refine keeps_bind keepsPolicy_lift fun given => ?_
  cases accepted with
  | false => exact keeps_pure
  | true =>
    apply keeps_modify
    intro easy tracked
    refine { tracked with dnsServers := rfl, installed := ?_ }
    intro isAttached
    have installed := tracked.installed isAttached
    exact ⟨installed.hostRules, installed.dropped, installed.cidrRules⟩

theorem keepsPolicy_allowedHostsSet {hosts : ListArgument} :
    KeepsPolicy net attached (allowedHostsSet hosts) := by
  intro easy tracked
  cases normalized : curbNormalizeHostList hosts with
  | error e =>
    have raised : finalState (allowedHostsSet hosts) easy = easy := by
      rw [finalState, allowedHostsSet, normalized]
      rfl
    rw [raised]
    exact tracked
  | ok list =>
    rw [(allowedHostsSet_accepted normalized easy).finalState_eq]
    have ruled := curbHostRules_ok normalized
    refine { tracked with hosts := ⟨_, ruled⟩, installed := ?_ }
    intro isAttached
    have installed := tracked.installed isAttached
    exact ⟨ruled, installed.dropped, installed.cidrRules⟩

theorem keepsPolicy_allowedCidrsSet {cidrs : ListArgument} :
    KeepsPolicy net attached (allowedCidrsSet net cidrs) := by
  intro easy tracked
  cases normalized : curbNormalizeCidrList net cidrs with
  | error e =>
    have raised : finalState (allowedCidrsSet net cidrs) easy = easy := by
      rw [finalState, allowedCidrsSet, normalized]
      rfl
    rw [raised]
    exact tracked
  | ok list =>
    obtain ⟨_, _, accepted⟩ := curbNormalizeCidrList_ok normalized
    obtain ⟨rules, ruled, _⟩ := curbCidrRules_ok accepted
    rw [(allowedCidrsSet_accepted normalized ruled easy).finalState_eq]
    refine { tracked with cidrs := ⟨_, ruled⟩, installed := ?_ }
    intro isAttached
    have installed := tracked.installed isAttached
    refine ⟨installed.hostRules, ?_, ?_⟩
    · intro dropped
      exact if_neg (of_decide_eq_true dropped)
    · intro kept
      have isPublic : easy.networkPolicy = .policyPublic := not_not.mp (of_decide_eq_false kept)
      exact ruled.trans (congrArg Except.ok (if_pos isPublic).symm)

/-! ## `apply_safety!` and the setup -/

theorem keepsPolicy_applyConfig {given : SafetyConfig} :
    KeepsPolicy net attached (applyConfig ruby net given) := by
  refine keeps_bind (keepsPolicy_ifGiven fun hosts => ?_) fun _ => ?_
  · refine keeps_bind keeps_get fun easy => ?_
    refine keeps_bind keepsPolicy_lift fun host => ?_
    refine keeps_bind keepsPolicy_lift fun normalizedHost => ?_
    split
    · exact keepsPolicy_allowedHostsSet
    · exact keeps_throw
  refine keeps_bind (keepsPolicy_ifGiven fun cidrs => ?_) fun _ => ?_
  · unfold applyAllowedCidrs
    split
    · exact keepsPolicy_allowedCidrsSet
    · exact keeps_throw
  exact keeps_bind keepsPolicy_applyNetworkPolicy fun _ => keepsPolicy_applyMaxBodyBytes

theorem keepsPolicy_applySafety : KeepsPolicy net attached (applySafety ruby net config) := by
  refine keeps_bind keeps_get fun easy => ?_
  dsimp only
  split
  · exact keeps_pure
  · refine keeps_bind keepsPolicy_applyProtocols fun _ => ?_
    refine keeps_bind (keepsPolicy_ifGiven fun given => keepsPolicy_applyConfig) fun _ => ?_
    exact keepsPolicy_applyMaxBodyBytes

theorem keepsPolicy_safeHttp : KeepsPolicy net attached (safeHttp ruby net config) :=
  keeps_bind (keepsPolicy_modify fun _ => rfl) fun _ => keepsPolicy_applySafety

theorem setupAllowedHosts_not_raises {easy after : Easy} {error : RubyError}
    (hosts : ∃ rules, curbHostRules easy.allowedHosts = .ok rules) :
    ¬Raises setupAllowedHosts easy error after := by
  obtain ⟨rules, ruled⟩ := hosts
  intro raises
  simp only [setupAllowedHosts, bind_raises_iff, raises_get_iff, returns_get_iff, false_or] at raises
  obtain ⟨_, _, ⟨rfl, rfl⟩, raises⟩ := raises
  split at raises
  · simp only [curbPrepareNetworkAllowedHosts, curbClearNetworkAllowedHosts, bind_raises_iff,
      raises_modify_iff, raises_get_iff, returns_modify_iff, returns_get_iff, and_false, exists_false,
      or_false, false_or] at raises
    obtain ⟨_, _, rfl, _, _, ⟨rfl, rfl⟩, raises⟩ := raises
    rw [show curbHostRules _ = _ from ruled] at raises
    exact raises_pure_iff raises
  · simp only [curbClearNetworkAllowedHosts, bind_raises_iff, raises_modify_iff, and_false,
      exists_false, or_false] at raises

theorem setupOpensocket_not_raises {easy after : Easy} {error : RubyError}
    (cidrs : ∃ rules, curbCidrRules net easy.allowedCidrs = .ok rules) :
    ¬Raises (setupOpensocket net) easy error after := by
  obtain ⟨rules, ruled⟩ := cidrs
  intro raises
  simp only [setupOpensocket, bind_raises_iff, raises_get_iff, returns_get_iff, false_or] at raises
  obtain ⟨_, _, ⟨rfl, rfl⟩, raises⟩ := raises
  split at raises
  · simp only [curbPrepareNetworkAllowedCidrRules, curbClearNetworkAllowedCidrRules,
      bind_raises_iff, raises_modify_iff, raises_get_iff, returns_modify_iff, returns_get_iff,
      and_false, exists_false, or_false, false_or] at raises
    obtain ⟨_, _, rfl, _, _, ⟨rfl, rfl⟩, raises⟩ := raises
    rw [show curbCidrRules net _ = _ from ruled] at raises
    exact raises_pure_iff raises
  · simp only [curbClearNetworkAllowedCidrRules, bind_raises_iff, raises_modify_iff, and_false,
      exists_false, or_false] at raises

/-- The policy part raises only before it has touched the policy. -/
theorem setupPolicy_raises {dnsAccepted : Bool} {easy after : Easy} {error : RubyError}
    (tracked : Tracked net attached easy.policyFields)
    (raises : Raises (setupPolicy net dnsAccepted) easy error after) : after = easy := by
  simp only [setupPolicy, bind_raises_iff, raises_get_iff, returns_get_iff, false_or] at raises
  obtain ⟨_, _, ⟨rfl, rfl⟩, raises⟩ := raises
  split at raises
  · rcases bind_raises_iff.mp raises with refused | ⟨_, _, returned, _⟩
    · obtain ⟨_, rfl⟩ := raises_throw_iff.mp refused
      rfl
    · exact absurd returned returns_raise_iff
  simp only [bind_raises_iff, raises_modify_iff, returns_modify_iff, and_false, exists_false, or_false,
    false_or] at raises
  obtain ⟨_, _, rfl, hostsRaise | ⟨_, _, hostsRun, rulesRaise⟩⟩ := raises
  · exact absurd hostsRaise (setupAllowedHosts_not_raises tracked.hosts)
  · obtain ⟨hosts, _, rfl⟩ := setupAllowedHosts_returns hostsRun
    exact absurd rulesRaise (setupOpensocket_not_raises tracked.cidrs)

/-- The operation leaves the fields of the policy as they are. -/
abbrev KeepsFields {α : Type} (fields : PolicyFields) (operation : EasyM α) : Prop :=
  Keeps (fun easy => easy.policyFields = fields) operation

theorem keepsFields_lift {α : Type} {fields : PolicyFields} {x : Except RubyError α} :
    KeepsFields fields (lift x) := by
  cases x with
  | error e => exact keeps_throw
  | ok a => exact keeps_pure

theorem keepsFields_modify {fields : PolicyFields} {f : Easy → Easy}
    (same : ∀ easy, (f easy).policyFields = easy.policyFields) : KeepsFields fields (modify f) :=
  keeps_modify fun easy kept => (same easy).trans kept

theorem keepsFields_setupStart {fields : PolicyFields} {url : Except RubyError Unit} :
    KeepsFields fields (setupStart url) := by
  refine keeps_bind (keepsFields_modify fun _ => rfl) fun _ => keeps_bind keeps_get fun easy => ?_
  dsimp only
  split
  · exact keeps_bind keeps_throw fun _ => keeps_bind keepsFields_lift fun _ => keepsFields_modify fun _ => rfl
  · exact keeps_bind keepsFields_lift fun _ => keepsFields_modify fun _ => rfl

theorem keepsFields_setupRest {fields : PolicyFields} {replies : SetupReplies} :
    KeepsFields fields (setupRest replies) := by
  refine keeps_bind keepsFields_lift fun _ => keeps_bind (keepsFields_modify fun _ => rfl) fun _ => ?_
  refine keeps_bind keepsFields_lift fun _ => keeps_bind (keepsFields_modify fun _ => rfl) fun _ => ?_
  exact keepsFields_lift

/-- What a setup can do to the policy: nothing, where it raises before it, or all of it, wherever it
raises then. -/
def PolicySetUp (net : InetPton) (dnsAccepted : Bool) (easy after : Easy) : Prop :=
  after.policyFields = easy.policyFields ∨ ∃ hosts rules, PolicyPart net easy hosts rules ∧
    after.policyFields = (easy.policyInstalled dnsAccepted hosts rules).policyFields

theorem setup_policySetUp {replies : SetupReplies} {easy : Easy}
    (tracked : Tracked net attached easy.policyFields) :
    PolicySetUp net replies.dnsAccepted easy (finalState (setup net replies) easy) := by
  refine finalState_bind_of (P := PolicySetUp net replies.dnsAccepted easy) ?_ ?_
  · intro error after early
    exact Or.inl (keepsFields_setupStart.of_raises early rfl)
  intro _ begun startRun
  obtain ⟨-, rfl⟩ := setupStart_returns startRun
  have begun : Tracked net attached easy.setupBegun.policyFields := tracked
  refine finalState_bind_of (P := PolicySetUp net replies.dnsAccepted easy) ?_ ?_
  · intro error after refused
    rw [setupPolicy_raises begun refused]
    exact Or.inl rfl
  · intro _ policied policyRun
    obtain ⟨hosts, rules, ⟨noServers, hostRules, cidrRules, cleared⟩, rfl⟩ := setupPolicy_returns policyRun
    exact Or.inr ⟨hosts, rules, ⟨noServers, hostRules, cidrRules, cleared⟩, keepsFields_setupRest _ rfl⟩

/-- The policy part makes the handle fit to be attached. -/
theorem policyInstalled_tracked (dnsAccepted : Bool) {easy : Easy} {hosts : List Text}
    {rules : List CurbCidrRule} (tracked : Tracked net attached easy.policyFields)
    (part : PolicyPart net easy hosts rules) :
    Tracked net true (easy.policyInstalled dnsAccepted hosts rules).policyFields where
  unixSocketPath := by
    have path := tracked.unixSocketPath
    simp only [policyFields, policyInstalled, unixSocketPathSince, policySetup] at path ⊢
    rw [path]
  dnsServers := rfl
  opensocket := rfl
  prereq := rfl
  cidrs := tracked.cidrs
  hosts := tracked.hosts
  installed := by
    intro _
    refine ⟨part.hostRules, ?_, ?_⟩
    · intro dropped
      exact part.cleared (of_decide_eq_true dropped)
    · intro kept
      exact part.cidrRules (not_not.mp (of_decide_eq_false kept))

/-- A setup keeps what holds of the handle, whether it returns or raises. -/
theorem keepsPolicy_setup {replies : SetupReplies} : KeepsPolicy net attached (setup net replies) := by
  intro easy tracked
  rcases setup_policySetUp tracked with same | ⟨hosts, rules, part, same⟩
  · rw [same]
    exact tracked
  · rw [same]
    have now := policyInstalled_tracked replies.dnsAccepted tracked part
    exact { now with installed := fun _ => now.installed rfl }

/-- A setup that returns makes the handle fit to be attached. -/
theorem setup_tracked {replies : SetupReplies} {easy after : Easy}
    (tracked : Tracked net attached easy.policyFields) (run : Returns (setup net replies) easy () after) :
    Tracked net true after.policyFields := by
  obtain ⟨_, hosts, rules, part, rfl⟩ := setup_returns run
  exact policyInstalled_tracked replies.dnsAccepted tracked part

theorem keepsPolicy_cleanupPolicy : KeepsPolicy net false cleanupPolicy := by
  refine keeps_bind (keeps_modify fun easy tracked => ?_) fun _ => keeps_modify fun easy tracked => ?_
  · exact { tracked with installed := nofun }
  · exact { tracked with installed := nofun }

end Easy
end Curb

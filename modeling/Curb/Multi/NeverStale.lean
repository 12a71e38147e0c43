import Mathlib.Data.List.Nodup
import Curb.Easy.OpenSocket
import Curb.Multi.PolicyHistory

/-!
# When the native policy is stale

Before the native loop `Multi#perform` sets a handle up again only where its signature has
changed. The signature holds the policy and the lists, and not the calls that reach libcurl
past them: this file says exactly which histories of calls leave the native policy of an
attached handle the one its attributes describe.
-/

namespace Curb
open Curb.Misc Curb.Ruby Curb.Net

namespace Easy

/-- The native side of the policy is the one the attributes describe. -/
structure NeverStale (net : InetPton) (config : Option SafetyConfig) (easy : Easy) : Prop where
  opensocket : easy.networkPolicy = .policyPublic → easy.native.opensocketFunction = true ∧
    curbCidrRules net easy.allowedCidrs = .ok easy.networkAllowedCidrRules
  unixSocket : easy.networkPolicy = .policyPublic →
    easy.native.unixSocketPath = none ∨ config.any (·.allowUnixSocket) = true
  dnsServers : easy.networkPolicy = .policyPublic → easy.native.dnsServers = none
  hosts : easy.allowedHosts.getD [] ≠ [] → easy.native.prereqFunction = true ∧
    curbHostRules easy.allowedHosts = .ok easy.networkAllowedHosts

/-! ## The attributes `apply_safety!` leaves -/

/-- The list a configuration puts in the place of the handle's own. -/
def listUnder (normalize : ListArgument → Except RubyError (Option (List Text)))
    (configured own : Option (List Text)) : Option (List Text) :=
  match configured with
  | none => own
  | some list =>
      match normalize (.array list) with
      | .ok normalized => normalized
      | .error _ => own

/-- `network_policy` under the configuration. -/
def policyUnder (config : Option SafetyConfig) (easy : Easy) : NetworkPolicy :=
  (config.bind (·.networkPolicy)).getD easy.networkPolicy

/-- `allowed_hosts` under the configuration. -/
def hostsUnder (config : Option SafetyConfig) (easy : Easy) : Option (List Text) :=
  listUnder curbNormalizeHostList (config.bind (·.allowedHosts)) easy.allowedHosts

/-- `allowed_cidrs` under the configuration. -/
def cidrsUnder (net : InetPton) (config : Option SafetyConfig) (easy : Easy) : Option (List Text) :=
  listUnder (curbNormalizeCidrList net) (config.bind (·.allowedCidrs)) easy.allowedCidrs

/-- `allow_unix_socket` under the configuration: only a `:public` one assigns it. -/
def unixSocketUnder (config : Option SafetyConfig) (easy : Easy) : Bool :=
  match config with
  | none => easy.allowUnixSocket
  | some given =>
      if given.networkPolicy = some .policyPublic then given.allowUnixSocket
      else easy.allowUnixSocket

/-- The history under the configuration, which calls `allowed_cidrs=` where it has a list. -/
def callsUnder (config : Option SafetyConfig) (easy : Easy) : List PolicyCall :=
  match config.bind (·.allowedCidrs) with
  | none => easy.policyCalls
  | some _ => .allowedCidrs easy.networkPolicy :: easy.policyCalls

/-- The signature under the configuration. -/
def signatureUnder (net : InetPton) (config : Option SafetyConfig) (generation : Nat) (easy : Easy) :
    SafetySignature where
  safety :=
    if World.safetyActiveFor config easy then some (generation, easy.safetyOverrideGeneration)
    else none
  networkPolicy := policyUnder config easy
  allowedHosts := hostsUnder config easy
  allowedCidrs := cidrsUnder net config easy

/-- What `apply_safety!` leaves of the policy. -/
structure PolicyApplied (net : InetPton) (config : Option SafetyConfig) (before after : Easy) :
    Prop where
  policy : after.networkPolicy = policyUnder config before
  hosts : after.allowedHosts = hostsUnder config before
  cidrs : after.allowedCidrs = cidrsUnder net config before
  unixSocket : after.allowUnixSocket = unixSocketUnder config before
  calls : after.policyCalls = callsUnder config before
  override : after.safetyOverride = before.safetyOverride ∧
    after.safetyOverrideGeneration = before.safetyOverrideGeneration

theorem applySafety_policy {ruby : RubyLibrary} {net : InetPton} {config : Option SafetyConfig}
    {before after : Easy} (run : Returns (applySafety ruby net config) before () after) :
    PolicyApplied net config before after := by
  obtain ⟨_, _, _, configured, _, _, _, rfl, unconfigured, isConfigured, rfl⟩ :=
    applySafety_returns run
  cases config with
  | none =>
    obtain rfl := unconfigured rfl
    exact ⟨rfl, rfl, rfl, rfl, rfl, rfl, rfl⟩
  | some given =>
    have applied := isConfigured given rfl
    refine ⟨applied.policy, ?_, ?_, ?_, ?_, ?_⟩
    · have hosts := applied.hosts
      unfold hostsUnder listUnder
      rw [Option.bind_some]
      cases isHosts : given.allowedHosts with
      | none =>
        rw [isHosts] at hosts
        exact hosts.1
      | some list =>
        rw [isHosts] at hosts
        simp only [hosts.2.1]
    · have cidrs := applied.cidrs
      unfold cidrsUnder listUnder
      rw [Option.bind_some]
      cases isCidrs : given.allowedCidrs with
      | none =>
        rw [isCidrs] at cidrs
        exact cidrs.1
      | some list =>
        rw [isCidrs] at cidrs
        simp only [cidrs.2.1]
    · rw [unixSocketUnder]
      by_cases isPublic : given.networkPolicy = some .policyPublic
      · rw [if_pos isPublic]
        exact (applied.controls isPublic).unixSocketFlag
      · rw [if_neg isPublic]
        exact applied.unixSocketFlag isPublic
    · have cidrs := applied.cidrs
      rw [callsUnder, Option.bind_some]
      cases isCidrs : given.allowedCidrs with
      | none =>
        rw [isCidrs] at cidrs
        exact cidrs.2.2
      | some list =>
        rw [isCidrs] at cidrs
        exact cidrs.2.2
    · have frame := applied.frame
      have override := congrArg Easy.safetyOverride frame
      have generation := congrArg Easy.safetyOverrideGeneration frame
      exact ⟨override, generation⟩

/-! ## The condition -/

/-- What the history of a `:public` handle has to be for its native policy not to be stale, when
`Multi#perform` sets the handle up again (`setupAgain`) and when it does not. -/
structure HistoryKept (net : InetPton) (config : Option SafetyConfig) (setupAgain : Prop)
    (easy : Easy) : Prop where
  opensocket : setupAgain ∨ opensocketSince easy.policyCalls = true
  cidrs : setupAgain ∨ (cidrsUnder net config easy).getD [] = [] ∨
    cidrRulesDropped (callsUnder config easy) = false
  dnsServers : setupAgain ∨ dnsServersSince easy.policyCalls = none
  unixSocket : config.any (·.allowUnixSocket) = true ∨
    unixSocketPathSince easy.policyCalls = none ∨
      setupAgain ∧ unixSocketUnder config easy = false

/-- The condition on one handle. Of a handle that is neither `:public` nor has a list of hosts it asks
nothing. -/
structure PolicyKept (net : InetPton) (config : Option SafetyConfig) (setupAgain : Prop) (easy : Easy) :
    Prop where
  history : policyUnder config easy = .policyPublic → HistoryKept net config setupAgain easy
  hosts : (hostsUnder config easy).getD [] ≠ [] → setupAgain ∨ prereqSince easy.policyCalls = true

theorem unixSocketPathSince_callsUnder (config : Option SafetyConfig) (easy : Easy) :
    unixSocketPathSince (callsUnder config easy) = unixSocketPathSince easy.policyCalls := by
  unfold callsUnder
  split <;> rfl

theorem dnsServersSince_callsUnder (config : Option SafetyConfig) (easy : Easy) :
    dnsServersSince (callsUnder config easy) = dnsServersSince easy.policyCalls := by
  unfold callsUnder
  split <;> rfl

theorem lastSetup_callsUnder (config : Option SafetyConfig) (easy : Easy) :
    lastSetup (callsUnder config easy) = lastSetup easy.policyCalls := by
  unfold callsUnder
  split <;> rfl

theorem curbCidrRules_nil_iff {net : InetPton} {cidrs : Option (List Text)}
    {rules : List CurbCidrRule} (ruled : curbCidrRules net cidrs = .ok rules) :
    rules = [] ↔ cidrs.getD [] = [] := by
  have entries := except_mapM_eq_ok_iff.mp ruled
  constructor
  · rintro rfl
    exact List.forall₂_nil_right_iff.mp entries
  · intro empty
    rw [empty] at entries
    exact List.forall₂_nil_left_iff.mp entries

/-- A list with an entry is not `nil`. -/
theorem isSome_of_getD_ne_nil {list : Option (List Text)} (listed : list.getD [] ≠ []) : list.isSome = true := by
  cases list with
  | none => exact absurd rfl listed
  | some entries => rfl

/-- A handle that is not set up again. -/
theorem neverStale_unchanged_iff {net : InetPton} {config : Option SafetyConfig}
    {before applied : Easy} (tracked : Tracked net true applied.policyFields)
    (policied : PolicyApplied net config before applied) :
    NeverStale net config applied ↔ PolicyKept net config False before := by
  have installed := tracked.installed rfl
  have path : applied.native.unixSocketPath = unixSocketPathSince before.policyCalls := by
    rw [← unixSocketPathSince_callsUnder config before, ← policied.calls]
    exact tracked.unixSocketPath
  have servers : applied.native.dnsServers = dnsServersSince before.policyCalls := by
    rw [← dnsServersSince_callsUnder config before, ← policied.calls]
    exact tracked.dnsServers
  have opensocket : applied.native.opensocketFunction = opensocketSince before.policyCalls := by
    rw [opensocketSince, ← lastSetup_callsUnder config before, ← policied.calls]
    exact tracked.opensocket
  have prereq : applied.native.prereqFunction = prereqSince before.policyCalls := by
    rw [prereqSince, ← lastSetup_callsUnder config before, ← policied.calls]
    exact tracked.prereq
  constructor
  · intro fresh
    refine ⟨?_, ?_⟩
    · intro isPublic
      rw [← policied.policy] at isPublic
      have ⟨callback, rules⟩ := fresh.opensocket isPublic
      refine ⟨Or.inr (opensocket.symm.trans callback), Or.inr ?_, Or.inr ?_, ?_⟩
      · by_cases dropped : cidrRulesDropped (callsUnder config before) = false
        · exact Or.inr dropped
        · rw [← policied.calls] at dropped
          have empty := installed.dropped ((Bool.not_eq_false _).mp dropped)
          rw [← policied.cidrs]
          exact Or.inl ((curbCidrRules_nil_iff rules).mp empty)
      · rw [← servers]
        exact fresh.dnsServers isPublic
      · rw [← path]
        rcases fresh.unixSocket isPublic with unset | allowed
        · exact Or.inr (Or.inl unset)
        · exact Or.inl allowed
    · intro listed
      rw [← policied.hosts] at listed
      exact Or.inr (prereq.symm.trans (fresh.hosts listed).1)
  · intro kept
    have history (isPublic : applied.networkPolicy = .policyPublic) :=
      kept.history (policied.policy.symm.trans isPublic)
    refine ⟨?_, ?_, ?_, ?_⟩
    · intro isPublic
      refine ⟨opensocket.trans ((history isPublic).opensocket.resolve_left id), ?_⟩
      rcases (history isPublic).cidrs with again | empty | notDropped
      · exact again.elim
      · obtain ⟨rules, ruled⟩ := tracked.cidrs
        rw [← policied.cidrs] at empty
        by_cases dropped : cidrRulesDropped applied.policyCalls = true
        · have none := installed.dropped dropped
          rw [show applied.networkAllowedCidrRules = [] from none,
            ← (curbCidrRules_nil_iff ruled).mpr empty]
          exact ruled
        · exact installed.cidrRules ((Bool.not_eq_true _).mp dropped)
      · rw [← policied.calls] at notDropped
        exact installed.cidrRules notDropped
    · intro isPublic
      rw [path]
      rcases (history isPublic).unixSocket with allowed | unset | ⟨again, _⟩
      · exact Or.inr allowed
      · exact Or.inl unset
      · exact again.elim
    · intro isPublic
      rw [servers]
      exact (history isPublic).dnsServers.resolve_left id
    · intro listed
      rw [policied.hosts] at listed
      exact ⟨prereq.trans ((kept.hosts listed).resolve_left id), installed.hostRules⟩

/-- A handle that is set up again. -/
theorem neverStale_setup_iff {net : InetPton} {config : Option SafetyConfig} {replies : SetupReplies}
    {before applied after : Easy} {attached : Bool}
    (tracked : Tracked net attached applied.policyFields)
    (policied : PolicyApplied net config before applied)
    (run : Returns (setup net replies) applied () after) :
    NeverStale net config after ↔ PolicyKept net config True before := by
  obtain ⟨_, hostRules, rules, part, rfl⟩ := setup_returns run
  have path : applied.native.unixSocketPath = unixSocketPathSince before.policyCalls := by
    rw [← unixSocketPathSince_callsUnder config before, ← policied.calls]
    exact tracked.unixSocketPath
  have nativePath (isPublic : applied.networkPolicy = .policyPublic) :
      (applied.installed replies.dnsAccepted hostRules rules).native.unixSocketPath =
        if applied.allowUnixSocket = false then none else applied.native.unixSocketPath := by
    simp only [installed, policyInstalled, setupBegun, isPublic, true_and]
  constructor
  · intro fresh
    refine ⟨?_, fun _ => Or.inl trivial⟩
    intro isPublic
    rw [← policied.policy] at isPublic
    refine ⟨Or.inl trivial, Or.inl trivial, Or.inl trivial, ?_⟩
    rw [← path, ← policied.unixSocket]
    rcases fresh.unixSocket isPublic with unset | allowed
    · rw [nativePath isPublic] at unset
      by_cases flag : applied.allowUnixSocket = false
      · exact Or.inr (Or.inr ⟨trivial, flag⟩)
      · rw [if_neg flag] at unset
        exact Or.inr (Or.inl unset)
    · exact Or.inl allowed
  · intro kept
    refine ⟨?_, ?_, ?_, ?_⟩
    · intro isPublic
      exact ⟨decide_eq_true isPublic, part.cidrRules isPublic⟩
    · intro isPublic
      have history := kept.history (policied.policy.symm.trans isPublic)
      rw [nativePath isPublic, path, policied.unixSocket]
      rcases history.unixSocket with allowed | unset | ⟨_, flag⟩
      · exact Or.inr allowed
      · rw [unset, ite_self]
        exact Or.inl rfl
      · rw [if_pos flag]
        exact Or.inl rfl
    · intro isPublic
      have none := part.noServers isPublic
      exact (if_pos (Or.inl none)).trans none
    · intro listed
      exact ⟨isSome_of_getD_ne_nil listed, part.hostRules⟩

end Easy

namespace World
open Easy

/-! ## Runs -/

/-- The tables agree, and every handle is what its calls have made of it. -/
structure Coherent (net : InetPton) (world : World) : Prop where
  attached_iff : ∀ multi easy, world.attachedTo easy = some multi ↔ easy ∈ world.requests multi
  nodup : ∀ multi, (world.requests multi).Nodup
  tracked : ∀ easy, Tracked net (world.attachedTo easy).isSome (world.easies easy).policyFields

/-- libcurl has not refused to let the handle go. -/
def Operation.RemovalAccepted : Operation → Prop
  | .remove _ _ reply => reply = .ok ()
  | _ => True

theorem coherent_fresh (net : InetPton) : Coherent net fresh := by
  refine ⟨?_, fun _ => List.nodup_nil, ?_⟩
  · intro multi easy
    simp [fresh]
  · intro easy
    exact ⟨rfl, rfl, rfl, rfl, ⟨[], rfl⟩, ⟨[], rfl⟩, nofun⟩

/-- A world that differs from a coherent one in one handle. -/
theorem coherent_setEasy {net : InetPton} {world : World} {easy : ObjectId} {state : Easy}
    (coherent : Coherent net world)
    (tracked : Tracked net (world.attachedTo easy).isSome state.policyFields) :
    Coherent net (world.setEasy easy state) := by
  refine ⟨coherent.attached_iff, coherent.nodup, ?_⟩
  intro other
  by_cases same : other = easy
  · rw [same, setEasy_easies_self]
    exact tracked
  · rw [setEasy_easies_of_ne world state same]
    exact coherent.tracked other

theorem onEasy_finalState (easy : ObjectId) (operation : EasyM Unit) (world : World) :
    finalState (onEasy easy operation) world =
      world.setEasy easy (finalState operation (world.easies easy)) := by
  unfold finalState onEasy
  cases operation (world.easies easy) with
  | ok value state => rfl
  | error error state => rfl

theorem onEasy_returns_iff {easy : ObjectId} {operation : EasyM Unit} {world after : World} :
    Returns (onEasy easy operation) world () after ↔
      ∃ state, Returns operation (world.easies easy) () state ∧ after = world.setEasy easy state := by
  unfold Returns onEasy
  cases operation (world.easies easy) with
  | ok value state => simp [eq_comm]
  | error error state => simp

theorem keeps_onEasy {net : InetPton} {easy : ObjectId} {operation : EasyM Unit}
    (keeps : ∀ attached, KeepsPolicy net attached operation) :
    Keeps (Coherent net) (onEasy easy operation) := by
  intro world coherent
  rw [onEasy_finalState]
  exact coherent_setEasy coherent (keeps _ _ (coherent.tracked easy))

variable {ruby : RubyLibrary} {net : InetPton}

theorem keeps_safetyConfigSet {config : Option SafetyConfig} :
    Keeps (Coherent net) (safetyConfigSet config) := by
  apply keeps_modify
  intro world coherent
  exact ⟨coherent.attached_iff, coherent.nodup, coherent.tracked⟩

/-- A handle that has left every table. -/
theorem coherent_detached {world after : World} {multi easy : ObjectId}
    (coherent : Coherent net world) (attached : world.attachedTo easy = some multi)
    (detached : after = (((world.setRequests multi ((world.requests multi).erase easy)).setSignature
      multi easy none).setEasy easy (finalState cleanupPolicy (world.easies easy))).setAttached
        easy none) : Coherent net after := by
  have attachedOf (other : ObjectId) (ne : other ≠ easy) :
      after.attachedTo other = world.attachedTo other := by
    rw [detached, setAttached_attachedTo_of_ne _ _ ne]
    rfl
  have unattached : after.attachedTo easy = none := by
    rw [detached, setAttached_attachedTo_self]
  have requestsOf (other : ObjectId) : after.requests other = (world.requests other).erase easy := by
    rw [detached]
    by_cases same : other = multi
    · rw [same]
      exact setRequests_requests_self ..
    · have absent : easy ∉ world.requests other := by
        intro mem
        have elsewhere := (coherent.attached_iff other easy).mpr mem
        rw [attached] at elsewhere
        exact same (Option.some.inj elsewhere).symm
      rw [List.erase_of_not_mem absent]
      exact setRequests_requests_of_ne _ _ same
  refine ⟨?_, ?_, ?_⟩
  · intro owner other
    rw [requestsOf, (coherent.nodup owner).mem_erase_iff]
    by_cases same : other = easy
    · rw [same, unattached]
      simp
    · rw [attachedOf other same, coherent.attached_iff]
      simp [same]
  · intro owner
    rw [requestsOf]
    exact (coherent.nodup owner).erase easy
  · intro other
    by_cases same : other = easy
    · rw [same, unattached, detached]
      have cleaned := keepsPolicy_cleanupPolicy _ (coherent.tracked easy).detached
      exact (setEasy_easies_self ..).symm ▸ cleaned
    · rw [attachedOf other same]
      have state : after.easies other = world.easies other := by
        rw [detached]
        exact setEasy_easies_of_ne _ _ same
      rw [state]
      exact coherent.tracked other

theorem keeps_remove {multi easy : ObjectId} : Keeps (Coherent net) (remove multi easy (.ok ())) := by
  intro world coherent
  show Coherent net (finalState (ite (easy ∈ world.requests multi) _ _) world)
  split
  · rename_i mem
    exact coherent_detached coherent ((coherent.attached_iff multi easy).mpr mem) rfl
  · exact coherent

theorem keeps_completed {multi easy : ObjectId} {reply : Except RubyError Unit} :
    Keeps (Coherent net) (completed multi easy reply) := by
  cases reply with
  | error e => exact keeps_throw
  | ok value =>
    intro world coherent
    show Coherent net (finalState (ite (world.attachedTo easy = some multi) _ _) world)
    split
    · rename_i attached
      exact coherent_detached coherent attached rfl
    · exact coherent

/-! ### Additions -/

theorem nativeAdd_returns {multi easy : ObjectId} {setup : SetupReplies} {reply : Except RubyError Unit}
    {world after : World} (run : Returns (nativeAdd net multi easy setup reply) world () after) :
    world.attachedTo easy = some multi ∨
      world.attachedTo easy = none ∧ ∃ ready, Returns (Easy.setup net setup) (world.easies easy) () ready ∧
        after = (world.setEasy easy ready).setAttached easy (some multi) := by
  obtain ⟨_, _, getRun, run⟩ := bind_returns_iff.mp run
  obtain ⟨rfl, rfl⟩ := returns_get_iff.mp getRun
  split at run
  · rename_i owner attached
    split at run
    · rename_i same
      exact Or.inl (same ▸ attached)
    · exact absurd run returns_throw_iff
  · rename_i unattached
    obtain ⟨_, _, setupRun, run⟩ := bind_returns_iff.mp run
    obtain ⟨ready, isReady, rfl⟩ := onEasy_returns_iff.mp setupRun
    cases reply with
    | ok value =>
      obtain rfl := returns_modify_iff.mp run
      exact Or.inr ⟨unattached, ready, isReady, rfl⟩
    | error e =>
      obtain ⟨_, _, _, run⟩ := bind_returns_iff.mp run
      exact absurd run returns_throw_iff

/-- A handle that is not attached stays tracked when its rules are dropped. -/
theorem coherent_cleanup {world : World} {easy : ObjectId} (coherent : Coherent net world)
    (unattached : world.attachedTo easy = none) :
    Coherent net (finalState (onEasy easy cleanupPolicy) world) := by
  rw [onEasy_finalState]
  apply coherent_setEasy coherent
  have tracked := coherent.tracked easy
  rw [unattached] at tracked ⊢
  exact keepsPolicy_cleanupPolicy _ tracked

theorem nativeAdd_raises {multi easy : ObjectId} {setup : SetupReplies} {reply : Except RubyError Unit}
    {world after : World} {error : RubyError} (coherent : Coherent net world)
    (raises : Raises (nativeAdd net multi easy setup reply) world error after) : Coherent net after := by
  rcases bind_raises_iff.mp raises with early | ⟨_, _, getRun, raises⟩
  · exact absurd early raises_get_iff
  obtain ⟨rfl, rfl⟩ := returns_get_iff.mp getRun
  split at raises
  · split at raises
    · exact absurd raises raises_pure_iff
    · obtain ⟨_, rfl⟩ := raises_throw_iff.mp raises
      exact coherent
  · rename_i unattached
    have keeps : Keeps (Coherent net) (onEasy easy (Easy.setup net setup)) :=
      keeps_onEasy fun _ => keepsPolicy_setup
    rcases bind_raises_iff.mp raises with early | ⟨_, _, setupRun, raises⟩
    · exact keeps.of_raises early coherent
    have set := keeps.of_returns setupRun coherent
    obtain ⟨ready, _, rfl⟩ := onEasy_returns_iff.mp setupRun
    cases reply with
    | ok value => exact absurd raises raises_modify_iff
    | error e =>
      have cleaned := coherent_cleanup set unattached
      rcases bind_raises_iff.mp raises with cleaning | ⟨_, _, cleanRun, raises⟩
      · rwa [cleaning.finalState_eq] at cleaned
      · obtain ⟨_, rfl⟩ := raises_throw_iff.mp raises
        rwa [cleanRun.finalState_eq] at cleaned

/-- A handle that has been set up and has entered the tables of a multi. -/
theorem coherent_added {world after : World} {multi easy : ObjectId} {setup : SetupReplies} {ready : Easy}
    {signature : Option SafetySignature} (coherent : Coherent net world)
    (unattached : world.attachedTo easy = none)
    (run : Returns (Easy.setup net setup) (world.easies easy) () ready)
    (added : after = (((world.setEasy easy ready).setAttached easy (some multi)).setRequests multi
      (world.requests multi ++ [easy])).setSignature multi easy signature) : Coherent net after := by
  have attachedSelf : after.attachedTo easy = some multi := by
    rw [added]
    exact setAttached_attachedTo_self ..
  have attachedOf (other : ObjectId) (ne : other ≠ easy) :
      after.attachedTo other = world.attachedTo other := by
    rw [added]
    exact setAttached_attachedTo_of_ne _ _ ne
  have absent (owner : ObjectId) : easy ∉ world.requests owner := by
    intro mem
    have attached := (coherent.attached_iff owner easy).mpr mem
    rw [unattached] at attached
    cases attached
  have requestsSelf : after.requests multi = world.requests multi ++ [easy] := by
    rw [added]
    exact setRequests_requests_self ..
  have requestsOf (owner : ObjectId) (ne : owner ≠ multi) :
      after.requests owner = world.requests owner := by
    rw [added]
    exact setRequests_requests_of_ne _ _ ne
  refine ⟨?_, ?_, ?_⟩
  · intro owner other
    by_cases same : other = easy
    · rw [same, attachedSelf]
      by_cases isMulti : owner = multi
      · rw [isMulti, requestsSelf]
        simp
      · rw [requestsOf owner isMulti]
        simp [absent owner, Ne.symm isMulti]
    · rw [attachedOf other same, coherent.attached_iff]
      by_cases isMulti : owner = multi
      · rw [isMulti, requestsSelf]
        simp [same]
      · rw [requestsOf owner isMulti]
  · intro owner
    by_cases isMulti : owner = multi
    · rw [isMulti, requestsSelf]
      have apart := List.disjoint_singleton.mpr (absent multi)
      exact List.Nodup.append (coherent.nodup multi) (List.nodup_singleton easy) apart
    · rw [requestsOf owner isMulti]
      exact coherent.nodup owner
  · intro other
    by_cases same : other = easy
    · have state : after.easies easy = ready := by
        rw [added]
        exact setEasy_easies_self ..
      rw [same, attachedSelf, state]
      exact setup_tracked (coherent.tracked easy) run
    · have state : after.easies other = world.easies other := by
        rw [added]
        exact setEasy_easies_of_ne _ _ same
      rw [attachedOf other same, state]
      exact coherent.tracked other

theorem keeps_add {multi easy : ObjectId} {setup : SetupReplies} {reply : Except RubyError Unit} :
    Keeps (Coherent net) (add ruby net multi easy setup reply) := by
  rw [keeps_iff]
  intro world coherent
  show (∀ _ after, Returns (ite (easy ∈ world.requests multi) _ _) world _ after → _) ∧
    ∀ _ after, Raises (ite (easy ∈ world.requests multi) _ _) world _ after → _
  split
  · refine ⟨?_, ?_⟩
    · intro _ after run
      rw [← (returns_pure_iff.mp run).2]
      exact coherent
    · intro _ after raises
      exact absurd raises raises_pure_iff
  rename_i absent
  have apply := @keeps_onEasy net easy _ fun attached =>
    @keepsPolicy_applySafety ruby net attached world.safetyConfig
  refine ⟨?_, ?_⟩
  · intro _ after run
    obtain ⟨_, applied, applyRun, run⟩ := bind_returns_iff.mp run
    have stillCoherent := apply.of_returns applyRun coherent
    obtain ⟨state, _, rfl⟩ := onEasy_returns_iff.mp applyRun
    obtain ⟨_, attached, addRun, run⟩ := bind_returns_iff.mp run
    obtain ⟨_, _, requestsRun, run⟩ := bind_returns_iff.mp run
    obtain rfl := returns_modify_iff.mp requestsRun
    obtain rfl := returns_modify_iff.mp run
    rcases nativeAdd_returns addRun with already | ⟨unattached, ready, isReady, rfl⟩
    · exact absurd ((stillCoherent.attached_iff multi easy).mp already) absent
    · exact coherent_added stillCoherent unattached isReady rfl
  · intro _ after raises
    rcases bind_raises_iff.mp raises with early | ⟨_, applied, applyRun, raises⟩
    · exact (keeps_iff.mp apply world coherent).2 _ _ early
    · have stillCoherent := apply.of_returns applyRun coherent
      rcases bind_raises_iff.mp raises with refused | ⟨_, _, _, raises⟩
      · exact nativeAdd_raises stillCoherent refused
      · rcases bind_raises_iff.mp raises with never | ⟨_, _, _, never⟩
        · exact absurd never raises_modify_iff
        · exact absurd never raises_modify_iff

/-! ### Performing -/

theorem performEach_returns {multi easy : ObjectId} {setups : ObjectId → SetupReplies} {world after : World}
    (run : Returns (performEach ruby net multi setups easy) world () after) :
    ∃ applied, Returns (applySafety ruby net world.safetyConfig) (world.easies easy) () applied ∧
      ((world.safetySignatures multi easy = some (world.safetySignatureFor applied) ∧
          after = world.setEasy easy applied) ∨
        world.safetySignatures multi easy ≠ some (world.safetySignatureFor applied) ∧
          ∃ ready, Returns (Easy.setup net (setups easy)) applied () ready ∧
            after = ((world.setEasy easy applied).setEasy easy ready).setSignature multi easy
              (some (world.safetySignatureFor applied))) := by
  obtain ⟨_, _, getRun, run⟩ := bind_returns_iff.mp run
  obtain ⟨rfl, rfl⟩ := returns_get_iff.mp getRun
  obtain ⟨_, _, applyRun, run⟩ := bind_returns_iff.mp run
  obtain ⟨applied, isApplied, rfl⟩ := onEasy_returns_iff.mp applyRun
  obtain ⟨_, _, getRun, run⟩ := bind_returns_iff.mp run
  obtain ⟨rfl, rfl⟩ := returns_get_iff.mp getRun
  refine ⟨applied, isApplied, ?_⟩
  dsimp only at run
  rw [setEasy_easies_self] at run
  split at run
  · rename_i changed
    obtain ⟨_, _, setupRun, run⟩ := bind_returns_iff.mp run
    obtain ⟨ready, isReady, rfl⟩ := onEasy_returns_iff.mp setupRun
    rw [setEasy_easies_self] at isReady
    obtain rfl := returns_modify_iff.mp run
    exact Or.inr ⟨changed, ready, isReady, rfl⟩
  · rename_i unchanged
    obtain ⟨_, rfl⟩ := returns_pure_iff.mp run
    exact Or.inl ⟨not_not.mp unchanged, rfl⟩

/-- `Multi#perform` may set a handle up again and record its signature; who holds it stays. -/
theorem keeps_performEach {multi easy : ObjectId} {setups : ObjectId → SetupReplies} :
    Keeps (Coherent net) (performEach ruby net multi setups easy) := by
  refine keeps_bind keeps_get fun world => ?_
  refine keeps_bind (keeps_onEasy fun _ => keepsPolicy_applySafety) fun _ => ?_
  refine keeps_bind keeps_get fun applied => ?_
  dsimp only
  split
  · refine keeps_bind (keeps_onEasy fun _ => keepsPolicy_setup) fun _ => keeps_modify ?_
    intro world coherent
    exact ⟨coherent.attached_iff, coherent.nodup, coherent.tracked⟩
  · exact keeps_pure

theorem keeps_perform {multi : ObjectId} {setups : ObjectId → SetupReplies} :
    Keeps (Coherent net) (perform ruby net multi setups) :=
  keeps_bind keeps_get fun _ => keeps_forM fun _ _ => keeps_performEach

theorem keeps_execute {operation : Operation} (accepted : operation.RemovalAccepted) :
    Keeps (Coherent net) (execute ruby net operation) := by
  cases operation with
  | safe config => exact keeps_safetyConfigSet
  | clearSafe => exact keeps_safetyConfigSet
  | safeHttp easy =>
    exact keeps_bind keeps_get fun world => keeps_onEasy fun _ => keepsPolicy_safeHttp
  | attributesSet easy attributes =>
    exact @keeps_onEasy net easy (Easy.attributesSet attributes) fun _ =>
      keepsPolicy_modify fun _ => rfl
  | networkPolicySet easy policy => exact keeps_onEasy fun _ => keepsPolicy_networkPolicySet
  | allowedHostsSet easy hosts => exact keeps_onEasy fun _ => keepsPolicy_allowedHostsSet
  | allowedCidrsSet easy cidrs => exact keeps_onEasy fun _ => keepsPolicy_allowedCidrsSet
  | setUnixSocketPath easy path => exact keeps_onEasy fun _ => keepsPolicy_setUnixSocketPath
  | setDnsServers easy servers accepted => exact keeps_onEasy fun _ => keepsPolicy_setDnsServers
  | add multi easy setup reply => exact keeps_add
  | remove multi easy reply =>
    obtain rfl : reply = .ok () := accepted
    exact keeps_remove
  | completed multi easy reply => exact keeps_completed
  | perform multi setups => exact keeps_perform

/-- Every world reached is coherent. -/
theorem coherent_run {operations : List Operation}
    (accepted : ∀ operation ∈ operations, operation.RemovalAccepted) {world : World}
    (coherent : Coherent net world) : Coherent net (run ruby net operations world) := by
  induction operations generalizing world with
  | nil => exact coherent
  | cons operation operations ih =>
    have head := @keeps_execute ruby net _ (accepted operation List.mem_cons_self) world coherent
    exact ih (fun later mem => accepted later (List.mem_cons_of_mem operation mem)) head

/-! ## The native loop -/

/-- `Multi#perform` sets the handle up again. -/
def SetupAgain (net : InetPton) (world : World) (multi easy : ObjectId) : Prop :=
  world.safetySignatures multi easy ≠
    some (signatureUnder net world.safetyConfig world.safetyGeneration (world.easies easy))

theorem safetySignatureFor_applied {world : World} {easy : ObjectId} {applied : Easy}
    (policied : PolicyApplied net world.safetyConfig (world.easies easy) applied) :
    world.safetySignatureFor applied =
      signatureUnder net world.safetyConfig world.safetyGeneration (world.easies easy) := by
  rw [safetySignatureFor, signatureUnder, policied.policy, policied.hosts, policied.cidrs,
    policied.override.2, safetyActiveFor, safetyActiveFor, policied.override.1]

theorem performEach_neverStale_iff {multi easy : ObjectId} {setups : ObjectId → SetupReplies}
    {world after : World} (coherent : Coherent net world) (attached : world.attachedTo easy = some multi)
    (run : Returns (performEach ruby net multi setups easy) world () after) :
    NeverStale net world.safetyConfig (after.easies easy) ↔
      PolicyKept net world.safetyConfig (SetupAgain net world multi easy) (world.easies easy) := by
  obtain ⟨applied, isApplied, outcome⟩ := performEach_returns run
  have policied := applySafety_policy isApplied
  have isSignature := safetySignatureFor_applied policied
  have tracked := keepsPolicy_applySafety.of_returns isApplied (coherent.tracked easy)
  rcases outcome with ⟨unchanged, rfl⟩ | ⟨changed, ready, isReady, rfl⟩
  · have once : SetupAgain net world multi easy ↔ False := by
      rw [iff_false, SetupAgain, not_not, ← isSignature]
      exact unchanged
    rw [attached] at tracked
    rw [setEasy_easies_self, propext once]
    exact neverStale_unchanged_iff tracked policied
  · have again : SetupAgain net world multi easy ↔ True := by
      rw [iff_true, SetupAgain, ← isSignature]
      exact changed
    have state : (setSignature ((world.setEasy easy applied).setEasy easy ready) multi easy
        (some (world.safetySignatureFor applied))).easies easy = ready :=
      setEasy_easies_self ..
    rw [state, propext again]
    exact neverStale_setup_iff tracked policied isReady

/-- What `performEach` leaves of the rest of the world. -/
theorem performEach_frame {multi easy : ObjectId} {setups : ObjectId → SetupReplies} {world after : World}
    (run : Returns (performEach ruby net multi setups easy) world () after) :
    after.safetyConfig = world.safetyConfig ∧ after.safetyGeneration = world.safetyGeneration ∧
      after.attachedTo = world.attachedTo ∧
      ∀ other, other ≠ easy → after.easies other = world.easies other ∧
        after.safetySignatures multi other = world.safetySignatures multi other := by
  obtain ⟨applied, _, ⟨_, rfl⟩ | ⟨_, ready, _, rfl⟩⟩ := performEach_returns run
  · refine ⟨rfl, rfl, rfl, ?_⟩
    intro other ne
    exact ⟨setEasy_easies_of_ne _ _ ne, rfl⟩
  · refine ⟨rfl, rfl, rfl, ?_⟩
    intro other ne
    refine ⟨?_, setSignature_of_ne _ _ _ _ ne⟩
    exact (setEasy_easies_of_ne _ _ ne).trans (setEasy_easies_of_ne _ _ ne)

/-- The requests one after the other: each handle is checked once, against the world it was in
at the start. -/
theorem performAll_neverStale_iff {multi : ObjectId} {setups : ObjectId → SetupReplies}
    {list : List ObjectId} {world after : World} (nodup : list.Nodup) (coherent : Coherent net world)
    (attached : ∀ easy ∈ list, world.attachedTo easy = some multi)
    (run : Returns (list.forM (performEach ruby net multi setups)) world () after) :
    after.safetyConfig = world.safetyConfig ∧ after.attachedTo = world.attachedTo ∧
      (∀ easy ∉ list, after.easies easy = world.easies easy) ∧
      ∀ easy ∈ list, NeverStale net world.safetyConfig (after.easies easy) ↔
        PolicyKept net world.safetyConfig (SetupAgain net world multi easy) (world.easies easy) := by
  induction list generalizing world with
  | nil =>
    obtain ⟨_, rfl⟩ := returns_pure_iff.mp run
    exact ⟨rfl, rfl, fun _ _ => rfl, nofun⟩
  | cons head tail ih =>
    obtain ⟨_, middle, headRun, tailRun⟩ := bind_returns_iff.mp run
    obtain ⟨notMem, nodup⟩ := List.nodup_cons.mp nodup
    have headAttached := attached head List.mem_cons_self
    obtain ⟨config, generation, table, others⟩ := performEach_frame headRun
    have stillCoherent := keeps_performEach.of_returns headRun coherent
    have tailAttached : ∀ easy ∈ tail, middle.attachedTo easy = some multi := by
      intro easy mem
      rw [table]
      exact attached easy (List.mem_cons_of_mem head mem)
    obtain ⟨config', table', untouched, checked⟩ := ih nodup stillCoherent tailAttached tailRun
    have headKept := untouched head notMem
    refine ⟨config'.trans config, table'.trans table, ?_, ?_⟩
    · intro easy absent
      obtain ⟨ne, absentTail⟩ := List.ne_and_not_mem_of_not_mem_cons absent
      exact (untouched easy absentTail).trans (others easy ne).1
    · intro easy mem
      by_cases same : easy = head
      · rw [same, headKept]
        exact performEach_neverStale_iff coherent headAttached headRun
      · have inTail := List.mem_of_ne_of_mem same mem
        obtain ⟨state, signature⟩ := others easy same
        have verdict := checked easy inTail
        rw [SetupAgain, state, signature, config, generation] at verdict
        exact verdict

/-- Whenever `Multi#perform` enters the native loop, the native policy of the attached handles is
the one their attributes describe exactly when no handle's history since the setup its signature
was recorded for, setups that have raised included, has gone past the signature. -/
theorem perform_neverStale_iff (ruby : RubyLibrary) (net : InetPton) {operations : List Operation}
    (accepted : ∀ operation ∈ operations, operation.RemovalAccepted) {multi : ObjectId}
    {setups : ObjectId → SetupReplies} {after : World}
    (entered : Returns (perform ruby net multi setups) (run ruby net operations fresh) () after) :
    (∀ easy, after.attachedTo easy = some multi →
        NeverStale net after.safetyConfig (after.easies easy)) ↔
      ∀ easy, (run ruby net operations fresh).attachedTo easy = some multi →
        PolicyKept net (run ruby net operations fresh).safetyConfig
          (SetupAgain net (run ruby net operations fresh) multi easy)
          ((run ruby net operations fresh).easies easy) := by
  have coherent := @coherent_run ruby net _ accepted _ (coherent_fresh net)
  have attached (easy : ObjectId) := coherent.attached_iff multi easy
  obtain ⟨_, _, getRun, entered⟩ := bind_returns_iff.mp entered
  obtain ⟨rfl, rfl⟩ := returns_get_iff.mp getRun
  obtain ⟨config, table, _, checked⟩ := performAll_neverStale_iff (coherent.nodup multi) coherent
    (fun easy mem => (attached easy).mpr mem) entered
  rw [config, table]
  refine forall_congr' fun easy => forall_congr' fun isAttached => ?_
  exact checked easy ((attached easy).mp isAttached)

/-- No `uri` and `ipaddr` library is asked in a run without a configuration. -/
def noRubyLibrary : RubyLibrary := ⟨fun _ => .ok none, fun _ => none, fun _ => true, fun _ _ => rfl⟩

/-- A `:public` handle is added to a multi, and something is done with it. -/
def publicAddedThen (operation : Operation) : List Operation :=
  [.attributesSet 1 ⟨some "http://example.com/".toList, none, none, none, none, none, false, none⟩,
    .networkPolicySet 1 (.symbol "public".toList), .add 0 1 .accepted (.ok ()), operation]

/-- `easy.allowed_cidrs = ["1.1.1.0/24"]`. -/
def cidrs : Operation := .allowedCidrsSet 1 (.array ["1.1.1.0/24".toList])

/-- `easy.set(Curl::CURLOPT_DNS_SERVERS, "203.0.113.53")`. -/
def servers : Operation := .setDnsServers 1 (some "203.0.113.53".toList) true

/-- The world a run without a configuration leaves. -/
abbrev ran (operations : List Operation) : World :=
  run noRubyLibrary oneNetInetPton operations fresh

/-- `Multi#perform`, with setups that raise nothing. -/
abbrev performs : WorldM Unit := perform noRubyLibrary oneNetInetPton 0 fun _ => .accepted

/-- The world in which the multi then enters the native loop. -/
abbrev entered (operations : List Operation) : World := finalState performs (ran operations)

/-- A setup under `:none` that raises behind the policy takes the callback away and leaves the signature;
under `:public` again, the next `perform` sees no difference. -/
example :
    let raising : Easy.SetupReplies := { Easy.SetupReplies.accepted with
      rest := rbRaise .runtimeError "to_s".toList }
    let world := entered (publicAddedThen (.networkPolicySet 1 (.symbol "none".toList)) ++
      [.perform 0 fun _ => raising, .networkPolicySet 1 (.symbol "public".toList)])
    world.attachedTo 1 = some 0 ∧ (world.easies 1).networkPolicy = .policyPublic ∧
      (world.easies 1).native.opensocketFunction = false := by decide +kernel

/-- A list of CIDRs set on the attached handle is followed: under `:public` its rules are prepared
at once. -/
theorem perform_neverStale_iff_allowedCidrs :
    (entered (publicAddedThen cidrs)).attachedTo 1 = some 0 ∧
      ∀ easy, (entered (publicAddedThen cidrs)).attachedTo easy = some 0 →
        NeverStale oneNetInetPton (entered (publicAddedThen cidrs)).safetyConfig
          ((entered (publicAddedThen cidrs)).easies easy) := by
  have accepted : ∀ operation ∈ publicAddedThen cidrs, operation.RemovalAccepted := by
    simp [publicAddedThen, cidrs, Operation.RemovalAccepted]
  have enters : succeeds performs (ran (publicAddedThen cidrs)) =
      true := by decide +kernel
  have attached : (entered (publicAddedThen cidrs)).attachedTo 1 = some 0 := by decide +kernel
  have requests : (ran (publicAddedThen cidrs)).requests 0 = [1] := by decide +kernel
  have followed : cidrRulesDropped (callsUnder (ran (publicAddedThen cidrs)).safetyConfig
      ((ran (publicAddedThen cidrs)).easies 1)) = false := by decide +kernel
  have callback : opensocketSince ((ran (publicAddedThen cidrs)).easies 1).policyCalls = true := by
    decide +kernel
  have noHosts : (hostsUnder (ran (publicAddedThen cidrs)).safetyConfig
      ((ran (publicAddedThen cidrs)).easies 1)).getD [] = [] := by decide +kernel
  have noServers : dnsServersSince ((ran (publicAddedThen cidrs)).easies 1).policyCalls = none := by
    decide +kernel
  have noPath : unixSocketPathSince ((ran (publicAddedThen cidrs)).easies 1).policyCalls = none := by
    decide +kernel
  have coherent := @coherent_run noRubyLibrary oneNetInetPton _ accepted _
    (coherent_fresh oneNetInetPton)
  have returned : Returns performs (ran (publicAddedThen cidrs)) ()
      (entered (publicAddedThen cidrs)) := returns_finalState enters
  have exactly_when := perform_neverStale_iff noRubyLibrary oneNetInetPton accepted returned
  refine ⟨attached, exactly_when.mpr ?_⟩
  intro easy isAttached
  have mem := (coherent.attached_iff 0 easy).mp isAttached
  rw [requests, List.mem_singleton] at mem
  rw [mem]
  refine ⟨fun _ => ?_, fun listed => absurd noHosts listed⟩
  exact ⟨Or.inr callback, Or.inr (Or.inr followed), Or.inr noServers, Or.inr (Or.inl noPath)⟩

/-- DNS servers set on the attached handle reach libcurl and stay there: nothing in the
signature tells the next `perform`. -/
theorem perform_stale_dnsServers : ¬∀ (operations : List Operation) (multi : ObjectId)
      (setups : ObjectId → SetupReplies) (after : World),
    Returns (perform noRubyLibrary oneNetInetPton multi setups)
      (run noRubyLibrary oneNetInetPton operations fresh) () after →
    ∀ easy, after.attachedTo easy = some multi →
      NeverStale oneNetInetPton after.safetyConfig (after.easies easy) := by
  intro neverStale
  have enters : succeeds performs (ran (publicAddedThen servers)) =
      true := by decide +kernel
  have attached : (entered (publicAddedThen servers)).attachedTo 1 = some 0 := by decide +kernel
  have isPublic : ((entered (publicAddedThen servers)).easies 1).networkPolicy = .policyPublic := by
    decide +kernel
  have given : ((entered (publicAddedThen servers)).easies 1).native.dnsServers ≠ none := by
    decide +kernel
  have held := neverStale (publicAddedThen servers) 0 _ _ (returns_finalState enters) 1 attached
  exact given (held.dnsServers isPublic)

end World
end Curb

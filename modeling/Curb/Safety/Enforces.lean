import Curb.Easy.OpenSocket
import Curb.Safety.Applied

/-!
# `apply_safety!` enforces the configuration

Whatever the handle was before, once `apply_safety!` has returned, every restriction of the
configuration and of the handle's override holds of it.
-/

namespace Curb
open Curb.Misc Curb.Ruby Curb.Net

namespace Easy

/-- The lists that restrict the protocols. -/
def restrictingProtocols (config : Option SafetyConfig) (override : Option SafetyOverride) :
    List (List ProtocolName) :=
  (config.map (·.protocols)).toList ++ (override.bind (·.protocols)).toList

/-- The lists that restrict the protocols of redirects: each a redirect list, or the protocol
list where there is none. -/
def restrictingRedirects (config : Option SafetyConfig) (override : Option SafetyOverride) :
    List (List ProtocolName) :=
  (config.map fun config => config.redirectProtocols.getD config.protocols).toList ++
    (override.bind fun override => override.redirectProtocols.or override.protocols).toList

/-- The limits of the body. -/
def bodyLimits (config : Option SafetyConfig) (override : Option SafetyOverride) : List Nat :=
  (config.bind (·.maxBodyBytes)).toList ++ (override.bind (·.maxBodyBytes)).toList

/-- Every restriction of the configuration and of the override holds of the handle. -/
structure SafetyEnforced (ruby : RubyLibrary) (net : InetPton) (config : Option SafetyConfig)
    (before after : Easy) : Prop where
  protocols : restrictingProtocols config before.safetyOverride ≠ [] →
    ∃ allowed, after.native.protocols = some allowed ∧ allowed ≠ [] ∧
      ∀ list ∈ restrictingProtocols config before.safetyOverride, allowed ⊆ list
  redirects : restrictingRedirects config before.safetyOverride ≠ [] →
    ∃ allowed, after.native.redirProtocols = some allowed ∧ allowed ≠ [] ∧
      ∀ list ∈ restrictingRedirects config before.safetyOverride, allowed ⊆ list
  body : bodyLimits config before.safetyOverride ≠ [] →
    ∃ limit, after.maxBodyBytes = some limit ∧
      (∀ bound ∈ bodyLimits config before.safetyOverride, limit ≤ bound) ∧
      ∀ previous ∈ before.maxBodyBytes, limit ≤ previous
  policy : ∀ given policy, config = some given → given.networkPolicy = some policy →
    after.networkPolicy = policy
  controls : ∀ given, config = some given → given.networkPolicy = some .policyPublic →
    PublicControls ruby given after
  hosts : ∀ given hosts, config = some given → given.allowedHosts = some hosts →
    (∃ host, urlHost ruby after.url = .ok host ∧ host ∈ hosts) ∧
      curbNormalizeHostList (.array hosts) = .ok after.allowedHosts
  cidrs : ∀ given cidrs, config = some given → given.allowedCidrs = some cidrs →
    given.networkPolicy = some .policyPublic ∧
      curbNormalizeCidrList net (.array cidrs) = .ok after.allowedCidrs

/-- A list merged from a base and an override is within both. -/
theorem narrowedBy_subset {base overrideProtocols : Option (List ProtocolName)}
    {list : List ProtocolName} (ok : narrowedBy base overrideProtocols = .ok (some list)) :
    ∀ names ∈ base.toList ++ overrideProtocols.toList, list ⊆ names := by
  obtain ⟨merged_none, merged_some⟩ := narrowedBy_ok ok
  intro names mem name inside
  rcases (merged_some list rfl name).mp inside with ⟨inOverride, inBase⟩ | absent
  · rcases List.mem_append.mp mem with ofBase | ofOverride
    · exact inBase names (Option.mem_toList.mp ofBase)
    · exact inOverride names (Option.mem_toList.mp ofOverride)
  · cases merged_none.mpr absent

theorem narrowedBy_exists {base overrideProtocols merged : Option (List ProtocolName)}
    (ok : narrowedBy base overrideProtocols = .ok merged)
    (restricted : base.toList ++ overrideProtocols.toList ≠ []) : ∃ list, merged = some list := by
  cases merged with
  | some list => exact ⟨list, rfl⟩
  | none =>
    obtain ⟨noBase, noOverride⟩ := (narrowedBy_ok ok).1.mp rfl
    rw [noBase, noOverride] at restricted
    exact absurd rfl restricted

/-- A handle whose redirects are restricted has its protocols restricted too. -/
theorem restrictingProtocols_ne {config : Option SafetyConfig} {override : Option SafetyOverride}
    (restricted : restrictingRedirects config override ≠ []) :
    restrictingProtocols config override ≠ [] := by
  cases config with
  | some given => simp [restrictingProtocols]
  | none =>
    cases override with
    | none => exact absurd rfl restricted
    | some override =>
      cases isProtocols : override.protocols with
      | some list => simp [restrictingProtocols, isProtocols]
      | none =>
        have noRedirects : override.redirectProtocols = none := by
          rw [Option.eq_none_iff_forall_ne_some]
          intro list isRedirects
          have given := override.redirects_with_protocols (by rw [isRedirects]; rfl)
          rw [isProtocols] at given
          cases given
        simp [restrictingRedirects, isProtocols, noRedirects] at restricted

theorem configLimit_pos (config : Option SafetyConfig) :
    ∀ limit ∈ config.bind (·.maxBodyBytes), 0 < limit := by
  intro limit mem
  obtain ⟨given, _, isLimit⟩ := Option.bind_eq_some_iff.mp mem
  exact given.limit_pos limit isLimit

theorem overrideLimit_pos (override : Option SafetyOverride) :
    ∀ limit ∈ override.bind (·.maxBodyBytes), 0 < limit := by
  intro limit mem
  obtain ⟨given, _, isLimit⟩ := Option.bind_eq_some_iff.mp mem
  exact given.limit_pos limit isLimit

/-- The two tightenings of `apply_safety!`, one after the other. -/
theorem tightened_tightened {first second : Option Nat} (first_pos : ∀ limit ∈ first, 0 < limit)
    (second_pos : ∀ limit ∈ second, 0 < limit) (current : Option Nat) :
    ∀ bound ∈ first.toList ++ second.toList ++ current.toList,
      ∃ limit, tightened second (tightened first current) = some limit ∧ limit ≤ bound := by
  have outer := fun inner => @tightened_le second inner second_pos
  have inner := @tightened_le first current first_pos
  intro bound mem
  rcases List.mem_append.mp mem with ofLimits | ofCurrent
  · rcases List.mem_append.mp ofLimits with ofFirst | ofSecond
    · obtain ⟨middle, isMiddle, below⟩ := inner.1 bound (Option.mem_toList.mp ofFirst)
      obtain ⟨limit, isLimit, under⟩ := (outer _).2 middle isMiddle
      exact ⟨limit, isLimit, le_trans under below⟩
    · exact (outer _).1 bound (Option.mem_toList.mp ofSecond)
  · obtain ⟨middle, isMiddle, below⟩ := inner.2 bound (Option.mem_toList.mp ofCurrent)
    obtain ⟨limit, isLimit, under⟩ := (outer _).2 middle isMiddle
    exact ⟨limit, isLimit, le_trans under below⟩

theorem applySafety_enforces {ruby : RubyLibrary} {net : InetPton} {config : Option SafetyConfig}
    {before after : Easy} (run : Returns (applySafety ruby net config) before () after) :
    SafetyEnforced ruby net config before after := by
  have applied := applySafety_applied run
  obtain ⟨protocols, redirects, isProtocols, isRedirects, nonempty, native⟩ := applied.lists
  refine ⟨?_, ?_, ?_, ?_, applied.controls, ?_, ?_⟩
  · intro restricted
    obtain ⟨list, rfl⟩ := narrowedBy_exists isProtocols restricted
    refine ⟨list, ?_, (nonempty list rfl).1, narrowedBy_subset isProtocols⟩
    rw [native, withLists]
  · intro restricted
    obtain ⟨list, rfl⟩ := narrowedBy_exists isProtocols (restrictingProtocols_ne restricted)
    obtain ⟨redirectList, rfl⟩ := narrowedBy_exists isRedirects restricted
    refine ⟨redirectList, ?_, (nonempty list rfl).2, narrowedBy_subset isRedirects⟩
    rw [native, withLists]
    rfl
  · intro restricted
    have bounded := tightened_tightened (configLimit_pos config)
      (overrideLimit_pos before.safetyOverride) before.maxBodyBytes
    rw [← applied.limit] at bounded
    obtain ⟨bound, mem⟩ := List.exists_mem_of_ne_nil _ restricted
    obtain ⟨limit, isLimit, _⟩ := bounded bound (List.mem_append_left _ mem)
    refine ⟨limit, isLimit, ?_, ?_⟩
    · intro other mem
      obtain ⟨limit', isLimit', below⟩ := bounded other (List.mem_append_left _ mem)
      rw [isLimit] at isLimit'
      exact Option.some.inj isLimit' ▸ below
    · intro previous isPrevious
      obtain ⟨limit', isLimit', below⟩ :=
        bounded previous (List.mem_append_right _ (Option.mem_toList.mpr isPrevious))
      rw [isLimit] at isLimit'
      exact Option.some.inj isLimit' ▸ below
  · rintro given policy rfl isPolicy
    have policied := applied.policy
    rw [Option.bind_some, isPolicy] at policied
    exact policied
  · rintro given hosts rfl isHosts
    have listed := applied.hosts
    rw [Option.bind_some, isHosts] at listed
    exact listed
  · rintro given cidrs rfl isCidrs
    have listed := applied.cidrs
    rw [Option.bind_some, isCidrs] at listed
    exact listed

/-- `Curl.safe! { |config| config.network_policy = :public; config.max_body_bytes = 100 }`. -/
def publicConfig : SafetyConfig :=
  { SafetyConfig.new with
    networkPolicy := some .policyPublic
    maxBodyBytes := some 100
    limit_pos := by rintro _ ⟨⟩; decide }

/-- A handle with a wider limit of its own comes out with the one of the configuration. -/
theorem applySafety_enforces_publicConfig :
    let ruby : RubyLibrary := ⟨fun _ => .ok none, fun _ => none, fun _ => true, fun _ _ => rfl⟩
    let before := { Easy.new (some "http://example.com/".toList) with maxBodyBytes := some 500 }
    ∃ after, SafetyEnforced ruby oneNetInetPton (some publicConfig) before after ∧
      after.maxBodyBytes = some 100 ∧ after.networkPolicy = .policyPublic :=
  ⟨_, applySafety_enforces (show Returns (applySafety _ oneNetInetPton _) _ () _ from rfl), rfl, rfl⟩

end Easy
end Curb

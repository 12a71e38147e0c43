import Curb.Multi.BackReferences
import Curb.Multi.EasyPerform

/-!
# A closed multi that no handle points to

`Multi#close` takes off the handles of its requests one by one, then it clears the references to idle
handles, and the native close detaches what is left. In runs whose operations keep the back references,
no handle points to the multi after that.
-/

namespace Curb.Attachment
open Curb.Misc Curb.Ruby

variable {system after : System} {multi easy : ObjectId} {left : List ObjectId}

/-- The guard of the native close lets it through (`curb_multi.c:2308-2310`). -/
def Multi.closable (state : Multi) : Bool :=
  !((state.performActive || state.callbackActive) && !state.allowCloseDuringPerform)

/-- Handles that point to the multi have left it, and all others point where they did. -/
structure Freed (multi : ObjectId) (before after : System) : Prop where
  pointing : ∀ easy, (after.easies easy).multi = (before.easies easy).multi ∨
    (before.easies easy).multi = some multi ∧ (after.easies easy).multi = none
  closable : (after.multis multi).closable = (before.multis multi).closable

theorem Freed.refl (multi : ObjectId) (system : System) : Freed multi system system :=
  ⟨fun _ => Or.inl rfl, rfl⟩

theorem Freed.trans {before middle : System} (first : Freed multi before middle)
    (second : Freed multi middle after) : Freed multi before after := by
  refine ⟨fun easy => ?_, second.closable.trans first.closable⟩
  rcases second.pointing easy with same | ⟨pointed, gone⟩
  · rw [same]
    exact first.pointing easy
  · rcases first.pointing easy with same' | ⟨_, gone'⟩
    · exact Or.inr ⟨same' ▸ pointed, gone⟩
    · cases gone'.symm.trans pointed

theorem Freed.elsewhere (freed : Freed multi system after) (elsewhere : (system.easies easy).multi ≠ some multi) :
    (after.easies easy).multi ≠ some multi := by
  rcases freed.pointing easy with same | ⟨pointed, -⟩
  · rw [same]
    exact elsewhere
  · exact absurd pointed elsewhere

/-- None of the handles points to the multi. -/
def Gone (multi : ObjectId) (easies : List ObjectId) (system : System) : Prop :=
  ∀ easy ∈ easies, (system.easies easy).multi ≠ some multi

theorem gone_cons {easies : List ObjectId} (first : (system.easies easy).multi ≠ some multi)
    (freed : Freed multi system after) (rest : Gone multi easies after) :
    Gone multi (easy :: easies) after := by
  intro other mem
  rcases List.mem_cons.mp mem with same | inside
  · rw [same]
    exact freed.elsewhere first
  · exact rest other inside

/-- A handle that points to the multi is let go. -/
theorem freed_setEasy {record : Easy} {state : Multi} (points : (system.easies easy).multi = some multi)
    (gone : record.multi = none) (closable : state.closable = (system.multis multi).closable) :
    Freed multi system ((system.setMulti multi state).setEasy easy record) := by
  refine ⟨fun other => ?_, ?_⟩
  · by_cases same : other = easy
    · rw [same, System.setEasy_self]
      exact Or.inr ⟨points, gone⟩
    · rw [System.setEasy_of_ne _ _ same]
      exact Or.inl rfl
  · rw [System.setEasy_multis, System.setMulti_self]
    exact closable

/-- The tables of the multi change. -/
theorem Freed.setMulti {state : Multi} (freed : Freed multi system after)
    (closable : state.closable = (after.multis multi).closable) :
    Freed multi system (after.setMulti multi state) := by
  refine ⟨freed.pointing, ?_⟩
  rw [System.setMulti_self]
  exact closable.trans freed.closable

/-! ## Taking off the requests -/

/-- The handles of `left` are still to be taken off, and a request beside them is for a handle that
points nowhere. -/
structure TakingOff (multi : ObjectId) (left : List ObjectId) (system : System) : Prop where
  references : References (system.setMulti multi { system.multis multi with requests := left })
  taken : ∀ easy ∈ (system.multis multi).requests, easy ∉ left → (system.easies easy).multi = none

theorem References.takingOff (references : References system) (multi : ObjectId) :
    TakingOff multi (system.multis multi).requests system := by
  refine ⟨?_, fun easy mem gone => absurd mem gone⟩
  rw [System.setMulti_same]
  exact references

theorem TakingOff.removed (taking : TakingOff multi (easy :: left) system) :
    TakingOff multi left (system.removed multi easy) := by
  let ahead := system.setMulti multi { system.multis multi with requests := easy :: left }
  have mem : easy ∈ (ahead.multis multi).attached := by
    refine (taking.references.registered multi).requests ?_
    rw [System.setMulti_self]
    exact List.mem_cons_self
  have same : (system.removed multi easy).setMulti multi { (system.removed multi easy).multis multi with
      requests := left } = ahead.dropped multi easy := by
    simp [ahead, System.removed, System.dropped, System.released, System.curlOf]
  refine ⟨?_, fun other inside gone => ?_⟩
  · rw [same]
    exact references_dropped taking.references mem
  · rw [System.removed, System.setEasy_multis, System.setMulti_self] at inside
    rw [System.removed]
    by_cases isEasy : other = easy
    · rw [isEasy, System.setEasy_self]
    · rw [System.setEasy_of_ne _ _ isEasy, System.setMulti_easies]
      refine taking.taken other inside fun ahead => ?_
      exact gone ((List.mem_cons.mp ahead).resolve_left isEasy)

/-- What the rest of `__close` finds where libcurl lets every handle go. -/
theorem takingOff_returns {replies : ObjectId → Reply} (accepted : ∀ easy ∈ left, replies easy = .ok ())
    (taking : TakingOff multi left system) :
    ∃ after, Returns (left.forM fun easy => multiRemoveNative multi easy (replies easy)) system () after ∧
      TakingOff multi [] after ∧ Freed multi system after ∧ Gone multi left after ∧
      (∀ easy ∈ (system.multis multi).attached, easy ∈ left ∨ easy ∈ (after.multis multi).attached) ∧
      (after.multis multi).idleEasyReferences = (system.multis multi).idleEasyReferences := by
  induction left generalizing system with
  | nil => exact ⟨system, rfl, taking, .refl multi system, fun _ mem => absurd mem List.not_mem_nil, fun _ => Or.inr, rfl⟩
  | cons easy left ih =>
    obtain ⟨after, returns, taken, freed, gone, attached, idle⟩ :=
      ih (fun other mem => accepted other (List.mem_cons_of_mem easy mem)) taking.removed
    have head : Returns (multiRemoveNative multi easy (replies easy)) system ()
        (system.removed multi easy) := by
      rw [accepted easy List.mem_cons_self]
      exact multiRemoveNative_ok system multi easy
    have points : (system.easies easy).multi = some multi := by
      refine (taking.references.registered multi).pointing easy ?_
      refine (taking.references.registered multi).requests ?_
      rw [System.setMulti_self]
      exact List.mem_cons_self
    have first : Freed multi system (system.removed multi easy) := freed_setEasy points rfl rfl
    have nowhere : ((system.removed multi easy).easies easy).multi ≠ some multi := by
      rw [System.removed, System.setEasy_self]
      intro pointsTo
      cases pointsTo
    refine ⟨after, bind_returns_iff.mpr ⟨(), _, head, returns⟩, taken, first.trans freed,
      gone_cons nowhere freed gone, fun other mem => ?_, ?_⟩
    · by_cases same : other = easy
      · exact Or.inl (same ▸ List.mem_cons_self)
      · refine (attached other ?_).imp_left (List.mem_cons_of_mem easy)
        rw [System.removed, System.setEasy_multis, System.setMulti_self]
        exact (List.mem_erase_of_ne same).mpr mem
    · rw [idle, System.removed, System.setEasy_multis, System.setMulti_self]

/-! ## References to idle handles -/

/-- One reference: a handle that points to the multi still is let go. -/
theorem clearIdle_returns (reply : Reply) (taking : TakingOff multi [] system)
    (unattached : easy ∉ (system.multis multi).attached) :
    ∃ after, Returns (clearIdle multi easy reply) system () after ∧ TakingOff multi [] after ∧
      Freed multi system after ∧ (after.easies easy).multi ≠ some multi ∧
      (after.multis multi).attached = (system.multis multi).attached ∧
      (after.multis multi).idleEasyReferences ⊆ (system.multis multi).idleEasyReferences := by
  have unfolded : clearIdle multi easy reply system =
      (if (system.easies easy).multi = some multi then easyMultiSet easy none reply
        else pure () : SystemM Unit) system := rfl
  unfold Returns
  rw [unfolded]
  by_cases points : (system.easies easy).multi = some multi
  · rw [if_pos points]
    have absent : easy ∉ (system.multis multi).requests := by
      intro mem
      cases points.symm.trans (taking.taken easy mem List.not_mem_nil)
    have returns := easyMultiSet_none_returns reply points absent unattached
    let bare := system.setMulti multi { system.multis multi with requests := [] }
    have loose : Loose easy bare := by
      refine taking.references.loose fun owner mem => ?_
      have pointsTo := (taking.references.registered owner).pointing easy mem
      have isMulti : multi = owner := Option.some.inj (points.symm.trans pointsTo)
      rw [← isMulti, System.setMulti_self] at mem
      exact unattached mem
    have unregistered := @loose_idle bare multi easy _ loose (fun other ne => List.mem_erase_of_ne ne)
      ((loose.registered multi).idleNodup.erase easy)
    have forgotten := @loose_setEasy _ easy { system.easies easy with multi := none } unregistered
    have same : (system.forgotten multi easy).setMulti multi { (system.forgotten multi easy).multis multi with
        requests := [] } = (bare.setMulti multi { bare.multis multi with
          idleEasyReferences := (bare.multis multi).idleEasyReferences.erase easy }).setEasy easy
            { system.easies easy with multi := none } := by
      simp [System.forgotten, bare]
    refine ⟨system.forgotten multi easy, returns, ⟨?_, fun other mem _ => ?_⟩, freed_setEasy points rfl rfl,
      ?_, ?_, ?_⟩
    · rw [same]
      refine forgotten.nowhere ?_
      rw [System.setEasy_self]
    · rw [System.forgotten, System.setEasy_multis, System.setMulti_self] at mem
      rw [System.forgotten]
      by_cases isEasy : other = easy
      · rw [isEasy, System.setEasy_self]
      · rw [System.setEasy_of_ne _ _ isEasy]
        exact taking.taken other mem List.not_mem_nil
    · rw [System.forgotten, System.setEasy_self]
      intro pointsTo
      cases pointsTo
    · rw [System.forgotten, System.setEasy_multis, System.setMulti_self]
    · rw [System.forgotten, System.setEasy_multis, System.setMulti_self]
      exact List.erase_subset
  · rw [if_neg points]
    exact ⟨system, rfl, taking, .refl multi system, points, rfl, List.Subset.refl _⟩

theorem clearIdles_returns {idle : List ObjectId} {replies : ObjectId → Reply}
    (taking : TakingOff multi [] system)
    (unattached : ∀ easy ∈ idle, easy ∉ (system.multis multi).attached) :
    ∃ after, Returns (idle.forM fun easy => clearIdle multi easy (replies easy)) system () after ∧
      TakingOff multi [] after ∧ Freed multi system after ∧ Gone multi idle after ∧
      (after.multis multi).attached = (system.multis multi).attached ∧
      (after.multis multi).idleEasyReferences ⊆ (system.multis multi).idleEasyReferences := by
  induction idle generalizing system with
  | nil => exact ⟨system, rfl, taking, .refl multi system, nofun, rfl, List.Subset.refl _⟩
  | cons easy idle ih =>
    obtain ⟨middle, returns, taking', freed, gone, attached, idle'⟩ :=
      clearIdle_returns (replies easy) taking (unattached easy List.mem_cons_self)
    have rest : ∀ other ∈ idle, other ∉ (middle.multis multi).attached := by
      rw [attached]
      exact fun other mem => unattached other (List.mem_cons_of_mem easy mem)
    obtain ⟨after, returns', taking'', freed', gone', attached', idle''⟩ := ih taking' rest
    exact ⟨after, bind_returns_iff.mpr ⟨(), middle, returns, returns'⟩, taking'', freed.trans freed',
      gone_cons gone freed' gone', attached'.trans attached, List.Subset.trans idle'' idle'⟩

/-- Where no idle handle points to the multi, the references to idle ones can be forgotten. -/
theorem TakingOff.withoutIdle (taking : TakingOff multi [] system)
    (gone : Gone multi (system.multis multi).idleEasyReferences system) :
    References (system.setMulti multi { system.multis multi with idleEasyReferences := [], requests := [] }) := by
  have registered := taking.references.registered
  have here := registered multi
  have same : system.setMulti multi { system.multis multi with idleEasyReferences := [], requests := [] } =
      (system.setMulti multi { system.multis multi with requests := [] }).setMulti multi
        { (system.setMulti multi { system.multis multi with requests := [] }).multis multi with
          idleEasyReferences := [] } := by simp
  rw [same]
  refine ⟨registered_setMulti registered here.pointing here.requests (fun _ _ => nofun)
    here.attachedNodup here.requestsNodup List.nodup_nil here.handle, fun easy owner points => ?_⟩
  have known := taking.references.known easy owner points
  unfold Completing at known ⊢
  by_cases isMulti : owner = multi
  · rw [isMulti, System.setMulti_self] at known
    rw [isMulti] at points ⊢
    simp only [System.setMulti_self]
    rcases known with attached | idle | completing
    · exact Or.inl attached
    · exact absurd points (gone easy idle)
    · exact Or.inr (Or.inr completing)
  · rw [System.setMulti_of_ne _ _ isMulti]
    exact known

theorem clearIdleEasyReferences_returns (replies : ObjectId → Reply) (taking : TakingOff multi [] system) :
    ∃ after, Returns (clearIdleEasyReferences multi replies) system () after ∧
      References (after.setMulti multi { after.multis multi with requests := [] }) ∧ Freed multi system after ∧
      Gone multi (system.multis multi).idleEasyReferences after ∧
      (after.multis multi).attached = (system.multis multi).attached := by
  have unattached : ∀ easy ∈ (system.multis multi).idleEasyReferences, easy ∉ (system.multis multi).attached := by
    have apart := (taking.references.registered multi).apart
    rw [System.setMulti_self] at apart
    exact fun easy mem inside => apart easy inside mem
  obtain ⟨cleared, clears, taking', freed, gone, attached, idle⟩ :=
    @clearIdles_returns system multi _ replies taking unattached
  have references := taking'.withoutIdle fun easy mem => gone easy (idle mem)
  refine ⟨cleared.setMulti multi { cleared.multis multi with idleEasyReferences := [] }, ?_, ?_,
    freed.setMulti rfl, gone, ?_⟩
  · rw [Returns, clearIdleEasyReferences, get_bind_apply, clears.bind_eq]
    rfl
  · rw [System.setMulti_self, System.setMulti_setMulti]
    exact references
  · rw [System.setMulti_self]
    exact attached

/-! ## The native close -/

/-- The native table is empty already; the handles of `rest` still point to the multi. -/
structure Detaching (multi : ObjectId) (rest : List ObjectId) (system : System) : Prop where
  registered : ∀ owner, Registered system owner
  known : ∀ easy, easy ∉ rest → Known system easy
  rest : ∀ easy ∈ rest, (system.easies easy).multi = some multi ∧
    ∀ owner, easy ∉ (system.multis owner).attached

/-- A handle of the rest points nowhere now. -/
theorem Detaching.next (detaching : Detaching multi (easy :: left) system) (nodup : (easy :: left).Nodup) :
    Detaching multi left (finalState (detachEasyEntry multi easy) system) := by
  let held := system.setMulti multi { system.multis multi with
    held := (system.multis multi).held.erase (system.curlOf easy) }
  have same : SameReferences (system.multis multi) { system.multis multi with
      held := (system.multis multi).held.erase (system.curlOf easy) } :=
    ⟨rfl, rfl, rfl, List.Subset.refl _, id⟩
  have attached (owner : ObjectId) : (held.multis owner).attached = (system.multis owner).attached := by
    by_cases isMulti : owner = multi
    · rw [isMulti, System.setMulti_self]
    · rw [System.setMulti_of_ne _ _ isMulti]
  have registered : ∀ owner, Registered held owner := registered_same detaching.registered same
  have first := detaching.rest easy List.mem_cons_self
  show Detaching multi left (held.setEasy easy { held.easies easy with multi := none })
  refine ⟨fun owner => ?_, fun other apart => ?_, fun other mem => ?_⟩
  · have before := registered owner
    refine ⟨fun other mem => ?_, before.requests, before.apart, before.attachedNodup,
      before.requestsNodup, before.idleNodup, before.handle⟩
    have ne : other ≠ easy := by
      intro isEasy
      rw [System.setEasy_multis, attached] at mem
      exact first.2 owner (isEasy ▸ mem)
    rw [System.setEasy_of_ne _ _ ne]
    exact before.pointing other mem
  · intro owner points
    by_cases isEasy : other = easy
    · rw [isEasy, System.setEasy_self] at points
      cases points
    · rw [System.setEasy_of_ne _ _ isEasy] at points
      have unlisted : other ∉ easy :: left := fun mem => apart ((List.mem_cons.mp mem).resolve_left isEasy)
      exact known_same (detaching.known other unlisted) same owner points
  · have ne : other ≠ easy := fun isEasy => (List.nodup_cons.mp nodup).1 (isEasy ▸ mem)
    have pending := detaching.rest other (List.mem_cons_of_mem easy mem)
    refine ⟨?_, fun owner => ?_⟩
    · rw [System.setEasy_of_ne _ _ ne]
      exact pending.1
    · rw [System.setEasy_multis, attached]
      exact pending.2 owner

theorem detaching_returns (detaching : Detaching multi left system) (nodup : left.Nodup) :
    ∃ after, Returns (left.forM (detachEasyEntry multi)) system () after ∧ References after ∧
      Freed multi system after ∧ Gone multi left after ∧
      (after.multis multi).attached = (system.multis multi).attached := by
  induction left generalizing system with
  | nil =>
    have references : References system :=
      ⟨detaching.registered, fun easy => detaching.known easy List.not_mem_nil⟩
    exact ⟨system, rfl, references, .refl multi system, nofun, rfl⟩
  | cons easy left ih =>
    have first : Returns (detachEasyEntry multi easy) system ()
        (finalState (detachEasyEntry multi easy) system) := rfl
    obtain ⟨after, returns, references, freed, gone, attached⟩ :=
      ih (detaching.next nodup) (List.nodup_cons.mp nodup).2
    have freed' : Freed multi system (finalState (detachEasyEntry multi easy) system) :=
      freed_setEasy (detaching.rest easy List.mem_cons_self).1 rfl rfl
    have kept : ((finalState (detachEasyEntry multi easy) system).multis multi) =
        { system.multis multi with
          held := (system.multis multi).held.erase (system.curlOf easy) } := by
      show ((System.setEasy (System.setMulti system multi _) easy _).multis multi) = _
      rw [System.setEasy_multis, System.setMulti_self]
    have nowhere : ((finalState (detachEasyEntry multi easy) system).easies easy).multi ≠ some multi := by
      show ((System.setEasy _ easy _).easies easy).multi ≠ some multi
      rw [System.setEasy_self]
      nofun
    rw [kept] at attached
    exact ⟨after, bind_returns_iff.mpr ⟨(), _, first, returns⟩, references, freed'.trans freed,
      gone_cons nowhere freed gone, attached⟩

/-- Handles that are attached without a request are let go as well. -/
theorem multiCloseNative_returns (references : References system) (closable : (system.multis multi).closable = true)
    (empty : (system.multis multi).requests = []) :
    ∃ after, Returns (multiCloseNative multi) system () after ∧ References after ∧
      Freed multi system after ∧ Gone multi (system.multis multi).attached after := by
  have before := references.registered multi
  have unguarded : (((system.multis multi).performActive || (system.multis multi).callbackActive) &&
      !(system.multis multi).allowCloseDuringPerform) = false := (Bool.not_eq_true' _).mp closable
  let bare := system.setMulti multi { system.multis multi with attached := [] }
  have detaching : Detaching multi (system.multis multi).attached bare := by
    refine ⟨?_, fun easy apart => ?_, fun easy mem => ⟨before.pointing easy mem, ?_⟩⟩
    · refine registered_setMulti references.registered nofun ?_ nofun List.nodup_nil before.requestsNodup
        before.idleNodup fun _ => rfl
      rw [empty]
      exact List.Subset.refl _
    · exact known_setMulti (references.known easy) (fun mem => absurd mem apart) id fun _ mem _ => mem
    · exact apart_setMulti List.not_mem_nil fun owner isOther inside =>
        isOther (references.attached_iff mem inside)
  obtain ⟨detached, returns, references', freed, gone, attached'⟩ :=
    detaching_returns detaching before.attachedNodup
  have detaches : Returns (detachAll multi) system () (detached.setMulti multi
      { detached.multis multi with active := 0 }) := by
    have unfolded : detachAll multi system = (do
        modifyMulti multi fun state => { state with attached := [] }
        (system.multis multi).attached.forM (detachEasyEntry multi)
        modifyMulti multi fun state => { state with active := 0 } : SystemM Unit) system := rfl
    rw [Returns, unfolded]
    exact bind_returns_iff.mpr ⟨(), bare, rfl, bind_returns_iff.mpr ⟨(), detached, returns, rfl⟩⟩
  refine ⟨detached.setMulti multi { detached.multis multi with
      handle := false
      held := []
      active := 0
      deferredException := false }, ?_, ?_, ?_, gone⟩
  · show (ite _ _ _ : SystemM Unit) system = _
    rw [if_neg (Bool.not_eq_true _ ▸ unguarded)]
    refine bind_returns_iff.mpr ⟨(), _, detaches, ?_⟩
    show EStateM.Result.ok () _ = _
    simp
  · have registered := references'.registered
    have here := registered multi
    have attached : (bare.multis multi).attached = [] := by rw [System.setMulti_self]
    refine ⟨registered_setMulti registered here.pointing here.requests here.apart here.attachedNodup
      here.requestsNodup here.idleNodup fun _ => attached'.trans attached, fun easy => ?_⟩
    exact known_setMulti (references'.known easy) id id fun _ mem _ => mem
  · have bared : Freed multi system bare := (Freed.refl multi system).setMulti rfl
    exact (bared.trans freed).setMulti rfl

theorem multiCloseNative_refused (guarded : (system.multis multi).closable = false) :
    Raises (multiCloseNative multi) system closeRejected system := by
  have active : (((system.multis multi).performActive || (system.multis multi).callbackActive) &&
      !(system.multis multi).allowCloseDuringPerform) = true := (Bool.not_eq_false' _).mp guarded
  show (ite _ _ _ : SystemM Unit) system = _
  rw [if_pos active]
  rfl

theorem references_multiCloseNative (references : References system)
    (empty : (system.multis multi).requests = []) :
    References (finalState (multiCloseNative multi) system) := by
  cases closable : (system.multis multi).closable with
  | false => rwa [(multiCloseNative_refused closable).finalState_eq]
  | true =>
    obtain ⟨after, returns, references', -⟩ := multiCloseNative_returns references closable empty
    rwa [returns.finalState_eq]

/-! ## `Multi#close` -/

/-- `__close` comes to its native close, with no request left, where libcurl lets every handle go. -/
theorem close_ready {permanent : Bool} {replies : ObjectId → Reply} (references : References system)
    (accepted : ∀ easy ∈ (system.multis multi).requests, replies easy = .ok ()) :
    ∃ ready, References ready ∧ Freed multi system ready ∧ (ready.multis multi).requests = [] ∧
      (∀ easy ∈ (system.multis multi).attached,
        (ready.easies easy).multi ≠ some multi ∨ easy ∈ (ready.multis multi).attached) ∧
      (permanent = true → Gone multi (system.multis multi).idleEasyReferences ready) ∧
      close permanent multi replies system = (do
        multiCloseNative multi
        when permanent (modifyMulti multi fun state => { state with closed := true }) : SystemM Unit) ready := by
  obtain ⟨taken, takes, taking, freed, gone, attached, idle⟩ :=
    takingOff_returns accepted (references.takingOff multi)
  have unfolded : close permanent multi replies system = (do
      (system.multis multi).requests.forM fun easy => multiRemoveNative multi easy (replies easy)
      when permanent (clearIdleEasyReferences multi replies)
      modifyMulti multi fun state => { state with requests := [] }
      multiCloseNative multi
      when permanent (modifyMulti multi fun state => { state with closed := true }) : SystemM Unit) system := rfl
  have stays : ∀ easy ∈ (system.multis multi).attached,
      (taken.easies easy).multi ≠ some multi ∨ easy ∈ (taken.multis multi).attached :=
    fun easy mem => (attached easy mem).imp_left (gone easy)
  rw [unfolded, takes.bind_eq]
  cases permanent with
  | false =>
    refine ⟨taken.setMulti multi { taken.multis multi with requests := [] }, taking.references,
      freed.setMulti rfl, ?_, ?_, nofun, rfl⟩
    · rw [System.setMulti_self]
    · rw [System.setMulti_self]
      exact stays
  | true =>
    obtain ⟨cleared, clears, references', freed', gone', attached'⟩ :=
      clearIdleEasyReferences_returns replies taking
    have first : Returns (when true (clearIdleEasyReferences multi replies)) taken () cleared := clears
    refine ⟨cleared.setMulti multi { cleared.multis multi with requests := [] }, references',
      (freed.trans freed').setMulti rfl, ?_, fun easy mem => ?_, fun _ => ?_, ?_⟩
    · rw [System.setMulti_self]
    · rw [System.setMulti_self]
      show _ ∨ easy ∈ (cleared.multis multi).attached
      rw [attached']
      exact (stays easy mem).imp_left freed'.elsewhere
    · rw [← idle]
      exact gone'
    · rw [first.bind_eq]
      rfl

/-- libcurl refuses the first handle, and nothing has changed. -/
theorem close_refused {permanent : Bool} {replies : ObjectId → Reply} {error : RubyError}
    (first : (system.multis multi).requests.head? = some easy) (refused : replies easy = .error error) :
    Raises (close permanent multi replies) system error system := by
  obtain ⟨rest, requests⟩ := List.head?_eq_some_iff.mp first
  have raises : Raises (List.forM (easy :: rest) fun easy =>
      multiRemoveNative multi easy (replies easy)) system error system := by
    refine bind_raises_iff.mpr (Or.inl ?_)
    show Raises (multiRemoveNative multi easy (replies easy)) system error system
    rw [refused]
    exact multiRemoveNative_error system multi easy error
  show Raises ((system.multis multi).requests.forM _ >>= fun _ => _) system error system
  rw [requests]
  exact bind_raises_iff.mpr (Or.inl raises)

theorem references_close {permanent : Bool} {replies : ObjectId → Reply} (references : References system)
    (answered : CloseAnswered multi replies system) :
    References (finalState (close permanent multi replies) system) := by
  rcases answered with accepted | ⟨easy, error, first, refused⟩
  · obtain ⟨ready, references', -, empty, -, -, same⟩ := @close_ready _ multi permanent _ references accepted
    rw [finalState, same]
    refine finalState_bind_of_keeps (references_multiCloseNative references' empty) fun _ => ?_
    cases permanent with
    | true =>
      show Keeps References (modifyMulti multi fun state => { state with closed := true })
      exact keeps_references_modifyMulti fun _ => ⟨rfl, rfl, rfl, List.Subset.refl _, id⟩
    | false => exact keeps_pure
  · rwa [(close_refused first refused).finalState_eq]

/-- No handle points to the multi only because the callbacks of its transfer still run. -/
def Settled (system : System) (multi : ObjectId) : Prop :=
  ∀ easy, Completing system multi easy → (system.easies easy).multi = some multi →
    easy ∈ (system.multis multi).attached ∨ easy ∈ (system.multis multi).idleEasyReferences

/-- After a close that returns no handle points to the multi, and handles of other multis point where
they did. -/
theorem close_leaves {replies : ObjectId → Reply} (references : References system)
    (answered : CloseAnswered multi replies system)
    (settled : (system.multis multi).closable = true → Settled system multi)
    (returns : Returns (close true multi replies) system () after) :
    (∀ easy, (after.easies easy).multi ≠ some multi) ∧
      ∀ easy, (system.easies easy).multi ≠ some multi →
        (after.easies easy).multi = (system.easies easy).multi := by
  rcases answered with accepted | ⟨easy, error, first, refused⟩
  · obtain ⟨ready, references', freed, empty, stays, idle, same⟩ :=
      @close_ready _ multi true _ references accepted
    rw [Returns, same] at returns
    obtain ⟨_, detached, closes, marks⟩ := bind_returns_iff.mp returns
    have marked : after = detached.setMulti multi { detached.multis multi with closed := true } :=
      returns_modify_iff.mp marks
    cases closable : (ready.multis multi).closable with
    | false => exact absurd (multiCloseNative_refused closable) closes.not_raises
    | true =>
      obtain ⟨detached', closes', -, freed', gone⟩ := multiCloseNative_returns references' closable empty
      rw [(closes'.unique closes).2] at marked
      rw [marked]
      have left := freed.trans freed'
      refine ⟨fun easy points => ?_, fun easy elsewhere => ?_⟩
      · have pointed : (system.easies easy).multi = some multi := by
          rcases left.pointing easy with same' | ⟨pointed, -⟩
          · exact same'.symm.trans points
          · exact pointed
        have member : easy ∈ (system.multis multi).attached ∨
            easy ∈ (system.multis multi).idleEasyReferences := by
          rcases references.known easy multi pointed with attached | idle | completing
          · exact Or.inl attached
          · exact Or.inr idle
          · exact settled (freed.closable.symm.trans closable) easy completing pointed
        have nowhere : (ready.easies easy).multi ≠ some multi ∨ easy ∈ (ready.multis multi).attached := by
          rcases member with attached | isIdle
          · exact stays easy attached
          · exact Or.inl (idle rfl easy isIdle)
        rcases nowhere with apart | attached
        · exact freed'.elsewhere apart points
        · exact gone easy attached points
      · rcases left.pointing easy with same' | ⟨pointed, -⟩
        · exact same'
        · exact absurd pointed elsewhere
  · exact absurd (close_refused first refused) returns.not_raises

end Curb.Attachment

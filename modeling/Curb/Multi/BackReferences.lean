import Curb.Multi.Runs

/-!
# The multi a handle points to

A handle points to a multi as one of its attached handles, as an idle one that the multi keeps a weak
reference to, or while the callbacks of its completed transfer run. The requests may lag behind the
native table here: a removal that libcurl refuses takes the request away all the same.
-/

namespace Curb.Attachment
open Curb.Misc Curb.Ruby

/-- What the tables of a multi have to do with the multi the handles point to. -/
structure Registered (system : System) (multi : ObjectId) : Prop where
  pointing : ∀ easy ∈ (system.multis multi).attached, (system.easies easy).multi = some multi
  requests : (system.multis multi).requests ⊆ (system.multis multi).attached
  apart : ∀ easy ∈ (system.multis multi).attached, easy ∉ (system.multis multi).idleEasyReferences
  attachedNodup : (system.multis multi).attached.Nodup
  requestsNodup : (system.multis multi).requests.Nodup
  idleNodup : (system.multis multi).idleEasyReferences.Nodup
  handle : (system.multis multi).handle = false → (system.multis multi).attached = []

/-- The callbacks of the handle's completed transfer run. -/
def Completing (system : System) (multi easy : ObjectId) : Prop :=
  ∃ completion ∈ (system.multis multi).completions, completion.easy = easy

/-- The multi that a handle points to knows of it. -/
def Known (system : System) (easy : ObjectId) : Prop :=
  ∀ multi, (system.easies easy).multi = some multi →
    easy ∈ (system.multis multi).attached ∨ easy ∈ (system.multis multi).idleEasyReferences ∨
      Completing system multi easy

/-- The invariant. -/
structure References (system : System) : Prop where
  registered : ∀ multi, Registered system multi
  known : ∀ easy, Known system easy

/-- The invariant, but for where a handle points that is attached nowhere. -/
structure Loose (easy : ObjectId) (system : System) : Prop where
  registered : ∀ multi, Registered system multi
  known : ∀ other, other ≠ easy → Known system other
  apart : ∀ multi, easy ∉ (system.multis multi).attached

variable {system : System} {multi easy : ObjectId}

theorem references_fresh : References fresh :=
  ⟨fun _ => ⟨nofun, List.Subset.refl _, nofun, List.nodup_nil, List.nodup_nil, List.nodup_nil, fun _ => rfl⟩,
    fun _ => nofun⟩

theorem References.loose (references : References system)
    (apart : ∀ multi, easy ∉ (system.multis multi).attached) : Loose easy system :=
  ⟨references.registered, fun other _ => references.known other, apart⟩

theorem Loose.references (loose : Loose easy system) (known : Known system easy) :
    References system := by
  refine ⟨loose.registered, fun other => ?_⟩
  by_cases same : other = easy
  · rw [same]
    exact known
  · exact loose.known other same

/-- A handle is attached to the multi it points to, and to no other. -/
theorem References.attached_iff (references : References system)
    (attached : easy ∈ (system.multis multi).attached) {owner : ObjectId} :
    easy ∈ (system.multis owner).attached → owner = multi := by
  intro mem
  have here := (references.registered multi).pointing easy attached
  have there := (references.registered owner).pointing easy mem
  exact Option.some.inj (there.symm.trans here)

/-! ## Changes to one multi or one handle -/

theorem apart_setMulti {state : Multi} (here : easy ∉ state.attached)
    (others : ∀ owner, owner ≠ multi → easy ∉ (system.multis owner).attached) (owner : ObjectId) :
    easy ∉ ((system.setMulti multi state).multis owner).attached := by
  by_cases isMulti : owner = multi
  · rw [isMulti, System.setMulti_self]
    exact here
  · rw [System.setMulti_of_ne _ _ isMulti]
    exact others owner isMulti

/-- Fields of a multi beside the tables change, or the references to idle handles grow. -/
theorem known_setMulti {state : Multi} (known : Known system easy)
    (attached : easy ∈ (system.multis multi).attached → easy ∈ state.attached)
    (idle : easy ∈ (system.multis multi).idleEasyReferences → easy ∈ state.idleEasyReferences)
    (completions : ∀ completion ∈ (system.multis multi).completions, completion.easy = easy →
      completion ∈ state.completions) : Known (system.setMulti multi state) easy := by
  intro owner points
  have before := known owner points
  unfold Completing at before ⊢
  by_cases isMulti : owner = multi
  · rw [isMulti] at before
    rw [isMulti, System.setMulti_self]
    rcases before with here | here | ⟨completion, inside, same⟩
    · exact Or.inl (attached here)
    · exact Or.inr (Or.inl (idle here))
    · exact Or.inr (Or.inr ⟨completion, completions completion inside same, same⟩)
  · rw [System.setMulti_of_ne _ _ isMulti]
    exact before

theorem registered_setMulti {state : Multi} (registered : ∀ multi, Registered system multi)
    (pointing : ∀ easy ∈ state.attached, (system.easies easy).multi = some multi)
    (requests : state.requests ⊆ state.attached)
    (apart : ∀ easy ∈ state.attached, easy ∉ state.idleEasyReferences)
    (attachedNodup : state.attached.Nodup) (requestsNodup : state.requests.Nodup)
    (idleNodup : state.idleEasyReferences.Nodup)
    (handle : state.handle = false → state.attached = []) :
    ∀ owner, Registered (system.setMulti multi state) owner := by
  intro owner
  by_cases isMulti : owner = multi
  · rw [isMulti]
    constructor <;> rw [System.setMulti_self] <;> assumption
  · have before := registered owner
    constructor <;> rw [System.setMulti_of_ne _ _ isMulti]
    · exact before.pointing
    · exact before.requests
    · exact before.apart
    · exact before.attachedNodup
    · exact before.requestsNodup
    · exact before.idleNodup
    · exact before.handle

/-- A change that leaves the tables of a multi alone. -/
structure SameReferences (before after : Multi) : Prop where
  requests : after.requests = before.requests
  attached : after.attached = before.attached
  idle : after.idleEasyReferences = before.idleEasyReferences
  completions : before.completions ⊆ after.completions
  handle : after.handle = false → before.handle = false

theorem registered_same {state : Multi} (registered : ∀ multi, Registered system multi)
    (same : SameReferences (system.multis multi) state) :
    ∀ owner, Registered (system.setMulti multi state) owner := by
  have before := registered multi
  obtain ⟨requests, attached, idle, -, handle⟩ := same
  refine registered_setMulti registered ?_ ?_ ?_ ?_ ?_ ?_ ?_
  · rw [attached]
    exact before.pointing
  · rw [requests, attached]
    exact before.requests
  · rw [attached, idle]
    exact before.apart
  · rw [attached]
    exact before.attachedNodup
  · rw [requests]
    exact before.requestsNodup
  · rw [idle]
    exact before.idleNodup
  · rw [attached]
    exact fun noHandle => before.handle (handle noHandle)

theorem known_same {state : Multi} (known : Known system easy)
    (same : SameReferences (system.multis multi) state) : Known (system.setMulti multi state) easy := by
  obtain ⟨-, attached, idle, completions, -⟩ := same
  exact known_setMulti known (attached ▸ id) (idle ▸ id) fun _ mem _ => completions mem

theorem references_same {state : Multi} (references : References system)
    (same : SameReferences (system.multis multi) state) : References (system.setMulti multi state) :=
  ⟨registered_same references.registered same, fun easy => known_same (references.known easy) same⟩

theorem keeps_references_modifyMulti {f : Multi → Multi}
    (same : ∀ state, SameReferences state (f state)) : Keeps References (modifyMulti multi f) :=
  fun _ references => references_same references (same _)

/-- A handle that keeps its multi. -/
theorem references_setEasy {record : Easy} (references : References system)
    (pointer : record.multi = (system.easies easy).multi) : References (system.setEasy easy record) := by
  have pointers (other : ObjectId) :
      ((system.setEasy easy record).easies other).multi = (system.easies other).multi := by
    by_cases same : other = easy
    · rw [same, System.setEasy_self, pointer]
    · rw [System.setEasy_of_ne _ _ same]
  refine ⟨fun owner => ?_, fun other owner points => ?_⟩
  · have before := references.registered owner
    refine ⟨fun other mem => ?_, before.requests, before.apart, before.attachedNodup,
      before.requestsNodup, before.idleNodup, before.handle⟩
    rw [pointers]
    exact before.pointing other mem
  · rw [pointers] at points
    exact references.known other owner points

/-- A handle that is attached nowhere may point where it likes. -/
theorem loose_setEasy {record : Easy} (loose : Loose easy system) :
    Loose easy (system.setEasy easy record) := by
  refine ⟨fun owner => ?_, fun other ne owner points => ?_, loose.apart⟩
  · have before := loose.registered owner
    refine ⟨fun other mem => ?_, before.requests, before.apart, before.attachedNodup,
      before.requestsNodup, before.idleNodup, before.handle⟩
    have ne : other ≠ easy := fun same => loose.apart owner (same ▸ mem)
    rw [System.setEasy_of_ne _ _ ne]
    exact before.pointing other mem
  · rw [System.setEasy_of_ne _ _ ne] at points
    exact loose.known other ne owner points

/-- A handle that points nowhere needs nobody to know of it. -/
theorem Loose.nowhere (loose : Loose easy system) (nowhere : (system.easies easy).multi = none) :
    References system :=
  loose.references fun _ points => nomatch nowhere.symm.trans points

/-- The references to idle handles change for a handle that is attached nowhere. -/
theorem loose_idle {idle : List ObjectId} (loose : Loose easy system)
    (same : ∀ other, other ≠ easy → (other ∈ idle ↔ other ∈ (system.multis multi).idleEasyReferences))
    (nodup : idle.Nodup) :
    Loose easy (system.setMulti multi { system.multis multi with idleEasyReferences := idle }) := by
  have before := loose.registered multi
  refine ⟨registered_setMulti loose.registered before.pointing before.requests ?_ before.attachedNodup
    before.requestsNodup nodup before.handle, fun other ne => ?_, ?_⟩
  · intro other mem inside
    have ne : other ≠ easy := fun isEasy => loose.apart multi (isEasy ▸ mem)
    exact before.apart other mem ((same other ne).mp inside)
  · exact known_setMulti (loose.known other ne) id (same other ne).mpr fun _ mem _ => mem
  · exact apart_setMulti (loose.apart multi) fun owner _ => loose.apart owner

theorem keeps_loose_unregisterIdle {previous : Option ObjectId} :
    Keeps (Loose easy) (unregisterIdle previous easy) := by
  cases previous with
  | none => exact keeps_pure
  | some multi =>
    intro system loose
    exact loose_idle loose (fun other ne => List.mem_erase_of_ne ne)
      ((loose.registered multi).idleNodup.erase easy)

/-- The multi that a handle is given knows of it as an idle one. -/
theorem loose_registerIdle {target : Option ObjectId} (loose : Loose easy system)
    (points : (system.easies easy).multi = target) :
    References (finalState (registerIdle target easy) system) := by
  cases target with
  | none => exact loose.nowhere points
  | some multi =>
    have nodup := (loose.registered multi).idleNodup
    have after : Loose easy (system.setMulti multi { system.multis multi with
        idleEasyReferences := (system.multis multi).idleEasyReferences.erase easy ++ [easy] }) := by
      refine loose_idle loose (fun other ne => ?_) ?_
      · rw [List.mem_append, List.mem_singleton, List.mem_erase_of_ne ne]
        exact or_iff_left ne
      · exact List.Nodup.append (nodup.erase easy) (List.nodup_singleton easy)
          (List.disjoint_singleton.mpr nodup.not_mem_erase)
    refine after.references fun owner pointsTo => ?_
    have isMulti : multi = owner := Option.some.inj (points.symm.trans pointsTo)
    rw [← isMulti, System.setMulti_self]
    exact Or.inr (Or.inl (List.mem_append_right _ (List.mem_singleton.mpr rfl)))

/-! ## Removals -/

/-- A table without one of its handles, and without its request. -/
theorem loose_erase {state : Multi} (references : References system)
    (mem : easy ∈ (system.multis multi).attached)
    (attached : state.attached = (system.multis multi).attached.erase easy)
    (requests : state.requests = (system.multis multi).requests.erase easy)
    (idle : state.idleEasyReferences = (system.multis multi).idleEasyReferences)
    (completions : (system.multis multi).completions ⊆ state.completions)
    (handle : state.handle = (system.multis multi).handle) :
    Loose easy (system.setMulti multi state) := by
  have before := references.registered multi
  have gone : easy ∉ state.attached := by
    rw [attached]
    exact before.attachedNodup.not_mem_erase
  refine ⟨registered_setMulti references.registered ?_ ?_ ?_ ?_ ?_ ?_ ?_, fun other ne => ?_, ?_⟩
  · intro other inside
    rw [attached] at inside
    exact before.pointing other (List.mem_of_mem_erase inside)
  · intro other inside
    rw [requests] at inside
    rw [attached]
    have kept := before.requestsNodup.mem_erase_iff.mp inside
    exact before.attachedNodup.mem_erase_iff.mpr ⟨kept.1, before.requests kept.2⟩
  · intro other inside
    rw [attached] at inside
    rw [idle]
    exact before.apart other (List.mem_of_mem_erase inside)
  · rw [attached]
    exact before.attachedNodup.erase easy
  · rw [requests]
    exact before.requestsNodup.erase easy
  · rw [idle]
    exact before.idleNodup
  · rw [handle, attached]
    intro noHandle
    rw [before.handle noHandle]
    rfl
  · refine known_setMulti (references.known other) (fun inside => ?_) (idle ▸ id)
      fun _ mem _ => completions mem
    rw [attached]
    exact (List.mem_erase_of_ne ne).mpr inside
  · exact apart_setMulti gone fun owner isOther inside => isOther (references.attached_iff mem inside)

/-- A request goes without its handle. -/
theorem keeps_references_deleteRequest : Keeps References (deleteRequest multi easy) := by
  intro system references
  have before := references.registered multi
  refine ⟨registered_setMulti references.registered before.pointing ?_ before.apart before.attachedNodup
    (before.requestsNodup.erase easy) before.idleNodup before.handle, fun other => ?_⟩
  · exact fun other inside => before.requests (List.mem_of_mem_erase inside)
  · exact known_setMulti (references.known other) id id fun _ mem _ => mem

theorem references_dropped (references : References system)
    (mem : easy ∈ (system.multis multi).attached) : References (system.dropped multi easy) := by
  have loose : Loose easy (system.released multi easy) :=
    loose_erase references mem rfl rfl rfl (List.Subset.refl _) rfl
  refine (loose_setEasy loose).nowhere ?_
  rw [System.setEasy_self]

/-- The request of an attached handle is deleted, whether libcurl lets the handle go or not. -/
theorem references_takenOff {reply : Reply} (references : References system)
    (mem : easy ∈ (system.multis multi).attached) :
    References (finalState (do
      deleteRequest multi easy
      multiRemoveNative multi easy reply) system) := by
  cases reply with
  | ok value =>
    have deleted : Returns (deleteRequest multi easy) system () (system.setMulti multi
        { system.multis multi with requests := (system.multis multi).requests.erase easy }) := rfl
    have same : (system.setMulti multi { system.multis multi with
        requests := (system.multis multi).requests.erase easy }).removed multi easy =
          system.dropped multi easy := by
      simp [System.removed, System.dropped, System.released, System.curlOf]
    rw [deleted.finalState_bind, (multiRemoveNative_ok _ multi easy).finalState_eq, same]
    exact references_dropped references mem
  | error error => exact @keeps_references_deleteRequest multi easy system references

theorem keeps_references_remove {reply : Reply} : Keeps References (remove multi easy reply) := by
  intro system references
  show References (finalState (ite (easy ∈ (system.multis multi).requests) _ (pure ())) system)
  split
  · rename_i mem
    exact references_takenOff references ((references.registered multi).requests mem)
  · exact references

theorem keeps_references_cancel {replies : ObjectId → Reply} :
    Keeps References (cancel multi replies) :=
  keeps_bind keeps_get fun _ => keeps_forM fun _ _ => keeps_references_remove

/-! ## Additions -/

theorem keeps_references_ensureHandle : Keeps References (ensureHandle multi) := by
  intro system references
  have unfolded : ensureHandle multi system = (if (system.multis multi).handle then pure () else
      if (system.multis multi).closed then throw badHandle else multiInit multi : SystemM Unit)
        system := rfl
  unfold finalState
  rw [unfolded]
  by_cases handle : (system.multis multi).handle = true
  · rw [if_pos handle]
    exact references
  by_cases closed : (system.multis multi).closed = true
  · rw [if_neg handle, if_pos closed]
    exact references
  · rw [if_neg handle, if_neg closed]
    have noHandle := (Bool.not_eq_true _).mp handle
    refine references_same references ⟨rfl, ?_, rfl, List.Subset.refl _, fun _ => noHandle⟩
    exact ((references.registered multi).handle noHandle).symm

/-- The multi has its `CURLM *` then, and its requests are as they were. -/
theorem ensureHandle_returns {after : System} (returns : Returns (ensureHandle multi) system () after) :
    (after.multis multi).handle = true ∧ (after.multis multi).requests = (system.multis multi).requests := by
  have unfolded : ensureHandle multi system = (if (system.multis multi).handle then pure () else
      if (system.multis multi).closed then throw badHandle else multiInit multi : SystemM Unit)
        system := rfl
  rw [Returns, unfolded] at returns
  split at returns
  · rename_i handle
    cases returns
    exact ⟨handle, rfl⟩
  · split at returns
    · cases returns
    · cases returns
      constructor <;> rw [System.setMulti_self]

/-- libcurl takes a handle that is attached nowhere. -/
theorem references_added (references : References system)
    (apart : ∀ owner, easy ∉ (system.multis owner).attached)
    (handle : (system.multis multi).handle = true) : References (system.added multi easy) := by
  have before := references.registered multi
  have loose := references.loose apart
  -- the reference to the idle handle goes first
  have unregistered : Loose easy (system.setMulti multi { system.multis multi with
      idleEasyReferences := (system.multis multi).idleEasyReferences.erase easy }) :=
    loose_idle loose (fun other ne => List.mem_erase_of_ne ne) (before.idleNodup.erase easy)
  have record : Loose easy (System.setEasy _ easy { system.easies easy with
      multiAttachmentGeneration := (system.easies easy).multiAttachmentGeneration + 1
      multi := some multi }) := loose_setEasy unregistered
  have shape : system.added multi easy = System.setMulti (System.setEasy (system.setMulti multi
      { system.multis multi with
        idleEasyReferences := (system.multis multi).idleEasyReferences.erase easy }) easy
          { system.easies easy with
            multiAttachmentGeneration := (system.easies easy).multiAttachmentGeneration + 1
            multi := some multi }) multi { system.multis multi with
      requests := (system.multis multi).requests ++ [easy]
      idleEasyReferences := (system.multis multi).idleEasyReferences.erase easy
      held := (system.multis multi).held ++ [system.curlOf easy]
      active := (system.multis multi).active + 1
      attached := (system.multis multi).attached ++ [easy] } := by
    simp [System.added]
  rw [shape]
  have absent : easy ∉ (system.multis multi).requests := fun mem => apart multi (before.requests mem)
  refine ⟨registered_setMulti record.registered ?_ ?_ ?_ ?_ ?_ ?_ ?_, fun other => ?_⟩
  · intro other mem
    by_cases same : other = easy
    · rw [same, System.setEasy_self]
    · rw [System.setEasy_of_ne _ _ same]
      rcases List.mem_append.mp mem with old | new
      · exact before.pointing other old
      · exact absurd (List.mem_singleton.mp new) same
  · intro other mem
    rcases List.mem_append.mp mem with old | new
    · exact List.mem_append_left _ (before.requests old)
    · exact List.mem_append_right _ new
  · intro other mem idle
    rcases List.mem_append.mp mem with old | new
    · exact before.apart other old (List.mem_of_mem_erase idle)
    · rw [List.mem_singleton.mp new] at idle
      exact before.idleNodup.not_mem_erase idle
  · exact List.Nodup.append before.attachedNodup (List.nodup_singleton easy)
      (List.disjoint_singleton.mpr (apart multi))
  · exact List.Nodup.append before.requestsNodup (List.nodup_singleton easy)
      (List.disjoint_singleton.mpr absent)
  · exact before.idleNodup.erase easy
  · intro noHandle
    cases handle.symm.trans noHandle
  · by_cases same : other = easy
    · intro owner points
      rw [same, System.setMulti_easies, System.setEasy_self] at points
      rw [← Option.some.inj points, same, System.setMulti_self]
      exact Or.inl (List.mem_append_right _ (List.mem_singleton.mpr rfl))
    · refine known_setMulti (record.known other same) (fun mem => ?_) (fun mem => ?_) ?_
      · rw [System.setEasy_multis, System.setMulti_self] at mem
        exact List.mem_append_left _ mem
      · rw [System.setEasy_multis, System.setMulti_self] at mem
        exact mem
      · rw [System.setEasy_multis, System.setMulti_self]
        exact fun _ mem _ => mem

/-- An attached handle whose request had gone gets it back. -/
theorem references_requested (references : References system)
    (mem : easy ∈ (system.multis multi).attached) (absent : easy ∉ (system.multis multi).requests) :
    References (finalState (do
      unregisterIdle (some multi) easy
      modifyMulti multi fun state => { state with requests := state.requests ++ [easy] }) system) := by
  have before := references.registered multi
  have unregistered : (system.multis multi).idleEasyReferences.erase easy =
      (system.multis multi).idleEasyReferences := List.erase_of_not_mem (before.apart easy mem)
  have same : finalState (do
      unregisterIdle (some multi) easy
      modifyMulti multi fun state => { state with requests := state.requests ++ [easy] }) system =
      system.setMulti multi { system.multis multi with
        requests := (system.multis multi).requests ++ [easy] } := by
    show (system.setMulti multi _).setMulti multi _ = _
    rw [System.setMulti_setMulti, System.setMulti_self]
    dsimp only
    rw [unregistered]
  rw [same]
  refine ⟨registered_setMulti references.registered before.pointing ?_ before.apart before.attachedNodup ?_
    before.idleNodup before.handle, fun other => ?_⟩
  · intro other inside
    rcases List.mem_append.mp inside with old | new
    · exact before.requests old
    · rw [List.mem_singleton.mp new]
      exact mem
  · exact List.Nodup.append before.requestsNodup (List.nodup_singleton easy)
      (List.disjoint_singleton.mpr absent)
  · exact known_setMulti (references.known other) id id fun _ mem _ => mem

theorem references_attach {setup reply : Reply} (references : References system)
    (handle : (system.multis multi).handle = true) (absent : easy ∉ (system.multis multi).requests) :
    References (finalState (do
      attachNative multi easy setup reply
      unregisterIdle (some multi) easy
      modifyMulti multi fun state => { state with requests := state.requests ++ [easy] }) system) := by
  by_cases attached : easy ∈ (system.multis multi).attached
  · have returns : Returns (attachNative multi easy setup reply) system () system := by
      show (ite (easy ∈ (system.multis multi).attached) (pure ()) _ : SystemM Unit) system = _
      rw [if_pos attached]
      rfl
    rw [returns.finalState_bind]
    exact references_requested references attached absent
  have points := fun owner mem => (references.registered owner).pointing easy mem
  rcases attachNative_cases setup reply points attached with ⟨error, raises⟩ | ⟨apart, after, returns, sum⟩
  · rw [raises.finalState_bind]
    exact references
  · rw [returns.finalState_bind]
    have same : finalState (do
        unregisterIdle (some multi) easy
        modifyMulti multi fun state => { state with requests := state.requests ++ [easy] }) after =
          system.added multi easy := by
      rw [← sum]
      show System.setMulti (System.setMulti _ multi _) multi _ = _
      simp
    rw [same]
    exact references_added references apart handle

theorem keeps_references_add {safety setup reply : Reply} :
    Keeps References (add multi easy safety setup reply) := by
  intro system references
  show References (finalState (ite (easy ∈ (system.multis multi).requests) _ _) system)
  split
  · exact references
  rename_i absent
  split
  · exact references
  cases safety with
  | error error => exact references
  | ok value =>
    have ready := @keeps_references_ensureHandle multi system references
    cases ensured : ensureHandle multi system with
    | error error after =>
      have raises : Raises (ensureHandle multi) system error after := ensured
      have native : Raises (multiAddNative multi easy setup reply) system error after :=
        bind_raises_iff.mpr (Or.inl raises)
      rw [raises.finalState_eq] at ready
      show References (finalState (multiAddNative multi easy setup reply >>= _) system)
      rw [native.finalState_bind]
      exact ready
    | ok value after =>
      have returns : Returns (ensureHandle multi) system () after := ensured
      rw [returns.finalState_eq] at ready
      obtain ⟨handle, requests⟩ := ensureHandle_returns returns
      rw [← requests] at absent
      have attaches := @references_attach after multi easy setup reply ready handle absent
      have same : finalState (multiAddNative multi easy setup reply >>= fun _ => do
          unregisterIdle (some multi) easy
          modifyMulti multi fun state => { state with requests := state.requests ++ [easy] }) system =
          finalState (attachNative multi easy setup reply >>= fun _ => do
            unregisterIdle (some multi) easy
            modifyMulti multi fun state => { state with requests := state.requests ++ [easy] }) after := by
        rw [multiAddNative, bind_assoc]
        exact returns.finalState_bind
      rw [← same] at attaches
      exact attaches

/-! ## Giving a handle another multi -/

/-- The handle leaves the native table of the multi it points to, where libcurl lets it go or it is not
there. -/
theorem loose_detachOld {reply : Reply} (references : References system)
    (absent : ∀ owner, easy ∉ (system.multis owner).requests)
    (granted : ∀ owner, (system.easies easy).multi = some owner →
      easy ∈ (system.multis owner).attached → reply = .ok ()) :
    ∃ after, Returns (detachOld (system.easies easy).multi easy reply) system () after ∧
      Loose easy after ∧ after.easies = system.easies := by
  have unattached (nowhere : ∀ owner, (system.easies easy).multi = some owner →
      easy ∉ (system.multis owner).attached) : Loose easy system :=
    references.loose fun owner mem => nowhere owner ((references.registered owner).pointing easy mem) mem
  cases points : (system.easies easy).multi with
  | none =>
    have loose := unattached fun owner pointsTo => nomatch points.symm.trans pointsTo
    exact ⟨system, rfl, loose, rfl⟩
  | some multi =>
    by_cases mem : easy ∈ (system.multis multi).attached
    · rw [granted multi points mem]
      let state := { system.multis multi with
        held := (system.multis multi).held.erase (system.curlOf easy)
        active := (system.multis multi).active - 1
        attached := (system.multis multi).attached.erase easy }
      refine ⟨system.setMulti multi state, ?_, ?_, rfl⟩
      · show (ite (easy ∈ (system.multis multi).attached) _ (pure ()) : SystemM Unit) system = _
        rw [if_pos mem]
        show EStateM.Result.ok () _ = _
        simp [state, System.curlOf]
      · exact loose_erase references mem rfl (List.erase_of_not_mem (absent multi)).symm rfl
          (List.Subset.refl _) rfl
    · refine ⟨system, ?_, unattached fun owner pointsTo => ?_, rfl⟩
      · show (ite (easy ∈ (system.multis multi).attached) _ (pure ()) : SystemM Unit) system = _
        rw [if_neg mem]
        rfl
      · rw [← Option.some.inj (points.symm.trans pointsTo)]
        exact mem

/-- `Easy#multi=` once the handle is among the requests of no multi. -/
theorem references_relink {reply : Reply} {previous target : Option ObjectId}
    (references : References system) (absent : ∀ owner, easy ∉ (system.multis owner).requests)
    (granted : ∀ owner, (system.easies easy).multi = some owner →
      easy ∈ (system.multis owner).attached → reply = .ok ())
    (nowhere : (system.easies easy).multi = target → target = none) :
    References (finalState (do
      easyMultiSetNative easy target reply
      unregisterIdle previous easy
      registerIdle target easy) system) := by
  have linked : ∃ after, Returns (easyMultiSetNative easy target reply) system () after ∧
      Loose easy after ∧ (after.easies easy).multi = target := by
    by_cases here : (system.easies easy).multi = target
    · have nothing : Returns (easyMultiSetNative easy target reply) system () system := by
        show (ite ((system.easies easy).multi = target) (pure ()) _ : SystemM Unit) system = _
        rw [if_pos here]
        rfl
      refine ⟨system, nothing, references.loose fun owner mem => ?_, here⟩
      have points := (references.registered owner).pointing easy mem
      cases (here.trans (nowhere here)).symm.trans points
    · obtain ⟨detached, returns, loose, -⟩ := loose_detachOld references absent granted
      refine ⟨detached.setEasy easy { detached.easies easy with multi := target }, ?_,
        loose_setEasy loose, ?_⟩
      · show (ite ((system.easies easy).multi = target) (pure ()) _ : SystemM Unit) system = _
        rw [if_neg here]
        exact bind_returns_iff.mpr ⟨(), detached, returns, rfl⟩
      · rw [System.setEasy_self]
  obtain ⟨after, links, loose, points⟩ := linked
  have unregisters : ∃ middle, Returns (unregisterIdle previous easy) after () middle ∧
      middle.easies = after.easies := by
    cases previous with
    | none => exact ⟨after, rfl, rfl⟩
    | some multi => exact ⟨_, rfl, rfl⟩
  obtain ⟨middle, returns, same⟩ := unregisters
  have loose' := @keeps_loose_unregisterIdle easy previous after loose
  rw [returns.finalState_eq] at loose'
  rw [links.finalState_bind, returns.finalState_bind]
  exact loose_registerIdle loose' (same ▸ points)

/-- `Easy#multi=` may be refused where it only has the request of the handle to take away. -/
theorem references_easyMultiSet {reply : Reply} {target : Option ObjectId}
    (references : References system)
    (granted : (system.easies easy).multi ≠ target → ∀ owner, (system.easies easy).multi = some owner →
      easy ∈ (system.multis owner).attached → easy ∉ (system.multis owner).requests → reply = .ok ()) :
    References (finalState (easyMultiSet easy target reply) system) := by
  show References (finalState (ite ((system.easies easy).multi = target) _ _) system)
  split
  · exact references
  rename_i other
  have owner_unique {owner : ObjectId} (mem : easy ∈ (system.multis owner).requests) :
      (system.easies easy).multi = some owner :=
    (references.registered owner).pointing easy ((references.registered owner).requests mem)
  by_cases requested : ∃ owner, easy ∈ (system.multis owner).requests
  · obtain ⟨owner, mem⟩ := requested
    have points := owner_unique mem
    have removes : finalState (removeFromPrevious (system.easies easy).multi easy reply) system =
        finalState (remove owner easy reply) system := by
      rw [points]
      rfl
    cases reply with
    | error error =>
      have after := @keeps_references_remove owner easy (.error error) system references
      have raises : Raises (removeFromPrevious (system.easies easy).multi easy (.error error)) system error
          (finalState (deleteRequest owner easy) system) := by
        rw [points]
        show (ite (easy ∈ (system.multis owner).requests) _ (pure ()) : SystemM Unit) system = _
        rw [if_pos mem]
        rfl
      rw [raises.finalState_bind, ← raises.finalState_eq, removes]
      exact after
    | ok value =>
      have dropped := references_dropped references ((references.registered owner).requests mem)
      have returns : Returns (removeFromPrevious (system.easies easy).multi easy (.ok ())) system ()
          (system.dropped owner easy) := by
        rw [points]
        exact remove_returns system mem
      rw [returns.finalState_bind]
      have nowhere : ((system.dropped owner easy).easies easy).multi = none := by
        rw [System.dropped, System.setEasy_self]
      refine references_relink dropped (fun elsewhere inside => ?_) (fun _ pointsTo => ?_) ?_
      · have pointsTo := (dropped.registered elsewhere).pointing easy ((dropped.registered elsewhere).requests inside)
        cases nowhere.symm.trans pointsTo
      · cases nowhere.symm.trans pointsTo
      · exact fun same => same.symm.trans nowhere
  · have absent : ∀ owner, easy ∉ (system.multis owner).requests := fun owner mem => requested ⟨owner, mem⟩
    have returns : Returns (removeFromPrevious (system.easies easy).multi easy reply) system () system := by
      cases (system.easies easy).multi with
      | none => rfl
      | some owner => exact remove_absent system reply (absent owner)
    rw [returns.finalState_bind]
    refine references_relink references absent (fun owner points mem => ?_) fun same => absurd same other
    exact granted other owner points mem (absent owner)

/-! ## Closing a handle -/

/-- The multi a handle points to forgets it, whether it is attached or not. -/
theorem loose_forgotten {state : Multi} (references : References system)
    (points : (system.easies easy).multi = some multi)
    (attached : state.attached = (system.multis multi).attached.erase easy)
    (requests : state.requests = (system.multis multi).requests.erase easy)
    (idle : state.idleEasyReferences = (system.multis multi).idleEasyReferences)
    (completions : (system.multis multi).completions ⊆ state.completions)
    (handle : state.handle = (system.multis multi).handle) :
    Loose easy (system.setMulti multi state) := by
  by_cases mem : easy ∈ (system.multis multi).attached
  · exact loose_erase references mem attached requests idle completions handle
  · have absent : easy ∉ (system.multis multi).requests := fun inside =>
      mem ((references.registered multi).requests inside)
    rw [List.erase_of_not_mem mem] at attached
    rw [List.erase_of_not_mem absent] at requests
    have same : SameReferences (system.multis multi) state :=
      ⟨requests, attached, idle, completions, fun noHandle => handle ▸ noHandle⟩
    refine (references_same references same).loose fun owner inside => ?_
    have pointsTo := ((references_same references same).registered owner).pointing easy inside
    have isMulti : multi = owner := Option.some.inj (points.symm.trans pointsTo)
    rw [← isMulti, System.setMulti_self, attached] at inside
    exact mem inside

theorem loose_freeFromMulti {reply : Reply} (references : References system)
    (absent : ∀ owner, easy ∉ (system.multis owner).requests) :
    ∃ after, Returns (freeFromMulti (system.easies easy).multi easy reply) system () after ∧
      Loose easy after := by
  cases points : (system.easies easy).multi with
  | none =>
    refine ⟨system, rfl, references.loose fun owner mem => ?_⟩
    cases points.symm.trans ((references.registered owner).pointing easy mem)
  | some multi =>
    have forgets (held : List CurlHandle) := @loose_forgotten system multi easy { system.multis multi with
      held := held
      attached := (system.multis multi).attached.erase easy } references points rfl
        (List.erase_of_not_mem (absent multi)).symm rfl (List.Subset.refl _) rfl
    have freed (held : List CurlHandle) := @loose_setEasy _ easy { system.easies easy with
      multi := none } (forgets held)
    cases reply with
    | ok value =>
      refine ⟨_, ?_, freed ((system.multis multi).held.erase (system.curlOf easy))⟩
      show EStateM.Result.ok () _ = _
      simp [System.curlOf]
    | error error =>
      refine ⟨_, ?_, freed (system.multis multi).held⟩
      show EStateM.Result.ok () _ = _
      simp

/-- A handle that may be closed is refused for its callbacks or is among no multi's requests. -/
theorem references_easyClose {reply : Reply} (references : References system)
    (unrequested : (system.easies easy).callbackActive = true ∨ (system.easies easy).nativeActive ≠ 0 ∨
      ∀ owner, easy ∉ (system.multis owner).requests) :
    References (finalState (easyClose easy reply) system) := by
  have unfolded : easyClose easy reply system = ((if (system.easies easy).callbackActive then
        throw ⟨.runtimeError, "Cannot close an active curl handle within a callback".toList⟩
      else if (system.easies easy).nativeActive ≠ 0 then
        throw ⟨.runtimeError, "Cannot close an active curl handle during native operation".toList⟩
      else do
        freeFromMulti (system.easies easy).multi easy reply
        modifyEasy easy fun state => { state with
          curl := state.curl + 1
          multi := none
          callbackActive := false
          nativeActive := 0 } : SystemM Unit) >>= fun _ =>
            unregisterIdle (system.easies easy).multi easy) system := rfl
  by_cases inCallback : (system.easies easy).callbackActive = true
  · unfold finalState
    rw [unfolded, if_pos inCallback]
    exact references
  by_cases inNative : (system.easies easy).nativeActive ≠ 0
  · unfold finalState
    rw [unfolded, if_neg inCallback, if_pos inNative]
    exact references
  rw [if_neg inCallback, if_neg inNative] at unfolded
  have absent := (unrequested.resolve_left inCallback).resolve_left inNative
  obtain ⟨freed, returns, loose⟩ := @loose_freeFromMulti system easy reply references absent
  let ended := freed.setEasy easy { freed.easies easy with
    curl := (freed.easies easy).curl + 1
    multi := none
    callbackActive := false
    nativeActive := 0 }
  have closed : Returns (do
      freeFromMulti (system.easies easy).multi easy reply
      modifyEasy easy fun state => { state with
        curl := state.curl + 1
        multi := none
        callbackActive := false
        nativeActive := 0 }) system () ended := bind_returns_iff.mpr ⟨(), freed, returns, rfl⟩
  have same : finalState (easyClose easy reply) system =
      finalState (unregisterIdle (system.easies easy).multi easy) ended := by
    have closes := @Returns.finalState_bind _ _ _ _ _
      (fun _ => unregisterIdle (system.easies easy).multi easy) _ _ _ closed
    rw [← closes]
    unfold finalState
    rw [unfolded]
  have nowhere : (ended.easies easy).multi = none := by rw [System.setEasy_self]
  have after := @keeps_loose_unregisterIdle easy (system.easies easy).multi ended (loose_setEasy loose)
  rw [same]
  refine after.nowhere ?_
  cases (system.easies easy).multi with
  | none => exact nowhere
  | some multi => exact nowhere

/-! ## Performing -/

theorem keeps_references_performGuardEnsure : Keeps References (performGuardEnsure multi) := by
  unfold performGuardEnsure
  exact keeps_references_modifyMulti fun _ => ⟨rfl, rfl, rfl, List.Subset.refl _, id⟩

theorem keeps_references_stashException {raised : Bool} :
    Keeps References (stashException multi raised) := by
  unfold stashException
  exact keeps_references_modifyMulti fun _ => ⟨rfl, rfl, rfl, List.Subset.refl _, id⟩

theorem keeps_references_performBegin : Keeps References (performBegin multi) := by
  refine keeps_bind keeps_get fun system => ?_
  split
  · exact keeps_throw
  · refine keeps_bind (keeps_references_modifyMulti fun _ =>
      ⟨rfl, rfl, rfl, List.Subset.refl _, id⟩) fun _ => ?_
    refine keeps_tryCatch keeps_references_ensureHandle fun error => ?_
    exact keeps_bind keeps_references_performGuardEnsure fun _ => keeps_throw

theorem keeps_references_performRaise {deferred : Bool} :
    Keeps References (performRaise multi deferred) := by
  unfold performRaise
  refine keeps_bind (keeps_references_modifyMulti fun _ =>
    ⟨rfl, rfl, rfl, List.Subset.refl _, id⟩) fun _ => ?_
  exact keeps_references_performGuardEnsure

/-! ## Completions -/

theorem keeps_references_callbacks {callbackError : Bool} : Keeps References (do
    stashException multi callbackError
    modifyEasy easy fun state => { state with callbackActive := true }) :=
  keeps_bind keeps_references_stashException fun _ _ references => references_setEasy references rfl

/-- The handle of a transfer that is complete is known for its callbacks. -/
theorem references_enterCallbacks {callbackError : Bool} (loose : Loose easy system)
    (points : ∀ owner, (system.easies easy).multi = some owner → owner = multi) :
    References (finalState (enterCallbacks multi easy callbackError (.ok ())) system) := by
  have same : SameReferences (system.multis multi) { system.multis multi with
      callbackActive := true
      completions := ⟨easy, system.attachedSnapshot multi⟩ :: (system.multis multi).completions } :=
    ⟨rfl, rfl, rfl, List.subset_cons_self _ _, id⟩
  have entered : References (system.setMulti multi { system.multis multi with
      callbackActive := true
      completions := ⟨easy, system.attachedSnapshot multi⟩ :: (system.multis multi).completions }) := by
    have registered := registered_same loose.registered same
    refine ⟨registered, fun other => ?_⟩
    by_cases isEasy : other = easy
    · intro owner pointsTo
      rw [isEasy] at pointsTo ⊢
      rw [points owner pointsTo]
      unfold Completing
      rw [System.setMulti_self]
      exact Or.inr (Or.inr ⟨_, List.mem_cons_self, rfl⟩)
    · exact known_same (loose.known other isEasy) same
  exact keeps_references_callbacks _ entered

/-- A handle that libcurl has let go is known for its callbacks, unless its second flush raises. -/
theorem references_completeBegin {callbackError : Bool} {flush reply flushAgain : Reply}
    (references : References system)
    (flushes : system.curlOf easy ∈ (system.multis multi).held →
      easy ∈ (system.multis multi).attached → flush = .ok () → reply = .ok () → flushAgain = .ok ()) :
    References (finalState (completeBegin multi easy callbackError flush reply flushAgain) system) := by
  by_cases held : system.curlOf easy ∈ (system.multis multi).held
  · have stashes := @keeps_references_stashException multi true system references
    cases flush with
    | error error =>
      show References (finalState (ite (system.curlOf easy ∈ (system.multis multi).held) _ (pure ())) system)
      rw [if_pos held]
      exact stashes
    | ok value =>
      cases reply with
      | error error =>
        show References (finalState (ite (system.curlOf easy ∈ (system.multis multi).held) _ (pure ())) system)
        rw [if_pos held]
        exact stashes
      | ok value =>
        rw [completeBegin_held held]
        by_cases mem : easy ∈ (system.multis multi).attached
        · rw [flushes held mem rfl rfl]
          have points := (references.registered multi).pointing easy mem
          refine references_enterCallbacks ?_ fun owner pointsTo => ?_
          · exact loose_erase references mem rfl rfl rfl (List.Subset.refl _) rfl
          · exact Option.some.inj (pointsTo.symm.trans points)
        · have absent : easy ∉ (system.multis multi).requests := fun inside =>
            mem ((references.registered multi).requests inside)
          have released : References (system.released multi easy) :=
            references_same references ⟨List.erase_of_not_mem absent, List.erase_of_not_mem mem, rfl,
              List.Subset.refl _, id⟩
          cases flushAgain with
          | error error => exact keeps_references_stashException _ released
          | ok value =>
            have entered : Keeps References (enterCallbacks multi easy callbackError (.ok ())) :=
              keeps_bind (keeps_modify fun _ before => references_same before
                ⟨rfl, rfl, rfl, List.subset_cons_self _ _, id⟩) fun _ => keeps_references_callbacks
            exact entered _ released
  · show References (finalState (ite (system.curlOf easy ∈ (system.multis multi).held) _ (pure ())) system)
    rw [if_neg held]
    exact references

theorem keeps_references_removeAdded {reply : Reply} :
    Keeps References (removeAdded multi easy reply) := by
  intro system references
  show References (finalState (ite ((system.easies easy).multi = some multi ∧
    easy ∈ (system.multis multi).attached) _ (pure ())) system)
  split
  · rename_i member
    exact references_takenOff references member.2
  · exact references

theorem keeps_references_callbackRaise {snapshot : List (ObjectId × Nat)} {outcome : CallbackOutcome} :
    Keeps References (callbackRaise multi snapshot outcome) := by
  cases outcome with
  | returned => exact keeps_pure
  | escaped => exact keeps_references_stashException
  | statusRaised replies =>
    refine keeps_bind keeps_references_stashException fun _ => keeps_bind keeps_get fun system => ?_
    exact keeps_forM fun easy _ => keeps_references_removeAdded

/-- What happens to the tables while callbacks raise leaves the completions alone. -/
theorem callbackRaise_completions (snapshot : List (ObjectId × Nat)) (outcome : CallbackOutcome)
    (system : System) : ((finalState (callbackRaise multi snapshot outcome) system).multis multi).completions =
      (system.multis multi).completions := by
  have keeps : Keeps (fun after => (after.multis multi).completions = (system.multis multi).completions)
      (callbackRaise multi snapshot outcome) := by
    have modifies {f : System → Multi}
        (same : ∀ before, (f before).completions = (before.multis multi).completions) :
        Keeps (fun after => (after.multis multi).completions = (system.multis multi).completions)
          (modify fun before => before.setMulti multi (f before) : SystemM Unit) := by
      intro before kept
      show ((before.setMulti multi (f before)).multis multi).completions = _
      rw [System.setMulti_self, same, kept]
    cases outcome with
    | returned => exact keeps_pure
    | escaped => exact modifies fun _ => rfl
    | statusRaised replies =>
      refine keeps_bind (modifies fun _ => rfl) fun _ => keeps_bind keeps_get fun system' => ?_
      refine keeps_forM fun easy _ => keeps_bind keeps_get fun system'' => ?_
      show Keeps _ (ite _ _ _)
      split
      · refine keeps_bind (modifies fun _ => rfl) fun _ => keeps_bind ?_ fun _ =>
          keeps_bind (modifies fun _ => rfl) fun _ => keeps_bind (modifies fun _ => rfl) fun _ =>
            keeps_bind (fun _ kept => kept) fun _ => modifies fun _ => rfl
        cases replies easy with
        | ok value => exact keeps_pure
        | error error => exact keeps_throw
      · exact keeps_pure
  exact keeps system rfl

/-- When its callbacks have run, a handle that is not attached again points nowhere. -/
theorem references_finishCompletionCallbacks {completion : Completion} {rest : List Completion}
    (references : References system)
    (completions : (system.multis multi).completions = completion :: rest) :
    References (finalState (finishCompletionCallbacks multi completion.easy) system) := by
  let left := system.setEasy completion.easy { system.easies completion.easy with callbackActive := false }
  have references' : References left := references_setEasy references rfl
  let popped := left.setMulti multi { left.multis multi with
    callbackActive := false
    completions := (left.multis multi).completions.tail }
  have tail : ∀ other ∈ (left.multis multi).completions, other.easy ≠ completion.easy →
      other ∈ (left.multis multi).completions.tail := by
    intro other mem ne
    change other ∈ (system.multis multi).completions at mem
    show other ∈ (system.multis multi).completions.tail
    rw [completions] at mem ⊢
    exact (List.mem_cons.mp mem).resolve_left fun same => ne (congrArg Completion.easy same)
  have registered : ∀ owner, Registered popped owner := by
    have before := references'.registered multi
    exact registered_setMulti references'.registered before.pointing before.requests before.apart
      before.attachedNodup before.requestsNodup before.idleNodup before.handle
  have others : ∀ other, other ≠ completion.easy → Known popped other := fun other ne =>
    known_setMulti (references'.known other) id id fun _ mem same => tail _ mem (same ▸ ne)
  show References (if (popped.easies completion.easy).multi = some multi ∧
      completion.easy ∉ (popped.multis multi).attached then
    popped.setEasy completion.easy { popped.easies completion.easy with multi := none } else popped)
  split
  · rename_i gone
    have loose : Loose completion.easy popped := by
      refine ⟨registered, others, fun owner mem => ?_⟩
      have points := (registered owner).pointing _ mem
      have isMulti : multi = owner := Option.some.inj (gone.1.symm.trans points)
      exact gone.2 (isMulti ▸ mem)
    refine (loose_setEasy loose).nowhere ?_
    rw [System.setEasy_self]
  · rename_i stays
    refine ⟨registered, fun other => ?_⟩
    by_cases same : other = completion.easy
    · intro owner points
      rw [same] at points ⊢
      by_cases isMulti : owner = multi
      · rw [isMulti] at points ⊢
        by_contra unknown
        exact stays ⟨points, fun mem => unknown (Or.inl mem)⟩
      · have before := references'.known completion.easy owner points
        unfold Completing at before ⊢
        rw [System.setMulti_of_ne _ _ isMulti]
        exact before
    · exact others other same

theorem references_completeEnd {outcome : CallbackOutcome} (references : References system) :
    References (finalState (completeEnd multi outcome) system) := by
  cases completions : (system.multis multi).completions with
  | nil =>
    rw [finalState, completeEnd, get_bind_apply, completions]
    exact references
  | cons completion rest =>
    rw [completeEnd_eq outcome completions]
    have raised := @keeps_references_callbackRaise multi completion.attachedSnapshot outcome system references
    exact references_finishCompletionCallbacks raised
      ((callbackRaise_completions _ _ system).trans completions)

end Curb.Attachment

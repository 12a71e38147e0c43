import Curb.Multi.Coherent

/-!
# Closing a multi

`__close` takes the handles off one by one and deletes the requests only at the end. In between
the requests are behind the native table: `Draining` is what holds then.
-/

namespace Curb.Attachment
open Curb.Misc Curb.Ruby

/-- The system with the requests of a multi brought up to its native table. -/
def System.synced (system : System) (multi : ObjectId) : System :=
  system.setMulti multi { system.multis multi with
    requests := (system.multis multi).attached }

/-- The native table of a multi that is being closed has these handles left, and a request beside
them is for a handle that belongs to no multi. -/
structure Draining (multi : ObjectId) (left : List ObjectId) (system : System) : Prop where
  inv : Inv (system.synced multi)
  attached : (system.multis multi).attached = left
  stale : ∀ easy ∈ (system.multis multi).requests, easy ∉ left → (system.easies easy).multi = none

variable {system : System} {multi easy : ObjectId} {left : List ObjectId}

theorem Inv.draining (inv : Inv system) (multi : ObjectId) :
    Draining multi (system.multis multi).requests system := by
  refine ⟨?_, (inv.requests multi).symm, ?_⟩
  · rw [System.synced, ← inv.requests multi]
    exact inv_setMulti inv rfl rfl rfl rfl (inv.native multi).handle
  · intro easy mem gone
    exact absurd mem gone

/-- The next handle is taken off. -/
theorem Draining.removed (draining : Draining multi (easy :: left) system) :
    Draining multi left (system.removed multi easy) := by
  have inside : easy ∈ ((system.synced multi).multis multi).attached := by
    rw [System.synced, System.setMulti_self]
    show easy ∈ (system.multis multi).attached
    rw [draining.attached]
    exact List.mem_cons_self
  refine ⟨?_, ?_, ?_⟩
  · have same : (system.removed multi easy).synced multi =
        (system.synced multi).dropped multi easy := by
      simp [System.removed, System.synced, System.dropped, System.released, System.curlOf]
    rw [same]
    exact inv_dropped draining.inv inside
  · rw [System.removed, System.setEasy_multis, System.setMulti_self]
    show (system.multis multi).attached.erase easy = left
    rw [draining.attached, List.erase_cons_head]
  · intro other mem gone
    rw [System.removed, System.setEasy_multis, System.setMulti_self] at mem
    rw [System.removed]
    by_cases same : other = easy
    · rw [same, System.setEasy_self]
    · rw [System.setEasy_of_ne _ _ same, System.setMulti_easies]
      apply draining.stale other mem
      intro inside
      rcases List.mem_cons.mp inside with head | tail
      · exact same head
      · exact gone tail

/-- All handles are taken off where libcurl lets each of them go. -/
theorem drain_returns {replies : ObjectId → Reply} (accepted : ∀ easy ∈ left, replies easy = .ok ())
    (draining : Draining multi left system) :
    ∃ after, Returns (left.forM fun easy => multiRemoveNative multi easy (replies easy))
      system () after ∧ Draining multi [] after := by
  induction left generalizing system with
  | nil => exact ⟨system, rfl, draining⟩
  | cons easy left ih =>
    have tail := ih (fun other mem => accepted other (List.mem_cons_of_mem easy mem)) draining.removed
    obtain ⟨after, returns, drained⟩ := tail
    have head : Returns (multiRemoveNative multi easy (replies easy)) system ()
        (system.removed multi easy) := by
      rw [accepted easy List.mem_cons_self]
      exact multiRemoveNative_ok system multi easy
    exact ⟨after, bind_returns_iff.mpr ⟨(), _, head, returns⟩, drained⟩

/-! ## References to idle handles -/

/-- A handle that points to the drained multi belongs to no multi. -/
theorem Draining.apart (drained : Draining multi [] system)
    (points : (system.easies easy).multi = some multi) : InvApart easy (system.synced multi) := by
  apply inv_apart drained.inv
  intro owner pointsTo
  have isMulti : multi = owner := Option.some.inj (points.symm.trans pointsTo)
  rw [← isMulti, System.synced, System.setMulti_self]
  show easy ∉ (system.multis multi).attached
  rw [drained.attached]
  exact List.not_mem_nil

/-- The drained multi forgets a handle that points to it. -/
def System.forgotten (system : System) (multi easy : ObjectId) : System :=
  (system.setMulti multi { system.multis multi with
    idleEasyReferences := (system.multis multi).idleEasyReferences.erase easy }).setEasy easy
      { system.easies easy with multi := none }

theorem Draining.forgotten (drained : Draining multi [] system)
    (points : (system.easies easy).multi = some multi) :
    Draining multi [] (system.forgotten multi easy) := by
  have apart := drained.apart points
  refine ⟨?_, ?_, ?_⟩
  · have same : (system.forgotten multi easy).synced multi =
        ((system.synced multi).setEasy easy { system.easies easy with multi := none }).setMulti multi
          { (system.synced multi).multis multi with
            idleEasyReferences := (system.multis multi).idleEasyReferences.erase easy } := by
      simp [System.forgotten, System.synced]
    rw [same]
    have before : Inv ((system.synced multi).setEasy easy { system.easies easy with multi := none }) :=
      inv_setEasy_apart apart.1 apart.2
    exact inv_setMulti before rfl rfl rfl rfl (before.native multi).handle
  · rw [System.forgotten, System.setEasy_multis, System.setMulti_self]
    exact drained.attached
  · intro other mem _
    rw [System.forgotten, System.setEasy_multis, System.setMulti_self] at mem
    rw [System.forgotten]
    by_cases same : other = easy
    · rw [same, System.setEasy_self]
    · rw [System.setEasy_of_ne _ _ same, System.setMulti_easies]
      exact drained.stale other mem List.not_mem_nil

/-- libcurl is not asked about a handle of a drained multi. -/
theorem easyMultiSet_none_returns (reply : Reply)
    (points : (system.easies easy).multi = some multi)
    (absent : easy ∉ (system.multis multi).requests)
    (unattached : easy ∉ (system.multis multi).attached) :
    Returns (easyMultiSet easy none reply) system () (system.forgotten multi easy) := by
  have somewhere : (system.easies easy).multi ≠ none := by
    rw [points]
    exact Option.some_ne_none multi
  have native : Returns (easyMultiSetNative easy none reply) system ()
      (system.setEasy easy { system.easies easy with multi := none }) := by
    show (ite ((system.easies easy).multi = none) _ _ : SystemM Unit) system = _
    rw [if_neg somewhere]
    have kept : Returns (detachOld (system.easies easy).multi easy reply) system () system := by
      rw [points]
      show (ite (easy ∈ (system.multis multi).attached) _ (pure ()) : SystemM Unit) system = _
      rw [if_neg unattached]
      rfl
    exact bind_returns_iff.mpr ⟨(), system, kept, rfl⟩
  show (ite ((system.easies easy).multi = none) _ _ : SystemM Unit) system = _
  rw [if_neg somewhere, points]
  refine bind_returns_iff.mpr ⟨(), system, remove_absent system reply absent, ?_⟩
  refine bind_returns_iff.mpr ⟨(), _, native, ?_⟩
  rfl

theorem maintains_clearIdle {reply : Reply} :
    Maintains (Draining multi []) (clearIdle multi easy reply) := by
  intro system drained
  have unfolded : clearIdle multi easy reply system =
      (if (system.easies easy).multi = some multi then easyMultiSet easy none reply
        else pure () : SystemM Unit) system := rfl
  unfold Returns
  rw [unfolded]
  by_cases points : (system.easies easy).multi = some multi
  · rw [if_pos points]
    have absent : easy ∉ (system.multis multi).requests := by
      intro mem
      cases points.symm.trans (drained.stale easy mem List.not_mem_nil)
    have unattached : easy ∉ (system.multis multi).attached := by
      rw [drained.attached]
      exact List.not_mem_nil
    have returns := easyMultiSet_none_returns reply points absent unattached
    exact ⟨system.forgotten multi easy, returns, drained.forgotten points⟩
  · rw [if_neg points]
    exact ⟨system, rfl, drained⟩

theorem maintains_clearIdleEasyReferences {replies : ObjectId → Reply} :
    Maintains (Draining multi []) (clearIdleEasyReferences multi replies) := by
  intro system drained
  have clears : Maintains (Draining multi []) ((system.multis multi).idleEasyReferences.forM
      fun easy => clearIdle multi easy (replies easy)) :=
    maintains_forM fun easy _ => maintains_clearIdle
  obtain ⟨after, returns, drained'⟩ := clears system drained
  refine ⟨after.setMulti multi { after.multis multi with idleEasyReferences := [] }, ?_, ?_⟩
  · show ((system.multis multi).idleEasyReferences.forM _ >>= fun _ => _ : SystemM Unit) system = _
    exact bind_returns_iff.mpr ⟨(), after, returns, rfl⟩
  · refine ⟨?_, ?_, ?_⟩
    · have same : (after.setMulti multi { after.multis multi with
          idleEasyReferences := [] }).synced multi = (after.synced multi).setMulti multi
            { (after.synced multi).multis multi with idleEasyReferences := [] } := by
        simp [System.synced]
      rw [same]
      exact inv_setMulti drained'.inv rfl rfl rfl rfl (drained'.inv.native multi).handle
    · rw [System.setMulti_self]
      exact drained'.attached
    · rw [System.setMulti_self]
      exact drained'.stale

/-! ## The end of a close -/

theorem inv_multiCloseNative (inv : Inv system) (empty : (system.multis multi).attached = []) :
    Inv (finalState (multiCloseNative multi) system) := by
  show Inv (finalState (ite _ _ _) system)
  split
  · exact inv
  · have before := inv.native multi
    have detached : finalState (do
          detachAll multi
          modifyMulti multi fun state => { state with
            handle := false
            held := []
            active := 0
            deferredException := false }) system =
        system.setMulti multi { system.multis multi with
          attached := []
          handle := false
          held := []
          active := 0
          deferredException := false } := by
      have returns : Returns (detachAll multi) system () (system.setMulti multi
          { system.multis multi with attached := [], active := 0 }) := by
        have unfolded : detachAll multi system = (do
            modifyMulti multi fun state => { state with attached := [] }
            (system.multis multi).attached.forM (detachEasyEntry multi)
            modifyMulti multi fun state => { state with active := 0 } : SystemM Unit) system := rfl
        rw [Returns, unfolded, empty]
        show EStateM.Result.ok () _ = _
        simp
      rw [returns.finalState_bind]
      show (System.setMulti _ multi _) = _
      simp
    rw [detached]
    apply inv_setMulti inv
    · rfl
    · exact empty.symm
    · rw [before.held, empty]
      rfl
    · rw [before.active, empty]
      rfl
    · exact fun _ => empty

/-- libcurl lets every handle of the multi go, or refuses the first. -/
def CloseAnswered (multi : ObjectId) (replies : ObjectId → Reply) (system : System) : Prop :=
  (∀ easy ∈ (system.multis multi).requests, replies easy = .ok ()) ∨
    ∃ easy error, (system.multis multi).requests.head? = some easy ∧ replies easy = .error error

theorem inv_close {permanent : Bool} {replies : ObjectId → Reply} (inv : Inv system)
    (answered : CloseAnswered multi replies system) :
    Inv (finalState (close permanent multi replies) system) := by
  show Inv (finalState ((system.multis multi).requests.forM _ >>= fun _ => _) system)
  rcases answered with accepted | ⟨easy, error, first, refused⟩
  · obtain ⟨after, returns, drained⟩ := drain_returns accepted (inv.draining multi)
    rw [returns.finalState_bind]
    have clears : Maintains (Draining multi []) (when permanent (clearIdleEasyReferences multi replies)) := by
      cases permanent with
      | true => exact maintains_clearIdleEasyReferences
      | false => exact fun system drained => ⟨system, rfl, drained⟩
    obtain ⟨cleared, returns', drained'⟩ := clears after drained
    rw [returns'.finalState_bind]
    have emptied : Inv (cleared.setMulti multi { cleared.multis multi with requests := [] }) := by
      have inv' := drained'.inv
      rwa [System.synced, drained'.attached] at inv'
    have closes : Inv (finalState (multiCloseNative multi)
        (cleared.setMulti multi { cleared.multis multi with requests := [] })) := by
      apply inv_multiCloseNative emptied
      rw [System.setMulti_self]
      exact drained'.attached
    apply finalState_bind_of_keeps closes
    intro _
    cases permanent with
    | true =>
      show Keeps Inv (modifyMulti multi fun state => { state with closed := true })
      exact keeps_modifyMulti fun _ => ⟨rfl, rfl, rfl, rfl, rfl⟩
    | false => exact keeps_pure
  · obtain ⟨rest, requests⟩ := List.head?_eq_some_iff.mp first
    rw [requests]
    have raises : Raises (List.forM (easy :: rest) fun easy =>
        multiRemoveNative multi easy (replies easy)) system error system := by
      refine bind_raises_iff.mpr (Or.inl ?_)
      show Raises (multiRemoveNative multi easy (replies easy)) system error system
      rw [refused]
      exact multiRemoveNative_error system multi easy error
    rw [raises.finalState_bind]
    exact inv

end Curb.Attachment

import Curb.Multi.CollectionInv
import Curb.Multi.Runs

/-!
# The operations of the program beside the garbage

One lemma for each operation: called with what is alive, it keeps what is alive apart from the garbage.
-/

namespace Curb.Attachment
open Curb.Misc Curb.Ruby

variable {garbage : List Object} {before system : System} {multi easy : ObjectId}

/-! ## What shrinks -/

theorem Shrunk.refl (system : System) : Shrunk system system :=
  ⟨fun _ => List.Subset.refl _, fun _ => List.Subset.refl _⟩

theorem Shrunk.setMulti {state : Multi} (shrunk : Shrunk before system)
    (attached : state.attached ⊆ (system.multis multi).attached)
    (idle : state.idleEasyReferences ⊆ (system.multis multi).idleEasyReferences) :
    Shrunk before (system.setMulti multi state) := by
  refine ⟨fun owner => ?_, fun owner => ?_⟩ <;> by_cases isMulti : owner = multi
  · rw [isMulti, System.setMulti_self]
    exact List.Subset.trans attached (shrunk.attached multi)
  · rw [System.setMulti_of_ne _ _ isMulti]
    exact shrunk.attached owner
  · rw [isMulti, System.setMulti_self]
    exact List.Subset.trans idle (shrunk.idle multi)
  · rw [System.setMulti_of_ne _ _ isMulti]
    exact shrunk.idle owner

theorem shrinks_modifyMulti {f : Multi → Multi} (attached : ∀ state, (f state).attached ⊆ state.attached)
    (idle : ∀ state, (f state).idleEasyReferences ⊆ state.idleEasyReferences) :
    Keeps (Shrunk before) (modifyMulti multi f) :=
  fun _ shrunk => shrunk.setMulti (attached _) (idle _)

/-- A flag or a counter of a multi, or its requests. -/
theorem shrinks_flag {f : Multi → Multi} (same : ∀ state, (f state).attached = state.attached ∧
    (f state).idleEasyReferences = state.idleEasyReferences) :
    Keeps (Shrunk before) (modifyMulti multi f) := by
  refine shrinks_modifyMulti (fun state => ?_) fun state => ?_
  · rw [(same state).1]
    exact List.Subset.refl _
  · rw [(same state).2]
    exact List.Subset.refl _

theorem shrinks_modifyEasy {f : Easy → Easy} : Keeps (Shrunk before) (modifyEasy easy f) :=
  fun _ shrunk => ⟨shrunk.attached, shrunk.idle⟩

theorem shrinks_curlMultiRemoveHandle : Keeps (Shrunk before) (curlMultiRemoveHandle multi easy) :=
  fun _ shrunk => shrunk.setMulti (List.Subset.refl _) (List.Subset.refl _)

theorem keeps_checkReply {P : System → Prop} {reply : Reply} : Keeps P (checkReply reply) := by
  cases reply with
  | ok value => exact keeps_pure
  | error error => exact keeps_throw

theorem shrinks_forgetEasy : Keeps (Shrunk before) (forgetEasy multi easy) :=
  shrinks_modifyMulti (fun _ => List.erase_subset) fun _ => List.Subset.refl _

theorem shrinks_multiRemoveNative {reply : Reply} :
    Keeps (Shrunk before) (multiRemoveNative multi easy reply) := by
  refine keeps_bind keeps_checkReply fun _ => keeps_bind shrinks_curlMultiRemoveHandle fun _ => ?_
  refine keeps_bind (shrinks_flag fun _ => ⟨rfl, rfl⟩) fun _ => ?_
  exact keeps_bind shrinks_modifyEasy fun _ => shrinks_forgetEasy

theorem shrinks_remove {reply : Reply} : Keeps (Shrunk before) (remove multi easy reply) := by
  refine keeps_bind keeps_get fun system => ?_
  show Keeps _ (ite _ _ _)
  split
  · exact keeps_bind (shrinks_flag fun _ => ⟨rfl, rfl⟩) fun _ => shrinks_multiRemoveNative
  · exact keeps_pure

theorem shrinks_detachOld {old : Option ObjectId} {reply : Reply} :
    Keeps (Shrunk before) (detachOld old easy reply) := by
  cases old with
  | none => exact keeps_pure
  | some multi =>
    refine keeps_bind keeps_get fun system => ?_
    show Keeps _ (ite _ _ _)
    split
    · refine keeps_bind shrinks_forgetEasy fun _ => keeps_bind keeps_checkReply fun _ => ?_
      refine keeps_bind shrinks_curlMultiRemoveHandle fun _ => ?_
      exact shrinks_flag fun _ => ⟨rfl, rfl⟩
    · exact keeps_pure

theorem shrinks_unregisterIdle {target : Option ObjectId} :
    Keeps (Shrunk before) (unregisterIdle target easy) := by
  cases target with
  | none => exact keeps_pure
  | some multi =>
    unfold unregisterIdle
    exact shrinks_modifyMulti (fun _ => List.Subset.refl _) fun _ => List.erase_subset

theorem shrinks_removeFromPrevious {previous : Option ObjectId} {reply : Reply} :
    Keeps (Shrunk before) (removeFromPrevious previous easy reply) := by
  cases previous with
  | none => exact keeps_pure
  | some multi => exact shrinks_remove

/-- `easy.multi = nil`. -/
theorem shrinks_easyMultiSet_none {reply : Reply} :
    Keeps (Shrunk before) (easyMultiSet easy none reply) := by
  refine keeps_bind keeps_get fun system => ?_
  show Keeps _ (ite _ _ _)
  split
  · exact keeps_pure
  · refine keeps_bind shrinks_removeFromPrevious fun _ => keeps_bind ?_ fun _ =>
      keeps_bind shrinks_unregisterIdle fun _ => keeps_pure
    refine keeps_bind keeps_get fun system => ?_
    show Keeps _ (ite _ _ _)
    split
    · exact keeps_pure
    · exact keeps_bind shrinks_detachOld fun _ => shrinks_modifyEasy

theorem shrinks_clearIdle {reply : Reply} : Keeps (Shrunk before) (clearIdle multi easy reply) := by
  refine keeps_bind keeps_get fun system => ?_
  show Keeps _ (ite _ _ _)
  split
  · exact shrinks_easyMultiSet_none
  · exact keeps_pure

/-- What libcurl answers for stays so while the native tables shrink. -/
theorem Heap.RefusesOthers.shrunk {reply : Reply} {after : System}
    (refuses : Heap.RefusesOthers system multi easy reply) (shrunk : Shrunk system after) :
    Heap.RefusesOthers after multi easy reply :=
  fun other ne mem => refuses other ne (shrunk.attached other mem)

theorem Heap.Grants.shrunk {reply : Reply} {after : System} (grants : Heap.Grants system easy reply)
    (shrunk : Shrunk system after) : Heap.Grants after easy reply :=
  fun owner mem => grants owner (shrunk.attached owner mem)

/-! ## Fields beside the tables -/

theorem keeps_kept_modifyMulti {f : Multi → Multi} (live : .multi multi ∉ garbage)
    (attached : ∀ state, (f state).attached = state.attached)
    (held : ∀ state, (f state).held = state.held)
    (requests : ∀ state, (f state).requests ⊆ state.requests)
    (completions : ∀ state, (f state).completions ⊆ state.completions)
    (idle : ∀ state, (f state).idleEasyReferences ⊆ state.idleEasyReferences) :
    Keeps (Kept garbage before) (modifyMulti multi f) := by
  intro system kept
  refine kept_setMulti kept live (attached _) (held _) ?_
  refine (kept.separate.alive multi live).mono ?_ (requests _) (completions _) (idle _)
  rw [attached]
  exact List.Subset.refl _

/-- A flag or a counter. -/
theorem keeps_kept_flag {f : Multi → Multi} (live : .multi multi ∉ garbage)
    (same : ∀ state, (f state).attached = state.attached ∧ (f state).held = state.held ∧
      (f state).requests = state.requests ∧ (f state).completions = state.completions ∧
      (f state).idleEasyReferences = state.idleEasyReferences) :
    Keeps (Kept garbage before) (modifyMulti multi f) := by
  refine keeps_kept_modifyMulti live (fun state => (same state).1) (fun state => (same state).2.1) ?_ ?_ ?_
  · intro state
    rw [(same state).2.2.1]
    exact List.Subset.refl _
  · intro state
    rw [(same state).2.2.2.1]
    exact List.Subset.refl _
  · intro state
    rw [(same state).2.2.2.2]
    exact List.Subset.refl _

theorem keeps_kept_unregisterIdle {target : Option ObjectId}
    (live : ∀ multi ∈ target, .multi multi ∉ garbage) :
    Keeps (Kept garbage before) (unregisterIdle target easy) := by
  cases target with
  | none => exact keeps_pure
  | some multi =>
    unfold unregisterIdle
    exact keeps_kept_modifyMulti (live multi rfl) (fun _ => rfl) (fun _ => rfl)
      (fun _ => List.Subset.refl _) (fun _ => List.Subset.refl _) fun _ => List.erase_subset

theorem keeps_kept_registerIdle {target : Option ObjectId}
    (live : ∀ multi ∈ target, .multi multi ∉ garbage) (liveEasy : .easy easy ∉ garbage) :
    Keeps (Kept garbage before) (registerIdle target easy) := by
  cases target with
  | none => exact keeps_pure
  | some multi =>
    intro system kept
    refine kept_setMulti kept (live multi rfl) rfl rfl ?_
    have alive := kept.separate.alive multi (live multi rfl)
    rintro other (member | idle)
    · exact alive other (Or.inl member)
    · rcases List.mem_append.mp idle with old | new
      · exact alive other (Or.inr (List.mem_of_mem_erase old))
      · rw [List.mem_singleton.mp new]
        exact liveEasy

theorem keeps_kept_deleteRequest (live : .multi multi ∉ garbage) :
    Keeps (Kept garbage before) (deleteRequest multi easy) :=
  keeps_kept_modifyMulti live (fun _ => rfl) (fun _ => rfl) (fun _ => List.erase_subset)
    (fun _ => List.Subset.refl _) fun _ => List.Subset.refl _

/-! ## Taking handles off -/

/-- libcurl's list and the native table without a handle, which points to `target` then. -/
theorem kept_takenOff {state : Multi} {record : Easy} (kept : Kept garbage before system)
    (liveMulti : .multi multi ∉ garbage) (liveEasy : .easy easy ∉ garbage)
    (curl : record.curl = (system.easies easy).curl)
    (apart : ∀ owner, owner ≠ multi → easy ∉ (system.multis owner).attached)
    (held : state.held = (system.multis multi).held.erase (system.curlOf easy))
    (attached : state.attached = (system.multis multi).attached.erase easy)
    (target : ∀ owner, record.multi = some owner → .multi owner ∉ garbage)
    (alive : state.Alive garbage) :
    Kept garbage before ((system.setMulti multi state).setEasy easy record) := by
  have agrees := kept.separate.agrees multi
  refine kept_set kept liveMulti liveEasy curl apart ?_ ?_ ?_ ?_ target alive
  · rw [held, attached, agrees.held, List.map_erase (curlOf_injective system)]
  · rw [attached]
    exact agrees.nodup.erase easy
  · intro other mem _
    rw [attached] at mem
    exact agrees.backPointer other (List.mem_of_mem_erase mem)
  · intro mem
    rw [attached] at mem
    exact absurd mem agrees.nodup.not_mem_erase

theorem kept_multiRemoveNative {reply : Reply} (kept : Kept garbage before system)
    (liveMulti : .multi multi ∉ garbage) (liveEasy : .easy easy ∉ garbage)
    (refuses : Heap.RefusesOthers system multi easy reply) :
    Kept garbage before (finalState (multiRemoveNative multi easy reply) system) := by
  cases reply with
  | error error => exact kept
  | ok value =>
    rw [(multiRemoveNative_ok system multi easy).finalState_eq]
    have alive := kept.separate.alive multi liveMulti
    refine kept_takenOff kept liveMulti liveEasy rfl (fun owner ne mem => refuses owner ne mem rfl) rfl rfl
      (fun _ points => Option.some_ne_none _ points.symm |>.elim) ?_
    exact alive.mono List.erase_subset (List.Subset.refl _) (List.Subset.refl _) (List.Subset.refl _)

theorem kept_remove {reply : Reply} (kept : Kept garbage before system)
    (liveMulti : .multi multi ∉ garbage) (refuses : Heap.RefusesOthers system multi easy reply) :
    Kept garbage before (finalState (remove multi easy reply) system) := by
  show Kept garbage before (finalState (ite (easy ∈ (system.multis multi).requests) _ (pure ())) system)
  split
  · rename_i requested
    have member : easy ∈ (system.multis multi).members := by
      unfold Multi.members
      exact List.mem_append_left _ (List.mem_append_right _ requested)
    have liveEasy := kept.separate.alive multi liveMulti easy (Or.inl member)
    have deleted : Returns (deleteRequest multi easy) system () (system.setMulti multi
        { system.multis multi with requests := (system.multis multi).requests.erase easy }) := rfl
    have after := @keeps_kept_deleteRequest garbage before multi easy liveMulti system kept
    rw [deleted.finalState_bind]
    refine kept_multiRemoveNative after liveMulti liveEasy (refuses.shrunk ?_)
    exact (Shrunk.refl system).setMulti (List.Subset.refl _) (List.Subset.refl _)
  · exact kept

/-- One operation for each of some handles. -/
theorem kept_forM {f : ObjectId → SystemM Unit} {easies : List ObjectId} (kept : Kept garbage before system)
    (each : ∀ easy ∈ easies, ∀ after, Kept garbage before after → Shrunk system after →
      Kept garbage before (finalState (f easy) after))
    (shrinks : ∀ easy, Keeps (Shrunk system) (f easy)) :
    Kept garbage before (finalState (easies.forM f) system) ∧
      Shrunk system (finalState (easies.forM f) system) := by
  have keeps : Keeps (fun after => Kept garbage before after ∧ Shrunk system after) (easies.forM f) := by
    refine keeps_forM fun easy mem after holds => ?_
    exact ⟨each easy mem after holds.1 holds.2, shrinks easy after holds.2⟩
  exact keeps system ⟨kept, .refl system⟩

theorem kept_cancel {replies : ObjectId → Reply} (kept : Kept garbage before system)
    (live : .multi multi ∉ garbage)
    (refuses : ∀ easy ∈ (system.multis multi).requests,
      Heap.RefusesOthers system multi easy (replies easy)) :
    Kept garbage before (finalState (cancel multi replies) system) := by
  have loop := @kept_forM garbage before system (fun easy => remove multi easy (replies easy))
    (system.multis multi).requests kept
    (fun easy mem after holds shrunk => kept_remove holds live ((refuses easy mem).shrunk shrunk))
    fun _ => shrinks_remove
  exact loop.1

/-! ## Additions -/

theorem keeps_kept_ensureHandle (live : .multi multi ∉ garbage) :
    Keeps (Kept garbage before) (ensureHandle multi) := by
  intro system kept
  show Kept garbage before (finalState (ite ((system.multis multi).handle = true) (pure ()) _) system)
  split
  · exact kept
  split
  · exact kept
  · refine kept_setTables kept live rfl List.nodup_nil (fun _ => List.not_mem_nil.elim) ?_
    have alive := kept.separate.alive multi live
    exact alive.mono (List.nil_subset _) (List.Subset.refl _) (List.Subset.refl _) (List.Subset.refl _)

theorem kept_added (kept : Kept garbage before system) (liveMulti : .multi multi ∉ garbage)
    (liveEasy : .easy easy ∉ garbage) (apart : ∀ owner, easy ∉ (system.multis owner).attached) :
    Kept garbage before (system.added multi easy) := by
  have agrees := kept.separate.agrees multi
  have alive := kept.separate.alive multi liveMulti
  refine kept_set kept liveMulti liveEasy rfl (fun owner _ => apart owner) ?_ ?_ ?_ (fun _ => rfl) ?_ ?_
  · show (system.multis multi).held ++ [system.curlOf easy] = List.map _ (_ ++ [easy])
    rw [agrees.held, List.map_append]
    rfl
  · exact List.Nodup.append agrees.nodup (List.nodup_singleton easy)
      (List.disjoint_singleton.mpr (apart multi))
  · intro other mem ne
    rcases List.mem_append.mp mem with old | new
    · exact agrees.backPointer other old
    · exact absurd (List.mem_singleton.mp new) ne
  · intro owner points
    rw [← Option.some.inj points]
    exact liveMulti
  · rintro other (member | idle)
    · by_cases same : other = easy
      · rw [same]
        exact liveEasy
      · refine alive other (Or.inl ?_)
        unfold Multi.members at member ⊢
        simp only [List.mem_append, List.mem_singleton, same, or_false] at member ⊢
        exact member
    · exact alive other (Or.inr (List.mem_of_mem_erase idle))

theorem keeps_kept_addRequest (live : .multi multi ∉ garbage) (liveEasy : .easy easy ∉ garbage) :
    Keeps (Kept garbage before) (do
      unregisterIdle (some multi) easy
      modifyMulti multi fun state => { state with requests := state.requests ++ [easy] }) := by
  refine keeps_bind (keeps_kept_unregisterIdle fun owner same => Option.some.inj same ▸ live) fun _ => ?_
  intro system kept
  refine kept_setMulti kept live rfl rfl ?_
  have alive := kept.separate.alive multi live
  rintro other (member | idle)
  · by_cases same : other = easy
    · rw [same]
      exact liveEasy
    · refine alive other (Or.inl ?_)
      unfold Multi.members at member ⊢
      simp only [List.mem_append, List.mem_singleton, same, or_false] at member ⊢
      exact member
  · exact alive other (Or.inr idle)

theorem kept_attach {setup reply : Reply} (kept : Kept garbage before system)
    (liveMulti : .multi multi ∉ garbage) (liveEasy : .easy easy ∉ garbage) :
    Kept garbage before (finalState (do
      attachNative multi easy setup reply
      unregisterIdle (some multi) easy
      modifyMulti multi fun state => { state with requests := state.requests ++ [easy] }) system) := by
  by_cases attached : easy ∈ (system.multis multi).attached
  · have returns : Returns (attachNative multi easy setup reply) system () system := by
      show (ite (easy ∈ (system.multis multi).attached) (pure ()) _ : SystemM Unit) system = _
      rw [if_pos attached]
      rfl
    rw [returns.finalState_bind]
    exact keeps_kept_addRequest liveMulti liveEasy system kept
  have points := fun owner mem => (kept.separate.agrees owner).backPointer easy mem
  rcases attachNative_cases setup reply points attached with ⟨error, raises⟩ | ⟨apart, after, returns, sum⟩
  · rw [raises.finalState_bind]
    exact kept
  · have same : finalState (do
        unregisterIdle (some multi) easy
        modifyMulti multi fun state => { state with requests := state.requests ++ [easy] }) after =
          system.added multi easy := by
      rw [← sum]
      show System.setMulti (System.setMulti _ multi _) multi _ = _
      simp
    rw [returns.finalState_bind, same]
    exact kept_added kept liveMulti liveEasy apart

theorem keeps_kept_add {safety setup reply : Reply} (liveMulti : .multi multi ∉ garbage)
    (liveEasy : .easy easy ∉ garbage) :
    Keeps (Kept garbage before) (add multi easy safety setup reply) := by
  intro system kept
  show Kept garbage before (finalState (ite (easy ∈ (system.multis multi).requests) _ _) system)
  split
  · exact kept
  split
  · exact kept
  cases safety with
  | error error => exact kept
  | ok value =>
    have shape : (do
        multiAddNative multi easy setup reply
        unregisterIdle (some multi) easy
        modifyMulti multi fun state => { state with requests := state.requests ++ [easy] } : SystemM Unit) =
        (do
          ensureHandle multi
          attachNative multi easy setup reply
          unregisterIdle (some multi) easy
          modifyMulti multi fun state => { state with requests := state.requests ++ [easy] }) := by
      rw [multiAddNative, bind_assoc]
    show Kept garbage before (finalState (multiAddNative multi easy setup reply >>= _) system)
    rw [shape]
    refine keeps_bind (keeps_kept_ensureHandle liveMulti) (fun _ => ?_) system kept
    exact fun after ready => kept_attach ready liveMulti liveEasy

/-! ## Giving a handle another multi -/

/-- The multi that a live handle points to lets it go, where it has it. -/
theorem kept_detachOld {reply : Reply} (kept : Kept garbage before system) (live : .easy easy ∉ garbage)
    (grants : Heap.Grants system easy reply) :
    ∃ after, Returns (detachOld (system.easies easy).multi easy reply) system () after ∧
      Kept garbage before after ∧ ∀ owner, easy ∉ (after.multis owner).attached := by
  cases points : (system.easies easy).multi with
  | none =>
    refine ⟨system, rfl, kept, fun owner mem => ?_⟩
    exact Option.some_ne_none _ (((kept.separate.agrees owner).backPointer easy mem).symm.trans points)
  | some multi =>
    have liveMulti := kept.separate.pointer easy multi live points
    by_cases mem : easy ∈ (system.multis multi).attached
    · have apart := kept.separate.apart mem
      let state := { system.multis multi with
        held := (system.multis multi).held.erase (system.curlOf easy)
        active := (system.multis multi).active - 1
        attached := (system.multis multi).attached.erase easy }
      refine ⟨system.setMulti multi state, ?_, ?_, fun owner inside => ?_⟩
      · rw [grants multi mem]
        show (ite (easy ∈ (system.multis multi).attached) _ (pure ()) : SystemM Unit) system = _
        rw [if_pos mem]
        show EStateM.Result.ok () _ = _
        simp [state, System.curlOf]
      · rw [← System.setEasy_same (system.setMulti multi state) easy]
        refine kept_takenOff kept liveMulti live rfl apart rfl rfl
          (fun owner => kept.separate.pointer easy owner live) ?_
        exact (kept.separate.alive multi liveMulti).mono List.erase_subset (List.Subset.refl _)
          (List.Subset.refl _) (List.Subset.refl _)
      · by_cases isMulti : owner = multi
        · rw [isMulti, System.setMulti_self] at inside
          exact (kept.separate.agrees multi).nodup.not_mem_erase inside
        · rw [System.setMulti_of_ne _ _ isMulti] at inside
          exact apart owner isMulti inside
    · refine ⟨system, ?_, kept, fun owner inside => ?_⟩
      · show (ite (easy ∈ (system.multis multi).attached) _ (pure ()) : SystemM Unit) system = _
        rw [if_neg mem]
        rfl
      · rw [kept.separate.attached_unique points inside] at inside
        exact mem inside

theorem kept_easyMultiSetNative {reply : Reply} {target : Option ObjectId}
    (kept : Kept garbage before system) (live : .easy easy ∉ garbage)
    (liveTarget : ∀ multi ∈ target, .multi multi ∉ garbage) (grants : Heap.Grants system easy reply) :
    Kept garbage before (finalState (easyMultiSetNative easy target reply) system) := by
  show Kept garbage before (finalState (ite ((system.easies easy).multi = target) (pure ()) _) system)
  split
  · exact kept
  · obtain ⟨after, returns, kept', apart⟩ := kept_detachOld kept live grants
    rw [returns.finalState_bind]
    exact kept_setEasy_apart kept' live apart liveTarget

theorem kept_removeFromPrevious {reply : Reply} (kept : Kept garbage before system)
    (live : .easy easy ∉ garbage) :
    Kept garbage before (finalState (removeFromPrevious (system.easies easy).multi easy reply) system) := by
  cases points : (system.easies easy).multi with
  | none => exact kept
  | some multi =>
    refine kept_remove kept (kept.separate.pointer easy multi live points) fun other ne mem => ?_
    exact absurd (kept.separate.attached_unique points mem) ne

theorem kept_easyMultiSet {reply : Reply} {target : Option ObjectId} (kept : Kept garbage before system)
    (live : .easy easy ∉ garbage) (liveTarget : ∀ multi ∈ target, .multi multi ∉ garbage)
    (grants : Heap.Grants system easy reply) :
    Kept garbage before (finalState (easyMultiSet easy target reply) system) := by
  show Kept garbage before (finalState (ite ((system.easies easy).multi = target) (pure ()) _) system)
  split
  · exact kept
  · have first : Kept garbage before (finalState (removeFromPrevious (system.easies easy).multi easy reply)
        system) ∧ Shrunk system (finalState (removeFromPrevious (system.easies easy).multi easy reply)
          system) := ⟨kept_removeFromPrevious kept live, shrinks_removeFromPrevious _ (.refl system)⟩
    have livePrevious : ∀ multi ∈ (system.easies easy).multi, .multi multi ∉ garbage :=
      fun multi => kept.separate.pointer easy multi live
    have rest : Kept garbage before (finalState (do
        easyMultiSetNative easy target reply
        unregisterIdle (system.easies easy).multi easy
        registerIdle target easy)
          (finalState (removeFromPrevious (system.easies easy).multi easy reply) system)) := by
      refine finalState_bind_of_keeps ?_ fun _ => ?_
      · exact kept_easyMultiSetNative first.1 live liveTarget (grants.shrunk first.2)
      · exact keeps_bind (keeps_kept_unregisterIdle livePrevious) fun _ =>
          keeps_kept_registerIdle liveTarget live
    cases removed : removeFromPrevious (system.easies easy).multi easy reply system with
    | ok value after =>
      have returns : Returns (removeFromPrevious (system.easies easy).multi easy reply) system value after :=
        removed
      rw [returns.finalState_eq] at rest
      rw [returns.finalState_bind]
      exact rest
    | error error after =>
      have raises : Raises (removeFromPrevious (system.easies easy).multi easy reply) system error after :=
        removed
      rw [raises.finalState_bind, ← raises.finalState_eq]
      exact first.1

/-! ## Closing -/

/-- A handle leaves the multi it points to, and points nowhere. -/
theorem kept_freeFromMulti {reply : Reply} (kept : Kept garbage before system)
    (live : .easy easy ∉ garbage) (grants : Heap.Grants system easy reply) :
    ∃ after, Returns (freeFromMulti (system.easies easy).multi easy reply) system () after ∧
      Kept garbage before after ∧ ∀ owner, easy ∉ (after.multis owner).attached := by
  cases points : (system.easies easy).multi with
  | none =>
    refine ⟨system, rfl, kept, fun owner mem => ?_⟩
    exact Option.some_ne_none _ (((kept.separate.agrees owner).backPointer easy mem).symm.trans points)
  | some multi =>
    have liveMulti := kept.separate.pointer easy multi live points
    have agrees := kept.separate.agrees multi
    have apart : ∀ owner, owner ≠ multi → easy ∉ (system.multis owner).attached :=
      fun owner ne mem => ne (kept.separate.attached_unique points mem)
    let freed := (system.setMulti multi { system.multis multi with
      held := (system.multis multi).held.erase (system.curlOf easy)
      attached := (system.multis multi).attached.erase easy }).setEasy easy
        { system.easies easy with multi := none }
    refine ⟨freed, ?_, ?_, fun owner inside => ?_⟩
    · cases reply with
      | ok value =>
        show EStateM.Result.ok () _ = _
        simp [freed, System.curlOf]
      | error error =>
        -- libcurl has no reason to refuse a handle it holds
        have absent : easy ∉ (system.multis multi).attached := by
          intro mem
          cases grants multi mem
        show EStateM.Result.ok () _ = _
        simp [freed, List.erase_of_not_mem (agrees.unheld absent)]
    · refine kept_takenOff kept liveMulti live rfl apart rfl rfl
        (fun _ nowhere => (Option.some_ne_none _ nowhere.symm).elim) ?_
      exact (kept.separate.alive multi liveMulti).mono List.erase_subset (List.Subset.refl _)
        (List.Subset.refl _) (List.Subset.refl _)
    · change easy ∈ ((system.setMulti multi _).multis owner).attached at inside
      by_cases isMulti : owner = multi
      · rw [isMulti, System.setMulti_self] at inside
        exact agrees.nodup.not_mem_erase inside
      · rw [System.setMulti_of_ne _ _ isMulti] at inside
        exact apart owner isMulti inside

theorem kept_easyClose {reply : Reply} (kept : Kept garbage before system) (live : .easy easy ∉ garbage)
    (grants : Heap.Grants system easy reply) :
    Kept garbage before (finalState (easyClose easy reply) system) := by
  have livePrevious : ∀ multi ∈ (system.easies easy).multi, .multi multi ∉ garbage :=
    fun multi => kept.separate.pointer easy multi live
  refine finalState_bind_of_keeps (f := fun _ => unregisterIdle (system.easies easy).multi easy) ?_
    fun _ => keeps_kept_unregisterIdle livePrevious
  show Kept garbage before (finalState (ite ((system.easies easy).callbackActive = true) _ _) system)
  split
  · exact kept
  show Kept garbage before (finalState (ite ((system.easies easy).nativeActive ≠ 0) _ _) system)
  split
  · exact kept
  · obtain ⟨after, returns, kept', apart⟩ := kept_freeFromMulti kept live grants
    rw [returns.finalState_bind]
    exact kept_setEasy_apart kept' live apart fun _ nowhere => (Option.some_ne_none _ nowhere.symm).elim

end Curb.Attachment

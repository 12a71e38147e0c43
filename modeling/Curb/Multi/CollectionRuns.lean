import Curb.Multi.CollectionOps

/-!
# Collecting while the program runs

The free functions of handles and multis touch nothing that has been freed, take every `CURL *` off
libcurl before it is cleaned up, and leave what is alive as it is, in whatever order garbage is swept
between the operations of the program.
-/

namespace Curb.Attachment
open Curb.Misc Curb.Ruby

variable {garbage : List Object} {before system : System} {multi easy : ObjectId}

/-! ## Detaching all handles of a multi -/

/-- These handles point nowhere. -/
def System.cleared (system : System) (easies : List ObjectId) : System :=
  { system with easies := fun easy =>
      if easy ∈ easies then { system.easies easy with multi := none } else system.easies easy }

@[simp] theorem System.cleared_multis (easies : List ObjectId) :
    (system.cleared easies).multis = system.multis := rfl

theorem System.cleared_curlOf (easies : List ObjectId) : (system.cleared easies).curlOf = system.curlOf := by
  funext easy
  show (easy, (ite (easy ∈ easies) _ _ : Easy).curl) = _
  split <;> rfl

theorem detachEasyEntries_returns (easies : List ObjectId) (system : System) :
    Returns (easies.forM (detachEasyEntry multi)) system () ((system.setMulti multi
      { system.multis multi with
        held := (system.multis multi).held.diff (easies.map system.curlOf) }).cleared easies) := by
  induction easies generalizing system with
  | nil =>
    rw [List.map_nil, List.diff_nil]
    show EStateM.Result.ok () system =
      .ok () ((system.setMulti multi (system.multis multi)).cleared [])
    rw [System.setMulti_same]
    simp [System.cleared]
  | cons easy easies ih =>
    let first := (system.setMulti multi { system.multis multi with
      held := (system.multis multi).held.erase (system.curlOf easy) }).setEasy easy
        { system.easies easy with multi := none }
    have entry : Returns (detachEasyEntry multi easy) system () first := rfl
    have curlOf : first.curlOf = system.curlOf := by
      funext other
      by_cases same : other = easy
      · rw [System.curlOf, System.curlOf, same, System.setEasy_self]
      · rw [System.curlOf, System.curlOf, System.setEasy_of_ne _ _ same, System.setMulti_easies]
    have rest := ih first
    show (detachEasyEntry multi easy >>= fun _ => easies.forM (detachEasyEntry multi)) system = _
    rw [entry.bind_eq]
    refine rest.trans (congrArg (EStateM.Result.ok ()) ?_)
    have held : (first.multis multi).held = (system.multis multi).held.erase (system.curlOf easy) := by
      rw [System.setEasy_multis, System.setMulti_self]
    rw [curlOf, held, List.map_cons, List.diff_cons]
    unfold System.cleared
    refine congrArg₂ System.mk (funext fun other => ?_) ?_
    · by_cases same : other = easy
      · simp [first, same]
      · simp [first, same]
    · show Function.update (Function.update system.multis multi _) multi _ = _
      simp [first]
      rfl

/-- `rb_curl_multi_detach_all` leaves libcurl nothing of what the native table has. -/
theorem detachAll_returns (agrees : NativeAgrees system multi) :
    Returns (detachAll multi) system () ((system.setMulti multi { system.multis multi with
      attached := []
      held := []
      active := 0 }).cleared (system.multis multi).attached) := by
  let emptied := system.setMulti multi { system.multis multi with attached := [] }
  have entries := @detachEasyEntries_returns multi (system.multis multi).attached emptied
  have none_left : (system.multis multi).held.diff
      ((system.multis multi).attached.map emptied.curlOf) = [] := by
    show (system.multis multi).held.diff ((system.multis multi).attached.map system.curlOf) = []
    rw [← agrees.held, List.eq_nil_iff_forall_not_mem]
    intro curl mem
    have nodup : (system.multis multi).held.Nodup := by
      rw [agrees.held]
      exact agrees.nodup.map (curlOf_injective system)
    exact (nodup.mem_sdiff_iff.mp mem).2 (nodup.mem_sdiff_iff.mp mem).1
  have start : Returns (do
      modifyMulti multi fun state => { state with attached := [] }
      (system.multis multi).attached.forM (detachEasyEntry multi)) system () _ :=
    bind_returns_iff.mpr ⟨(), emptied, rfl, entries⟩
  show (((do
      modifyMulti multi fun state => { state with attached := [] }
      (system.multis multi).attached.forM (detachEasyEntry multi)) : SystemM Unit) >>= fun _ =>
        modifyMulti multi fun state => { state with active := 0 }) system = _
  rw [start.bind_eq]
  show EStateM.Result.ok () _ = _
  simp only [emptied, System.setMulti_self, none_left, System.setMulti_setMulti]
  simp [System.setMulti, System.cleared]

/-- What is alive stays apart from the garbage when a multi, alive or not, loses its handles. -/
theorem separate_detached {state : Multi} (separate : Separate garbage system)
    (attached : state.attached = []) (held : state.held = [])
    (alive : .multi multi ∉ garbage → state.Alive garbage) :
    Separate garbage ((system.setMulti multi state).cleared (system.multis multi).attached) := by
  refine ⟨fun owner => ?_, fun other owner live points => ?_, fun owner live => ?_, fun other dead => ?_⟩
  · by_cases isMulti : owner = multi
    · rw [isMulti]
      refine ⟨?_, ?_, ?_⟩ <;> rw [System.cleared_multis, System.setMulti_self, attached]
      · exact held
      · exact List.nodup_nil
      · exact fun _ => List.not_mem_nil.elim
    · have agrees := separate.agrees owner
      refine ⟨?_, ?_, ?_⟩ <;> rw [System.cleared_multis, System.setMulti_of_ne _ _ isMulti]
      · rw [System.cleared_curlOf]
        exact agrees.held
      · exact agrees.nodup
      · intro other mem
        have points := agrees.backPointer other mem
        have absent : other ∉ (system.multis multi).attached :=
          fun here => isMulti (separate.attached_unique ((separate.agrees multi).backPointer other here) mem)
        show (ite (other ∈ (system.multis multi).attached) _ _ : Easy).multi = some owner
        rw [if_neg absent]
        exact points
  · change (ite (other ∈ (system.multis multi).attached) _ _ : Easy).multi = some owner at points
    split at points
    · cases points
    · exact separate.pointer other owner live points
  · by_cases isMulti : owner = multi
    · rw [isMulti, System.cleared_multis, System.setMulti_self]
      exact alive (isMulti ▸ live)
    · rw [System.cleared_multis, System.setMulti_of_ne _ _ isMulti]
      exact separate.alive owner live
  · have quiet := separate.running other dead
    show (ite (other ∈ (system.multis multi).attached) _ _ : Easy).callbackActive = false
    split <;> exact quiet

/-- The handles of a live multi are alive. -/
theorem untouched_detached {state : Multi} (kept : Kept garbage before system)
    (live : .multi multi ∉ garbage) :
    Untouched garbage before ((system.setMulti multi state).cleared (system.multis multi).attached) := by
  refine ⟨fun other dead => ?_, (kept.untouched.setMulti live).multis⟩
  have absent : other ∉ (system.multis multi).attached := by
    intro mem
    have member : other ∈ (system.multis multi).members := by
      unfold Multi.members
      exact List.mem_append_left _ (List.mem_append_left _ mem)
    exact kept.separate.alive multi live other (Or.inl member) dead
  show (ite (other ∈ (system.multis multi).attached) _ _ : Easy) = _
  rw [if_neg absent]
  exact kept.untouched.easies other dead

theorem keeps_kept_multiCloseNative (live : .multi multi ∉ garbage) :
    Keeps (Kept garbage before) (multiCloseNative multi) := by
  intro system kept
  show Kept garbage before (finalState (ite ((((system.multis multi).performActive ||
    (system.multis multi).callbackActive) && !(system.multis multi).allowCloseDuringPerform) = true) _ _)
      system)
  split
  · exact kept
  · rw [(detachAll_returns (kept.separate.agrees multi)).finalState_bind]
    have alive := kept.separate.alive multi live
    have detached : Kept garbage before ((system.setMulti multi { system.multis multi with
        attached := []
        held := []
        active := 0 }).cleared (system.multis multi).attached) := by
      refine ⟨separate_detached kept.separate rfl rfl fun _ => ?_, untouched_detached kept live⟩
      exact alive.mono (List.nil_subset _) (List.Subset.refl _) (List.Subset.refl _) (List.Subset.refl _)
    refine kept_setMulti detached live rfl ?_ ?_
    · rw [System.cleared_multis, System.setMulti_self]
    · exact (detached.separate.alive multi live).mono (List.Subset.refl _) (List.Subset.refl _)
        (List.Subset.refl _) (List.Subset.refl _)

/-! ## `Multi#close` -/

theorem kept_clearIdle {reply : Reply} (kept : Kept garbage before system) (live : .easy easy ∉ garbage)
    (grants : Heap.Grants system easy reply) :
    Kept garbage before (finalState (clearIdle multi easy reply) system) := by
  show Kept garbage before (finalState (ite ((system.easies easy).multi = some multi) _ (pure ())) system)
  split
  · exact kept_easyMultiSet kept live (fun _ nowhere => (Option.some_ne_none _ nowhere.symm).elim) grants
  · exact kept

/-- The removals of a close keep the handles apart from the garbage, and add none. -/
theorem kept_removals {replies : ObjectId → Reply} (kept : Kept garbage before system)
    (live : .multi multi ∉ garbage)
    (refuses : ∀ easy ∈ (system.multis multi).requests,
      Heap.RefusesOthers system multi easy (replies easy)) :
    Kept garbage before (finalState ((system.multis multi).requests.forM fun easy =>
        multiRemoveNative multi easy (replies easy)) system) ∧
      Shrunk system (finalState ((system.multis multi).requests.forM fun easy =>
        multiRemoveNative multi easy (replies easy)) system) := by
  refine kept_forM kept (fun easy mem after holds shrunk => ?_) fun _ => shrinks_multiRemoveNative
  have member : easy ∈ (system.multis multi).members := by
    unfold Multi.members
    exact List.mem_append_left _ (List.mem_append_right _ mem)
  have liveEasy := kept.separate.alive multi live easy (Or.inl member)
  exact kept_multiRemoveNative holds live liveEasy ((refuses easy mem).shrunk shrunk)

theorem kept_clearIdleEasyReferences {replies : ObjectId → Reply} {after : System}
    (kept : Kept garbage before after) (shrunk : Shrunk system after) (live : .multi multi ∉ garbage)
    (grants : ∀ easy ∈ (system.multis multi).idleEasyReferences, Heap.Grants system easy (replies easy)) :
    Kept garbage before (finalState (clearIdleEasyReferences multi replies) after) := by
  have loop := @kept_forM garbage before after (fun easy => clearIdle multi easy (replies easy))
    (after.multis multi).idleEasyReferences kept (fun easy mem later holds shrunk' => by
      have liveEasy := kept.separate.alive multi live easy (Or.inr mem)
      have granted := (grants easy (shrunk.idle multi mem)).shrunk shrunk
      exact kept_clearIdle holds liveEasy (granted.shrunk shrunk')) fun _ => shrinks_clearIdle
  show Kept garbage before (finalState ((after.multis multi).idleEasyReferences.forM (fun easy =>
    clearIdle multi easy (replies easy)) >>= fun _ => modifyMulti multi _) after)
  refine finalState_bind_of_keeps loop.1 fun _ => ?_
  exact keeps_kept_modifyMulti live (fun _ => rfl) (fun _ => rfl) (fun _ => List.Subset.refl _)
    (fun _ => List.Subset.refl _) fun _ => List.nil_subset _

theorem kept_close {permanent : Bool} {replies : ObjectId → Reply} (kept : Kept garbage before system)
    (live : .multi multi ∉ garbage)
    (refuses : ∀ easy ∈ (system.multis multi).requests,
      Heap.RefusesOthers system multi easy (replies easy))
    (grants : permanent = true → ∀ easy ∈ (system.multis multi).idleEasyReferences,
      Heap.Grants system easy (replies easy)) :
    Kept garbage before (finalState (close permanent multi replies) system) := by
  have flags : Keeps (Kept garbage before) (when permanent (modifyMulti multi fun state =>
      { state with closed := true })) := by
    cases permanent with
    | false => exact keeps_pure
    | true =>
      have marked : Keeps (Kept garbage before) (modifyMulti multi fun state =>
        { state with closed := true }) := keeps_kept_flag live fun _ => ⟨rfl, rfl, rfl, rfl, rfl⟩
      exact marked
  have ends : Keeps (Kept garbage before) (do
      modifyMulti multi fun state => { state with requests := [] }
      multiCloseNative multi
      when permanent (modifyMulti multi fun state => { state with closed := true })) := by
    refine keeps_bind (keeps_kept_modifyMulti live (fun _ => rfl) (fun _ => rfl)
      (fun _ => List.nil_subset _) (fun _ => List.Subset.refl _) fun _ => List.Subset.refl _) fun _ => ?_
    exact keeps_bind (keeps_kept_multiCloseNative live) fun _ => flags
  have removed := kept_removals kept live refuses
  have rest : ∀ after, Kept garbage before after → Shrunk system after →
      Kept garbage before (finalState (do
        when permanent (clearIdleEasyReferences multi replies)
        modifyMulti multi fun state => { state with requests := [] }
        multiCloseNative multi
        when permanent (modifyMulti multi fun state => { state with closed := true })) after) := by
    intro after kept' shrunk
    refine finalState_bind_of_keeps ?_ fun _ => ends
    cases permanent with
    | false => exact kept'
    | true => exact kept_clearIdleEasyReferences kept' shrunk live (grants rfl)
  cases loop : (system.multis multi).requests.forM (fun easy =>
      multiRemoveNative multi easy (replies easy)) system with
  | ok value after =>
    have returns : Returns ((system.multis multi).requests.forM fun easy =>
      multiRemoveNative multi easy (replies easy)) system value after := loop
    rw [returns.finalState_eq] at removed
    have closes := rest after removed.1 removed.2
    rw [← returns.finalState_bind (f := fun _ => do
      when permanent (clearIdleEasyReferences multi replies)
      modifyMulti multi fun state => { state with requests := [] }
      multiCloseNative multi
      when permanent (modifyMulti multi fun state => { state with closed := true }))] at closes
    exact closes
  | error error after =>
    have raises : Raises ((system.multis multi).requests.forM fun easy =>
      multiRemoveNative multi easy (replies easy)) system error after := loop
    rw [raises.finalState_eq] at removed
    have stops := removed.1
    rw [← raises.finalState_bind (f := fun _ => do
      when permanent (clearIdleEasyReferences multi replies)
      modifyMulti multi fun state => { state with requests := [] }
      multiCloseNative multi
      when permanent (modifyMulti multi fun state => { state with closed := true }))] at stops
    exact stops

/-! ## Performing and completing -/

theorem keeps_kept_performGuardEnsure (live : .multi multi ∉ garbage) :
    Keeps (Kept garbage before) (performGuardEnsure multi) :=
  keeps_kept_flag live fun _ => ⟨rfl, rfl, rfl, rfl, rfl⟩

theorem keeps_kept_stashException {raised : Bool} (live : .multi multi ∉ garbage) :
    Keeps (Kept garbage before) (stashException multi raised) :=
  keeps_kept_flag live fun _ => ⟨rfl, rfl, rfl, rfl, rfl⟩

theorem keeps_kept_performBegin (live : .multi multi ∉ garbage) :
    Keeps (Kept garbage before) (performBegin multi) := by
  refine keeps_bind keeps_get fun system => ?_
  split
  · exact keeps_throw
  · refine keeps_bind (keeps_kept_flag live fun _ => ⟨rfl, rfl, rfl, rfl, rfl⟩) fun _ => ?_
    refine keeps_tryCatch (keeps_kept_ensureHandle live) fun error => ?_
    exact keeps_bind (keeps_kept_performGuardEnsure live) fun _ => keeps_throw

theorem keeps_kept_performRaise {deferred : Bool} (live : .multi multi ∉ garbage) :
    Keeps (Kept garbage before) (performRaise multi deferred) :=
  keeps_bind (keeps_kept_flag live fun _ => ⟨rfl, rfl, rfl, rfl, rfl⟩) fun _ =>
    keeps_kept_performGuardEnsure live

theorem kept_performReturn {autoclose : Bool} {replies : ObjectId → Reply}
    (kept : Kept garbage before system) (live : .multi multi ∉ garbage)
    (refuses : autoclose = true → ∀ easy ∈ (system.multis multi).requests,
      Heap.RefusesOthers system multi easy (replies easy)) :
    Kept garbage before (finalState (performReturn multi autoclose replies) system) := by
  unfold performReturn
  rw [finalState_ensuring]
  apply keeps_kept_performGuardEnsure live
  cases autoclose with
  | false => exact kept
  | true =>
    let allowed := system.setMulti multi { system.multis multi with allowCloseDuringPerform := true }
    have first : Returns (modifyMulti multi fun state =>
        { state with allowCloseDuringPerform := true }) system () allowed := rfl
    have shrunk : Shrunk system allowed :=
      (Shrunk.refl system).setMulti (List.Subset.refl _) (List.Subset.refl _)
    have allows : Keeps (Kept garbage before) (modifyMulti multi fun state =>
        { state with allowCloseDuringPerform := true }) :=
      keeps_kept_flag live fun _ => ⟨rfl, rfl, rfl, rfl, rfl⟩
    have ready : Kept garbage before allowed := allows system kept
    have same : (allowed.multis multi).requests = (system.multis multi).requests := by
      rw [System.setMulti_self]
    have closed : Kept garbage before (finalState (close false multi replies) allowed) := by
      refine kept_close ready live (fun easy mem => ?_) fun never => absurd never Bool.false_ne_true
      rw [same] at mem
      exact (refuses rfl easy mem).shrunk shrunk
    show Kept garbage before (finalState (modifyMulti multi _ >>= fun _ => _) system)
    rw [first.finalState_bind]
    refine finalState_bind_of_keeps closed fun _ => ?_
    exact keeps_kept_flag live fun _ => ⟨rfl, rfl, rfl, rfl, rfl⟩

/-- The handle of a completion is on the stack of its callbacks. -/
theorem keeps_kept_enterCallbacks {callbackError : Bool} {flushAgain : Reply}
    (liveMulti : .multi multi ∉ garbage) (liveEasy : .easy easy ∉ garbage) :
    Keeps (Kept garbage before) (enterCallbacks multi easy callbackError flushAgain) := by
  cases flushAgain with
  | error error => exact keeps_kept_stashException liveMulti
  | ok value =>
    refine keeps_bind (keeps_modify fun system kept => ?_) fun _ =>
      keeps_bind (keeps_kept_stashException liveMulti) fun _ => ?_
    · refine kept_setMulti kept liveMulti rfl rfl ?_
      have alive := kept.separate.alive multi liveMulti
      rintro other (member | idle)
      · by_cases same : other = easy
        · rw [same]
          exact liveEasy
        · refine alive other (Or.inl ?_)
          unfold Multi.members at member ⊢
          simp only [List.map_cons, List.mem_append, List.mem_cons, same, false_or] at member ⊢
          exact member
      · exact alive other (Or.inr idle)
    · exact fun system kept => kept_setEasy kept liveEasy rfl rfl

theorem kept_completeBegin {callbackError : Bool} {flush reply flushAgain : Reply}
    (liveMulti : .multi multi ∉ garbage) (liveEasy : .easy easy ∉ garbage) :
    Keeps (Kept garbage before) (completeBegin multi easy callbackError flush reply flushAgain) := by
  intro system kept
  by_cases held : system.curlOf easy ∈ (system.multis multi).held
  · have stashes := @keeps_kept_stashException garbage before multi true liveMulti system kept
    cases flush with
    | error error =>
      show Kept garbage before (finalState (ite (system.curlOf easy ∈ (system.multis multi).held) _
        (pure ())) system)
      rw [if_pos held]
      exact stashes
    | ok value =>
      cases reply with
      | error error =>
        show Kept garbage before (finalState (ite (system.curlOf easy ∈ (system.multis multi).held) _
          (pure ())) system)
        rw [if_pos held]
        exact stashes
      | ok value =>
        rw [completeBegin_held held]
        apply keeps_kept_enterCallbacks liveMulti liveEasy
        have agrees := kept.separate.agrees multi
        rw [agrees.held, List.mem_map_of_injective (curlOf_injective system)] at held
        rw [← System.setEasy_same (system.released multi easy) easy]
        refine kept_takenOff kept liveMulti liveEasy rfl (kept.separate.apart held) rfl rfl ?_ ?_
        · exact fun owner => kept.separate.pointer easy owner liveEasy
        · exact (kept.separate.alive multi liveMulti).mono List.erase_subset List.erase_subset
            (List.Subset.refl _) (List.Subset.refl _)
  · show Kept garbage before (finalState (ite (system.curlOf easy ∈ (system.multis multi).held) _
      (pure ())) system)
    rw [if_neg held]
    exact kept

theorem keeps_kept_removeAdded {reply : Reply} (live : .multi multi ∉ garbage) :
    Keeps (Kept garbage before) (removeAdded multi easy reply) := by
  intro system kept
  show Kept garbage before (finalState (ite ((system.easies easy).multi = some multi ∧
    easy ∈ (system.multis multi).attached) _ (pure ())) system)
  split
  · rename_i member
    have apart := kept.separate.apart member.2
    have liveEasy : .easy easy ∉ garbage := by
      refine kept.separate.alive multi live easy (Or.inl ?_)
      unfold Multi.members
      exact List.mem_append_left _ (List.mem_append_left _ member.2)
    have deleted : Returns (deleteRequest multi easy) system () (system.setMulti multi
        { system.multis multi with requests := (system.multis multi).requests.erase easy }) := rfl
    have shrunk : Shrunk system (system.setMulti multi { system.multis multi with
        requests := (system.multis multi).requests.erase easy }) :=
      (Shrunk.refl system).setMulti (List.Subset.refl _) (List.Subset.refl _)
    have after := @keeps_kept_deleteRequest garbage before multi easy live system kept
    rw [deleted.finalState_bind]
    refine kept_multiRemoveNative after live liveEasy fun other ne mem => ?_
    exact absurd (shrunk.attached other mem) (apart other ne)
  · exact kept

theorem keeps_kept_callbackRaise {snapshot : List (ObjectId × Nat)} {outcome : CallbackOutcome}
    (live : .multi multi ∉ garbage) :
    Keeps (Kept garbage before) (callbackRaise multi snapshot outcome) := by
  cases outcome with
  | returned => exact keeps_pure
  | escaped => exact keeps_kept_stashException live
  | statusRaised replies =>
    refine keeps_bind (keeps_kept_stashException live) fun _ => keeps_bind keeps_get fun system => ?_
    exact keeps_forM fun easy _ => keeps_kept_removeAdded live

theorem keeps_kept_finishCompletionCallbacks (liveMulti : .multi multi ∉ garbage)
    (liveEasy : .easy easy ∉ garbage) :
    Keeps (Kept garbage before) (finishCompletionCallbacks multi easy) := by
  have leave : Keeps (Kept garbage before) (modifyEasy easy fun state =>
      { state with callbackActive := false }) :=
    fun system kept => kept_setEasy kept liveEasy rfl rfl
  have pop : Keeps (Kept garbage before) (modifyMulti multi fun state => { state with
      callbackActive := false
      completions := state.completions.tail }) :=
    keeps_kept_modifyMulti liveMulti (fun _ => rfl) (fun _ => rfl) (fun _ => List.Subset.refl _)
      (fun _ => (List.tail_sublist _).subset) fun _ => List.Subset.refl _
  refine keeps_bind leave fun _ => keeps_bind pop fun _ => keeps_modify fun system kept => ?_
  split
  · rename_i gone
    refine kept_setEasy_apart kept liveEasy (fun owner mem => ?_)
      fun _ nowhere => (Option.some_ne_none _ nowhere.symm).elim
    rw [kept.separate.attached_unique gone.1 mem] at mem
    exact gone.2 mem
  · exact kept

theorem keeps_kept_completeEnd {outcome : CallbackOutcome} (live : .multi multi ∉ garbage) :
    Keeps (Kept garbage before) (completeEnd multi outcome) := by
  intro system kept
  cases completions : (system.multis multi).completions with
  | nil =>
    rw [finalState, completeEnd, get_bind_apply, completions]
    exact kept
  | cons completion rest =>
    have liveEasy : .easy completion.easy ∉ garbage := by
      refine kept.separate.alive multi live completion.easy (Or.inl ?_)
      unfold Multi.members
      rw [completions]
      exact List.mem_append_right _ List.mem_cons_self
    rw [completeEnd_eq outcome completions]
    exact keeps_kept_finishCompletionCallbacks live liveEasy _ (keeps_kept_callbackRaise live _ kept)

/-! ## An operation -/

/-- An operation of the program on what is alive. -/
theorem kept_execute {operation : Operation} (kept : Kept garbage before system)
    (live : ∀ object ∈ operation.objects, object ∉ garbage)
    (answered : Heap.Answered system operation) :
    Kept garbage before (Attachment.step system operation) := by
  cases operation with
  | add multi easy safety setup reply =>
    exact keeps_kept_add (live _ List.mem_cons_self) (live _ (List.mem_cons_of_mem _ List.mem_cons_self))
      system kept
  | remove multi easy reply => exact kept_remove kept (live _ List.mem_cons_self) answered
  | cancel multi replies => exact kept_cancel kept (live _ List.mem_cons_self) answered
  | close permanent multi replies =>
    exact kept_close kept (live _ List.mem_cons_self) answered.1 answered.2
  | easyMultiSet easy target reply =>
    refine kept_easyMultiSet kept (live _ List.mem_cons_self) (fun multi same => ?_) answered
    refine live _ (List.mem_cons_of_mem _ (List.mem_map_of_mem ?_))
    rwa [Option.mem_toList]
  | easyClose easy reply => exact kept_easyClose kept (live _ List.mem_cons_self) answered
  | nativeState easy callbackActive nativeActive =>
    exact kept_setEasy kept (live _ List.mem_cons_self) rfl rfl
  | performBegin multi => exact keeps_kept_performBegin (live _ List.mem_cons_self) system kept
  | performReturn multi autoclose replies =>
    exact kept_performReturn kept (live _ List.mem_cons_self) answered
  | performRaise multi deferred => exact keeps_kept_performRaise (live _ List.mem_cons_self) system kept
  | completeBegin multi easy callbackError flush reply flushAgain =>
    exact kept_completeBegin (live _ List.mem_cons_self)
      (live _ (List.mem_cons_of_mem _ List.mem_cons_self)) system kept
  | completeEnd multi outcome => exact keeps_kept_completeEnd (live _ List.mem_cons_self) system kept

end Curb.Attachment

import Curb.Multi.Closing

/-!
# Coherence over runs

Performing and completing keep the invariant, so every operation does where libcurl lets go of
the handles it is asked for and no member of a multi is closed. Whole runs follow.
-/

namespace Curb.Attachment
open Curb.Misc Curb.Ruby

variable {system : System} {multi easy : ObjectId}

/-! ## Performing -/

theorem keeps_performGuardEnsure : Keeps Inv (performGuardEnsure multi) := by
  unfold performGuardEnsure
  exact keeps_modifyMulti fun _ => ⟨rfl, rfl, rfl, rfl, rfl⟩

theorem keeps_stashException {raised : Bool} : Keeps Inv (stashException multi raised) := by
  unfold stashException
  exact keeps_modifyMulti fun _ => ⟨rfl, rfl, rfl, rfl, rfl⟩

theorem keeps_ensureHandle : Keeps Inv (ensureHandle multi) := by
  intro system inv
  rcases ensureHandle_cases multi inv with ⟨after, returns, inv', _⟩ | raises
  · rwa [returns.finalState_eq]
  · rwa [raises.finalState_eq]

theorem keeps_performBegin : Keeps Inv (performBegin multi) := by
  refine keeps_bind keeps_get fun system => ?_
  split
  · exact keeps_throw
  · refine keeps_bind (keeps_modifyMulti fun _ => ⟨rfl, rfl, rfl, rfl, rfl⟩) fun _ => ?_
    refine keeps_tryCatch keeps_ensureHandle fun error => ?_
    exact keeps_bind keeps_performGuardEnsure fun _ => keeps_throw

theorem inv_performReturn {autoclose : Bool} {replies : ObjectId → Reply} (inv : Inv system)
    (answered : autoclose = true → CloseAnswered multi replies system) :
    Inv (finalState (performReturn multi autoclose replies) system) := by
  unfold performReturn
  rw [finalState_ensuring]
  apply keeps_performGuardEnsure
  cases autoclose with
  | false => exact inv
  | true =>
    have allows : Keeps Inv (modifyMulti multi fun state =>
        { state with allowCloseDuringPerform := true }) :=
      keeps_modifyMulti fun _ => ⟨rfl, rfl, rfl, rfl, rfl⟩
    have answered' : CloseAnswered multi replies (system.setMulti multi
        { system.multis multi with allowCloseDuringPerform := true }) := by
      rw [CloseAnswered, System.setMulti_self]
      exact answered rfl
    have closed : Inv (finalState (close false multi replies) (system.setMulti multi
        { system.multis multi with allowCloseDuringPerform := true })) :=
      inv_close (allows system inv) answered'
    have first : Returns (modifyMulti multi fun state =>
        { state with allowCloseDuringPerform := true }) system () (system.setMulti multi
          { system.multis multi with allowCloseDuringPerform := true }) := rfl
    show Inv (finalState (modifyMulti multi _ >>= fun _ => _) system)
    rw [first.finalState_bind]
    refine finalState_bind_of_keeps closed fun _ => ?_
    exact keeps_modifyMulti fun _ => ⟨rfl, rfl, rfl, rfl, rfl⟩

theorem keeps_performRaise {deferred : Bool} : Keeps Inv (performRaise multi deferred) := by
  unfold performRaise
  refine keeps_bind (keeps_modifyMulti fun _ => ⟨rfl, rfl, rfl, rfl, rfl⟩) fun _ => ?_
  exact keeps_performGuardEnsure

/-! ## Completions -/

theorem keeps_enterCallbacks {callbackError : Bool} {flushAgain : Reply} :
    Keeps Inv (enterCallbacks multi easy callbackError flushAgain) := by
  cases flushAgain with
  | error error => exact keeps_stashException
  | ok value =>
    refine keeps_bind (keeps_modify fun system inv => ?_) fun _ =>
      keeps_bind keeps_stashException fun _ => ?_
    · exact inv_setMulti inv rfl rfl rfl rfl (inv.native multi).handle
    · exact fun system inv => inv_setEasy inv rfl rfl

/-- The handle is taken off every table before its callbacks run, and points to the multi until
they have. -/
theorem completeBegin_held {callbackError : Bool} {flushAgain : Reply}
    (held : system.curlOf easy ∈ (system.multis multi).held) :
    finalState (completeBegin multi easy callbackError (.ok ()) (.ok ()) flushAgain) system =
      finalState (enterCallbacks multi easy callbackError flushAgain) (system.released multi easy) := by
  have released : Returns (do
      curlMultiRemoveHandle multi easy
      modifyMulti multi fun state => { state with active := state.active - 1 }
      deleteRequest multi easy
      forgetEasy multi easy) system () (system.released multi easy) := by
    rw [Returns]
    show EStateM.Result.ok () _ = _
    simp [System.released]
  rw [← released.finalState_eq]
  show finalState (ite (system.curlOf easy ∈ (system.multis multi).held) _ (pure ())) system = _
  rw [if_pos held]
  rfl

theorem keeps_completeBegin {callbackError : Bool} {flush reply flushAgain : Reply} :
    Keeps Inv (completeBegin multi easy callbackError flush reply flushAgain) := by
  intro system inv
  by_cases held : system.curlOf easy ∈ (system.multis multi).held
  · have member : easy ∈ (system.multis multi).attached := by
      rw [(inv.native multi).held] at held
      exact (List.mem_map_of_injective (curlOf_injective system)).mp held
    have stashes := @keeps_stashException multi true system inv
    cases flush with
    | error error =>
      show Inv (finalState (ite (system.curlOf easy ∈ (system.multis multi).held) _ (pure ())) system)
      rw [if_pos held]
      exact stashes
    | ok value =>
      cases reply with
      | error error =>
        show Inv (finalState (ite (system.curlOf easy ∈ (system.multis multi).held) _ (pure ())) system)
        rw [if_pos held]
        exact stashes
      | ok value =>
        rw [completeBegin_held held]
        exact keeps_enterCallbacks _ (inv_released inv member)
  · show Inv (finalState (ite (system.curlOf easy ∈ (system.multis multi).held) _ (pure ())) system)
    rw [if_neg held]
    exact inv

theorem keeps_removeAdded {reply : Reply} (accepted : reply = .ok ()) :
    Keeps Inv (removeAdded multi easy reply) := by
  intro system inv
  show Inv (finalState (ite ((system.easies easy).multi = some multi ∧
    easy ∈ (system.multis multi).attached) _ (pure ())) system)
  split
  · rename_i member
    have requested : easy ∈ (system.multis multi).requests := by
      rw [inv.requests]
      exact member.2
    have removes : Inv (finalState (ite (easy ∈ (system.multis multi).requests) _ _) system) :=
      @inv_remove system multi easy reply inv fun _ => accepted
    rw [if_pos requested] at removes
    exact removes
  · exact inv

theorem keeps_finishCompletionCallbacks : Keeps Inv (finishCompletionCallbacks multi easy) := by
  have leave : Keeps Inv (modifyEasy easy fun state => { state with callbackActive := false }) :=
    fun system inv => inv_setEasy inv rfl rfl
  have pop : Keeps Inv (modifyMulti multi fun state => { state with
      callbackActive := false
      completions := state.completions.tail }) :=
    keeps_modifyMulti fun _ => ⟨rfl, rfl, rfl, rfl, rfl⟩
  refine keeps_bind leave fun _ => keeps_bind pop fun _ => keeps_modify fun system inv => ?_
  split
  · rename_i gone
    have apart := inv_apart inv fun owner points => by
      rw [inv.requests, ← Option.some.inj (gone.1.symm.trans points)]
      exact gone.2
    exact inv_setEasy_apart inv apart.2
  · exact inv

/-- libcurl lets go of the handles that a raising status callback has added. -/
def EndAnswered (multi : ObjectId) (outcome : CallbackOutcome) (system : System) : Prop :=
  match outcome with
  | .statusRaised replies => ∀ completion ∈ (system.multis multi).completions.head?,
      ∀ easy ∈ system.attachedSince multi completion.attachedSnapshot, replies easy = .ok ()
  | _ => True

theorem completeEnd_eq {completion : Completion} {rest : List Completion} (outcome : CallbackOutcome)
    (completions : (system.multis multi).completions = completion :: rest) :
    finalState (completeEnd multi outcome) system =
      finalState (finishCompletionCallbacks multi completion.easy)
        (finalState (callbackRaise multi completion.attachedSnapshot outcome) system) := by
  rw [← finalState_ensuring, finalState, completeEnd, get_bind_apply, completions]
  rfl

/-- A stashed exception is not in the tables a rollback looks at. -/
theorem attachedSince_stashException (snapshot : List (ObjectId × Nat)) :
    (finalState (stashException multi true) system).attachedSince multi snapshot =
      system.attachedSince multi snapshot := by
  show (system.setMulti multi _).attachedSince multi _ = _
  rw [System.attachedSince, System.setMulti_self]
  rfl

theorem inv_completeEnd {outcome : CallbackOutcome} (inv : Inv system)
    (answered : EndAnswered multi outcome system) :
    Inv (finalState (completeEnd multi outcome) system) := by
  cases completions : (system.multis multi).completions with
  | nil =>
    rw [finalState, completeEnd, get_bind_apply, completions]
    exact inv
  | cons completion rest =>
    rw [completeEnd_eq outcome completions]
    apply keeps_finishCompletionCallbacks
    cases outcome with
    | returned => exact inv
    | escaped => exact keeps_stashException system inv
    | statusRaised replies =>
      have accepted := answered completion (by rw [completions]; rfl)
      have stashed := @keeps_stashException multi true system inv
      have removes : Keeps Inv ((system.attachedSince multi completion.attachedSnapshot).forM
          fun easy => removeAdded multi easy (replies easy)) :=
        keeps_forM fun easy mem => keeps_removeAdded (accepted easy mem)
      have after := removes _ stashed
      rw [← attachedSince_stashException] at after
      exact after

/-! ## Steps and runs -/

/-- The condition an operation keeps the tables together under: libcurl refuses no removal once
a table has been changed, and a handle that is closed is a member of no multi, where the close is
not refused. -/
def StepOk (system : System) : Operation → Prop
  | .remove multi easy reply => easy ∈ (system.multis multi).requests → reply = .ok ()
  | .cancel multi replies => ∀ easy ∈ (system.multis multi).requests, replies easy = .ok ()
  | .close _ multi replies => CloseAnswered multi replies system
  | .easyMultiSet easy target reply => (system.easies easy).multi ≠ target → ∀ owner,
      (system.easies easy).multi = some owner → easy ∈ (system.multis owner).requests →
        reply = .ok ()
  | .easyClose easy _ => (system.easies easy).callbackActive = true ∨
      (system.easies easy).nativeActive ≠ 0 ∨ ∀ owner, easy ∉ (system.multis owner).requests
  | .performReturn multi autoclose replies => autoclose = true → CloseAnswered multi replies system
  | .completeEnd multi outcome => EndAnswered multi outcome system
  | .add .. | .nativeState .. | .performBegin .. | .performRaise .. | .completeBegin .. => True

theorem inv_step {operation : Operation} (inv : Inv system) (ok : StepOk system operation) :
    Inv (step system operation) := by
  cases operation with
  | add multi easy safety setup reply => exact inv_add inv
  | remove multi easy reply => exact inv_remove inv ok
  | cancel multi replies => exact keeps_cancel ok inv
  | close permanent multi replies => exact inv_close inv ok
  | easyMultiSet easy multi reply => exact inv_easyMultiSet inv ok
  | easyClose easy reply => exact inv_easyClose inv ok
  | nativeState easy callbackActive nativeActive => exact inv_setEasy inv rfl rfl
  | performBegin multi => exact keeps_performBegin system inv
  | performReturn multi autoclose replies => exact inv_performReturn inv ok
  | performRaise multi deferred => exact keeps_performRaise system inv
  | completeBegin multi easy callbackError flush reply flushAgain =>
    exact keeps_completeBegin system inv
  | completeEnd multi outcome => exact inv_completeEnd inv ok

/-- Every operation of a run meets the condition in the state it finds. -/
def RunOk : List Operation → System → Prop
  | [], _ => True
  | operation :: operations, system =>
      StepOk system operation ∧ RunOk operations (step system operation)

theorem inv_run {operations : List Operation} (inv : Inv system) (ok : RunOk operations system) :
    Inv (run operations system) := by
  induction operations generalizing system with
  | nil => exact inv
  | cons operation operations ih => exact ih (inv_step inv ok.1) ok.2

theorem RunOk.append_left {done rest : List Operation} (ok : RunOk (done ++ rest) system) :
    RunOk done system := by
  induction done generalizing system with
  | nil => trivial
  | cons operation done ih => exact ⟨ok.1, ih ok.2⟩

/-- Between any two operations of such a run the tables agree. -/
theorem run_coherent (done rest : List Operation) (ok : RunOk (done ++ rest) fresh) :
    Coherent (run done fresh) :=
  (inv_run inv_fresh ok.append_left).coherent

/-- Two handles are added; one is removed again, the other completes, and the multi is closed. -/
theorem run_coherent_closed : Coherent (run [
    .add 0 1 (.ok ()) (.ok ()) (.ok ()), .add 0 2 (.ok ()) (.ok ()) (.ok ()), .remove 0 1 (.ok ()),
    .performBegin 0, .completeBegin 0 2 false (.ok ()) (.ok ()) (.ok ()),
    .completeEnd 0 .returned, .performReturn 0 true fun _ => .ok (),
    .close true 0 fun _ => .ok ()] fresh) := by
  refine run_coherent _ [] ⟨trivial, trivial, fun _ => rfl, trivial, trivial, trivial, ?_, ?_, trivial⟩
  · exact fun _ => Or.inl fun _ _ => rfl
  · exact Or.inl fun _ _ => rfl

/-- A member that is closed stays among the requests, and so does a handle libcurl keeps while
its request is deleted. -/
theorem run_incoherent :
    ¬Coherent (run [.add 0 1 (.ok ()) (.ok ()) (.ok ()), .easyClose 1 (.ok ())] fresh) ∧
    ¬Coherent (run [.add 0 1 (.ok ()) (.ok ()) (.ok ()), .remove 0 1 (.error badHandle)] fresh) := by
  refine ⟨fun coherent => ?_, fun coherent => ?_⟩
  · have requested : 1 ∈ ((run [.add 0 1 (.ok ()) (.ok ()) (.ok ()), .easyClose 1 (.ok ())]
        fresh).multis 0).requests := by decide +kernel
    have forgotten : 1 ∉ ((run [.add 0 1 (.ok ()) (.ok ()) (.ok ()), .easyClose 1 (.ok ())]
        fresh).multis 0).attached := by decide +kernel
    exact forgotten ((coherent.attached 0 1).mp requested)
  · have deleted : 1 ∉ ((run [.add 0 1 (.ok ()) (.ok ()) (.ok ()), .remove 0 1 (.error badHandle)]
        fresh).multis 0).requests := by decide +kernel
    have attached : 1 ∈ ((run [.add 0 1 (.ok ()) (.ok ()) (.ok ()), .remove 0 1 (.error badHandle)]
        fresh).multis 0).attached := by decide +kernel
    exact deleted ((coherent.attached 0 1).mpr attached)

end Curb.Attachment

import Curb.Misc.Runs
import Curb.Multi.ClosedReferences

/-!
# Back references over runs

The calls that move handles between multis, `Easy#reset` and the release of the multis of
`Easy#perform` among them, keep the back references, and so do the runs they make up. A close at the
end of such a run leaves no handle pointing to the multi.
-/

namespace Curb.Attachment
open Curb.Misc Curb.Ruby

variable {system : System} {multi easy : ObjectId}

/-! ## The end of a perform -/

theorem references_performReturn {autoclose : Bool} {replies : ObjectId → Reply}
    (references : References system) (answered : autoclose = true → CloseAnswered multi replies system) :
    References (finalState (performReturn multi autoclose replies) system) := by
  have allows (allow : Bool) : Keeps References (modifyMulti multi fun state =>
      { state with allowCloseDuringPerform := allow }) :=
    keeps_references_modifyMulti fun _ => ⟨rfl, rfl, rfl, List.Subset.refl _, id⟩
  unfold performReturn
  rw [finalState_ensuring]
  apply keeps_references_performGuardEnsure
  cases autoclose with
  | false => exact references
  | true =>
    have answered' : CloseAnswered multi replies (system.setMulti multi
        { system.multis multi with allowCloseDuringPerform := true }) := by
      rw [CloseAnswered, System.setMulti_self]
      exact answered rfl
    have first : Returns (modifyMulti multi fun state =>
        { state with allowCloseDuringPerform := true }) system () (system.setMulti multi
          { system.multis multi with allowCloseDuringPerform := true }) := rfl
    show References (finalState (modifyMulti multi _ >>= fun _ => _) system)
    rw [first.finalState_bind]
    exact finalState_bind_of_keeps (references_close (allows true system references) answered')
      fun _ => allows false

/-! ## Releasing an implicit multi -/

theorem references_clearRequests (references : References system) :
    References (system.setMulti multi { system.multis multi with requests := [] }) := by
  have before := references.registered multi
  refine ⟨registered_setMulti references.registered before.pointing (List.nil_subset _) before.apart
    before.attachedNodup List.nodup_nil before.idleNodup before.handle, fun easy => ?_⟩
  exact known_setMulti (references.known easy) id id fun _ mem _ => mem

/-- The multi keeps requests only for the others of its handles, where libcurl lets this one go. -/
theorem takeOut_returns (reply : Reply) (references : References system) :
    ∃ after, Returns (takeOut multi easy reply) system () after ∧ References after ∧
      (after.multis multi).closable = (system.multis multi).closable ∧
      ((after.multis multi).requests = [] ∨ easy ∈ (system.multis multi).requests ∧ reply = .ok () ∧
        (after.multis multi).requests = (system.multis multi).requests.erase easy) := by
  by_cases requested : easy ∈ (system.multis multi).requests
  · have unfolded : takeOut multi easy reply system =
        (tryCatch (remove multi easy reply) fun _ => clearRequests multi : SystemM Unit) system := by
      show (ite (easy ∈ (system.multis multi).requests) _ _ : SystemM Unit) system = _
      rw [if_pos requested]
    cases reply with
    | error error =>
      let deleted := finalState (deleteRequest multi easy) system
      have removes : Raises (remove multi easy (.error error)) system error deleted := by
        show (ite (easy ∈ (system.multis multi).requests) _ (pure ()) : SystemM Unit) system = _
        rw [if_pos requested]
        rfl
      refine ⟨deleted.setMulti multi { deleted.multis multi with requests := [] }, ?_,
        references_clearRequests (keeps_references_deleteRequest system references), ?_, Or.inl ?_⟩
      · rw [Returns, unfolded]
        exact tryCatch_returns (Or.inr ⟨error, deleted, removes, rfl⟩)
      · rw [System.setMulti_self]
        show (deleted.multis multi).closable = _
        show ((System.setMulti system multi _).multis multi).closable = _
        rw [System.setMulti_self]
        rfl
      · rw [System.setMulti_self]
    | ok value =>
      refine ⟨system.dropped multi easy, ?_,
        references_dropped references ((references.registered multi).requests requested), ?_,
        Or.inr ⟨requested, rfl, ?_⟩⟩
      · rw [Returns, unfolded]
        exact tryCatch_returns (Or.inl (remove_returns system requested))
      · rw [System.dropped, System.released, System.setEasy_multis, System.setMulti_self]
        rfl
      · rw [System.dropped, System.released, System.setEasy_multis, System.setMulti_self]
  · refine ⟨system.setMulti multi { system.multis multi with requests := [] }, ?_,
      references_clearRequests references, ?_, Or.inl ?_⟩
    · show (ite (easy ∈ (system.multis multi).requests) _ _ : SystemM Unit) system = _
      rw [if_neg requested]
      rfl
    · rw [System.setMulti_self]
      rfl
    · rw [System.setMulti_self]

/-- A multi that can be closed is released with no other handle among its requests. -/
theorem references_release {reply : Reply} (references : References system)
    (alone : (system.multis multi).closable = true → easy ∈ (system.multis multi).requests →
      reply = .ok () → ∀ other ∈ (system.multis multi).requests, other = easy) :
    References (finalState (releaseDeferredMultiClose multi easy reply) system) := by
  obtain ⟨after, returns, references', closable, requests⟩ :=
    @takeOut_returns system multi easy reply references
  refine finalState_tryCatch_of_keeps ?_ fun _ => keeps_pure
  rw [returns.finalState_bind]
  refine finalState_bind_of_keeps ?_ fun _ => keeps_pure
  cases guarded : (after.multis multi).closable with
  | false => rwa [(multiCloseNative_refused guarded).finalState_eq]
  | true =>
    refine references_multiCloseNative references' ?_
    rcases requests with empty | ⟨requested, granted, erased⟩
    · exact empty
    · have others := alone (closable.symm.trans guarded) requested granted
      rw [erased, List.eq_nil_iff_forall_not_mem]
      intro other mem
      have nodup := (references.registered multi).requestsNodup
      have same := others other (List.mem_of_mem_erase mem)
      exact nodup.not_mem_erase (same ▸ mem)

/-! ## Resetting a handle -/

/-- `ruby_curl_easy_reset` (`curb_easy.c:1698-1729`): the handle stays with its multi. `reply` is
libcurl's to the private setting. -/
def easyReset (easy : ObjectId) (reply : Reply) : SystemM Unit := do
  let system ← get
  if (system.easies easy).callbackActive then
    throw ⟨.runtimeError, "Cannot close an active curl handle within a callback".toList⟩
  else if (system.easies easy).nativeActive ≠ 0 then
    throw ⟨.runtimeError, "Cannot reset an active curl handle during native operation".toList⟩
  else
    modifyEasy easy fun state => { state with
      callbackActive := false
      nativeActive := 0 }
    checkReply reply

theorem keeps_references_easyReset {reply : Reply} : Keeps References (easyReset easy reply) := by
  refine keeps_bind keeps_get fun system => ?_
  split
  · exact keeps_throw
  split
  · exact keeps_throw
  refine keeps_bind (fun _ references => references_setEasy references rfl) fun _ => ?_
  cases reply with
  | ok value => exact keeps_pure
  | error error => exact keeps_throw

/-! ## Calls -/

/-- What handles and multis are asked to do. -/
inductive Call where
  | operation (operation : Operation)
  | reset (easy : ObjectId) (reply : Reply)
  /-- `Easy#perform` tries to close a multi that it has made. -/
  | release (multi easy : ObjectId) (reply : Reply)

/-- What a call does. -/
def executeCall : Call → SystemM Unit
  | .operation operation => execute operation
  | .reset easy reply => easyReset easy reply
  | .release multi easy reply => discard (releaseDeferredMultiClose multi easy reply)

/-- One call; what it raises is rescued. -/
def callStep (system : System) (call : Call) : Option System := some (finalState (executeCall call) system)

/-- The system after these calls. -/
def runCalls (calls : List Call) (system : System) : System :=
  calls.foldl (fun system call => finalState (executeCall call) system) system

/-- The condition a call keeps the back references under. `Easy#multi=` and a completion do not stop
after the native table has been changed, a handle that is closed is among no multi's requests, and
libcurl lets the handles of a multi that is closed go or refuses the first. A multi is closed for good
after the callbacks of its transfers, and released with no other handle. -/
def CallOk (system : System) : Call → Prop
  | .operation (.easyMultiSet easy target reply) => (system.easies easy).multi ≠ target → ∀ owner,
      (system.easies easy).multi = some owner → easy ∈ (system.multis owner).attached →
        easy ∉ (system.multis owner).requests → reply = .ok ()
  | .operation (.easyClose easy _) => (system.easies easy).callbackActive = true ∨
      (system.easies easy).nativeActive ≠ 0 ∨ ∀ owner, easy ∉ (system.multis owner).requests
  | .operation (.close permanent multi replies) => CloseAnswered multi replies system ∧
      (permanent = true → (system.multis multi).closable = true → Settled system multi)
  | .operation (.performReturn multi autoclose replies) =>
      autoclose = true → CloseAnswered multi replies system
  | .operation (.completeBegin multi easy _ flush reply flushAgain) =>
      system.curlOf easy ∈ (system.multis multi).held → easy ∈ (system.multis multi).attached →
        flush = .ok () → reply = .ok () → flushAgain = .ok ()
  | .release multi easy reply => (system.multis multi).closable = true →
      easy ∈ (system.multis multi).requests → reply = .ok () →
        ∀ other ∈ (system.multis multi).requests, other = easy
  | .operation (.add ..) | .operation (.remove ..) | .operation (.cancel ..) | .operation (.nativeState ..)
  | .operation (.performBegin ..) | .operation (.performRaise ..) | .operation (.completeEnd ..)
  | .reset .. => True

theorem references_call {call : Call} (references : References system) (ok : CallOk system call) :
    References (finalState (executeCall call) system) := by
  cases call with
  | reset easy reply => exact keeps_references_easyReset system references
  | release multi easy reply =>
    rw [executeCall, finalState_discard]
    exact references_release references ok
  | operation operation =>
    cases operation with
    | add multi easy safety setup reply => exact keeps_references_add system references
    | remove multi easy reply => exact keeps_references_remove system references
    | cancel multi replies => exact keeps_references_cancel system references
    | close permanent multi replies => exact references_close references ok.1
    | easyMultiSet easy target reply => exact references_easyMultiSet references ok
    | easyClose easy reply => exact references_easyClose references ok
    | nativeState easy callbackActive nativeActive => exact references_setEasy references rfl
    | performBegin multi => exact keeps_references_performBegin system references
    | performReturn multi autoclose replies => exact references_performReturn references ok
    | performRaise multi deferred => exact keeps_references_performRaise system references
    | completeBegin multi easy callbackError flush reply flushAgain =>
      exact references_completeBegin references ok
    | completeEnd multi outcome => exact references_completeEnd references

theorem runSteps_calls (calls : List Call) (system : System) :
    runSteps callStep system calls = some (runCalls calls system) := by
  induction calls generalizing system with
  | nil => rfl
  | cons call calls ih => exact ih _

theorem references_calls {calls : List Call} (references : References system)
    (ok : Misc.RunOk callStep CallOk system calls) : References (runCalls calls system) := by
  refine (Reached.start.run ok (runSteps_calls calls system)).invariant references ?_
  intro before call after references ok steps
  cases steps
  exact references_call references ok

/-! ## The calls of `Easy#perform` -/

variable {σ α β : Type} {part : σ → System}

/-- The system a computation ends in is the one these calls lead to. -/
def MadeOf (part : σ → System) (x : EStateM RubyError σ α) (calls : σ → List Call) : Prop :=
  ∀ state, part (finalState x state) = runCalls (calls state) (part state)

/-- The calls of a first part, and those of the rest where the first returns. -/
def callsThen (first : EStateM RubyError σ α) (calls rest : σ → List Call) (state : σ) : List Call :=
  calls state ++ if succeeds first state then rest (finalState first state) else []

theorem runCalls_append (first rest : List Call) (system : System) :
    runCalls (first ++ rest) system = runCalls rest (runCalls first system) := List.foldl_append

theorem MadeOf.bind {first : EStateM RubyError σ α} {rest : α → EStateM RubyError σ β}
    {calls later : σ → List Call} (made : MadeOf part first calls) (madeRest : ∀ a, MadeOf part (rest a) later) :
    MadeOf part (first >>= rest) (callsThen first calls later) := by
  intro state
  rw [callsThen, runCalls_append, ← made state]
  cases returns : succeeds first state with
  | true =>
    obtain ⟨a, ended⟩ := exists_returns returns
    rw [ended.finalState_bind]
    exact madeRest a _
  | false =>
    obtain ⟨error, ended⟩ := exists_raises returns
    rw [ended.finalState_bind]
    rfl

/-- What follows leaves the system alone. -/
theorem MadeOf.bind_quiet {first : EStateM RubyError σ α} {rest : α → EStateM RubyError σ β}
    {calls : σ → List Call} (made : MadeOf part first calls)
    (quiet : ∀ a state, part (finalState (rest a) state) = part state) :
    MadeOf part (first >>= rest) calls := by
  intro state
  rw [← made state]
  cases returns : succeeds first state with
  | true =>
    obtain ⟨a, ended⟩ := exists_returns returns
    rw [ended.finalState_bind]
    exact quiet a _
  | false =>
    obtain ⟨error, ended⟩ := exists_raises returns
    rw [ended.finalState_bind]

theorem MadeOf.get_bind {rest : σ → EStateM RubyError σ β} {calls : σ → List Call}
    (made : ∀ seen, part (finalState (rest seen) seen) = runCalls (calls seen) (part seen)) :
    MadeOf part (get >>= rest) calls := made

theorem MadeOf.ite {x y : EStateM RubyError σ α} {calls calls' : σ → List Call} {condition : Prop}
    [Decidable condition] (made : MadeOf part x calls) (made' : MadeOf part y calls') :
    MadeOf part (if condition then x else y) fun state => if condition then calls state else calls' state := by
  split
  · exact made
  · exact made'

theorem MadeOf.ensuringWith {body : EStateM RubyError σ α} {cleanup : Bool → EStateM RubyError σ PUnit}
    {calls : σ → List Call} {later : Bool → σ → List Call} (made : MadeOf part body calls)
    (madeRest : ∀ raised, MadeOf part (cleanup raised) (later raised)) :
    MadeOf part (Misc.ensuringWith body cleanup) fun state =>
      calls state ++ later (!succeeds body state) (finalState body state) := by
  intro state
  rw [finalState_ensuringWith, runCalls_append, ← made state]
  exact madeRest _ _

theorem madeOf_nothing {x : EStateM RubyError σ α} (quiet : ∀ state, part (finalState x state) = part state) :
    MadeOf part x fun _ => [] := quiet

theorem checkReply_quiet (reply : Reply) (system : System) : finalState (checkReply reply) system = system := by
  cases reply <;> rfl

theorem MadeOf.onAttachment {x : EStateM RubyError System α} {calls : System → List Call}
    (made : MadeOf id x calls) :
    MadeOf PerformState.system (Attachment.onAttachment x) fun state => calls state.system := by
  intro state
  rw [Attachment.onAttachment, finalState_zoom]
  exact made state.system

theorem madeOf_operation (operation : Operation) :
    MadeOf id (execute operation) fun _ => [.operation operation] := fun _ => rfl

theorem madeOf_release (multi easy : ObjectId) (reply : Reply) :
    MadeOf id (releaseDeferredMultiClose multi easy reply) fun _ => [.release multi easy reply] := by
  intro system
  exact (finalState_discard _ system).symm

/-! ### Closing, now or later -/

/-- The multis that are tried again. -/
def flushCalls (replies : ObjectId → Reply) (state : PerformState) : List Call :=
  state.deferredMultiCloses.map fun entry => .release entry.1 entry.2 (replies entry.2)

theorem madeOf_releaseOrDefer (multi easy : ObjectId) (reply : Reply) :
    MadeOf PerformState.system (releaseOrDefer multi easy reply) fun _ => [.release multi easy reply] := by
  refine (madeOf_release multi easy reply).onAttachment.bind_quiet fun released state => ?_
  cases released with
  | true => rfl
  | false =>
    show (ite _ _ _ : PerformState).system = _
    split <;> rfl

/-- A try raises nothing. -/
theorem releaseOrDefer_not_raises (multi easy : ObjectId) (reply : Reply) :
    RaisesOnly (fun _ => False) (releaseOrDefer multi easy reply) := by
  refine raisesOnly_bind (raisesOnly_zoom (raisesOnly_tryCatch fun _ => raisesOnly_pure)) fun released => ?_
  cases released with
  | true => exact raisesOnly_pure
  | false => exact raisesOnly_modify

theorem madeOf_flush (replies : ObjectId → Reply) :
    MadeOf PerformState.system (flushDeferredMultiCloses replies) (flushCalls replies) := by
  have each : ∀ entries : List (ObjectId × ObjectId), MadeOf PerformState.system
      (entries.forM fun entry => releaseOrDefer entry.1 entry.2 (replies entry.2))
      fun _ => entries.map fun entry => .release entry.1 entry.2 (replies entry.2) := by
    intro entries
    induction entries with
    | nil => exact madeOf_nothing fun _ => rfl
    | cons entry entries ih =>
      have made := (madeOf_releaseOrDefer entry.1 entry.2 (replies entry.2)).bind fun _ => ih
      intro state
      have same := made state
      rw [callsThen, succeeds_of_raisesOnly (releaseOrDefer_not_raises _ _ _)] at same
      exact same
  intro state
  exact each state.deferredMultiCloses { state with deferredMultiCloses := [] }

/-! ### The transfer -/

/-- The calls of `multiPerform`. -/
def loopCalls (multi : ObjectId) (transfer : Transfer) : System → List Call :=
  callsThen (checkReply transfer.signatures) (fun _ => [])
    (callsThen (performBegin multi) (fun _ => [.operation (.performBegin multi)])
      fun _ => (transfer.during ++ [transfer.ending multi]).map .operation)

/-- The calls of `transferBody`. -/
def bodyCalls (multi easy : ObjectId) (transfer : Transfer) : System → List Call :=
  callsThen (add multi easy transfer.safety transfer.setup transfer.reply)
    (fun _ => [.operation (.add multi easy transfer.safety transfer.setup transfer.reply)])
    (callsThen (multiPerform multi transfer) (loopCalls multi transfer) fun system =>
      if (system.easies easy).multi = some multi then [.operation (.remove multi easy transfer.removal)] else [])

/-- The calls of `leaveMulti`. -/
def leaveCalls (multi easy : ObjectId) (reply : Reply) (system : System) : List Call :=
  if (system.easies easy).multi = some multi then [.operation (.easyMultiSet easy none reply)] else []

/-- The calls of `putAway`. -/
def putAwayCalls (created : Bool) (multi easy : ObjectId) (transfer : Transfer) (raised : Bool)
    (state : PerformState) : List Call :=
  if created && raised then
    callsThen (releaseOrDefer multi easy transfer.removal) (fun _ => [.release multi easy transfer.removal])
      (fun state => leaveCalls multi easy transfer.removal state.system) state
  else if transfer.autoclose then
    callsThen (close false multi transfer.closing) (fun _ => [.operation (.close false multi transfer.closing)])
      (leaveCalls multi easy transfer.removal) state.system
  else [.operation (.easyMultiSet easy (some multi) transfer.removal)]

/-- The calls of `performTransfer`. -/
def transferCalls (easy : ObjectId) (transfer : Transfer) (state : PerformState) : List Call :=
  let created := createsMulti easy state.system
  let multi := transfer.chosen easy state.system
  callsThen (onAttachment (when created (easyMultiSet easy (some multi) (.ok ()))))
    (fun _ => if created then [.operation (.easyMultiSet easy (some multi) (.ok ()))] else [])
    (fun state => bodyCalls multi easy transfer state.system ++
      putAwayCalls created multi easy transfer
        (!succeeds (onAttachment (transferBody multi easy transfer)) state)
        (finalState (onAttachment (transferBody multi easy transfer)) state)) state

/-- The calls of `Easy#perform`. -/
def performCalls (easy : ObjectId) (transfer : Transfer) : PerformState → List Call :=
  callsThen (onAttachment (checkReply transfer.applySafety)) (fun _ => [])
    (callsThen (flushDeferredMultiCloses transfer.closing) (flushCalls transfer.closing)
      (transferCalls easy transfer))

theorem runCalls_operations (operations : List Operation) (system : System) :
    runCalls (operations.map .operation) system = run operations system := by
  rw [runCalls, List.foldl_map]
  rfl

theorem madeOf_multiPerform (multi : ObjectId) (transfer : Transfer) :
    MadeOf id (multiPerform multi transfer) (loopCalls multi transfer) := by
  refine (madeOf_nothing (checkReply_quiet _)).bind fun _ => ?_
  refine (madeOf_operation (.performBegin multi)).bind fun _ system => ?_
  show _ = runCalls _ system
  rw [runCalls_operations, run, List.foldl_append]
  cases ends : transfer.raises with
  | none =>
    rw [Transfer.ending, ends]
    rfl
  | some error =>
    rw [Transfer.ending, ends]
    have quiet : RaisesOnly (fun _ => False) (performRaise multi transfer.deferred) :=
      raisesOnly_bind raisesOnly_modify fun _ => raisesOnly_modify
    show finalState (performRaise multi transfer.deferred >>= fun _ => throw error : SystemM Unit) _ = _
    exact (returns_of_raisesOnly quiet _).finalState_bind

theorem madeOf_transferBody (multi easy : ObjectId) (transfer : Transfer) :
    MadeOf id (transferBody multi easy transfer) (bodyCalls multi easy transfer) := by
  refine (madeOf_operation (.add multi easy _ _ _)).bind fun _ => ?_
  refine (madeOf_multiPerform multi transfer).bind fun _ => ?_
  have removes (seen : System) : MadeOf id
      (if (seen.easies easy).multi = some multi then remove multi easy transfer.removal else pure ())
      fun _ => if (seen.easies easy).multi = some multi then
        [.operation (.remove multi easy transfer.removal)] else [] :=
    .ite (madeOf_operation (.remove multi easy transfer.removal)) (madeOf_nothing fun _ => rfl)
  exact .get_bind fun seen => removes seen seen

theorem madeOf_leaveMulti (multi easy : ObjectId) (reply : Reply) :
    MadeOf id (leaveMulti multi easy reply) (leaveCalls multi easy reply) := by
  have leaves (seen : System) : MadeOf id
      (if (seen.easies easy).multi = some multi then easyMultiSet easy none reply else pure ())
      fun _ => leaveCalls multi easy reply seen :=
    .ite (madeOf_operation (.easyMultiSet easy none reply)) (madeOf_nothing fun _ => rfl)
  exact .get_bind fun seen => leaves seen seen

theorem madeOf_putAway (created : Bool) (multi easy : ObjectId) (transfer : Transfer) (raised : Bool) :
    MadeOf PerformState.system (putAway created multi easy transfer raised)
      (putAwayCalls created multi easy transfer raised) := by
  have released := (madeOf_releaseOrDefer multi easy transfer.removal).bind fun _ =>
    (madeOf_leaveMulti multi easy transfer.removal).onAttachment
  have closed := (madeOf_operation (.close false multi transfer.closing)).bind fun _ =>
    madeOf_leaveMulti multi easy transfer.removal
  have kept := madeOf_operation (.easyMultiSet easy (some multi) transfer.removal)
  exact .ite released (.ite closed.onAttachment kept.onAttachment)

theorem madeOf_performTransfer (easy : ObjectId) (transfer : Transfer) :
    MadeOf PerformState.system (performTransfer easy transfer) (transferCalls easy transfer) := by
  have moved (created : Bool) (multi : ObjectId) :
      MadeOf id (when created (easyMultiSet easy (some multi) (.ok ())))
        fun _ => if created then [.operation (.easyMultiSet easy (some multi) (.ok ()))] else [] :=
    .ite (madeOf_operation (.easyMultiSet easy (some multi) (.ok ()))) (madeOf_nothing fun _ => rfl)
  have ended (created : Bool) (multi : ObjectId) :=
    (madeOf_transferBody multi easy transfer).onAttachment.ensuringWith
      (madeOf_putAway created multi easy transfer)
  have quiet (state : PerformState) :
      (finalState (onAttachment (checkReply transfer.result)) state).system = state.system := by
    rw [onAttachment, finalState_zoom]
    exact checkReply_quiet _ _
  have whole (created : Bool) (multi : ObjectId) := (moved created multi).onAttachment.bind fun _ =>
    (ended created multi).bind_quiet fun _ state => quiet state
  exact .get_bind fun seen =>
    whole (createsMulti easy seen.system) (transfer.chosen easy seen.system) seen

/-- `Easy#perform` is a run of its calls. -/
theorem madeOf_perform (easy : ObjectId) (transfer : Transfer) :
    MadeOf PerformState.system (perform easy transfer) (performCalls easy transfer) :=
  (madeOf_nothing (checkReply_quiet _)).onAttachment.bind fun _ =>
    (madeOf_flush transfer.closing).bind fun _ => madeOf_performTransfer easy transfer

/-! ## Runs -/

/-- What a program does with its handles and multis. -/
inductive Action where
  | call (call : Call)
  | perform (easy : ObjectId) (transfer : Transfer)

/-- One action; what it raises is rescued. -/
def actionStep (state : PerformState) : Action → Option PerformState
  | .call call => some { state with system := finalState (executeCall call) state.system }
  | .perform easy transfer => some (finalState (perform easy transfer) state)

/-- Each call that an action makes meets its condition where it is made. -/
def ActionOk (state : PerformState) : Action → Prop
  | .call call => CallOk state.system call
  | .perform easy transfer => Misc.RunOk callStep CallOk state.system (performCalls easy transfer state)

/-- New handles and new multis, and no multi to be closed later. -/
def freshState : PerformState := ⟨fresh, []⟩

theorem references_action {action : Action} {state after : PerformState} (references : References state.system)
    (ok : ActionOk state action) (steps : actionStep state action = some after) : References after.system := by
  cases action with
  | call call =>
    cases steps
    exact references_call references ok
  | perform easy transfer =>
    cases steps
    rw [madeOf_perform easy transfer state]
    exact references_calls references ok

theorem reached_references {state : PerformState} (reached : Reached actionStep ActionOk freshState state) :
    References state.system :=
  reached.invariant (P := fun state => References state.system) references_fresh
    fun _ _ _ references ok steps => references_action references ok steps

/-- A close that returns leaves no handle pointing to the multi, and handles of other multis point where
they did. -/
theorem close_leavesNoReference_run (state : PerformState) (multi : ObjectId) (replies : ObjectId → Reply)
    (after : System) (reached : Reached actionStep ActionOk freshState state)
    (ok : ActionOk state (.call (.operation (.close true multi replies))))
    (returns : Returns (close true multi replies) state.system () after) :
    (∀ easy, (after.easies easy).multi ≠ some multi) ∧
      ∀ easy, (state.system.easies easy).multi ≠ some multi →
        (after.easies easy).multi = (state.system.easies easy).multi :=
  close_leaves (reached_references reached) ok.1 (ok.2 rfl) returns

/-- A transfer with a new multi, which is kept. -/
def keptMulti (easy newMulti : ObjectId) : Transfer where
  newMulti := newMulti
  autoclose := false
  applySafety := .ok ()
  safety := .ok ()
  setup := .ok ()
  reply := .ok ()
  signatures := .ok ()
  during := [.completeBegin newMulti easy false (.ok ()) (.ok ()) (.ok ()), .completeEnd newMulti .returned]
  raises := none
  deferred := false
  removal := .ok ()
  closing := fun _ => .ok ()
  result := .ok ()

/-- One handle is performed, another added to its multi, and a third given another multi. -/
def performedThenShared : List Action := [.perform 1 (keptMulti 1 10), .call (.reset 1 (.ok ())),
  .call (.operation (.add 10 2 (.ok ()) (.ok ()) (.ok ()))),
  .call (.operation (.easyMultiSet 3 (some 11) (.ok ())))]

theorem close_leavesNoReference_performed : ∃ state,
    runSteps actionStep freshState performedThenShared = some state ∧
      (state.system.easies 1).multi = some 10 ∧ (state.system.easies 2).multi = some 10 ∧
      ∀ easy, ((finalState (close true 10 fun _ => .ok ()) state.system).easies easy).multi ≠ some 10 := by
  have calls : performCalls 1 (keptMulti 1 10) freshState = [.operation (.easyMultiSet 1 (some 10) (.ok ())),
      .operation (.add 10 1 (.ok ()) (.ok ()) (.ok ())), .operation (.performBegin 10),
      .operation (.completeBegin 10 1 false (.ok ()) (.ok ()) (.ok ())),
      .operation (.completeEnd 10 .returned), .operation (.performReturn 10 false fun _ => .ok ()),
      .operation (.easyMultiSet 1 (some 10) (.ok ()))] := rfl
  have performs : Misc.RunOk callStep CallOk freshState.system (performCalls 1 (keptMulti 1 10) freshState) := by
    rw [calls]
    refine ⟨fun _ _ _ _ _ => rfl, fun _ _ => ⟨trivial, fun _ _ => ⟨trivial, fun _ _ => ?_⟩⟩⟩
    refine ⟨fun _ _ _ _ => rfl, fun _ _ => ⟨trivial, fun _ _ => ⟨nofun, fun _ _ => ?_⟩⟩⟩
    exact ⟨fun _ _ _ _ _ => rfl, fun _ _ => trivial⟩
  have meets : Misc.RunOk actionStep ActionOk freshState performedThenShared := by
    refine ⟨performs, fun _ _ => ⟨trivial, fun _ _ => ⟨trivial, fun _ _ => ?_⟩⟩⟩
    exact ⟨fun _ _ _ _ _ => rfl, fun _ _ => trivial⟩
  refine ⟨_, rfl, by decide +kernel, by decide +kernel, ?_⟩
  refine (close_leavesNoReference_run _ 10 _ _ (Reached.start.run meets rfl) ⟨Or.inl fun _ _ => rfl, ?_⟩
    (returns_finalState (by decide +kernel))).1
  rintro _ _ easy ⟨completion, inside, _⟩
  cases (show completion ∈ ([] : List Completion) from inside)

/-- A member of a multi is closed and given another multi, which the close of the first takes away. -/
def closedThenMoved : List Action := [.call (.operation (.add 0 1 (.ok ()) (.ok ()) (.ok ()))),
  .call (.operation (.easyClose 1 (.ok ()))), .call (.operation (.easyMultiSet 1 (some 11) (.ok ())))]

theorem close_takesMultiAway : ∃ state after,
    runSteps actionStep freshState closedThenMoved = some state ∧
      Returns (close true 0 fun _ => .ok ()) state.system () after ∧
      ¬((∀ easy, (after.easies easy).multi ≠ some 0) ∧ ∀ easy, (state.system.easies easy).multi ≠ some 0 →
        (after.easies easy).multi = (state.system.easies easy).multi) := by
  refine ⟨_, _, rfl, returns_finalState (by decide +kernel), fun kept => ?_⟩
  have moved := kept.2 1 (by decide +kernel)
  revert moved
  decide +kernel

end Curb.Attachment

import Curb.Multi.RejectedClose

/-!
# Additions and removals that raise

`Multi#add` and `Multi#remove` (`lib/curl/multi.rb:442-461`) over all they write: beside the tables
of the attachment the count of running transfers (`rbcm->running`) and the recorded safety
signatures. An addition that raises has written nothing. A removal has deleted the request and the
signature before libcurl is asked.
-/

namespace Curb.Attachment
open Curb.Misc Curb.Ruby

/-! ## A multi without its `CURLM *` -/

/-- A multi whose `CURLM *` is gone, or was never made, holds nothing. -/
def Multi.EmptyUnlessOpen (state : Multi) : Prop :=
  state.handle = false → state.attached = [] ∧ state.held = [] ∧ state.active = 0

/-- Every multi is so. -/
def EmptyUnlessOpen (system : System) : Prop := ∀ multi, (system.multis multi).EmptyUnlessOpen

variable {system : System} {multi easy : ObjectId}

theorem emptyUnlessOpen_setMulti {state : Multi} (before : EmptyUnlessOpen system)
    (empty : state.EmptyUnlessOpen) : EmptyUnlessOpen (system.setMulti multi state) := by
  intro owner
  by_cases isMulti : owner = multi
  · rw [isMulti, System.setMulti_self]
    exact empty
  · rw [System.setMulti_of_ne _ _ isMulti]
    exact before owner

theorem sameAttachment_setMulti {state : Multi}
    (requests : state.requests = (system.multis multi).requests)
    (attached : state.attached = (system.multis multi).attached)
    (active : state.active = (system.multis multi).active)
    (held : state.held = (system.multis multi).held)
    (idle : state.idleEasyReferences = (system.multis multi).idleEasyReferences) :
    SameAttachment system (system.setMulti multi state) := by
  refine ⟨fun owner => ?_, fun owner => ?_, fun owner => ?_, fun owner => ?_, fun owner => ?_,
    fun _ => rfl⟩ <;> by_cases isMulti : owner = multi
  · rw [isMulti, System.setMulti_self, requests]
  · rw [System.setMulti_of_ne _ _ isMulti]
  · rw [isMulti, System.setMulti_self, attached]
  · rw [System.setMulti_of_ne _ _ isMulti]
  · rw [isMulti, System.setMulti_self, active]
  · rw [System.setMulti_of_ne _ _ isMulti]
  · rw [isMulti, System.setMulti_self, held]
  · rw [System.setMulti_of_ne _ _ isMulti]
  · rw [isMulti, System.setMulti_self, idle]
  · rw [System.setMulti_of_ne _ _ isMulti]

theorem keeps_empty_modifyMulti {f : Multi → Multi}
    (kept : ∀ state : Multi, state.EmptyUnlessOpen → (f state).EmptyUnlessOpen) :
    Keeps EmptyUnlessOpen (modifyMulti multi f) :=
  fun _ before => emptyUnlessOpen_setMulti before (kept _ (before multi))

/-- The tables are not written. -/
theorem keeps_empty_of_tables {f : Multi → Multi}
    (same : ∀ state, (f state).handle = state.handle ∧ (f state).attached = state.attached ∧
      (f state).held = state.held ∧ (f state).active = state.active) :
    Keeps EmptyUnlessOpen (modifyMulti multi f) := by
  refine keeps_empty_modifyMulti fun state empty closed => ?_
  obtain ⟨handle, attached, held, active⟩ := same state
  rw [handle] at closed
  rw [attached, held, active]
  exact empty closed

theorem keeps_empty_modifyEasy {f : Easy → Easy} : Keeps EmptyUnlessOpen (modifyEasy easy f) :=
  fun _ before => before

theorem keeps_empty_checkReply {reply : Reply} : Keeps EmptyUnlessOpen (checkReply reply) := by
  cases reply with
  | ok value => exact keeps_pure
  | error error => exact keeps_throw

theorem keeps_empty_curlMultiRemoveHandle :
    Keeps EmptyUnlessOpen (curlMultiRemoveHandle multi easy) := by
  refine keeps_modify fun system before => emptyUnlessOpen_setMulti before fun closed => ?_
  obtain ⟨attached, held, active⟩ := before multi closed
  refine ⟨attached, ?_, active⟩
  show (system.multis multi).held.erase _ = []
  rw [held]
  rfl

theorem keeps_empty_forgetEasy : Keeps EmptyUnlessOpen (forgetEasy multi easy) := by
  refine keeps_empty_modifyMulti fun state empty closed => ?_
  obtain ⟨attached, held, active⟩ := empty closed
  refine ⟨?_, held, active⟩
  show state.attached.erase easy = []
  rw [attached]
  rfl

theorem keeps_empty_decrement : Keeps EmptyUnlessOpen
    (modifyMulti multi fun state => { state with active := state.active - 1 }) := by
  refine keeps_empty_modifyMulti fun state empty closed => ?_
  obtain ⟨attached, held, active⟩ := empty closed
  refine ⟨attached, held, ?_⟩
  show state.active - 1 = 0
  rw [active]

theorem keeps_empty_multiRemoveNative {reply : Reply} :
    Keeps EmptyUnlessOpen (multiRemoveNative multi easy reply) :=
  keeps_bind keeps_empty_checkReply fun _ => keeps_bind keeps_empty_curlMultiRemoveHandle fun _ =>
    keeps_bind keeps_empty_decrement fun _ => keeps_bind keeps_empty_modifyEasy fun _ =>
      keeps_empty_forgetEasy

theorem keeps_empty_deleteRequest : Keeps EmptyUnlessOpen (deleteRequest multi easy) :=
  keeps_empty_of_tables fun _ => ⟨rfl, rfl, rfl, rfl⟩

theorem keeps_empty_remove {reply : Reply} : Keeps EmptyUnlessOpen (remove multi easy reply) := by
  refine keeps_bind keeps_get fun system => ?_
  split
  · exact keeps_bind keeps_empty_deleteRequest fun _ => keeps_empty_multiRemoveNative
  · exact keeps_pure

/-- The multi has its `CURLM *`, or an error is raised. -/
theorem ensureHandle_opens (before : EmptyUnlessOpen system) :
    (∃ after, Returns (ensureHandle multi) system () after ∧ (after.multis multi).handle = true ∧
        (∀ owner, (after.multis owner).handle = false → (system.multis owner).handle = false) ∧
        EmptyUnlessOpen after ∧ SameAttachment system after) ∨
      Raises (ensureHandle multi) system badHandle system := by
  have unfolded : ensureHandle multi system = (if (system.multis multi).handle then pure () else
      if (system.multis multi).closed then throw badHandle else multiInit multi : SystemM Unit)
        system := rfl
  unfold Returns Raises
  rw [unfolded]
  by_cases handle : (system.multis multi).handle = true
  · rw [if_pos handle]
    exact Or.inl ⟨system, rfl, handle, fun _ => id, before, .refl system⟩
  by_cases closed : (system.multis multi).closed = true
  · rw [if_neg handle, if_pos closed]
    exact Or.inr rfl
  · rw [if_neg handle, if_neg closed]
    obtain ⟨attached, held, active⟩ := before multi ((Bool.not_eq_true _).mp handle)
    refine Or.inl ⟨finalState (multiInit multi) system, rfl, ?_, ?_, ?_, ?_⟩
    · show ((system.setMulti multi _).multis multi).handle = true
      rw [System.setMulti_self]
    · intro owner closed
      change ((system.setMulti multi _).multis owner).handle = false at closed
      by_cases isMulti : owner = multi
      · rw [isMulti, System.setMulti_self] at closed
        cases closed
      · rwa [System.setMulti_of_ne _ _ isMulti] at closed
    · exact emptyUnlessOpen_setMulti before fun closed => (nomatch closed)
    · refine sameAttachment_setMulti ?_ ?_ ?_ ?_ ?_
      · rfl
      · exact attached.symm
      · exact active.symm
      · exact held.symm
      · rfl

/-- An open multi takes the handle, or an error is raised and nothing is written. -/
theorem keeps_empty_attachNative {setup reply : Reply} (before : EmptyUnlessOpen system)
    (handle : (system.multis multi).handle = true) :
    EmptyUnlessOpen (finalState (attachNative multi easy setup reply) system) := by
  have unfolded : finalState (attachNative multi easy setup reply) system = finalState
      (if easy ∈ (system.multis multi).attached then pure ()
        else if system.isActiveElsewhere multi easy then throw activeElsewhere
        else do
          checkReply setup
          checkReply reply
          attachAccepted multi easy : SystemM Unit) system := rfl
  rw [unfolded]
  split
  · exact before
  split
  · exact before
  cases setup with
  | error error => exact before
  | ok value =>
    cases reply with
    | error error => exact before
    | ok value =>
      have taken : EmptyUnlessOpen (system.setMulti multi { system.multis multi with
          held := (system.multis multi).held ++ [system.curlOf easy]
          active := (system.multis multi).active + 1
          attached := (system.multis multi).attached ++ [easy] }) := by
        refine emptyUnlessOpen_setMulti before fun closed => ?_
        cases handle.symm.trans closed
      exact taken

theorem keeps_empty_unregisterIdle {owner : Option ObjectId} :
    Keeps EmptyUnlessOpen (unregisterIdle owner easy) := by
  cases owner with
  | none => exact keeps_pure
  | some owner =>
    rw [unregisterIdle]
    exact keeps_empty_of_tables fun _ => ⟨rfl, rfl, rfl, rfl⟩

theorem keeps_empty_registerIdle {owner : Option ObjectId} :
    Keeps EmptyUnlessOpen (registerIdle owner easy) := by
  cases owner with
  | none => exact keeps_pure
  | some owner =>
    rw [registerIdle]
    exact keeps_empty_of_tables fun _ => ⟨rfl, rfl, rfl, rfl⟩

theorem keeps_empty_add {safety setup reply : Reply} :
    Keeps EmptyUnlessOpen (add multi easy safety setup reply) := by
  have native : Keeps EmptyUnlessOpen (multiAddNative multi easy setup reply) := by
    intro system before
    rcases @ensureHandle_opens system multi before with ⟨after, returns, handle, _, empty, _⟩ | raises
    · have same : finalState (multiAddNative multi easy setup reply) system =
          finalState (attachNative multi easy setup reply) after := returns.finalState_bind
      rw [same]
      exact keeps_empty_attachNative empty handle
    · have stays : finalState (multiAddNative multi easy setup reply) system = system :=
        raises.finalState_bind
      rwa [stays]
  refine keeps_bind keeps_get fun system => ?_
  split
  · exact keeps_pure
  split
  · exact keeps_pure
  · refine keeps_bind keeps_empty_checkReply fun _ => keeps_bind native fun _ =>
      keeps_bind keeps_empty_unregisterIdle fun _ => ?_
    exact keeps_empty_of_tables fun _ => ⟨rfl, rfl, rfl, rfl⟩

theorem keeps_empty_ensureHandle : Keeps EmptyUnlessOpen (ensureHandle multi) := by
  intro system before
  rcases ensureHandle_opens before with ⟨after, returns, _, _, empty, _⟩ | raises
  · rwa [returns.finalState_eq]
  · rwa [raises.finalState_eq]

theorem keeps_empty_easyMultiSet {target : Option ObjectId} {reply : Reply} :
    Keeps EmptyUnlessOpen (easyMultiSet easy target reply) := by
  have detaches {owner : ObjectId} : Keeps EmptyUnlessOpen (detachEasy owner easy reply) := by
    refine keeps_bind keeps_get fun system => ?_
    split
    · exact keeps_bind keeps_empty_forgetEasy fun _ => keeps_bind keeps_empty_checkReply fun _ =>
        keeps_bind keeps_empty_curlMultiRemoveHandle fun _ => keeps_empty_decrement
    · exact keeps_pure
  have native : Keeps EmptyUnlessOpen (easyMultiSetNative easy target reply) := by
    refine keeps_bind keeps_get fun system => ?_
    split
    · exact keeps_pure
    · refine keeps_bind ?_ fun _ => keeps_empty_modifyEasy
      cases (system.easies easy).multi with
      | none => exact keeps_pure
      | some owner => exact detaches
  refine keeps_bind keeps_get fun system => ?_
  show Keeps EmptyUnlessOpen (ite ((system.easies easy).multi = target) _ _)
  split
  · exact keeps_pure
  · refine keeps_bind ?_ fun _ => keeps_bind native fun _ =>
      keeps_bind keeps_empty_unregisterIdle fun _ => keeps_empty_registerIdle
    cases (system.easies easy).multi with
    | none => exact keeps_pure
    | some owner => exact keeps_empty_remove

theorem keeps_empty_easyClose {reply : Reply} : Keeps EmptyUnlessOpen (easyClose easy reply) := by
  have frees {old : Option ObjectId} : Keeps EmptyUnlessOpen (freeFromMulti old easy reply) := by
    cases old with
    | none => exact keeps_pure
    | some owner =>
      refine keeps_bind keeps_empty_modifyEasy fun _ => keeps_bind ?_ fun _ => keeps_empty_forgetEasy
      cases reply with
      | ok value => exact keeps_empty_curlMultiRemoveHandle
      | error error => exact keeps_pure
  refine keeps_bind keeps_get fun system => keeps_bind ?_ fun _ => keeps_empty_unregisterIdle
  refine keeps_bind keeps_get fun system => ?_
  split
  · exact keeps_throw
  split
  · exact keeps_throw
  · exact keeps_bind frees fun _ => keeps_empty_modifyEasy

/-- A native close empties the multi. -/
theorem keeps_empty_multiCloseNative : Keeps EmptyUnlessOpen (multiCloseNative multi) := by
  have entries {easies : List ObjectId} {P : System → Prop}
      (entry : ∀ easy, Keeps P (detachEasyEntry multi easy)) :
      Keeps P (easies.forM (detachEasyEntry multi)) := keeps_forM fun easy _ => entry easy
  have detaches : Keeps EmptyUnlessOpen (detachAll multi) := by
    refine keeps_bind keeps_get fun system => keeps_bind ?_ fun _ => keeps_bind ?_ fun _ => ?_
    · exact keeps_empty_modifyMulti fun state empty closed => ⟨rfl, (empty closed).2⟩
    · exact entries fun easy => keeps_bind keeps_empty_curlMultiRemoveHandle fun _ =>
        keeps_empty_modifyEasy
    · refine keeps_empty_modifyMulti fun state empty closed => ?_
      exact ⟨(empty closed).1, (empty closed).2.1, rfl⟩
  intro system before
  show EmptyUnlessOpen (finalState (ite _ _ _) system)
  split
  · exact before
  · have returns : Returns (detachAll multi) system () (finalState (detachAll multi) system) :=
      returns_of_raisesOnly (detachAll_not_raises multi) system
    rw [returns.finalState_bind]
    exact emptyUnlessOpen_setMulti (detaches system before) fun _ =>
      ⟨detachAll_attached system multi, rfl, rfl⟩

theorem keeps_empty_close {permanent : Bool} {replies : ObjectId → Reply} :
    Keeps EmptyUnlessOpen (close permanent multi replies) := by
  refine keeps_bind keeps_get fun system => keeps_bind ?_ fun _ => keeps_bind ?_ fun _ =>
    keeps_bind ?_ fun _ => keeps_bind keeps_empty_multiCloseNative fun _ => ?_
  · exact keeps_forM fun easy _ => keeps_empty_multiRemoveNative
  · cases permanent with
    | true =>
      refine keeps_bind keeps_get fun system => keeps_bind (keeps_forM fun easy _ => ?_) fun _ => ?_
      · refine keeps_bind keeps_get fun system => ?_
        split
        · exact keeps_empty_easyMultiSet
        · exact keeps_pure
      · exact keeps_empty_of_tables fun _ => ⟨rfl, rfl, rfl, rfl⟩
    | false => exact keeps_pure
  · exact keeps_empty_of_tables fun _ => ⟨rfl, rfl, rfl, rfl⟩
  · cases permanent with
    | true =>
      rw [when, if_pos rfl]
      exact keeps_empty_of_tables fun _ => ⟨rfl, rfl, rfl, rfl⟩
    | false => exact keeps_pure

theorem keeps_empty_performGuardEnsure : Keeps EmptyUnlessOpen (performGuardEnsure multi) :=
  keeps_empty_of_tables fun _ => ⟨rfl, rfl, rfl, rfl⟩

theorem keeps_empty_performBegin : Keeps EmptyUnlessOpen (performBegin multi) := by
  refine keeps_bind keeps_get fun system => ?_
  split
  · exact keeps_throw
  · refine keeps_bind (keeps_empty_of_tables fun _ => ⟨rfl, rfl, rfl, rfl⟩) fun _ => ?_
    refine keeps_tryCatch keeps_empty_ensureHandle fun error => ?_
    exact keeps_bind keeps_empty_performGuardEnsure fun _ => keeps_throw

theorem keeps_empty_performReturn {autoclose : Bool} {replies : ObjectId → Reply} :
    Keeps EmptyUnlessOpen (performReturn multi autoclose replies) := by
  intro system before
  unfold performReturn
  rw [finalState_ensuring]
  apply keeps_empty_performGuardEnsure
  cases autoclose with
  | false => exact before
  | true =>
    have closes : Keeps EmptyUnlessOpen (do
        modifyMulti multi fun state => { state with allowCloseDuringPerform := true }
        close false multi replies
        modifyMulti multi fun state => { state with allowCloseDuringPerform := false }) := by
      refine keeps_bind ?_ fun _ => keeps_bind keeps_empty_close fun _ => ?_
      · exact keeps_empty_of_tables fun _ => ⟨rfl, rfl, rfl, rfl⟩
      · exact keeps_empty_of_tables fun _ => ⟨rfl, rfl, rfl, rfl⟩
    exact closes system before

theorem keeps_empty_stashException {raised : Bool} :
    Keeps EmptyUnlessOpen (stashException multi raised) :=
  keeps_empty_of_tables fun _ => ⟨rfl, rfl, rfl, rfl⟩

theorem keeps_empty_completeBegin {callbackError : Bool} {flush reply flushAgain : Reply} :
    Keeps EmptyUnlessOpen (completeBegin multi easy callbackError flush reply flushAgain) := by
  have enters : Keeps EmptyUnlessOpen (enterCallbacks multi easy callbackError flushAgain) := by
    cases flushAgain with
    | error error => exact keeps_empty_stashException
    | ok value =>
      refine keeps_bind (keeps_modify fun system before => ?_) fun _ =>
        keeps_bind keeps_empty_stashException fun _ => keeps_empty_modifyEasy
      exact emptyUnlessOpen_setMulti before (before multi)
  refine keeps_bind keeps_get fun system => ?_
  split
  · cases flush with
    | error error => exact keeps_empty_stashException
    | ok value =>
      cases reply with
      | error error => exact keeps_empty_stashException
      | ok value =>
        exact keeps_bind keeps_empty_curlMultiRemoveHandle fun _ =>
          keeps_bind keeps_empty_decrement fun _ => keeps_bind keeps_empty_deleteRequest fun _ =>
            keeps_bind keeps_empty_forgetEasy fun _ => enters
  · exact keeps_pure

theorem keeps_empty_completeEnd {outcome : CallbackOutcome} :
    Keeps EmptyUnlessOpen (completeEnd multi outcome) := by
  have raises {snapshot : List (ObjectId × Nat)} :
      Keeps EmptyUnlessOpen (callbackRaise multi snapshot outcome) := by
    cases outcome with
    | returned => exact keeps_pure
    | escaped => exact keeps_empty_stashException
    | statusRaised replies =>
      refine keeps_bind keeps_empty_stashException fun _ => keeps_bind keeps_get fun system => ?_
      refine keeps_forM fun easy _ => keeps_bind keeps_get fun system => ?_
      split
      · exact keeps_bind keeps_empty_deleteRequest fun _ => keeps_empty_multiRemoveNative
      · exact keeps_pure
  have finishes {easy : ObjectId} : Keeps EmptyUnlessOpen (finishCompletionCallbacks multi easy) := by
    refine keeps_bind keeps_empty_modifyEasy fun _ => keeps_bind ?_ fun _ => ?_
    · exact keeps_empty_of_tables fun _ => ⟨rfl, rfl, rfl, rfl⟩
    · refine keeps_modify fun system before => ?_
      split
      · exact before
      · exact before
  refine keeps_bind keeps_get fun system => ?_
  split
  · exact keeps_pure
  · intro state before
    rw [finalState_ensuring]
    exact finishes _ (raises _ before)

theorem emptyUnlessOpen_step (before : EmptyUnlessOpen system) (operation : Operation) :
    EmptyUnlessOpen (step system operation) := by
  cases operation with
  | add multi easy safety setup reply => exact keeps_empty_add system before
  | remove multi easy reply => exact keeps_empty_remove system before
  | cancel multi replies =>
    have removes : Keeps EmptyUnlessOpen (cancel multi replies) :=
      keeps_bind keeps_get fun _ => keeps_forM fun easy _ => keeps_empty_remove
    exact removes system before
  | close permanent multi replies => exact keeps_empty_close system before
  | easyMultiSet easy multi reply => exact keeps_empty_easyMultiSet system before
  | easyClose easy reply => exact keeps_empty_easyClose system before
  | nativeState easy callbackActive nativeActive => exact before
  | performBegin multi => exact keeps_empty_performBegin system before
  | performReturn multi autoclose replies => exact keeps_empty_performReturn system before
  | performRaise multi deferred =>
    have raises : Keeps EmptyUnlessOpen (performRaise multi deferred) := by
      refine keeps_bind ?_ fun _ => keeps_empty_performGuardEnsure
      exact keeps_empty_of_tables fun _ => ⟨rfl, rfl, rfl, rfl⟩
    exact raises system before
  | completeBegin multi easy callbackError flush reply flushAgain =>
    exact keeps_empty_completeBegin system before
  | completeEnd multi outcome => exact keeps_empty_completeEnd system before

/-! ## With the counts and the signatures -/

variable {Signature : Type}

/-- The attachment with `rbcm->running` and `__curb_native_safety_signatures` of every multi. -/
structure Tables (Signature : Type) where
  system : System
  running : ObjectId → Nat
  signatures : ObjectId → ObjectId → Option Signature

abbrev TablesM (Signature : Type) := EStateM RubyError (Tables Signature)

/-- An operation on the attachment. -/
def onSystem : SystemM Unit → TablesM Signature Unit :=
  zoom Tables.system fun tables system => { tables with system := system }

/-- Writes `rbcm->running`. -/
def modifyRunning (multi : ObjectId) (f : Nat → Nat) : TablesM Signature Unit :=
  modify fun tables => { tables with
    running := Function.update tables.running multi (f (tables.running multi)) }

/-- Records or deletes a signature. -/
def setSignature (multi easy : ObjectId) (signature : Option Signature) : TablesM Signature Unit :=
  modify fun tables => { tables with
    signatures := Function.update tables.signatures multi
      (Function.update (tables.signatures multi) easy signature) }

namespace Tables

/-- `ruby_curl_multi_ensure_handle` (`curb_multi.c:553-560`): a new `CURLM *` runs nothing. -/
def ensureHandle (multi : ObjectId) : TablesM Signature Unit := do
  let tables ← get
  onSystem (Attachment.ensureHandle multi)
  if (tables.system.multis multi).handle then pure () else modifyRunning multi fun _ => 0

/-- `ruby_curl_multi_add` (`curb_multi.c:742-793`). -/
def multiAddNative (multi easy : ObjectId) (setup reply : Reply) : TablesM Signature Unit := do
  ensureHandle multi
  let tables ← get
  onSystem (attachNative multi easy setup reply)
  if easy ∈ (tables.system.multis multi).attached then pure ()
  else modifyRunning multi fun running => running + 1

/-- `Multi#add` (`multi.rb:442-453`); `signature` is what `__curb_safety_signature_for` makes of
the handle. -/
def add (multi easy : ObjectId) (safety setup reply : Reply) (signature : Signature) :
    TablesM Signature Unit := do
  let tables ← get
  if easy ∈ (tables.system.multis multi).requests then pure ()
  else if (tables.system.multis multi).deferredException then pure ()
  else
    onSystem (checkReply safety)
    multiAddNative multi easy setup reply
    onSystem (unregisterIdle (some multi) easy)
    onSystem (modifyMulti multi fun state => { state with requests := state.requests ++ [easy] })
    setSignature multi easy (some signature)

/-- `Multi#remove` (`multi.rb:455-461`). -/
def remove (multi easy : ObjectId) (reply : Reply) : TablesM Signature Unit := do
  let tables ← get
  if easy ∈ (tables.system.multis multi).requests then
    onSystem (deleteRequest multi easy)
    setSignature multi easy none
    onSystem (multiRemoveNative multi easy reply)
  else pure ()

/-- A call of one of the two. -/
inductive Call (Signature : Type) where
  | add (multi easy : ObjectId) (safety setup reply : Reply) (signature : Signature)
  | remove (multi easy : ObjectId) (reply : Reply)

def Call.execute : Call Signature → TablesM Signature Unit
  | .add multi easy safety setup reply signature => Tables.add multi easy safety setup reply signature
  | .remove multi easy reply => Tables.remove multi easy reply

/-- The call is for a member of the multi that libcurl does not let go. -/
def Call.IsRefusedRemoval (system : System) : Call Signature → Prop
  | .remove multi easy (.error _) => easy ∈ (system.multis multi).requests
  | _ => False

/-- A call, or another operation on the attachment with what it makes of the counts of the open
multis and of the signatures. -/
inductive Event (Signature : Type) where
  | call (made : Call Signature)
  | other (operation : Operation) (running : ObjectId → Nat)
      (signatures : ObjectId → ObjectId → Option Signature)

/-- What an event does. A multi that has been closed has its count set to zero
(`curb_multi.c:449`, `534`, `2320`). -/
def Event.execute : Event Signature → TablesM Signature Unit
  | .call made => made.execute
  | .other operation running signatures =>
      ensuring (onSystem (Attachment.execute operation)) <| modify fun tables => { tables with
        running := fun multi => if (tables.system.multis multi).handle then running multi else 0
        signatures := signatures }

/-- The tables after these events, from new handles and new multis. -/
def after (events : List (Event Signature)) : Tables Signature :=
  events.foldl (fun tables event => finalState event.execute tables)
    ⟨fresh, fun _ => 0, fun _ _ => none⟩

/-- A multi that is not open is empty and runs nothing. -/
structure Settled (tables : Tables Signature) : Prop where
  empty : EmptyUnlessOpen tables.system
  running : ∀ multi, (tables.system.multis multi).handle = false → tables.running multi = 0

/-- Everything a call writes is as it was. -/
structure Unchanged (before after : Tables Signature) : Prop where
  attachment : SameAttachment before.system after.system
  running : after.running = before.running
  signatures : after.signatures = before.signatures

theorem Unchanged.refl (tables : Tables Signature) : Unchanged tables tables :=
  ⟨.refl tables.system, rfl, rfl⟩

/-- The `CURLM *` of a settled multi: it is there afterwards, or nothing has been written. -/
theorem ensureHandle_settled {tables : Tables Signature} (settled : Settled tables) :
    (∃ ready, Returns (ensureHandle multi) tables () ready ∧ Settled ready ∧
        (ready.system.multis multi).handle = true ∧ Unchanged tables ready) ∨
      Raises (ensureHandle multi) tables badHandle tables := by
  have unfolded : ensureHandle multi tables = (do
      onSystem (Attachment.ensureHandle multi)
      if (tables.system.multis multi).handle then pure () else modifyRunning multi fun _ => 0 :
        TablesM Signature Unit) tables := rfl
  unfold Returns Raises
  rw [unfolded]
  rcases @ensureHandle_opens tables.system multi settled.empty with
    ⟨system, returns, handle, open_, empty, same⟩ | raises
  · have first : Returns (onSystem (Attachment.ensureHandle multi)) tables ()
        { tables with system := system } := zoom_returns_iff.mpr ⟨system, returns, rfl⟩
    have running : ∀ owner, (system.multis owner).handle = false → tables.running owner = 0 :=
      fun owner closed => settled.running owner (open_ owner closed)
    refine Or.inl ⟨{ tables with system := system }, bind_returns_iff.mpr ⟨_, _, first, ?_⟩,
      ⟨empty, running⟩, handle, ⟨same, rfl, rfl⟩⟩
    split
    · rfl
    · rename_i closed
      have zero := settled.running multi ((Bool.not_eq_true _).mp closed)
      have counts : Function.update tables.running multi 0 = tables.running := by
        rw [← zero, Function.update_eq_self]
      refine returns_modify_iff.mpr ?_
      rw [counts]
  · refine Or.inr (bind_raises_iff.mpr (Or.inl ?_))
    exact zoom_raises_iff.mpr ⟨_, raises, rfl⟩

/-- `ruby_curl_multi_add` raises before it has written anything. -/
theorem attachNative_raises {setup reply : Reply} {system system' : System} {error : RubyError}
    (raises : Raises (attachNative multi easy setup reply) system error system') : system' = system := by
  have unfolded : attachNative multi easy setup reply system =
      (if easy ∈ (system.multis multi).attached then pure ()
        else if system.isActiveElsewhere multi easy then throw activeElsewhere
        else do
          checkReply setup
          checkReply reply
          attachAccepted multi easy : SystemM Unit) system := rfl
  rw [Raises, unfolded] at raises
  split at raises
  · exact absurd raises raises_pure_iff
  split at raises
  · exact (raises_throw_iff.mp raises).2
  cases setup with
  | error setupError => exact (raises_throw_iff.mp raises).2
  | ok value =>
    cases reply with
    | error replyError => exact (raises_throw_iff.mp raises).2
    | ok value => cases raises

theorem multiAddNative_raises {setup reply : Reply} {tables tables' : Tables Signature}
    {error : RubyError} (settled : Settled tables)
    (raises : Raises (multiAddNative multi easy setup reply) tables error tables') :
    Unchanged tables tables' := by
  rcases @ensureHandle_settled multi _ _ settled with ⟨ready, ensured, _, _, same⟩ | refused
  · have late := ensured.raises_bind_iff.mp raises
    have reads : Returns (get : TablesM Signature (Tables Signature)) ready ready ready := rfl
    rcases bind_raises_iff.mp (reads.raises_bind_iff.mp late) with attaches | ⟨_, middle, _, counts⟩
    · obtain ⟨system, native, final⟩ := zoom_raises_iff.mp attaches
      rw [final, attachNative_raises native]
      exact same
    · split at counts
      · exact absurd counts raises_pure_iff
      · exact absurd counts raises_modify_iff
  · have early : Raises (multiAddNative multi easy setup reply) tables badHandle tables :=
      bind_raises_iff.mpr (Or.inl refused)
    rw [(early.unique raises).2]
    exact .refl tables

/-- An addition that raises leaves everything as it was. -/
theorem add_raises {safety setup reply : Reply} {signature : Signature}
    {tables tables' : Tables Signature} {error : RubyError} (settled : Settled tables)
    (raises : Raises (add multi easy safety setup reply signature) tables error tables') :
    Unchanged tables tables' := by
  have unfolded : add multi easy safety setup reply signature tables =
      (if easy ∈ (tables.system.multis multi).requests then pure ()
        else if (tables.system.multis multi).deferredException then pure ()
        else do
          onSystem (checkReply safety)
          multiAddNative multi easy setup reply
          onSystem (unregisterIdle (some multi) easy)
          onSystem (modifyMulti multi fun state =>
            { state with requests := state.requests ++ [easy] })
          setSignature multi easy (some signature) : TablesM Signature Unit) tables := rfl
  rw [Raises, unfolded] at raises
  split at raises
  · exact absurd raises raises_pure_iff
  split at raises
  · exact absurd raises raises_pure_iff
  cases safety with
  | error safetyError =>
    have refused : Raises (onSystem (checkReply (.error safetyError))) tables safetyError tables := rfl
    rcases bind_raises_iff.mp raises with early | ⟨_, middle, accepted, _⟩
    · rw [(refused.unique early).2]
      exact .refl tables
    · exact absurd refused accepted.not_raises
  | ok value =>
    have passed : Returns (onSystem (checkReply (.ok value))) tables () tables := rfl
    rcases bind_raises_iff.mp (passed.raises_bind_iff.mp raises) with native | ⟨_, middle, _, late⟩
    · exact multiAddNative_raises settled native
    · cases late

/-- A removal that raises has been refused by libcurl, and leaves the request deleted. -/
theorem remove_raises_iff {reply : Reply} {tables tables' : Tables Signature} {error : RubyError} :
    Raises (remove multi easy reply) tables error tables' ↔
      easy ∈ (tables.system.multis multi).requests ∧ reply = .error error ∧
        tables' = { tables with
          system := tables.system.setMulti multi { tables.system.multis multi with
            requests := (tables.system.multis multi).requests.erase easy }
          signatures := Function.update tables.signatures multi
            (Function.update (tables.signatures multi) easy none) } := by
  have unfolded : remove multi easy reply tables =
      (if easy ∈ (tables.system.multis multi).requests then do
          onSystem (deleteRequest multi easy)
          setSignature multi easy none
          onSystem (multiRemoveNative multi easy reply)
        else pure () : TablesM Signature Unit) tables := rfl
  rw [Raises, unfolded]
  by_cases member : easy ∈ (tables.system.multis multi).requests
  · rw [if_pos member]
    cases reply with
    | ok value =>
      constructor
      · intro raises
        cases raises
      · intro refused
        cases refused.2.1
    | error refusal =>
      constructor
      · intro raises
        cases raises
        exact ⟨member, rfl, rfl⟩
      · intro refused
        cases refused.2.1
        rw [refused.2.2]
        rfl
  · rw [if_neg member]
    exact ⟨fun raises => absurd raises raises_pure_iff, fun refused => absurd refused.1 member⟩

/-! ## The attachment underneath -/

/-- A result without the counts and the signatures. -/
def attachmentOf : EStateM.Result RubyError (Tables Signature) Unit →
    EStateM.Result RubyError System Unit
  | .ok value tables => .ok value tables.system
  | .error error tables => .error error tables.system

/-- On the attachment the first operation is the second. -/
def Lifts (lifted : TablesM Signature Unit) (operation : SystemM Unit) : Prop :=
  ∀ tables, attachmentOf (lifted tables) = operation tables.system

theorem lifts_onSystem (operation : SystemM Unit) :
    Lifts (onSystem operation : TablesM Signature Unit) operation := by
  intro tables
  unfold onSystem zoom attachmentOf
  cases operation tables.system with
  | ok value system => rfl
  | error error system => rfl

theorem lifts_bind {lifted lifted' : TablesM Signature Unit} {operation operation' : SystemM Unit}
    (first : Lifts lifted operation) (rest : Lifts lifted' operation') :
    Lifts (lifted >>= fun _ => lifted') (operation >>= fun _ => operation') := by
  intro tables
  have head := first tables
  simp only [bind, EStateM.bind]
  rw [← head]
  cases lifted tables with
  | ok value middle => exact rest middle
  | error error middle => rfl

/-- A second part that writes counts or signatures only. -/
theorem lifts_bind_left {lifted lifted' : TablesM Signature Unit} {operation : SystemM Unit}
    (first : Lifts lifted operation) (rest : Lifts lifted' (pure ())) :
    Lifts (lifted >>= fun _ => lifted') operation := by
  intro tables
  have head := first tables
  simp only [bind, EStateM.bind]
  rw [← head]
  cases lifted tables with
  | ok value middle => exact rest middle
  | error error middle => rfl

/-- A first part that writes counts or signatures only. -/
theorem lifts_bind_right {lifted lifted' : TablesM Signature Unit} {operation : SystemM Unit}
    (first : Lifts lifted (pure ())) (rest : Lifts lifted' operation) :
    Lifts (lifted >>= fun _ => lifted') operation :=
  lifts_bind first rest

theorem lifts_multiAddNative (multi easy : ObjectId) (setup reply : Reply) :
    Lifts (multiAddNative multi easy setup reply : TablesM Signature Unit)
      (Attachment.multiAddNative multi easy setup reply) := by
  have opens : Lifts (ensureHandle multi : TablesM Signature Unit)
      (Attachment.ensureHandle multi) := by
    intro tables
    refine lifts_bind_left (lifts_onSystem _) ?_ tables
    split
    · exact fun _ => rfl
    · exact fun _ => rfl
  refine lifts_bind opens fun tables => ?_
  refine lifts_bind_left (lifts_onSystem _) ?_ tables
  split
  · exact fun _ => rfl
  · exact fun _ => rfl

theorem lifts_add (multi easy : ObjectId) (safety setup reply : Reply) (signature : Signature) :
    Lifts (add multi easy safety setup reply signature)
      (Attachment.add multi easy safety setup reply) := by
  intro tables
  show attachmentOf ((ite (easy ∈ (tables.system.multis multi).requests) _
    (ite ((tables.system.multis multi).deferredException = true) _ _) : TablesM Signature Unit) tables) =
      (ite (easy ∈ (tables.system.multis multi).requests) _
        (ite ((tables.system.multis multi).deferredException = true) _ _) : SystemM Unit) tables.system
  split
  · rfl
  split
  · rfl
  · have records : Lifts (setSignature multi easy (some signature)) (pure ()) := fun _ => rfl
    refine lifts_bind (lifts_onSystem _) (lifts_bind
      (lifts_multiAddNative multi easy setup reply) ?_) tables
    exact lifts_bind (lifts_onSystem _) (lifts_bind_left (lifts_onSystem _) records)

theorem lifts_remove (multi easy : ObjectId) (reply : Reply) :
    Lifts (remove multi easy reply : TablesM Signature Unit) (Attachment.remove multi easy reply) := by
  intro tables
  show attachmentOf ((ite (easy ∈ (tables.system.multis multi).requests) _ _ :
    TablesM Signature Unit) tables) = (ite (easy ∈ (tables.system.multis multi).requests) _ _ :
      SystemM Unit) tables.system
  split
  · have deletes : Lifts (setSignature multi easy (none : Option Signature)) (pure ()) := fun _ => rfl
    exact lifts_bind (lifts_onSystem _) (lifts_bind_right deletes (lifts_onSystem _)) tables
  · rfl

/-- The call as an operation on the attachment. -/
def Call.operation : Call Signature → Operation
  | .add multi easy safety setup reply _ => .add multi easy safety setup reply
  | .remove multi easy reply => .remove multi easy reply

/-- A call changes the attachment as its operation does. -/
theorem system_of_call (made : Call Signature) (tables : Tables Signature) :
    (finalState made.execute tables).system = step tables.system made.operation := by
  have lifts : Lifts made.execute (Attachment.execute made.operation) := by
    cases made with
    | add multi easy safety setup reply signature =>
      exact lifts_add multi easy safety setup reply signature
    | remove multi easy reply => exact lifts_remove multi easy reply
  have same := lifts tables
  unfold step finalState
  rw [← same]
  cases made.execute tables with
  | ok value middle => rfl
  | error error middle => rfl

/-! ## Every state is settled -/

/-- The same multis have their `CURLM *`. -/
def SameHandles (before after : System) : Prop :=
  ∀ multi, (after.multis multi).handle = (before.multis multi).handle

theorem keeps_handles_setMulti {before : System} {f : System → Multi}
    (same : ∀ system, (f system).handle = (system.multis multi).handle) :
    Keeps (SameHandles before) (modify fun system => system.setMulti multi (f system) : SystemM Unit) := by
  refine keeps_modify fun system handles owner => ?_
  by_cases isMulti : owner = multi
  · rw [isMulti, System.setMulti_self, same]
    exact handles multi
  · rw [System.setMulti_of_ne _ _ isMulti]
    exact handles owner

theorem keeps_handles_checkReply {before : System} {reply : Reply} :
    Keeps (SameHandles before) (checkReply reply) := by
  cases reply with
  | ok value => exact keeps_pure
  | error error => exact keeps_throw

theorem keeps_handles_unregisterIdle {before : System} {owner : Option ObjectId} :
    Keeps (SameHandles before) (unregisterIdle owner easy) := by
  cases owner with
  | none => exact keeps_pure
  | some owner => exact keeps_handles_setMulti fun _ => rfl

theorem keeps_handles_multiRemoveNative {before : System} {reply : Reply} :
    Keeps (SameHandles before) (multiRemoveNative multi easy reply) :=
  keeps_bind keeps_handles_checkReply fun _ =>
    keeps_bind (keeps_handles_setMulti fun _ => rfl) fun _ =>
      keeps_bind (keeps_handles_setMulti fun _ => rfl) fun _ =>
        keeps_bind (keeps_modify fun _ handles => handles) fun _ => keeps_handles_setMulti fun _ => rfl

theorem keeps_handles_attachNative {before : System} {setup reply : Reply} :
    Keeps (SameHandles before) (attachNative multi easy setup reply) := by
  refine keeps_bind keeps_get fun system => ?_
  split
  · exact keeps_pure
  split
  · exact keeps_throw
  · refine keeps_bind keeps_handles_checkReply fun _ => keeps_bind keeps_handles_checkReply fun _ => ?_
    exact keeps_bind (keeps_handles_setMulti fun _ => rfl) fun _ => keeps_modify fun _ handles => handles

/-- An operation that opens and closes no multi, where the multi it is about is open. -/
theorem keeps_open_onSystem {operation : SystemM Unit}
    (empty : ∀ system, EmptyUnlessOpen system → (system.multis multi).handle = true →
      EmptyUnlessOpen (finalState operation system))
    (handles : ∀ before, Keeps (SameHandles before) operation) :
    Keeps (fun tables : Tables Signature => Settled tables ∧ (tables.system.multis multi).handle = true)
      (onSystem operation) := by
  intro tables settled
  have same := handles tables.system tables.system fun _ => rfl
  rw [onSystem, finalState_zoom]
  refine ⟨⟨empty _ settled.1.empty settled.2, fun owner closed => ?_⟩, ?_⟩
  · exact settled.1.running owner ((same owner).symm.trans closed)
  · exact (same multi).trans settled.2

/-- An operation that opens and closes no multi. -/
theorem keeps_settled_onSystem {operation : SystemM Unit} (empty : Keeps EmptyUnlessOpen operation)
    (handles : ∀ before, Keeps (SameHandles before) operation) :
    Keeps (Settled : Tables Signature → Prop) (onSystem operation) := by
  intro tables settled
  have same := handles tables.system tables.system fun _ => rfl
  rw [onSystem, finalState_zoom]
  refine ⟨empty _ settled.empty, fun owner closed => ?_⟩
  exact settled.running owner ((same owner).symm.trans closed)

theorem keeps_settled_multiAddNative {setup reply : Reply} :
    Keeps (Settled : Tables Signature → Prop) (multiAddNative multi easy setup reply) := by
  intro tables settled
  rcases @ensureHandle_settled multi _ _ settled with ⟨ready, ensured, settled', handle, _⟩ | refused
  · have attaches : Keeps (fun tables : Tables Signature => Settled tables ∧
        (tables.system.multis multi).handle = true) (do
          let tables ← get
          onSystem (attachNative multi easy setup reply)
          if easy ∈ (tables.system.multis multi).attached then pure ()
          else modifyRunning multi fun running => running + 1) := by
      refine keeps_bind keeps_get fun tables => keeps_bind ?_ fun _ => ?_
      · exact keeps_open_onSystem (fun _ => keeps_empty_attachNative) fun _ => keeps_handles_attachNative
      split
      · exact keeps_pure
      · refine keeps_modify fun tables settled => ⟨⟨settled.1.empty, fun owner closed => ?_⟩, settled.2⟩
        have ne : owner ≠ multi := by
          intro isMulti
          rw [isMulti] at closed
          cases settled.2.symm.trans closed
        show Function.update tables.running multi _ owner = 0
        rw [Function.update_of_ne ne]
        exact settled.1.running owner closed
    have same : finalState (multiAddNative multi easy setup reply) tables = _ :=
      ensured.finalState_bind
    rw [same]
    exact (attaches ready ⟨settled', handle⟩).1
  · have same : finalState (multiAddNative multi easy setup reply) tables = tables :=
      refused.finalState_bind
    rwa [same]

theorem keeps_settled_setSignature {signature : Option Signature} :
    Keeps Settled (setSignature multi easy signature) :=
  keeps_modify fun _ settled => ⟨settled.empty, settled.running⟩

theorem keeps_settled_execute (event : Event Signature) : Keeps Settled event.execute := by
  cases event with
  | call made =>
    cases made with
    | add multi easy safety setup reply signature =>
      refine keeps_bind keeps_get fun tables => ?_
      show Keeps Settled (ite _ _ _)
      split
      · exact keeps_pure
      split
      · exact keeps_pure
      refine keeps_bind ?_ fun _ => keeps_bind keeps_settled_multiAddNative fun _ =>
        keeps_bind ?_ fun _ => keeps_bind ?_ fun _ => keeps_settled_setSignature
      · exact keeps_settled_onSystem keeps_empty_checkReply fun _ => keeps_handles_checkReply
      · exact keeps_settled_onSystem keeps_empty_unregisterIdle fun _ => keeps_handles_unregisterIdle
      · refine keeps_settled_onSystem ?_ fun _ => keeps_handles_setMulti fun _ => rfl
        exact keeps_empty_of_tables fun _ => ⟨rfl, rfl, rfl, rfl⟩
    | remove multi easy reply =>
      refine keeps_bind keeps_get fun tables => ?_
      show Keeps Settled (ite _ _ _)
      split
      · refine keeps_bind ?_ fun _ => keeps_bind keeps_settled_setSignature fun _ => ?_
        · exact keeps_settled_onSystem keeps_empty_deleteRequest fun _ =>
            keeps_handles_setMulti fun _ => rfl
        · exact keeps_settled_onSystem keeps_empty_multiRemoveNative fun _ =>
            keeps_handles_multiRemoveNative
      · exact keeps_pure
  | other operation running signatures =>
    intro tables settled
    rw [Event.execute, finalState_ensuring, onSystem, finalState_zoom]
    refine ⟨emptyUnlessOpen_step settled.empty operation, fun owner closed => ?_⟩
    exact if_neg (Bool.not_eq_true _ ▸ closed)

theorem settled_after (events : List (Event Signature)) : Settled (after events) := by
  have fresh : Settled (⟨fresh, fun _ => 0, fun _ _ => none⟩ : Tables Signature) :=
    ⟨fun _ => nofun, fun _ _ => rfl⟩
  have folds : ∀ (events : List (Event Signature)) (tables : Tables Signature), Settled tables →
      Settled (events.foldl (fun tables event => finalState event.execute tables) tables) := by
    intro events
    induction events with
    | nil => exact fun tables settled => settled
    | cons event events ih =>
      exact fun tables settled => ih _ (keeps_settled_execute event tables settled)
  exact folds events _ fresh

/-- In every state a call that raises has left everything as it was exactly when it is no removal
of a member that libcurl refuses. -/
theorem raises_unchanged_iff (events : List (Event Signature)) (call : Call Signature) :
    (∀ error tables, Raises call.execute (after events) error tables →
      Unchanged (after events) tables) ↔ ¬call.IsRefusedRemoval (after events).system := by
  have settled := settled_after events
  cases call with
  | add multi easy safety setup reply signature =>
    constructor
    · exact fun _ => id
    · exact fun _ error tables raises => add_raises settled raises
  | remove multi easy reply =>
    cases reply with
    | ok value =>
      constructor
      · exact fun _ => id
      · exact fun _ error tables raises => nomatch (remove_raises_iff.mp raises).2.1
    | error refusal =>
      constructor
      · intro unchanged member
        have raises : Raises (remove multi easy (.error refusal)) (after events) refusal _ :=
          remove_raises_iff.mpr ⟨member, rfl, rfl⟩
        have same := (unchanged refusal _ raises).attachment.requests multi
        rw [System.setMulti_self] at same
        have shorter := List.length_erase_of_mem member
        have positive := List.length_pos_of_mem member
        have lengths := congrArg List.length same
        dsimp only at lengths
        omega
      · exact fun absent error tables raises => absurd (remove_raises_iff.mp raises).1 absent

/-- A transfer callback removes its own handle: libcurl refuses the recursive call. -/
theorem refused_removal_deletes : ∃ error tables,
    Raises (Call.remove 0 1 (.error badHandle) : Call Unit).execute
      (after [.call (.add 0 1 (.ok ()) (.ok ()) (.ok ()) ())]) error tables ∧
    ¬Unchanged (after [.call (.add 0 1 (.ok ()) (.ok ()) (.ok ()) ())]) tables := by
  have raised : errorOf (Call.remove 0 1 (.error badHandle) : Call Unit).execute
      (after [.call (.add 0 1 (.ok ()) (.ok ()) (.ok ()) ())]) = some badHandle := by decide +kernel
  refine ⟨_, _, raises_finalState raised, fun unchanged => ?_⟩
  have deleted : ((finalState (Call.remove 0 1 (.error badHandle) : Call Unit).execute
      (after [.call (.add 0 1 (.ok ()) (.ok ()) (.ok ()) ())])).system.multis 0).requests ≠
        ((after [.call (.add 0 1 (.ok ()) (.ok ()) (.ok ()) ())] : Tables Unit).system.multis
          0).requests := by
    decide +kernel
  exact deleted (unchanged.attachment.requests 0)

end Tables

end Curb.Attachment

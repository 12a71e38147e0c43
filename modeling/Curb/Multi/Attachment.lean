import Mathlib.Logic.Function.Basic
import Curb.Ruby.Basic

/-!
# Attaching handles to multis

A handle that belongs to a multi is in three tables: the multi's Ruby `requests`, its native
`attached` table and the list libcurl keeps; the handle points back through `easy.multi`. The
operations that update them are in `lib/curl/multi.rb:325-484`, `lib/curl/easy.rb:94-118`,
`ext/curb_multi.c` and `ext/curb_easy.c`. libcurl answers every request to add or remove a
handle: it does so, or it fails without effect and the answer is the exception raised for it.
-/

namespace Curb.Attachment
open Curb.Misc Curb.Ruby

/-- A `CURL *`: the object that owns it and how many it owned before. -/
abbrev CurlHandle := ObjectId × Nat

/-- What libcurl's answer to a request is to the caller. -/
abbrev Reply := Except RubyError Unit

/-- The part of `ruby_curl_easy` (`curb_easy.h`) the attachment is kept in. -/
structure Easy where
  /-- Counts the `CURL *` of the handle; `Easy#close` makes a new one. -/
  curl : Nat
  multi : Option ObjectId
  multiAttachmentGeneration : Nat
  callbackActive : Bool
  nativeActive : Nat
  deriving DecidableEq, Repr

/-- A completion whose callbacks are running: its handle, and the attached handles with their
generations from before the callbacks (`attached_snapshot`). -/
structure Completion where
  easy : ObjectId
  attachedSnapshot : List (ObjectId × Nat)
  deriving DecidableEq, Repr

/-- The part of `ruby_curl_multi` (`curb_multi.h`), of the Ruby object around it and of the
libcurl handle that the attachment is kept in. -/
structure Multi where
  /-- The keys of `@requests`. -/
  requests : List ObjectId
  idleEasyReferences : List ObjectId
  /-- `@__curb_deferred_exception` is defined. -/
  deferredException : Bool
  /-- The native table; a `NULL` table holds nothing. -/
  attached : List ObjectId
  active : Nat
  /-- `rbcm->handle` is not `NULL`. -/
  handle : Bool
  closed : Bool
  performActive : Bool
  callbackActive : Bool
  allowCloseDuringPerform : Bool
  /-- The handles libcurl holds for the multi. -/
  held : List CurlHandle
  /-- The completions whose callbacks are running, innermost first. -/
  completions : List Completion
  deriving DecidableEq, Repr

/-- All handles and all multis. -/
structure System where
  easies : ObjectId → Easy
  multis : ObjectId → Multi

/-- An operation; a raise keeps what it has written so far. -/
abbrev SystemM := EStateM RubyError System

namespace System

/-- A system with another state of one handle. -/
def setEasy (system : System) (easy : ObjectId) (state : Easy) : System :=
  { system with easies := Function.update system.easies easy state }

/-- A system with another state of one multi. -/
def setMulti (system : System) (multi : ObjectId) (state : Multi) : System :=
  { system with multis := Function.update system.multis multi state }

@[simp] theorem setEasy_self (system : System) (easy : ObjectId) (state : Easy) :
    (system.setEasy easy state).easies easy = state := Function.update_self ..

@[simp] theorem setEasy_of_ne (system : System) {easy other : ObjectId} (state : Easy)
    (ne : other ≠ easy) : (system.setEasy easy state).easies other = system.easies other :=
  Function.update_of_ne ne ..

@[simp] theorem setEasy_multis (system : System) (easy : ObjectId) (state : Easy) :
    (system.setEasy easy state).multis = system.multis := rfl

@[simp] theorem setMulti_self (system : System) (multi : ObjectId) (state : Multi) :
    (system.setMulti multi state).multis multi = state := Function.update_self ..

@[simp] theorem setMulti_of_ne (system : System) {multi other : ObjectId} (state : Multi)
    (ne : other ≠ multi) : (system.setMulti multi state).multis other = system.multis other :=
  Function.update_of_ne ne ..

@[simp] theorem setMulti_easies (system : System) (multi : ObjectId) (state : Multi) :
    (system.setMulti multi state).easies = system.easies := rfl

@[simp] theorem setEasy_setMulti (system : System) (multi easy : ObjectId) (state : Multi)
    (record : Easy) : (system.setEasy easy record).setMulti multi state =
      (system.setMulti multi state).setEasy easy record := rfl

@[simp] theorem setMulti_setMulti (system : System) (multi : ObjectId) (state state' : Multi) :
    (system.setMulti multi state).setMulti multi state' = system.setMulti multi state' := by
  simp [setMulti]

@[simp] theorem setEasy_setEasy (system : System) (easy : ObjectId) (record record' : Easy) :
    (system.setEasy easy record).setEasy easy record' = system.setEasy easy record' := by
  simp [setEasy]

@[simp] theorem setEasy_same (system : System) (easy : ObjectId) :
    system.setEasy easy (system.easies easy) = system := by
  simp [setEasy]

@[simp] theorem setMulti_same (system : System) (multi : ObjectId) :
    system.setMulti multi (system.multis multi) = system := by
  simp [setMulti]

/-- The `CURL *` a handle owns. -/
def curlOf (system : System) (easy : ObjectId) : CurlHandle := (easy, (system.easies easy).curl)

end System

/-- Writes to a handle. -/
def modifyEasy (easy : ObjectId) (f : Easy → Easy) : SystemM Unit :=
  modify fun system => system.setEasy easy (f (system.easies easy))

/-- Writes to a multi. -/
def modifyMulti (multi : ObjectId) (f : Multi → Multi) : SystemM Unit :=
  modify fun system => system.setMulti multi (f (system.multis multi))

/-- libcurl takes the handle off the list of the multi. -/
def curlMultiRemoveHandle (multi easy : ObjectId) : SystemM Unit :=
  modify fun system => system.setMulti multi { system.multis multi with
    held := (system.multis multi).held.erase (system.curlOf easy) }

/-- The answer, or the exception raised for it. -/
def checkReply : Reply → SystemM Unit
  | .ok () => pure ()
  | .error error => throw error

/-! ## Native operations -/

/-- `ruby_curl_multi_init` (`curb_multi.c:527-551`). -/
def multiInit (multi : ObjectId) : SystemM Unit :=
  modifyMulti multi fun state => { state with
    handle := true
    held := []
    active := 0
    closed := false
    performActive := false
    callbackActive := false
    allowCloseDuringPerform := false
    attached := [] }

/-- `CURLM_BAD_HANDLE`. -/
def badHandle : RubyError := ⟨.curlError, "CURLError: Invalid multi handle".toList⟩

/-- `ruby_curl_multi_ensure_handle` (`curb_multi.c:553-560`). -/
def ensureHandle (multi : ObjectId) : SystemM Unit := do
  let system ← get
  if (system.multis multi).handle then pure ()
  else if (system.multis multi).closed then throw badHandle
  else multiInit multi

/-- `rb_curl_multi_forget_easy` (`curb_multi.c:398-407`). -/
def forgetEasy (multi easy : ObjectId) : SystemM Unit :=
  modifyMulti multi fun state => { state with attached := state.attached.erase easy }

/-- `rb_curl_multi_remove` (`curb_multi.c:819-837`). -/
def multiRemoveNative (multi easy : ObjectId) (reply : Reply) : SystemM Unit := do
  checkReply reply
  curlMultiRemoveHandle multi easy
  modifyMulti multi fun state => { state with active := state.active - 1 }
  modifyEasy easy fun state => { state with multi := none }
  forgetEasy multi easy

/-- The exception for a handle that is attached to another multi. -/
def activeElsewhere : RubyError :=
  ⟨.runtimeError, "Cannot add an active Curl::Easy handle to another Curl::Multi".toList⟩

/-- The handle is attached to a multi other than this one. -/
def System.isActiveElsewhere (system : System) (multi easy : ObjectId) : Bool :=
  (system.easies easy).multi.any fun existing =>
    existing ≠ multi ∧ easy ∈ (system.multis existing).attached

/-- libcurl has taken the handle (`curb_multi.c:771-790`). -/
def attachAccepted (multi easy : ObjectId) : SystemM Unit := do
  modify fun system => system.setMulti multi { system.multis multi with
    held := (system.multis multi).held ++ [system.curlOf easy]
    active := (system.multis multi).active + 1
    attached := (system.multis multi).attached ++ [easy] }
  modifyEasy easy fun state => { state with
    multiAttachmentGeneration := state.multiAttachmentGeneration + 1
    multi := some multi }

/-- `ruby_curl_multi_add` (`curb_multi.c:752-792`) once the multi has its `CURLM *`. The setup may
raise. -/
def attachNative (multi easy : ObjectId) (setup reply : Reply) : SystemM Unit := do
  let system ← get
  if easy ∈ (system.multis multi).attached then pure ()
  else if system.isActiveElsewhere multi easy then throw activeElsewhere
  else
    checkReply setup
    checkReply reply
    attachAccepted multi easy

/-- `ruby_curl_multi_add` (`curb_multi.c:742-793`). -/
def multiAddNative (multi easy : ObjectId) (setup reply : Reply) : SystemM Unit := do
  ensureHandle multi
  attachNative multi easy setup reply

/-- `rb_curl_multi_detach_easy` (`curb_multi.c:409-434`): the table is changed before libcurl is
asked. -/
def detachEasy (multi easy : ObjectId) (reply : Reply) : SystemM Unit := do
  let system ← get
  if easy ∈ (system.multis multi).attached then
    forgetEasy multi easy
    checkReply reply
    curlMultiRemoveHandle multi easy
    modifyMulti multi fun state => { state with active := state.active - 1 }

/-- `detach_easy_entry` (`curb_multi.c:376-396`); libcurl's answer is not looked at. -/
def detachEasyEntry (multi : ObjectId) (easy : ObjectId) : SystemM Unit := do
  curlMultiRemoveHandle multi easy
  modifyEasy easy fun state => { state with multi := none }

/-- `rb_curl_multi_detach_all` (`curb_multi.c:436-450`). -/
def detachAll (multi : ObjectId) : SystemM Unit := do
  let system ← get
  modifyMulti multi fun state => { state with attached := [] }
  (system.multis multi).attached.forM (detachEasyEntry multi)
  modifyMulti multi fun state => { state with active := 0 }

/-- `ruby_curl_multi_close` (`curb_multi.c:2304-2324`). -/
def multiCloseNative (multi : ObjectId) : SystemM Unit := do
  let system ← get
  let state := system.multis multi
  if (state.performActive || state.callbackActive) && !state.allowCloseDuringPerform then
    throw ⟨.runtimeError, "Cannot close an active Curl::Multi handle during perform".toList⟩
  else
    detachAll multi
    modifyMulti multi fun state => { state with
      handle := false
      held := []
      active := 0
      deferredException := false }

/-- Detaches a handle from the multi it points to, where it points to one. -/
def detachOld (old : Option ObjectId) (easy : ObjectId) (reply : Reply) : SystemM Unit :=
  match old with
  | none => pure ()
  | some multi => detachEasy multi easy reply

/-- `ruby_curl_easy_multi_set` (`curb_easy.c:5533-5559`). -/
def easyMultiSetNative (easy : ObjectId) (multi : Option ObjectId) (reply : Reply) : SystemM Unit := do
  let system ← get
  if (system.easies easy).multi = multi then pure ()
  else
    detachOld (system.easies easy).multi easy reply
    modifyEasy easy fun state => { state with multi := multi }

/-- `curl_multi_remove_handle` where its answer is not looked at. -/
def curlMultiRemoveHandleUnchecked (multi easy : ObjectId) : Reply → SystemM Unit
  | .ok () => curlMultiRemoveHandle multi easy
  | .error _ => pure ()

/-- `ruby_curl_easy_free` (`curb_easy.c:1311-1327`), for the multi the handle points to. -/
def freeFromMulti (old : Option ObjectId) (easy : ObjectId) (reply : Reply) : SystemM Unit :=
  match old with
  | none => pure ()
  | some multi => do
      modifyEasy easy fun state => { state with multi := none }
      curlMultiRemoveHandleUnchecked multi easy reply
      forgetEasy multi easy

/-- `ruby_curl_easy_close` (`curb_easy.c:1647-1684`): the `CURL *` is replaced. -/
def easyCloseNative (easy : ObjectId) (reply : Reply) : SystemM Unit := do
  let system ← get
  if (system.easies easy).callbackActive then
    throw ⟨.runtimeError, "Cannot close an active curl handle within a callback".toList⟩
  else if (system.easies easy).nativeActive ≠ 0 then
    throw ⟨.runtimeError, "Cannot close an active curl handle during native operation".toList⟩
  else
    freeFromMulti (system.easies easy).multi easy reply
    modifyEasy easy fun state => { state with
      curl := state.curl + 1
      multi := none
      callbackActive := false
      nativeActive := 0 }

/-! ## Ruby operations -/

/-- `__register_idle_easy_reference` (`multi.rb:364-371`). -/
def registerIdle (multi : Option ObjectId) (easy : ObjectId) : SystemM Unit :=
  match multi with
  | none => pure ()
  | some multi => modifyMulti multi fun state => { state with
      idleEasyReferences := state.idleEasyReferences.erase easy ++ [easy] }

/-- `__unregister_idle_easy_reference` (`multi.rb:373-391`). -/
def unregisterIdle (multi : Option ObjectId) (easy : ObjectId) : SystemM Unit :=
  match multi with
  | none => pure ()
  | some multi => modifyMulti multi fun state => { state with
      idleEasyReferences := state.idleEasyReferences.erase easy }

/-- `requests.delete`. -/
def deleteRequest (multi easy : ObjectId) : SystemM Unit :=
  modifyMulti multi fun state => { state with requests := state.requests.erase easy }

/-- `Multi#add` (`multi.rb:442-453`); `apply_safety!` and the setup may raise. -/
def add (multi easy : ObjectId) (safety setup reply : Reply) : SystemM Unit := do
  let system ← get
  if easy ∈ (system.multis multi).requests then pure ()
  else if (system.multis multi).deferredException then pure ()
  else
    checkReply safety
    multiAddNative multi easy setup reply
    unregisterIdle (some multi) easy
    modifyMulti multi fun state => { state with requests := state.requests ++ [easy] }

/-- `Multi#remove` (`multi.rb:455-461`): the request is deleted before libcurl is asked. -/
def remove (multi easy : ObjectId) (reply : Reply) : SystemM Unit := do
  let system ← get
  if easy ∈ (system.multis multi).requests then
    deleteRequest multi easy
    multiRemoveNative multi easy reply
  else pure ()

/-- `Multi#cancel!` (`multi.rb:325-329`). -/
def cancel (multi : ObjectId) (replies : ObjectId → Reply) : SystemM Unit := do
  let system ← get
  (system.multis multi).requests.forM fun easy => remove multi easy (replies easy)

/-- The removal `Easy#multi=` starts with (`easy.rb:110-112`). -/
def removeFromPrevious (previous : Option ObjectId) (easy : ObjectId) (reply : Reply) : SystemM Unit :=
  match previous with
  | none => pure ()
  | some multi => remove multi easy reply

/-- `Easy#multi=` (`easy.rb:106-118`). -/
def easyMultiSet (easy : ObjectId) (multi : Option ObjectId) (reply : Reply) : SystemM Unit := do
  let system ← get
  let previous := (system.easies easy).multi
  if previous = multi then pure ()
  else
    removeFromPrevious previous easy reply
    easyMultiSetNative easy multi reply
    unregisterIdle previous easy
    registerIdle multi easy

/-- `Easy#close` (`easy.rb:98-104`). -/
def easyClose (easy : ObjectId) (reply : Reply) : SystemM Unit := do
  let system ← get
  easyCloseNative easy reply
  unregisterIdle (system.easies easy).multi easy

/-- One reference of `__clear_idle_easy_references`. -/
def clearIdle (multi easy : ObjectId) (reply : Reply) : SystemM Unit := do
  let system ← get
  if (system.easies easy).multi = some multi then easyMultiSet easy none reply else pure ()

/-- `__clear_idle_easy_references` (`multi.rb:393-414`). -/
def clearIdleEasyReferences (multi : ObjectId) (replies : ObjectId → Reply) : SystemM Unit := do
  let system ← get
  (system.multis multi).idleEasyReferences.forM fun easy => clearIdle multi easy (replies easy)
  modifyMulti multi fun state => { state with idleEasyReferences := [] }

/-- `operation if condition`. -/
def when (condition : Bool) (operation : SystemM Unit) : SystemM Unit :=
  if condition then operation else pure ()

/-- `__close` (`multi.rb:475-484`): `Multi#close` when `permanent`, else `Multi#_autoclose`. -/
def close (permanent : Bool) (multi : ObjectId) (replies : ObjectId → Reply) : SystemM Unit := do
  let system ← get
  (system.multis multi).requests.forM fun easy => multiRemoveNative multi easy (replies easy)
  when permanent (clearIdleEasyReferences multi replies)
  modifyMulti multi fun state => { state with requests := [] }
  multiCloseNative multi
  when permanent (modifyMulti multi fun state => { state with closed := true })

/-! ## Performing -/

/-- `ruby_curl_multi_perform_guard_ensure` (`curb_multi.c:2246-2253`). -/
def performGuardEnsure (multi : ObjectId) : SystemM Unit :=
  modifyMulti multi fun state => { state with
    performActive := false
    callbackActive := false
    allowCloseDuringPerform := false }

/-- `Multi#perform` on its way into the native loop: the guard (`curb_multi.c:2255-2273`) and
the handle the loop makes sure of. -/
def performBegin (multi : ObjectId) : SystemM Unit := do
  let system ← get
  if (system.multis multi).performActive then
    throw ⟨.runtimeError, "Cannot recursively perform an active Curl::Multi handle".toList⟩
  else
    modifyMulti multi fun state => { state with performActive := true }
    tryCatch (ensureHandle multi) fun error => do
      performGuardEnsure multi
      throw error

/-- The end of a loop that raises nothing (`curb_multi.c:2224-2228`). -/
def performReturn (multi : ObjectId) (autoclose : Bool) (replies : ObjectId → Reply) : SystemM Unit :=
  ensuring (when autoclose do
    modifyMulti multi fun state => { state with allowCloseDuringPerform := true }
    close false multi replies
    modifyMulti multi fun state => { state with allowCloseDuringPerform := false })
    (performGuardEnsure multi)

/-- A raise out of the loop. `raise_multi_deferred_exception_if_idle` (`curb_multi.c:326-340`)
takes the pending exception when no transfer is attached. -/
def performRaise (multi : ObjectId) (deferred : Bool) : SystemM Unit := do
  modifyMulti multi fun state => { state with
    deferredException :=
      state.deferredException && !(deferred && state.active == 0) }
  performGuardEnsure multi

/-- `capture_attached_easy_snapshot` (`curb_multi.c:921-933`). -/
def System.attachedSnapshot (system : System) (multi : ObjectId) : List (ObjectId × Nat) :=
  (system.multis multi).attached.map fun easy =>
    (easy, (system.easies easy).multiAttachmentGeneration)

/-- `stash_multi_exception_if_unset`, for a raise that is there. -/
def stashException (multi : ObjectId) (raised : Bool) : SystemM Unit :=
  modifyMulti multi fun state => { state with
    deferredException := state.deferredException || raised }

/-- The second flush of the handle's `stderr` and the way into the callbacks
(`curb_multi.c:1162-1174`, `1016-1021`). -/
def enterCallbacks (multi easy : ObjectId) (callbackError : Bool) : Reply → SystemM Unit
  | .error _ => stashException multi true
  | .ok () => do
      modify fun system => system.setMulti multi { system.multis multi with
        callbackActive := true
        completions := ⟨easy, system.attachedSnapshot multi⟩ :: (system.multis multi).completions }
      stashException multi callbackError
      modifyEasy easy fun state => { state with callbackActive := true }

/-- `rb_curl_mutli_handle_complete` (`curb_multi.c:1114-1175`) up to the callbacks, for a handle
libcurl holds. `callbackError` says whether a callback of the transfer has raised. The handle's
`stderr` is flushed before libcurl is asked and once more after; what a flush raises, and a
refusal of libcurl, is stashed by the caller. -/
def completeBegin (multi easy : ObjectId) (callbackError : Bool) (flush reply flushAgain : Reply) :
    SystemM Unit := do
  let system ← get
  if system.curlOf easy ∈ (system.multis multi).held then
    match flush, reply with
    | .ok (), .ok () => do
        curlMultiRemoveHandle multi easy
        modifyMulti multi fun state => { state with active := state.active - 1 }
        deleteRequest multi easy
        forgetEasy multi easy
        enterCallbacks multi easy callbackError flushAgain
    | _, _ => stashException multi true
  else pure ()

/-- `collect_new_attached_easies_i` (`curb_multi.c:940-955`). -/
def System.attachedSince (system : System) (multi : ObjectId) (snapshot : List (ObjectId × Nat)) :
    List ObjectId :=
  (system.multis multi).attached.filter fun easy =>
    (easy, (system.easies easy).multiAttachmentGeneration) ∉ snapshot

/-- One handle of `rb_curl_multi_remove_added_easies_since_snapshot` (`curb_multi.c:970-985`). -/
def removeAdded (multi easy : ObjectId) (reply : Reply) : SystemM Unit := do
  let system ← get
  if (system.easies easy).multi = some multi ∧ easy ∈ (system.multis multi).attached then
    deleteRequest multi easy
    multiRemoveNative multi easy reply
  else pure ()

/-- `rb_curl_multi_remove_added_easies_since_snapshot` (`curb_multi.c:957-988`). -/
def removeAddedEasiesSinceSnapshot (multi : ObjectId) (snapshot : List (ObjectId × Nat))
    (replies : ObjectId → Reply) : SystemM Unit := do
  let system ← get
  (system.attachedSince multi snapshot).forM fun easy => removeAdded multi easy (replies easy)

/-- `rb_curl_multi_finish_completion_callbacks` (`curb_multi.c:1087-1112`). -/
def finishCompletionCallbacks (multi easy : ObjectId) : SystemM Unit := do
  modifyEasy easy fun state => { state with callbackActive := false }
  modifyMulti multi fun state => { state with
    callbackActive := false
    completions := state.completions.tail }
  modify fun system =>
    if (system.easies easy).multi = some multi ∧ easy ∉ (system.multis multi).attached then
      system.setEasy easy { system.easies easy with multi := none }
    else system

/-- How the callbacks of a completion end: they return, a status callback raises (and no callback
of the transfer had), or an exception no `rb_rescue` catches passes through. -/
inductive CallbackOutcome where
  | returned
  | statusRaised (replies : ObjectId → Reply)
  | escaped

/-- What a raise out of the callbacks does before they are finished
(`stash_and_raise_status_callback_error_if_unmasked`, `curb_multi.c:990-1005`). -/
def callbackRaise (multi : ObjectId) (snapshot : List (ObjectId × Nat)) : CallbackOutcome → SystemM Unit
  | .returned => pure ()
  | .escaped => stashException multi true
  | .statusRaised replies => do
      stashException multi true
      removeAddedEasiesSinceSnapshot multi snapshot replies

/-- The end of the innermost completion of a multi: `rb_ensure` finishes the callbacks, and what
they raised is stashed by the caller, where it has not been. -/
def completeEnd (multi : ObjectId) (outcome : CallbackOutcome) : SystemM Unit := do
  let system ← get
  match (system.multis multi).completions with
  | [] => pure ()
  | completion :: _ =>
      ensuring (callbackRaise multi completion.attachedSnapshot outcome)
        (finishCompletionCallbacks multi completion.easy)

/-! ## Runs -/

/-- The operations, each with the answers it gets. -/
inductive Operation where
  | add (multi easy : ObjectId) (safety setup reply : Reply)
  | remove (multi easy : ObjectId) (reply : Reply)
  | cancel (multi : ObjectId) (replies : ObjectId → Reply)
  | close (permanent : Bool) (multi : ObjectId) (replies : ObjectId → Reply)
  | easyMultiSet (easy : ObjectId) (multi : Option ObjectId) (reply : Reply)
  | easyClose (easy : ObjectId) (reply : Reply)
  /-- A callback of a transfer, or a native call on the handle, is entered or left. -/
  | nativeState (easy : ObjectId) (callbackActive : Bool) (nativeActive : Nat)
  | performBegin (multi : ObjectId)
  | performReturn (multi : ObjectId) (autoclose : Bool) (replies : ObjectId → Reply)
  | performRaise (multi : ObjectId) (deferred : Bool)
  | completeBegin (multi easy : ObjectId) (callbackError : Bool) (flush reply flushAgain : Reply)
  | completeEnd (multi : ObjectId) (outcome : CallbackOutcome)

/-- What an operation does. -/
def execute : Operation → SystemM Unit
  | .add multi easy safety setup reply => add multi easy safety setup reply
  | .remove multi easy reply => remove multi easy reply
  | .cancel multi replies => cancel multi replies
  | .close permanent multi replies => close permanent multi replies
  | .easyMultiSet easy multi reply => easyMultiSet easy multi reply
  | .easyClose easy reply => easyClose easy reply
  | .nativeState easy callbackActive nativeActive =>
      modifyEasy easy fun state => { state with
        callbackActive := callbackActive
        nativeActive := nativeActive }
  | .performBegin multi => performBegin multi
  | .performReturn multi autoclose replies => performReturn multi autoclose replies
  | .performRaise multi deferred => performRaise multi deferred
  | .completeBegin multi easy callbackError flush reply flushAgain =>
      completeBegin multi easy callbackError flush reply flushAgain
  | .completeEnd multi outcome => completeEnd multi outcome

/-- One step; an operation that raises is rescued by its caller. -/
def step (system : System) (operation : Operation) : System := finalState (execute operation) system

/-- The system after these operations. -/
def run (operations : List Operation) (system : System) : System := operations.foldl step system

/-- New handles and new multis. -/
def fresh : System where
  easies := fun _ => ⟨0, none, 0, false, 0⟩
  multis := fun _ => ⟨[], [], false, [], 0, true, false, false, false, false, [], []⟩

end Curb.Attachment

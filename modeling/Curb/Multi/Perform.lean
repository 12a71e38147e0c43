import Mathlib.Logic.Function.Basic
import Curb.Misc.Runs
import Curb.Ruby.Basic

/-!
# The loops of `Multi#perform`

One multi, its transfers, and the two loops that drive them: the fdset loop
(`ruby_curl_multi_perform_impl`, `curb_multi.c:2020-2230`) and the socket-action loop
(`rb_curl_multi_socket_drive`, `curb_multi.c:1560-1881`). `Point` says where the loop is, an
`Event` is what happens next: libcurl moves a transfer on, user code runs, or the loop takes its
next step. Exceptions of callbacks are kept in `deferredException` until no transfer is left.
-/

namespace Curb.Perform
open Curb.Ruby

/-- An exception object. -/
inductive RubyException where
  /-- One that user code or the system raises; `StandardError` may be above its class. -/
  | raised (object : ObjectId) (standardError : Bool)
  /-- `build_aborted_by_callback_exception` (`curb_multi.c:283-289`). -/
  | abortedByCallback (cause : RubyException)
  deriving DecidableEq, Repr

/-- What `rb_rescue` catches. -/
def RubyException.isStandardError : RubyException → Bool
  | .raised _ standardError => standardError
  | .abortedByCallback _ => true

/-- A handle in one of its attachments: the handle and its `multi_attachment_generation`. -/
abbrev Transfer := ObjectId × Nat

/-- Membership in a list of transfers is decided through this instance. -/
instance instLawfulBEqTransfer : LawfulBEq Transfer := inferInstance

/-- The loop a `perform` runs. -/
inductive Mode where
  | fdset
  | socketAction
  deriving DecidableEq, Repr

/-- How a `perform` ends. -/
inductive Outcome where
  | returned
  | raised (exception : RubyException)
  deriving DecidableEq, Repr

/-- A completion whose callbacks are running (`struct multi_complete_callback_args`), with the
exception a callback of the transfer has raised before. -/
structure Completion where
  transfer : Transfer
  attachedSnapshot : List Transfer
  callbackError : Option RubyException
  deriving DecidableEq, Repr

/-- Where the multi is. `final` marks the read and the block after the inner loop. -/
inductive Point where
  /-- Not performing. -/
  | idle
  /-- In libcurl. -/
  | driving (mode : Mode)
  /-- In the loop of `rb_curl_multi_read_info`. -/
  | reading (mode : Mode) (final : Bool)
  | callbacks (mode : Mode) (final : Bool) (completion : Completion)
  /-- In the block given to `perform`. -/
  | block (mode : Mode) (final : Bool)
  /-- Waiting for sockets or for time to pass. -/
  | waiting (mode : Mode)
  /-- `perform` has just ended. -/
  | ended (outcome : Outcome)
  deriving DecidableEq, Repr

/-- One call of `stash_multi_exception_if_unset`: the exception, whether a callback has raised it,
and the transfers attached then. -/
structure Stash where
  exception : RubyException
  ofCallback : Bool
  attached : List Transfer
  deriving DecidableEq, Repr

/-- The multi, what libcurl knows of its transfers, and the loop. -/
structure State where
  attached : List Transfer
  active : Nat
  running : Nat
  /-- libcurl is done with them; they are still attached. -/
  finished : List Transfer
  /-- The `CURLMSG_DONE` messages that have not been read. -/
  messages : List Transfer
  deferredException : Option RubyException
  deferredExceptionSourceId : Option ObjectId
  multiAttachmentGeneration : ObjectId → Nat
  /-- `rbce->callback_error`. -/
  callbackError : ObjectId → Option RubyException
  point : Point
  /-- The stashes of the last `perform`; no operation reads them. -/
  stashes : List Stash

/-- `Multi.new`. -/
def fresh : State where
  attached := []
  active := 0
  running := 0
  finished := []
  messages := []
  deferredException := none
  deferredExceptionSourceId := none
  multiAttachmentGeneration := fun _ => 0
  callbackError := fun _ => none
  point := .idle
  stashes := []

namespace State

/-! ## Tables -/

/-- `rb_curl_multi_has_easy`. -/
def hasEasy (state : State) (easy : ObjectId) : Bool :=
  state.attached.any fun transfer => transfer.1 = easy

/-- `Multi#add` (`multi.rb:442-453`, `curb_multi.c:742-793`). It has no effect where the handle is
attached, an exception is deferred, or the handle is not `accepted`: it belongs to another multi,
its setup raises, or libcurl refuses it. -/
def add (state : State) (easy : ObjectId) (accepted : Bool) : State :=
  if state.hasEasy easy || state.deferredException.isSome || !accepted then state
  else { state with
    active := state.active + 1
    running := state.running + 1
    multiAttachmentGeneration := Function.update state.multiAttachmentGeneration easy
      (state.multiAttachmentGeneration easy + 1)
    attached := state.attached ++ [(easy, state.multiAttachmentGeneration easy + 1)] }

/-- A transfer is detached from libcurl, which forgets its message. -/
def detach (state : State) (transfer : Transfer) : State :=
  { state with
    attached := state.attached.erase transfer
    active := state.active - 1
    finished := state.finished.erase transfer
    messages := state.messages.erase transfer }

/-- `Multi#remove` (`multi.rb:455-461`, `curb_multi.c:819-837`), which does not change the native
side where libcurl refuses. -/
def remove (state : State) (easy : ObjectId) (accepted : Bool) : State :=
  match state.attached.find? fun transfer => transfer.1 = easy with
  | some transfer => if accepted then state.detach transfer else state
  | none => state

/-- libcurl finishes a transfer. -/
def finish (state : State) (transfer : Transfer) : State :=
  { state with
    finished := state.finished ++ [transfer]
    messages := state.messages ++ [transfer] }

/-- The number libcurl reports where a call into it ends. -/
def stillRunning (state : State) : Nat :=
  (state.attached.filter fun transfer => transfer ∉ state.finished).length

/-! ## The deferred exception -/

/-- `stash_multi_exception_if_unset` (`curb_multi.c:291-300`). -/
def stash (state : State) (exception : RubyException) (ofCallback : Bool) (sourceEasy : ObjectId) :
    State :=
  { state with
    deferredException := state.deferredException.or (some exception)
    deferredExceptionSourceId :=
      if state.deferredException.isSome then state.deferredExceptionSourceId else some sourceEasy
    stashes := state.stashes ++ [⟨exception, ofCallback, state.attached⟩] }

/-- The exception that `easy`'s own callback has raised is stashed, if there is one. -/
def stashIfAny (state : State) (exception : Option RubyException) (sourceEasy : ObjectId) : State :=
  match exception with
  | none => state
  | some exception => state.stash exception true sourceEasy

/-- `raise_multi_deferred_exception_if_idle` (`curb_multi.c:326-340`), after the last message. -/
def raiseIfIdle (state : State) (mode : Mode) (final : Bool) : State :=
  match state.deferredException with
  | none => { state with point := .block mode final }
  | some exception =>
      if state.active > 0 then { state with point := .block mode final }
      else { state with
        deferredException := none
        point := .ended (.raised exception) }

/-! ## Completions -/

/-- The attached handles that have been added since the snapshot, as far as libcurl lets them go
(`rb_curl_multi_remove_added_easies_since_snapshot`, `curb_multi.c:957-988`). -/
def removeAddedEasiesSinceSnapshot (state : State) (snapshot : List Transfer)
    (accepted : ObjectId → Bool) : State :=
  ((state.attached.filter fun transfer => transfer ∉ snapshot).takeWhile fun transfer =>
    accepted transfer.1).foldl detach state

/-- `rb_curl_mutli_handle_complete` (`curb_multi.c:1114-1175`) up to the callbacks. The first flush
of the handle's `stderr`, or libcurl's refusal to let the handle go, raises `early`; the second
flush raises `late`. What is raised is stashed by `rb_curl_multi_read_info`. -/
def handleComplete (state : State) (transfer : Transfer) (early late : Option RubyException)
    (callbacks : Completion → Point) : State :=
  match early, late with
  | some exception, _ => state.stash exception false transfer.1
  | none, some exception => (state.detach transfer).stash exception false transfer.1
  | none, none =>
      let detached := state.detach transfer
      let callbackError := detached.callbackError transfer.1
      let taken := { detached with
        callbackError := Function.update detached.callbackError transfer.1 none
        point := callbacks ⟨transfer, detached.attached, callbackError⟩ }
      taken.stashIfAny callbackError transfer.1

/-- The end of the callbacks (`curb_multi.c:990-1085`). A status callback's `StandardError` is
stashed, wrapped, where no callback of the transfer had raised
(`stash_and_raise_status_callback_error_if_unmasked`); else the error of the transfer is raised
once more. Other exceptions go through to `rb_curl_multi_read_info`. -/
def callbacksEnd (state : State) (completion : Completion) (raised : Option RubyException)
    (accepted : ObjectId → Bool) : State :=
  match raised, completion.callbackError with
  | none, callbackError => state.stashIfAny callbackError completion.transfer.1
  | some exception, callbackError =>
      if exception.isStandardError then
        match callbackError with
        | some callbackError => state.stash callbackError true completion.transfer.1
        | none =>
            let aborted := RubyException.abortedByCallback exception
            ((state.stash aborted true completion.transfer.1).removeAddedEasiesSinceSnapshot
              completion.attachedSnapshot accepted).stash aborted true completion.transfer.1
      else state.stash exception true completion.transfer.1

/-! ## Callbacks that libcurl runs -/

/-- A body, header, read or seek callback raises (`rescue_easy_callback`, `curb_easy.c:834-840`):
a `StandardError` is kept with the handle, anything else passes through libcurl and out of the
loop. -/
def dataCallbackRaises (state : State) (easy : ObjectId) (exception : RubyException) : State :=
  if exception.isStandardError then { state with
    callbackError := Function.update state.callbackError easy
      ((state.callbackError easy).or (some exception)) }
  else { state with point := .ended (.raised exception) }

/-! ## The loops -/

/-- The test `while (rbcm->running)` of the inner loop. -/
def loopHead (state : State) (mode : Mode) : State :=
  if state.running ≠ 0 then { state with point := .waiting mode }
  else { state with point := .reading mode true }

/-- After the block: the inner loop's test, or the outer one's `while (rbcm->running)`. The
socket-action loop drives libcurl at the start of each round, the fdset loop does not. -/
def blockEnd (state : State) (mode : Mode) (final : Bool) : State :=
  if final then
    if state.running ≠ 0 then
      match mode with
      | .fdset => state.loopHead .fdset
      | .socketAction => { state with point := .driving .socketAction }
    else { state with point := .ended .returned }
  else state.loopHead mode

/-- `_autoclose` (`multi.rb:467-469`, `475-484`), where `Multi.autoclose` is set: the handles are removed, one
after the other, and the multi is closed. libcurl may refuse to let one go. -/
def autoclose (state : State) (accepted : ObjectId → Bool) (refusal : RubyException) : State :=
  let removed := (state.attached.takeWhile fun transfer => accepted transfer.1).foldl detach state
  if state.attached.all fun transfer => accepted transfer.1 then { removed with
    active := 0
    running := 0
    deferredException := none
    deferredExceptionSourceId := none }
  else { removed with point := .ended (.raised refusal) }

/-- `Multi#perform` sets the attached handles up again where their safety settings have changed
(`multi.rb:428-437`), and one of the setups raises. -/
def preflightRaises (state : State) (exception : RubyException) : State :=
  { state with
    point := .ended (.raised exception)
    stashes := [] }

/-- A `perform` begins (`curb_multi.c:2039-2043`, `1914-1923`). -/
def performBegin (state : State) (mode : Mode) : State :=
  { state with
    deferredExceptionSourceId :=
      if state.deferredException.isSome then state.deferredExceptionSourceId else none
    point := .driving mode
    stashes := [] }

end State

/-- User code or another fiber may run here. -/
def Point.runsRuby : Point → Bool
  | .idle | .driving _ | .callbacks .. | .block .. | .waiting _ => true
  | .reading .. | .ended _ => false

/-- What may happen next. -/
inductive Event where
  | add (easy : ObjectId) (accepted : Bool)
  | remove (easy : ObjectId) (accepted : Bool)
  /-- The handles are set up where they have to be, and the loop begins. -/
  | perform (mode : Mode)
  /-- A setup before the loop raises. -/
  | preflightRaises (exception : RubyException)
  /-- libcurl finishes a transfer. -/
  | finish (transfer : Transfer)
  | dataCallbackRaises (easy : ObjectId) (exception : RubyException)
  /-- A call into libcurl ends and the next begins. -/
  | acted
  /-- The last call into libcurl ends. -/
  | driven
  /-- A call into libcurl or a wait fails. -/
  | fails (exception : RubyException)
  /-- The wait is over. -/
  | waited
  /-- The wait of the socket-action loop is over, with no socket ready and no timer due. -/
  | waitedInVain
  /-- One round of `rb_curl_multi_read_info`. -/
  | readInfo (early late : Option RubyException)
  | callbacksEnd (raised : Option RubyException) (accepted : ObjectId → Bool)
  | blockEnd (raised : Option RubyException)
  /-- After the loop, where `Multi.autoclose` is set. -/
  | autoclose (accepted : ObjectId → Bool) (refusal : RubyException)
  /-- The caller of `perform` goes on. -/
  | resume

/-- The next state, where the event may happen. -/
def step (state : State) : Event → Option State
  | .add easy accepted => if state.point.runsRuby then some (state.add easy accepted) else none
  | .remove easy accepted => if state.point.runsRuby then some (state.remove easy accepted) else none
  | .perform mode =>
      match state.point with
      | .idle => some (state.performBegin mode)
      | _ => none
  | .preflightRaises exception =>
      match state.point with
      | .idle => if state.attached = [] then none else some (state.preflightRaises exception)
      | _ => none
  | .finish transfer =>
      match state.point with
      | .driving _ =>
          if transfer ∈ state.attached ∧ transfer ∉ state.finished then some (state.finish transfer)
          else none
      | _ => none
  | .dataCallbackRaises easy exception =>
      match state.point with
      | .driving _ => if state.hasEasy easy then some (state.dataCallbackRaises easy exception) else none
      | _ => none
  | .acted =>
      match state.point with
      | .driving _ => some { state with running := state.stillRunning }
      | _ => none
  | .driven =>
      match state.point with
      | .driving mode => some { state with
          running := state.stillRunning
          point := .reading mode false }
      | _ => none
  | .fails exception =>
      match state.point with
      | .driving _ | .waiting _ => some { state with point := .ended (.raised exception) }
      | _ => none
  | .waited =>
      match state.point with
      | .waiting mode => some { state with point := .driving mode }
      | _ => none
  | .waitedInVain =>
      match state.point with
      | .waiting .socketAction => some { state with point := .reading .socketAction false }
      | _ => none
  | .readInfo early late =>
      match state.point, state.messages with
      | .reading mode final, [] => some (state.raiseIfIdle mode final)
      | .reading mode final, transfer :: messages =>
          some ({ state with messages := messages }.handleComplete transfer early late
            (.callbacks mode final))
      | _, _ => none
  | .callbacksEnd raised accepted =>
      match state.point with
      | .callbacks mode final completion => some
          ({ state with point := .reading mode final }.callbacksEnd completion raised accepted)
      | _ => none
  | .blockEnd raised =>
      match state.point, raised with
      | .block mode final, none => some (state.blockEnd mode final)
      | .block _ _, some exception => some { state with point := .ended (.raised exception) }
      | _, _ => none
  | .autoclose accepted refusal =>
      match state.point with
      | .ended .returned => some (state.autoclose accepted refusal)
      | _ => none
  | .resume =>
      match state.point with
      | .ended _ => some { state with point := .idle }
      | _ => none

/-! ## What a step is -/

variable {state after : State}

theorem step_perform {mode : Mode} (steps : step state (.perform mode) = some after) :
    state.point = .idle ∧ after = state.performBegin mode := by
  dsimp only [step] at steps
  split at steps
  · rename_i point
    exact ⟨point, (Option.some.inj steps).symm⟩
  · cases steps

theorem step_finish {transfer : Transfer} (steps : step state (.finish transfer) = some after) :
    ∃ mode, state.point = .driving mode ∧ transfer ∈ state.attached ∧ transfer ∉ state.finished ∧
      after = state.finish transfer := by
  dsimp only [step] at steps
  split at steps
  · rename_i mode point
    obtain ⟨unfinished, same⟩ := Option.ite_none_right_eq_some.mp steps
    exact ⟨mode, point, unfinished.1, unfinished.2, (Option.some.inj same).symm⟩
  · cases steps

theorem step_dataCallbackRaises {easy : ObjectId} {exception : RubyException}
    (steps : step state (.dataCallbackRaises easy exception) = some after) :
    ∃ mode, state.point = .driving mode ∧ state.hasEasy easy = true ∧
      after = state.dataCallbackRaises easy exception := by
  dsimp only [step] at steps
  split at steps
  · rename_i mode point
    obtain ⟨has, same⟩ := Option.ite_none_right_eq_some.mp steps
    exact ⟨mode, point, has, (Option.some.inj same).symm⟩
  · cases steps

theorem step_acted (steps : step state .acted = some after) :
    ∃ mode, state.point = .driving mode ∧ after = { state with running := state.stillRunning } := by
  dsimp only [step] at steps
  split at steps
  · rename_i mode point
    exact ⟨mode, point, (Option.some.inj steps).symm⟩
  · cases steps

theorem step_driven (steps : step state .driven = some after) :
    ∃ mode, state.point = .driving mode ∧ after = { state with
      running := state.stillRunning
      point := .reading mode false } := by
  dsimp only [step] at steps
  split at steps
  · rename_i mode point
    exact ⟨mode, point, (Option.some.inj steps).symm⟩
  · cases steps

theorem step_waited (steps : step state .waited = some after) :
    ∃ mode, state.point = .waiting mode ∧ after = { state with point := .driving mode } := by
  dsimp only [step] at steps
  split at steps
  · rename_i mode point
    exact ⟨mode, point, (Option.some.inj steps).symm⟩
  · cases steps

theorem step_waitedInVain (steps : step state .waitedInVain = some after) :
    state.point = .waiting .socketAction ∧
      after = { state with point := .reading .socketAction false } := by
  dsimp only [step] at steps
  split at steps
  · rename_i point
    exact ⟨point, (Option.some.inj steps).symm⟩
  · cases steps

/-- The loop of `rb_curl_multi_read_info` ends, or the next message is read. -/
theorem step_readInfo {early late : Option RubyException}
    (steps : step state (.readInfo early late) = some after) :
    ∃ mode final, state.point = .reading mode final ∧
      (state.messages = [] ∧ after = state.raiseIfIdle mode final ∨
        ∃ transfer rest, state.messages = transfer :: rest ∧
          after = { state with messages := rest }.handleComplete transfer early late
            (.callbacks mode final)) := by
  dsimp only [step] at steps
  split at steps
  · rename_i mode final point messages
    exact ⟨mode, final, point, Or.inl ⟨messages, (Option.some.inj steps).symm⟩⟩
  · rename_i mode final transfer rest point messages
    exact ⟨mode, final, point, Or.inr ⟨transfer, rest, messages, (Option.some.inj steps).symm⟩⟩
  · cases steps

theorem step_callbacksEnd {raised : Option RubyException} {accepted : ObjectId → Bool}
    (steps : step state (.callbacksEnd raised accepted) = some after) :
    ∃ mode final completion, state.point = .callbacks mode final completion ∧
      after = { state with point := .reading mode final }.callbacksEnd completion raised accepted := by
  dsimp only [step] at steps
  split at steps
  · rename_i mode final completion point
    exact ⟨mode, final, completion, point, (Option.some.inj steps).symm⟩
  · cases steps

theorem step_blockEnd {raised : Option RubyException}
    (steps : step state (.blockEnd raised) = some after) :
    ∃ mode final, state.point = .block mode final ∧
      (raised = none ∧ after = state.blockEnd mode final ∨
        ∃ exception, raised = some exception ∧
          after = { state with point := .ended (.raised exception) }) := by
  dsimp only [step] at steps
  split at steps
  · rename_i mode final point
    exact ⟨mode, final, point, Or.inl ⟨rfl, (Option.some.inj steps).symm⟩⟩
  · rename_i mode final exception point
    exact ⟨mode, final, point, Or.inr ⟨exception, rfl, (Option.some.inj steps).symm⟩⟩
  · cases steps

theorem step_autoclose {accepted : ObjectId → Bool} {refusal : RubyException}
    (steps : step state (.autoclose accepted refusal) = some after) :
    state.point = .ended .returned ∧ after = state.autoclose accepted refusal := by
  dsimp only [step] at steps
  split at steps
  · rename_i point
    exact ⟨point, (Option.some.inj steps).symm⟩
  · cases steps

theorem step_resume (steps : step state .resume = some after) :
    ∃ outcome, state.point = .ended outcome ∧ after = { state with point := .idle } := by
  dsimp only [step] at steps
  split at steps
  · rename_i outcome point
    exact ⟨outcome, point, (Option.some.inj steps).symm⟩
  · cases steps

end Curb.Perform

import Curb.Misc.Table
import Curb.Multi.Perform

/-!
# Performing under a fiber scheduler

The fibers of one thread that perform through `Curl.perform_with_scheduler` (`curl.rb:424-616`), the
fiber that drives the multi they share, and what the two sides know of each other: the handles that
are queued, a waiter for each perform, and `state[:error]`. Every fiber performs a handle of its own,
so a handle stands for its fiber.
-/

namespace Curb.Scheduler
open Curb.Misc Curb.Ruby
open Curb.Perform (RubyException Outcome Mode Completion)

/-! ## Waiters, fibers, and the driver -/

/-- A waiter (`curl.rb:509`). `registration` tells it from the waiters its handle had before. -/
structure Waiter where
  registration : Nat
  completed : Bool
  done : Bool
  error : Option RubyException
  deriving DecidableEq, Repr

/-- `complete_scheduler_waiter`. -/
def Waiter.complete (waiter : Waiter) : Waiter := { waiter with done := true }

/-- `fail_scheduler_waiter`, where the first error is kept. -/
def Waiter.fail (waiter : Waiter) (error : RubyException) : Waiter :=
  { waiter with error := waiter.error.or (some error) }

/-- Where a fiber is with its handle. -/
inductive Fiber where
  /-- It has not performed yet. -/
  | outside
  /-- In the loop `until waiter[:done]`. It is blocked there, or it polls. -/
  | waiting
  /-- In the loop after that one. -/
  | leaving
  | ended (outcome : Outcome)
  /-- An exception has been raised in it, as a timeout does. -/
  | interrupted (exception : RubyException)
  deriving DecidableEq, Repr

/-- The fiber is inside `perform_with_scheduler`. -/
def Fiber.performs : Fiber → Bool
  | .waiting | .leaving => true
  | _ => false

/-- Where the driver is (`ensure_scheduler_driver`, `curl.rb:556-602`). -/
inductive Driver where
  | stopped
  /-- In the yields before the loop, with the last `pending_count`. -/
  | starting (pendingCount : Nat)
  /-- At the head of the loop. -/
  | looping
  /-- At `break if state[:multi].idle?`. -/
  | drained
  /-- In `state[:multi].perform`. -/
  | performing
  /-- In the yield of the block given to `perform`. -/
  | yielding
  /-- An exception leaves the block of the loop. -/
  | raising (exception : RubyException)
  deriving DecidableEq, Repr

/-- What a handle has come to by itself. -/
inductive Deed where
  /-- Adding it to the multi has raised. -/
  | addRaised (exception : RubyException)
  /-- `Multi#perform` has refused it (`multi.rb:428-440`). -/
  | performRaised (exception : RubyException)
  /-- Flushing its `stderr` has raised after libcurl has let it go. -/
  | flushRaised (exception : RubyException)
  /-- It is complete; with what a callback of the transfer, `on_complete` and the status handler
  have raised. -/
  | completed (callbackError complete status : Option RubyException)
  deriving DecidableEq, Repr

/-- `scheduler_state`, its fibers, and the driver. -/
structure State where
  multi : Perform.State
  pending : List ObjectId
  waiters : Table ObjectId Waiter
  driver : Driver
  error : Option RubyException
  fiber : ObjectId → Fiber
  registrations : Nat
  /-- The registration whose `on_complete` the running callbacks use. -/
  callbackWaiter : Option Nat
  /-- What the handles have come to since they registered; no operation reads it. -/
  deeds : ObjectId → List Deed

def fresh : State where
  multi := Perform.fresh
  pending := []
  waiters := .empty
  driver := .stopped
  error := none
  fiber := fun _ => .outside
  registrations := 0
  callbackWaiter := none
  deeds := fun _ => []

/-- The exceptions that end `loop do` without a trace: those of class `StopIteration`. -/
def endsLoop (stopIteration : ObjectId → Bool) : RubyException → Bool
  | .raised object standardError => standardError && stopIteration object
  | .abortedByCallback _ => false

/-- The exceptions that the driver's `rescue` sees when they leave its loop. -/
def rescued (stopIteration : ObjectId → Bool) (exception : RubyException) : Bool :=
  exception.isStandardError && !endsLoop stopIteration exception

namespace State

/-! ## Waiters -/

def record (state : State) (easy : ObjectId) (deed : Deed) : State :=
  if (state.waiters.get easy).isSome then { state with
    deeds := Function.update state.deeds easy (state.deeds easy ++ [deed]) }
  else state

/-- `release_scheduler_waiters`. -/
def releaseSchedulerWaiters (state : State) : State :=
  { state with
    waiters := state.waiters.mapValues fun easy waiter =>
      if state.multi.deferredExceptionSourceId = some easy then waiter
      else if waiter.completed then waiter.complete
      else waiter }

/-- The waiter of the handle whose exception is deferred, or was the last to be. -/
def sourceWaiter (state : State) : Option Waiter :=
  state.multi.deferredExceptionSourceId.bind state.waiters.get

/-- `release_scheduler_error`. -/
def releaseSchedulerError (state : State) (error : RubyException) : State :=
  match state.sourceWaiter with
  | some _ => { state with
      waiters := state.waiters.mapValues fun easy waiter =>
        if state.multi.deferredExceptionSourceId = some easy then waiter.fail error else waiter }
  | none => { state with error := some error }

/-! ## The driver -/

/-- The driver runs to its first yield. -/
def startDriver (state : State) : State :=
  { state with
    driver := .starting state.pending.length
    error := none }

/-- `ensure_scheduler_driver`. -/
def ensureSchedulerDriver (state : State) : State :=
  if state.driver = .stopped then state.startDriver else state

/-- The driver's `ensure`. -/
def driverEnds (state : State) : State :=
  let stopped := { state with driver := Driver.stopped }
  if stopped.error = none ∧ stopped.pending ≠ [] then stopped.ensureSchedulerDriver else stopped

/-- The driver's `rescue => e`, and its `ensure`. -/
def driverRaises (state : State) (exception : RubyException) : State :=
  if exception.isStandardError then
    (state.releaseSchedulerWaiters.releaseSchedulerError exception).driverEnds
  else state.driverEnds

/-- An exception leaves the driver's loop. -/
def loopRaises (stopIteration : ObjectId → Bool) (state : State) (exception : RubyException) : State :=
  if endsLoop stopIteration exception then state.driverEnds else state.driverRaises exception

/-- The loop of `drain_scheduler_pending` (`curl.rb:604-616`), with what it raises. `replies` is what
adding a handle raises. -/
def drainPending (replies : ObjectId → Option RubyException) :
    List ObjectId → State → State × Option RubyException
  | [], state => (state, none)
  | easy :: rest, state =>
      if state.multi.deferredException.isSome then (state, none)
      else
        match if state.multi.hasEasy easy then none else replies easy with
        | some exception => (state.record easy (.addRaised exception), some exception)
        | none =>
            let added := state.multi.add easy true
            if added.hasEasy easy then
              drainPending replies rest { state with
                multi := added
                pending := rest }
            else ({ state with multi := added }, none)

/-- `drain_scheduler_pending`. -/
def drainSchedulerPending (state : State) (replies : ObjectId → Option RubyException) :
    State × Option RubyException :=
  drainPending replies state.pending state

/-- The first handle that `Multi#perform` refuses. -/
def refusal (state : State) (refused : ObjectId → Option RubyException) :
    Option (ObjectId × RubyException) :=
  state.multi.attached.findSome? fun transfer => (refused transfer.1).map fun exception =>
    (transfer.1, exception)

/-- The head of the driver's loop. -/
def drain (state : State) (replies : ObjectId → Option RubyException) : State :=
  match state.drainSchedulerPending replies with
  | (drained, none) => { drained with driver := .drained }
  | (drained, some exception) => { drained with driver := .raising exception }

/-- The rest of a round of the loop, up to the native `perform`. -/
def enter (state : State) (refused : ObjectId → Option RubyException) (mode : Mode) : State :=
  if state.multi.attached = [] then state.driverEnds
  else
    match state.refusal refused with
    | some (easy, exception) =>
        { (state.record easy (.performRaised exception)).releaseSchedulerWaiters with
          driver := .raising exception }
    | none => { state with
        multi := state.multi.performBegin mode
        driver := .performing }

/-- The block given to `perform`, up to its yield. -/
def block (state : State) (replies : ObjectId → Option RubyException) : State :=
  match state.drainSchedulerPending replies with
  | (drained, none) => { drained.releaseSchedulerWaiters with driver := .yielding }
  | (drained, some exception) => { drained with
      multi := { drained.multi with point := .ended (.raised exception) } }

/-- The driver goes on where `perform` has ended. -/
def goesOn (state : State) (outcome : Outcome) : State :=
  { state.releaseSchedulerWaiters with
    multi := { state.multi with point := .idle }
    driver :=
      match outcome with
      | .returned => .looping
      | .raised exception => .raising exception }

/-! ## Completions -/

/-- The next message is read, and its handle's last flush may raise. -/
def flushes (state : State) (early late : Option RubyException) : State :=
  match early, late, state.multi.messages with
  | none, some exception, transfer :: _ => state.record transfer.1 (.flushRaised exception)
  | _, _, _ => state

/-- Where callbacks begin, `on_complete` is the one that the handle has now. -/
def reads (state : State) (multi : Perform.State) : State :=
  { state with
    multi := multi
    callbackWaiter :=
      match multi.point with
      | .callbacks _ _ completion => (state.waiters.get completion.transfer.1).map Waiter.registration
      | _ => state.callbackWaiter }

/-- The waiter that the running callbacks complete is still registered. -/
def callbacksOf (state : State) (easy : ObjectId) : Bool :=
  match state.waiters.get easy with
  | some waiter => state.callbackWaiter = some waiter.registration
  | none => false

/-- The block that `perform_with_scheduler` gives to `on_complete`: `waiter[:completed]` is set where
the handle's own `on_complete` raises nothing. -/
def completes (state : State) (completion : Completion) (complete status : Option RubyException) :
    State :=
  if state.callbacksOf completion.transfer.1 then
    { state.record completion.transfer.1 (.completed completion.callbackError complete status) with
      waiters := state.waiters.mapValues fun easy waiter =>
        if easy = completion.transfer.1 ∧ complete = none then { waiter with completed := true }
        else waiter }
  else state

/-! ## The performing fibers -/

/-- The `ensure` of `perform_with_scheduler`. -/
def ends (state : State) (easy : ObjectId) (fiber : Fiber) : State :=
  { state with
    waiters := state.waiters.erase easy
    fiber := Function.update state.fiber easy fiber }

/-- `perform_with_scheduler` up to its first loop. -/
def register (state : State) (easy : ObjectId) : State :=
  { state with
    waiters := state.waiters.set easy ⟨state.registrations, false, false, none⟩
    pending := state.pending ++ [easy]
    fiber := Function.update state.fiber easy .waiting
    registrations := state.registrations + 1
    deeds := Function.update state.deeds easy [] }.ensureSchedulerDriver

/-- The test of the loop after the waiter is done, and the end of `perform_with_scheduler`. -/
def leave (state : State) (easy : ObjectId) : State :=
  if state.driver ≠ .stopped ∧ state.pending = [] ∧ state.waiters.keys.length = 1 ∧
      easy ∈ state.waiters.keys then { state with
    fiber := Function.update state.fiber easy .leaving }
  else state.ends easy (.ended .returned)

/-- One round of the loop `until waiter[:done]`. -/
def check (state : State) (easy : ObjectId) (waiter : Waiter) : State :=
  if waiter.done then state.leave easy
  else
    match waiter.error.or state.error with
    | some exception => state.ends easy (.ended (.raised exception))
    | none => state

/-- The driver does not run, or it is where other fibers may run: it yields, or it is in callbacks, a
flush or a wait of `perform`. -/
def fibersRun (state : State) : Bool :=
  match state.driver with
  | .stopped | .starting _ | .yielding => true
  | .looping | .drained | .raising _ => false
  | .performing =>
      match state.multi.point with
      | .ended _ => false
      | _ => true

end State

/-! ## Steps -/

/-- What the completion callbacks raise, of `on_complete` and the status handler: the second runs
where the first raises nothing, and where a callback of the transfer has raised before. -/
def raisedBy (callbackError complete status : Option RubyException) : Option RubyException :=
  match complete with
  | none => status
  | some exception =>
      if exception.isStandardError ∧ callbackError ≠ none then status.or complete else complete

/-- What libcurl and the loops of `perform` do between two reads. -/
def drives : Perform.Event → Bool
  | .finish _ | .dataCallbackRaises .. | .acted | .driven | .fails _ | .waited | .waitedInVain => true
  | _ => false

/-- What may happen next. -/
inductive Event where
  /-- A fiber calls `perform_with_scheduler`. -/
  | register (easy : ObjectId)
  /-- The fiber looks at its waiter. -/
  | check (easy : ObjectId)
  /-- The fiber looks whether it can leave. -/
  | leave (easy : ObjectId)
  /-- An exception is raised in the fiber where it blocks. -/
  | interrupt (easy : ObjectId) (exception : RubyException)
  /-- A yield of the driver before its loop is over. -/
  | startYielded
  /-- An exception is raised in the driver where it yields before its loop. -/
  | driverInterrupted (exception : RubyException)
  | drain (replies : ObjectId → Option RubyException)
  | enter (refused : ObjectId → Option RubyException) (mode : Mode)
  | drive (event : Perform.Event)
  | readInfo (early late : Option RubyException)
  | callbacks (complete status : Option RubyException)
  | block (replies : ObjectId → Option RubyException)
  /-- The yield of the block is over, or an exception is raised in the driver there. -/
  | blockYielded (raised : Option RubyException)
  /-- `perform` closes the multi before it returns, where `Multi.autoclose` is set. -/
  | autoclose (accepted : ObjectId → Bool) (refusal : RubyException)
  | goesOn
  /-- The exception reaches the end of the loop, and the driver's `rescue`. -/
  | rescues

/-- The next state, where the event may happen. -/
def step (stopIteration : ObjectId → Bool) (state : State) : Event → Option State
  | .register easy =>
      if state.fibersRun = true ∧ (state.fiber easy).performs = false then some (state.register easy)
      else none
  | .check easy =>
      if state.fibersRun = true ∧ state.fiber easy = .waiting then
        (state.waiters.get easy).map (state.check easy)
      else none
  | .leave easy =>
      if state.fibersRun = true ∧ state.fiber easy = .leaving then some (state.leave easy) else none
  | .interrupt easy exception =>
      if state.fibersRun = true ∧ (state.fiber easy).performs = true then
        some (state.ends easy (.interrupted exception))
      else none
  | .startYielded =>
      match state.driver with
      | .starting count =>
          if count = state.pending.length then some { state with driver := .looping }
          else some { state with driver := .starting state.pending.length }
      | _ => none
  | .driverInterrupted exception =>
      match state.driver with
      | .starting _ => some (state.driverRaises exception)
      | _ => none
  | .drain replies =>
      match state.driver with
      | .looping => some (state.drain replies)
      | _ => none
  | .enter refused mode =>
      match state.driver with
      | .drained => some (state.enter refused mode)
      | _ => none
  | .drive event =>
      if state.driver = .performing ∧ drives event = true then
        (Perform.step state.multi event).map fun multi => { state with multi := multi }
      else none
  | .readInfo early late =>
      if state.driver = .performing then
        (Perform.step state.multi (.readInfo early late)).map (state.flushes early late).reads
      else none
  | .callbacks complete status =>
      match state.driver, state.multi.point with
      | .performing, .callbacks _ _ completion =>
          (Perform.step state.multi (.callbacksEnd (raisedBy completion.callbackError complete status)
            fun _ => true)).map fun multi =>
              { state.completes completion complete status with multi := multi }
      | _, _ => none
  | .block replies =>
      match state.driver, state.multi.point with
      | .performing, .block _ _ => some (state.block replies)
      | _, _ => none
  | .blockYielded raised =>
      if state.driver = .yielding then
        (Perform.step state.multi (.blockEnd raised)).map fun multi => { state with
          multi := multi
          driver := .performing }
      else none
  | .autoclose accepted refusal =>
      if state.driver = .performing then
        (Perform.step state.multi (.autoclose accepted refusal)).map fun multi => { state with multi := multi }
      else none
  | .goesOn =>
      match state.driver, state.multi.point with
      | .performing, .ended outcome => some (state.goesOn outcome)
      | _, _ => none
  | .rescues =>
      match state.driver with
      | .raising exception => some (state.loopRaises stopIteration exception)
      | _ => none

/-! ## What a step is -/

variable {stopIteration : ObjectId → Bool} {state after : State}

theorem step_register {easy : ObjectId}
    (steps : step stopIteration state (.register easy) = some after) :
    (state.fiber easy).performs = false ∧ after = state.register easy := by
  obtain ⟨may, same⟩ := Option.ite_none_right_eq_some.mp steps
  exact ⟨may.2, (Option.some.inj same).symm⟩

theorem step_check {easy : ObjectId} (steps : step stopIteration state (.check easy) = some after) :
    state.fiber easy = .waiting ∧
      ∃ waiter, state.waiters.get easy = some waiter ∧ after = state.check easy waiter := by
  obtain ⟨may, same⟩ := Option.ite_none_right_eq_some.mp steps
  obtain ⟨waiter, found, same⟩ := Option.map_eq_some_iff.mp same
  exact ⟨may.2, waiter, found, same.symm⟩

theorem step_leave {easy : ObjectId} (steps : step stopIteration state (.leave easy) = some after) :
    state.fiber easy = .leaving ∧ after = state.leave easy := by
  obtain ⟨may, same⟩ := Option.ite_none_right_eq_some.mp steps
  exact ⟨may.2, (Option.some.inj same).symm⟩

theorem step_interrupt {easy : ObjectId} {exception : RubyException}
    (steps : step stopIteration state (.interrupt easy exception) = some after) :
    (state.fiber easy).performs = true ∧ after = state.ends easy (.interrupted exception) := by
  obtain ⟨may, same⟩ := Option.ite_none_right_eq_some.mp steps
  exact ⟨may.2, (Option.some.inj same).symm⟩

theorem step_startYielded (steps : step stopIteration state .startYielded = some after) :
    (∃ count, state.driver = .starting count) ∧
      ∃ driver, (driver = .looping ∨ ∃ count, driver = .starting count) ∧
        after = { state with driver := driver } := by
  dsimp only [step] at steps
  split at steps
  · rename_i count driver
    split at steps
    · exact ⟨⟨count, driver⟩, .looping, Or.inl rfl, (Option.some.inj steps).symm⟩
    · exact ⟨⟨count, driver⟩, .starting state.pending.length, Or.inr ⟨_, rfl⟩,
        (Option.some.inj steps).symm⟩
  · cases steps

theorem step_driverInterrupted {exception : RubyException}
    (steps : step stopIteration state (.driverInterrupted exception) = some after) :
    (∃ count, state.driver = .starting count) ∧ after = state.driverRaises exception := by
  dsimp only [step] at steps
  split at steps
  · rename_i count driver
    exact ⟨⟨count, driver⟩, (Option.some.inj steps).symm⟩
  · cases steps

theorem step_drain {replies : ObjectId → Option RubyException}
    (steps : step stopIteration state (.drain replies) = some after) :
    state.driver = .looping ∧ after = state.drain replies := by
  dsimp only [step] at steps
  split at steps
  · rename_i driver
    exact ⟨driver, (Option.some.inj steps).symm⟩
  · cases steps

theorem step_enter {refused : ObjectId → Option RubyException} {mode : Mode}
    (steps : step stopIteration state (.enter refused mode) = some after) :
    state.driver = .drained ∧ after = state.enter refused mode := by
  dsimp only [step] at steps
  split at steps
  · rename_i driver
    exact ⟨driver, (Option.some.inj steps).symm⟩
  · cases steps

theorem step_drive {event : Perform.Event}
    (steps : step stopIteration state (.drive event) = some after) :
    state.driver = .performing ∧ drives event = true ∧
      ∃ multi, Perform.step state.multi event = some multi ∧ after = { state with multi := multi } := by
  obtain ⟨may, same⟩ := Option.ite_none_right_eq_some.mp steps
  obtain ⟨multi, driven, same⟩ := Option.map_eq_some_iff.mp same
  exact ⟨may.1, may.2, multi, driven, same.symm⟩

theorem step_readInfo {early late : Option RubyException}
    (steps : step stopIteration state (.readInfo early late) = some after) :
    state.driver = .performing ∧
      ∃ multi, Perform.step state.multi (.readInfo early late) = some multi ∧
        after = (state.flushes early late).reads multi := by
  obtain ⟨may, same⟩ := Option.ite_none_right_eq_some.mp steps
  obtain ⟨multi, read, same⟩ := Option.map_eq_some_iff.mp same
  exact ⟨may, multi, read, same.symm⟩

theorem step_callbacks {complete status : Option RubyException}
    (steps : step stopIteration state (.callbacks complete status) = some after) :
    state.driver = .performing ∧
      ∃ mode final completion, state.multi.point = .callbacks mode final completion ∧
        after = { state.completes completion complete status with
          multi := { state.multi with point := .reading mode final }.callbacksEnd completion
            (raisedBy completion.callbackError complete status) fun _ => true } := by
  dsimp only [step] at steps
  split at steps
  · rename_i mode final completion driver point
    obtain ⟨multi, ended, same⟩ := Option.map_eq_some_iff.mp steps
    obtain ⟨mode', final', completion', point', same'⟩ := Perform.step_callbacksEnd ended
    cases point.symm.trans point'
    exact ⟨driver, mode, final, completion, point, by rw [← same, same']⟩
  · cases steps

theorem step_block {replies : ObjectId → Option RubyException}
    (steps : step stopIteration state (.block replies) = some after) :
    state.driver = .performing ∧ (∃ mode final, state.multi.point = .block mode final) ∧
      after = state.block replies := by
  dsimp only [step] at steps
  split at steps
  · rename_i mode final driver point
    exact ⟨driver, ⟨mode, final, point⟩, (Option.some.inj steps).symm⟩
  · cases steps

theorem step_blockYielded {raised : Option RubyException}
    (steps : step stopIteration state (.blockYielded raised) = some after) :
    state.driver = .yielding ∧
      ∃ multi, Perform.step state.multi (.blockEnd raised) = some multi ∧
        after = { state with
          multi := multi
          driver := .performing } := by
  obtain ⟨may, same⟩ := Option.ite_none_right_eq_some.mp steps
  obtain ⟨multi, ended, same⟩ := Option.map_eq_some_iff.mp same
  exact ⟨may, multi, ended, same.symm⟩

theorem step_autoclose {accepted : ObjectId → Bool} {refusal : RubyException}
    (steps : step stopIteration state (.autoclose accepted refusal) = some after) :
    state.driver = .performing ∧ state.multi.point = .ended .returned ∧
      after = { state with multi := state.multi.autoclose accepted refusal } := by
  obtain ⟨may, same⟩ := Option.ite_none_right_eq_some.mp steps
  obtain ⟨multi, closes, same⟩ := Option.map_eq_some_iff.mp same
  obtain ⟨point, closed⟩ := Perform.step_autoclose closes
  exact ⟨may, point, by rw [← same, closed]⟩

theorem step_goesOn (steps : step stopIteration state .goesOn = some after) :
    state.driver = .performing ∧
      ∃ outcome, state.multi.point = .ended outcome ∧ after = state.goesOn outcome := by
  dsimp only [step] at steps
  split at steps
  · rename_i outcome driver point
    exact ⟨driver, outcome, point, (Option.some.inj steps).symm⟩
  · cases steps

theorem step_rescues (steps : step stopIteration state .rescues = some after) :
    ∃ exception, state.driver = .raising exception ∧
      after = state.loopRaises stopIteration exception := by
  dsimp only [step] at steps
  split at steps
  · rename_i exception driver
    exact ⟨exception, driver, (Option.some.inj steps).symm⟩
  · cases steps

end Curb.Scheduler

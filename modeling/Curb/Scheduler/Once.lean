import Curb.Scheduler.Settled

/-!
# A perform where nothing raises

Where nothing raises and no fiber is interrupted, a handle goes from stage to stage: its fiber registers,
the driver adds it, libcurl is done with it, its callbacks run, and its fiber leaves. Every perform
transfers its handle once, and the driver stops where all waiters are done.
-/

namespace Curb.Scheduler
open Curb.Misc Curb.Ruby
open Curb.Perform (RubyException Outcome Mode Point Completion Transfer)

variable {stopIteration : ObjectId → Bool} {state after : State} {easy : ObjectId} {waiter : Waiter}
  {multi multi' : Perform.State}

/-- Nothing raises in the step, and it interrupts nobody. -/
def Quiet (_ : State) : Event → Prop
  | .interrupt .. | .driverInterrupted _ => False
  | .drain replies | .block replies => ∀ easy, replies easy = none
  | .enter refused _ => ∀ easy, refused easy = none
  | .drive (.fails _) | .drive (.dataCallbackRaises ..) => False
  | .readInfo early late => early = none ∧ late = none
  | .callbacks complete status => complete = none ∧ status = none
  | .blockYielded raised => raised = none
  | _ => True

/-- A transfer that nothing has raised in. -/
def transferred : Deed := .completed none none none

/-- The handle's callbacks run. -/
def Calls (multi : Perform.State) (easy : ObjectId) : Prop :=
  ∃ mode final completion, multi.point = .callbacks mode final completion ∧
    completion.transfer.1 = easy

/-- How far a perform of a handle is. -/
inductive Stage where
  /-- It is not performed. -/
  | away
  | pending
  | attached
  | calling
  | completed
  deriving DecidableEq

/-- The handle is at this stage in all tables. -/
structure At (state : State) (easy : ObjectId) (stage : Stage) : Prop where
  pending : easy ∈ state.pending ↔ stage = .pending
  attached : state.multi.hasEasy easy = true ↔ stage = .attached
  calling : Calls state.multi easy ↔ stage = .calling
  registered : stage = .calling → state.callbackWaiter = (state.waiters.get easy).map Waiter.registration
  performs : (state.fiber easy).performs = false ↔ stage = .away
  unregistered : state.waiters.get easy = none ↔ stage = .away
  completed : ∀ waiter, state.waiters.get easy = some waiter →
    (waiter.completed = true ↔ stage = .completed) ∧ (waiter.done = true → stage = .completed)
  leaving : state.fiber easy = .leaving → stage = .completed
  away : stage = .away → state.fiber easy = .outside ∧ state.deeds easy = [] ∨
    state.fiber easy = .ended .returned ∧ state.deeds easy = [transferred]
  deeds : stage ≠ .away → state.deeds easy = if stage = .completed then [transferred] else []

/-- Nothing has raised. -/
structure Calm (state : State) : Prop where
  error : state.error = none
  deferred : state.multi.deferredException = none
  source : state.multi.deferredExceptionSourceId = none
  callbackErrors : ∀ easy, state.multi.callbackError easy = none
  completion : ∀ mode final completion, state.multi.point = .callbacks mode final completion →
    completion.callbackError = none
  ended : ∀ exception, state.multi.point ≠ .ended (.raised exception)
  raising : ∀ exception, state.driver ≠ .raising exception
  waiters : ∀ easy waiter, state.waiters.get easy = some waiter → waiter.error = none

variable {stage : Stage}

/-- The tables hold the same of the handle. -/
theorem At.same (here : At state easy stage) (pending : easy ∈ after.pending ↔ easy ∈ state.pending)
    (attached : after.multi.hasEasy easy = state.multi.hasEasy easy)
    (calls : Calls after.multi easy ↔ Calls state.multi easy)
    (registered : stage = .calling → after.callbackWaiter = state.callbackWaiter)
    (waiters : after.waiters.get easy = state.waiters.get easy)
    (fiber : after.fiber easy = state.fiber easy) (deeds : after.deeds easy = state.deeds easy) :
    At after easy stage := by
  refine ⟨pending.trans here.pending, ?_, calls.trans here.calling, ?_, ?_, ?_, ?_, ?_, ?_, ?_⟩
  · rw [attached]
    exact here.attached
  · intro calling
    rw [registered calling, waiters]
    exact here.registered calling
  · rw [fiber]
    exact here.performs
  · rw [waiters]
    exact here.unregistered
  · rw [waiters]
    exact here.completed
  · rw [fiber]
    exact here.leaving
  · rw [fiber, deeds]
    exact here.away
  · rw [deeds]
    exact here.deeds

/-- Waiters that are completed become done. -/
theorem At.released (here : At state easy stage) : At state.releaseSchedulerWaiters easy stage := by
  have get (waiter : Waiter) (found : state.releaseSchedulerWaiters.waiters.get easy = some waiter) :
      ∃ before, state.waiters.get easy = some before ∧ waiter.completed = before.completed ∧
        waiter.registration = before.registration ∧
        (waiter.done = true → before.done = true ∨ before.completed = true) := by
    obtain ⟨before, found, same⟩ := Option.map_eq_some_iff.mp (Table.get_mapValues.symm.trans found)
    refine ⟨before, found, ?_⟩
    rw [← same]
    split
    · exact ⟨rfl, rfl, Or.inl⟩
    · split
      · rename_i completed
        exact ⟨rfl, rfl, fun _ => Or.inr completed⟩
      · exact ⟨rfl, rfl, Or.inl⟩
  have none : state.releaseSchedulerWaiters.waiters.get easy = none ↔ state.waiters.get easy = none := by
    unfold State.releaseSchedulerWaiters
    rw [Table.get_mapValues, Option.map_eq_none_iff]
  refine ⟨here.pending, here.attached, here.calling, fun calling => ?_, here.performs,
    none.trans here.unregistered, fun waiter found => ?_, here.leaving, here.away, here.deeds⟩
  · have registered := here.registered calling
    show state.callbackWaiter = _
    rw [registered]
    cases released : state.releaseSchedulerWaiters.waiters.get easy with
    | none => rw [none.mp released]
    | some waiter =>
      obtain ⟨before, found, -, same, -⟩ := get waiter released
      rw [found, Option.map_some, Option.map_some, same]
  · obtain ⟨before, found, completed, -, done⟩ := get waiter found
    obtain ⟨stage_iff, stage_of⟩ := here.completed before found
    refine ⟨completed ▸ stage_iff, fun isDone => ?_⟩
    rcases done isDone with already | now
    · exact stage_of already
    · exact stage_iff.mp now

/-- All pending handles are added. -/
structure AddsAll (state : State) (multi : Perform.State) : Prop where
  point : multi.point = state.multi.point
  deferred : multi.deferredException = state.multi.deferredException
  source : multi.deferredExceptionSourceId = state.multi.deferredExceptionSourceId
  callbackError : multi.callbackError = state.multi.callbackError
  attached : ∀ easy, multi.hasEasy easy = true ↔
    state.multi.hasEasy easy = true ∨ easy ∈ state.pending

/-- A pending handle is attached. -/
def Stage.drained : Stage → Stage
  | .pending => .attached
  | stage => stage

theorem At.drained (here : At state easy stage) (adds : AddsAll state multi) :
    At { state with
      multi := multi
      pending := [] } easy stage.drained := by
  have calls : Calls multi easy ↔ Calls state.multi easy := by
    unfold Calls
    rw [adds.point]
  have stays {other : Stage} (differs : other ≠ .pending) (differs' : other ≠ .attached) :
      stage.drained = other ↔ stage = other := by
    cases stage <;> cases other <;> simp_all [Stage.drained]
  refine ⟨?_, ?_, ?_, ?_, ?_, ?_, ?_, ?_, ?_, ?_⟩
  · refine ⟨fun mem => (List.not_mem_nil mem).elim, fun is => ?_⟩
    cases stage <;> cases is
  · rw [adds.attached, here.attached, here.pending]
    cases stage <;> simp [Stage.drained]
  · rw [stays (by decide) (by decide)]
    exact calls.trans here.calling
  · rw [stays (by decide) (by decide)]
    exact here.registered
  · rw [stays (by decide) (by decide)]
    exact here.performs
  · rw [stays (by decide) (by decide)]
    exact here.unregistered
  · rw [stays (by decide) (by decide)]
    exact here.completed
  · rw [stays (by decide) (by decide)]
    exact here.leaving
  · rw [stays (by decide) (by decide)]
    exact here.away
  · simp only [ne_eq, stays (show Stage.away ≠ .pending by decide) (by decide),
      stays (show Stage.completed ≠ .pending by decide) (by decide)]
    exact here.deeds

/-! ## Fibers -/

/-- What adding all pending handles leaves calm. -/
theorem AddsAll.calm (adds : AddsAll state multi) (calm : Calm state) : Calm { state with
    multi := multi
    pending := [] } := by
  refine ⟨calm.error, adds.deferred.trans calm.deferred, adds.source.trans calm.source, fun easy => ?_,
    fun mode final completion point => calm.completion mode final completion (adds.point.symm.trans point),
    fun exception point => calm.ended exception (adds.point.symm.trans point), calm.raising, calm.waiters⟩
  show multi.callbackError easy = none
  rw [adds.callbackError]
  exact calm.callbackErrors easy

/-- A handle whose callbacks do not run, before and after. -/
theorem calls_iff (before : ∀ mode final completion, multi.point ≠ .callbacks mode final completion)
    (behind : ∀ mode final completion, multi'.point ≠ .callbacks mode final completion) :
    Calls multi' easy ↔ Calls multi easy := by
  constructor
  · rintro ⟨mode, final, completion, point, -⟩
    exact absurd point (behind mode final completion)
  · rintro ⟨mode, final, completion, point, -⟩
    exact absurd point (before mode final completion)

/-- The multi goes on, with the same handles, and no callbacks run before or after. -/
structure GoesOn (multi multi' : Perform.State) : Prop where
  attached : multi'.attached = multi.attached
  deferred : multi'.deferredException = multi.deferredException
  source : multi'.deferredExceptionSourceId = none
  callbackError : multi'.callbackError = multi.callbackError
  before : ∀ mode final completion, multi.point ≠ .callbacks mode final completion
  behind : ∀ mode final completion, multi'.point ≠ .callbacks mode final completion
  ended : ∀ exception, multi'.point ≠ .ended (.raised exception)

theorem GoesOn.calls (goes : GoesOn multi multi') : Calls multi' easy ↔ Calls multi easy :=
  calls_iff goes.before goes.behind

theorem GoesOn.hasEasy (goes : GoesOn multi multi') : multi'.hasEasy easy = multi.hasEasy easy := by
  unfold Perform.State.hasEasy
  rw [goes.attached]

end Curb.Scheduler

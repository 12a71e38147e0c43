import Curb.Scheduler.Shared

/-!
# What the driver does

What the operations of the driver and of the fibers change, and the invariant of the multi over all
runs: it performs only where the driver does.
-/

namespace Curb.Scheduler
open Curb.Misc Curb.Ruby
open Curb.Perform (RubyException Outcome Mode Point Completion Transfer)

variable {stopIteration : ObjectId → Bool} {state after : State} {easy : ObjectId} {waiter : Waiter}

/-! ## Waiters -/

/-- The waiter is neither done nor given an error. -/
def Waiter.awaits (waiter : Waiter) : Bool := !waiter.done && waiter.error.isNone

theorem Waiter.awaits_iff : waiter.awaits = true ↔ waiter.done = false ∧ waiter.error = none := by
  simp [Waiter.awaits]

theorem Waiter.complete_awaits : waiter.complete.awaits = false := by simp [awaits, complete]

theorem Waiter.fail_awaits {exception : RubyException} : (waiter.fail exception).awaits = false := by
  cases error : waiter.error <;> simp [awaits, fail, error]

/-- A waiter that still waits after `release_scheduler_waiters` waited before, and is that of the
source or not completed. -/
theorem awaits_release (found : state.releaseSchedulerWaiters.waiters.get easy = some waiter)
    (awaits : waiter.awaits = true) :
    state.waiters.get easy = some waiter ∧
      (state.multi.deferredExceptionSourceId = some easy ∨ waiter.completed = false) := by
  obtain ⟨before, get, same⟩ := Option.map_eq_some_iff.mp (Table.get_mapValues.symm.trans found)
  split at same
  · rename_i source
    exact ⟨same ▸ get, Or.inl source⟩
  · split at same
    · rw [← same, Waiter.complete_awaits] at awaits
      cases awaits
    · rename_i completed
      cases same
      exact ⟨get, Or.inr (Bool.eq_false_of_not_eq_true completed)⟩

/-- A waiter that still waits after `release_scheduler_error` waited before, and is not the source's. -/
theorem awaits_releaseError {exception : RubyException}
    (found : (state.releaseSchedulerError exception).waiters.get easy = some waiter)
    (awaits : waiter.awaits = true) :
    state.waiters.get easy = some waiter ∧ state.multi.deferredExceptionSourceId ≠ some easy := by
  unfold State.releaseSchedulerError at found
  split at found
  · obtain ⟨before, get, same⟩ := Option.map_eq_some_iff.mp (Table.get_mapValues.symm.trans found)
    split at same
    · rw [← same, Waiter.fail_awaits] at awaits
      cases awaits
    · rename_i other
      exact ⟨same ▸ get, other⟩
  · rename_i none
    refine ⟨found, fun source => ?_⟩
    unfold State.sourceWaiter at none
    rw [source] at none
    cases none.symm.trans found

/-! ## What the operations leave alone -/

theorem record_same (state : State) (easy : ObjectId) (deed : Deed) :
    state.record easy deed = { state with deeds := (state.record easy deed).deeds } := by
  unfold State.record
  split <;> rfl

theorem flushes_same (state : State) (early late : Option RubyException) :
    state.flushes early late = { state with deeds := (state.flushes early late).deeds } := by
  unfold State.flushes
  split
  · exact record_same ..
  · rfl

theorem completes_same (state : State) (completion : Completion)
    (complete status : Option RubyException) :
    state.completes completion complete status = { state with
      waiters := (state.completes completion complete status).waiters
      deeds := (state.completes completion complete status).deeds } := by
  unfold State.completes
  split
  · rw [record_same]
  · rfl

theorem releaseError_same (state : State) (exception : RubyException) :
    state.releaseSchedulerError exception = { state with
      waiters := (state.releaseSchedulerError exception).waiters
      error := (state.releaseSchedulerError exception).error } := by
  unfold State.releaseSchedulerError
  split <;> rfl

/-- The callbacks that begin use the waiter that the handle has now. -/
theorem reads_callbackWaiter {multi : Perform.State} {mode : Mode} {final : Bool}
    {completion : Completion} (point : multi.point = .callbacks mode final completion) :
    (state.reads multi).callbackWaiter =
      (state.waiters.get completion.transfer.1).map Waiter.registration := by
  unfold State.reads
  dsimp only
  rw [point]

/-- The driver is stopped, or has started anew. -/
theorem driverEnds_same (state : State) :
    ∃ driver error, state.driverEnds = { state with
      driver := driver
      error := error } ∧ (driver = .stopped ∨ ∃ count, driver = .starting count) := by
  unfold State.driverEnds
  dsimp only
  split
  · unfold State.ensureSchedulerDriver
    rw [if_pos rfl]
    exact ⟨_, _, rfl, Or.inr ⟨_, rfl⟩⟩
  · exact ⟨.stopped, state.error, rfl, Or.inl rfl⟩

/-- A driver that is stopped is started. -/
theorem ensureSchedulerDriver_same (state : State) :
    ∃ driver error, state.ensureSchedulerDriver = { state with
      driver := driver
      error := error } ∧
      (driver = state.driver ∧ error = state.error ∧ state.driver ≠ .stopped ∨
        state.driver = .stopped ∧ error = none ∧ ∃ count, driver = .starting count) := by
  unfold State.ensureSchedulerDriver
  split
  · rename_i stopped
    exact ⟨_, _, rfl, Or.inr ⟨stopped, rfl, _, rfl⟩⟩
  · rename_i runs
    exact ⟨state.driver, state.error, rfl, Or.inl ⟨rfl, rfl, runs⟩⟩

/-! ## The queue -/

theorem hasEasy_iff {multi : Perform.State} :
    multi.hasEasy easy = true ↔ ∃ generation, (easy, generation) ∈ multi.attached := by
  unfold Perform.State.hasEasy
  rw [List.any_eq_true]
  constructor
  · rintro ⟨transfer, mem, same⟩
    exact ⟨transfer.2, of_decide_eq_true same ▸ mem⟩
  · rintro ⟨generation, mem⟩
    exact ⟨_, mem, decide_eq_true rfl⟩

theorem hasEasy_mono {multi multi' : Perform.State} (more : multi.attached ⊆ multi'.attached)
    (has : multi.hasEasy easy = true) : multi'.hasEasy easy = true := by
  obtain ⟨generation, mem⟩ := hasEasy_iff.mp has
  exact hasEasy_iff.mpr ⟨generation, more mem⟩

/-- The handle waits to be added, or is attached. -/
def Queued (state : State) (easy : ObjectId) : Prop :=
  easy ∈ state.pending ∨ state.multi.hasEasy easy = true

theorem hasEasy_add {multi : Perform.State} {other : ObjectId} (nothing : multi.deferredException = none) :
    (multi.add other true).hasEasy easy = true ↔ multi.hasEasy easy = true ∨ easy = other := by
  unfold Perform.State.add
  rw [nothing]
  cases has : multi.hasEasy other with
  | true =>
    constructor
    · exact Or.inl
    · rintro (here | same)
      · exact here
      · rw [same]
        exact has
  | false =>
    rw [hasEasy_iff, hasEasy_iff]
    constructor
    · rintro ⟨generation, mem⟩
      rcases List.mem_append.mp mem with old | new
      · exact Or.inl ⟨generation, old⟩
      · exact Or.inr (congrArg Prod.fst (List.mem_singleton.mp new))
    · rintro (⟨generation, mem⟩ | same)
      · exact ⟨generation, List.mem_append_left _ mem⟩
      · rw [same]
        exact ⟨_, List.mem_append_right _ (List.mem_singleton.mpr rfl)⟩

/-- What draining the pending handles does: some of them are added, in their order. -/
structure Drained (state after : State) : Prop where
  same : after = { state with
    multi := after.multi
    pending := after.pending
    deeds := after.deeds }
  point : after.multi.point = state.multi.point
  deferred : after.multi.deferredException = state.multi.deferredException
  source : after.multi.deferredExceptionSourceId = state.multi.deferredExceptionSourceId
  added : ∃ added, state.pending = added ++ after.pending ∧
    ∀ easy, after.multi.hasEasy easy = true ↔ state.multi.hasEasy easy = true ∨ easy ∈ added
  shared : Shared state.multi →
    (state.multi.point = .idle ∨ ∃ mode final, state.multi.point = .block mode final) →
      Shared after.multi
  tables : Perform.Tables state.multi → Perform.Tables after.multi
  messages : after.multi.messages = state.multi.messages

theorem Drained.refl (state : State) : Drained state state :=
  ⟨rfl, rfl, rfl, rfl, ⟨[], rfl, by simp⟩, fun shared _ => shared, id, rfl⟩

theorem Drained.queued (drained : Drained state after) : Queued after easy ↔ Queued state easy := by
  obtain ⟨added, pending, has⟩ := drained.added
  unfold Queued
  rw [has, pending, List.mem_append]
  tauto

theorem drained_record {deed : Deed} : Drained state (state.record easy deed) := by
  rw [record_same]
  exact ⟨rfl, rfl, rfl, rfl, ⟨[], rfl, by simp⟩, fun shared _ => shared, id, rfl⟩

/-- The first pending handle is added. -/
theorem drained_head {other : ObjectId} {rest : List ObjectId} (pending : state.pending = other :: rest)
    (nothing : state.multi.deferredException = none) :
    Drained state { state with
      multi := state.multi.add other true
      pending := rest } := by
  obtain ⟨point, deferred, source, -⟩ := add_keeps state.multi other
  have messages : (state.multi.add other true).messages = state.multi.messages := by
    unfold Perform.State.add
    split <;> rfl
  refine ⟨rfl, point, deferred, source, ⟨[other], pending, fun easy => ?_⟩, shared_add, Perform.tables_add,
    messages⟩
  rw [List.mem_singleton]
  exact hasEasy_add nothing

theorem Drained.trans {last : State} (first : Drained state after) (second : Drained after last) :
    Drained state last := by
  obtain ⟨added, pending, has⟩ := first.added
  obtain ⟨added', pending', has'⟩ := second.added
  refine ⟨?_, second.point.trans first.point, second.deferred.trans first.deferred,
    second.source.trans first.source, ⟨added ++ added', ?_, fun easy => ?_⟩, fun shared place => ?_,
    fun tables => second.tables (first.tables tables), second.messages.trans first.messages⟩
  · rw [second.same, first.same]
  · rw [pending, pending', List.append_assoc]
  · rw [has', has, List.mem_append, or_assoc]
  · refine second.shared (first.shared shared place) ?_
    rw [first.point]
    exact place

theorem drained_drainPending (replies : ObjectId → Option RubyException) (pending : List ObjectId)
    (same : state.pending = pending) : Drained state (State.drainPending replies pending state).1 := by
  induction pending generalizing state with
  | nil => exact .refl state
  | cons other rest ih =>
    unfold State.drainPending
    split
    · exact .refl state
    · rename_i nothing
      rw [Option.not_isSome_iff_eq_none] at nothing
      split
      · exact drained_record
      · dsimp only
        rw [if_pos ((hasEasy_add nothing).mpr (Or.inr rfl))]
        exact (drained_head same nothing).trans (ih rfl)

theorem Drained.waiters (drained : Drained state after) : after.waiters = state.waiters := by
  rw [drained.same]

theorem Drained.driver (drained : Drained state after) : after.driver = state.driver := by
  rw [drained.same]

/-- At the head of the loop the pending handles are drained. -/
theorem drain_cases (state : State) (replies : ObjectId → Option RubyException) :
    ∃ drained, Drained state drained ∧
      (state.drain replies = { drained with driver := .drained } ∨
        ∃ exception, state.drain replies = { drained with driver := .raising exception }) := by
  have drained : Drained state _ := drained_drainPending replies state.pending rfl
  refine ⟨_, drained, ?_⟩
  unfold State.drain State.drainSchedulerPending
  split <;> rename_i found
  · rw [found]
    exact Or.inl rfl
  · rw [found]
    exact Or.inr ⟨_, rfl⟩

/-- In the block they are drained, too. -/
theorem block_cases (state : State) (replies : ObjectId → Option RubyException) :
    ∃ drained, Drained state drained ∧
      (state.block replies = { drained.releaseSchedulerWaiters with driver := .yielding } ∨
        ∃ exception, state.block replies = { drained with
          multi := { drained.multi with point := .ended (.raised exception) } }) := by
  have drained : Drained state _ := drained_drainPending replies state.pending rfl
  refine ⟨_, drained, ?_⟩
  unfold State.block State.drainSchedulerPending
  split <;> rename_i found
  · rw [found]
    exact Or.inl rfl
  · rw [found]
    exact Or.inr ⟨_, rfl⟩

/-! ## The multi over all runs -/

/-- The multi performs only where the driver does. -/
structure Driven (state : State) : Prop where
  shared : Shared state.multi
  idle : state.driver ≠ .performing → state.driver ≠ .yielding → state.multi.point = .idle

/-- The multi is left alone, and the driver neither begins nor ends to perform. -/
theorem Driven.of_eq (driven : Driven state) (multi : after.multi = state.multi)
    (driver : after.driver ≠ .performing → after.driver ≠ .yielding →
      state.driver ≠ .performing ∧ state.driver ≠ .yielding) : Driven after := by
  refine ⟨multi ▸ driven.shared, fun notPerforming notYielding => ?_⟩
  obtain ⟨before, before'⟩ := driver notPerforming notYielding
  rw [multi]
  exact driven.idle before before'

theorem driven_fresh : Driven fresh := ⟨shared_fresh, fun _ _ => rfl⟩

theorem driven_driverEnds (driven : Driven state) (idle : state.multi.point = .idle) :
    Driven state.driverEnds := by
  obtain ⟨driver, error, same, -⟩ := driverEnds_same state
  rw [same]
  exact ⟨driven.shared, fun _ _ => idle⟩

theorem driven_driverRaises {exception : RubyException} (driven : Driven state)
    (idle : state.multi.point = .idle) : Driven (state.driverRaises exception) := by
  unfold State.driverRaises
  split
  · rw [releaseError_same]
    exact driven_driverEnds ⟨driven.shared, driven.idle⟩ idle
  · exact driven_driverEnds driven idle

theorem driven_leave (driven : Driven state) : Driven (state.leave easy) := by
  unfold State.leave
  split <;> exact ⟨driven.shared, driven.idle⟩

theorem driven_drain {replies : ObjectId → Option RubyException} (driven : Driven state)
    (looping : state.driver = .looping) : Driven (state.drain replies) := by
  have idle := driven.idle (looping ▸ nofun) (looping ▸ nofun)
  obtain ⟨drained, does, same | ⟨exception, same⟩⟩ := drain_cases state replies
  all_goals
    rw [same]
    exact ⟨does.shared driven.shared (Or.inl idle), fun _ _ => does.point.trans idle⟩

theorem driven_enter {refused : ObjectId → Option RubyException} {mode : Mode} (driven : Driven state)
    (drained : state.driver = .drained) : Driven (state.enter refused mode) := by
  have idle := driven.idle (drained ▸ nofun) (drained ▸ nofun)
  unfold State.enter
  split
  · exact driven_driverEnds driven idle
  · split
    · rw [record_same]
      exact ⟨driven.shared, fun _ _ => idle⟩
    · exact ⟨shared_performBegin driven.shared idle, fun performs => absurd rfl performs⟩

theorem driven_block {replies : ObjectId → Option RubyException} (driven : Driven state)
    (performing : state.driver = .performing)
    (block : ∃ mode final, state.multi.point = .block mode final) : Driven (state.block replies) := by
  obtain ⟨drained, does, same | ⟨exception, same⟩⟩ := block_cases state replies
  · rw [same]
    exact ⟨does.shared driven.shared (Or.inr block), fun _ yields => absurd rfl yields⟩
  · have shared := does.shared driven.shared (Or.inr block)
    obtain ⟨mode, final, point⟩ := block
    have here := shared.atPoint
    rw [does.point, point] at here
    rw [same]
    exact ⟨⟨shared.counted.of_eq rfl rfl rfl rfl, here.1⟩,
      fun performs => absurd (does.driver.trans performing) performs⟩

theorem driven_step {event : Event} (driven : Driven state)
    (steps : step stopIteration state event = some after) : Driven after := by
  cases event with
  | register easy =>
    obtain ⟨-, same⟩ := step_register steps
    rw [same]
    unfold State.register
    obtain ⟨driver, error, started, driver_cases⟩ := ensureSchedulerDriver_same { state with
      waiters := state.waiters.set easy ⟨state.registrations, false, false, none⟩
      pending := state.pending ++ [easy]
      fiber := Function.update state.fiber easy .waiting
      registrations := state.registrations + 1
      deeds := Function.update state.deeds easy [] }
    rw [started]
    rcases driver_cases with ⟨same, -⟩ | ⟨stopped, -⟩
    · exact driven.of_eq rfl fun performs yields => ⟨same ▸ performs, same ▸ yields⟩
    · refine driven.of_eq rfl fun _ _ => ?_
      change state.driver = .stopped at stopped
      exact ⟨stopped ▸ nofun, stopped ▸ nofun⟩
  | check easy =>
    obtain ⟨-, waiter, -, same⟩ := step_check steps
    rw [same]
    unfold State.check
    split
    · exact driven_leave driven
    · split <;> exact ⟨driven.shared, driven.idle⟩
  | leave easy =>
    obtain ⟨-, same⟩ := step_leave steps
    rw [same]
    exact driven_leave driven
  | interrupt easy exception =>
    obtain ⟨-, same⟩ := step_interrupt steps
    rw [same]
    exact ⟨driven.shared, driven.idle⟩
  | startYielded =>
    obtain ⟨⟨count, starting⟩, driver, -, same⟩ := step_startYielded steps
    rw [same]
    exact driven.of_eq rfl fun _ _ => ⟨starting ▸ nofun, starting ▸ nofun⟩
  | driverInterrupted exception =>
    obtain ⟨⟨count, starting⟩, same⟩ := step_driverInterrupted steps
    rw [same]
    exact driven_driverRaises driven (driven.idle (starting ▸ nofun) (starting ▸ nofun))
  | drain replies =>
    obtain ⟨looping, same⟩ := step_drain steps
    rw [same]
    exact driven_drain driven looping
  | enter refused mode =>
    obtain ⟨drained, same⟩ := step_enter steps
    rw [same]
    exact driven_enter driven drained
  | drive event =>
    obtain ⟨performing, among, multi, driven', same⟩ := step_drive steps
    rw [same]
    exact ⟨(drives_step among driven').shared driven.shared, fun performs => absurd performing performs⟩
  | readInfo early late =>
    obtain ⟨performing, multi, read, same⟩ := step_readInfo steps
    obtain ⟨point, reads⟩ := reads_step driven.shared.counted read
    rw [same, flushes_same]
    exact ⟨reads.shared driven.shared point, fun performs => absurd performing performs⟩
  | callbacks complete status =>
    obtain ⟨performing, mode, final, completion, point, same⟩ := step_callbacks steps
    rw [same, completes_same]
    exact ⟨shared_callbacksEnd driven.shared point, fun performs => absurd performing performs⟩
  | block replies =>
    obtain ⟨performing, point, same⟩ := step_block steps
    rw [same]
    exact driven_block driven performing point
  | blockYielded raised =>
    obtain ⟨-, multi, ended, same⟩ := step_blockYielded steps
    rw [same]
    exact ⟨shared_blockEnd driven.shared ended, fun performs => absurd rfl performs⟩
  | autoclose accepted refusal =>
    obtain ⟨performing, point, same⟩ := step_autoclose steps
    rw [same]
    exact ⟨shared_autoclose driven.shared point, fun performs => absurd performing performs⟩
  | goesOn =>
    obtain ⟨-, outcome, point, same⟩ := step_goesOn steps
    rw [same]
    exact ⟨shared_ended driven.shared point, fun _ _ => rfl⟩
  | rescues =>
    obtain ⟨exception, raising, same⟩ := step_rescues steps
    have idle := driven.idle (raising ▸ nofun) (raising ▸ nofun)
    rw [same]
    unfold State.loopRaises
    split
    · exact driven_driverEnds driven idle
    · exact driven_driverRaises driven idle

theorem reached_driven {ok : State → Event → Prop}
    (reached : Reached (step stopIteration) ok fresh state) : Driven state :=
  reached.invariant driven_fresh fun _ _ _ driven _ steps => driven_step driven steps

end Curb.Scheduler

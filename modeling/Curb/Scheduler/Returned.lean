import Curb.Scheduler.Driver

/-!
# What a perform that returns has seen

A fiber leaves `perform_with_scheduler` normally where its waiter is done. Whatever raises, and whatever
the other fibers do, its handle has completed by then in this very perform, and its own `on_complete` has
raised nothing.
-/

namespace Curb.Scheduler
open Curb.Misc Curb.Ruby
open Curb.Perform (RubyException Outcome Mode Point Completion Transfer)

variable {stopIteration : ObjectId → Bool} {state after : State} {easy : ObjectId} {waiter : Waiter}

/-- The handle has completed since its fiber registered, and its `on_complete` has raised nothing. -/
def HasCompleted (state : State) (easy : ObjectId) : Prop :=
  ∃ callbackError status, Deed.completed callbackError none status ∈ state.deeds easy

/-- A waiter is completed, and then done, only for a handle that has completed. -/
structure Earned (state : State) : Prop where
  waiters : ∀ easy waiter, state.waiters.get easy = some waiter → waiter.completed = true →
    HasCompleted state easy
  done : ∀ easy waiter, state.waiters.get easy = some waiter → waiter.done = true →
    waiter.completed = true
  fibers : ∀ easy, state.fiber easy = .leaving ∨ state.fiber easy = .ended .returned →
    HasCompleted state easy

/-! ## Steps that complete no waiter -/

/-- No waiter is new and none is completed, only completed ones are done, and nothing is forgotten of what
the handles have come to. -/
structure Ages (state after : State) : Prop where
  fiber : after.fiber = state.fiber
  deeds : ∀ easy, state.deeds easy ⊆ after.deeds easy
  waiters : ∀ easy waiter, after.waiters.get easy = some waiter →
    ∃ before, state.waiters.get easy = some before ∧ waiter.completed = before.completed ∧
      (waiter.done = true → before.done = true ∨ before.completed = true)

theorem HasCompleted.mono (completed : HasCompleted state easy)
    (deeds : state.deeds easy ⊆ after.deeds easy) : HasCompleted after easy := by
  obtain ⟨callbackError, status, mem⟩ := completed
  exact ⟨callbackError, status, deeds mem⟩

theorem Ages.earned (ages : Ages state after) (earned : Earned state) : Earned after := by
  refine ⟨?_, ?_, ?_⟩
  · intro easy waiter found completed
    obtain ⟨before, get, same, -⟩ := ages.waiters easy waiter found
    exact (earned.waiters easy before get (same ▸ completed)).mono (ages.deeds easy)
  · intro easy waiter found done
    obtain ⟨before, get, same, finishes⟩ := ages.waiters easy waiter found
    rw [same]
    rcases finishes done with already | completed
    · exact earned.done easy before get already
    · exact completed
  · intro easy fiber
    rw [ages.fiber] at fiber
    exact (earned.fibers easy fiber).mono (ages.deeds easy)

theorem Ages.of_eq (fiber : after.fiber = state.fiber) (deeds : after.deeds = state.deeds)
    (waiters : after.waiters = state.waiters) : Ages state after := by
  refine ⟨fiber, fun easy => deeds ▸ List.Subset.refl _, fun easy waiter found => ?_⟩
  rw [waiters] at found
  exact ⟨waiter, found, rfl, Or.inl⟩

theorem Earned.of_eq (earned : Earned state) (fiber : after.fiber = state.fiber)
    (deeds : after.deeds = state.deeds) (waiters : after.waiters = state.waiters) : Earned after :=
  (Ages.of_eq fiber deeds waiters).earned earned

theorem Ages.refl (state : State) : Ages state state := .of_eq rfl rfl rfl

theorem Ages.trans {last : State} (first : Ages state after) (second : Ages after last) :
    Ages state last := by
  refine ⟨second.fiber.trans first.fiber,
    fun easy => List.Subset.trans (first.deeds easy) (second.deeds easy), fun easy waiter found => ?_⟩
  obtain ⟨middle, get, same, finishes⟩ := second.waiters easy waiter found
  obtain ⟨before, get', same', finishes'⟩ := first.waiters easy middle get
  refine ⟨before, get', same.trans same', fun done => ?_⟩
  rcases finishes done with already | completed
  · exact finishes' already
  · exact Or.inr (same' ▸ completed)

theorem ages_record {deed : Deed} : Ages state (state.record easy deed) := by
  unfold State.record
  split
  · refine ⟨rfl, fun other => ?_, fun other waiter found => ⟨waiter, found, rfl, Or.inl⟩⟩
    show state.deeds other ⊆ Function.update state.deeds easy (state.deeds easy ++ [deed]) other
    by_cases here : other = easy
    · rw [here, Function.update_self]
      exact List.subset_append_left _ _
    · rw [Function.update_of_ne here]
      exact List.Subset.refl _
  · exact .refl state

/-- The waiters are each replaced by one that is not more complete. -/
theorem ages_mapValues {f : ObjectId → Waiter → Waiter}
    (kept : ∀ easy waiter, (f easy waiter).completed = waiter.completed ∧
      ((f easy waiter).done = true → waiter.done = true ∨ waiter.completed = true)) :
    Ages state { state with waiters := state.waiters.mapValues f } := by
  refine ⟨rfl, fun easy => List.Subset.refl _, fun easy waiter found => ?_⟩
  obtain ⟨before, get, rfl⟩ := Option.map_eq_some_iff.mp (Table.get_mapValues.symm.trans found)
  exact ⟨before, get, kept easy before⟩

theorem ages_release : Ages state state.releaseSchedulerWaiters := by
  unfold State.releaseSchedulerWaiters
  refine ages_mapValues fun easy waiter => ?_
  split
  · exact ⟨rfl, Or.inl⟩
  · split
    · rename_i completed
      exact ⟨rfl, fun _ => Or.inr completed⟩
    · exact ⟨rfl, Or.inl⟩

theorem ages_releaseError {exception : RubyException} :
    Ages state (state.releaseSchedulerError exception) := by
  unfold State.releaseSchedulerError
  split
  · refine ages_mapValues fun easy waiter => ?_
    split <;> exact ⟨rfl, Or.inl⟩
  · exact .of_eq rfl rfl rfl

theorem ages_driverEnds : Ages state state.driverEnds := by
  obtain ⟨driver, error, same, -⟩ := driverEnds_same state
  rw [same]
  exact .of_eq rfl rfl rfl

theorem ages_driverRaises {exception : RubyException} : Ages state (state.driverRaises exception) := by
  unfold State.driverRaises
  split
  · exact (ages_release.trans ages_releaseError).trans ages_driverEnds
  · exact ages_driverEnds

theorem ages_drainPending (replies : ObjectId → Option RubyException) (pending : List ObjectId)
    (state : State) : Ages state (State.drainPending replies pending state).1 := by
  induction pending generalizing state with
  | nil => exact .refl state
  | cons other rest ih =>
    unfold State.drainPending
    split
    · exact .refl state
    · split
      · exact ages_record
      · dsimp only
        split
        · have added : Ages state { state with
              multi := state.multi.add other true
              pending := rest } := .of_eq rfl rfl rfl
          exact added.trans (ih _)
        · exact .of_eq rfl rfl rfl

theorem ages_drain {replies : ObjectId → Option RubyException} : Ages state (state.drain replies) := by
  have drained := ages_drainPending replies state.pending state
  unfold State.drain State.drainSchedulerPending
  split <;> rename_i found
  · rw [found] at drained
    exact drained.trans (.of_eq rfl rfl rfl)
  · rw [found] at drained
    exact drained.trans (.of_eq rfl rfl rfl)

theorem ages_enter {refused : ObjectId → Option RubyException} {mode : Mode} :
    Ages state (state.enter refused mode) := by
  unfold State.enter
  split
  · exact ages_driverEnds
  · split
    · exact (ages_record.trans ages_release).trans (.of_eq rfl rfl rfl)
    · exact .of_eq rfl rfl rfl

theorem ages_block {replies : ObjectId → Option RubyException} : Ages state (state.block replies) := by
  have drained := ages_drainPending replies state.pending state
  unfold State.block State.drainSchedulerPending
  split <;> rename_i found
  · rw [found] at drained
    exact (drained.trans ages_release).trans (.of_eq rfl rfl rfl)
  · rw [found] at drained
    exact drained.trans (.of_eq rfl rfl rfl)

theorem ages_flushes {early late : Option RubyException} : Ages state (state.flushes early late) := by
  unfold State.flushes
  split
  · exact ages_record
  · exact .refl state

/-! ## The other steps -/

/-- A completed waiter is one whose handle's callbacks have just run. -/
theorem earned_completes {completion : Completion} {complete status : Option RubyException}
    (earned : Earned state) : Earned (state.completes completion complete status) := by
  unfold State.completes
  split
  · rename_i calls
    have recorded := @ages_record state completion.transfer.1
      (.completed completion.callbackError complete status)
    have before := recorded.earned earned
    have waiters : (state.record completion.transfer.1
        (.completed completion.callbackError complete status)).waiters = state.waiters := by
      rw [record_same]
    refine ⟨fun easy waiter found completed => ?_, fun easy waiter found done => ?_, before.fibers⟩
    · obtain ⟨old, get, same⟩ := Option.map_eq_some_iff.mp (Table.get_mapValues.symm.trans found)
      by_cases here : easy = completion.transfer.1 ∧ complete = none
      · obtain ⟨rfl, raised⟩ := here
        have some : (state.waiters.get completion.transfer.1).isSome := by
          rw [get]
          rfl
        refine ⟨completion.callbackError, status, ?_⟩
        show _ ∈ (state.record _ _).deeds _
        rw [State.record, if_pos some, raised]
        show _ ∈ Function.update state.deeds _ _ _
        rw [Function.update_self]
        exact List.mem_append_right _ (List.mem_singleton.mpr rfl)
      · rw [if_neg here] at same
        exact before.waiters easy old (waiters ▸ get) (same ▸ completed)
    · obtain ⟨old, get, same⟩ := Option.map_eq_some_iff.mp (Table.get_mapValues.symm.trans found)
      split at same
      · rw [← same]
      · rw [← same]
        exact before.done easy old (waiters ▸ get) (same ▸ done)
  · exact earned

theorem earned_ends {fiber : Fiber} (earned : Earned state)
    (returns : fiber = .ended .returned → HasCompleted state easy) (leaves : fiber ≠ .leaving) :
    Earned (state.ends easy fiber) := by
  have kept {other : ObjectId} {waiter : Waiter}
      (found : (state.ends easy fiber).waiters.get other = some waiter) :
      state.waiters.get other = some waiter := by
    have found' := Table.get_erase.symm.trans found
    split at found'
    · cases found'
    · exact found'
  refine ⟨fun other waiter found => earned.waiters other waiter (kept found),
    fun other waiter found => earned.done other waiter (kept found), fun other left => ?_⟩
  change Function.update state.fiber easy fiber other = _ ∨
    Function.update state.fiber easy fiber other = _ at left
  by_cases here : other = easy
  · rw [here, Function.update_self] at left
    rw [here]
    exact returns (left.resolve_left leaves)
  · rw [Function.update_of_ne here] at left
    exact earned.fibers other left

theorem earned_leave (earned : Earned state) (completed : HasCompleted state easy) :
    Earned (state.leave easy) := by
  unfold State.leave
  split
  · refine ⟨earned.waiters, earned.done, fun other left => ?_⟩
    change Function.update state.fiber easy .leaving other = _ ∨
      Function.update state.fiber easy .leaving other = _ at left
    by_cases here : other = easy
    · exact here ▸ completed
    · rw [Function.update_of_ne here] at left
      exact earned.fibers other left
  · exact earned_ends earned (fun _ => completed) (Fiber.noConfusion ·)

theorem earned_check (earned : Earned state) (found : state.waiters.get easy = some waiter) :
    Earned (state.check easy waiter) := by
  unfold State.check
  split
  · rename_i done
    exact earned_leave earned (earned.waiters easy waiter found (earned.done easy waiter found done))
  · split
    · refine earned_ends earned (fun returned => ?_) (Fiber.noConfusion ·)
      cases returned
    · exact earned

/-- What a handle came to in an earlier perform does not count. -/
theorem earned_register (earned : Earned state) : Earned (state.register easy) := by
  unfold State.register
  obtain ⟨driver, error, same, -⟩ := ensureSchedulerDriver_same { state with
    waiters := state.waiters.set easy ⟨state.registrations, false, false, none⟩
    pending := state.pending ++ [easy]
    fiber := Function.update state.fiber easy .waiting
    registrations := state.registrations + 1
    deeds := Function.update state.deeds easy [] }
  rw [same]
  have others {other : ObjectId} (differs : other ≠ easy) (completed : HasCompleted state other) :
      ∃ callbackError status, Deed.completed callbackError none status ∈
        Function.update state.deeds easy [] other := by
    rw [Function.update_of_ne differs]
    exact completed
  refine ⟨fun other waiter found completed => ?_, fun other waiter found done => ?_,
    fun other left => ?_⟩
  · have found' := Table.get_set.symm.trans found
    split at found'
    · cases found'
      cases completed
    · rename_i differs
      exact others differs (earned.waiters other waiter found' completed)
  · have found' := Table.get_set.symm.trans found
    split at found'
    · cases found'
      cases done
    · exact earned.done other waiter found' done
  · change Function.update state.fiber easy .waiting other = _ ∨
      Function.update state.fiber easy .waiting other = _ at left
    by_cases here : other = easy
    · rw [here, Function.update_self] at left
      rcases left with no | no <;> cases no
    · rw [Function.update_of_ne here] at left
      exact others here (earned.fibers other left)

theorem earned_step {event : Event} (earned : Earned state)
    (steps : step stopIteration state event = some after) : Earned after := by
  cases event with
  | register easy =>
    rw [(step_register steps).2]
    exact earned_register earned
  | check easy =>
    obtain ⟨-, waiter, found, same⟩ := step_check steps
    rw [same]
    exact earned_check earned found
  | leave easy =>
    obtain ⟨leaving, same⟩ := step_leave steps
    rw [same]
    exact earned_leave earned (earned.fibers easy (Or.inl leaving))
  | interrupt easy exception =>
    rw [(step_interrupt steps).2]
    refine earned_ends earned (fun returned => ?_) (Fiber.noConfusion ·)
    cases returned
  | startYielded =>
    obtain ⟨-, driver, -, same⟩ := step_startYielded steps
    rw [same]
    exact earned.of_eq rfl rfl rfl
  | driverInterrupted exception =>
    rw [(step_driverInterrupted steps).2]
    exact ages_driverRaises.earned earned
  | drain replies =>
    rw [(step_drain steps).2]
    exact ages_drain.earned earned
  | enter refused mode =>
    rw [(step_enter steps).2]
    exact ages_enter.earned earned
  | drive event =>
    obtain ⟨-, -, multi, -, same⟩ := step_drive steps
    rw [same]
    exact earned.of_eq rfl rfl rfl
  | readInfo early late =>
    obtain ⟨-, multi, -, same⟩ := step_readInfo steps
    rw [same]
    exact (ages_flushes.earned earned).of_eq rfl rfl rfl
  | callbacks complete status =>
    obtain ⟨-, mode, final, completion, -, same⟩ := step_callbacks steps
    rw [same]
    exact (earned_completes earned).of_eq rfl rfl rfl
  | block replies =>
    rw [(step_block steps).2.2]
    exact ages_block.earned earned
  | blockYielded raised =>
    obtain ⟨-, multi, -, same⟩ := step_blockYielded steps
    rw [same]
    exact earned.of_eq rfl rfl rfl
  | autoclose accepted refusal =>
    obtain ⟨-, -, same⟩ := step_autoclose steps
    rw [same]
    exact earned.of_eq rfl rfl rfl
  | goesOn =>
    obtain ⟨-, outcome, -, same⟩ := step_goesOn steps
    rw [same]
    exact (ages_release.earned earned).of_eq rfl rfl rfl
  | rescues =>
    obtain ⟨exception, -, same⟩ := step_rescues steps
    rw [same]
    unfold State.loopRaises
    split
    · exact ages_driverEnds.earned earned
    · exact ages_driverRaises.earned earned

theorem earned_fresh : Earned fresh := by
  refine ⟨fun easy waiter found => ?_, fun easy waiter found => ?_, fun easy left => ?_⟩
  · cases found
  · cases found
  · rcases left with no | no <;> cases no

/-- In every run, a perform that returns has seen its handle complete. -/
theorem returned_completed (stopIteration : ObjectId → Bool) (state : State)
    (reached : Reached (step stopIteration) (fun _ _ => True) fresh state) (easy : ObjectId)
    (returned : state.fiber easy = .ended .returned) :
    ∃ callbackError status, Deed.completed callbackError none status ∈ state.deeds easy := by
  have earned := reached.invariant earned_fresh fun _ _ _ earned _ steps => earned_step earned steps
  exact earned.fibers easy (Or.inr returned)

/-- A body callback of the first handle raises; the fiber of the second looks at its waiter. -/
def siblingRaises : List Event := [.register 1, .register 2, .startYielded, .startYielded,
  .drain fun _ => none, .enter (fun _ => none) .fdset,
  .drive (.dataCallbackRaises 1 (.raised 9 true)), .drive (.finish (1, 1)), .drive (.finish (2, 1)),
  .drive .driven, .readInfo none none, .callbacks none none, .readInfo none none,
  .callbacks none none, .readInfo none none, .goesOn, .rescues, .check 2]

/-- The perform of the second fiber returns. -/
theorem returned_completed_siblingRaises : ∃ state,
    runSteps (step fun _ => false) fresh siblingRaises = some state ∧
      state.fiber 2 = .ended .returned ∧
        ∃ callbackError status, Deed.completed callbackError none status ∈ state.deeds 2 := by
  have ends : (runSteps (step fun _ => false) fresh siblingRaises).map (fun state => state.fiber 2) =
      some (.ended .returned) := by decide +kernel
  obtain ⟨state, ran, returned⟩ := Option.map_eq_some_iff.mp ends
  have meets : RunOk (step fun _ => false) (fun _ _ => True) fresh siblingRaises :=
    .of_forall fun _ _ _ => trivial
  exact ⟨state, ran, returned,
    returned_completed _ state (Reached.run .start meets ran) 2 returned⟩

end Curb.Scheduler

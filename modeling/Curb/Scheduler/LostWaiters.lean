import Curb.Scheduler.Driver

/-!
# Lost waiters

A fiber whose waiter is neither done nor given an error blocks until the driver does the one or the
other. Where the driver stops, the handle of such a waiter is to be pending or attached. The waiter of
a handle that libcurl has let go is in the driver's hands: it is completed, its callbacks run, or its
exception is the deferred one. It is lost where the handle's `on_complete` raises while another
handle's exception is deferred, and where the driver does not rescue the deferred exception.
-/

namespace Curb.Scheduler
open Curb.Misc Curb.Ruby
open Curb.Perform (RubyException Outcome Mode Point Completion Transfer)

variable {stopIteration : ObjectId → Bool} {state after : State} {easy : ObjectId} {waiter : Waiter}

/-- Where the driver has stopped, the handle of a waiter that is neither done nor given an error is
pending or attached, unless all fibers are given an error. -/
def NoLostWaiter (state : State) : Prop :=
  state.driver = .stopped → ∀ easy waiter, state.waiters.get easy = some waiter →
    waiter.done = false → waiter.error = none → state.error = none →
      easy ∈ state.pending ∨ state.multi.hasEasy easy = true

/-! ## What the driver keeps in mind -/

/-- The driver will give the source of the deferred exception its error. -/
def SourceKept (state : State) : Prop :=
  match state.driver with
  | .stopped | .starting _ => False
  | .looping | .drained | .yielding => state.multi.deferredException ≠ none
  | .performing => state.multi.deferredException ≠ none ∨
      ∃ exception, state.multi.point = .ended (.raised exception)
  | .raising _ => True

/-- What a waiter can hope for. -/
inductive Minded (state : State) (easy : ObjectId) (waiter : Waiter) : Prop where
  | queued (queued : Queued state easy)
  | source (kept : SourceKept state)
      (same : state.multi.deferredExceptionSourceId = some easy)
  /-- `release_scheduler_waiters` will find it completed. -/
  | completed (performs : state.driver = .performing ∨ state.driver = .yielding)
      (completed : waiter.completed = true)
  /-- Its `on_complete` runs. -/
  | calling (mode : Mode) (final : Bool) (completion : Completion)
      (performs : state.driver = .performing)
      (point : state.multi.point = .callbacks mode final completion)
      (same : completion.transfer.1 = easy)
      (registered : state.callbackWaiter = some waiter.registration)

/-- No waiter that waits is forgotten. -/
def Kept (state : State) : Prop :=
  ∀ easy waiter, state.waiters.get easy = some waiter → waiter.awaits = true →
    Minded state easy waiter

theorem Queued.mono (queued : Queued state easy) (pending : state.pending ⊆ after.pending)
    (attached : state.multi.attached ⊆ after.multi.attached) : Queued after easy :=
  queued.imp (fun mem => pending mem) (hasEasy_mono attached)

/-- A driver that does not run keeps nobody in mind. -/
theorem Minded.queued_of_idle (minded : Minded state easy waiter)
    (driver : state.driver = .stopped ∨ ∃ count, state.driver = .starting count) :
    Queued state easy := by
  cases minded with
  | queued queued => exact queued
  | source kept same =>
    unfold SourceKept at kept
    rcases driver with stopped | ⟨count, starting⟩
    · rw [stopped] at kept
      exact kept.elim
    · rw [starting] at kept
      exact kept.elim
  | completed performs completed =>
    rcases driver with stopped | ⟨count, starting⟩ <;> rcases performs with here | here <;> simp_all
  | calling mode final completion performs point same registered =>
    rcases driver with stopped | ⟨count, starting⟩ <;> simp_all

theorem Kept.noLostWaiter (kept : Kept state) : NoLostWaiter state := by
  intro stopped easy waiter found done error _
  have awaits := Waiter.awaits_iff.mpr ⟨done, error⟩
  exact (kept easy waiter found awaits).queued_of_idle (Or.inl stopped)

/-- Between two steps of the driver it minds the same waiters, also where more handles are pending. -/
theorem Minded.same (minded : Minded state easy waiter) (multi : after.multi = state.multi)
    (pending : state.pending ⊆ after.pending) (driver : after.driver = state.driver)
    (callbackWaiter : after.callbackWaiter = state.callbackWaiter) : Minded after easy waiter := by
  cases minded with
  | queued queued => exact .queued (queued.mono pending (multi ▸ List.Subset.refl _))
  | source kept same =>
    refine .source ?_ (multi ▸ same)
    unfold SourceKept at kept ⊢
    rw [driver, multi]
    exact kept
  | completed performs completed => exact .completed (driver ▸ performs) completed
  | calling mode final completion performs point same registered =>
    exact .calling mode final completion (driver ▸ performs) (multi ▸ point) same
      (callbackWaiter ▸ registered)

/-- Where the driver ends, the handles of the waiters that wait are to be in the queue. -/
theorem kept_driverEnds (queued : ∀ easy waiter, state.waiters.get easy = some waiter →
    waiter.awaits = true → Queued state easy) : Kept state.driverEnds := by
  obtain ⟨driver, error, same, -⟩ := driverEnds_same state
  rw [same]
  exact fun easy waiter found awaits => .queued (queued easy waiter found awaits)

/-! ## Fibers -/

theorem kept_ends {fiber : Fiber} (kept : Kept state) : Kept (state.ends easy fiber) := by
  intro other waiter found awaits
  have before : state.waiters.get other = some waiter := by
    have found' := Table.get_erase.symm.trans found
    split at found'
    · cases found'
    · exact found'
  exact (kept other waiter before awaits).same rfl (List.Subset.refl _) rfl rfl

theorem kept_leave (kept : Kept state) : Kept (state.leave easy) := by
  unfold State.leave
  split
  · exact fun other waiter found awaits =>
      (kept other waiter found awaits).same rfl (List.Subset.refl _) rfl rfl
  · exact kept_ends kept

theorem kept_check (kept : Kept state) : Kept (state.check easy waiter) := by
  unfold State.check
  split
  · exact kept_leave kept
  · split
    · exact kept_ends kept
    · exact kept

/-- A new waiter's handle is pending. -/
theorem kept_register (kept : Kept state) : Kept (state.register easy) := by
  unfold State.register
  obtain ⟨driver, error, same, driver_cases⟩ := ensureSchedulerDriver_same { state with
    waiters := state.waiters.set easy ⟨state.registrations, false, false, none⟩
    pending := state.pending ++ [easy]
    fiber := Function.update state.fiber easy .waiting
    registrations := state.registrations + 1
    deeds := Function.update state.deeds easy [] }
  rw [same]
  intro other waiter found awaits
  have found' := Table.get_set.symm.trans found
  split at found'
  · rename_i here
    exact .queued (Or.inl (List.mem_append_right _ (List.mem_singleton.mpr here)))
  · have minded := kept other waiter found' awaits
    rcases driver_cases with ⟨runs, -⟩ | ⟨stopped, -⟩
    · exact minded.same rfl (List.subset_append_left _ _) runs rfl
    · have queued := minded.queued_of_idle (Or.inl stopped)
      exact .queued (queued.mono (List.subset_append_left _ _) (List.Subset.refl _))

/-! ## The driver -/

/-- In the loop outside `perform` the driver minds the source of the deferred exception. -/
theorem Minded.between (minded : Minded state easy waiter)
    (driver : state.driver = .looping ∨ state.driver = .drained) :
    Queued state easy ∨ state.multi.deferredException ≠ none ∧
      state.multi.deferredExceptionSourceId = some easy := by
  cases minded with
  | queued queued => exact Or.inl queued
  | source kept same =>
    unfold SourceKept at kept
    rcases driver with here | here <;>
      · rw [here] at kept
        exact Or.inr ⟨kept, same⟩
  | completed performs completed =>
    rcases driver with here | here <;> rw [here] at performs <;> rcases performs with no | no <;> cases no
  | calling mode final completion performs point same registered =>
    rcases driver with here | here <;> cases here.symm.trans performs

theorem kept_drain {replies : ObjectId → Option RubyException} (kept : Kept state)
    (looping : state.driver = .looping) : Kept (state.drain replies) := by
  have minds := fun easy waiter found awaits => (kept easy waiter found awaits).between (Or.inl looping)
  obtain ⟨drained, does, same | ⟨exception, same⟩⟩ := drain_cases state replies
  · rw [same]
    intro easy waiter found awaits
    rcases minds easy waiter (does.waiters ▸ found) awaits with queued | ⟨deferred, source⟩
    · exact .queued (does.queued.mpr queued)
    · refine .source ?_ (does.source.trans source)
      exact fun none => deferred (does.deferred.symm.trans none)
  · rw [same]
    intro easy waiter found awaits
    rcases minds easy waiter (does.waiters ▸ found) awaits with queued | ⟨deferred, source⟩
    · exact .queued (does.queued.mpr queued)
    · exact .source trivial (does.source.trans source)

/-- A round of the loop ends it, where no exception is deferred, or begins to perform. -/
theorem kept_enter {refused : ObjectId → Option RubyException} {mode : Mode} (kept : Kept state)
    (driven : Driven state) (drained : state.driver = .drained) : Kept (state.enter refused mode) := by
  have idle := driven.idle (drained ▸ nofun) (drained ▸ nofun)
  have deferredAttached := driven.shared.atPoint
  rw [idle] at deferredAttached
  have minds := fun easy waiter found awaits => (kept easy waiter found awaits).between (Or.inr drained)
  unfold State.enter
  split
  · rename_i nobody
    refine kept_driverEnds fun easy waiter found awaits => ?_
    rcases minds easy waiter found awaits with queued | ⟨deferred, -⟩
    · exact queued
    · exact absurd nobody (deferredAttached deferred)
  · split
    · rename_i other exception _
      rw [record_same]
      intro easy waiter found awaits
      obtain ⟨before, -⟩ := awaits_release found awaits
      rcases minds easy waiter before awaits with queued | ⟨-, same⟩
      · exact .queued queued
      · exact .source trivial same
    · intro easy waiter found awaits
      rcases minds easy waiter found awaits with queued | ⟨deferred, same⟩
      · exact .queued queued
      · refine .source (Or.inl deferred) ?_
        show (if state.multi.deferredException.isSome then _ else _) = _
        rw [if_pos (Option.isSome_iff_ne_none.mpr deferred)]
        exact same

theorem kept_block {replies : ObjectId → Option RubyException} (kept : Kept state)
    (performing : state.driver = .performing)
    (block : ∃ mode final, state.multi.point = .block mode final) : Kept (state.block replies) := by
  obtain ⟨mode, final, point⟩ := block
  have minds : ∀ easy waiter, state.waiters.get easy = some waiter → waiter.awaits = true →
      Queued state easy ∨ (state.multi.deferredException ≠ none ∧
        state.multi.deferredExceptionSourceId = some easy) ∨ waiter.completed = true := by
    intro easy waiter found awaits
    cases kept easy waiter found awaits with
    | queued queued => exact Or.inl queued
    | source deferred same =>
      unfold SourceKept at deferred
      rw [performing] at deferred
      rcases deferred with deferred | ⟨exception, ended⟩
      · exact Or.inr (Or.inl ⟨deferred, same⟩)
      · cases point.symm.trans ended
    | completed performs completed => exact Or.inr (Or.inr completed)
    | calling mode final completion performs point' same registered => cases point.symm.trans point'
  obtain ⟨drained, does, same | ⟨exception, same⟩⟩ := block_cases state replies
  · rw [same]
    intro easy waiter found awaits
    obtain ⟨before, -⟩ := awaits_release found awaits
    rcases minds easy waiter (does.waiters ▸ before) awaits with queued | ⟨deferred, source⟩ | completed
    · exact .queued (does.queued.mpr queued)
    · refine .source ?_ (does.source.trans source)
      exact fun none => deferred (does.deferred.symm.trans none)
    · exact .completed (Or.inr rfl) completed
  · rw [same]
    intro easy waiter found awaits
    have performs := does.driver.trans performing
    rcases minds easy waiter (does.waiters ▸ found) awaits with queued | ⟨deferred, source⟩ | completed
    · exact .queued (does.queued.mpr queued)
    · refine .source ?_ (does.source.trans source)
      unfold SourceKept
      rw [performs]
      exact Or.inr ⟨exception, rfl⟩
    · exact .completed (Or.inl performs) completed

/-- The waiter still waits, and its handle will not be added again. -/
def Unqueued (state : State) (easy : ObjectId) : Prop :=
  (∃ waiter, state.waiters.get easy = some waiter ∧ waiter.awaits = true) ∧ easy ∉ state.pending

/-- The deferred exception, if there is one, is the handle's. -/
def OwnDeferred (state : State) (easy : ObjectId) : Prop :=
  state.multi.deferredException ≠ none → state.multi.deferredExceptionSourceId = some easy

/-- Closing the multi neither lets the handle go nor forgets its exception. Where libcurl refuses a handle, the source
of the deferred exception is given an error. -/
def KeptByClosing (state : State) (accepted : ObjectId → Bool) (easy : ObjectId) : Prop :=
  if state.multi.attached.all fun transfer => accepted transfer.1 then
    state.multi.hasEasy easy = false ∧ state.multi.deferredExceptionSourceId ≠ some easy
  else
    easy ∉ (state.multi.attached.takeWhile fun transfer => accepted transfer.1).map Prod.fst ∨
      state.multi.deferredExceptionSourceId = some easy

theorem kept_autoclose {accepted : ObjectId → Bool} {refusal : RubyException} (kept : Kept state)
    (performing : state.driver = .performing) (point : state.multi.point = .ended .returned)
    (closes : ∀ easy, Unqueued state easy → ∀ waiter ∈ state.waiters.get easy, waiter.completed = false →
      KeptByClosing state accepted easy) :
    Kept { state with multi := state.multi.autoclose accepted refusal } := by
  intro easy waiter found awaits
  cases completed : waiter.completed with
  | true => exact .completed (Or.inl performing) completed
  | false =>
    by_cases pending : easy ∈ state.pending
    · exact .queued (Or.inl pending)
    · have keeps := closes easy ⟨⟨waiter, found, awaits⟩, pending⟩ waiter found completed
      have before : state.multi.hasEasy easy = true ∨ state.multi.deferredExceptionSourceId = some easy := by
        cases kept easy waiter found awaits with
        | queued queued => exact Or.inl (queued.resolve_left pending)
        | source _ same => exact Or.inr same
        | completed _ already => cases completed.symm.trans already
        | calling mode final completion _ inside => cases point.symm.trans inside
      unfold KeptByClosing at keeps
      cases closes_autoclose state.multi accepted refusal with
      | closed lets attached deferred source same =>
        rw [if_pos lets] at keeps
        rcases before with has | named
        · cases keeps.1.symm.trans has
        · exact absurd named keeps.2
      | refused holds attached deferred source raised =>
        have sourceKept : SourceKept { state with multi := state.multi.autoclose accepted refusal } := by
          unfold SourceKept
          rw [performing]
          exact Or.inr ⟨refusal, raised⟩
        rw [holds, if_neg Bool.false_ne_true] at keeps
        rcases before with has | named
        · rcases keeps with stays | named
          · refine .queued (Or.inr ?_)
            obtain ⟨generation, mem⟩ := hasEasy_iff.mp has
            refine hasEasy_iff.mpr ⟨generation, ?_⟩
            show _ ∈ (state.multi.autoclose accepted refusal).attached
            rw [attached]
            have parts : (easy, generation) ∈ (state.multi.attached.takeWhile fun transfer => accepted transfer.1) ++
                state.multi.attached.dropWhile fun transfer => accepted transfer.1 := by
              rw [List.takeWhile_append_dropWhile]
              exact mem
            exact (List.mem_append.mp parts).resolve_left fun removed =>
              stays (List.mem_map_of_mem (f := Prod.fst) removed)
          · exact .source sourceKept (source.trans named)
        · exact .source sourceKept (source.trans named)

theorem kept_goesOn {outcome : Outcome} (kept : Kept state) (driven : Driven state)
    (performing : state.driver = .performing) (point : state.multi.point = .ended outcome) :
    Kept (state.goesOn outcome) := by
  have atPoint := driven.shared.atPoint
  rw [point] at atPoint
  intro easy waiter found awaits
  obtain ⟨before, source⟩ := awaits_release found awaits
  cases kept easy waiter before awaits with
  | queued queued => exact .queued queued
  | source deferred same =>
    refine .source ?_ same
    unfold SourceKept at deferred
    rw [performing] at deferred
    cases outcome with
    | raised exception => trivial
    | returned =>
      rcases deferred with deferred | ⟨exception, ended⟩
      · exact deferred
      · cases point.symm.trans ended
  | completed performs completed =>
    rcases source with same | uncompleted
    · refine .source ?_ same
      cases outcome with
      | raised exception => trivial
      | returned => exact atPoint.2 (same ▸ nofun)
    · cases completed.symm.trans uncompleted
  | calling mode final completion performs point' same registered => cases point.symm.trans point'

/-! ## Performing -/

/-- While it performs the driver minds the source of the deferred exception, the completed waiters,
and the one whose `on_complete` runs. -/
theorem Minded.performing (minded : Minded state easy waiter) (performs : state.driver = .performing)
    (runs : ∀ outcome, state.multi.point ≠ .ended outcome) :
    Queued state easy ∨ (state.multi.deferredException ≠ none ∧
      state.multi.deferredExceptionSourceId = some easy) ∨ waiter.completed = true ∨
        ∃ mode final completion, state.multi.point = .callbacks mode final completion ∧
          completion.transfer.1 = easy ∧ state.callbackWaiter = some waiter.registration := by
  cases minded with
  | queued queued => exact Or.inl queued
  | source kept same =>
    unfold SourceKept at kept
    rw [performs] at kept
    rcases kept with deferred | ⟨exception, ended⟩
    · exact Or.inr (Or.inl ⟨deferred, same⟩)
    · exact absurd ended (runs _)
  | completed _ completed => exact Or.inr (Or.inr (Or.inl completed))
  | calling mode final completion _ point same registered =>
    exact Or.inr (Or.inr (Or.inr ⟨mode, final, completion, point, same, registered⟩))

theorem Minded.source_of_performing (performs : state.driver = .performing)
    (source : state.multi.deferredException ≠ none ∧
      state.multi.deferredExceptionSourceId = some easy) : Minded state easy waiter := by
  refine .source ?_ source.2
  unfold SourceKept
  rw [performs]
  exact Or.inl source.1

theorem kept_drive {multi : Perform.State} (kept : Kept state) (performing : state.driver = .performing)
    (drives : Drives state.multi multi) : Kept { state with multi := multi } := by
  intro easy waiter found awaits
  have runs : (∀ outcome, state.multi.point ≠ .ended outcome) ∧
      ∀ mode final completion, state.multi.point ≠ .callbacks mode final completion := by
    rcases drives.from_loop with ⟨mode, point⟩ | ⟨mode, point⟩ <;>
      · rw [point]
        exact ⟨nofun, nofun⟩
  rcases (kept easy waiter found awaits).performing performing runs.1 with
    queued | source | completed | ⟨mode, final, completion, point, -⟩
  · exact .queued (queued.mono (List.Subset.refl _) (drives.attached ▸ List.Subset.refl _))
  · refine .source_of_performing performing ?_
    show multi.deferredException ≠ none ∧ multi.deferredExceptionSourceId = some easy
    rw [drives.deferred, drives.source]
    exact source
  · exact .completed (Or.inl performing) completed
  · exact (runs.2 _ _ _ point).elim

theorem kept_blockYielded {multi : Perform.State} {raised : Option RubyException} (kept : Kept state)
    (yielding : state.driver = .yielding)
    (steps : Perform.step state.multi (.blockEnd raised) = some multi) :
    Kept { state with
      multi := multi
      driver := .performing } := by
  obtain ⟨-, same, -⟩ := blockEnd_step steps
  rw [same]
  intro easy waiter found awaits
  cases kept easy waiter found awaits with
  | queued queued => exact .queued queued
  | source kept source =>
    unfold SourceKept at kept
    rw [yielding] at kept
    exact .source_of_performing rfl ⟨kept, source⟩
  | completed _ completed => exact .completed (Or.inl rfl) completed
  | calling mode final completion performs => cases yielding.symm.trans performs

/-- A source stays one. -/
theorem Stashes.source_kept {multi multi' : Perform.State} {other : ObjectId}
    {exception : Option RubyException} (stashes : Stashes multi multi' other exception)
    (source : multi.deferredException ≠ none ∧ multi.deferredExceptionSourceId = some easy) :
    multi'.deferredException ≠ none ∧ multi'.deferredExceptionSourceId = some easy := by
  rw [stashes.deferred, stashes.source, if_neg fun stashed => source.1 stashed.1]
  obtain ⟨first, same⟩ := Option.ne_none_iff_exists'.mp source.1
  rw [same]
  exact ⟨nofun, source.2⟩

/-- Another handle is let go. -/
theorem hasEasy_erase {multi : Perform.State} {transfer : Transfer} (has : multi.hasEasy easy = true)
    (other : transfer.1 ≠ easy) {multi' : Perform.State}
    (attached : multi'.attached = multi.attached.erase transfer) : multi'.hasEasy easy = true := by
  obtain ⟨generation, mem⟩ := hasEasy_iff.mp has
  refine hasEasy_iff.mpr ⟨generation, ?_⟩
  rw [attached]
  refine (List.mem_erase_of_ne fun same => other ?_).mpr mem
  rw [← same]

theorem kept_readInfo {multi : Perform.State} {early late : Option RubyException} (kept : Kept state)
    (performing : state.driver = .performing)
    (point : ∃ mode final, state.multi.point = .reading mode final)
    (reads : Reads state.multi early late multi)
    (own : early = none → late ≠ none → ∀ transfer ∈ state.multi.messages.head?,
      Unqueued state transfer.1 → OwnDeferred state transfer.1) :
    Kept (state.reads multi) := by
  obtain ⟨mode, final, point⟩ := point
  intro easy waiter found awaits
  change state.waiters.get easy = some waiter at found
  have minded := (kept easy waiter found awaits).performing performing (by simp [point])
  have calls : ∀ mode final completion, state.multi.point ≠ .callbacks mode final completion := by
    simp [point]
  cases reads with
  | ends mode final messages attached same =>
    rcases minded with queued | source | completed | ⟨_, _, _, here, -⟩
    · exact .queued (queued.mono (List.Subset.refl _) (same ▸ List.Subset.refl _))
    · exact .source_of_performing performing (same ▸ source)
    · exact .completed (Or.inl performing) completed
    · exact (calls _ _ _ here).elim
  | raises exception deferred messages idle same =>
    rcases minded with queued | source | completed | ⟨_, _, _, here, -⟩
    · exact .queued (queued.mono (List.Subset.refl _) (same ▸ List.Subset.refl _))
    · refine .source ?_ (same ▸ source.2)
      have performs : (state.reads multi).driver = .performing := performing
      unfold SourceKept
      rw [performs]
      right
      show ∃ exception, multi.point = .ended (.raised exception)
      rw [same]
      exact ⟨exception, rfl⟩
    · exact .completed (Or.inl performing) completed
    · exact (calls _ _ _ here).elim
  | early exception transfer rest messages raised stashes =>
    rcases minded with queued | source | completed | ⟨_, _, _, here, -⟩
    · exact .queued (queued.mono (List.Subset.refl _) (stashes.attached ▸ List.Subset.refl _))
    · exact .source_of_performing performing (stashes.source_kept source)
    · exact .completed (Or.inl performing) completed
    · exact (calls _ _ _ here).elim
  | late exception transfer rest messages lets raised stashes =>
    rcases minded with (pending | has) | source | completed | ⟨_, _, _, here, -⟩
    · exact .queued (Or.inl pending)
    · by_cases this : transfer.1 = easy
      · by_cases pending : easy ∈ state.pending
        · exact .queued (Or.inl pending)
        · have first : transfer ∈ state.multi.messages.head? := by
            rw [messages]
            rfl
          have unqueued : Unqueued state transfer.1 := this ▸ ⟨⟨waiter, found, awaits⟩, pending⟩
          have owned := own lets (raised ▸ nofun) transfer first unqueued
          exact .source_of_performing performing (this ▸ stashes.named nofun owned)
      · exact .queued (Or.inr (hasEasy_erase has this stashes.attached))
    · exact .source_of_performing performing (stashes.source_kept source)
    · exact .completed (Or.inl performing) completed
    · exact (calls _ _ _ here).elim
  | callbacks mode final transfer rest messages lets stashes =>
    rcases minded with (pending | has) | source | completed | ⟨_, _, _, here, -⟩
    · exact .queued (Or.inl pending)
    · by_cases this : transfer.1 = easy
      · refine .calling mode final _ performing stashes.point this ?_
        rw [reads_callbackWaiter stashes.point]
        show (state.waiters.get transfer.1).map Waiter.registration = _
        rw [this, found]
        rfl
      · exact .queued (Or.inr (hasEasy_erase has this stashes.attached))
    · exact .source_of_performing performing (stashes.source_kept source)
    · exact .completed (Or.inl performing) completed
    · exact (calls _ _ _ here).elim

/-! ## The end of the callbacks -/

/-- Where `on_complete` raises, the callbacks raise, and an exception is stashed. -/
theorem stashed_ne_none {completion : Completion} {complete status : Option RubyException}
    (raises : complete ≠ none) :
    stashed completion (raisedBy completion.callbackError complete status) ≠ none := by
  obtain ⟨exception, same⟩ := Option.ne_none_iff_exists'.mp raises
  have raised : raisedBy completion.callbackError complete status ≠ none := by
    unfold raisedBy
    rw [same]
    dsimp only
    split
    · cases status <;> simp
    · simp
  obtain ⟨exception', same'⟩ := Option.ne_none_iff_exists'.mp raised
  rw [same']
  dsimp only [stashed]
  split <;> nofun

/-- The waiter of the handle whose callbacks end is completed where its `on_complete` raises nothing,
and no other waiter changes. -/
theorem completes_get {completion : Completion} {complete status : Option RubyException}
    (found : (state.completes completion complete status).waiters.get easy = some waiter) :
    ∃ before, state.waiters.get easy = some before ∧ waiter.registration = before.registration ∧
      waiter.awaits = before.awaits ∧ (before.completed = true → waiter.completed = true) ∧
      (completion.transfer.1 = easy → state.callbackWaiter = some before.registration →
        complete = none → waiter.completed = true) := by
  unfold State.completes at found
  split at found
  · obtain ⟨before, get, same⟩ := Option.map_eq_some_iff.mp (Table.get_mapValues.symm.trans found)
    refine ⟨before, get, ?_⟩
    split at same
    · rw [← same]
      exact ⟨rfl, rfl, fun _ => rfl, fun _ _ _ => rfl⟩
    · rename_i differs
      rw [← same]
      exact ⟨rfl, rfl, id, fun here _ none => absurd ⟨here.symm, none⟩ differs⟩
  · rename_i other
    refine ⟨waiter, found, rfl, rfl, id, fun here registered _ => ?_⟩
    unfold State.callbacksOf at other
    rw [here, found] at other
    exact absurd (decide_eq_true registered) other

theorem kept_callbacks {mode : Mode} {final : Bool} {completion : Completion}
    {complete status : Option RubyException} (kept : Kept state)
    (performing : state.driver = .performing)
    (point : state.multi.point = .callbacks mode final completion)
    (subset : state.multi.attached ⊆ completion.attachedSnapshot)
    (own : complete ≠ none → state.callbacksOf completion.transfer.1 = true →
      Unqueued state completion.transfer.1 → OwnDeferred state completion.transfer.1) :
    Kept { state.completes completion complete status with
      multi := { state.multi with point := .reading mode final }.callbacksEnd completion
        (raisedBy completion.callbackError complete status) fun _ => true } := by
  have stashes := @stashes_callbacksEnd { state.multi with point := .reading mode final } completion
    (raisedBy completion.callbackError complete status) (fun _ => true) subset
  rw [completes_same]
  intro easy waiter found awaits
  obtain ⟨before, get, registration, same, completed, completes⟩ := completes_get found
  have waits : before.awaits = true := same.symm.trans awaits
  rcases (kept easy before get waits).performing performing (by simp [point]) with
    queued | source | already | ⟨_, _, completion', here, this, registered⟩
  · exact .queued (queued.mono (List.Subset.refl _) (stashes.attached ▸ List.Subset.refl _))
  · exact .source_of_performing performing (stashes.source_kept source)
  · exact .completed (Or.inl performing) (completed already)
  · cases point.symm.trans here
    cases raises : complete with
    | none => exact .completed (Or.inl performing) (completes this registered raises)
    | some exception =>
      by_cases pending : easy ∈ state.pending
      · exact .queued (Or.inl pending)
      · have calls : state.callbacksOf completion.transfer.1 = true := by
          unfold State.callbacksOf
          rw [this, get]
          exact decide_eq_true registered
        have unqueued : Unqueued state completion.transfer.1 :=
          this ▸ ⟨⟨before, get, waits⟩, pending⟩
        have owned := own (raises ▸ nofun) calls unqueued
        rw [← raises, ← this]
        exact .source_of_performing performing
          (stashes.named (stashed_ne_none (raises ▸ nofun)) owned)

/-! ## The end of the loop -/

theorem kept_driverRaises {exception : RubyException}
    (minds : ∀ easy waiter, state.waiters.get easy = some waiter → waiter.awaits = true →
      Queued state easy ∨ state.multi.deferredExceptionSourceId = some easy ∧
        exception.isStandardError = true) : Kept (state.driverRaises exception) := by
  unfold State.driverRaises
  split
  · rw [releaseError_same]
    refine kept_driverEnds fun easy waiter found awaits => ?_
    obtain ⟨released, other⟩ := awaits_releaseError found awaits
    obtain ⟨before, -⟩ := awaits_release released awaits
    rcases minds easy waiter before awaits with queued | ⟨source, -⟩
    · exact queued
    · exact absurd source other
  · rename_i unrescued
    refine kept_driverEnds fun easy waiter found awaits => ?_
    rcases minds easy waiter found awaits with queued | ⟨-, standard⟩
    · exact queued
    · exact absurd standard unrescued

theorem kept_loopRaises {exception : RubyException} (kept : Kept state)
    (raising : state.driver = .raising exception)
    (rescues : ∀ easy, state.multi.deferredExceptionSourceId = some easy → Unqueued state easy →
      state.multi.hasEasy easy = false → rescued stopIteration exception = true) :
    Kept (state.loopRaises stopIteration exception) := by
  have minds : ∀ easy waiter, state.waiters.get easy = some waiter → waiter.awaits = true →
      Queued state easy ∨ state.multi.deferredExceptionSourceId = some easy ∧
        rescued stopIteration exception = true := by
    intro easy waiter found awaits
    by_cases queued : Queued state easy
    · exact Or.inl queued
    · obtain ⟨pending, has⟩ := not_or.mp queued
      cases kept easy waiter found awaits with
      | queued queued' => exact absurd queued' queued
      | source _ same =>
        exact Or.inr ⟨same, rescues easy same ⟨⟨waiter, found, awaits⟩, pending⟩ (by simpa using has)⟩
      | completed performs completed =>
        rw [raising] at performs
        rcases performs with no | no <;> cases no
      | calling mode final completion performs => cases raising.symm.trans performs
  unfold State.loopRaises
  split
  · rename_i ends
    refine kept_driverEnds fun easy waiter found awaits => ?_
    rcases minds easy waiter found awaits with queued | ⟨-, rescued⟩
    · exact queued
    · simp [Scheduler.rescued, ends] at rescued
  · refine kept_driverRaises fun easy waiter found awaits => ?_
    refine (minds easy waiter found awaits).imp id fun ⟨source, rescued⟩ => ⟨source, ?_⟩
    exact (Bool.and_eq_true _ _ ▸ rescued).1

/-! ## Runs -/

/-- No waiter is lost in a step. The deferred exception is not another handle's where a handle's
second flush raises, or its `on_complete`, unless nobody waits for that handle or it is pending once
more. Where the multi is closed, the same goes for the handles that are still attached and the one whose exception is
deferred, unless they are completed. An exception that leaves the driver's loop is rescued where the waiter of the
exception deferred last still waits and its handle is not queued. -/
def LosesNone (stopIteration : ObjectId → Bool) (state : State) : Event → Prop
  | .readInfo early late => early = none → late ≠ none →
      ∀ transfer ∈ state.multi.messages.head?, Unqueued state transfer.1 →
        OwnDeferred state transfer.1
  | .callbacks complete _ => ∀ mode final completion,
      state.multi.point = .callbacks mode final completion → complete ≠ none →
        state.callbacksOf completion.transfer.1 = true → Unqueued state completion.transfer.1 →
          OwnDeferred state completion.transfer.1
  | .autoclose accepted _ => ∀ easy, Unqueued state easy → ∀ waiter ∈ state.waiters.get easy,
      waiter.completed = false → KeptByClosing state accepted easy
  | .rescues => ∀ exception, state.driver = .raising exception →
      ∀ easy, state.multi.deferredExceptionSourceId = some easy → Unqueued state easy →
        state.multi.hasEasy easy = false → rescued stopIteration exception = true
  | _ => True

theorem kept_step {event : Event} (driven : Driven state) (kept : Kept state)
    (ok : LosesNone stopIteration state event) (steps : step stopIteration state event = some after) :
    Kept after := by
  cases event with
  | register easy =>
    obtain ⟨-, same⟩ := step_register steps
    rw [same]
    exact kept_register kept
  | check easy =>
    obtain ⟨-, waiter, -, same⟩ := step_check steps
    rw [same]
    exact kept_check kept
  | leave easy =>
    obtain ⟨-, same⟩ := step_leave steps
    rw [same]
    exact kept_leave kept
  | interrupt easy exception =>
    obtain ⟨-, same⟩ := step_interrupt steps
    rw [same]
    exact kept_ends kept
  | startYielded =>
    obtain ⟨starting, driver, -, same⟩ := step_startYielded steps
    rw [same]
    exact fun easy waiter found awaits =>
      .queued ((kept easy waiter found awaits).queued_of_idle (Or.inr starting))
  | driverInterrupted exception =>
    obtain ⟨starting, same⟩ := step_driverInterrupted steps
    rw [same]
    exact kept_driverRaises fun easy waiter found awaits =>
      Or.inl ((kept easy waiter found awaits).queued_of_idle (Or.inr starting))
  | drain replies =>
    obtain ⟨looping, same⟩ := step_drain steps
    rw [same]
    exact kept_drain kept looping
  | enter refused mode =>
    obtain ⟨drained, same⟩ := step_enter steps
    rw [same]
    exact kept_enter kept driven drained
  | drive event =>
    obtain ⟨performing, among, multi, drives, same⟩ := step_drive steps
    rw [same]
    exact kept_drive kept performing (drives_step among drives)
  | readInfo early late =>
    obtain ⟨performing, multi, read, same⟩ := step_readInfo steps
    obtain ⟨point, reads⟩ := reads_step driven.shared.counted read
    have flushed : Kept (state.flushes early late) := by
      rw [flushes_same]
      exact fun easy waiter found awaits =>
        (kept easy waiter found awaits).same rfl (List.Subset.refl _) rfl rfl
    rw [flushes_same] at flushed same
    rw [same]
    exact kept_readInfo flushed performing point reads ok
  | callbacks complete status =>
    obtain ⟨performing, mode, final, completion, point, same⟩ := step_callbacks steps
    have atPoint := driven.shared.atPoint
    rw [point] at atPoint
    rw [same]
    exact kept_callbacks kept performing point atPoint.2 (ok mode final completion point)
  | block replies =>
    obtain ⟨performing, point, same⟩ := step_block steps
    rw [same]
    exact kept_block kept performing point
  | blockYielded raised =>
    obtain ⟨yielding, multi, ended, same⟩ := step_blockYielded steps
    rw [same]
    exact kept_blockYielded kept yielding ended
  | autoclose accepted refusal =>
    obtain ⟨performing, point, same⟩ := step_autoclose steps
    rw [same]
    exact kept_autoclose kept performing point ok
  | goesOn =>
    obtain ⟨performing, outcome, point, same⟩ := step_goesOn steps
    rw [same]
    exact kept_goesOn kept driven performing point
  | rescues =>
    obtain ⟨exception, raising, same⟩ := step_rescues steps
    rw [same]
    exact kept_loopRaises kept raising (ok exception raising)

theorem kept_fresh : Kept fresh := fun _ _ found => nomatch found

/-- In every run whose steps meet the condition no waiter is lost. -/
theorem noLostWaiter_run (stopIteration : ObjectId → Bool) (state : State)
    (reached : Reached (step stopIteration) (LosesNone stopIteration) fresh state) :
    NoLostWaiter state := by
  have kept := reached.invariant_of (fun _ before => reached_driven before) kept_fresh
    fun _ _ _ driven kept ok steps => kept_step driven kept ok steps
  exact kept.noLostWaiter

/-- Two fibers register, a body callback of the first raises, and both handles complete. -/
def oneRaises : List Event := [.register 1, .register 2, .startYielded, .startYielded,
  .drain fun _ => none, .enter (fun _ => none) .fdset,
  .drive (.dataCallbackRaises 1 (.raised 9 true)), .drive (.finish (1, 1)), .drive (.finish (2, 1)),
  .drive .driven, .readInfo none none, .callbacks none none, .readInfo none none,
  .callbacks none none, .readInfo none none, .goesOn]

/-- The driver rescues the exception, gives it to the first fiber, and stops. -/
theorem noLostWaiter_run_oneRaises : ∃ state after,
    runSteps (step fun _ => false) fresh oneRaises = some state ∧
      step (fun _ => false) state .rescues = some after ∧ after.driver = .stopped ∧
        (after.waiters.get 1).bind Waiter.error = some (.raised 9 true) ∧ NoLostWaiter after := by
  have ends : (runSteps (step fun _ => false) fresh oneRaises).map (fun state =>
      (state.driver, (step (fun _ => false) state .rescues).map fun after =>
        (after.driver, (after.waiters.get 1).bind Waiter.error))) =
      some (.raising (.raised 9 true), some (.stopped, some (.raised 9 true))) := by decide +kernel
  obtain ⟨state, ran, seen⟩ := Option.map_eq_some_iff.mp ends
  obtain ⟨raising, rescues⟩ := Prod.mk.inj seen
  obtain ⟨after, steps, seen⟩ := Option.map_eq_some_iff.mp rescues
  obtain ⟨stopped, given⟩ := Prod.mk.inj seen
  have meets : RunOk (step fun _ => false) (LosesNone fun _ => false) fresh oneRaises := by
    apply RunOk.of_forall
    simp [oneRaises, LosesNone]
  have ok : LosesNone (fun _ => false) state .rescues := by
    intro exception raises easy _ _ _
    cases raising.symm.trans raises
    rfl
  exact ⟨state, after, ran, steps, stopped, given,
    noLostWaiter_run _ after (.next .rescues (Reached.run .start meets ran) ok steps)⟩

/-- Two fibers register, their handles complete together, and the `on_complete` of both raise. -/
def bothRaise : List Event := [.register 1, .register 2, .startYielded, .startYielded,
  .drain fun _ => none, .enter (fun _ => none) .fdset, .drive (.finish (1, 1)), .drive (.finish (2, 1)),
  .drive .driven, .readInfo none none, .callbacks (some (.raised 8 true)) none, .readInfo none none,
  .callbacks (some (.raised 9 true)) none, .readInfo none none, .goesOn, .rescues]

/-- The second fiber is blocked, and nobody will wake it. -/
theorem bothRaise_losesWaiter : ∃ state,
    runSteps (step fun _ => false) fresh bothRaise = some state ∧ ¬NoLostWaiter state := by
  have ends : (runSteps (step fun _ => false) fresh bothRaise).map (fun state =>
      (state.driver, state.waiters.get 2, state.error, state.pending, state.multi.hasEasy 2)) =
        some (.stopped, some ⟨1, false, false, none⟩, none, [], false) := by decide +kernel
  obtain ⟨state, ran, seen⟩ := Option.map_eq_some_iff.mp ends
  simp only [Prod.mk.injEq] at seen
  obtain ⟨stopped, waiter, error, pending, detached⟩ := seen
  refine ⟨state, ran, fun noLost => ?_⟩
  rcases noLost stopped 2 _ waiter rfl rfl error with mem | has
  · rw [pending] at mem
    cases mem
  · cases detached.symm.trans has

end Curb.Scheduler

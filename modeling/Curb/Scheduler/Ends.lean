import Mathlib.Data.Prod.Lex
import Curb.Scheduler.Deferring
import Curb.Scheduler.Once
import Curb.Scheduler.Returned

/-!
# No fiber waits forever

From every state that a run reaches in which only callbacks raise, the driver can go on until it stops,
and every fiber that performs can then leave: nothing more has to raise, and nobody has to perform anew.
-/

namespace Curb.Scheduler
open Curb.Misc Curb.Ruby
open Curb.Perform (RubyException Outcome Mode Point Completion Transfer)

variable {stopIteration : ObjectId → Bool} {state after : State} {easy : ObjectId} {waiter : Waiter}
  {multi multi' : Perform.State}

/-- Nothing raises any more, and no perform begins. -/
def Onward (state : State) (event : Event) : Prop :=
  Quiet state event ∧ ∀ easy, event ≠ .register easy

/-- The handles that are pending or attached. -/
def State.load (state : State) : ℕ := state.pending.length + state.multi.attached.length

/-- The loops go round once more where libcurl has let all handles go since it counted them. -/
def stale (multi : Perform.State) (rank : ℕ) : ℕ :=
  if multi.attached = [] ∧ multi.running ≠ 0 then rank + 20 else rank

/-- How far `perform` is from the next message, or from its end where no handle is attached. -/
def pointRank (multi : Perform.State) : ℕ :=
  match multi.point with
  | .idle => 0
  | .driving _ => if multi.attached = [] then 50 else 2
  | .reading _ final => if multi.messages = [] then stale multi (if final then 46 else 49) else 1
  | .callbacks .. => 80
  | .block _ final => stale multi (if final then 45 else 48)
  | .waiting _ => if multi.attached = [] then 63 else 43
  | .ended _ => 40

/-- How far the driver is. -/
def State.phase (state : State) : ℕ :=
  match state.driver with
  | .stopped => 0
  | .starting count => if count = state.pending.length then 30 else 31
  | .looping => 5
  | .drained => if state.multi.attached = [] ∧ state.pending ≠ [] then 32 else 4
  | .performing => pointRank state.multi
  | .yielding => pointRank state.multi - 1
  | .raising _ => 33

/-- A handle is let go, a pending handle is added, the driver gets further, or libcurl finishes a
transfer. -/
def State.rank (state : State) : ℕ ×ₗ ℕ ×ₗ ℕ ×ₗ ℕ :=
  toLex (state.load, toLex (state.pending.length, toLex (state.phase, state.multi.stillRunning)))

theorem rank_lt_of_load (fewer : after.load < state.load) : after.rank < state.rank :=
  Prod.Lex.toLex_lt_toLex.mpr (Or.inl fewer)

theorem rank_lt_of_pending (load : after.load ≤ state.load)
    (fewer : after.pending.length < state.pending.length) : after.rank < state.rank := by
  rcases load.lt_or_eq with less | same
  · exact rank_lt_of_load less
  · exact Prod.Lex.toLex_lt_toLex.mpr (Or.inr ⟨same, Prod.Lex.toLex_lt_toLex.mpr (Or.inl fewer)⟩)

theorem rank_lt_of_phase (pending : after.pending = state.pending)
    (attached : after.multi.attached = state.multi.attached) (further : after.phase < state.phase) :
    after.rank < state.rank := by
  have load : after.load = state.load := by rw [State.load, State.load, pending, attached]
  refine Prod.Lex.toLex_lt_toLex.mpr (Or.inr ⟨load, Prod.Lex.toLex_lt_toLex.mpr (Or.inr ⟨?_, ?_⟩)⟩)
  · exact congrArg List.length pending
  · exact Prod.Lex.toLex_lt_toLex.mpr (Or.inl further)

theorem rank_lt_of_running (pending : after.pending = state.pending)
    (attached : after.multi.attached = state.multi.attached) (phase : after.phase = state.phase)
    (fewer : after.multi.stillRunning < state.multi.stillRunning) : after.rank < state.rank := by
  have load : after.load = state.load := by rw [State.load, State.load, pending, attached]
  refine Prod.Lex.toLex_lt_toLex.mpr (Or.inr ⟨load, Prod.Lex.toLex_lt_toLex.mpr (Or.inr ⟨?_, ?_⟩)⟩)
  · exact congrArg List.length pending
  · exact Prod.Lex.toLex_lt_toLex.mpr (Or.inr ⟨phase, fewer⟩)

/-- The driver can take a step to a lower rank. -/
def Lowers (stopIteration : ObjectId → Bool) (state : State) : Prop :=
  ∃ event after, Onward state event ∧ step stopIteration state event = some after ∧ after.rank < state.rank

/-! ## The driver outside of perform -/

theorem lowers_starting {count : ℕ} (starting : state.driver = .starting count) :
    Lowers stopIteration state := by
  by_cases same : count = state.pending.length
  · refine ⟨.startYielded, { state with driver := .looping }, ⟨trivial, fun _ => Event.noConfusion⟩, ?_,
      rank_lt_of_phase rfl rfl ?_⟩
    · unfold step
      rw [starting]
      exact if_pos same
    · unfold State.phase
      rw [starting]
      dsimp only
      rw [if_pos same]
      decide
  · refine ⟨.startYielded, { state with driver := .starting state.pending.length },
      ⟨trivial, fun _ => Event.noConfusion⟩, ?_, rank_lt_of_phase rfl rfl ?_⟩
    · unfold step
      rw [starting]
      exact if_neg same
    · unfold State.phase
      rw [starting]
      dsimp only
      rw [if_neg same, if_pos rfl]
      decide

theorem lowers_looping (driven : Driven state) (looping : state.driver = .looping) :
    Lowers stopIteration state := by
  obtain ⟨multi, pending, same, adds⟩ := @drain_adds state (fun _ => none) fun _ => rfl
  have steps : step stopIteration state (.drain fun _ => none) = some (state.drain fun _ => none) := by
    dsimp only [step]
    rw [looping]
  refine ⟨.drain fun _ => none, _, ⟨fun _ => rfl, fun _ => Event.noConfusion⟩, steps, ?_⟩
  rw [same]
  by_cases stays : state.multi.deferredException ≠ none ∨ state.pending = []
  · obtain ⟨rfl, rfl⟩ := adds.stays stays
    refine rank_lt_of_phase rfl rfl ?_
    have busy : ¬(state.multi.attached = [] ∧ state.pending ≠ []) := by
      rintro ⟨idle, some⟩
      have atPoint := driven.shared.atPoint
      rw [driven.idle (looping ▸ Driver.noConfusion) (looping ▸ Driver.noConfusion)] at atPoint
      exact atPoint (stays.resolve_right some) idle
    unfold State.phase
    rw [looping]
    dsimp only
    rw [if_neg busy]
    decide
  · obtain ⟨calm, some⟩ := not_or.mp stays
    refine rank_lt_of_pending adds.fewer ?_
    show pending.length < state.pending.length
    rw [adds.empties (not_not.mp calm)]
    exact List.length_pos_of_ne_nil some

/-- The driver stops, or it starts anew because handles are pending. -/
theorem driverEnds_phase (state : State) :
    state.driverEnds.pending = state.pending ∧ state.driverEnds.multi = state.multi ∧
      (state.driverEnds.phase = 0 ∨ state.pending ≠ [] ∧ state.driverEnds.phase = 30) := by
  unfold State.driverEnds
  dsimp only
  split
  · rename_i restarts
    unfold State.ensureSchedulerDriver
    rw [if_pos rfl]
    exact ⟨rfl, rfl, Or.inr ⟨restarts.2, if_pos rfl⟩⟩
  · exact ⟨rfl, rfl, Or.inl rfl⟩

theorem lowers_drained (drained : state.driver = .drained) : Lowers stopIteration state := by
  have steps : step stopIteration state (.enter (fun _ => none) .fdset) =
      some (state.enter (fun _ => none) .fdset) := by
    dsimp only [step]
    rw [drained]
  refine ⟨.enter (fun _ => none) .fdset, _, ⟨fun _ => rfl, fun _ => Event.noConfusion⟩, steps, ?_⟩
  have phase : state.phase = if state.multi.attached = [] ∧ state.pending ≠ [] then 32 else 4 := by
    unfold State.phase
    rw [drained]
  rcases enter_cases (fun _ => rfl) state .fdset with ⟨idle, same⟩ | ⟨busy, same⟩
  · obtain ⟨pending, multi, ends⟩ := driverEnds_phase state
    rw [same]
    refine rank_lt_of_phase pending (congrArg Perform.State.attached multi) ?_
    rw [phase]
    rcases ends with stops | ⟨some, starts⟩
    · rw [stops]
      split <;> decide
    · rw [starts, if_pos ⟨idle, some⟩]
      decide
  · rw [same]
    refine rank_lt_of_phase rfl rfl ?_
    rw [phase, if_neg fun both => busy both.1]
    show (if state.multi.attached = [] then 50 else 2) < 4
    rw [if_neg busy]
    decide

theorem lowers_raising {exception : RubyException} (deferring : Deferring stopIteration state)
    (raising : state.driver = .raising exception) : Lowers stopIteration state := by
  have steps : step stopIteration state .rescues = some (state.loopRaises stopIteration exception) := by
    dsimp only [step]
    rw [raising]
  refine ⟨.rescues, _, ⟨trivial, fun _ => Event.noConfusion⟩, steps, ?_⟩
  rw [loopRaises_rescued (deferring.raising exception raising).1, releaseError_same]
  obtain ⟨pending, multi, ends⟩ := driverEnds_phase { state.releaseSchedulerWaiters with
    waiters := (state.releaseSchedulerWaiters.releaseSchedulerError exception).waiters
    error := (state.releaseSchedulerWaiters.releaseSchedulerError exception).error }
  refine rank_lt_of_phase pending (congrArg Perform.State.attached multi) ?_
  have phase : state.phase = 33 := by
    unfold State.phase
    rw [raising]
  rw [phase]
  rcases ends with stops | ⟨-, starts⟩
  · rw [stops]
    decide
  · rw [starts]
    decide

/-! ## The driver in perform -/

/-- A step of `perform` gets further. -/
theorem rank_lt_of_point (performing : state.driver = .performing) (driver : after.driver = .performing)
    (pending : after.pending = state.pending) (attached : after.multi.attached = state.multi.attached)
    (further : pointRank after.multi < pointRank state.multi) : after.rank < state.rank := by
  refine rank_lt_of_phase pending attached ?_
  unfold State.phase
  rw [performing, driver]
  exact further

theorem stale_le (multi : Perform.State) (rank : ℕ) :
    rank ≤ stale multi rank ∧ stale multi rank ≤ rank + 20 := by
  unfold stale
  split <;> omega

/-- What the loops count is the same. -/
theorem stale_lt {rank less : ℕ} (attached : multi'.attached = multi.attached)
    (running : multi'.running = multi.running) (lt : less < rank) : stale multi' less < stale multi rank := by
  rw [stale, stale, attached, running]
  split <;> omega

theorem pointRank_reading {mode : Mode} {final : Bool} (point : multi.point = .reading mode final) :
    pointRank multi ≤ 69 := by
  unfold pointRank
  rw [point]
  dsimp only
  split
  · refine (stale_le multi _).2.trans ?_
    cases final <;> decide
  · decide

theorem drive_steps {event : Perform.Event} (performing : state.driver = .performing)
    (among : drives event = true) (steps : Perform.step state.multi event = some multi) :
    step stopIteration state (.drive event) = some { state with multi := multi } := by
  dsimp only [step]
  rw [if_pos ⟨performing, among⟩, steps]
  rfl

/-- libcurl finishes a transfer. -/
theorem stillRunning_finish {transfer : Transfer} (mem : transfer ∈ multi.attached)
    (unfinished : transfer ∉ multi.finished) :
    (multi.finish transfer).stillRunning < multi.stillRunning := by
  have twice : (multi.attached.filter fun each => each ∉ multi.finished ++ [transfer]) =
      (multi.attached.filter fun each => each ∉ multi.finished).filter fun each => each ∉ [transfer] := by
    rw [List.filter_filter]
    refine List.filter_congr fun each _ => ?_
    rw [Bool.eq_iff_iff, Bool.and_eq_true, decide_eq_true_eq, decide_eq_true_eq, decide_eq_true_eq,
      List.mem_append, not_or, and_comm]
  show (multi.attached.filter fun each => each ∉ multi.finished ++ [transfer]).length < _
  rw [twice]
  refine List.length_filter_lt_length_iff_exists.mpr ⟨transfer, ?_, ?_⟩
  · exact List.mem_filter.mpr ⟨mem, decide_eq_true unfinished⟩
  · exact fun differs => of_decide_eq_true differs (List.mem_singleton.mpr rfl)

theorem lowers_driving {mode : Mode} (driven : Driven state) (deferring : Deferring stopIteration state)
    (performing : state.driver = .performing) (point : state.multi.point = .driving mode) :
    Lowers stopIteration state := by
  have here : pointRank state.multi = if state.multi.attached = [] then 50 else 2 := by
    unfold pointRank
    rw [point]
  by_cases finished : ∃ transfer ∈ state.multi.attached, transfer ∉ state.multi.finished
  · obtain ⟨transfer, mem, unfinished⟩ := finished
    have finishes : Perform.step state.multi (.finish transfer) = some (state.multi.finish transfer) := by
      dsimp only [Perform.step]
      rw [point]
      exact if_pos ⟨mem, unfinished⟩
    refine ⟨.drive (.finish transfer), _, ⟨trivial, fun _ => Event.noConfusion⟩,
      drive_steps performing rfl finishes, rank_lt_of_running rfl rfl ?_ (stillRunning_finish mem unfinished)⟩
    unfold State.phase pointRank Perform.State.finish
    dsimp only
    rw [performing, point]
  · have all : ∀ transfer ∈ state.multi.attached, transfer ∈ state.multi.finished := by
      intro transfer mem
      by_contra unfinished
      exact finished ⟨transfer, mem, unfinished⟩
    have none : state.multi.stillRunning = 0 := by
      unfold Perform.State.stillRunning
      rw [List.length_eq_zero_iff, List.filter_eq_nil_iff]
      exact fun transfer mem running => of_decide_eq_true running (all transfer mem)
    have driven' : Perform.step state.multi .driven = some { state.multi with
        running := state.multi.stillRunning
        point := .reading mode false } := by
      dsimp only [Perform.step]
      rw [point]
    refine ⟨.drive .driven, _, ⟨trivial, fun _ => Event.noConfusion⟩, drive_steps performing rfl driven',
      rank_lt_of_point performing performing rfl rfl ?_⟩
    rw [here]
    show (if state.multi.messages = [] then stale _ 49 else 1) < _
    by_cases idle : state.multi.attached = []
    · have told : state.multi.messages = [] :=
        List.subset_nil.mp (idle ▸ driven.shared.counted.subset)
      rw [if_pos told, if_pos idle, stale, if_neg fun both => both.2 none]
      decide
    · obtain ⟨transfer, mem⟩ := List.exists_mem_of_ne_nil _ idle
      have told : state.multi.messages ≠ [] :=
        List.ne_nil_of_mem (deferring.tame.told ▸ all transfer mem)
      rw [if_neg told, if_neg idle]
      decide

theorem lowers_waiting {mode : Mode} (performing : state.driver = .performing)
    (point : state.multi.point = .waiting mode) : Lowers stopIteration state := by
  have waited : Perform.step state.multi .waited = some { state.multi with point := .driving mode } := by
    dsimp only [Perform.step]
    rw [point]
  refine ⟨.drive .waited, _, ⟨trivial, fun _ => Event.noConfusion⟩, drive_steps performing rfl waited,
    rank_lt_of_point performing performing rfl rfl ?_⟩
  unfold pointRank
  rw [point]
  dsimp only
  split <;> decide

theorem lowers_reading {mode : Mode} {final : Bool} (driven : Driven state)
    (performing : state.driver = .performing) (point : state.multi.point = .reading mode final) :
    Lowers stopIteration state := by
  have counted := driven.shared.counted
  have flushes : state.flushes none none = state := by
    unfold State.flushes
    split
    · rename_i raised _
      cases raised
    · rfl
  have steps (multi : Perform.State) (read : Perform.step state.multi (.readInfo none none) = some multi) :
      step stopIteration state (.readInfo none none) = some (state.reads multi) := by
    dsimp only [step]
    rw [if_pos performing, read, flushes]
    rfl
  cases messages : state.multi.messages with
  | nil =>
    have read : Perform.step state.multi (.readInfo none none) =
        some (state.multi.raiseIfIdle mode final) := by
      dsimp only [Perform.step]
      rw [point, messages]
    have here : pointRank state.multi = stale state.multi (if final then 46 else 49) := by
      unfold pointRank
      rw [point, messages]
      exact if_pos rfl
    have block : pointRank { state.multi with point := .block mode final } < pointRank state.multi := by
      rw [here]
      refine stale_lt rfl rfl ?_
      cases final <;> decide
    have raises (exception : RubyException) : pointRank { state.multi with
        deferredException := none
        point := .ended (.raised exception) } < pointRank state.multi := by
      have most := (stale_le state.multi (if final then 46 else 49)).1
      rw [here]
      refine lt_of_lt_of_le ?_ most
      show 40 < _
      split <;> decide
    refine ⟨.readInfo none none, _, ⟨⟨rfl, rfl⟩, fun _ => Event.noConfusion⟩, steps _ read, ?_⟩
    unfold Perform.State.raiseIfIdle
    split
    · exact rank_lt_of_point performing performing rfl rfl block
    · split
      · exact rank_lt_of_point performing performing rfl rfl block
      · exact rank_lt_of_point performing performing rfl rfl (raises _)
  | cons transfer rest =>
    have read : Perform.step state.multi (.readInfo none none) =
        some ({ state.multi with messages := rest }.handleComplete transfer none none
          (.callbacks mode final)) := by
      dsimp only [Perform.step]
      rw [point, messages]
    refine ⟨.readInfo none none, _, ⟨⟨rfl, rfl⟩, fun _ => Event.noConfusion⟩, steps _ read,
      rank_lt_of_load ?_⟩
    have mem : transfer ∈ state.multi.attached := counted.subset (messages ▸ List.mem_cons_self)
    have attached : ({ state.multi with messages := rest }.handleComplete transfer none none
        (.callbacks mode final)).attached = state.multi.attached.erase transfer :=
      stashes_stashIfAny.attached
    refine Nat.add_lt_add_left (lt_of_eq_of_lt (congrArg List.length attached) ?_) state.pending.length
    rw [List.length_erase_of_mem mem]
    exact Nat.sub_lt (List.length_pos_of_mem mem) Nat.one_pos

theorem lowers_callbacks {mode : Mode} {final : Bool} {completion : Completion} (driven : Driven state)
    (performing : state.driver = .performing)
    (point : state.multi.point = .callbacks mode final completion) : Lowers stopIteration state := by
  have atPoint := driven.shared.atPoint
  rw [point] at atPoint
  have stashes := @stashes_callbacksEnd { state.multi with point := .reading mode final } completion
    (raisedBy completion.callbackError none none) (fun _ => true) atPoint.2
  have steps : step stopIteration state (.callbacks none none) =
      some { state.completes completion none none with
        multi := { state.multi with point := .reading mode final }.callbacksEnd completion
          (raisedBy completion.callbackError none none) fun _ => true } := by
    dsimp only [step, Perform.step]
    rw [performing, point]
    rfl
  refine ⟨.callbacks none none, _, ⟨⟨rfl, rfl⟩, fun _ => Event.noConfusion⟩, steps, ?_⟩
  rw [completes_same]
  refine rank_lt_of_point performing performing rfl stashes.attached ?_
  have before : pointRank state.multi = 80 := by
    unfold pointRank
    rw [point]
  rw [before]
  exact lt_of_le_of_lt (pointRank_reading stashes.point) (by decide)

/-- In the block pending handles are added, or the loops go on. -/
theorem lowers_block {mode : Mode} {final : Bool} (performing : state.driver = .performing)
    (point : state.multi.point = .block mode final) : Lowers stopIteration state := by
  obtain ⟨multi, pending, same, adds⟩ := @block_adds state (fun _ => none) fun _ => rfl
  have steps : step stopIteration state (.block fun _ => none) = some (state.block fun _ => none) := by
    dsimp only [step]
    rw [performing, point]
  refine ⟨.block fun _ => none, _, ⟨fun _ => rfl, fun _ => Event.noConfusion⟩, steps, ?_⟩
  rw [same]
  by_cases stays : state.multi.deferredException ≠ none ∨ state.pending = []
  · obtain ⟨rfl, rfl⟩ := adds.stays stays
    refine rank_lt_of_phase rfl rfl ?_
    have positive : 0 < pointRank state.multi := by
      unfold pointRank
      rw [point]
      dsimp only
      refine lt_of_lt_of_le ?_ (stale_le state.multi _).1
      split <;> decide
    unfold State.phase
    rw [performing]
    exact Nat.sub_lt positive Nat.one_pos
  · obtain ⟨calm, some⟩ := not_or.mp stays
    refine rank_lt_of_pending adds.fewer ?_
    show pending.length < state.pending.length
    rw [adds.empties (not_not.mp calm)]
    exact List.length_pos_of_ne_nil some

theorem lowers_yielding {mode : Mode} {final : Bool} (yielding : state.driver = .yielding)
    (point : state.multi.point = .block mode final) : Lowers stopIteration state := by
  obtain ⟨next, same, goes⟩ := blockEnd_point state.multi mode final
  have steps : step stopIteration state (.blockYielded none) = some { state with
      multi := state.multi.blockEnd mode final
      driver := .performing } := by
    dsimp only [step, Perform.step]
    rw [if_pos yielding, point]
    rfl
  refine ⟨.blockYielded none, _, ⟨rfl, fun _ => Event.noConfusion⟩, steps, ?_⟩
  rw [same]
  refine rank_lt_of_phase rfl rfl ?_
  have before : state.phase = stale state.multi (if final then 45 else 48) - 1 := by
    unfold State.phase pointRank
    rw [yielding, point]
  rw [before]
  show pointRank { state.multi with point := next } < _
  rcases goes with ⟨none, ends⟩ | ⟨some, goes⟩
  · have fresh (rank : ℕ) : stale state.multi rank = rank := if_neg fun both => both.2 none
    rw [fresh]
    rcases ends with ⟨rfl, rfl⟩ | ⟨rfl, rfl⟩
    · show (if state.multi.messages = [] then stale state.multi 46 else 1) < 47
      rw [fresh]
      split <;> decide
    · exact (by decide : 40 < 44)
  · by_cases idle : state.multi.attached = []
    · rw [stale, if_pos ⟨idle, some⟩]
      rcases goes with rfl | ⟨rfl, rfl⟩
      · show (if state.multi.attached = [] then 63 else 43) < _
        rw [if_pos idle]
        cases final <;> decide
      · show (if state.multi.attached = [] then 50 else 2) < 64
        rw [if_pos idle]
        decide
    · rw [stale, if_neg fun both => idle both.1]
      rcases goes with rfl | ⟨rfl, rfl⟩
      · show (if state.multi.attached = [] then 63 else 43) < _
        rw [if_neg idle]
        cases final <;> decide
      · show (if state.multi.attached = [] then 50 else 2) < 44
        rw [if_neg idle]
        decide

theorem lowers_ended {outcome : Outcome} (performing : state.driver = .performing)
    (point : state.multi.point = .ended outcome) : Lowers stopIteration state := by
  have steps : step stopIteration state .goesOn = some (state.goesOn outcome) := by
    dsimp only [step]
    rw [performing, point]
  refine ⟨.goesOn, _, ⟨trivial, fun _ => Event.noConfusion⟩, steps, rank_lt_of_phase rfl rfl ?_⟩
  have before : state.phase = 40 := by
    unfold State.phase pointRank
    rw [performing, point]
  rw [before]
  cases outcome with
  | returned => exact (by decide : 5 < 40)
  | raised exception => exact (by decide : 33 < 40)

/-- A driver that has not stopped gets further. -/
theorem lowers (recovers : Recovers stopIteration state) (runs : state.driver ≠ .stopped) :
    Lowers stopIteration state := by
  obtain ⟨driven, -, -, deferring⟩ := recovers
  cases driver : state.driver with
  | stopped => exact absurd driver runs
  | starting count => exact lowers_starting driver
  | looping => exact lowers_looping driven driver
  | drained => exact lowers_drained driver
  | yielding =>
    obtain ⟨mode, final, point⟩ := deferring.yields driver
    exact lowers_yielding driver point
  | raising exception => exact lowers_raising deferring driver
  | performing =>
    cases point : state.multi.point with
    | idle => exact absurd point (deferring.performs driver)
    | driving mode => exact lowers_driving driven deferring driver point
    | reading mode final => exact lowers_reading driven driver point
    | callbacks mode final completion => exact lowers_callbacks driven driver point
    | block mode final => exact lowers_block driver point
    | waiting mode => exact lowers_waiting driver point
    | ended outcome => exact lowers_ended driver point

theorem length_erase (found : state.waiters.get easy = some waiter) :
    (state.waiters.erase easy).entries.length < state.waiters.entries.length := by
  refine List.length_filter_lt_length_iff_exists.mpr ⟨(easy, waiter), ?_, ?_⟩
  · exact (Table.mem_iff_lookup state.waiters.nodup).mpr found
  · exact fun differs => of_decide_eq_true differs rfl

end Curb.Scheduler

import Mathlib.Data.Prod.Lex
import Curb.Multi.Http

/-!
# `Multi.http` returns

Whatever has happened, the transfers that are attached can complete one after the other, and
`Multi.http` returns then: each event below lowers a rank, first by what is left to transfer and
then by the distance to the next message, or to the end of `perform`.
-/

namespace Curb.Http
open Curb.Misc Curb.Ruby
open Curb.Perform (Mode Point Transfer)

variable {state after : State} {urls : List Config} {maxConnects : Nat}

/-! ## The rank -/

/-- The transfers that have not completed. -/
def State.pending (state : State) : Nat :=
  state.urlsWithConfig.length + state.multi.attached.length

/-- The steps to the next message where a transfer is attached; else those to the next `add`, or to the
end of `perform` where no configuration is left. -/
def State.stage (state : State) : Nat :=
  if state.multi.attached = [] then
    match state.multi.point with
    | .ended _ => 1
    | .block _ final =>
        if state.urlsWithConfig ≠ [] then 13 else if state.multi.running ≠ 0 then 17
        else if final then 9 else 11
    | .reading _ final =>
        if state.urlsWithConfig ≠ [] then 14 else if state.multi.running ≠ 0 then 18
        else if final then 10 else 12
    | .driving _ => 15
    | .waiting _ => 16
    | .callbacks .. => 19
    | .idle => if state.returned then 0 else 20
  else
    match state.multi.point with
    | .ended _ => 1
    | .reading .. => if state.multi.messages = [] then 6 else 1
    | .driving _ => if state.multi.messages = [] then 3 else 2
    | .waiting _ => 4
    | .block .. => 5
    | .callbacks .. => 19
    | .idle => if state.returned then 0 else 20

def State.rank (state : State) : Nat ×ₗ Nat := toLex (state.pending, state.stage)

theorem rank_lt_of_pending (lower : after.pending < state.pending) : after.rank < state.rank :=
  Prod.Lex.toLex_lt_toLex.mpr (Or.inl lower)

theorem rank_lt_of_stage (same : after.pending = state.pending) (lower : after.stage < state.stage) :
    after.rank < state.rank :=
  Prod.Lex.toLex_lt_toLex.mpr (Or.inr ⟨same, lower⟩)

/-- A multi that drives libcurl or waits is close to the next message. -/
theorem stage_le_of_drives (drives : ∃ mode, state.multi.point = .waiting mode ∨
    state.multi.point = .driving mode) :
    state.stage ≤ 16 ∧ (state.multi.attached ≠ [] → state.stage ≤ 4) := by
  obtain ⟨mode, point | point⟩ := drives
  · simp only [State.stage, point]
    by_cases attached : state.multi.attached = []
    · simp [attached]
    · simp [attached]
  · simp only [State.stage, point]
    by_cases attached : state.multi.attached = []
    · simp [attached]
    · by_cases messages : state.multi.messages = []
      · simp [attached, messages]
      · simp [attached, messages]

theorem stage_le_of_reads {mode : Mode} {final : Bool} (reads : state.multi.point = .reading mode final) :
    state.stage ≤ 18 := by
  simp only [State.stage, reads]
  split_ifs <;> omega

/-! ## An event for every point -/

/-- An event that lowers the rank. -/
def Progress (state : State) : Prop :=
  ∃ event after, step state event = some after ∧ after.rank < state.rank

/-- `perform` has ended: every configuration is transferred, and the call returns. -/
theorem progress_ended {outcome : Perform.Outcome} (inv : Inv urls maxConnects state)
    (point : state.multi.point = .ended outcome) : Progress state := by
  obtain ⟨rfl, drained⟩ := inv.ended outcome point
  let idle : State := { state with multi := { state.multi with point := .idle } }
  have performed : idle.performed = { idle with returned := true } := by
    unfold State.performed
    split
    · simp [State.consumeFreeHandles, idle, drained]
    · rfl
  refine ⟨.performed, idle.performed, ?_, ?_⟩
  · simp only [step, State.loop, Perform.step, point, Option.map_some]
    rfl
  · rw [performed]
    refine rank_lt_of_stage rfl ?_
    simp only [State.stage, idle, point]
    split <;> simp

theorem progress_idle (open_ : state.returned = false) (point : state.multi.point = .idle) :
    Progress state := by
  refine ⟨.perform .fdset, { state with multi := state.multi.performBegin .fdset }, ?_, ?_⟩
  · simp [step, open_, State.loop, Perform.step, point]
  · refine rank_lt_of_stage rfl (LE.le.trans_lt (stage_le_of_drives ⟨.fdset, Or.inr rfl⟩).1 ?_)
    simp only [State.stage, point, open_]
    split <;> simp

theorem progress_waiting {mode : Mode} (point : state.multi.point = .waiting mode) :
    Progress state := by
  refine ⟨.waited, { state with multi := { state.multi with point := .driving mode } }, ?_, ?_⟩
  · simp [step, State.loop, Perform.step, point]
  · refine rank_lt_of_stage rfl ?_
    simp only [State.stage, point]
    split
    · omega
    · split <;> omega

/-- libcurl finishes the first transfer, or it is called for the last time. -/
theorem progress_driving {mode : Mode} (inv : Inv urls maxConnects state)
    (point : state.multi.point = .driving mode) : Progress state := by
  by_cases messages : state.multi.messages = []
  · cases attached : state.multi.attached with
    | nil =>
      refine ⟨.driven, { state with multi := { state.multi with
        running := state.multi.stillRunning
        point := .reading mode false } }, ?_, rank_lt_of_stage rfl ?_⟩
      · simp [step, State.loop, Perform.step, point]
      · have stopped : state.multi.stillRunning = 0 := by
          rw [Perform.State.stillRunning, attached]
          rfl
        simp only [State.stage, point, attached, stopped]
        by_cases drained : state.urlsWithConfig = []
        · simp [drained]
        · simp [drained]
    | cons transfer rest =>
      have mem : transfer ∈ state.multi.attached := attached ▸ List.mem_cons_self
      have unfinished : transfer ∉ state.multi.finished := by
        rw [inv.multi.tables.finished, messages]
        exact List.not_mem_nil
      refine ⟨.finish transfer, { state with multi := state.multi.finish transfer }, ?_,
        rank_lt_of_stage rfl ?_⟩
      · simp [step, State.loop, Perform.step, point, mem, unfinished]
      · simp [State.stage, Perform.State.finish, point, attached, messages]
  · have attached : state.multi.attached ≠ [] := by
      intro none
      exact messages (List.subset_nil.mp (none ▸ inv.multi.tables.subset))
    refine ⟨.driven, { state with multi := { state.multi with
      running := state.multi.stillRunning
      point := .reading mode false } }, ?_, rank_lt_of_stage rfl ?_⟩
    · simp [step, State.loop, Perform.step, point]
    · simp [State.stage, point, attached, messages]

/-- A message is read, or there is none and the block of `perform` is called. -/
theorem progress_reading {mode : Mode} {final : Bool} (inv : Inv urls maxConnects state)
    (point : state.multi.point = .reading mode final) : Progress state := by
  cases messages : state.multi.messages with
  | nil =>
    have nothing : state.completes = state := by
      rw [State.completes, messages]
    refine ⟨.readInfo, { state with multi := { state.multi with point := .block mode final } }, ?_,
      rank_lt_of_stage rfl ?_⟩
    · simp only [step, nothing, State.loop, Perform.step, point, messages, Option.map_some]
      rw [raiseIfIdle_calm inv.calm, messages]
    · simp only [State.stage, point, messages]
      by_cases attached : state.multi.attached = []
      · simp only [attached, ↓reduceIte]
        split_ifs <;> omega
      · simp [attached]
  | cons transfer rest =>
    have mem : transfer ∈ state.multi.attached :=
      inv.multi.tables.subset (messages ▸ List.mem_cons_self)
    have nothing : ({ state.multi with messages := rest }.detach transfer).callbackError transfer.1 = none :=
      inv.quiet transfer.1
    let multi := { state.multi with messages := rest }.handleComplete transfer none none
      (.callbacks mode final)
    have attached : multi.attached = state.multi.attached.erase transfer := by
      show ({ state.multi with messages := rest }.handleComplete transfer none none _).attached = _
      rw [Perform.State.handleComplete]
      dsimp only
      rw [nothing]
      rfl
    have completes : state.completes = state.complete transfer.1 := by
      rw [State.completes, messages]
    refine ⟨.readInfo, { state.complete transfer.1 with multi := multi }, ?_, rank_lt_of_pending ?_⟩
    · have read : Perform.step (state.complete transfer.1).multi (.readInfo none none) = some multi := by
        simp only [State.complete, Perform.step, point, messages]
        rfl
      simp only [step, completes, State.loop, read, Option.map_some]
    · show state.urlsWithConfig.length + multi.attached.length <
        state.urlsWithConfig.length + state.multi.attached.length
      have shorter := List.length_erase_of_mem mem
      have some := List.length_pos_of_mem mem
      rw [attached]
      omega

theorem progress_callbacks {mode : Mode} {final : Bool} {completion : Perform.Completion}
    (inv : Inv urls maxConnects state) (point : state.multi.point = .callbacks mode final completion) :
    Progress state := by
  have quiet := inv.completing mode final completion point
  refine ⟨.callbacks, { state.onComplete completion.transfer.1 with
    multi := { state.multi with point := .reading mode final } }, ?_, rank_lt_of_stage rfl ?_⟩
  · simp only [step, State.loop, Perform.step, State.onComplete, point, Perform.State.callbacksEnd,
      quiet, Perform.State.stashIfAny, Option.map_some]
  · refine LE.le.trans_lt (stage_le_of_reads rfl) ?_
    simp only [State.stage, point]
    split <;> omega

/-! ## The block -/

/-- While libcurl runs, `perform` goes on after the block. -/
theorem blockEnd_running {multi : Perform.State} (mode : Mode) (final : Bool)
    (running : multi.running ≠ 0) :
    ∃ point mode', multi.blockEnd mode final = { multi with point := point } ∧
      (point = .waiting mode' ∨ point = .driving mode') := by
  unfold Perform.State.blockEnd Perform.State.loopHead
  cases final with
  | false => exact ⟨.waiting mode, mode, by simp [running], Or.inl rfl⟩
  | true =>
    cases mode with
    | fdset => exact ⟨.waiting .fdset, .fdset, by simp [running], Or.inl rfl⟩
    | socketAction => exact ⟨.driving .socketAction, .socketAction, by simp [running], Or.inr rfl⟩

/-- After it, the last messages are read, and `perform` returns. -/
theorem blockEnd_stopped {multi : Perform.State} (mode : Mode) (final : Bool)
    (stopped : multi.running = 0) :
    multi.blockEnd mode final =
      { multi with point := if final then .ended .returned else .reading mode true } := by
  unfold Perform.State.blockEnd Perform.State.loopHead
  cases final with
  | false => simp [stopped]
  | true => simp [stopped]

/-- The block starts a transfer where it can, and `perform` goes on. -/
theorem progress_block {mode : Mode} {final : Bool} (inv : Inv urls maxConnects state)
    (point : state.multi.point = .block mode final) : Progress state := by
  have atBlock := inv.multi.atPoint
  rw [point] at atBlock
  have bound := inv.multi.tables.bound
  rw [atBlock.2.1, List.length_nil] at bound
  have outside : inCallbacks state.multi.point = [] := by
    rw [point]
    rfl
  have next : ∃ next : State, (if state.refills then state.consumeFreeHandles else state) = next ∧
      next.multi.point = .block mode final ∧ next.pending = state.pending ∧
      (next.multi.running ≠ 0 ∧ next.multi.attached ≠ [] ∨
        next = state ∧ state.multi.attached = [] ∧ state.urlsWithConfig = []) := by
    have unstarted (nothing : state.freeHandles = [] ∨ state.urlsWithConfig = []) :
        state.multi.running ≠ 0 ∧ state.multi.attached ≠ [] ∨
          state = state ∧ state.multi.attached = [] ∧ state.urlsWithConfig = [] := by
      by_cases attached : state.multi.attached = []
      · refine Or.inr ⟨rfl, attached, ?_⟩
        by_contra left
        have lengths := inv.handles.length_eq
        rw [nothing.resolve_right left, attached, outside, List.length_range] at lengths
        have positive := inv.started left
        simp at lengths
        omega
      · have some := List.length_pos_iff.mpr attached
        exact Or.inl ⟨by omega, attached⟩
    by_cases refills : state.refills = true
    · obtain ⟨point', _⟩ := consumeFreeHandles_spec state
      rw [if_pos refills]
      rcases consumeFreeHandles_cases inv.toAccounted with ⟨nothing, same⟩ |
        ⟨_, left, running, urls', attached⟩
      · rw [same]
        exact ⟨state, rfl, point, rfl, unstarted nothing⟩
      · refine ⟨_, rfl, point'.trans point, ?_, Or.inl ⟨by omega, ?_⟩⟩
        · have some := List.length_pos_iff.mpr left
          rw [State.pending, State.pending, urls', attached, List.length_dropLast]
          omega
        · exact List.ne_nil_of_length_pos (by omega)
    · rw [if_neg refills]
      exact ⟨state, rfl, point, rfl, unstarted (Or.inr (inv.refills ((Bool.not_eq_true _).mp refills)))⟩
  obtain ⟨next, same, point', pending, goesOn⟩ := next
  have steps : step state .block = some { next with multi := next.multi.blockEnd mode final } := by
    simp only [step, point, same, State.loop, Perform.step, point', Option.map_some]
  refine ⟨.block, _, steps, ?_⟩
  by_cases running : next.multi.running = 0
  · -- the last round, or the one before it
    obtain ⟨rfl, attached, drained⟩ := goesOn.resolve_left fun busy => busy.1 running
    rw [blockEnd_stopped mode final running]
    refine rank_lt_of_stage rfl ?_
    simp only [State.stage, point, attached, drained, running]
    cases final with
    | false => simp
    | true => simp
  · obtain ⟨point'', mode', ends, drives⟩ := blockEnd_running mode final running
    rw [ends]
    refine rank_lt_of_stage pending ?_
    have close := @stage_le_of_drives { next with multi := { next.multi with point := point'' } }
      ⟨mode', drives⟩
    rcases goesOn with ⟨_, attached⟩ | ⟨rfl, attached, drained⟩
    · refine (close.2 attached).trans_lt ?_
      simp only [State.stage, point]
      split_ifs <;> omega
    · refine close.1.trans_lt ?_
      simp [State.stage, point, attached, drained, running]

/-! ## The result -/

theorem progress (inv : Inv urls maxConnects state) : state.returned = true ∨ Progress state := by
  cases open_ : state.returned with
  | true => exact Or.inl rfl
  | false =>
    refine Or.inr ?_
    cases point : state.multi.point with
    | idle => exact progress_idle open_ point
    | driving mode => exact progress_driving inv point
    | reading mode final => exact progress_reading inv point
    | callbacks mode final completion => exact progress_callbacks inv point
    | block mode final => exact progress_block inv point
    | waiting mode => exact progress_waiting point
    | ended outcome => exact progress_ended inv point

end Curb.Http

import Curb.Scheduler.LostWaiters
import Curb.Scheduler.Settled

/-!
# Runs in which only callbacks raise

What a callback raises is deferred until no handle is attached. Where nothing else raises and the driver
rescues what does, the multi is idle when the driver stops, and the exception has been given to a fiber
or to all of them.
-/

namespace Curb.Scheduler
open Curb.Misc Curb.Ruby
open Curb.Perform (RubyException Outcome Mode Point Completion Transfer)

variable {stopIteration : ObjectId → Bool} {state after : State} {easy : ObjectId} {waiter : Waiter}
  {multi multi' : Perform.State}

/-- libcurl has a message for each transfer it is done with, every exception is one that is rescued, and
`perform` raises where no handle is left. -/
structure Tame (stopIteration : ObjectId → Bool) (multi : Perform.State) : Prop where
  told : multi.finished = multi.messages
  deferred : ∀ exception ∈ multi.deferredException, rescued stopIteration exception = true
  kept : ∀ easy, ∀ exception ∈ multi.callbackError easy, rescued stopIteration exception = true
  completion : ∀ mode final completion, multi.point = .callbacks mode final completion →
    ∀ exception ∈ completion.callbackError, rescued stopIteration exception = true
  ended : ∀ exception, multi.point = .ended (.raised exception) →
    rescued stopIteration exception = true ∧ multi.attached = []

/-- No exception is on its way at this point. -/
def Plain (point : Point) : Prop :=
  (∀ mode final completion, point ≠ .callbacks mode final completion) ∧
    ∀ exception, point ≠ .ended (.raised exception)

/-- The multi is at a plain point with the same exceptions. -/
theorem Tame.plain (tame : Tame stopIteration multi) (told : multi'.finished = multi'.messages)
    (deferred : multi'.deferredException = multi.deferredException)
    (kept : multi'.callbackError = multi.callbackError) (plain : Plain multi'.point) :
    Tame stopIteration multi' := by
  refine ⟨told, ?_, ?_, fun mode final completion point => absurd point (plain.1 mode final completion),
    fun exception point => absurd point (plain.2 exception)⟩
  · rw [deferred]
    exact tame.deferred
  · rw [kept]
    exact tame.kept

/-- Where the loops go on behind the block. -/
theorem blockEnd_point (multi : Perform.State) (mode : Mode) (final : Bool) :
    ∃ point, multi.blockEnd mode final = { multi with point := point } ∧
      (multi.running = 0 ∧ (final = false ∧ point = .reading mode true ∨ final = true ∧ point = .ended .returned) ∨
        multi.running ≠ 0 ∧ (point = .waiting mode ∨ final = true ∧ point = .driving mode)) := by
  by_cases none : multi.running = 0
  · cases final with
    | false =>
      refine ⟨.reading mode true, ?_, Or.inl ⟨none, Or.inl ⟨rfl, rfl⟩⟩⟩
      exact if_neg (not_not.mpr none)
    | true =>
      refine ⟨.ended .returned, ?_, Or.inl ⟨none, Or.inr ⟨rfl, rfl⟩⟩⟩
      exact if_neg (not_not.mpr none)
  · cases final with
    | false => exact ⟨.waiting mode, if_pos none, Or.inr ⟨none, Or.inl rfl⟩⟩
    | true =>
      cases mode with
      | fdset => exact ⟨.waiting .fdset, (if_pos none).trans (if_pos none), Or.inr ⟨none, Or.inl rfl⟩⟩
      | socketAction =>
        exact ⟨.driving .socketAction, if_pos none, Or.inr ⟨none, Or.inr ⟨rfl, rfl⟩⟩⟩

/-- The pending handles are added, or an exception is deferred and none is. -/
structure Adds (state : State) (multi : Perform.State) (pending : List ObjectId) : Prop where
  point : multi.point = state.multi.point
  deferred : multi.deferredException = state.multi.deferredException
  callbackError : multi.callbackError = state.multi.callbackError
  finished : multi.finished = state.multi.finished
  messages : multi.messages = state.multi.messages
  stays : state.multi.deferredException ≠ none ∨ state.pending = [] →
    multi = state.multi ∧ pending = state.pending
  empties : state.multi.deferredException = none → pending = []
  fewer : pending.length + multi.attached.length ≤ state.pending.length + state.multi.attached.length

theorem add_tables (multi : Perform.State) (easy : ObjectId) :
    (multi.add easy true).callbackError = multi.callbackError ∧
      (multi.add easy true).finished = multi.finished ∧ (multi.add easy true).messages = multi.messages ∧
      (multi.add easy true).attached.length ≤ multi.attached.length + 1 := by
  unfold Perform.State.add
  split
  · exact ⟨rfl, rfl, rfl, Nat.le_succ _⟩
  · exact ⟨rfl, rfl, rfl, (List.length_append ..).le⟩

/-- None is added. -/
theorem adds_none (empty : state.multi.deferredException = none → state.pending = []) :
    Adds state state.multi state.pending :=
  ⟨rfl, rfl, rfl, rfl, rfl, fun _ => ⟨rfl, rfl⟩, empty, le_rfl⟩

theorem drainPending_adds {replies : ObjectId → Option RubyException}
    (quiet : ∀ easy, replies easy = none) (pending : List ObjectId) (state : State)
    (same : state.pending = pending) :
    ∃ multi rest, State.drainPending replies pending state = ({ state with
      multi := multi
      pending := rest }, none) ∧ Adds state multi rest := by
  induction pending generalizing state with
  | nil => exact ⟨state.multi, state.pending, rfl, adds_none fun _ => same⟩
  | cons easy rest ih =>
    by_cases deferred : state.multi.deferredException.isSome = true
    · refine ⟨state.multi, state.pending, if_pos deferred, adds_none fun calm => ?_⟩
      rw [calm] at deferred
      cases deferred
    · have calm := Option.not_isSome_iff_eq_none.mp deferred
      obtain ⟨point, deferred', -, -⟩ := add_keeps state.multi easy
      obtain ⟨callbackError, finished, messages, length⟩ := add_tables state.multi easy
      have has : (state.multi.add easy true).hasEasy easy = true := (hasEasy_add calm).mpr (Or.inr rfl)
      obtain ⟨multi, left, drained, adds⟩ := ih { state with
        multi := state.multi.add easy true
        pending := rest } rfl
      refine ⟨multi, left, ?_, adds.point.trans point, adds.deferred.trans deferred',
        adds.callbackError.trans callbackError, adds.finished.trans finished,
        adds.messages.trans messages, ?_, fun _ => adds.empties (deferred'.trans calm), ?_⟩
      · unfold State.drainPending
        rw [calm, quiet, ite_self]
        dsimp only [Option.isSome_none]
        rw [if_neg Bool.false_ne_true, if_pos has]
        exact drained
      · rintro (some | none)
        · exact absurd calm some
        · rw [same] at none
          cases none
      · have fewer := adds.fewer
        rw [same, List.length_cons]
        change left.length + multi.attached.length ≤
          rest.length + (state.multi.add easy true).attached.length at fewer
        omega

theorem drain_adds {replies : ObjectId → Option RubyException} (quiet : ∀ easy, replies easy = none) :
    ∃ multi pending, state.drain replies = { state with
      multi := multi
      pending := pending
      driver := .drained } ∧ Adds state multi pending := by
  obtain ⟨multi, rest, drained, adds⟩ := drainPending_adds quiet state.pending state rfl
  refine ⟨multi, rest, ?_, adds⟩
  unfold State.drain State.drainSchedulerPending
  rw [drained]

theorem block_adds {replies : ObjectId → Option RubyException} (quiet : ∀ easy, replies easy = none) :
    ∃ multi pending, state.block replies = { ({ state with
      multi := multi
      pending := pending } : State).releaseSchedulerWaiters with driver := .yielding } ∧
        Adds state multi pending := by
  obtain ⟨multi, rest, drained, adds⟩ := drainPending_adds quiet state.pending state rfl
  refine ⟨multi, rest, ?_, adds⟩
  unfold State.block State.drainSchedulerPending
  rw [drained]

theorem Adds.tame {pending : List ObjectId} (adds : Adds state multi pending)
    (tame : Tame stopIteration state.multi) (plain : Plain state.multi.point) :
    Tame stopIteration multi := by
  refine tame.plain ?_ adds.deferred adds.callbackError (adds.point ▸ plain)
  rw [adds.finished, adds.messages]
  exact tame.told

/-! ## The driver and the fibers -/

/-- What such a run keeps. -/
structure Deferring (stopIteration : ObjectId → Bool) (state : State) : Prop where
  tame : Tame stopIteration state.multi
  performs : state.driver = .performing → state.multi.point ≠ .idle
  yields : state.driver = .yielding → ∃ mode final, state.multi.point = .block mode final
  raising : ∀ exception, state.driver = .raising exception →
    rescued stopIteration exception = true ∧ state.multi.attached = []
  stopped : state.driver = .stopped →
    state.multi.attached = [] ∧ (state.error = none → state.pending = [])
  fibers : ∀ easy, (state.fiber easy).performs = true ↔ (state.waiters.get easy).isSome = true

/-- Where no handle is refused, the driver ends or performs. -/
theorem enter_cases {refused : ObjectId → Option RubyException} (quiet : ∀ easy, refused easy = none)
    (state : State) (mode : Mode) :
    state.multi.attached = [] ∧ state.enter refused mode = state.driverEnds ∨
      state.multi.attached ≠ [] ∧ state.enter refused mode = { state with
        multi := state.multi.performBegin mode
        driver := .performing } := by
  have nobody : state.refusal refused = none := by
    unfold State.refusal
    rw [List.findSome?_eq_none_iff]
    intro transfer _
    rw [quiet]
    rfl
  unfold State.enter
  split
  · exact Or.inl ⟨‹_›, rfl⟩
  · rw [nobody]
    exact Or.inr ⟨‹_›, rfl⟩

theorem loopRaises_rescued {exception : RubyException} (rescues : rescued stopIteration exception = true) :
    state.loopRaises stopIteration exception =
      (state.releaseSchedulerWaiters.releaseSchedulerError exception).driverEnds := by
  obtain ⟨standard, goesOn⟩ := (Bool.and_eq_true _ _).mp rescues
  unfold State.loopRaises State.driverRaises
  rw [if_neg (Bool.not_eq_true _ ▸ Bool.not_eq_true' _ ▸ goesOn), if_pos standard]

theorem Reads.point {early late : Option RubyException} (reads : Reads multi early late multi')
    (reading : ∃ mode final, multi.point = .reading mode final) : multi'.point ≠ .idle := by
  obtain ⟨mode, final, point⟩ := reading
  cases reads with
  | ends mode final messages kept same =>
    rw [same]
    exact Point.noConfusion
  | raises exception deferred messages idle same =>
    rw [same]
    exact Point.noConfusion
  | early exception transfer rest messages raised stashes =>
    rw [stashes.point]
    exact point ▸ Point.noConfusion
  | late exception transfer rest messages lets raised stashes =>
    rw [stashes.point]
    show multi.point ≠ .idle
    exact point ▸ Point.noConfusion
  | callbacks mode final transfer rest messages lets stashes =>
    rw [stashes.point]
    exact Point.noConfusion

/-- What is known of a state that such a run reaches. -/
structure Recovers (stopIteration : ObjectId → Bool) (state : State) : Prop where
  driven : Driven state
  settled : Settled state.multi
  kept : Kept state
  deferring : Deferring stopIteration state

end Curb.Scheduler

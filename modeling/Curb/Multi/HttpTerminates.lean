import Curb.Multi.HttpReturns

/-!
# `Multi.http` terminates

Where libcurl finishes every transfer and returns from every call, the call goes on no longer than it
takes to run the list, provided that `max_connects` lets it start a handle. With none, the loop around
`perform` waits for an empty list and starts nothing.
-/

namespace Curb.Http
open Curb.Misc Curb.Ruby
open Curb.Perform (Mode Point Transfer)

variable {state after : State} {urls : List Config} {maxConnects : Nat}

/-! ## What a step does -/

/-- A free handle is started, or nothing is. -/
structure Refilled (state next : State) : Prop where
  pending : next.pending = state.pending
  running : next.multi.running + state.multi.attached.length =
    next.multi.attached.length + state.multi.running
  messages : next.multi.messages = state.multi.messages

theorem refilled_consumeFreeHandles (inv : Accounted urls state) :
    Refilled state state.consumeFreeHandles := by
  rcases consumeFreeHandles_cases inv with ⟨-, same⟩ | ⟨-, left, running, urls', attached⟩
  · rw [same]
    exact ⟨rfl, Nat.add_comm .., rfl⟩
  · refine ⟨?_, by omega, (consumeFreeHandles_spec state).2.1⟩
    have some := List.length_pos_iff.mpr left
    rw [State.pending, State.pending, urls', attached, List.length_dropLast]
    omega

/-- The events, with what each finds and leaves. -/
inductive Move (state : State) : Event → State → Prop where
  | perform {mode : Mode} (idle : state.multi.point = .idle) (open_ : state.returned = false) :
      Move state (.perform mode) { state with multi := state.multi.performBegin mode }
  | finish {mode : Mode} {transfer : Transfer} (point : state.multi.point = .driving mode)
      (attached : transfer ∈ state.multi.attached) :
      Move state (.finish transfer) { state with multi := state.multi.finish transfer }
  | acted {mode : Mode} (point : state.multi.point = .driving mode) :
      Move state .acted { state with multi := { state.multi with running := state.multi.stillRunning } }
  | driven {mode : Mode} (point : state.multi.point = .driving mode) :
      Move state .driven { state with multi := { state.multi with
        running := state.multi.stillRunning
        point := .reading mode false } }
  | waited {mode : Mode} (point : state.multi.point = .waiting mode) :
      Move state .waited { state with multi := { state.multi with point := .driving mode } }
  | waitedInVain (point : state.multi.point = .waiting .socketAction) :
      Move state .waitedInVain { state with multi := { state.multi with
        point := .reading .socketAction false } }
  | lastRead {mode : Mode} {final : Bool} (point : state.multi.point = .reading mode final)
      (messages : state.multi.messages = []) :
      Move state .readInfo { state with multi := { state.multi with point := .block mode final } }
  | read {mode : Mode} {final : Bool} {transfer : Transfer} {rest : List Transfer} {completion : Perform.Completion}
      {callbackError : ObjectId → Option Perform.RubyException}
      (point : state.multi.point = .reading mode final) (messages : state.multi.messages = transfer :: rest) :
      Move state .readInfo { state.complete transfer.1 with
        multi := { { state.multi with messages := rest }.detach transfer with
          callbackError := callbackError
          point := .callbacks mode final completion } }
  | callbacks {mode : Mode} {final : Bool} {completion : Perform.Completion}
      (point : state.multi.point = .callbacks mode final completion) :
      Move state .callbacks { state.onComplete completion.transfer.1 with
        multi := { state.multi with point := .reading mode final } }
  | block {mode : Mode} {final : Bool} {next : State} (point : state.multi.point = .block mode final)
      (starts : next = state ∨ next = state.consumeFreeHandles) (refilled : Refilled state next) :
      Move state .block { next with multi := next.multi.blockEnd mode final }
  | performed (point : state.multi.point = .ended .returned) (drained : state.urlsWithConfig = []) :
      Move state .performed { state with
        multi := { state.multi with point := .idle }
        returned := true }

/-- What may happen at a point. -/
def Allows : Point → Event → Prop
  | .idle, event => ∃ mode, event = .perform mode
  | .driving _, event => (∃ transfer, event = .finish transfer) ∨ event = .acted ∨ event = .driven
  | .reading .., event => event = .readInfo
  | .callbacks .., event => event = .callbacks
  | .block .., event => event = .block
  | .waiting _, event => event = .waited ∨ event = .waitedInVain
  | .ended _, event => event = .performed

theorem Move.allowed {event : Event} (move : Move state event after) : Allows state.multi.point event := by
  cases move with
  | perform idle open_ => exact idle ▸ ⟨_, rfl⟩
  | finish point attached => exact point ▸ Or.inl ⟨_, rfl⟩
  | acted point => exact point ▸ Or.inr (Or.inl rfl)
  | driven point => exact point ▸ Or.inr (Or.inr rfl)
  | waited point => exact point ▸ Or.inl rfl
  | waitedInVain point => exact point ▸ Or.inr rfl
  | lastRead point messages => exact point ▸ rfl
  | read point messages => exact point ▸ rfl
  | callbacks point => exact point ▸ rfl
  | block point starts refilled => exact point ▸ rfl
  | performed point drained => exact point ▸ rfl

theorem move_of_step {event : Event} (inv : Inv urls maxConnects state) (steps : step state event = some after) :
    Move state event after := by
  cases event with
  | perform mode =>
    obtain ⟨open_, steps⟩ := Option.ite_none_left_eq_some.mp steps
    obtain ⟨multi, stepped, same⟩ := loop_eq_some steps
    obtain ⟨idle, loop⟩ := Perform.step_perform stepped
    subst same loop
    exact .perform idle ((Bool.not_eq_true _).mp open_)
  | finish transfer =>
    obtain ⟨multi, stepped, same⟩ := loop_eq_some steps
    obtain ⟨mode, point, attached, -, loop⟩ := Perform.step_finish stepped
    subst same loop
    exact .finish point attached
  | acted =>
    obtain ⟨multi, stepped, same⟩ := loop_eq_some steps
    obtain ⟨mode, point, loop⟩ := Perform.step_acted stepped
    subst same loop
    exact .acted point
  | driven =>
    obtain ⟨multi, stepped, same⟩ := loop_eq_some steps
    obtain ⟨mode, point, loop⟩ := Perform.step_driven stepped
    subst same loop
    exact .driven point
  | waited =>
    obtain ⟨multi, stepped, same⟩ := loop_eq_some steps
    obtain ⟨mode, point, loop⟩ := Perform.step_waited stepped
    subst same loop
    exact .waited point
  | waitedInVain =>
    obtain ⟨multi, stepped, same⟩ := loop_eq_some steps
    obtain ⟨point, loop⟩ := Perform.step_waitedInVain stepped
    subst same loop
    exact .waitedInVain point
  | readInfo =>
    obtain ⟨multi, stepped, same⟩ := loop_eq_some steps
    rw [completes_multi] at stepped
    obtain ⟨mode, final, point, ⟨messages, loop⟩ | ⟨transfer, rest, messages, loop⟩⟩ :=
      Perform.step_readInfo stepped
    · have nothing : state.completes = state := by
        rw [State.completes, messages]
      rw [same, loop, nothing, raiseIfIdle_calm inv.calm]
      exact .lastRead point messages
    · have nothing : ({ state.multi with messages := rest }.detach transfer).callbackError transfer.1 = none :=
        inv.quiet transfer.1
      have completes : state.completes = state.complete transfer.1 := by
        rw [State.completes, messages]
      rw [same, loop, completes, Perform.State.handleComplete, nothing]
      exact .read point messages
  | callbacks =>
    dsimp only [step] at steps
    split at steps
    · rename_i mode final completion point
      obtain ⟨multi, stepped, same⟩ := loop_eq_some steps
      obtain ⟨mode', final', completion', point', loop⟩ := Perform.step_callbacksEnd stepped
      cases point.symm.trans point'
      rw [same, loop, Perform.State.callbacksEnd, inv.completing mode final completion point]
      exact .callbacks point
    · cases steps
  | block =>
    dsimp only [step] at steps
    split at steps
    · rename_i mode final point
      have next : ∃ next : State, (if state.refills then state.consumeFreeHandles else state) = next ∧
          next.multi.point = .block mode final ∧ (next = state ∨ next = state.consumeFreeHandles) ∧
            Refilled state next := by
        split
        · exact ⟨_, rfl, (consumeFreeHandles_spec state).1.trans point, Or.inr rfl,
            refilled_consumeFreeHandles inv.toAccounted⟩
        · exact ⟨state, rfl, point, Or.inl rfl, rfl, Nat.add_comm .., rfl⟩
      obtain ⟨next, same, point', starts, refilled⟩ := next
      rw [same] at steps
      obtain ⟨multi, stepped, shape⟩ := loop_eq_some steps
      obtain ⟨mode', final', point'', ⟨-, loop⟩ | ⟨_, raised, -⟩⟩ := Perform.step_blockEnd stepped
      · cases point'.symm.trans point''
        rw [shape, loop]
        exact .block point starts refilled
      · cases raised
    · cases steps
  | performed =>
    dsimp only [step] at steps
    split at steps
    · rename_i point
      obtain ⟨next, looped, same⟩ := Option.map_eq_some_iff.mp steps
      obtain ⟨multi, stepped, shape⟩ := loop_eq_some looped
      obtain ⟨outcome, -, loop⟩ := Perform.step_resume stepped
      have drained := (inv.ended .returned point).2
      have consumed : next.consumeFreeHandles = next := by
        rw [State.consumeFreeHandles, shape, drained]
        simp
      have returns : after = { next with returned := true } := by
        rw [← same, State.performed, consumed]
        split
        · rw [shape, drained]
          rfl
        · rfl
      rw [returns, shape, loop]
      exact .performed point drained
    · cases steps

/-! ## What is counted -/

/-- libcurl is in a call. -/
def Driving (state : State) : Prop := ∃ mode, state.multi.point = .driving mode

/-- Outside of libcurl the loop knows how many transfers run. -/
def Counted (state : State) : Prop :=
  ¬Driving state → state.multi.running + state.multi.messages.length = state.multi.attached.length

/-- libcurl counts the transfers without a message. -/
theorem stillRunning_eq {multi : Perform.State} (tables : Perform.Tables multi) :
    multi.stillRunning + multi.messages.length = multi.attached.length := by
  have least := (Perform.tables_stillRunning tables).bound
  change multi.attached.length ≤ multi.stillRunning + multi.messages.length at least
  have counted := List.length_eq_length_filter_add (l := multi.attached) fun transfer =>
    decide (transfer ∉ multi.finished)
  have many : multi.messages.length ≤
      (multi.attached.filter fun transfer => !decide (transfer ∉ multi.finished)).length := by
    refine tables.messages.length_le_of_subset fun transfer mem => ?_
    refine List.mem_filter.mpr ⟨tables.subset mem, ?_⟩
    simp [tables.finished, mem]
  unfold Perform.State.stillRunning at *
  omega

/-- A handle that is started runs. -/
theorem counted_addFreeHandle {config : Config} {easy : Option ObjectId}
    (calm : state.multi.deferredException = none) (absent : state.multi.hasEasy (easy.getD state.handles) = false)
    (counted : state.multi.running + state.multi.messages.length = state.multi.attached.length) :
    (state.addFreeHandle config easy).multi.running + (state.addFreeHandle config easy).multi.messages.length =
      (state.addFreeHandle config easy).multi.attached.length := by
  obtain ⟨generation, attached, -, -, -, messages, running⟩ := add_unattached absent calm
  show (state.multi.add _ true).running + (state.multi.add _ true).messages.length =
    (state.multi.add _ true).attached.length
  rw [attached, messages, running, List.length_append, List.length_singleton]
  omega

theorem counted_fill (times : Nat) (inv : Accounted urls state) (idle : state.multi.point = .idle)
    (counted : state.multi.running + state.multi.messages.length = state.multi.attached.length) :
    (state.fill times).multi.running + (state.fill times).multi.messages.length =
      (state.fill times).multi.attached.length := by
  induction times generalizing state with
  | zero => exact counted
  | succ times ih =>
    have next := accounted_startNew inv idle
    have started : state.startNew.multi.running + state.startNew.multi.messages.length =
        state.startNew.multi.attached.length := by
      unfold State.startNew
      split
      · exact counted
      · rename_i config last
        exact @counted_addFreeHandle { state with urlsWithConfig := state.urlsWithConfig.dropLast }
          config none inv.calm inv.new_unattached counted
    show (ite _ _ _ : State).multi.running + (ite _ _ _ : State).multi.messages.length =
      (ite _ _ _ : State).multi.attached.length
    split
    · exact started
    · exact ih next ((startNew_spec state).1.trans idle) started

theorem counted_start (urls : List Config) (maxConnects : Nat) : Counted (start urls maxConnects) :=
  fun _ => counted_fill maxConnects (accounted_initial urls) rfl rfl

theorem Counted.move {event : Event} (counted : Counted state) (tables : Perform.Tables state.multi)
    (move : Move state event after) : Counted after := by
  cases move with
  | perform idle open_ => exact fun outside => absurd ⟨_, rfl⟩ outside
  | finish point attached => exact fun outside => absurd ⟨_, point⟩ outside
  | acted point => exact fun outside => absurd ⟨_, point⟩ outside
  | driven point => exact fun _ => stillRunning_eq tables
  | waited point => exact fun outside => absurd ⟨_, rfl⟩ outside
  | waitedInVain point => exact fun _ => counted fun ⟨mode, driving⟩ => nomatch point.symm.trans driving
  | lastRead point messages => exact fun _ => counted fun ⟨mode, driving⟩ => nomatch point.symm.trans driving
  | @read mode final transfer rest completion callbackError point messages =>
    intro _
    have before := counted fun ⟨mode, driving⟩ => nomatch point.symm.trans driving
    have mem : transfer ∈ state.multi.attached := tables.subset (messages ▸ List.mem_cons_self)
    have apart : transfer ∉ rest := (List.nodup_cons.mp (messages ▸ tables.messages)).1
    show state.multi.running + (rest.erase transfer).length = (state.multi.attached.erase transfer).length
    rw [messages, List.length_cons] at before
    rw [List.erase_of_not_mem apart]
    have shorter := List.length_erase_of_mem mem
    omega
  | callbacks point => exact fun _ => counted fun ⟨mode, driving⟩ => nomatch point.symm.trans driving
  | @block mode final next point starts refilled =>
    intro _
    have before := counted fun ⟨mode, driving⟩ => nomatch point.symm.trans driving
    obtain ⟨point', shape, -⟩ := blockEnd_shape next.multi mode final
    have running := refilled.running
    have messages := congrArg List.length refilled.messages
    rw [shape]
    show next.multi.running + next.multi.messages.length = next.multi.attached.length
    omega
  | performed point drained => exact fun _ => counted fun ⟨mode, driving⟩ => nomatch point.symm.trans driving

/-- No event makes a transfer anew. -/
theorem pending_le {event : Event} (move : Move state event after) : after.pending ≤ state.pending := by
  cases move with
  | @read mode final transfer rest completion callbackError point messages =>
    exact Nat.add_le_add_left List.length_erase_le _
  | @block mode final next point starts refilled =>
    obtain ⟨point', shape, -⟩ := blockEnd_shape next.multi mode final
    rw [shape]
    exact refilled.pending.le
  | _ => exact le_rfl

/-- A message is one transfer less. -/
theorem pending_lt_of_reading {event : Event} {mode : Mode} {final : Bool} (tables : Perform.Tables state.multi)
    (move : Move state event after) (point : state.multi.point = .reading mode final)
    (messages : state.multi.messages ≠ []) : after.pending < state.pending := by
  have allowed := move.allowed
  rw [point] at allowed
  cases allowed
  cases move with
  | @read mode' final' transfer rest completion callbackError point' messages' =>
    have mem : transfer ∈ state.multi.attached := tables.subset (messages' ▸ List.mem_cons_self)
    have shorter := List.length_erase_of_mem mem
    have some := List.length_pos_of_mem mem
    show state.urlsWithConfig.length + (state.multi.attached.erase transfer).length <
      state.urlsWithConfig.length + state.multi.attached.length
    omega
  | lastRead _ none => exact absurd none messages

/-- In a block nothing else happens. -/
theorem rank_lt_of_block {mode : Mode} {final : Bool} (inv : Inv urls maxConnects state)
    (point : state.multi.point = .block mode final) (steps : step state .block = some after) :
    after.rank < state.rank := by
  obtain ⟨event, after', steps', lower⟩ := progress_block inv point
  have same := (move_of_step inv steps').allowed
  rw [point] at same
  cases same
  cases steps.symm.trans steps'
  exact lower

/-- Where nothing is attached, every step outside of libcurl is one towards the end, or towards the start
of a transfer. -/
theorem rank_lt_of_unattached {event : Event} (inv : Inv urls maxConnects state) (counted : Counted state)
    (steps : step state event = some after) (none : state.multi.attached = []) (outside : ¬Driving state) :
    after.rank < state.rank := by
  have move := move_of_step inv steps
  have messages : state.multi.messages = [] := List.subset_nil.mp (none ▸ inv.multi.tables.subset)
  have stopped : state.multi.running = 0 := by
    have count := counted outside
    rw [none, messages] at count
    exact count
  cases move with
  | perform idle open_ =>
    refine rank_lt_of_stage rfl ((stage_le_of_drives ⟨_, Or.inr rfl⟩).1.trans_lt ?_)
    simp [State.stage, idle, open_, none]
  | finish point _ => exact absurd ⟨_, point⟩ outside
  | acted point => exact absurd ⟨_, point⟩ outside
  | driven point => exact absurd ⟨_, point⟩ outside
  | waited point =>
    refine rank_lt_of_stage rfl ?_
    simp [State.stage, point, none]
  | waitedInVain point =>
    refine rank_lt_of_stage rfl ?_
    simp only [State.stage, point, none, stopped]
    by_cases drained : state.urlsWithConfig = []
    · simp [drained]
    · simp [drained]
  | @lastRead mode final point _ =>
    refine rank_lt_of_stage rfl ?_
    simp only [State.stage, point, none, stopped]
    split_ifs <;> omega
  | read point messages' => cases messages.symm.trans messages'
  | callbacks point =>
    refine rank_lt_of_stage rfl ((stage_le_of_reads rfl).trans_lt ?_)
    simp [State.stage, point, none]
  | block point _ _ => exact rank_lt_of_block inv point steps
  | performed point drained =>
    refine rank_lt_of_stage rfl ?_
    simp [State.stage, point, none]

theorem stage_of_driving (driving : Driving state) (none : state.multi.attached = []) : state.stage = 15 := by
  obtain ⟨mode, point⟩ := driving
  simp [State.stage, point, none]

/-- A call of libcurl in which nothing is attached ends. -/
theorem rank_lt_of_driven {mode : Mode} {event : Event} (inv : Inv urls maxConnects state)
    (steps : step state event = some after) (none : state.multi.attached = [])
    (point : state.multi.point = .driving mode) (left : ¬Driving after) : after.rank < state.rank := by
  have move := move_of_step inv steps
  have stopped : state.multi.stillRunning = 0 := by
    rw [Perform.State.stillRunning, none]
    rfl
  have allowed := move.allowed
  rw [point] at allowed
  rcases allowed with ⟨transfer, rfl⟩ | rfl | rfl
  · cases move with
    | finish point' _ => exact absurd ⟨_, point'⟩ left
  · cases move with
    | acted point' => exact absurd ⟨_, point'⟩ left
  · cases move with
    | driven _ =>
      refine rank_lt_of_stage rfl ?_
      simp only [State.stage, point, none, stopped]
      by_cases drained : state.urlsWithConfig = []
      · simp [drained]
      · simp [drained]

/-! ## Runs without an end -/

/-- libcurl finishes every transfer that is attached, and returns from every call. -/
structure Fair {start : State} (run : Forever step start) : Prop where
  finishes : ∀ n, ∀ transfer ∈ (run.states n).multi.attached,
    transfer ∈ (run.states n).multi.finished ∨ ∃ m, n ≤ m ∧ run.events m = .finish transfer
  returns : ∀ n, Driving (run.states n) → ∃ m, n ≤ m ∧ ¬Driving (run.states m)

/-- The call neither goes on without an end nor comes to a stop before it has returned. -/
def Terminates (start : State) : Prop :=
  (∀ run : Forever step start, ¬Fair run) ∧
    ∀ state, Reached step (fun _ _ => True) start state →
      state.returned = true ∨ ∃ event after, step state event = some after

section Forever

variable {first : State} {run : Forever step first}

theorem moves (inv : ∀ n, Inv urls maxConnects (run.states n)) (n : ℕ) :
    Move (run.states n) (run.events n) (run.states (n + 1)) := move_of_step (inv n) (run.steps n)

theorem pending_antitone (inv : ∀ n, Inv urls maxConnects (run.states n)) {n m : ℕ} (le : n ≤ m) :
    (run.states m).pending ≤ (run.states n).pending :=
  run.antitone State.pending (fun n => pending_le (moves inv n)) le

/-- Messages are kept while libcurl drives. -/
theorem messages_driving {event : Event} (inv : Inv urls maxConnects state) (driving : Driving state)
    (messages : state.multi.messages ≠ []) (steps : step state event = some after) :
    after.multi.messages ≠ [] := by
  obtain ⟨mode, point⟩ := driving
  have move := move_of_step inv steps
  have allowed := move.allowed
  rw [point] at allowed
  rcases allowed with ⟨transfer, rfl⟩ | rfl | rfl
  · cases move with
    | finish _ _ =>
      show state.multi.messages ++ [transfer] ≠ []
      exact List.append_ne_nil_of_left_ne_nil messages _
  · cases move with
    | acted _ => exact messages
  · cases move with
    | driven _ => exact messages

/-- Nothing is attached while libcurl drives. -/
theorem unattached_driving {event : Event} (inv : Inv urls maxConnects state) (driving : Driving state)
    (none : state.multi.attached = []) (steps : step state event = some after) :
    after.multi.attached = [] := by
  obtain ⟨mode, point⟩ := driving
  have move := move_of_step inv steps
  have allowed := move.allowed
  rw [point] at allowed
  rcases allowed with ⟨transfer, rfl⟩ | rfl | rfl
  · cases move with
    | finish _ attached =>
      rw [none] at attached
      cases attached
  · cases move with
    | acted _ => exact none
  · cases move with
    | driven _ => exact none

theorem messages_of_finish {transfer : Transfer} (move : Move state (.finish transfer) after) :
    after.multi.messages ≠ [] := by
  cases move with
  | finish _ _ =>
    show state.multi.messages ++ [transfer] ≠ []
    exact List.append_ne_nil_of_right_ne_nil _ (List.cons_ne_nil _ _)

theorem reading_of_callbacks {event : Event} {mode : Mode} {final : Bool} {completion : Perform.Completion}
    (move : Move state event after) (point : state.multi.point = .callbacks mode final completion) :
    after.multi.point = .reading mode final ∧ after.multi.messages = state.multi.messages := by
  have allowed := move.allowed
  rw [point] at allowed
  cases allowed
  cases move with
  | callbacks point' =>
    cases point.symm.trans point'
    exact ⟨rfl, rfl⟩

/-- libcurl is left for the messages. -/
theorem reading_of_left {event : Event} (inv : Inv urls maxConnects state) (driving : Driving state)
    (steps : step state event = some after) (left : ¬Driving after) :
    ∃ mode, after.multi.point = .reading mode false ∧ after.multi.messages = state.multi.messages := by
  obtain ⟨mode, point⟩ := driving
  have move := move_of_step inv steps
  have allowed := move.allowed
  rw [point] at allowed
  rcases allowed with ⟨transfer, rfl⟩ | rfl | rfl
  · cases move with
    | finish point' _ => exact absurd ⟨_, point'⟩ left
  · cases move with
    | acted point' => exact absurd ⟨_, point'⟩ left
  · cases move with
    | driven _ => exact ⟨_, rfl, rfl⟩

/-- A message that libcurl has left is read. -/
theorem pending_lower_of_messages (inv : ∀ n, Inv urls maxConnects (run.states n)) (fair : Fair run) {n : ℕ}
    (messages : (run.states n).multi.messages ≠ []) :
    ∃ m, n < m ∧ (run.states m).pending < (run.states n).pending := by
  have read {k : ℕ} {mode : Mode} {final : Bool} (point : (run.states k).multi.point = .reading mode final)
      (messages : (run.states k).multi.messages ≠ []) :
      (run.states (k + 1)).pending < (run.states k).pending :=
    pending_lt_of_reading (inv k).multi.tables (moves inv k) point messages
  have atPoint := (inv n).multi.atPoint
  cases point : (run.states n).multi.point with
  | reading mode final => exact ⟨n + 1, Nat.lt_succ_self n, read point messages⟩
  | callbacks mode final completion =>
    have next := reading_of_callbacks (moves inv n) point
    have lower := read next.1 (next.2 ▸ messages)
    exact ⟨n + 2, by omega, lower.trans_le (pending_le (moves inv n))⟩
  | driving mode =>
    obtain ⟨k, le, driving, messages', left⟩ := run.last_inside
      (P := fun state => Inv urls maxConnects state ∧ state.multi.messages ≠ []) ⟨mode, point⟩ ⟨inv n, messages⟩
      (fun s event s' driving before steps =>
        ⟨inv_step before.1 steps, messages_driving before.1 driving before.2 steps⟩)
      (fair.returns n ⟨mode, point⟩)
    obtain ⟨mode', point', same⟩ := reading_of_left (inv k) driving (run.steps k) left
    have lower := read point' (same ▸ messages'.2)
    exact ⟨k + 2, by omega, lower.trans_le (pending_antitone inv (by omega))⟩
  | idle =>
    rw [point] at atPoint
    exact absurd atPoint.2 messages
  | block mode final =>
    rw [point] at atPoint
    exact absurd atPoint.2.1 messages
  | waiting mode =>
    rw [point] at atPoint
    exact absurd atPoint.2 messages
  | ended outcome =>
    rw [point] at atPoint
    cases outcome with
    | returned => exact absurd atPoint.2.1 messages
    | raised exception => exact absurd atPoint.2.1 messages

/-- An attached transfer completes. -/
theorem pending_lower_of_attached (inv : ∀ n, Inv urls maxConnects (run.states n)) (fair : Fair run) {n : ℕ}
    (attached : (run.states n).multi.attached ≠ []) :
    ∃ m, n < m ∧ (run.states m).pending < (run.states n).pending := by
  obtain ⟨transfer, mem⟩ := List.exists_mem_of_ne_nil _ attached
  have message : ∃ m, n ≤ m ∧ (run.states m).multi.messages ≠ [] := by
    rcases fair.finishes n transfer mem with finished | ⟨m, le, finish⟩
    · rw [(inv n).multi.tables.finished] at finished
      exact ⟨n, le_rfl, List.ne_nil_of_mem finished⟩
    · have move := moves inv m
      rw [finish] at move
      exact ⟨m + 1, by omega, messages_of_finish move⟩
  obtain ⟨m, le, messages⟩ := message
  obtain ⟨k, later, lower⟩ := pending_lower_of_messages inv fair messages
  exact ⟨k, by omega, lower.trans_le (pending_antitone inv le)⟩

/-- The rank is lowered again and again. -/
theorem rank_lower (inv : ∀ n, Inv urls maxConnects (run.states n))
    (counted : ∀ n, Counted (run.states n)) (fair : Fair run) (n : ℕ) :
    ∃ m, n < m ∧ (run.states m).rank < (run.states n).rank := by
  by_cases none : (run.states n).multi.attached = []
  · by_cases driving : Driving (run.states n)
    · obtain ⟨k, le, driving', unattached, left⟩ := run.last_inside
        (P := fun state => Inv urls maxConnects state ∧ state.multi.attached = []) driving ⟨inv n, none⟩
        (fun s event s' driving before steps =>
          ⟨inv_step before.1 steps, unattached_driving before.1 driving before.2 steps⟩)
        (fair.returns n driving)
      obtain ⟨mode, point⟩ := driving'
      have lower := rank_lt_of_driven (inv k) (run.steps k) unattached.2 point left
      have pending := pending_antitone inv le
      have stage : (run.states k).stage = (run.states n).stage :=
        (stage_of_driving ⟨mode, point⟩ unattached.2).trans (stage_of_driving driving none).symm
      refine ⟨k + 1, by omega, lower.trans_le ?_⟩
      rcases pending.lt_or_eq with fewer | same
      · exact (rank_lt_of_pending fewer).le
      · rw [State.rank, State.rank, same, stage]
    · exact ⟨n + 1, Nat.lt_succ_self n, rank_lt_of_unattached (inv n) (counted n) (run.steps n) none driving⟩
  · obtain ⟨m, later, lower⟩ := pending_lower_of_attached inv fair none
    exact ⟨m, later, rank_lt_of_pending lower⟩

end Forever

/-- No run goes on for ever where a handle may be started. -/
theorem not_fair (positive : 1 ≤ maxConnects) (run : Forever step (start urls maxConnects)) : ¬Fair run := by
  intro fair
  have known (n : ℕ) : Inv urls maxConnects (run.states n) ∧ Counted (run.states n) := by
    refine (run.reached n).invariant (P := fun state => Inv urls maxConnects state ∧ Counted state)
      ⟨inv_start urls positive, counted_start urls maxConnects⟩ ?_
    intro before event after known _ steps
    exact ⟨inv_step known.1 steps, known.2.move known.1.multi.tables (move_of_step known.1 steps)⟩
  obtain ⟨n, lowest⟩ := run.exists_lowest State.rank
  obtain ⟨m, later, lower⟩ := rank_lower (fun n => (known n).1) (fun n => (known n).2) fair n
  exact lowest m later lower

theorem terminates_of_positive (positive : 1 ≤ maxConnects) : Terminates (start urls maxConnects) := by
  refine ⟨fun run => not_fair positive run, fun state reached => ?_⟩
  have inv : Inv urls maxConnects state :=
    reached.invariant (inv_start urls positive) fun _ _ _ inv _ steps => inv_step inv steps
  rcases progress inv with returned | ⟨event, after, steps, -⟩
  · exact Or.inl returned
  · exact Or.inr ⟨event, after, steps⟩

/-! ## No handle at all -/

/-- The events of a `perform` without a transfer, and the point each is at. -/
def idleRound : ℕ → Point × Event
  | 0 => (.idle, .perform .fdset)
  | 1 => (.driving .fdset, .driven)
  | 2 => (.reading .fdset false, .readInfo)
  | 3 => (.block .fdset false, .block)
  | 4 => (.reading .fdset true, .readInfo)
  | 5 => (.block .fdset true, .block)
  | _ => (.ended .returned, .performed)

/-- The call at a point, with no handle. -/
def withoutHandle (urls : List Config) (point : Point) : State where
  multi := { Perform.fresh with point := point }
  urlsWithConfig := urls
  freeHandles := []
  handles := 0
  conf := fun _ => none
  easies := fun _ => Handle.new
  refills := true
  returned := false
  transferred := []
  yielded := []

theorem start_zero (left : urls ≠ []) : start urls 0 = withoutHandle urls .idle := by
  have more : urls.isEmpty = false := List.isEmpty_eq_false_iff.mpr left
  show ({ withoutHandle urls .idle with refills := !urls.isEmpty } : State) = _
  rw [more]
  rfl

/-- After a `perform` comes the next. -/
theorem idleRound_steps (left : urls ≠ []) (n : ℕ) :
    step (withoutHandle urls (idleRound (n % 7)).1) (idleRound (n % 7)).2 =
      some (withoutHandle urls (idleRound ((n + 1) % 7)).1) := by
  have more : urls.isEmpty = false := List.isEmpty_eq_false_iff.mpr left
  have performed : step (withoutHandle urls (.ended .returned)) .performed =
      some { withoutHandle urls .idle with returned := urls.isEmpty } := rfl
  rw [more] at performed
  have next : (n + 1) % 7 = (n % 7 + 1) % 7 := by omega
  have bound : n % 7 < 7 := Nat.mod_lt n (by decide)
  rw [next]
  generalize n % 7 = round at bound
  match round, bound with
  | 0, _ | 1, _ | 2, _ | 3, _ | 4, _ | 5, _ => rfl
  | 6, _ => exact performed

/-- One `perform` after the other, and no transfer in any. -/
theorem exists_fair (left : urls ≠ []) : ∃ run : Forever step (start urls 0), Fair run := by
  refine ⟨⟨fun n => withoutHandle urls (idleRound (n % 7)).1, fun n => (idleRound (n % 7)).2,
    (start_zero left).symm, idleRound_steps left⟩, fun n transfer mem => ?_, fun n driving => ?_⟩
  · cases mem
  · refine ⟨n + (7 - n % 7), by omega, ?_⟩
    rintro ⟨mode, point⟩
    have again : (n + (7 - n % 7)) % 7 = 0 := by omega
    change (idleRound ((n + (7 - n % 7)) % 7)).1 = .driving mode at point
    rw [again] at point
    cases point

/-! ## The result -/

/-- `Multi.http` with any `max_connects`: `Integer#times` of a negative number is no time. -/
def http (urlsWithConfig : List Config) (maxConnects : ℤ) : State :=
  start urlsWithConfig maxConnects.toNat

/-- An empty list starts nothing, with any number of handles. -/
theorem start_nil (maxConnects : Nat) : start ([] : List Config) maxConnects = start [] 1 := by
  cases maxConnects <;> rfl

/-- The call terminates where it may start a handle, or has none to start. -/
theorem http_terminates_iff (urls : List Config) (maxConnects : ℤ) :
    Terminates (http urls maxConnects) ↔ 1 ≤ maxConnects ∨ urls = [] := by
  constructor
  · intro terminates
    by_contra neither
    obtain ⟨few, left⟩ := not_or.mp neither
    have none : maxConnects.toNat = 0 := Int.toNat_eq_zero.mpr (by omega)
    obtain ⟨run, fair⟩ := exists_fair left
    rw [http, none] at terminates
    exact terminates.1 run fair
  · rintro (positive | rfl)
    · exact terminates_of_positive (by omega)
    · rw [http, start_nil]
      exact terminates_of_positive le_rfl

/-- One request on no handle. -/
theorem http_noHandle_goesOn : ¬Terminates (http [.ofUrl "u".toList] 0) := by
  intro terminates
  obtain ⟨run, fair⟩ := @exists_fair [.ofUrl "u".toList] (List.cons_ne_nil _ _)
  exact terminates.1 run fair

end Curb.Http

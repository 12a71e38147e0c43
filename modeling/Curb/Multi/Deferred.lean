import Curb.Multi.PerformTables

/-!
# Deferred exceptions

The first exception that a callback raises is deferred until no transfer is attached, and then
raised; while it is deferred no transfer is attached that was not attached before.
-/

namespace Curb.Perform
open Curb.Misc Curb.Ruby

variable {state : State}

/-! ## What is deferred -/

/-- The deferred exception is the first one stashed, callbacks have raised all of them, and what is
attached has been since the first. -/
structure Deferral (state : State) : Prop where
  first : state.deferredException = state.stashes.head?.map Stash.exception
  ofCallbacks : ∀ stash ∈ state.stashes, stash.ofCallback = true
  attached : ∀ stash ∈ state.stashes.head?, state.attached ⊆ stash.attached

theorem Deferral.stashes_eq_nil (deferral : Deferral state) (none : state.deferredException = none) :
    state.stashes = [] := by
  have first := deferral.first
  rw [none] at first
  cases stashes : state.stashes with
  | nil => rfl
  | cons stash rest =>
    rw [stashes] at first
    cases first

/-- Fewer transfers are attached, and nothing else about the deferral has changed. -/
theorem Deferral.shrink {after : State} (deferral : Deferral state)
    (deferred : after.deferredException = state.deferredException)
    (stashes : after.stashes = state.stashes) (attached : after.attached ⊆ state.attached) :
    Deferral after := by
  refine ⟨?_, ?_, ?_⟩
  · rw [deferred, stashes]
    exact deferral.first
  · rw [stashes]
    exact deferral.ofCallbacks
  · rw [stashes]
    exact fun stash first => List.Subset.trans attached (deferral.attached stash first)

theorem deferral_stash {exception : RubyException} {easy : ObjectId} (deferral : Deferral state) :
    Deferral (state.stash exception true easy) := by
  have before := deferral.first
  have ofCallbacks : ∀ stash ∈ (state.stash exception true easy).stashes, stash.ofCallback = true := by
    intro stash mem
    rcases List.mem_append.mp mem with old | new
    · exact deferral.ofCallbacks stash old
    · rw [List.mem_singleton.mp new]
  cases stashes : state.stashes with
  | nil =>
    rw [stashes] at before
    refine ⟨?_, ofCallbacks, ?_⟩
    · show state.deferredException.or (some exception) = (state.stashes ++ [_]).head?.map _
      rw [before, stashes]
      rfl
    · intro stash first
      change stash ∈ (state.stashes ++ [_]).head? at first
      rw [stashes] at first
      cases first
      exact List.Subset.refl _
  | cons stash rest =>
    rw [stashes] at before
    refine ⟨?_, ofCallbacks, ?_⟩
    · show state.deferredException.or (some exception) = (state.stashes ++ [_]).head?.map _
      rw [before, stashes]
      rfl
    · intro other first
      change other ∈ (state.stashes ++ [_]).head? at first
      rw [stashes] at first
      apply deferral.attached
      rw [stashes]
      exact first

theorem deferral_stashIfAny {exception : Option RubyException} {easy : ObjectId}
    (deferral : Deferral state) : Deferral (state.stashIfAny exception easy) := by
  cases exception with
  | none => exact deferral
  | some exception => exact deferral_stash deferral

theorem stashIfAny_point (state : State) (exception : Option RubyException) (easy : ObjectId) :
    (state.stashIfAny exception easy).point = state.point := by
  cases exception <;> rfl

theorem deferral_detach {transfer : Transfer} (deferral : Deferral state) :
    Deferral (state.detach transfer) :=
  deferral.shrink rfl rfl (List.erase_subset)

theorem deferral_foldl_detach {transfers : List Transfer} (deferral : Deferral state) :
    Deferral (transfers.foldl State.detach state) := by
  induction transfers generalizing state with
  | nil => exact deferral
  | cons transfer transfers ih => exact ih (deferral_detach deferral)

theorem deferral_remove {easy : ObjectId} {accepted : Bool} (deferral : Deferral state) :
    Deferral (state.remove easy accepted) := by
  unfold State.remove
  split
  · split
    · exact deferral_detach deferral
    · exact deferral
  · exact deferral

/-- A handle is added only where no exception is deferred. -/
theorem deferral_add {easy : ObjectId} {accepted : Bool} (deferral : Deferral state) :
    Deferral (state.add easy accepted) := by
  unfold State.add
  split
  · exact deferral
  · rename_i added
    have nothing : state.deferredException = none := by
      cases deferred : state.deferredException with
      | none => rfl
      | some exception => simp [deferred] at added
    refine ⟨deferral.first, deferral.ofCallbacks, ?_⟩
    intro stash first
    change stash ∈ state.stashes.head? at first
    rw [deferral.stashes_eq_nil nothing] at first
    cases first

/-! ## What holds at each point -/

/-- The invariant at a point of the loop. -/
def AtPoint (state : State) : Point → Prop
  | .idle => state.deferredException = none ∧ state.messages = []
  | .driving _ => Deferral state
  | .reading _ final => Deferral state ∧
      (final = true → state.messages = [] ∧ state.running = 0)
  | .callbacks _ final _ => Deferral state ∧ final = false
  | .block _ final => Deferral state ∧ state.messages = [] ∧
      (final = true → state.deferredException = none)
  | .waiting _ => Deferral state ∧ state.messages = []
  | .ended .returned => state.deferredException = none ∧ state.messages = [] ∧
      state.attached = [] ∧ state.stashes = []
  | .ended (.raised exception) => state.deferredException = none ∧ state.messages = [] ∧
      state.attached = [] ∧ state.stashes.head?.map Stash.exception = some exception ∧
      ∀ stash ∈ state.stashes, stash.ofCallback = true

/-- The invariant of the loops. -/
structure Inv (state : State) : Prop where
  tables : Tables state
  atPoint : AtPoint state state.point

theorem inv_fresh : Inv fresh :=
  ⟨⟨rfl, List.nodup_nil, rfl, List.nodup_nil, List.Subset.refl _, Nat.le_refl _⟩, rfl, rfl⟩

/-- What user code does to the tables keeps what holds at the point it runs at. -/
theorem atPoint_user {after : State} {point : Point} (runs : point.runsRuby = true)
    (deferral : Deferral state → Deferral after) (messages : state.messages = [] → after.messages = [])
    (deferred : after.deferredException = state.deferredException) (before : AtPoint state point) :
    AtPoint after point := by
  cases point with
  | idle => exact ⟨deferred.trans before.1, messages before.2⟩
  | driving mode => exact deferral before
  | callbacks mode final completion => exact ⟨deferral before.1, before.2⟩
  | block mode final =>
    exact ⟨deferral before.1, messages before.2.1, fun isFinal => deferred.trans (before.2.2 isFinal)⟩
  | waiting mode => exact ⟨deferral before.1, messages before.2⟩
  | reading mode final => cases runs
  | ended outcome => cases runs

theorem inv_add {easy : ObjectId} {accepted : Bool} (inv : Inv state)
    (runs : state.point.runsRuby = true) : Inv (state.add easy accepted) := by
  have same : (state.add easy accepted).point = state.point ∧
      (state.add easy accepted).messages = state.messages ∧
      (state.add easy accepted).deferredException = state.deferredException := by
    unfold State.add
    split <;> exact ⟨rfl, rfl, rfl⟩
  refine ⟨tables_add inv.tables, ?_⟩
  rw [same.1]
  exact atPoint_user runs deferral_add same.2.1.trans same.2.2 inv.atPoint

theorem inv_remove {easy : ObjectId} {accepted : Bool} (inv : Inv state)
    (runs : state.point.runsRuby = true) : Inv (state.remove easy accepted) := by
  have same : (state.remove easy accepted).point = state.point ∧
      (state.messages = [] → (state.remove easy accepted).messages = []) ∧
      (state.remove easy accepted).deferredException = state.deferredException := by
    unfold State.remove
    split
    · split
      · refine ⟨rfl, fun none => ?_, rfl⟩
        show state.messages.erase _ = []
        rw [none]
        rfl
      · exact ⟨rfl, id, rfl⟩
    · exact ⟨rfl, id, rfl⟩
  refine ⟨tables_remove inv.tables, ?_⟩
  rw [same.1]
  exact atPoint_user runs deferral_remove same.2.1 same.2.2 inv.atPoint

/-! ## Reading the messages -/

/-- With no message left, `active` says whether a transfer is attached. -/
theorem inv_raiseIfIdle {mode : Mode} {final : Bool} (inv : Inv state)
    (point : state.point = .reading mode final) (messages : state.messages = []) :
    Inv (state.raiseIfIdle mode final) := by
  have before := inv.atPoint
  rw [point] at before
  unfold State.raiseIfIdle
  split
  · rename_i nothing
    exact ⟨inv.tables.of_eq rfl rfl rfl rfl rfl, before.1.shrink rfl rfl (List.Subset.refl _),
      messages, fun _ => nothing⟩
  · rename_i exception deferred
    split
    · rename_i active
      refine ⟨inv.tables.of_eq rfl rfl rfl rfl rfl, before.1.shrink rfl rfl (List.Subset.refl _),
        messages, fun isFinal => ?_⟩
      have bound := inv.tables.bound
      rw [messages, (before.2 isFinal).2, ← inv.tables.active] at bound
      exact absurd active (Nat.not_lt.mpr bound)
    · rename_i idle
      refine ⟨inv.tables.of_eq rfl rfl rfl rfl rfl, rfl, messages, ?_, ?_, before.1.ofCallbacks⟩
      · apply List.eq_nil_of_length_eq_zero
        rw [← inv.tables.active]
        exact Nat.eq_zero_of_not_pos idle
      · exact before.1.first.symm.trans deferred

/-- A completion whose handle can be let go runs its callbacks, after any exception of the
transfer has been stashed. -/
theorem inv_handleComplete {mode : Mode} {final : Bool} {transfer : Transfer} {rest : List Transfer}
    (inv : Inv state) (point : state.point = .reading mode final)
    (messages : state.messages = transfer :: rest) :
    Inv ({ state with messages := rest }.handleComplete transfer none none
      (.callbacks mode final)) := by
  have before := inv.atPoint
  rw [point] at before
  have inner : final = false := by
    cases final with
    | false => rfl
    | true => cases messages.symm.trans (before.2 rfl).1
  have tables := tables_detach_next inv.tables messages
  have deferral : Deferral ({ state with messages := rest }.detach transfer) :=
    before.1.shrink rfl rfl List.erase_subset
  show Inv (State.stashIfAny _ _ _)
  refine ⟨tables_stashIfAny (tables.of_eq rfl rfl rfl rfl rfl), ?_⟩
  rw [stashIfAny_point]
  exact ⟨deferral_stashIfAny (deferral.shrink rfl rfl (List.Subset.refl _)), inner⟩

/-- However the callbacks end, the deferral is kept. -/
theorem deferral_callbacksEnd {completion : Completion} {raised : Option RubyException}
    {accepted : ObjectId → Bool} (deferral : Deferral state) :
    Deferral (state.callbacksEnd completion raised accepted) ∧
      (state.callbacksEnd completion raised accepted).point = state.point := by
  cases raised with
  | none => exact ⟨deferral_stashIfAny deferral, stashIfAny_point ..⟩
  | some exception =>
    by_cases standard : exception.isStandardError = true
    · cases masked : completion.callbackError with
      | some callbackError =>
        have same : state.callbacksEnd completion (some exception) accepted =
            state.stash callbackError true completion.transfer.1 := by
          rw [State.callbacksEnd, masked, if_pos standard]
        rw [same]
        exact ⟨deferral_stash deferral, rfl⟩
      | none =>
        have same : state.callbacksEnd completion (some exception) accepted =
            ((state.stash (.abortedByCallback exception) true
              completion.transfer.1).removeAddedEasiesSinceSnapshot completion.attachedSnapshot
                accepted).stash (.abortedByCallback exception) true completion.transfer.1 := by
          rw [State.callbacksEnd, masked, if_pos standard]
        rw [same]
        exact ⟨deferral_stash (deferral_foldl_detach (deferral_stash deferral)), foldl_detach_point ..⟩
    · have same : state.callbacksEnd completion (some exception) accepted =
          state.stash exception true completion.transfer.1 := by
        rw [State.callbacksEnd, if_neg standard]
      rw [same]
      exact ⟨deferral_stash deferral, rfl⟩

theorem inv_callbacksEnd {mode : Mode} {final : Bool} {completion : Completion}
    {raised : Option RubyException} {accepted : ObjectId → Bool} (inv : Inv state)
    (point : state.point = .callbacks mode final completion) :
    Inv ({ state with point := .reading mode final }.callbacksEnd completion raised accepted) := by
  have before := inv.atPoint
  rw [point] at before
  have tables : Tables { state with point := .reading mode final } :=
    inv.tables.of_eq rfl rfl rfl rfl rfl
  have deferral : Deferral { state with point := .reading mode final } :=
    before.1.shrink rfl rfl (List.Subset.refl _)
  obtain ⟨deferral', same⟩ := @deferral_callbacksEnd _ completion raised accepted deferral
  refine ⟨tables_callbacksEnd tables, ?_⟩
  rw [same]
  refine ⟨deferral', fun isFinal => ?_⟩
  rw [before.2] at isFinal
  cases isFinal

/-! ## The loops -/

theorem inv_loopHead {mode : Mode} (tables : Tables state) (deferral : Deferral state)
    (messages : state.messages = []) : Inv (state.loopHead mode) := by
  unfold State.loopHead
  split
  · exact ⟨tables.of_eq rfl rfl rfl rfl rfl, deferral.shrink rfl rfl (List.Subset.refl _), messages⟩
  · rename_i running
    refine ⟨tables.of_eq rfl rfl rfl rfl rfl, deferral.shrink rfl rfl (List.Subset.refl _),
      fun _ => ⟨messages, ?_⟩⟩
    exact not_not.mp running

/-- A loop that is left has no transfer attached and no exception deferred. -/
theorem inv_blockEnd {mode : Mode} {final : Bool} (inv : Inv state)
    (point : state.point = .block mode final) : Inv (state.blockEnd mode final) := by
  have before := inv.atPoint
  rw [point] at before
  cases final with
  | false => exact inv_loopHead inv.tables before.1 before.2.1
  | true =>
    have nothing := before.2.2 rfl
    unfold State.blockEnd
    rw [if_pos rfl]
    split
    · cases mode with
      | fdset => exact inv_loopHead inv.tables before.1 before.2.1
      | socketAction =>
        exact ⟨inv.tables.of_eq rfl rfl rfl rfl rfl, before.1.shrink rfl rfl (List.Subset.refl _)⟩
    · rename_i running
      refine ⟨inv.tables.of_eq rfl rfl rfl rfl rfl, nothing, before.2.1, ?_,
        before.1.stashes_eq_nil nothing⟩
      have bound := inv.tables.bound
      rw [before.2.1, not_not.mp running] at bound
      exact List.eq_nil_of_length_eq_zero (Nat.le_zero.mp bound)

/-- A multi that returns has nothing left to close. -/
theorem inv_autoclose {accepted : ObjectId → Bool} {refusal : RubyException} (tables : Tables state)
    (messages : state.messages = []) (attached : state.attached = []) (stashes : state.stashes = [])
    (point : state.point = .ended .returned) :
    Inv (state.autoclose accepted refusal) := by
  rw [autoclose_idle attached]
  refine ⟨tables_closed tables attached, ?_⟩
  show AtPoint _ state.point
  rw [point]
  exact ⟨rfl, messages, attached, stashes⟩

theorem atPoint_performBegin {mode : Mode} (idle : AtPoint state .idle) :
    AtPoint (state.performBegin mode) (.driving mode) :=
  ⟨idle.1, nofun, nofun⟩

/-! ## Steps -/

/-- No setup before the loop raises, no call into libcurl and no wait fails, the block raises nothing, nothing stops
the completion of a transfer before its callbacks, and the callbacks libcurl runs raise `StandardError`s. -/
def StepOk (_ : State) : Event → Prop
  | .preflightRaises _ => False
  | .readInfo early late => early = none ∧ late = none
  | .dataCallbackRaises _ exception => exception.isStandardError = true
  | .blockEnd raised => raised = none
  | .fails _ => False
  | _ => True

theorem inv_step {after : State} {event : Event} (inv : Inv state) (ok : StepOk state event)
    (steps : step state event = some after) : Inv after := by
  have before := inv.atPoint
  cases event with
  | add easy accepted =>
    obtain ⟨runs, same⟩ := Option.ite_none_right_eq_some.mp steps
    cases same
    exact inv_add inv runs
  | remove easy accepted =>
    obtain ⟨runs, same⟩ := Option.ite_none_right_eq_some.mp steps
    cases same
    exact inv_remove inv runs
  | perform mode =>
    obtain ⟨idle, same⟩ := step_perform steps
    cases same
    rw [idle] at before
    exact ⟨inv.tables.of_eq rfl rfl rfl rfl rfl, atPoint_performBegin before⟩
  | preflightRaises exception => cases ok
  | finish transfer =>
    obtain ⟨mode, point, mem, unfinished, same⟩ := step_finish steps
    rw [point] at before
    rw [same]
    refine ⟨tables_finish inv.tables mem unfinished, ?_⟩
    show AtPoint _ state.point
    rw [point]
    exact before.shrink rfl rfl (List.Subset.refl _)
  | dataCallbackRaises easy exception =>
    obtain ⟨mode, point, has, same⟩ := step_dataCallbackRaises steps
    rw [point] at before
    have standard : exception.isStandardError = true := ok
    rw [same, State.dataCallbackRaises, if_pos standard]
    refine ⟨inv.tables.of_eq rfl rfl rfl rfl rfl, ?_⟩
    show AtPoint _ state.point
    rw [point]
    exact before.shrink rfl rfl (List.Subset.refl _)
  | acted =>
    obtain ⟨mode, point, same⟩ := step_acted steps
    rw [point] at before
    rw [same]
    refine ⟨tables_stillRunning inv.tables, ?_⟩
    show AtPoint _ state.point
    rw [point]
    exact before.shrink rfl rfl (List.Subset.refl _)
  | driven =>
    obtain ⟨mode, point, same⟩ := step_driven steps
    rw [point] at before
    rw [same]
    exact ⟨(tables_stillRunning inv.tables).of_eq rfl rfl rfl rfl rfl,
      before.shrink rfl rfl (List.Subset.refl _), nofun⟩
  | fails exception => cases ok
  | waited =>
    obtain ⟨mode, point, same⟩ := step_waited steps
    rw [point] at before
    rw [same]
    exact ⟨inv.tables.of_eq rfl rfl rfl rfl rfl, before.1.shrink rfl rfl (List.Subset.refl _)⟩
  | waitedInVain =>
    obtain ⟨point, same⟩ := step_waitedInVain steps
    rw [point] at before
    rw [same]
    exact ⟨inv.tables.of_eq rfl rfl rfl rfl rfl, before.1.shrink rfl rfl (List.Subset.refl _), nofun⟩
  | readInfo early late =>
    obtain ⟨mode, final, point, ⟨messages, same⟩ | ⟨transfer, rest, messages, same⟩⟩ :=
      step_readInfo steps
    · rw [same]
      exact inv_raiseIfIdle inv point messages
    · rw [same, ok.1, ok.2]
      exact inv_handleComplete inv point messages
  | callbacksEnd raised accepted =>
    obtain ⟨mode, final, completion, point, same⟩ := step_callbacksEnd steps
    rw [same]
    exact inv_callbacksEnd inv point
  | blockEnd raised =>
    obtain ⟨mode, final, point, ⟨returns, same⟩ | ⟨exception, raises, same⟩⟩ := step_blockEnd steps
    · rw [same]
      exact inv_blockEnd inv point
    · cases raises.symm.trans ok
  | autoclose accepted refusal =>
    obtain ⟨point, same⟩ := step_autoclose steps
    rw [point] at before
    obtain ⟨-, messages, attached, stashes⟩ := before
    rw [same]
    exact inv_autoclose inv.tables messages attached stashes point
  | resume =>
    obtain ⟨outcome, point, same⟩ := step_resume steps
    rw [point] at before
    rw [same]
    refine ⟨inv.tables.of_eq rfl rfl rfl rfl rfl, ?_⟩
    cases outcome with
    | returned => exact ⟨before.1, before.2.1⟩
    | raised exception => exact ⟨before.1, before.2.1⟩

/-! ## Runs -/

/-- What is to hold of the deferred exceptions in a state. -/
structure Protocol (state : State) : Prop where
  /-- A `perform` that ends raises if and only if an exception of a callback was stashed. -/
  raises_iff : ∀ outcome, state.point = .ended outcome →
    ((∃ exception, outcome = .raised exception) ↔ ∃ stash ∈ state.stashes, stash.ofCallback = true)
  /-- It raises the first one. -/
  raises_first : ∀ exception, state.point = .ended (.raised exception) →
    ∃ stash, state.stashes.head? = some stash ∧ stash.exception = exception
  /-- No transfer is attached any more when it raises. -/
  raises_idle : ∀ exception, state.point = .ended (.raised exception) → state.attached = []
  /-- What libcurl drives after a stash was attached then. -/
  starts_nothing : ∀ mode, state.point = .driving mode →
    ∀ stash ∈ state.stashes.head?, ∀ transfer ∈ state.attached, transfer ∈ stash.attached
  /-- It returns with no transfer attached and no exception stashed. -/
  returns_idle : state.point = .ended .returned →
    state.attached = [] ∧ state.deferredException = none

theorem Inv.protocol (inv : Inv state) : Protocol state := by
  have here := inv.atPoint
  refine ⟨?_, ?_, ?_, ?_, ?_⟩
  · intro outcome point
    rw [point] at here
    cases outcome with
    | returned =>
      rw [here.2.2.2]
      exact ⟨fun ⟨exception, same⟩ => (nomatch same), fun ⟨stash, mem, _⟩ => (nomatch mem)⟩
    | raised exception =>
      refine ⟨fun _ => ?_, fun _ => ⟨exception, rfl⟩⟩
      obtain ⟨stash, first, _⟩ := Option.map_eq_some_iff.mp here.2.2.2.1
      have mem := List.mem_of_mem_head? first
      exact ⟨stash, mem, here.2.2.2.2 stash mem⟩
  · intro exception point
    rw [point] at here
    exact Option.map_eq_some_iff.mp here.2.2.2.1
  · intro exception point
    rw [point] at here
    exact here.2.2.1
  · intro mode point stash first
    rw [point] at here
    exact fun transfer mem => here.attached stash first mem
  · intro point
    rw [point] at here
    exact ⟨here.2.2.1, here.1⟩

theorem reached_inv (reached : Reached step StepOk fresh state) : Inv state :=
  reached.invariant inv_fresh fun _ _ _ inv ok steps => inv_step inv ok steps

/-- In every run of either loop that meets the condition the deferred exceptions follow the
protocol. -/
theorem reached_protocol (state : State) (reached : Reached step StepOk fresh state) :
    Protocol state :=
  (reached_inv reached).protocol

/-- A body callback of the first handle raises; the second handle is drained before the exception
is. -/
def bodyCallbackRaises : List Event := [.add 1 true, .add 2 true, .perform .socketAction,
  .dataCallbackRaises 1 (.raised 9 true), .finish (1, 1), .driven, .readInfo none none,
  .callbacksEnd none fun _ => true, .readInfo none none, .blockEnd none, .waited, .finish (2, 1),
  .driven, .readInfo none none, .callbacksEnd none fun _ => true, .readInfo none none]

theorem reached_protocol_bodyCallbackRaises : ∃ state,
    runSteps step fresh bodyCallbackRaises = some state ∧
      state.point = .ended (.raised (.raised 9 true)) ∧ Protocol state := by
  have ends : (runSteps step fresh bodyCallbackRaises).map State.point =
      some (.ended (.raised (.raised 9 true))) := by decide +kernel
  obtain ⟨state, ran, point⟩ := Option.map_eq_some_iff.mp ends
  have meets : RunOk step StepOk fresh bodyCallbackRaises := by
    apply RunOk.of_forall
    simp [bodyCallbackRaises, StepOk, RubyException.isStandardError]
  exact ⟨state, ran, point, reached_protocol state (Reached.run .start meets ran)⟩

/-- The `stderr` of the handle is closed when its transfer completes. -/
def closedStderr : List Event := [.add 1 true, .perform .fdset, .finish (1, 1), .driven,
  .readInfo (some (.raised 9 true)) none, .readInfo none none, .blockEnd none, .readInfo none none,
  .blockEnd none]

/-- A body callback raises an exception that is no `StandardError`. -/
def bodyCallbackExits : List Event := [.add 1 true, .perform .fdset,
  .dataCallbackRaises 1 (.raised 9 false)]

/-- The first run returns with the transfer attached and the exception stashed; the second raises
with the transfer attached and no exception stashed. -/
theorem runSteps_not_protocol :
    (∃ state, runSteps step fresh closedStderr = some state ∧ ¬Protocol state) ∧
      ∃ state, runSteps step fresh bodyCallbackExits = some state ∧ ¬Protocol state := by
  have returns : (runSteps step fresh closedStderr).map (fun state => (state.point, state.attached)) =
      some (.ended .returned, [(1, 1)]) := by decide +kernel
  have exits : (runSteps step fresh bodyCallbackExits).map (fun state => (state.point, state.attached)) =
      some (.ended (.raised (.raised 9 false)), [(1, 1)]) := by decide +kernel
  obtain ⟨state, ran, seen⟩ := Option.map_eq_some_iff.mp returns
  obtain ⟨point, attached⟩ := Prod.mk.inj seen
  obtain ⟨state', ran', seen'⟩ := Option.map_eq_some_iff.mp exits
  obtain ⟨point', attached'⟩ := Prod.mk.inj seen'
  refine ⟨⟨state, ran, fun protocol => ?_⟩, ⟨state', ran', fun protocol => ?_⟩⟩
  · cases attached.symm.trans (protocol.returns_idle point).1
  · cases attached'.symm.trans (protocol.raises_idle _ point')

end Curb.Perform

import Mathlib.Data.List.Nodup
import Curb.Multi.PerformTables
import Curb.Scheduler.Basic

/-!
# The multi that fibers share

Under a fiber scheduler handles are added where the multi does not perform, or in the block given to
`perform`, and none is removed before its transfer is complete. An exception stays deferred only while
a handle is attached, also where a handle's first flush has raised and no message about it is left.
-/

namespace Curb.Scheduler
open Curb.Misc Curb.Ruby
open Curb.Perform (RubyException Outcome Mode Point Completion Transfer)

variable {multi after : Perform.State}

/-! ## Tables -/

/-- The handles attached are counted, and the messages are those of handles that are. -/
structure Counted (multi : Perform.State) : Prop where
  active : multi.active = multi.attached.length
  nodup : (multi.attached.map Prod.fst).Nodup
  messages : multi.messages.Nodup
  subset : multi.messages ⊆ multi.attached
  finished : multi.messages ⊆ multi.finished

theorem Counted.attached_nodup (counted : Counted multi) : multi.attached.Nodup :=
  List.Nodup.of_map Prod.fst counted.nodup

/-- The counts do not depend on the other fields. -/
theorem Counted.of_eq (counted : Counted multi) (attached : after.attached = multi.attached)
    (active : after.active = multi.active) (messages : after.messages = multi.messages)
    (finished : after.finished = multi.finished) : Counted after := by
  refine ⟨?_, ?_, ?_, ?_, ?_⟩
  · rw [active, attached]
    exact counted.active
  · rw [attached]
    exact counted.nodup
  · rw [messages]
    exact counted.messages
  · rw [messages, attached]
    exact counted.subset
  · rw [messages, finished]
    exact counted.finished

theorem counted_add {easy : ObjectId} (counted : Counted multi) : Counted (multi.add easy true) := by
  unfold Perform.State.add
  split
  · exact counted
  · rename_i added
    have absent : multi.hasEasy easy = false := by
      cases has : multi.hasEasy easy with
      | false => rfl
      | true => simp [has] at added
    refine ⟨?_, ?_, counted.messages, ?_, counted.finished⟩
    · show multi.active + 1 = (multi.attached ++ [_]).length
      rw [counted.active, List.length_append]
      rfl
    · show ((multi.attached ++ [_]).map Prod.fst).Nodup
      rw [List.map_append]
      have apart := List.disjoint_singleton.mpr (Perform.hasEasy_eq_false_iff.mp absent)
      exact List.Nodup.append counted.nodup (List.nodup_singleton easy) apart
    · exact fun transfer mem => List.mem_append_left _ (counted.subset mem)

theorem counted_detach {transfer : Transfer} (counted : Counted multi)
    (mem : transfer ∈ multi.attached) : Counted (multi.detach transfer) := by
  refine ⟨?_, ?_, ?_, ?_, ?_⟩
  · show multi.active - 1 = (multi.attached.erase transfer).length
    rw [counted.active, List.length_erase_of_mem mem]
  · exact counted.nodup.sublist (List.erase_sublist.map Prod.fst)
  · exact counted.messages.erase transfer
  · intro other inside
    have kept := (counted.messages.mem_erase_iff).mp inside
    exact (counted.attached_nodup.mem_erase_iff).mpr ⟨kept.1, counted.subset kept.2⟩
  · intro other inside
    have kept := (counted.messages.mem_erase_iff).mp inside
    exact (List.mem_erase_of_ne kept.1).mpr (counted.finished kept.2)

/-- The next message is taken. -/
theorem counted_next {transfer : Transfer} {rest : List Transfer} (counted : Counted multi)
    (next : multi.messages = transfer :: rest) : Counted { multi with messages := rest } := by
  have messages := counted.messages
  have subset := counted.subset
  have finished := counted.finished
  rw [next] at messages subset finished
  exact ⟨counted.active, counted.nodup, (List.nodup_cons.mp messages).2,
    fun other inside => subset (List.mem_cons_of_mem _ inside),
    fun other inside => finished (List.mem_cons_of_mem _ inside)⟩

theorem counted_finish {transfer : Transfer} (counted : Counted multi)
    (mem : transfer ∈ multi.attached) (unfinished : transfer ∉ multi.finished) :
    Counted (multi.finish transfer) := by
  refine ⟨counted.active, counted.nodup, ?_, ?_, ?_⟩
  · have absent : transfer ∉ multi.messages := fun inside => unfinished (counted.finished inside)
    exact List.Nodup.append counted.messages (List.nodup_singleton transfer)
      (List.disjoint_singleton.mpr absent)
  · intro other inside
    rcases List.mem_append.mp inside with old | new
    · exact counted.subset old
    · rw [List.mem_singleton.mp new]
      exact mem
  · intro other inside
    rcases List.mem_append.mp inside with old | new
    · exact List.mem_append_left _ (counted.finished old)
    · exact List.mem_append_right _ new

/-! ## The deferred exception -/

/-- A handle is attached where an exception is deferred. -/
def DeferredAttached (multi : Perform.State) : Prop :=
  multi.deferredException ≠ none → multi.attached ≠ []

/-- A source is named where an exception is deferred. -/
def SourceDeferred (multi : Perform.State) : Prop :=
  multi.deferredExceptionSourceId ≠ none → multi.deferredException ≠ none

/-- What holds at a point of the loop. -/
def AtPoint (multi : Perform.State) : Point → Prop
  | .idle => DeferredAttached multi
  | .driving _ | .block .. | .waiting _ => DeferredAttached multi ∧ SourceDeferred multi
  | .reading .. => SourceDeferred multi
  | .callbacks _ _ completion =>
      SourceDeferred multi ∧ multi.attached ⊆ completion.attachedSnapshot
  | .ended .returned => DeferredAttached multi ∧ SourceDeferred multi
  | .ended (.raised _) => DeferredAttached multi

/-- The invariant of the multi. -/
structure Shared (multi : Perform.State) : Prop where
  counted : Counted multi
  atPoint : AtPoint multi multi.point

theorem atPoint_of {point : Point} (attached : DeferredAttached multi)
    (source : SourceDeferred multi)
    (outside : ∀ mode final completion, point ≠ .callbacks mode final completion) :
    AtPoint multi point := by
  cases point with
  | callbacks mode final completion => exact absurd rfl (outside mode final completion)
  | idle => exact attached
  | reading mode final => exact source
  | ended outcome =>
    cases outcome with
    | returned => exact ⟨attached, source⟩
    | raised exception => exact attached
  | driving mode => exact ⟨attached, source⟩
  | block mode final => exact ⟨attached, source⟩
  | waiting mode => exact ⟨attached, source⟩

theorem shared_fresh : Shared Perform.fresh :=
  ⟨⟨rfl, List.nodup_nil, List.nodup_nil, List.Subset.refl _, List.Subset.refl _⟩,
    fun deferred => absurd rfl deferred⟩

/-- An exception of `easy` is stashed, if there is one, and nothing else changes. -/
structure Stashes (multi after : Perform.State) (easy : ObjectId) (exception : Option RubyException) :
    Prop where
  active : after.active = multi.active
  attached : after.attached = multi.attached
  messages : after.messages = multi.messages
  finished : after.finished = multi.finished
  point : after.point = multi.point
  deferred : after.deferredException = multi.deferredException.or exception
  source : after.deferredExceptionSourceId =
    if multi.deferredException = none ∧ exception ≠ none then some easy
    else multi.deferredExceptionSourceId

theorem stashes_none {easy : ObjectId} : Stashes multi multi easy none :=
  ⟨rfl, rfl, rfl, rfl, rfl, Option.or_none.symm, (if_neg fun stashed => stashed.2 rfl).symm⟩

theorem stashes_stash {easy : ObjectId} {exception : RubyException} {ofCallback : Bool} :
    Stashes multi (multi.stash exception ofCallback easy) easy (some exception) := by
  refine ⟨rfl, rfl, rfl, rfl, rfl, rfl, ?_⟩
  show (if multi.deferredException.isSome then _ else _) = _
  cases multi.deferredException <;> simp

theorem stashes_stashIfAny {easy : ObjectId} {exception : Option RubyException} :
    Stashes multi (multi.stashIfAny exception easy) easy exception := by
  cases exception with
  | none => exact stashes_none
  | some exception => exact stashes_stash

/-- What is stashed twice is stashed once. -/
theorem Stashes.again {twice : Perform.State} {easy : ObjectId} {exception : RubyException}
    (first : Stashes multi after easy (some exception))
    (second : Stashes after twice easy (some exception)) :
    Stashes multi twice easy (some exception) := by
  have deferred : after.deferredException ≠ none := by
    rw [first.deferred]
    cases multi.deferredException <;> nofun
  refine ⟨second.active.trans first.active, second.attached.trans first.attached,
    second.messages.trans first.messages, second.finished.trans first.finished,
    second.point.trans first.point, ?_, ?_⟩
  · rw [second.deferred, first.deferred]
    cases multi.deferredException <;> rfl
  · rw [second.source, if_neg fun stashed => deferred stashed.1, first.source]

theorem Stashes.counted {easy : ObjectId} {exception : Option RubyException}
    (stashes : Stashes multi after easy exception) (counted : Counted multi) : Counted after :=
  counted.of_eq stashes.attached stashes.active stashes.messages stashes.finished

theorem Stashes.sourceDeferred {easy : ObjectId} {exception : Option RubyException}
    (stashes : Stashes multi after easy exception) (source : SourceDeferred multi) :
    SourceDeferred after := by
  intro named
  rw [stashes.source] at named
  rw [stashes.deferred]
  by_cases stashed : multi.deferredException = none ∧ exception ≠ none
  · rw [stashed.1]
    exact stashed.2
  · rw [if_neg stashed] at named
    obtain ⟨deferred, same⟩ := Option.ne_none_iff_exists'.mp (source named)
    rw [same]
    nofun

/-- The source of what is deferred is `easy` where nothing was deferred before. -/
theorem Stashes.named {easy : ObjectId} {exception : Option RubyException}
    (stashes : Stashes multi after easy exception) (raised : exception ≠ none)
    (own : multi.deferredException ≠ none → multi.deferredExceptionSourceId = some easy) :
    after.deferredException ≠ none ∧ after.deferredExceptionSourceId = some easy := by
  rw [stashes.deferred, stashes.source]
  cases deferred : multi.deferredException with
  | none => exact ⟨raised, if_pos ⟨rfl, raised⟩⟩
  | some first =>
    refine ⟨nofun, ?_⟩
    rw [if_neg fun stashed => nomatch stashed.1]
    exact own (deferred ▸ nofun)

/-- Adding a handle changes neither the point nor what is deferred. -/
theorem add_keeps (multi : Perform.State) (easy : ObjectId) :
    (multi.add easy true).point = multi.point ∧
      (multi.add easy true).deferredException = multi.deferredException ∧
      (multi.add easy true).deferredExceptionSourceId = multi.deferredExceptionSourceId ∧
      (multi.attached ⊆ (multi.add easy true).attached) := by
  unfold Perform.State.add
  split
  · exact ⟨rfl, rfl, rfl, List.Subset.refl _⟩
  · exact ⟨rfl, rfl, rfl, fun transfer mem => List.mem_append_left _ mem⟩

theorem deferredAttached_add {easy : ObjectId} (attached : DeferredAttached multi) :
    DeferredAttached (multi.add easy true) := by
  obtain ⟨-, deferred, -, more⟩ := add_keeps multi easy
  intro some none
  rw [deferred] at some
  apply attached some
  rw [none] at more
  exact List.subset_nil.mp more

/-- A handle may be added where the multi does not perform, and in the block. -/
theorem shared_add {easy : ObjectId} (shared : Shared multi)
    (place : multi.point = .idle ∨ ∃ mode final, multi.point = .block mode final) :
    Shared (multi.add easy true) := by
  have before := shared.atPoint
  obtain ⟨point, deferred, source, -⟩ := add_keeps multi easy
  refine ⟨counted_add shared.counted, ?_⟩
  rw [point]
  rcases place with idle | ⟨mode, final, block⟩
  · rw [idle] at before ⊢
    exact deferredAttached_add before
  · rw [block] at before ⊢
    refine ⟨deferredAttached_add before.1, fun some => ?_⟩
    rw [source] at some
    rw [deferred]
    exact before.2 some

/-! ## The loops -/

/-- Between two reads no handle is let go, nothing is deferred, and the multi is in libcurl, before a
read, or at the end of `perform`. -/
structure Drives (multi after : Perform.State) : Prop where
  counted : Counted multi → Counted after
  attached : after.attached = multi.attached
  deferred : after.deferredException = multi.deferredException
  source : after.deferredExceptionSourceId = multi.deferredExceptionSourceId
  point : (∃ mode, after.point = .driving mode) ∨ (∃ mode final, after.point = .reading mode final) ∨
    ∃ exception, after.point = .ended (.raised exception)
  from_loop : (∃ mode, multi.point = .driving mode) ∨ ∃ mode, multi.point = .waiting mode

theorem step_fails {exception : RubyException}
    (steps : Perform.step multi (.fails exception) = some after) :
    ((∃ mode, multi.point = .driving mode) ∨ ∃ mode, multi.point = .waiting mode) ∧
      after = { multi with point := .ended (.raised exception) } := by
  dsimp only [Perform.step] at steps
  split at steps
  · rename_i mode point
    exact ⟨Or.inl ⟨mode, point⟩, (Option.some.inj steps).symm⟩
  · rename_i mode point
    exact ⟨Or.inr ⟨mode, point⟩, (Option.some.inj steps).symm⟩
  · cases steps

theorem drives_step {event : Perform.Event} (among : drives event = true)
    (steps : Perform.step multi event = some after) : Drives multi after := by
  cases event with
  | finish transfer =>
    obtain ⟨mode, point, mem, unfinished, same⟩ := Perform.step_finish steps
    rw [same]
    exact ⟨fun counted => counted_finish counted mem unfinished, rfl, rfl, rfl, Or.inl ⟨mode, point⟩,
      Or.inl ⟨mode, point⟩⟩
  | dataCallbackRaises easy exception =>
    obtain ⟨mode, point, -, same⟩ := Perform.step_dataCallbackRaises steps
    rw [same]
    unfold Perform.State.dataCallbackRaises
    split
    · exact ⟨fun counted => counted.of_eq rfl rfl rfl rfl, rfl, rfl, rfl, Or.inl ⟨mode, point⟩,
        Or.inl ⟨mode, point⟩⟩
    · exact ⟨fun counted => counted.of_eq rfl rfl rfl rfl, rfl, rfl, rfl,
        Or.inr (Or.inr ⟨exception, rfl⟩), Or.inl ⟨mode, point⟩⟩
  | acted =>
    obtain ⟨mode, point, same⟩ := Perform.step_acted steps
    rw [same]
    exact ⟨fun counted => counted.of_eq rfl rfl rfl rfl, rfl, rfl, rfl, Or.inl ⟨mode, point⟩,
      Or.inl ⟨mode, point⟩⟩
  | driven =>
    obtain ⟨mode, point, same⟩ := Perform.step_driven steps
    rw [same]
    exact ⟨fun counted => counted.of_eq rfl rfl rfl rfl, rfl, rfl, rfl,
      Or.inr (Or.inl ⟨mode, false, rfl⟩), Or.inl ⟨mode, point⟩⟩
  | fails exception =>
    obtain ⟨place, same⟩ := step_fails steps
    rw [same]
    exact ⟨fun counted => counted.of_eq rfl rfl rfl rfl, rfl, rfl, rfl,
      Or.inr (Or.inr ⟨exception, rfl⟩), place⟩
  | waited =>
    obtain ⟨mode, point, same⟩ := Perform.step_waited steps
    rw [same]
    exact ⟨fun counted => counted.of_eq rfl rfl rfl rfl, rfl, rfl, rfl, Or.inl ⟨mode, rfl⟩,
      Or.inr ⟨mode, point⟩⟩
  | waitedInVain =>
    obtain ⟨point, same⟩ := Perform.step_waitedInVain steps
    rw [same]
    exact ⟨fun counted => counted.of_eq rfl rfl rfl rfl, rfl, rfl, rfl,
      Or.inr (Or.inl ⟨.socketAction, false, rfl⟩), Or.inr ⟨.socketAction, point⟩⟩
  | add easy accepted => cases among
  | remove easy accepted => cases among
  | perform mode => cases among
  | readInfo early late => cases among
  | callbacksEnd raised accepted => cases among
  | blockEnd raised => cases among
  | preflightRaises exception => cases among
  | autoclose accepted refusal => cases among
  | resume => cases among

theorem Drives.shared (step : Drives multi after) (shared : Shared multi) : Shared after := by
  have before : DeferredAttached multi ∧ SourceDeferred multi := by
    have here := shared.atPoint
    rcases step.from_loop with ⟨mode, point⟩ | ⟨mode, point⟩ <;>
      · rw [point] at here
        exact here
  have attached : DeferredAttached after := by
    unfold DeferredAttached
    rw [step.deferred, step.attached]
    exact before.1
  have source : SourceDeferred after := by
    unfold SourceDeferred
    rw [step.deferred, step.source]
    exact before.2
  refine ⟨step.counted shared.counted, ?_⟩
  rcases step.point with ⟨mode, point⟩ | ⟨mode, final, point⟩ | ⟨exception, point⟩
  · rw [point]
    exact ⟨attached, source⟩
  · rw [point]
    exact source
  · rw [point]
    exact attached

/-! ## Completions -/

/-- What the end of the callbacks stashes. -/
def stashed (completion : Completion) : Option RubyException → Option RubyException
  | none => completion.callbackError
  | some exception =>
      if exception.isStandardError then
        some (completion.callbackError.getD (.abortedByCallback exception))
      else some exception

theorem removeAdded_eq {snapshot : List Transfer} {accepted : ObjectId → Bool}
    (subset : multi.attached ⊆ snapshot) :
    multi.removeAddedEasiesSinceSnapshot snapshot accepted = multi := by
  have none : (multi.attached.filter fun transfer => transfer ∉ snapshot) = [] := by
    rw [List.filter_eq_nil_iff]
    intro transfer mem
    rw [decide_eq_true_eq, not_not]
    exact subset mem
  unfold Perform.State.removeAddedEasiesSinceSnapshot
  rw [none]
  rfl

/-- No handle is added while callbacks run, so none is taken off again. -/
theorem stashes_callbacksEnd {completion : Completion} {raised : Option RubyException}
    {accepted : ObjectId → Bool} (subset : multi.attached ⊆ completion.attachedSnapshot) :
    Stashes multi (multi.callbacksEnd completion raised accepted) completion.transfer.1
      (stashed completion raised) := by
  cases raised with
  | none => exact stashes_stashIfAny
  | some exception =>
    unfold Perform.State.callbacksEnd stashed
    by_cases standard : exception.isStandardError = true
    · cases completion.callbackError with
      | some callbackError =>
        simp only [if_pos standard]
        exact stashes_stash
      | none =>
        simp only [if_pos standard]
        have kept : (multi.stash exception.abortedByCallback true completion.transfer.1).attached ⊆
            completion.attachedSnapshot := subset
        rw [removeAdded_eq kept]
        exact stashes_stash.again stashes_stash
    · simp only [if_neg standard]
      exact stashes_stash

/-- The end of the callbacks goes on with the messages. -/
theorem shared_callbacksEnd {mode : Perform.Mode} {final : Bool} {completion : Completion}
    {raised : Option RubyException} {accepted : ObjectId → Bool} (shared : Shared multi)
    (point : multi.point = .callbacks mode final completion) :
    Shared ({ multi with point := .reading mode final }.callbacksEnd completion raised accepted) := by
  have before := shared.atPoint
  rw [point] at before
  have stashes := @stashes_callbacksEnd { multi with point := .reading mode final } completion raised
    accepted before.2
  refine ⟨stashes.counted (shared.counted.of_eq rfl rfl rfl rfl), ?_⟩
  rw [stashes.point]
  exact stashes.sourceDeferred before.1

/-- What one round of reading messages is. -/
inductive Reads (multi : Perform.State) (early late : Option RubyException) (after : Perform.State) :
    Prop where
  /-- No message is left, and nothing is deferred, or handles are attached. -/
  | ends (mode : Perform.Mode) (final : Bool) (messages : multi.messages = [])
      (kept : multi.deferredException ≠ none → multi.attached ≠ [])
      (same : after = { multi with point := .block mode final })
  /-- The deferred exception is raised. -/
  | raises (exception : RubyException) (deferred : multi.deferredException = some exception)
      (messages : multi.messages = []) (idle : multi.attached = [])
      (same : after = { multi with
        deferredException := none
        point := .ended (.raised exception) })
  /-- The first flush raises. -/
  | early (exception : RubyException) (transfer : Transfer) (rest : List Transfer)
      (messages : multi.messages = transfer :: rest) (raised : early = some exception)
      (stashes : Stashes { multi with messages := rest } after transfer.1 (some exception))
  /-- The second flush raises. -/
  | late (exception : RubyException) (transfer : Transfer) (rest : List Transfer)
      (messages : multi.messages = transfer :: rest) (lets : early = none)
      (raised : late = some exception)
      (stashes : Stashes ({ multi with messages := rest }.detach transfer) after transfer.1
        (some exception))
  /-- The callbacks of the handle begin. -/
  | callbacks (mode : Perform.Mode) (final : Bool) (transfer : Transfer) (rest : List Transfer)
      (messages : multi.messages = transfer :: rest) (lets : early = none ∧ late = none)
      (stashes : Stashes { { multi with messages := rest }.detach transfer with
        callbackError := Function.update multi.callbackError transfer.1 none
        point := .callbacks mode final
          ⟨transfer, multi.attached.erase transfer, multi.callbackError transfer.1⟩ }
        after transfer.1 (multi.callbackError transfer.1))

theorem reads_step {early late : Option RubyException} (counted : Counted multi)
    (steps : Perform.step multi (.readInfo early late) = some after) : 
    (∃ mode final, multi.point = .reading mode final) ∧ Reads multi early late after := by
  obtain ⟨mode, final, point, ⟨messages, same⟩ | ⟨transfer, rest, messages, same⟩⟩ :=
    Perform.step_readInfo steps
  · refine ⟨⟨mode, final, point⟩, ?_⟩
    unfold Perform.State.raiseIfIdle at same
    split at same
    · rename_i nothing
      exact .ends mode final messages (fun deferred => absurd nothing deferred) same
    · rename_i exception deferred
      split at same
      · rename_i active
        refine .ends mode final messages (fun _ idle => ?_) same
        rw [counted.active, idle] at active
        exact Nat.lt_irrefl 0 active
      · rename_i idle
        rw [counted.active] at idle
        exact .raises exception deferred messages
          (List.eq_nil_of_length_eq_zero (Nat.eq_zero_of_not_pos idle)) same
  · refine ⟨⟨mode, final, point⟩, ?_⟩
    rw [same]
    cases early with
    | some exception => exact .early exception transfer rest messages rfl stashes_stash
    | none =>
      cases late with
      | some exception => exact .late exception transfer rest messages rfl rfl stashes_stash
      | none => exact .callbacks mode final transfer rest messages ⟨rfl, rfl⟩ stashes_stashIfAny

theorem Reads.shared {early late : Option RubyException} (reads : Reads multi early late after)
    (shared : Shared multi) (point : ∃ mode final, multi.point = .reading mode final) :
    Shared after := by
  obtain ⟨mode, final, point⟩ := point
  have counted := shared.counted
  have source : SourceDeferred multi := by
    have here := shared.atPoint
    rw [point] at here
    exact here
  cases reads with
  | ends mode final messages kept same =>
    rw [same]
    exact ⟨counted.of_eq rfl rfl rfl rfl, kept, source⟩
  | raises exception deferred messages idle same =>
    rw [same]
    exact ⟨counted.of_eq rfl rfl rfl rfl, fun some => absurd rfl some⟩
  | early exception transfer rest messages raised stashes =>
    refine ⟨stashes.counted (counted_next counted messages), ?_⟩
    rw [stashes.point, point]
    exact stashes.sourceDeferred source
  | late exception transfer rest messages lets raised stashes =>
    have mem : transfer ∈ multi.attached := counted.subset (messages ▸ List.mem_cons_self)
    refine ⟨stashes.counted (counted_detach (counted_next counted messages) mem), ?_⟩
    rw [stashes.point]
    show AtPoint after multi.point
    rw [point]
    exact stashes.sourceDeferred source
  | callbacks mode final transfer rest messages lets stashes =>
    have mem : transfer ∈ multi.attached := counted.subset (messages ▸ List.mem_cons_self)
    have detached := counted_detach (counted_next counted messages) mem
    refine ⟨stashes.counted (detached.of_eq rfl rfl rfl rfl), ?_⟩
    rw [stashes.point]
    refine ⟨stashes.sourceDeferred source, ?_⟩
    rw [stashes.attached]
    exact List.Subset.refl _

/-! ## The block -/

/-- After the block only the point is another. -/
theorem blockEnd_step {raised : Option RubyException}
    (steps : Perform.step multi (.blockEnd raised) = some after) :
    (∃ mode final, multi.point = .block mode final) ∧
      after = { multi with point := after.point } ∧ after.point ≠ .idle ∧
      ∀ mode final completion, after.point ≠ .callbacks mode final completion := by
  obtain ⟨mode, final, point, ⟨-, same⟩ | ⟨exception, -, same⟩⟩ := Perform.step_blockEnd steps
  · refine ⟨⟨mode, final, point⟩, ?_⟩
    have loopHead : ∀ mode, multi.loopHead mode = { multi with
        point := (multi.loopHead mode).point } ∧ (multi.loopHead mode).point ≠ .idle ∧
        ∀ mode' final completion, (multi.loopHead mode).point ≠ .callbacks mode' final completion := by
      intro mode
      unfold Perform.State.loopHead
      split <;> exact ⟨rfl, nofun, nofun⟩
    rw [same]
    cases final with
    | false => exact loopHead mode
    | true =>
      unfold Perform.State.blockEnd
      rw [if_pos rfl]
      split
      · cases mode with
        | fdset => exact loopHead .fdset
        | socketAction => exact ⟨rfl, nofun, nofun⟩
      · exact ⟨rfl, nofun, nofun⟩
  · rw [same]
    exact ⟨⟨mode, final, point⟩, rfl, nofun, nofun⟩

theorem shared_blockEnd {raised : Option RubyException} (shared : Shared multi)
    (steps : Perform.step multi (.blockEnd raised) = some after) : Shared after := by
  obtain ⟨⟨mode, final, point⟩, same, -, outside⟩ := blockEnd_step steps
  have before := shared.atPoint
  rw [point] at before
  rw [same] at outside ⊢
  exact ⟨shared.counted.of_eq rfl rfl rfl rfl, atPoint_of before.1 before.2 outside⟩

theorem shared_performBegin {mode : Perform.Mode} (shared : Shared multi) (idle : multi.point = .idle) :
    Shared (multi.performBegin mode) := by
  have before := shared.atPoint
  rw [idle] at before
  refine ⟨shared.counted.of_eq rfl rfl rfl rfl, before, ?_⟩
  unfold SourceDeferred Perform.State.performBegin
  cases multi.deferredException with
  | none => exact fun named => absurd rfl named
  | some exception => exact fun _ => nofun

/-! ## Closing -/

/-- The multi is closed, or the handles up to the one that libcurl refuses are removed. -/
inductive Closes (multi : Perform.State) (accepted : ObjectId → Bool) (refusal : RubyException)
    (after : Perform.State) : Prop where
  | closed (lets : (multi.attached.all fun transfer => accepted transfer.1) = true) (attached : after.attached = [])
      (deferred : after.deferredException = none) (source : after.deferredExceptionSourceId = none)
      (point : after.point = multi.point)
  | refused (holds : (multi.attached.all fun transfer => accepted transfer.1) = false)
      (attached : after.attached = multi.attached.dropWhile fun transfer => accepted transfer.1)
      (deferred : after.deferredException = multi.deferredException)
      (source : after.deferredExceptionSourceId = multi.deferredExceptionSourceId)
      (point : after.point = .ended (.raised refusal))

theorem closes_autoclose (multi : Perform.State) (accepted : ObjectId → Bool) (refusal : RubyException) :
    Closes multi accepted refusal (multi.autoclose accepted refusal) := by
  have parts := (List.takeWhile_append_dropWhile (p := fun transfer : Transfer => accepted transfer.1)
    (l := multi.attached)).symm
  have left := Perform.foldl_detach_attached parts
  have same := Perform.foldl_detach_same multi (multi.attached.takeWhile fun transfer => accepted transfer.1)
  have deferred := congrArg Perform.State.deferredException same
  have source := congrArg Perform.State.deferredExceptionSourceId same
  unfold Perform.State.autoclose
  cases lets : multi.attached.all fun transfer => accepted transfer.1 with
  | true =>
    rw [if_pos rfl]
    refine .closed lets (left.trans ?_) rfl rfl ?_
    · rw [List.dropWhile_eq_nil_iff]
      exact List.all_eq_true.mp lets
    · exact Perform.foldl_detach_point ..
  | false =>
    rw [if_neg Bool.false_ne_true]
    exact .refused lets left deferred source rfl

theorem counted_foldl_detach {first rest : List Transfer} (counted : Counted multi)
    (attached : multi.attached = first ++ rest) : Counted (first.foldl Perform.State.detach multi) := by
  induction first generalizing multi with
  | nil => exact counted
  | cons transfer first ih =>
    refine ih (counted_detach counted (attached ▸ List.mem_cons_self)) ?_
    show multi.attached.erase transfer = first ++ rest
    rw [attached]
    exact List.erase_cons_head ..

theorem counted_autoclose {accepted : ObjectId → Bool} {refusal : RubyException} (counted : Counted multi) :
    Counted (multi.autoclose accepted refusal) := by
  have parts := (List.takeWhile_append_dropWhile (p := fun transfer : Transfer => accepted transfer.1)
    (l := multi.attached)).symm
  have removed := counted_foldl_detach counted parts
  have left := Perform.foldl_detach_attached parts
  unfold Perform.State.autoclose
  dsimp only
  split
  · rename_i lets
    have none : multi.attached.dropWhile (fun transfer => accepted transfer.1) = [] := by
      rw [List.dropWhile_eq_nil_iff]
      exact List.all_eq_true.mp lets
    exact ⟨(congrArg List.length (left.trans none)).symm, removed.nodup, removed.messages, removed.subset,
      removed.finished⟩
  · exact removed.of_eq rfl rfl rfl rfl

theorem shared_autoclose {accepted : ObjectId → Bool} {refusal : RubyException} (shared : Shared multi)
    (point : multi.point = .ended .returned) : Shared (multi.autoclose accepted refusal) := by
  have before := shared.atPoint
  rw [point] at before
  refine ⟨counted_autoclose shared.counted, ?_⟩
  cases closes_autoclose multi accepted refusal with
  | closed lets attached deferred source point' =>
    rw [point', point]
    exact ⟨fun some => absurd deferred some, fun some => absurd source some⟩
  | refused holds attached deferred source point' =>
    rw [point']
    intro _ nothing
    rw [attached, List.dropWhile_eq_nil_iff] at nothing
    rw [List.all_eq_true.mpr nothing] at holds
    cases holds

/-- `perform` is over. -/
theorem shared_ended {outcome : Outcome} (shared : Shared multi) (point : multi.point = .ended outcome) :
    Shared { multi with point := .idle } := by
  have before := shared.atPoint
  rw [point] at before
  refine ⟨shared.counted.of_eq rfl rfl rfl rfl, ?_⟩
  cases outcome with
  | returned => exact before.1
  | raised exception => exact before

end Curb.Scheduler

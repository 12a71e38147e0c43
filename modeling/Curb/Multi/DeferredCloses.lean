import Mathlib.Logic.Function.Basic
import Mathlib.Data.List.Nodup
import Curb.Misc.Runs
import Curb.Ruby.Basic

/-!
# Closes that are deferred

Multis that cannot be closed wait in a queue (`lib/curl/easy.rb:16-87`). A flush takes its entries out
under the mutex, closes them one after the other without it, and puts back what cannot be closed. The
mutex is there from the beginning; other threads come in between any two of these steps.
-/

namespace Curb.DeferredCloses
open Curb.Misc Curb.Ruby

/-- An entry of `deferred_multi_closes`; its owner is a thread. -/
structure Entry where
  multi : ObjectId
  easy : ObjectId
  owner : ObjectId
  deriving DecidableEq, Repr

/-- A call of `flush_deferred_multi_closes`, with the entries it has still to release. -/
structure Flush where
  thread : ObjectId
  allThreads : Bool
  pending : List Entry
  deriving DecidableEq, Repr

structure State where
  queue : List Entry
  flushes : Nat → Flush
  /-- The multis that have been deferred. -/
  deferred : List ObjectId
  /-- Those that have been released since. -/
  released : List ObjectId

/-- Nothing is deferred. -/
def empty : State := ⟨[], fun _ => ⟨0, false, []⟩, [], []⟩

inductive Event where
  /-- A thread calls `defer_multi_close`. -/
  | defer (entry : Entry)
  /-- A thread calls `flush_deferred_multi_closes` and takes its entries. -/
  | flush (flush : Nat) (thread : ObjectId) (allThreads : Bool)
  /-- The flush releases its next entry, or puts it back. -/
  | release (flush : Nat) (released : Bool)

def hasMulti (multi : ObjectId) (entries : List Entry) : Bool := entries.any fun entry => entry.multi == multi

/-- `defer_multi_close` (`easy.rb:43-52`). -/
def defer (state : State) (entry : Entry) : State :=
  if hasMulti entry.multi state.queue then state
  else { state with
    queue := state.queue ++ [entry]
    deferred := entry.multi :: state.deferred
    released := state.released.filter fun multi => multi ≠ entry.multi }

/-- What a flush takes (`easy.rb:56-77`). -/
def takes (thread : ObjectId) (allThreads : Bool) (entry : Entry) : Bool :=
  allThreads || entry.owner == thread

def setPending (state : State) (flush : Nat) (pending : List Entry) : State :=
  { state with
    flushes := Function.update state.flushes flush { state.flushes flush with pending := pending } }

def step (state : State) : Event → Option State
  | .defer entry => some (defer state entry)
  | .flush flush thread allThreads =>
      if (state.flushes flush).pending = [] then some { state with
        queue := state.queue.filter fun entry => !takes thread allThreads entry
        flushes := Function.update state.flushes flush
          ⟨thread, allThreads, state.queue.filter (takes thread allThreads)⟩ }
      else none
  | .release flush ok =>
      match (state.flushes flush).pending with
      | [] => none
      | entry :: rest =>
          let taken := setPending state flush rest
          if ok then some { taken with released := entry.multi :: state.released }
          else some (defer taken entry)

/-! ## Where a multi is -/

def InQueue (state : State) (multi : ObjectId) : Prop := ∃ entry ∈ state.queue, entry.multi = multi

def InHands (state : State) (flush : Nat) (multi : ObjectId) : Prop :=
  ∃ entry ∈ (state.flushes flush).pending, entry.multi = multi

/-- Every deferred multi is in one place, once, and a flush has only what it may release. -/
structure Placed (state : State) : Prop where
  somewhere : ∀ multi ∈ state.deferred,
    InQueue state multi ∨ (∃ flush, InHands state flush multi) ∨ multi ∈ state.released
  oneHand : ∀ multi flush other, InHands state flush multi → InHands state other multi → flush = other
  queueApart : ∀ multi flush, InQueue state multi → ¬InHands state flush multi
  releasedApart : ∀ multi ∈ state.released, ¬InQueue state multi ∧ ∀ flush, ¬InHands state flush multi
  onceInQueue : (state.queue.map Entry.multi).Nodup
  onceInHands : ∀ flush, ((state.flushes flush).pending.map Entry.multi).Nodup
  owned : ∀ flush, (state.flushes flush).allThreads = false →
    ∀ entry ∈ (state.flushes flush).pending, entry.owner = (state.flushes flush).thread

/-- Deferred multis are placed, and an entry that is not released is queued again as it was. -/
structure NeitherLostNorStolen (state : State) : Prop where
  placed : Placed state
  requeued : ∀ flush entry rest after, (state.flushes flush).pending = entry :: rest →
    step state (.release flush false) = some after → entry ∈ after.queue

/-- No multi is deferred while a flush has it. -/
def Calm (state : State) : Event → Prop
  | .defer entry => ∀ flush, ¬InHands state flush entry.multi
  | _ => True

variable {state after : State} {entry : Entry} {multi : ObjectId} {flush : Nat}

/-! ## Steps -/

theorem hasMulti_iff {entries : List Entry} :
    hasMulti multi entries = true ↔ ∃ entry ∈ entries, entry.multi = multi := by
  simp only [hasMulti, List.any_eq_true, beq_iff_eq]

@[simp] theorem setPending_self (pending : List Entry) :
    (setPending state flush pending).flushes flush = { state.flushes flush with pending := pending } :=
  Function.update_self _ _ _

theorem setPending_of_ne (pending : List Entry) {other : Nat} (differs : other ≠ flush) :
    (setPending state flush pending).flushes other = state.flushes other :=
  Function.update_of_ne differs _ _

theorem defer_of_queued (queued : InQueue state entry.multi) : defer state entry = state :=
  if_pos (hasMulti_iff.mpr queued)

theorem defer_of_absent (absent : ¬InQueue state entry.multi) :
    defer state entry = { state with
      queue := state.queue ++ [entry]
      deferred := entry.multi :: state.deferred
      released := state.released.filter fun multi => multi ≠ entry.multi } :=
  if_neg fun queued => absent (hasMulti_iff.mp queued)

/-- What a step does: it defers, it moves entries from the queue to a flush, it releases an entry of a
flush, or it takes one from a flush and defers it. -/
theorem step_cases {event : Event} (steps : step state event = some after) :
    (∃ entry, event = .defer entry ∧ after = defer state entry) ∨
      (∃ flush thread allThreads, event = .flush flush thread allThreads ∧
        (state.flushes flush).pending = [] ∧ after = { state with
          queue := state.queue.filter fun entry => !takes thread allThreads entry
          flushes := Function.update state.flushes flush
            ⟨thread, allThreads, state.queue.filter (takes thread allThreads)⟩ }) ∨
      ∃ flush ok entry rest, event = .release flush ok ∧
        (state.flushes flush).pending = entry :: rest ∧
        (ok = true ∧ after = { setPending state flush rest with released := entry.multi :: state.released } ∨
          ok = false ∧ after = defer (setPending state flush rest) entry) := by
  cases event with
  | defer entry => exact Or.inl ⟨entry, rfl, (Option.some.inj steps).symm⟩
  | flush flush thread allThreads =>
    unfold step at steps
    dsimp only at steps
    split at steps
    · rename_i idle
      exact Or.inr (Or.inl ⟨flush, thread, allThreads, rfl, idle, (Option.some.inj steps).symm⟩)
    · cases steps
  | release flush ok =>
    unfold step at steps
    dsimp only at steps
    split at steps
    · cases steps
    · rename_i entry rest pending
      refine Or.inr (Or.inr ⟨flush, ok, entry, rest, rfl, pending, ?_⟩)
      cases ok with
      | true => exact Or.inl ⟨rfl, (Option.some.inj steps).symm⟩
      | false => exact Or.inr ⟨rfl, (Option.some.inj steps).symm⟩

theorem inQueue_append : InQueue { state with queue := state.queue ++ [entry] } multi ↔
    InQueue state multi ∨ entry.multi = multi := by
  simp only [InQueue, List.mem_append, List.mem_singleton, or_and_right, exists_or, exists_eq_left]

theorem inHands_head {rest : List Entry} (pending : (state.flushes flush).pending = entry :: rest) :
    InHands state flush entry.multi := by
  refine ⟨entry, ?_, rfl⟩
  rw [pending]
  exact List.mem_cons_self

/-! ## What the steps keep -/

/-- A multi that no flush has is deferred. -/
theorem placed_defer (placed : Placed state) (free : ∀ flush, ¬InHands state flush entry.multi) :
    Placed (defer state entry) := by
  by_cases queued : InQueue state entry.multi
  · rw [defer_of_queued queued]
    exact placed
  · rw [defer_of_absent queued]
    have inQueue (multi : ObjectId) : InQueue { state with
        queue := state.queue ++ [entry]
        deferred := entry.multi :: state.deferred
        released := state.released.filter fun multi => multi ≠ entry.multi } multi ↔
          InQueue state multi ∨ entry.multi = multi := inQueue_append
    refine ⟨?_, placed.oneHand, ?_, ?_, ?_, placed.onceInHands, placed.owned⟩
    · intro multi mem
      rw [inQueue]
      by_cases same : entry.multi = multi
      · exact Or.inl (Or.inr same)
      · have known := (List.mem_cons.mp mem).resolve_left fun isEntry => same isEntry.symm
        rcases placed.somewhere multi known with waits | held | gone
        · exact Or.inl (Or.inl waits)
        · exact Or.inr (Or.inl held)
        · refine Or.inr (Or.inr (List.mem_filter.mpr ⟨gone, ?_⟩))
          exact decide_eq_true fun isEntry => same isEntry.symm
    · intro multi flush waits
      rcases (inQueue multi).mp waits with already | rfl
      · exact placed.queueApart multi flush already
      · exact free flush
    · intro multi mem
      obtain ⟨gone, differs⟩ := List.mem_filter.mp mem
      obtain ⟨notQueued, notHeld⟩ := placed.releasedApart multi gone
      refine ⟨fun waits => ?_, notHeld⟩
      rcases (inQueue multi).mp waits with already | same
      · exact notQueued already
      · exact of_decide_eq_true differs same.symm
    · rw [List.map_append, List.map_singleton]
      refine List.Nodup.append placed.onceInQueue (List.nodup_singleton _) ?_
      intro multi mem new
      obtain ⟨other, inside, same⟩ := List.mem_map.mp mem
      exact queued ⟨other, inside, same.trans (List.mem_singleton.mp new)⟩

/-- Entries go from the queue to a flush that has none. -/
theorem placed_flush {thread : ObjectId} {allThreads : Bool} (placed : Placed state)
    (idle : (state.flushes flush).pending = []) :
    Placed { state with
      queue := state.queue.filter fun entry => !takes thread allThreads entry
      flushes := Function.update state.flushes flush
        ⟨thread, allThreads, state.queue.filter (takes thread allThreads)⟩ } := by
  let taken : State := { state with
    queue := state.queue.filter fun entry => !takes thread allThreads entry
    flushes := Function.update state.flushes flush
      ⟨thread, allThreads, state.queue.filter (takes thread allThreads)⟩ }
  show Placed taken
  have here : taken.flushes flush = ⟨thread, allThreads, state.queue.filter (takes thread allThreads)⟩ :=
    Function.update_self _ _ _
  have others {other : Nat} (differs : other ≠ flush) : taken.flushes other = state.flushes other :=
    Function.update_of_ne differs _ _
  have waited {multi : ObjectId} (waits : InQueue taken multi) : InQueue state multi := by
    obtain ⟨entry, mem, same⟩ := waits
    exact ⟨entry, List.mem_of_mem_filter mem, same⟩
  have held {other : Nat} {multi : ObjectId} (holds : InHands taken other multi) :
      other = flush ∧ InQueue state multi ∨ other ≠ flush ∧ InHands state other multi := by
    obtain ⟨entry, mem, same⟩ := holds
    by_cases isFlush : other = flush
    · rw [isFlush, here] at mem
      exact Or.inl ⟨isFlush, entry, List.mem_of_mem_filter mem, same⟩
    · rw [others isFlush] at mem
      exact Or.inr ⟨isFlush, entry, mem, same⟩
  refine ⟨?_, ?_, ?_, ?_, ?_, ?_, ?_⟩
  · intro multi mem
    rcases placed.somewhere multi mem with ⟨entry, inside, same⟩ | ⟨other, entry, inside, same⟩ | gone
    · cases takes_ : takes thread allThreads entry with
      | true =>
        refine Or.inr (Or.inl ⟨flush, entry, ?_, same⟩)
        rw [here]
        exact List.mem_filter.mpr ⟨inside, takes_⟩
      | false => exact Or.inl ⟨entry, List.mem_filter.mpr ⟨inside, by rw [takes_]; rfl⟩, same⟩
    · refine Or.inr (Or.inl ⟨other, entry, ?_, same⟩)
      have differs : other ≠ flush := by
        rintro rfl
        rw [idle] at inside
        cases inside
      rwa [others differs]
    · exact Or.inr (Or.inr gone)
  · intro multi first second inFirst inSecond
    rcases held inFirst with ⟨rfl, waits⟩ | ⟨differs, holds⟩
    · rcases held inSecond with ⟨rfl, _⟩ | ⟨_, holds'⟩
      · rfl
      · exact absurd holds' (placed.queueApart multi _ waits)
    · rcases held inSecond with ⟨_, waits⟩ | ⟨_, holds'⟩
      · exact absurd holds (placed.queueApart multi _ waits)
      · exact placed.oneHand multi first second holds holds'
  · intro multi other waits holds
    rcases held holds with ⟨rfl, _⟩ | ⟨_, holds'⟩
    · obtain ⟨entry, mem, same⟩ := waits
      obtain ⟨entry', mem', same'⟩ := holds
      rw [here] at mem'
      obtain ⟨inside, kept⟩ := List.mem_filter.mp mem
      obtain ⟨inside', gone⟩ := List.mem_filter.mp mem'
      have equal : entry = entry' :=
        List.inj_on_of_nodup_map placed.onceInQueue inside inside' (same.trans same'.symm)
      rw [equal, gone] at kept
      cases kept
    · exact placed.queueApart multi other (waited waits) holds'
  · intro multi gone
    obtain ⟨notQueued, notHeld⟩ := placed.releasedApart multi gone
    refine ⟨fun waits => notQueued (waited waits), fun other holds => ?_⟩
    rcases held holds with ⟨_, waits⟩ | ⟨_, holds'⟩
    · exact notQueued waits
    · exact notHeld other holds'
  · exact placed.onceInQueue.sublist (List.filter_sublist.map _)
  · intro other
    by_cases isFlush : other = flush
    · rw [isFlush, here]
      exact placed.onceInQueue.sublist (List.filter_sublist.map _)
    · rw [others isFlush]
      exact placed.onceInHands other
  · intro other
    by_cases isFlush : other = flush
    · rw [isFlush, here]
      intro own entry mem
      have takes_ := (List.mem_filter.mp mem).2
      have notAll : allThreads = false := own
      rw [takes, notAll, Bool.false_or, beq_iff_eq] at takes_
      exact takes_
    · rw [others isFlush]
      exact placed.owned other

/-- What a flush has after it has let go of its next entry. -/
theorem inHands_setPending {rest : List Entry} {other : Nat} (placed : Placed state)
    (pending : (state.flushes flush).pending = entry :: rest) :
    InHands (setPending state flush rest) other multi ↔
      InHands state other multi ∧ multi ≠ entry.multi := by
  have once := placed.onceInHands flush
  rw [pending, List.map_cons, List.nodup_cons] at once
  have held := inHands_head pending
  by_cases isFlush : other = flush
  · rw [isFlush]
    unfold InHands
    rw [setPending_self, pending]
    constructor
    · rintro ⟨found, mem, rfl⟩
      exact ⟨⟨found, List.mem_cons_of_mem _ mem, rfl⟩, fun same =>
        once.1 (same ▸ List.mem_map_of_mem mem)⟩
    · rintro ⟨⟨found, mem, rfl⟩, differs⟩
      rcases List.mem_cons.mp mem with rfl | mem
      · exact absurd rfl differs
      · exact ⟨found, mem, rfl⟩
  · unfold InHands
    rw [setPending_of_ne rest isFlush]
    refine ⟨fun holds => ⟨holds, ?_⟩, And.left⟩
    rintro rfl
    exact isFlush (placed.oneHand _ other flush holds held)

/-- A flush releases its next entry. -/
theorem placed_release {rest : List Entry} (placed : Placed state)
    (pending : (state.flushes flush).pending = entry :: rest) :
    Placed { setPending state flush rest with released := entry.multi :: state.released } := by
  let taken : State := { setPending state flush rest with released := entry.multi :: state.released }
  show Placed taken
  have hands (other : Nat) (multi : ObjectId) :
      InHands taken other multi ↔ InHands state other multi ∧ multi ≠ entry.multi :=
    inHands_setPending placed pending
  have held := inHands_head pending
  refine ⟨?_, ?_, ?_, ?_, placed.onceInQueue, ?_, ?_⟩
  · intro multi mem
    by_cases same : multi = entry.multi
    · exact Or.inr (Or.inr (same ▸ List.mem_cons_self))
    · rcases placed.somewhere multi mem with waits | ⟨other, holds⟩ | gone
      · exact Or.inl waits
      · exact Or.inr (Or.inl ⟨other, (hands other multi).mpr ⟨holds, same⟩⟩)
      · exact Or.inr (Or.inr (List.mem_cons_of_mem _ gone))
  · intro multi first second inFirst inSecond
    exact placed.oneHand multi first second ((hands _ _).mp inFirst).1 ((hands _ _).mp inSecond).1
  · exact fun multi other waits holds => placed.queueApart multi other waits ((hands _ _).mp holds).1
  · intro multi gone
    rcases List.mem_cons.mp gone with rfl | gone
    · refine ⟨fun waits => placed.queueApart _ flush waits held, ?_⟩
      exact fun other holds => ((hands _ _).mp holds).2 rfl
    · obtain ⟨notQueued, notHeld⟩ := placed.releasedApart multi gone
      exact ⟨notQueued, fun other holds => notHeld other ((hands _ _).mp holds).1⟩
  · intro other
    by_cases isFlush : other = flush
    · have once := placed.onceInHands flush
      rw [pending, List.map_cons, List.nodup_cons] at once
      show (((setPending state flush rest).flushes other).pending.map Entry.multi).Nodup
      rw [isFlush, setPending_self]
      exact once.2
    · show (((setPending state flush rest).flushes other).pending.map Entry.multi).Nodup
      rw [setPending_of_ne rest isFlush]
      exact placed.onceInHands other
  · intro other
    by_cases isFlush : other = flush
    · have here : taken.flushes other = { state.flushes flush with pending := rest } := by
        rw [isFlush]
        exact setPending_self rest
      rw [here]
      intro own found mem
      refine placed.owned flush own found ?_
      rw [pending]
      exact List.mem_cons_of_mem _ mem
    · have here : taken.flushes other = state.flushes other := setPending_of_ne rest isFlush
      rw [here]
      exact placed.owned other

/-- An entry that is put back is queued: it is as if it had been released and deferred again. -/
theorem defer_setPending {rest : List Entry} (placed : Placed state)
    (pending : (state.flushes flush).pending = entry :: rest) :
    entry ∈ (defer (setPending state flush rest) entry).queue ∧
      Placed (defer (setPending state flush rest) entry) := by
  have held := inHands_head pending
  have absent : ¬InQueue (setPending state flush rest) entry.multi := fun waits =>
    placed.queueApart _ flush waits held
  let taken : State := { setPending state flush rest with released := entry.multi :: state.released }
  have again : defer (setPending state flush rest) entry = defer taken entry := by
    have absent' : ¬InQueue taken entry.multi := absent
    have forgets : (entry.multi :: state.released).filter (fun multi => multi ≠ entry.multi) =
        state.released.filter fun multi => multi ≠ entry.multi :=
      List.filter_cons_of_neg (by simp)
    rw [defer_of_absent absent, defer_of_absent absent']
    show State.mk _ _ _ _ = State.mk _ _ _ ((entry.multi :: state.released).filter _)
    rw [forgets]
    rfl
  constructor
  · rw [defer_of_absent absent]
    exact List.mem_append_right _ (List.mem_singleton_self _)
  · rw [again]
    refine placed_defer (placed_release placed pending) fun other holds => ?_
    exact ((inHands_setPending placed pending).mp holds).2 rfl

/-! ## Runs -/

theorem placed_empty : Placed empty := by
  have nothing (flush : Nat) (multi : ObjectId) : ¬InHands empty flush multi := fun ⟨_, mem, _⟩ => (nomatch mem)
  exact ⟨nofun, fun multi flush _ holds => absurd holds (nothing flush multi),
    fun multi flush _ => nothing flush multi, nofun, List.nodup_nil, fun _ => List.nodup_nil, nofun⟩

/-- A step that is calm keeps every multi in its place. -/
theorem placed_step {event : Event} (placed : Placed state) (calm : Calm state event)
    (steps : step state event = some after) : Placed after := by
  rcases step_cases steps with ⟨entry, rfl, rfl⟩ | ⟨flush, thread, allThreads, rfl, idle, rfl⟩ |
    ⟨flush, ok, entry, rest, rfl, pending, ⟨rfl, rfl⟩ | ⟨rfl, rfl⟩⟩
  · exact placed_defer placed calm
  · exact placed_flush placed idle
  · exact placed_release placed pending
  · exact (defer_setPending placed pending).2

theorem requeued_of_placed (placed : Placed state) {rest : List Entry}
    (pending : (state.flushes flush).pending = entry :: rest)
    (steps : step state (.release flush false) = some after) : entry ∈ after.queue := by
  unfold step at steps
  dsimp only at steps
  rw [pending] at steps
  cases steps
  exact (defer_setPending placed pending).1

/-- In a run in which no multi is deferred while a flush has it, none is lost or stolen. -/
theorem neitherLostNorStolen_run (state : State) (reached : Reached step Calm empty state) :
    NeitherLostNorStolen state := by
  have placed : Placed state :=
    reached.invariant placed_empty fun _ _ _ before calm steps => placed_step before calm steps
  exact ⟨placed, fun _ _ _ _ pending steps => requeued_of_placed placed pending steps⟩

/-- A multi is deferred by the thread 1, whose flush cannot close it. -/
def putBack : List Event := [.defer ⟨7, 8, 1⟩, .flush 0 1 false, .release 0 false]

theorem neitherLostNorStolen_putBack : ∃ state, runSteps step empty putBack = some state ∧
    state.queue = [⟨7, 8, 1⟩] ∧ NeitherLostNorStolen state := by
  have ends : (runSteps step empty putBack).map State.queue = some [⟨7, 8, 1⟩] := rfl
  obtain ⟨state, ran, queue⟩ := Option.map_eq_some_iff.mp ends
  have calm : RunOk step Calm empty putBack := by
    refine ⟨fun flush ⟨_, mem, _⟩ => (nomatch mem), fun _ _ => ⟨trivial, fun _ _ => ⟨trivial, ?_⟩⟩⟩
    exact fun _ _ => trivial
  exact ⟨state, ran, queue, neitherLostNorStolen_run state (Reached.run .start calm ran)⟩

/-- While the flush of the thread 1 has the multi, the thread 2 defers it and takes it as well. -/
def takenTwice : List Event :=
  [.defer ⟨7, 8, 1⟩, .flush 0 1 false, .defer ⟨7, 8, 2⟩, .flush 1 2 false]

theorem takenTwice_inTwoHands :
    ¬∀ events state, runSteps step empty events = some state → NeitherLostNorStolen state := by
  intro always
  have kept := (always takenTwice _ rfl).placed
  have same := kept.oneHand 7 0 1 ⟨⟨7, 8, 1⟩, List.mem_singleton_self _, rfl⟩
    ⟨⟨7, 8, 2⟩, List.mem_singleton_self _, rfl⟩
  cases same

end Curb.DeferredCloses

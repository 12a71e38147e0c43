import Mathlib.Data.List.Nodup
import Curb.Multi.Perform

/-!
# The tables while a multi performs

`active` counts the attached transfers, and `running` is never behind those that have no message
yet, so a loop that ends has nothing left to drain.
-/

namespace Curb.Perform
open Curb.Misc Curb.Ruby

variable {state : State}

/-! ## Tables -/

/-- The counters and libcurl's messages fit the transfers that are attached. -/
structure Tables (state : State) : Prop where
  active : state.active = state.attached.length
  nodup : (state.attached.map Prod.fst).Nodup
  finished : state.finished = state.messages
  messages : state.messages.Nodup
  subset : state.messages ⊆ state.attached
  bound : state.attached.length ≤ state.running + state.messages.length

theorem Tables.attached_nodup (tables : Tables state) : state.attached.Nodup :=
  List.Nodup.of_map Prod.fst tables.nodup

/-- The tables do not depend on the other fields. -/
theorem Tables.of_eq {after : State} (tables : Tables state) (attached : after.attached = state.attached)
    (active : after.active = state.active) (running : after.running = state.running)
    (finished : after.finished = state.finished) (messages : after.messages = state.messages) :
    Tables after := by
  refine ⟨?_, ?_, ?_, ?_, ?_, ?_⟩
  · rw [active, attached]
    exact tables.active
  · rw [attached]
    exact tables.nodup
  · rw [finished, messages]
    exact tables.finished
  · rw [messages]
    exact tables.messages
  · rw [messages, attached]
    exact tables.subset
  · rw [attached, running, messages]
    exact tables.bound

theorem hasEasy_eq_false_iff {easy : ObjectId} :
    state.hasEasy easy = false ↔ easy ∉ state.attached.map Prod.fst := by
  rw [State.hasEasy, List.any_eq_false, List.mem_map, not_exists]
  refine forall_congr' fun transfer => ?_
  rw [not_and, decide_eq_true_eq]

theorem tables_add {easy : ObjectId} {accepted : Bool} (tables : Tables state) :
    Tables (state.add easy accepted) := by
  unfold State.add
  split
  · exact tables
  · rename_i added
    have absent : state.hasEasy easy = false := by
      cases has : state.hasEasy easy with
      | false => rfl
      | true => simp [has] at added
    refine ⟨?_, ?_, tables.finished, tables.messages, ?_, ?_⟩
    · show state.active + 1 = (state.attached ++ [_]).length
      rw [tables.active, List.length_append]
      rfl
    · show ((state.attached ++ [_]).map Prod.fst).Nodup
      rw [List.map_append]
      have apart := List.disjoint_singleton.mpr (hasEasy_eq_false_iff.mp absent)
      exact List.Nodup.append tables.nodup (List.nodup_singleton easy) apart
    · exact fun transfer mem => List.mem_append_left _ (tables.subset mem)
    · have bound := tables.bound
      show (state.attached ++ [_]).length ≤ state.running + 1 + state.messages.length
      rw [List.length_append, List.length_singleton]
      omega

theorem tables_detach {transfer : Transfer} (tables : Tables state)
    (mem : transfer ∈ state.attached) : Tables (state.detach transfer) := by
  have length := List.length_erase_of_mem mem
  refine ⟨?_, ?_, ?_, ?_, ?_, ?_⟩
  · show state.active - 1 = (state.attached.erase transfer).length
    rw [tables.active, length]
  · exact tables.nodup.sublist (List.erase_sublist.map Prod.fst)
  · show state.finished.erase transfer = state.messages.erase transfer
    rw [tables.finished]
  · exact tables.messages.erase transfer
  · intro other inside
    have kept := (tables.messages.mem_erase_iff).mp inside
    exact (tables.attached_nodup.mem_erase_iff).mpr ⟨kept.1, tables.subset kept.2⟩
  · show (state.attached.erase transfer).length ≤
      state.running + (state.messages.erase transfer).length
    have bound := tables.bound
    rw [length, List.length_erase]
    split <;> omega

/-- The transfer of the next message is detached. -/
theorem tables_detach_next {transfer : Transfer} {rest : List Transfer} (tables : Tables state)
    (next : state.messages = transfer :: rest) :
    Tables ({ state with messages := rest }.detach transfer) := by
  have mem : transfer ∈ state.attached := tables.subset (next ▸ List.mem_cons_self)
  have apart : transfer ∉ rest := (List.nodup_cons.mp (next ▸ tables.messages)).1
  refine (tables_detach tables mem).of_eq rfl rfl rfl rfl ?_
  show rest.erase transfer = state.messages.erase transfer
  rw [next, List.erase_cons_head, List.erase_of_not_mem apart]

theorem tables_remove {easy : ObjectId} {accepted : Bool} (tables : Tables state) :
    Tables (state.remove easy accepted) := by
  unfold State.remove
  split
  · rename_i transfer found
    split
    · exact tables_detach tables (List.mem_of_find?_eq_some found)
    · exact tables
  · exact tables

theorem tables_finish {transfer : Transfer} (tables : Tables state)
    (mem : transfer ∈ state.attached) (unfinished : transfer ∉ state.finished) :
    Tables (state.finish transfer) := by
  refine ⟨tables.active, tables.nodup, ?_, ?_, ?_, ?_⟩
  · show state.finished ++ [transfer] = state.messages ++ [transfer]
    rw [tables.finished]
  · rw [tables.finished] at unfinished
    exact List.Nodup.append tables.messages (List.nodup_singleton transfer)
      (List.disjoint_singleton.mpr unfinished)
  · intro other inside
    rcases List.mem_append.mp inside with old | new
    · exact tables.subset old
    · rw [List.mem_singleton.mp new]
      exact mem
  · have bound := tables.bound
    show state.attached.length ≤ state.running + (state.messages ++ [transfer]).length
    rw [List.length_append]
    omega

/-- libcurl counts the transfers without a message. -/
theorem tables_stillRunning (tables : Tables state) :
    Tables { state with running := state.stillRunning } := by
  refine ⟨tables.active, tables.nodup, tables.finished, tables.messages, tables.subset, ?_⟩
  show state.attached.length ≤ state.stillRunning + state.messages.length
  have counted := List.length_eq_length_filter_add (l := state.attached) fun transfer =>
    decide (transfer ∉ state.finished)
  have few : (state.attached.filter fun transfer => !decide (transfer ∉ state.finished)).length ≤
      state.messages.length := by
    refine (tables.attached_nodup.filter _).length_le_of_subset ?_
    intro transfer inside
    have finished := (List.mem_filter.mp inside).2
    simp only [decide_not, Bool.not_not, decide_eq_true_eq] at finished
    rwa [tables.finished] at finished
  unfold State.stillRunning
  omega

/-- The handles that are taken off again are attached, and no two are the same. -/
theorem tables_foldl_detach {transfers : List Transfer} (tables : Tables state)
    (nodup : transfers.Nodup) (subset : transfers ⊆ state.attached) :
    Tables (transfers.foldl State.detach state) := by
  induction transfers generalizing state with
  | nil => exact tables
  | cons transfer transfers ih =>
    have head := subset List.mem_cons_self
    refine ih (tables_detach tables head) (List.nodup_cons.mp nodup).2 ?_
    intro other inside
    have ne : other ≠ transfer := by
      intro same
      exact (List.nodup_cons.mp nodup).1 (same ▸ inside)
    exact (tables.attached_nodup.mem_erase_iff).mpr ⟨ne, subset (List.mem_cons_of_mem _ inside)⟩

/-- Detaching changes the tables only. -/
theorem foldl_detach_same (state : State) (transfers : List Transfer) :
    transfers.foldl State.detach state = { state with
      attached := (transfers.foldl State.detach state).attached
      active := (transfers.foldl State.detach state).active
      finished := (transfers.foldl State.detach state).finished
      messages := (transfers.foldl State.detach state).messages } := by
  induction transfers generalizing state with
  | nil => rfl
  | cons transfer transfers ih => exact ih (state.detach transfer)

theorem foldl_detach_point (state : State) (transfers : List Transfer) :
    (transfers.foldl State.detach state).point = state.point := by
  rw [foldl_detach_same]

/-- The transfers attached first are detached, one after the other. -/
theorem foldl_detach_attached {first rest : List Transfer} (attached : state.attached = first ++ rest) :
    (first.foldl State.detach state).attached = rest := by
  induction first generalizing state with
  | nil => exact attached
  | cons transfer first ih =>
    refine ih ?_
    show state.attached.erase transfer = first ++ rest
    rw [attached]
    exact List.erase_cons_head ..

theorem tables_removeAdded {snapshot : List Transfer} {accepted : ObjectId → Bool}
    (tables : Tables state) : Tables (state.removeAddedEasiesSinceSnapshot snapshot accepted) := by
  have sublist := (List.takeWhile_sublist (l := state.attached.filter fun transfer =>
    transfer ∉ snapshot) fun transfer => accepted transfer.1).trans List.filter_sublist
  exact tables_foldl_detach tables (tables.attached_nodup.sublist sublist) sublist.subset

theorem tables_stash {exception : RubyException} {ofCallback : Bool} {easy : ObjectId}
    (tables : Tables state) : Tables (state.stash exception ofCallback easy) :=
  tables.of_eq rfl rfl rfl rfl rfl

theorem tables_stashIfAny {exception : Option RubyException} {easy : ObjectId}
    (tables : Tables state) : Tables (state.stashIfAny exception easy) := by
  cases exception with
  | none => exact tables
  | some exception => exact tables_stash tables

theorem tables_callbacksEnd {completion : Completion} {raised : Option RubyException} {accepted : ObjectId → Bool}
    (tables : Tables state) : Tables (state.callbacksEnd completion raised accepted) := by
  unfold State.callbacksEnd
  split
  · exact tables_stashIfAny tables
  · split
    · split
      · exact tables_stash tables
      · exact tables_stash (tables_removeAdded (tables_stash tables))
    · exact tables_stash tables

/-- A multi with nothing attached is closed. -/
theorem autoclose_idle {accepted : ObjectId → Bool} {refusal : RubyException} (attached : state.attached = []) :
    state.autoclose accepted refusal = { state with
      active := 0
      running := 0
      deferredException := none
      deferredExceptionSourceId := none } := by
  have none : state.attached.takeWhile (fun transfer => accepted transfer.1) = [] := by
    rw [attached]
    rfl
  have lets : (state.attached.all fun transfer => accepted transfer.1) = true := by
    rw [attached]
    rfl
  unfold State.autoclose
  rw [none, if_pos lets]
  rfl

theorem tables_closed (tables : Tables state) (attached : state.attached = []) :
    Tables { state with
      active := 0
      running := 0
      deferredException := none
      deferredExceptionSourceId := none } := by
  refine ⟨?_, tables.nodup, tables.finished, tables.messages, tables.subset, ?_⟩
  · exact (congrArg List.length attached).symm
  · show state.attached.length ≤ 0 + state.messages.length
    rw [attached]
    exact Nat.zero_le _

end Curb.Perform

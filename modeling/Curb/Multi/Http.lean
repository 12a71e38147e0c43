import Curb.Multi.Deferred
import Curb.Multi.HttpConfig

/-!
# `Multi.http`

The requests of a list are run on at most `max_connects` handles (`lib/curl/multi.rb:98-196`): as many
handles are started as there may be, and a handle whose transfer has completed takes the next
configuration, in the block given to `perform` or when `perform` has returned.
-/

namespace Curb.Http
open Curb.Misc Curb.Ruby
open Curb.Perform (Mode Point Transfer)

/-- The variables of `Multi.http`, its multi and its handles. -/
structure State where
  multi : Perform.State
  urlsWithConfig : List Config
  freeHandles : List ObjectId
  /-- The number of handles made so far; they are numbered. -/
  handles : Nat
  /-- What a handle has been set up with last, and what that has made of it. -/
  conf : ObjectId → Option Config
  easies : ObjectId → Handle
  /-- `perform` is given a block. -/
  refills : Bool
  returned : Bool
  /-- The configurations whose transfers have completed, each with the request that was sent, and those the
  caller's block has been called for. -/
  transferred : List (Config × Request)
  yielded : List Config

namespace State

/-- `add_free_handle` (`multi.rb:110-163`): the configuration is set up on a handle, a new one where none is
given, and the handle is added to the multi. A setter that raises would end the call. -/
def addFreeHandle (state : State) (config : Config) (easy : Option ObjectId) : State :=
  let handle := easy.getD state.handles
  let before := if easy.isSome then state.easies handle else Handle.new
  { state with
    handles := if easy.isSome then state.handles else state.handles + 1
    conf := Function.update state.conf handle (some config)
    easies := Function.update state.easies handle (finalState config.setUp before)
    multi := state.multi.add handle true }

/-- `urls_with_config.pop`, and `add_free_handle` for what it gives. -/
def startNew (state : State) : State :=
  match state.urlsWithConfig.getLast? with
  | none => state
  | some config =>
      { state with urlsWithConfig := state.urlsWithConfig.dropLast }.addFreeHandle config none

/-- `max_connects.times` (`multi.rb:165-169`). -/
def fill (state : State) : Nat → State
  | 0 => state
  | times + 1 =>
      let next := state.startNew
      if next.urlsWithConfig.isEmpty then next else next.fill times

/-- `consume_free_handles` (`multi.rb:171-178`). -/
def consumeFreeHandles (state : State) : State :=
  match state.freeHandles.getLast?, state.urlsWithConfig.getLast? with
  | some easy, some config =>
      { state with
        freeHandles := state.freeHandles.dropLast
        urlsWithConfig := state.urlsWithConfig.dropLast }.addFreeHandle config (some easy)
  | _, _ => state

/-- The configuration of a handle. -/
def configOf (state : State) (easy : ObjectId) : List Config := (state.conf easy).toList

/-- The block of `on_complete` (`multi.rb:152-161`). -/
def onComplete (state : State) (easy : ObjectId) : State :=
  { state with
    freeHandles := state.freeHandles ++ [easy]
    yielded := state.yielded ++ state.configOf easy }

/-- After `perform` (`multi.rb:181-191`): another handle is started, and `perform` is called again
unless no configuration is left. -/
def performed (state : State) : State :=
  if state.refills then
    let next := state.consumeFreeHandles
    { next with returned := next.urlsWithConfig.isEmpty }
  else { state with returned := true }

/-- A handle has sent its request, and is let go. -/
def complete (state : State) (easy : ObjectId) : State :=
  let handle := state.easies easy
  { state with
    transferred := state.transferred ++ (state.configOf easy).map fun config => (config, handle.sends)
    easies := Function.update state.easies easy handle.letGo }

/-- What completes where a message is read. -/
def completes (state : State) : State :=
  match state.multi.messages with
  | [] => state
  | transfer :: _ => state.complete transfer.1

end State

/-- `Multi.http` up to its first `perform`. -/
def start (urlsWithConfig : List Config) (maxConnects : Nat) : State :=
  let filled := State.fill
    { multi := Perform.fresh
      urlsWithConfig := urlsWithConfig
      freeHandles := []
      handles := 0
      conf := fun _ => none
      easies := fun _ => Handle.new
      refills := false
      returned := false
      transferred := []
      yielded := [] } maxConnects
  { filled with refills := !filled.urlsWithConfig.isEmpty }

/-- What may happen next: libcurl and the loop of `perform` go on, a completed transfer is taken, its
callbacks are run, or the program's own code is. -/
inductive Event where
  | perform (mode : Mode)
  | finish (transfer : Transfer)
  | acted
  | driven
  | waited
  | waitedInVain
  | readInfo
  | callbacks
  | block
  | performed

/-- An event of the loop that `Multi.http` has no part in. -/
def State.loop (state : State) (event : Perform.Event) : Option (State) :=
  (Perform.step state.multi event).map fun multi => { state with multi := multi }

/-- The next state, where the event may happen. No callback and no block raises, which the setters run in,
and libcurl does not fail. -/
def step (state : State) : Event → Option (State)
  | .perform mode => if state.returned then none else state.loop (.perform mode)
  | .finish transfer => state.loop (.finish transfer)
  | .acted => state.loop .acted
  | .driven => state.loop .driven
  | .waited => state.loop .waited
  | .waitedInVain => state.loop .waitedInVain
  | .readInfo => state.completes.loop (.readInfo none none)
  | .callbacks =>
      match state.multi.point with
      | .callbacks _ _ completion =>
          (state.onComplete completion.transfer.1).loop (.callbacksEnd none fun _ => true)
      | _ => none
  | .block =>
      match state.multi.point with
      | .block _ _ =>
          (if state.refills then state.consumeFreeHandles else state).loop (.blockEnd none)
      | _ => none
  | .performed =>
      match state.multi.point with
      | .ended .returned => (state.loop .resume).map State.performed
      | _ => none

/-! ## The invariant -/

variable {state : State} {urls : List Config} {maxConnects : Nat}

/-- The handle whose callbacks are running. -/
def inCallbacks : Point → List ObjectId
  | .callbacks _ _ completion => [completion.transfer.1]
  | _ => []

/-- Every configuration is still to be started, attached or transferred; every handle is free,
attached or in its callbacks; no exception is pending. -/
structure Accounted (urls : List Config) (state : State) : Prop where
  multi : Perform.Inv state.multi
  calm : state.multi.deferredException = none
  quiet : ∀ easy, state.multi.callbackError easy = none
  completing : ∀ mode final completion,
    state.multi.point = .callbacks mode final completion → completion.callbackError = none
  configs : (state.urlsWithConfig ++ state.multi.attached.flatMap (fun transfer =>
    state.configOf transfer.1) ++ state.transferred.map Prod.fst).Perm urls
  handles : (state.freeHandles ++ state.multi.attached.map Prod.fst ++
    inCallbacks state.multi.point).Perm (List.range state.handles)
  yielded : state.transferred.map Prod.fst =
    state.yielded ++ (inCallbacks state.multi.point).flatMap state.configOf

/-- What holds from the first `perform` on. -/
structure Inv (urls : List Config) (maxConnects : Nat) (state : State) : Prop
    extends Accounted urls state where
  bound : state.handles ≤ maxConnects
  started : state.urlsWithConfig ≠ [] → 0 < state.handles
  refills : state.refills = false → state.urlsWithConfig = []
  ended : ∀ outcome, state.multi.point = .ended outcome →
    outcome = .returned ∧ state.urlsWithConfig = []
  returned : state.returned = true →
    state.multi.point = .idle ∧ state.urlsWithConfig = [] ∧ state.multi.attached = []

/-- A free handle is attached nowhere. -/
theorem Accounted.free_unattached (inv : Accounted urls state) {easy : ObjectId}
    (free : easy ∈ state.freeHandles) : state.multi.hasEasy easy = false := by
  have nodup := inv.handles.nodup_iff.mpr List.nodup_range
  rw [List.append_assoc] at nodup
  have apart := (List.nodup_append.mp nodup).2.2
  rw [Perform.hasEasy_eq_false_iff]
  intro attached
  exact apart easy free easy (List.mem_append_left _ attached) rfl

theorem Accounted.new_unattached (inv : Accounted urls state) :
    state.multi.hasEasy state.handles = false := by
  rw [Perform.hasEasy_eq_false_iff]
  intro attached
  have inRange := inv.handles.subset
    (List.mem_append_left _ (List.mem_append_right _ attached))
  exact absurd (List.mem_range.mp inRange) (lt_irrefl _)

/-- An unattached handle is added. -/
theorem add_unattached {multi : Perform.State} {easy : ObjectId}
    (absent : multi.hasEasy easy = false) (calm : multi.deferredException = none) :
    ∃ generation, (multi.add easy true).attached = multi.attached ++ [(easy, generation)] ∧
      (multi.add easy true).point = multi.point ∧
      (multi.add easy true).deferredException = none ∧
      (multi.add easy true).callbackError = multi.callbackError ∧
      (multi.add easy true).messages = multi.messages ∧
      (multi.add easy true).running = multi.running + 1 := by
  have added : multi.add easy true = { multi with
      active := multi.active + 1
      running := multi.running + 1
      multiAttachmentGeneration := Function.update multi.multiAttachmentGeneration easy
        (multi.multiAttachmentGeneration easy + 1)
      attached := multi.attached ++ [(easy, multi.multiAttachmentGeneration easy + 1)] } := by
    rw [Perform.State.add, absent, calm]
    rfl
  rw [added]
  exact ⟨_, rfl, rfl, calm, rfl, rfl, rfl⟩

/-- A handle that is attached nowhere takes the last configuration. -/
theorem accounted_addFreeHandle {config : Config} {rest : List Config} {free : List ObjectId}
    {easy : Option ObjectId} (inv : Accounted urls state)
    (runs : state.multi.point.runsRuby = true) (outside : inCallbacks state.multi.point = [])
    (pop : state.urlsWithConfig = rest ++ [config])
    (absent : state.multi.hasEasy (easy.getD state.handles) = false)
    (handles : (free ++ [easy.getD state.handles] ++ state.multi.attached.map Prod.fst).Perm
      (List.range (if easy.isSome then state.handles else state.handles + 1))) :
    Accounted urls ({ state with
      urlsWithConfig := rest
      freeHandles := free }.addFreeHandle config easy) := by
  obtain ⟨generation, attached, point, calm, quiet, _⟩ := add_unattached absent inv.calm
  have unchanged : ∀ transfer ∈ state.multi.attached, transfer.1 ≠ easy.getD state.handles := by
    intro transfer mem same
    exact Perform.hasEasy_eq_false_iff.mp absent (List.mem_map.mpr ⟨transfer, mem, same⟩)
  refine ⟨Perform.inv_add inv.multi runs, calm, ?_, ?_, ?_, ?_, ?_⟩
  · intro other
    exact (congrFun quiet other).trans (inv.quiet other)
  · intro mode final completion inside
    exact inv.completing mode final completion (point.symm.trans inside)
  · show (rest ++ (state.multi.add _ true).attached.flatMap (fun transfer =>
      (Function.update state.conf _ (some config) transfer.1).toList) ++
        state.transferred.map Prod.fst).Perm urls
    have configs := inv.configs
    rw [pop] at configs
    have old : state.multi.attached.flatMap (fun transfer =>
        (Function.update state.conf (easy.getD state.handles) (some config) transfer.1).toList) =
          state.multi.attached.flatMap (fun transfer => state.configOf transfer.1) := by
      refine List.flatMap_congr fun transfer mem => ?_
      rw [Function.update_of_ne (unchanged transfer mem)]
      rfl
    rw [attached, List.flatMap_append, old]
    refine List.Perm.trans (List.Perm.append_right _ ?_) configs
    simp only [List.flatMap_cons, List.flatMap_nil, Function.update_self, Option.toList_some,
      List.append_nil, List.append_assoc]
    exact List.Perm.append_left rest List.perm_append_comm
  · show (free ++ (state.multi.add _ true).attached.map Prod.fst ++
      inCallbacks (state.multi.add _ true).point).Perm _
    rw [attached, point, outside, List.append_nil, List.map_append]
    refine List.Perm.trans ?_ handles
    rw [List.append_assoc]
    exact List.Perm.append_left free List.perm_append_comm
  · show state.transferred.map Prod.fst = state.yielded ++ (inCallbacks (state.multi.add _ true).point).flatMap _
    rw [point, outside]
    have yielded := inv.yielded
    rwa [outside] at yielded

theorem accounted_startNew (inv : Accounted urls state) (idle : state.multi.point = .idle) :
    Accounted urls state.startNew := by
  unfold State.startNew
  cases last : state.urlsWithConfig.getLast? with
  | none => exact inv
  | some config =>
    have pop := (List.dropLast_append_getLast? config last).symm
    refine accounted_addFreeHandle inv ?_ ?_ pop inv.new_unattached ?_
    · rw [idle]
      rfl
    · rw [idle]
      rfl
    · have outside : inCallbacks .idle = [] := rfl
      have handles := inv.handles
      rw [idle, outside, List.append_nil] at handles
      show (state.freeHandles ++ [state.handles] ++ _).Perm (List.range (state.handles + 1))
      rw [List.range_succ, List.append_assoc]
      refine List.Perm.trans (List.Perm.append_left _ List.perm_append_comm) ?_
      rw [← List.append_assoc]
      exact List.Perm.append_right _ handles

theorem accounted_consumeFreeHandles (inv : Accounted urls state)
    (runs : state.multi.point.runsRuby = true) (outside : inCallbacks state.multi.point = []) :
    Accounted urls state.consumeFreeHandles := by
  unfold State.consumeFreeHandles
  split
  · rename_i easy config free last
    have pop := (List.dropLast_append_getLast? config last).symm
    have popFree := List.dropLast_append_getLast? easy free
    have mem : easy ∈ state.freeHandles := List.mem_of_getLast? free
    refine accounted_addFreeHandle inv runs outside pop (inv.free_unattached mem) ?_
    have handles := inv.handles
    rw [outside, List.append_nil, ← popFree] at handles
    exact handles
  · exact inv

theorem startNew_spec (state : State) :
    state.startNew.multi.point = state.multi.point ∧ state.startNew.returned = state.returned ∧
      state.handles ≤ state.startNew.handles ∧ state.startNew.handles ≤ state.handles + 1 ∧
      (state.urlsWithConfig ≠ [] → 0 < state.startNew.handles) := by
  have point (easy : ObjectId) : (state.multi.add easy true).point = state.multi.point := by
    unfold Perform.State.add
    split <;> rfl
  unfold State.startNew
  cases last : state.urlsWithConfig.getLast? with
  | none =>
    have none := List.getLast?_eq_none_iff.mp last
    exact ⟨rfl, rfl, le_rfl, Nat.le_succ _, fun some => absurd none some⟩
  | some config => exact ⟨point _, rfl, Nat.le_succ _, le_rfl, fun _ => Nat.succ_pos _⟩

theorem fill_spec (times : Nat) (inv : Accounted urls state) (idle : state.multi.point = .idle) :
    Accounted urls (state.fill times) ∧ (state.fill times).multi.point = .idle ∧
      (state.fill times).returned = state.returned ∧
      state.handles ≤ (state.fill times).handles ∧
      (state.fill times).handles ≤ state.handles + times ∧
      (1 ≤ times → (state.fill times).urlsWithConfig ≠ [] → 0 < (state.fill times).handles) := by
  induction times generalizing state with
  | zero => exact ⟨inv, idle, rfl, le_rfl, le_rfl, fun positive => absurd positive (by omega)⟩
  | succ times ih =>
    obtain ⟨point, returned, least, most, positive⟩ := startNew_spec state
    have next := accounted_startNew inv idle
    have idle' : state.startNew.multi.point = .idle := point.trans idle
    have unfolded : state.fill (times + 1) =
        if state.startNew.urlsWithConfig.isEmpty then state.startNew else state.startNew.fill times := rfl
    rw [unfolded]
    split
    · rename_i empty
      refine ⟨next, idle', returned, least, by omega, fun _ some => ?_⟩
      exact absurd (List.isEmpty_iff.mp empty) some
    · rename_i more
      obtain ⟨after, idle'', returned', least', most', _⟩ := ih next idle'
      refine ⟨after, idle'', returned'.trans returned, by omega, by omega, fun _ _ => ?_⟩
      have some : state.urlsWithConfig ≠ [] := by
        intro none
        apply more
        unfold State.startNew
        rw [none]
        exact List.isEmpty_iff.mpr none
      have first := positive some
      omega

/-- Before any handle is started. -/
theorem accounted_initial (urls : List Config) : Accounted urls (
    { multi := Perform.fresh
      urlsWithConfig := urls
      freeHandles := []
      handles := 0
      conf := fun _ => none
      easies := fun _ => Handle.new
      refills := false
      returned := false
      transferred := []
      yielded := [] } : State) := by
  refine ⟨Perform.inv_fresh, rfl, fun _ => rfl, nofun, ?_, List.Perm.refl [], rfl⟩
  show (urls ++ [] ++ []).Perm urls
  rw [List.append_nil, List.append_nil]

theorem inv_start (urls : List Config) {maxConnects : Nat} (positive : 1 ≤ maxConnects) :
    Inv urls maxConnects (start urls maxConnects) := by
  obtain ⟨filled, idle, returned, _, most, some⟩ := fill_spec maxConnects (accounted_initial urls) rfl
  refine ⟨⟨filled.multi, filled.calm, filled.quiet, filled.completing, filled.configs, filled.handles,
    filled.yielded⟩, ?_, some positive, ?_, ?_, ?_⟩
  · exact most.trans_eq (Nat.zero_add _)
  · intro refills
    exact List.isEmpty_iff.mp ((Bool.not_eq_false' _).mp refills)
  · intro outcome ended
    cases idle.symm.trans ended
  · intro closed
    cases returned.symm.trans closed

/-! ## Steps -/

theorem loop_eq_some {event : Perform.Event} {after : State}
    (steps : state.loop event = some after) :
    ∃ multi, Perform.step state.multi event = some multi ∧ after = { state with multi := multi } := by
  obtain ⟨multi, stepped, same⟩ := Option.map_eq_some_iff.mp steps
  exact ⟨multi, stepped, same.symm⟩

/-- The loop goes on without a change to what is attached. -/
theorem inv_of_loop {multi : Perform.State} (inv : Inv urls maxConnects state)
    (inner : Perform.Inv multi) (attached : multi.attached = state.multi.attached)
    (calm : multi.deferredException = none) (quiet : multi.callbackError = state.multi.callbackError)
    (before : inCallbacks state.multi.point = []) (after : inCallbacks multi.point = [])
    (open_ : state.returned = false) (goesOn : ∀ outcome, multi.point ≠ .ended outcome) :
    Inv urls maxConnects { state with multi := multi } := by
  refine ⟨⟨inner, calm, ?_, ?_, ?_, ?_, ?_⟩, inv.bound, inv.started, inv.refills, ?_, ?_⟩
  · intro easy
    exact (congrFun quiet easy).trans (inv.quiet easy)
  · intro mode final completion inside
    dsimp only at inside
    rw [inside] at after
    cases after
  · show (_ ++ multi.attached.flatMap _ ++ _).Perm urls
    rw [attached]
    exact inv.configs
  · have handles := inv.handles
    rw [before] at handles
    show (_ ++ multi.attached.map Prod.fst ++ inCallbacks multi.point).Perm _
    rw [attached, after]
    exact handles
  · have yielded := inv.yielded
    rw [before] at yielded
    show _ = _ ++ (inCallbacks multi.point).flatMap _
    rw [after]
    exact yielded
  · exact fun outcome ended => absurd ended (goesOn outcome)
  · exact fun closed => nomatch open_.symm.trans closed

/-- A call that is performing has not returned. -/
theorem Inv.open_of_point (inv : Inv urls maxConnects state) (busy : state.multi.point ≠ .idle) :
    state.returned = false := by
  cases returned : state.returned with
  | false => rfl
  | true => exact absurd (inv.returned returned).1 busy

/-- A message is read: its transfer is detached, and its callbacks begin. -/
theorem accounted_complete {transfer : Transfer} {rest : List Transfer} {mode : Mode} {final : Bool}
    {multi : Perform.State} (inv : Accounted urls state)
    (point : state.multi.point = .reading mode final) (messages : state.multi.messages = transfer :: rest)
    (inner : Perform.Inv multi)
    (same : multi = { state.multi with messages := rest }.handleComplete transfer none none
      (.callbacks mode final)) :
    Accounted urls { state.complete transfer.1 with multi := multi } := by
  have mem : transfer ∈ state.multi.attached :=
    inv.multi.tables.subset (messages ▸ List.mem_cons_self)
  have nothing : ({ state.multi with messages := rest }.detach transfer).callbackError transfer.1 = none :=
    inv.quiet transfer.1
  have outside : inCallbacks state.multi.point = [] := by
    rw [point]
    rfl
  have shape : multi = { { state.multi with messages := rest }.detach transfer with
      callbackError := Function.update state.multi.callbackError transfer.1 none
      point := .callbacks mode final ⟨transfer, state.multi.attached.erase transfer, none⟩ } := by
    rw [same, Perform.State.handleComplete]
    dsimp only
    rw [nothing]
    rfl
  rw [shape] at inner ⊢
  have order := List.perm_cons_erase mem
  have sent : (state.transferred ++ (state.configOf transfer.1).map fun config =>
      (config, (state.easies transfer.1).sends)).map Prod.fst =
        state.transferred.map Prod.fst ++ state.configOf transfer.1 := by
    rw [List.map_append, List.map_map]
    exact congrArg _ (List.map_id _)
  refine ⟨inner, inv.calm, ?_, ?_, ?_, ?_, ?_⟩
  · intro easy
    show Function.update state.multi.callbackError transfer.1 _ easy = _
    by_cases isEasy : easy = transfer.1
    · rw [isEasy, Function.update_self]
    · rw [Function.update_of_ne isEasy]
      exact inv.quiet easy
  · intro mode' final' completion inside
    cases inside
    rfl
  · show (state.urlsWithConfig ++ (state.multi.attached.erase transfer).flatMap _ ++
      (state.transferred ++ _).map Prod.fst).Perm urls
    rw [sent]
    refine List.Perm.trans ?_ inv.configs
    have moved := order.flatMap_right fun transfer => state.configOf transfer.1
    rw [List.flatMap_cons] at moved
    have swapped : (state.urlsWithConfig ++ (state.multi.attached.erase transfer).flatMap
        (fun transfer => state.configOf transfer.1) ++
          (state.transferred.map Prod.fst ++ state.configOf transfer.1)).Perm
        (state.urlsWithConfig ++ (state.configOf transfer.1 ++
          (state.multi.attached.erase transfer).flatMap fun transfer => state.configOf transfer.1) ++
            state.transferred.map Prod.fst) := by
      simp only [List.append_assoc]
      refine List.Perm.append_left _ ?_
      rw [← List.append_assoc]
      refine List.Perm.trans List.perm_append_comm (List.Perm.append_left _ ?_)
      exact List.Perm.refl _
    exact swapped.trans (List.Perm.append_right _ (List.Perm.append_left _ moved.symm))
  · have handles := inv.handles
    rw [outside, List.append_nil] at handles
    show (state.freeHandles ++ (state.multi.attached.erase transfer).map Prod.fst ++
      [transfer.1]).Perm _
    refine List.Perm.trans ?_ handles
    rw [List.append_assoc]
    refine List.Perm.append_left _ (List.perm_append_comm.trans ?_)
    exact (order.map Prod.fst).symm
  · have yielded := inv.yielded
    rw [outside, List.flatMap_nil, List.append_nil] at yielded
    show (state.transferred ++ _).map Prod.fst = state.yielded ++ [transfer.1].flatMap _
    rw [sent, yielded, List.flatMap_singleton]
    rfl

/-- The callbacks of a completed transfer end: its handle is free. -/
theorem accounted_onComplete {completion : Perform.Completion} {mode : Mode} {final : Bool}
    (inv : Accounted urls state) (point : state.multi.point = .callbacks mode final completion)
    (inner : Perform.Inv { state.multi with point := .reading mode final }) :
    Accounted urls { state.onComplete completion.transfer.1 with
      multi := { state.multi with point := .reading mode final } } := by
  have inside : inCallbacks state.multi.point = [completion.transfer.1] := by
    rw [point]
    rfl
  refine ⟨inner, inv.calm, inv.quiet, nofun, inv.configs, ?_, ?_⟩
  · have handles := inv.handles
    rw [inside] at handles
    show (state.freeHandles ++ [completion.transfer.1] ++ state.multi.attached.map Prod.fst ++ []).Perm _
    rw [List.append_nil]
    refine List.Perm.trans ?_ handles
    rw [List.append_assoc, List.append_assoc]
    exact List.Perm.append_left _ List.perm_append_comm
  · have yielded := inv.yielded
    rw [inside, List.flatMap_singleton] at yielded
    show state.transferred.map Prod.fst = state.yielded ++ state.configOf completion.transfer.1 ++ []
    rw [List.append_nil]
    exact yielded

/-- The fields that starting a handle leaves alone. -/
theorem consumeFreeHandles_spec (state : State) :
    state.consumeFreeHandles.multi.point = state.multi.point ∧
      state.consumeFreeHandles.multi.messages = state.multi.messages ∧
      state.consumeFreeHandles.handles = state.handles ∧
      state.consumeFreeHandles.returned = state.returned ∧
      state.consumeFreeHandles.refills = state.refills := by
  have same (easy : ObjectId) : (state.multi.add easy true).point = state.multi.point ∧
      (state.multi.add easy true).messages = state.multi.messages := by
    unfold Perform.State.add
    split <;> exact ⟨rfl, rfl⟩
  unfold State.consumeFreeHandles
  split
  · exact ⟨(same _).1, (same _).2, rfl, rfl, rfl⟩
  · exact ⟨rfl, rfl, rfl, rfl, rfl⟩

/-- Where a handle is free and a configuration left, one is started. -/
theorem consumeFreeHandles_cases (inv : Accounted urls state) :
    (state.freeHandles = [] ∨ state.urlsWithConfig = []) ∧ state.consumeFreeHandles = state ∨
      state.freeHandles ≠ [] ∧ state.urlsWithConfig ≠ [] ∧
        state.consumeFreeHandles.multi.running = state.multi.running + 1 ∧
        state.consumeFreeHandles.urlsWithConfig = state.urlsWithConfig.dropLast ∧
        state.consumeFreeHandles.multi.attached.length = state.multi.attached.length + 1 := by
  cases free : state.freeHandles.getLast? with
  | none =>
    have empty := List.getLast?_eq_none_iff.mp free
    refine Or.inl ⟨Or.inl empty, ?_⟩
    rw [State.consumeFreeHandles, free]
  | some easy =>
    cases last : state.urlsWithConfig.getLast? with
    | none =>
      have empty := List.getLast?_eq_none_iff.mp last
      refine Or.inl ⟨Or.inr empty, ?_⟩
      rw [State.consumeFreeHandles, free, last]
    | some config =>
      have mem : easy ∈ state.freeHandles := List.mem_of_getLast? free
      obtain ⟨generation, attached, _, _, _, _, running⟩ :=
        add_unattached (inv.free_unattached mem) inv.calm
      have started : state.consumeFreeHandles = { state with
          freeHandles := state.freeHandles.dropLast
          urlsWithConfig := state.urlsWithConfig.dropLast }.addFreeHandle config (some easy) := by
        rw [State.consumeFreeHandles, free, last]
      rw [started]
      refine Or.inr ⟨List.ne_nil_of_mem mem, List.ne_nil_of_mem (List.mem_of_getLast? last), running, rfl, ?_⟩
      show (state.multi.add easy true).attached.length = _
      rw [attached, List.length_append, List.length_singleton]

theorem blockEnd_shape (multi : Perform.State) (mode : Mode) (final : Bool) :
    ∃ point, multi.blockEnd mode final = { multi with point := point } ∧ inCallbacks point = [] ∧
      point ≠ .idle ∧ ∀ outcome, point = .ended outcome →
        outcome = .returned ∧ final = true ∧ multi.running = 0 := by
  unfold Perform.State.blockEnd Perform.State.loopHead
  cases final with
  | false =>
    by_cases running : multi.running ≠ 0
    · exact ⟨.waiting mode, by simp [running], rfl, nofun, nofun⟩
    · exact ⟨.reading mode true, by simp [running], rfl, nofun, nofun⟩
  | true =>
    by_cases running : multi.running ≠ 0
    · cases mode with
      | fdset => exact ⟨.waiting .fdset, by simp [running], rfl, nofun, nofun⟩
      | socketAction => exact ⟨.driving .socketAction, by simp [running], rfl, nofun, nofun⟩
    · refine ⟨.ended .returned, by simp [running], rfl, nofun, ?_⟩
      intro outcome ended
      cases ended
      exact ⟨rfl, rfl, not_not.mp running⟩

/-- A block that ends the last round has found no configuration left. -/
theorem inv_block {mode : Mode} {final : Bool} {after : State}
    (inv : Inv urls maxConnects state) (point : state.multi.point = .block mode final)
    (steps : (if state.refills then state.consumeFreeHandles else state).loop (.blockEnd none) =
      some after) : Inv urls maxConnects after := by
  have open_ := inv.open_of_point (by rw [point]; nofun)
  have outside : inCallbacks state.multi.point = [] := by
    rw [point]
    rfl
  have runs : state.multi.point.runsRuby = true := by
    rw [point]
    rfl
  have atBlock := inv.multi.atPoint
  rw [point] at atBlock
  -- the block of `perform` has no configuration to start where it is not given
  have next : ∃ next : State, (if state.refills then state.consumeFreeHandles else state) = next ∧
      Accounted urls next ∧ next.multi.point = .block mode final ∧ next.handles = state.handles ∧
      next.returned = false ∧ (next.refills = false → next.urlsWithConfig = []) ∧
      (next.urlsWithConfig ≠ [] → state.urlsWithConfig ≠ []) ∧
      (next.multi.running = 0 → next.urlsWithConfig = []) := by
    by_cases refills : state.refills = true
    · have accounted := accounted_consumeFreeHandles inv.toAccounted runs outside
      obtain ⟨point', _, handles, returned, refills'⟩ := consumeFreeHandles_spec state
      rw [if_pos refills]
      refine ⟨_, rfl, accounted, point'.trans point, handles, returned.trans open_, ?_, ?_, ?_⟩
      · intro noBlock
        cases noBlock.symm.trans (refills'.trans refills)
      · rcases consumeFreeHandles_cases inv.toAccounted with ⟨_, same⟩ | ⟨_, some, _⟩
        · rw [same]
          exact id
        · exact fun _ => some
      · intro stopped
        rcases consumeFreeHandles_cases inv.toAccounted with ⟨nothing, same⟩ | ⟨_, _, running, _⟩
        · rw [same] at stopped ⊢
          by_contra some
          have free := nothing.resolve_right some
          have bound := inv.multi.tables.bound
          rw [stopped, atBlock.2.1, List.length_nil] at bound
          have none := List.eq_nil_of_length_eq_zero (Nat.le_zero.mp bound)
          have lengths := inv.handles.length_eq
          rw [free, none, outside, List.length_range] at lengths
          have positive := inv.started some
          simp at lengths
          omega
        · rw [running] at stopped
          cases stopped
    · rw [if_neg refills]
      have empty := inv.refills ((Bool.not_eq_true _).mp refills)
      exact ⟨state, rfl, inv.toAccounted, point, rfl, open_, fun _ => empty, id, fun _ => empty⟩
  obtain ⟨next, same, accounted, point', handles, returned, refills, some, drained⟩ := next
  rw [same] at steps
  obtain ⟨multi, stepped, final'⟩ := loop_eq_some steps
  have inner := Perform.inv_step accounted.multi (by exact rfl) stepped
  obtain ⟨mode', isFinal, at', shape⟩ := Perform.step_blockEnd stepped
  obtain ⟨_, ends⟩ := shape.resolve_right fun ⟨_, raised, _⟩ => (nomatch raised)
  obtain ⟨after', shape, outside', busy, ended⟩ := blockEnd_shape next.multi mode' isFinal
  rw [shape] at ends
  rw [final', ends]
  rw [ends] at inner
  refine ⟨⟨inner, accounted.calm, accounted.quiet, ?_, accounted.configs, ?_, ?_⟩, ?_, ?_, refills, ?_, ?_⟩
  · intro mode'' final'' completion inside
    dsimp only at inside
    rw [inside] at outside'
    cases outside'
  · have owned := accounted.handles
    rw [point'] at owned
    show (_ ++ _ ++ inCallbacks after').Perm _
    rw [outside']
    exact owned
  · have yielded := accounted.yielded
    rw [point'] at yielded
    show _ = _ ++ (inCallbacks after').flatMap _
    rw [outside']
    exact yielded
  · show next.handles ≤ maxConnects
    rw [handles]
    exact inv.bound
  · intro left
    show 0 < next.handles
    rw [handles]
    exact inv.started (some left)
  · intro outcome isEnded
    exact ⟨(ended outcome isEnded).1, drained (ended outcome isEnded).2.2⟩
  · intro closed
    cases returned.symm.trans closed

/-- An event that leaves the attached transfers as they are. -/
theorem inv_of_step {event : Perform.Event} {multi : Perform.State}
    (inv : Inv urls maxConnects state) (stepped : Perform.step state.multi event = some multi)
    (ok : Perform.StepOk state.multi event) (open_ : state.returned = false)
    (before : inCallbacks state.multi.point = [])
    (attached : multi.attached = state.multi.attached)
    (calm : multi.deferredException = state.multi.deferredException)
    (quiet : multi.callbackError = state.multi.callbackError)
    (outside : inCallbacks multi.point = []) (goesOn : ∀ outcome, multi.point ≠ .ended outcome) :
    Inv urls maxConnects { state with multi := multi } :=
  inv_of_loop inv (Perform.inv_step inv.multi ok stepped) attached (calm.trans inv.calm) quiet
    before outside open_ goesOn

theorem raiseIfIdle_calm {multi : Perform.State} {mode : Mode} {final : Bool}
    (calm : multi.deferredException = none) :
    multi.raiseIfIdle mode final = { multi with point := .block mode final } := by
  unfold Perform.State.raiseIfIdle
  split
  · rfl
  · rename_i exception deferred
    cases calm.symm.trans deferred

theorem completes_multi (state : State) : state.completes.multi = state.multi := by
  unfold State.completes
  split <;> rfl

theorem inv_readInfo {after : State} (inv : Inv urls maxConnects state)
    (steps : step state .readInfo = some after) : Inv urls maxConnects after := by
  obtain ⟨multi, stepped, same⟩ := loop_eq_some steps
  rw [completes_multi] at stepped
  have inner := Perform.inv_step inv.multi (by exact ⟨rfl, rfl⟩) stepped
  obtain ⟨mode, final, point, ⟨messages, loop⟩ | ⟨transfer, rest, messages, loop⟩⟩ :=
    Perform.step_readInfo stepped
  all_goals
    have busy : state.multi.point ≠ .idle := by
      rw [point]
      nofun
  · have open_ := inv.open_of_point busy
    have nothing : state.completes = state := by
      rw [State.completes, messages]
    have goesOn : multi = { state.multi with point := .block mode final } :=
      loop.trans (raiseIfIdle_calm inv.calm)
    rw [same, nothing]
    rw [goesOn] at inner ⊢
    have outside : inCallbacks state.multi.point = [] := by
      rw [point]
      rfl
    exact inv_of_loop inv inner rfl inv.calm rfl outside rfl open_ nofun
  · have open_ := inv.open_of_point busy
    have completes : state.completes = state.complete transfer.1 := by
      rw [State.completes, messages]
    have accounted := accounted_complete inv.toAccounted point messages inner loop
    have inside : ∃ completion, multi.point = .callbacks mode final completion := by
      rw [loop, Perform.State.handleComplete]
      rw [Perform.stashIfAny_point]
      exact ⟨_, rfl⟩
    obtain ⟨completion, inside⟩ := inside
    rw [same, completes]
    refine ⟨accounted, inv.bound, inv.started, inv.refills, ?_, ?_⟩
    · intro outcome ended
      cases inside.symm.trans ended
    · intro closed
      cases open_.symm.trans closed

theorem inv_callbacks {after : State} (inv : Inv urls maxConnects state)
    (steps : step state .callbacks = some after) : Inv urls maxConnects after := by
  dsimp only [step] at steps
  split at steps
  · rename_i mode final completion point
    have open_ := inv.open_of_point (by simp [point])
    obtain ⟨multi, stepped, same⟩ := loop_eq_some steps
    change Perform.step state.multi _ = _ at stepped
    have inner := Perform.inv_step inv.multi (by exact trivial) stepped
    obtain ⟨mode', final', completion', point', loop⟩ := Perform.step_callbacksEnd stepped
    cases point.symm.trans point'
    have goesOn : multi = { state.multi with point := .reading mode final } := by
      rw [loop, Perform.State.callbacksEnd, inv.completing mode final completion point]
      rfl
    rw [goesOn] at inner same
    rw [same]
    refine ⟨accounted_onComplete inv.toAccounted point inner, inv.bound, inv.started, inv.refills,
      ?_, ?_⟩
    · rintro outcome ⟨⟩
    · intro closed
      cases open_.symm.trans closed
  · cases steps

/-- Where `perform` has returned, every configuration has been transferred. -/
theorem inv_performed {after : State} (inv : Inv urls maxConnects state)
    (steps : step state .performed = some after) : Inv urls maxConnects after := by
  dsimp only [step] at steps
  split at steps
  · rename_i point
    obtain ⟨next, looped, same⟩ := Option.map_eq_some_iff.mp steps
    obtain ⟨multi, stepped, next'⟩ := loop_eq_some looped
    have inner := Perform.inv_step inv.multi (by exact trivial) stepped
    obtain ⟨outcome, _, loop⟩ := Perform.step_resume stepped
    have drained := (inv.ended .returned point).2
    have nothing : state.multi.attached = [] := by
      have atEnd := inv.multi.atPoint
      rw [point] at atEnd
      exact atEnd.2.2.1
    have consumed : next.consumeFreeHandles = next := by
      rw [State.consumeFreeHandles, next', drained]
      simp
    have returns : after = { next with returned := true } := by
      rw [← same, State.performed, consumed]
      split
      · rw [next', drained]
        rfl
      · rfl
    have inside : inCallbacks state.multi.point = [] := by
      rw [point]
      rfl
    rw [returns, next']
    rw [loop] at inner ⊢
    refine ⟨⟨inner, inv.calm, inv.quiet, nofun, inv.configs, ?_, ?_⟩, inv.bound, inv.started,
      inv.refills, nofun, ?_⟩
    · have handles := inv.handles
      rw [inside] at handles
      exact handles
    · have yielded := inv.yielded
      rw [inside] at yielded
      exact yielded
    · exact fun _ => ⟨rfl, drained, nothing⟩
  · cases steps

theorem inv_step {event : Event} {after : State} (inv : Inv urls maxConnects state)
    (steps : step state event = some after) : Inv urls maxConnects after := by
  cases event with
  | perform mode =>
    obtain ⟨notReturned, steps⟩ := Option.ite_none_left_eq_some.mp steps
    obtain ⟨multi, stepped, same⟩ := loop_eq_some steps
    obtain ⟨idle, loop⟩ := Perform.step_perform stepped
    subst same loop
    have open_ := (Bool.not_eq_true _).mp notReturned
    exact inv_of_step inv stepped trivial open_ (by rw [idle]; rfl) rfl rfl rfl rfl nofun
  | finish transfer =>
    obtain ⟨multi, stepped, same⟩ := loop_eq_some steps
    obtain ⟨mode, point, _, _, loop⟩ := Perform.step_finish stepped
    have open_ := inv.open_of_point (by rw [point]; nofun)
    have driving : (state.multi.finish transfer).point = .driving mode := point
    subst same loop
    exact inv_of_step inv stepped trivial open_ (by rw [point]; rfl) rfl rfl rfl
      (by rw [driving]; rfl) (by rw [driving]; nofun)
  | acted =>
    obtain ⟨multi, stepped, same⟩ := loop_eq_some steps
    obtain ⟨mode, point, loop⟩ := Perform.step_acted stepped
    have open_ := inv.open_of_point (by rw [point]; nofun)
    subst same loop
    exact inv_of_step inv stepped trivial open_ (by rw [point]; rfl) rfl rfl rfl
      (by dsimp only; rw [point]; rfl) (by dsimp only; rw [point]; nofun)
  | driven =>
    obtain ⟨multi, stepped, same⟩ := loop_eq_some steps
    obtain ⟨mode, point, loop⟩ := Perform.step_driven stepped
    have open_ := inv.open_of_point (by rw [point]; nofun)
    subst same loop
    exact inv_of_step inv stepped trivial open_ (by rw [point]; rfl) rfl rfl rfl rfl nofun
  | waited =>
    obtain ⟨multi, stepped, same⟩ := loop_eq_some steps
    obtain ⟨mode, point, loop⟩ := Perform.step_waited stepped
    have open_ := inv.open_of_point (by rw [point]; nofun)
    subst same loop
    exact inv_of_step inv stepped trivial open_ (by rw [point]; rfl) rfl rfl rfl rfl nofun
  | waitedInVain =>
    obtain ⟨multi, stepped, same⟩ := loop_eq_some steps
    obtain ⟨point, loop⟩ := Perform.step_waitedInVain stepped
    have open_ := inv.open_of_point (by rw [point]; nofun)
    subst same loop
    exact inv_of_step inv stepped trivial open_ (by rw [point]; rfl) rfl rfl rfl rfl nofun
  | readInfo => exact inv_readInfo inv steps
  | callbacks => exact inv_callbacks inv steps
  | block =>
    dsimp only [step] at steps
    split at steps
    · rename_i mode final point
      exact inv_block inv point steps
    · cases steps
  | performed => exact inv_performed inv steps

end Curb.Http

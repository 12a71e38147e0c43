import Curb.Multi.CollectionRuns

/-!
# No use after free

In every run of the program and the collector the free functions find nothing that has been freed, libcurl
holds no `CURL *` that has been cleaned up, and sweeping changes nothing that is alive.
-/

namespace Curb.Attachment.Heap
open Curb.Misc Curb.Ruby

/-- The invariant. -/
structure Sound (heap : Heap) : Prop where
  separate : Separate heap.garbage heap.system
  freedGarbage : heap.freed ⊆ heap.garbage
  freedOnce : heap.freed.Nodup
  freedEasy : ∀ easy, .easy easy ∈ heap.freed → (heap.system.easies easy).multi = none
  freedMulti : ∀ multi, .multi multi ∈ heap.freed → (heap.system.multis multi).attached = []

/-- What is alive is as it was. -/
structure SameAlive (garbage : List Object) (before after : System) : Prop where
  easies : ∀ easy, .easy easy ∉ garbage → after.easies easy = before.easies easy
  multis : ∀ multi, .multi multi ∉ garbage → after.multis multi = before.multis multi

variable {heap after : Heap} {multi easy : ObjectId} {reused : Option ObjectId} {reply : Reply}

/-- An attached handle has not been freed. -/
theorem Sound.attached_unfreed (sound : Sound heap)
    (attached : easy ∈ (heap.system.multis multi).attached) : .easy easy ∉ heap.freed := by
  intro freed
  have points := (sound.separate.agrees multi).backPointer easy attached
  exact Option.some_ne_none _ (points.symm.trans (sound.freedEasy easy freed))

/-- A multi is garbage where one of its handles is. -/
theorem Sound.attached_garbage (sound : Sound heap)
    (attached : easy ∈ (heap.system.multis multi).attached) :
    .easy easy ∈ heap.garbage ↔ .multi multi ∈ heap.garbage := by
  have points := (sound.separate.agrees multi).backPointer easy attached
  constructor
  · intro dead
    by_contra live
    have member : easy ∈ (heap.system.multis multi).members := by
      unfold Multi.members
      exact List.mem_append_left _ (List.mem_append_left _ attached)
    exact sound.separate.alive multi live easy (Or.inl member) dead
  · intro dead
    by_contra live
    exact sound.separate.pointer easy multi live points dead

/-! ## Freeing a handle -/

/-- A multi without a handle, which it may not have had. -/
def withoutEasy (system : System) (multi easy : ObjectId) : Multi :=
  { system.multis multi with
    held := (system.multis multi).held.erase (system.curlOf easy)
    attached := (system.multis multi).attached.erase easy }

theorem withoutEasy_absent {system : System} (agrees : NativeAgrees system multi)
    (absent : easy ∉ (system.multis multi).attached) :
    withoutEasy system multi easy = system.multis multi := by
  rw [withoutEasy, List.erase_of_not_mem (agrees.unheld absent), List.erase_of_not_mem absent]

/-- libcurl lets garbage go: a callback that would make it refuse keeps the multi alive. -/
theorem Sound.grants (sound : Sound heap) (dead : .easy easy ∈ heap.garbage)
    (attached : easy ∈ (heap.system.multis multi).attached)
    (answers : reply = .ok () ∨ heap.system.curlOf easy ∉ (heap.system.multis multi).held ∨
      ∃ other ∈ (heap.system.multis multi).attached, (heap.system.easies other).callbackActive = true) :
    reply = .ok () := by
  rcases answers with granted | unheld | ⟨other, inside, running⟩
  · exact granted
  · rw [(sound.separate.agrees multi).held, List.mem_map_of_injective (curlOf_injective _)] at unheld
    exact absurd attached unheld
  · have deadOther := (sound.attached_garbage inside).mpr ((sound.attached_garbage attached).mp dead)
    exact absurd running (Bool.eq_false_iff.mp (sound.separate.running other deadOther))

/-- A handle that points to a freed multi, or nowhere, is attached nowhere. -/
theorem Sound.apart (sound : Sound heap)
    (gone : ∀ owner, (heap.system.easies easy).multi = some owner → .multi owner ∈ heap.freed) :
    ∀ owner, easy ∉ (heap.system.multis owner).attached := by
  intro owner mem
  have points := (sound.separate.agrees owner).backPointer easy mem
  rw [sound.freedMulti owner (gone owner points)] at mem
  exact List.not_mem_nil mem

/-- What the free function of a handle finds: the multi it points to, or what is in the slot of a multi
that has been freed. -/
theorem found_cases (heap : Heap) (easy : ObjectId) (reused : Option ObjectId) :
    (∃ owner, (heap.system.easies easy).multi = some owner ∧ .multi owner ∉ heap.freed ∧
        heap.found easy reused = some owner) ∨
      (∀ owner, (heap.system.easies easy).multi = some owner → .multi owner ∈ heap.freed) ∧
        (heap.found easy reused = none ∨ heap.found easy reused = reused) := by
  unfold found
  cases points : (heap.system.easies easy).multi with
  | none => exact Or.inr ⟨fun _ same => (Option.some_ne_none _ same.symm).elim, Or.inl rfl⟩
  | some owner =>
    rw [Option.bind_some, multiPointer]
    by_cases freed : .multi owner ∈ heap.freed
    · rw [if_pos freed]
      exact Or.inr ⟨fun other same => Option.some.inj same ▸ freed, Or.inr rfl⟩
    · rw [if_neg freed]
      exact Or.inl ⟨owner, rfl, freed, rfl⟩

theorem freeFromMulti_ok (system : System) (multi easy : ObjectId) :
    Returns (freeFromMulti (some multi) easy (.ok ())) system ()
      ((system.setMulti multi (withoutEasy system multi easy)).setEasy easy
        { system.easies easy with multi := none }) := by
  rw [Returns]
  show EStateM.Result.ok () _ = _
  simp [withoutEasy, System.curlOf]

theorem freeFromMulti_refused {system : System} {error : RubyError} (agrees : NativeAgrees system multi)
    (absent : easy ∉ (system.multis multi).attached) :
    Returns (freeFromMulti (some multi) easy (.error error)) system ()
      ((system.setMulti multi (withoutEasy system multi easy)).setEasy easy
        { system.easies easy with multi := none }) := by
  rw [Returns]
  show EStateM.Result.ok () _ = _
  simp [withoutEasy, List.erase_of_not_mem (agrees.unheld absent)]

/-- The free function of a handle takes it off the multi that has it, and lets it point nowhere. -/
theorem easyFree_eq (sound : Sound heap) (ok : StepOk heap (.freeEasy easy reused reply)) :
    ∃ owner, (∀ other, other ≠ owner → easy ∉ (heap.system.multis other).attached) ∧
      finalState (heap.easyFree easy reused reply) heap.system =
        (heap.system.setMulti owner (withoutEasy heap.system owner easy)).setEasy easy
          { heap.system.easies easy with multi := none } := by
  obtain ⟨dead, -, -, answers⟩ := ok
  have frees {owner : ObjectId} (found : heap.found easy reused = some owner) :
      finalState (heap.easyFree easy reused reply) heap.system =
        (heap.system.setMulti owner (withoutEasy heap.system owner easy)).setEasy easy
          { heap.system.easies easy with multi := none } := by
    have freed : Returns (freeFromMulti (some owner) easy reply) heap.system ()
        ((heap.system.setMulti owner (withoutEasy heap.system owner easy)).setEasy easy
          { heap.system.easies easy with multi := none }) := by
      by_cases attached : easy ∈ (heap.system.multis owner).attached
      · rw [sound.grants dead attached (answers owner found)]
        exact freeFromMulti_ok heap.system owner easy
      · cases reply with
        | ok value => exact freeFromMulti_ok heap.system owner easy
        | error error => exact freeFromMulti_refused (sound.separate.agrees owner) attached
    rw [easyFree, found, freed.finalState_bind]
    show System.setEasy _ easy _ = _
    simp
  rcases found_cases heap easy reused with ⟨owner, points, -, found⟩ | ⟨gone, nothing | slot⟩
  · refine ⟨owner, fun other ne mem => ?_, frees found⟩
    exact ne (sound.separate.attached_unique points mem)
  · have apart := sound.apart gone
    refine ⟨0, fun other _ => apart other, ?_⟩
    rw [withoutEasy_absent (sound.separate.agrees 0) (apart 0), System.setMulti_same, easyFree, nothing]
    rfl
  · have apart := sound.apart gone
    cases found : heap.found easy reused with
    | none =>
      refine ⟨0, fun other _ => apart other, ?_⟩
      rw [withoutEasy_absent (sound.separate.agrees 0) (apart 0), System.setMulti_same, easyFree, found]
      rfl
    | some owner => exact ⟨owner, fun other _ => apart other, frees found⟩

theorem sound_freeEasy (sound : Sound heap) (ok : StepOk heap (.freeEasy easy reused reply)) :
    Sound { heap with
        system := finalState (heap.easyFree easy reused reply) heap.system
        freed := .easy easy :: heap.freed } ∧
      SameAlive heap.garbage heap.system (finalState (heap.easyFree easy reused reply) heap.system) := by
  obtain ⟨owner, apart, final⟩ := easyFree_eq sound ok
  obtain ⟨dead, unfreed, -, -⟩ := ok
  have agrees := sound.separate.agrees owner
  rw [final]
  refine ⟨⟨?_, ?_, ?_, ?_, ?_⟩, ⟨?_, ?_⟩⟩
  · refine separate_set sound.separate rfl apart ?_ ?_ ?_ ?_ ?_ ?_ ?_
    · show (heap.system.multis owner).held.erase _ = ((heap.system.multis owner).attached.erase easy).map _
      rw [agrees.held, List.map_erase (curlOf_injective heap.system)]
    · exact agrees.nodup.erase easy
    · exact fun other mem _ => agrees.backPointer other (List.mem_of_mem_erase mem)
    · exact fun mem => absurd mem agrees.nodup.not_mem_erase
    · exact fun live => absurd dead live
    · intro live
      exact (sound.separate.alive owner live).mono List.erase_subset (List.Subset.refl _)
        (List.Subset.refl _) (List.Subset.refl _)
    · exact sound.separate.running easy
  · intro object mem
    rcases List.mem_cons.mp mem with same | before
    · rw [same]
      exact dead
    · exact sound.freedGarbage before
  · exact List.nodup_cons.mpr ⟨unfreed, sound.freedOnce⟩
  · intro other freed
    by_cases same : other = easy
    · rw [same, System.setEasy_self]
    · rw [System.setEasy_of_ne _ _ same]
      refine sound.freedEasy other ((List.mem_cons.mp freed).resolve_left fun isEasy => same ?_)
      injection isEasy
  · intro other freed
    have before : .multi other ∈ heap.freed :=
      (List.mem_cons.mp freed).resolve_left fun isEasy => by cases isEasy
    have empty := sound.freedMulti other before
    rw [System.setEasy_multis]
    by_cases same : other = owner
    · rw [same] at empty
      rw [same, System.setMulti_self, withoutEasy, empty]
      rfl
    · rw [System.setMulti_of_ne _ _ same]
      exact empty
  · intro other live
    have ne : other ≠ easy := fun same => live (same ▸ dead)
    rw [System.setEasy_of_ne _ _ ne, System.setMulti_easies]
  · intro other live
    rw [System.setEasy_multis]
    by_cases same : other = owner
    · rw [same] at live
      have absent : easy ∉ (heap.system.multis owner).attached :=
        fun mem => live ((sound.attached_garbage mem).mp dead)
      rw [same, System.setMulti_self, withoutEasy_absent agrees absent]
    · rw [System.setMulti_of_ne _ _ same]

/-! ## Freeing a multi -/

theorem multiFree_eq (sound : Sound heap) (multi : ObjectId) :
    finalState (multiFree multi) heap.system = (heap.system.setMulti multi { heap.system.multis multi with
      attached := []
      held := []
      active := 0
      handle := false }).cleared (heap.system.multis multi).attached := by
  rw [multiFree, (detachAll_returns (sound.separate.agrees multi)).finalState_bind]
  show System.setMulti _ multi _ = _
  simp [System.setMulti, System.cleared]

theorem sound_freeMulti (sound : Sound heap) (ok : StepOk heap (.freeMulti multi)) :
    Sound { heap with
        system := finalState (multiFree multi) heap.system
        freed := .multi multi :: heap.freed } ∧
      SameAlive heap.garbage heap.system (finalState (multiFree multi) heap.system) := by
  obtain ⟨dead, unfreed⟩ := ok
  rw [multiFree_eq sound multi]
  refine ⟨⟨?_, ?_, ?_, ?_, ?_⟩, ⟨?_, ?_⟩⟩
  · exact separate_detached sound.separate rfl rfl fun live => absurd dead live
  · intro object mem
    rcases List.mem_cons.mp mem with same | before
    · rw [same]
      exact dead
    · exact sound.freedGarbage before
  · exact List.nodup_cons.mpr ⟨unfreed, sound.freedOnce⟩
  · intro other freed
    have before : .easy other ∈ heap.freed :=
      (List.mem_cons.mp freed).resolve_left fun isMulti => by cases isMulti
    show (ite (other ∈ (heap.system.multis multi).attached) _ _ : Easy).multi = none
    split
    · rfl
    · exact sound.freedEasy other before
  · intro other freed
    rw [System.cleared_multis]
    by_cases same : other = multi
    · rw [same, System.setMulti_self]
    · rw [System.setMulti_of_ne _ _ same]
      refine sound.freedMulti other ((List.mem_cons.mp freed).resolve_left fun isMulti => same ?_)
      injection isMulti
  · intro other live
    have absent : other ∉ (heap.system.multis multi).attached :=
      fun mem => live ((sound.attached_garbage mem).mpr dead)
    show (ite (other ∈ (heap.system.multis multi).attached) _ _ : Easy) = _
    rw [if_neg absent]
    rfl
  · intro other live
    have ne : other ≠ multi := fun same => live (same ▸ dead)
    rw [System.cleared_multis, System.setMulti_of_ne _ _ ne]

/-! ## The program and the mark phase -/

theorem sound_operation {operation : Operation} (sound : Sound heap)
    (ok : StepOk heap (.operation operation)) :
    Sound { heap with system := Attachment.step heap.system operation } ∧
      Untouched heap.garbage heap.system (Attachment.step heap.system operation) := by
  have kept : Kept heap.garbage heap.system heap.system :=
    ⟨sound.separate, ⟨fun _ _ => rfl, fun _ _ => rfl⟩⟩
  have after := kept_execute kept ok.1 ok.2
  refine ⟨⟨after.separate, sound.freedGarbage, sound.freedOnce, fun easy freed => ?_,
    fun multi freed => ?_⟩, after.untouched⟩
  · show ((Attachment.step heap.system operation).easies easy).multi = none
    rw [after.untouched.easies easy (sound.freedGarbage freed)]
    exact sound.freedEasy easy freed
  · show ((Attachment.step heap.system operation).multis multi).attached = []
    rw [after.untouched.multis multi (sound.freedGarbage freed)]
    exact sound.freedMulti multi freed

theorem sound_marked {dead : List Object} (sound : Sound heap) (unmarked : Unmarked heap dead) :
    Sound { heap with
      system := forgetIdle dead heap.system
      garbage := heap.garbage ++ dead } := by
  have live {object : Object} (alive : object ∉ heap.garbage ++ dead) :
      object ∉ heap.garbage ∧ object ∉ dead := by
    rw [List.mem_append, not_or] at alive
    exact alive
  have both {object : Object} (old : object ∉ heap.garbage) (new : object ∉ dead) :
      object ∉ heap.garbage ++ dead := by
    rw [List.mem_append, not_or]
    exact ⟨old, new⟩
  refine ⟨⟨fun owner => ?_, fun easy owner alive points => ?_, fun owner alive => ?_, fun easy => ?_⟩,
    fun object freed => List.mem_append_left _ (sound.freedGarbage freed), sound.freedOnce,
    sound.freedEasy, sound.freedMulti⟩
  · have agrees := sound.separate.agrees owner
    exact ⟨agrees.held, agrees.nodup, agrees.backPointer⟩
  · have here := live alive
    refine both (sound.separate.pointer easy owner here.1 points) ?_
    refine unmarked.closed (.easy easy) here.1 here.2 (.multi owner) (List.mem_map_of_mem ?_)
    exact Option.mem_toList.mpr points
  · have here := live alive
    rintro easy (member | idle)
    · refine both (sound.separate.alive owner here.1 easy (Or.inl member)) ?_
      exact unmarked.closed (.multi owner) here.1 here.2 (.easy easy) (List.mem_map_of_mem member)
    · obtain ⟨inside, kept⟩ := List.mem_filter.mp idle
      exact both (sound.separate.alive owner here.1 easy (Or.inr inside)) (of_decide_eq_true kept)
  · intro isDead
    rcases List.mem_append.mp isDead with old | new
    · exact sound.separate.running easy old
    · exact unmarked.running easy new

theorem sound_fresh : Sound fresh :=
  ⟨⟨fun _ => ⟨rfl, List.nodup_nil, fun _ => List.not_mem_nil.elim⟩, fun _ _ _ _ => List.not_mem_nil,
    fun _ _ _ _ => List.not_mem_nil, fun _ => List.not_mem_nil.elim⟩, List.Subset.refl _, List.nodup_nil,
    fun _ => List.not_mem_nil.elim, fun _ => List.not_mem_nil.elim⟩

theorem sound_step {event : Event} (sound : Sound heap) (ok : StepOk heap event)
    (steps : step heap event = some after) : Sound after := by
  cases event <;> cases steps
  · exact (sound_operation sound ok).1
  · exact sound_marked sound ok
  · exact (sound_freeEasy sound ok).1
  · exact (sound_freeMulti sound ok).1

theorem reached_sound (reached : Reached step StepOk fresh heap) : Sound heap :=
  reached.invariant sound_fresh fun _ _ _ sound ok steps => sound_step sound ok steps

/-! ## What holds of every run -/

/-- Nothing refers to what has been freed: libcurl holds only `CURL *` of handles that have not been, what
is alive marks nothing that has been, a multi about to be freed has no freed handle attached, and its
`CURLM *` has no handle left when it is cleaned up. -/
structure Safe (heap : Heap) : Prop where
  held : ∀ multi, ∀ curl ∈ (heap.system.multis multi).held,
    ∃ easy, .easy easy ∉ heap.freed ∧ curl = heap.system.curlOf easy
  marks : ∀ object, object ∉ heap.garbage → ∀ marked ∈ heap.system.marks object, marked ∉ heap.freed
  once : heap.freed.Nodup
  entries : ∀ multi, ∀ easy ∈ (heap.system.multis multi).attached, .easy easy ∉ heap.freed
  cleanup : ∀ multi, ((finalState (detachAll multi) heap.system).multis multi).held = []

theorem Sound.safe (sound : Sound heap) : Safe heap := by
  refine ⟨fun multi curl held => ?_, fun object live marked mem freed => ?_, sound.freedOnce,
    fun multi easy attached => sound.attached_unfreed attached, fun multi => ?_⟩
  · rw [(sound.separate.agrees multi).held] at held
    obtain ⟨easy, attached, rfl⟩ := List.mem_map.mp held
    exact ⟨easy, sound.attached_unfreed attached, rfl⟩
  · have dead := sound.freedGarbage freed
    cases object with
    | easy easy =>
      obtain ⟨owner, points, rfl⟩ := List.mem_map.mp mem
      exact sound.separate.pointer easy owner live (Option.mem_toList.mp points) dead
    | multi multi =>
      obtain ⟨easy, member, rfl⟩ := List.mem_map.mp mem
      exact sound.separate.alive multi live easy (Or.inl member) dead
  · rw [(detachAll_returns (sound.separate.agrees multi)).finalState_eq, System.cleared_multis,
      System.setMulti_self]

/-- In every run of the program and the collector. -/
theorem reached_safe (reached : Reached step StepOk fresh heap) : Safe heap :=
  (reached_sound reached).safe

/-- A handle is added to one multi and another is given to a second one, and all of it is garbage then. -/
def droppedTogether : List Event := [
  .operation (.add 10 1 (.ok ()) (.ok ()) (.ok ())), .operation (.easyMultiSet 2 (some 11) (.ok ())),
  .marked [.easy 1, .easy 2, .multi 10, .multi 11]]

/-- Both multis are freed before the handles. A new multi is in the slot of the second by then. -/
def multisFirst : List Event := [.freeMulti 10, .freeMulti 11, .freeEasy 2 (some 12) (.error badHandle),
  .freeEasy 1 none (.ok ())]

/-- What is in use is garbage. -/
theorem unmarked_of_all {dead : List Object}
    (easies : ∀ easy, .easy easy ∉ dead → (heap.system.easies easy).multi = none)
    (multis : ∀ multi, .multi multi ∉ dead → (heap.system.multis multi).members = [])
    (running : ∀ easy, .easy easy ∈ dead → (heap.system.easies easy).callbackActive = false) :
    Unmarked heap dead := by
  refine ⟨fun object _ alive marked mem => ?_, running⟩
  cases object with
  | easy easy =>
    rw [System.marks, easies easy alive] at mem
    exact (List.not_mem_nil mem).elim
  | multi multi =>
    rw [System.marks, multis multi alive] at mem
    exact (List.not_mem_nil mem).elim

theorem droppedTogether_ok : ∃ heap, runSteps step fresh droppedTogether = some heap ∧
    Misc.RunOk step StepOk fresh droppedTogether ∧ Misc.RunOk step StepOk heap multisFirst := by
  refine ⟨_, rfl, ?_, ?_⟩
  · refine .cons ⟨fun _ _ => List.not_mem_nil, trivial⟩ rfl ?_
    refine .cons ⟨fun _ _ => List.not_mem_nil, ?_⟩ rfl ?_
    · intro _ _
      rfl
    refine .cons ?_ rfl trivial
    · refine unmarked_of_all (fun easy alive => ?_) (fun multi alive => ?_) fun easy dead => ?_
      · have others : easy ≠ 1 ∧ easy ≠ 2 := by simpa using alive
        show (Function.update (Function.update Attachment.fresh.easies 1 _) 2 _ easy).multi = none
        rw [Function.update_of_ne others.2, Function.update_of_ne others.1]
        rfl
      · have others : multi ≠ 10 ∧ multi ≠ 11 := by simpa using alive
        show (Function.update (Function.update (Function.update (Function.update Attachment.fresh.multis
          10 _) 10 _) 10 _) 11 _ multi).members = []
        rw [Function.update_of_ne others.2, Function.update_of_ne others.1, Function.update_of_ne others.1,
          Function.update_of_ne others.1]
        rfl
      · have named : easy = 1 ∨ easy = 2 := by simpa using dead
        rcases named with rfl | rfl <;> rfl
  · refine .cons ⟨by decide, by decide⟩ rfl ?_
    refine .cons ⟨by decide, by decide⟩ rfl ?_
    refine .cons ⟨by decide, by decide, ?_, ?_⟩ rfl ?_
    · intro multi slot
      rw [← Option.some.inj slot]
      decide
    · intro multi slot
      rw [← Option.some.inj slot]
      exact Or.inr (Or.inl List.not_mem_nil)
    refine .cons ⟨by decide, by decide, ?_, ?_⟩ rfl trivial
    · exact fun _ nothing => (Option.some_ne_none _ nothing.symm).elim
    · exact fun _ _ => Or.inl rfl

theorem reached_safe_dropped : ∃ heap, runSteps step fresh (droppedTogether ++ multisFirst) = some heap ∧
    Safe heap := by
  obtain ⟨heap, ran, before, sweep⟩ := droppedTogether_ok
  exact ⟨_, rfl, reached_safe (Reached.start.run (before.append ran sweep) rfl)⟩

/-- A handle is closed in a callback of another one of its multi: libcurl is left with a `CURL *` that has been
cleaned up. -/
example : (runSteps step fresh [
    .operation (.add 10 1 (.ok ()) (.ok ()) (.ok ())), .operation (.add 10 2 (.ok ()) (.ok ()) (.ok ())),
    .operation (.nativeState 1 true 0), .operation (.easyClose 2 (.error badHandle))]).map (fun heap =>
      ((heap.system.multis 10).held, heap.system.curlOf 2)) = some ([(1, 0), (2, 0)], (2, 1)) := rfl

/-! ## Sweeping -/

/-- An event of the sweep. -/
def Event.Sweeps : Event → Prop
  | .freeEasy .. | .freeMulti _ => True
  | .operation _ | .marked _ => False

theorem SameAlive.trans {garbage : List Object} {before middle last : System}
    (first : SameAlive garbage before middle) (second : SameAlive garbage middle last) :
    SameAlive garbage before last :=
  ⟨fun easy live => (second.easies easy live).trans (first.easies easy live),
    fun multi live => (second.multis multi live).trans (first.multis multi live)⟩

theorem sameAlive_sweep {event : Event} (sound : Sound heap) (sweeps : event.Sweeps)
    (ok : StepOk heap event) (steps : step heap event = some after) :
    after.garbage = heap.garbage ∧ SameAlive heap.garbage heap.system after.system := by
  cases event <;> cases steps
  · cases sweeps
  · cases sweeps
  · exact ⟨rfl, (sound_freeEasy sound ok).2⟩
  · exact ⟨rfl, (sound_freeMulti sound ok).2⟩

theorem sameAlive_sweeps {events : List Event} (sound : Sound heap)
    (sweeps : ∀ event ∈ events, event.Sweeps) (ok : Misc.RunOk step StepOk heap events)
    (ran : runSteps step heap events = some after) :
    SameAlive heap.garbage heap.system after.system := by
  induction events generalizing heap with
  | nil =>
    cases ran
    exact ⟨fun _ _ => rfl, fun _ _ => rfl⟩
  | cons event events ih =>
    obtain ⟨middle, steps, rest⟩ := Option.bind_eq_some_iff.mp ran
    obtain ⟨garbage, same⟩ := sameAlive_sweep sound (sweeps event List.mem_cons_self) ok.1 steps
    have later := ih (sound_step sound ok.1 steps)
      (fun other mem => sweeps other (List.mem_cons_of_mem event mem)) (ok.2 middle steps) rest
    rw [garbage] at later
    exact same.trans later

/-- Sweeping garbage, all or a part of it and in any order, changes nothing that is alive. -/
theorem sweep_sameAlive {events : List Event} (reached : Reached step StepOk fresh heap)
    (sweeps : ∀ event ∈ events, event.Sweeps) (ok : Misc.RunOk step StepOk heap events)
    (ran : runSteps step heap events = some after) :
    SameAlive heap.garbage heap.system after.system :=
  sameAlive_sweeps (reached_sound reached) sweeps ok ran

theorem sweep_sameAlive_dropped : ∃ heap after, runSteps step fresh droppedTogether = some heap ∧
    runSteps step heap multisFirst = some after ∧ SameAlive heap.garbage heap.system after.system := by
  obtain ⟨heap, ran, before, sweep⟩ := droppedTogether_ok
  obtain rfl := Option.some.inj ran
  refine ⟨_, _, rfl, rfl, sweep_sameAlive (Reached.start.run before rfl) ?_ sweep rfl⟩
  intro event mem
  simp only [multisFirst, List.mem_cons, List.not_mem_nil, or_false] at mem
  rcases mem with rfl | rfl | rfl | rfl <;> trivial

/-- A handle is taken off in a callback of another one, and once more by `multi = nil`: freeing it is what takes it
off libcurl then. -/
example :
    let events : List Event := [
      .operation (.add 10 1 (.ok ()) (.ok ()) (.ok ())), .operation (.add 10 2 (.ok ()) (.ok ()) (.ok ())),
      .operation (.nativeState 1 true 0), .operation (.remove 10 2 (.error badHandle)),
      .operation (.easyMultiSet 2 none (.error badHandle)), .operation (.nativeState 1 false 0),
      .marked [.easy 2]]
    let heldAfter events := (runSteps step fresh events).map fun heap => (heap.system.multis 10).held
    (heldAfter events, heldAfter (events ++ [.freeEasy 2 none (.ok ())])) =
      (some [(1, 0), (2, 0)], some [(1, 0)]) := rfl

end Curb.Attachment.Heap

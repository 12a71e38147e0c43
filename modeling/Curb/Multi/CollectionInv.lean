import Mathlib.Data.List.Nodup
import Curb.Multi.Collection
import Curb.Multi.Coherent

/-!
# What is alive stays apart from the garbage

Every operation of the program keeps the native tables together and gives nothing that is alive a way to
what is garbage, and it leaves the garbage as it is.
-/

namespace Curb.Attachment
open Curb.Misc Curb.Ruby

/-- libcurl's list follows the native table, and the attached handles point to the multi. -/
structure NativeAgrees (system : System) (multi : ObjectId) : Prop where
  held : (system.multis multi).held = (system.multis multi).attached.map system.curlOf
  nodup : (system.multis multi).attached.Nodup
  backPointer : ∀ easy ∈ (system.multis multi).attached, (system.easies easy).multi = some multi

/-- The handles a multi knows of, the idle ones among them, are alive. -/
def Multi.Alive (garbage : List Object) (state : Multi) : Prop :=
  ∀ easy, easy ∈ state.members ∨ easy ∈ state.idleEasyReferences → .easy easy ∉ garbage

/-- Nothing that is alive leads to garbage. -/
structure Separate (garbage : List Object) (system : System) : Prop where
  agrees : ∀ multi, NativeAgrees system multi
  pointer : ∀ easy multi, .easy easy ∉ garbage → (system.easies easy).multi = some multi →
    .multi multi ∉ garbage
  alive : ∀ multi, .multi multi ∉ garbage → (system.multis multi).Alive garbage
  running : ∀ easy, .easy easy ∈ garbage → (system.easies easy).callbackActive = false

/-- The garbage is as it was. -/
structure Untouched (garbage : List Object) (before after : System) : Prop where
  easies : ∀ easy, .easy easy ∈ garbage → after.easies easy = before.easies easy
  multis : ∀ multi, .multi multi ∈ garbage → after.multis multi = before.multis multi

/-- What an operation keeps. -/
structure Kept (garbage : List Object) (before system : System) : Prop where
  separate : Separate garbage system
  untouched : Untouched garbage before system

/-- The native tables and the references to idle handles have lost handles and got none. -/
structure Shrunk (before system : System) : Prop where
  attached : ∀ owner, (system.multis owner).attached ⊆ (before.multis owner).attached
  idle : ∀ owner, (system.multis owner).idleEasyReferences ⊆ (before.multis owner).idleEasyReferences

variable {garbage : List Object} {before system : System} {multi easy : ObjectId}

/-! ## Changes to one multi and one handle -/

theorem NativeAgrees.unheld (agrees : NativeAgrees system multi)
    (absent : easy ∉ (system.multis multi).attached) : system.curlOf easy ∉ (system.multis multi).held := by
  rw [agrees.held, List.mem_map_of_injective (curlOf_injective system)]
  exact absent

theorem Untouched.setMulti {state : Multi} (untouched : Untouched garbage before system)
    (live : .multi multi ∉ garbage) : Untouched garbage before (system.setMulti multi state) := by
  refine ⟨untouched.easies, fun owner dead => ?_⟩
  have ne : owner ≠ multi := fun same => live (same ▸ dead)
  rw [System.setMulti_of_ne _ _ ne]
  exact untouched.multis owner dead

theorem Untouched.setEasy {record : Easy} (untouched : Untouched garbage before system)
    (live : .easy easy ∉ garbage) : Untouched garbage before (system.setEasy easy record) := by
  refine ⟨fun other dead => ?_, untouched.multis⟩
  have ne : other ≠ easy := fun same => live (same ▸ dead)
  rw [System.setEasy_of_ne _ _ ne]
  exact untouched.easies other dead

/-- A handle is attached to the multi it points to, and to no other. -/
theorem Separate.attached_unique (separate : Separate garbage system) {owner : ObjectId}
    (points : (system.easies easy).multi = some multi)
    (attached : easy ∈ (system.multis owner).attached) : owner = multi :=
  Option.some.inj (((separate.agrees owner).backPointer easy attached).symm.trans points)

/-- A handle points to none of the multis it is not attached to, where it is attached. -/
theorem Separate.apart (separate : Separate garbage system)
    (attached : easy ∈ (system.multis multi).attached) :
    ∀ owner, owner ≠ multi → easy ∉ (system.multis owner).attached :=
  fun _ ne mem => ne (separate.attached_unique ((separate.agrees multi).backPointer easy attached) mem)

/-- A change of one multi and of one handle it is about, which keeps its `CURL *`; they may be garbage. -/
theorem separate_set {state : Multi} {record : Easy} (separate : Separate garbage system)
    (curl : record.curl = (system.easies easy).curl)
    (apart : ∀ owner, owner ≠ multi → easy ∉ (system.multis owner).attached)
    (held : state.held = state.attached.map system.curlOf) (nodup : state.attached.Nodup)
    (others : ∀ other ∈ state.attached, other ≠ easy → (system.easies other).multi = some multi)
    (pointer : easy ∈ state.attached → record.multi = some multi)
    (target : .easy easy ∉ garbage → ∀ owner, record.multi = some owner → .multi owner ∉ garbage)
    (alive : .multi multi ∉ garbage → state.Alive garbage)
    (running : .easy easy ∈ garbage → record.callbackActive = false) :
    Separate garbage ((system.setMulti multi state).setEasy easy record) := by
  have curlOf : ((system.setMulti multi state).setEasy easy record).curlOf = system.curlOf := by
    funext other
    by_cases same : other = easy
    · rw [System.curlOf, System.curlOf, same, System.setEasy_self, curl]
    · rw [System.curlOf, System.curlOf, System.setEasy_of_ne _ _ same, System.setMulti_easies]
  refine ⟨fun owner => ?_, fun other owner => ?_, fun owner live => ?_, fun other dead => ?_⟩
  · by_cases isMulti : owner = multi
    · rw [isMulti]
      refine ⟨?_, ?_, ?_⟩ <;> rw [System.setEasy_multis, System.setMulti_self]
      · rw [curlOf]
        exact held
      · exact nodup
      · intro other mem
        by_cases same : other = easy
        · rw [same] at mem ⊢
          rw [System.setEasy_self]
          exact pointer mem
        · rw [System.setEasy_of_ne _ _ same]
          exact others other mem same
    · have agrees := separate.agrees owner
      refine ⟨?_, ?_, ?_⟩ <;> rw [System.setEasy_multis, System.setMulti_of_ne _ _ isMulti]
      · rw [curlOf]
        exact agrees.held
      · exact agrees.nodup
      · intro other mem
        have ne : other ≠ easy := fun same => apart owner isMulti (same ▸ mem)
        rw [System.setEasy_of_ne _ _ ne]
        exact agrees.backPointer other mem
  · by_cases same : other = easy
    · rw [same, System.setEasy_self]
      exact fun live => target live owner
    · rw [System.setEasy_of_ne _ _ same]
      exact separate.pointer other owner
  · by_cases isMulti : owner = multi
    · rw [isMulti, System.setEasy_multis, System.setMulti_self]
      exact alive (isMulti ▸ live)
    · rw [System.setEasy_multis, System.setMulti_of_ne _ _ isMulti]
      exact separate.alive owner live
  · by_cases same : other = easy
    · rw [same, System.setEasy_self]
      exact running (same ▸ dead)
    · rw [System.setEasy_of_ne _ _ same]
      exact separate.running other dead

/-- Such a change of what is alive. -/
theorem kept_set {state : Multi} {record : Easy} (kept : Kept garbage before system)
    (liveMulti : .multi multi ∉ garbage) (liveEasy : .easy easy ∉ garbage)
    (curl : record.curl = (system.easies easy).curl)
    (apart : ∀ owner, owner ≠ multi → easy ∉ (system.multis owner).attached)
    (held : state.held = state.attached.map system.curlOf) (nodup : state.attached.Nodup)
    (others : ∀ other ∈ state.attached, other ≠ easy → (system.easies other).multi = some multi)
    (pointer : easy ∈ state.attached → record.multi = some multi)
    (target : ∀ owner, record.multi = some owner → .multi owner ∉ garbage)
    (alive : state.Alive garbage) :
    Kept garbage before ((system.setMulti multi state).setEasy easy record) :=
  ⟨separate_set kept.separate curl apart held nodup others pointer (fun _ => target) (fun _ => alive)
    fun dead => absurd dead liveEasy, (kept.untouched.setMulti liveMulti).setEasy liveEasy⟩

/-- A live multi changes, and its handles do not. -/
theorem kept_setTables {state : Multi} (kept : Kept garbage before system) (live : .multi multi ∉ garbage)
    (held : state.held = state.attached.map system.curlOf) (nodup : state.attached.Nodup)
    (pointing : ∀ easy ∈ state.attached, (system.easies easy).multi = some multi)
    (alive : state.Alive garbage) : Kept garbage before (system.setMulti multi state) := by
  refine ⟨⟨fun owner => ?_, kept.separate.pointer, fun owner liveOwner => ?_, kept.separate.running⟩,
    kept.untouched.setMulti live⟩
  · by_cases isMulti : owner = multi
    · rw [isMulti]
      constructor <;> rw [System.setMulti_self] <;> assumption
    · have agrees := kept.separate.agrees owner
      constructor <;> rw [System.setMulti_of_ne _ _ isMulti]
      · exact agrees.held
      · exact agrees.nodup
      · exact agrees.backPointer
  · by_cases isMulti : owner = multi
    · rw [isMulti, System.setMulti_self]
      exact alive
    · rw [System.setMulti_of_ne _ _ isMulti]
      exact kept.separate.alive owner liveOwner

/-- A live multi changes beside its native side. -/
theorem kept_setMulti {state : Multi} (kept : Kept garbage before system)
    (live : .multi multi ∉ garbage) (attached : state.attached = (system.multis multi).attached)
    (held : state.held = (system.multis multi).held) (alive : state.Alive garbage) :
    Kept garbage before (system.setMulti multi state) := by
  have agrees := kept.separate.agrees multi
  refine kept_setTables kept live ?_ ?_ ?_ alive <;> rw [attached]
  · rw [held]
    exact agrees.held
  · exact agrees.nodup
  · exact agrees.backPointer

/-- A live handle changes beside its `CURL *` and its multi. -/
theorem kept_setEasy {record : Easy} (kept : Kept garbage before system) (live : .easy easy ∉ garbage)
    (curl : record.curl = (system.easies easy).curl)
    (pointer : record.multi = (system.easies easy).multi) :
    Kept garbage before (system.setEasy easy record) := by
  have curlOf : (system.setEasy easy record).curlOf = system.curlOf := by
    funext other
    by_cases same : other = easy
    · rw [System.curlOf, System.curlOf, same, System.setEasy_self, curl]
    · rw [System.curlOf, System.curlOf, System.setEasy_of_ne _ _ same]
  have pointers (other : ObjectId) :
      ((system.setEasy easy record).easies other).multi = (system.easies other).multi := by
    by_cases same : other = easy
    · rw [same, System.setEasy_self, pointer]
    · rw [System.setEasy_of_ne _ _ same]
  refine ⟨⟨fun owner => ?_, fun other owner => ?_, kept.separate.alive, fun other dead => ?_⟩,
    kept.untouched.setEasy live⟩
  · have agrees := kept.separate.agrees owner
    refine ⟨?_, agrees.nodup, fun other mem => ?_⟩
    · rw [curlOf]
      exact agrees.held
    · rw [pointers]
      exact agrees.backPointer other mem
  · rw [pointers]
    exact kept.separate.pointer other owner
  · have ne : other ≠ easy := fun same => live (same ▸ dead)
    rw [System.setEasy_of_ne _ _ ne]
    exact kept.separate.running other dead

/-- A live handle that is attached nowhere may change as it likes. -/
theorem kept_setEasy_apart {record : Easy} (kept : Kept garbage before system)
    (live : .easy easy ∉ garbage) (apart : ∀ owner, easy ∉ (system.multis owner).attached)
    (target : ∀ owner, record.multi = some owner → .multi owner ∉ garbage) :
    Kept garbage before (system.setEasy easy record) := by
  have other_ne {owner other : ObjectId} (mem : other ∈ (system.multis owner).attached) :
      other ≠ easy := fun same => apart owner (same ▸ mem)
  refine ⟨⟨fun owner => ?_, fun other owner => ?_, kept.separate.alive, fun other dead => ?_⟩,
    kept.untouched.setEasy live⟩
  · have agrees := kept.separate.agrees owner
    refine ⟨agrees.held.trans (List.map_congr_left fun other mem => ?_), agrees.nodup, fun other mem => ?_⟩
    · rw [System.curlOf, System.curlOf, System.setEasy_of_ne _ _ (other_ne mem)]
    · rw [System.setEasy_of_ne _ _ (other_ne mem)]
      exact agrees.backPointer other mem
  · by_cases same : other = easy
    · rw [same, System.setEasy_self]
      exact fun _ => target owner
    · rw [System.setEasy_of_ne _ _ same]
      exact kept.separate.pointer other owner
  · have ne : other ≠ easy := fun same => live (same ▸ dead)
    rw [System.setEasy_of_ne _ _ ne]
    exact kept.separate.running other dead

/-- The tables a multi keeps its handles in have only lost some. -/
theorem Multi.Alive.mono {state after : Multi} (alive : state.Alive garbage)
    (attached : after.attached ⊆ state.attached) (requests : after.requests ⊆ state.requests)
    (completions : after.completions ⊆ state.completions)
    (idle : after.idleEasyReferences ⊆ state.idleEasyReferences) : after.Alive garbage := by
  rintro other (member | reference)
  · refine alive other (Or.inl ?_)
    unfold Multi.members at member ⊢
    rcases List.mem_append.mp member with table | completing
    · refine List.mem_append_left _ (List.mem_append.mpr ?_)
      exact (List.mem_append.mp table).imp (fun mem => attached mem) fun mem => requests mem
    · exact List.mem_append_right _ (List.map_subset _ completions completing)
  · exact alive other (Or.inr (idle reference))

end Curb.Attachment

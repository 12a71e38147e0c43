import Mathlib.Data.List.Nodup
import Curb.Misc.Fallible
import Curb.Multi.Attachment

/-!
# The three tables agree

Every operation that libcurl does not refuse half way, and that is not an `Easy#close` of an
attached handle, leaves the requests, the native table and libcurl's list of every multi the
same, handle for handle.
-/

namespace Curb.Attachment
open Curb.Misc Curb.Ruby

/-! ## What is to hold -/

/-- The three tables of a multi are one set, `active` is its size, and each of its handles points
back to the multi and belongs to no other. -/
structure Coherent (system : System) : Prop where
  attached : ∀ multi easy,
    easy ∈ (system.multis multi).requests ↔ easy ∈ (system.multis multi).attached
  held : ∀ multi curl, curl ∈ (system.multis multi).held ↔
    ∃ easy ∈ (system.multis multi).requests, curl = system.curlOf easy
  active : ∀ multi, (system.multis multi).requests.Nodup ∧
    (system.multis multi).active = (system.multis multi).requests.length
  backPointer : ∀ multi, ∀ easy ∈ (system.multis multi).requests,
    (system.easies easy).multi = some multi
  unique : ∀ multi other easy, easy ∈ (system.multis multi).requests →
    easy ∈ (system.multis other).requests → multi = other

/-- The native side of one multi: the table, libcurl's list and the counter. -/
structure Native (system : System) (multi : ObjectId) : Prop where
  held : (system.multis multi).held = (system.multis multi).attached.map system.curlOf
  active : (system.multis multi).active = (system.multis multi).attached.length
  nodup : (system.multis multi).attached.Nodup
  backPointer : ∀ easy ∈ (system.multis multi).attached, (system.easies easy).multi = some multi
  handle : (system.multis multi).handle = false → (system.multis multi).attached = []

/-- The invariant: libcurl's list and the requests follow the native table in its order. -/
structure Inv (system : System) : Prop where
  native : ∀ multi, Native system multi
  requests : ∀ multi, (system.multis multi).requests = (system.multis multi).attached

theorem Inv.coherent {system : System} (inv : Inv system) : Coherent system := by
  refine ⟨?_, ?_, ?_, ?_, ?_⟩
  · intro multi easy
    rw [inv.requests]
  · intro multi curl
    rw [(inv.native multi).held, inv.requests, List.mem_map]
    exact exists_congr fun easy => and_congr_right fun _ => eq_comm
  · intro multi
    rw [inv.requests]
    exact ⟨(inv.native multi).nodup, (inv.native multi).active⟩
  · intro multi easy mem
    rw [inv.requests] at mem
    exact (inv.native multi).backPointer easy mem
  · intro multi other easy here there
    rw [inv.requests] at here there
    have pointsHere := (inv.native multi).backPointer easy here
    have pointsThere := (inv.native other).backPointer easy there
    exact Option.some.inj (pointsHere.symm.trans pointsThere)

theorem inv_fresh : Inv fresh :=
  ⟨fun _ => ⟨rfl, rfl, List.nodup_nil, nofun, nofun⟩, fun _ => rfl⟩

/-! ## Changes to one multi and one handle -/

variable {system : System} {multi easy : ObjectId}

/-- An attached handle is in no other table. -/
theorem not_mem_other (native : ∀ multi, Native system multi)
    (pointer : ∀ other, (system.easies easy).multi = some other → other = multi) :
    ∀ other, other ≠ multi → easy ∉ (system.multis other).attached := by
  intro other ne mem
  exact ne (pointer other ((native other).backPointer easy mem))

/-- The native side after a change of one multi and of one handle it is about: the handle keeps
its `CURL *`, and no other multi's table has it. -/
theorem native_set {state : Multi} {record : Easy} (native : ∀ multi, Native system multi)
    (curl : record.curl = (system.easies easy).curl)
    (apart : ∀ other, other ≠ multi → easy ∉ (system.multis other).attached)
    (held : state.held = state.attached.map system.curlOf)
    (active : state.active = state.attached.length) (nodup : state.attached.Nodup)
    (others : ∀ other ∈ state.attached, other ≠ easy → (system.easies other).multi = some multi)
    (pointer : easy ∈ state.attached → record.multi = some multi)
    (handle : state.handle = false → state.attached = []) :
    ∀ owner, Native ((system.setMulti multi state).setEasy easy record) owner := by
  have curlOf : ((system.setMulti multi state).setEasy easy record).curlOf = system.curlOf := by
    funext other
    by_cases same : other = easy
    · rw [System.curlOf, System.curlOf, same, System.setEasy_self, curl]
    · rw [System.curlOf, System.curlOf, System.setEasy_of_ne _ _ same, System.setMulti_easies]
  intro owner
  by_cases isMulti : owner = multi
  · rw [isMulti]
    refine ⟨?_, ?_, ?_, ?_, ?_⟩
    · rw [curlOf, System.setEasy_multis, System.setMulti_self]
      exact held
    · rw [System.setEasy_multis, System.setMulti_self]
      exact active
    · rw [System.setEasy_multis, System.setMulti_self]
      exact nodup
    · rw [System.setEasy_multis, System.setMulti_self]
      intro other mem
      by_cases same : other = easy
      · rw [same] at mem ⊢
        rw [System.setEasy_self]
        exact pointer mem
      · rw [System.setEasy_of_ne _ _ same, System.setMulti_easies]
        exact others other mem same
    · rw [System.setEasy_multis, System.setMulti_self]
      exact handle
  · have before := native owner
    refine ⟨?_, ?_, ?_, ?_, ?_⟩
    · rw [curlOf, System.setEasy_multis, System.setMulti_of_ne _ _ isMulti]
      exact before.held
    · rw [System.setEasy_multis, System.setMulti_of_ne _ _ isMulti]
      exact before.active
    · rw [System.setEasy_multis, System.setMulti_of_ne _ _ isMulti]
      exact before.nodup
    · rw [System.setEasy_multis, System.setMulti_of_ne _ _ isMulti]
      intro other mem
      have ne : other ≠ easy := fun same => apart owner isMulti (same ▸ mem)
      rw [System.setEasy_of_ne _ _ ne, System.setMulti_easies]
      exact before.backPointer other mem
    · rw [System.setEasy_multis, System.setMulti_of_ne _ _ isMulti]
      exact before.handle

/-- The requests after such a change. -/
theorem requests_set {state : Multi} {record : Easy}
    (requests : ∀ owner, (system.multis owner).requests = (system.multis owner).attached)
    (same : state.requests = state.attached) (owner : ObjectId) :
    (((system.setMulti multi state).setEasy easy record).multis owner).requests =
      (((system.setMulti multi state).setEasy easy record).multis owner).attached := by
  rw [System.setEasy_multis]
  by_cases isMulti : owner = multi
  · rw [isMulti, System.setMulti_self]
    exact same
  · rw [System.setMulti_of_ne _ _ isMulti]
    exact requests owner

/-- Fields of a handle beside its `CURL *` and its multi. -/
theorem inv_setEasy {record : Easy} (inv : Inv system) (curl : record.curl = (system.easies easy).curl)
    (pointer : record.multi = (system.easies easy).multi) : Inv (system.setEasy easy record) := by
  have curlOf : (system.setEasy easy record).curlOf = system.curlOf := by
    funext other
    by_cases same : other = easy
    · rw [System.curlOf, System.curlOf, same, System.setEasy_self, curl]
    · rw [System.curlOf, System.curlOf, System.setEasy_of_ne _ _ same]
  have pointers (other : ObjectId) :
      ((system.setEasy easy record).easies other).multi = (system.easies other).multi := by
    by_cases same : other = easy
    · rw [same, System.setEasy_self, pointer]
    · rw [System.setEasy_of_ne _ _ same]
  refine ⟨fun owner => ?_, inv.requests⟩
  have before := inv.native owner
  refine ⟨?_, before.active, before.nodup, ?_, before.handle⟩
  · rw [curlOf]
    exact before.held
  · intro other mem
    rw [pointers]
    exact before.backPointer other mem

/-- A handle that belongs to no multi may change as it likes. -/
theorem inv_setEasy_apart {record : Easy} (inv : Inv system)
    (apart : ∀ owner, easy ∉ (system.multis owner).attached) : Inv (system.setEasy easy record) := by
  have other_ne {owner other : ObjectId} (mem : other ∈ (system.multis owner).attached) :
      other ≠ easy := fun same => apart owner (same ▸ mem)
  refine ⟨fun owner => ?_, inv.requests⟩
  have before := inv.native owner
  refine ⟨before.held.trans (List.map_congr_left fun other mem => ?_), before.active, before.nodup,
    ?_, before.handle⟩
  · rw [System.curlOf, System.curlOf, System.setEasy_of_ne _ _ (other_ne mem)]
  · intro other mem
    rw [System.setEasy_of_ne _ _ (other_ne mem)]
    exact before.backPointer other mem

/-- Fields of a multi beside the tables. -/
theorem inv_setMulti {state : Multi} (inv : Inv system)
    (requests : state.requests = (system.multis multi).requests)
    (attached : state.attached = (system.multis multi).attached)
    (held : state.held = (system.multis multi).held)
    (active : state.active = (system.multis multi).active)
    (handle : state.handle = false → (system.multis multi).attached = []) :
    Inv (system.setMulti multi state) := by
  have before := inv.native multi
  refine ⟨fun owner => ?_, fun owner => ?_⟩
  · by_cases isMulti : owner = multi
    · rw [isMulti]
      refine ⟨?_, ?_, ?_, ?_, ?_⟩
      · rw [System.setMulti_self, held, attached]
        exact before.held
      · rw [System.setMulti_self, active, attached]
        exact before.active
      · rw [System.setMulti_self, attached]
        exact before.nodup
      · rw [System.setMulti_self, attached]
        exact before.backPointer
      · rw [System.setMulti_self, attached]
        exact handle
    · have other := inv.native owner
      refine ⟨?_, ?_, ?_, ?_, ?_⟩
      · rw [System.setMulti_of_ne _ _ isMulti]
        exact other.held
      · rw [System.setMulti_of_ne _ _ isMulti]
        exact other.active
      · rw [System.setMulti_of_ne _ _ isMulti]
        exact other.nodup
      · rw [System.setMulti_of_ne _ _ isMulti]
        exact other.backPointer
      · rw [System.setMulti_of_ne _ _ isMulti]
        exact other.handle
  · by_cases isMulti : owner = multi
    · rw [isMulti, System.setMulti_self, requests, attached]
      exact inv.requests multi
    · rw [System.setMulti_of_ne _ _ isMulti]
      exact inv.requests owner

/-! ## Removals -/

theorem curlOf_injective (system : System) : Function.Injective system.curlOf :=
  fun _ _ same => congrArg Prod.fst same

/-- What `rb_curl_multi_remove` leaves where libcurl lets the handle go. -/
def System.removed (system : System) (multi easy : ObjectId) : System :=
  (system.setMulti multi { system.multis multi with
    held := (system.multis multi).held.erase (system.curlOf easy)
    active := (system.multis multi).active - 1
    attached := (system.multis multi).attached.erase easy }).setEasy easy
      { system.easies easy with multi := none }

theorem multiRemoveNative_ok (system : System) (multi easy : ObjectId) :
    Returns (multiRemoveNative multi easy (.ok ())) system () (system.removed multi easy) := by
  rw [Returns]
  show EStateM.Result.ok () _ = _
  simp [System.removed]

theorem multiRemoveNative_error (system : System) (multi easy : ObjectId) (error : RubyError) :
    Raises (multiRemoveNative multi easy (.error error)) system error system := rfl

/-- The tables of a multi without one of its handles. -/
def System.released (system : System) (multi easy : ObjectId) : System :=
  system.setMulti multi { system.multis multi with
    requests := (system.multis multi).requests.erase easy
    held := (system.multis multi).held.erase (system.curlOf easy)
    active := (system.multis multi).active - 1
    attached := (system.multis multi).attached.erase easy }

theorem inv_released (inv : Inv system) (mem : easy ∈ (system.multis multi).attached) :
    Inv (system.released multi easy) := by
  have before := inv.native multi
  have apart := not_mem_other inv.native fun other points =>
    Option.some.inj (points.symm.trans (before.backPointer easy mem))
  rw [← System.setEasy_same (system.released multi easy) easy, System.released]
  refine ⟨?_, ?_⟩
  · refine native_set inv.native ?_ apart ?_ ?_ ?_ ?_ ?_ ?_
    · rfl
    · show (system.multis multi).held.erase _ = ((system.multis multi).attached.erase easy).map _
      rw [before.held, List.map_erase (curlOf_injective system)]
    · show (system.multis multi).active - 1 = ((system.multis multi).attached.erase easy).length
      rw [before.active, List.length_erase_of_mem mem]
    · exact before.nodup.erase easy
    · intro other inside _
      exact before.backPointer other (List.mem_of_mem_erase inside)
    · intro inside
      exact absurd inside before.nodup.not_mem_erase
    · intro noHandle
      show (system.multis multi).attached.erase easy = []
      rw [before.handle noHandle]
      rfl
  · apply requests_set inv.requests
    show (system.multis multi).requests.erase easy = (system.multis multi).attached.erase easy
    rw [inv.requests]

/-- A handle that has been let go belongs to no multi. -/
theorem released_apart (inv : Inv system) (mem : easy ∈ (system.multis multi).attached) :
    ∀ owner, easy ∉ ((system.released multi easy).multis owner).attached := by
  have before := inv.native multi
  intro owner
  by_cases isMulti : owner = multi
  · rw [isMulti, System.released, System.setMulti_self]
    exact before.nodup.not_mem_erase
  · rw [System.released, System.setMulti_of_ne _ _ isMulti]
    exact not_mem_other inv.native (fun other points =>
      Option.some.inj (points.symm.trans (before.backPointer easy mem))) owner isMulti

/-- What is left after a request has been deleted and libcurl has let the handle go. -/
def System.dropped (system : System) (multi easy : ObjectId) : System :=
  (system.released multi easy).setEasy easy { system.easies easy with multi := none }

theorem inv_dropped (inv : Inv system) (mem : easy ∈ (system.multis multi).attached) :
    Inv (system.dropped multi easy) :=
  inv_setEasy_apart (inv_released inv mem) (released_apart inv mem)

theorem remove_returns (system : System) (mem : easy ∈ (system.multis multi).requests) :
    Returns (remove multi easy (.ok ())) system () (system.dropped multi easy) := by
  show (ite (easy ∈ (system.multis multi).requests) _ _ : SystemM Unit) system = _
  rw [if_pos mem]
  show Returns (multiRemoveNative multi easy (.ok ())) (system.setMulti multi _) () _
  have same : (system.setMulti multi { system.multis multi with
      requests := (system.multis multi).requests.erase easy }).removed multi easy =
        system.dropped multi easy := by
    simp [System.removed, System.dropped, System.released, System.curlOf]
  exact same ▸ multiRemoveNative_ok _ multi easy

theorem remove_absent (system : System) (reply : Reply)
    (absent : easy ∉ (system.multis multi).requests) :
    Returns (remove multi easy reply) system () system := by
  show (ite (easy ∈ (system.multis multi).requests) _ _ : SystemM Unit) system = _
  rw [if_neg absent]
  rfl

theorem inv_remove {reply : Reply} (inv : Inv system)
    (accepted : easy ∈ (system.multis multi).requests → reply = .ok ()) :
    Inv (finalState (remove multi easy reply) system) := by
  by_cases mem : easy ∈ (system.multis multi).requests
  · rw [accepted mem, (remove_returns system mem).finalState_eq]
    exact inv_dropped inv (inv.requests multi ▸ mem)
  · rw [(remove_absent system reply mem).finalState_eq]
    exact inv

theorem keeps_cancel {replies : ObjectId → Reply}
    (accepted : ∀ easy ∈ (system.multis multi).requests, replies easy = .ok ()) (inv : Inv system) :
    Inv (finalState (cancel multi replies) system) := by
  have each : ∀ easy ∈ (system.multis multi).requests,
      Keeps Inv (remove multi easy (replies easy)) := by
    intro easy mem state before
    exact inv_remove before fun _ => accepted easy mem
  exact keeps_forM each system inv

/-! ## Additions -/

/-- The handles, the native tables and the completions are the same. -/
structure SameTables (before after : System) : Prop where
  easies : after.easies = before.easies
  requests : ∀ owner, (after.multis owner).requests = (before.multis owner).requests
  attached : ∀ owner, (after.multis owner).attached = (before.multis owner).attached
  deferredException : ∀ owner,
    (after.multis owner).deferredException = (before.multis owner).deferredException
  completions : ∀ owner, (after.multis owner).completions = (before.multis owner).completions

theorem SameTables.refl (system : System) : SameTables system system :=
  ⟨rfl, fun _ => rfl, fun _ => rfl, fun _ => rfl, fun _ => rfl⟩

/-- Other fields of one multi have changed. -/
theorem sameTables_setMulti {state : Multi} (requests : state.requests = (system.multis multi).requests)
    (attached : state.attached = (system.multis multi).attached)
    (deferredException : state.deferredException = (system.multis multi).deferredException)
    (completions : state.completions = (system.multis multi).completions) :
    SameTables system (system.setMulti multi state) := by
  refine ⟨rfl, fun owner => ?_, fun owner => ?_, fun owner => ?_, fun owner => ?_⟩ <;>
    by_cases isMulti : owner = multi
  · rw [isMulti, System.setMulti_self, requests]
  · rw [System.setMulti_of_ne _ _ isMulti]
  · rw [isMulti, System.setMulti_self, attached]
  · rw [System.setMulti_of_ne _ _ isMulti]
  · rw [isMulti, System.setMulti_self, deferredException]
  · rw [System.setMulti_of_ne _ _ isMulti]
  · rw [isMulti, System.setMulti_self, completions]
  · rw [System.setMulti_of_ne _ _ isMulti]

theorem checkReply_returns {reply : Reply} {after : System}
    (returns : Returns (checkReply reply) system () after) : reply = .ok () ∧ after = system := by
  cases reply with
  | ok value => exact ⟨rfl, (returns_pure_iff.mp returns).2.symm⟩
  | error error => exact absurd returns returns_throw_iff

/-- The multi's `CURLM *` is there, or made, or the multi is closed. -/
theorem ensureHandle_cases (multi : ObjectId) (inv : Inv system) :
    (∃ after, Returns (ensureHandle multi) system () after ∧ Inv after ∧
        (after.multis multi).handle = true ∧ SameTables system after) ∨
      Raises (ensureHandle multi) system badHandle system := by
  have unfolded : ensureHandle multi system = (if (system.multis multi).handle then pure () else
      if (system.multis multi).closed then throw badHandle else multiInit multi : SystemM Unit)
        system := rfl
  unfold Returns Raises
  rw [unfolded]
  by_cases handle : (system.multis multi).handle = true
  · rw [if_pos handle]
    exact Or.inl ⟨system, rfl, inv, handle, .refl system⟩
  by_cases closed : (system.multis multi).closed = true
  · rw [if_neg handle, if_pos closed]
    exact Or.inr rfl
  · rw [if_neg handle, if_neg closed]
    have before := inv.native multi
    have empty := before.handle ((Bool.not_eq_true _).mp handle)
    refine Or.inl ⟨finalState (multiInit multi) system, rfl, ?_, ?_, ?_⟩
    · apply inv_setMulti inv
      · rfl
      · exact empty.symm
      · rw [before.held, empty]
        rfl
      · rw [before.active, empty]
        rfl
      · exact fun _ => empty
    · show ((system.setMulti multi _).multis multi).handle = true
      rw [System.setMulti_self]
    · exact sameTables_setMulti rfl empty.symm rfl rfl

/-- What an accepted addition leaves. -/
def System.added (system : System) (multi easy : ObjectId) : System :=
  (system.setMulti multi { system.multis multi with
    requests := (system.multis multi).requests ++ [easy]
    idleEasyReferences := (system.multis multi).idleEasyReferences.erase easy
    held := (system.multis multi).held ++ [system.curlOf easy]
    active := (system.multis multi).active + 1
    attached := (system.multis multi).attached ++ [easy] }).setEasy easy { system.easies easy with
      multiAttachmentGeneration := (system.easies easy).multiAttachmentGeneration + 1
      multi := some multi }

theorem inv_added (inv : Inv system) (absent : ∀ owner, easy ∉ (system.multis owner).attached)
    (handle : (system.multis multi).handle = true) : Inv (system.added multi easy) := by
  have before := inv.native multi
  refine ⟨?_, ?_⟩
  · unfold System.added
    refine native_set inv.native ?_ (fun owner _ => absent owner) ?_ ?_ ?_ ?_ ?_ ?_
    · rfl
    · show (system.multis multi).held ++ [system.curlOf easy] = List.map _ (_ ++ [easy])
      rw [before.held, List.map_append]
      rfl
    · show (system.multis multi).active + 1 = (_ ++ [easy]).length
      rw [before.active, List.length_append]
      rfl
    · have apart := List.disjoint_singleton.mpr (absent multi)
      exact List.Nodup.append before.nodup (List.nodup_singleton easy) apart
    · intro other mem ne
      rcases List.mem_append.mp mem with old | new
      · exact before.backPointer other old
      · exact absurd (List.mem_singleton.mp new) ne
    · exact fun _ => rfl
    · intro noHandle
      cases handle.symm.trans noHandle
  · apply requests_set inv.requests
    show (system.multis multi).requests ++ [easy] = (system.multis multi).attached ++ [easy]
    rw [inv.requests]

/-- A multi with its `CURLM *` either takes the handle or leaves everything as it was. -/
theorem attachNative_cases (setup reply : Reply)
    (points : ∀ owner, easy ∈ (system.multis owner).attached → (system.easies easy).multi = some owner)
    (unattached : easy ∉ (system.multis multi).attached) :
    (∃ error, Raises (attachNative multi easy setup reply) system error system) ∨
      (∀ owner, easy ∉ (system.multis owner).attached) ∧
        ∃ after, Returns (attachNative multi easy setup reply) system () after ∧
          after.setMulti multi { after.multis multi with
            requests := (after.multis multi).requests ++ [easy]
            idleEasyReferences := (after.multis multi).idleEasyReferences.erase easy } =
              system.added multi easy := by
  have unfolded : attachNative multi easy setup reply system =
      (if easy ∈ (system.multis multi).attached then pure ()
        else if system.isActiveElsewhere multi easy then throw activeElsewhere
        else do
          checkReply setup
          checkReply reply
          attachAccepted multi easy : SystemM Unit) system := rfl
  unfold Raises Returns
  rw [unfolded, if_neg unattached]
  split
  · exact Or.inl ⟨activeElsewhere, rfl⟩
  rename_i apart
  cases setup with
  | error error => exact Or.inl ⟨error, rfl⟩
  | ok value =>
    cases reply with
    | error error => exact Or.inl ⟨error, rfl⟩
    | ok value =>
      refine Or.inr ⟨?_, finalState (attachAccepted multi easy) system, rfl, ?_⟩
      · intro owner mem
        by_cases isMulti : owner = multi
        · exact unattached (isMulti ▸ mem)
        · rw [System.isActiveElsewhere, points owner mem, Option.any_some] at apart
          exact apart (decide_eq_true ⟨isMulti, mem⟩)
      · have final : finalState (attachAccepted multi easy) system =
            ((system.setMulti multi { system.multis multi with
              held := (system.multis multi).held ++ [system.curlOf easy]
              active := (system.multis multi).active + 1
              attached := (system.multis multi).attached ++ [easy] }).setEasy easy
                { system.easies easy with
                  multiAttachmentGeneration := (system.easies easy).multiAttachmentGeneration + 1
                  multi := some multi }) := rfl
        rw [final]
        simp [System.added]

/-- An addition leaves the tables as they were, or it has been accepted. -/
theorem add_cases (safety setup reply : Reply) (inv : Inv system) :
    ∃ ready, Inv ready ∧ SameTables system ready ∧
      (finalState (add multi easy safety setup reply) system = ready ∨
        (ready.multis multi).handle = true ∧ (system.multis multi).deferredException = false ∧
        (∀ owner, easy ∉ (ready.multis owner).attached) ∧
        finalState (add multi easy safety setup reply) system = ready.added multi easy) := by
  have unfolded : finalState (add multi easy safety setup reply) system =
      finalState (if easy ∈ (system.multis multi).requests then pure ()
        else if (system.multis multi).deferredException then pure ()
        else do
          checkReply safety
          multiAddNative multi easy setup reply
          unregisterIdle (some multi) easy
          modifyMulti multi fun state =>
            { state with requests := state.requests ++ [easy] } : SystemM Unit) system := rfl
  rw [unfolded]
  split
  · exact ⟨system, inv, .refl system, Or.inl rfl⟩
  rename_i absent
  split
  · exact ⟨system, inv, .refl system, Or.inl rfl⟩
  rename_i undeferred
  cases safety with
  | error error => exact ⟨system, inv, .refl system, Or.inl rfl⟩
  | ok value =>
    rcases ensureHandle_cases multi inv with ⟨ready, ensured, inv', handle, same⟩ | refused
    · have points := fun owner mem => (inv'.native owner).backPointer easy mem
      rw [← same.requests, inv'.requests] at absent
      refine ⟨ready, inv', same, ?_⟩
      rcases attachNative_cases setup reply points absent with ⟨error, raises⟩ | ⟨apart, after, returns, sum⟩
      · have native : Raises (multiAddNative multi easy setup reply) system error ready :=
          bind_raises_iff.mpr (Or.inr ⟨_, _, ensured, raises⟩)
        exact Or.inl native.finalState_bind
      · have native : Returns (multiAddNative multi easy setup reply) system () after :=
          bind_returns_iff.mpr ⟨_, _, ensured, returns⟩
        refine Or.inr ⟨handle, (Bool.not_eq_true _).mp undeferred, apart, ?_⟩
        rw [← sum]
        show finalState (multiAddNative multi easy setup reply >>= _) system = _
        rw [native.finalState_bind]
        show ((after.setMulti multi _).setMulti multi _) = _
        rw [System.setMulti_setMulti, System.setMulti_self]
    · have native : Raises (multiAddNative multi easy setup reply) system badHandle system :=
        bind_raises_iff.mpr (Or.inl refused)
      exact ⟨system, inv, .refl system, Or.inl native.finalState_bind⟩

theorem inv_add {safety setup reply : Reply} (inv : Inv system) :
    Inv (finalState (add multi easy safety setup reply) system) := by
  obtain ⟨ready, inv', _, same | ⟨handle, _, apart, same⟩⟩ :=
    @add_cases system multi easy safety setup reply inv
  · rw [same]
    exact inv'
  · rw [same]
    exact inv_added inv' apart handle

/-! ## The handle's side -/

/-- The invariant, for a handle that belongs to no multi. -/
def InvApart (easy : ObjectId) (system : System) : Prop :=
  Inv system ∧ ∀ owner, easy ∉ (system.multis owner).attached

theorem inv_apart (inv : Inv system)
    (absent : ∀ owner, (system.easies easy).multi = some owner →
      easy ∉ (system.multis owner).requests) : InvApart easy system := by
  refine ⟨inv, fun owner mem => ?_⟩
  have points := (inv.native owner).backPointer easy mem
  rw [← inv.requests] at mem
  exact absent owner points mem

theorem keeps_modifyMulti {f : Multi → Multi}
    (same : ∀ state, (f state).requests = state.requests ∧ (f state).attached = state.attached ∧
      (f state).held = state.held ∧ (f state).active = state.active ∧
      (f state).handle = state.handle) : Keeps Inv (modifyMulti multi f) := by
  intro system inv
  obtain ⟨requests, attached, held, active, handle⟩ := same (system.multis multi)
  refine inv_setMulti inv requests attached held active fun noHandle => ?_
  rw [handle] at noHandle
  exact (inv.native multi).handle noHandle

theorem keeps_apart_modifyMulti {f : Multi → Multi}
    (same : ∀ state, (f state).requests = state.requests ∧ (f state).attached = state.attached ∧
      (f state).held = state.held ∧ (f state).active = state.active ∧
      (f state).handle = state.handle) : Keeps (InvApart easy) (modifyMulti multi f) := by
  intro system before
  refine ⟨keeps_modifyMulti same system before.1, fun owner => ?_⟩
  show easy ∉ ((system.setMulti multi _).multis owner).attached
  by_cases isMulti : owner = multi
  · rw [isMulti, System.setMulti_self, (same (system.multis multi)).2.1]
    exact before.2 multi
  · rw [System.setMulti_of_ne _ _ isMulti]
    exact before.2 owner

theorem keeps_apart_modifyEasy {f : Easy → Easy} : Keeps (InvApart easy) (modifyEasy easy f) :=
  fun _ before => ⟨inv_setEasy_apart before.1 before.2, before.2⟩

theorem keeps_registerIdle {previous : Option ObjectId} :
    Keeps (InvApart easy) (registerIdle previous easy) := by
  cases previous with
  | none => exact keeps_pure
  | some multi =>
    rw [registerIdle]
    exact keeps_apart_modifyMulti fun _ => ⟨rfl, rfl, rfl, rfl, rfl⟩

theorem keeps_unregisterIdle {previous : Option ObjectId} :
    Keeps (InvApart easy) (unregisterIdle previous easy) := by
  cases previous with
  | none => exact keeps_pure
  | some multi =>
    rw [unregisterIdle]
    exact keeps_apart_modifyMulti fun _ => ⟨rfl, rfl, rfl, rfl, rfl⟩

/-- There is nothing for libcurl to take off the list. -/
theorem keeps_apart_curlMultiRemoveHandle :
    Keeps (InvApart easy) (curlMultiRemoveHandle multi easy) := by
  intro system before
  have absent : system.curlOf easy ∉ (system.multis multi).held := by
    rw [(before.1.native multi).held, List.mem_map_of_injective (curlOf_injective system)]
    exact before.2 multi
  have same : finalState (curlMultiRemoveHandle multi easy) system = system := by
    show system.setMulti multi { system.multis multi with
      held := (system.multis multi).held.erase (system.curlOf easy) } = system
    rw [List.erase_of_not_mem absent]
    simp [System.setMulti]
  rw [same]
  exact before

theorem keeps_apart_forgetEasy : Keeps (InvApart easy) (forgetEasy multi easy) := by
  intro system before
  have same : finalState (forgetEasy multi easy) system = system := by
    show system.setMulti multi { system.multis multi with
      attached := (system.multis multi).attached.erase easy } = system
    rw [List.erase_of_not_mem (before.2 multi)]
    simp [System.setMulti]
  rw [same]
  exact before

theorem keeps_apart_detachOld {old : Option ObjectId} {reply : Reply} :
    Keeps (InvApart easy) (detachOld old easy reply) := by
  cases old with
  | none => exact keeps_pure
  | some multi =>
    intro system before
    show InvApart easy (finalState (ite (easy ∈ (system.multis multi).attached) _ (pure ())) system)
    rw [if_neg (before.2 multi)]
    exact before

theorem keeps_apart_easyMultiSetNative {reply : Reply} {target : Option ObjectId} :
    Keeps (InvApart easy) (easyMultiSetNative easy target reply) := by
  refine keeps_bind keeps_get fun system => ?_
  split
  · exact keeps_pure
  · exact keeps_bind keeps_apart_detachOld fun _ => keeps_apart_modifyEasy

/-- A member leaves its multi before it points elsewhere. -/
theorem inv_easyMultiSet {reply : Reply} {target : Option ObjectId} (inv : Inv system)
    (accepted : (system.easies easy).multi ≠ target → ∀ owner,
      (system.easies easy).multi = some owner → easy ∈ (system.multis owner).requests →
        reply = .ok ()) : Inv (finalState (easyMultiSet easy target reply) system) := by
  show Inv (finalState (ite ((system.easies easy).multi = target) _ _) system)
  split
  · exact inv
  rename_i other
  have tail : Keeps (InvApart easy) (do
      easyMultiSetNative easy target reply
      unregisterIdle (system.easies easy).multi easy
      registerIdle target easy) :=
    keeps_bind keeps_apart_easyMultiSetNative fun _ =>
      keeps_bind keeps_unregisterIdle fun _ => keeps_registerIdle
  have removed : ∃ after, Returns (removeFromPrevious (system.easies easy).multi easy reply)
      system () after ∧ InvApart easy after := by
    cases points : (system.easies easy).multi with
    | none =>
      refine ⟨system, rfl, inv_apart inv ?_⟩
      intro owner pointsTo
      cases points.symm.trans pointsTo
    | some owner =>
      by_cases mem : easy ∈ (system.multis owner).requests
      · rw [accepted other owner points mem]
        refine ⟨system.dropped owner easy, remove_returns system mem, ?_⟩
        refine inv_apart (inv_dropped inv (inv.requests owner ▸ mem)) ?_
        intro elsewhere pointsTo
        have nowhere : ((system.dropped owner easy).easies easy).multi = none := by
          rw [System.dropped, System.setEasy_self]
        cases nowhere.symm.trans pointsTo
      · refine ⟨system, remove_absent system reply mem, inv_apart inv ?_⟩
        intro elsewhere pointsTo
        rw [← Option.some.inj (points.symm.trans pointsTo)]
        exact mem
  obtain ⟨after, returns, before⟩ := removed
  rw [returns.finalState_bind]
  exact (tail after before).1

theorem keeps_apart_freeFromMulti {old : Option ObjectId} {reply : Reply} :
    Keeps (InvApart easy) (freeFromMulti old easy reply) := by
  cases old with
  | none => exact keeps_pure
  | some multi =>
    refine keeps_bind keeps_apart_modifyEasy fun _ => keeps_bind ?_ fun _ => keeps_apart_forgetEasy
    cases reply with
    | ok value => exact keeps_apart_curlMultiRemoveHandle
    | error error => exact keeps_pure

/-- A handle that may be closed is refused for its callbacks or belongs to no multi. -/
theorem inv_easyClose {reply : Reply} (inv : Inv system)
    (unattached : (system.easies easy).callbackActive = true ∨ (system.easies easy).nativeActive ≠ 0 ∨
      ∀ owner, easy ∉ (system.multis owner).requests) :
    Inv (finalState (easyClose easy reply) system) := by
  have unfolded : easyClose easy reply system = ((if (system.easies easy).callbackActive then
        throw ⟨.runtimeError, "Cannot close an active curl handle within a callback".toList⟩
      else if (system.easies easy).nativeActive ≠ 0 then
        throw ⟨.runtimeError, "Cannot close an active curl handle during native operation".toList⟩
      else do
        freeFromMulti (system.easies easy).multi easy reply
        modifyEasy easy fun state => { state with
          curl := state.curl + 1
          multi := none
          callbackActive := false
          nativeActive := 0 } : SystemM Unit) >>= fun _ =>
            unregisterIdle (system.easies easy).multi easy) system := rfl
  unfold finalState
  rw [unfolded]
  by_cases inCallback : (system.easies easy).callbackActive = true
  · rw [if_pos inCallback]
    exact inv
  by_cases inNative : (system.easies easy).nativeActive ≠ 0
  · rw [if_neg inCallback, if_pos inNative]
    exact inv
  · rw [if_neg inCallback, if_neg inNative]
    have absent := (unattached.resolve_left inCallback).resolve_left inNative
    have apart := inv_apart inv fun owner _ => absent owner
    have closes : Keeps (InvApart easy) _ := keeps_bind
      (keeps_bind (@keeps_apart_freeFromMulti easy (system.easies easy).multi reply) fun _ =>
        @keeps_apart_modifyEasy easy fun state => { state with
          curl := state.curl + 1
          multi := none
          callbackActive := false
          nativeActive := 0 })
      fun _ => @keeps_unregisterIdle easy (system.easies easy).multi
    exact (closes system apart).1

end Curb.Attachment

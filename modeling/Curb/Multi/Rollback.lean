import Curb.Multi.Runs

/-!
# Handles that a raising completion has attached

The snapshot of a completion is taken once, before the first of its callbacks. A status callback
that raises detaches every handle attached since: those whose generation is not the snapshot's.
-/

namespace Curb.Attachment
open Curb.Misc Curb.Ruby

variable {system begun : System} {multi easy : ObjectId} {removed : ObjectId → Prop}

/-! ## What the callbacks do -/

/-- The operations are `Multi#add` and `Multi#remove`. -/
def Operation.IsAddOrRemove : Operation → Prop
  | .add .. | .remove .. => True
  | _ => False

/-- The operation is to take this handle off the multi. -/
def Operation.Removes (multi : ObjectId) : Operation → ObjectId → Prop
  | .remove owner easy _, other => owner = multi ∧ easy = other
  | _, _ => False

/-- A state the callbacks of a completion have led to from its beginning: the handles attached
with the generation they had then are those attached then and not removed since. Where an
exception was pending then, no handle has been attached. -/
structure Since (begun : System) (multi : ObjectId) (removed : ObjectId → Prop) (system : System) :
    Prop where
  inv : Inv system
  completions : (system.multis multi).completions = (begun.multis multi).completions
  older : ∀ other, (begun.easies other).multiAttachmentGeneration ≤
    (system.easies other).multiAttachmentGeneration
  attached : ∀ other, (other ∈ (system.multis multi).attached ∧
      (system.easies other).multiAttachmentGeneration =
        (begun.easies other).multiAttachmentGeneration) ↔
    other ∈ (begun.multis multi).attached ∧ ¬removed other
  quiet : (begun.multis multi).deferredException = true →
    (system.multis multi).deferredException = true ∧
      ∀ other ∈ (system.multis multi).attached,
        (system.easies other).multiAttachmentGeneration =
          (begun.easies other).multiAttachmentGeneration

theorem Since.start (inv : Inv begun) : Since begun multi (fun _ => False) begun := by
  refine ⟨inv, rfl, fun _ => le_rfl, fun other => ?_, fun deferred => ⟨deferred, fun _ _ => rfl⟩⟩
  rw [eq_self, not_false_eq_true]

/-- The tables and the handles are all that counts. -/
theorem Since.of_same {after : System} (since : Since begun multi removed system) (inv : Inv after)
    (same : SameTables system after) : Since begun multi removed after := by
  refine ⟨inv, ?_, ?_, ?_, ?_⟩
  · rw [same.completions]
    exact since.completions
  · rw [same.easies]
    exact since.older
  · rw [same.attached, same.easies]
    exact since.attached
  · rw [same.deferredException, same.attached, same.easies]
    exact since.quiet

/-- A handle that gets attached has a new generation. -/
theorem Since.added {owner : ObjectId} (since : Since begun multi removed system)
    (apart : ∀ owner, easy ∉ (system.multis owner).attached)
    (handle : (system.multis owner).handle = true)
    (undeferred : (system.multis owner).deferredException = false) :
    Since begun multi removed (system.added owner easy) := by
  have others {other : ObjectId} (ne : other ≠ easy) :
      (system.added owner easy).easies other = system.easies other := by
    rw [System.added, System.setEasy_of_ne _ _ ne, System.setMulti_easies]
  have generation : ((system.added owner easy).easies easy).multiAttachmentGeneration =
      (system.easies easy).multiAttachmentGeneration + 1 := by
    rw [System.added, System.setEasy_self]
  have elsewhere (ne : multi ≠ owner) :
      (system.added owner easy).multis multi = system.multis multi := by
    rw [System.added, System.setEasy_multis, System.setMulti_of_ne _ _ ne]
  have table {other : ObjectId} (ne : other ≠ easy) :
      other ∈ ((system.added owner easy).multis multi).attached ↔
        other ∈ (system.multis multi).attached := by
    by_cases isMulti : multi = owner
    · rw [System.added, System.setEasy_multis, ← isMulti, System.setMulti_self]
      simp [ne]
    · rw [elsewhere isMulti]
  refine ⟨inv_added since.inv apart handle, ?_, ?_, ?_, ?_⟩
  · by_cases isMulti : multi = owner
    · rw [System.added, System.setEasy_multis, ← isMulti, System.setMulti_self]
      exact since.completions
    · rw [elsewhere isMulti]
      exact since.completions
  · intro other
    have before := since.older other
    by_cases same : other = easy
    · rw [same] at before ⊢
      omega
    · rw [others same]
      exact before
  · intro other
    by_cases same : other = easy
    · have before := since.attached easy
      have older := since.older easy
      rw [same]
      constructor
      · intro now
        omega
      · intro then_
        exact absurd (before.mpr then_).1 (apart multi)
    · rw [table same, others same]
      exact since.attached other
  · intro deferred
    have before := since.quiet deferred
    have ne : multi ≠ owner := by
      intro isMulti
      rw [isMulti, undeferred] at before
      cases before.1
    rw [elsewhere ne]
    refine ⟨before.1, fun other mem => ?_⟩
    rw [others fun same => apart multi (same ▸ mem)]
    exact before.2 other mem

/-- A handle that leaves its multi keeps its generation. -/
theorem Since.dropped {owner : ObjectId} (since : Since begun multi removed system)
    (mem : easy ∈ (system.multis owner).attached) :
    Since begun multi (fun other => removed other ∨ owner = multi ∧ easy = other)
      (system.dropped owner easy) := by
  have generation (other : ObjectId) :
      ((system.dropped owner easy).easies other).multiAttachmentGeneration =
        (system.easies other).multiAttachmentGeneration := by
    by_cases same : other = easy
    · rw [System.dropped, same, System.setEasy_self]
    · rw [System.dropped, System.setEasy_of_ne _ _ same]
      rfl
  have table (other : ObjectId) : other ∈ ((system.dropped owner easy).multis multi).attached ↔
      other ∈ (system.multis multi).attached ∧ ¬(owner = multi ∧ easy = other) := by
    by_cases isMulti : owner = multi
    · rw [System.dropped, System.setEasy_multis, System.released, ← isMulti, System.setMulti_self]
      rw [(since.inv.native owner).nodup.mem_erase_iff, and_comm]
      simp [eq_comm]
    · rw [System.dropped, System.setEasy_multis, System.released,
        System.setMulti_of_ne _ _ (Ne.symm isMulti)]
      simp [isMulti]
  have fields : ((system.dropped owner easy).multis multi).completions =
        (system.multis multi).completions ∧
      ((system.dropped owner easy).multis multi).deferredException =
        (system.multis multi).deferredException := by
    rw [System.dropped, System.setEasy_multis, System.released]
    by_cases isMulti : multi = owner
    · rw [isMulti, System.setMulti_self]
      exact ⟨rfl, rfl⟩
    · rw [System.setMulti_of_ne _ _ isMulti]
      exact ⟨rfl, rfl⟩
  refine ⟨inv_dropped since.inv mem, ?_, ?_, ?_, ?_⟩
  · rw [fields.1]
    exact since.completions
  · intro other
    rw [generation]
    exact since.older other
  · intro other
    rw [table, generation, not_or, and_right_comm, since.attached other, and_assoc]
  · intro deferred
    have before := since.quiet deferred
    rw [fields.2]
    refine ⟨before.1, fun other inside => ?_⟩
    rw [generation]
    exact before.2 other ((table other).mp inside).1

/-- A removal of a handle that is not there changes nothing. -/
theorem Since.absent {owner : ObjectId} (since : Since begun multi removed system)
    (absent : easy ∉ (system.multis owner).attached) :
    Since begun multi (fun other => removed other ∨ owner = multi ∧ easy = other) system := by
  refine ⟨since.inv, since.completions, since.older, fun other => ?_, since.quiet⟩
  rw [since.attached other, not_or]
  refine and_congr_right fun mem => ⟨fun kept => ⟨kept, fun same => ?_⟩, And.left⟩
  have inside := ((since.attached other).mpr ⟨mem, kept⟩).1
  rw [← same.1, ← same.2] at inside
  exact absent inside

theorem since_step {operation : Operation} (since : Since begun multi removed system)
    (only : operation.IsAddOrRemove) (ok : StepOk system operation) :
    Since begun multi (fun other => removed other ∨ operation.Removes multi other)
      (step system operation) := by
  cases operation with
  | add owner easy safety setup reply =>
    have same : (fun other => removed other ∨
        (Operation.add owner easy safety setup reply).Removes multi other) = removed := by
      funext other
      exact or_false (removed other)
    rw [same]
    obtain ⟨ready, inv, tables, unchanged | ⟨handle, undeferred, apart, added⟩⟩ :=
      @add_cases system owner easy safety setup reply since.inv
    · have after := since.of_same inv tables
      rwa [← unchanged] at after
    · have after := (since.of_same inv tables).added apart handle
        ((tables.deferredException owner).trans undeferred)
      rwa [← added] at after
  | remove owner easy reply =>
    by_cases mem : easy ∈ (system.multis owner).requests
    · have accepted : reply = .ok () := ok mem
      have after := since.dropped (since.inv.requests owner ▸ mem)
      rw [← (remove_returns system mem).finalState_eq, ← accepted] at after
      exact after
    · have after := since.absent (since.inv.requests owner ▸ mem)
      show Since begun multi _ (finalState (remove owner easy reply) system)
      rw [(remove_absent system reply mem).finalState_eq]
      exact after
  | _ => exact absurd only id

theorem since_run {operations : List Operation} (since : Since begun multi removed system)
    (only : ∀ operation ∈ operations, operation.IsAddOrRemove) (ok : RunOk operations system) :
    Since begun multi
      (fun other => removed other ∨ ∃ operation ∈ operations, operation.Removes multi other)
      (run operations system) := by
  induction operations generalizing system removed with
  | nil =>
    have same : (fun other => removed other ∨ ∃ operation ∈ ([] : List Operation),
        operation.Removes multi other) = removed := by
      funext other
      simp
    rw [same]
    exact since
  | cons operation operations ih =>
    have head := since_step since (only operation List.mem_cons_self) ok.1
    have tail := ih head (fun other mem => only other (List.mem_cons_of_mem operation mem)) ok.2
    have same : (fun other => removed other ∨ ∃ operation' ∈ operation :: operations,
        operation'.Removes multi other) = fun other =>
          (removed other ∨ operation.Removes multi other) ∨
            ∃ operation' ∈ operations, operation'.Removes multi other := by
      funext other
      simp [or_assoc]
    rw [same]
    exact tail

/-! ## The rollback -/

/-- A handle that is attached is taken off; one that is not is left alone. -/
theorem removeAdded_returns (inv : Inv system) :
    ∃ after, Returns (removeAdded multi easy (.ok ())) system () after ∧ Inv after ∧ ∀ other,
      other ∈ (after.multis multi).attached ↔
        other ∈ (system.multis multi).attached ∧ other ≠ easy := by
  have before := inv.native multi
  have unfolded : removeAdded multi easy (.ok ()) system = (if (system.easies easy).multi = some multi ∧
      easy ∈ (system.multis multi).attached then do
        deleteRequest multi easy
        multiRemoveNative multi easy (.ok ())
      else pure () : SystemM Unit) system := rfl
  by_cases mem : easy ∈ (system.multis multi).attached
  · have requested : easy ∈ (system.multis multi).requests := by
      rw [inv.requests]
      exact mem
    have removes := remove_returns system requested
    have sameAs : remove multi easy (.ok ()) system = (if easy ∈ (system.multis multi).requests then do
        deleteRequest multi easy
        multiRemoveNative multi easy (.ok ())
      else pure () : SystemM Unit) system := rfl
    rw [Returns, sameAs, if_pos requested] at removes
    refine ⟨system.dropped multi easy, ?_, inv_dropped inv mem, fun other => ?_⟩
    · rw [Returns, unfolded, if_pos ⟨before.backPointer easy mem, mem⟩]
      exact removes
    · rw [System.dropped, System.setEasy_multis, System.released, System.setMulti_self]
      rw [before.nodup.mem_erase_iff, and_comm]
  · refine ⟨system, ?_, inv, fun other => ⟨fun inside => ?_, And.left⟩⟩
    · rw [Returns, unfolded, if_neg fun member => mem member.2]
      rfl
    · exact ⟨inside, fun same => mem (same ▸ inside)⟩

theorem forM_removeAdded_returns {easies : List ObjectId} (inv : Inv system) :
    ∃ after, Returns (easies.forM fun easy => removeAdded multi easy (.ok ())) system () after ∧
      Inv after ∧ ∀ other, other ∈ (after.multis multi).attached ↔
        other ∈ (system.multis multi).attached ∧ other ∉ easies := by
  induction easies generalizing system with
  | nil => exact ⟨system, rfl, inv, fun other => by simp⟩
  | cons easy easies ih =>
    obtain ⟨middle, head, inv', here⟩ := @removeAdded_returns system multi easy inv
    obtain ⟨after, tail, inv'', rest⟩ := ih inv'
    refine ⟨after, bind_returns_iff.mpr ⟨_, _, head, tail⟩, inv'', fun other => ?_⟩
    rw [rest, here, List.mem_cons, not_or, and_assoc]

theorem removeAddedEasiesSinceSnapshot_returns (inv : Inv system) (snapshot : List (ObjectId × Nat)) :
    ∃ after, Returns (removeAddedEasiesSinceSnapshot multi snapshot fun _ => .ok ()) system () after ∧
      Inv after ∧ ∀ other, other ∈ (after.multis multi).attached ↔
        other ∈ (system.multis multi).attached ∧
          (other, (system.easies other).multiAttachmentGeneration) ∈ snapshot := by
  obtain ⟨after, returns, inv', table⟩ :=
    @forM_removeAdded_returns system multi (system.attachedSince multi snapshot) inv
  refine ⟨after, returns, inv', fun other => ?_⟩
  rw [table, System.attachedSince, List.mem_filter]
  refine and_congr_right fun mem => ?_
  simp [mem]

theorem mem_attachedSnapshot_iff {other : ObjectId} {generation : Nat} :
    (other, generation) ∈ system.attachedSnapshot multi ↔ other ∈ (system.multis multi).attached ∧
      generation = (system.easies other).multiAttachmentGeneration := by
  rw [System.attachedSnapshot, List.mem_map]
  constructor
  · intro entry
    obtain ⟨easy, mem, same⟩ := entry
    cases same
    exact ⟨mem, rfl⟩
  · intro entry
    rw [entry.2]
    exact ⟨other, entry.1, rfl⟩

/-! ## A completion whose callbacks raise -/

/-- The way into the callbacks of a completed transfer. -/
def completed (multi easy : ObjectId) (masked : Bool) (system : System) : System :=
  step system (.completeBegin multi easy masked (.ok ()) (.ok ()) (.ok ()))

/-- What a `StandardError` out of a status callback is: the error of a callback of the transfer
masks it. libcurl lets go of the handles it is then asked for. -/
def standardError (masked : Bool) : CallbackOutcome :=
  if masked then .returned else .statusRaised fun _ => .ok ()

theorem completed_eq (masked : Bool) (inv : Inv system)
    (mem : easy ∈ (system.multis multi).attached) :
    Inv (completed multi easy masked system) ∧
    ((completed multi easy masked system).multis multi).completions =
      ⟨easy, (completed multi easy masked system).attachedSnapshot multi⟩ ::
        (system.multis multi).completions ∧
    (masked = true → ((completed multi easy masked system).multis multi).deferredException = true) := by
  refine ⟨inv_step inv trivial, ?_⟩
  have held : system.curlOf easy ∈ (system.multis multi).held := by
    rw [(inv.native multi).held]
    exact List.mem_map_of_mem mem
  have final : completed multi easy masked system =
      ((system.released multi easy).setMulti multi { (system.released multi easy).multis multi with
        callbackActive := true
        completions := ⟨easy, (system.released multi easy).attachedSnapshot multi⟩ ::
          ((system.released multi easy).multis multi).completions
        deferredException := ((system.released multi easy).multis multi).deferredException ||
          masked }).setEasy easy { system.easies easy with callbackActive := true } := by
    show finalState (completeBegin multi easy masked (.ok ()) (.ok ()) (.ok ())) system = _
    rw [completeBegin_held held]
    show System.setEasy (System.setMulti (System.setMulti _ multi _) multi _) easy _ = _
    rw [System.setMulti_setMulti, System.setMulti_self]
    rfl
  have snapshot : (completed multi easy masked system).attachedSnapshot multi =
      (system.released multi easy).attachedSnapshot multi := by
    rw [final, System.attachedSnapshot, System.setEasy_multis, System.setMulti_self]
    refine List.map_congr_left fun other _ => ?_
    by_cases same : other = easy
    · rw [same, System.setEasy_self]
      rfl
    · rw [System.setEasy_of_ne _ _ same]
      rfl
  constructor
  · rw [snapshot, final, System.setEasy_multis, System.setMulti_self]
    show _ :: ((system.released multi easy).multis multi).completions = _
    rw [System.released, System.setMulti_self]
  · intro isMasked
    rw [final, System.setEasy_multis, System.setMulti_self, isMasked]
    exact Bool.or_true _

/-- Finishing the callbacks leaves the tables alone. -/
theorem finishCompletionCallbacks_attached (owner : ObjectId) :
    ((finalState (finishCompletionCallbacks multi easy) system).multis owner).attached =
      (system.multis owner).attached := by
  have keeps : Keeps (fun after => (after.multis owner).attached = (system.multis owner).attached)
      (finishCompletionCallbacks multi easy) := by
    refine keeps_bind ?_ fun _ => keeps_bind ?_ fun _ => ?_
    · exact keeps_modify fun after before => before
    · refine keeps_modify fun after before => ?_
      by_cases isMulti : owner = multi
      · rw [isMulti, System.setMulti_self, ← isMulti]
        exact before
      · rw [System.setMulti_of_ne _ _ isMulti]
        exact before
    · refine keeps_modify fun after before => ?_
      split
      · exact before
      · exact before
  exact keeps system rfl

/-- A `StandardError` out of a status callback leaves what the multi had and has kept. -/
theorem since_callbackRaise {masked : Bool} (since : Since begun multi removed system)
    (deferred : masked = true → (begun.multis multi).deferredException = true) :
    Inv (finalState (callbackRaise multi (begun.attachedSnapshot multi) (standardError masked)) system) ∧
      ∀ other, other ∈ ((finalState (callbackRaise multi (begun.attachedSnapshot multi)
        (standardError masked)) system).multis multi).attached ↔
          other ∈ (begun.multis multi).attached ∧ ¬removed other := by
  cases masked with
  | true =>
    -- nothing has been attached since: an addition finds the exception that is pending
    refine ⟨since.inv, fun other => ?_⟩
    have quiet := (since.quiet (deferred rfl)).2 other
    rw [← since.attached other]
    exact ⟨fun inside => ⟨inside, quiet inside⟩, And.left⟩
  | false =>
    have stashed := @keeps_stashException multi true _ since.inv
    obtain ⟨after, returns, inv', detached⟩ :=
      removeAddedEasiesSinceSnapshot_returns stashed (begun.attachedSnapshot multi)
    have final : finalState (callbackRaise multi (begun.attachedSnapshot multi)
        (standardError false)) system = after := returns.finalState_eq
    have same : ((finalState (stashException multi true) system).multis multi).attached =
        (system.multis multi).attached := by
      show ((system.setMulti multi _).multis multi).attached = _
      rw [System.setMulti_self]
    rw [final]
    refine ⟨inv', fun other => ?_⟩
    have kept := since.attached other
    rw [detached, mem_attachedSnapshot_iff, same, ← kept]
    constructor
    · intro stays
      exact ⟨stays.1, stays.2.2⟩
    · intro stays
      exact ⟨stays.1, (kept.mp stays).1, stays.2⟩

theorem since_completeEnd {masked : Bool} {rest : List Completion}
    (since : Since begun multi removed system)
    (completions : (begun.multis multi).completions = ⟨easy, begun.attachedSnapshot multi⟩ :: rest)
    (deferred : masked = true → (begun.multis multi).deferredException = true) :
    let processed := step system (.completeEnd multi (standardError masked))
    Inv processed ∧ ∀ other, other ∈ (processed.multis multi).attached ↔
      other ∈ (begun.multis multi).attached ∧ ¬removed other := by
  intro processed
  obtain ⟨inv, table⟩ := since_callbackRaise since deferred
  have ended : processed = _ :=
    completeEnd_eq (standardError masked) (since.completions.trans completions)
  rw [ended]
  refine ⟨keeps_finishCompletionCallbacks _ inv, fun other => ?_⟩
  rw [finishCompletionCallbacks_attached]
  exact table other

/-- After a completion one of whose callbacks has raised a `StandardError`, the multi has the
handles that were attached when the callbacks began and that they have not removed. -/
theorem attached_after_raise (inv : Inv system) (mem : easy ∈ (system.multis multi).attached)
    (masked : Bool) (operations : List Operation)
    (only : ∀ operation ∈ operations, operation.IsAddOrRemove)
    (ok : RunOk operations (completed multi easy masked system)) (other : ObjectId) :
    let began := completed multi easy masked system
    let processed := step (run operations began) (.completeEnd multi (standardError masked))
    (other ∈ (processed.multis multi).attached ↔ other ∈ (began.multis multi).attached ∧
      ¬∃ operation ∈ operations, operation.Removes multi other) ∧
    (other ∈ (processed.multis multi).requests ↔ other ∈ (processed.multis multi).attached) := by
  obtain ⟨inv', completions, deferred⟩ := completed_eq masked inv mem
  have since := since_run (@Since.start _ multi inv') only ok
  obtain ⟨after, table⟩ := since_completeEnd since completions deferred
  refine ⟨(table other).trans (and_congr_right fun _ => ?_), ?_⟩
  · rw [false_or]
  · rw [after.requests]

/-- `on_complete` of the first of three handles takes the second off, attaches it again, attaches
a fourth and raises: the third stays. -/
theorem attached_after_raise_sibling :
    let began := completed 0 1 false (run [.add 0 1 (.ok ()) (.ok ()) (.ok ()),
      .add 0 2 (.ok ()) (.ok ()) (.ok ()), .add 0 3 (.ok ()) (.ok ()) (.ok ()), .performBegin 0] fresh)
    let operations : List Operation := [.remove 0 2 (.ok ()), .add 0 2 (.ok ()) (.ok ()) (.ok ()),
      .add 0 4 (.ok ()) (.ok ()) (.ok ())]
    let processed := step (run operations began) (.completeEnd 0 (standardError false))
    (3 ∈ (processed.multis 0).attached ↔ 3 ∈ (began.multis 0).attached ∧
      ¬∃ operation ∈ operations, operation.Removes 0 3) ∧
    (3 ∈ (processed.multis 0).requests ↔ 3 ∈ (processed.multis 0).attached) := by
  apply attached_after_raise
  · exact inv_run inv_fresh ⟨trivial, trivial, trivial, trivial, trivial⟩
  · decide +kernel
  · simp [Operation.IsAddOrRemove]
  · exact ⟨fun _ => rfl, trivial, trivial, trivial⟩

/-- `on_complete` attaches a second handle and returns. `on_success` finds it attached and raises:
it is gone. An exception that is no `StandardError` leaves what its callback has attached. -/
theorem attached_after_raise_of_second :
    let began := completed 0 1 false (run [.add 0 1 (.ok ()) (.ok ()) (.ok ()), .performBegin 0] fresh)
    let onSuccess := run [.add 0 2 (.ok ()) (.ok ()) (.ok ())] began
    2 ∈ (onSuccess.multis 0).attached ∧
    2 ∉ ((step onSuccess (.completeEnd 0 (standardError false))).multis 0).attached ∧
    2 ∉ (began.multis 0).attached ∧
    2 ∈ ((step onSuccess (.completeEnd 0 .escaped)).multis 0).attached := by
  decide +kernel

end Curb.Attachment

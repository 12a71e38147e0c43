import Curb.Misc.Related
import Curb.Multi.Coherent
import Curb.Multi.PerformTables
import Curb.Multi.Safety

/-!
# The additions and removals of a multi

The tables of the attachment, the loop of one multi and the network policy each have a `Multi#add` and a
`Multi#remove`, with what they need of the tables. Where they begin with the same tables they end with the
same.
-/

namespace Curb.Attachment
open Curb.Misc Curb.Ruby

variable {system : System} {multi easy : ObjectId}

/-! ## The loop of one multi -/

/-- The loop's tables are those of the multi. -/
structure Shows (system : System) (multi : ObjectId) (state : Perform.State) : Prop where
  attached : state.attached = system.attachedSnapshot multi
  active : state.active = (system.multis multi).active
  deferredException : state.deferredException.isSome = (system.multis multi).deferredException
  generation : ∀ easy,
    state.multiAttachmentGeneration easy = (system.easies easy).multiAttachmentGeneration

/-- The handle with its attachment. -/
def System.transferOf (system : System) (easy : ObjectId) : Perform.Transfer :=
  (easy, (system.easies easy).multiAttachmentGeneration)

theorem transferOf_injective (system : System) : Function.Injective system.transferOf :=
  fun _ _ same => congrArg Prod.fst same

variable {state : Perform.State}

theorem Shows.hasEasy (shows : Shows system multi state) :
    state.hasEasy easy = decide (easy ∈ (system.multis multi).attached) := by
  rw [Perform.State.hasEasy, shows.attached, System.attachedSnapshot, List.any_map]
  simp [List.any_eq]

/-- Other fields of the system have changed. -/
theorem Shows.of_eq {after : System} (shows : Shows system multi state) (easies : after.easies = system.easies)
    (attached : (after.multis multi).attached = (system.multis multi).attached)
    (active : (after.multis multi).active = (system.multis multi).active)
    (deferredException : (after.multis multi).deferredException = (system.multis multi).deferredException) :
    Shows after multi state := by
  refine ⟨?_, ?_, ?_, ?_⟩
  · rw [shows.attached, System.attachedSnapshot, System.attachedSnapshot, attached, easies]
  · rw [shows.active, active]
  · rw [shows.deferredException, deferredException]
  · rw [easies]
    exact shows.generation

theorem Shows.ready {ready : System} (shows : Shows system multi state) (inv : Inv system) (ready_inv : Inv ready)
    (same : SameTables system ready) : Shows ready multi state := by
  refine shows.of_eq same.easies (same.attached multi) ?_ (same.deferredException multi)
  rw [(ready_inv.native multi).active, (inv.native multi).active, same.attached]

theorem Shows.added (shows : Shows system multi state) (absent : easy ∉ (system.multis multi).attached)
    (undeferred : (system.multis multi).deferredException = false) :
    Shows (system.added multi easy) multi (state.add easy true) := by
  have has : state.hasEasy easy = _ := shows.hasEasy
  rw [decide_eq_false absent] at has
  have deferred := shows.deferredException
  rw [undeferred] at deferred
  rw [Perform.State.add, has, deferred]
  have others (other : ObjectId) (ne : other ≠ easy) :
      (system.added multi easy).easies other = system.easies other := by
    rw [System.added, System.setEasy_of_ne _ _ ne, System.setMulti_easies]
  have own : ((system.added multi easy).easies easy).multiAttachmentGeneration =
      (system.easies easy).multiAttachmentGeneration + 1 := by
    rw [System.added, System.setEasy_self]
  have table : ((system.added multi easy).multis multi).attached =
      (system.multis multi).attached ++ [easy] := by
    rw [System.added, System.setEasy_multis, System.setMulti_self]
  refine ⟨?_, ?_, ?_, fun other => ?_⟩
  · show state.attached ++ [_] = (System.attachedSnapshot _ multi)
    rw [System.attachedSnapshot, table, List.map_append, shows.attached, shows.generation, List.map_singleton,
      own, System.attachedSnapshot]
    refine congrArg (· ++ _) (List.map_congr_left fun other mem => ?_)
    rw [others other fun same => absent (same ▸ mem)]
  · show state.active + 1 = _
    rw [shows.active, System.added, System.setEasy_multis, System.setMulti_self]
  · show state.deferredException.isSome = _
    rw [shows.deferredException, System.added, System.setEasy_multis, System.setMulti_self]
  · show Function.update state.multiAttachmentGeneration easy _ other = _
    by_cases same : other = easy
    · rw [same, Function.update_self, own, shows.generation]
    · rw [Function.update_of_ne same, others other same, shows.generation]

/-- `Multi#add` is that of the loop, which has the handle accepted where it is attached then. -/
theorem add_shows (inv : Inv system) (shows : Shows system multi state) (safety setup reply : Reply) :
    let after := finalState (add multi easy safety setup reply) system
    Shows after multi (state.add easy (decide (easy ∈ (after.multis multi).attached))) := by
  obtain ⟨ready, ready_inv, same, unchanged | ⟨-, undeferred, absent, added⟩⟩ :=
    @add_cases system multi easy safety setup reply inv
  · have kept := shows.ready inv ready_inv same
    have nothing : state.add easy (decide (easy ∈ (ready.multis multi).attached)) = state := by
      rw [Perform.State.add, kept.hasEasy]
      by_cases mem : easy ∈ (ready.multis multi).attached <;> simp [mem]
    dsimp only
    rw [unchanged, nothing]
    exact kept
  · have kept := shows.ready inv ready_inv same
    have attached : easy ∈ ((ready.added multi easy).multis multi).attached := by
      rw [System.added, System.setEasy_multis, System.setMulti_self]
      exact List.mem_append_right _ List.mem_cons_self
    dsimp only
    rw [added, decide_eq_true attached]
    exact kept.added (absent multi) (by rw [same.deferredException]; exact undeferred)

theorem Shows.dropped (shows : Shows system multi state) :
    Shows (system.dropped multi easy) multi (state.detach (system.transferOf easy)) := by
  have generation (other : ObjectId) : ((system.dropped multi easy).easies other).multiAttachmentGeneration =
      (system.easies other).multiAttachmentGeneration := by
    by_cases same : other = easy
    · rw [same, System.dropped, System.setEasy_self]
    · rw [System.dropped, System.setEasy_of_ne _ _ same, System.released, System.setMulti_easies]
  have table : ((system.dropped multi easy).multis multi).attached =
      (system.multis multi).attached.erase easy := by
    rw [System.dropped, System.setEasy_multis, System.released, System.setMulti_self]
  refine ⟨?_, ?_, ?_, fun other => ?_⟩
  · show state.attached.erase _ = List.map _ _
    rw [shows.attached, table]
    simp only [generation]
    exact (List.map_erase (transferOf_injective system) _).symm
  · show state.active - 1 = _
    rw [shows.active, System.dropped, System.setEasy_multis, System.released, System.setMulti_self]
  · show state.deferredException.isSome = _
    rw [shows.deferredException, System.dropped, System.setEasy_multis, System.released, System.setMulti_self]
  · exact (shows.generation other).trans (generation other).symm

/-- The loop finds the attachment of an attached handle. -/
theorem Shows.find (shows : Shows system multi state) : (state.attached.find? fun transfer => transfer.1 = easy) =
    if easy ∈ (system.multis multi).attached then some (system.transferOf easy) else none := by
  have listed (transfer : Perform.Transfer) (mem : transfer ∈ state.attached) :
      transfer.1 ∈ (system.multis multi).attached ∧ transfer = system.transferOf transfer.1 := by
    rw [shows.attached] at mem
    obtain ⟨other, attached, rfl⟩ := List.mem_map.mp mem
    exact ⟨attached, rfl⟩
  cases found : state.attached.find? fun transfer => transfer.1 = easy with
  | some transfer =>
    obtain rfl : transfer.1 = easy := by simpa using List.find?_some found
    obtain ⟨attached, isTransfer⟩ := listed transfer (List.mem_of_find?_eq_some found)
    rw [if_pos attached, ← isTransfer]
  | none =>
    rw [if_neg]
    intro attached
    have absent := List.find?_eq_none.mp found (system.transferOf easy)
    rw [shows.attached] at absent
    exact absent (List.mem_map_of_mem attached) (decide_eq_true rfl)

/-- `Multi#remove` is that of the loop. -/
theorem remove_shows (inv : Inv system) (shows : Shows system multi state) (reply : Reply) :
    Shows (finalState (remove multi easy reply) system) multi (state.remove easy reply.isOk) := by
  rw [Perform.State.remove, shows.find, ← inv.requests]
  by_cases requested : easy ∈ (system.multis multi).requests
  · rw [if_pos requested]
    cases reply with
    | ok value =>
      rw [(remove_returns system requested).finalState_eq]
      exact shows.dropped
    | error error =>
      show Shows (finalState (ite (easy ∈ (system.multis multi).requests) _ (pure ())) system) multi state
      rw [if_pos requested]
      show Shows (system.setMulti multi { system.multis multi with
        requests := (system.multis multi).requests.erase easy }) multi state
      refine shows.of_eq rfl ?_ ?_ ?_ <;> rw [System.setMulti_self]
  · rw [if_neg requested, (remove_absent system reply requested).finalState_eq]
    exact shows

/-! ## The network policy -/

/-- The world has the requests and the attached handles of the system. -/
structure SameAttachments (system : System) (world : World) : Prop where
  requests : ∀ multi, world.requests multi = (system.multis multi).requests
  attachedTo : ∀ multi easy, world.attachedTo easy = some multi ↔ easy ∈ (system.multis multi).attached

variable {world : World}

theorem onEasy_tables (other : ObjectId) (operation : EasyM Unit) (world : World) :
    (finalState (World.onEasy other operation) world).requests = world.requests ∧
      (finalState (World.onEasy other operation) world).attachedTo = world.attachedTo := by
  unfold finalState World.onEasy
  cases operation (world.easies other) <;> exact ⟨rfl, rfl⟩

theorem SameAttachments.onEasy (same : SameAttachments system world) (other : ObjectId) (operation : EasyM Unit) :
    SameAttachments system (finalState (World.onEasy other operation) world) := by
  obtain ⟨requests, attachedTo⟩ := onEasy_tables other operation world
  refine ⟨fun owner => ?_, fun owner each => ?_⟩
  · rw [requests]
    exact same.requests owner
  · rw [attachedTo]
    exact same.attachedTo owner each

/-- A computation that leaves the attachment as it is, and its answer. -/
theorem sameResult_checkReply {operation : World.WorldM Unit}
    (same : SameAttachments system (finalState operation world)) :
    SameResult SameAttachments (checkReply (outcome operation world) system) (operation world) := by
  unfold outcome
  unfold finalState at same
  cases run : operation world with
  | ok value after =>
    rw [run] at same
    exact ⟨rfl, same⟩
  | error error after =>
    rw [run] at same
    exact ⟨rfl, same⟩

/-- The handle is attached to another multi exactly where the world has it with one. -/
theorem isActiveElsewhere_eq (inv : Inv system) (same : SameAttachments system world)
    (absent : easy ∉ (system.multis multi).attached) :
    system.isActiveElsewhere multi easy = (world.attachedTo easy).isSome := by
  cases attached : world.attachedTo easy with
  | some owner =>
    have mem := (same.attachedTo owner easy).mp attached
    have ne : owner ≠ multi := fun isMulti => absent (isMulti ▸ mem)
    rw [System.isActiveElsewhere, (inv.native owner).backPointer easy mem, Option.any_some]
    exact decide_eq_true ⟨ne, mem⟩
  | none =>
    rw [System.isActiveElsewhere, Option.isSome_none, Option.any_eq_false]
    intro existing _
    refine decide_eq_false fun elsewhere => ?_
    have there := (same.attachedTo existing easy).mpr elsewhere.2
    exact Option.some_ne_none existing (there.symm.trans attached)

/-- libcurl takes the handle. -/
theorem SameAttachments.accepted (same : SameAttachments system world) (nowhere : world.attachedTo easy = none) :
    SameAttachments (finalState (attachAccepted multi easy) system) (world.setAttached easy (some multi)) := by
  have final : finalState (attachAccepted multi easy) system =
      (system.setMulti multi { system.multis multi with
        held := (system.multis multi).held ++ [system.curlOf easy]
        active := (system.multis multi).active + 1
        attached := (system.multis multi).attached ++ [easy] }).setEasy easy { system.easies easy with
          multiAttachmentGeneration := (system.easies easy).multiAttachmentGeneration + 1
          multi := some multi } := rfl
  rw [final]
  refine ⟨fun owner => ?_, fun owner other => ?_⟩
  · rw [System.setEasy_multis, World.setAttached, same.requests]
    by_cases isMulti : owner = multi
    · rw [isMulti, System.setMulti_self]
    · rw [System.setMulti_of_ne _ _ isMulti]
  · have elsewhere := same.attachedTo owner other
    rw [System.setEasy_multis]
    by_cases isEasy : other = easy
    · rw [isEasy, World.setAttached_attachedTo_self, Option.some_inj]
      rw [isEasy, nowhere] at elsewhere
      by_cases isMulti : owner = multi
      · rw [isMulti, System.setMulti_self]
        exact iff_of_true rfl (List.mem_append_right _ List.mem_cons_self)
      · rw [System.setMulti_of_ne _ _ isMulti, ← elsewhere]
        exact iff_of_false (Ne.symm isMulti) (Option.some_ne_none owner).symm
    · rw [World.setAttached_attachedTo_of_ne _ _ isEasy, elsewhere]
      by_cases isMulti : owner = multi
      · rw [isMulti, System.setMulti_self, List.mem_append, List.mem_singleton, or_iff_left isEasy]
      · rw [System.setMulti_of_ne _ _ isMulti]

theorem SameAttachments.ready {ready : System} (same : SameAttachments system world)
    (tables : SameTables system ready) : SameAttachments ready world := by
  refine ⟨fun owner => ?_, fun owner other => ?_⟩
  · rw [tables.requests, same.requests]
  · rw [tables.attached]
    exact same.attachedTo owner other

/-- A multi that has not been closed gets its `CURLM *`. -/
theorem ensureHandle_opened (inv : Inv system)
    (opened : (system.multis multi).handle = true ∨ (system.multis multi).closed = false) :
    ∃ ready, Returns (ensureHandle multi) system () ready ∧ Inv ready ∧ SameTables system ready := by
  rcases ensureHandle_cases multi inv with ⟨ready, returns, ready_inv, -, tables⟩ | raises
  · exact ⟨ready, returns, ready_inv, tables⟩
  · have unfolded : ensureHandle multi system = (if (system.multis multi).handle then pure () else
        if (system.multis multi).closed then throw badHandle else multiInit multi : SystemM Unit)
          system := rfl
    rw [Raises, unfolded] at raises
    rcases opened with handle | notClosed
    · rw [if_pos handle] at raises
      cases raises
    · rw [notClosed] at raises
      split at raises <;> cases raises

/-- `ruby_curl_multi_add` of a handle the multi does not have. -/
theorem nativeAdd_sameResult {net : Net.InetPton} (inv : Inv system) (same : SameAttachments system world)
    (absent : easy ∉ (system.multis multi).attached)
    (opened : (system.multis multi).handle = true ∨ (system.multis multi).closed = false)
    (setup : Easy.SetupReplies) (reply : Reply) :
    SameResult SameAttachments
      (multiAddNative multi easy (outcome (World.onEasy easy (Easy.setup net setup)) world) reply system)
      (World.nativeAdd net multi easy setup reply world) := by
  obtain ⟨ready, ensured, ready_inv, tables⟩ := ensureHandle_opened inv opened
  have same := same.ready tables
  rw [← tables.attached] at absent
  rw [multiAddNative, ensured.bind_eq]
  have attaches (answer : Reply) : attachNative multi easy answer reply ready =
      (if easy ∈ (ready.multis multi).attached then pure ()
        else if ready.isActiveElsewhere multi easy then throw activeElsewhere
        else do
          checkReply answer
          checkReply reply
          attachAccepted multi easy : SystemM Unit) ready := rfl
  have looks : Returns (get : World.WorldM World) world world world := returns_get_iff.mpr ⟨rfl, rfl⟩
  unfold World.nativeAdd
  rw [attaches, looks.bind_eq, if_neg absent, isActiveElsewhere_eq ready_inv same absent]
  cases attached : world.attachedTo easy with
  | some owner =>
    have ne : owner ≠ multi := fun isMulti => absent (isMulti ▸ (same.attachedTo owner easy).mp attached)
    dsimp only
    rw [if_neg ne]
    exact ⟨rfl, same⟩
  | none =>
    refine (sameResult_checkReply (same.onEasy easy _)).bind fun _ ready' world' _ sets same' => ?_
    have nowhere : world'.attachedTo easy = none := by
      rw [← sets.finalState_eq, (onEasy_tables _ _ _).2]
      exact attached
    cases reply with
    | ok value => exact ⟨rfl, same'.accepted nowhere⟩
    | error error => exact ⟨rfl, same'.onEasy easy Easy.cleanupPolicy⟩

/-- The handle is a member of the multi, and its policy has been installed. -/
theorem SameAttachments.requested (same : SameAttachments system world) (signature : Option SafetySignature) :
    SameAttachments
      (finalState (unregisterIdle (some multi) easy >>= fun _ => modifyMulti multi fun state =>
        { state with requests := state.requests ++ [easy] }) system)
      ((world.setRequests multi (world.requests multi ++ [easy])).setSignature multi easy signature) := by
  have final : finalState (unregisterIdle (some multi) easy >>= fun _ => modifyMulti multi fun state =>
        { state with requests := state.requests ++ [easy] }) system =
      (system.setMulti multi { system.multis multi with
        idleEasyReferences := (system.multis multi).idleEasyReferences.erase easy }).setMulti multi
          { (system.setMulti multi { system.multis multi with
            idleEasyReferences := (system.multis multi).idleEasyReferences.erase easy }).multis multi with
              requests := ((system.setMulti multi { system.multis multi with
                idleEasyReferences := (system.multis multi).idleEasyReferences.erase easy }).multis
                  multi).requests ++ [easy] } := rfl
  rw [final, System.setMulti_setMulti, System.setMulti_self]
  refine ⟨fun owner => ?_, fun owner other => ?_⟩
  · show (world.setRequests multi (world.requests multi ++ [easy])).requests owner = _
    by_cases isMulti : owner = multi
    · rw [isMulti, World.setRequests_requests_self, System.setMulti_self, same.requests]
    · rw [World.setRequests_requests_of_ne _ _ isMulti, System.setMulti_of_ne _ _ isMulti, same.requests]
  · refine (same.attachedTo owner other).trans ?_
    by_cases isMulti : owner = multi
    · rw [isMulti, System.setMulti_self]
    · rw [System.setMulti_of_ne _ _ isMulti]

/-- `Multi#add` with the answers that the settings and the setup give, on a multi that is not closed and has no
deferred exception: the network policy's ends as the attachment's does. -/
theorem add_sameResult {ruby : RubyLibrary} {net : Net.InetPton} (inv : Inv system)
    (same : SameAttachments system world) (undeferred : (system.multis multi).deferredException = false)
    (opened : (system.multis multi).handle = true ∨ (system.multis multi).closed = false)
    (setup : Easy.SetupReplies) (reply : Reply) :
    let applied := World.onEasy easy (Easy.applySafety ruby net world.safetyConfig)
    let setsUp := World.onEasy easy (Easy.setup net setup)
    SameResult SameAttachments
      (add multi easy (outcome applied world) (outcome setsUp (finalState applied world)) reply system)
      (World.add ruby net multi easy setup reply world) := by
  intro applied setsUp
  have adds (safety setup : Reply) : add multi easy safety setup reply system =
      (if easy ∈ (system.multis multi).requests then pure ()
        else if (system.multis multi).deferredException then pure ()
        else do
          checkReply safety
          multiAddNative multi easy setup reply
          unregisterIdle (some multi) easy
          modifyMulti multi fun state => { state with requests := state.requests ++ [easy] } :
            SystemM Unit) system := rfl
  have worldAdds : World.add ruby net multi easy setup reply world =
      (if easy ∈ world.requests multi then pure ()
        else do
          applied
          World.nativeAdd net multi easy setup reply
          modify fun world => world.setRequests multi (world.requests multi ++ [easy])
          modify fun world =>
            world.setSignature multi easy (some (world.safetySignatureFor (world.easies easy))) :
              World.WorldM Unit) world := rfl
  rw [adds, worldAdds, same.requests, undeferred]
  split
  · exact ⟨rfl, same⟩
  rename_i absent
  rw [inv.requests] at absent
  refine (sameResult_checkReply (same.onEasy easy _)).bind fun _ checked world' checks applies same' => ?_
  obtain ⟨-, rfl⟩ := checkReply_returns checks
  rw [applies.finalState_eq]
  refine (nativeAdd_sameResult inv same' absent opened setup reply).bind fun _ _ world'' _ _ same'' => ?_
  exact ⟨rfl, same''.requested (some (world''.safetySignatureFor (world''.easies easy)))⟩

/-- libcurl lets the handle go. -/
theorem SameAttachments.removed (same : SameAttachments system world)
    (nodup : (system.multis multi).attached.Nodup) (attached : easy ∈ (system.multis multi).attached) :
    SameAttachments (system.removed multi easy) (world.setAttached easy none) := by
  have here := (same.attachedTo multi easy).mpr attached
  refine ⟨fun owner => ?_, fun owner other => ?_⟩
  · rw [World.setAttached, same.requests, System.removed, System.setEasy_multis]
    by_cases isMulti : owner = multi
    · rw [isMulti, System.setMulti_self]
    · rw [System.setMulti_of_ne _ _ isMulti]
  · rw [System.removed, System.setEasy_multis]
    by_cases isEasy : other = easy
    · rw [isEasy, World.setAttached_attachedTo_self]
      refine iff_of_false (Option.some_ne_none owner).symm ?_
      by_cases isMulti : owner = multi
      · rw [isMulti, System.setMulti_self]
        exact nodup.not_mem_erase
      · rw [System.setMulti_of_ne _ _ isMulti, ← same.attachedTo, here, Option.some_inj]
        exact Ne.symm isMulti
    · rw [World.setAttached_attachedTo_of_ne _ _ isEasy, same.attachedTo]
      by_cases isMulti : owner = multi
      · rw [isMulti, System.setMulti_self]
        exact (List.mem_erase_of_ne isEasy).symm
      · rw [System.setMulti_of_ne _ _ isMulti]

/-- `Multi#remove`: the network policy's ends as the attachment's does. -/
theorem remove_sameResult (inv : Inv system) (same : SameAttachments system world) (reply : Reply) :
    SameResult SameAttachments (remove multi easy reply system) (World.remove multi easy reply world) := by
  have removes : remove multi easy reply system =
      (if easy ∈ (system.multis multi).requests then do
          deleteRequest multi easy
          multiRemoveNative multi easy reply
        else pure () : SystemM Unit) system := rfl
  have worldRemoves : World.remove multi easy reply world =
      (if easy ∈ world.requests multi then do
          World.removeRequestReference multi easy
          World.nativeRemove easy reply
        else pure () : World.WorldM Unit) world := rfl
  rw [removes, worldRemoves, same.requests]
  split
  · rename_i requested
    let deleted := system.setMulti multi { system.multis multi with
      requests := (system.multis multi).requests.erase easy }
    have same' : SameAttachments deleted
        ((world.setRequests multi ((world.requests multi).erase easy)).setSignature multi easy none) := by
      refine ⟨fun owner => ?_, fun owner other => ?_⟩
      · show (world.setRequests multi _).requests owner = _
        by_cases isMulti : owner = multi
        · rw [isMulti, World.setRequests_requests_self, System.setMulti_self, same.requests]
        · rw [World.setRequests_requests_of_ne _ _ isMulti, System.setMulti_of_ne _ _ isMulti, same.requests]
      · refine (same.attachedTo owner other).trans ?_
        by_cases isMulti : owner = multi
        · rw [isMulti, System.setMulti_self]
        · rw [System.setMulti_of_ne _ _ isMulti]
    cases reply with
    | error error => exact ⟨rfl, same'⟩
    | ok value =>
      have table : (deleted.multis multi).attached = (system.multis multi).attached := by
        show ((system.setMulti multi _).multis multi).attached = _
        rw [System.setMulti_self]
      rw [inv.requests] at requested
      have removed : SameAttachments (deleted.removed multi easy) _ :=
        (same'.onEasy easy Easy.cleanupPolicy).removed (table ▸ (inv.native multi).nodup) (table ▸ requested)
      show SameResult SameAttachments (multiRemoveNative multi easy (.ok ()) deleted) _
      rw [multiRemoveNative_ok deleted multi easy]
      exact ⟨rfl, removed⟩
  · exact ⟨rfl, same⟩

end Curb.Attachment

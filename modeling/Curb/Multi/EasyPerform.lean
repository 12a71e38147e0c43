import Curb.Multi.RejectedClose
import Curb.Multi.Runs

/-!
# `Easy#perform`

The handle is added to its multi, or to a new one, the multi is performed, and an `ensure` clause
puts the multi away (`lib/curl/easy.rb:265-325`). A multi that cannot be closed at once is kept for
a later try (`easy.rb:16-87`). Under a fiber scheduler a handle without a multi goes another way,
which is not looked at here.
-/

namespace Curb.Attachment
open Curb.Misc Curb.Ruby

/-- The handles and multis, and `deferred_multi_closes` of the thread: multis with the handles they
were made for. -/
structure PerformState where
  system : System
  deferredMultiCloses : List (ObjectId × ObjectId)

abbrev PerformM := EStateM RubyError PerformState

/-- What is decided outside of a call of `Easy#perform`. -/
structure Transfer where
  /-- The multi that `Curl::Multi.new` makes. -/
  newMulti : ObjectId
  autoclose : Bool
  /-- What `apply_safety!` at the beginning comes to. -/
  applySafety : Reply
  /-- What `apply_safety!`, the setup and libcurl say to the addition. -/
  safety : Reply
  setup : Reply
  reply : Reply
  /-- What applying the safety settings again before the loop comes to. -/
  signatures : Reply
  /-- What libcurl and the callbacks do in the loop until it ends. -/
  during : List Operation
  /-- The exception the loop is left with; `deferred` says whether it is the pending one. -/
  raises : Option RubyError
  deferred : Bool
  /-- libcurl's answers to the removal of the handle, and of the handles of a multi that is
  closed. -/
  removal : Reply
  closing : ObjectId → Reply
  /-- What the checks of the result come to. -/
  result : Reply

/-- An operation on the handles and multis. -/
def onAttachment {α : Type} : EStateM RubyError System α → PerformM α :=
  zoom PerformState.system fun state system => { state with system := system }

/-! ## Closing an implicit multi -/

/-- `@requests = {}`. -/
def clearRequests (multi : ObjectId) : SystemM Unit :=
  modifyMulti multi fun state => { state with requests := [] }

/-- The handle is taken out of the multi, or all its requests are (`easy.rb:24-34`). -/
def takeOut (multi easy : ObjectId) (reply : Reply) : SystemM Unit := do
  let system ← get
  if easy ∈ (system.multis multi).requests then
    tryCatch (remove multi easy reply) fun _ => clearRequests multi
  else clearRequests multi

/-- `release_deferred_multi_close` (`easy.rb:23-41`): whether the multi has been closed. -/
def releaseDeferredMultiClose (multi easy : ObjectId) (reply : Reply) : EStateM RubyError System Bool :=
  tryCatch (do
    takeOut multi easy reply
    multiCloseNative multi
    pure true) fun _ => pure false

/-- `defer_multi_close` (`easy.rb:43-52`). -/
def deferMultiClose (multi easy : ObjectId) : PerformM Unit :=
  modify fun state =>
    if state.deferredMultiCloses.any fun entry => entry.1 == multi then state
    else { state with deferredMultiCloses := state.deferredMultiCloses ++ [(multi, easy)] }

/-- Closes a multi, now or later. -/
def releaseOrDefer (multi easy : ObjectId) (reply : Reply) : PerformM Unit := do
  let released ← onAttachment (releaseDeferredMultiClose multi easy reply)
  if released then pure () else deferMultiClose multi easy

/-- `flush_deferred_multi_closes` (`easy.rb:54-87`) for the entries of the thread. -/
def flushDeferredMultiCloses (replies : ObjectId → Reply) : PerformM Unit := do
  let state ← get
  modify fun state => { state with deferredMultiCloses := [] }
  state.deferredMultiCloses.forM fun entry => releaseOrDefer entry.1 entry.2 (replies entry.2)

/-! ## The transfer -/

/-- `Multi#perform` (`multi.rb:428-440`) with the native loop. -/
def multiPerform (multi : ObjectId) (transfer : Transfer) : SystemM Unit := do
  checkReply transfer.signatures
  performBegin multi
  modify (run transfer.during)
  match transfer.raises with
  | none => performReturn multi transfer.autoclose transfer.closing
  | some error => do
      performRaise multi transfer.deferred
      throw error

/-- The body of the `begin` block (`easy.rb:282-284`). -/
def transferBody (multi easy : ObjectId) (transfer : Transfer) : SystemM Unit := do
  add multi easy transfer.safety transfer.setup transfer.reply
  multiPerform multi transfer
  let system ← get
  if (system.easies easy).multi = some multi then remove multi easy transfer.removal else pure ()

/-- `self.multi = nil if self.multi == multi`. -/
def leaveMulti (multi easy : ObjectId) (reply : Reply) : SystemM Unit := do
  let system ← get
  if (system.easies easy).multi = some multi then easyMultiSet easy none reply else pure ()

/-- The `ensure` clause (`easy.rb:288-306`). -/
def putAway (created : Bool) (multi easy : ObjectId) (transfer : Transfer) (raised : Bool) :
    PerformM Unit :=
  if created && raised then do
    releaseOrDefer multi easy transfer.removal
    onAttachment (leaveMulti multi easy transfer.removal)
  else if transfer.autoclose then onAttachment do
    close false multi transfer.closing
    leaveMulti multi easy transfer.removal
  else onAttachment (easyMultiSet easy (some multi) transfer.removal)

/-- The multi a call uses. -/
def Transfer.chosen (transfer : Transfer) (easy : ObjectId) (system : System) : ObjectId :=
  (system.easies easy).multi.getD transfer.newMulti

/-- Whether the call makes it. -/
def createsMulti (easy : ObjectId) (system : System) : Bool := (system.easies easy).multi.isNone

/-- `Easy#perform` (`easy.rb:265-325`) once the closes that were put off have been tried. -/
def performTransfer (easy : ObjectId) (transfer : Transfer) : PerformM Unit := do
  let state ← get
  let created := createsMulti easy state.system
  let multi := transfer.chosen easy state.system
  onAttachment (when created (easyMultiSet easy (some multi) (.ok ())))
  ensuringWith (onAttachment (transferBody multi easy transfer)) (putAway created multi easy transfer)
  onAttachment (checkReply transfer.result)

/-- `Easy#perform` (`easy.rb:265-325`). -/
def perform (easy : ObjectId) (transfer : Transfer) : PerformM Unit := do
  onAttachment (checkReply transfer.applySafety)
  flushDeferredMultiCloses transfer.closing
  performTransfer easy transfer

/-! ## Who has the handle -/

variable {easy multi : ObjectId} {members : ObjectId → Prop}

/-- These multis have the handle among their requests. -/
structure MembersAre (easy : ObjectId) (members : ObjectId → Prop) (system : System) : Prop where
  requests : ∀ multi, easy ∈ (system.multis multi).requests ↔ members multi
  nodup : ∀ multi, (system.multis multi).requests.Nodup

theorem keeps_members_setMulti {f : System → Multi}
    (same : ∀ system, (f system).requests = (system.multis multi).requests) :
    Keeps (MembersAre easy members)
      (modify fun system => system.setMulti multi (f system) : SystemM Unit) := by
  refine keeps_modify fun system before => ⟨fun owner => ?_, fun owner => ?_⟩ <;>
    by_cases isMulti : owner = multi
  · rw [isMulti, System.setMulti_self, same]
    exact before.requests multi
  · rw [System.setMulti_of_ne _ _ isMulti]
    exact before.requests owner
  · rw [isMulti, System.setMulti_self, same]
    exact before.nodup multi
  · rw [System.setMulti_of_ne _ _ isMulti]
    exact before.nodup owner

theorem keeps_members_modifyEasy {f : Easy → Easy} {other : ObjectId} :
    Keeps (MembersAre easy members) (modifyEasy other f) :=
  fun _ before => ⟨before.requests, before.nodup⟩

theorem keeps_members_checkReply {reply : Reply} :
    Keeps (MembersAre easy members) (checkReply reply) := by
  cases reply with
  | ok value => exact keeps_pure
  | error error => exact keeps_throw

theorem keeps_members_multiRemoveNative {other : ObjectId} {reply : Reply} :
    Keeps (MembersAre easy members) (multiRemoveNative multi other reply) :=
  keeps_bind keeps_members_checkReply fun _ =>
    keeps_bind (keeps_members_setMulti fun _ => rfl) fun _ =>
      keeps_bind (keeps_members_setMulti fun _ => rfl) fun _ =>
        keeps_bind keeps_members_modifyEasy fun _ => keeps_members_setMulti fun _ => rfl

theorem keeps_members_multiCloseNative :
    Keeps (MembersAre easy members) (multiCloseNative multi) := by
  refine keeps_bind keeps_get fun system => ?_
  show Keeps _ (ite _ _ _)
  split
  · exact keeps_throw
  · refine keeps_bind (keeps_bind keeps_get fun system => ?_) fun _ => keeps_members_setMulti fun _ => rfl
    refine keeps_bind (keeps_members_setMulti fun _ => rfl) fun _ => keeps_bind ?_ fun _ => ?_
    · refine keeps_forM fun other _ => ?_
      exact keeps_bind (keeps_members_setMulti fun _ => rfl) fun _ => keeps_members_modifyEasy
    · exact keeps_members_setMulti fun _ => rfl

theorem keeps_members_easyMultiSetNative {target : Option ObjectId} {reply : Reply} :
    Keeps (MembersAre easy members) (easyMultiSetNative easy target reply) := by
  refine keeps_bind keeps_get fun system => ?_
  split
  · exact keeps_pure
  refine keeps_bind ?_ fun _ => keeps_members_modifyEasy
  cases (system.easies easy).multi with
  | none => exact keeps_pure
  | some owner =>
    refine keeps_bind keeps_get fun system => ?_
    split
    · refine keeps_bind (keeps_members_setMulti fun _ => rfl) fun _ =>
        keeps_bind keeps_members_checkReply fun _ => ?_
      exact keeps_bind (keeps_members_setMulti fun _ => rfl) fun _ => keeps_members_setMulti fun _ => rfl
    · exact keeps_pure

theorem keeps_members_relink {previous target : Option ObjectId} {reply : Reply} :
    Keeps (MembersAre easy members) (do
      easyMultiSetNative easy target reply
      unregisterIdle previous easy
      registerIdle target easy) := by
  refine keeps_bind keeps_members_easyMultiSetNative fun _ => keeps_bind ?_ fun _ => ?_
  · cases previous with
    | none => exact keeps_pure
    | some owner => exact keeps_members_setMulti fun _ => rfl
  · cases target with
    | none => exact keeps_pure
    | some owner => exact keeps_members_setMulti fun _ => rfl

/-- The multi loses the handle. -/
theorem members_without {system : System} {state : Multi} (before : MembersAre easy members system)
    (absent : easy ∉ state.requests) (nodup : state.requests.Nodup) :
    MembersAre easy (fun owner => members owner ∧ owner ≠ multi) (system.setMulti multi state) := by
  refine ⟨fun owner => ?_, fun owner => ?_⟩ <;> by_cases isMulti : owner = multi
  · rw [isMulti, System.setMulti_self]
    exact ⟨fun inside => absurd inside absent, fun kept => absurd rfl kept.2⟩
  · rw [System.setMulti_of_ne _ _ isMulti, before.requests]
    exact ⟨fun member => ⟨member, isMulti⟩, And.left⟩
  · rw [isMulti, System.setMulti_self]
    exact nodup
  · rw [System.setMulti_of_ne _ _ isMulti]
    exact before.nodup owner

/-- Whatever libcurl answers, a removal takes the handle out of the requests. -/
theorem members_remove {system : System} (reply : Reply) (before : MembersAre easy members system) :
    MembersAre easy (fun owner => members owner ∧ owner ≠ multi)
      (finalState (remove multi easy reply) system) := by
  have nodup := before.nodup multi
  by_cases member : easy ∈ (system.multis multi).requests
  · have deleted : Returns (deleteRequest multi easy) system () (system.setMulti multi
        { system.multis multi with requests := (system.multis multi).requests.erase easy }) := rfl
    have gone : MembersAre easy (fun owner => members owner ∧ owner ≠ multi) (system.setMulti multi
        { system.multis multi with requests := (system.multis multi).requests.erase easy }) :=
      members_without before nodup.not_mem_erase (nodup.erase easy)
    have removes : finalState (remove multi easy reply) system =
        finalState (multiRemoveNative multi easy reply) (system.setMulti multi
          { system.multis multi with requests := (system.multis multi).requests.erase easy }) := by
      show finalState (ite (easy ∈ (system.multis multi).requests) _ (pure ())) system = _
      rw [if_pos member, deleted.finalState_bind]
    rw [removes]
    exact keeps_members_multiRemoveNative _ gone
  · rw [(remove_absent system reply member).finalState_eq]
    refine ⟨fun owner => ?_, before.nodup⟩
    rw [before.requests owner]
    refine ⟨fun inside => ⟨inside, fun isMulti => ?_⟩, And.left⟩
    exact member ((before.requests multi).mpr (isMulti ▸ inside))

/-- A handle that is given another multi leaves the requests of the one it points to. -/
theorem members_easyMultiSet {system : System} {target : Option ObjectId} (reply : Reply)
    (before : MembersAre easy members system) (other : (system.easies easy).multi ≠ target) :
    MembersAre easy (fun owner => members owner ∧ (system.easies easy).multi ≠ some owner)
      (finalState (easyMultiSet easy target reply) system) := by
  show MembersAre _ _ (finalState (ite ((system.easies easy).multi = target) _ _) system)
  rw [if_neg other]
  refine finalState_bind_of_keeps ?_ fun _ => keeps_members_relink
  cases points : (system.easies easy).multi with
  | none =>
    refine ⟨fun owner => (before.requests owner).trans ?_, before.nodup⟩
    exact ⟨fun inside => ⟨inside, nofun⟩, And.left⟩
  | some previous =>
    have removed := @members_remove easy previous members system reply before
    refine ⟨fun owner => (removed.requests owner).trans (and_congr_right fun _ => ?_), removed.nodup⟩
    rw [ne_comm, Ne, Ne, Option.some_inj]

/-- A handle leaves a multi that does not have it among its requests. -/
theorem keeps_members_leaveMulti {reply : Reply} (absent : ¬members multi) :
    Keeps (MembersAre easy members) (leaveMulti multi easy reply) := by
  intro system before
  show MembersAre _ _ (finalState (ite ((system.easies easy).multi = some multi) _ _) system)
  split
  · rename_i points
    have other : (system.easies easy).multi ≠ none := by
      rw [points]
      nofun
    have after := members_easyMultiSet reply before other
    rw [points] at after
    refine ⟨fun owner => (after.requests owner).trans ⟨And.left, fun inside => ⟨inside, ?_⟩⟩, after.nodup⟩
    intro same
    rw [Option.some.inj same] at absent
    exact absent inside
  · exact before

theorem keeps_members_clearRequests (absent : ¬members multi) :
    Keeps (MembersAre easy members) (clearRequests multi) := by
  intro system before
  have after : MembersAre easy (fun owner => members owner ∧ owner ≠ multi)
      (finalState (clearRequests multi) system) :=
    members_without before List.not_mem_nil List.nodup_nil
  refine ⟨fun owner => (after.requests owner).trans ⟨And.left, fun inside => ⟨inside, ?_⟩⟩, after.nodup⟩
  intro isMulti
  rw [isMulti] at inside
  exact absent inside

/-- A multi that is released does not have the handle any more, whether it can be closed or not. -/
theorem members_release {system : System} (reply : Reply) (before : MembersAre easy members system) :
    MembersAre easy (fun owner => members owner ∧ owner ≠ multi)
      (finalState (releaseDeferredMultiClose multi easy reply) system) := by
  have cleared : MembersAre easy (fun owner => members owner ∧ owner ≠ multi)
      (finalState (clearRequests multi) system) :=
    members_without before List.not_mem_nil List.nodup_nil
  refine finalState_tryCatch_of_keeps ?_ fun _ => keeps_pure
  refine finalState_bind_of_keeps ?_ fun _ => keeps_bind keeps_members_multiCloseNative fun _ => keeps_pure
  show MembersAre _ _ (finalState (ite (easy ∈ (system.multis multi).requests) _ _) system)
  split
  · refine finalState_tryCatch_of_keeps (members_remove reply before) fun _ => ?_
    exact keeps_members_clearRequests fun kept => kept.2 rfl
  · exact cleared

/-- libcurl lets every handle of the multi go. -/
def Granted (multi : ObjectId) (replies : ObjectId → Reply) (system : System) : Prop :=
  ∀ other ∈ (system.multis multi).requests, replies other = .ok ()

/-- The handles up to the first that libcurl refuses are taken off. -/
theorem forM_multiRemoveNative_raises {replies : ObjectId → Reply} {easies : List ObjectId}
    (refused : ¬∀ other ∈ easies, replies other = .ok ()) (system : System) :
    ∃ error after, Raises (easies.forM fun other => multiRemoveNative multi other (replies other))
      system error after := by
  induction easies generalizing system with
  | nil => exact absurd nofun refused
  | cons first rest ih =>
    cases reply : replies first with
    | error error =>
      refine ⟨error, system, bind_raises_iff.mpr (Or.inl ?_)⟩
      show Raises (multiRemoveNative multi first (replies first)) system error system
      rw [reply]
      exact multiRemoveNative_error system multi first error
    | ok value =>
      have refused' : ¬∀ other ∈ rest, replies other = .ok () := by
        intro granted
        refine refused fun other mem => ?_
        rcases List.mem_cons.mp mem with same | inRest
        · rw [same, reply]
        · exact granted other inRest
      have returns : Returns (multiRemoveNative multi first (replies first)) system ()
          (system.removed multi first) := by
        rw [reply]
        exact multiRemoveNative_ok system multi first
      obtain ⟨error, after, raises⟩ := ih refused' (system.removed multi first)
      exact ⟨error, after, bind_raises_iff.mpr (Or.inr ⟨_, _, returns, raises⟩)⟩

/-- A multi that is closed loses its requests, unless libcurl refuses one of its handles. -/
theorem members_close_granted {system : System} {replies : ObjectId → Reply}
    (granted : Granted multi replies system) (before : MembersAre easy members system) :
    MembersAre easy (fun owner => members owner ∧ owner ≠ multi)
      (finalState (close false multi replies) system) := by
  have removals : Keeps (MembersAre easy members) ((system.multis multi).requests.forM fun other =>
      multiRemoveNative multi other (replies other)) :=
    keeps_forM fun other _ => keeps_members_multiRemoveNative
  show MembersAre _ _ (finalState ((system.multis multi).requests.forM _ >>= fun _ => _) system)
  refine finalState_bind_of (fun error after raises => ?_) fun _ drained returns => ?_
  · exact (removals_not_raises granted _ _ _ raises).elim
  · have drained' := removals.of_returns returns before
    have cleared : MembersAre easy (fun owner => members owner ∧ owner ≠ multi)
        (drained.setMulti multi { drained.multis multi with requests := [] }) :=
      members_without drained' List.not_mem_nil List.nodup_nil
    have rest : Keeps (MembersAre easy fun owner => members owner ∧ owner ≠ multi) (do
        multiCloseNative multi
        when false (modifyMulti multi fun state => { state with closed := true })) :=
      keeps_bind keeps_members_multiCloseNative fun _ => keeps_pure
    exact rest _ cleared

theorem members_close_refused {system : System} {replies : ObjectId → Reply}
    (refused : ¬Granted multi replies system) (before : MembersAre easy members system) :
    ∃ error after, Raises (close false multi replies) system error after ∧
      MembersAre easy members after := by
  have stops : ∃ error after, Raises ((system.multis multi).requests.forM fun other =>
      multiRemoveNative multi other (replies other)) system error after :=
    forM_multiRemoveNative_raises refused system
  obtain ⟨error, after, raises⟩ := stops
  refine ⟨error, after, bind_raises_iff.mpr (Or.inr ⟨_, _, rfl, ?_⟩), ?_⟩
  · exact bind_raises_iff.mpr (Or.inl raises)
  · have removals : Keeps (MembersAre easy members) ((system.multis multi).requests.forM fun other =>
        multiRemoveNative multi other (replies other)) :=
      keeps_forM fun other _ => keeps_members_multiRemoveNative
    have kept := removals system before
    rwa [raises.finalState_eq] at kept

/-! ## What the `ensure` clause leaves -/

/-- No multi has the handle in a table, so that its next addition sets it up anew: neither a request
(`multi.rb:443`) nor an attachment (`curb_multi.c:752-754`) cuts it short. -/
def NoTransferLeft (easy : ObjectId) (system : System) : Prop :=
  ∀ owner, easy ∉ (system.multis owner).requests ∧ easy ∉ (system.multis owner).attached

/-- The tables of a handle. A refused close may have taken it off the native table and left its
request. -/
structure HandleTables (easy : ObjectId) (system : System) : Prop where
  requests : ∀ owner, (system.multis owner).requests.Nodup
  attached : ∀ owner, (system.multis owner).attached.Nodup
  requested : ∀ owner, easy ∈ (system.multis owner).attached → easy ∈ (system.multis owner).requests

theorem Inv.handleTables {system : System} (inv : Inv system) (easy : ObjectId) : HandleTables easy system where
  requests owner := by
    rw [inv.requests]
    exact (inv.native owner).nodup
  attached owner := (inv.native owner).nodup
  requested owner inside := by rwa [inv.requests]

theorem HandleTables.membersAre {system : System} (tables : HandleTables easy system) :
    MembersAre easy (fun owner => easy ∈ (system.multis owner).requests) system :=
  ⟨fun _ => Iff.rfl, tables.requests⟩

/-- A handle on the native table of the multi points to it. -/
structure Pointed (multi easy : ObjectId) (system : System) : Prop where
  attached : (system.multis multi).attached.Nodup
  pointer : easy ∈ (system.multis multi).attached → (system.easies easy).multi = some multi

theorem Inv.pointed {system : System} (inv : Inv system) (multi easy : ObjectId) :
    Pointed multi easy system :=
  ⟨(inv.native multi).nodup, (inv.native multi).backPointer easy⟩

/-- What does not touch the native table. -/
theorem keeps_pointed_modifyMulti {f : Multi → Multi}
    (same : ∀ state, (f state).attached = state.attached) :
    Keeps (Pointed multi easy) (modifyMulti multi f) := by
  refine keeps_modify fun system before => ?_
  have table : ((system.setMulti multi (f (system.multis multi))).multis multi).attached =
      (system.multis multi).attached := by
    rw [System.setMulti_self, same]
  exact ⟨table ▸ before.attached, fun inside => before.pointer (table ▸ inside)⟩

/-- A handle that is taken off points nowhere. -/
theorem keeps_pointed_multiRemoveNative {other : ObjectId} {reply : Reply} :
    Keeps (Pointed multi easy) (multiRemoveNative multi other reply) := by
  intro system before
  cases reply with
  | error error =>
    rw [(multiRemoveNative_error system multi other error).finalState_eq]
    exact before
  | ok value =>
    rw [(multiRemoveNative_ok system multi other).finalState_eq]
    have table : ((system.removed multi other).multis multi).attached =
        (system.multis multi).attached.erase other := by
      rw [System.removed, System.setEasy_multis, System.setMulti_self]
    refine ⟨table ▸ before.attached.erase other, fun inside => ?_⟩
    rw [table] at inside
    by_cases isOther : easy = other
    · rw [isOther] at inside
      exact absurd inside before.attached.not_mem_erase
    · rw [System.removed, System.setEasy_of_ne _ _ isOther]
      exact before.pointer (List.mem_of_mem_erase inside)

theorem keeps_pointed_multiCloseNative : Keeps (Pointed multi easy) (multiCloseNative multi) := by
  intro system before
  by_cases passes : succeeds (multiCloseNative multi) system = true
  · have empty := multiCloseNative_attached (returns_finalState passes)
    refine ⟨?_, fun inside => ?_⟩
    · rw [empty]
      exact List.nodup_nil
    · rw [empty] at inside
      exact absurd inside List.not_mem_nil
  · obtain ⟨error, raises⟩ := exists_raises ((Bool.not_eq_true _).mp passes)
    rw [multiCloseNative_raises raises]
    exact before

theorem keeps_pointed_release {reply : Reply} :
    Keeps (Pointed multi easy) (releaseDeferredMultiClose multi easy reply) := by
  refine keeps_tryCatch ?_ fun _ => keeps_pure
  refine keeps_bind ?_ fun _ => keeps_bind keeps_pointed_multiCloseNative fun _ => keeps_pure
  have clears : Keeps (Pointed multi easy) (clearRequests multi) :=
    keeps_pointed_modifyMulti fun _ => rfl
  refine keeps_bind keeps_get fun system => ?_
  split
  · refine keeps_tryCatch (keeps_bind keeps_get fun system => ?_) fun _ => clears
    split
    · exact keeps_bind (keeps_pointed_modifyMulti fun _ => rfl) fun _ => keeps_pointed_multiRemoveNative
    · exact keeps_pure
  · exact clears

/-! ### What only takes away -/

variable {start : System}

theorem keeps_fewer_clearRequests : Keeps (Fewer start) (clearRequests multi) :=
  keeps_fewer_modify fun _ =>
    fewer_setMulti (List.nil_sublist _) (.refl _) le_rfl (.refl _) (.refl _)

theorem keeps_fewer_multiCloseNative : Keeps (Fewer start) (multiCloseNative multi) := by
  refine keeps_bind keeps_get fun system => ?_
  show Keeps _ (ite _ _ _)
  split
  · exact keeps_throw
  · refine keeps_bind (keeps_bind keeps_get fun system => ?_) fun _ => ?_
    · refine keeps_bind ?_ fun _ => keeps_bind (keeps_forM fun easy _ => ?_) fun _ => ?_
      · exact keeps_fewer_modify fun _ =>
          fewer_setMulti (.refl _) (List.nil_sublist _) le_rfl (.refl _) (.refl _)
      · exact keeps_bind keeps_fewer_curlMultiRemoveHandle fun _ => keeps_fewer_pointNowhere
      · exact keeps_fewer_modify fun _ =>
          fewer_setMulti (.refl _) (.refl _) (Nat.zero_le _) (.refl _) (.refl _)
    · exact keeps_fewer_modify fun _ =>
        fewer_setMulti (.refl _) (.refl _) (Nat.zero_le _) (List.nil_sublist _) (.refl _)

theorem keeps_fewer_release {reply : Reply} :
    Keeps (Fewer start) (releaseDeferredMultiClose multi easy reply) := by
  refine keeps_tryCatch ?_ fun _ => keeps_pure
  refine keeps_bind ?_ fun _ => keeps_bind keeps_fewer_multiCloseNative fun _ => keeps_pure
  refine keeps_bind keeps_get fun system => ?_
  split
  · exact keeps_tryCatch keeps_fewer_remove fun _ => keeps_fewer_clearRequests
  · exact keeps_fewer_clearRequests

theorem keeps_fewer_autoclose {replies : ObjectId → Reply} :
    Keeps (Fewer start) (close false multi replies) := by
  refine keeps_bind keeps_get fun system => keeps_bind ?_ fun _ => keeps_bind keeps_pure fun _ =>
    keeps_bind keeps_fewer_clearRequests fun _ => keeps_bind keeps_fewer_multiCloseNative fun _ =>
      keeps_pure
  exact keeps_forM fun _ _ => keeps_fewer_multiRemoveNative

theorem keeps_fewer_leaveMulti {reply : Reply} : Keeps (Fewer start) (leaveMulti multi easy reply) :=
  keeps_fewer_clearIdle

/-! ### The three ways out -/

/-- `rb_curl_multi_detach_easy` takes a handle off the native table whatever libcurl answers. -/
theorem not_attached_leaveMulti {system : System} (reply : Reply) (pointed : Pointed multi easy system)
    (unrequested : easy ∉ (system.multis multi).requests) :
    easy ∉ ((finalState (leaveMulti multi easy reply) system).multis multi).attached := by
  show easy ∉ ((finalState (ite ((system.easies easy).multi = some multi) _ _) system).multis multi).attached
  split
  · rename_i points
    have fewer {x : SystemM Unit} {state : System} (takes : ∀ start, Keeps (Fewer start) x)
        (absent : easy ∉ (state.multis multi).attached) :
        easy ∉ ((finalState x state).multis multi).attached :=
      fun inside => absent (((takes state state (.refl state)).attached multi).subset inside)
    have unfolded : finalState (easyMultiSet easy none reply) system =
        finalState (easyMultiSetNative easy none reply >>= fun _ =>
          unregisterIdle (some multi) easy) system := by
      have removes : Returns (removeFromPrevious (some multi) easy reply) system () system :=
        remove_absent system reply unrequested
      show finalState (ite ((system.easies easy).multi = none) _ _) system = _
      rw [if_neg (by rw [points]; exact Option.some_ne_none multi), points, removes.finalState_bind]
      rfl
    rw [unfolded]
    refine finalState_bind_of_keeps (P := fun state : System => easy ∉ (state.multis multi).attached) ?_
      fun _ state absent => fewer (fun _ => keeps_fewer_unregisterIdle) absent
    show easy ∉ ((finalState (ite ((system.easies easy).multi = none) _ _) system).multis multi).attached
    rw [if_neg (by rw [points]; exact Option.some_ne_none multi), points]
    refine finalState_bind_of_keeps (P := fun state : System => easy ∉ (state.multis multi).attached) ?_
      fun _ state absent => fewer (fun _ => keeps_fewer_pointNowhere) absent
    show easy ∉ ((finalState (ite (easy ∈ (system.multis multi).attached) _ _) system).multis multi).attached
    split
    · have forgets : Returns (forgetEasy multi easy) system () (system.setMulti multi
          { system.multis multi with attached := (system.multis multi).attached.erase easy }) := rfl
      rw [forgets.finalState_bind]
      refine fewer (fun _ => keeps_bind keeps_fewer_checkReply fun _ =>
        keeps_bind keeps_fewer_curlMultiRemoveHandle fun _ => keeps_fewer_lessActive) ?_
      rw [System.setMulti_self]
      exact pointed.attached.not_mem_erase
    · assumption
  · rename_i elsewhere
    exact fun inside => elsewhere (pointed.pointer inside)

theorem releaseOrDefer_returns (reply : Reply) (state : PerformState) :
    ∃ released, Returns (releaseOrDefer multi easy reply) state () released ∧
      released.system = finalState (releaseDeferredMultiClose multi easy reply) state.system := by
  have never : RaisesOnly (fun _ => False) (releaseOrDefer multi easy reply) := by
    refine raisesOnly_bind (raisesOnly_zoom (raisesOnly_tryCatch fun _ => raisesOnly_pure))
      fun released => ?_
    split
    · exact raisesOnly_pure
    · exact raisesOnly_modify
  have keepsSystem (released : Bool) (system : System) :
      Keeps (fun state : PerformState => state.system = system)
        (if released then pure () else deferMultiClose multi easy) := by
    split
    · exact keeps_pure
    · refine keeps_modify fun state before => ?_
      split
      · exact before
      · exact before
  refine ⟨_, returns_of_raisesOnly never state, ?_⟩
  refine finalState_bind_of_keeps (P := fun after : PerformState =>
    after.system = finalState (releaseDeferredMultiClose multi easy reply) state.system) ?_
      fun released => keepsSystem released _
  rw [onAttachment, finalState_zoom]

/-- A multi the call has created is let go: only a handle in another multi stays there. -/
theorem putAway_created_iff (transfer : Transfer) (ended : PerformState)
    (requests : ∀ owner, (ended.system.multis owner).requests.Nodup)
    (pointed : Pointed multi easy ended.system)
    (requested : ∀ owner, owner ≠ multi → easy ∈ (ended.system.multis owner).attached →
      easy ∈ (ended.system.multis owner).requests) :
    NoTransferLeft easy (finalState (putAway true multi easy transfer true) ended).system ↔
      ∀ owner, easy ∈ (ended.system.multis owner).requests → owner = multi := by
  obtain ⟨released, releases, sum⟩ := @releaseOrDefer_returns easy multi transfer.removal ended
  have final : (finalState (putAway true multi easy transfer true) ended).system =
      finalState (leaveMulti multi easy transfer.removal) released.system := by
    show (finalState (releaseOrDefer multi easy transfer.removal >>= fun _ => _) ended).system = _
    rw [releases.finalState_bind, onAttachment, finalState_zoom]
  have members := @members_release easy multi _ ended.system transfer.removal
    ⟨fun _ => Iff.rfl, requests⟩
  rw [← sum] at members
  have left : MembersAre easy (fun owner => easy ∈ (ended.system.multis owner).requests ∧ owner ≠ multi)
      (finalState (leaveMulti multi easy transfer.removal) released.system) :=
    keeps_members_leaveMulti (fun kept => kept.2 rfl) _ members
  have takes : Fewer ended.system released.system := by
    rw [sum]
    exact keeps_fewer_release _ (.refl _)
  have takes' : Fewer ended.system
      (finalState (leaveMulti multi easy transfer.removal) released.system) :=
    keeps_fewer_leaveMulti _ takes
  have gone : easy ∉ ((finalState (leaveMulti multi easy transfer.removal)
      released.system).multis multi).attached := by
    refine not_attached_leaveMulti transfer.removal ?_ fun inside => ?_
    · rw [sum]
      exact keeps_pointed_release _ pointed
    · exact ((members.requests multi).mp inside).2 rfl
  rw [final]
  constructor
  · intro nowhere owner inside
    by_contra other
    exact (nowhere owner).1 ((left.requests owner).mpr ⟨inside, other⟩)
  · intro own owner
    refine ⟨fun inside => ?_, fun inside => ?_⟩
    · obtain ⟨before, other⟩ := (left.requests owner).mp inside
      exact other (own owner before)
    · by_cases isMulti : owner = multi
      · rw [isMulti] at inside
        exact gone inside
      · have before := (takes'.attached owner).subset inside
        exact isMulti (own owner (requested owner isMulti before))

/-- Removals that libcurl grants take a handle off the native table. -/
theorem not_attached_removals {replies : ObjectId → Reply} {easies : List ObjectId}
    {system after : System} (returns : Returns (removals multi replies easies) system () after)
    (nodup : (system.multis multi).attached.Nodup) (mem : easy ∈ easies) :
    easy ∉ (after.multis multi).attached := by
  induction easies generalizing system with
  | nil => exact absurd mem List.not_mem_nil
  | cons first rest ih =>
    obtain ⟨_, middle, head, tail⟩ := bind_returns_iff.mp returns
    have table : (middle.multis multi).attached = (system.multis multi).attached.erase first := by
      rw [(multiRemoveNative_returns head).2, System.removed, System.setEasy_multis,
        System.setMulti_self]
    rcases List.mem_cons.mp mem with isFirst | inRest
    · have takes : Fewer middle after :=
        (keeps_forM fun _ _ => keeps_fewer_multiRemoveNative).of_returns tail (.refl _)
      intro inside
      have before := (takes.attached multi).subset inside
      rw [table, ← isFirst] at before
      exact nodup.not_mem_erase before
    · refine ih tail ?_ inRest
      rw [table]
      exact nodup.erase first

theorem close_granted {system : System} {replies : ObjectId → Reply}
    (granted : Granted multi replies system) : ∃ drained,
      Returns (removals multi replies (system.multis multi).requests) system () drained ∧
        Fewer drained (finalState (close false multi replies) system) := by
  have drains := returns_of_raisesOnly (@removals_not_raises multi _ _ granted) system
  refine ⟨_, drains, ?_⟩
  show Fewer _ (finalState (removals multi replies (system.multis multi).requests >>= fun _ => _) system)
  rw [drains.finalState_bind]
  refine keeps_bind keeps_pure (fun _ => keeps_bind keeps_fewer_clearRequests fun _ => ?_) _ (.refl _)
  exact keeps_bind keeps_fewer_multiCloseNative fun _ => keeps_pure

/-- A multi that is closed loses its handles, unless libcurl refuses one of them. -/
theorem putAway_autoclose_iff {created raised : Bool} (kept : (created && raised) = false)
    {transfer : Transfer} (autoclose : transfer.autoclose = true) (ended : PerformState)
    (tables : HandleTables easy ended.system) :
    NoTransferLeft easy (finalState (putAway created multi easy transfer raised) ended).system ↔
      ∀ owner, easy ∈ (ended.system.multis owner).requests →
        owner = multi ∧ Granted multi transfer.closing ended.system := by
  have final : (finalState (putAway created multi easy transfer raised) ended).system =
      finalState (do
        close false multi transfer.closing
        leaveMulti multi easy transfer.removal) ended.system := by
    unfold putAway
    rw [kept, if_neg Bool.false_ne_true, if_pos autoclose, onAttachment, finalState_zoom]
  rw [final]
  have before := tables.membersAre
  have takes : Fewer ended.system (finalState (do
      close false multi transfer.closing
      leaveMulti multi easy transfer.removal) ended.system) :=
    keeps_bind keeps_fewer_autoclose (fun _ => keeps_fewer_leaveMulti) _ (.refl _)
  by_cases granted : Granted multi transfer.closing ended.system
  · have after : MembersAre easy
        (fun owner => easy ∈ (ended.system.multis owner).requests ∧ owner ≠ multi) (finalState (do
        close false multi transfer.closing
        leaveMulti multi easy transfer.removal) ended.system) :=
      finalState_bind_of_keeps (members_close_granted granted before) fun _ =>
        keeps_members_leaveMulti fun kept => kept.2 rfl
    obtain ⟨drained, drains, closes⟩ := close_granted granted
    have takes' : Fewer drained (finalState (do
        close false multi transfer.closing
        leaveMulti multi easy transfer.removal) ended.system) :=
      finalState_bind_of_keeps closes fun _ => keeps_fewer_leaveMulti
    constructor
    · intro nowhere owner inside
      refine ⟨?_, granted⟩
      by_contra other
      exact (nowhere owner).1 ((after.requests owner).mpr ⟨inside, other⟩)
    · intro own owner
      refine ⟨fun inside => ?_, fun inside => ?_⟩
      · obtain ⟨before, other⟩ := (after.requests owner).mp inside
        exact other (own owner before).1
      · have requested := tables.requested owner ((takes.attached owner).subset inside)
        have isMulti := (own owner requested).1
        rw [isMulti] at requested inside
        exact not_attached_removals drains (tables.attached multi) requested
          ((takes'.attached multi).subset inside)
  · obtain ⟨error, refused, raises, after⟩ := members_close_refused granted before
    rw [raises.finalState_bind] at takes ⊢
    constructor
    · intro nowhere owner inside
      exact absurd ((after.requests owner).mpr inside) (nowhere owner).1
    · intro own owner
      refine ⟨fun inside => ?_, fun inside => ?_⟩
      · exact granted (own owner ((after.requests owner).mp inside)).2
      · exact granted (own owner (tables.requested owner ((takes.attached owner).subset inside))).2

theorem putAway_kept {created raised : Bool} (kept : (created && raised) = false)
    {transfer : Transfer} (staysOpen : transfer.autoclose = false) (ended : PerformState) :
    (finalState (putAway created multi easy transfer raised) ended).system =
      finalState (easyMultiSet easy (some multi) transfer.removal) ended.system := by
  unfold putAway
  rw [kept, if_neg Bool.false_ne_true, if_neg (by rw [staysOpen]; exact Bool.false_ne_true), onAttachment,
    finalState_zoom]

/-- A handle that libcurl does not let go stays on the native table without its request. -/
theorem remove_refused {system : System} {refusal : RubyError}
    (inside : easy ∈ (system.multis multi).requests) :
    Raises (remove multi easy (.error refusal)) system refusal (system.setMulti multi
      { system.multis multi with requests := (system.multis multi).requests.erase easy }) := by
  show (ite (easy ∈ (system.multis multi).requests) _ _ : SystemM Unit) system = _
  rw [if_pos inside]
  rfl

theorem easyMultiSet_refused {system : System} {refusal : RubyError} {owner : ObjectId}
    (inside : easy ∈ (system.multis owner).requests) (points : (system.easies easy).multi = some owner)
    (other : owner ≠ multi) :
    finalState (easyMultiSet easy (some multi) (.error refusal)) system = system.setMulti owner
      { system.multis owner with requests := (system.multis owner).requests.erase easy } := by
  have refused : Raises (removeFromPrevious (some owner) easy (.error refusal)) system refusal
      (system.setMulti owner
        { system.multis owner with requests := (system.multis owner).requests.erase easy }) :=
    remove_refused inside
  show finalState (ite ((system.easies easy).multi = some multi) _ _) system = _
  rw [points, if_neg fun same => other (Option.some.inj same), refused.finalState_bind]

/-- A multi that was there before is kept: a handle that is still in it stays, one that was given to
another multi comes back. -/
theorem putAway_kept_iff {created raised : Bool} (kept : (created && raised) = false)
    {transfer : Transfer} (staysOpen : transfer.autoclose = false) (ended : PerformState)
    (inv : Inv ended.system) :
    NoTransferLeft easy (finalState (putAway created multi easy transfer raised) ended).system ↔
      ∀ owner, easy ∈ (ended.system.multis owner).requests →
        owner ≠ multi ∧ transfer.removal = .ok () := by
  rw [putAway_kept kept staysOpen]
  have pointer (owner : ObjectId) (inside : easy ∈ (ended.system.multis owner).requests) :
      (ended.system.easies easy).multi = some owner := by
    rw [inv.requests] at inside
    exact (inv.native owner).backPointer easy inside
  by_cases own : (ended.system.easies easy).multi = some multi
  · have same : finalState (easyMultiSet easy (some multi) transfer.removal) ended.system =
        ended.system := by
      show finalState (ite ((ended.system.easies easy).multi = some multi) _ _) ended.system = _
      rw [if_pos own]
      rfl
    rw [same]
    constructor
    · intro nowhere owner inside
      exact absurd inside (nowhere owner).1
    · intro elsewhere owner
      have absent : easy ∉ (ended.system.multis owner).requests := fun inside =>
        (elsewhere owner inside).1 (Option.some.inj ((pointer owner inside).symm.trans own))
      exact ⟨absent, inv.requests owner ▸ absent⟩
  have after := members_easyMultiSet transfer.removal (inv.handleTables easy).membersAre own
  have unrequested (owner : ObjectId) : easy ∉ ((finalState (easyMultiSet easy (some multi)
      transfer.removal) ended.system).multis owner).requests := by
    intro inside
    obtain ⟨before, left⟩ := (after.requests owner).mp inside
    exact left (pointer owner before)
  have comesBack (accepted : ∀ owner, easy ∈ (ended.system.multis owner).requests →
      transfer.removal = .ok ()) : NoTransferLeft easy
        (finalState (easyMultiSet easy (some multi) transfer.removal) ended.system) := by
    have inv' := @inv_easyMultiSet ended.system easy transfer.removal (some multi) inv
      fun _ owner _ inside => accepted owner inside
    exact fun owner => ⟨unrequested owner, inv'.requests owner ▸ unrequested owner⟩
  constructor
  · intro nowhere owner inside
    have other : owner ≠ multi := by
      intro isMulti
      rw [← isMulti] at own
      exact own (pointer owner inside)
    refine ⟨other, ?_⟩
    cases removal : transfer.removal with
    | ok value => rfl
    | error refusal =>
      refine absurd ?_ (nowhere owner).2
      rw [removal, easyMultiSet_refused inside (pointer owner inside) other, System.setMulti_self]
      exact inv.requests owner ▸ inside
  · exact fun elsewhere => comesBack fun owner inside => (elsewhere owner inside).2

/-! ## How the `begin` block is left -/

variable {system : System}

/-- How the loop ends, as an operation. -/
def Transfer.ending (transfer : Transfer) (multi : ObjectId) : Operation :=
  match transfer.raises with
  | none => .performReturn multi transfer.autoclose transfer.closing
  | some _ => .performRaise multi transfer.deferred

/-- The way into the loop: the addition, the safety settings and the guard. -/
def Transfer.intoLoop (transfer : Transfer) (multi easy : ObjectId) : SystemM Unit := do
  add multi easy transfer.safety transfer.setup transfer.reply
  checkReply transfer.signatures
  performBegin multi

/-- The handles and multis when the loop is left, or where it is not entered. -/
def Transfer.left (transfer : Transfer) (multi easy : ObjectId) (system : System) : System :=
  if succeeds (transfer.intoLoop multi easy) system then
    run transfer.during (finalState (transfer.intoLoop multi easy) system)
  else finalState (transfer.intoLoop multi easy) system

/-- An exception leaves the addition or `Multi#perform`: on the way into the loop, in it, or when the
multi is to be closed after it and libcurl refuses one of its handles. -/
def Transfer.Interrupted (transfer : Transfer) (multi easy : ObjectId) (system : System) : Prop :=
  succeeds (transfer.intoLoop multi easy) system = false ∨ transfer.raises ≠ none ∨
    transfer.autoclose = true ∧ ¬Granted multi transfer.closing (transfer.left multi easy system)

/-- What happens in the loop keeps the tables together. -/
def Transfer.KeepsTables (transfer : Transfer) (multi easy : ObjectId) (system : System) : Prop :=
  ∀ ready, Returns (transfer.intoLoop multi easy) system () ready → RunOk transfer.during ready

theorem inv_intoLoop (transfer : Transfer) (inv : Inv system) :
    Inv (finalState (transfer.intoLoop multi easy) system) := by
  have checks : Keeps Inv (checkReply transfer.signatures) := by
    cases transfer.signatures with
    | ok value => exact keeps_pure
    | error error => exact keeps_throw
  exact finalState_bind_of_keeps (inv_add inv) fun _ => keeps_bind checks fun _ => keeps_performBegin

theorem inv_left {transfer : Transfer} (inv : Inv system)
    (together : transfer.KeepsTables multi easy system) : Inv (transfer.left multi easy system) := by
  have entered := @inv_intoLoop easy multi system transfer inv
  unfold Transfer.left
  split
  · rename_i enters
    exact inv_run entered (together _ (returns_finalState enters))
  · exact entered

/-- The end of `Multi#perform`. -/
def endLoop (multi : ObjectId) (transfer : Transfer) : SystemM Unit :=
  match transfer.raises with
  | none => performReturn multi transfer.autoclose transfer.closing
  | some error => do
      performRaise multi transfer.deferred
      throw error

/-- The end of the `begin` block (`easy.rb:284`). -/
def removeOwn (multi easy : ObjectId) (reply : Reply) : SystemM Unit := do
  let system ← get
  if (system.easies easy).multi = some multi then remove multi easy reply else pure ()

theorem transferBody_eq (transfer : Transfer) : transferBody multi easy transfer = (do
    transfer.intoLoop multi easy
    modify (run transfer.during)
    endLoop multi transfer
    removeOwn multi easy transfer.removal) := by
  unfold transferBody multiPerform Transfer.intoLoop endLoop removeOwn
  simp only [bind_assoc]

/-- Where the loop is not entered the block raises. -/
theorem transferBody_notEntered {transfer : Transfer}
    (stopped : succeeds (transfer.intoLoop multi easy) system = false) :
    succeeds (transferBody multi easy transfer) system = false ∧
      finalState (transferBody multi easy transfer) system = transfer.left multi easy system := by
  obtain ⟨error, raises⟩ := exists_raises stopped
  rw [transferBody_eq]
  refine ⟨?_, ?_⟩
  · have whole : Raises (transfer.intoLoop multi easy >>= fun _ => (do
        modify (run transfer.during)
        endLoop multi transfer
        removeOwn multi easy transfer.removal : SystemM Unit)) system error _ :=
      bind_raises_iff.mpr (Or.inl raises)
    exact whole.succeeds_eq
  · rw [raises.finalState_bind, Transfer.left, if_neg (by rw [stopped]; exact Bool.false_ne_true)]

/-- Where the loop is entered, the block ends as the rest does from where the loop is left. -/
theorem transferBody_entered {transfer : Transfer}
    (enters : succeeds (transfer.intoLoop multi easy) system = true) :
    transferBody multi easy transfer system = (do
      endLoop multi transfer
      removeOwn multi easy transfer.removal : SystemM Unit) (transfer.left multi easy system) := by
  have ran : Returns (modify (run transfer.during) : SystemM Unit)
      (finalState (transfer.intoLoop multi easy) system) () (transfer.left multi easy system) := by
    rw [Transfer.left, if_pos enters]
    rfl
  rw [transferBody_eq, (returns_finalState enters).bind_eq, ran.bind_eq]

/-! ### An exception -/

/-- The requests of every multi are these. -/
def RequestsAre (requests : ObjectId → List ObjectId) (system : System) : Prop :=
  ∀ owner, (system.multis owner).requests = requests owner

variable {requests : ObjectId → List ObjectId}

theorem keeps_requestsAre_setMulti {f : System → Multi}
    (same : ∀ system, (f system).requests = (system.multis multi).requests) :
    Keeps (RequestsAre requests)
      (modify fun system => system.setMulti multi (f system) : SystemM Unit) := by
  refine keeps_modify fun system before owner => ?_
  by_cases isMulti : owner = multi
  · rw [isMulti, System.setMulti_self, same]
    exact before multi
  · rw [System.setMulti_of_ne _ _ isMulti]
    exact before owner

theorem keeps_requestsAre_removals {replies : ObjectId → Reply} {easies : List ObjectId} :
    Keeps (RequestsAre requests) (removals multi replies easies) := by
  refine keeps_forM fun other _ => keeps_bind ?_ fun _ =>
    keeps_bind (keeps_requestsAre_setMulti fun _ => rfl) fun _ =>
      keeps_bind (keeps_requestsAre_setMulti fun _ => rfl) fun _ =>
        keeps_bind (fun _ before => before) fun _ => keeps_requestsAre_setMulti fun _ => rfl
  cases replies other with
  | ok value => exact keeps_pure
  | error error => exact keeps_throw

/-- A refused close has taken handles off the native table only. -/
theorem autoclose_refused {replies : ObjectId → Reply} (refused : ¬Granted multi replies system) :
    ∃ error after, Raises (close false multi replies) system error after ∧
      Raises (removals multi replies (system.multis multi).requests) system error after := by
  obtain ⟨error, after, raises⟩ := forM_multiRemoveNative_raises refused system
  exact ⟨error, after, bind_raises_iff.mpr (Or.inr ⟨_, _, rfl, bind_raises_iff.mpr (Or.inl raises)⟩),
    raises⟩

theorem HandleTables.of_fewer {after : System} (tables : HandleTables easy system)
    (takes : Fewer system after)
    (same : RequestsAre (fun owner => (system.multis owner).requests) after) :
    HandleTables easy after where
  requests owner := by
    rw [same owner]
    exact tables.requests owner
  attached owner := (takes.attached owner).nodup (tables.attached owner)
  requested owner inside := by
    rw [same owner]
    exact tables.requested owner ((takes.attached owner).subset inside)

/-- What an exception leaves of the tables. -/
structure Raised (multi easy : ObjectId) (left ended : System) : Prop where
  takes : Fewer left ended
  same : RequestsAre (fun owner => (left.multis owner).requests) ended
  pointed : Pointed multi easy ended

theorem raised_setMulti {left ended : System} {state : Multi} (raised : Raised multi easy left ended)
    (requests : state.requests = (ended.multis multi).requests)
    (attached : state.attached = (ended.multis multi).attached)
    (active : state.active = (ended.multis multi).active)
    (held : state.held = (ended.multis multi).held)
    (idle : state.idleEasyReferences = (ended.multis multi).idleEasyReferences) :
    Raised multi easy left (ended.setMulti multi state) where
  takes := by
    refine raised.takes.trans (fewer_setMulti ?_ ?_ active.le ?_ ?_)
    · rw [requests]
    · rw [attached]
    · rw [held]
    · rw [idle]
  same owner := by
    by_cases isMulti : owner = multi
    · rw [isMulti, System.setMulti_self, requests]
      exact raised.same multi
    · rw [System.setMulti_of_ne _ _ isMulti]
      exact raised.same owner
  pointed := by
    have table : ((ended.setMulti multi state).multis multi).attached =
        (ended.multis multi).attached := by
      rw [System.setMulti_self, attached]
    exact ⟨table ▸ raised.pointed.attached, fun inside => raised.pointed.pointer (table ▸ inside)⟩

theorem Inv.raised {left : System} (inv : Inv left) : Raised multi easy left left :=
  ⟨.refl left, fun _ => rfl, inv.pointed multi easy⟩

/-- The loop is left by an exception. -/
theorem endLoop_raises {transfer : Transfer} {left : System} {error : RubyError} (inv : Inv left)
    (raises : transfer.raises = some error) : ∃ ended,
      Raises (endLoop multi transfer) left error ended ∧ Raised multi easy left ended ∧ Inv ended := by
  refine ⟨finalState (performRaise multi transfer.deferred) left, ?_, ?_, keeps_performRaise left inv⟩
  · rw [endLoop, raises]
    rfl
  · exact raised_setMulti (raised_setMulti inv.raised rfl rfl rfl rfl rfl) rfl rfl rfl rfl rfl

/-- The multi is to be closed, and libcurl refuses. -/
theorem endLoop_refused {transfer : Transfer} {left : System} (inv : Inv left)
    (returns : transfer.raises = none) (autoclose : transfer.autoclose = true)
    (refused : ¬Granted multi transfer.closing left) : ∃ error ended,
      Raises (endLoop multi transfer) left error ended ∧ Raised multi easy left ended := by
  have allowed : Raised multi easy left (left.setMulti multi
      { left.multis multi with allowCloseDuringPerform := true }) :=
    raised_setMulti inv.raised rfl rfl rfl rfl rfl
  obtain ⟨error, stopped, raises, removes⟩ := @autoclose_refused multi (left.setMulti multi
    { left.multis multi with allowCloseDuringPerform := true }) transfer.closing (by
      rw [Granted, System.setMulti_self]
      exact refused)
  have stopped' : Raised multi easy left stopped :=
    ⟨(keeps_forM fun _ _ => keeps_fewer_multiRemoveNative).of_raises removes allowed.takes,
      keeps_requestsAre_removals.of_raises removes allowed.same,
      (keeps_forM fun _ _ => keeps_pointed_multiRemoveNative).of_raises removes allowed.pointed⟩
  refine ⟨error, finalState (performGuardEnsure multi) stopped, ?_,
    raised_setMulti stopped' rfl rfl rfl rfl rfl⟩
  rw [endLoop, returns]
  show Raises (performReturn multi transfer.autoclose transfer.closing) left error _
  rw [autoclose]
  refine raises_ensuring_modify_iff.mpr ⟨stopped, ?_, rfl⟩
  exact bind_raises_iff.mpr (Or.inr ⟨_, _, rfl, bind_raises_iff.mpr (Or.inl raises)⟩)

/-- An exception leaves the handle among the requests it was among. -/
theorem transferBody_interrupted {transfer : Transfer} (inv : Inv system)
    (together : transfer.KeepsTables multi easy system)
    (interrupted : transfer.Interrupted multi easy system) :
    succeeds (transferBody multi easy transfer) system = false ∧
      Raised multi easy (transfer.left multi easy system)
        (finalState (transferBody multi easy transfer) system) ∧
      (transfer.autoclose = false → Inv (finalState (transferBody multi easy transfer) system)) := by
  have left := inv_left inv together
  by_cases enters : succeeds (transfer.intoLoop multi easy) system = true
  swap
  · obtain ⟨fails, ended⟩ := transferBody_notEntered ((Bool.not_eq_true _).mp enters)
    rw [ended]
    exact ⟨fails, left.raised, fun _ => left⟩
  have rest := transferBody_entered enters
  have whole {error : RubyError} {ended : System}
      (raises : Raises (endLoop multi transfer) (transfer.left multi easy system) error ended) :
      Raises (transferBody multi easy transfer) system error ended := by
    rw [Raises, rest]
    exact bind_raises_iff.mpr (Or.inl raises)
  cases raises : transfer.raises with
  | some error =>
    obtain ⟨ended, stops, raised, inv'⟩ := @endLoop_raises easy multi transfer _ error left raises
    rw [(whole stops).finalState_eq]
    exact ⟨(whole stops).succeeds_eq, raised, fun _ => inv'⟩
  | none =>
    rcases interrupted with stopped | raised | ⟨autoclose, refused⟩
    · rw [enters] at stopped
      cases stopped
    · exact absurd raises raised
    · obtain ⟨error, ended, stops, raised⟩ := @endLoop_refused easy multi transfer _ left raises autoclose refused
      rw [(whole stops).finalState_eq]
      refine ⟨(whole stops).succeeds_eq, raised, fun staysOpen => ?_⟩
      rw [autoclose] at staysOpen
      cases staysOpen

/-! ### No exception -/

/-- The native close is not rejected while `perform` itself closes the multi. -/
theorem multiCloseNative_allowed (allowed : (system.multis multi).allowCloseDuringPerform = true) :
    Returns (multiCloseNative multi) system () (finalState (multiCloseNative multi) system) := by
  have never : RaisesOnly (fun _ => False) (do
      detachAll multi
      modifyMulti multi fun state => { state with
        handle := false
        held := []
        active := 0
        deferredException := false }) :=
    raisesOnly_bind (detachAll_not_raises multi) fun _ => raisesOnly_modify
  have unfolded : multiCloseNative multi system = (do
      detachAll multi
      modifyMulti multi fun state => { state with
        handle := false
        held := []
        active := 0
        deferredException := false } : SystemM Unit) system := by
    show (ite _ _ _ : SystemM Unit) system = _
    rw [if_neg]
    rw [allowed, Bool.not_true, Bool.and_false]
    exact Bool.false_ne_true
  rw [Returns, finalState, unfolded]
  exact returns_of_raisesOnly never system

theorem keeps_allowed_removals {replies : ObjectId → Reply} {easies : List ObjectId} :
    Keeps (fun system : System => (system.multis multi).allowCloseDuringPerform = true)
      (removals multi replies easies) := by
  have flag {f : System → Multi} (same : ∀ system, (f system).allowCloseDuringPerform =
      (system.multis multi).allowCloseDuringPerform) :
      Keeps (fun system : System => (system.multis multi).allowCloseDuringPerform = true)
        (modify fun system => system.setMulti multi (f system) : SystemM Unit) := by
    refine keeps_modify fun system before => ?_
    rw [System.setMulti_self, same]
    exact before
  refine keeps_forM fun other _ => keeps_bind ?_ fun _ => keeps_bind (flag fun _ => rfl) fun _ =>
    keeps_bind (flag fun _ => rfl) fun _ => keeps_bind (fun _ before => before) fun _ =>
      flag fun _ => rfl
  cases replies other with
  | ok value => exact keeps_pure
  | error error => exact keeps_throw

/-- The multi is closed, and has nothing left. -/
theorem close_allowed {replies : ObjectId → Reply} (granted : Granted multi replies system)
    (allowed : (system.multis multi).allowCloseDuringPerform = true) : ∃ closed,
      Returns (close false multi replies) system () closed ∧ (closed.multis multi).requests = [] := by
  have drains := returns_of_raisesOnly (@removals_not_raises multi _ _ granted) system
  have allowed' := keeps_allowed_removals.of_returns drains allowed
  generalize finalState (removals multi replies (system.multis multi).requests) system = drained
    at drains allowed'
  have emptied : Returns (clearRequests multi) drained ()
      (drained.setMulti multi { drained.multis multi with requests := [] }) := rfl
  have closes := @multiCloseNative_allowed multi
    (drained.setMulti multi { drained.multis multi with requests := [] }) (by
      rw [System.setMulti_self]
      exact allowed')
  have whole : Returns (close false multi replies) system () (finalState (multiCloseNative multi)
      (drained.setMulti multi { drained.multis multi with requests := [] })) := by
    change Returns (removals multi replies (system.multis multi).requests >>= fun _ =>
      (pure () >>= fun _ => clearRequests multi >>= fun _ => multiCloseNative multi >>= fun _ =>
        pure ()) : SystemM Unit) system () _
    refine bind_returns_iff.mpr ⟨_, _, drains, bind_returns_iff.mpr ⟨_, _, rfl, ?_⟩⟩
    refine bind_returns_iff.mpr ⟨_, _, emptied, bind_returns_iff.mpr ⟨_, _, closes, ?_⟩⟩
    exact returns_pure_iff.mpr ⟨rfl, rfl⟩
  have takes := (keeps_fewer_multiCloseNative.of_returns closes (.refl _)).requests multi
  rw [System.setMulti_self] at takes
  exact ⟨_, whole, List.sublist_nil.mp takes⟩

/-- A handle that libcurl lets go, or that is not there, is removed. -/
theorem removeOwn_returns {ended : System} {reply : Reply} (inv : Inv ended)
    (granted : easy ∈ (ended.multis multi).requests → reply = .ok ()) :
    ∃ removed, Returns (removeOwn multi easy reply) ended () removed ∧ Inv removed ∧
      MembersAre easy (fun owner => easy ∈ (ended.multis owner).requests ∧ owner ≠ multi) removed := by
  have before := (inv.handleTables easy).membersAre
  by_cases inside : easy ∈ (ended.multis multi).requests
  · have points : (ended.easies easy).multi = some multi := by
      rw [inv.requests] at inside
      exact (inv.native multi).backPointer easy inside
    have removes := remove_returns ended inside
    have members := @members_remove easy multi _ ended (.ok ()) before
    rw [removes.finalState_eq] at members
    refine ⟨_, ?_, inv_dropped inv (inv.requests multi ▸ inside), members⟩
    show (ite ((ended.easies easy).multi = some multi) _ (pure ()) : SystemM Unit) ended = _
    rw [if_pos points, granted inside]
    exact removes
  · refine ⟨ended, ?_, inv, fun owner => ?_, before.nodup⟩
    · show (ite ((ended.easies easy).multi = some multi) _ (pure ()) : SystemM Unit) ended = _
      split
      · exact remove_absent ended reply inside
      · rfl
    · refine ⟨fun requested => ⟨requested, fun isMulti => ?_⟩, And.left⟩
      exact inside (isMulti ▸ requested)

theorem removeOwn_refused {ended : System} {refusal : RubyError} (inv : Inv ended)
    (inside : easy ∈ (ended.multis multi).requests) :
    Raises (removeOwn multi easy (.error refusal)) ended refusal (ended.setMulti multi
      { ended.multis multi with requests := (ended.multis multi).requests.erase easy }) := by
  have points : (ended.easies easy).multi = some multi := by
    rw [inv.requests] at inside
    exact (inv.native multi).backPointer easy inside
  show (ite ((ended.easies easy).multi = some multi) _ (pure ()) : SystemM Unit) ended = _
  rw [if_pos points]
  exact remove_refused inside

theorem endLoop_closes {transfer : Transfer} {left : System} (inv : Inv left)
    (returns : transfer.raises = none) (autoclose : transfer.autoclose = true)
    (granted : Granted multi transfer.closing left) : ∃ ended,
      Returns (endLoop multi transfer) left () ended ∧ Inv ended ∧
      MembersAre easy (fun owner => easy ∈ (left.multis owner).requests ∧ owner ≠ multi) ended ∧
      (ended.multis multi).requests = [] := by
  have allows : Keeps (MembersAre easy fun owner => easy ∈ (left.multis owner).requests)
      (modifyMulti multi fun state => { state with allowCloseDuringPerform := true }) :=
    keeps_members_setMulti fun _ => rfl
  have granted' : Granted multi transfer.closing (left.setMulti multi
      { left.multis multi with allowCloseDuringPerform := true }) := by
    rw [Granted, System.setMulti_self]
    exact granted
  obtain ⟨closed, closes, empty⟩ := close_allowed granted' (by rw [System.setMulti_self])
  have members := members_close_granted granted' (allows left (inv.handleTables easy).membersAre)
  rw [closes.finalState_eq] at members
  let allowedAgain := closed.setMulti multi { closed.multis multi with allowCloseDuringPerform := false }
  have body : Returns (when true do
      modifyMulti multi fun state => { state with allowCloseDuringPerform := true }
      close false multi transfer.closing
      modifyMulti multi fun state => { state with allowCloseDuringPerform := false }) left () allowedAgain :=
    bind_returns_iff.mpr ⟨_, _, rfl, bind_returns_iff.mpr ⟨_, _, closes, rfl⟩⟩
  have ends : Returns (endLoop multi transfer) left ()
      (finalState (performGuardEnsure multi) allowedAgain) := by
    rw [endLoop, returns]
    show performReturn multi transfer.autoclose transfer.closing left = _
    rw [autoclose, performReturn, ensuring, body]
    rfl
  have reset : Keeps (MembersAre easy fun owner => easy ∈ (left.multis owner).requests ∧ owner ≠ multi) (do
      modifyMulti multi fun state => { state with allowCloseDuringPerform := false }
      performGuardEnsure multi) :=
    keeps_bind (keeps_members_setMulti fun _ => rfl) fun _ => keeps_members_setMulti fun _ => rfl
  refine ⟨_, ends, ?_, reset closed members, ?_⟩
  · have inv' := @inv_performReturn left multi true transfer.closing inv fun _ => Or.inl granted
    rw [endLoop, returns] at ends
    change Returns (performReturn multi transfer.autoclose transfer.closing) left () _ at ends
    rw [autoclose] at ends
    rwa [ends.finalState_eq] at inv'
  · show ((allowedAgain.setMulti multi _).multis multi).requests = []
    rw [System.setMulti_self]
    show (allowedAgain.multis multi).requests = []
    rw [System.setMulti_self]
    exact empty

theorem endLoop_returns {transfer : Transfer} {left : System} (inv : Inv left)
    (returns : transfer.raises = none) (staysOpen : transfer.autoclose = false) : ∃ ended,
      Returns (endLoop multi transfer) left () ended ∧ Inv ended ∧
      RequestsAre (fun owner => (left.multis owner).requests) ended := by
  have ends : Returns (endLoop multi transfer) left () (finalState (performGuardEnsure multi) left) := by
    rw [endLoop, returns]
    show performReturn multi transfer.autoclose transfer.closing left = _
    rw [staysOpen]
    rfl
  have reset : Keeps (RequestsAre fun owner => (left.multis owner).requests)
      (performGuardEnsure multi) := keeps_requestsAre_setMulti fun _ => rfl
  exact ⟨_, ends, keeps_performGuardEnsure left inv, reset left fun _ => rfl⟩

/-! ## A whole call -/

/-- The handles and multis as the `begin` block finds them. -/
def Transfer.begun (transfer : Transfer) (easy : ObjectId) (system : System) : System :=
  finalState (when (createsMulti easy system)
    (easyMultiSet easy (some (transfer.chosen easy system)) (.ok ()))) system

/-- An addition of the handle sets it up with the options it has then, unless the multi drains what
it has for a pending exception (`multi.rb:444-446`). -/
def SetsUpAnew (easy : ObjectId) (system : System) : Prop :=
  ∀ owner safety setup reply added, Returns (add owner easy safety setup reply) system () added →
    (system.multis owner).deferredException = true ∨
      safety = .ok () ∧ setup = .ok () ∧ easy ∈ (added.multis owner).attached

theorem not_attached_ensureHandle {ready : System} {owner : ObjectId}
    (ensured : Returns (ensureHandle owner) system () ready)
    (absent : easy ∉ (system.multis owner).attached) : easy ∉ (ready.multis owner).attached := by
  change Returns (ite _ _ _ : SystemM Unit) system () ready at ensured
  split at ensured
  · rw [← (returns_pure_iff.mp ensured).2]
    exact absent
  · split at ensured
    · exact absurd ensured returns_throw_iff
    · rw [returns_modify_iff.mp ensured, System.setMulti_self]
      exact List.not_mem_nil

theorem attachNative_returns {ready added : System} {owner : ObjectId} {setup reply : Reply}
    (attaches : Returns (attachNative owner easy setup reply) ready () added)
    (absent : easy ∉ (ready.multis owner).attached) :
    setup = .ok () ∧ easy ∈ (added.multis owner).attached := by
  change Returns (ite (easy ∈ (ready.multis owner).attached) _ _ : SystemM Unit) ready () added at attaches
  rw [if_neg absent] at attaches
  change Returns (ite _ _ _ : SystemM Unit) ready () added at attaches
  split at attaches
  · exact absurd attaches returns_throw_iff
  obtain ⟨_, prepared, sets, attaches⟩ := bind_returns_iff.mp attaches
  obtain ⟨_, granted, grants, attaches⟩ := bind_returns_iff.mp attaches
  obtain ⟨_, listed, lists, points⟩ := bind_returns_iff.mp attaches
  refine ⟨(checkReply_returns sets).1, ?_⟩
  rw [returns_modify_iff.mp points, System.setEasy_multis, returns_modify_iff.mp lists,
    System.setMulti_self]
  exact List.mem_append_right _ List.mem_cons_self

theorem NoTransferLeft.setsUpAnew (none : NoTransferLeft easy system) : SetsUpAnew easy system := by
  intro owner safety setup reply added adds
  change Returns (ite (easy ∈ (system.multis owner).requests) _ _ : SystemM Unit) system () added at adds
  rw [if_neg (none owner).1] at adds
  change Returns (ite ((system.multis owner).deferredException = true) _ _ : SystemM Unit) system ()
    added at adds
  split at adds
  · exact Or.inl (by assumption)
  obtain ⟨_, checked, checks, adds⟩ := bind_returns_iff.mp adds
  obtain ⟨_, attached, attaches, adds⟩ := bind_returns_iff.mp adds
  obtain ⟨_, known, knows, lists⟩ := bind_returns_iff.mp adds
  obtain ⟨applied, same⟩ := checkReply_returns checks
  rw [same] at attaches
  obtain ⟨_, ready, ensured, attaches⟩ := bind_returns_iff.mp attaches
  obtain ⟨setUp, inside⟩ := attachNative_returns attaches
    (not_attached_ensureHandle ensured (none owner).2)
  refine Or.inr ⟨applied, setUp, ?_⟩
  rw [returns_modify_iff.mp lists, System.setMulti_self, returns_modify_iff.mp knows,
    System.setMulti_self]
  exact inside

/-- The call takes the handle off a multi that has it when the loop is left. After an exception: its
own, where it has created it, or where autoclose is on and libcurl lets the handles go; else any other
multi, where libcurl lets the handle go. Without one: its own where autoclose is on; else any multi,
where libcurl lets the handle go, and a multi it has created in any case. -/
def Transfer.TakesOff (transfer : Transfer) (created : Bool) (multi easy : ObjectId)
    (begun : System) (owner : ObjectId) : Prop :=
  (transfer.Interrupted multi easy begun →
    created = true ∧ owner = multi ∨
    created = false ∧ transfer.autoclose = true ∧ owner = multi ∧
      Granted multi transfer.closing (transfer.left multi easy begun) ∨
    created = false ∧ transfer.autoclose = false ∧ owner ≠ multi ∧ transfer.removal = .ok ()) ∧
  (¬transfer.Interrupted multi easy begun →
    transfer.autoclose = true ∧ owner = multi ∨
    transfer.autoclose = false ∧ (transfer.removal = .ok () ∨ created = true ∧ owner = multi))

/-- A handle without a multi is given the new one. -/
theorem begun_returns (transfer : Transfer) (system : System) :
    Returns (when (createsMulti easy system)
      (easyMultiSet easy (some (transfer.chosen easy system)) (.ok ()))) system ()
        (transfer.begun easy system) := by
  refine returns_of_raisesOnly ?_ system
  unfold when
  split
  · exact raisesOnly_easyMultiSet fun _ refused => nomatch refused
  · exact raisesOnly_pure

theorem inv_begun (transfer : Transfer) (inv : Inv system) : Inv (transfer.begun easy system) := by
  unfold Transfer.begun when
  split
  · exact inv_easyMultiSet inv fun _ _ _ _ => rfl
  · exact inv

/-- After an exception. -/
theorem putAway_raised_iff {transfer : Transfer} {created : Bool} {left ended : System}
    {deferred : List (ObjectId × ObjectId)} (tables : HandleTables easy left)
    (raised : Raised multi easy left ended) (inv : transfer.autoclose = false → Inv ended) :
    NoTransferLeft easy (finalState (putAway created multi easy transfer true) ⟨ended, deferred⟩).system ↔
      ∀ owner, easy ∈ (left.multis owner).requests →
        created = true ∧ owner = multi ∨
        created = false ∧ transfer.autoclose = true ∧ owner = multi ∧
          Granted multi transfer.closing left ∨
        created = false ∧ transfer.autoclose = false ∧ owner ≠ multi ∧ transfer.removal = .ok () := by
  have tables' := tables.of_fewer raised.takes raised.same
  have granted : Granted multi transfer.closing ended ↔ Granted multi transfer.closing left := by
    rw [Granted, Granted, raised.same multi]
  cases created with
  | true =>
    rw [putAway_created_iff transfer ⟨ended, deferred⟩ tables'.requests raised.pointed
      fun owner _ => tables'.requested owner]
    refine forall_congr' fun owner => ?_
    rw [raised.same owner]
    simp
  | false =>
    cases autoclose : transfer.autoclose with
    | true =>
      rw [putAway_autoclose_iff rfl autoclose ⟨ended, deferred⟩ tables']
      refine forall_congr' fun owner => ?_
      rw [raised.same owner, granted]
      simp
    | false =>
      rw [putAway_kept_iff rfl autoclose ⟨ended, deferred⟩ (inv autoclose)]
      refine forall_congr' fun owner => ?_
      rw [raised.same owner]
      simp

/-- After a loop that was left without one, where the multi has been closed. -/
theorem putAway_closed_iff {transfer : Transfer} {created : Bool} {left closed : System}
    {deferred : List (ObjectId × ObjectId)} (autoclose : transfer.autoclose = true) (inv : Inv closed)
    (members : MembersAre easy (fun owner => easy ∈ (left.multis owner).requests ∧ owner ≠ multi) closed) :
    NoTransferLeft easy (finalState (putAway created multi easy transfer false)
      ⟨closed, deferred⟩).system ↔
      ∀ owner, easy ∈ (left.multis owner).requests → owner = multi := by
  rw [putAway_autoclose_iff (Bool.and_false created) autoclose ⟨closed, deferred⟩ (inv.handleTables easy)]
  constructor
  · intro own owner inside
    by_contra other
    exact other (own owner ((members.requests owner).mpr ⟨inside, other⟩)).1
  · intro own owner inside
    obtain ⟨before, other⟩ := (members.requests owner).mp inside
    exact absurd (own owner before) other

/-- After a loop that was left without one, where the multi is kept and the handle removed. -/
theorem putAway_removed_iff {transfer : Transfer} {created : Bool} {ended removed : System}
    {deferred : List (ObjectId × ObjectId)} (staysOpen : transfer.autoclose = false) (inv : Inv removed)
    (members : MembersAre easy (fun owner => easy ∈ (ended.multis owner).requests ∧ owner ≠ multi)
      removed)
    (granted : easy ∈ (ended.multis multi).requests → transfer.removal = .ok ()) :
    NoTransferLeft easy (finalState (putAway created multi easy transfer false)
      ⟨removed, deferred⟩).system ↔
      ∀ owner, easy ∈ (ended.multis owner).requests →
        transfer.removal = .ok () ∨ created = true ∧ owner = multi := by
  rw [putAway_kept_iff (Bool.and_false created) staysOpen ⟨removed, deferred⟩ inv]
  constructor
  · intro comesBack owner inside
    by_cases isMulti : owner = multi
    · exact Or.inl (granted (isMulti ▸ inside))
    · exact Or.inl (comesBack owner ((members.requests owner).mpr ⟨inside, isMulti⟩)).2
  · intro lets owner inside
    obtain ⟨before, other⟩ := (members.requests owner).mp inside
    exact ⟨other, (lets owner before).resolve_right fun own => other own.2⟩

/-- Where libcurl does not let the handle go after such a loop. -/
theorem putAway_stuck_iff {transfer : Transfer} {created : Bool} {ended : System}
    {deferred : List (ObjectId × ObjectId)} (staysOpen : transfer.autoclose = false) (inv : Inv ended)
    (inside : easy ∈ (ended.multis multi).requests) :
    NoTransferLeft easy (finalState (putAway created multi easy transfer true) ⟨ended.setMulti multi
      { ended.multis multi with requests := (ended.multis multi).requests.erase easy },
        deferred⟩).system ↔
      ∀ owner, easy ∈ (ended.multis owner).requests → created = true ∧ owner = multi := by
  have attached := inv.requests multi ▸ inside
  have pointer := (inv.native multi).backPointer easy attached
  have unique (owner : ObjectId) (inside : easy ∈ (ended.multis owner).requests) : owner = multi := by
    rw [inv.requests] at inside
    exact Option.some.inj (((inv.native owner).backPointer easy inside).symm.trans pointer)
  have table : ((ended.setMulti multi { ended.multis multi with
      requests := (ended.multis multi).requests.erase easy }).multis multi).attached =
        (ended.multis multi).attached := by
    rw [System.setMulti_self]
  cases created with
  | false =>
    rw [putAway_kept rfl staysOpen]
    have same : finalState (easyMultiSet easy (some multi) transfer.removal) (ended.setMulti multi
        { ended.multis multi with requests := (ended.multis multi).requests.erase easy }) =
          ended.setMulti multi
            { ended.multis multi with requests := (ended.multis multi).requests.erase easy } := by
      show finalState (ite ((ended.easies easy).multi = some multi) _ _) _ = _
      rw [if_pos pointer]
      rfl
    rw [same]
    refine ⟨fun none => absurd ?_ (none multi).2, fun own => Bool.noConfusion (own multi inside).1⟩
    rw [table]
    exact attached
  | true =>
    have other {owner : ObjectId} (ne : owner ≠ multi) : (ended.setMulti multi { ended.multis multi with
        requests := (ended.multis multi).requests.erase easy }).multis owner = ended.multis owner :=
      System.setMulti_of_ne _ _ ne
    rw [putAway_created_iff transfer _ ?_ ⟨?_, fun _ => pointer⟩ ?_]
    · refine ⟨fun _ owner requested => ⟨rfl, unique owner requested⟩, fun _ owner requested => ?_⟩
      by_contra ne
      rw [other ne] at requested
      exact ne (unique owner requested)
    · intro owner
      by_cases isMulti : owner = multi
      · rw [isMulti, System.setMulti_self]
        exact ((inv.handleTables easy).requests multi).erase easy
      · rw [other isMulti]
        exact (inv.handleTables easy).requests owner
    · rw [table]
      exact (inv.native multi).nodup
    · intro owner ne
      rw [other ne, inv.requests]
      exact id

/-- What the block and the `ensure` clause leave together. -/
theorem putAway_none_iff {transfer : Transfer} {created : Bool} {begun : System} (inv : Inv begun)
    (together : transfer.KeepsTables multi easy begun) (deferred : List (ObjectId × ObjectId)) :
    NoTransferLeft easy (finalState (putAway created multi easy transfer
      (!succeeds (transferBody multi easy transfer) begun))
        ⟨finalState (transferBody multi easy transfer) begun, deferred⟩).system ↔
      ∀ owner, easy ∈ ((transfer.left multi easy begun).multis owner).requests →
        transfer.TakesOff created multi easy begun owner := by
  by_cases interrupted : transfer.Interrupted multi easy begun
  · obtain ⟨fails, raised, inv'⟩ := transferBody_interrupted inv together interrupted
    rw [fails, Bool.not_false, putAway_raised_iff ((inv_left inv together).handleTables easy) raised inv']
    refine forall_congr' fun owner => imp_congr_right fun _ => ?_
    exact ⟨fun taken => ⟨fun _ => taken, fun not => absurd interrupted not⟩, fun takes => takes.1 interrupted⟩
  · have takesOff (owner : ObjectId) : transfer.TakesOff created multi easy begun owner ↔
        (transfer.autoclose = true ∧ owner = multi ∨
        transfer.autoclose = false ∧ (transfer.removal = .ok () ∨ created = true ∧ owner = multi)) :=
      ⟨fun takes => takes.2 interrupted, fun taken => ⟨fun is => absurd is interrupted, fun _ => taken⟩⟩
    rw [Transfer.Interrupted, not_or, not_or, Bool.not_eq_false, not_ne_iff, not_and, not_not] at interrupted
    obtain ⟨enters, returns, granted⟩ := interrupted
    have rest := transferBody_entered enters
    have left := inv_left inv together
    simp only [takesOff]
    cases autoclose : transfer.autoclose with
    | true =>
      obtain ⟨ended, ends, inv', members, empty⟩ :=
        @endLoop_closes easy multi transfer _ left returns autoclose (granted autoclose)
      obtain ⟨removed, removes, inv'', members'⟩ :=
        @removeOwn_returns easy multi ended transfer.removal inv' (by rw [empty]; simp)
      have whole : Returns (transferBody multi easy transfer) begun () removed := by
        rw [Returns, rest]
        exact bind_returns_iff.mpr ⟨_, _, ends, removes⟩
      have gone : MembersAre easy (fun owner =>
          easy ∈ ((transfer.left multi easy begun).multis owner).requests ∧ owner ≠ multi) removed := by
        refine ⟨fun owner => ?_, members'.nodup⟩
        rw [members'.requests, members.requests, and_assoc, and_self]
      rw [whole.succeeds_eq, whole.finalState_eq, Bool.not_true, putAway_closed_iff autoclose inv'' gone]
      simp
    | false =>
      obtain ⟨ended, ends, inv', same⟩ := @endLoop_returns multi transfer _ left returns autoclose
      by_cases stuck : easy ∈ (ended.multis multi).requests ∧ transfer.removal ≠ .ok ()
      · obtain ⟨inside, refused⟩ := stuck
        cases removal : transfer.removal with
        | ok value => exact absurd removal refused
        | error refusal =>
          have whole : Raises (transferBody multi easy transfer) begun refusal (ended.setMulti multi
              { ended.multis multi with requests := (ended.multis multi).requests.erase easy }) := by
            rw [Raises, rest]
            refine bind_raises_iff.mpr (Or.inr ⟨_, _, ends, ?_⟩)
            rw [removal]
            exact removeOwn_refused inv' inside
          rw [whole.succeeds_eq, whole.finalState_eq, Bool.not_false,
            putAway_stuck_iff autoclose inv' inside]
          refine forall_congr' fun owner => ?_
          rw [same owner]
          simp
      · have lets (inside : easy ∈ (ended.multis multi).requests) : transfer.removal = .ok () := by
          by_contra refused
          exact stuck ⟨inside, refused⟩
        obtain ⟨removed, removes, inv'', members⟩ := removeOwn_returns inv' lets
        have whole : Returns (transferBody multi easy transfer) begun () removed := by
          rw [Returns, rest]
          exact bind_returns_iff.mpr ⟨_, _, ends, removes⟩
        rw [whole.succeeds_eq, whole.finalState_eq, Bool.not_true,
          putAway_removed_iff autoclose inv'' members lets]
        refine forall_congr' fun owner => ?_
        rw [same owner]
        simp

theorem performTransfer_none_iff (transfer : Transfer) (state : PerformState) (inv : Inv state.system)
    (together : transfer.KeepsTables (transfer.chosen easy state.system) easy
      (transfer.begun easy state.system)) :
    NoTransferLeft easy (finalState (performTransfer easy transfer) state).system ↔
      ∀ owner, easy ∈ ((transfer.left (transfer.chosen easy state.system) easy
        (transfer.begun easy state.system)).multis owner).requests →
          transfer.TakesOff (createsMulti easy state.system) (transfer.chosen easy state.system) easy
            (transfer.begun easy state.system) owner := by
  have first : Returns (onAttachment (when (createsMulti easy state.system)
      (easyMultiSet easy (some (transfer.chosen easy state.system)) (.ok ())))) state ()
        { state with system := transfer.begun easy state.system } :=
    zoom_returns_iff.mpr ⟨_, begun_returns transfer state.system, rfl⟩
  have final : finalState (performTransfer easy transfer) state =
      finalState (putAway (createsMulti easy state.system) (transfer.chosen easy state.system) easy
        transfer (!succeeds (transferBody (transfer.chosen easy state.system) easy transfer)
          (transfer.begun easy state.system)))
            ⟨finalState (transferBody (transfer.chosen easy state.system) easy transfer)
              (transfer.begun easy state.system), state.deferredMultiCloses⟩ := by
    show finalState (onAttachment (when _ _) >>= fun _ => _) state = _
    rw [first.finalState_bind]
    refine finalState_bind_of_keeps (P := fun after => after = _) ?_ fun _ => ?_
    · rw [finalState_ensuringWith, onAttachment, finalState_zoom, succeeds_zoom]
    · intro after same
      rw [onAttachment, finalState_zoom]
      cases transfer.result with
      | ok value => exact same
      | error error => exact same
  rw [final]
  exact putAway_none_iff (inv_begun transfer inv) together state.deferredMultiCloses

/-- A call of `Easy#perform` leaves the handle in no multi, so that the next sets it up anew, exactly
when it takes it off every multi that has it when the loop is left. -/
theorem perform_none_iff (transfer : Transfer) (state : PerformState)
    (applied : transfer.applySafety = .ok ())
    (inv : Inv (finalState (flushDeferredMultiCloses transfer.closing) state).system)
    (together : transfer.KeepsTables
      (transfer.chosen easy (finalState (flushDeferredMultiCloses transfer.closing) state).system) easy
      (transfer.begun easy (finalState (flushDeferredMultiCloses transfer.closing) state).system)) :
    let flushed := (finalState (flushDeferredMultiCloses transfer.closing) state).system
    let multi := transfer.chosen easy flushed
    let begun := transfer.begun easy flushed
    let after := (finalState (perform easy transfer) state).system
    NoTransferLeft easy after ∧ SetsUpAnew easy after ↔
      ∀ owner, easy ∈ ((transfer.left multi easy begun).multis owner).requests →
        transfer.TakesOff (createsMulti easy flushed) multi easy begun owner := by
  have checks : Returns (onAttachment (checkReply transfer.applySafety)) state () state := by
    rw [applied]
    rfl
  have never : RaisesOnly (fun _ => False) (flushDeferredMultiCloses transfer.closing) := by
    refine raisesOnly_bind raisesOnly_get fun state => raisesOnly_bind raisesOnly_modify fun _ => ?_
    refine raisesOnly_forM fun entry _ => raisesOnly_bind ?_ fun released => ?_
    · exact raisesOnly_zoom (raisesOnly_tryCatch fun _ => raisesOnly_pure)
    · split
      · exact raisesOnly_pure
      · exact raisesOnly_modify
  have flushes := returns_of_raisesOnly never state
  have final : finalState (perform easy transfer) state =
      finalState (performTransfer easy transfer)
        (finalState (flushDeferredMultiCloses transfer.closing) state) := by
    show finalState (onAttachment (checkReply transfer.applySafety) >>= fun _ => _) state = _
    rw [checks.finalState_bind, flushes.finalState_bind]
  intro flushed multi begun after
  rw [and_iff_left_of_imp NoTransferLeft.setsUpAnew]
  show NoTransferLeft easy (finalState (perform easy transfer) state).system ↔ _
  rw [final]
  exact performTransfer_none_iff transfer _ inv together

/-- A transfer that nothing goes wrong with; `during` is what happens in its loop. -/
def Transfer.plain (newMulti : ObjectId) (during : List Operation) : Transfer where
  newMulti := newMulti
  autoclose := false
  applySafety := .ok ()
  safety := .ok ()
  setup := .ok ()
  reply := .ok ()
  signatures := .ok ()
  during := during
  raises := none
  deferred := false
  removal := .ok ()
  closing := fun _ => .ok ()
  result := .ok ()

/-- `Timeout.timeout` interrupts the loop. -/
def expired : RubyError := ⟨.runtimeError, "execution expired".toList⟩

/-- The first transfer of a handle is interrupted: its multi is let go. -/
theorem perform_none_first :
    let transfer := { Transfer.plain 0 [] with raises := some expired }
    let state : PerformState := ⟨fresh, []⟩
    let flushed := (finalState (flushDeferredMultiCloses transfer.closing) state).system
    let multi := transfer.chosen 1 flushed
    let begun := transfer.begun 1 flushed
    let after := (finalState (perform 1 transfer) state).system
    NoTransferLeft 1 after ∧ SetsUpAnew 1 after ↔
      ∀ owner, 1 ∈ ((transfer.left multi 1 begun).multis owner).requests →
        transfer.TakesOff (createsMulti 1 flushed) multi 1 begun owner := by
  intro transfer state
  have flushed : finalState (flushDeferredMultiCloses transfer.closing) state = state := rfl
  have inv : Inv (finalState (flushDeferredMultiCloses transfer.closing) state).system := by
    rw [flushed]
    exact inv_fresh
  exact perform_none_iff transfer state rfl inv fun _ _ => trivial

/-- A handle keeps the multi of its first transfer; the second is interrupted. The request stays,
and the third transfer goes on with what the second has set up. -/
theorem perform_kept_second :
    let first := Transfer.plain 0 [.completeBegin 0 1 false (.ok ()) (.ok ()) (.ok ()),
      .completeEnd 0 .returned]
    let second := { Transfer.plain 0 [] with raises := some expired }
    let kept := finalState (perform 1 first) ⟨fresh, []⟩
    1 ∉ (kept.system.multis 0).requests ∧
      1 ∈ ((finalState (perform 1 second) kept).system.multis 0).requests := by
  decide +kernel

end Curb.Attachment

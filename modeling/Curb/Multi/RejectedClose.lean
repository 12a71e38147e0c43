import Curb.Multi.Coherent

/-!
# A `Multi#close` that is rejected

The guard against closing an active multi is in the native close (`curb_multi.c:2308-2310`), which
`__close` (`multi.rb:475-484`) calls last: what it has undone by then stays undone. Within a callback
libcurl runs itself it refuses the first removal already, before anything has been undone.
-/

namespace Curb.Attachment
open Curb.Misc Curb.Ruby

/-- The exception of the guard. -/
def closeRejected : RubyError :=
  ⟨.runtimeError, "Cannot close an active Curl::Multi handle during perform".toList⟩

/-- The tables of every multi and the multi of every handle are as they were. -/
structure SameAttachment (before after : System) : Prop where
  requests : ∀ multi, (after.multis multi).requests = (before.multis multi).requests
  attached : ∀ multi, (after.multis multi).attached = (before.multis multi).attached
  active : ∀ multi, (after.multis multi).active = (before.multis multi).active
  held : ∀ multi, (after.multis multi).held = (before.multis multi).held
  idle : ∀ multi, (after.multis multi).idleEasyReferences = (before.multis multi).idleEasyReferences
  multi : ∀ easy, (after.easies easy).multi = (before.easies easy).multi

theorem SameAttachment.refl (system : System) : SameAttachment system system :=
  ⟨fun _ => rfl, fun _ => rfl, fun _ => rfl, fun _ => rfl, fun _ => rfl, fun _ => rfl⟩

/-! ## What the steps before the guard raise -/

variable {P : RubyError → Prop}

theorem raisesOnly_checkReply {reply : Reply}
    (answer : ∀ error, reply = .error error → P error) :
    RaisesOnly P (checkReply reply) := by
  cases reply with
  | ok value => exact raisesOnly_pure
  | error error => exact raisesOnly_throw (answer error rfl)

theorem raisesOnly_multiRemoveNative {multi easy : ObjectId} {reply : Reply}
    (answer : ∀ error, reply = .error error → P error) :
    RaisesOnly P (multiRemoveNative multi easy reply) :=
  raisesOnly_bind (raisesOnly_checkReply answer) fun _ =>
    raisesOnly_bind raisesOnly_modify fun _ => raisesOnly_bind raisesOnly_modify fun _ =>
      raisesOnly_bind raisesOnly_modify fun _ => raisesOnly_modify

theorem raisesOnly_remove {multi easy : ObjectId} {reply : Reply}
    (answer : ∀ error, reply = .error error → P error) :
    RaisesOnly P (remove multi easy reply) := by
  refine raisesOnly_bind raisesOnly_get fun system => ?_
  split
  · exact raisesOnly_bind raisesOnly_modify fun _ => raisesOnly_multiRemoveNative answer
  · exact raisesOnly_pure

theorem raisesOnly_detachEasy {multi easy : ObjectId} {reply : Reply}
    (answer : ∀ error, reply = .error error → P error) :
    RaisesOnly P (detachEasy multi easy reply) := by
  refine raisesOnly_bind raisesOnly_get fun system => ?_
  split
  · exact raisesOnly_bind raisesOnly_modify fun _ =>
      raisesOnly_bind (raisesOnly_checkReply answer) fun _ =>
        raisesOnly_bind raisesOnly_modify fun _ => raisesOnly_modify
  · exact raisesOnly_pure

theorem raisesOnly_easyMultiSetNative {easy : ObjectId} {target : Option ObjectId} {reply : Reply}
    (answer : ∀ error, reply = .error error → P error) :
    RaisesOnly P (easyMultiSetNative easy target reply) := by
  refine raisesOnly_bind raisesOnly_get fun system => ?_
  split
  · exact raisesOnly_pure
  · refine raisesOnly_bind ?_ fun _ => raisesOnly_modify
    cases (system.easies easy).multi with
    | none => exact raisesOnly_pure
    | some owner => exact raisesOnly_detachEasy answer

theorem raisesOnly_easyMultiSet {easy : ObjectId} {target : Option ObjectId} {reply : Reply}
    (answer : ∀ error, reply = .error error → P error) :
    RaisesOnly P (easyMultiSet easy target reply) := by
  refine raisesOnly_bind raisesOnly_get fun system => ?_
  show RaisesOnly P (ite ((system.easies easy).multi = target) _ _)
  split
  · exact raisesOnly_pure
  · refine raisesOnly_bind ?_ fun _ => raisesOnly_bind (raisesOnly_easyMultiSetNative answer)
      fun _ => raisesOnly_bind ?_ fun _ => ?_
    · cases (system.easies easy).multi with
      | none => exact raisesOnly_pure
      | some owner => exact raisesOnly_remove answer
    · cases (system.easies easy).multi with
      | none => exact raisesOnly_pure
      | some owner => exact raisesOnly_modify
    · cases target with
      | none => exact raisesOnly_pure
      | some owner => exact raisesOnly_modify

/-! ## The guard -/

theorem detachAll_not_raises (multi : ObjectId) : RaisesOnly (fun _ => False) (detachAll multi) := by
  refine raisesOnly_bind raisesOnly_get fun system => raisesOnly_bind raisesOnly_modify fun _ =>
    raisesOnly_bind (raisesOnly_forM fun easy _ => ?_) fun _ => raisesOnly_modify
  exact raisesOnly_bind raisesOnly_modify fun _ => raisesOnly_modify

theorem detachAll_attached (system : System) (multi : ObjectId) :
    ((finalState (detachAll multi) system).multis multi).attached = [] := by
  have first : ((system.setMulti multi { system.multis multi with
      attached := [] }).multis multi).attached = [] := by
    rw [System.setMulti_self]
  have rest : Keeps (fun state : System => (state.multis multi).attached = []) (do
      (system.multis multi).attached.forM (detachEasyEntry multi)
      modifyMulti multi fun state => { state with active := 0 }) := by
    refine keeps_bind (keeps_forM fun easy _ => ?_) fun _ => keeps_modify fun state before => ?_
    · refine keeps_bind (keeps_modify fun state before => ?_) fun _ => fun state before => before
      rw [System.setMulti_self]
      exact before
    · rw [System.setMulti_self]
      exact before
  exact rest _ first

/-- A native close that is not rejected leaves nothing on the native table. -/
theorem multiCloseNative_attached {multi : ObjectId} {system after : System}
    (closes : Returns (multiCloseNative multi) system () after) : (after.multis multi).attached = [] := by
  change Returns (ite _ _ _ : SystemM Unit) system () after at closes
  split at closes
  · exact absurd closes returns_throw_iff
  · obtain ⟨_, detached, detaches, ends⟩ := bind_returns_iff.mp closes
    have empty := detachAll_attached system multi
    rw [detaches.finalState_eq] at empty
    rw [returns_modify_iff.mp ends, System.setMulti_self]
    exact empty

/-- The native close raises at its guard, before it has changed anything. -/
theorem multiCloseNative_raises {multi : ObjectId} {system after : System} {error : RubyError}
    (raises : Raises (multiCloseNative multi) system error after) : after = system := by
  change (ite _ _ _ : SystemM Unit) system = _ at raises
  split at raises
  · exact (raises_throw_iff.mp raises).2
  · have closes : RaisesOnly (fun _ => False) (do
        detachAll multi
        modifyMulti multi fun state => { state with
          handle := false
          held := []
          active := 0
          deferredException := false }) :=
      raisesOnly_bind (detachAll_not_raises multi) fun _ => raisesOnly_modify
    exact (closes system error after raises).elim

/-! ## What the steps before the guard undo -/

/-- Nothing has been added to a table, and no handle points to a multi it did not point to. -/
structure Fewer (before after : System) : Prop where
  requests : ∀ multi, List.Sublist (after.multis multi).requests (before.multis multi).requests
  attached : ∀ multi, List.Sublist (after.multis multi).attached (before.multis multi).attached
  active : ∀ multi, (after.multis multi).active ≤ (before.multis multi).active
  held : ∀ multi, List.Sublist (after.multis multi).held (before.multis multi).held
  idle : ∀ multi, List.Sublist (after.multis multi).idleEasyReferences
    (before.multis multi).idleEasyReferences
  multi : ∀ easy, (after.easies easy).multi = none ∨
    (after.easies easy).multi = (before.easies easy).multi

namespace Fewer

variable {first second third : System}

theorem refl (system : System) : Fewer system system :=
  ⟨fun _ => .refl _, fun _ => .refl _, fun _ => le_rfl, fun _ => .refl _, fun _ => .refl _,
    fun _ => Or.inr rfl⟩

theorem trans (before : Fewer first second) (after : Fewer second third) : Fewer first third where
  requests multi := (after.requests multi).trans (before.requests multi)
  attached multi := (after.attached multi).trans (before.attached multi)
  active multi := (after.active multi).trans (before.active multi)
  held multi := (after.held multi).trans (before.held multi)
  idle multi := (after.idle multi).trans (before.idle multi)
  multi easy := by
    rcases after.multi easy with gone | same
    · exact Or.inl gone
    · rw [same]
      exact before.multi easy

/-- What is the same at the end was the same all along. -/
theorem squeeze (before : Fewer first second) (after : Fewer second third)
    (same : SameAttachment first third) : SameAttachment second third where
  requests multi := by
    refine ((after.requests multi).antisymm ?_)
    rw [same.requests multi]
    exact before.requests multi
  attached multi := by
    refine ((after.attached multi).antisymm ?_)
    rw [same.attached multi]
    exact before.attached multi
  active multi := by
    have enough := before.active multi
    rw [← same.active multi] at enough
    exact Nat.le_antisymm (after.active multi) enough
  held multi := by
    refine ((after.held multi).antisymm ?_)
    rw [same.held multi]
    exact before.held multi
  idle multi := by
    refine ((after.idle multi).antisymm ?_)
    rw [same.idle multi]
    exact before.idle multi
  multi easy := by
    rcases before.multi easy with gone | kept
    · rcases after.multi easy with gone' | kept'
      · rw [gone, gone']
      · exact kept'
    · rw [same.multi easy, kept]

end Fewer

theorem SameAttachment.symm {before after : System} (same : SameAttachment before after) :
    SameAttachment after before where
  requests multi := (same.requests multi).symm
  attached multi := (same.attached multi).symm
  active multi := (same.active multi).symm
  held multi := (same.held multi).symm
  idle multi := (same.idle multi).symm
  multi easy := (same.multi easy).symm

theorem SameAttachment.trans {first second third : System} (before : SameAttachment first second)
    (after : SameAttachment second third) : SameAttachment first third where
  requests multi := (after.requests multi).trans (before.requests multi)
  attached multi := (after.attached multi).trans (before.attached multi)
  active multi := (after.active multi).trans (before.active multi)
  held multi := (after.held multi).trans (before.held multi)
  idle multi := (after.idle multi).trans (before.idle multi)
  multi easy := (after.multi easy).trans (before.multi easy)

variable {start : System}

/-- A step that only takes something away. -/
theorem keeps_fewer_modify {f : System → System} (takes : ∀ system, Fewer system (f system)) :
    Keeps (Fewer start) (modify f : SystemM Unit) :=
  keeps_modify fun system before => before.trans (takes system)

theorem fewer_setMulti {system : System} {multi : ObjectId} {state : Multi}
    (requests : List.Sublist state.requests (system.multis multi).requests)
    (attached : List.Sublist state.attached (system.multis multi).attached)
    (active : state.active ≤ (system.multis multi).active)
    (held : List.Sublist state.held (system.multis multi).held)
    (idle : List.Sublist state.idleEasyReferences (system.multis multi).idleEasyReferences) :
    Fewer system (system.setMulti multi state) := by
  have here (owner : ObjectId) : (system.setMulti multi state).multis owner = state ∧ owner = multi ∨
      (system.setMulti multi state).multis owner = system.multis owner := by
    by_cases isMulti : owner = multi
    · rw [isMulti, System.setMulti_self]
      exact Or.inl ⟨rfl, rfl⟩
    · exact Or.inr (System.setMulti_of_ne _ _ isMulti)
  refine ⟨fun owner => ?_, fun owner => ?_, fun owner => ?_, fun owner => ?_, fun owner => ?_,
    fun _ => Or.inr rfl⟩ <;> rcases here owner with ⟨same, rfl⟩ | same <;> rw [same]
  · exact requests
  · exact attached
  · exact active
  · exact held
  · exact idle

/-- A handle points nowhere, or where it did. -/
theorem fewer_setEasy {system : System} {easy : ObjectId} {state : Easy}
    (pointer : state.multi = none ∨ state.multi = (system.easies easy).multi) :
    Fewer system (system.setEasy easy state) := by
  refine ⟨fun _ => .refl _, fun _ => .refl _, fun _ => le_rfl, fun _ => .refl _, fun _ => .refl _,
    fun other => ?_⟩
  by_cases isEasy : other = easy
  · rw [isEasy, System.setEasy_self]
    exact pointer
  · exact Or.inr (by rw [System.setEasy_of_ne _ _ isEasy])

theorem keeps_fewer_checkReply {reply : Reply} : Keeps (Fewer start) (checkReply reply) := by
  cases reply with
  | ok value => exact keeps_pure
  | error error => exact keeps_throw

theorem keeps_fewer_curlMultiRemoveHandle {multi easy : ObjectId} :
    Keeps (Fewer start) (curlMultiRemoveHandle multi easy) :=
  keeps_fewer_modify fun _ =>
    fewer_setMulti (.refl _) (.refl _) le_rfl List.erase_sublist (.refl _)

theorem keeps_fewer_lessActive {multi : ObjectId} : Keeps (Fewer start)
    (modifyMulti multi fun state => { state with active := state.active - 1 }) :=
  keeps_fewer_modify fun _ =>
    fewer_setMulti (.refl _) (.refl _) (Nat.sub_le _ _) (.refl _) (.refl _)

theorem keeps_fewer_forgetEasy {multi easy : ObjectId} :
    Keeps (Fewer start) (forgetEasy multi easy) :=
  keeps_fewer_modify fun _ =>
    fewer_setMulti (.refl _) List.erase_sublist le_rfl (.refl _) (.refl _)

theorem keeps_fewer_unregisterIdle {multi : Option ObjectId} {easy : ObjectId} :
    Keeps (Fewer start) (unregisterIdle multi easy) := by
  cases multi with
  | none => exact keeps_pure
  | some owner =>
    exact keeps_fewer_modify fun _ =>
      fewer_setMulti (.refl _) (.refl _) le_rfl (.refl _) List.erase_sublist

theorem keeps_fewer_pointNowhere {easy : ObjectId} :
    Keeps (Fewer start) (modifyEasy easy fun state => { state with multi := none }) :=
  keeps_fewer_modify fun _ => fewer_setEasy (Or.inl rfl)

theorem keeps_fewer_multiRemoveNative {multi easy : ObjectId} {reply : Reply} :
    Keeps (Fewer start) (multiRemoveNative multi easy reply) :=
  keeps_bind keeps_fewer_checkReply fun _ => keeps_bind keeps_fewer_curlMultiRemoveHandle fun _ =>
    keeps_bind keeps_fewer_lessActive fun _ => keeps_bind keeps_fewer_pointNowhere fun _ =>
      keeps_fewer_forgetEasy

theorem keeps_fewer_remove {multi easy : ObjectId} {reply : Reply} :
    Keeps (Fewer start) (remove multi easy reply) := by
  refine keeps_bind keeps_get fun system => ?_
  split
  · refine keeps_bind ?_ fun _ => keeps_fewer_multiRemoveNative
    exact keeps_fewer_modify fun _ =>
      fewer_setMulti List.erase_sublist (.refl _) le_rfl (.refl _) (.refl _)
  · exact keeps_pure

theorem keeps_fewer_detachEasy {multi easy : ObjectId} {reply : Reply} :
    Keeps (Fewer start) (detachEasy multi easy reply) := by
  refine keeps_bind keeps_get fun system => ?_
  split
  · exact keeps_bind keeps_fewer_forgetEasy fun _ => keeps_bind keeps_fewer_checkReply fun _ =>
      keeps_bind keeps_fewer_curlMultiRemoveHandle fun _ => keeps_fewer_lessActive
  · exact keeps_pure

theorem keeps_fewer_easyMultiSetNative_none {easy : ObjectId} {reply : Reply} :
    Keeps (Fewer start) (easyMultiSetNative easy none reply) := by
  refine keeps_bind keeps_get fun system => ?_
  split
  · exact keeps_pure
  · refine keeps_bind ?_ fun _ => keeps_fewer_pointNowhere
    cases (system.easies easy).multi with
    | none => exact keeps_pure
    | some owner => exact keeps_fewer_detachEasy

theorem keeps_fewer_easyMultiSet_none {easy : ObjectId} {reply : Reply} :
    Keeps (Fewer start) (easyMultiSet easy none reply) := by
  refine keeps_bind keeps_get fun system => ?_
  show Keeps _ (ite ((system.easies easy).multi = none) _ _)
  split
  · exact keeps_pure
  · refine keeps_bind ?_ fun _ => keeps_bind keeps_fewer_easyMultiSetNative_none fun _ =>
      keeps_bind keeps_fewer_unregisterIdle fun _ => keeps_pure
    cases (system.easies easy).multi with
    | none => exact keeps_pure
    | some owner => exact keeps_fewer_remove

theorem keeps_fewer_clearIdle {multi easy : ObjectId} {reply : Reply} :
    Keeps (Fewer start) (clearIdle multi easy reply) := by
  refine keeps_bind keeps_get fun system => ?_
  split
  · exact keeps_fewer_easyMultiSet_none
  · exact keeps_pure

theorem keeps_fewer_clearIdleEasyReferences {multi : ObjectId} {replies : ObjectId → Reply} :
    Keeps (Fewer start) (clearIdleEasyReferences multi replies) := by
  refine keeps_bind keeps_get fun system => keeps_bind ?_ fun _ => ?_
  · exact keeps_forM fun _ _ => keeps_fewer_clearIdle
  · exact keeps_fewer_modify fun _ =>
      fewer_setMulti (.refl _) (.refl _) le_rfl (.refl _) (List.nil_sublist _)

/-! ## Where libcurl refuses a removal -/

/-- The multi holds nothing of the handle any more. -/
structure Detached (system : System) (multi easy : ObjectId) : Prop where
  pointer : (system.easies easy).multi = none
  attached : easy ∉ (system.multis multi).attached
  held : system.curlOf easy ∉ (system.multis multi).held
  active : (system.multis multi).active = 0

theorem removed_of_detached {system : System} {multi easy : ObjectId}
    (detached : Detached system multi easy) : system.removed multi easy = system := by
  have easy_same : { system.easies easy with multi := none } = system.easies easy := by
    rw [← detached.pointer]
  have multi_same : { system.multis multi with
      held := (system.multis multi).held.erase (system.curlOf easy)
      active := (system.multis multi).active - 1
      attached := (system.multis multi).attached.erase easy } = system.multis multi := by
    rw [List.erase_of_not_mem detached.held, List.erase_of_not_mem detached.attached,
      show (system.multis multi).active - 1 = (system.multis multi).active by rw [detached.active]]
  rw [System.removed, multi_same, easy_same, System.setMulti_same, System.setEasy_same]

theorem detached_of_same {system : System} {multi easy : ObjectId}
    (same : SameAttachment system (system.removed multi easy)) : Detached system multi easy := by
  have attached := same.attached multi
  have held := same.held multi
  have active := same.active multi
  have pointer := same.multi easy
  simp only [System.removed, System.setEasy_multis, System.setMulti_self] at attached held active
  rw [System.removed, System.setEasy_self] at pointer
  exact ⟨pointer.symm, List.erase_eq_self_iff.mp attached, List.erase_eq_self_iff.mp held, by omega⟩

/-- The removals, in the order of the requests. -/
def removals (multi : ObjectId) (replies : ObjectId → Reply) (easies : List ObjectId) : SystemM Unit :=
  easies.forM fun easy => multiRemoveNative multi easy (replies easy)

theorem multiRemoveNative_returns {multi easy : ObjectId} {reply : Reply} {system after : System}
    (returns : Returns (multiRemoveNative multi easy reply) system () after) :
    reply = .ok () ∧ after = system.removed multi easy := by
  cases reply with
  | ok value => exact ⟨rfl, ((multiRemoveNative_ok system multi easy).unique returns).2⟩
  | error error => exact absurd (multiRemoveNative_error system multi easy error) returns.not_raises

theorem multiRemoveNative_raises {multi easy : ObjectId} {reply : Reply} {system after : System}
    {error : RubyError} (raises : Raises (multiRemoveNative multi easy reply) system error after) :
    reply = .error error ∧ after = system := by
  cases reply with
  | ok value => exact absurd raises (multiRemoveNative_ok system multi easy).not_raises
  | error refusal =>
    obtain ⟨rfl, rfl⟩ := (multiRemoveNative_error system multi easy refusal).unique raises
    exact ⟨rfl, rfl⟩

theorem removals_not_raises {multi : ObjectId} {replies : ObjectId → Reply} {easies : List ObjectId}
    (granted : ∀ easy ∈ easies, replies easy = .ok ()) :
    RaisesOnly (fun _ => False) (removals multi replies easies) := by
  refine raisesOnly_forM fun easy mem system error after raises => ?_
  rw [granted easy mem] at raises
  exact absurd raises (multiRemoveNative_ok system multi easy).not_raises

/-- Removals that libcurl grants change nothing where the handles were detached already. -/
theorem removals_same_iff {multi : ObjectId} {replies : ObjectId → Reply} {easies : List ObjectId}
    {system after : System} (returns : Returns (removals multi replies easies) system () after) :
    (∀ easy ∈ easies, replies easy = .ok ()) ∧
      (SameAttachment system after ↔ ∀ easy ∈ easies, Detached system multi easy) := by
  induction easies generalizing system with
  | nil =>
    refine ⟨fun easy mem => absurd mem List.not_mem_nil,
      fun _ easy mem => absurd mem List.not_mem_nil, fun _ => ?_⟩
    rw [← (returns_pure_iff.mp returns).2]
    exact .refl system
  | cons first rest ih =>
    obtain ⟨_, middle, head, tail⟩ := bind_returns_iff.mp returns
    obtain ⟨granted, rfl⟩ := multiRemoveNative_returns head
    obtain ⟨granted', same_iff⟩ := ih tail
    refine ⟨List.forall_mem_cons.mpr ⟨granted, granted'⟩, ?_⟩
    rw [List.forall_mem_cons]
    have takes : Fewer system (system.removed multi first) :=
      keeps_fewer_multiRemoveNative.of_returns (multiRemoveNative_ok system multi first) (.refl system)
    have takes' : Fewer (system.removed multi first) after :=
      (keeps_forM fun _ _ => keeps_fewer_multiRemoveNative).of_returns tail (.refl _)
    constructor
    · intro same
      have late := takes.squeeze takes' same
      have detached := detached_of_same (same.trans late.symm)
      rw [removed_of_detached detached] at same_iff
      exact ⟨detached, same_iff.mp same⟩
    · rintro ⟨detached, others⟩
      rw [removed_of_detached detached] at same_iff
      exact same_iff.mpr others

/-- libcurl refuses to let a request go, and the handles it has let go before were detached. -/
def RefusedFirst (system : System) (multi : ObjectId) (replies : ObjectId → Reply) : Prop :=
  ∃ before easy rest error, (system.multis multi).requests = before ++ easy :: rest ∧
    (∀ other ∈ before, Detached system multi other ∧ replies other = .ok ()) ∧
    replies easy = .error error

theorem removals_refused {system : System} {multi : ObjectId} {replies : ObjectId → Reply}
    (refused : RefusedFirst system multi replies) : ∃ error,
      Raises (removals multi replies (system.multis multi).requests) system error system := by
  obtain ⟨before, easy, rest, error, requests, detached, refusal⟩ := refused
  have passed : Returns (removals multi replies before) system () system := by
    clear requests
    induction before with
    | nil => rfl
    | cons first others ih =>
      obtain ⟨⟨nowhere, granted⟩, detached'⟩ := List.forall_mem_cons.mp detached
      refine bind_returns_iff.mpr ⟨(), system, ?_, ih detached'⟩
      show Returns (multiRemoveNative multi first (replies first)) system () system
      rw [granted]
      have returns := multiRemoveNative_ok system multi first
      rwa [removed_of_detached nowhere] at returns
  refine ⟨error, ?_⟩
  rw [requests]
  refine forM_raises_iff.mpr ⟨before, easy, rest, system, rfl, passed, ?_⟩
  rw [refusal]
  exact multiRemoveNative_error system multi easy error

/-- A removal that raises has changed nothing, those before it may have. -/
theorem removals_raise_same_iff {system after : System} {multi : ObjectId}
    {replies : ObjectId → Reply} {error : RubyError}
    (raises : Raises (removals multi replies (system.multis multi).requests) system error after) :
    SameAttachment system after ↔ RefusedFirst system multi replies := by
  constructor
  · intro same
    obtain ⟨before, easy, rest, middle, requests, passed, stops⟩ := forM_raises_iff.mp raises
    obtain ⟨refusal, rfl⟩ := multiRemoveNative_raises stops
    obtain ⟨granted, same_iff⟩ := removals_same_iff passed
    have detached := same_iff.mp same
    exact ⟨before, easy, rest, error, requests,
      fun other mem => ⟨detached other mem, granted other mem⟩, refusal⟩
  · intro refused
    obtain ⟨refusal, stops⟩ := removals_refused refused
    rw [(stops.unique raises).2]
    exact .refl system

/-! ## Where an idle reference is not let go -/

/-- `Multi#remove` deletes the request before libcurl is asked. -/
theorem remove_raises_changed {multi easy : ObjectId} {reply : Reply} {system after : System}
    {error : RubyError} (raises : Raises (remove multi easy reply) system error after) :
    ¬SameAttachment system after := by
  intro same
  have requests := same.requests multi
  change Raises (ite _ _ _ : SystemM Unit) system error after at raises
  split at raises
  · rename_i mem
    rcases bind_raises_iff.mp raises with early | ⟨_, deleted, deletes, late⟩
    · exact absurd early raises_modify_iff
    · rw [returns_modify_iff.mp deletes] at late
      rw [(multiRemoveNative_raises late).2, System.setMulti_self] at requests
      exact List.erase_eq_self_iff.mp requests mem
  · exact raises_pure_iff raises

/-- `rb_curl_multi_detach_easy` forgets the handle before libcurl is asked. -/
theorem detachEasy_raises_changed {multi easy : ObjectId} {reply : Reply} {system after : System}
    {error : RubyError} (raises : Raises (detachEasy multi easy reply) system error after) :
    ¬SameAttachment system after := by
  intro same
  have attached := same.attached multi
  change Raises (ite _ _ _ : SystemM Unit) system error after at raises
  split at raises
  · rename_i mem
    rcases bind_raises_iff.mp raises with early | ⟨_, forgotten, forgets, late⟩
    · exact absurd early raises_modify_iff
    · rw [returns_modify_iff.mp forgets] at late
      cases reply with
      | ok value => exact absurd late (fun late => nomatch late)
      | error refusal =>
        rcases bind_raises_iff.mp late with refused | ⟨_, _, granted, _⟩
        · rw [(raises_throw_iff.mp refused).2, System.setMulti_self] at attached
          exact List.erase_eq_self_iff.mp attached mem
        · exact absurd granted returns_throw_iff
  · exact raises_pure_iff raises

theorem easyMultiSetNative_none_raises_changed {easy : ObjectId} {reply : Reply}
    {system after : System} {error : RubyError}
    (raises : Raises (easyMultiSetNative easy none reply) system error after) :
    ¬SameAttachment system after := by
  change Raises (ite _ _ _ : SystemM Unit) system error after at raises
  split at raises
  · exact absurd raises raises_pure_iff
  · rcases bind_raises_iff.mp raises with early | ⟨_, _, _, never⟩
    · cases pointer : (system.easies easy).multi with
      | none =>
        rw [pointer] at early
        exact absurd early raises_pure_iff
      | some owner =>
        rw [pointer] at early
        exact detachEasy_raises_changed early
    · exact absurd never raises_modify_iff

theorem easyMultiSet_none_raises_changed {easy : ObjectId} {reply : Reply} {system after : System}
    {error : RubyError} (raises : Raises (easyMultiSet easy none reply) system error after) :
    ¬SameAttachment system after := by
  cases pointer : (system.easies easy).multi with
  | none =>
    have returns : Returns (easyMultiSet easy none reply) system () system := by
      show (ite _ _ _ : SystemM Unit) system = _
      rw [if_pos pointer]
      rfl
    exact absurd raises returns.not_raises
  | some owner =>
    have unfolded : easyMultiSet easy none reply system = (do
        remove owner easy reply
        easyMultiSetNative easy none reply
        unregisterIdle (some owner) easy : SystemM Unit) system := by
      show (ite _ _ _ : SystemM Unit) system = _
      rw [if_neg (by rw [pointer]; exact Option.some_ne_none owner), pointer]
      rfl
    rw [Raises, unfolded] at raises
    rcases bind_raises_iff.mp raises with early | ⟨_, middle, removes, late⟩
    · exact remove_raises_changed early
    rcases bind_raises_iff.mp late with native | ⟨_, _, _, never⟩
    · intro same
      have takes : Fewer system middle := keeps_fewer_remove.of_returns removes (.refl system)
      have takes' : Fewer middle after :=
        keeps_fewer_easyMultiSetNative_none.of_raises native (.refl middle)
      exact easyMultiSetNative_none_raises_changed native (takes.squeeze takes' same)
    · exact absurd never raises_modify_iff

theorem clearIdle_raises_changed {multi easy : ObjectId} {reply : Reply} {system after : System}
    {error : RubyError} (raises : Raises (clearIdle multi easy reply) system error after) :
    ¬SameAttachment system after := by
  change Raises (ite _ _ _ : SystemM Unit) system error after at raises
  split at raises
  · exact easyMultiSet_none_raises_changed raises
  · exact absurd raises raises_pure_iff

theorem clearIdleEasyReferences_raises_changed {multi : ObjectId} {replies : ObjectId → Reply}
    {system after : System} {error : RubyError}
    (raises : Raises (clearIdleEasyReferences multi replies) system error after) :
    ¬SameAttachment system after := by
  intro same
  change Raises (_ >>= fun _ => modifyMulti multi _ : SystemM Unit) system error after at raises
  rcases bind_raises_iff.mp raises with early | ⟨_, _, _, never⟩
  · obtain ⟨before, easy, rest, middle, -, passed, stops⟩ := forM_raises_iff.mp early
    have takes : Fewer system middle :=
      (keeps_forM fun _ _ => keeps_fewer_clearIdle).of_returns passed (.refl system)
    have takes' : Fewer middle after := keeps_fewer_clearIdle.of_raises stops (.refl middle)
    exact clearIdle_raises_changed stops (takes.squeeze takes' same)
  · exact absurd never raises_modify_iff

theorem clearIdleEasyReferences_idle {multi : ObjectId} {replies : ObjectId → Reply}
    {system after : System} (clears : Returns (clearIdleEasyReferences multi replies) system () after) :
    (after.multis multi).idleEasyReferences = [] := by
  change Returns (_ >>= fun _ => modifyMulti multi _ : SystemM Unit) system () after at clears
  obtain ⟨_, middle, _, empties⟩ := bind_returns_iff.mp clears
  rw [returns_modify_iff.mp empties, System.setMulti_self]

theorem clearIdleEasyReferences_nil {multi : ObjectId} {replies : ObjectId → Reply} {system : System}
    (idle : (system.multis multi).idleEasyReferences = []) :
    Returns (clearIdleEasyReferences multi replies) system () system := by
  change ((system.multis multi).idleEasyReferences.forM _ >>= fun _ => _ : SystemM Unit) system = _
  rw [idle]
  show EStateM.Result.ok () (system.setMulti multi _) = _
  rw [← idle, System.setMulti_same]

/-! ## The whole call -/

/-- Where a `Multi#close` raises: at a removal, at an idle reference, or at the guard, when the
requests and the idle references are gone. -/
theorem close_raises_cases {multi : ObjectId} {replies : ObjectId → Reply} {system after : System}
    {error : RubyError} (raises : Raises (close true multi replies) system error after) :
    Raises (removals multi replies (system.multis multi).requests) system error after ∨
    ∃ drained, Returns (removals multi replies (system.multis multi).requests) system () drained ∧
      (Raises (clearIdleEasyReferences multi replies) drained error after ∨
        ∃ cleared, Returns (clearIdleEasyReferences multi replies) drained () cleared ∧
          after = cleared.setMulti multi { cleared.multis multi with requests := [] }) := by
  have unfolded : close true multi replies system = (do
      removals multi replies (system.multis multi).requests
      clearIdleEasyReferences multi replies
      modifyMulti multi fun state => { state with requests := [] }
      multiCloseNative multi
      modifyMulti multi fun state => { state with closed := true } : SystemM Unit) system := rfl
  rw [Raises, unfolded] at raises
  rcases bind_raises_iff.mp raises with early | ⟨_, drained, drains, raises⟩
  · exact Or.inl early
  refine Or.inr ⟨drained, drains, ?_⟩
  rcases bind_raises_iff.mp raises with early | ⟨_, cleared, clears, raises⟩
  · exact Or.inl early
  refine Or.inr ⟨cleared, clears, ?_⟩
  rcases bind_raises_iff.mp raises with early | ⟨_, emptied, empties, raises⟩
  · exact absurd early raises_modify_iff
  have same : emptied = cleared.setMulti multi { cleared.multis multi with requests := [] } :=
    returns_modify_iff.mp empties
  rcases bind_raises_iff.mp raises with guard | ⟨_, closed, _, late⟩
  · rw [multiCloseNative_raises guard, same]
  · exact absurd late raises_modify_iff

/-- A `Multi#close` that raises changes nothing exactly when the multi has no requests and no idle
references, or libcurl refuses the first removal that would change something. -/
theorem close_rejected_same_iff (system after : System) (multi : ObjectId)
    (replies : ObjectId → Reply) (error : RubyError)
    (raises : Raises (close true multi replies) system error after) :
    SameAttachment system after ↔
      (system.multis multi).requests = [] ∧ (system.multis multi).idleEasyReferences = [] ∨
        RefusedFirst system multi replies := by
  rcases close_raises_cases raises with early | ⟨drained, drains, late⟩
  · -- a removal is refused
    rw [removals_raise_same_iff early]
    refine ⟨Or.inr, fun holds => ?_⟩
    rcases holds with ⟨requests, -⟩ | refused
    · rw [requests] at early
      exact absurd early raises_pure_iff
    · exact refused
  have granted : ¬RefusedFirst system multi replies := by
    intro refused
    obtain ⟨refusal, stops⟩ := removals_refused refused
    exact drains.not_raises stops
  rw [or_iff_left granted]
  have takes : Fewer system drained :=
    (keeps_forM fun _ _ => keeps_fewer_multiRemoveNative).of_returns drains (.refl system)
  rcases late with stuck | ⟨cleared, clears, ended⟩
  · -- an idle reference is not let go, and it has been changed before
    constructor
    · intro same
      have takes' : Fewer drained after :=
        keeps_fewer_clearIdleEasyReferences.of_raises stuck (.refl drained)
      exact absurd (takes.squeeze takes' same) (clearIdleEasyReferences_raises_changed stuck)
    · rintro ⟨requests, idle⟩
      rw [requests] at drains
      rw [(returns_pure_iff.mp drains).2] at idle
      exact absurd stuck (clearIdleEasyReferences_nil idle).not_raises
  · -- the guard
    constructor
    · intro same
      have requests := same.requests multi
      have idle := same.idle multi
      rw [ended, System.setMulti_self] at requests idle
      exact ⟨requests.symm, idle.symm.trans (clearIdleEasyReferences_idle clears)⟩
    · rintro ⟨requests, idle⟩
      rw [requests] at drains
      rw [← (returns_pure_iff.mp drains).2] at clears
      rw [ended, ((clearIdleEasyReferences_nil idle).unique clears).2, ← requests,
        System.setMulti_same]
      exact .refl system

/-- The block of a `perform` closes the multi before anything has been attached. -/
theorem close_rejected_same_empty :
    SameAttachment (run [.performBegin 0] fresh)
      (finalState (close true 0 fun _ => .ok ()) (run [.performBegin 0] fresh)) := by
  have rejected : errorOf (close true 0 fun _ => .ok ()) (run [.performBegin 0] fresh) =
      some closeRejected := by decide +kernel
  have requests : ((run [.performBegin 0] fresh).multis 0).requests = [] := by decide +kernel
  have idle : ((run [.performBegin 0] fresh).multis 0).idleEasyReferences = [] := by decide +kernel
  have same_iff := close_rejected_same_iff _ _ 0 (fun _ => .ok ()) closeRejected
    (raises_finalState rejected)
  exact same_iff.mpr (Or.inl ⟨requests, idle⟩)

/-- The block of a `perform` closes the multi while a handle is attached. -/
theorem close_rejected_detaches : ∃ after,
    Raises (close true 0 fun _ => .ok ())
      (run [.add 0 1 (.ok ()) (.ok ()) (.ok ()), .performBegin 0] fresh) closeRejected after ∧
    ¬SameAttachment (run [.add 0 1 (.ok ()) (.ok ()) (.ok ()), .performBegin 0] fresh) after := by
  have rejected : errorOf (close true 0 fun _ => .ok ())
      (run [.add 0 1 (.ok ()) (.ok ()) (.ok ()), .performBegin 0] fresh) = some closeRejected := by
    decide +kernel
  refine ⟨_, raises_finalState rejected, fun unchanged => ?_⟩
  have detached : ((finalState (close true 0 fun _ => .ok ())
      (run [.add 0 1 (.ok ()) (.ok ()) (.ok ()), .performBegin 0] fresh)).multis 0).attached ≠
        ((run [.add 0 1 (.ok ()) (.ok ()) (.ok ()), .performBegin 0] fresh).multis 0).attached := by
    decide +kernel
  exact detached (unchanged.attached 0)

end Curb.Attachment

import Mathlib.Data.List.Nodup
import Curb.Multipart.Parts

/-!
# No form is lost, read too late or freed twice

What the program has to leave alone while a form is sent, and what then holds after every step.
-/

namespace Curb.Multipart
open Curb.Misc Curb.Ruby Curb.Form

variable {state after : State}

/-- The field belongs to a call in progress. -/
def State.inProgress (state : State) (field : ObjectId) : Prop :=
  ∃ id call, state.calls id = some call ∧ field ∈ call.fields

/-- The fields of a call in progress and their strings are left alone, a field with a block is given once,
a handle is not closed or freed while a call on it is in progress and not cloned while it has a form. The
collector spares what the fields mark. -/
def StepOk (state : State) : Event → Prop
  | .httpPost _ _ _ arguments =>
      let fields := Item.fields (arguments.flatMap Argument.items)
      (∀ field ∈ fields, ∀ string ∈ (state.fields field).marks, (state.strings string).isSome) ∧
        (fields.filter fun field => (state.fields field).contentProc).Nodup ∧
        ∀ field ∈ fields, (state.fields field).contentProc = true → ¬state.inProgress field
  | .procReturns _ string _ _ => (state.strings string).isSome
  | .close easy _ | .freeEasy easy => ∀ handle, state.easies easy = some handle →
      ∀ id call, state.calls id = some call → call.curl ≠ handle.curl
  | .clone easy _ _ => ∀ handle curl, state.easies easy = some handle → state.curls handle.curl = some curl →
      curl.httppost = none
  | .stringChanges string _ => ∀ field, state.inProgress field → string ∉ (state.fields field).marks
  | .fieldSet field _ => ¬state.inProgress field
  | .sweep dead => ∀ field, state.inProgress field → ∀ string ∈ (state.fields field).marks, string ∉ dead
  | _ => True

/-! ## The invariant -/

/-- The parts are those of the fields, one for each, as the fields are now. -/
def Holds (state : State) (fields : List ObjectId) (parts : List Part) : Prop :=
  List.Forall₂ (fun field part =>
    appendToForm state.strings (state.fields field) = .ok (state.fields field, part)) fields parts

/-- A call in progress. -/
structure CallOk (state : State) (call : Call) : Prop where
  curl : (state.curls call.curl).isSome
  items : call.items = call.appended.map .field ++ call.rest
  alive : ∀ field ∈ call.fields, ∀ string ∈ (state.fields field).marks, (state.strings string).isSome
  once : (call.fields.filter fun field => (state.fields field).contentProc).Nodup
  form : call.first = none ∧ call.appended = [] ∨
    ∃ first parts, call.first = some first ∧ state.forms first = some parts ∧ Holds state call.appended parts
  inProc : call.stage = .inProc → ∃ field rest, call.rest = .field field :: rest ∧
    (state.fields field).contentProc = true
  performs : call.formSetOnCurl = true → call.rest = []
  stage : call.formSetOnCurl = true ↔ call.stage = .performing

/-- Two calls do not share a form or a field with a block. -/
structure Apart (fields : ObjectId → PostField) (call other : Call) : Prop where
  forms : ∀ form, call.first = some form → other.first ≠ some form
  procs : ∀ field ∈ call.fields, field ∈ other.fields → (fields field).contentProc = false

theorem Apart.symm {fields : ObjectId → PostField} {call other : Call} (apart : Apart fields call other) :
    Apart fields other call :=
  ⟨fun form first otherFirst => apart.forms form otherFirst first,
    fun field mem otherMem => apart.procs field otherMem mem⟩

/-- Forms and handles are where the calls and the handles have them. -/
structure Sound (state : State) : Prop where
  intact : state.memoryError = false
  handles : ∀ easy handle, state.easies easy = some handle → (state.curls handle.curl).isSome
  separate : ∀ easy other handle otherHandle, state.easies easy = some handle →
    state.easies other = some otherHandle → handle.curl = otherHandle.curl → easy = other
  calls : ∀ id call, state.calls id = some call → CallOk state call
  apart : ∀ id other call otherCall, state.calls id = some call → state.calls other = some otherCall →
    id ≠ other → Apart state.fields call otherCall
  owned : ∀ form parts, state.forms form = some parts → ∃ id call, state.calls id = some call ∧
    call.first = some form
  posted : ∀ address curl form, state.curls address = some curl → curl.httppost = some form →
    ∃ id call, state.calls id = some call ∧ call.curl = address ∧ call.formSetOnCurl = true ∧
      call.first = some form

theorem sound_fresh : Sound fresh :=
  ⟨rfl, fun _ _ absent => (Option.some_ne_none _ absent.symm).elim,
    fun _ _ _ _ absent => (Option.some_ne_none _ absent.symm).elim,
    fun _ _ absent => (Option.some_ne_none _ absent.symm).elim,
    fun _ _ _ _ absent => (Option.some_ne_none _ absent.symm).elim,
    fun _ _ absent => (Option.some_ne_none _ absent.symm).elim,
    fun _ _ _ absent => (Option.some_ne_none _ absent.symm).elim⟩

/-- One call of a table is replaced by another that is apart from the rest. -/
theorem apart_update {fields : ObjectId → PostField} {calls : Nat → Option Call} {id : Nat} {call : Call}
    (apart : ∀ id other call otherCall, calls id = some call → calls other = some otherCall → id ≠ other →
      Apart fields call otherCall)
    (new : ∀ other otherCall, other ≠ id → calls other = some otherCall → Apart fields call otherCall) :
    ∀ each other eachCall otherCall, Function.update calls id (some call) each = some eachCall →
      Function.update calls id (some call) other = some otherCall → each ≠ other →
      Apart fields eachCall otherCall := by
  intro each other eachCall otherCall isEach isOther ne
  by_cases same : each = id
  · have otherNe : other ≠ id := fun sameOther => ne (same.trans sameOther.symm)
    rw [same, Function.update_self] at isEach
    rw [Function.update_of_ne otherNe] at isOther
    cases isEach
    exact new other otherCall otherNe isOther
  · rw [Function.update_of_ne same] at isEach
    by_cases sameOther : other = id
    · rw [sameOther, Function.update_self] at isOther
      cases isOther
      exact (new each eachCall same isEach).symm
    · rw [Function.update_of_ne sameOther] at isOther
      exact apart each other eachCall otherCall isEach isOther ne

/-! ## Items -/

theorem Item.fields_append (items rest : List Item) :
    Item.fields (items ++ rest) = Item.fields items ++ Item.fields rest := by
  induction items with
  | nil => rfl
  | cons item items ih =>
    cases item with
    | field field => exact congrArg (field :: ·) ih
    | other => exact ih

theorem Item.fields_map (fields : List ObjectId) : Item.fields (fields.map .field) = fields := by
  induction fields with
  | nil => rfl
  | cons field fields ih => exact congrArg (field :: ·) ih

theorem CallOk.fields {call : Call} (ok : CallOk state call) :
    call.fields = call.appended ++ Item.fields call.rest := by
  rw [Call.fields, ok.items, Item.fields_append, Item.fields_map]

theorem CallOk.of_appended {call : Call} {field : ObjectId} (ok : CallOk state call)
    (mem : field ∈ call.appended) : field ∈ call.fields := by
  rw [ok.fields]
  exact List.mem_append_left _ mem

/-- The next field of a call, which has not been appended if it has a block. -/
theorem CallOk.next {call : Call} {field : ObjectId} {rest : List Item} (ok : CallOk state call)
    (isNext : call.rest = .field field :: rest) : field ∈ call.fields ∧
      ((state.fields field).contentProc = true → field ∉ call.appended) := by
  have fields : call.fields = call.appended ++ field :: Item.fields rest := by
    rw [ok.fields, isNext]
    rfl
  rw [fields]
  refine ⟨List.mem_append_right _ List.mem_cons_self, fun proc mem => ?_⟩
  have once := ok.once
  rw [fields, List.filter_append,
    List.filter_cons_of_pos (p := fun field => (state.fields field).contentProc) proc] at once
  exact (List.disjoint_of_nodup_append once) (List.mem_filter.mpr ⟨mem, proc⟩) List.mem_cons_self

/-! ## Parts that stay -/

theorem Holds.congr {fields : List ObjectId} {parts : List Part} (holds : Holds state fields parts)
    (same : ∀ field ∈ fields, after.fields field = state.fields field ∧
      ∀ string ∈ (state.fields field).marks, state.strings string = after.strings string) :
    Holds after fields parts := by
  unfold Holds at holds ⊢
  induction holds with
  | nil => exact .nil
  | @cons field part fields parts ok _ ih =>
    obtain ⟨sameField, sameStrings⟩ := same field List.mem_cons_self
    refine .cons ?_ (ih fun other mem => same other (List.mem_cons_of_mem field mem))
    rw [sameField]
    exact appendToForm_congr ok sameStrings

/-- A field whose part is there is as its part has it. -/
theorem Holds.of_mem {fields : List ObjectId} {parts : List Part} (holds : Holds state fields parts)
    {field : ObjectId} (mem : field ∈ fields) :
    ∃ part, appendToForm state.strings (state.fields field) = .ok (state.fields field, part) := by
  unfold Holds at holds
  induction holds with
  | nil => exact absurd mem List.not_mem_nil
  | @cons _ part _ _ ok _ ih =>
    rcases List.mem_cons.mp mem with rfl | later
    · exact ⟨part, ok⟩
    · exact ih later

/-- What is at the end of the pointers of the parts is there. -/
theorem Holds.pointers {fields : List ObjectId} {parts : List Part} (holds : Holds state fields parts)
    (alive : ∀ field ∈ fields, ∀ string ∈ (state.fields field).marks, (state.strings string).isSome) :
    ∀ pointer ∈ parts.flatMap Part.pointers, state.strings.valid pointer = true := by
  unfold Holds at holds
  induction holds with
  | nil => exact fun _ mem => absurd mem List.not_mem_nil
  | @cons field part fields parts ok _ ih =>
    intro pointer mem
    rcases List.mem_append.mp (List.flatMap_cons ▸ mem) with here | later
    · obtain ⟨string, marked, rfl⟩ := appendToForm_pointers ok pointer here
      exact Strings.valid_pointer (alive field List.mem_cons_self string marked)
    · exact ih (fun other mem => alive other (List.mem_cons_of_mem field mem)) pointer later

/-! ## Changes that no call notices -/

/-- Strings that no call needs come, change and go. -/
theorem Sound.setStrings (sound : Sound state) {strings : Strings}
    (same : ∀ field, state.inProgress field → ∀ string ∈ (state.fields field).marks,
      state.strings string = strings string) : Sound { state with strings := strings } := by
  refine ⟨sound.intact, sound.handles, sound.separate, fun id call found => ?_, sound.apart, sound.owned,
    sound.posted⟩
  have ok := sound.calls id call found
  have kept (field : ObjectId) (mem : field ∈ call.fields) := same field ⟨id, call, found, mem⟩
  refine ⟨ok.curl, ok.items, fun field mem string marked => ?_, ok.once, ok.form.imp_right ?_, ok.inProc,
    ok.performs, ok.stage⟩
  · show (strings string).isSome
    rw [← kept field mem string marked]
    exact ok.alive field mem string marked
  · rintro ⟨first, parts, isFirst, isForm, holds⟩
    exact ⟨first, parts, isFirst, isForm, holds.congr fun field mem => ⟨rfl, kept field (ok.of_appended mem)⟩⟩

/-- A field is set whose part is not there yet, or as it is there. -/
theorem Sound.setField (sound : Sound state) {field : ObjectId} {value : PostField}
    (settled : ∀ id call, state.calls id = some call → field ∈ call.fields →
      value.contentProc = (state.fields field).contentProc ∧
      (∀ string ∈ value.marks, (state.strings string).isSome) ∧
      (field ∈ call.appended → value = state.fields field)) : Sound (state.setField field value) := by
  have other {id : ObjectId} (ne : id ≠ field) : (state.setField field value).fields id = state.fields id :=
    Function.update_of_ne ne _ _
  have self : (state.setField field value).fields field = value := Function.update_self _ _ _
  have proc {id : Nat} {call : Call} (found : state.calls id = some call) {each : ObjectId}
      (mem : each ∈ call.fields) :
      ((state.setField field value).fields each).contentProc = (state.fields each).contentProc := by
    by_cases same : each = field
    · rw [same, self]
      exact (settled id call found (same ▸ mem)).1
    · rw [other same]
  refine ⟨sound.intact, sound.handles, sound.separate, fun id call found => ?_,
    fun id otherId call otherCall found otherFound ne => ?_, sound.owned, sound.posted⟩
  · have ok := sound.calls id call found
    refine ⟨ok.curl, ok.items, fun each mem string marked => ?_, ?_, ok.form.imp_right ?_, fun stage => ?_,
      ok.performs, ok.stage⟩
    · by_cases same : each = field
      · rw [same, self] at marked
        exact (settled id call found (same ▸ mem)).2.1 string marked
      · rw [other same] at marked
        exact ok.alive each mem string marked
    · have sameFilter : (call.fields.filter fun each => ((state.setField field value).fields each).contentProc) =
          call.fields.filter fun each => (state.fields each).contentProc :=
        List.filter_congr fun each mem => proc found mem
      rw [sameFilter]
      exact ok.once
    · rintro ⟨first, parts, isFirst, isForm, holds⟩
      refine ⟨first, parts, isFirst, isForm, holds.congr fun each mem => ⟨?_, fun _ _ => rfl⟩⟩
      by_cases same : each = field
      · rw [same, self]
        exact (settled id call found (ok.of_appended (same ▸ mem))).2.2 (same ▸ mem)
      · exact other same
    · obtain ⟨next, rest, isNext, isProc⟩ := ok.inProc stage
      exact ⟨next, rest, isNext, (proc found (ok.next isNext).1).trans isProc⟩
  · have apart := sound.apart id otherId call otherCall found otherFound ne
    exact ⟨apart.forms, fun each mem otherMem => (proc found mem).trans (apart.procs each mem otherMem)⟩

/-- Handles and their `CURL`s come, change and go, and none of them gets a form. -/
theorem Sound.setHandles (sound : Sound state) {easies : ObjectId → Option Easy}
    {curls : Address → Option Curl}
    (handles : ∀ easy handle, easies easy = some handle → (curls handle.curl).isSome)
    (separate : ∀ easy other handle otherHandle, easies easy = some handle →
      easies other = some otherHandle → handle.curl = otherHandle.curl → easy = other)
    (called : ∀ id call, state.calls id = some call → (curls call.curl).isSome)
    (posted : ∀ address curl form, curls address = some curl → curl.httppost = some form →
      ∃ before, state.curls address = some before ∧ before.httppost = some form) :
    Sound { state with easies := easies, curls := curls } := by
  refine ⟨sound.intact, handles, separate, fun id call found => ?_, sound.apart, sound.owned,
    fun address curl form found isPosted => ?_⟩
  · have ok := sound.calls id call found
    exact ⟨called id call found, ok.items, ok.alive, ok.once, ok.form, ok.inProc, ok.performs, ok.stage⟩
  · obtain ⟨before, isBefore, wasPosted⟩ := posted address curl form found isPosted
    exact sound.posted address before form isBefore wasPosted

/-- The options of a `CURL` are set, and it gets no form. -/
theorem Sound.setCurl (sound : Sound state) {address : Address} {set : Curl → Curl}
    (there : (state.curls address).isSome)
    (noForm : ∀ curl form, (set curl).httppost = some form → curl.httppost = some form) :
    Sound (state.onCurl address set) := by
  obtain ⟨curl, found⟩ := Option.isSome_iff_exists.mp there
  have alive {other : Address} (is : (state.curls other).isSome) :
      (Function.update state.curls address (some (set curl)) other).isSome := by
    by_cases same : other = address
    · rw [same, Function.update_self]
      rfl
    · rw [Function.update_of_ne same]
      exact is
  rw [State.onCurl, found]
  refine sound.setHandles (fun easy handle is => alive (sound.handles easy handle is)) sound.separate
    (fun id call is => alive (sound.calls id call is).curl) fun other later form is posted => ?_
  by_cases same : other = address
  · rw [same, Function.update_self] at is
    cases is
    exact ⟨curl, same ▸ found, noForm curl form posted⟩
  · rw [Function.update_of_ne same] at is
    exact ⟨later, is, posted⟩

/-! ## Changes of a call -/

section Calls
variable {id : Nat} {call : Call}

/-- A call begins or goes on, with the form it has. -/
theorem Sound.setCall (sound : Sound state) (ok : CallOk state call)
    (kept : ∀ before, state.calls id = some before →
      (∀ form, before.first = some form → call.first = some form) ∧
      (before.formSetOnCurl = true → call.formSetOnCurl = true ∧ call.curl = before.curl))
    (new : ∀ other otherCall, other ≠ id → state.calls other = some otherCall →
      Apart state.fields call otherCall) :
    Sound (state.setCall id call) := by
  have self : (state.setCall id call).calls id = some call := Function.update_self _ _ _
  have other {each : Nat} (ne : each ≠ id) : (state.setCall id call).calls each = state.calls each :=
    Function.update_of_ne ne _ _
  refine ⟨sound.intact, sound.handles, sound.separate, fun each eachCall found => ?_,
    apart_update sound.apart new, fun form parts found => ?_, fun address curl form found posted => ?_⟩
  · by_cases same : each = id
    · cases Option.some.inj (self.symm.trans (same ▸ found))
      exact ⟨ok.curl, ok.items, ok.alive, ok.once, ok.form, ok.inProc, ok.performs, ok.stage⟩
    · have before := sound.calls each eachCall ((other same).symm.trans found)
      exact ⟨before.curl, before.items, before.alive, before.once, before.form, before.inProc,
        before.performs, before.stage⟩
  · obtain ⟨owner, ownerCall, isOwner, first⟩ := sound.owned form parts found
    by_cases same : owner = id
    · exact ⟨id, call, self, (kept ownerCall (same ▸ isOwner)).1 form first⟩
    · exact ⟨owner, ownerCall, (other same).trans isOwner, first⟩
  · obtain ⟨owner, ownerCall, isOwner, isCurl, set, first⟩ := sound.posted address curl form found posted
    by_cases same : owner = id
    · obtain ⟨keepsFirst, keepsCurl⟩ := kept ownerCall (same ▸ isOwner)
      obtain ⟨stillSet, sameCurl⟩ := keepsCurl set
      exact ⟨id, call, self, sameCurl.trans isCurl, stillSet, keepsFirst form first⟩
    · exact ⟨owner, ownerCall, (other same).trans isOwner, isCurl, set, first⟩

/-- A part is appended to the form of a call, which is a new one if it is the first. -/
theorem Sound.pushPart (sound : Sound state) (found : state.calls id = some call)
    (appending : call.formSetOnCurl = false) {field : ObjectId} {rest : List Item} {part : Part}
    (next : call.rest = .field field :: rest)
    (ok : appendToForm state.strings (state.fields field) = .ok (state.fields field, part))
    {form : Address} {parts : List Part}
    (place : call.first = some form ∧ state.forms form = some parts ∨
      call.first = none ∧ state.forms form = none ∧ parts = []) :
    Sound ({ state with forms := Function.update state.forms form (some (parts ++ [part])) }.setCall id
      { call with
        appended := call.appended ++ [field]
        rest := rest
        first := some form
        stage := .appending }) := by
  have before := sound.calls id call found
  -- no other call has the form
  have own (other : Nat) (otherCall : Call) (ne : other ≠ id) (isOther : state.calls other = some otherCall) :
      otherCall.first ≠ some form := by
    intro first
    rcases place with ⟨isFirst, -⟩ | ⟨-, absent, -⟩
    · exact (sound.apart other id otherCall call isOther found ne).forms form first isFirst
    · rcases (sound.calls other otherCall isOther).form with ⟨none, -⟩ | ⟨a, _, isA, there, -⟩
      · exact Option.some_ne_none form (first.symm.trans none)
      · cases isA.symm.trans first
        exact Option.some_ne_none _ (there.symm.trans absent)
  have holds : Holds state call.appended parts := by
    rcases place with ⟨isFirst, isForm⟩ | ⟨noFirst, -, rfl⟩
    · rcases before.form with ⟨none, -⟩ | ⟨a, before, isA, isBefore, holds⟩
      · exact absurd (isFirst.symm.trans none) (Option.some_ne_none form)
      · cases isA.symm.trans isFirst
        cases isBefore.symm.trans isForm
        exact holds
    · rcases before.form with ⟨-, nothing⟩ | ⟨a, _, isA, -⟩
      · rw [nothing]
        exact .nil
      · exact absurd (isA.symm.trans noFirst) (Option.some_ne_none a)
  have self : (Function.update state.forms form (some (parts ++ [part]))) form = some (parts ++ [part]) :=
    Function.update_self _ _ _
  have others {each : Address} (ne : each ≠ form) :
      (Function.update state.forms form (some (parts ++ [part]))) each = state.forms each :=
    Function.update_of_ne ne _ _
  have isCall {later : Call} {new : Call} (isLater : (state.setCall id new).calls id = some later) :
      new = later := by
    have self : (state.setCall id new).calls id = some new := Function.update_self _ _ _
    exact Option.some.inj (self.symm.trans isLater)
  have otherCalls {each : Nat} {new : Call} (ne : each ≠ id) :
      (state.setCall id new).calls each = state.calls each := Function.update_of_ne ne _ _
  refine ⟨sound.intact, sound.handles, sound.separate, fun each eachCall isEach => ?_,
    apart_update sound.apart fun other otherCall ne isOther => ?_,
    fun other otherParts isForm => ?_, fun address curl other isCurl posted => ?_⟩
  · by_cases same : each = id
    · cases isCall (same ▸ isEach)
      refine ⟨before.curl, ?_, before.alive, before.once, Or.inr ⟨form, parts ++ [part], rfl, self, ?_⟩,
        Stage.noConfusion, fun set => absurd (appending.symm.trans set) Bool.false_ne_true, ?_⟩
      · rw [before.items, next, List.map_append]
        exact (List.append_assoc _ [Item.field field] rest).symm
      · exact List.rel_append holds (.cons ok .nil)
      · rw [appending]
        exact iff_of_false Bool.false_ne_true Stage.noConfusion
    · have still := sound.calls each eachCall ((otherCalls same).symm.trans isEach)
      refine ⟨still.curl, still.items, still.alive, still.once, still.form.imp_right ?_, still.inProc,
        still.performs, still.stage⟩
      rintro ⟨first, parts, isFirst, isForm, holds⟩
      have ne : first ≠ form := by
        rintro rfl
        exact own each eachCall same ((otherCalls same).symm.trans isEach) isFirst
      exact ⟨first, parts, isFirst, (others ne).trans isForm, holds⟩
  · have apart := sound.apart id other call otherCall found isOther (Ne.symm ne)
    exact ⟨fun first isFirst => Option.some.inj isFirst ▸ own other otherCall ne isOther, apart.procs⟩
  · by_cases same : other = form
    · exact ⟨id, _, Function.update_self _ _ _, congrArg some same.symm⟩
    · obtain ⟨owner, ownerCall, isOwner, first⟩ := sound.owned other otherParts ((others same).symm.trans isForm)
      have ne : owner ≠ id := by
        rintro rfl
        cases found.symm.trans isOwner
        rcases place with ⟨isFirst, -⟩ | ⟨noFirst, -, -⟩
        · exact same (Option.some.inj (first.symm.trans isFirst))
        · exact Option.some_ne_none other (first.symm.trans noFirst)
      exact ⟨owner, ownerCall, (otherCalls ne).trans isOwner, first⟩
  · obtain ⟨owner, ownerCall, isOwner, sameCurl, set, first⟩ := sound.posted address curl other isCurl posted
    have ne : owner ≠ id := by
      rintro rfl
      cases found.symm.trans isOwner
      exact Bool.false_ne_true (appending.symm.trans set)
    exact ⟨owner, ownerCall, (otherCalls ne).trans isOwner, sameCurl, set, first⟩

/-- A call is over, and its form is freed. -/
theorem Sound.dropCall (sound : Sound state) (found : state.calls id = some call)
    (unposted : call.formSetOnCurl = true → ∀ curl, state.curls call.curl = some curl → curl.httppost = none)
    {forms : Address → Option (List Part)} {outcomes : Nat → Option (Except RubyError Unit)}
    (freed : ∀ form, call.first = some form → forms form = none)
    (kept : ∀ form, call.first ≠ some form → forms form = state.forms form) :
    Sound { state with
      forms := forms
      calls := Function.update state.calls id none
      outcomes := outcomes } := by
  have gone {later : Call} (isLater : Function.update state.calls id none id = some later) : False := by
    rw [Function.update_self] at isLater
    cases isLater
  have others {each : Nat} {later : Call} (isLater : Function.update state.calls id none each = some later) :
      each ≠ id ∧ state.calls each = some later := by
    have ne : each ≠ id := by
      rintro rfl
      exact gone isLater
    rw [Function.update_of_ne ne] at isLater
    exact ⟨ne, isLater⟩
  have stays {each : Nat} {later : Call} (ne : each ≠ id) (isLater : state.calls each = some later) :
      Function.update state.calls id none each = some later := (Function.update_of_ne ne _ _).trans isLater
  refine ⟨sound.intact, sound.handles, sound.separate, fun each later isLater => ?_,
    fun each later eachCall laterCall isEach isLater ne =>
      sound.apart each later eachCall laterCall (others isEach).2 (others isLater).2 ne,
    fun form parts isForm => ?_, fun address curl form isCurl posted => ?_⟩
  · obtain ⟨ne, was⟩ := others isLater
    have ok := sound.calls each later was
    refine ⟨ok.curl, ok.items, ok.alive, ok.once, ok.form.imp_right ?_, ok.inProc, ok.performs, ok.stage⟩
    rintro ⟨first, parts, isFirst, isForm, holds⟩
    have foreign : call.first ≠ some first := (sound.apart each id later call was found ne).forms first isFirst
    exact ⟨first, parts, isFirst, (kept first foreign).trans isForm, holds⟩
  · have foreign : call.first ≠ some form :=
      fun own => Option.some_ne_none parts (isForm.symm.trans (freed form own))
    obtain ⟨owner, ownerCall, isOwner, first⟩ := sound.owned form parts ((kept form foreign).symm.trans isForm)
    have ne : owner ≠ id := by
      rintro rfl
      cases found.symm.trans isOwner
      exact foreign first
    exact ⟨owner, ownerCall, stays ne isOwner, first⟩
  · obtain ⟨owner, ownerCall, isOwner, sameCurl, set, first⟩ := sound.posted address curl form isCurl posted
    have ne : owner ≠ id := by
      rintro rfl
      cases found.symm.trans isOwner
      exact Option.some_ne_none form (posted.symm.trans (unposted set curl (sameCurl ▸ isCurl)))
    exact ⟨owner, ownerCall, stays ne isOwner, sameCurl, set, first⟩

/-- libcurl gets the form of a call. -/
theorem Sound.perform (sound : Sound state) (found : state.calls id = some call)
    (appending : call.formSetOnCurl = false) (nothingLeft : call.rest = []) :
    Sound ((state.onCurl call.curl fun curl => { curl with
      post := false
      httppost := call.first }).setCall id { call with
        formSetOnCurl := true
        stage := .performing }) := by
  have ok := sound.calls id call found
  obtain ⟨curl, isCurl⟩ := Option.isSome_iff_exists.mp ok.curl
  rw [State.onCurl, isCurl]
  dsimp only [State.setCall]
  have isCall {later new : Call} (isLater : Function.update state.calls id (some new) id = some later) :
      new = later := by
    rw [Function.update_self] at isLater
    exact Option.some.inj isLater
  have otherCalls {each : Nat} {new : Call} (ne : each ≠ id) :
      Function.update state.calls id (some new) each = state.calls each := Function.update_of_ne ne _ _
  have alive {other : Address} {new : Curl} (there : (state.curls other).isSome) :
      (Function.update state.curls call.curl (some new) other).isSome := by
    by_cases same : other = call.curl
    · rw [same, Function.update_self]
      rfl
    · rw [Function.update_of_ne same]
      exact there
  refine ⟨sound.intact, fun easy handle isHandle => alive (sound.handles easy handle isHandle), sound.separate,
    fun each eachCall isEach => ?_, apart_update sound.apart fun other otherCall ne isOther => ?_,
    fun form parts isForm => ?_, fun address later form isLater posted => ?_⟩
  · by_cases same : each = id
    · cases isCall (same ▸ isEach)
      exact ⟨alive ok.curl, ok.items, ok.alive, ok.once, ok.form, Stage.noConfusion, fun _ => nothingLeft,
        iff_of_true rfl rfl⟩
    · have still := sound.calls each eachCall ((otherCalls same).symm.trans isEach)
      exact ⟨alive still.curl, still.items, still.alive, still.once, still.form, still.inProc, still.performs,
        still.stage⟩
  · have apart := sound.apart id other call otherCall found isOther (Ne.symm ne)
    exact ⟨apart.forms, apart.procs⟩
  · obtain ⟨owner, ownerCall, isOwner, first⟩ := sound.owned form parts isForm
    by_cases same : owner = id
    · cases found.symm.trans (same ▸ isOwner)
      exact ⟨id, _, Function.update_self _ _ _, first⟩
    · exact ⟨owner, ownerCall, (otherCalls same).trans isOwner, first⟩
  · by_cases same : address = call.curl
    · rw [same] at isLater
      dsimp only at isLater
      rw [Function.update_self] at isLater
      cases isLater
      exact ⟨id, _, Function.update_self _ _ _, same.symm, rfl, posted⟩
    · dsimp only at isLater
      rw [Function.update_of_ne same] at isLater
      obtain ⟨owner, ownerCall, isOwner, sameCurl, set, first⟩ := sound.posted address later form isLater posted
      have ne : owner ≠ id := by
        rintro rfl
        cases found.symm.trans isOwner
        exact Bool.false_ne_true (appending.symm.trans set)
      exact ⟨owner, ownerCall, (otherCalls ne).trans isOwner, sameCurl, set, first⟩

end Calls

end Curb.Multipart

import Curb.Multipart.Sound

/-!
# Runs of form calls

Every step keeps the invariant, so no run of calls, blocks, callbacks, handles and sweeps reads what is not
there any more. What libcurl is given is what the fields say.
-/

namespace Curb.Multipart
open Curb.Misc Curb.Ruby Curb.Form

variable {state after : State} {id : Nat} {call : Call}

/-! ## What the operations write -/

theorem onCurl_of {address : Address} {set : Curl → Curl} {curl : Curl}
    (there : state.curls address = some curl) : state.onCurl address set = { state with
      curls := Function.update state.curls address (some (set curl)) } := by
  rw [State.onCurl, there]

theorem onCurl_calls (state : State) (address : Address) (set : Curl → Curl) :
    (state.onCurl address set).calls = state.calls := by
  unfold State.onCurl
  split <;> rfl

theorem follow_of {pointers : List Pointer} (valid : ∀ pointer ∈ pointers, state.strings.valid pointer = true) :
    state.follow pointers = state := if_pos (List.all_eq_true.mpr valid)

/-- The strings of a field of a call are there. -/
theorem Sound.follow_marks (sound : Sound state) (found : state.calls id = some call) {field : ObjectId}
    (mem : field ∈ call.fields) :
    state.follow ((state.fields field).marks.map state.strings.pointer) = state := by
  refine follow_of fun pointer isPointer => ?_
  obtain ⟨string, marked, rfl⟩ := List.mem_map.mp isPointer
  exact Strings.valid_pointer ((sound.calls id call found).alive field mem string marked)

theorem formfree_of {form : Address} {parts : List Part} (there : state.forms form = some parts) :
    state.formfree form = { state with forms := Function.update state.forms form none } := by
  rw [State.formfree, there]

/-! ## Steps of a call -/

/-- A `CURL` of a call loses an option at its end. -/
theorem Sound.clear (sound : Sound state) (found : state.calls id = some call) (flag : Bool)
    (set : Curl → Curl) (noForm : ∀ curl form, (set curl).httppost = some form → curl.httppost = some form) :
    let cleared := if flag then state.onCurl call.curl set else state
    Sound cleared ∧ cleared.calls = state.calls ∧
      (flag = true → ∀ later, cleared.curls call.curl = some later →
        ∃ curl, state.curls call.curl = some curl ∧ later = set curl) ∧
      (∀ later, cleared.curls call.curl = some later →
        ∃ curl, state.curls call.curl = some curl ∧ ∀ form, later.httppost = some form →
          curl.httppost = some form) := by
  have there := (sound.calls id call found).curl
  obtain ⟨curl, isCurl⟩ := Option.isSome_iff_exists.mp there
  cases flag with
  | false =>
    exact ⟨sound, rfl, fun absurdly => absurd absurdly Bool.false_ne_true,
      fun later isLater => ⟨later, isLater, fun _ posted => posted⟩⟩
  | true =>
    have self : (state.onCurl call.curl set).curls call.curl = some (set curl) := by
      rw [onCurl_of isCurl]
      exact Function.update_self _ _ _
    refine ⟨sound.setCurl there noForm, onCurl_calls _ _ _, fun _ later isLater => ?_, fun later isLater => ?_⟩
    · exact ⟨curl, isCurl, Option.some.inj (isLater.symm.trans self)⟩
    · cases isLater.symm.trans self
      exact ⟨curl, isCurl, noForm curl⟩

theorem Sound.endCall (sound : Sound state) (found : state.calls id = some call)
    (outcome : Except RubyError Unit) : Sound (state.endCall id call outcome) := by
  obtain ⟨unposted, sameCalls, noForm, -⟩ := sound.clear found call.formSetOnCurl
    (fun curl => { curl with httppost := none }) fun _ _ posted => (Option.some_ne_none _ posted.symm).elim
  unfold State.endCall State.ensureFreeFormPost
  dsimp only
  generalize (if call.formSetOnCurl then state.onCurl call.curl fun curl => { curl with httppost := none }
    else state) = middle at unposted sameCalls noForm ⊢
  have foundMiddle : middle.calls id = some call := by
    rw [sameCalls]
    exact found
  obtain ⟨cleared, sameMiddle, -, stays⟩ := unposted.clear foundMiddle call.clearCustomrequest
    (fun curl => { curl with customrequest := none }) fun _ _ posted => posted
  generalize (if call.clearCustomrequest then middle.onCurl call.curl fun curl => { curl with customrequest := none }
    else middle) = last at cleared sameMiddle stays ⊢
  have foundLast : last.calls id = some call := by
    rw [sameMiddle]
    exact foundMiddle
  have gone (set : call.formSetOnCurl = true) (curl : Curl) (isCurl : last.curls call.curl = some curl) :
      curl.httppost = none := by
    obtain ⟨between, isBetween, kept⟩ := stays curl isCurl
    obtain ⟨before, -, rfl⟩ := noForm set between isBetween
    cases posted : curl.httppost with
    | none => rfl
    | some form => exact (Option.some_ne_none form (kept form posted).symm).elim
  rcases (cleared.calls id call foundLast).form with ⟨none, -⟩ | ⟨first, parts, isFirst, isForm, -⟩
  · rw [none]
    exact cleared.dropCall foundLast gone (fun form own => (Option.some_ne_none form (own.symm.trans none)).elim)
      fun _ _ => rfl
  · rw [isFirst]
    dsimp only
    rw [formfree_of isForm]
    refine cleared.dropCall foundLast gone (fun form own => ?_) fun form foreign => ?_
    · cases isFirst.symm.trans own
      exact Function.update_self _ _ _
    · refine Function.update_of_ne ?_ _ _
      rintro rfl
      exact foreign isFirst

/-- A field whose part is made is as its part has it. -/
theorem Sound.settle (sound : Sound state) {field : ObjectId} {settled : PostField} {part : Part}
    (ok : appendToForm state.strings (state.fields field) = .ok (settled, part)) :
    Sound (state.setField field settled) := by
  obtain ⟨name, contents, named, fills, -⟩ := appendToForm_ok_iff.mp ok
  obtain ⟨sameProc, sameMarks⟩ := fills.marks
  refine sound.setField fun other otherCall isOther mem => ⟨sameProc, fun string marked => ?_, fun appended => ?_⟩
  · exact (sound.calls other otherCall isOther).alive field mem string (sameMarks string marked)
  · rcases (sound.calls other otherCall isOther).form with ⟨-, nothing⟩ | ⟨_, parts, -, -, holds⟩
    · rw [nothing] at appended
      exact absurd appended List.not_mem_nil
    · obtain ⟨_, already⟩ := holds.of_mem appended
      exact congrArg Prod.fst (Except.ok.inj (ok.symm.trans already))

theorem Sound.appendField (sound : Sound state) (found : state.calls id = some call)
    (appending : call.formSetOnCurl = false) {field : ObjectId} {rest : List Item} {address : Address}
    {code : CurlFormCode} (next : call.rest = .field field :: rest)
    (steps : state.appendField id call field rest address code = some after) : Sound after := by
  have mem := ((sound.calls id call found).next next).1
  unfold State.appendField at steps
  rw [sound.follow_marks found mem] at steps
  dsimp only at steps
  split at steps
  · cases steps
    exact sound.endCall found _
  · rename_i settled part ok
    have settledSound := sound.settle ok
    have self : (state.setField field settled).fields field = settled := Function.update_self _ _ _
    have again : appendToForm state.strings ((state.setField field settled).fields field) =
        .ok ((state.setField field settled).fields field, part) := by
      rw [self]
      exact appendToForm_again ok
    split at steps
    · cases steps
      exact settledSound.endCall found _
    · have form := (settledSound.calls id call found).form
      split at steps
      · rename_i first isFirst
        rcases form with ⟨none, -⟩ | ⟨form, parts, isForm, there, -⟩
        · exact absurd (isFirst.symm.trans none) (Option.some_ne_none first)
        · cases isFirst.symm.trans isForm
          have formed : (state.setField field settled).formadd first part =
              { state.setField field settled with
                forms := Function.update state.forms first (some (parts ++ [part])) } := by
            rw [State.formadd, there]
            rfl
          rw [formed] at steps
          cases steps
          have pushed := settledSound.pushPart found appending next again (Or.inl ⟨isFirst, there⟩)
          rw [← isFirst] at pushed
          exact pushed
      · rename_i noFirst
        obtain ⟨absent, same⟩ := Option.ite_none_right_eq_some.mp steps
        cases same
        exact settledSound.pushPart found appending next again
          (Or.inr ⟨noFirst, Option.isNone_iff_eq_none.mp absent, rfl⟩)

theorem CallOk.appending (ok : CallOk state call) (stage : call.stage ≠ .performing) :
    call.formSetOnCurl = false := by
  cases set : call.formSetOnCurl with
  | false => rfl
  | true => exact absurd (ok.stage.mp set) stage

/-- The block of the next field has returned. -/
theorem Sound.procReturns (sound : Sound state) (found : state.calls id = some call)
    (stage : call.stage = .inProc) {string address : Address} {code : CurlFormCode}
    (there : (state.strings string).isSome)
    (steps : state.procReturns id call string address code = some after) : Sound after := by
  have ok := sound.calls id call found
  obtain ⟨field, rest, next, proc⟩ := ok.inProc stage
  unfold State.procReturns at steps
  rw [next] at steps
  obtain ⟨mem, notYet⟩ := ok.next next
  have set : Sound (state.setField field { state.fields field with bufferStr := some string }) := by
    refine sound.setField fun other otherCall isOther otherMem => ⟨rfl, fun each marked => ?_, fun appended => ?_⟩
    · rw [PostField.mem_marks] at marked
      have alive := (sound.calls other otherCall isOther).alive field otherMem each
      rw [PostField.mem_marks] at alive
      rcases marked with name | content | type | file | remote | buffer
      · exact alive (Or.inl name)
      · exact alive (Or.inr (Or.inl content))
      · exact alive (Or.inr (Or.inr (Or.inl type)))
      · exact alive (Or.inr (Or.inr (Or.inr (Or.inl file))))
      · exact alive (Or.inr (Or.inr (Or.inr (Or.inr (Or.inl remote)))))
      · exact Option.some.inj buffer ▸ there
    · by_cases same : other = id
      · cases found.symm.trans (same ▸ isOther)
        exact absurd appended (notYet proc)
      · have apart := (sound.apart other id otherCall call isOther found same).procs field otherMem mem
        exact absurd (proc.symm.trans apart) Bool.noConfusion
  exact set.appendField found (ok.appending (by rw [stage]; exact Stage.noConfusion)) next steps

theorem Sound.callProc (sound : Sound state) (found : state.calls id = some call)
    (stage : call.stage = .appending) (calls : state.nextCallsProc call = true) :
    Sound (state.setCall id { call with stage := .inProc }) := by
  have ok := sound.calls id call found
  refine sound.setCall ⟨ok.curl, ok.items, ok.alive, ok.once, ok.form, fun _ => ?_, ok.performs, ?_⟩
    (fun before isBefore => ?_) fun other otherCall ne isOther => ?_
  · unfold State.nextCallsProc at calls
    split at calls
    · rename_i field rest next
      exact ⟨field, rest, next, (Bool.and_eq_true _ _ ▸ calls).2⟩
    · cases calls
  · rw [ok.appending (by rw [stage]; exact Stage.noConfusion)]
    exact iff_of_false Bool.false_ne_true Stage.noConfusion
  · cases found.symm.trans isBefore
    exact ⟨fun _ first => first, fun set => ⟨set, rfl⟩⟩
  · have apart := sound.apart id other call otherCall found isOther (Ne.symm ne)
    exact ⟨apart.forms, apart.procs⟩

/-- A call begins. -/
theorem Sound.httpPost (sound : Sound state) {easy : ObjectId} {handle : Easy}
    (isHandle : state.easies easy = some handle) (unused : state.calls id = none) {method : Option String}
    {arguments : List Argument} (ok : StepOk state (.httpPost id easy method arguments)) :
    Sound ((state.onCurl handle.curl fun curl => { curl with customrequest := method }).setCall id
      ⟨handle.curl, arguments.flatMap Argument.items, [], arguments.flatMap Argument.items, none,
        method.isSome, false, .appending⟩) := by
  obtain ⟨alive, once, procs⟩ := ok
  have there := sound.handles easy handle isHandle
  obtain ⟨curl, isCurl⟩ := Option.isSome_iff_exists.mp there
  have set : Sound (state.onCurl handle.curl fun curl => { curl with customrequest := method }) :=
    sound.setCurl there fun _ _ posted => posted
  rw [onCurl_of isCurl] at set ⊢
  refine set.setCall ⟨?_, rfl, alive, once, Or.inl ⟨rfl, rfl⟩, Stage.noConfusion,
    fun absurdly => absurd absurdly Bool.false_ne_true, iff_of_false Bool.false_ne_true Stage.noConfusion⟩
    (fun before isBefore => ?_) fun other otherCall ne isOther => ?_
  · exact set.handles easy handle isHandle
  · exact (Option.some_ne_none before (isBefore.symm.trans unused)).elim
  · refine ⟨fun form first => (Option.some_ne_none form first.symm).elim, fun field mem otherMem => ?_⟩
    by_contra proc
    exact procs field mem (Bool.not_eq_false _ ▸ proc) ⟨other, otherCall, isOther, otherMem⟩

/-! ## Steps of a handle -/

section Handles
variable {easy : ObjectId} {handle : Easy}

/-- A handle is made. -/
theorem Sound.placeEasy (sound : Sound state) {options : Curl}
    (free : state.curls handle.curl = none) (noForm : options.httppost = none) :
    Sound { state with
      easies := Function.update state.easies easy (some handle)
      curls := Function.update state.curls handle.curl (some options) } := by
  have alive {address : Address} (there : (state.curls address).isSome) :
      Function.update state.curls handle.curl (some options) address = state.curls address := by
    refine Function.update_of_ne ?_ _ _
    rintro rfl
    rw [free] at there
    exact Bool.false_ne_true there
  have others {each : ObjectId} {eachHandle : Easy} (is : state.easies each = some eachHandle) :
      eachHandle.curl ≠ handle.curl := by
    intro same
    have there := sound.handles each eachHandle is
    rw [same, free] at there
    exact Bool.false_ne_true there
  refine sound.setHandles (fun each eachHandle is => ?_) (fun each other eachHandle otherHandle is isOther same => ?_)
    (fun each call found => ?_) fun address curl form is posted => ?_
  · by_cases sameEasy : each = easy
    · rw [sameEasy, Function.update_self] at is
      cases is
      rw [Function.update_self]
      rfl
    · rw [Function.update_of_ne sameEasy] at is
      rw [alive (sound.handles each eachHandle is)]
      exact sound.handles each eachHandle is
  · by_cases sameEasy : each = easy
    · by_cases sameOther : other = easy
      · exact sameEasy.trans sameOther.symm
      · rw [sameEasy, Function.update_self] at is
        rw [Function.update_of_ne sameOther] at isOther
        cases is
        exact absurd same.symm (others isOther)
    · rw [Function.update_of_ne sameEasy] at is
      by_cases sameOther : other = easy
      · rw [sameOther, Function.update_self] at isOther
        cases isOther
        exact absurd same (others is)
      · rw [Function.update_of_ne sameOther] at isOther
        exact sound.separate each other eachHandle otherHandle is isOther same
  · rw [alive (sound.calls each call found).curl]
    exact (sound.calls each call found).curl
  · by_cases same : address = handle.curl
    · rw [same, Function.update_self] at is
      cases is
      exact (Option.some_ne_none form (posted.symm.trans noForm)).elim
    · rw [Function.update_of_ne same] at is
      exact ⟨curl, is, posted⟩

/-- A handle goes, with its `CURL`. -/
theorem Sound.dropEasy (sound : Sound state) (isHandle : state.easies easy = some handle)
    (notCalled : ∀ id call, state.calls id = some call → call.curl ≠ handle.curl) :
    Sound { state with
      easies := Function.update state.easies easy none
      curls := Function.update state.curls handle.curl none } := by
  have others {each : ObjectId} {eachHandle : Easy}
      (is : Function.update state.easies easy none each = some eachHandle) :
      each ≠ easy ∧ state.easies each = some eachHandle := by
    have ne : each ≠ easy := by
      rintro rfl
      rw [Function.update_self] at is
      cases is
    rw [Function.update_of_ne ne] at is
    exact ⟨ne, is⟩
  refine sound.setHandles (fun each eachHandle is => ?_) (fun each other eachHandle otherHandle is isOther same => ?_)
    (fun each call found => ?_) fun address curl form is posted => ?_
  · obtain ⟨ne, was⟩ := others is
    have otherCurl : eachHandle.curl ≠ handle.curl :=
      fun same => ne (sound.separate each easy eachHandle handle was isHandle same)
    rw [Function.update_of_ne otherCurl]
    exact sound.handles each eachHandle was
  · exact sound.separate each other eachHandle otherHandle (others is).2 (others isOther).2 same
  · rw [Function.update_of_ne (notCalled each call found)]
    exact (sound.calls each call found).curl
  · by_cases same : address = handle.curl
    · rw [same, Function.update_self] at is
      cases is
    · rw [Function.update_of_ne same] at is
      exact ⟨curl, is, posted⟩

/-- A flag of a handle is set. -/
theorem Sound.setFlag (sound : Sound state) (isHandle : state.easies easy = some handle) (flag : Bool) :
    Sound { state with
      easies := Function.update state.easies easy (some ⟨handle.curl, flag⟩) } := by
  have same {each : ObjectId} {eachHandle : Easy}
      (is : Function.update state.easies easy (some ⟨handle.curl, flag⟩) each = some eachHandle) :
      ∃ before, state.easies each = some before ∧ before.curl = eachHandle.curl := by
    by_cases sameEasy : each = easy
    · rw [sameEasy, Function.update_self] at is
      cases is
      exact ⟨handle, sameEasy ▸ isHandle, rfl⟩
    · rw [Function.update_of_ne sameEasy] at is
      exact ⟨eachHandle, is, rfl⟩
  refine sound.setHandles (fun each eachHandle is => ?_) (fun each other eachHandle otherHandle is isOther curls => ?_)
    (fun each call found => (sound.calls each call found).curl) fun _ curl _ is posted => ⟨curl, is, posted⟩
  · obtain ⟨before, was, sameCurl⟩ := same is
    rw [← sameCurl]
    exact sound.handles each before was
  · obtain ⟨before, was, sameCurl⟩ := same is
    obtain ⟨otherBefore, otherWas, sameOther⟩ := same isOther
    exact sound.separate each other before otherBefore was otherWas (sameCurl.trans (curls.trans sameOther.symm))

/-- The parts libcurl reads are there, and so is what they point to. -/
theorem Sound.readForm (sound : Sound state) (isHandle : state.easies easy = some handle) :
    state.readForm handle.curl = state := by
  obtain ⟨curl, isCurl⟩ := Option.isSome_iff_exists.mp (sound.handles easy handle isHandle)
  unfold State.readForm
  rw [isCurl]
  dsimp only
  cases posted : curl.httppost with
  | none => rfl
  | some form =>
    obtain ⟨id, call, found, -, -, first⟩ := sound.posted handle.curl curl form isCurl posted
    have ok := sound.calls id call found
    rcases ok.form with ⟨none, -⟩ | ⟨own, parts, isOwn, isForm, holds⟩
    · exact (Option.some_ne_none form (first.symm.trans none)).elim
    · cases first.symm.trans isOwn
      dsimp only
      rw [isForm]
      exact follow_of (holds.pointers fun field mem => ok.alive field (ok.of_appended mem))

end Handles

/-! ## Runs -/

theorem sound_step {event : Event} (sound : Sound state) (ok : StepOk state event)
    (steps : step state event = some after) : Sound after := by
  cases event with
  | httpPost id easy method arguments =>
    obtain ⟨handle, isHandle, steps⟩ := Option.bind_eq_some_iff.mp steps
    obtain ⟨may, same⟩ := Option.ite_none_right_eq_some.mp steps
    cases same
    exact sound.httpPost isHandle (Option.isNone_iff_eq_none.mp may.2) ok
  | append id address code =>
    obtain ⟨call, found, steps⟩ := Option.bind_eq_some_iff.mp steps
    obtain ⟨stage, steps⟩ := Option.ite_none_right_eq_some.mp steps
    have appending := (sound.calls id call found).appending (by rw [stage]; exact Stage.noConfusion)
    unfold State.appendNext at steps
    split at steps
    · cases steps
    · cases steps
      exact sound.endCall found _
    · rename_i field rest next
      split at steps
      · cases steps
      · exact sound.appendField found appending next steps
  | callProc id =>
    obtain ⟨call, found, steps⟩ := Option.bind_eq_some_iff.mp steps
    obtain ⟨may, same⟩ := Option.ite_none_right_eq_some.mp steps
    cases same
    exact sound.callProc found may.1 may.2
  | procReturns id string address code =>
    obtain ⟨call, found, steps⟩ := Option.bind_eq_some_iff.mp steps
    obtain ⟨stage, steps⟩ := Option.ite_none_right_eq_some.mp steps
    exact sound.procReturns found stage ok steps
  | procRaises id error =>
    obtain ⟨call, found, steps⟩ := Option.bind_eq_some_iff.mp steps
    obtain ⟨-, same⟩ := Option.ite_none_right_eq_some.mp steps
    cases same
    exact sound.endCall found _
  | perform id =>
    obtain ⟨call, found, steps⟩ := Option.bind_eq_some_iff.mp steps
    obtain ⟨may, same⟩ := Option.ite_none_right_eq_some.mp steps
    cases same
    have appending := (sound.calls id call found).appending (by rw [may.1]; exact Stage.noConfusion)
    exact sound.perform found appending may.2
  | readForm easy =>
    obtain ⟨handle, isHandle, same⟩ := Option.map_eq_some_iff.mp steps
    rw [← same, sound.readForm isHandle]
    exact sound
  | performEnds id outcome =>
    obtain ⟨call, found, steps⟩ := Option.bind_eq_some_iff.mp steps
    obtain ⟨-, same⟩ := Option.ite_none_right_eq_some.mp steps
    cases same
    exact sound.endCall found _
  | newEasy easy curl =>
    obtain ⟨may, same⟩ := Option.ite_none_right_eq_some.mp steps
    cases same
    exact sound.placeEasy (Option.isNone_iff_eq_none.mp may.2) rfl
  | multipartFormPostSet easy flag =>
    obtain ⟨handle, isHandle, same⟩ := Option.bind_eq_some_iff.mp steps
    cases same
    exact sound.setFlag isHandle flag
  | close easy curl =>
    obtain ⟨handle, isHandle, steps⟩ := Option.bind_eq_some_iff.mp steps
    obtain ⟨may, same⟩ := Option.ite_none_right_eq_some.mp steps
    cases same
    have dropped := sound.dropEasy isHandle (ok handle isHandle)
    have free : Function.update state.curls handle.curl none curl = none := by
      by_cases here : curl = handle.curl
      · rw [here]
        exact Function.update_self _ _ _
      · rw [Function.update_of_ne here]
        exact Option.isNone_iff_eq_none.mp (may.resolve_left here)
    have placed := @Sound.placeEasy _ easy ⟨curl, false⟩ dropped freshCurl free rfl
    dsimp only at placed
    rw [Function.update_idem] at placed
    exact placed
  | reset easy =>
    obtain ⟨handle, isHandle, same⟩ := Option.bind_eq_some_iff.mp steps
    cases same
    have set : Sound (state.onCurl handle.curl fun _ => freshCurl) :=
      sound.setCurl (sound.handles easy handle isHandle) fun _ form posted =>
        (Option.some_ne_none form posted.symm).elim
    have sameEasies : (state.onCurl handle.curl fun _ => freshCurl).easies = state.easies := by
      unfold State.onCurl
      split <;> rfl
    exact set.setFlag (sameEasies ▸ isHandle) false
  | clone easy other curl =>
    obtain ⟨handle, isHandle, steps⟩ := Option.bind_eq_some_iff.mp steps
    obtain ⟨options, isOptions, steps⟩ := Option.bind_eq_some_iff.mp steps
    obtain ⟨may, same⟩ := Option.ite_none_right_eq_some.mp steps
    cases same
    exact sound.placeEasy (Option.isNone_iff_eq_none.mp may.2) (ok handle options isHandle isOptions)
  | freeEasy easy =>
    obtain ⟨handle, isHandle, same⟩ := Option.bind_eq_some_iff.mp steps
    cases same
    exact sound.dropEasy isHandle (ok handle isHandle)
  | newString address bytes =>
    obtain ⟨free, same⟩ := Option.ite_none_right_eq_some.mp steps
    cases same
    refine sound.setStrings fun field inProgress string marked => (Function.update_of_ne ?_ _ _).symm
    rintro rfl
    obtain ⟨id, call, found, mem⟩ := inProgress
    have there := (sound.calls id call found).alive field mem string marked
    rw [Option.isNone_iff_eq_none.mp free] at there
    exact Bool.false_ne_true there
  | stringChanges address bytes =>
    obtain ⟨string, -, same⟩ := Option.bind_eq_some_iff.mp steps
    cases same
    refine sound.setStrings fun field inProgress each marked => (Function.update_of_ne ?_ _ _).symm
    rintro rfl
    exact ok field inProgress marked
  | fieldSet field value =>
    cases steps
    exact sound.setField fun id call found mem => absurd ⟨id, call, found, mem⟩ ok
  | sweep dead =>
    cases steps
    exact sound.setStrings fun field inProgress string marked =>
      (if_neg (ok field inProgress string marked)).symm

theorem reached_sound (reached : Reached step StepOk fresh state) : Sound state :=
  reached.invariant sound_fresh fun _ _ _ sound ok steps => sound_step sound ok steps

/-! ## A run -/

/-- The block of a field that is given twice returns two strings, and the field marks only the second. -/
example : (runSteps step fresh [
    .newEasy 0 100, .multipartFormPostSet 0 true, .newString 1 [97],
    .fieldSet 0 ⟨some 1, none, none, true, none, none, none⟩,
    .httpPost 0 0 none [.item (.field 0), .item (.field 0)],
    .callProc 0, .newString 2 [49], .procReturns 0 2 200 .ok,
    .callProc 0, .newString 3 [50], .procReturns 0 3 200 .ok,
    .sweep [2], .perform 0, .readForm 0]).map State.memoryError = some true := by decide

/-- A block closes the handle, whose form libcurl is then to send with a `CURL` that is gone. -/
example : (runSteps step fresh [
    .newEasy 0 100, .multipartFormPostSet 0 true, .newString 1 [97],
    .fieldSet 0 ⟨some 1, none, none, true, none, none, none⟩, .httpPost 0 0 none [.item (.field 0)],
    .callProc 0, .close 0 101, .newString 2 [49], .procReturns 0 2 200 .ok,
    .perform 0]).map State.memoryError = some true := by decide

/-- A handle is cloned in a callback of its request, and its clone keeps the form that is freed behind it. -/
example : (runSteps step fresh [
    .newEasy 0 100, .multipartFormPostSet 0 true, .newString 1 [97], .newString 2 [49],
    .fieldSet 0 ⟨some 1, some 2, none, false, none, none, none⟩, .httpPost 0 0 none [.item (.field 0)],
    .append 0 200 .ok, .perform 0, .clone 0 1 101, .performEnds 0 (.ok ()),
    .readForm 1]).map State.memoryError = some true := by decide

end Curb.Multipart

import Curb.Download.Publication
import Curb.Download.Consistent

/-!
# `Easy.download`

One handle is performed with an `on_body` that writes to the output. The output is closed as a success
where `perform` does not raise (`lib/curl/easy.rb:770-792`), and what `perform` raises at its end depends
on the result and on `on_failure` (`easy.rb:310-325`).
-/

namespace Curb.Download
open Curb.Misc Curb.Ruby

/-- What a handler that the block has installed with `on_body` does with a chunk. -/
inductive BodyReply where
  | returns (size : Int)
  /-- Something other than an `Integer`. -/
  | returnsOther
  | raises (failure : Failure)

/-- What libcurl hands over of the body. -/
inductive BodyEvent where
  /-- A chunk, with the answer of the block's own handler where there is one. -/
  | chunk (data : Text) (reply : Option BodyReply)
  /-- A chunk over `max_body_bytes`, which no handler sees. -/
  | tooLarge (failure : Failure)

/-- How the block, the callbacks and libcurl behave in one call. -/
structure EasyTransfer where
  /-- What `Curl::Easy.new` raises, with the block it is given. -/
  new : Option Failure
  /-- What `perform` raises before libcurl is called. -/
  begins : Option Failure
  body : List BodyEvent
  /-- An exception that leaves the loop at once. -/
  interrupts : Option Failure
  /-- What another callback of the transfer, or a handler of its completion, raises. -/
  completion : Option Failure
  unsafeDestinationError : Option Text
  lastResult : Nat
  /-- A handler is installed with `on_failure` when `perform` looks for it. -/
  onFailure : Bool

structure EasyArguments where
  names : FileNames
  url : Text
  filename : DownloadPath
  downloadOptions : DownloadOptions
  /-- What `Tempfile.new` raises. -/
  tempfile : Option SystemError
  replies : CloseReplies

/-- The system, and `callback_error` of the handle. -/
structure EasyCall where
  system : System
  callbackError : Option Failure

abbrev EasyAction := EStateM Failure EasyCall

def onEasySystem {α : Type} (operation : Operation α) : EasyAction α :=
  zoom EasyCall.system (fun call system => { call with system := system }) operation

/-- Raises the exception, if there is one. -/
def raiseIfAny : Option Failure → EasyAction Unit
  | none => pure ()
  | some failure => throw failure

/-- `prepare_download_output`. -/
def prepareDownloadOutput (arguments : EasyArguments) : Operation Output := do
  let target ← lift (resolveDownloadOutput arguments.names arguments.url arguments.filename
    arguments.downloadOptions)
  binmode target
  match target with
  | .file io _ => pure (.file io)
  | .safeOutput path overwrite => do
      let output ← newSafeDownloadOutput arguments.names.expandPath path overwrite arguments.tempfile
      pure (.safe output)

/-- `callback_exception_store_on_easy`: the first exception is kept. -/
def storeCallbackError (failure : Failure) : EasyAction Unit :=
  modify fun call => { call with callbackError := call.callbackError.or (some failure) }

/-- The `on_body` of `Easy.download`. -/
def onBody (output : Output) (data : Text) : Option BodyReply → EasyAction Unit
  | none => onEasySystem (writeOutput output data)
  | some (.returns size) =>
      if size = data.length then onEasySystem (writeOutput output data) else pure ()
  | some .returnsOther => pure ()
  | some (.raises failure) => throw failure

/-- `proc_data_handler_body`. -/
def bodyHandler (output : Output) : BodyEvent → EasyAction Unit
  | .chunk data reply => tryCatch (onBody output data reply) storeCallbackError
  | .tooLarge failure => storeCallbackError failure

/-- `Easy#perform`, as far as it reads the result (`easy.rb:310-325`). -/
def performEasy (output : Output) (transfer : EasyTransfer) : EasyAction Unit := do
  raiseIfAny transfer.begins
  transfer.body.forM (bodyHandler output)
  raiseIfAny transfer.interrupts
  let call ← get
  raiseIfAny (call.callbackError.or transfer.completion)
  raiseIfAny (transfer.unsafeDestinationError.map fun message =>
    .ruby ⟨.unsafeDestinationError, message⟩)
  if transfer.lastResult ≠ 0 ∧ transfer.onFailure = false then throw (.transfer transfer.lastResult)
  else pure ()

/-- The `ensure` clause; a stream of the caller closes without an exception. -/
def closePerformed (output : Output) (replies : CloseReplies) (raised : Bool) : EasyAction PUnit :=
  match output with
  | .safe output => onEasySystem (closeSafe output (!raised) replies)
  | .file io => tryCatch (onEasySystem (closeStream io replies.close)) fun _ => pure ()

/-- `Easy.download`. -/
def easyDownload (arguments : EasyArguments) (transfer : EasyTransfer) : EasyAction Unit := do
  raiseIfAny transfer.new
  let output ← onEasySystem (prepareDownloadOutput arguments)
  ensuringWith (performEasy output transfer) (closePerformed output arguments.replies)

/-- Where the result is not 0, nothing is installed, wherever the download goes. -/
def InstallsSuccessOnly (transfer : EasyTransfer) : Prop :=
  ∀ arguments before, transfer.lastResult ≠ 0 →
    (finalState (easyDownload arguments transfer) ⟨before, none⟩).system.contents = before.contents

/-- The body is too large, or the handler of the block raises. -/
def BodyEvent.raises : BodyEvent → Prop
  | .chunk _ (some (.raises _)) => True
  | .chunk _ _ => False
  | .tooLarge _ => True

/-- The download raises, whatever the result is. -/
def EasyTransfer.RaisesAnyway (transfer : EasyTransfer) : Prop :=
  transfer.new ≠ none ∨ transfer.begins ≠ none ∨ (∃ event ∈ transfer.body, event.raises) ∨
    transfer.interrupts ≠ none ∨ transfer.completion ≠ none ∨ transfer.unsafeDestinationError ≠ none

variable {arguments : EasyArguments} {transfer : EasyTransfer} {before : System} {call : EasyCall}
  {output : Output}

/-! ## What is at the paths -/

/-- The operation leaves what is at the paths alone. -/
abbrev KeepsContents {α : Type} (x : Operation α) : Prop :=
  ∀ contents, Keeps (fun system : System => system.contents = contents) x

theorem keepsContents_writeOutput (data : Text) : KeepsContents (writeOutput output data) := by
  intro contents system same
  cases output with
  | file io =>
    unfold finalState writeOutput
    dsimp only
    cases system.ioClosed io <;> exact same
  | safe output =>
    rcases writeSafe_spec output data system with still | ⟨_, _, writes⟩
    · rw [writeOutput, still]
      exact same
    · rw [writeOutput, writes]
      exact same

/-- A close without success leaves the paths alone. -/
theorem keepsContents_closeSafe (output : Nat) (replies : CloseReplies) :
    KeepsContents (closeSafe output false replies) := by
  intro contents system same
  cases made : system.outputs output with
  | none =>
    simp only [finalState, closeSafe, made]
    exact same
  | some value =>
    have changes := (closeSafe_spec made false replies).installs.2
    rw [← same]
    funext path
    by_contra changed
    cases (changes path changed).1

theorem keepsContents_prepareDownloadOutput : KeepsContents (prepareDownloadOutput arguments) := by
  intro contents
  refine keeps_bind keeps_lift fun target => keeps_bind keeps_binmode fun _ => ?_
  cases target with
  | file io overwrite => exact keeps_pure
  | safeOutput path overwrite =>
    refine keeps_bind ?_ fun made => keeps_pure
    intro system same
    rcases newSafeDownloadOutput_spec arguments.names.expandPath path overwrite arguments.tempfile system
      with ⟨failure, raises⟩ | returns
    · rw [raises.finalState_eq]
      exact same
    · rw [returns.finalState_eq]
      exact same

/-- A call leaves the paths alone. -/
abbrev KeepsPaths {α : Type} (x : EasyAction α) : Prop :=
  ∀ contents, Keeps (fun call : EasyCall => call.system.contents = contents) x

theorem keepsPaths_onEasySystem {α : Type} {operation : Operation α} (keeps : KeepsContents operation) :
    KeepsPaths (onEasySystem operation) := by
  intro contents call same
  unfold onEasySystem
  rw [finalState_zoom]
  exact keeps contents call.system same

theorem keepsPaths_raiseIfAny (failure : Option Failure) : KeepsPaths (raiseIfAny failure) := by
  intro contents
  cases failure with
  | none => exact keeps_pure
  | some failure => exact keeps_throw

theorem keepsPaths_bodyHandler (event : BodyEvent) : KeepsPaths (bodyHandler output event) := by
  intro contents
  cases event with
  | tooLarge failure => exact keeps_modify fun _ same => same
  | chunk data reply =>
    have writes := keepsPaths_onEasySystem (@keepsContents_writeOutput output data) contents
    refine keeps_tryCatch ?_ fun failure => keeps_modify fun _ same => same
    unfold onBody
    split
    · exact writes
    · split
      · exact writes
      · exact keeps_pure
    · exact keeps_pure
    · exact keeps_throw

theorem keepsPaths_performEasy : KeepsPaths (performEasy output transfer) := by
  intro contents
  refine keeps_bind (keepsPaths_raiseIfAny _ contents) fun _ => ?_
  refine keeps_bind (keeps_forM fun event _ => keepsPaths_bodyHandler event contents) fun _ => ?_
  refine keeps_bind (keepsPaths_raiseIfAny _ contents) fun _ => keeps_bind keeps_get fun call => ?_
  refine keeps_bind (keepsPaths_raiseIfAny _ contents) fun _ => ?_
  refine keeps_bind (keepsPaths_raiseIfAny _ contents) fun _ => ?_
  split
  · exact keeps_throw
  · exact keeps_pure

/-- Where `perform` raises, the output is not installed. -/
theorem keepsPaths_closePerformed (replies : CloseReplies) :
    KeepsPaths (closePerformed output replies true) := by
  intro contents
  cases output with
  | safe output => exact keepsPaths_onEasySystem (keepsContents_closeSafe output replies) contents
  | file io =>
    refine keeps_tryCatch (keepsPaths_onEasySystem ?_ contents) fun _ => keeps_pure
    intro contents' system same
    rw [finalState_closeStream]
    exact same

/-! ## When `perform` raises -/

theorem raiseIfAny_returns_iff {failure : Option Failure} {after : EasyCall} :
    Returns (raiseIfAny failure) call () after ↔ failure = none ∧ call = after := by
  cases failure with
  | none => exact returns_pure_iff.trans ⟨fun same => ⟨rfl, same.2⟩, fun same => ⟨rfl, same.2⟩⟩
  | some failure => exact ⟨fun returns => absurd returns returns_throw_iff, fun none => (nomatch none.1)⟩

/-- An exception that is stored stays stored, and every chunk that raises stores one. -/
theorem callbackError_bodyHandler {event : BodyEvent}
    (stored : call.callbackError ≠ none ∨ event.raises) :
    (finalState (bodyHandler output event) call).callbackError ≠ none := by
  have stores (failure : Failure) (call : EasyCall) :
      (finalState (storeCallbackError failure) call).callbackError ≠ none := by
    show call.callbackError.or (some failure) ≠ none
    cases call.callbackError <;> exact nofun
  cases event with
  | tooLarge failure => exact stores failure call
  | chunk data reply =>
    have keeps (operation : Operation Unit) :
        Keeps (fun call : EasyCall => call.callbackError ≠ none)
          (tryCatch (onEasySystem operation) storeCallbackError) := by
      refine keeps_tryCatch ?_ fun failure => keeps_modify fun call _ => stores failure call
      intro call stored
      unfold onEasySystem
      rw [finalState_zoom]
      exact stored
    dsimp only [bodyHandler, onBody]
    cases reply with
    | none => exact keeps _ call (stored.resolve_right nofun)
    | some reply =>
      cases reply with
      | returns size =>
        dsimp only
        split
        · exact keeps _ call (stored.resolve_right nofun)
        · exact stored.resolve_right nofun
      | returnsOther => exact stored.resolve_right nofun
      | raises failure => exact stores failure call

theorem callbackError_body (events : List BodyEvent)
    (stored : call.callbackError ≠ none ∨ ∃ event ∈ events, event.raises) :
    (finalState (events.forM (bodyHandler output)) call).callbackError ≠ none := by
  induction events generalizing call with
  | nil => exact stored.resolve_right fun ⟨_, mem, _⟩ => (nomatch mem)
  | cons event rest ih =>
    have steps : finalState ((event :: rest).forM (bodyHandler output)) call =
        finalState (rest.forM (bodyHandler output)) (finalState (bodyHandler output event) call) := by
      have returns : Returns (bodyHandler output event) call ()
          (finalState (bodyHandler output event) call) := by
        cases event with
        | tooLarge failure => rfl
        | chunk data reply =>
          dsimp only [bodyHandler]
          show EStateM.tryCatch _ _ call = .ok () (finalState (EStateM.tryCatch _ _) call)
          unfold finalState EStateM.tryCatch
          cases onBody output data reply call <;> rfl
      exact returns.finalState_bind
    rw [steps]
    refine ih ?_
    rcases stored with already | ⟨raiser, mem, raises⟩
    · exact Or.inl (callbackError_bodyHandler (Or.inl already))
    · rcases List.mem_cons.mp mem with rfl | mem
      · exact Or.inl (callbackError_bodyHandler (Or.inr raises))
      · exact Or.inr ⟨raiser, mem, raises⟩

/-- A `perform` that returns found nothing to raise. -/
theorem performEasy_returns {after : EasyCall} (returns : Returns (performEasy output transfer) call () after) :
    transfer.begins = none ∧ (¬∃ event ∈ transfer.body, event.raises) ∧ transfer.interrupts = none ∧
      transfer.completion = none ∧ transfer.unsafeDestinationError = none ∧
      (transfer.lastResult = 0 ∨ transfer.onFailure = true) := by
  obtain ⟨_, _, first, returns⟩ := bind_returns_iff.mp returns
  obtain ⟨_, received, body, returns⟩ := bind_returns_iff.mp returns
  obtain ⟨_, _, second, returns⟩ := bind_returns_iff.mp returns
  obtain ⟨seen, _, reads, returns⟩ := bind_returns_iff.mp returns
  obtain ⟨_, _, third, returns⟩ := bind_returns_iff.mp returns
  obtain ⟨_, _, fourth, returns⟩ := bind_returns_iff.mp returns
  obtain ⟨begins, rfl⟩ := raiseIfAny_returns_iff.mp first
  obtain ⟨interrupts, rfl⟩ := raiseIfAny_returns_iff.mp second
  obtain ⟨rfl, rfl⟩ := returns_get_iff.mp reads
  obtain ⟨quiet, rfl⟩ := raiseIfAny_returns_iff.mp third
  obtain ⟨allowed, rfl⟩ := raiseIfAny_returns_iff.mp fourth
  obtain ⟨noCallbackError, completion⟩ := Option.or_eq_none_iff.mp quiet
  refine ⟨begins, fun raises => ?_, interrupts, completion, Option.map_eq_none_iff.mp allowed, ?_⟩
  · have stored := @callbackError_body call output transfer.body (Or.inr raises)
    rw [body.finalState_eq] at stored
    exact stored noCallbackError
  · by_contra reported
    rw [not_or, Bool.not_eq_true] at reported
    rw [if_pos reported] at returns
    exact returns_throw_iff returns

/-- `perform` raises for a result that is not 0, or for another reason. -/
theorem performEasy_raises (raises : transfer.RaisesAnyway ∨ transfer.onFailure = false)
    (started : transfer.new = none) (failed : transfer.lastResult ≠ 0) :
    succeeds (performEasy output transfer) call = false := by
  by_contra succeeds_
  have returns := returns_finalState (Bool.of_not_eq_false succeeds_)
  obtain ⟨begins, body, interrupts, completion, allowed, reported⟩ := performEasy_returns returns
  rcases raises with (new | early | chunk | interrupted | completed | blocked) | unhandled
  · exact new started
  · exact early begins
  · exact body chunk
  · exact interrupted interrupts
  · exact completed completion
  · exact blocked allowed
  · exact (nomatch (reported.resolve_left failed).symm.trans unhandled)

/-! ## A result that `on_failure` takes -/

/-- While `perform` runs, the output stays open. -/
def OpenedCall (output : Nat) (path : Text) (call : EasyCall) : Prop :=
  call.callbackError = none ∧ ∃ bytes, Opened output path false bytes call.system

theorem openedCall_bodyHandler {output : Nat} {path : Text} {event : BodyEvent} (quiet : ¬event.raises)
    (opened : OpenedCall output path call) :
    Returns (bodyHandler (.safe output) event) call () (finalState (bodyHandler (.safe output) event) call) ∧
      OpenedCall output path (finalState (bodyHandler (.safe output) event) call) := by
  obtain ⟨none_, bytes, isOpen⟩ := opened
  cases event with
  | tooLarge failure => exact absurd trivial quiet
  | chunk data reply =>
    have writes : Returns (onBody (.safe output) data none) call () { call with
        system := finalState (use output (.write data)) call.system } :=
      zoom_returns_iff.mpr ⟨_, use_returns isOpen (.write data), rfl⟩
    have written : OpenedCall output path { call with
        system := finalState (use output (.write data)) call.system } :=
      ⟨none_, _, opened_use isOpen (.write data)⟩
    have caught {x : EasyAction Unit} {after : EasyCall} (returns : Returns x call () after) :
        Returns (tryCatch x storeCallbackError) call () after := by
      show EStateM.tryCatch x storeCallbackError call = _
      rw [Returns] at returns
      unfold EStateM.tryCatch
      rw [returns]
    have ends {after : EasyCall} (returns : Returns (bodyHandler (.safe output) (.chunk data reply)) call () after)
        (still : OpenedCall output path after) :
        Returns (bodyHandler (.safe output) (.chunk data reply)) call ()
            (finalState (bodyHandler (.safe output) (.chunk data reply)) call) ∧
          OpenedCall output path (finalState (bodyHandler (.safe output) (.chunk data reply)) call) := by
      rw [returns.finalState_eq]
      exact ⟨returns, still⟩
    cases reply with
    | none => exact ends (caught writes) written
    | some reply =>
      cases reply with
      | returns size =>
        by_cases whole : size = data.length
        · refine ends (caught ?_) written
          rw [onBody, if_pos whole]
          exact writes
        · refine ends (caught ?_) ⟨none_, bytes, isOpen⟩
          rw [onBody, if_neg whole]
          rfl
      | returnsOther => exact ends (caught rfl) ⟨none_, bytes, isOpen⟩
      | raises failure => exact absurd trivial quiet

theorem openedCall_body {output : Nat} {path : Text} (events : List BodyEvent)
    (quiet : ∀ event ∈ events, ¬event.raises) (opened : OpenedCall output path call) :
    ∃ after, Returns (events.forM (bodyHandler (.safe output))) call () after ∧
      OpenedCall output path after := by
  induction events generalizing call with
  | nil => exact ⟨call, rfl, opened⟩
  | cons event rest ih =>
    obtain ⟨returns, still⟩ := openedCall_bodyHandler (quiet event List.mem_cons_self) opened
    obtain ⟨after, others, ends⟩ := ih (fun event mem => quiet event (List.mem_cons_of_mem _ mem)) still
    exact ⟨after, bind_returns_iff.mpr ⟨_, _, returns, others⟩, ends⟩

/-- Where nothing else raises and `on_failure` is installed, `perform` returns. -/
theorem performEasy_handled {output : Nat} {path : Text} (handled : transfer.onFailure = true)
    (quiet : ¬transfer.RaisesAnyway) (opened : OpenedCall output path call) :
    ∃ after, Returns (performEasy (.safe output) transfer) call () after ∧
      OpenedCall output path after := by
  unfold EasyTransfer.RaisesAnyway at quiet
  simp only [not_or, not_not] at quiet
  obtain ⟨_, begins, chunks, interrupts, completion, allowed⟩ := quiet
  obtain ⟨after, body, ends⟩ := openedCall_body transfer.body
    (fun event mem raises => chunks ⟨event, mem, raises⟩) opened
  have nothing {failure : Option Failure} {call : EasyCall} (none_ : failure = none) :
      Returns (raiseIfAny failure) call () call := raiseIfAny_returns_iff.mpr ⟨none_, rfl⟩
  have noError : after.callbackError.or transfer.completion = none :=
    Option.or_eq_none_iff.mpr ⟨ends.1, completion⟩
  refine ⟨after, bind_returns_iff.mpr ⟨(), call, nothing begins, ?_⟩, ends⟩
  refine bind_returns_iff.mpr ⟨(), after, body, bind_returns_iff.mpr ⟨(), after, nothing interrupts, ?_⟩⟩
  refine bind_returns_iff.mpr ⟨after, after, rfl, bind_returns_iff.mpr ⟨(), after, nothing noError, ?_⟩⟩
  refine bind_returns_iff.mpr ⟨(), after, nothing (Option.map_eq_none_iff.mpr allowed), ?_⟩
  rw [if_neg fun reported => (nomatch reported.2.symm.trans handled)]
  rfl

/-- A URL whose path is the name of the file, with nothing there yet. -/
def toNewFile : EasyArguments where
  names := ⟨id, .ok, fun _ name => name, fun _ => true, [], fun url => .ok (some url)⟩
  url := "file".toList
  filename := .nil
  downloadOptions := .empty
  tempfile := none
  replies := .ok

theorem toNewFile_installs (handled : transfer.onFailure = true) (quiet : ¬transfer.RaisesAnyway) :
    (finalState (easyDownload toNewFile transfer) ⟨.empty, none⟩).system.contents "file".toList ≠ none := by
  let made : EasyCall := ⟨System.empty.make ⟨"file".toList, false, false, false⟩, none⟩
  have opened : OpenedCall 0 "file".toList made := ⟨rfl, [], ⟨rfl, rfl⟩⟩
  obtain ⟨after, performs, _, bytes, isOpen⟩ := performEasy_handled handled quiet opened
  have absent : after.system.contents "file".toList = none := by
    have same := (@keepsPaths_performEasy transfer (.safe 0) made.system.contents).of_returns performs rfl
    rw [same]
    rfl
  have started : transfer.new = none := by
    by_contra raises
    exact quiet (Or.inl raises)
  have first : Returns (raiseIfAny transfer.new) ⟨.empty, none⟩ () ⟨.empty, none⟩ :=
    raiseIfAny_returns_iff.mpr ⟨started, rfl⟩
  have prepares : Returns (onEasySystem (prepareDownloadOutput toNewFile)) ⟨.empty, none⟩ (.safe 0) made :=
    rfl
  have returned : Misc.succeeds (performEasy (.safe 0) transfer) made = true := by
    rw [Returns] at performs
    rw [Misc.succeeds, performs]
  rw [easyDownload, first.finalState_bind, prepares.finalState_bind, finalState_ensuringWith, returned,
    performs.finalState_eq]
  show (finalState (onEasySystem (closeSafe 0 true .ok)) after).system.contents "file".toList ≠ none
  unfold onEasySystem
  rw [finalState_zoom]
  show (finalState (closeSafe 0 true .ok) after.system).contents "file".toList ≠ none
  rw [closeSafe_installs isOpen absent]
  exact Option.some_ne_none _

/-- A download installs nothing for a result that is not 0, exactly where `perform` raises for it: no
`on_failure` is installed, or there is something else to raise. -/
theorem easyDownload_installsSuccessOnly_iff (transfer : EasyTransfer) :
    InstallsSuccessOnly transfer ↔
      transfer.lastResult = 0 ∨ transfer.onFailure = false ∨ transfer.RaisesAnyway := by
  constructor
  · intro installs
    by_contra fails
    rw [not_or, not_or, Bool.not_eq_false] at fails
    obtain ⟨failed, handled, quiet⟩ := fails
    have same := installs toNewFile .empty failed
    exact toNewFile_installs handled quiet (congrFun same _)
  · intro raises arguments before failed
    have keeps : KeepsPaths (onEasySystem (prepareDownloadOutput arguments)) :=
      keepsPaths_onEasySystem keepsContents_prepareDownloadOutput
    refine finalState_bind_of (P := fun call : EasyCall => call.system.contents = before.contents) ?_ ?_
    · intro failure stopped new
      exact new.finalState_eq ▸ keepsPaths_raiseIfAny transfer.new before.contents _ rfl
    · intro _ started new
      obtain ⟨noneNew, rfl⟩ := raiseIfAny_returns_iff.mp new
      refine finalState_bind_of (P := fun call : EasyCall => call.system.contents = before.contents) ?_ ?_
      · intro failure stopped prepares
        exact prepares.finalState_eq ▸ keeps before.contents _ rfl
      · intro output made prepares
        have same := (keeps before.contents).of_returns prepares rfl
        have raised : Misc.succeeds (performEasy output transfer) made = false :=
          performEasy_raises (Or.comm.mp (raises.resolve_left failed)) noneNew failed
        rw [finalState_ensuringWith, raised]
        exact keepsPaths_closePerformed arguments.replies before.contents _
          (keepsPaths_performEasy before.contents made same)

/-- The connection is refused, and the block has installed an `on_failure`. -/
def refusedQuietly : EasyTransfer := ⟨none, none, [], none, none, none, 7, true⟩

/-- An empty file is installed. -/
theorem refusedQuietly_installs : ¬∀ transfer, InstallsSuccessOnly transfer := by
  intro always
  have same := congrFun (always refusedQuietly toNewFile .empty (by decide)) "file".toList
  exact absurd same (by decide)

end Curb.Download

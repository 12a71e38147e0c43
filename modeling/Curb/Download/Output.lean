import Mathlib.Logic.Function.Basic
import Curb.Ruby.Basic
import Curb.Multi.Perform

/-!
# Outputs that are installed when they are complete

`Curl::SafeDownloadOutput` (`lib/curl/download.rb:103-159`) writes to a temporary file beside its path
and installs that file where it is closed successfully. The system calls may fail; `File.exist?`,
`File.link` and `O_EXCL` see what is at the path.
-/

namespace Curb.Download
open Curb.Misc Curb.Ruby

/-- A `SystemCallError`. -/
inductive SystemError where
  | fileExists
  | other (errno : Nat)
  deriving DecidableEq, Repr

/-- What the operations of a download raise. -/
inductive Failure where
  | ruby (error : RubyError)
  | targetExists (path : Text)
  | system (error : SystemError)
  /-- `IOError`, of a stream that is closed. -/
  | closedStream
  /-- `Curl::Easy.error` of a result, or what libcurl's failure raises. -/
  | transfer (result : Nat)
  /-- An exception of a callback, a block or of `Multi.http`. -/
  | raised (exception : Perform.RubyException)
  /-- `DownloadError` with its `errors`. -/
  | download (errors : List Failure)

/-- A `SafeDownloadOutput`; its `@tmp` is the temporary file of the same number. -/
structure SafeDownloadOutput where
  path : Text
  overwrite : Bool
  /-- `@tmp.closed?`. -/
  tmpClosed : Bool
  closed : Bool
  deriving DecidableEq, Repr

/-- The file system, the outputs made so far and the `IO`s of the caller. -/
structure System where
  /-- What is at an expanded path. -/
  contents : Text → Option Text
  /-- The temporary files that have not been removed. -/
  tempfiles : Nat → Option Text
  outputs : Nat → Option SafeDownloadOutput
  made : Nat
  ioClosed : ObjectId → Bool

/-- There are no files, and no outputs have been made. -/
def System.empty : System := ⟨fun _ => none, fun _ => none, fun _ => none, 0, fun _ => false⟩

/-- The next temporary file, with its output. -/
def System.make (system : System) (output : SafeDownloadOutput) : System :=
  { system with
    tempfiles := Function.update system.tempfiles system.made (some [])
    outputs := Function.update system.outputs system.made (some output)
    made := system.made + 1 }

def System.setContents (system : System) (path : Text) (data : Text) : System :=
  { system with contents := Function.update system.contents path (some data) }

/-- What has been written to the temporary file. -/
def System.written (system : System) (output : Nat) : Text := (system.tempfiles output).getD []

/-- What `File.link` answers. -/
inductive LinkReply where
  | linked
  | notImplemented
  | fails (error : SystemError)
  deriving DecidableEq, Repr

/-- How the copy that stands in for a link goes. -/
inductive CopyReply where
  | copied
  /-- `File.open` of the target fails, which makes no file. -/
  | notOpened (error : SystemError)
  /-- It fails after this many bytes. -/
  | breaksOff (bytes : Nat) (error : SystemError)
  deriving DecidableEq, Repr

/-- How the system calls of one `close` go. -/
structure CloseReplies where
  flush : Option SystemError
  close : Option SystemError
  rename : Option SystemError
  link : LinkReply
  copy : CopyReply
  /-- `close!` flushes again what a failed `flush` has left in the buffer. -/
  flushAgain : Option SystemError

/-- Every call succeeds. -/
def CloseReplies.ok : CloseReplies := ⟨none, none, none, .linked, .copied, none⟩

abbrev Operation := EStateM Failure System

/-- `SafeDownloadOutput.new`; `Tempfile.new` may raise. -/
def newSafeDownloadOutput (names : Text → Text) (path : Text) (overwrite : Bool)
    (tempfile : Option SystemError) : Operation Nat := fun system =>
  if !overwrite && (system.contents (names path)).isSome then .error (.targetExists (names path)) system
  else
    match tempfile with
    | some error => .error (.system error) system
    | none => .ok system.made (system.make ⟨names path, overwrite, false, false⟩)

/-- `SafeDownloadOutput#write`. -/
def writeSafe (output : Nat) (data : Text) : Operation Unit := fun system =>
  match system.outputs output, system.tempfiles output with
  | some ⟨_, _, false, _⟩, some written => .ok () { system with
      tempfiles := Function.update system.tempfiles output (some (written ++ data)) }
  | _, _ => .error .closedStream system

/-- The `rescue Errno::EEXIST` of the two methods below. -/
def installError (path : Text) : SystemError → Failure
  | .fileExists => .targetExists path
  | error => .system error

/-- `install_tmp_file_by_copy`. -/
def installTmpFileByCopy (output : Nat) (path : Text) (copy : CopyReply) : Operation Unit := fun system =>
  if (system.contents path).isSome then .error (.targetExists path) system
  else
    match copy with
    | .copied => .ok () (system.setContents path (system.written output))
    | .notOpened error => .error (installError path error) system
    | .breaksOff bytes error =>
        .error (installError path error) (system.setContents path ((system.written output).take bytes))

/-- `install_tmp_file`. -/
def installTmpFile (output : Nat) (path : Text) (overwrite : Bool) (replies : CloseReplies) :
    Operation Unit := fun system =>
  if overwrite then
    match replies.rename with
    | none => .ok () { system.setContents path (system.written output) with
        tempfiles := Function.update system.tempfiles output none }
    | some error => .error (installError path error) system
  else
    match replies.link with
    | .linked =>
        if (system.contents path).isSome then .error (.targetExists path) system
        else .ok () (system.setContents path (system.written output))
    | .notImplemented => installTmpFileByCopy output path replies.copy system
    | .fails error => .error (installError path error) system

/-- `@tmp.flush` and `@tmp.close`. -/
def closeTmp (output : Nat) (replies : CloseReplies) : Operation Unit := fun system =>
  match system.outputs output, replies.flush with
  | some ⟨path, overwrite, false, closed⟩, none =>
      let shut := { system with
        outputs := Function.update system.outputs output (some ⟨path, overwrite, true, closed⟩) }
      match replies.close with
      | none => .ok () shut
      | some error => .error (.system error) shut
  | some ⟨_, _, false, _⟩, some error => .error (.system error) system
  | _, _ => .ok () system

/-- `@tmp.close!`, which removes the temporary file, and `@closed = true`. A temporary file that is still open,
since its `flush` has failed, is flushed again and closed first; where that raises, it is not removed. -/
def closeBang (output : Nat) (flushAgain : Option SystemError) : Operation PUnit := fun system =>
  match system.outputs output, flushAgain with
  | some ⟨path, overwrite, false, closed⟩, some error => .error (.system error) { system with
      outputs := Function.update system.outputs output (some ⟨path, overwrite, true, closed⟩) }
  | _, _ => .ok ⟨⟩ { system with
      tempfiles := Function.update system.tempfiles output none
      outputs := Function.update system.outputs output
        ((system.outputs output).map fun value => { value with tmpClosed := true, closed := true }) }

/-- The body of `close` where the output is open. -/
def closeOpen (output : Nat) (value : SafeDownloadOutput) (success : Bool) (replies : CloseReplies) :
    Operation Unit := do
  closeTmp output replies
  if success then installTmpFile output value.path value.overwrite replies else pure ()

/-- `SafeDownloadOutput#close`. -/
def closeSafe (output : Nat) (success : Bool) (replies : CloseReplies) : Operation Unit := fun system =>
  match system.outputs output with
  | none => .ok () system
  | some value =>
      ensuring (if value.closed then pure () else closeOpen output value success replies)
        (closeBang output replies.flushAgain) system

/-! ## What the operations do -/

variable {system middle after : System} {output : Nat} {success : Bool} {replies : CloseReplies}

/-- The path of an output, and whether it may be overwritten there. -/
def System.target (system : System) (output : Nat) : Option (Text × Bool) :=
  (system.outputs output).map fun value => (value.path, value.overwrite)

/-- Nothing but this output, its temporary file and what is at its path has changed. -/
structure Frame (output : Nat) (system after : System) : Prop where
  made : after.made = system.made
  ioClosed : after.ioClosed = system.ioClosed
  outputs : ∀ other, other ≠ output → after.outputs other = system.outputs other
  tempfiles : ∀ other, other ≠ output → after.tempfiles other = system.tempfiles other
  target : after.target output = system.target output

theorem Frame.refl : Frame output system system := ⟨rfl, rfl, fun _ _ => rfl, fun _ _ => rfl, rfl⟩

theorem Frame.trans (first : Frame output system middle) (second : Frame output middle after) :
    Frame output system after := by
  refine ⟨second.made.trans first.made, second.ioClosed.trans first.ioClosed, ?_, ?_,
    second.target.trans first.target⟩
  · exact fun other differs => (second.outputs other differs).trans (first.outputs other differs)
  · exact fun other differs => (second.tempfiles other differs).trans (first.tempfiles other differs)

theorem frame_setContents {path data : Text} : Frame output system (system.setContents path data) :=
  ⟨rfl, rfl, fun _ _ => rfl, fun _ _ => rfl, rfl⟩

theorem frame_tempfiles {data : Option Text} :
    Frame output system { system with tempfiles := Function.update system.tempfiles output data } :=
  ⟨rfl, rfl, fun _ _ => rfl, fun _ differs => Function.update_of_ne differs _ _, rfl⟩

theorem frame_outputs {value value' : SafeDownloadOutput} (made : system.outputs output = some value)
    (path : value'.path = value.path) (overwrite : value'.overwrite = value.overwrite) :
    Frame output system
      { system with outputs := Function.update system.outputs output (some value') } := by
  refine ⟨rfl, rfl, fun _ differs => Function.update_of_ne differs _ _, fun _ _ => rfl, ?_⟩
  show (Function.update system.outputs output (some value') output).map _ = _
  rw [Function.update_self, System.target, made, Option.map_some, Option.map_some, path, overwrite]

/-- What is at a path has changed only where `allowed` says so. -/
def ContentsChange (allowed : Text → Prop) (system after : System) : Prop :=
  ∀ path, after.contents path ≠ system.contents path → allowed path

theorem contentsChange_setContents {path data : Text} {allowed : Text → Prop} (here : allowed path) :
    ContentsChange allowed system (system.setContents path data) := by
  intro other changed
  by_cases same : other = path
  · rw [same]
    exact here
  · exact absurd (Function.update_of_ne same _ _) changed

theorem contentsChange_refl {allowed : Text → Prop} : ContentsChange allowed system system :=
  fun _ changed => absurd rfl changed

/-- The temporary file is shut, or not even that. -/
theorem closeTmp_spec (system : System) (output : Nat) (replies : CloseReplies) :
    Frame output system (finalState (closeTmp output replies) system) ∧
      (finalState (closeTmp output replies) system).contents = system.contents := by
  cases made : system.outputs output with
  | none =>
    simp only [finalState, closeTmp, made]
    exact ⟨.refl, trivial⟩
  | some value =>
    obtain ⟨path, overwrite, tmpClosed, closed⟩ := value
    cases tmpClosed with
    | true =>
      simp only [finalState, closeTmp, made]
      exact ⟨.refl, trivial⟩
    | false =>
      cases flushed : replies.flush with
      | some error =>
        simp only [finalState, closeTmp, made, flushed]
        exact ⟨.refl, trivial⟩
      | none =>
        have shut : Frame output system { system with
            outputs := Function.update system.outputs output (some ⟨path, overwrite, true, closed⟩) } :=
          frame_outputs made rfl rfl
        cases closes : replies.close with
        | none =>
          simp only [finalState, closeTmp, made, flushed, closes]
          exact ⟨shut, trivial⟩
        | some error =>
          simp only [finalState, closeTmp, made, flushed, closes]
          exact ⟨shut, trivial⟩

theorem installTmpFileByCopy_spec (system : System) (output : Nat) (path : Text)
    (copy : CopyReply) :
    Frame output system (finalState (installTmpFileByCopy output path copy) system) ∧
      ContentsChange (fun other => other = path ∧ system.contents other = none) system
        (finalState (installTmpFileByCopy output path copy) system) := by
  cases present : (system.contents path).isSome with
  | true =>
    simp only [finalState, installTmpFileByCopy, present, if_true]
    exact ⟨.refl, contentsChange_refl⟩
  | false =>
    have absent := Option.isNone_iff_eq_none.mp (Option.isSome_eq_false_iff.mp present)
    have nothing : path = path ∧ system.contents path = none := ⟨rfl, absent⟩
    cases copy with
    | copied =>
      simp only [finalState, installTmpFileByCopy, present]
      exact ⟨frame_setContents, contentsChange_setContents nothing⟩
    | notOpened error =>
      simp only [finalState, installTmpFileByCopy, present]
      exact ⟨.refl, contentsChange_refl⟩
    | breaksOff bytes error =>
      simp only [finalState, installTmpFileByCopy, present]
      exact ⟨frame_setContents, contentsChange_setContents nothing⟩

/-- Only an output that may overwrite replaces what is at its path. -/
theorem installTmpFile_spec (system : System) (output : Nat) (path : Text) (overwrite : Bool)
    (replies : CloseReplies) :
    Frame output system (finalState (installTmpFile output path overwrite replies) system) ∧
      ContentsChange (fun other => other = path ∧ (overwrite = true ∨ system.contents other = none))
        system (finalState (installTmpFile output path overwrite replies) system) := by
  cases overwrite with
  | true =>
    cases renamed : replies.rename with
    | none =>
      simp only [finalState, installTmpFile, renamed, if_true]
      refine ⟨frame_setContents.trans frame_tempfiles, ?_⟩
      exact @contentsChange_setContents system path _ _ ⟨rfl, Or.inl trivial⟩
    | some error =>
      simp only [finalState, installTmpFile, renamed, if_true]
      exact ⟨.refl, contentsChange_refl⟩
  | false =>
    cases linked : replies.link with
    | linked =>
      cases present : (system.contents path).isSome with
      | true =>
        simp only [finalState, installTmpFile, linked, present]
        exact ⟨.refl, contentsChange_refl⟩
      | false =>
        have nothing := Option.isNone_iff_eq_none.mp (Option.isSome_eq_false_iff.mp present)
        simp only [finalState, installTmpFile, linked, present]
        exact ⟨frame_setContents, contentsChange_setContents ⟨rfl, Or.inr nothing⟩⟩
    | notImplemented =>
      have copies : finalState (installTmpFile output path false replies) system =
          finalState (installTmpFileByCopy output path replies.copy) system := by
        simp only [finalState, installTmpFile, linked]
        rfl
      obtain ⟨frame, changes⟩ := installTmpFileByCopy_spec system output path replies.copy
      rw [copies]
      refine ⟨frame, fun other changed => ?_⟩
      obtain ⟨here, nothing⟩ := changes other changed
      exact ⟨here, Or.inr nothing⟩
    | fails error =>
      simp only [finalState, installTmpFile, linked]
      exact ⟨.refl, contentsChange_refl⟩

/-- The output may have been installed at its path, where it is closed successfully. -/
def Installs (output : Nat) (success : Bool) (system after : System) : Prop :=
  Frame output system after ∧
    ContentsChange (fun path => success = true ∧ ∃ overwrite,
      system.target output = some (path, overwrite) ∧
        (overwrite = true ∨ system.contents path = none)) system after

theorem closeOpen_spec {value : SafeDownloadOutput} (made : system.outputs output = some value)
    (success : Bool) (replies : CloseReplies) :
    Installs output success system (finalState (closeOpen output value success replies) system) := by
  have target : system.target output = some (value.path, value.overwrite) := by
    rw [System.target, made, Option.map_some]
  obtain ⟨shut, unchanged⟩ := closeTmp_spec system output replies
  refine finalState_bind_of (P := Installs output success system) ?_ ?_
  · intro error stopped raises
    rw [raises.finalState_eq] at shut unchanged
    exact ⟨shut, fun path changed => absurd (congrFun unchanged path) changed⟩
  · intro _ middle returns
    rw [returns.finalState_eq] at shut unchanged
    cases success with
    | false => exact ⟨shut, fun path changed => absurd (congrFun unchanged path) changed⟩
    | true =>
      obtain ⟨installed, changes⟩ :=
        installTmpFile_spec middle output value.path value.overwrite replies
      refine ⟨shut.trans installed, fun path changed => ?_⟩
      rw [← unchanged] at changed
      obtain ⟨rfl, allowed⟩ := changes path changed
      rw [unchanged] at allowed
      exact ⟨rfl, value.overwrite, target, allowed⟩

/-- Where no flush of a file that is still open fails, `close!` removes the temporary file. -/
theorem closeBang_removes {flushAgain : Option SystemError}
    (flushes : flushAgain = none ∨ ∀ value, system.outputs output = some value → value.tmpClosed = true) :
    Returns (closeBang output flushAgain) system ⟨⟩ { system with
      tempfiles := Function.update system.tempfiles output none
      outputs := Function.update system.outputs output
        ((system.outputs output).map fun value => { value with tmpClosed := true, closed := true }) } := by
  unfold Returns closeBang
  cases stored : system.outputs output with
  | none => rfl
  | some value =>
    obtain ⟨path, overwrite, tmpClosed, closed⟩ := value
    rcases flushes with rfl | shut
    · cases tmpClosed <;> rfl
    · cases shut _ stored
      rfl

/-- Where it raises, the temporary file stays. -/
theorem closeBang_raises {path : Text} {overwrite closed : Bool} {error : SystemError}
    (stored : system.outputs output = some ⟨path, overwrite, false, closed⟩) :
    Raises (closeBang output (some error)) system (.system error) { system with
      outputs := Function.update system.outputs output (some ⟨path, overwrite, true, closed⟩) } := by
  simp only [Raises, closeBang, stored]

theorem closeBang_spec (system : System) (output : Nat) (flushAgain : Option SystemError) :
    Frame output system (finalState (closeBang output flushAgain) system) ∧
      (finalState (closeBang output flushAgain) system).contents = system.contents := by
  have removes : flushAgain = none ∨
      (∀ value, system.outputs output = some value → value.tmpClosed = true) →
      Frame output system (finalState (closeBang output flushAgain) system) ∧
        (finalState (closeBang output flushAgain) system).contents = system.contents := by
    intro flushes
    rw [(closeBang_removes flushes).finalState_eq]
    refine ⟨⟨rfl, rfl, ?_, ?_, ?_⟩, rfl⟩
    · exact fun other differs => Function.update_of_ne differs _ _
    · exact fun other differs => Function.update_of_ne differs _ _
    · show (Function.update system.outputs output _ output).map _ = _
      rw [Function.update_self, Option.map_map]
      rfl
  cases stored : system.outputs output with
  | none => exact removes (Or.inr fun value is => absurd (stored.symm.trans is) (Option.some_ne_none value).symm)
  | some value =>
    obtain ⟨path, overwrite, tmpClosed, closed⟩ := value
    cases flushAgain with
    | none => exact removes (Or.inl rfl)
    | some error =>
      cases tmpClosed with
      | true =>
        refine removes (Or.inr fun value is => ?_)
        rw [← Option.some.inj (stored.symm.trans is)]
      | false =>
        rw [(closeBang_raises stored).finalState_eq]
        exact ⟨frame_outputs stored rfl rfl, rfl⟩

/-- What `close` does to an output, however the system calls go. -/
structure Closes (output : Nat) (success : Bool) (replies : CloseReplies) (system after : System) : Prop where
  installs : Installs output success system after
  stored : ∃ value, after.outputs output = some value
  removed : replies.flushAgain = none → after.tempfiles output = none ∧
    ∃ value, after.outputs output = some value ∧ value.closed = true

theorem closeSafe_spec {value : SafeDownloadOutput} (made : system.outputs output = some value)
    (success : Bool) (replies : CloseReplies) :
    Closes output success replies system (finalState (closeSafe output success replies) system) := by
  let body : Operation Unit := if value.closed then pure () else closeOpen output value success replies
  have ends : finalState (closeSafe output success replies) system =
      finalState (closeBang output replies.flushAgain) (finalState body system) := by
    rw [← finalState_ensuring]
    simp only [finalState, closeSafe, made]
    rfl
  have installs : Installs output success system (finalState body system) := by
    by_cases closed : value.closed = true
    · rw [show body = pure () from if_pos closed]
      exact ⟨.refl, contentsChange_refl⟩
    · rw [show body = closeOpen output value success replies from if_neg closed]
      exact closeOpen_spec made success replies
  obtain ⟨inside, changes⟩ := installs
  obtain ⟨bang, unchanged⟩ := closeBang_spec (finalState body system) output replies.flushAgain
  have target := (inside.trans bang).target
  have insideTarget := inside.target
  rw [System.target, System.target, made, Option.map_some] at target insideTarget
  obtain ⟨last, stored, _⟩ := Option.map_eq_some_iff.mp target
  obtain ⟨before, storedBefore, _⟩ := Option.map_eq_some_iff.mp insideTarget
  rw [ends]
  refine ⟨⟨inside.trans bang, fun path changed => changes path ?_⟩, ⟨last, stored⟩, fun flushes => ?_⟩
  · rwa [unchanged] at changed
  · rw [(closeBang_removes (Or.inl flushes)).finalState_eq]
    refine ⟨Function.update_self _ _ _, { before with tmpClosed := true, closed := true }, ?_, rfl⟩
    show Function.update (finalState body system).outputs output _ output = _
    rw [Function.update_self, storedBefore, Option.map_some]

/-- An output is made where nothing is at its path or that may be overwritten. -/
theorem newSafeDownloadOutput_spec (names : Text → Text) (path : Text) (overwrite : Bool)
    (tempfile : Option SystemError) (system : System) :
    (∃ failure, Raises (newSafeDownloadOutput names path overwrite tempfile) system failure system) ∨
      Returns (newSafeDownloadOutput names path overwrite tempfile) system system.made
        (system.make ⟨names path, overwrite, false, false⟩) := by
  unfold Raises Returns newSafeDownloadOutput
  by_cases present : (!overwrite && (system.contents (names path)).isSome) = true
  · rw [if_pos present]
    exact Or.inl ⟨_, rfl⟩
  · rw [if_neg present]
    cases tempfile with
    | none => exact Or.inr rfl
    | some error => exact Or.inl ⟨_, rfl⟩

/-- A write reaches the temporary file of an open output, and nothing else. -/
theorem writeSafe_spec (output : Nat) (data : Text) (system : System) :
    finalState (writeSafe output data) system = system ∨
      ∃ written, system.tempfiles output = some written ∧
        finalState (writeSafe output data) system = { system with
          tempfiles := Function.update system.tempfiles output (some (written ++ data)) } := by
  cases made : system.outputs output with
  | none =>
    refine Or.inl ?_
    simp only [finalState, writeSafe, made]
  | some value =>
    obtain ⟨path, overwrite, tmpClosed, closed⟩ := value
    cases tmpClosed with
    | true =>
      refine Or.inl ?_
      simp only [finalState, writeSafe, made]
    | false =>
      cases written : system.tempfiles output with
      | none =>
        refine Or.inl ?_
        simp only [finalState, writeSafe, made, written]
      | some data' =>
        refine Or.inr ⟨data', rfl, ?_⟩
        simp only [finalState, writeSafe, made, written]

end Curb.Download

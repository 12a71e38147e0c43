import Curb.Download.Output

/-!
# What a close publishes

An output is written to and closed, while other programs put files at its path and remove them. A close
publishes what has been written, or leaves the path alone, unless the copy that stands in for a hard
link breaks off: then the file it has made stays behind. The temporary file stays behind where neither
`flush` nor the flush of `close!` succeeds.
-/

namespace Curb.Download
open Curb.Misc Curb.Ruby

/-- What happens to an output, or around it, before it is closed. -/
inductive Use where
  | write (data : Text)
  /-- Another program puts a file at a path, or removes it. -/
  | outside (path : Text) (data : Option Text)

def use (output : Nat) : Use → Operation Unit
  | .write data => writeSafe output data
  | .outside path data => modify fun system =>
      { system with contents := Function.update system.contents path data }

/-- The bytes that are written, in order. -/
def bytesWritten : List Use → Text
  | [] => []
  | .write data :: rest => data ++ bytesWritten rest
  | .outside _ _ :: rest => bytesWritten rest

/-- The output is open, with these bytes in its temporary file. -/
structure Opened (output : Nat) (path : Text) (overwrite : Bool) (bytes : Text) (system : System) : Prop where
  stored : system.outputs output = some ⟨path, overwrite, false, false⟩
  written : system.tempfiles output = some bytes

/-- The path holds what it held or the bytes; it holds what it held where `close` raises, where it was
not successful, and where a file is not to be overwritten. -/
structure PublishesAtomically (output : Nat) (path : Text) (overwrite : Bool) (bytes : Text) (success : Bool)
    (replies : CloseReplies) (before : System) : Prop where
  either : (finalState (closeSafe output success replies) before).contents path = before.contents path ∨
    (finalState (closeSafe output success replies) before).contents path = some bytes
  raised : ∀ failure after, Raises (closeSafe output success replies) before failure after →
    after.contents path = before.contents path
  discarded : success = false →
    (finalState (closeSafe output success replies) before).contents path = before.contents path
  kept : overwrite = false → before.contents path ≠ none →
    (finalState (closeSafe output success replies) before).contents path = before.contents path
  removed : (finalState (closeSafe output success replies) before).tempfiles output = none

/-- The file is copied to where there is none, and the copy fails when it has been made. -/
structure BreaksOff (path : Text) (overwrite : Bool) (replies : CloseReplies) (system : System) : Prop where
  exclusive : overwrite = false
  links : replies.link = .notImplemented
  absent : system.contents path = none
  fails : ∃ count error, replies.copy = .breaksOff count error

/-- A successful close comes to that copy. -/
structure CopyBreaksOff (path : Text) (overwrite success : Bool) (replies : CloseReplies)
    (before : System) : Prop where
  successful : success = true
  flushes : replies.flush = none
  closes : replies.close = none
  copy : BreaksOff path overwrite replies before

/-- Neither flush of the temporary file succeeds. -/
structure FlushFailsTwice (replies : CloseReplies) : Prop where
  first : replies.flush ≠ none
  again : replies.flushAgain ≠ none

variable {system before after : System} {output : Nat} {path bytes : Text} {overwrite success : Bool}
  {replies : CloseReplies}

/-! ## Up to the close -/

theorem opened_newSafeDownloadOutput {names : Text → Text} {tempfile : Option SystemError}
    (made : Returns (newSafeDownloadOutput names path overwrite tempfile) before output system) :
    Opened output (names path) overwrite [] system := by
  rcases newSafeDownloadOutput_spec names path overwrite tempfile before with ⟨failure, raises⟩ | returns
  · exact absurd raises made.not_raises
  · obtain ⟨rfl, rfl⟩ := returns.unique made
    exact ⟨Function.update_self _ _ _, Function.update_self _ _ _⟩

theorem opened_use (opened : Opened output path overwrite bytes system) (each : Use) :
    Opened output path overwrite (bytes ++ bytesWritten [each]) (finalState (use output each) system) := by
  obtain ⟨stored, written⟩ := opened
  cases each with
  | write data =>
    have writes : finalState (use output (.write data)) system = { system with
        tempfiles := Function.update system.tempfiles output (some (bytes ++ data)) } := by
      simp only [finalState, use, writeSafe, stored, written]
    rw [writes, bytesWritten, bytesWritten, List.append_nil]
    exact ⟨stored, Function.update_self _ _ _⟩
  | outside path' data =>
    rw [bytesWritten, bytesWritten, List.append_nil]
    exact ⟨stored, written⟩

/-- An output that is open can be written to. -/
theorem use_returns (opened : Opened output path overwrite bytes system) (each : Use) :
    Returns (use output each) system () (finalState (use output each) system) := by
  cases each with
  | write data => simp only [Returns, finalState, use, writeSafe, opened.stored, opened.written]
  | outside path' data => rfl

theorem bytesWritten_cons (each : Use) (rest : List Use) :
    bytesWritten (each :: rest) = bytesWritten [each] ++ bytesWritten rest := by
  cases each with
  | write data => simp only [bytesWritten, List.append_nil]
  | outside path' data => rfl

theorem opened_uses (opened : Opened output path overwrite bytes system) (uses : List Use) :
    Opened output path overwrite (bytes ++ bytesWritten uses)
      (finalState (uses.forM (use output)) system) := by
  induction uses generalizing system bytes with
  | nil =>
    rw [bytesWritten, List.append_nil]
    exact opened
  | cons each rest ih =>
    have next := ih (opened_use opened each)
    rw [bytesWritten_cons, ← List.append_assoc]
    show Opened _ _ _ _ (finalState (use output each >>= fun _ => rest.forM (use output)) system)
    rw [(use_returns opened each).finalState_bind]
    exact next

/-! ## Publication -/

/-- A copy is complete, or makes no file, or it breaks off. -/
theorem installTmpFileByCopy_cases (written : system.tempfiles output = some bytes) (copy : CopyReply) :
    (∃ after, Returns (installTmpFileByCopy output path copy) system () after ∧
        after.contents path = some bytes ∧ system.contents path = none) ∨
      (∃ failure, Raises (installTmpFileByCopy output path copy) system failure system) ∨
      ∃ failure stopped, Raises (installTmpFileByCopy output path copy) system failure stopped ∧
        stopped.contents path ≠ none ∧ system.contents path = none ∧
        ∃ count error, copy = .breaksOff count error := by
  have data : system.written output = bytes := by rw [System.written, written, Option.getD_some]
  cases present : (system.contents path).isSome with
  | true =>
    refine Or.inr (Or.inl ⟨.targetExists path, ?_⟩)
    simp only [Raises, installTmpFileByCopy, present, if_true]
  | false =>
    have absent := Option.isNone_iff_eq_none.mp (Option.isSome_eq_false_iff.mp present)
    have stays (data : Text) : (system.setContents path data).contents path = some data :=
      Function.update_self _ _ _
    cases copy with
    | copied =>
      refine Or.inl ⟨system.setContents path bytes, ?_, stays bytes, absent⟩
      simp only [Returns, installTmpFileByCopy, present, data]
      rfl
    | notOpened error =>
      refine Or.inr (Or.inl ⟨installError path error, ?_⟩)
      simp only [Raises, installTmpFileByCopy, present]
      rfl
    | breaksOff count error =>
      refine Or.inr (Or.inr ⟨installError path error, system.setContents path (bytes.take count),
        ?_, ?_, absent, count, error, rfl⟩)
      · simp only [Raises, installTmpFileByCopy, present, data]
        rfl
      · rw [stays]
        exact Option.some_ne_none _

/-- The bytes are installed, or the path is left alone with an exception, or the copy breaks off. -/
theorem installTmpFile_cases (written : system.tempfiles output = some bytes) (path : Text)
    (overwrite : Bool) (replies : CloseReplies) :
    (∃ after, Returns (installTmpFile output path overwrite replies) system () after ∧
        after.contents path = some bytes ∧ (overwrite = false → system.contents path = none)) ∨
      (∃ failure, Raises (installTmpFile output path overwrite replies) system failure system) ∨
      ∃ failure stopped, Raises (installTmpFile output path overwrite replies) system failure stopped ∧
        stopped.contents path ≠ none ∧ BreaksOff path overwrite replies system := by
  have data : system.written output = bytes := by rw [System.written, written, Option.getD_some]
  have stays : (system.setContents path bytes).contents path = some bytes := Function.update_self _ _ _
  cases overwrite with
  | true =>
    cases renamed : replies.rename with
    | none =>
      refine Or.inl ⟨{ system.setContents path bytes with
        tempfiles := Function.update system.tempfiles output none }, ?_, stays, nofun⟩
      simp only [Returns, installTmpFile, renamed, if_true, data]
    | some error =>
      refine Or.inr (Or.inl ⟨installError path error, ?_⟩)
      simp only [Raises, installTmpFile, renamed, if_true]
  | false =>
    cases linked : replies.link with
    | linked =>
      cases present : (system.contents path).isSome with
      | true =>
        refine Or.inr (Or.inl ⟨.targetExists path, ?_⟩)
        simp only [Raises, installTmpFile, linked, present]
        rfl
      | false =>
        have absent := Option.isNone_iff_eq_none.mp (Option.isSome_eq_false_iff.mp present)
        refine Or.inl ⟨system.setContents path bytes, ?_, stays, fun _ => absent⟩
        simp only [Returns, installTmpFile, linked, present, data]
        rfl
    | notImplemented =>
      have copies : installTmpFile output path false replies system =
          installTmpFileByCopy output path replies.copy system := by
        simp only [installTmpFile, linked]
        rfl
      simp only [Returns, Raises, copies]
      rcases @installTmpFileByCopy_cases system output path bytes written replies.copy with
        ⟨after, returns, installed, absent⟩ | ⟨failure, raises⟩ | ⟨failure, stopped, raises, part, absent, fails⟩
      · exact Or.inl ⟨after, returns, installed, fun _ => absent⟩
      · exact Or.inr (Or.inl ⟨failure, raises⟩)
      · exact Or.inr (Or.inr ⟨failure, stopped, raises, part, rfl, linked, absent, fails⟩)
    | fails error =>
      refine Or.inr (Or.inl ⟨installError path error, ?_⟩)
      simp only [Raises, installTmpFile, linked]
      rfl

/-- The temporary file is shut exactly where both calls succeed. -/
theorem closeTmp_cases (opened : Opened output path overwrite bytes system) (replies : CloseReplies) :
    (∃ shut, Returns (closeTmp output replies) system () shut ∧ shut.contents = system.contents ∧
        shut.tempfiles output = some bytes ∧ replies.flush = none ∧ replies.close = none) ∨
      ∃ failure stopped, Raises (closeTmp output replies) system failure stopped ∧
        stopped.contents = system.contents ∧ ¬(replies.flush = none ∧ replies.close = none) := by
  let shut : System := { system with
    outputs := Function.update system.outputs output (some ⟨path, overwrite, true, false⟩) }
  cases flushed : replies.flush with
  | some error =>
    refine Or.inr ⟨.system error, system, ?_, rfl, fun both => (nomatch both.1)⟩
    simp only [Raises, closeTmp, opened.stored, flushed]
  | none =>
    cases closes : replies.close with
    | none =>
      refine Or.inl ⟨shut, ?_, rfl, opened.written, rfl, rfl⟩
      simp only [Returns, closeTmp, opened.stored, flushed, closes, shut]
    | some error =>
      refine Or.inr ⟨.system error, shut, ?_, rfl, fun both => (nomatch both.2)⟩
      simp only [Raises, closeTmp, opened.stored, flushed, closes, shut]

/-- The four ways a close of an open output goes: it discards the bytes, it installs them, it raises
and leaves the path alone, or its copy breaks off. -/
theorem closeOpen_cases (opened : Opened output path overwrite bytes system) (success : Bool)
    (replies : CloseReplies) :
    let close := closeOpen output ⟨path, overwrite, false, false⟩ success replies
    (∃ after, Returns close system () after ∧ success = false ∧ after.contents = system.contents) ∨
      (∃ after, Returns close system () after ∧ success = true ∧ after.contents path = some bytes ∧
        (overwrite = false → system.contents path = none)) ∨
      (∃ failure stopped, Raises close system failure stopped ∧ stopped.contents = system.contents) ∨
      ∃ failure stopped, Raises close system failure stopped ∧ stopped.contents path ≠ none ∧
        CopyBreaksOff path overwrite success replies system := by
  intro close
  rcases closeTmp_cases opened replies with
    ⟨shut, shuts, same, written, flushes, closes⟩ | ⟨failure, stopped, raises, same, _⟩
  · cases success with
    | false => exact Or.inl ⟨shut, bind_returns_iff.mpr ⟨(), shut, shuts, rfl⟩, rfl, same⟩
    | true =>
      refine Or.inr ?_
      rcases installTmpFile_cases written path overwrite replies with
        ⟨after, returns, installed, absent⟩ | ⟨failure, raises⟩ | ⟨failure, stopped, raises, part, breaks⟩
      · refine Or.inl ⟨after, bind_returns_iff.mpr ⟨(), shut, shuts, returns⟩, rfl, installed, ?_⟩
        rwa [same] at absent
      · refine Or.inr (Or.inl ⟨failure, shut, ?_, same⟩)
        exact bind_raises_iff.mpr (Or.inr ⟨(), shut, shuts, raises⟩)
      · refine Or.inr (Or.inr ⟨failure, stopped, ?_, part, rfl, flushes, closes, ?_⟩)
        · exact bind_raises_iff.mpr (Or.inr ⟨(), shut, shuts, raises⟩)
        · exact ⟨breaks.exclusive, breaks.links, same ▸ breaks.absent, breaks.fails⟩
  · exact Or.inr (Or.inr (Or.inl ⟨failure, stopped, bind_raises_iff.mpr (Or.inl raises), same⟩))

/-- A copy that breaks off raises, and leaves a file. -/
theorem closeOpen_of_copyBreaksOff (opened : Opened output path overwrite bytes system)
    (breaks : CopyBreaksOff path overwrite success replies system) :
    ∃ failure stopped, Raises (closeOpen output ⟨path, overwrite, false, false⟩ success replies) system
      failure stopped ∧ stopped.contents path ≠ none := by
  obtain ⟨rfl, flushes, closes, rfl, links, absent, fails⟩ := breaks
  rcases closeTmp_cases opened replies with
    ⟨shut, shuts, same, written, _, _⟩ | ⟨_, _, _, _, fail⟩
  · obtain ⟨count, error, copy⟩ := fails
    have nothing : (shut.contents path).isSome = false := by rw [same, absent, Option.isSome_none]
    let part := shut.setContents path ((shut.written output).take count)
    refine ⟨installError path error, part, ?_, ?_⟩
    · have installs : Raises (installTmpFile output path false replies) shut (installError path error) part := by
        simp only [Raises, installTmpFile, links, installTmpFileByCopy, nothing, copy, part]
        rfl
      exact bind_raises_iff.mpr (Or.inr ⟨(), shut, shuts, installs⟩)
    · have stays : part.contents path = some ((shut.written output).take count) :=
        Function.update_self _ _ _
      rw [stays]
      exact Option.some_ne_none _
  · exact absurd ⟨flushes, closes⟩ fail

/-! ## The close -/

/-- What is installed changes no output. -/
theorem installTmpFile_outputs (path : Text) (overwrite : Bool) (replies : CloseReplies) :
    (finalState (installTmpFile output path overwrite replies) system).outputs = system.outputs := by
  unfold finalState installTmpFile
  cases overwrite with
  | true => cases replies.rename <;> rfl
  | false =>
    cases linked : replies.link with
    | linked => cases present : (system.contents path).isSome <;> simp [System.setContents]
    | notImplemented =>
      cases present : (system.contents path).isSome with
      | true => simp [installTmpFileByCopy, present]
      | false => cases copy : replies.copy <;> simp [installTmpFileByCopy, present, System.setContents]
    | fails error => rfl

/-- Where `flush` succeeds, the temporary file is shut before `close!`. -/
theorem closeOpen_shuts (opened : Opened output path overwrite bytes system) (flushes : replies.flush = none) :
    (finalState (closeOpen output ⟨path, overwrite, false, false⟩ success replies) system).outputs output =
      some ⟨path, overwrite, true, false⟩ := by
  let shut : System := { system with
    outputs := Function.update system.outputs output (some ⟨path, overwrite, true, false⟩) }
  have isShut : shut.outputs output = some ⟨path, overwrite, true, false⟩ := Function.update_self _ _ _
  cases closes : replies.close with
  | some error =>
    have raises : Raises (closeTmp output replies) system (.system error) shut := by
      simp only [Raises, closeTmp, opened.stored, flushes, closes, shut]
    rw [closeOpen, raises.finalState_bind]
    exact isShut
  | none =>
    have returns : Returns (closeTmp output replies) system () shut := by
      simp only [Returns, closeTmp, opened.stored, flushes, closes, shut]
    rw [closeOpen, returns.finalState_bind]
    cases success with
    | false => exact isShut
    | true =>
      show (finalState (installTmpFile output path overwrite replies) shut).outputs output = _
      rw [installTmpFile_outputs]
      exact isShut

/-- Where it fails, nothing has been done before `close!`. -/
theorem closeOpen_of_flush (opened : Opened output path overwrite bytes system) {error : SystemError}
    (fails : replies.flush = some error) :
    Raises (closeOpen output ⟨path, overwrite, false, false⟩ success replies) system (.system error) system := by
  refine bind_raises_iff.mpr (Or.inl ?_)
  simp only [Raises, closeTmp, opened.stored, fails]

theorem finalState_closeSafe (opened : Opened output path overwrite bytes system) :
    finalState (closeSafe output success replies) system =
      finalState (closeBang output replies.flushAgain)
        (finalState (closeOpen output ⟨path, overwrite, false, false⟩ success replies) system) := by
  rw [← finalState_ensuring]
  simp only [finalState, closeSafe, opened.stored]
  rfl

/-- A body that returns has flushed, and `close!` returns too. -/
theorem closeSafe_returns (opened : Opened output path overwrite bytes system)
    (returns : Returns (closeOpen output ⟨path, overwrite, false, false⟩ success replies) system () after) :
    Returns (closeSafe output success replies) system ()
      (finalState (closeBang output replies.flushAgain) after) := by
  have flushes : replies.flush = none := by
    cases fails : replies.flush with
    | none => rfl
    | some error => exact absurd (closeOpen_of_flush opened fails) returns.not_raises
  have stored := @closeOpen_shuts system output path bytes overwrite success replies opened flushes
  rw [returns.finalState_eq] at stored
  have bang : Returns (closeBang output replies.flushAgain) after ⟨⟩ _ := closeBang_removes
    (Or.inr fun value is => by rw [← Option.some.inj (stored.symm.trans is)])
  rw [Returns] at returns
  rw [bang.finalState_eq]
  rw [Returns] at bang
  simp only [Returns, closeSafe, opened.stored, ensuring, Bool.false_eq_true, if_false, returns, bang]

theorem closeSafe_raises (opened : Opened output path overwrite bytes system) {failure : Failure}
    (raises : Raises (closeOpen output ⟨path, overwrite, false, false⟩ success replies) system failure
      after) :
    ∃ failure, Raises (closeSafe output success replies) system failure
      (finalState (closeBang output replies.flushAgain) after) := by
  rw [Raises] at raises
  simp only [Raises, closeSafe, opened.stored, ensuring, Bool.false_eq_true, if_false, raises]
  unfold finalState
  cases closeBang output replies.flushAgain after with
  | ok _ gone => exact ⟨failure, rfl⟩
  | error again stays => exact ⟨again, rfl⟩

/-- The `ensure` clause adds nothing to what is at the paths. -/
theorem contents_closeBang (output : Nat) (flushAgain : Option SystemError) (system : System) :
    (finalState (closeBang output flushAgain) system).contents = system.contents :=
  (closeBang_spec system output flushAgain).2

/-- The temporary file is gone, unless neither flush succeeds. -/
theorem closeSafe_removed_iff (opened : Opened output path overwrite bytes system) :
    (finalState (closeSafe output success replies) system).tempfiles output = none ↔
      ¬FlushFailsTwice replies := by
  rw [finalState_closeSafe opened]
  have removed {after : System} (flushes : replies.flushAgain = none ∨
      ∀ value, after.outputs output = some value → value.tmpClosed = true) :
      (finalState (closeBang output replies.flushAgain) after).tempfiles output = none := by
    rw [(closeBang_removes flushes).finalState_eq]
    exact Function.update_self _ _ _
  cases fails : replies.flush with
  | none =>
    have stored := @closeOpen_shuts system output path bytes overwrite success replies opened fails
    refine iff_of_true (removed (Or.inr fun value is => ?_)) fun twice => twice.first fails
    rw [← Option.some.inj (stored.symm.trans is)]
  | some error =>
    rw [(closeOpen_of_flush opened fails).finalState_eq]
    cases again : replies.flushAgain with
    | none =>
      refine iff_of_true ?_ fun twice => twice.again again
      rw [← again]
      exact removed (Or.inl again)
    | some error' =>
      rw [(closeBang_raises opened.stored).finalState_eq]
      refine iff_of_false (fun gone => ?_) fun once => once ⟨?_, ?_⟩
      · exact Option.some_ne_none bytes (opened.written.symm.trans gone)
      · rw [fails]
        exact Option.some_ne_none error
      · rw [again]
        exact Option.some_ne_none error'

/-- Where every call succeeds and nothing is at the path, the bytes are installed there. -/
theorem closeSafe_installs (opened : Opened output path false bytes system)
    (absent : system.contents path = none) :
    (finalState (closeSafe output true .ok) system).contents path = some bytes := by
  have data : system.written output = bytes := by rw [System.written, opened.written, Option.getD_some]
  let shut : System := { system with
    outputs := Function.update system.outputs output (some ⟨path, false, true, false⟩) }
  have shuts : Returns (closeTmp output .ok) system () shut := by
    simp only [Returns, closeTmp, opened.stored, CloseReplies.ok, shut]
  have installs : Returns (installTmpFile output path false .ok) shut () (shut.setContents path bytes) := by
    have nothing : (shut.contents path).isSome = false := by rw [absent, Option.isSome_none]
    have sameData : shut.written output = bytes := data
    simp only [Returns, installTmpFile, CloseReplies.ok, nothing, sameData]
    rfl
  have body : Returns (closeOpen output ⟨path, false, false, false⟩ true .ok) system ()
      (shut.setContents path bytes) := bind_returns_iff.mpr ⟨(), shut, shuts, installs⟩
  have closes := closeSafe_returns opened body
  rw [closes.finalState_eq, contents_closeBang]
  exact Function.update_self _ _ _

/-- An open output is published atomically, unless the copy breaks off or neither flush succeeds. -/
theorem publishesAtomically_iff (opened : Opened output path overwrite bytes system) (success : Bool)
    (replies : CloseReplies) :
    PublishesAtomically output path overwrite bytes success replies system ↔
      ¬CopyBreaksOff path overwrite success replies system ∧ ¬FlushFailsTwice replies := by
  have removed := @closeSafe_removed_iff system output path bytes overwrite success replies opened
  constructor
  · intro atomic
    refine ⟨fun breaks => ?_, removed.mp atomic.removed⟩
    obtain ⟨failure, stopped, raises, part⟩ := closeOpen_of_copyBreaksOff opened breaks
    obtain ⟨failure', raises'⟩ := closeSafe_raises opened raises
    have same := atomic.raised failure' _ raises'
    rw [contents_closeBang, breaks.copy.absent] at same
    exact part same
  · rintro ⟨whole, flushes⟩
    rcases closeOpen_cases opened success replies with ⟨after, returns, discards, same⟩ |
      ⟨after, returns, installs, installed, absent⟩ | ⟨failure, stopped, raises, same⟩ |
      ⟨_, _, _, _, breaks⟩
    · have closes := closeSafe_returns opened returns
      have still : (finalState (closeSafe output success replies) system).contents path =
          system.contents path := by
        rw [closes.finalState_eq, contents_closeBang, same]
      exact ⟨Or.inl still, fun _ _ raises => absurd raises closes.not_raises, fun _ => still,
        fun _ _ => still, removed.mpr flushes⟩
    · have closes := closeSafe_returns opened returns
      have here : (finalState (closeSafe output success replies) system).contents path = some bytes := by
        rw [closes.finalState_eq, contents_closeBang, installed]
      refine ⟨Or.inr here, fun _ _ raises => absurd raises closes.not_raises, ?_, ?_, removed.mpr flushes⟩
      · exact fun discards => (nomatch installs.symm.trans discards)
      · exact fun exclusive present => absurd (absent exclusive) present
    · obtain ⟨failure', closes⟩ := closeSafe_raises opened raises
      have still : (finalState (closeSafe output success replies) system).contents path =
          system.contents path := by
        rw [closes.finalState_eq, contents_closeBang, same]
      refine ⟨Or.inl still, ?_, fun _ => still, fun _ _ => still, removed.mpr flushes⟩
      intro failure' after' raises'
      obtain ⟨_, ends⟩ := closes.unique raises'
      rw [ends, contents_closeBang, same]
    · exact absurd breaks whole

/-- A `SafeDownloadOutput` that is made, written to and closed is published atomically, unless the
copy that stands in for a hard link breaks off, or neither flush of the temporary file succeeds. -/
theorem session_publishesAtomically_iff {names : Text → Text} {tempfile : Option SystemError}
    {opened : System} (made : Returns (newSafeDownloadOutput names path overwrite tempfile) before output opened)
    (uses : List Use) (success : Bool) (replies : CloseReplies) :
    let used := finalState (uses.forM (use output)) opened
    PublishesAtomically output (names path) overwrite (bytesWritten uses) success replies used ↔
      ¬CopyBreaksOff (names path) overwrite success replies used ∧ ¬FlushFailsTwice replies :=
  publishesAtomically_iff (opened_uses (opened_newSafeDownloadOutput made) uses) success replies

/-! ## A disk that is full -/

/-- There are no hard links, and the disk is full after two bytes. -/
def fullDisk : CloseReplies := ⟨none, none, none, .notImplemented, .breaksOff 2 (.other 28), none⟩

/-- There are no hard links, and the copy is complete. -/
def copies : CloseReplies := ⟨none, none, none, .notImplemented, .copied, none⟩

theorem session_publishesAtomically_copied :
    PublishesAtomically 0 "file".toList false "abc".toList true copies
      (finalState ([Use.write "abc".toList].forM (use 0))
        (System.empty.make ⟨"file".toList, false, false, false⟩)) := by
  refine (@session_publishesAtomically_iff .empty 0 "file".toList false id none _ rfl
    [Use.write "abc".toList] true copies).mpr ⟨fun breaks => ?_, fun twice => twice.first rfl⟩
  obtain ⟨_, _, fails⟩ := breaks.copy.fails
  cases fails

/-- Two bytes of three stay at the path, and `close` raises. -/
theorem fullDisk_leavesPart :
    ¬∀ (names : Text → Text) (path : Text) (overwrite : Bool) (before opened : System) (output : Nat)
      (uses : List Use) (success : Bool) (replies : CloseReplies),
      Returns (newSafeDownloadOutput names path overwrite none) before output opened →
      PublishesAtomically output (names path) overwrite (bytesWritten uses) success replies
        (finalState (uses.forM (use output)) opened) := by
  intro always
  have atomic := always id "file".toList false .empty _ 0 [.write "abc".toList] true fullDisk rfl
  rcases atomic.either with nothing | whole
  · exact absurd nothing (by decide)
  · exact absurd whole (by decide)

end Curb.Download

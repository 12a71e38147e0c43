import Curb.Download.Multi

/-!
# A download leaves its files consistent

Every output of the call is open and in `files`, or it is settled: closed, with its temporary file
gone. The second part of the `ensure` clause settles what is left. What is at a path changes only
where a transfer has completed with the result 0.
-/

namespace Curb.Download
open Curb.Misc Curb.Ruby

variable {arguments : Arguments} {surroundings : Surroundings} {before system after : System} {tidy : Prop}
  {files : List Output} {allowed : Text → Prop} {infos : List Info}

/-! ## Destinations -/

/-- Where the transfer of an entry goes. -/
def Arguments.targetAt (arguments : Arguments) (i : Nat) : Option Target :=
  arguments.urls[i]?.bind fun url => (arguments.resolve url i).toOption

/-- Two entries name one path. -/
def SameDestination (names : FileNames) (target other : Target) : Prop :=
  ∃ path overwrite path' overwrite', target = .safeOutput path overwrite ∧
    other = .safeOutput path' overwrite' ∧ names.expandPath path = names.expandPath path'

theorem lift_returns_iff {α : Type} {result : Except RubyError α} {a : α} :
    Returns (lift result) system a after ↔ result = .ok a ∧ after = system := by
  cases result with
  | ok b =>
    constructor
    · intro returns
      cases returns
      exact ⟨rfl, rfl⟩
    · rintro ⟨⟨⟩, rfl⟩
      rfl
  | error error => exact ⟨fun returns => (nomatch returns), fun ⟨same, _⟩ => (nomatch same)⟩

theorem keeps_lift {α : Type} {P : System → Prop} {result : Except RubyError α} :
    Keeps P (lift result) := by
  intro system before
  cases result with
  | ok a => exact before
  | error error => exact before

theorem keeps_binmode {P : System → Prop} {target : Target} : Keeps P (binmode target) := by
  intro system before
  cases target with
  | file io overwrite =>
    unfold finalState binmode
    dsimp only
    cases system.ioClosed io with
    | true => exact before
    | false => exact before
  | safeOutput path overwrite => exact before

theorem keeps_resolveTargets {P : System → Prop} {entries : List (Text × Nat)} {seen : List Text} :
    Keeps P (resolveTargets arguments entries seen) := by
  induction entries generalizing seen with
  | nil => exact keeps_pure
  | cons entry rest ih =>
    refine keeps_bind keeps_lift fun target => keeps_bind keeps_binmode fun _ => ?_
    exact keeps_bind keeps_lift fun seen' => keeps_bind ih fun targets => keeps_pure

/-- Nothing has been opened yet where the destinations are resolved. -/
theorem resolveTargets_unchanged (arguments : Arguments) (entries : List (Text × Nat)) (seen : List Text)
    (system : System) : finalState (resolveTargets arguments entries seen) system = system :=
  (keeps_resolveTargets system rfl : system = _).symm

theorem rejectDuplicate_eq_ok {names : FileNames} {seen seen' : List Text} {target : Target}
    (accepted : rejectDuplicate names seen target = .ok seen') :
    seen ⊆ seen' ∧ ∀ path overwrite, target = .safeOutput path overwrite →
      names.expandPath path ∉ seen ∧ names.expandPath path ∈ seen' := by
  cases target with
  | file io overwrite =>
    cases accepted
    exact ⟨List.Subset.refl _, nofun⟩
  | safeOutput path overwrite =>
    unfold rejectDuplicate at accepted
    dsimp only at accepted
    split at accepted
    · cases accepted
    · rename_i new
      cases accepted
      refine ⟨List.subset_cons_self _ _, ?_⟩
      intro path' overwrite' same
      cases same
      exact ⟨new, List.mem_cons_self⟩

/-- Where every destination is resolved, no two are the same. -/
theorem resolveTargets_returns {entries : List (Text × Nat)} {seen : List Text} {targets : List Target}
    (returns : Returns (resolveTargets arguments entries seen) system targets after) :
    List.Forall₂ (fun entry target => arguments.resolve entry.1 entry.2 = .ok target) entries targets ∧
      targets.Pairwise (fun target other => ¬SameDestination arguments.names target other) ∧
      ∀ path overwrite, .safeOutput path overwrite ∈ targets → arguments.names.expandPath path ∉ seen := by
  induction entries generalizing seen targets system after with
  | nil =>
    obtain ⟨rfl, _⟩ := returns_pure_iff.mp returns
    exact ⟨.nil, .nil, nofun⟩
  | cons entry rest ih =>
    obtain ⟨target, _, resolved, returns⟩ := bind_returns_iff.mp returns
    obtain ⟨_, _, _, returns⟩ := bind_returns_iff.mp returns
    obtain ⟨seen', _, accepted, returns⟩ := bind_returns_iff.mp returns
    obtain ⟨targets', _, others, returns⟩ := bind_returns_iff.mp returns
    obtain ⟨rfl, _⟩ := returns_pure_iff.mp returns
    obtain ⟨resolved', distinct, unseen⟩ := ih others
    obtain ⟨grows, new⟩ := rejectDuplicate_eq_ok (lift_returns_iff.mp accepted).1
    refine ⟨.cons (lift_returns_iff.mp resolved).1 resolved', .cons ?_ distinct, ?_⟩
    · rintro other mem ⟨path, overwrite, path', overwrite', rfl, rfl, same⟩
      exact unseen path' overwrite' mem (same ▸ (new path overwrite rfl).2)
    · intro path overwrite mem
      rcases List.mem_cons.mp mem with same | mem
      · exact (new path overwrite same.symm).1
      · exact fun old => unseen path overwrite mem (grows old)

/-! ## Outputs -/

/-- An output is closed, and its temporary file is gone. -/
def Settled (system : System) (output : Nat) : Prop :=
  system.tempfiles output = none ∧ ∃ value, system.outputs output = some value ∧ value.closed = true

/-- The outputs the call has made. -/
def Made (before system : System) (output : Nat) : Prop :=
  before.made ≤ output ∧ output < system.made

/-- What holds of the files and of what is at the paths; `tidy` says that no flush which `close!` repeats
fails. -/
structure Inv (tidy : Prop) (before : System) (allowed : Text → Prop) (files : List Output)
    (system : System) : Prop where
  made : before.made ≤ system.made
  ours : ∀ output, .safe output ∈ files → Made before system output
  exist : ∀ output, Made before system output → ∃ value, system.outputs output = some value
  settled : ∀ output, Made before system output → .safe output ∈ files ∨ (tidy → Settled system output)
  contents : ContentsChange allowed before system

theorem inv_begin : Inv tidy before allowed [] before := by
  have none (output : Nat) : ¬Made before before output := fun made => absurd made.1 (not_le.mpr made.2)
  exact ⟨le_refl _, nofun, fun output made => absurd made (none output),
    fun output made => absurd made (none output), contentsChange_refl⟩

/-- Closing settles an output, and the others stay as they are. -/
theorem inv_closeSafe {output : Nat} {success : Bool} {replies : CloseReplies} {rest : List Output}
    (inv : Inv tidy before allowed files system) (flushes : tidy → replies.flushAgain = none)
    (made : Made before system output) (installs : success = true → ∀ path overwrite, system.target output = some (path, overwrite) →
      (overwrite = true ∨ before.contents path = none) → allowed path)
    (fewer : rest ⊆ files) (others : ∀ file ∈ files, file ≠ .safe output → file ∈ rest) :
    Inv tidy before allowed rest (finalState (closeSafe output success replies) system) := by
  obtain ⟨value, stored⟩ := inv.exist output made
  obtain ⟨⟨frame, changes⟩, closed, removed⟩ := closeSafe_spec stored success replies
  have same (other : Nat) : Made before (finalState (closeSafe output success replies) system) other ↔
      Made before system other := by
    rw [Made, Made, frame.made]
  refine ⟨frame.made ▸ inv.made, ?_, ?_, ?_, ?_⟩
  · exact fun other mem => (same other).mpr (inv.ours other (fewer mem))
  · intro other made'
    by_cases isOutput : other = output
    · exact isOutput ▸ closed
    · rw [frame.outputs other isOutput]
      exact inv.exist other ((same other).mp made')
  · intro other made'
    by_cases isOutput : other = output
    · rw [isOutput]
      exact Or.inr fun holds => removed (flushes holds)
    · rcases inv.settled other ((same other).mp made') with open_ | settled
      · exact Or.inl (others _ open_ fun isSame => isOutput (Output.safe.inj isSame))
      · refine Or.inr fun holds => ?_
        rw [Settled, frame.tempfiles other isOutput, frame.outputs other isOutput]
        exact settled holds
  · intro path changed
    by_cases already : system.contents path = before.contents path
    · rw [← already] at changed
      obtain ⟨successful, overwrite, target, free⟩ := changes path changed
      rw [already] at free
      exact installs successful path overwrite target free
    · exact inv.contents path already

/-- A file of the caller is closed. -/
theorem Inv.of_ioClosed {ioClosed : ObjectId → Bool} (inv : Inv tidy before allowed files system) :
    Inv tidy before allowed files { system with ioClosed := ioClosed } :=
  ⟨inv.made, inv.ours, inv.exist, inv.settled, inv.contents⟩

/-- Other files than outputs may leave the list. -/
theorem Inv.of_files {rest : List Output} (inv : Inv tidy before allowed files system) (fewer : rest ⊆ files)
    (others : ∀ output, .safe output ∈ files → .safe output ∈ rest) :
    Inv tidy before allowed rest system := by
  refine ⟨inv.made, fun output mem => inv.ours output (fewer mem), inv.exist, ?_, inv.contents⟩
  intro output made
  exact (inv.settled output made).imp_left (others output)

/-- Whether it raises or not, closing a file of the caller changes nothing else. -/
theorem finalState_closeStream (io : ObjectId) (error : Option SystemError) (system : System) :
    finalState (closeStream io error) system =
      { system with ioClosed := Function.update system.ioClosed io true } := by
  unfold finalState closeStream
  cases system.ioClosed io with
  | true => rfl
  | false =>
    cases error with
    | none => rfl
    | some error => rfl

/-- A file leaves the list and is closed. -/
theorem inv_closeOutput {file : Output} {success : Bool} {replies : CloseReplies} {rest : List Output}
    (inv : Inv tidy before allowed files system) (flushes : tidy → replies.flushAgain = none)
    (made : ∀ output, file = .safe output → Made before system output)
    (installs : success = true → ∀ output path overwrite, file = .safe output →
      system.target output = some (path, overwrite) →
      (overwrite = true ∨ before.contents path = none) → allowed path)
    (fewer : rest ⊆ files) (others : ∀ other ∈ files, other ≠ file → other ∈ rest) :
    Inv tidy before allowed rest (finalState (closeOutput file success replies) system) := by
  cases file with
  | file io =>
    rw [closeOutput, finalState_closeStream]
    refine (inv.of_files fewer ?_).of_ioClosed
    intro output mem
    exact others _ mem nofun
  | safe output =>
    refine inv_closeSafe inv flushes (made output rfl) ?_ fewer others
    intro successful path overwrite
    exact installs successful output path overwrite rfl

/-- An output is made. -/
theorem inv_make {path : Text} {overwrite : Bool} (inv : Inv tidy before allowed files system) :
    Inv tidy before allowed (files ++ [.safe system.made])
      (system.make ⟨path, overwrite, false, false⟩) := by
  have later (output : Nat) (made : Made before (system.make ⟨path, overwrite, false, false⟩) output) :
      output = system.made ∨ output ≠ system.made ∧ Made before system output := by
    by_cases isNew : output = system.made
    · exact Or.inl isNew
    · have bound : output < system.made + 1 := made.2
      exact Or.inr ⟨isNew, made.1, by omega⟩
  refine ⟨Nat.le_succ_of_le inv.made, ?_, ?_, ?_, inv.contents⟩
  · intro output mem
    show before.made ≤ output ∧ output < system.made + 1
    rcases List.mem_append.mp mem with old | new
    · have made := inv.ours output old
      exact ⟨made.1, Nat.lt_succ_of_lt made.2⟩
    · cases List.mem_singleton.mp new
      exact ⟨inv.made, Nat.lt_succ_self _⟩
  · intro output made
    show ∃ value, Function.update system.outputs system.made _ output = some value
    rcases later output made with rfl | ⟨old, made⟩
    · exact ⟨_, Function.update_self _ _ _⟩
    · rw [Function.update_of_ne old]
      exact inv.exist output made
  · intro output made
    rcases later output made with rfl | ⟨old, made⟩
    · exact Or.inl (List.mem_append_right _ (List.mem_singleton_self _))
    · rcases inv.settled output made with open_ | settled
      · exact Or.inl (List.mem_append_left _ open_)
      · refine Or.inr fun holds => ?_
        show Function.update system.tempfiles system.made _ output = none ∧
          ∃ value, Function.update system.outputs system.made _ output = some value ∧ _
        rw [Function.update_of_ne old, Function.update_of_ne old]
        exact settled holds

/-- A write leaves settled outputs alone. -/
theorem inv_writeOutput {file : Output} {data : Text} (inv : Inv tidy before allowed files system) :
    Inv tidy before allowed files (finalState (writeOutput file data) system) := by
  cases file with
  | file io =>
    have same : finalState (writeOutput (.file io) data) system = system := by
      simp only [finalState, writeOutput]
      cases system.ioClosed io <;> rfl
    rw [same]
    exact inv
  | safe output =>
    rcases writeSafe_spec output data system with same | ⟨written, stored, same⟩
    · rw [writeOutput, same]
      exact inv
    · rw [writeOutput, same]
      refine ⟨inv.made, inv.ours, inv.exist, ?_, inv.contents⟩
      intro other made
      refine (inv.settled other made).imp_right fun settled holds => ⟨?_, (settled holds).2⟩
      have differs : other ≠ output := by
        intro isOutput
        cases (isOutput ▸ (settled holds).1).symm.trans stored
      exact (Function.update_of_ne differs _ _).trans (settled holds).1

/-! ## The call -/

/-- The outputs of these entries, from the first on, are the ones that have been made for them. -/
def Known (names : FileNames) (before : System) (infos : List Info) (system : System) : Prop :=
  ∀ info ∈ infos, ∀ output, info.file = .safe output → Made before system output ∧
    ∃ path overwrite, info.target = .safeOutput path overwrite ∧
      system.target output = some (names.expandPath path, overwrite)

/-- The outputs of `system` are still there, with their paths. -/
structure Extends (system after : System) : Prop where
  made : system.made ≤ after.made
  target : ∀ output, output < system.made → after.target output = system.target output

theorem Extends.trans {middle : System} (first : Extends system middle) (second : Extends middle after) :
    Extends system after := by
  refine ⟨first.made.trans second.made, fun output old => ?_⟩
  exact (second.target output (old.trans_le first.made)).trans (first.target output old)

theorem Known.extend {names : FileNames} (known : Known names before infos system)
    (extends_ : Extends system after) : Known names before infos after := by
  intro info mem output file
  obtain ⟨made, path, overwrite, target, stored⟩ := known info mem output file
  refine ⟨⟨made.1, made.2.trans_le extends_.made⟩, path, overwrite, target, ?_⟩
  rw [extends_.target output made.2]
  exact stored

theorem Frame.extends {output : Nat} (frame : Frame output system after) : Extends system after := by
  refine ⟨frame.made.ge, fun other _ => ?_⟩
  by_cases same : other = output
  · rw [same]
    exact frame.target
  · rw [System.target, System.target, frame.outputs other same]

theorem extends_closeOutput {file : Output} {success : Bool} {replies : CloseReplies}
    (exist : ∀ output, file = .safe output → ∃ value, system.outputs output = some value) :
    Extends system (finalState (closeOutput file success replies) system) := by
  cases file with
  | file io =>
    rw [closeOutput, finalState_closeStream]
    exact ⟨le_refl _, fun _ _ => rfl⟩
  | safe output =>
    obtain ⟨value, stored⟩ := exist output rfl
    exact (closeSafe_spec stored success replies).installs.1.extends

theorem extends_writeOutput {file : Output} {data : Text} :
    Extends system (finalState (writeOutput file data) system) := by
  cases file with
  | file io =>
    have same : finalState (writeOutput (.file io) data) system = system := by
      simp only [finalState, writeOutput]
      cases system.ioClosed io <;> rfl
    rw [same]
    exact ⟨le_refl _, fun _ _ => rfl⟩
  | safe output =>
    rcases writeSafe_spec output data system with same | ⟨written, _, same⟩
    · rw [writeOutput, same]
      exact ⟨le_refl _, fun _ _ => rfl⟩
    · rw [writeOutput, same]
      exact ⟨le_refl _, fun _ _ => rfl⟩

theorem extends_make {value : SafeDownloadOutput} : Extends system (system.make value) := by
  refine ⟨Nat.le_succ _, fun output old => ?_⟩
  show (Function.update system.outputs system.made _ output).map _ = _
  rw [Function.update_of_ne (Nat.ne_of_lt old)]
  rfl

/-- The invariant of the call. -/
def Good (tidy : Prop) (names : FileNames) (before : System) (allowed : Text → Prop) (infos : List Info)
    (call : Call) : Prop :=
  Inv tidy before allowed call.files call.system ∧ Known names before infos call.system

variable {names : FileNames} {call : Call}

theorem keeps_keepError {error : Failure} : Keeps (Good tidy names before allowed infos) (keepError error) :=
  keeps_modify fun _ good => good

theorem keeps_deferException {failure : Failure} :
    Keeps (Good tidy names before allowed infos) (deferException failure) :=
  keeps_modify fun _ good => good

/-- A file of an entry leaves `files` and is closed. -/
theorem good_closeOutput {info : Info} {rest : List Output} (success : Bool) {replies : CloseReplies}
    (good : Good tidy names before allowed infos call) (flushes : tidy → replies.flushAgain = none)
    (mem : info ∈ infos)
    (installs : success = true → ∀ path overwrite, info.target = .safeOutput path overwrite →
      (overwrite = true ∨ before.contents (names.expandPath path) = none) →
        allowed (names.expandPath path))
    (fewer : rest ⊆ call.files) (others : ∀ other ∈ call.files, other ≠ info.file → other ∈ rest) :
    Good tidy names before allowed infos
      (finalState (onSystem (closeOutput info.file success replies)) { call with files := rest }) := by
  obtain ⟨inv, known⟩ := good
  unfold onSystem
  rw [finalState_zoom]
  constructor
  · refine inv_closeOutput inv flushes (fun output file => (known info mem output file).1) ?_ fewer others
    intro successful output path overwrite file target
    obtain ⟨_, path', overwrite', isTarget, stored⟩ := known info mem output file
    cases stored.symm.trans target
    exact installs successful path' overwrite isTarget
  · refine known.extend (extends_closeOutput fun output file => ?_)
    exact inv.exist output (known info mem output file).1

/-- A completed transfer settles its output, and installs it where the result is 0. -/
theorem good_finalizeDownload {info : Info} {lastResult : Nat} {replies : CloseReplies}
    (good : Good tidy names before allowed infos call) (flushes : tidy → replies.flushAgain = none)
    (mem : info ∈ infos) (installs : lastResult = 0 → ∀ path overwrite, info.target = .safeOutput path overwrite →
      (overwrite = true ∨ before.contents (names.expandPath path) = none) →
        allowed (names.expandPath path)) :
    Good tidy names before allowed infos (finalState (finalizeDownload info lastResult replies) call) := by
  have fewer : call.files.filter (fun file => file ≠ info.file) ⊆ call.files :=
    List.filter_subset_self _
  have others : ∀ other ∈ call.files, other ≠ info.file →
      other ∈ call.files.filter fun file => file ≠ info.file := by
    intro other inFiles differs
    exact List.mem_filter.mpr ⟨inFiles, decide_eq_true differs⟩
  rw [finalizeDownload, finalState_modify_bind]
  by_cases failed : lastResult ≠ 0
  · rw [if_pos failed]
    have closed := good_closeOutput false good flushes mem nofun fewer others
    refine finalState_bind_of_keeps ?_ fun _ => keeps_bind keeps_keepError fun _ => keeps_pure
    exact finalState_tryCatch_of_keeps closed fun _ => keeps_keepError
  · rw [if_neg failed]
    have closed := good_closeOutput true good flushes mem
      (fun _ => installs (not_not.mp failed)) fewer others
    refine finalState_tryCatch_of_keeps ?_ fun _ => keeps_bind keeps_keepError fun _ => keeps_pure
    exact finalState_bind_of_keeps closed fun _ => keeps_pure

/-! ## The transfers -/

/-- The entry a transfer is of. -/
def Entries (arguments : Arguments) (infos : List Info) : Prop :=
  ∀ index info, infos[index]? = some info → arguments.targetAt index = some info.target

/-- What may change at a path: an entry goes there whose transfer has completed with the result 0. -/
def Installable (arguments : Arguments) (events : List Event) (before : System) (path : Text) : Prop :=
  ∃ index path' overwrite, arguments.targetAt index = some (.safeOutput path' overwrite) ∧
    arguments.names.expandPath path' = path ∧
    (∃ replies raises, Event.completed index 0 replies raises ∈ events) ∧
    (overwrite = true ∨ before.contents path = none)

/-- The flushes that these closes repeat do not fail. -/
def FlushesAgain (events : List Event) : Prop :=
  ∀ index lastResult replies raises, .completed index lastResult replies raises ∈ events →
    replies.flushAgain = none

theorem keeps_callBack {events : List Event} {event : Event} (entries : Entries arguments infos)
    (flushes : tidy → FlushesAgain events) (mem : event ∈ events) :
    Keeps (Good tidy arguments.names before (Installable arguments events before) infos)
      (callBack infos event) := by
  intro call good
  cases event with
  | body index data =>
    dsimp only [callBack]
    cases found : infos[index]? with
    | none => exact good
    | some info =>
      refine finalState_tryCatch_of_keeps ?_ fun _ => keeps_deferException
      unfold onSystem
      rw [finalState_zoom]
      exact ⟨inv_writeOutput good.1, good.2.extend extends_writeOutput⟩
  | completed index lastResult replies raises =>
    dsimp only [callBack]
    cases found : infos[index]? with
    | none => exact good
    | some info =>
      refine finalState_bind_of_keeps ?_ fun finalized => ?_
      · refine good_finalizeDownload good (fun holds => flushes holds _ _ _ _ mem)
          (List.mem_of_getElem? found) ?_
        intro isZero path overwrite target free
        have entry := entries index info found
        rw [target] at entry
        exact ⟨index, path, overwrite, entry, rfl, ⟨replies, raises, isZero ▸ mem⟩, free⟩
      · unfold callBlock
        split
        · exact keeps_deferException
        · exact keeps_pure

theorem keeps_http {events : List Event} {ending : Option Failure} (entries : Entries arguments infos)
    (flushes : tidy → FlushesAgain events) :
    Keeps (Good tidy arguments.names before (Installable arguments events before) infos)
      (http infos events ending) := by
  refine keeps_bind (keeps_forM fun event mem => keeps_callBack entries flushes mem) fun _ => ?_
  refine keeps_bind keeps_get fun call => ?_
  split
  · exact keeps_pure
  · exact keeps_throw

/-! ## Opening -/

theorem openOutput_spec {target : Target} {tempfile : Text → Option SystemError}
    (inv : Inv tidy before allowed call.files call.system) :
    (∃ failure, Raises (openOutput names tempfile target) call failure call) ∨
      ∃ file system', Returns (openOutput names tempfile target) call file { call with system := system' } ∧
        Extends call.system system' ∧ Inv tidy before allowed (call.files ++ [file]) system' ∧
        Known names before [⟨target, file⟩] system' := by
  cases target with
  | file io overwrite =>
    refine Or.inr ⟨.file io, call.system, rfl, ⟨le_refl _, fun _ _ => rfl⟩, ?_, ?_⟩
    · refine ⟨inv.made, ?_, inv.exist, ?_, inv.contents⟩
      · intro output mem
        rcases List.mem_append.mp mem with old | new
        · exact inv.ours output old
        · cases List.mem_singleton.mp new
      · intro output made
        exact (inv.settled output made).imp_left (List.mem_append_left _)
    · intro info mem output file
      cases List.mem_singleton.mp mem
      cases file
  | safeOutput path overwrite =>
    rcases newSafeDownloadOutput_spec names.expandPath path overwrite (tempfile (names.expandPath path))
      call.system with ⟨failure, raises⟩ | returns
    · refine Or.inl ⟨failure, bind_raises_iff.mpr (Or.inl ?_)⟩
      exact zoom_raises_iff.mpr ⟨_, raises, rfl⟩
    · refine Or.inr ⟨.safe call.system.made,
        call.system.make ⟨names.expandPath path, overwrite, false, false⟩, ?_, extends_make, inv_make inv, ?_⟩
      · exact bind_returns_iff.mpr ⟨_, _, zoom_returns_iff.mpr ⟨_, returns, rfl⟩, rfl⟩
      · intro info mem output file
        cases List.mem_singleton.mp mem
        cases file
        refine ⟨⟨inv.made, Nat.lt_succ_self _⟩, path, overwrite, rfl, ?_⟩
        show (Function.update call.system.outputs call.system.made _ call.system.made).map _ = _
        rw [Function.update_self]
        rfl

/-- Opening stops where an output cannot be made; the outputs made before are in `files`. -/
theorem openOutputs_spec {targets : List Target} {tempfile : Text → Option SystemError}
    (inv : Inv tidy before allowed call.files call.system) :
    (∃ failure stopped, Raises (openOutputs names tempfile targets) call failure stopped ∧
      Inv tidy before allowed stopped.files stopped.system) ∨
      ∃ infos opened, Returns (openOutputs names tempfile targets) call infos opened ∧
        Extends call.system opened.system ∧ Good tidy names before allowed infos opened ∧
        infos.map Info.target = targets := by
  induction targets generalizing call with
  | nil => exact Or.inr ⟨[], call, rfl, ⟨le_refl _, fun _ _ => rfl⟩, ⟨inv, nofun⟩, rfl⟩
  | cons target rest ih =>
    rcases @openOutput_spec before tidy allowed names call target tempfile inv with
      ⟨failure, raises⟩ | ⟨file, system', returns, extends_, opened, known⟩
    · exact Or.inl ⟨failure, call, bind_raises_iff.mpr (Or.inl raises), inv⟩
    · have adds : Returns (modify fun call : Call => { call with files := call.files ++ [file] } : Action PUnit)
          { call with system := system' } ⟨⟩
          { call with system := system', files := call.files ++ [file] } := rfl
      rcases @ih { call with system := system', files := call.files ++ [file] } opened with
        ⟨failure, stopped, raises, inv'⟩ | ⟨infos, final, returns', extends', ⟨inv', known'⟩, targets⟩
      · refine Or.inl ⟨failure, stopped, ?_, inv'⟩
        refine bind_raises_iff.mpr (Or.inr ⟨_, _, returns, ?_⟩)
        refine bind_raises_iff.mpr (Or.inr ⟨_, _, adds, ?_⟩)
        exact bind_raises_iff.mpr (Or.inl raises)
      · refine Or.inr ⟨⟨target, file⟩ :: infos, final, ?_, ?_, ⟨inv', ?_⟩, congrArg _ targets⟩
        · refine bind_returns_iff.mpr ⟨_, _, returns, ?_⟩
          refine bind_returns_iff.mpr ⟨_, _, adds, ?_⟩
          exact bind_returns_iff.mpr ⟨_, _, returns', rfl⟩
        · exact extends_.trans extends'
        · intro info mem output isFile
          rcases List.mem_cons.mp mem with rfl | mem
          · exact (known.extend extends') _ (List.mem_singleton_self _) output isFile
          · exact known' info mem output isFile

/-! ## The `ensure` clause -/

/-- What closing raises is kept. -/
theorem rescue_returns (operation : Operation Unit) (call : Call) :
    Returns (tryCatch (onSystem operation) keepError) call ⟨⟩ { call with
      system := finalState operation call.system
      errors := call.errors ++ (errorOf operation call.system).toList } := by
  have unfolded : tryCatch (onSystem operation) keepError call = match onSystem operation call with
      | .ok a call' => .ok a call'
      | .error error call' => keepError error call' := by
    show EStateM.tryCatch _ _ call = _
    unfold EStateM.tryCatch
    cases onSystem operation call <;> rfl
  unfold Returns
  rw [unfolded]
  unfold onSystem zoom finalState errorOf
  cases operation call.system with
  | ok a system =>
    show EStateM.Result.ok _ _ = _
    rw [Option.toList_none, List.append_nil]
  | error failure system => rfl

/-- The files that are left are closed one after the other, whatever their closing raises. -/
theorem closeAll_returns {leftover : Output → CloseReplies}
    (flushes : tidy → ∀ file, (leftover file).flushAgain = none) (inv : Inv tidy before allowed files call.system) :
    ∃ closed, Returns (files.forM fun file =>
        tryCatch (onSystem (closeOutput file false (leftover file))) keepError) call ⟨⟩ closed ∧
      Inv tidy before allowed [] closed.system := by
  induction files generalizing call with
  | nil => exact ⟨call, rfl, inv⟩
  | cons file rest ih =>
    have closes := rescue_returns (closeOutput file false (leftover file)) call
    have next : Inv tidy before allowed rest (finalState (closeOutput file false (leftover file)) call.system) := by
      refine inv_closeOutput inv (fun holds => flushes holds file) ?_ nofun (List.subset_cons_self _ _) ?_
      · exact fun output isFile => inv.ours output (isFile ▸ List.mem_cons_self)
      · exact fun other mem differs => (List.mem_cons.mp mem).resolve_left differs
    obtain ⟨closed, returns, done⟩ := @ih { call with
      system := finalState (closeOutput file false (leftover file)) call.system
      errors := call.errors ++ (errorOf (closeOutput file false (leftover file)) call.system).toList } next
    exact ⟨closed, bind_returns_iff.mpr ⟨_, _, closes, returns⟩, done⟩

theorem inv_cleanUp {leftover : Output → CloseReplies} {pending : Bool}
    (flushes : tidy → ∀ file, (leftover file).flushAgain = none) (inv : Inv tidy before allowed call.files call.system) :
    Inv tidy before allowed [] (finalState (cleanUp leftover pending) call).system := by
  obtain ⟨closed, returns, done⟩ := @closeAll_returns before tidy call.files allowed call leftover flushes inv
  have starts : Returns (get : Action Call) call call call := rfl
  rw [cleanUp, starts.finalState_bind, returns.finalState_bind]
  have ends : Keeps (fun call : Call => Inv tidy before allowed [] call.system) (do
      let call ← get
      if !call.errors.isEmpty && !pending then throw (.download call.errors) else pure ⟨⟩ : Action PUnit) := by
    refine keeps_bind keeps_get fun call => ?_
    split
    · exact keeps_throw
    · exact keeps_pure
  exact ends closed done

/-! ## The result -/

/-- The destinations that have been resolved are those of the entries. -/
theorem targetAt_of_resolved {targets : List Target}
    (resolved : List.Forall₂ (fun entry target => arguments.resolve entry.1 entry.2 = .ok target)
      arguments.urls.zipIdx targets) (i : Nat) : targets[i]? = arguments.targetAt i := by
  have lengths := resolved.length_eq
  rw [List.length_zipIdx] at lengths
  by_cases inside : i < targets.length
  · have inUrls : i < arguments.urls.length := lengths ▸ inside
    have entry := resolved.get (by rwa [List.length_zipIdx]) inside
    simp only [List.get_eq_getElem, List.getElem_zipIdx, Nat.zero_add] at entry
    rw [Arguments.targetAt, List.getElem?_eq_getElem inUrls, Option.bind_some, entry,
      List.getElem?_eq_getElem inside]
    rfl
  · have outside : ¬i < arguments.urls.length := lengths ▸ inside
    rw [Arguments.targetAt, List.getElem?_eq_none (not_lt.mp inside),
      List.getElem?_eq_none (not_lt.mp outside), Option.bind_none]

/-- Two entries of the call name one path. -/
def HasDuplicate (arguments : Arguments) : Prop :=
  ∃ i j target other, i ≠ j ∧ arguments.targetAt i = some target ∧ arguments.targetAt j = some other ∧
    SameDestination arguments.names target other

theorem SameDestination.symm {target other : Target} (same : SameDestination names target other) :
    SameDestination names other target := by
  obtain ⟨path, overwrite, path', overwrite', rfl, rfl, equal⟩ := same
  exact ⟨path', overwrite', path, overwrite, rfl, rfl, equal.symm⟩

/-- A duplicate stops the call before an output is opened. -/
theorem resolveTargets_raises (duplicate : HasDuplicate arguments) (system : System) :
    ∃ failure, Raises (resolveTargets arguments arguments.urls.zipIdx []) system failure system := by
  cases run : resolveTargets arguments arguments.urls.zipIdx [] system with
  | error failure stopped =>
    have raises : Raises (resolveTargets arguments arguments.urls.zipIdx []) system failure stopped := run
    have unchanged := resolveTargets_unchanged arguments arguments.urls.zipIdx [] system
    rw [raises.finalState_eq] at unchanged
    exact ⟨failure, unchanged ▸ raises⟩
  | ok targets resolved =>
    exfalso
    obtain ⟨entries, distinct, _⟩ := resolveTargets_returns run
    obtain ⟨i, j, target, other, differ, first, second, same⟩ := duplicate
    rw [← targetAt_of_resolved entries, List.getElem?_eq_some_iff] at first second
    obtain ⟨inside, rfl⟩ := first
    obtain ⟨inside', rfl⟩ := second
    rcases Nat.lt_or_gt_of_ne differ with earlier | later
    · exact List.pairwise_iff_getElem.mp distinct i j inside inside' earlier same
    · exact List.pairwise_iff_getElem.mp distinct j i inside' inside later same.symm

theorem inv_transfers (arguments : Arguments) (surroundings : Surroundings) (before : System)
    (flushes : tidy → FlushesAgain surroundings.events) :
    let stopped := finalState (transfers arguments surroundings) (begin before)
    Inv tidy before (Installable arguments surroundings.events before) stopped.files stopped.system := by
  refine finalState_bind_of (P := fun call : Call =>
    Inv tidy before (Installable arguments surroundings.events before) call.files call.system) ?_ ?_
  · intro failure stopped raises
    obtain ⟨system, stops, same⟩ := zoom_raises_iff.mp raises
    have unchanged : system = before :=
      stops.finalState_eq.symm.trans (resolveTargets_unchanged arguments arguments.urls.zipIdx [] before)
    rw [same, unchanged]
    exact inv_begin
  · intro targets resolved returns
    obtain ⟨system, ends, same⟩ := zoom_returns_iff.mp returns
    have unchanged : system = before :=
      ends.finalState_eq.symm.trans (resolveTargets_unchanged arguments arguments.urls.zipIdx [] before)
    obtain ⟨entries, _, _⟩ := resolveTargets_returns ends
    rw [same, unchanged]
    have start : Inv tidy before (Installable arguments surroundings.events before)
        (begin before).files (begin before).system := inv_begin
    rcases @openOutputs_spec before tidy _ arguments.names _ targets surroundings.tempfile start with
      ⟨failure, stopped, raises, inv⟩ | ⟨infos, opened, opens, _, good, ofTargets⟩
    · exact raises.finalState_bind ▸ inv
    · refine opens.finalState_bind ▸ (keeps_http ?_ flushes opened good).1
      intro index info entry
      rw [← targetAt_of_resolved entries, ← ofTargets, List.getElem?_map, entry, Option.map_some]

/-- No flush that `close!` repeats fails in the call. -/
def Surroundings.FlushesAgain (surroundings : Surroundings) : Prop :=
  Download.FlushesAgain surroundings.events ∧ ∀ file, (surroundings.leftover file).flushAgain = none

/-- `Multi.download` keeps its files consistent, whatever the transfers and the block do. -/
theorem download_consistent (arguments : Arguments) (surroundings : Surroundings) (before : System) :
    let after := (finalState (download arguments surroundings) (begin before)).system
    (∀ path, after.contents path ≠ before.contents path →
        ∃ index path' overwrite, arguments.targetAt index = some (.safeOutput path' overwrite) ∧
          arguments.names.expandPath path' = path ∧
          ∃ replies raises, .completed index 0 replies raises ∈ surroundings.events) ∧
      (surroundings.FlushesAgain → ∀ output, Made before after output →
        (∃ value, after.outputs output = some value ∧ value.closed = true) ∧
          after.tempfiles output = none) ∧
      (HasDuplicate arguments → ∃ failure stopped,
        Raises (download arguments surroundings) (begin before) failure stopped ∧
          stopped.system = before) ∧
      ∀ path, before.contents path ≠ none →
        (∀ index path', arguments.targetAt index = some (.safeOutput path' true) →
          arguments.names.expandPath path' ≠ path) →
        after.contents path = before.contents path := by
  intro after
  have inv : Inv surroundings.FlushesAgain before (Installable arguments surroundings.events before) [] after := by
    show Inv _ _ _ [] (finalState (ensuringWith _ _) (begin before)).system
    rw [finalState_ensuringWith]
    exact inv_cleanUp And.right (inv_transfers arguments surroundings before And.left)
  refine ⟨?_, ?_, ?_, ?_⟩
  · intro path changed
    obtain ⟨index, path', overwrite, target, same, completed, _⟩ := inv.contents path changed
    exact ⟨index, path', overwrite, target, same, completed⟩
  · intro flushes output made
    obtain ⟨removed, closed⟩ := (inv.settled output made).resolve_left nofun flushes
    exact ⟨closed, removed⟩
  · intro duplicate
    obtain ⟨failure, raises⟩ := resolveTargets_raises duplicate before
    have stops : Raises (transfers arguments surroundings) (begin before) failure (begin before) :=
      bind_raises_iff.mpr (Or.inl (zoom_raises_iff.mpr ⟨before, raises, rfl⟩))
    refine ⟨failure, begin before, ?_, rfl⟩
    rw [Raises] at stops
    rw [Raises, download, ensuringWith, stops]
    rfl
  · intro path present apart
    by_contra changed
    obtain ⟨index, path', overwrite, target, same, _, free⟩ := inv.contents path changed
    rcases free with overwrites | absent
    · exact apart index path' (overwrites ▸ target) same
    · exact present absent

end Curb.Download

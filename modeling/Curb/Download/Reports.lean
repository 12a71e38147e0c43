import Curb.Download.Consistent

/-!
# The failures a download reports

A transfer fails with its result, an output where it cannot be closed or published. Each failure is one
entry of `errors`, and the `ensure` clause raises them together, unless `$!` is set: by an exception of
the call, or by one that the caller is handling.
-/

namespace Curb.Download
open Curb.Misc Curb.Ruby

/-- The failures of a completion: of its output, and of its transfer. -/
def eventFailures (infos : List Info) (system : System) : Event → List Failure
  | .body _ _ => []
  | .completed index lastResult replies _ =>
      match infos[index]? with
      | none => []
      | some info =>
          (errorOf (closeOutput info.file (lastResult = 0) replies) system).toList ++
            if lastResult = 0 then [] else [.transfer lastResult]

/-- The failures while `Multi.http` runs. -/
def failuresDuring (infos : List Info) : List Event → Call → List Failure
  | [], _ => []
  | event :: rest, call =>
      eventFailures infos call.system event ++
        failuresDuring infos rest (finalState (callBack infos event) call)

/-- The failures of the outputs that are closed at the end. -/
def leftoverFailures (leftover : Output → CloseReplies) : List Output → System → List Failure
  | [], _ => []
  | file :: rest, system =>
      (errorOf (closeOutput file false (leftover file)) system).toList ++
        leftoverFailures leftover rest (finalState (closeOutput file false (leftover file)) system)

/-- The outputs of a call, opened. -/
def opening (arguments : Arguments) (surroundings : Surroundings) : Action (List Info) := do
  let targets ← onSystem (resolveTargets arguments arguments.urls.zipIdx [])
  openOutputs arguments.names surroundings.tempfile targets

/-- The failures of the transfers and outputs of a call. -/
def failures (arguments : Arguments) (surroundings : Surroundings) (before : System) : List Failure :=
  match opening arguments surroundings (begin before) with
  | .error _ _ => []
  | .ok infos opened =>
      let ended := finalState (http infos surroundings.events surroundings.ending) opened
      failuresDuring infos surroundings.events opened ++
        leftoverFailures surroundings.leftover ended.files ended.system

/-- An exception of the call is the one it raises; otherwise it raises `DownloadError` where there are
failures, with an entry for each. -/
structure ReportsExactly (arguments : Arguments) (surroundings : Surroundings) (before : System) : Prop where
  propagates : ∀ failure stopped, Raises (transfers arguments surroundings) (begin before) failure stopped →
    ∃ after, Raises (download arguments surroundings) (begin before) failure after
  reports : ∀ ended, Returns (transfers arguments surroundings) (begin before) () ended →
    failures arguments surroundings before ≠ [] →
      ∃ after, Raises (download arguments surroundings) (begin before)
        (.download (failures arguments surroundings before)) after
  silent : ∀ ended, Returns (transfers arguments surroundings) (begin before) () ended →
    failures arguments surroundings before = [] →
      ∃ after, Returns (download arguments surroundings) (begin before) () after

/-- The caller is handling an exception, none leaves the transfers, and something fails. -/
structure Swallows (arguments : Arguments) (surroundings : Surroundings) (before : System) : Prop where
  handling : surroundings.handling = true
  ends : ∃ ended, Returns (transfers arguments surroundings) (begin before) () ended
  fails : failures arguments surroundings before ≠ []

variable {arguments : Arguments} {surroundings : Surroundings} {before : System} {infos : List Info}

/-! ## Errors that are kept -/

theorem deferException_returns (failure : Failure) (call : Call) :
    Returns (deferException failure) call ⟨⟩ { call with deferred := call.deferred.or (some failure) } := rfl

/-- A completed transfer adds its failures, and leaves the pending exception alone. -/
theorem finalizeDownload_returns (info : Info) (lastResult : Nat) (replies : CloseReplies) (call : Call) :
    ∃ finalized, Returns (finalizeDownload info lastResult replies) call finalized { call with
      system := finalState (closeOutput info.file (lastResult = 0) replies) call.system
      files := call.files.filter fun file => file ≠ info.file
      errors := call.errors ++
        ((errorOf (closeOutput info.file (lastResult = 0) replies) call.system).toList ++
          if lastResult = 0 then [] else [.transfer lastResult]) } := by
  let filtered : Call := { call with files := call.files.filter fun file => file ≠ info.file }
  have leaves : Returns (modify fun call : Call =>
      { call with files := call.files.filter fun file => file ≠ info.file } : Action PUnit) call ⟨⟩ filtered :=
    rfl
  by_cases isZero : lastResult = 0
  · have closing : closeOutput info.file (lastResult = 0) replies = closeOutput info.file true replies := by
      rw [decide_eq_true isZero]
    rw [closing, if_pos isZero, List.append_nil]
    cases run : closeOutput info.file true replies call.system with
    | ok u system =>
      have ends : finalState (closeOutput info.file true replies) call.system = system := by
        rw [finalState, run]
      have quiet : errorOf (closeOutput info.file true replies) call.system = none := by rw [errorOf, run]
      refine ⟨true, bind_returns_iff.mpr ⟨_, _, leaves, ?_⟩⟩
      rw [if_neg (not_not.mpr isZero), ends, quiet, Option.toList_none, List.append_nil]
      refine tryCatch_returns (Or.inl (bind_returns_iff.mpr ⟨(), _, ?_, rfl⟩))
      exact zoom_returns_iff.mpr ⟨system, run, rfl⟩
    | error failure system =>
      have ends : finalState (closeOutput info.file true replies) call.system = system := by
        rw [finalState, run]
      have loud : errorOf (closeOutput info.file true replies) call.system = some failure := by
        rw [errorOf, run]
      refine ⟨false, bind_returns_iff.mpr ⟨_, _, leaves, ?_⟩⟩
      rw [if_neg (not_not.mpr isZero), ends, loud, Option.toList_some]
      refine tryCatch_returns (Or.inr ⟨failure, { filtered with system := system }, ?_, rfl⟩)
      exact bind_raises_iff.mpr (Or.inl (zoom_raises_iff.mpr ⟨system, run, rfl⟩))
  · have closing : closeOutput info.file (lastResult = 0) replies = closeOutput info.file false replies := by
      rw [decide_eq_false isZero]
    rw [closing, if_neg isZero, ← List.append_assoc]
    refine ⟨false, bind_returns_iff.mpr ⟨_, _, leaves, ?_⟩⟩
    rw [if_pos isZero]
    exact bind_returns_iff.mpr ⟨_, _, rescue_returns (closeOutput info.file false replies) filtered, rfl⟩

theorem callBlock_returns (finalized : Bool) (raises : Option Perform.RubyException) (call : Call) :
    ∃ deferred, Returns (callBlock finalized raises) call ⟨⟩ { call with deferred := deferred } := by
  unfold callBlock
  split
  · exact ⟨_, deferException_returns _ call⟩
  · exact ⟨call.deferred, rfl⟩

/-- A callback always returns, and its failures are kept. -/
theorem callBack_returns (infos : List Info) (event : Event) (call : Call) :
    ∃ after, Returns (callBack infos event) call ⟨⟩ after ∧
      after.errors = call.errors ++ eventFailures infos call.system event := by
  cases event with
  | body index data =>
    rw [eventFailures, List.append_nil]
    dsimp only [callBack]
    cases infos[index]? with
    | none => exact ⟨call, rfl, rfl⟩
    | some info =>
      cases run : writeOutput info.file data call.system with
      | ok u system =>
        refine ⟨{ call with system := system }, tryCatch_returns (Or.inl ?_), rfl⟩
        exact zoom_returns_iff.mpr ⟨system, run, rfl⟩
      | error failure system =>
        refine ⟨_, tryCatch_returns (Or.inr ⟨failure, { call with system := system }, ?_,
          deferException_returns failure _⟩), rfl⟩
        exact zoom_raises_iff.mpr ⟨system, run, rfl⟩
  | completed index lastResult replies raises =>
    dsimp only [callBack, eventFailures]
    cases infos[index]? with
    | none =>
      rw [List.append_nil]
      exact ⟨call, rfl, rfl⟩
    | some info =>
      obtain ⟨finalized, finalizes⟩ := finalizeDownload_returns info lastResult replies call
      obtain ⟨deferred, calls⟩ := callBlock_returns finalized raises _
      exact ⟨_, bind_returns_iff.mpr ⟨finalized, _, finalizes, calls⟩, rfl⟩

/-- All callbacks together: the induction is on the events, from the first on. -/
theorem callBacks_return (infos : List Info) (events : List Event) (call : Call) :
    ∃ after, Returns (events.forM (callBack infos)) call ⟨⟩ after ∧
      after.errors = call.errors ++ failuresDuring infos events call := by
  induction events generalizing call with
  | nil =>
    rw [failuresDuring, List.append_nil]
    exact ⟨call, rfl, rfl⟩
  | cons event rest ih =>
    obtain ⟨middle, first, kept⟩ := callBack_returns infos event call
    obtain ⟨after, others, kept'⟩ := ih middle
    refine ⟨after, bind_returns_iff.mpr ⟨_, _, first, others⟩, ?_⟩
    rw [kept', kept, failuresDuring, first.finalState_eq, List.append_assoc]

/-- The clean-up closes what is left, and its failures are kept as well. -/
theorem closeLeftover_returns (leftover : Output → CloseReplies) (files : List Output) (call : Call) :
    ∃ after, Returns (files.forM fun file =>
        tryCatch (onSystem (closeOutput file false (leftover file))) keepError) call ⟨⟩ after ∧
      after.errors = call.errors ++ leftoverFailures leftover files call.system := by
  induction files generalizing call with
  | nil =>
    rw [leftoverFailures, List.append_nil]
    exact ⟨call, rfl, rfl⟩
  | cons file rest ih =>
    have first := rescue_returns (closeOutput file false (leftover file)) call
    obtain ⟨after, others, kept⟩ := ih { call with
      system := finalState (closeOutput file false (leftover file)) call.system
      errors := call.errors ++ (errorOf (closeOutput file false (leftover file)) call.system).toList }
    refine ⟨after, bind_returns_iff.mpr ⟨_, _, first, others⟩, ?_⟩
    rw [kept, leftoverFailures, List.append_assoc]

/-- `Multi.http` keeps the failures of its callbacks, whether it returns or raises. -/
theorem http_errors (infos : List Info) (events : List Event) (ending : Option Failure) (call : Call) :
    (finalState (http infos events ending) call).errors =
      call.errors ++ failuresDuring infos events call := by
  obtain ⟨after, returns, kept⟩ := callBacks_return infos events call
  have reads : Returns (get : Action Call) after after after := rfl
  rw [http, returns.finalState_bind, reads.finalState_bind, ← kept]
  cases ending.or after.deferred <;> rfl

/-! ## The clean-up -/

/-- Where an exception is pending, the clean-up raises nothing. -/
theorem cleanUp_pending (leftover : Output → CloseReplies) (call : Call) :
    ∃ after, Returns (cleanUp leftover true) call ⟨⟩ after := by
  obtain ⟨closed, returns, _⟩ := closeLeftover_returns leftover call.files call
  refine ⟨closed, bind_returns_iff.mpr ⟨call, call, rfl, bind_returns_iff.mpr ⟨_, closed, returns, ?_⟩⟩⟩
  refine bind_returns_iff.mpr ⟨closed, closed, rfl, ?_⟩
  rw [Bool.not_true, Bool.and_false]
  rfl

/-- Where none is pending, it raises the errors, if there are any. -/
theorem cleanUp_quiet (leftover : Output → CloseReplies) (call : Call) :
    let errors := call.errors ++ leftoverFailures leftover call.files call.system
    (errors ≠ [] → ∃ after, Raises (cleanUp leftover false) call (.download errors) after) ∧
      (errors = [] → ∃ after, Returns (cleanUp leftover false) call ⟨⟩ after) := by
  intro errors
  obtain ⟨closed, returns, kept⟩ := closeLeftover_returns leftover call.files call
  constructor
  · intro some_
    have filled : closed.errors.isEmpty = false := by rwa [kept, List.isEmpty_eq_false_iff]
    refine ⟨closed, bind_raises_iff.mpr (Or.inr ⟨call, call, rfl, ?_⟩)⟩
    refine bind_raises_iff.mpr (Or.inr ⟨_, closed, returns, ?_⟩)
    refine bind_raises_iff.mpr (Or.inr ⟨closed, closed, rfl, ?_⟩)
    rw [filled, kept]
    rfl
  · intro none_
    have empty : closed.errors.isEmpty = true := by rwa [kept, List.isEmpty_iff]
    refine ⟨closed, bind_returns_iff.mpr ⟨call, call, rfl, bind_returns_iff.mpr ⟨_, closed, returns, ?_⟩⟩⟩
    refine bind_returns_iff.mpr ⟨closed, closed, rfl, ?_⟩
    rw [empty]
    rfl

/-! ## The call -/

theorem transfers_eq : transfers arguments surroundings = (do
    let infos ← opening arguments surroundings
    http infos surroundings.events surroundings.ending) := by
  unfold transfers opening
  rw [bind_assoc]

theorem openOutput_errors {names : FileNames} {tempfile : Text → Option SystemError} {target : Target} :
    Keeps (fun call => call.errors = []) (openOutput names tempfile target) := by
  cases target with
  | file io overwrite => exact keeps_pure
  | safeOutput path overwrite =>
    refine keeps_bind ?_ fun output => keeps_pure
    intro call none
    unfold onSystem
    rw [finalState_zoom]
    exact none

theorem openOutputs_errors {names : FileNames} {tempfile : Text → Option SystemError}
    (targets : List Target) : Keeps (fun call => call.errors = []) (openOutputs names tempfile targets) := by
  induction targets with
  | nil => exact keeps_pure
  | cons target rest ih =>
    refine keeps_bind openOutput_errors fun file => keeps_bind (keeps_modify fun _ none => none) fun _ => ?_
    exact keeps_bind ih fun infos => keeps_pure

/-- No error is kept while the outputs are opened. -/
theorem opening_errors : Keeps (fun call => call.errors = []) (opening arguments surroundings) := by
  refine keeps_bind ?_ openOutputs_errors
  intro call none
  unfold onSystem
  rw [finalState_zoom]
  exact none

/-- Where the transfers end, the failures are the errors that are kept and those of the clean-up. -/
theorem failures_eq {ended : Call} (ends : Returns (transfers arguments surroundings) (begin before) () ended) :
    failures arguments surroundings before =
      ended.errors ++ leftoverFailures surroundings.leftover ended.files ended.system := by
  rw [transfers_eq] at ends
  obtain ⟨infos, opened, opens, runs⟩ := bind_returns_iff.mp ends
  have none := opening_errors.of_returns opens rfl
  have kept := http_errors infos surroundings.events surroundings.ending opened
  rw [runs.finalState_eq, none, List.nil_append] at kept
  rw [Returns] at opens
  rw [failures, opens]
  dsimp only
  rw [runs.finalState_eq, kept]

theorem download_raises {failure : Failure} {stopped : Call}
    (raises : Raises (transfers arguments surroundings) (begin before) failure stopped) :
    ∃ after, Raises (download arguments surroundings) (begin before) failure after := by
  obtain ⟨after, closes⟩ := cleanUp_pending surroundings.leftover stopped
  rw [Raises] at raises
  rw [Returns] at closes
  refine ⟨after, ?_⟩
  rw [Raises, download, ensuringWith, raises]
  dsimp only
  rw [Bool.true_or, closes]

/-- A download that raises nothing itself ends as its clean-up does. -/
theorem download_ends {ended : Call}
    (ends : Returns (transfers arguments surroundings) (begin before) () ended) :
    download arguments surroundings (begin before) =
      match cleanUp surroundings.leftover surroundings.handling ended with
      | .ok _ after => .ok () after
      | .error failure after => .error failure after := by
  rw [Returns] at ends
  rw [download, ensuringWith, ends]
  dsimp only
  rw [Bool.false_or]
  cases cleanUp surroundings.leftover surroundings.handling ended <;> rfl

/-- A download reports its failures exactly, unless the caller is handling an exception. -/
theorem download_reportsExactly_iff (arguments : Arguments) (surroundings : Surroundings)
    (before : System) :
    ReportsExactly arguments surroundings before ↔ ¬Swallows arguments surroundings before := by
  constructor
  · rintro exact_ ⟨handling, ⟨ended, ends⟩, fails⟩
    obtain ⟨after, raises⟩ := exact_.reports ended ends fails
    obtain ⟨closed, closes⟩ := cleanUp_pending surroundings.leftover ended
    rw [Returns] at closes
    rw [Raises, download_ends ends, handling, closes] at raises
    cases raises
  · intro reported
    refine ⟨fun failure stopped raises => download_raises raises, ?_, ?_⟩
    · intro ended ends fails
      have quiet : surroundings.handling = false := by
        by_contra handling
        exact reported ⟨Bool.of_not_eq_false handling, ⟨ended, ends⟩, fails⟩
      rw [failures_eq ends] at fails ⊢
      obtain ⟨after, raises⟩ := (cleanUp_quiet surroundings.leftover ended).1 fails
      rw [Raises] at raises
      refine ⟨after, ?_⟩
      rw [Raises, download_ends ends, quiet, raises]
    · intro ended ends none
      cases handling : surroundings.handling with
      | true =>
        obtain ⟨after, closes⟩ := cleanUp_pending surroundings.leftover ended
        rw [Returns] at closes
        refine ⟨after, ?_⟩
        rw [Returns, download_ends ends, handling, closes]
      | false =>
        rw [failures_eq ends] at none
        obtain ⟨after, closes⟩ := (cleanUp_quiet surroundings.leftover ended).2 none
        rw [Returns] at closes
        refine ⟨after, ?_⟩
        rw [Returns, download_ends ends, handling, closes]

/-! ## A download while an exception is handled -/

/-- One URL, whose path is the name of the file. -/
def oneFile : Arguments where
  names := ⟨id, .ok, fun _ name => name, fun _ => true, [], fun url => .ok (some url)⟩
  urls := ["file".toList]
  downloadPaths := .nil
  downloadOptions := .empty

/-- Its transfer fails with a result, in a `rescue` clause of the caller. -/
def refused : Surroundings where
  tempfile := fun _ => none
  events := [.completed 0 7 .ok none]
  ending := none
  leftover := fun _ => .ok
  handling := true

/-- Nothing is raised. -/
theorem refused_isSwallowed :
    ¬∀ arguments surroundings before, ReportsExactly arguments surroundings before := by
  intro always
  have fails : failures oneFile refused .empty = [.transfer 7] := rfl
  have exact_ := always oneFile refused .empty
  obtain ⟨after, raises⟩ := exact_.reports _ rfl (fails ▸ List.cons_ne_nil _ _)
  cases raises

end Curb.Download

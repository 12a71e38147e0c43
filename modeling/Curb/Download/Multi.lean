import Curb.Download.Target
import Curb.Download.Output

/-!
# `Multi.download`

All destinations are resolved before an output is opened; the completions of `Multi.http` close the
outputs one by one, and what is open at the end is closed without being installed
(`lib/curl/multi.rb:212-322`).
-/

namespace Curb.Download
open Curb.Misc Curb.Ruby

/-- What a transfer writes to. -/
inductive Output where
  | file (io : ObjectId)
  | safe (output : Nat)
  deriving DecidableEq, Repr

/-- An entry of `download_infos` with its `:file`. -/
structure Info where
  target : Target
  file : Output

/-- The system and the local variables of the call. -/
structure Call where
  system : System
  files : List Output
  errors : List Failure
  /-- The first exception of a callback, which `Multi.http` raises at its end. -/
  deferred : Option Failure

abbrev Action := EStateM Failure Call

def onSystem {α : Type} (operation : Operation α) : Action α :=
  zoom Call.system (fun call system => { call with system := system }) operation

/-- `download_paths`. -/
inductive DownloadPaths where
  | nil
  | array (paths : List DownloadPath)
  | options (options : DownloadOptions)

/-- `download_paths && download_paths[i]`; a `Hash` of options has no such key. -/
def DownloadPaths.entry : DownloadPaths → Nat → DownloadPath
  | .array paths, i => paths.getD i .nil
  | _, _ => .nil

structure Arguments where
  names : FileNames
  urls : List Text
  downloadPaths : DownloadPaths
  downloadOptions : DownloadOptions

/-- The options may be given in the place of the paths (`multi.rb:220-223`). -/
def Arguments.normalize (arguments : Arguments) : DownloadPaths × DownloadOptions :=
  match arguments.downloadPaths with
  | .options given =>
      if given.isDownloadOptions && arguments.downloadOptions.isEmpty then (.nil, given)
      else (arguments.downloadPaths, arguments.downloadOptions)
  | _ => (arguments.downloadPaths, arguments.downloadOptions)

def Arguments.resolve (arguments : Arguments) (url : Text) (i : Nat) : Except RubyError Target :=
  resolveDownloadOutput arguments.names url (arguments.normalize.1.entry i) arguments.normalize.2

/-! ## Destinations -/

/-- An exception that leaves the state alone. -/
def lift {α : Type} (result : Except RubyError α) : Operation α := fun system =>
  match result with
  | .ok a => .ok a system
  | .error error => .error (.ruby error) system

/-- `filename.binmode`. -/
def binmode (target : Target) : Operation Unit := fun system =>
  match target with
  | .file io _ => if system.ioClosed io then .error .closedStream system else .ok () system
  | .safeOutput _ _ => .ok () system

/-- The check of `seen_download_paths` (`multi.rb:235-240`). -/
def rejectDuplicate (names : FileNames) (seen : List Text) (target : Target) :
    Except RubyError (List Text) :=
  match target with
  | .file _ _ => .ok seen
  | .safeOutput path _ =>
      if names.expandPath path ∈ seen then
        rbRaise .argumentError ("duplicate download destination: ".toList ++ path)
      else .ok (names.expandPath path :: seen)

/-- The first loop, over `urls.each_with_index` (`multi.rb:225-250`). -/
def resolveTargets (arguments : Arguments) : List (Text × Nat) → List Text → Operation (List Target)
  | [], _ => pure []
  | (url, i) :: rest, seen => do
      let target ← lift (arguments.resolve url i)
      binmode target
      let seen ← lift (rejectDuplicate arguments.names seen target)
      let targets ← resolveTargets arguments rest seen
      pure (target :: targets)

/-! ## Outputs -/

/-- `info[:file] ||= Curl.open_safe_download_output(..)`. -/
def openOutput (names : FileNames) (tempfile : Text → Option SystemError) (target : Target) :
    Action Output :=
  match target with
  | .file io _ => pure (.file io)
  | .safeOutput path overwrite => do
      let output ← onSystem (newSafeDownloadOutput names.expandPath path overwrite
        (tempfile (names.expandPath path)))
      pure (.safe output)

/-- The second loop (`multi.rb:252-263`). -/
def openOutputs (names : FileNames) (tempfile : Text → Option SystemError) :
    List Target → Action (List Info)
  | [] => pure []
  | target :: rest => do
      let file ← openOutput names tempfile target
      modify fun call => { call with files := call.files ++ [file] }
      let infos ← openOutputs names tempfile rest
      pure (⟨target, file⟩ :: infos)

/-- `IO#close`, which writes what is buffered; a stream that is closed stays as it is. -/
def closeStream (io : ObjectId) (error : Option SystemError) : Operation Unit := fun system =>
  let closed := { system with ioClosed := Function.update system.ioClosed io true }
  match system.ioClosed io, error with
  | false, some error => .error (.system error) closed
  | _, _ => .ok () closed

/-- `file.close`, with `success` in safe mode. -/
def closeOutput (file : Output) (success : Bool) (replies : CloseReplies) : Operation Unit :=
  match file with
  | .file io => closeStream io replies.close
  | .safe output => closeSafe output success replies

/-- `rescue => e; errors << e`. -/
def keepError (error : Failure) : Action Unit :=
  modify fun call => { call with errors := call.errors ++ [error] }

/-- `finalize_download` (`multi.rb:265-296`). -/
def finalizeDownload (info : Info) (lastResult : Nat) (replies : CloseReplies) : Action Bool := do
  modify fun call => { call with files := call.files.filter fun file => file ≠ info.file }
  if lastResult ≠ 0 then do
    tryCatch (onSystem (closeOutput info.file false replies)) keepError
    keepError (.transfer lastResult)
    pure false
  else
    tryCatch (do onSystem (closeOutput info.file true replies); pure true)
      fun error => do keepError error; pure false

/-! ## The transfers -/

/-- What `Multi.http` calls back: a body is written, or a transfer is complete with a result. The
caller's block, which is called for an output that has been closed successfully, may raise. -/
inductive Event where
  | body (index : Nat) (data : Text)
  | completed (index lastResult : Nat) (replies : CloseReplies) (raises : Option Perform.RubyException)

def deferException (failure : Failure) : Action Unit :=
  modify fun call => { call with deferred := call.deferred.or (some failure) }

/-- The lambda of `:on_body`. -/
def writeOutput (file : Output) (data : Text) : Operation Unit :=
  match file with
  | .file io => fun system =>
      if system.ioClosed io then .error .closedStream system else .ok () system
  | .safe output => writeSafe output data

/-- `blk.call(c, info[:path])`. -/
def callBlock (finalized : Bool) (raises : Option Perform.RubyException) : Action Unit :=
  match finalized, raises with
  | true, some exception => deferException (.raised exception)
  | _, _ => pure ()

def callBack (infos : List Info) : Event → Action Unit
  | .body index data =>
      match infos[index]? with
      | none => pure ()
      | some info => tryCatch (onSystem (writeOutput info.file data)) deferException
  | .completed index lastResult replies raises =>
      match infos[index]? with
      | none => pure ()
      | some info => do
          let finalized ← finalizeDownload info lastResult replies
          callBlock finalized raises

/-- `Multi.http` calls back and raises the deferred exception, if not another one. -/
def http (infos : List Info) (events : List Event) (ending : Option Failure) : Action Unit := do
  events.forM (callBack infos)
  let call ← get
  match ending.or call.deferred with
  | none => pure ()
  | some failure => throw failure

/-! ## The call -/

/-- What happens around the call. -/
structure Surroundings where
  /-- What `Tempfile.new` raises beside a path. -/
  tempfile : Text → Option SystemError
  events : List Event
  /-- What `Multi.http` raises itself. -/
  ending : Option Failure
  leftover : Output → CloseReplies
  /-- `$!` is set where the call is made. -/
  handling : Bool

/-- The `ensure` clause (`multi.rb:306-321`). -/
def cleanUp (leftover : Output → CloseReplies) (pendingException : Bool) : Action PUnit := do
  let call ← get
  call.files.forM fun file =>
    tryCatch (onSystem (closeOutput file false (leftover file))) keepError
  let call ← get
  if !call.errors.isEmpty && !pendingException then throw (.download call.errors) else pure ⟨⟩

/-- `Multi.download` without its `ensure` clause. -/
def transfers (arguments : Arguments) (surroundings : Surroundings) : Action Unit := do
  let targets ← onSystem (resolveTargets arguments arguments.urls.zipIdx [])
  let infos ← openOutputs arguments.names surroundings.tempfile targets
  http infos surroundings.events surroundings.ending

/-- `Multi.download`. -/
def download (arguments : Arguments) (surroundings : Surroundings) : Action Unit :=
  ensuringWith (transfers arguments surroundings) fun raised =>
    cleanUp surroundings.leftover (raised || surroundings.handling)

/-- The call begins. -/
def begin (system : System) : Call := ⟨system, [], [], none⟩

end Curb.Download

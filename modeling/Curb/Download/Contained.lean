import Curb.Misc.Path
import Curb.Download.Target

/-!
# A download stays in its directory

With POSIX paths, a destination that is made from a directory and a name is in that directory, under a
name that is not hidden. What `URI.parse` raises for a URL is rescued where it is
`URI::InvalidURIError`, and no other exception.
-/

namespace Curb.Download
open Curb.Misc Curb.Ruby

/-- Where the program runs. -/
structure Environment where
  /-- `Dir.pwd`. -/
  pwd : Text
  /-- The home directory of a user, and of the process for the empty name. -/
  home : Text → Text
  isDirectory : Text → Bool
  uriPath : Text → Except UriError (Option Text)

/-- `File.expand_path`. -/
def Environment.expandPath (environment : Environment) (path : Text) : Text :=
  let whole :=
    if path.head? = some '/' then path
    else if path.head? = some '~' then
      environment.home (path.tail.takeWhile fun c => c ≠ '/') ++ path.dropWhile fun c => c ≠ '/'
    else environment.pwd ++ '/' :: path
  absolutePath (normalParts whole)

/-- `File.basename`. -/
def fileBasename (path : Text) : Except RubyError Text :=
  if Char.ofNat 0 ∈ path then rbRaise .argumentError "string contains null byte".toList
  else .ok (pathName path)

def Environment.names (environment : Environment) : FileNames where
  expandPath := environment.expandPath
  basename := fileBasename
  join := joinPath
  isDirectory := environment.isDirectory
  pwd := environment.pwd
  uriPath := environment.uriPath

/-- A call that gives a directory, a directory and a name, or neither. -/
inductive Request where
  | named (dir filename : Text)
  | derived (dir : Text)
  | here

namespace Request

def dir (environment : Environment) : Request → Text
  | .named dir _ => dir
  | .derived dir => dir
  | .here => environment.pwd

def filename : Request → Option Text
  | .named _ filename => some filename
  | _ => none

def downloadPath : Request → DownloadPath
  | .named _ filename => .filename filename
  | _ => .nil

def options (overwrite : Option Bool) : Request → DownloadOptions
  | .named dir _ => ⟨some (some dir), overwrite, []⟩
  | .derived dir => ⟨some (some dir), overwrite, []⟩
  | .here => ⟨none, overwrite, []⟩

end Request

/-- The name of a file that is not hidden, and no path. -/
structure PlainName (name : Text) : Prop where
  notEmpty : name ≠ []
  notHidden : name.head? ≠ some '.'
  noSlash : '/' ∉ name
  noBackslash : '\\' ∉ name
  noNul : Char.ofNat 0 ∉ name

/-- The call raises `ArgumentError`, or it resolves to a plain name in the directory. -/
def Contained (environment : Environment) (dir : Text) (result : Except RubyError Target) : Prop :=
  (∃ error, result = .error error ∧ error.errorClass = .argumentError) ∨
    ∃ path overwrite, result = .ok (.safeOutput path overwrite) ∧
      pathParent path = environment.expandPath dir ∧ PlainName (pathName path)

/-- The name is taken from a URL for which `URI.parse` raises another exception. -/
structure UriRaises (environment : Environment) (url : Text) (request : Request) : Prop where
  fromUrl : request.filename = none
  existing : environment.isDirectory (environment.expandPath (request.dir environment)) = true
  raises : ∃ error, environment.uriPath url = .error (.other error) ∧ error.errorClass ≠ .argumentError

variable {environment : Environment} {url filename name : Text} {request : Request}

/-! ## Names -/

theorem validateDownloadFilename_cases (filename : Text) :
    (∃ error, validateDownloadFilename filename = .error error ∧ error.errorClass = .argumentError) ∨
      validateDownloadFilename filename = .ok filename ∧ PlainName filename := by
  unfold validateDownloadFilename
  split
  · exact Or.inl ⟨_, rfl, rfl⟩
  · rename_i valid
    simp only [Bool.or_eq_true, not_or, List.isEmpty_iff, List.contains_iff_mem, beq_iff_eq] at valid
    obtain ⟨⟨⟨⟨⟨⟨⟨⟨notEmpty, _⟩, _⟩, _⟩, notHidden⟩, noNul⟩, noSlash⟩, noBackslash⟩, _⟩ := valid
    exact Or.inr ⟨rfl, notEmpty, notHidden, noSlash, noBackslash, noNul⟩

/-- A name that is made from a path is validated. -/
theorem basename_cases (path : Text) :
    (∃ error, (fileBasename path >>= validateDownloadFilename) = .error error ∧
        error.errorClass = .argumentError) ∨
      ∃ name, (fileBasename path >>= validateDownloadFilename) = .ok name ∧ PlainName name := by
  unfold fileBasename
  split
  · exact Or.inl ⟨_, rfl, rfl⟩
  · rcases validateDownloadFilename_cases (pathName path) with refused | ⟨accepted, plain⟩
    · exact Or.inl refused
    · exact Or.inr ⟨pathName path, accepted, plain⟩

/-- A name that is made from a URL is validated, or `URI.parse` has raised something. -/
theorem downloadFilenameFromUrl_cases (environment : Environment) (url : Text) :
    (∃ error, environment.uriPath url = .error (.other error) ∧
        downloadFilenameFromUrl environment.names url = .error error) ∨
      (∀ error, environment.uriPath url ≠ .error (.other error)) ∧
        ((∃ error, downloadFilenameFromUrl environment.names url = .error error ∧
            error.errorClass = .argumentError) ∨
          ∃ name, downloadFilenameFromUrl environment.names url = .ok name ∧ PlainName name) := by
  have unfolded : downloadFilenameFromUrl environment.names url =
      pathFromUrl environment.names url >>= fun path => fileBasename path >>= validateDownloadFilename := rfl
  have parses : environment.names.uriPath url = environment.uriPath url := rfl
  rw [unfolded, pathFromUrl, parses]
  cases parsed : environment.uriPath url with
  | ok path =>
    refine Or.inr ⟨fun error same => ?_, basename_cases (path.getD [])⟩
    cases same
  | error raised =>
    cases raised with
    | invalidURI =>
      refine Or.inr ⟨fun error same => ?_, basename_cases (url.takeWhile fun c => c ≠ '?')⟩
      cases same
    | other error => exact Or.inl ⟨error, rfl, rfl⟩

/-- The name a request asks for, once its directory is known to exist. -/
def requestedName (environment : Environment) (url : Text) (request : Request) : Except RubyError Text :=
  match request.filename with
  | none => downloadFilenameFromUrl environment.names url
  | some filename => validateDownloadFilename filename

/-- Each request comes to its directory and its name. -/
theorem resolveDownloadOutput_request (environment : Environment) (url : Text) (request : Request)
    (overwrite : Option Bool) :
    resolveDownloadOutput environment.names url request.downloadPath (request.options overwrite) =
      if environment.isDirectory (environment.expandPath (request.dir environment)) = true then
        requestedName environment url request >>= fun name =>
          .ok (.safeOutput (joinPath (environment.expandPath (request.dir environment)) name)
            (overwrite.getD false))
      else rbRaise .argumentError
        ("download destination directory does not exist: ".toList ++ request.dir environment) := by
  have path : resolveDownloadOutput environment.names url request.downloadPath (request.options overwrite) =
      safeDownloadPath environment.names url (request.dir environment) request.filename >>= fun path =>
        .ok (.safeOutput path (overwrite.getD false)) := by
    cases request <;> rfl
  rw [path]
  unfold safeDownloadPath
  by_cases existing : environment.isDirectory (environment.expandPath (request.dir environment)) = true
  · have here : environment.names.isDirectory (environment.names.expandPath (request.dir environment)) =
        true := existing
    rw [if_pos existing, if_pos here]
    unfold requestedName
    cases request.filename with
    | none => cases downloadFilenameFromUrl environment.names url <;> rfl
    | some filename =>
      dsimp only
      cases validateDownloadFilename filename <;> rfl
  · have here : ¬environment.names.isDirectory (environment.names.expandPath (request.dir environment)) =
        true := existing
    rw [if_neg existing, if_neg here]
    rfl

/-- A plain name is joined to the directory. -/
theorem contained_of_plain {dir : Text} {overwrite : Bool} (plain : PlainName name) :
    Contained environment dir (.ok (.safeOutput (joinPath (environment.expandPath dir) name) overwrite)) := by
  obtain ⟨parent, ends⟩ := joinPath_absolutePath (isPart_normalParts _) plain.notEmpty plain.noSlash
  refine Or.inr ⟨_, overwrite, rfl, parent, ?_⟩
  rw [Environment.expandPath, ends]
  exact plain

/-- A download is contained in its directory, unless `URI.parse` raises what is not rescued. -/
theorem resolveDownloadOutput_contained_iff (environment : Environment) (url : Text) (request : Request)
    (overwrite : Option Bool) :
    Contained environment (request.dir environment)
        (resolveDownloadOutput environment.names url request.downloadPath (request.options overwrite)) ↔
      ¬UriRaises environment url request := by
  rw [resolveDownloadOutput_request]
  by_cases existing : environment.isDirectory (environment.expandPath (request.dir environment)) = true
  · rw [if_pos existing]
    have of_error {error : RubyError} (requested : requestedName environment url request = .error error)
        (isArgument : error.errorClass = .argumentError) :
        Contained environment (request.dir environment) (requestedName environment url request >>= fun name =>
          .ok (.safeOutput (joinPath (environment.expandPath (request.dir environment)) name)
            (overwrite.getD false))) := by
      rw [requested]
      exact Or.inl ⟨error, rfl, isArgument⟩
    have of_name {name : Text} (requested : requestedName environment url request = .ok name)
        (plain : PlainName name) :
        Contained environment (request.dir environment) (requestedName environment url request >>= fun name =>
          .ok (.safeOutput (joinPath (environment.expandPath (request.dir environment)) name)
            (overwrite.getD false))) := by
      rw [requested]
      exact contained_of_plain plain
    cases given : request.filename with
    | some filename =>
      have requested : requestedName environment url request = validateDownloadFilename filename := by
        rw [requestedName, given]
      refine iff_of_true ?_ fun raises => (nomatch given.symm.trans raises.fromUrl)
      rcases validateDownloadFilename_cases filename with ⟨error, refused, isArgument⟩ | ⟨accepted, plain⟩
      · exact of_error (requested.trans refused) isArgument
      · exact of_name (requested.trans accepted) plain
    | none =>
      have requested : requestedName environment url request =
          downloadFilenameFromUrl environment.names url := by
        rw [requestedName, given]
      rcases downloadFilenameFromUrl_cases environment url with ⟨error, raises, refused⟩ |
        ⟨quiet, ⟨error, refused, isArgument⟩ | ⟨name, accepted, plain⟩⟩
      · by_cases isArgument : error.errorClass = .argumentError
        · refine iff_of_true (of_error (requested.trans refused) isArgument) ?_
          rintro ⟨_, _, other, raises', notArgument⟩
          cases raises.symm.trans raises'
          exact notArgument isArgument
        · refine iff_of_false ?_ (not_not.mpr ⟨given, existing, error, raises, isArgument⟩)
          rw [requested, refused]
          rintro (⟨other, same, isArgument'⟩ | ⟨_, _, same, _⟩)
          · cases same
            exact isArgument isArgument'
          · cases same
      · refine iff_of_true (of_error (requested.trans refused) isArgument) ?_
        exact fun raises => raises.raises.elim fun other raised => quiet other raised.1
      · refine iff_of_true (of_name (requested.trans accepted) plain) ?_
        exact fun raises => raises.raises.elim fun other raised => quiet other raised.1
  · rw [if_neg existing]
    exact iff_of_true (Or.inl ⟨_, rfl, rfl⟩) fun raises => existing raises.existing

/-! ## A URL that is no mail address -/

/-- `URI.parse` makes a `URI::MailTo` of a URL that begins with `mailto:`, and refuses it where nothing
in it is an address; other URLs have the path that follows the host. -/
def mailEnvironment : Environment where
  pwd := "/downloads".toList
  home := fun _ => "/root".toList
  isDirectory := fun _ => true
  uriPath := fun url =>
    if "mailto:".toList.isPrefixOf url && !url.contains '@' then
      .error (.other ⟨.invalidComponentError, "unrecognised opaque part for mailtoURL: ".toList ++ url.drop 7⟩)
    else .ok (some (url.dropWhile fun c => c ≠ '/'))

/-- The exception is neither rescued nor an `ArgumentError`. -/
theorem mailUrl_raises :
    ¬∀ environment url (request : Request) overwrite,
      Contained environment (request.dir environment)
        (resolveDownloadOutput environment.names url request.downloadPath (request.options overwrite)) := by
  intro always
  rcases always mailEnvironment "mailto:x".toList .here none with
    ⟨error, same, isArgument⟩ | ⟨path, overwrite, same, _⟩
  · cases same
    cases isArgument
  · cases same

end Curb.Download

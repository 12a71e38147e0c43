import Curb.Ruby.Basic

/-!
# Where a download goes

`Curl.resolve_download_output` and what it calls (`lib/curl/download.rb:8-96`): the destination is an
`IO` of the caller, or a path that is written in safe mode. The names that `File` and `URI` make are
taken from them.
-/

namespace Curb.Download
open Curb.Misc Curb.Ruby

/-- What `URI.parse` raises. -/
inductive UriError where
  /-- `URI::InvalidURIError`. -/
  | invalidURI
  | other (error : RubyError)
  deriving DecidableEq, Repr

/-- What `File`, `Dir` and `URI` say of a name. -/
structure FileNames where
  expandPath : Text → Text
  basename : Text → Except RubyError Text
  join : Text → Text → Text
  isDirectory : Text → Bool
  pwd : Text
  /-- `URI.parse(url).path`, which may be `nil`. -/
  uriPath : Text → Except UriError (Option Text)

/-- A `Hash` of options: the keys `DOWNLOAD_OPTION_KEYS` names, as far as they are present, and the
names of all others. -/
structure DownloadOptions where
  downloadDir : Option (Option Text)
  overwrite : Option Bool
  unsupported : List Text

def DownloadOptions.empty : DownloadOptions := ⟨none, none, []⟩

/-- `Hash#empty?`. -/
def DownloadOptions.isEmpty (options : DownloadOptions) : Bool :=
  options.downloadDir.isNone && options.overwrite.isNone && options.unsupported.isEmpty

/-- `download_options_hash?` of a `Hash`. -/
def DownloadOptions.isDownloadOptions (options : DownloadOptions) : Bool := options.unsupported.isEmpty

/-- An entry of `download_paths`. `text` is what `to_s` makes of a `Hash`. -/
inductive DownloadPath where
  | nil
  | io (io : ObjectId)
  | filename (filename : Text)
  | options (options : DownloadOptions) (text : Text)

/-- `normalize_download_arguments`. -/
def normalizeDownloadArguments (filename : DownloadPath) (options : DownloadOptions) :
    DownloadPath × DownloadOptions :=
  match filename with
  | .options given _ =>
      if given.isDownloadOptions && options.isEmpty then (.nil, given) else (filename, options)
  | _ => (filename, options)

/-- `Array#join(", ")`. -/
def joinNames (names : List Text) : Text := ", ".toList.intercalate names

/-- `parse_download_options`: the directory and whether an existing target is overwritten. -/
def parseDownloadOptions (options : DownloadOptions) : Except RubyError (Option Text × Bool) :=
  if options.unsupported.isEmpty then .ok (options.downloadDir.join, options.overwrite.getD false)
  else rbRaise .argumentError ("unsupported download option(s): ".toList ++ joinNames options.unsupported)

/-- `filename.match?(/\A[A-Za-z]:/)`. -/
def startsWithDrive : Text → Bool
  | letter :: ':' :: _ => letter.isAlpha
  | _ => false

/-- `validate_download_filename!`, where `File::ALT_SEPARATOR` is `nil`. -/
def validateDownloadFilename (filename : Text) : Except RubyError Text :=
  if filename.isEmpty || filename == ".".toList || filename == "..".toList || filename == "/".toList ||
      filename.head? == some '.' || filename.contains (Char.ofNat 0) || filename.contains '/' ||
      filename.contains '\\' || startsWithDrive filename
  then rbRaise .argumentError ("unsafe download filename derived from URL: ".toList ++ inspect (some filename))
  else .ok filename

/-- The path of the URL, with the `rescue` of `URI::InvalidURIError` (`download.rb:63-67`). -/
def pathFromUrl (names : FileNames) (url : Text) : Except RubyError Text :=
  match names.uriPath url with
  | .ok path => .ok (path.getD [])
  | .error .invalidURI => .ok (url.takeWhile fun c => c ≠ '?')
  | .error (.other error) => .error error

/-- `download_filename_from_url`. -/
def downloadFilenameFromUrl (names : FileNames) (url : Text) : Except RubyError Text := do
  let path ← pathFromUrl names url
  let basename ← names.basename path
  validateDownloadFilename basename

/-- `safe_download_path`. -/
def safeDownloadPath (names : FileNames) (url destinationDir : Text) (filename : Option Text) :
    Except RubyError Text := do
  let dir := names.expandPath destinationDir
  if names.isDirectory dir then
    let name ← match filename with
      | none => downloadFilenameFromUrl names url
      | some filename => validateDownloadFilename filename
    pure (names.join dir name)
  else
    rbRaise .argumentError ("download destination directory does not exist: ".toList ++ destinationDir)

/-- `[path, file, safe_output, overwrite]`, which has a file where it has no path. -/
inductive Target where
  | file (io : ObjectId) (overwrite : Bool)
  | safeOutput (path : Text) (overwrite : Bool)
  deriving DecidableEq, Repr

/-- The name `filename` stands for where it is not an `IO`. -/
def DownloadPath.name : DownloadPath → Option Text
  | .filename given => some given
  | .options _ text => some text
  | _ => none

/-- `resolve_download_output`, but for `IO#binmode`. -/
def resolveDownloadOutput (names : FileNames) (url : Text) (filename : DownloadPath)
    (options : DownloadOptions) : Except RubyError Target :=
  let (filename, options) := normalizeDownloadArguments filename options
  match parseDownloadOptions options, filename with
  | .error error, _ => .error error
  | .ok (_, overwrite), .io io => .ok (.file io overwrite)
  | .ok (some downloadDir, overwrite), filename => do
      let path ← safeDownloadPath names url downloadDir filename.name
      pure (.safeOutput path overwrite)
  | .ok (none, overwrite), filename =>
      match filename.name with
      | none => do
          let path ← safeDownloadPath names url names.pwd none
          pure (.safeOutput path overwrite)
      | some filename => .ok (.safeOutput filename overwrite)

end Curb.Download

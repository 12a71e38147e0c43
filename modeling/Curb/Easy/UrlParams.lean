import Curb.Misc.FormEncoding
import Curb.Ruby.Basic

/-!
# Parameters of requests

`Curl.urlalize` appends parameters to the query of a URL and `Curl.postalize` makes a body of them
(`lib/curl.rb:697-711`); `Curl.get`, `Curl.post` and the others send them (`618-695`). What `URI()` makes of
a string is a parameter, and so are the bytes that `URI::Generic#query=` leaves as they are.
-/

namespace Curb.UrlParams
open Curb.Misc Curb.Ruby

/-! ## Parameters -/

/-- The value of a parameter. -/
inductive Value where
  | nil
  | one (text : Bytes)
  /-- An array, with `none` for `nil`. -/
  | many (texts : List (Option Bytes))

/-- A hash, or an array of pairs. -/
abbrev Params := List (Bytes × Value)

def encodePair (name : Bytes) : Option Bytes → Bytes
  | none => formEncode name
  | some value => formEncode name ++ 61 :: formEncode value

def Value.parts (name : Bytes) : Value → Bytes
  | .nil => encodePair name none
  | .one text => encodePair name (some text)
  | .many texts => [38].intercalate (texts.map (encodePair name))

/-- `URI.encode_www_form`. -/
def encodeWwwForm (params : Params) : Bytes :=
  [38].intercalate (params.map fun param => param.2.parts param.1)

/-- An argument of `postalize`. -/
inductive Body where
  /-- It responds to `map`. -/
  | params (params : Params)
  /-- It has a `to_s`. -/
  | text (text : Bytes)

/-- `Curl.postalize`. -/
def postalize : Body → Bytes
  | .params params => encodeWwwForm params
  | .text text => text

/-! ## URLs -/

/-- What `URI()` returns: what `to_s` writes before the query, the query and the fragment. A URI such as
`mailto:a` is rootless, and has no query of its own. -/
structure Uri where
  base : Bytes
  rootless : Bool
  query : Option Bytes
  fragment : Option Bytes
  rootless_query : rootless = true → query = none

/-- `URI::Generic#to_s`. -/
def Uri.toS (uri : Uri) : Bytes :=
  uri.base ++ (uri.query.elim [] fun query => 63 :: query) ++ uri.fragment.elim [] fun fragment => 35 :: fragment

variable {ε : Type} (parse : Bytes → Except ε Uri) (keeps : UInt8 → Bool) (invalidUri : Text → ε)

/-- How `query=` writes a query: without tabs and line ends, other bytes escaped. -/
def writeQuery (query : Bytes) : Bytes :=
  (query.filter fun byte => byte ∉ [9, 10, 13]).flatMap fun byte =>
    if keeps byte then [byte] else [37, hexDigit (byte.toNat / 16), hexDigit (byte.toNat % 16)]

/-- `URI::Generic#query=`. -/
def Uri.setQuery (uri : Uri) (query : Bytes) : Except ε Uri :=
  if rootless : uri.rootless = true then .error (invalidUri "query conflicts with opaque".toList)
  else .ok { uri with
    query := some (writeQuery keeps query)
    rootless_query := fun is => absurd is rootless }

/-- `Curl.urlalize`. -/
def urlalize (url : Bytes) (params : Params) : Except ε Bytes := do
  let uri ← parse url
  if params.isEmpty then pure uri.toS
  else do
    let parts := [uri.query.getD [], encodeWwwForm params].filter fun part => part ≠ []
    let changed ← uri.setQuery keeps invalidUri ([38].intercalate parts)
    pure changed.toS

/-! ## Requests -/

/-- What `Curl.http` sets on its new handle, and the verb it performs with. -/
structure Request where
  verb : String
  url : Bytes
  postBody : Option Bytes
  putData : Option Bytes

/-- `Curl.http`. -/
def http (verb : String) (url : Bytes) (postBody putData : Option Bytes) : Request :=
  ⟨verb, url, postBody, putData⟩

/-- A request with its parameters in the URL. -/
def withQuery (verb : String) (url : Bytes) (params : Params) : Except ε Request := do
  let url ← urlalize parse keeps invalidUri url params
  pure (http verb url none none)

def get (url : Bytes) (params : Params) : Except ε Request :=
  withQuery parse keeps invalidUri "GET" url params

def head (url : Bytes) (params : Params) : Except ε Request :=
  withQuery parse keeps invalidUri "HEAD" url params

def options (url : Bytes) (params : Params) : Except ε Request :=
  withQuery parse keeps invalidUri "OPTIONS" url params

/-- A request with its parameters in the body. -/
def withBody (verb : String) (url : Bytes) (params : Body) : Request :=
  http verb url (some (postalize params)) none

def post (url : Bytes) (params : Body) : Request := withBody "POST" url params

def delete (url : Bytes) (params : Body) : Request := withBody "DELETE" url params

def patch (url : Bytes) (params : Body) : Request := withBody "PATCH" url params

def put (url : Bytes) (params : Body) : Request := http "PUT" url none (some (postalize params))

/-! ## What a body says -/

/-- The pairs of a parameter; a `nil` is read as an empty value, and an empty name alone is no pair. -/
def pairsOf (name : Bytes) : Option Bytes → List (Bytes × Bytes)
  | none => if name = [] then [] else [(name, [])]
  | some value => [(name, value)]

def Value.pairs (name : Bytes) : Value → List (Bytes × Bytes)
  | .nil => pairsOf name none
  | .one text => pairsOf name (some text)
  | .many texts => texts.flatMap (pairsOf name)

def pairs (params : Params) : List (Bytes × Bytes) := params.flatMap fun param => param.2.pairs param.1

@[simp] theorem formRead_encodePair (name : Bytes) (value : Option Bytes) :
    formRead (encodePair name value) = pairsOf name value := by
  cases value with
  | none => exact formRead_name name
  | some value => exact formRead_pair name value

@[simp] theorem formRead_parts (name : Bytes) (value : Value) :
    formRead (value.parts name) = value.pairs name := by
  cases value with
  | nil => exact formRead_encodePair name none
  | one text => exact formRead_encodePair name (some text)
  | many texts => simp [Value.parts, Value.pairs, formRead_intercalate, List.flatMap_map]

theorem formRead_encodeWwwForm (params : Params) : formRead (encodeWwwForm params) = pairs params := by
  simp [encodeWwwForm, pairs, formRead_intercalate, List.flatMap_map]

/-! ## What a URL says -/

/-- The part before the query, the query and the fragment (RFC 3986, appendix B). -/
def splitUri (text : Bytes) : Bytes × Option Bytes × Option Bytes :=
  let front := text.takeWhile fun byte => byte ≠ 35
  (front.takeWhile fun byte => byte ≠ 63, (front.dropWhile fun byte => byte ≠ 63).tail?,
    (text.dropWhile fun byte => byte ≠ 35).tail?)

/-- A URI as a parser returns it. -/
structure Uri.Valid (uri : Uri) : Prop where
  base : (35 : UInt8) ∉ uri.base ∧ (63 : UInt8) ∉ uri.base
  query : ∀ query ∈ uri.query, ∀ byte ∈ query, keeps byte = true ∧ byte ∉ [9, 10, 13, 35]

variable {keeps} {uri : Uri}

/-- What is before a separator, and what is behind it. -/
theorem takeWhile_separator {separator : UInt8} {front : Bytes} (absent : separator ∉ front)
    (rest : Option Bytes) :
    (front ++ rest.elim [] fun rest => separator :: rest).takeWhile (fun byte => byte ≠ separator) = front ∧
      ((front ++ rest.elim [] fun rest => separator :: rest).dropWhile
        fun byte => byte ≠ separator).tail? = rest := by
  have before : ∀ byte ∈ front, decide (byte ≠ separator) = true := by
    intro byte mem
    refine decide_eq_true ?_
    rintro rfl
    exact absent mem
  rw [List.takeWhile_append_of_pos before, List.dropWhile_append_of_pos before]
  cases rest with
  | none => simp
  | some rest => simp

theorem splitUri_toS (valid : uri.Valid keeps) : splitUri uri.toS = (uri.base, uri.query, uri.fragment) := by
  have front : (35 : UInt8) ∉ uri.base ++ uri.query.elim [] fun query => 63 :: query := by
    intro mem
    rcases List.mem_append.mp mem with inBase | inQuery
    · exact valid.base.1 inBase
    · cases query : uri.query with
      | none => simp [query] at inQuery
      | some text =>
        have sharp : (35 : UInt8) ∈ text := by simpa [query] using inQuery
        exact (valid.query text query 35 sharp).2 (by decide)
  obtain ⟨taken, fragment⟩ := takeWhile_separator front uri.fragment
  obtain ⟨base, query⟩ := takeWhile_separator valid.base.2 uri.query
  unfold splitUri Uri.toS
  rw [taken, fragment]
  dsimp only
  rw [base, query]

/-- A form consists of these bytes. -/
def FormByte (byte : UInt8) : Prop := isFormByte byte = true ∨ byte ∈ [37, 38, 43, 61]

theorem formByte_encodePair {name : Bytes} {value : Option Bytes} {byte : UInt8}
    (mem : byte ∈ encodePair name value) : FormByte byte := by
  have encoded {bytes : Bytes} (mem : byte ∈ formEncode bytes) : FormByte byte := by
    rcases mem_formEncode mem with written | rfl | rfl
    · exact Or.inl written
    · simp [FormByte]
    · simp [FormByte]
  cases value with
  | none => exact encoded mem
  | some value =>
    rcases List.mem_append.mp mem with inName | mem
    · exact encoded inName
    · rcases List.mem_cons.mp mem with rfl | inValue
      · simp [FormByte]
      · exact encoded inValue

theorem formByte_encodeWwwForm {params : Params} {byte : UInt8} (mem : byte ∈ encodeWwwForm params) :
    FormByte byte := by
  rcases mem_intercalate mem with rfl | ⟨part, inside, mem⟩
  · simp [FormByte]
  · obtain ⟨⟨name, value⟩, -, rfl⟩ := List.mem_map.mp inside
    cases value with
    | nil => exact @formByte_encodePair name none byte mem
    | one text => exact @formByte_encodePair name (some text) byte mem
    | many texts =>
      rcases mem_intercalate mem with rfl | ⟨part, inside, mem⟩
      · simp [FormByte]
      · obtain ⟨value, -, rfl⟩ := List.mem_map.mp inside
        exact formByte_encodePair mem

theorem FormByte.plain {byte : UInt8} (form : FormByte byte) : byte ∉ [9, 10, 13, 35] := by
  intro control
  simp only [List.mem_cons, List.not_mem_nil, or_false] at control
  rcases control with rfl | rfl | rfl | rfl <;> exact absurd form (by unfold FormByte; decide)

theorem writeQuery_eq_self {query : Bytes} (kept : ∀ byte ∈ query, keeps byte = true ∧ byte ∉ [9, 10, 13]) :
    writeQuery keeps query = query := by
  unfold writeQuery
  induction query with
  | nil => rfl
  | cons byte rest ih =>
    obtain ⟨keep, plain⟩ := kept byte List.mem_cons_self
    have later := ih fun other mem => kept other (List.mem_cons_of_mem _ mem)
    have taken : ((byte :: rest).filter fun byte => byte ∉ [9, 10, 13]) =
        byte :: rest.filter fun byte => byte ∉ [9, 10, 13] := List.filter_cons_of_pos (decide_eq_true plain)
    rw [taken, List.flatMap_cons, if_pos keep, later]
    rfl

/-- The query that `urlalize` gives a URI: the one it had, and the parameters behind it. -/
theorem setQuery_reads {params : Params} (writes : ∀ byte, FormByte byte → keeps byte = true)
    (valid : uri.Valid keeps) (rooted : uri.rootless = false) :
    ∃ changed query, uri.setQuery keeps invalidUri ([38].intercalate
        ([uri.query.getD [], encodeWwwForm params].filter fun part => part ≠ [])) = .ok changed ∧
      changed.Valid keeps ∧ changed.base = uri.base ∧ changed.fragment = uri.fragment ∧
      changed.query = some query ∧
      formRead query = formRead (uri.query.getD []) ++ formRead (encodeWwwForm params) := by
  have kept : ∀ byte ∈ [38].intercalate
      ([uri.query.getD [], encodeWwwForm params].filter fun part => part ≠ []),
      keeps byte = true ∧ byte ∉ [9, 10, 13, 35] := by
    intro byte mem
    rcases mem_intercalate mem with rfl | ⟨part, inside, mem⟩
    · exact ⟨writes 38 (by simp [FormByte]), by decide⟩
    · have either := (List.mem_filter.mp inside).1
      simp only [List.mem_cons, List.not_mem_nil, or_false] at either
      rcases either with rfl | rfl
      · cases query : uri.query with
        | none => simp [query] at mem
        | some text => exact valid.query text query byte (by simpa [query] using mem)
      · have form := formByte_encodeWwwForm mem
        exact ⟨writes byte form, form.plain⟩
  have same : writeQuery keeps ([38].intercalate
      ([uri.query.getD [], encodeWwwForm params].filter fun part => part ≠ [])) =
        [38].intercalate ([uri.query.getD [], encodeWwwForm params].filter fun part => part ≠ []) :=
    writeQuery_eq_self fun byte mem => ⟨(kept byte mem).1, fun control => (kept byte mem).2 (by simp_all)⟩
  have rooted' : ¬uri.rootless = true := by simp [rooted]
  refine ⟨_, _, dif_neg rooted', ⟨valid.base, fun query is => ?_⟩, rfl, rfl, rfl, ?_⟩
  · rw [← Option.some.inj is, same]
    exact kept
  · rw [same, formRead_intercalate_filter]
    simp

/-- A request with parameters in its URL asks for the same thing with the parameters behind the query that
was there, and the server reads the pairs that it would read from a body with them. -/
theorem withQuery_reads {url : Bytes} (verb : String) (params : Params)
    (writes : ∀ byte, FormByte byte → keeps byte = true) (parsed : parse url = .ok uri)
    (valid : uri.Valid keeps) (rooted : uri.rootless = false) :
    ∃ request query, withQuery parse keeps invalidUri verb url params = .ok request ∧ request.verb = verb ∧
      splitUri request.url = (uri.base, query, uri.fragment) ∧
      formRead (query.getD []) = formRead (uri.query.getD []) ++ formRead (postalize (.params params)) ∧
      formRead (postalize (.params params)) = pairs params := by
  have read : formRead (postalize (.params params)) = pairs params := formRead_encodeWwwForm params
  unfold withQuery urlalize
  rw [parsed]
  cases params with
  | nil => exact ⟨http verb uri.toS none none, uri.query, rfl, rfl, splitUri_toS valid, by simp [read, pairs], read⟩
  | cons param rest =>
    obtain ⟨changed, query, sets, valid', base, fragment, same, reads⟩ :=
      setQuery_reads invalidUri writes valid rooted
    refine ⟨http verb changed.toS none none, some query, ?_, rfl, ?_, reads, read⟩
    · rw [except_ok_bind, if_neg (by simp)]
      dsimp only
      rw [sets]
      rfl
    · exact (splitUri_toS valid').trans (by rw [base, fragment, same])

/-- `http://h/p?a=1#f`. -/
def searchPage : Uri :=
  ⟨[104, 116, 116, 112, 58, 47, 47, 104, 47, 112], false, some [97, 61, 49], some [102], Bool.noConfusion⟩

/-- The bytes from `!` to `~` without the quotes, `#`, `<` and `>`. -/
def queryBytes (byte : UInt8) : Bool := 33 ≤ byte && byte ≤ 126 && byte ∉ [34, 35, 39, 60, 62]

theorem withQuery_reads_searchPage : ∃ request query,
    @get Text (fun _ => .ok searchPage) queryBytes id searchPage.toS
      [([98], .one [32, 38]), ([99], .many [none, some [50]])] = .ok request ∧ request.verb = "GET" ∧
    splitUri request.url = (searchPage.base, query, searchPage.fragment) ∧
    formRead (query.getD []) = formRead [97, 61, 49] ++ formRead (postalize (.params
      [([98], .one [32, 38]), ([99], .many [none, some [50]])])) ∧
    formRead (postalize (.params [([98], .one [32, 38]), ([99], .many [none, some [50]])])) =
      [([98], [32, 38]), ([99], []), ([99], [50])] := by
  have small : ∀ n : Fin 256, isFormByte (.ofNat n) = true ∨ UInt8.ofNat n ∈ [37, 38, 43, 61] →
      queryBytes (.ofNat n) = true := by decide +kernel
  have writes : ∀ byte, FormByte byte → queryBytes byte = true := by
    intro byte form
    have here := small ⟨byte.toNat, byte.toNat_lt⟩
    rw [UInt8.ofNat_toNat] at here
    exact here form
  have valid : searchPage.Valid queryBytes := by
    refine ⟨by decide, fun query is => ?_⟩
    rw [← Option.some.inj is]
    decide +kernel
  exact withQuery_reads (fun _ => .ok searchPage) id "GET" _ writes rfl valid rfl

end Curb.UrlParams

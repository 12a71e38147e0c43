import Curb.Easy.Setup

/-!
# The lists of a setup

Five options of libcurl hold a list. A setup frees the lists it has retained and builds new ones from the
Ruby options (`ext/curb_easy.c:4232-4335`), entry by entry; a conversion or an append that fails ends it
with a part of a list. `setopt` builds two of them, too (`curb_easy.c:5936-5992`), and a cleanup frees all
(`curb_easy.c:4365-4381`).
-/

namespace Curb.SetupLists
open Curb.Misc Curb.Ruby
open Curb.Setup (cString)

/-! ## Ruby objects -/

/-- A Ruby object. `toS` is what `rb_obj_as_string` makes of it. -/
inductive RubyObject where
  | nil
  | text (str : Text)
  | array (items : List RubyObject) (toS : Except RubyError Text)
  /-- A hash, with the arrays that `each` yields. -/
  | hash (pairs : List RubyObject) (toS : Except RubyError Text)
  /-- Any other object, with its `StringValue`. -/
  | object (toS stringValue : Except RubyError Text)

namespace RubyObject

/-- `rb_obj_as_string`. -/
def objAsString : RubyObject → Except RubyError Text
  | .nil => .ok []
  | .text str => .ok str
  | .array _ toS => toS
  | .hash _ toS => toS
  | .object toS _ => toS

def noConversion (name : String) : Except RubyError Text :=
  rbRaise .typeError s!"no implicit conversion of {name} into String".toList

/-- `StringValue`. -/
def stringValue : RubyObject → Except RubyError Text
  | .nil => noConversion "nil"
  | .text str => .ok str
  | .array _ _ => noConversion "Array"
  | .hash _ _ => noConversion "Hash"
  | .object _ stringValue => stringValue

/-- `StringValueCStr`. -/
def stringValueCStr (value : RubyObject) : Except RubyError Text := value.stringValue.bind Ruby.stringValueCStr

/-- `rb_ary_entry`. -/
def aryEntry (items : List RubyObject) (index : Nat) : RubyObject := items[index]?.getD .nil

end RubyObject

open RubyObject

/-! ## Handles -/

inductive ListField where
  | headers | proxyHeaders | ftpCommands | resolve | connectTo
  deriving DecidableEq, Repr

/-- A handle, as far as its lists go. What libcurl was given is held by its content; `NULL` is the empty
list. -/
structure Handle where
  opts : ListField → RubyObject
  /-- The retained lists: `curl_headers` and its siblings. -/
  lists : ListField → List Text
  /-- `HTTPHEADER`, `PROXYHEADER`, `QUOTE`, `RESOLVE` and `CONNECT_TO`. -/
  native : ListField → List Text

/-- A new handle, and what `ruby_curl_easy_close` makes of one (`curb_easy.c:1661-1674`). -/
def Handle.new : Handle := ⟨fun _ => .nil, fun _ => [], fun _ => []⟩

/-- An option is set to `NULL`. -/
def Handle.forget (handle : Handle) (field : ListField) : Handle :=
  { handle with native := Function.update handle.native field [] }

/-- `ruby_curl_easy_clear_headers_list` and its siblings (`curb_easy.c:1208-1267`). -/
def Handle.clearList (handle : Handle) (field : ListField) : Handle :=
  if handle.lists field = [] then handle
  else { handle.forget field with lists := Function.update handle.lists field [] }

/-- `ruby_curl_easy_clear_setup_lists`. -/
def Handle.clearSetupLists (handle : Handle) : Handle :=
  ((((handle.clearList .headers).clearList .proxyHeaders).clearList .ftpCommands).clearList
    .resolve).clearList .connectTo

/-- `ruby_curl_easy_cleanup`. -/
def Handle.cleanup (handle : Handle) : Handle := handle.clearSetupLists

/-- What `rb_curl_mutli_handle_complete` does to the handle (`ext/curb_multi.c:1154-1160`). -/
def Handle.complete (handle : Handle) : Handle :=
  { handle.cleanup with lists := Function.update handle.cleanup.lists .headers [] }

/-- `ruby_curl_easy_reset`, where it is not refused: a cleanup, `curl_easy_reset` and
`ruby_curl_easy_zero`. -/
def Handle.reset (handle : Handle) : Handle :=
  let reset := { handle.cleanup with native := fun _ => [] }
  { reset with opts := fun _ => .nil, lists := fun _ => [] }

/-- `duplicate_curl_slist`. -/
def duplicateCurlSlist (list : List Text) : List Text := list.foldl (fun copy entry => copy ++ [entry]) []

/-- The copy of `ruby_curl_easy_clone` (`curb_easy.c:1587-1612`): the options of libcurl are those of the
source. -/
def Handle.clone (handle : Handle) : Handle :=
  { handle with lists := fun field => duplicateCurlSlist (handle.lists field) }

/-! ## `ruby_curl_easy_setup_body` -/

section
-- Whether `curl_slist_append` finds memory for one more entry.
variable (append : List Text → Text → Bool)

abbrev Setup := EStateM RubyError Handle

/-- `StringValuePtr` and `curl_slist_append`: libcurl copies a C string. -/
def appendEntry (field : ListField) (message : String) (entry : Except RubyError Text) : Setup Unit := do
  let str ← fromExcept entry
  let handle ← get
  if append (handle.lists field) (cString str) then
    modify fun handle =>
      { handle with lists := Function.update handle.lists field (handle.lists field ++ [cString str]) }
  else throw ⟨.noMemoryError, message.toList⟩

/-- The text of a header; one with an empty value takes a header away. -/
def httpHeader : RubyObject → Except RubyError Text
  | .array items _ => do
      let name ← (aryEntry items 0).objAsString
      let value ← (aryEntry items 1).objAsString
      pure (if value = [] then name ++ ":".toList else name ++ ": ".toList ++ value)
  | header => header.objAsString

def httpProxyHeader : RubyObject → Except RubyError Text
  | .array items _ => do
      let name ← (aryEntry items 0).objAsString
      let value ← (aryEntry items 1).objAsString
      pure (name ++ ": ".toList ++ value)
  | proxyHeader => proxyHeader.objAsString

def cbEachHttpHeader (header : RubyObject) : Setup Unit :=
  appendEntry append .headers "Failed to append to header list" (httpHeader header)

def cbEachHttpProxyHeader (proxyHeader : RubyObject) : Setup Unit :=
  appendEntry append .proxyHeaders "Failed to append to proxy header list" (httpProxyHeader proxyHeader)

def cbEachFtpCommand (ftpCommand : RubyObject) : Setup Unit :=
  appendEntry append .ftpCommands "Failed to append to FTP command list" ftpCommand.objAsString

def cbEachResolve (resolve : RubyObject) : Setup Unit :=
  appendEntry append .resolve "Failed to append to resolve list" resolve.objAsString

def cbEachConnectTo (connectTo : RubyObject) : Setup Unit :=
  appendEntry append .connectTo "Failed to append to connect-to list" connectTo.objAsString

def cbEach : ListField → RubyObject → Setup Unit
  | .headers => cbEachHttpHeader append
  | .proxyHeaders => cbEachHttpProxyHeader append
  | .ftpCommands => cbEachFtpCommand append
  | .resolve => cbEachResolve append
  | .connectTo => cbEachConnectTo append

/-- What `each` yields, where the setup calls it: of an array, and of a hash for headers. -/
def elements : ListField → RubyObject → Option (List RubyObject)
  | _, .array items _ => some items
  | .headers, .hash pairs _ => some pairs
  | .proxyHeaders, .hash pairs _ => some pairs
  | _, _ => none

/-- A value on its own; there is no such branch for `ftp_commands`. -/
def appendSingle (value : RubyObject) : ListField → Setup Unit
  | .headers => appendEntry append .headers "Failed to append to headers list" value.objAsString
  | .proxyHeaders => appendEntry append .proxyHeaders "Failed to append to proxy headers list" value.objAsString
  | .ftpCommands => pure ()
  | .resolve => appendEntry append .resolve "Failed to append to resolve list" value.objAsString
  | .connectTo => appendEntry append .connectTo "Failed to append to connect-to list" value.objAsString

def fillList (field : ListField) (value : RubyObject) : Setup Unit :=
  match elements field value with
  | some items => items.forM (cbEach append field)
  | none => appendSingle append value field

/-- libcurl is given the retained list, if it is not `NULL`. -/
def Handle.giveList (handle : Handle) (field : ListField) : Handle :=
  if handle.lists field = [] then handle
  else { handle with native := Function.update handle.native field (handle.lists field) }

/-- One list. -/
def setupList (field : ListField) : Setup Unit := do
  let handle ← get
  match handle.opts field with
  | .nil => pure ()
  | value => do
      fillList append field value
      modify fun handle => handle.giveList field

/-- The lists of a setup. -/
def setupLists : Setup Unit := do
  modify Handle.clearSetupLists
  modify fun handle => handle.forget .headers
  setupList append .headers
  modify fun handle => handle.forget .proxyHeaders
  setupList append .proxyHeaders
  setupList append .ftpCommands
  setupList append .resolve
  setupList append .connectTo

/-- `ruby_curl_easy_setup`, with the outcome of the options before the lists. -/
def setup (options : Except RubyError Unit) : Setup Unit := do
  fromExcept options
  setupLists append

/-! ## `setopt` -/

/-- The entries of an array (`curb_easy.c:5943-5952`). -/
def appendItems (message : String) : List RubyObject → List Text → Except RubyError (List Text)
  | [], list => .ok list
  | item :: rest, list => do
      let str ← item.stringValueCStr
      if append list str then appendItems message rest (list ++ [str])
      else rbRaise .noMemoryError message.toList

def listOf (name : String) : RubyObject → Except RubyError (List Text)
  | .nil => .ok []
  | .array items _ => appendItems append s!"Failed to append to {name} list" items []
  | value => do
      let str ← value.stringValueCStr
      if append [] str then .ok [str]
      else rbRaise .noMemoryError s!"Failed to create {name} list".toList

def setList (field : ListField) (name : String) (value : RubyObject) : Setup Unit := do
  modify fun handle => handle.clearList field
  let list ← fromExcept (listOf append name value)
  modify fun handle => { handle with
    lists := Function.update handle.lists field list
    opts := Function.update handle.opts field value
    native := Function.update handle.native field list }

/-- `setopt (CURLOPT_RESOLVE, ..)`. -/
def setOptResolve (value : RubyObject) : Setup Unit := setList append .resolve "resolve" value

/-- `setopt (CURLOPT_CONNECT_TO, ..)`. -/
def setOptConnectTo (value : RubyObject) : Setup Unit := setList append .connectTo "connect-to" value

/-! ## Histories -/

/-- What has happened to a handle. A perform is a setup, and its completion if that succeeds. -/
inductive Step where
  /-- `CURB_OBJECT_HSETTER`, or a change of the object that an option holds. -/
  | assign (field : ListField) (value : RubyObject)
  | setOptResolve (value : RubyObject)
  | setOptConnectTo (value : RubyObject)
  | setup (options : Except RubyError Unit)
  | cleanup
  | complete
  | reset
  | close
  /-- It goes on with a clone. -/
  | clone

/-- The handle after a step; one that raises leaves it as it is then. -/
def execute (handle : Handle) : Step → Handle
  | .assign field value => { handle with opts := Function.update handle.opts field value }
  | .setOptResolve value => finalState (SetupLists.setOptResolve append value) handle
  | .setOptConnectTo value => finalState (SetupLists.setOptConnectTo append value) handle
  | .setup options => finalState (SetupLists.setup append options) handle
  | .cleanup => handle.cleanup
  | .complete => handle.complete
  | .reset => handle.reset
  | .close => .new
  | .clone => handle.clone

def run (history : List Step) : Handle := history.foldl (execute append) .new

end

/-! ## Entries -/

/-- There is nothing in the value. -/
def RubyObject.isEmpty : RubyObject → Bool
  | .nil => true
  | .text str => str.isEmpty
  | .array items _ => items.isEmpty
  | .hash pairs _ => pairs.isEmpty
  | .object _ _ => false

/-- The text of an element. -/
def entryOf : ListField → RubyObject → Except RubyError Text
  | .headers => httpHeader
  | .proxyHeaders => httpProxyHeader
  | _ => objAsString

/-- The entries of a value: those of its elements, or its own text. An empty value has none. -/
def entriesOf (field : ListField) (value : RubyObject) : Except RubyError (List Text) :=
  if value.isEmpty then .ok []
  else match elements field value with
    | some items => items.mapM (entryOf field)
    | none => value.objAsString.map fun str => [str]

/-- The list of libcurl is that of the Ruby option. -/
def Mirrors (handle : Handle) (field : ListField) : Prop :=
  entriesOf field (handle.opts field) = .ok (handle.native field)

/-- No entry has a NUL in it; and of the values that are no lists, those of `ftp_commands` are empty, and
those of the other options are not. -/
def Mirrorable (field : ListField) (value : RubyObject) : Prop :=
  (∀ entries, entriesOf field value = .ok entries → ∀ entry ∈ entries, Char.ofNat 0 ∉ entry) ∧
    (elements field value = none → value = .nil ∨ (field = .ftpCommands ↔ value.isEmpty = true))

/-! ## What is retained is what libcurl has -/

section Coupled
variable {handle : Handle} {field : ListField} {append : List Text → Text → Bool}

/-- Where no list is retained libcurl has none. -/
def Coupled (handle : Handle) : Prop := ∀ field, handle.lists field = [] → handle.native field = []

theorem coupled_new : Coupled .new := fun _ _ => rfl

theorem coupled_set {list : List Text} {given : List Text} (coupled : Coupled handle)
    (here : list = [] → given = []) :
    Coupled { handle with
      lists := Function.update handle.lists field list, native := Function.update handle.native field given } := by
  intro other
  by_cases same : other = field
  · subst same
    simpa using here
  · simpa [same] using coupled other

theorem coupled_clearList (coupled : Coupled handle) : Coupled (handle.clearList field) := by
  unfold Handle.clearList
  split
  · exact coupled
  · exact coupled_set coupled fun _ => rfl

theorem coupled_forget (coupled : Coupled handle) : Coupled (handle.forget field) := by
  have kept := @coupled_set handle field (handle.lists field) [] coupled fun _ => rfl
  rwa [Function.update_eq_self] at kept

theorem coupled_clearSetupLists (coupled : Coupled handle) : Coupled handle.clearSetupLists :=
  coupled_clearList (coupled_clearList (coupled_clearList (coupled_clearList (coupled_clearList coupled))))

theorem coupled_giveList (coupled : Coupled handle) : Coupled (handle.giveList field) := by
  unfold Handle.giveList
  split
  · exact coupled
  · have kept := @coupled_set handle field (handle.lists field) (handle.lists field) coupled id
    rwa [Function.update_eq_self] at kept

theorem coupled_append {entry : Text} (coupled : Coupled handle) :
    Coupled { handle with lists := Function.update handle.lists field (handle.lists field ++ [entry]) } := by
  have grown : handle.lists field ++ [entry] = [] → handle.native field = [] := by simp
  have kept := @coupled_set handle field (handle.lists field ++ [entry]) (handle.native field) coupled grown
  rwa [Function.update_eq_self] at kept

theorem keeps_appendEntry {message : String} {entry : Except RubyError Text} :
    Keeps Coupled (appendEntry append field message entry) := by
  refine keeps_bind keeps_fromExcept fun str handle coupled => ?_
  change Coupled (finalState (if _ then _ else _) handle)
  split
  · exact coupled_append coupled
  · exact coupled

theorem keeps_fillList {value : RubyObject} : Keeps Coupled (fillList append field value) := by
  unfold fillList
  split
  · refine keeps_forM fun element _ => ?_
    cases field <;> exact keeps_appendEntry
  · cases field with
    | ftpCommands => exact keeps_pure
    | _ => exact keeps_appendEntry

theorem keeps_setupList : Keeps Coupled (setupList append field) := by
  intro handle coupled
  rw [setupList, finalState, get_bind_apply]
  cases handle.opts field with
  | nil => exact coupled
  | _ => exact keeps_bind keeps_fillList (fun _ => keeps_modify fun _ => coupled_giveList) handle coupled

theorem keeps_setup {options : Except RubyError Unit} : Keeps Coupled (setup append options) := by
  refine keeps_bind keeps_fromExcept fun _ => ?_
  refine keeps_bind (keeps_modify fun _ => coupled_clearSetupLists) fun _ => ?_
  refine keeps_bind (keeps_modify fun _ => coupled_forget) fun _ => ?_
  refine keeps_bind keeps_setupList fun _ => ?_
  refine keeps_bind (keeps_modify fun _ => coupled_forget) fun _ => ?_
  refine keeps_bind keeps_setupList fun _ => ?_
  refine keeps_bind keeps_setupList fun _ => ?_
  exact keeps_bind keeps_setupList fun _ => keeps_setupList

theorem keeps_setList {name : String} {value : RubyObject} : Keeps Coupled (setList append field name value) := by
  refine keeps_bind (keeps_modify fun _ => coupled_clearList) fun _ => ?_
  refine keeps_bind keeps_fromExcept fun list => keeps_modify fun handle coupled => ?_
  have stored : Coupled { handle with opts := Function.update handle.opts field value } := coupled
  exact coupled_set stored id

theorem duplicateCurlSlist_eq (list : List Text) : duplicateCurlSlist list = list := by
  rw [duplicateCurlSlist]
  induction list using List.reverseRecOn with
  | nil => rfl
  | append_singleton list entry ih => rw [List.foldl_append, ih, List.foldl_cons, List.foldl_nil]

theorem lists_clearList (handle : Handle) (field : ListField) :
    (handle.clearList field).lists = Function.update handle.lists field [] := by
  unfold Handle.clearList
  split
  · rename_i none
    rw [← none, Function.update_eq_self]
  · rfl

theorem lists_clearSetupLists (handle : Handle) (field : ListField) : handle.clearSetupLists.lists field = [] := by
  simp only [Handle.clearSetupLists, lists_clearList]
  cases field <;> simp

theorem coupled_execute {step : Step} (coupled : Coupled handle) : Coupled (execute append handle step) := by
  cases step with
  | assign field value => exact coupled
  | setOptResolve value => exact keeps_setList handle coupled
  | setOptConnectTo value => exact keeps_setList handle coupled
  | setup options => exact keeps_setup handle coupled
  | cleanup => exact coupled_clearSetupLists coupled
  | complete =>
    intro field _
    exact coupled_clearSetupLists coupled field (lists_clearSetupLists handle field)
  | reset => exact fun _ _ => rfl
  | close => exact coupled_new
  | clone =>
    intro field none
    exact coupled field ((duplicateCurlSlist_eq _).symm.trans none)

/-- Every history keeps the two together. -/
theorem coupled_run (history : List Step) : Coupled (run append history) := by
  rw [run]
  induction history using List.reverseRecOn with
  | nil => exact coupled_new
  | append_singleton history step ih =>
    rw [List.foldl_append]
    exact coupled_execute ih

end Coupled

/-! ## What a setup gives -/

section Given
variable {handle after : Handle} {field : ListField} {append : List Text → Text → Bool}

/-- The list a setup gives for a value, where it does not raise. -/
def givenTo (field : ListField) (value : RubyObject) : Except RubyError (List Text) :=
  match value with
  | .nil => .ok []
  | value =>
      match elements field value with
      | some items => (items.mapM (entryOf field)).map fun entries => entries.map cString
      | none =>
          if field = .ftpCommands then .ok [] else value.objAsString.map fun str => [cString str]

/-- Both lists of a field are this one. -/
def Handle.give (handle : Handle) (field : ListField) (list : List Text) : Handle :=
  { handle with
    lists := Function.update handle.lists field list
    native := Function.update handle.native field list }

/-- The retained list of a field is this one. -/
def Handle.retain (handle : Handle) (field : ListField) (list : List Text) : Handle :=
  { handle with lists := Function.update handle.lists field list }

theorem appendEntry_returns {message : String} {entry : Except RubyError Text}
    (returns : Returns (appendEntry append field message entry) handle () after) :
    ∃ str, entry = .ok str ∧ after = handle.retain field (handle.lists field ++ [cString str]) := by
  simp only [appendEntry, bind_returns_iff, returns_fromExcept_iff, returns_get_iff] at returns
  obtain ⟨str, _, ⟨ok, rfl⟩, _, _, ⟨rfl, rfl⟩, returns⟩ := returns
  split at returns
  · exact ⟨str, ok, returns_modify_iff.mp returns⟩
  · exact absurd returns returns_throw_iff

theorem cbEach_returns {element : RubyObject} (returns : Returns (cbEach append field element) handle () after) :
    ∃ str, entryOf field element = .ok str ∧
      after = handle.retain field (handle.lists field ++ [cString str]) := by
  cases field <;> exact appendEntry_returns returns

theorem retain_retain (handle : Handle) (field : ListField) (list list' : List Text) :
    (handle.retain field list).retain field list' = handle.retain field list' := by
  simp [Handle.retain]

theorem forM_cbEach_returns {items : List RubyObject}
    (returns : Returns (items.forM (cbEach append field)) handle () after) :
    ∃ entries, items.mapM (entryOf field) = .ok entries ∧
      after = handle.retain field (handle.lists field ++ entries.map cString) := by
  induction items generalizing handle with
  | nil =>
    obtain ⟨_, rfl⟩ := returns_pure_iff.mp returns
    exact ⟨[], rfl, by simp [Handle.retain]⟩
  | cons element items ih =>
    obtain ⟨_, _, head, tail⟩ := bind_returns_iff.mp returns
    obtain ⟨str, ok, rfl⟩ := cbEach_returns head
    obtain ⟨entries, rest, rfl⟩ := ih tail
    refine ⟨str :: entries, ?_, ?_⟩
    · rw [List.mapM_cons, ok, rest]
      rfl
    · rw [retain_retain]
      simp [Handle.retain]

theorem appendSingle_returns {value : RubyObject}
    (returns : Returns (appendSingle append value field) handle () after) :
    field = .ftpCommands ∧ after = handle ∨
      field ≠ .ftpCommands ∧ ∃ str, value.objAsString = .ok str ∧
        after = handle.retain field (handle.lists field ++ [cString str]) := by
  cases field with
  | ftpCommands => exact Or.inl ⟨rfl, (returns_pure_iff.mp returns).2.symm⟩
  | _ => exact Or.inr ⟨nofun, appendEntry_returns returns⟩

theorem givenTo_of_ne_nil {value : RubyObject} (notNil : value ≠ .nil) : givenTo field value =
    match elements field value with
    | some items => (items.mapM (entryOf field)).map fun entries => entries.map cString
    | none => if field = .ftpCommands then .ok [] else value.objAsString.map fun str => [cString str] := by
  cases value with
  | nil => exact absurd rfl notNil
  | _ => rfl

theorem retain_self (handle : Handle) (field : ListField) : handle.retain field (handle.lists field) = handle := by
  rw [Handle.retain, Function.update_eq_self]

theorem fillList_returns {value : RubyObject} (notNil : value ≠ .nil) (noList : handle.lists field = [])
    (returns : Returns (fillList append field value) handle () after) :
    ∃ list, givenTo field value = .ok list ∧ after = handle.retain field list := by
  rw [givenTo_of_ne_nil notNil]
  unfold fillList at returns
  split at returns
  · obtain ⟨entries, ok, rfl⟩ := forM_cbEach_returns returns
    refine ⟨entries.map cString, ?_, by rw [noList, List.nil_append]⟩
    rw [ok]
    rfl
  · rcases appendSingle_returns returns with ⟨ftp, rfl⟩ | ⟨other, str, ok, rfl⟩
    · refine ⟨[], if_pos ftp, ?_⟩
      rw [← noList, retain_self]
    · refine ⟨[cString str], ?_, by rw [noList, List.nil_append]⟩
      rw [if_neg other, ok]
      rfl

theorem giveList_retain (noNative : handle.native field = []) (list : List Text) :
    (handle.retain field list).giveList field = handle.give field list := by
  unfold Handle.giveList
  split
  · rename_i none
    have empty : list = [] := by simpa [Handle.retain] using none
    rw [empty, Handle.give, ← noNative, Function.update_eq_self, noNative, Handle.retain]
  · simp [Handle.retain, Handle.give]

theorem give_self (noList : handle.lists field = []) (noNative : handle.native field = []) :
    handle.give field [] = handle := by
  have lists : Function.update handle.lists field [] = handle.lists := by rw [← noList, Function.update_eq_self]
  have native : Function.update handle.native field [] = handle.native := by
    rw [← noNative, Function.update_eq_self]
  rw [Handle.give, lists, native]

theorem setupList_returns (noList : handle.lists field = []) (noNative : handle.native field = [])
    (returns : Returns (setupList append field) handle () after) :
    ∃ list, givenTo field (handle.opts field) = .ok list ∧ after = handle.give field list := by
  have filled {value : RubyObject} (notNil : value ≠ .nil)
      (returns : Returns (fillList append field value >>= fun _ => modify fun handle => handle.giveList field)
        handle () after) :
      ∃ list, givenTo field value = .ok list ∧ after = handle.give field list := by
    obtain ⟨_, _, fills, gives⟩ := bind_returns_iff.mp returns
    obtain ⟨list, given, rfl⟩ := fillList_returns notNil noList fills
    refine ⟨list, given, ?_⟩
    rw [returns_modify_iff.mp gives, giveList_retain noNative]
  rw [setupList] at returns
  obtain ⟨_, _, got, returns⟩ := bind_returns_iff.mp returns
  obtain ⟨rfl, rfl⟩ := returns_get_iff.mp got
  cases value : handle.opts field with
  | nil =>
    rw [value] at returns
    obtain ⟨_, rfl⟩ := returns_pure_iff.mp returns
    exact ⟨[], rfl, (give_self noList noNative).symm⟩
  | _ =>
    rw [value] at returns
    exact filled nofun returns

theorem native_clearSetupLists (coupled : Coupled handle) (field : ListField) :
    handle.clearSetupLists.native field = [] :=
  coupled_clearSetupLists coupled field (lists_clearSetupLists handle field)

theorem opts_clearSetupLists (handle : Handle) : handle.clearSetupLists.opts = handle.opts := by
  have one (handle : Handle) (field : ListField) : (handle.clearList field).opts = handle.opts := by
    unfold Handle.clearList
    split <;> rfl
  simp only [Handle.clearSetupLists, one]

theorem forget_self (noNative : handle.native field = []) : handle.forget field = handle := by
  rw [Handle.forget, ← noNative, Function.update_eq_self]

/-- After a setup every list of libcurl is the one given for the option, whatever was there before. -/
theorem setup_returns {options : Except RubyError Unit} (coupled : Coupled handle)
    (returns : Returns (setup append options) handle () after) :
    after.opts = handle.opts ∧ ∀ field, givenTo field (handle.opts field) = .ok (after.native field) := by
  simp only [setup, setupLists, bind_returns_iff, returns_fromExcept_iff, returns_modify_iff] at returns
  obtain ⟨_, handle, ⟨_, rfl⟩, _, _, rfl, _, _, rfl, _, _, headers, _, _, rfl, _, _, proxyHeaders, _, _, ftpCommands,
    _, _, resolve, connectTo⟩ := returns
  have noList := lists_clearSetupLists handle
  have noNative := native_clearSetupLists coupled
  rw [← opts_clearSetupLists handle]
  generalize handle.clearSetupLists = cleared at headers noList noNative
  rw [forget_self (noNative _)] at headers
  obtain ⟨_, givenHeaders, rfl⟩ := setupList_returns (noList _) (noNative _) headers
  rw [forget_self (by simpa [Handle.give] using noNative _)] at proxyHeaders
  obtain ⟨_, givenProxyHeaders, rfl⟩ := setupList_returns (by simpa [Handle.give] using noList _)
    (by simpa [Handle.give] using noNative _) proxyHeaders
  obtain ⟨_, givenFtpCommands, rfl⟩ := setupList_returns (by simpa [Handle.give] using noList _)
    (by simpa [Handle.give] using noNative _) ftpCommands
  obtain ⟨_, givenResolve, rfl⟩ := setupList_returns (by simpa [Handle.give] using noList _)
    (by simpa [Handle.give] using noNative _) resolve
  obtain ⟨_, givenConnectTo, rfl⟩ := setupList_returns (by simpa [Handle.give] using noList _)
    (by simpa [Handle.give] using noNative _) connectTo
  refine ⟨rfl, fun field => ?_⟩
  cases field <;> simpa [Handle.give]

/-! ## Given and meant -/

theorem cString_eq_self_iff {str : Text} : cString str = str ↔ Char.ofNat 0 ∉ str := by
  rw [cString, List.takeWhile_eq_self_iff]
  simp [List.forall_mem_ne']

theorem map_cString_eq_self_iff {entries : List Text} :
    entries.map cString = entries ↔ ∀ entry ∈ entries, Char.ofNat 0 ∉ entry := by
  induction entries with
  | nil => simp
  | cons entry entries ih =>
    rw [List.map_cons, List.cons.injEq, cString_eq_self_iff, ih, List.forall_mem_cons]

theorem entriesOf_of_elements {value : RubyObject} {items : List RubyObject}
    (each : elements field value = some items) : entriesOf field value = items.mapM (entryOf field) := by
  unfold entriesOf
  split
  · rename_i empty
    have none : items = [] := by
      cases value with
      | array inner toS =>
        obtain rfl : inner = items := by cases field <;> exact Option.some.inj each
        exact List.isEmpty_iff.mp empty
      | hash pairs toS =>
        cases field with
        | headers | proxyHeaders =>
          obtain rfl : pairs = items := Option.some.inj each
          exact List.isEmpty_iff.mp empty
        | _ => cases each
      | _ => cases field <;> cases each
    rw [none]
    rfl
  · rw [each]

theorem entriesOf_alone {value : RubyObject} (alone : elements field value = none) : entriesOf field value =
    if value.isEmpty then .ok [] else value.objAsString.map fun str => [str] := by
  unfold entriesOf
  rw [alone]

/-- The list a setup gives for a value is that of its entries exactly where the value can be mirrored. -/
theorem entriesOf_eq_ok_iff_of_given {value : RubyObject} {list : List Text}
    (given : givenTo field value = .ok list) : entriesOf field value = .ok list ↔ Mirrorable field value := by
  by_cases isNil : value = .nil
  · subst isNil
    cases given
    have empty : entriesOf field .nil = .ok [] := rfl
    refine ⟨fun _ => ⟨?_, fun _ => Or.inl rfl⟩, fun _ => empty⟩
    rw [empty]
    rintro _ ⟨⟩
    exact nofun
  rw [givenTo_of_ne_nil isNil] at given
  cases each : elements field value with
  | some items =>
    rw [each] at given
    obtain ⟨entries, ok, rfl⟩ := except_map_eq_ok_iff.mp given
    rw [entriesOf_of_elements each, ok, Except.ok.injEq, eq_comm, map_cString_eq_self_iff, Mirrorable,
      entriesOf_of_elements each, ok, each]
    simp
  | none =>
    rw [each] at given
    rw [Mirrorable, entriesOf_alone each]
    simp only [each, isNil, false_or, forall_const]
    by_cases ftp : field = .ftpCommands
    · rw [if_pos ftp, Except.ok.injEq] at given
      subst given
      cases value.isEmpty with
      | true => simp [ftp]
      | false => simp [ftp, except_map_eq_ok_iff]
    · rw [if_neg ftp] at given
      obtain ⟨str, ok, rfl⟩ := except_map_eq_ok_iff.mp given
      cases value.isEmpty with
      | true => simp [ftp]
      | false =>
        have whole : str = cString str ↔ Char.ofNat 0 ∉ str := eq_comm.trans cString_eq_self_iff
        simp [ftp, ok, Except.map, whole]

/-- After every history, a setup that succeeds makes the lists of libcurl those of the Ruby options exactly
where these values can be mirrored. -/
theorem setup_mirrors_iff {history : List Step} {options : Except RubyError Unit}
    (returns : Returns (setup append options) (run append history) () after) :
    (∀ field, Mirrors after field) ↔ ∀ field, Mirrorable field ((run append history).opts field) := by
  obtain ⟨sameOpts, given⟩ := setup_returns (coupled_run history) returns
  refine forall_congr' fun field => ?_
  rw [Mirrors, sameOpts]
  exact entriesOf_eq_ok_iff_of_given (given field)

end Given

/-- A setup has raised at the second command; then the commands are replaced. -/
def raisedMidway : List Step :=
  [.assign .ftpCommands (.array [.text "PWD".toList,
    .object (rbRaise .runtimeError "to_s".toList) (rbRaise .runtimeError "to_s".toList)] (.ok [])),
   .setup (.ok ()), .assign .ftpCommands (.array [.text "CWD /".toList] (.ok []))]

theorem setup_mirrors_iff_raisedMidway :
    (run (fun _ _ => true) raisedMidway).lists .ftpCommands = ["PWD".toList] ∧
      ∀ field, Mirrors (finalState (setup (fun _ _ => true) (.ok ())) (run (fun _ _ => true) raisedMidway)) field := by
  refine ⟨rfl, (setup_mirrors_iff (returns_finalState rfl)).mpr fun field => ?_⟩
  cases field with
  | ftpCommands =>
    refine ⟨?_, nofun⟩
    rintro _ ⟨⟩
    decide
  | _ =>
    refine ⟨?_, fun _ => Or.inl rfl⟩
    rintro _ ⟨⟩
    exact nofun

/-- The second half of a header is behind a NUL. -/
def cutHeader : Text := "X-Test: 1".toList ++ Char.ofNat 0 :: "2".toList

theorem cutHeader_isNotMirrored :
    let handle := run (fun _ _ => true) [.assign .headers (.array [.text cutHeader] (.ok []))]
    let after := finalState (setup (fun _ _ => true) (.ok ())) handle
    succeeds (setup (fun _ _ => true) (.ok ())) handle = true ∧
      entriesOf .headers (after.opts .headers) = .ok [cutHeader] ∧
      after.native .headers = ["X-Test: 1".toList] ∧ ¬Mirrors after .headers := by
  refine ⟨rfl, rfl, rfl, fun mirrors => ?_⟩
  have same : [cutHeader] = ["X-Test: 1".toList] := Except.ok.inj mirrors
  exact absurd same (by decide)

end Curb.SetupLists

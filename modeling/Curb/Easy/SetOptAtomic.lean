import Curb.Easy.SetOpt

/-!
# What `setopt` leaves when it raises

Most options convert their value before anything else is done. Four store it first, and the two lists
free what they had before the new entries are converted.
-/

namespace Curb.SetOpt
open Curb.Misc Curb.Ruby

variable {ν : Type} {libcurl : Libcurl ν} {handle after : Handle ν} {option : CurlOption}
  {value : RubyValue} {error : RubyError}

/-- Where the option raises, the handle is as it was. -/
def AtomicOnError (libcurl : Libcurl ν) (handle : Handle ν) (option : CurlOption) (value : RubyValue) :
    Prop :=
  ∀ error after, Raises (setOpt libcurl option value) handle error after → after = handle

/-- The string of a value that is not `nil`. -/
def RubyValue.cString : RubyValue → Except RubyError Unit
  | .nil => .ok ()
  | value => value.stringValueCStr.map fun _ => ()

/-- The key under which an option stores its value before it converts it, with that conversion. -/
def storesFirst (value : RubyValue) : CurlOption → Option (OptsKey × Except RubyError Unit)
  | .dohUrl => some (.dohUrl, value.cString)
  | .unixSocketPath => some (.unixSocketPath, value.cString)
  | .dnsServers => some (.dnsServers, value.cString)
  | .ftpCreateMissingDirs => some (.ftpCreateMissingDirs, value.toLong.map fun _ => ())
  | _ => none

/-- The option raises after it has stored a value that was not there before, or after it has freed a
list. -/
def RaisesLate (libcurl : Libcurl ν) (handle : Handle ν) (option : CurlOption) (value : RubyValue) : Prop :=
  (∃ key error, storesFirst value option = some (key, .error error) ∧ handle.opts key ≠ some value) ∨
    ∃ field error, field.option = option ∧ listOf libcurl field value = .error error ∧
      handle.lists field ≠ []

/-! ## Options that convert first -/

/-- The computation raises only before it changes anything. -/
def RaisesUnchanged (x : Setting ν Unit) : Prop :=
  ∀ handle error after, Raises x handle error after → after = handle

theorem raises_convert_iff {α : Type} {result : Except RubyError α} :
    Raises (convert result) handle error after ↔ result = .error error ∧ after = handle := by
  cases result with
  | ok a => exact ⟨fun raises => (nomatch raises), fun ⟨raised, _⟩ => (nomatch raised)⟩
  | error raised =>
    constructor
    · intro raises
      cases raises
      exact ⟨rfl, rfl⟩
    · rintro ⟨⟨⟩, rfl⟩
      rfl

/-- What raises nothing at all. -/
def Total (x : Setting ν Unit) : Prop := ∀ handle error after, ¬Raises x handle error after

theorem total_modify {f : Handle ν → Handle ν} : Total (modify f) := fun _ _ _ raises => nomatch raises

theorem total_bind {x y : Setting ν Unit} (first : Total x) (second : Total y) : Total (x >>= fun _ => y) := by
  intro handle error after raises
  rcases bind_raises_iff.mp raises with raises | ⟨_, middle, _, raises⟩
  · exact first _ _ _ raises
  · exact second _ _ _ raises

theorem Total.raisesUnchanged {x : Setting ν Unit} (total : Total x) : RaisesUnchanged x :=
  fun _ _ _ raises => absurd raises (total _ _ _)

/-- A conversion that comes before everything else. -/
theorem raises_convert_bind_iff {α : Type} {result : Except RubyError α} {f : α → Setting ν Unit}
    (total : ∀ a, Total (f a)) :
    Raises (convert result >>= f) handle error after ↔ result = .error error ∧ after = handle := by
  rw [bind_raises_iff]
  constructor
  · rintro (raises | ⟨a, middle, _, raises⟩)
    · exact raises_convert_iff.mp raises
    · exact absurd raises (total a _ _ _)
  · exact fun raised => Or.inl (raises_convert_iff.mpr raised)

theorem raisesUnchanged_convert {α : Type} {result : Except RubyError α} {f : α → Setting ν Unit}
    (total : ∀ a, Total (f a)) : RaisesUnchanged (convert result >>= f) :=
  fun _ _ _ raises => ((raises_convert_bind_iff total).mp raises).2

theorem raisesUnchanged_setString : RaisesUnchanged (setString libcurl option value) :=
  raisesUnchanged_convert fun _ => total_modify

theorem raisesUnchanged_setStringOrNull : RaisesUnchanged (setStringOrNull libcurl option value) := by
  unfold setStringOrNull
  split
  · exact total_modify.raisesUnchanged
  · exact raisesUnchanged_setString

theorem raisesUnchanged_setLong {long : Except RubyError Int} :
    RaisesUnchanged (setLong libcurl option long) :=
  raisesUnchanged_convert fun _ => total_modify

theorem raisesUnchanged_setField {long : Except RubyError Int} {field : Handle ν → Int → Handle ν} :
    RaisesUnchanged (setField libcurl option long field) :=
  raisesUnchanged_convert fun _ => total_bind total_modify total_modify

theorem raisesUnchanged_setStderr : RaisesUnchanged (setStderr libcurl value) :=
  raisesUnchanged_convert fun _ => total_bind total_modify total_modify

theorem raisesUnchanged_setCookielist : RaisesUnchanged (setCookielist libcurl value) := by
  refine raisesUnchanged_convert fun str => total_bind total_modify ?_
  split
  · exact fun _ _ _ raises => nomatch raises
  · exact total_modify

theorem raisesUnchanged_postBodySetBody : RaisesUnchanged (postBodySetBody libcurl value) := by
  unfold postBodySetBody
  split
  · exact (total_bind total_modify (total_bind total_modify total_modify)).raisesUnchanged
  · exact raisesUnchanged_convert fun _ => total_bind total_modify (total_bind total_modify
      (total_bind total_modify total_modify))

/-- The mark of a native operation is taken off again. -/
theorem raisesUnchanged_postBodySet : RaisesUnchanged (postBodySet libcurl value) := by
  intro handle error after raises
  rcases bind_raises_iff.mp raises with entered | ⟨_, middle, entered, raises⟩
  · exact absurd entered (total_modify _ _ _)
  · obtain ⟨stopped, raises, left⟩ := raises_ensuring_modify_iff.mp raises
    rw [returns_modify_iff.mp entered] at raises
    rw [left, raisesUnchanged_postBodySetBody _ _ _ raises]
    rfl

/-! ## Options that convert late -/

/-- What comes after a part that raises nothing raises. -/
theorem raises_modify_bind_iff {f : Handle ν → Handle ν} {x : Setting ν Unit} :
    Raises (modify f >>= fun _ => x) handle error after ↔ Raises x (f handle) error after := Iff.rfl

theorem raises_setStringOrNull_iff :
    Raises (setStringOrNull libcurl option value) handle error after ↔
      value.cString = .error error ∧ after = handle := by
  cases value with
  | nil => exact ⟨fun raises => (nomatch raises), fun ⟨raised, _⟩ => (nomatch raised)⟩
  | _ =>
    refine (raises_convert_bind_iff fun _ => total_modify).trans (and_congr_left fun _ => ?_)
    simp only [RubyValue.cString, except_map_eq_error_iff]

/-- An option that stores its value first raises with the value stored. -/
theorem raises_of_storesFirst {key : OptsKey} {conversion : Except RubyError Unit}
    (stores : storesFirst value option = some (key, conversion)) :
    Raises (setOpt libcurl option value) handle error after ↔ conversion = .error error ∧
      after = { handle with opts := Function.update handle.opts key (some value) } := by
  cases option with
  | dohUrl =>
    cases stores
    exact raises_modify_bind_iff.trans raises_setStringOrNull_iff
  | unixSocketPath =>
    cases stores
    exact raises_modify_bind_iff.trans raises_setStringOrNull_iff
  | dnsServers =>
    cases stores
    exact raises_modify_bind_iff.trans raises_setStringOrNull_iff
  | ftpCreateMissingDirs =>
    cases stores
    rw [except_map_eq_error_iff]
    exact raises_modify_bind_iff.trans (raises_convert_bind_iff fun _ => total_modify)
  | _ => cases stores

/-- An option with a list raises with the list freed that was there. -/
theorem raises_setList_iff {field : ListField} :
    Raises (setList libcurl field value) handle error after ↔
      listOf libcurl field value = .error error ∧ after = handle.clearList libcurl field :=
  raises_modify_bind_iff.trans (raises_convert_bind_iff fun _ =>
    total_bind total_modify (total_bind total_modify total_modify))

/-- Every other option converts its value first. -/
theorem raisesUnchanged_setOpt (stores : storesFirst value option = none)
    (noList : ∀ field : ListField, field.option ≠ option) :
    RaisesUnchanged (setOpt libcurl option value) := by
  cases option with
  | dohUrl => cases stores
  | unixSocketPath => cases stores
  | dnsServers => cases stores
  | ftpCreateMissingDirs => cases stores
  | resolve => exact absurd rfl (noList .curlResolve)
  | connectTo => exact absurd rfl (noList .curlConnectTo)
  | postfields => exact raisesUnchanged_postBodySet
  | stderr => exact raisesUnchanged_setStderr
  | cookielist => exact raisesUnchanged_setCookielist
  | postfieldsize => exact fun _ _ _ raises => (raises_throw_iff.mp raises).2
  | copypostfields => exact fun _ _ _ raises => (raises_throw_iff.mp raises).2
  | other number => exact fun _ _ _ raises => (raises_throw_iff.mp raises).2
  | _ =>
    first
      | exact total_modify.raisesUnchanged
      | exact raisesUnchanged_setLong
      | exact raisesUnchanged_setStringOrNull
      | exact raisesUnchanged_setString
      | exact raisesUnchanged_setField

theorem clearList_eq_iff {field : ListField} :
    handle.clearList libcurl field = handle ↔ handle.lists field = [] := by
  unfold Handle.clearList
  constructor
  · intro same
    by_contra retained
    rw [if_neg retained] at same
    have freed : Function.update handle.lists field [] field = handle.lists field :=
      congrFun (congrArg Handle.lists same) field
    rw [Function.update_self] at freed
    exact retained freed.symm
  · exact fun empty => if_pos empty

/-- `setopt` changes nothing where it raises, exactly where it does not raise late. -/
theorem setOpt_atomic_iff (libcurl : Libcurl ν) (handle : Handle ν) (option : CurlOption)
    (value : RubyValue) :
    AtomicOnError libcurl handle option value ↔ ¬RaisesLate libcurl handle option value := by
  constructor
  · rintro atomic (⟨key, error, stores, differs⟩ | ⟨field, error, rfl, raises, retained⟩)
    · have same := atomic error _ ((raises_of_storesFirst stores).mpr ⟨rfl, rfl⟩)
      have stored : Function.update handle.opts key (some value) key = handle.opts key :=
        congrFun (congrArg Handle.opts same) key
      rw [Function.update_self] at stored
      exact differs stored.symm
    · have run : Raises (setOpt libcurl field.option value) handle error
          (handle.clearList libcurl field) := by
        cases field with
        | curlResolve => exact raises_setList_iff.mpr ⟨raises, rfl⟩
        | curlConnectTo => exact raises_setList_iff.mpr ⟨raises, rfl⟩
      exact retained (clearList_eq_iff.mp (atomic error _ run))
  · intro early error after raises
    cases stores : storesFirst value option with
    | some stored =>
      obtain ⟨key, conversion⟩ := stored
      obtain ⟨rfl, rfl⟩ := (raises_of_storesFirst stores).mp raises
      have kept : handle.opts key = some value :=
        by_contra fun differs => early (Or.inl ⟨key, error, stores, differs⟩)
      rw [← kept, Function.update_eq_self]
    | none =>
      by_cases list : ∃ field : ListField, field.option = option
      · obtain ⟨field, rfl⟩ := list
        have run : listOf libcurl field value = .error error ∧ after = handle.clearList libcurl field := by
          cases field with
          | curlResolve => exact raises_setList_iff.mp raises
          | curlConnectTo => exact raises_setList_iff.mp raises
        have empty : handle.lists field = [] :=
          by_contra fun retained => early (Or.inr ⟨field, error, rfl, run.1, retained⟩)
        rw [run.2, clearList_eq_iff.mpr empty]
      · exact raisesUnchanged_setOpt stores (fun field same => list ⟨field, same⟩) _ _ _ raises

/-- libcurl, as far as nothing is seen of it. -/
def blindLibcurl : Libcurl Unit := ⟨fun _ _ native => native, fun _ => true⟩

/-- A new handle. -/
def newHandle : Handle Unit where
  opts := fun _ => none
  verbose := false
  followLocation := false
  httpVersion := 0
  ftpResponseTimeout := 0
  ftpFilemethod := -1
  forbidReuse := 0
  forbidReuseSet := false
  cookielistEngineEnabled := false
  nativeActive := 0
  lists := fun _ => []
  native := ()

/-- The number 5 is no URL of a resolver, and it is stored as one. -/
theorem numberAsDohUrl_isStored :
    ¬∀ (handle : Handle Unit) (option : CurlOption) (value : RubyValue),
      AtomicOnError blindLibcurl handle option value := by
  intro always
  have atomic := always newHandle .dohUrl (.integer 5)
  have same := atomic _ _ rfl
  have stored := congrFun (congrArg Handle.opts same) .dohUrl
  cases stored

end Curb.SetOpt

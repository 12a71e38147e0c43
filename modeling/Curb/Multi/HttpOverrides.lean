import Curb.Multi.HttpSetters

/-!
# A handle that is used again

A configuration that is set up on a handle which has run another one sends what it sends from a new handle, if it
overrides what the handle has been left with.
-/

namespace Curb.Http
open Curb.Misc Curb.Ruby Curb.Easy

variable {agreed : Agreed}

/-! ## Two whole handles -/

structure SameHandle (agreed : Agreed) (used fresh : Handle) : Prop where
  url : used.url = fresh.url
  callbacks : used.callbacks = fresh.callbacks
  request : SameRequest agreed used.request fresh.request
  attributes : ∀ name, agreed.attributes name → used.attributes name = fresh.attributes name

/-- What returns on the fresh handle returns on the used one, and they agree afterwards. -/
def CarriesHandle (before after : Agreed) (set : Setup Unit) : Prop :=
  ∀ used fresh fresh', SameHandle before used fresh → Returns set fresh () fresh' →
    ∃ used', Returns set used () used' ∧ SameHandle after used' fresh'

theorem carriesHandle_bind {first second third : Agreed} {set rest : Setup Unit} (here : CarriesHandle first second set)
    (there : CarriesHandle second third rest) : CarriesHandle first third (set >>= fun _ => rest) := by
  intro used fresh fresh' same returns
  obtain ⟨value, middle, ran, left⟩ := bind_returns_iff.mp returns
  obtain ⟨used', ran', same'⟩ := here used fresh middle same ran
  obtain ⟨used'', left', same''⟩ := there used' middle fresh' same' left
  exact ⟨used'', bind_returns_iff.mpr ⟨(), used', ran', left'⟩, same''⟩

theorem CarriesHandle.weaken {before weak strong : Agreed} {set : Setup Unit}
    (carries : CarriesHandle before strong set) (weaker : weak.Weaker strong) : CarriesHandle before weak set := by
  intro used fresh fresh' same returns
  obtain ⟨used', returns', same'⟩ := carries used fresh fresh' same returns
  exact ⟨used', returns', same'.url, same'.callbacks, same'.request.weaken weaker,
    fun name known => same'.attributes name (weaker.attributes name known)⟩

theorem carriesHandle_onRequest {before after : Agreed} {set : Verb Unit} (carries : Carries before after set)
    (attributes : after.attributes = before.attributes) : CarriesHandle before after (onRequest set) := by
  intro used fresh fresh' same returns
  obtain ⟨request, ran, rfl⟩ := zoom_returns_iff.mp returns
  obtain ⟨request', ran', same'⟩ := carries used.request fresh.request request same.request ran
  refine ⟨_, zoom_returns_iff.mpr ⟨request', ran', rfl⟩, same.url, same.callbacks, same', ?_⟩
  rw [attributes]
  exact same.attributes

theorem carriesHandle_pure (agreed : Agreed) : CarriesHandle agreed agreed (pure ()) := by
  rintro used fresh fresh' same ⟨⟩
  exact ⟨used, rfl, same⟩

theorem carriesHandle_setter (name : Text) (value : Except RubyError ObjectId) :
    CarriesHandle agreed { agreed with attributes := fun other => agreed.attributes other ∨ other = name }
      (OptionSetter.setter name value).set := by
  intro used fresh fresh' same returns
  obtain ⟨stored, unchanged, isStored, modified⟩ := bind_returns_iff.mp returns
  obtain ⟨accepted, rfl⟩ := returns_fromExcept_iff.mp isStored
  rw [returns_modify_iff.mp modified]
  refine ⟨_, bind_returns_iff.mpr ⟨stored, used, returns_fromExcept_iff.mpr ⟨accepted, rfl⟩, rfl⟩,
    same.url, same.callbacks, ?_, ?_⟩
  · obtain ⟨usedPlain, freshPlain, headers, length, encoding, method, clears, customRequest, size⟩ := same.request
    exact ⟨usedPlain, freshPlain, headers, length, encoding, method, clears, customRequest, size⟩
  · intro other known
    show Function.update used.attributes name (some stored) other =
      Function.update unchanged.attributes name (some stored) other
    by_cases isName : other = name
    · rw [isName, Function.update_self, Function.update_self]
    · rw [Function.update_of_ne isName, Function.update_of_ne isName]
      exact same.attributes other (known.resolve_right isName)

theorem carriesHandle_option (option : OptionSetter)
    (sizes : ∀ given, option = .putData given → agreed.Sizes given) :
    CarriesHandle agreed { agreed with
      method := agreed.method ∨ option.selects = true ∨ agreed.clears ∧ ∃ on, option = .head on
      customRequest := agreed.customRequest ∨ ∃ on, option = .delete on
      attributes := fun name => agreed.attributes name ∨ ∃ value, option = .setter name value } option.set := by
  have noDelete {option : OptionSetter} (other : ∀ on, option ≠ .delete on) {known : Prop}
      (either : known ∨ ∃ on, option = .delete on) : known := by
    refine either.resolve_right ?_
    rintro ⟨on, same⟩
    exact other on same
  have noAttribute {option : OptionSetter} (other : ∀ name value, option ≠ .setter name value) {known : Prop}
      {name : Text} (either : known ∨ ∃ value, option = .setter name value) : known := by
    refine either.resolve_right ?_
    rintro ⟨value, same⟩
    exact other name value same
  have noMethod {option : OptionSetter} (selectsNone : option.selects = false) (other : ∀ on, option ≠ .head on)
      (either : agreed.method ∨ option.selects = true ∨ agreed.clears ∧ ∃ on, option = .head on) :
      agreed.method := by
    rcases either with known | selects | ⟨-, on, same⟩
    · exact known
    · cases selectsNone.symm.trans selects
    · exact absurd same (other on)
  cases option with
  | postBody body =>
    refine (carriesHandle_onRequest (carries_postBody body) rfl).weaken
      ⟨fun _ => id, rfl, id, id, fun _ => trivial, id, noDelete ?_, id, fun name => noAttribute ?_⟩
    · exact fun on => OptionSetter.noConfusion
    · exact fun name value => OptionSetter.noConfusion
  | putData given =>
    refine (carriesHandle_onRequest (carries_put (sizes given rfl).1 (sizes given rfl).2) rfl).weaken
      ⟨fun _ => id, rfl, id, id, fun _ => trivial, id, noDelete ?_, id, fun name => noAttribute ?_⟩
    · exact fun on => OptionSetter.noConfusion
    · exact fun name value => OptionSetter.noConfusion
  | head on =>
    refine (carriesHandle_onRequest (carries_head on) rfl).weaken
      ⟨fun _ => id, rfl, id, id, ?_, id, noDelete ?_, id, fun name => noAttribute ?_⟩
    · exact Or.imp_right (Or.imp_right And.left)
    · exact fun on => OptionSetter.noConfusion
    · exact fun name value => OptionSetter.noConfusion
  | delete on =>
    refine (carriesHandle_onRequest (carries_delete _) rfl).weaken
      ⟨fun _ => id, rfl, id, id, noMethod rfl ?_, id, fun _ => trivial, id, fun name => noAttribute ?_⟩
    · exact fun on => OptionSetter.noConfusion
    · exact fun name value => OptionSetter.noConfusion
  | setter name value =>
    refine (carriesHandle_setter name value).weaken
      ⟨fun _ => id, rfl, id, id, noMethod rfl ?_, id, noDelete ?_, id, ?_⟩
    · exact fun on => OptionSetter.noConfusion
    · exact fun on => OptionSetter.noConfusion
    · rintro other (known | ⟨value', same⟩)
      · exact Or.inl known
      · cases same
        exact Or.inr rfl

theorem carriesHandle_options (options : List OptionSetter) (agreed : Agreed)
    (sizes : ∀ given, .putData given ∈ options → agreed.Sizes given) :
    CarriesHandle agreed { agreed with
      method := agreed.method ∨ options.any OptionSetter.selects = true ∨
        agreed.clears ∧ ∃ on, .head on ∈ options
      customRequest := agreed.customRequest ∨ ∃ on, .delete on ∈ options
      attributes := fun name => agreed.attributes name ∨ ∃ value, .setter name value ∈ options }
      (options.forM OptionSetter.set) := by
  induction options generalizing agreed with
  | nil =>
    refine (carriesHandle_pure agreed).weaken ⟨fun _ => id, rfl, id, id, ?_, id, ?_, id, ?_⟩ <;> simp
  | cons option rest ih =>
    have here := carriesHandle_option option fun given same => sizes given (same ▸ List.mem_cons_self)
    refine CarriesHandle.weaken (carriesHandle_bind here (ih _ fun given mem => ?_)) ?_
    · exact sizes given (List.mem_cons_of_mem _ mem)
    · refine ⟨fun _ => id, rfl, id, id, ?_, id, ?_, id, ?_⟩
      · simp only [List.any_cons, Bool.or_eq_true, List.mem_cons, exists_or, eq_comm (b := option)]
        tauto
      · simp only [List.mem_cons, exists_or, eq_comm (b := option)]
        tauto
      · simp only [List.mem_cons, exists_or, eq_comm (b := option)]
        tauto

/-! ## What a configuration overrides -/

def headerOf (handle : Handle) : Text → HeaderValue := requestHeaders handle.request.headers

def Config.headerKeys (config : Config) : List Text := config.headers.map Prod.fst

def Config.selects (config : Config) : Bool := config.method.selects || config.options.any OptionSetter.selects

/-- The configuration can be set up on a new handle. -/
def Config.SetsUp (config : Config) : Prop := ∃ handle, Returns config.setUp Handle.new () handle

/-- It announces the size of an upload. -/
def Config.Announces (config : Config) : Prop := (finalState config.setUp Handle.new).request.announced ≠ []

/-- What an earlier request has left on the handle is set anew, or was not set. -/
structure Config.Overrides (config : Config) (handle : Handle) : Prop where
  callbacks : ∀ key, config.callbacks key = none → handle.callbacks key = none
  attributes : ∀ name, (∀ value, .setter name value ∉ config.options) → handle.attributes name = none
  customRequest : config.method = .delete ∨ (∃ on, .delete on ∈ config.options) ∨
    handle.request.native.customRequest = none
  method : config.selects = true ∨
    (∃ on, .head on ∈ config.options) ∧ handle.request.native.method ∈ [.get, .head] ∨
    handle.request.native.nobody = false ∧ handle.request.native.method = .get
  /-- `put_data=` may have added the last two. -/
  headers : ∀ key ∉ config.headerKeys, (headerOf handle key).isNil = true ∨
    key ∈ [expect, transferEncoding] ∧ headerOf handle key = config.request.headers key
  /-- It looks at the headers before they are set. -/
  reader : ∀ data, config.method = .put data → Reads data → (headerOf handle contentLength).isNil = true ∧
    (Unstated data → (headerOf handle transferEncoding).isNil = true)
  optionReader : ∀ data, .putData data ∈ config.options → Unstated data →
    transferEncoding ∈ config.headerKeys ∨ (headerOf handle transferEncoding).isNil = true
  /-- Without a size of its own an upload has the one that is left. -/
  size : config.request.content = .none ∨ (∃ body, config.request.content = .fields body) ∨
    config.Announces ∨ handle.request.native.infileSize = -1

/-! ## Recycled handles -/

theorem Unstated.reads {given : Option PutObject} (unstated : Unstated given) : Reads given := by
  obtain ⟨data, same, read, -⟩ := unstated
  exact ⟨data, same, read⟩


/-- What a configuration and the handle it is given have in common with the configuration and a new handle. -/
def Config.agrees (config : Config) (handle : Handle) : Agreed where
  named key := key ∈ config.headerKeys
  own := config.request.headers
  length := (headerOf handle contentLength).isNil = true
  encoding := (headerOf handle transferEncoding).isNil = true
  method := handle.request.native.nobody = false ∧ handle.request.native.method = .get
  clears := Clears handle.request
  customRequest := handle.request.native.customRequest = none
  size := handle.request.native.infileSize = -1
  attributes name := handle.attributes name = none

theorem HeaderValue.eq_nil {value : HeaderValue} (isNil : value.isNil = true) : value = .nil := by
  cases value with
  | nil => rfl
  | _ => cases isNil

variable {config : Config} {handle : Handle}

/-- The two handles before the method is set. -/
theorem Config.Overrides.start (overrides : config.Overrides handle) (plain : Plain handle.request.headers) :
    SameHandle (config.agrees handle)
      { handle with
        url := config.url
        callbacks := fun key => (config.callbacks key).or (handle.callbacks key) }
      { Handle.new with
        url := config.url
        callbacks := fun key => (config.callbacks key).or (Handle.new.callbacks key) } where
  url := rfl
  callbacks := by
    funext key
    show (config.callbacks key).or (handle.callbacks key) = (config.callbacks key).or none
    cases given : config.callbacks key with
    | some callback => rfl
    | none => exact overrides.callbacks key given
  attributes name isNone := isNone
  request :=
    { usedPlain := plain
      freshPlain := trivial
      headers := by
        intro key
        by_cases named : key ∈ config.headerKeys
        · exact Or.inl named
        · cases isNil : (headerOf handle key).isNil with
          | true => exact Or.inr (Or.inl (HeaderValue.eq_nil isNil))
          | false =>
            rcases overrides.headers key named with isNil' | ⟨-, isOwn⟩
            · cases isNil.symm.trans isNil'
            · exact Or.inr (Or.inr ⟨isNil, isOwn⟩)
      length := HeaderValue.eq_nil
      encoding := HeaderValue.eq_nil
      method := by
        rintro ⟨nobody, get⟩
        refine ⟨get, nobody, ?_, ?_⟩
        · intro post
          cases post
        · intro put
          cases put
      clears := fun clears => Or.inr ⟨clears, List.mem_cons_self⟩
      customRequest := id
      size := by
        rintro (known | announced)
        · exact known
        · exact absurd rfl announced }

/-- The two handles after a whole configuration. -/
theorem Config.Overrides.carries (overrides : config.Overrides handle) (plain : Plain handle.request.headers)
    {fresh : Handle} (returns : Returns config.setUp Handle.new () fresh) :
    ∃ used, Returns config.setUp handle () used ∧ SameHandle { config.agrees handle with
      named := fun _ => False
      method := True
      customRequest := True
      attributes := fun _ => True } used fresh := by
  have length : (config.agrees handle).length ∨ contentLength ∈ config.headerKeys := by
    by_cases named : contentLength ∈ config.headerKeys
    · exact Or.inr named
    · refine Or.inl ((overrides.headers _ named).resolve_right ?_)
      rintro ⟨added, -⟩
      revert added
      decide
  have methodSizes (given : Option PutObject) (isPut : config.method = .put given) :
      (config.agrees handle).Sizes given :=
    ⟨fun reads => (overrides.reader given isPut reads).1, fun unstated =>
      (overrides.reader given isPut unstated.reads).2 unstated⟩
  have carries := carriesHandle_bind
    (carriesHandle_onRequest (carries_method config.method methodSizes) rfl)
    (carriesHandle_bind (carriesHandle_onRequest (carries_headers config.headers _) rfl)
      (carriesHandle_options config.options _ fun given mem =>
        ⟨fun _ => length, fun unstated => (overrides.optionReader given mem unstated).symm⟩))
  have known : CarriesHandle (config.agrees handle) { config.agrees handle with
      named := fun _ => False
      method := True
      customRequest := True
      attributes := fun _ => True } _ := carries.weaken (by
    refine ⟨?_, rfl, fun _ => length, Or.inl, fun _ => ?_, id, fun _ => ?_, id, fun name _ => ?_⟩
    · exact fun key named => named.2 named.1
    · have selects := overrides.method
      rw [Config.selects, Bool.or_eq_true] at selects
      rcases selects with (byMethod | byOption) | ⟨clears, low⟩ | unset
      · exact Or.inl (Or.inr byMethod)
      · exact Or.inr (Or.inl byOption)
      · exact Or.inr (Or.inr ⟨low, clears⟩)
      · exact Or.inl (Or.inl unset)
    · rcases overrides.customRequest with isDelete | option | unset
      · exact Or.inl (Or.inr isDelete)
      · exact Or.inr option
      · exact Or.inl (Or.inl unset)
    · by_cases given : ∃ value, .setter name value ∈ config.options
      · exact Or.inr given
      · exact Or.inl (overrides.attributes name fun value mem => given ⟨value, mem⟩))
  obtain ⟨_, _, isUrl, returns⟩ := bind_returns_iff.mp returns
  obtain ⟨_, _, isCallbacks, returns⟩ := bind_returns_iff.mp returns
  rw [returns_modify_iff.mp isUrl] at isCallbacks
  rw [returns_modify_iff.mp isCallbacks] at returns
  exact known _ _ _ (overrides.start plain) returns

theorem requestContent_eq {used fresh : RequestState} (same : SameMethod used fresh)
    (size : fresh.native.method = .put → used.native.infileSize = fresh.native.infileSize) :
    requestContent used = requestContent fresh := by
  unfold requestContent
  rw [same.method]
  cases method : fresh.native.method with
  | get => rfl
  | head => rfl
  | post => exact congrArg Content.fields (same.fields method)
  | put => exact congrArg₂ Content.upload (same.stream method) (size method)

/-- A configuration that overrides what its handle has been left with sends its own request. -/
theorem Config.Overrides.sends (overrides : config.Overrides handle) (plain : Plain handle.request.headers)
    (setsUp : config.SetsUp) : (finalState config.setUp handle).sends = config.request ∧
      Plain (finalState config.setUp handle).request.headers := by
  obtain ⟨fresh, returns⟩ := setsUp
  obtain ⟨used, ran, same⟩ := overrides.carries plain returns
  have isFresh := returns.finalState_eq
  rw [ran.finalState_eq, Config.request, isFresh]
  refine ⟨?_, same.request.usedPlain⟩
  have own (key : Text) : config.request.headers key = requestHeaders fresh.request.headers key := by
    rw [Config.request, isFresh]
    rfl
  have method := same.request.method trivial
  have headers : requestHeaders used.request.headers = requestHeaders fresh.request.headers := by
    funext key
    rcases same.request.headers key with none | alike | ⟨-, isOwn⟩
    · exact none.elim
    · exact alike
    · exact isOwn.trans (own key)
  have content : requestContent used.request = requestContent fresh.request := by
    refine requestContent_eq method fun put => same.request.size ?_
    have isContent : config.request.content = requestContent fresh.request := by
      rw [Config.request, isFresh]
      rfl
    rcases overrides.size with none | ⟨body, isBody⟩ | announces | unset
    · rw [isContent, requestContent, put] at none
      cases none
    · rw [isContent, requestContent, put] at isBody
      cases isBody
    · rw [Config.Announces, isFresh] at announces
      exact Or.inr announces
    · exact Or.inl unset
  have attributes : used.attributes = fresh.attributes := funext fun name => same.attributes name trivial
  unfold Handle.sends
  rw [same.url, same.request.customRequest trivial, method.nobody, content, headers, same.callbacks, attributes]

/-- Nothing has been left on the handle. -/
structure Handle.Blank (handle : Handle) : Prop where
  callbacks : ∀ key, handle.callbacks key = none
  attributes : ∀ name, handle.attributes name = none
  headers : handle.request.headers = .nil
  native : handle.request.native = newRequestState.native
  upload : handle.request.upload = none

/-- A blank handle takes every configuration. -/
theorem Handle.Blank.overrides (blank : handle.Blank) (config : Config) : config.Overrides handle := by
  have unset (key : Text) : (headerOf handle key).isNil = true := by
    rw [headerOf, blank.headers]
    rfl
  refine ⟨fun key _ => blank.callbacks key, fun name _ => blank.attributes name, ?_, ?_, fun key _ => Or.inl (unset key),
    fun _ _ _ => ⟨unset _, fun _ => unset _⟩, fun _ _ _ => Or.inr (unset _), ?_⟩
  · rw [blank.native]
    exact Or.inr (Or.inr rfl)
  · rw [blank.native]
    exact Or.inr (Or.inr ⟨rfl, rfl⟩)
  · rw [blank.native]
    exact Or.inr (Or.inr (Or.inr rfl))

theorem Handle.Blank.letGo (blank : handle.Blank) : handle.letGo.Blank := by
  unfold Handle.letGo cleanup
  dsimp only
  rw [blank.upload]
  exact ⟨blank.callbacks, blank.attributes, blank.headers, blank.native, blank.upload⟩

theorem Handle.Blank.ofUrl (blank : handle.Blank) (url : Text) : (finalState (Config.ofUrl url).setUp handle).Blank :=
  ⟨blank.callbacks, blank.attributes, blank.headers, blank.native, blank.upload⟩

end Curb.Http

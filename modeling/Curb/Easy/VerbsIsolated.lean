import Curb.Easy.PutDataReturns
import Curb.Easy.Verbs
import Curb.Misc.Runs

/-!
# Verbs that do not leave anything to the next one

From a handle without an override of its method, a verb sends its own method and leaves nothing exactly where
its condition holds; in a run of verbs and setters all calls are isolated exactly where all meet theirs.
-/

namespace Curb.Easy
open Curb.Misc Curb.Ruby

variable {state after : RequestState} {outcome : Outcome}

/-- No `CUSTOMREQUEST` and no `NOBODY` is set, and no upload that was not selected before. -/
structure NothingLeft (before after : RequestState) : Prop where
  customRequest : after.native.customRequest = none
  nobody : after.native.nobody = false
  upload : after.native.method = .put → before.native.method = .put ∧ after.upload = before.upload

/-- The call sends requests of its verb only, and leaves nothing. -/
def IsolatedCall (state : RequestState) (call : VerbCall) : Prop :=
  (∃ sent, (finalState call.run state).requests = state.requests ++ sent ∧
    ∀ token ∈ sent, token = call.verb) ∧
  NothingLeft state (finalState call.run state)

/-- The arguments of `http_put` can be converted. -/
def PutArguments.Convertible (headers : PutHeaders) : PutArguments → Prop
  | .none => (PutObject.ofText []).Convertible headers
  | .single data => data.Convertible headers
  | .several join => ∃ body, join = .ok body ∧ (body ≠ [] → (PutObject.ofText body).Convertible headers)

/-- The arguments of `http_put` are uploaded. -/
def PutArguments.uploads : PutArguments → Bool
  | .several (.ok body) => !body.isEmpty
  | .several (.error _) => false
  | _ => true

/-- The condition under which a call is isolated. -/
def Meets (state : RequestState) : VerbCall → Prop
  | .get _ => True
  | .head outcome => outcome.raises = none
  | .post join outcome => ∀ body, join = .ok body → outcome.sends = true →
      (body ≠ [] ∨ state.postdataBuffer = none ∨ state.native.method = .post) ∧
      (outcome.letGoFirst = true → state.upload = none)
  | .put arguments outcome => arguments.Convertible state.headers ∧
      (arguments.uploads = true → outcome.letGoFirst = true ∨ outcome.letGo = true)
  | .patch join _ => ∃ body, join = .ok body
  | .delete _ => True

/-! ## Transfers -/

@[simp] theorem setRequest_request (set : NativeRequest → NativeRequest) :
    (state.setRequest set).native.toNativeRequest = set state.native.toNativeRequest := rfl

@[simp] theorem setRequest_requests (set : NativeRequest → NativeRequest) :
    (state.setRequest set).requests = state.requests := rfl

/-- The method a handle has after it has been let go. -/
def RequestState.letGo (state : RequestState) (yes : Bool) : NativeRequest :=
  if yes && state.upload.isSome then state.native.toNativeRequest.setUpload false
  else state.native.toNativeRequest

/-- What a `perform` does to the handle, whether it returns or raises. -/
def RequestState.perform (state : RequestState) (outcome : Outcome) : RequestState :=
  let first := if outcome.letGoFirst then cleanup state else state
  let sent := if outcome.sends then { first with requests := first.requests ++ [first.native.token] }
    else first
  if outcome.letGo then cleanup sent else sent

theorem performRequest_returns (outcome : Outcome) (returns : outcome.raises = none)
    (state : RequestState) : Returns (performRequest outcome) state () (state.perform outcome) := by
  unfold Returns performRequest
  rw [returns]
  rfl

theorem performRequest_raises {error : RubyError} (outcome : Outcome)
    (raises : outcome.raises = some error) (state : RequestState) :
    Raises (performRequest outcome) state error (state.perform outcome) := by
  unfold Raises performRequest
  rw [raises]
  rfl

theorem finalState_performRequest (outcome : Outcome) (state : RequestState) :
    finalState (performRequest outcome) state = state.perform outcome := by
  cases raises : outcome.raises with
  | none => exact (performRequest_returns outcome raises state).finalState_eq
  | some error => exact (performRequest_raises outcome raises state).finalState_eq

/-- The requests of a `perform`. -/
def Outcome.sent (outcome : Outcome) (token : Text) : List Text := if outcome.sends then [token] else []

theorem Outcome.mem_sent {token token' : Text} (mem : token' ∈ outcome.sent token) :
    outcome.sends = true ∧ token' = token := by
  unfold Outcome.sent at mem
  split at mem
  · rename_i sends
    exact ⟨sends, List.mem_singleton.mp mem⟩
  · cases mem

theorem cleanup_request (state : RequestState) :
    (cleanup state).native.toNativeRequest = state.letGo true := by
  unfold cleanup RequestState.letGo
  cases state.upload.isSome <;> rfl

theorem cleanup_upload (state : RequestState) : (cleanup state).upload = none := by
  unfold cleanup
  cases kept : state.upload with
  | none => exact kept
  | some object => rfl

theorem cleanup_requests (state : RequestState) : (cleanup state).requests = state.requests := by
  unfold cleanup
  split <;> rfl

/-- An upload ends where the handle is let go, and the request is the one of the handle before or after. -/
theorem perform_eq (state : RequestState) (outcome : Outcome) :
    (state.perform outcome).native.toNativeRequest = state.letGo (outcome.letGoFirst || outcome.letGo) ∧
    (state.perform outcome).upload =
      (if outcome.letGoFirst || outcome.letGo then none else state.upload) ∧
    (state.perform outcome).requests =
      state.requests ++ outcome.sent (state.letGo outcome.letGoFirst).token := by
  have none_left {first : RequestState} (gone : first.upload = none) (yes : Bool) :
      first.letGo yes = first.native.toNativeRequest := by
    simp [RequestState.letGo, gone]
  have sending (first : RequestState) :
      (if outcome.sends = true then { first with requests := first.requests ++ [first.native.token] }
        else first) =
      { first with requests := first.requests ++ outcome.sent first.native.token } := by
    unfold Outcome.sent
    cases outcome.sends with
    | true => rfl
    | false => simp
  unfold RequestState.perform
  simp only [sending]
  cases outcome.letGoFirst with
  | true =>
    have gone := cleanup_upload state
    cases outcome.letGo with
    | true =>
      simp only [if_true, Bool.or_true, cleanup_upload, cleanup_requests, cleanup_request]
      exact ⟨(none_left gone true).trans (cleanup_request state), trivial, trivial⟩
    | false => simp [cleanup_request, cleanup_requests, gone]
  | false =>
    cases outcome.letGo with
    | true =>
      simp only [Bool.false_or, if_true, cleanup_request, cleanup_upload, cleanup_requests]
      exact ⟨rfl, trivial, rfl⟩
    | false => exact ⟨rfl, rfl, rfl⟩

theorem letGo_customRequest (state : RequestState) (yes : Bool) :
    (state.letGo yes).customRequest = state.native.customRequest := by
  unfold RequestState.letGo
  split <;> rfl

theorem letGo_nobody (state : RequestState) (yes : Bool) :
    (state.letGo yes).nobody = state.native.nobody := by
  unfold RequestState.letGo
  split <;> rfl

theorem letGo_method (state : RequestState) (yes : Bool) :
    (state.letGo yes).method = if yes && state.upload.isSome then .get else state.native.method := by
  unfold RequestState.letGo
  split <;> rfl

/-- A `perform`, and what the verb resets after it. -/
structure Performed (outcome : Outcome) (restore : NativeRequest → NativeRequest)
    (begun after : RequestState) : Prop where
  request : after.native.toNativeRequest = restore (begun.letGo (outcome.letGoFirst || outcome.letGo))
  upload : after.upload = if outcome.letGoFirst || outcome.letGo then none else begun.upload
  requests : after.requests = begun.requests ++ outcome.sent (begun.letGo outcome.letGoFirst).token

/-- What the `ensure` clause resets. -/
def NativeRequest.restored (clearCustomrequest clearNobody clearPostfields : Bool)
    (native : NativeRequest) : NativeRequest :=
  let native := if clearNobody then native.setNobody false else native
  let native := if clearCustomrequest then native.setCustomRequest none else native
  if clearPostfields then (native.setPost false).setHttpGet true else native

theorem performWithRequestRestore_performed (outcome : Outcome) (custom nobody postfields : Bool)
    (begun : RequestState) :
    Performed outcome (NativeRequest.restored custom nobody postfields) begun
      (finalState (performWithRequestRestore outcome custom nobody postfields) begun) := by
  rw [performWithRequestRestore, finalState_ensuring, finalState_performRequest]
  obtain ⟨request, upload, requests⟩ := perform_eq begun outcome
  rw [requestRestore, setNative, setNative, finalState_modify_bind, finalState_modify_bind]
  cases postfields with
  | true => exact ⟨by rw [← request]; rfl, upload, requests⟩
  | false => exact ⟨by rw [← request]; rfl, upload, requests⟩

/-- An upload that is left was there when the verb began. -/
theorem Performed.upload_left {restore : NativeRequest → NativeRequest} {begun : RequestState}
    (performed : Performed outcome restore begun after)
    (method : ∀ native, (restore native).method = .put → native.method = .put)
    (put : after.native.method = .put) :
    begun.native.method = .put ∧ after.upload = begun.upload := by
  rw [performed.request] at put
  have kept := method _ put
  rw [letGo_method] at kept
  rw [performed.upload]
  cases letGo : (outcome.letGoFirst || outcome.letGo) with
  | false =>
    rw [letGo] at kept
    exact ⟨kept, rfl⟩
  | true =>
    rw [letGo] at kept
    cases upload : begun.upload with
    | none =>
      rw [upload] at kept
      exact ⟨kept, rfl⟩
    | some object =>
      rw [upload] at kept
      cases kept

/-- A handle that is let go has the method it had, or `GET`. -/
theorem letGo_method_ne_head {begun : RequestState} (notHead : begun.native.method ≠ .head) (yes : Bool) :
    (begun.letGo yes).method ≠ .head := by
  rw [letGo_method]
  split
  · exact Method.noConfusion
  · exact notHead

/-! ## One call -/

/-- No override of the method is set. -/
structure Tidy (state : RequestState) : Prop where
  customRequest : state.native.customRequest = none
  nobody : state.native.nobody = false
  notHead : state.native.method ≠ .head

/-- From a tidy handle the condition decides, and it leads to a tidy handle. -/
def Decides (state : RequestState) (call : VerbCall) : Prop :=
  (IsolatedCall state call ↔ Meets state call) ∧
    (Meets state call → Tidy (finalState call.run state))

theorem decides_of {call : VerbCall} {sent : List Text} (ends : finalState call.run state = after)
    (requests : after.requests = state.requests ++ sent)
    (isolated : ((∀ token ∈ sent, token = call.verb) ∧ NothingLeft state after) ↔ Meets state call)
    (notHead : Meets state call → after.native.method ≠ .head) : Decides state call := by
  unfold Decides IsolatedCall
  rw [ends]
  constructor
  · rw [← isolated]
    refine and_congr_left fun _ => ⟨?_, fun own => ⟨sent, requests, own⟩⟩
    rintro ⟨sent', requests', own⟩
    rw [List.append_cancel_left (requests.symm.trans requests')]
    exact own
  · intro meets
    have left := (isolated.mpr meets).2
    exact ⟨left.customRequest, left.nobody, notHead meets⟩

/-- The method of a request that is sent as `CUSTOMREQUEST`. -/
theorem token_of_customRequest {native : NativeRequest} {verb : Text}
    (custom : native.customRequest = some verb) : native.token = verb := by
  simp [NativeRequest.token, custom]

theorem own_of_token {token verb : Text} (own : token = verb) : ∀ sent ∈ outcome.sent token, sent = verb := by
  intro sent mem
  exact (Outcome.mem_sent mem).2.trans own

/-- A verb that is sent as `CUSTOMREQUEST` leaves nothing of it. -/
theorem performVerbStr_performed {verb : Text} (notHead : isHead verb = false) (outcome : Outcome)
    (state : RequestState) :
    Performed outcome (NativeRequest.restored true false false)
      (state.setRequest fun native => native.setCustomRequest (some verb))
      (finalState (performVerbStr verb outcome) state) := by
  rw [performVerbStr, setNative, setNative, finalState_modify_bind, finalState_modify_bind, notHead]
  exact performWithRequestRestore_performed outcome true false false _

/-- A verb that is sent as `CUSTOMREQUEST` from a handle that is otherwise tidy is isolated. -/
theorem decides_of_performVerbStr {call : VerbCall} {begun : RequestState} (always : Meets state call)
    (notHead : isHead call.verb = false)
    (ends : finalState call.run state = finalState (performVerbStr call.verb outcome) begun)
    (requests : begun.requests = state.requests) (tidy : Tidy begun)
    (upload : begun.upload = state.upload)
    (method : begun.native.method = .put → state.native.method = .put) : Decides state call := by
  have performed := performVerbStr_performed notHead outcome begun
  rw [← ends] at performed
  have request := performed.request
  refine decides_of rfl (performed.requests.trans (by rw [setRequest_requests, requests])) ?_ ?_
  · refine iff_of_true ⟨own_of_token (token_of_customRequest (letGo_customRequest _ _)), ?_, ?_, ?_⟩ always
    · rw [request]
      rfl
    · rw [request]
      exact (letGo_nobody _ _).trans tidy.nobody
    · intro put
      obtain ⟨kept, same⟩ := performed.upload_left (fun native put => put) put
      exact ⟨method kept, same.trans upload⟩
  · intro _
    rw [request]
    exact @letGo_method_ne_head
      (begun.setRequest fun native => native.setCustomRequest (some call.verb)) tidy.notHead _

theorem decides_get (tidy : Tidy state) (outcome : Outcome) : Decides state (.get outcome) := by
  apply @decides_of_performVerbStr state outcome (.get outcome)
    (state.setRequest fun native => native.setHttpGet true) trivial rfl
  · show finalState (httpGet outcome) state = _
    rw [httpGet, setNative, finalState_modify_bind]
    rfl
  · rfl
  · exact ⟨tidy.customRequest, rfl, nofun⟩
  · rfl
  · intro put
    cases put

theorem decides_delete (tidy : Tidy state) (outcome : Outcome) : Decides state (.delete outcome) :=
  @decides_of_performVerbStr state outcome (.delete outcome) state trivial rfl rfl rfl tidy rfl id

/-- `http_head` leaves `NOBODY` where `perform` raises. -/
theorem decides_head (tidy : Tidy state) (outcome : Outcome) : Decides state (.head outcome) := by
  let begun := state.setRequest fun native => native.setNobody true
  obtain ⟨request, upload, requests⟩ := perform_eq begun outcome
  have token : (begun.letGo outcome.letGoFirst).token = "HEAD".toList := by
    have custom : (begun.letGo outcome.letGoFirst).customRequest = none :=
      (letGo_customRequest _ _).trans tidy.customRequest
    have nobody : (begun.letGo outcome.letGoFirst).nobody = true := letGo_nobody _ _
    rw [NativeRequest.token, custom, nobody]
    rfl
  cases raises : outcome.raises with
  | some error =>
    have ends : finalState (VerbCall.head outcome).run state = begun.perform outcome := by
      show finalState (httpHead outcome) state = _
      rw [httpHead, setNative, finalState_modify_bind,
        (performRequest_raises outcome raises begun).finalState_bind]
    have unmet : ¬Meets state (.head outcome) := by
      intro returns
      exact Option.some_ne_none error (raises.symm.trans returns)
    refine decides_of ends requests (iff_of_false ?_ unmet) (fun meets => absurd meets unmet)
    rintro ⟨_, left⟩
    have nobody := left.nobody
    rw [request, letGo_nobody] at nobody
    cases nobody
  | none =>
    have ends : finalState (VerbCall.head outcome).run state =
        (begun.perform outcome).setRequest fun native => native.setNobody false := by
      show finalState (httpHead outcome) state = _
      rw [httpHead, setNative, finalState_modify_bind,
        (performRequest_returns outcome raises begun).finalState_bind]
      rfl
    have notPut : (begun.letGo (outcome.letGoFirst || outcome.letGo)).method ≠ .put := by
      rw [letGo_method]
      split <;> exact Method.noConfusion
    refine decides_of ends requests (iff_of_true ⟨own_of_token token, ?_, rfl, ?_⟩ raises) ?_
    · rw [setRequest_request, request]
      exact (letGo_customRequest _ _).trans tidy.customRequest
    · rw [setRequest_request, request]
      intro put
      simp only [NativeRequest.setNobody, Bool.false_eq_true, if_false] at put
      split at put
      · cases put
      · exact absurd put notPut
    · intro _
      rw [setRequest_request, request]
      simp only [NativeRequest.setNobody, Bool.false_eq_true, if_false]
      split
      · exact Method.noConfusion
      · assumption

/-! ## Bodies -/

/-- The joined body selects `POST` where it is not empty or no body is retained. -/
theorem setJoinedBody_request (state : RequestState) (body : Text) :
    (state.setJoinedBody body).native.toNativeRequest =
      if body = [] ∧ state.postdataBuffer ≠ none then state.native.toNativeRequest
      else state.native.toNativeRequest.setPost true := by
  unfold RequestState.setJoinedBody RequestState.postBodySet
  cases body with
  | nil => cases kept : state.postdataBuffer <;> simp [kept]
  | cons c rest => simp

theorem setJoinedBody_same (state : RequestState) (body : Text) :
    (state.setJoinedBody body).upload = state.upload ∧
      (state.setJoinedBody body).requests = state.requests := by
  unfold RequestState.setJoinedBody RequestState.postBodySet
  cases body with
  | nil => cases kept : state.postdataBuffer <;> simp [kept]
  | cons c rest => simp

/-- What a verb with a joined body leads to. -/
theorem joined_performed (custom : Option Text) (body : Text) (outcome : Outcome) (postfields : Bool)
    (state : RequestState) :
    Performed outcome (NativeRequest.restored true false postfields)
      ((state.setRequest fun native => native.setCustomRequest custom).setJoinedBody body)
      (finalState (do
        setNative fun native => native.setCustomRequest custom
        let body ← joinArguments (.ok body)
        modify fun state => state.setJoinedBody body
        performWithRequestRestore outcome true false postfields) state) := by
  have joins (state : RequestState) : Returns (joinArguments (.ok body)) state body state := rfl
  rw [setNative, finalState_modify_bind, (joins _).finalState_bind, finalState_modify_bind]
  exact performWithRequestRestore_performed outcome true false postfields _

/-- `http_patch` leaves `CUSTOMREQUEST` where its arguments are not joined. -/
theorem decides_patch (join : Except RubyError Text) (outcome : Outcome) :
    Decides state (.patch join outcome) := by
  cases join with
  | error error =>
    have unmet : ¬Meets state (.patch (.error error) outcome) := by
      rintro ⟨body, joined⟩
      cases joined
    refine @decides_of state _ (.patch (.error error) outcome) [] rfl (List.append_nil _).symm
      (iff_of_false ?_ unmet) (fun meets => absurd meets unmet)
    rintro ⟨_, left⟩
    cases left.customRequest
  | ok body =>
    have performed := joined_performed (some "PATCH".toList) body outcome true state
    let custom := state.setRequest fun native => native.setCustomRequest (some "PATCH".toList)
    obtain ⟨upload, requests⟩ := setJoinedBody_same custom body
    have verb : (custom.setJoinedBody body).native.customRequest = some "PATCH".toList := by
      have request := congrArg NativeRequest.customRequest (setJoinedBody_request custom body)
      rw [request]
      split <;> rfl
    have request := performed.request
    refine decides_of rfl (performed.requests.trans (by rw [requests]; rfl))
      (iff_of_true ⟨?_, ?_, ?_, ?_⟩ ⟨body, rfl⟩) ?_
    · exact own_of_token (token_of_customRequest ((letGo_customRequest _ _).trans verb))
    · exact congrArg NativeRequest.customRequest request
    · exact congrArg NativeRequest.nobody request
    · intro put
      cases (congrArg NativeRequest.method request).symm.trans put
    · intro _ isHead
      cases (congrArg NativeRequest.method request).symm.trans isHead

/-- The method that a request without overrides is sent with. -/
theorem token_eq_post_iff {native : NativeRequest} (custom : native.customRequest = none)
    (nobody : native.nobody = false) : native.token = "POST".toList ↔ native.method = .post := by
  unfold NativeRequest.token
  rw [custom, nobody]
  cases native.method <;> decide

/-- `http_post` does not select `POST` where it honours a body that is retained, and the selection is lost
where an upload ends before the transfer. -/
theorem decides_post (tidy : Tidy state) (join : Except RubyError Text) (outcome : Outcome) :
    Decides state (.post join outcome) := by
  let custom := state.setRequest fun native => native.setCustomRequest none
  cases join with
  | error error =>
    have ends : finalState (VerbCall.post (.error error) outcome).run state = custom := rfl
    refine @decides_of state _ (.post (.error error) outcome) [] ends (List.append_nil _).symm
      (iff_of_true ⟨fun _ mem => absurd mem List.not_mem_nil, rfl, tidy.nobody, ?_⟩ ?_) ?_
    · exact fun put => ⟨put, rfl⟩
    · intro body joined
      cases joined
    · exact fun _ => tidy.notHead
  | ok body =>
    have performed := joined_performed none body outcome false state
    obtain ⟨upload, requests⟩ := setJoinedBody_same custom body
    have joined := setJoinedBody_request custom body
    have customRequest : (custom.setJoinedBody body).native.customRequest = none := by
      rw [joined]
      split <;> rfl
    have nobody : (custom.setJoinedBody body).native.nobody = false := by
      rw [joined]
      split
      · exact tidy.nobody
      · rfl
    have method : (custom.setJoinedBody body).native.method =
        if body = [] ∧ state.postdataBuffer ≠ none then state.native.method else .post := by
      rw [joined]
      show (if body = [] ∧ state.postdataBuffer ≠ none then _ else _ : NativeRequest).method = _
      split <;> rfl
    have request := performed.request
    have left : NothingLeft state (finalState (VerbCall.post (.ok body) outcome).run state) := by
      refine ⟨congrArg NativeRequest.customRequest request, ?_, ?_⟩
      · exact (congrArg NativeRequest.nobody request).trans ((letGo_nobody _ _).trans nobody)
      · intro put
        obtain ⟨kept, same⟩ := performed.upload_left (fun native put => put) put
        rw [method] at kept
        split at kept
        · exact ⟨kept, same.trans upload⟩
        · cases kept
    have token : ((custom.setJoinedBody body).letGo outcome.letGoFirst).token = "POST".toList ↔
        (body ≠ [] ∨ state.postdataBuffer = none ∨ state.native.method = .post) ∧
          (outcome.letGoFirst = true → state.upload = none) := by
      rw [token_eq_post_iff ((letGo_customRequest _ _).trans customRequest)
        ((letGo_nobody _ _).trans nobody), letGo_method, upload, method]
      show (if outcome.letGoFirst && state.upload.isSome then Method.get else _) = _ ↔ _
      by_cases kept : body = [] ∧ state.postdataBuffer ≠ none
      · rw [if_pos kept]
        cases outcome.letGoFirst <;> cases state.upload <;> simp [kept.1, kept.2]
      · rw [if_neg kept]
        have given : body ≠ [] ∨ state.postdataBuffer = none := by
          by_cases empty : body = []
          · exact Or.inr (not_not.mp fun some => kept ⟨empty, some⟩)
          · exact Or.inl empty
        cases outcome.letGoFirst <;> cases state.upload <;> simp [← or_assoc, given]
    refine decides_of rfl (performed.requests.trans (by rw [requests]; rfl)) ?_ ?_
    · rw [and_iff_left left]
      constructor
      · intro own body' joins sends
        cases joins
        refine token.mp (own _ ?_)
        rw [Outcome.sent, if_pos sends]
        exact List.mem_singleton_self _
      · intro meets sent mem
        obtain ⟨sends, rfl⟩ := Outcome.mem_sent mem
        exact token.mpr (meets body rfl sends)
    · intro _
      rw [show (finalState (VerbCall.post (.ok body) outcome).run state).native.method = _ from
        congrArg NativeRequest.method request]
      refine letGo_method_ne_head ?_ _
      rw [method]
      split
      · exact tidy.notHead
      · exact Method.noConfusion

/-! ## Uploads -/

/-- The upload was selected by the call. -/
theorem Uploads.ne {before after : PutState} (uploads : Uploads before after) : after.upload ≠ before.upload := by
  obtain ⟨object, isUpload, isNew⟩ := uploads.upload
  intro same
  exact absurd (before.fresh object (same.symm.trans isUpload)) (Nat.not_lt.mpr isNew)

/-- `put_data=` of a handle. -/
theorem putDataSet_spec (data : PutObject) (state : RequestState) :
    (data.Convertible state.headers ∧ ∃ after, Returns (putDataSet (some data)) state () after ∧
      after.requests = state.requests ∧ Uploads state.toPutState after.toPutState) ∨
    (¬data.Convertible state.headers ∧ ∃ error after, Raises (putDataSet (some data)) state error after ∧
      after.native.customRequest = state.native.customRequest) := by
  rcases putData_spec data state.toPutState with ⟨fits, put, returns, uploads⟩ | ⟨unfit, error, put, raises, request⟩
  · exact Or.inl ⟨fits, { state with toPutState := put }, zoom_returns_iff.mpr ⟨put, returns, rfl⟩, rfl, uploads⟩
  · refine Or.inr ⟨unfit, error, { state with toPutState := put }, zoom_raises_iff.mpr ⟨put, raises, rfl⟩, ?_⟩
    rcases request with same | uploads
    · exact congrArg NativeRequest.customRequest same
    · exact (congrArg NativeRequest.customRequest uploads.request :)

/-- The arguments of `http_put` are converted, or something raises. -/
theorem putArguments_spec (arguments : PutArguments) (state : RequestState) :
    (arguments.Convertible state.headers ∧ ∃ after, Returns (putArguments arguments) state () after ∧
      (arguments.uploads = true ∧ after.requests = state.requests ∧
          Uploads state.toPutState after.toPutState ∨
        arguments.uploads = false ∧ after = state)) ∨
    (¬arguments.Convertible state.headers ∧ ∃ error after, Raises (putArguments arguments) state error after ∧
      after.native.customRequest = state.native.customRequest) := by
  cases arguments with
  | none =>
    rcases putDataSet_spec (.ofText []) state with ⟨fits, after, returns, uploads⟩ | raises
    · exact Or.inl ⟨fits, after, returns, Or.inl ⟨rfl, uploads⟩⟩
    · exact Or.inr raises
  | single data =>
    rcases putDataSet_spec data state with ⟨fits, after, returns, uploads⟩ | raises
    · exact Or.inl ⟨fits, after, returns, Or.inl ⟨rfl, uploads⟩⟩
    · exact Or.inr raises
  | several join =>
    cases join with
    | error error =>
      refine Or.inr ⟨?_, error, state, bind_raises_iff.mpr (Or.inl rfl), rfl⟩
      rintro ⟨body, ok, _⟩
      cases ok
    | ok body =>
      have joins : Returns (joinArguments (.ok body)) state body state := rfl
      cases body with
      | nil =>
        refine Or.inl ⟨⟨[], rfl, fun some => absurd rfl some⟩, state, ?_, Or.inr ⟨rfl, rfl⟩⟩
        exact bind_returns_iff.mpr ⟨[], state, joins, rfl⟩
      | cons c rest =>
        rcases putDataSet_spec (.ofText (c :: rest)) state with ⟨fits, after, returns, uploads⟩ |
          ⟨unfit, error, after, raises, same⟩
        · refine Or.inl ⟨⟨c :: rest, rfl, fun _ => fits⟩, after, ?_, Or.inl ⟨rfl, uploads⟩⟩
          exact bind_returns_iff.mpr ⟨_, state, joins, returns⟩
        · refine Or.inr ⟨?_, error, after, bind_raises_iff.mpr (Or.inr ⟨_, state, joins, raises⟩), same⟩
          rintro ⟨body, ok, fits⟩
          cases ok
          exact unfit (fits (List.cons_ne_nil c rest))

/-- An upload that `http_put` has selected ends where the handle is let go. -/
theorem uploaded_left_iff {restore : NativeRequest → NativeRequest} {begun : RequestState}
    (performed : Performed outcome restore begun after)
    (method : ∀ native, (restore native).method = native.method)
    (uploads : Uploads state.toPutState begun.toPutState) :
    (after.native.method = .put → state.native.method = .put ∧ after.upload = state.upload) ↔
      (outcome.letGoFirst || outcome.letGo) = true := by
  obtain ⟨object, isUpload, _⟩ := uploads.upload
  have begunPut : begun.native.method = .put := congrArg NativeRequest.method uploads.request
  have ends : after.native.method = if (outcome.letGoFirst || outcome.letGo) then .get else .put := by
    rw [performed.request, method, letGo_method, isUpload, begunPut, Option.isSome_some, Bool.and_true]
  rw [ends, performed.upload]
  cases (outcome.letGoFirst || outcome.letGo) with
  | true => exact iff_of_true (fun put => Method.noConfusion put) rfl
  | false => exact iff_of_false (fun kept => uploads.ne (kept rfl).2) Bool.false_ne_true

/-- `http_put` leaves `CUSTOMREQUEST` where its arguments are not converted, and the upload where the
handle is not let go. -/
theorem decides_put (tidy : Tidy state) (arguments : PutArguments) (outcome : Outcome) :
    Decides state (.put arguments outcome) := by
  let custom := state.setRequest fun native => native.setCustomRequest (some "PUT".toList)
  have begins : finalState (VerbCall.put arguments outcome).run state = finalState (do
      putArguments arguments
      performWithRequestRestore outcome true false false) custom := by
    show finalState (httpPut arguments outcome) state = _
    rw [httpPut, setNative, finalState_modify_bind]
  rcases putArguments_spec arguments custom with ⟨fits, middle, returns, ends⟩ |
    ⟨unfit, error, middle, raises, same⟩
  · have performed := performWithRequestRestore_performed outcome true false false middle
    rw [returns.finalState_bind] at begins
    rw [← begins] at performed
    have request := performed.request
    have requests : middle.requests = state.requests := by
      rcases ends with ⟨_, same, _⟩ | ⟨_, same⟩
      · exact same
      · rw [same]
        rfl
    have verb : middle.native.customRequest = some "PUT".toList := by
      rcases ends with ⟨_, _, uploads⟩ | ⟨_, same⟩
      · exact congrArg NativeRequest.customRequest uploads.request
      · rw [same]
        rfl
    have nobody : middle.native.nobody = false := by
      rcases ends with ⟨_, _, uploads⟩ | ⟨_, same⟩
      · exact congrArg NativeRequest.nobody uploads.request
      · rw [same]
        exact tidy.nobody
    have notHead : middle.native.method ≠ .head := by
      rcases ends with ⟨_, _, uploads⟩ | ⟨_, same⟩
      · rw [uploads.request]
        exact Method.noConfusion
      · rw [same]
        exact tidy.notHead
    refine decides_of rfl (performed.requests.trans (by rw [requests])) ?_ ?_
    · have own : ∀ token ∈ outcome.sent (middle.letGo outcome.letGoFirst).token,
          token = (VerbCall.put arguments outcome).verb :=
        own_of_token (token_of_customRequest ((letGo_customRequest _ _).trans verb))
      rw [and_iff_right own]
      have kept : NothingLeft state (finalState (VerbCall.put arguments outcome).run state) ↔
          ((finalState (VerbCall.put arguments outcome).run state).native.method = .put →
            state.native.method = .put ∧
              (finalState (VerbCall.put arguments outcome).run state).upload = state.upload) := by
        refine ⟨NothingLeft.upload, fun upload => ⟨?_, ?_, upload⟩⟩
        · exact congrArg NativeRequest.customRequest request
        · exact (congrArg NativeRequest.nobody request).trans ((letGo_nobody _ _).trans nobody)
      rw [kept]
      show _ ↔ arguments.Convertible state.headers ∧ _
      rw [and_iff_right (show arguments.Convertible state.headers from fits)]
      rcases ends with ⟨isUpload, _, uploads⟩ | ⟨noUpload, same⟩
      · rw [imp_iff_right isUpload, ← Bool.or_eq_true]
        exact @uploaded_left_iff custom _ outcome _ middle performed (fun native => rfl) uploads
      · refine iff_of_true (fun put => ?_) (fun isUpload => absurd (isUpload.symm.trans noUpload) (by decide))
        obtain ⟨method, upload⟩ := performed.upload_left (fun native put => put) put
        rw [same] at method upload
        exact ⟨method, upload⟩
    · intro _
      rw [request]
      exact @letGo_method_ne_head middle notHead _
  · rw [raises.finalState_bind] at begins
    have unmet : ¬Meets state (.put arguments outcome) := fun meets => unfit meets.1
    have left : ¬IsolatedCall state (.put arguments outcome) := by
      rintro ⟨_, left⟩
      have none_left := left.customRequest
      rw [begins, same] at none_left
      cases none_left
    exact ⟨iff_of_false left unmet, fun meets => absurd meets unmet⟩

theorem decides (tidy : Tidy state) (call : VerbCall) : Decides state call := by
  cases call with
  | get outcome => exact decides_get tidy outcome
  | head outcome => exact decides_head tidy outcome
  | post join outcome => exact decides_post tidy join outcome
  | put arguments outcome => exact decides_put tidy arguments outcome
  | patch join outcome => exact decides_patch join outcome
  | delete outcome => exact decides_delete tidy outcome

/-! ## Runs -/

/-- What a program does with a handle: it calls a verb, or one of the setters that verbs depend on. -/
inductive HandleEvent where
  | verb (call : VerbCall)
  | headersSet (headers : PutHeaders)
  | postBodySet (body : Option (Except RubyError Text))
  | putDataSet (data : Option PutObject)

def HandleEvent.run : HandleEvent → Verb Unit
  | .verb call => call.run
  | .headersSet headers => modify fun state => state.setHeaders headers
  | .postBodySet body => postBody body
  | .putDataSet data => Easy.putDataSet data

/-- A property of the calls of a run. -/
def OfCall (P : RequestState → VerbCall → Prop) (state : RequestState) : HandleEvent → Prop
  | .verb call => P state call
  | _ => True

theorem Tidy.postBody (tidy : Tidy state) (body : Option (Except RubyError Text)) :
    Tidy (finalState (Easy.postBody body) state) := by
  cases body with
  | none => exact ⟨tidy.customRequest, rfl, Method.noConfusion⟩
  | some form =>
    cases form with
    | ok text => exact ⟨tidy.customRequest, rfl, Method.noConfusion⟩
    | error error => exact tidy

theorem Tidy.putDataSet (tidy : Tidy state) (data : Option PutObject) :
    Tidy (finalState (Easy.putDataSet data) state) := by
  rw [Easy.putDataSet, finalState_zoom]
  rcases putData_request data state.toPutState with same | uploads
  · constructor
    · exact (congrArg NativeRequest.customRequest same).trans tidy.customRequest
    · exact (congrArg NativeRequest.nobody same).trans tidy.nobody
    · rw [show (finalState (putData data) state.toPutState).native.method = _ from
        congrArg NativeRequest.method same]
      exact tidy.notHead
  · constructor
    · exact (congrArg NativeRequest.customRequest uploads).trans tidy.customRequest
    · exact congrArg NativeRequest.nobody uploads
    · rw [show (finalState (putData data) state.toPutState).native.method = _ from
        congrArg NativeRequest.method uploads]
      exact Method.noConfusion

/-- A setter leaves a tidy handle, and so does a call that meets its condition. -/
theorem Tidy.step (tidy : Tidy state) (event : HandleEvent) :
    (OfCall IsolatedCall state event ↔ OfCall Meets state event) ∧
      (OfCall Meets state event → Tidy (finalState event.run state)) := by
  cases event with
  | verb call => exact decides tidy call
  | headersSet headers => exact ⟨Iff.rfl, fun _ => ⟨tidy.customRequest, tidy.nobody, tidy.notHead⟩⟩
  | postBodySet body => exact ⟨Iff.rfl, fun _ => tidy.postBody body⟩
  | putDataSet data => exact ⟨Iff.rfl, fun _ => tidy.putDataSet data⟩

/-- A transfer that is sent and lets the handle go. -/
def transferred : Outcome := ⟨false, true, true, none, fun _ => rfl⟩

/-- A transfer that fails in the end. -/
def failed : Outcome :=
  ⟨false, true, true, some ⟨.curlError, "Timeout was reached".toList⟩, fun returns => (nomatch returns)⟩

/-- A retained body is posted by `GET`. -/
example : (([.post (.ok "a=b".toList) transferred, .get transferred, .post (.ok []) transferred] :
    List VerbCall).foldl (fun state call => finalState call.run state) newRequestState).requests =
    ["POST".toList, "GET".toList, "GET".toList] := by
  decide +kernel

end Curb.Easy

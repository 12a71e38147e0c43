import Mathlib.Tactic.Common

/-!
# Which callbacks a completion runs

`rb_curl_multi_run_completion_callbacks` (`ext/curb_multi.c:1007-1085`) runs `on_complete` and then
the first handler of one `else if` chain whose conditions hold.
-/

namespace Curb.Completion

/-- The handlers a completion may call. -/
inductive Handler where
  | onComplete
  | onSuccess
  | onRedirect
  | onMissing
  | onFailure
  deriving DecidableEq, Repr

/-- What the chain looks at: the transfer's result, the `CURLINFO`s, the settings of the handle and
the handlers that are installed. -/
structure Finished where
  result : Nat
  responseCode : Int
  redirectCount : Int
  followLocation : Bool
  maxRedirs : Int
  installed : Handler → Bool

namespace Finished

/-- The code is in a class of codes. -/
def codeIn (finished : Finished) (first last : Int) : Bool :=
  first ≤ finished.responseCode && finished.responseCode ≤ last

/-- The `on_redirect` callback is skipped (`curb_multi.c:1057-1060`). -/
def skipsRedirect (finished : Finished) : Bool :=
  !finished.followLocation && finished.maxRedirs == 0

/-- The `else if` chain (`curb_multi.c:1039-1081`). -/
def statusHandler (finished : Finished) : Option Handler :=
  if finished.result ≠ 0 then
    if finished.installed .onFailure then some .onFailure else none
  else if finished.installed .onSuccess &&
      (finished.codeIn 200 299 || finished.responseCode == 0) then some .onSuccess
  else if finished.installed .onRedirect &&
      (finished.codeIn 300 399 || finished.redirectCount > 0) then
    if finished.skipsRedirect then none else some .onRedirect
  else if finished.installed .onMissing && finished.codeIn 400 499 then some .onMissing
  else if finished.installed .onFailure && finished.codeIn 500 999 then some .onFailure
  else none

/-- The handlers that are called, in order, where none of them raises. -/
def called (finished : Finished) : List Handler :=
  (if finished.installed .onComplete then [.onComplete] else []) ++ finished.statusHandler.toList

/-- The documented dispatch: by the result and the class of the code. -/
structure Documented (finished : Finished) (calls : List Handler) : Prop where
  complete : finished.installed .onComplete = true →
    calls.count .onComplete = 1 ∧ calls.head? = some .onComplete
  atMostOne : (calls.filter fun handler => handler ≠ .onComplete).length ≤ 1
  failed : finished.result ≠ 0 → finished.installed .onFailure = true → .onFailure ∈ calls
  success : finished.result = 0 → finished.codeIn 200 299 = true ∨ finished.responseCode = 0 →
    finished.installed .onSuccess = true → .onSuccess ∈ calls
  redirect : finished.result = 0 → finished.codeIn 300 399 = true →
    finished.skipsRedirect = false → finished.installed .onRedirect = true → .onRedirect ∈ calls
  missing : finished.result = 0 → finished.codeIn 400 499 = true →
    finished.installed .onMissing = true → .onMissing ∈ calls
  failure : finished.result = 0 → finished.codeIn 500 999 = true →
    finished.installed .onFailure = true → .onFailure ∈ calls

/-- The redirect branch takes a code of `4xx` or `5xx` from the handler that is installed for it. -/
def RedirectTakes (finished : Finished) : Prop :=
  finished.result = 0 ∧ finished.installed .onRedirect = true ∧ finished.redirectCount > 0 ∧
    (finished.codeIn 400 499 = true ∧ finished.installed .onMissing = true ∨
      finished.codeIn 500 999 = true ∧ finished.installed .onFailure = true)

variable {finished : Finished}

theorem codeIn_iff {first last : Int} : finished.codeIn first last = true ↔
    first ≤ finished.responseCode ∧ finished.responseCode ≤ last := by
  rw [codeIn, Bool.and_eq_true, decide_eq_true_eq, decide_eq_true_eq]

theorem statusHandler_ne_onComplete : finished.statusHandler ≠ some .onComplete := by
  unfold statusHandler
  repeat' split
  all_goals decide

theorem mem_called_iff {handler : Handler} (other : handler ≠ .onComplete) :
    handler ∈ finished.called ↔ finished.statusHandler = some handler := by
  rw [called, List.mem_append, Option.mem_toList]
  refine ⟨fun called => called.resolve_left ?_, Or.inr⟩
  split
  · rw [List.mem_singleton]
    exact other
  · exact List.not_mem_nil

theorem called_complete (installed : finished.installed .onComplete = true) :
    finished.called.count .onComplete = 1 ∧ finished.called.head? = some .onComplete := by
  have others : finished.statusHandler.toList.count .onComplete = 0 := by
    rw [List.count_eq_zero, Option.mem_toList]
    exact statusHandler_ne_onComplete
  rw [called, if_pos installed, List.count_append, others]
  exact ⟨rfl, rfl⟩

theorem called_atMostOne :
    (finished.called.filter fun handler => handler ≠ .onComplete).length ≤ 1 := by
  have first : (if finished.installed .onComplete then [Handler.onComplete] else []).filter
      (fun handler => handler ≠ .onComplete) = [] := by
    split <;> rfl
  rw [called, List.filter_append, first, List.nil_append]
  refine Nat.le_trans (List.length_filter_le _ _) ?_
  cases finished.statusHandler with
  | none => exact Nat.zero_le 1
  | some handler => exact Nat.le_refl 1

/-! ## The branches of the chain -/

theorem statusHandler_failed (failed : finished.result ≠ 0)
    (installed : finished.installed .onFailure = true) :
    finished.statusHandler = some .onFailure := by
  rw [statusHandler, if_pos failed, if_pos installed]

section
variable (ok : finished.result = 0)
include ok

theorem statusHandler_success
    (code : finished.codeIn 200 299 = true ∨ finished.responseCode = 0)
    (installed : finished.installed .onSuccess = true) :
    finished.statusHandler = some .onSuccess := by
  have taken : (finished.installed .onSuccess &&
      (finished.codeIn 200 299 || finished.responseCode == 0)) = true := by
    rw [installed, Bool.true_and, Bool.or_eq_true, beq_iff_eq]
    exact code
  rw [statusHandler, if_neg (not_not.mpr ok), if_pos taken]

/-- A code of `3xx` or above passes the success branch. -/
theorem statusHandler_of_later (code : 300 ≤ finished.responseCode) : finished.statusHandler =
    if finished.installed .onRedirect && (finished.codeIn 300 399 || finished.redirectCount > 0) then
      if finished.skipsRedirect then none else some .onRedirect
    else if finished.installed .onMissing && finished.codeIn 400 499 then some .onMissing
    else if finished.installed .onFailure && finished.codeIn 500 999 then some .onFailure
    else none := by
  have passed : ¬(finished.installed .onSuccess &&
      (finished.codeIn 200 299 || finished.responseCode == 0)) = true := by
    rw [Bool.and_eq_true, Bool.or_eq_true, codeIn_iff, beq_iff_eq]
    omega
  rw [statusHandler, if_neg (not_not.mpr ok), if_neg passed]

theorem statusHandler_redirect (code : finished.codeIn 300 399 = true)
    (followed : finished.skipsRedirect = false)
    (installed : finished.installed .onRedirect = true) :
    finished.statusHandler = some .onRedirect := by
  rw [statusHandler_of_later ok (codeIn_iff.mp code).1, installed, code, followed]
  rfl

/-- A code of `4xx` or above reaches the later branches where the redirect branch lets it. -/
theorem statusHandler_of_passed (code : 400 ≤ finished.responseCode)
    (passed : finished.installed .onRedirect = true → ¬finished.redirectCount > 0) :
    finished.statusHandler =
      if finished.installed .onMissing && finished.codeIn 400 499 then some .onMissing
      else if finished.installed .onFailure && finished.codeIn 500 999 then some .onFailure
      else none := by
  have notTaken : ¬(finished.installed .onRedirect &&
      (finished.codeIn 300 399 || finished.redirectCount > 0)) = true := by
    rw [Bool.and_eq_true, Bool.or_eq_true, codeIn_iff, decide_eq_true_eq]
    rintro ⟨installed, between | followed⟩
    · omega
    · exact passed installed followed
  rw [statusHandler_of_later ok (by omega), if_neg notTaken]

/-- Where the redirect branch is taken, neither of the handlers after it is called. -/
theorem statusHandler_of_taken (code : 300 ≤ finished.responseCode)
    (installed : finished.installed .onRedirect = true) (followed : finished.redirectCount > 0) :
    finished.statusHandler ≠ some .onMissing ∧ finished.statusHandler ≠ some .onFailure := by
  have taken : (finished.installed .onRedirect &&
      (finished.codeIn 300 399 || finished.redirectCount > 0)) = true := by
    rw [installed, Bool.true_and, Bool.or_eq_true, decide_eq_true_eq]
    exact Or.inr followed
  rw [statusHandler_of_later ok code, if_pos taken]
  split
  · exact ⟨nofun, nofun⟩
  · exact ⟨by decide, by decide⟩

end

/-- The dispatch is the documented one unless the redirect branch takes a `4xx` or `5xx` from the
handler that is installed for it. -/
theorem documented_iff (finished : Finished) :
    finished.Documented finished.called ↔ ¬finished.RedirectTakes := by
  constructor
  · rintro documented ⟨ok, installed, followed, ⟨code, missing⟩ | ⟨code, failure⟩⟩
    · have later : 300 ≤ finished.responseCode := by
        have lower := (codeIn_iff.mp code).1
        omega
      have called := (mem_called_iff (by decide)).mp (documented.missing ok code missing)
      exact (statusHandler_of_taken ok later installed followed).1 called
    · have later : 300 ≤ finished.responseCode := by
        have lower := (codeIn_iff.mp code).1
        omega
      have called := (mem_called_iff (by decide)).mp (documented.failure ok code failure)
      exact (statusHandler_of_taken ok later installed followed).2 called
  · intro free
    refine ⟨called_complete, called_atMostOne, ?_, ?_, ?_, ?_, ?_⟩
    · intro failed installed
      exact (mem_called_iff (by decide)).mpr (statusHandler_failed failed installed)
    · intro ok code installed
      exact (mem_called_iff (by decide)).mpr (statusHandler_success ok code installed)
    · intro ok code followed installed
      exact (mem_called_iff (by decide)).mpr (statusHandler_redirect ok code followed installed)
    · intro ok code installed
      have passed (redirect : finished.installed .onRedirect = true) :
          ¬finished.redirectCount > 0 := fun followed =>
        free ⟨ok, redirect, followed, Or.inl ⟨code, installed⟩⟩
      apply (mem_called_iff (by decide)).mpr
      rw [statusHandler_of_passed ok (codeIn_iff.mp code).1 passed, installed, code]
      rfl
    · intro ok code installed
      have passed (redirect : finished.installed .onRedirect = true) :
          ¬finished.redirectCount > 0 := fun followed =>
        free ⟨ok, redirect, followed, Or.inr ⟨code, installed⟩⟩
      have lower := (codeIn_iff.mp code).1
      have notMissing : finished.codeIn 400 499 = false := by
        rw [Bool.eq_false_iff, ne_eq, codeIn_iff]
        omega
      apply (mem_called_iff (by decide)).mpr
      rw [statusHandler_of_passed ok (by omega) passed, installed, code, notMissing,
        Bool.and_false]
      rfl

/-- A redirect is followed to a page that is missing; both handlers are installed. -/
def followedToMissing : Finished where
  result := 0
  responseCode := 404
  redirectCount := 1
  followLocation := true
  maxRedirs := -1
  installed := fun _ => true

theorem followedToMissing_undocumented :
    followedToMissing.called = [.onComplete, .onRedirect] ∧
      ¬followedToMissing.Documented followedToMissing.called := by
  refine ⟨by decide, fun documented => ?_⟩
  have missing := documented.missing rfl (by decide) rfl
  exact absurd missing (by decide)

end Finished
end Curb.Completion

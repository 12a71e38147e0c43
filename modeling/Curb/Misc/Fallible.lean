import Mathlib.Data.List.Forall2
import Mathlib.Tactic.Common

/-!
# Computations that may raise

`Except ε` for computations without a state and `EStateM ε σ` for those with one, where a
raise keeps the state reached so far. A sequence of steps is taken apart by the inversion
lemmas below: one says how a `bind` returned, the other how it raised.
-/

namespace Curb.Misc

variable {ε σ α β : Type}

@[simp] theorem except_ok_bind (a : α) (f : α → Except ε β) : (Except.ok a >>= f) = f a := rfl

@[simp] theorem except_error_bind (e : ε) (f : α → Except ε β) :
    (Except.error e >>= f) = .error e := rfl

theorem except_map_eq_ok_iff {x : Except ε α} {f : α → β} {b : β} :
    x.map f = .ok b ↔ ∃ a, x = .ok a ∧ f a = b := by
  cases x <;> simp [Except.map]

theorem except_map_eq_error_iff {x : Except ε α} {f : α → β} {e : ε} : x.map f = .error e ↔ x = .error e := by
  cases x <;> simp [Except.map]

theorem except_bind_eq_ok_iff {x : Except ε α} {f : α → Except ε β} {b : β} :
    (x >>= f) = .ok b ↔ ∃ a, x = .ok a ∧ f a = .ok b := by
  cases x with
  | error e => exact ⟨fun h => (nomatch h), fun ⟨a, h, _⟩ => by cases h⟩
  | ok a => exact ⟨fun h => ⟨a, rfl, h⟩, fun ⟨a', same, h⟩ => by cases same; exact h⟩

/-- A `mapM` returns when every item does, and then it returns their results in order. -/
theorem except_mapM_eq_ok_iff {f : α → Except ε β} {xs : List α} {ys : List β} :
    xs.mapM f = .ok ys ↔ List.Forall₂ (fun x y => f x = .ok y) xs ys := by
  induction xs generalizing ys with
  | nil =>
    rw [List.mapM_nil, List.forall₂_nil_left_iff]
    exact ⟨fun same => (Except.ok.inj same).symm, fun same => congrArg Except.ok same.symm⟩
  | cons x xs ih =>
    rw [List.mapM_cons, except_bind_eq_ok_iff, List.forall₂_cons_left_iff]
    constructor
    · rintro ⟨y, head, rest⟩
      obtain ⟨ys', tail, same⟩ := except_bind_eq_ok_iff.mp rest
      exact ⟨y, ys', head, ih.mp tail, (Except.ok.inj same).symm⟩
    · rintro ⟨y, ys', head, tail, rfl⟩
      exact ⟨y, head, except_bind_eq_ok_iff.mpr ⟨ys', ih.mpr tail, rfl⟩⟩

/-- A `foldlM` whose steps keep `P` on the part of the list already read ends with `P` of
the whole list. -/
theorem except_foldlM_induction {f : β → α → Except ε β} {P : List α → β → Prop}
    (step : ∀ done acc x acc', P done acc → f acc x = .ok acc' → P (done ++ [x]) acc')
    {xs done : List α} {acc result : β} (start : P done acc)
    (run : xs.foldlM f acc = .ok result) : P (done ++ xs) result := by
  induction xs generalizing done acc with
  | nil =>
    rw [List.foldlM_nil] at run
    cases run
    rwa [List.append_nil]
  | cons x xs ih =>
    rw [List.foldlM_cons, except_bind_eq_ok_iff] at run
    obtain ⟨acc', head, tail⟩ := run
    have next := ih (step done acc x acc' start head) tail
    rwa [List.append_assoc, List.singleton_append] at next

/-- A `foldlM` returns when every step does. -/
theorem except_foldlM_returns {f : β → α → Except ε β} {xs : List α} (acc : β)
    (each : ∀ acc, ∀ x ∈ xs, ∃ acc', f acc x = .ok acc') : ∃ result, xs.foldlM f acc = .ok result := by
  induction xs generalizing acc with
  | nil => exact ⟨acc, rfl⟩
  | cons x xs ih =>
    obtain ⟨acc', head⟩ := each acc x List.mem_cons_self
    obtain ⟨result, tail⟩ := ih acc' fun acc y mem => each acc y (List.mem_cons_of_mem x mem)
    refine ⟨result, ?_⟩
    rw [List.foldlM_cons, head]
    exact tail

/-- The value and the state a computation returns with. -/
def Returns (x : EStateM ε σ α) (s : σ) (a : α) (s' : σ) : Prop := x s = .ok a s'

/-- The error and the state a computation raises with. -/
def Raises (x : EStateM ε σ α) (s : σ) (e : ε) (s' : σ) : Prop := x s = .error e s'

theorem bind_returns_iff {x : EStateM ε σ α} {f : α → EStateM ε σ β} {s s'' : σ} {b : β} :
    Returns (x >>= f) s b s'' ↔ ∃ a s', Returns x s a s' ∧ Returns (f a) s' b s'' := by
  simp only [Returns, bind, EStateM.bind]
  cases x s with
  | ok a s' =>
    exact ⟨fun h => ⟨a, s', rfl, h⟩, fun ⟨a', t, same, h⟩ => by cases same; exact h⟩
  | error e s' => exact ⟨fun h => (nomatch h), fun ⟨a', t, same, h⟩ => by cases same⟩

theorem bind_raises_iff {x : EStateM ε σ α} {f : α → EStateM ε σ β} {s s'' : σ} {e : ε} :
    Raises (x >>= f) s e s'' ↔
      Raises x s e s'' ∨ ∃ a s', Returns x s a s' ∧ Raises (f a) s' e s'' := by
  simp only [Raises, Returns, bind, EStateM.bind]
  cases x s with
  | ok a s' =>
    constructor
    · intro raised
      exact Or.inr ⟨a, s', rfl, raised⟩
    · rintro (early | ⟨a', t, same, raised⟩)
      · cases early
      · cases same
        exact raised
  | error e' s' =>
    constructor
    · intro raised
      exact Or.inl (by cases raised; rfl)
    · rintro (early | ⟨a', t, same, raised⟩)
      · cases early
        rfl
      · cases same

/-- A fallible value in a computation. -/
def fromExcept : Except ε α → EStateM ε σ α
  | .ok a => pure a
  | .error e => throw e

/-- A computation that returns does not raise. -/
theorem Returns.not_raises {x : EStateM ε σ α} {s s' s'' : σ} {a : α} {e : ε}
    (returns : Returns x s a s') : ¬Raises x s e s'' := by
  intro raises
  rw [Returns] at returns
  rw [Raises, returns] at raises
  cases raises

theorem Returns.unique {x : EStateM ε σ α} {s s' s'' : σ} {a b : α} (returns : Returns x s a s')
    (also : Returns x s b s'') : b = a ∧ s'' = s' := by
  rw [Returns] at returns also
  rw [returns] at also
  cases also
  exact ⟨rfl, rfl⟩

theorem Raises.unique {x : EStateM ε σ α} {s s' s'' : σ} {e e' : ε} (raises : Raises x s e s')
    (also : Raises x s e' s'') : e' = e ∧ s'' = s' := by
  rw [Raises] at raises also
  rw [raises] at also
  cases also
  exact ⟨rfl, rfl⟩

/-- After a first part that returns, the rest runs. -/
theorem Returns.bind_eq {x : EStateM ε σ α} {f : α → EStateM ε σ β} {s s' : σ} {a : α}
    (returns : Returns x s a s') : (x >>= f) s = f a s' := by
  rw [Returns] at returns
  simp only [bind, EStateM.bind, returns]

/-- After a first part that returns, what raises is the rest. -/
theorem Returns.raises_bind_iff {x : EStateM ε σ α} {f : α → EStateM ε σ β} {s s' s'' : σ} {a : α}
    {e : ε} (returns : Returns x s a s') : Raises (x >>= f) s e s'' ↔ Raises (f a) s' e s'' := by
  rw [Returns] at returns
  simp only [Raises, bind, EStateM.bind, returns]

@[simp] theorem returns_pure_iff {s s' : σ} {a b : α} :
    Returns (pure a : EStateM ε σ α) s b s' ↔ a = b ∧ s = s' := by
  constructor
  · rintro ⟨⟩
    exact ⟨rfl, rfl⟩
  · rintro ⟨rfl, rfl⟩
    rfl

theorem get_bind_apply (f : σ → EStateM ε σ α) (s : σ) : (get >>= f) s = f s s := rfl

@[simp] theorem returns_get_iff {s s' t : σ} :
    Returns (get : EStateM ε σ σ) s t s' ↔ s = t ∧ s = s' := by
  constructor
  · rintro ⟨⟩
    exact ⟨rfl, rfl⟩
  · rintro ⟨rfl, rfl⟩
    rfl

@[simp] theorem returns_modify_iff {f : σ → σ} {s s' : σ} {u : PUnit} :
    Returns (modify f : EStateM ε σ PUnit) s u s' ↔ s' = f s := by
  constructor
  · rintro ⟨⟩
    rfl
  · rintro rfl
    rfl

@[simp] theorem returns_throw_iff {e : ε} {s s' : σ} {a : α} :
    ¬Returns (throw e : EStateM ε σ α) s a s' := fun returns => nomatch returns

@[simp] theorem returns_fromExcept_iff {x : Except ε α} {s s' : σ} {a : α} :
    Returns (fromExcept x) s a s' ↔ x = .ok a ∧ s' = s := by
  cases x with
  | ok b =>
    rw [fromExcept, returns_pure_iff, Except.ok.injEq, @eq_comm _ s]
  | error e => exact ⟨fun returns => (nomatch returns), fun ⟨same, _⟩ => (nomatch same)⟩

@[simp] theorem raises_pure_iff {e : ε} {s s' : σ} {a : α} :
    ¬Raises (pure a : EStateM ε σ α) s e s' := fun raises => nomatch raises

@[simp] theorem raises_get_iff {e : ε} {s s' : σ} :
    ¬Raises (get : EStateM ε σ σ) s e s' := fun raises => nomatch raises

@[simp] theorem raises_modify_iff {f : σ → σ} {e : ε} {s s' : σ} :
    ¬Raises (modify f : EStateM ε σ PUnit) s e s' := fun raises => nomatch raises

@[simp] theorem raises_throw_iff {e e' : ε} {s s' : σ} :
    Raises (throw e : EStateM ε σ α) s e' s' ↔ e' = e ∧ s' = s := by
  constructor
  · rintro ⟨⟩
    exact ⟨rfl, rfl⟩
  · rintro ⟨rfl, rfl⟩
    rfl

/-! ## What a computation keeps -/

/-- The state a computation ends in, whether it returns or raises. -/
def finalState (x : EStateM ε σ α) (s : σ) : σ :=
  match x s with
  | .ok _ s' => s'
  | .error _ s' => s'

theorem Returns.finalState_eq {x : EStateM ε σ α} {s s' : σ} {a : α} (returns : Returns x s a s') :
    finalState x s = s' := by
  rw [Returns] at returns
  rw [finalState, returns]

theorem Raises.finalState_eq {x : EStateM ε σ α} {s s' : σ} {e : ε} (raises : Raises x s e s') :
    finalState x s = s' := by
  rw [Raises] at raises
  rw [finalState, raises]

theorem Returns.finalState_bind {x : EStateM ε σ α} {f : α → EStateM ε σ β} {s s' : σ} {a : α}
    (returns : Returns x s a s') : finalState (x >>= f) s = finalState (f a) s' := by
  rw [Returns] at returns
  simp only [finalState, bind, EStateM.bind, returns]

theorem Raises.finalState_bind {x : EStateM ε σ α} {f : α → EStateM ε σ β} {s s' : σ} {e : ε}
    (raises : Raises x s e s') : finalState (x >>= f) s = s' := by
  rw [Raises] at raises
  simp only [finalState, bind, EStateM.bind, raises]

theorem finalState_modify_bind (f : σ → σ) (g : PUnit → EStateM ε σ β) (s : σ) :
    finalState (modify f >>= g) s = finalState (g ⟨⟩) (f s) := rfl

theorem finalState_discard (x : EStateM ε σ α) (s : σ) : finalState (discard x) s = finalState x s := by
  show finalState (EStateM.map (fun _ => PUnit.unit) x) s = _
  unfold finalState EStateM.map
  cases x s <;> rfl

/-- `rb_ensure`: the clean-up runs whether the body returns or raises. -/
def ensuring (body : EStateM ε σ α) (cleanup : EStateM ε σ PUnit) : EStateM ε σ α := fun s =>
  match body s with
  | .ok a s' =>
      match cleanup s' with
      | .ok _ s'' => .ok a s''
      | .error e s'' => .error e s''
  | .error e s' =>
      match cleanup s' with
      | .ok _ s'' => .error e s''
      | .error e' s'' => .error e' s''

theorem finalState_ensuring (body : EStateM ε σ α) (cleanup : EStateM ε σ PUnit) (s : σ) :
    finalState (ensuring body cleanup) s = finalState cleanup (finalState body s) := by
  unfold finalState ensuring
  cases body s with
  | ok a s' => dsimp only; cases cleanup s' <;> rfl
  | error e s' => dsimp only; cases cleanup s' <;> rfl

/-- A clean-up that raises nothing leaves the error to the body. -/
theorem raises_ensuring_modify_iff {body : EStateM ε σ α} {f : σ → σ} {s s' : σ} {e : ε} :
    Raises (ensuring body (modify f)) s e s' ↔ ∃ middle, Raises body s e middle ∧ s' = f middle := by
  unfold Raises ensuring
  cases run : body s with
  | ok a middle =>
    constructor
    · intro raises
      cases raises
    · rintro ⟨_, raises, _⟩
      cases raises
  | error raised middle =>
    constructor
    · intro raises
      cases raises
      exact ⟨middle, rfl, rfl⟩
    · rintro ⟨_, raises, rfl⟩
      cases raises
      rfl

/-- A clean-up that is told whether the body has raised. What it raises itself takes the place of
the body's error. -/
def ensuringWith (body : EStateM ε σ α) (cleanup : Bool → EStateM ε σ PUnit) : EStateM ε σ α := fun s =>
  match body s with
  | .ok a s' =>
      match cleanup false s' with
      | .ok _ s'' => .ok a s''
      | .error e s'' => .error e s''
  | .error e s' =>
      match cleanup true s' with
      | .ok _ s'' => .error e s''
      | .error e' s'' => .error e' s''

/-- Whether a computation returns. -/
def succeeds (x : EStateM ε σ α) (s : σ) : Bool :=
  match x s with
  | .ok _ _ => true
  | .error _ _ => false

theorem Raises.succeeds_eq {x : EStateM ε σ α} {s s' : σ} {e : ε} (raises : Raises x s e s') :
    succeeds x s = false := by
  unfold succeeds
  rw [Raises] at raises
  rw [raises]

theorem Returns.succeeds_eq {x : EStateM ε σ α} {s s' : σ} {a : α} (returns : Returns x s a s') :
    succeeds x s = true := by
  unfold succeeds
  rw [Returns] at returns
  rw [returns]

theorem finalState_ensuringWith (body : EStateM ε σ α) (cleanup : Bool → EStateM ε σ PUnit) (s : σ) :
    finalState (ensuringWith body cleanup) s =
      finalState (cleanup (!succeeds body s)) (finalState body s) := by
  cases run : body s with
  | ok a s' =>
    have raised : (!succeeds body s) = false := by simp [succeeds, run]
    have ended : finalState body s = s' := by simp [finalState, run]
    rw [raised, ended]
    simp only [finalState, ensuringWith, run]
    cases cleanup false s' <;> rfl
  | error e s' =>
    have raised : (!succeeds body s) = true := by simp [succeeds, run]
    have ended : finalState body s = s' := by simp [finalState, run]
    rw [raised, ended]
    simp only [finalState, ensuringWith, run]
    cases cleanup true s' <;> rfl

theorem returns_finalState {x : EStateM ε σ PUnit} {s : σ} (ok : succeeds x s = true) :
    Returns x s ⟨⟩ (finalState x s) := by
  unfold succeeds at ok
  unfold Returns finalState
  cases run : x s with
  | ok a s' => rfl
  | error e s' =>
    rw [run] at ok
    cases ok

theorem exists_returns {x : EStateM ε σ α} {s : σ} (ok : succeeds x s = true) :
    ∃ a, Returns x s a (finalState x s) := by
  unfold succeeds at ok
  unfold Returns finalState
  cases run : x s with
  | ok a s' => exact ⟨a, rfl⟩
  | error e s' =>
    rw [run] at ok
    cases ok

theorem exists_raises {x : EStateM ε σ α} {s : σ} (fails : succeeds x s = false) :
    ∃ e, Raises x s e (finalState x s) := by
  unfold succeeds at fails
  unfold Raises finalState
  cases run : x s with
  | ok a s' =>
    rw [run] at fails
    cases fails
  | error e s' => exact ⟨e, rfl⟩

/-- Whether it returns or raises, the computation leaves `P` of the state as it was. -/
def Keeps (P : σ → Prop) (x : EStateM ε σ α) : Prop := ∀ s, P s → P (finalState x s)

theorem Keeps.of_returns {P : σ → Prop} {x : EStateM ε σ α} {s s' : σ} {a : α} (keeps : Keeps P x)
    (returns : Returns x s a s') (before : P s) : P s' := by
  have after := keeps s before
  rwa [returns.finalState_eq] at after

theorem Keeps.of_raises {P : σ → Prop} {x : EStateM ε σ α} {s s' : σ} {e : ε} (keeps : Keeps P x)
    (raises : Raises x s e s') (before : P s) : P s' := by
  have after := keeps s before
  rwa [raises.finalState_eq] at after

theorem keeps_pure {P : σ → Prop} {a : α} : Keeps P (pure a : EStateM ε σ α) := fun _ before => before

theorem keeps_throw {P : σ → Prop} {e : ε} : Keeps P (throw e : EStateM ε σ α) :=
  fun _ before => before

theorem keeps_fromExcept {P : σ → Prop} {x : Except ε α} : Keeps P (fromExcept x : EStateM ε σ α) := by
  cases x with
  | ok a => exact keeps_pure
  | error e => exact keeps_throw

theorem keeps_get {P : σ → Prop} : Keeps P (get : EStateM ε σ σ) := fun _ before => before

theorem keeps_modify {P : σ → Prop} {f : σ → σ} (kept : ∀ s, P s → P (f s)) :
    Keeps P (modify f : EStateM ε σ PUnit) := kept

/-- What holds where the first computation ends is kept by the second. -/
theorem finalState_bind_of_keeps {P : σ → Prop} {x : EStateM ε σ α} {f : α → EStateM ε σ β} {s : σ}
    (first : P (finalState x s)) (rest : ∀ a, Keeps P (f a)) : P (finalState (x >>= f) s) := by
  simp only [finalState, bind, EStateM.bind] at first ⊢
  cases run : x s with
  | ok a s' =>
    rw [run] at first
    exact rest a s' first
  | error e s' =>
    rw [run] at first
    exact first

/-- What holds where the first computation raises, and after the rest where it returns. -/
theorem finalState_bind_of {P : σ → Prop} {x : EStateM ε σ α} {f : α → EStateM ε σ β} {s : σ}
    (raised : ∀ e s', Raises x s e s' → P s')
    (returned : ∀ a s', Returns x s a s' → P (finalState (f a) s')) : P (finalState (x >>= f) s) := by
  cases run : x s with
  | ok a s' =>
    have returns : Returns x s a s' := run
    rw [returns.finalState_bind]
    exact returned a s' returns
  | error e s' =>
    have raises : Raises x s e s' := run
    rw [raises.finalState_bind]
    exact raised e s' raises

theorem keeps_bind {P : σ → Prop} {x : EStateM ε σ α} {f : α → EStateM ε σ β} (first : Keeps P x)
    (rest : ∀ a, Keeps P (f a)) : Keeps P (x >>= f) :=
  fun s before => finalState_bind_of_keeps (first s before) rest

/-- Catching what a computation raises, and going on. -/
theorem tryCatch_returns {x : EStateM ε σ α} {handler : ε → EStateM ε σ α} {s s' : σ} {a : α}
    (ends : Returns x s a s' ∨ ∃ e stopped, Raises x s e stopped ∧ Returns (handler e) stopped a s') :
    Returns (tryCatch x handler) s a s' := by
  show EStateM.tryCatch x handler s = _
  unfold EStateM.tryCatch
  rcases ends with returns | ⟨e, stopped, raises, handles⟩
  · rw [Returns] at returns
    rw [returns]
  · rw [Raises] at raises
    rw [raises]
    exact handles

/-- What holds where the body ends is kept by the handlers. -/
theorem finalState_tryCatch_of_keeps {P : σ → Prop} {x : EStateM ε σ α} {handler : ε → EStateM ε σ α}
    {s : σ} (body : P (finalState x s)) (handles : ∀ e, Keeps P (handler e)) :
    P (finalState (tryCatch x handler) s) := by
  have unfolded : tryCatch x handler s = match x s with
      | .ok a s' => .ok a s'
      | .error e s' => handler e s' := by
    show EStateM.tryCatch x handler s = _
    unfold EStateM.tryCatch
    cases x s <;> rfl
  unfold finalState at body ⊢
  rw [unfolded]
  cases run : x s with
  | ok a s' =>
    rw [run] at body
    exact body
  | error e s' =>
    rw [run] at body
    exact handles e s' body

theorem keeps_tryCatch {P : σ → Prop} {x : EStateM ε σ α} {handler : ε → EStateM ε σ α}
    (body : Keeps P x) (handles : ∀ e, Keeps P (handler e)) : Keeps P (tryCatch x handler) :=
  fun s before => finalState_tryCatch_of_keeps (body s before) handles

theorem keeps_iff {P : σ → Prop} {x : EStateM ε σ α} :
    Keeps P x ↔ ∀ s, P s → (∀ a s', Returns x s a s' → P s') ∧ ∀ e s', Raises x s e s' → P s' := by
  refine forall_congr' fun s => forall_congr' fun before => ?_
  unfold finalState Returns Raises
  cases x s with
  | ok a s' => simp
  | error e s' => simp

theorem keeps_forM {P : σ → Prop} {f : α → EStateM ε σ PUnit} {xs : List α}
    (each : ∀ x ∈ xs, Keeps P (f x)) : Keeps P (xs.forM f) := by
  induction xs with
  | nil => exact keeps_pure
  | cons x xs ih =>
    have head := each x List.mem_cons_self
    have tail := ih fun y mem => each y (List.mem_cons_of_mem x mem)
    exact keeps_bind head fun _ => tail

/-- A `forM` raises at its first item that raises. -/
theorem forM_raises_iff {f : α → EStateM ε σ PUnit} {xs : List α} {s s' : σ} {e : ε} :
    Raises (xs.forM f) s e s' ↔ ∃ before x after middle, xs = before ++ x :: after ∧
      Returns (before.forM f) s ⟨⟩ middle ∧ Raises (f x) middle e s' := by
  induction xs generalizing s with
  | nil =>
    constructor
    · intro raises
      exact absurd raises raises_pure_iff
    · rintro ⟨before, x, after, middle, same, -, -⟩
      exact absurd same.symm (List.append_ne_nil_of_right_ne_nil before (List.cons_ne_nil x after))
  | cons first rest ih =>
    constructor
    · intro raises
      rcases bind_raises_iff.mp raises with early | ⟨value, s₁, returns, late⟩
      · exact ⟨[], first, rest, s, rfl, rfl, early⟩
      · obtain ⟨before, x, after, middle, same, passed, stops⟩ := ih.mp late
        exact ⟨first :: before, x, after, middle, congrArg (first :: ·) same,
          bind_returns_iff.mpr ⟨value, s₁, returns, passed⟩, stops⟩
    · rintro ⟨before, x, after, middle, same, passed, stops⟩
      cases before with
      | nil =>
        cases same
        rw [(returns_pure_iff.mp passed).2]
        exact bind_raises_iff.mpr (Or.inl stops)
      | cons head before =>
        cases same
        obtain ⟨value, s₁, returns, passed'⟩ := bind_returns_iff.mp passed
        have late := ih.mpr ⟨before, x, after, middle, rfl, passed', stops⟩
        exact bind_raises_iff.mpr (Or.inr ⟨value, s₁, returns, late⟩)

/-- The computation returns, and where it does `P` holds of the state as it did before. -/
def Maintains (P : σ → Prop) (x : EStateM ε σ PUnit) : Prop :=
  ∀ s, P s → ∃ s', Returns x s ⟨⟩ s' ∧ P s'

theorem maintains_bind {P : σ → Prop} {x : EStateM ε σ PUnit} {f : PUnit → EStateM ε σ PUnit}
    (first : Maintains P x) (rest : Maintains P (f ⟨⟩)) : Maintains P (x >>= f) := by
  intro s before
  obtain ⟨s', returns, middle⟩ := first s before
  obtain ⟨s'', returns', after⟩ := rest s' middle
  exact ⟨s'', bind_returns_iff.mpr ⟨_, _, returns, returns'⟩, after⟩

theorem maintains_forM {P : σ → Prop} {f : α → EStateM ε σ PUnit} {xs : List α}
    (each : ∀ x ∈ xs, Maintains P (f x)) : Maintains P (xs.forM f) := by
  induction xs with
  | nil => exact fun s before => ⟨s, rfl, before⟩
  | cons x xs ih =>
    have head := each x List.mem_cons_self
    have tail := ih fun y mem => each y (List.mem_cons_of_mem x mem)
    exact maintains_bind head tail

/-- Every error the computation raises is one of these. -/
def RaisesOnly (P : ε → Prop) (x : EStateM ε σ α) : Prop := ∀ s e s', Raises x s e s' → P e

theorem raisesOnly_pure {P : ε → Prop} {a : α} : RaisesOnly P (pure a : EStateM ε σ α) :=
  fun _ _ _ raises => absurd raises raises_pure_iff

theorem raisesOnly_get {P : ε → Prop} : RaisesOnly P (get : EStateM ε σ σ) :=
  fun _ _ _ raises => absurd raises raises_get_iff

theorem raisesOnly_modify {P : ε → Prop} {f : σ → σ} : RaisesOnly P (modify f : EStateM ε σ PUnit) :=
  fun _ _ _ raises => absurd raises raises_modify_iff

theorem raisesOnly_throw {P : ε → Prop} {e : ε} (raised : P e) :
    RaisesOnly P (throw e : EStateM ε σ α) := by
  intro s e' s' raises
  rw [(raises_throw_iff.mp raises).1]
  exact raised

theorem raisesOnly_bind {P : ε → Prop} {x : EStateM ε σ α} {f : α → EStateM ε σ β}
    (first : RaisesOnly P x) (rest : ∀ a, RaisesOnly P (f a)) : RaisesOnly P (x >>= f) := by
  intro s e s' raises
  rcases bind_raises_iff.mp raises with early | ⟨a, middle, _, late⟩
  · exact first s e s' early
  · exact rest a middle e s' late

theorem raisesOnly_forM {P : ε → Prop} {f : α → EStateM ε σ PUnit} {xs : List α}
    (each : ∀ x ∈ xs, RaisesOnly P (f x)) : RaisesOnly P (xs.forM f) := by
  induction xs with
  | nil => exact raisesOnly_pure
  | cons x xs ih =>
    have head := each x List.mem_cons_self
    have tail := ih fun y mem => each y (List.mem_cons_of_mem x mem)
    exact raisesOnly_bind head fun _ => tail

theorem raisesOnly_tryCatch {P : ε → Prop} {x : EStateM ε σ α} {handler : ε → EStateM ε σ α}
    (handles : ∀ e, RaisesOnly P (handler e)) : RaisesOnly P (tryCatch x handler) := by
  intro s e s' raises
  change EStateM.tryCatch x handler s = _ at raises
  unfold EStateM.tryCatch at raises
  cases run : x s with
  | ok a middle =>
    rw [run] at raises
    cases raises
  | error raised middle =>
    rw [run] at raises
    exact handles raised middle e s' raises

/-- A computation that raises nothing returns. -/
theorem succeeds_of_raisesOnly {x : EStateM ε σ α} (never : RaisesOnly (fun _ => False) x) (s : σ) :
    succeeds x s = true := by
  unfold succeeds
  cases run : x s with
  | ok a s' => rfl
  | error e s' => exact (never s e s' run).elim

theorem returns_of_raisesOnly {x : EStateM ε σ PUnit} (never : RaisesOnly (fun _ => False) x) (s : σ) :
    Returns x s ⟨⟩ (finalState x s) := returns_finalState (succeeds_of_raisesOnly never s)

/-- The error a computation raises, if it does. -/
def errorOf (x : EStateM ε σ α) (s : σ) : Option ε :=
  match x s with
  | .ok _ _ => none
  | .error e _ => some e

/-- How a computation ends. -/
def outcome (x : EStateM ε σ α) (s : σ) : Except ε α :=
  match x s with
  | .ok a _ => .ok a
  | .error e _ => .error e

theorem Raises.outcome_eq {x : EStateM ε σ α} {s s' : σ} {e : ε} (raises : Raises x s e s') :
    outcome x s = .error e := by
  rw [Raises] at raises
  rw [outcome, raises]

theorem raises_finalState {x : EStateM ε σ α} {s : σ} {e : ε} (raised : errorOf x s = some e) :
    Raises x s e (finalState x s) := by
  unfold errorOf at raised
  unfold Raises finalState
  cases run : x s with
  | ok a s' =>
    rw [run] at raised
    cases raised
  | error e' s' =>
    rw [run] at raised
    cases raised
    rfl

/-! ## A part of the state -/

variable {τ : Type}

/-- A computation on a part of the state. -/
def zoom (part : τ → σ) (write : τ → σ → τ) (x : EStateM ε σ α) : EStateM ε τ α := fun t =>
  match x (part t) with
  | .ok a s => .ok a (write t s)
  | .error e s => .error e (write t s)

theorem zoom_returns_iff {part : τ → σ} {write : τ → σ → τ} {x : EStateM ε σ α} {t t' : τ} {a : α} :
    Returns (zoom part write x) t a t' ↔ ∃ s, Returns x (part t) a s ∧ t' = write t s := by
  unfold Returns zoom
  cases x (part t) with
  | ok b s =>
    constructor
    · intro same
      cases same
      exact ⟨s, rfl, rfl⟩
    · intro same
      obtain ⟨s', ran, final⟩ := same
      cases ran
      rw [final]
  | error e s => exact ⟨fun same => (nomatch same), fun ⟨_, ran, _⟩ => (nomatch ran)⟩

theorem zoom_raises_iff {part : τ → σ} {write : τ → σ → τ} {x : EStateM ε σ α} {t t' : τ} {e : ε} :
    Raises (zoom part write x) t e t' ↔ ∃ s, Raises x (part t) e s ∧ t' = write t s := by
  unfold Raises zoom
  cases x (part t) with
  | ok a s => exact ⟨fun same => (nomatch same), fun ⟨_, ran, _⟩ => (nomatch ran)⟩
  | error e' s =>
    constructor
    · intro same
      cases same
      exact ⟨s, rfl, rfl⟩
    · intro same
      obtain ⟨s', ran, final⟩ := same
      cases ran
      rw [final]

theorem finalState_zoom (part : τ → σ) (write : τ → σ → τ) (x : EStateM ε σ α) (t : τ) :
    finalState (zoom part write x) t = write t (finalState x (part t)) := by
  unfold finalState zoom
  cases x (part t) with
  | ok a s => rfl
  | error e s => rfl

theorem succeeds_zoom (part : τ → σ) (write : τ → σ → τ) (x : EStateM ε σ α) (t : τ) :
    succeeds (zoom part write x) t = succeeds x (part t) := by
  unfold succeeds zoom
  cases x (part t) with
  | ok a s => rfl
  | error e s => rfl

theorem raisesOnly_zoom {P : ε → Prop} {part : τ → σ} {write : τ → σ → τ} {x : EStateM ε σ α}
    (only : RaisesOnly P x) : RaisesOnly P (zoom part write x) := by
  intro t e t' raises
  obtain ⟨s, inner, _⟩ := zoom_raises_iff.mp raises
  exact only (part t) e s inner

end Curb.Misc

import Curb.Misc.Fallible

/-!
# Runs from related states

A computation respects a relation of states if from related states it ends the same way, with the same
value or error, in related states. It may then read what related states agree on, and no more. Two
computations on states of different kinds can end alike in the same sense.
-/

namespace Curb.Misc

variable {ε σ τ α β : Type} {R R' : σ → σ → Prop}

/-- The same value or the same error, in related states. -/
def SameResult (R : σ → τ → Prop) : EStateM.Result ε σ α → EStateM.Result ε τ α → Prop
  | .ok a s, .ok b t => a = b ∧ R s t
  | .error e s, .error e' t => e = e' ∧ R s t
  | _, _ => False

def Respects (R : σ → σ → Prop) (x : EStateM ε σ α) : Prop := ∀ s t, R s t → SameResult R (x s) (x t)

theorem SameResult.mono {x y : EStateM.Result ε σ α} (same : SameResult R x y) (weaker : ∀ s t, R s t → R' s t) :
    SameResult R' x y := by
  cases x with
  | ok a s =>
    cases y with
    | ok b t => exact ⟨same.1, weaker s t same.2⟩
    | error e t => cases same
  | error e s =>
    cases y with
    | ok b t => cases same
    | error e' t => exact ⟨same.1, weaker s t same.2⟩

theorem SameResult.returns {x : EStateM ε σ α} {s t t' : σ} {a : α} (same : SameResult R (x s) (x t))
    (returns : Returns x t a t') : ∃ s', Returns x s a s' ∧ R s' t' := by
  rw [Returns] at returns
  rw [returns] at same
  cases run : x s with
  | ok b s' =>
    rw [run] at same
    obtain ⟨rfl, related⟩ := same
    exact ⟨s', run, related⟩
  | error e s' =>
    rw [run] at same
    cases same

/-- Sequences end alike where their first parts do, and their rests do from there. -/
theorem SameResult.bind {S : σ → τ → Prop} {x : EStateM ε σ α} {y : EStateM ε τ α} {f : α → EStateM ε σ β}
    {g : α → EStateM ε τ β} {s : σ} {t : τ} (first : SameResult S (x s) (y t))
    (rest : ∀ a s' t', Returns x s a s' → Returns y t a t' → S s' t' → SameResult S (f a s') (g a t')) :
    SameResult S ((x >>= f) s) ((y >>= g) t) := by
  simp only [Bind.bind, EStateM.bind]
  cases xs : x s with
  | ok a s' =>
    cases yt : y t with
    | ok b t' =>
      rw [xs, yt] at first
      obtain ⟨rfl, related⟩ := first
      exact rest a s' t' xs yt related
    | error e t' =>
      rw [xs, yt] at first
      cases first
  | error e s' =>
    cases yt : y t with
    | ok b t' =>
      rw [xs, yt] at first
      cases first
    | error e' t' =>
      rw [xs, yt] at first
      exact first

theorem respects_pure {a : α} : Respects R (pure a : EStateM ε σ α) := fun _ _ related => ⟨rfl, related⟩

theorem respects_throw {e : ε} : Respects R (throw e : EStateM ε σ α) := fun _ _ related => ⟨rfl, related⟩

theorem respects_modify {f : σ → σ} (kept : ∀ s t, R s t → R (f s) (f t)) :
    Respects R (modify f : EStateM ε σ PUnit) := fun s t related => ⟨rfl, kept s t related⟩

theorem respects_bind {x : EStateM ε σ α} {f : α → EStateM ε σ β} (first : Respects R x)
    (rest : ∀ a, Respects R (f a)) : Respects R (x >>= f) :=
  fun s t related => (first s t related).bind fun a s' t' _ _ related' => rest a s' t' related'

/-- What is made of the state may depend on what related states agree on. -/
theorem respects_get_bind {f : σ → EStateM ε σ β} (agree : ∀ s t, R s t → f s = f t)
    (rest : ∀ s, Respects R (f s)) : Respects R (get >>= f) := by
  intro s t related
  rw [get_bind_apply, get_bind_apply, agree s t related]
  exact rest t s t related

/-- The state a computation ends in, where it starts from a state that is related to itself. -/
theorem Respects.finalState {x : EStateM ε σ α} {s : σ} (respects : Respects R x) (here : R s s) :
    R (finalState x s) (finalState x s) := by
  have same := respects s s here
  unfold Misc.finalState
  cases run : x s with
  | ok a s' =>
    rw [run] at same
    exact same.2
  | error e s' =>
    rw [run] at same
    exact same.2

end Curb.Misc

import Mathlib.Order.Monotone.Basic
import Mathlib.Order.WellFounded
import Mathlib.Tactic.Common

/-!
# Runs of a partial step function

A step function says for each event what the next state is, or that the event cannot happen.
An invariant of the steps that meet a condition is one of all states such steps lead to.
-/

namespace Curb.Misc

variable {σ ε : Type} {step : σ → ε → Option σ} {ok : σ → ε → Prop} {start : σ}

/-- The states that steps under the condition lead to. -/
inductive Reached (step : σ → ε → Option σ) (ok : σ → ε → Prop) (start : σ) : σ → Prop where
  | start : Reached step ok start start
  | next {s s' : σ} (event : ε) (before : Reached step ok start s) (meets : ok s event)
      (steps : step s event = some s') : Reached step ok start s'

theorem Reached.invariant {P : σ → Prop} {s : σ} (reached : Reached step ok start s)
    (initially : P start)
    (keeps : ∀ s event s', P s → ok s event → step s event = some s' → P s') : P s := by
  induction reached with
  | start => exact initially
  | next event before meets steps ih => exact keeps _ event _ ih meets steps

/-- An invariant that is proved along with one that is known. -/
theorem Reached.invariant_of {P Q : σ → Prop} {s : σ} (reached : Reached step ok start s)
    (known : ∀ s, Reached step ok start s → Q s) (initially : P start)
    (keeps : ∀ s event s', Q s → P s → ok s event → step s event = some s' → P s') : P s := by
  induction reached with
  | start => exact initially
  | next event before meets steps ih => exact keeps _ event _ (known _ before) ih meets steps

/-- The state after these events. -/
def runSteps (step : σ → ε → Option σ) : σ → List ε → Option σ
  | s, [] => some s
  | s, event :: events => (step s event).bind fun s' => runSteps step s' events

/-- Every event of a run meets the condition in the state it finds. -/
def RunOk (step : σ → ε → Option σ) (ok : σ → ε → Prop) : σ → List ε → Prop
  | _, [] => True
  | s, event :: events => ok s event ∧ ∀ s' ∈ step s event, RunOk step ok s' events

theorem Reached.run {events : List ε} {s s' : σ} (reached : Reached step ok start s)
    (meets : RunOk step ok s events) (ran : runSteps step s events = some s') :
    Reached step ok start s' := by
  induction events generalizing s with
  | nil =>
    cases ran
    exact reached
  | cons event events ih =>
    obtain ⟨middle, steps, rest⟩ := Option.bind_eq_some_iff.mp ran
    exact ih (.next event reached meets.1 steps) (meets.2 middle steps) rest

/-- A condition that does not depend on the state. -/
theorem RunOk.of_forall {events : List ε} {s : σ} (meets : ∀ event ∈ events, ∀ s, ok s event) :
    RunOk step ok s events := by
  induction events generalizing s with
  | nil => trivial
  | cons event events ih =>
    have rest := fun other inside => meets other (List.mem_cons_of_mem event inside)
    exact ⟨meets event List.mem_cons_self s, fun s' _ => ih rest⟩

theorem RunOk.cons {event : ε} {events : List ε} {s s' : σ} (meets : ok s event) (steps : step s event = some s')
    (rest : RunOk step ok s' events) : RunOk step ok s (event :: events) := by
  refine ⟨meets, fun other steps' => ?_⟩
  obtain rfl := Option.some.inj (steps.symm.trans steps')
  exact rest

theorem RunOk.append {first rest : List ε} {s s' : σ} (meets : RunOk step ok s first)
    (ran : runSteps step s first = some s') (later : RunOk step ok s' rest) : RunOk step ok s (first ++ rest) := by
  induction first generalizing s with
  | nil =>
    obtain rfl := Option.some.inj ran
    exact later
  | cons event first ih =>
    obtain ⟨middle, steps, ran'⟩ := Option.bind_eq_some_iff.mp ran
    exact .cons meets.1 steps (ih (meets.2 middle steps) ran')

theorem RunOk.of_append {first rest : List ε} {s : σ} (meets : RunOk step ok s (first ++ rest)) :
    RunOk step ok s first := by
  induction first generalizing s with
  | nil => trivial
  | cons event first ih => exact ⟨meets.1, fun s' steps => ih (meets.2 s' steps)⟩

/-! ## What can still be reached -/

theorem runSteps_append (first rest : List ε) (s : σ) :
    runSteps step s (first ++ rest) = (runSteps step s first).bind fun s' => runSteps step s' rest := by
  induction first generalizing s with
  | nil => rfl
  | cons event first ih =>
    show (step s event).bind _ = ((step s event).bind _).bind _
    rw [Option.bind_assoc]
    exact congrArg _ (funext fun middle => ih middle)

/-- Some events lead to a state of this kind. -/
def CanReach (step : σ → ε → Option σ) (s : σ) (goal : σ → Prop) : Prop :=
  ∃ events s', runSteps step s events = some s' ∧ goal s'

variable {goal : σ → Prop} {s s' : σ}

theorem CanReach.now (here : goal s) : CanReach step s goal := ⟨[], s, rfl, here⟩

theorem CanReach.next (event : ε) (steps : step s event = some s')
    (later : CanReach step s' goal) : CanReach step s goal := by
  obtain ⟨events, s'', ran, there⟩ := later
  refine ⟨event :: events, s'', ?_, there⟩
  show (step s event).bind _ = _
  rw [steps]
  exact ran

theorem Reached.trans {s'' : σ} (first : Reached step ok s s') (second : Reached step ok s' s'') :
    Reached step ok s s'' := by
  induction second with
  | start => exact first
  | next event _ meets steps ih => exact .next event ih meets steps

/-- Infinitely many steps. -/
structure Forever (step : σ → ε → Option σ) (start : σ) where
  states : ℕ → σ
  events : ℕ → ε
  starts : states 0 = start
  steps : ∀ n, step (states n) (events n) = some (states (n + 1))

namespace Forever

theorem reached (run : Forever step start) (n : ℕ) : Reached step (fun _ _ => True) start (run.states n) := by
  induction n with
  | zero =>
    rw [run.starts]
    exact .start
  | succ n ih => exact .next (run.events n) ih trivial (run.steps n)

/-- A rank that no step raises. -/
theorem antitone {α : Type} [Preorder α] (rank : σ → α) (run : Forever step start)
    (each : ∀ n, rank (run.states (n + 1)) ≤ rank (run.states n)) {n m : ℕ} (le : n ≤ m) :
    rank (run.states m) ≤ rank (run.states n) := by
  have lowers : Antitone fun n => rank (run.states n) := antitone_nat_of_succ_le each
  exact lowers le

/-- A well-founded rank is not lowered again and again. -/
theorem exists_lowest {α : Type} [Preorder α] [WellFoundedLT α] (rank : σ → α) (run : Forever step start) :
    ∃ n, ∀ m, n < m → ¬rank (run.states m) < rank (run.states n) := by
  let order := InvImage.wf (fun n => rank (run.states n)) (wellFounded_lt (α := α))
  obtain ⟨n, -, lowest⟩ := order.has_min Set.univ ⟨0, trivial⟩
  exact ⟨n, fun m _ => lowest m trivial⟩

/-- A run that leaves a place has a last state there, and what the steps there keep holds in it. -/
theorem last_inside {P Inside : σ → Prop} (run : Forever step start) {n : ℕ} (here : Inside (run.states n))
    (holds : P (run.states n)) (keeps : ∀ s event s', Inside s → P s → step s event = some s' → P s')
    (leaves : ∃ m, n ≤ m ∧ ¬Inside (run.states m)) :
    ∃ k, n ≤ k ∧ Inside (run.states k) ∧ P (run.states k) ∧ ¬Inside (run.states (k + 1)) := by
  obtain ⟨m, le, outside⟩ := leaves
  obtain ⟨distance, rfl⟩ := Nat.exists_eq_add_of_le le
  clear le
  induction distance generalizing n with
  | zero => exact absurd here outside
  | succ distance ih =>
    by_cases stays : Inside (run.states (n + 1))
    · have next := keeps _ _ _ here holds (run.steps n)
      rw [Nat.add_comm distance, ← Nat.add_assoc] at outside
      obtain ⟨k, le, last⟩ := ih stays next outside
      exact ⟨k, (Nat.le_succ n).trans le, last⟩
    · exact ⟨n, le_rfl, here, holds, stays⟩

end Forever

end Curb.Misc

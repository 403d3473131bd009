import Mathlib.Logic.Basic
import Mathlib.Tactic.ByCases

/-!
# Runs of a state machine

A run folds a step function over a list of inputs.  The rules here turn what
one step does into what every run does: an invariant of every reachable state,
a property that one step keeps under an invariant, and the history of a value
that only certain steps may change.
-/

namespace Sencho.Verified.Runs

variable {σ α : Type}

/-- Fold a step function over the inputs of a run. -/
def run (step : σ → α → σ) (s : σ) (inputs : List α) : σ := inputs.foldl step s

variable {step : σ → α → σ}
variable {s : σ} {P : σ → Prop}

@[simp] theorem run_nil (s : σ) : run step s [] = s := rfl

@[simp] theorem run_cons (s : σ) (a : α) (as : List α) :
    run step s (a :: as) = run step (step s a) as := rfl

theorem run_append (s : σ) (as bs : List α) :
    run step s (as ++ bs) = run step (run step s as) bs := List.foldl_append

/-- The states of a run, from the first to the last. -/
def trace (step : σ → α → σ) : σ → List α → List σ
  | s, [] => [s]
  | s, a :: as => s :: trace step (step s a) as

theorem trace_concat (s : σ) (as : List α) (a : α) :
    trace step s (as ++ [a]) = trace step s as ++ [run step s (as ++ [a])] := by
  induction as generalizing s with
  | nil => rfl
  | cons b as ih => simp only [List.cons_append, trace, run_cons, ih]

/-- An invariant of every step is an invariant of every run. -/
theorem run_invariant (hstep : ∀ s a, P s → P (step s a)) (h : P s) (as : List α) :
    P (run step s as) := by
  induction as generalizing s with
  | nil => exact h
  | cons a as ih => exact ih (hstep s a h)

/-- A property that the steps of a run keep, under an invariant of all steps. -/
theorem run_stable {Q : σ → Prop} {R : α → Prop} (hP : ∀ s a, P s → P (step s a))
    (hQ : ∀ s a, P s → Q s → R a → Q (step s a)) (hp : P s) (hq : Q s) {as : List α}
    (has : ∀ a ∈ as, R a) : Q (run step s as) := by
  induction as generalizing s with
  | nil => exact hq
  | cons a as ih =>
    exact ih (hP s a hp) (hQ s a hp hq (has a (by simp))) fun b hb => has b (by simp [hb])

/-- Every step of a run meets a condition on its input and the state before it. -/
def Along (step : σ → α → σ) (C : σ → α → Prop) : σ → List α → Prop
  | _, [] => True
  | s, a :: as => C s a ∧ Along step C (step s a) as

instance decidableAlong {C : σ → α → Prop} [∀ s a, Decidable (C s a)] :
    ∀ s as, Decidable (Along step C s as)
  | _, [] => .isTrue trivial
  | s, a :: as => @instDecidableAnd _ _ _ (decidableAlong (step s a) as)

theorem Along.mono {C D : σ → α → Prop} {as : List α} (h : Along step C s as)
    (himp : ∀ s a, C s a → D s a) : Along step D s as := by
  induction as generalizing s with
  | nil => trivial
  | cons a as ih => exact ⟨himp s a h.1, ih h.2⟩

/-- A property kept by every step that meets a condition holds after every run
whose steps all meet it. -/
theorem run_along {C : σ → α → Prop} (hstep : ∀ s a, P s → C s a → P (step s a)) (h : P s)
    {as : List α} (has : Along step C s as) : P (run step s as) := by
  induction as generalizing s with
  | nil => exact h
  | cons a as ih => exact ih (hstep s a h has.1) has.2

theorem along_append {C : σ → α → Prop} {as bs : List α} :
    Along step C s (as ++ bs) ↔ Along step C s as ∧ Along step C (run step s as) bs := by
  induction as generalizing s with
  | nil => simp [Along]
  | cons a as ih => simp [Along, ih, and_assoc]

/-- If a property is lost in a run, some step lost it. -/
theorem run_first_change {Q : σ → Prop} (hq : Q s) {as : List α} (hlost : ¬ Q (run step s as)) :
    ∃ pre a post, as = pre ++ a :: post ∧ Q (run step s pre) ∧
      ¬ Q (run step s (pre ++ [a])) := by
  induction as generalizing s with
  | nil => exact absurd hq hlost
  | cons a as ih =>
    by_cases hnext : Q (step s a)
    · obtain ⟨pre, b, post, rfl, hpre, hb⟩ := ih hnext hlost
      exact ⟨a :: pre, b, post, rfl, hpre, hb⟩
    · exact ⟨[], a, as, rfl, hq, hnext⟩

end Sencho.Verified.Runs

import Mathlib.Data.List.Induction
import Sencho.Verified.Runs

/-!
# Runs that are good throughout

A run is good in all of its states exactly when it takes no step of a certain kind, if an invariant
holds that every other step keeps, that makes a state good, and under which a step of that kind
leaves a state that is not good.
-/

namespace Sencho.Verified.Runs

variable {σ α : Type} {step : σ → α → σ} {Good Inv : σ → Prop} {Bad : σ → α → Prop} {s₀ : σ}

theorem run_concat (s : σ) (as : List α) (a : α) :
    run step s (as ++ [a]) = step (run step s as) a := by
  rw [run_append]
  rfl

theorem append_singleton_append (pre post : List α) (a : α) :
    pre ++ [a] ++ post = pre ++ a :: post := by
  rw [List.append_assoc]
  rfl

/-- A run none of whose steps is bad keeps the invariant. -/
theorem inv_of_clean (hstart : Inv s₀) (hstep : ∀ s a, Inv s → ¬ Bad s a → Inv (step s a))
    {as : List α} (hclean : ∀ pre a post, as = pre ++ a :: post → ¬ Bad (run step s₀ pre) a) :
    ∀ pre post, as = pre ++ post → Inv (run step s₀ pre) := by
  intro pre
  induction pre using List.reverseRecOn with
  | nil => exact fun _ _ => hstart
  | append_singleton pre a ih =>
    intro post heq
    rw [append_singleton_append] at heq
    rw [run_concat]
    exact hstep _ a (ih (a :: post) heq) (hclean pre a post heq)

/-- A run whose steps are checked one by one. -/
theorem clean_of_along {as : List α} (h : Along step (fun s a => ¬ Bad s a) s₀ as) :
    ∀ pre a post, as = pre ++ a :: post → ¬ Bad (run step s₀ pre) a := by
  intro pre a post heq
  rw [heq, along_append] at h
  exact h.2.1

/-- The states of a run are good exactly when none of its steps is bad. -/
theorem good_iff (hstart : Inv s₀) (hgood : ∀ s, Inv s → Good s)
    (hstep : ∀ s a, Inv s → ¬ Bad s a → Inv (step s a))
    (hbad : ∀ s a, Inv s → Bad s a → ¬ Good (step s a)) (as : List α) :
    (∀ pre post, as = pre ++ post → Good (run step s₀ pre)) ↔
      ∀ pre a post, as = pre ++ a :: post → ¬ Bad (run step s₀ pre) a := by
  constructor
  · intro hall
    have hclean : ∀ pre a post, as = pre ++ a :: post → Inv (run step s₀ pre) →
        ¬ Bad (run step s₀ pre) a := by
      intro pre a post heq hinv hb
      apply hbad _ a hinv hb
      have hafter := hall (pre ++ [a]) post (by rw [append_singleton_append]; exact heq)
      rw [run_concat] at hafter
      exact hafter
    have hinv : ∀ pre post, as = pre ++ post → Inv (run step s₀ pre) := by
      intro pre
      induction pre using List.reverseRecOn with
      | nil => exact fun _ _ => hstart
      | append_singleton pre a ih =>
        intro post heq
        rw [append_singleton_append] at heq
        have hbefore := ih (a :: post) heq
        rw [run_concat]
        exact hstep _ a hbefore (hclean pre a post heq hbefore)
    exact fun pre a post heq => hclean pre a post heq (hinv pre (a :: post) heq)
  · intro hclean pre post heq
    exact hgood _ (inv_of_clean hstart hstep hclean pre post heq)

end Sencho.Verified.Runs

import Mathlib.Logic.Function.Basic
import Mathlib.Logic.Relation

/-!
# Chains of succession

Every element names at most one predecessor.  The links form chains without
repetition when no predecessor is named twice and no element is reached from
itself.  A new element that nothing names, naming one that nothing names yet,
keeps them so.
-/

namespace Sencho.Verified

variable {κ : Type}

/-- An element and the predecessor it names. -/
def Follows (prev : κ → Option κ) (a b : κ) : Prop := prev a = some b

/-- Chains without repetition. -/
structure Chain (prev : κ → Option κ) : Prop where
  injective : ∀ a b p, prev a = some p → prev b = some p → a = b
  acyclic : ∀ a, ¬ Relation.TransGen (Follows prev) a a

namespace Chain

variable {prev prev' : κ → Option κ}

theorem empty : Chain fun _ : κ => none where
  injective a b p ha := by cases ha
  acyclic a h := by
    obtain ⟨b, hfirst, -⟩ := Relation.TransGen.head'_iff.mp h
    cases hfirst

/-- Fewer links. -/
theorem mono (h : Chain prev) (hsub : ∀ a p, prev' a = some p → prev a = some p) :
    Chain prev' where
  injective a b p ha hb := h.injective a b p (hsub a p ha) (hsub b p hb)
  acyclic a hcycle := h.acyclic a
    (Relation.TransGen.mono (fun b p hlink => hsub b p hlink) _ _ hcycle)

/-- A path that does not start at the new element is a path among the old ones. -/
theorem transGen_old {new : κ} (hold : ∀ a, a ≠ new → prev' a = prev a)
    (hunnamed : ∀ a, prev a ≠ some new) {a b : κ} (ha : a ≠ new)
    (h : Relation.TransGen (Follows prev') a b) :
    Relation.TransGen (Follows prev) a b ∧ b ≠ new := by
  induction h with
  | single h =>
    rw [Follows, hold a ha] at h
    exact ⟨.single h, fun hb => hunnamed a (hb ▸ h)⟩
  | tail _ h ih =>
    obtain ⟨hpath, hmiddle⟩ := ih
    rw [Follows, hold _ hmiddle] at h
    exact ⟨hpath.tail h, fun hb => hunnamed _ (hb ▸ h)⟩

/-- A new element that nothing names, naming one that nothing names yet. -/
theorem extend (h : Chain prev) {new : κ} (hold : ∀ a, a ≠ new → prev' a = prev a)
    (hunnamed : ∀ a, prev a ≠ some new)
    (hfree : ∀ p, prev' new = some p → p ≠ new ∧ ∀ a, prev a ≠ some p) : Chain prev' where
  injective a b p ha hb := by
    by_cases hna : a = new
    · by_cases hnb : b = new
      · exact hna.trans hnb.symm
      · subst hna
        rw [hold b hnb] at hb
        exact absurd hb ((hfree p ha).2 b)
    · rw [hold a hna] at ha
      by_cases hnb : b = new
      · subst hnb
        exact absurd ha ((hfree p hb).2 a)
      · rw [hold b hnb] at hb
        exact h.injective a b p ha hb
  acyclic a hcycle := by
    by_cases hna : a = new
    · subst hna
      obtain ⟨b, hfirst, hrest⟩ := Relation.TransGen.head'_iff.mp hcycle
      obtain ⟨hne, -⟩ := hfree b hfirst
      rcases Relation.reflTransGen_iff_eq_or_transGen.mp hrest with heq | hpath
      · exact hne heq.symm
      · exact (transGen_old hold hunnamed hne hpath).2 rfl
    · exact h.acyclic a (transGen_old hold hunnamed hna hcycle).1

end Chain

end Sencho.Verified

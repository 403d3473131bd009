import Mathlib.Data.List.Count
import Mathlib.Data.List.Nodup

/-!
# Counting the members that meet a condition

How a count moves when one member of a list without repetition stops meeting the
condition and every other one is judged as before.
-/

namespace Sencho.Verified

variable {α : Type} {p q : α → Bool}

theorem countP_lose {l : List α} (hl : l.Nodup) {x : α} (hx : x ∈ l) (hp : p x = true)
    (hq : q x = false) (hrest : ∀ y ∈ l, y ≠ x → p y = q y) : l.countP p = l.countP q + 1 := by
  induction l with
  | nil => cases hx
  | cons a l ih =>
    obtain ⟨ha, hl⟩ := List.nodup_cons.mp hl
    rw [List.countP_cons, List.countP_cons]
    by_cases hax : a = x
    · subst hax
      have hsame : l.countP p = l.countP q :=
        List.countP_congr fun y hy => by
          rw [hrest y (List.mem_cons_of_mem _ hy) fun h => ha (h ▸ hy)]
      simp [hp, hq, hsame]
    · have hmem : x ∈ l := (List.mem_cons.mp hx).resolve_left fun h => hax h.symm
      have hrec := ih hl hmem fun y hy => hrest y (List.mem_cons_of_mem _ hy)
      rw [hrec, hrest a List.mem_cons_self hax]
      omega

end Sencho.Verified

import Mathlib.Data.List.Nodup

/-!
# Lookups by key

A search by key finds an element that is there and has the key, and where no key stands twice it
finds every one.
-/

namespace Sencho.Verified

open List

variable {α κ : Type} [DecidableEq κ] {key : α → κ} {l : List α} {k : κ} {a : α}

theorem mem_key_of_find? (h : l.find? (fun b => key b = k) = some a) : a ∈ l ∧ key a = k :=
  ⟨mem_of_find?_eq_some h, by simpa using List.find?_some h⟩

theorem find?_key_iff (hnodup : (l.map key).Nodup) :
    l.find? (fun b => key b = k) = some a ↔ a ∈ l ∧ key a = k := by
  constructor
  · exact mem_key_of_find?
  · rintro ⟨ha, rfl⟩
    cases h : l.find? fun b => key b = key a with
    | none =>
      have hnone := List.find?_eq_none.mp h a ha
      simp at hnone
    | some b =>
      obtain ⟨hb, hkey⟩ := mem_key_of_find? h
      rw [inj_on_of_nodup_map hnodup hb ha hkey]

end Sencho.Verified

import Sencho.Cache.Service
import Mathlib.Data.Option.Basic

/-!
# The cap of the store

The store keeps to its cap, and a write that makes room gives up nothing that is alive.
-/

namespace Sencho.Cache

open Verified Runs World

variable {V : Type} {w : World V}

theorem World.set_bounded (h : w.store.rows.length ≤ maxEntries) (key : Text) (value : V)
    (ttlMs now : Int) (started : Option Nat) :
    (w.set key value ttlMs now started).store.rows.length ≤ maxEntries := by
  have hput : ∀ (t : Table (Entry V) Text Entry.key) (e : Entry V),
      (t.put e).rows.length ≤ t.rows.length + 1 ∧
        ((t.find? e.key).isSome = true → (t.put e).rows.length ≤ t.rows.length) := by
    intro t e
    refine ⟨Nat.succ_le_succ (List.length_filter_le ..), fun hfound => ?_⟩
    obtain ⟨e', he'⟩ := Option.isSome_iff_exists.mp hfound
    obtain ⟨hmem, hkey⟩ := (t.find?_eq_some_iff _ _).mp he'
    exact List.length_filter_lt_length_iff_exists.mpr ⟨e', hmem, by simp [hkey]⟩
  have hpurge : (w.purgeExpired now).store.rows.length ≤ w.store.rows.length :=
    List.length_filter_le ..
  unfold set
  split
  · split
    · exact hpurge.trans h
    · rename_i hfree
      have hlt := Nat.lt_of_not_le (of_decide_eq_false (Bool.eq_false_iff.mpr hfree))
      exact (hput _ _).1.trans hlt
  · rename_i hroom
    rw [Bool.and_eq_true, not_and, Option.isNone_iff_eq_none, ← ne_eq, ← Option.isSome_iff_ne_none]
      at hroom
    by_cases hfull : w.isFull = true
    · exact ((hput _ _).2 (hroom hfull)).trans h
    · have hlt := Nat.lt_of_not_le (of_decide_eq_false (Bool.eq_false_iff.mpr hfull))
      exact (hput _ _).1.trans hlt

theorem World.live_set {key k : Text} (hk : k ≠ key) (value : V) (ttlMs now : Int)
    (started : Option Nat) {later : Int} (hlater : now ≤ later) :
    (w.set key value ttlMs now started).live k later = w.live k later := by
  have hput : ∀ w : World V,
      (w.put key value (now + ttlMs) started).live k later = w.live k later := by
    intro w
    simp [live, put, hk]
  have hpurge : (w.purgeExpired now).live k later = w.live k later := by
    simp only [live, purgeExpired, Table.find?_delete, Option.filter_filter]
    congr 1
    funext e
    by_cases hlive : later < e.expiresAt
    · simp [hlive, hlater.trans_lt hlive]
    · simp [hlive]
  unfold set
  split
  · split
    · exact hpurge
    · rw [hput, hpurge]
  · exact hput w

theorem World.store_join (w : World V) (fetch : Nat) (key : Text) :
    (w.join fetch key).store = w.store := by
  unfold join
  repeat' split
  all_goals rfl

theorem bounded_step (h : w.store.rows.length ≤ maxEntries) (c : Call V) :
    (step w c).store.rows.length ≤ maxEntries := by
  cases c with
  | set key value ttlMs now => exact set_bounded h key value ttlMs now none
  | resume f result now =>
    show (w.resume f result now).store.rows.length ≤ maxEntries
    unfold resume resolve reject commit
    repeat' split
    all_goals first | exact h | exact set_bounded h ..
  | getOrFetch key ttlMs now throws =>
    show (w.getOrFetch key ttlMs now throws).store.rows.length ≤ maxEntries
    unfold getOrFetch
    split
    · exact h
    · split <;> simp only [store_join]
      · exact h
      · split <;> exact h
  | get key now | peek key now =>
    show (w.get key now).store.rows.length ≤ maxEntries
    unfold World.get
    split <;> exact h
  | invalidate | invalidateNamespace => exact (List.length_filter_le ..).trans h
  | flush => exact Nat.zero_le _

/-- The store never holds more than its cap, and a write that makes room gives up no entry of
another key that is alive, at any later time. -/
theorem store_bounded (calls : List (Call V)) :
    (run step empty calls).store.rows.length ≤ maxEntries ∧
      ∀ key value ttlMs now started k later, k ≠ key → now ≤ later →
        ((run step empty calls).set key value ttlMs now started).live k later =
          (run step empty calls).live k later :=
  ⟨run_invariant (P := fun w : World V => w.store.rows.length ≤ maxEntries)
    (fun _ c h => bounded_step h c) (Nat.zero_le _) calls,
    fun _ value ttlMs now started _ _ hk hlater => live_set hk value ttlMs now started hlater⟩

end Sencho.Cache

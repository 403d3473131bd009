import Sencho.Verified.Lookup

/-!
# Keyed tables

A table of a relational store is a list of rows in which no two rows share a
primary key.  The invariant is a field, so every statement below keeps it.
The operations are the statements a store issues: a read by key, a read by
condition, an insert that a duplicate key refuses, an insert that replaces on a
duplicate key, an update and a delete by condition.
-/

namespace Sencho.Verified

open List

/-- Rows without a repeated key. -/
structure Table (ρ κ : Type) (key : ρ → κ) where
  rows : List ρ
  nodup : (rows.map key).Nodup

namespace Table

variable {ρ κ : Type} [DecidableEq κ] {key : ρ → κ}
variable (t : Table ρ κ key) (p : ρ → Bool)

def empty : Table ρ κ key := ⟨[], nodup_nil⟩

/-- The row with a key. -/
def find? (t : Table ρ κ key) (k : κ) : Option ρ :=
  t.rows.find? fun r => key r = k

/-- Whether some row meets a condition. -/
def any (t : Table ρ κ key) (p : ρ → Bool) : Bool := t.rows.any p

/-- Insert a row.  A key that is taken refuses it. -/
def insert? (t : Table ρ κ key) (r : ρ) : Option (Table ρ κ key) :=
  if h : key r ∈ t.rows.map key then none
  else some ⟨r :: t.rows, by simpa using ⟨by simpa using h, t.nodup⟩⟩

/-- Change every row that meets a condition, without touching its key. -/
def update (t : Table ρ κ key) (p : ρ → Bool) (f : ρ → ρ)
    (hf : ∀ r, key (f r) = key r) : Table ρ κ key where
  rows := t.rows.map fun r => if p r then f r else r
  nodup := by
    have hkeys : key ∘ (fun r => if p r then f r else r) = key := by
      funext r
      by_cases hp : p r <;> simp [hp, hf]
    rw [map_map, hkeys]
    exact t.nodup

/-- Insert a row, or replace the row that holds its key. -/
def put (t : Table ρ κ key) (r : ρ) : Table ρ κ key where
  rows := r :: t.rows.filter fun r' => ¬ key r' = key r
  nodup := by
    have hrest : ((t.rows.filter fun r' => ¬ key r' = key r).map key).Nodup :=
      (List.Sublist.map key filter_sublist).nodup t.nodup
    have hnew : key r ∉ (t.rows.filter fun r' => ¬ key r' = key r).map key := by
      simp
    exact nodup_cons.mpr ⟨hnew, hrest⟩

/-- Delete every row that meets a condition. -/
def delete (t : Table ρ κ key) (p : ρ → Bool) : Table ρ κ key where
  rows := t.rows.filter fun r => !p r
  nodup := (List.Sublist.map key filter_sublist).nodup t.nodup

theorem find?_eq_some_iff (k : κ) (r : ρ) : t.find? k = some r ↔ r ∈ t.rows ∧ key r = k :=
  find?_key_iff t.nodup

theorem key_of_find? {t : Table ρ κ key} {k : κ} {r : ρ} (h : t.find? k = some r) : key r = k :=
  ((t.find?_eq_some_iff k r).mp h).2

theorem find?_eq_none_iff (k : κ) : t.find? k = none ↔ k ∉ t.rows.map key := by
  simp [find?, find?_eq_none]

@[simp] theorem find?_empty (k : κ) : (empty : Table ρ κ key).find? k = none := rfl

theorem any_iff : t.any p = true ↔ ∃ k r, t.find? k = some r ∧ p r = true := by
  simp only [any, any_eq_true]
  constructor
  · rintro ⟨r, hr, hp⟩
    exact ⟨key r, r, (t.find?_eq_some_iff _ _).mpr ⟨hr, rfl⟩, hp⟩
  · rintro ⟨k, r, hr, hp⟩
    exact ⟨r, ((t.find?_eq_some_iff _ _).mp hr).1, hp⟩

theorem insert?_eq_some {t t' : Table ρ κ key} {r : ρ} (h : t.insert? r = some t') :
    t.find? (key r) = none ∧ ∀ k, t'.find? k = if k = key r then some r else t.find? k := by
  unfold insert? at h
  split at h
  · simp at h
  · rename_i hnew
    cases h
    refine ⟨(find?_eq_none_iff t _).mpr hnew, fun k => ?_⟩
    by_cases hk : k = key r
    · simp [find?, hk]
    · simp [find?, hk, Ne.symm hk]

@[simp] theorem find?_update (f : ρ → ρ) (hf : ∀ r, key (f r) = key r) (k : κ) :
    (t.update p f hf).find? k = (t.find? k).map fun r => if p r then f r else r := by
  have hkey : ∀ r, key (if p r then f r else r) = key r := by
    intro r
    by_cases hp : p r <;> simp [hp, hf]
  simp only [find?, update, find?_map, Function.comp_def, hkey]

@[simp] theorem find?_put (r : ρ) (k : κ) :
    (t.put r).find? k = if k = key r then some r else t.find? k := by
  by_cases hk : k = key r
  · simp [find?, put, hk]
  · have hrest : ∀ r', (!decide (key r' = key r) && decide (key r' = k)) = decide (key r' = k) := by
      intro r'
      by_cases hr : key r' = k
      · simp [hr, hk]
      · simp [hr]
    simp [find?, put, hk, Ne.symm hk, find?_filter, hrest]

@[simp] theorem find?_delete (k : κ) : (t.delete p).find? k = (t.find? k).filter fun r => !p r := by
  cases h : t.find? k with
  | none =>
    rw [find?_eq_none_iff] at h
    rw [Option.filter_none, find?_eq_none_iff]
    intro hmem
    obtain ⟨r, hr, hk⟩ := mem_map.mp hmem
    exact h (mem_map.mpr ⟨r, (mem_filter.mp hr).1, hk⟩)
  | some r =>
    obtain ⟨hr, hk⟩ := (t.find?_eq_some_iff k r).mp h
    by_cases hp : p r
    · simp only [Option.filter_some, hp, Bool.not_true, Bool.false_eq_true, if_false]
      rw [find?_eq_none_iff]
      intro hmem
      obtain ⟨r', hr', hk'⟩ := mem_map.mp hmem
      obtain ⟨hmem', hp'⟩ := mem_filter.mp hr'
      have heq := inj_on_of_nodup_map t.nodup hmem' hr (hk'.trans hk.symm)
      simp [heq, hp] at hp'
    · simp only [Option.filter_some, hp, Bool.not_false, if_true]
      rw [find?_eq_some_iff]
      exact ⟨mem_filter.mpr ⟨hr, by simp [hp]⟩, hk⟩

end Table

end Sencho.Verified

import Mathlib.Data.List.Sort

/-!
# Walking a table by keys

Rows are read in descending order of a key, a window at a time, and a cursor names the last row
that was looked at.  The rules here say what is left of a sorted list past one of its rows, that a
condition may be applied before or after sorting, and that a walk which moves on with every page
collects what the pages keep.
-/

namespace Sencho.Verified.Keyset

open List

section Distinct

variable {ρ κ : Type} {key : ρ → κ}

/-- No two rows have one key. -/
def Distinct (key : ρ → κ) (rows : List ρ) : Prop := (rows.map key).Nodup

theorem Distinct.eq {rows : List ρ} (h : Distinct key rows) {a b : ρ} (ha : a ∈ rows)
    (hb : b ∈ rows) (hkey : key a = key b) : a = b :=
  inj_on_of_nodup_map h ha hb hkey

theorem Distinct.filter {rows : List ρ} (h : Distinct key rows) (p : ρ → Bool) :
    Distinct key (rows.filter p) :=
  (List.Sublist.map key filter_sublist).nodup h

end Distinct

variable {ρ κ : Type} [LinearOrder κ] {key : ρ → κ}

/-- The rows in descending order of their keys. -/
def sorted (key : ρ → κ) (rows : List ρ) : List ρ :=
  rows.mergeSort fun a b => key b ≤ key a

theorem sorted_perm (rows : List ρ) : (sorted key rows).Perm rows := mergeSort_perm rows _

theorem pairwise_sorted (rows : List ρ) : (sorted key rows).Pairwise fun a b => key b ≤ key a := by
  have htrans : ∀ a b c : ρ, decide (key b ≤ key a) = true → decide (key c ≤ key b) = true →
      decide (key c ≤ key a) = true := by
    intro a b c hab hbc
    simp only [decide_eq_true_eq] at hab hbc ⊢
    exact le_trans hbc hab
  have htotal : ∀ a b : ρ, (decide (key b ≤ key a) || decide (key a ≤ key b)) = true := by
    intro a b
    simpa using le_total (key b) (key a)
  have h := pairwise_mergeSort htrans htotal rows
  unfold sorted
  simpa using h

/-- Rows of distinct keys are sorted strictly. -/
theorem Distinct.sorted_lt {rows : List ρ} (h : Distinct key rows) :
    (sorted key rows).Pairwise fun a b => key b < key a := by
  have hnodup : ((sorted key rows).map key).Nodup :=
    (List.Perm.nodup_iff ((sorted_perm rows).map key)).mpr h
  have hne : (sorted key rows).Pairwise fun a b => key a ≠ key b := pairwise_map.mp hnodup
  apply List.Pairwise.imp₂ (R := fun a b => key b ≤ key a) (S := fun a b => key a ≠ key b)
  · intro a b hle hdiff
    exact lt_of_le_of_ne hle (Ne.symm hdiff)
  · exact pairwise_sorted rows
  · exact hne

/-- A condition may be applied before or after sorting. -/
theorem sorted_filter {rows : List ρ} (h : Distinct key rows) (p : ρ → Bool) :
    sorted key (rows.filter p) = (sorted key rows).filter p := by
  have hperm : (sorted key (rows.filter p)).Perm ((sorted key rows).filter p) :=
    (sorted_perm _).trans ((sorted_perm rows).filter p).symm
  apply List.Perm.eq_of_pairwise _ (pairwise_sorted _)
    ((pairwise_sorted rows).sublist filter_sublist) hperm
  intro a b ha hb hab hba
  have ha' : a ∈ rows.filter p := (sorted_perm _).mem_iff.mp ha
  have hb' : b ∈ rows := (sorted_perm rows).mem_iff.mp (mem_filter.mp hb).1
  exact h.eq (mem_filter.mp ha').1 hb' (le_antisymm hba hab)

/-- What is left of sorted rows past one of them. -/
theorem filter_past {before after : List ρ} {r : ρ}
    (h : (before ++ r :: after).Pairwise fun a b => key b < key a) :
    (before ++ r :: after).filter (fun x => key x < key r) = after := by
  rcases pairwise_append.mp h with ⟨_, htail, hcross⟩
  have hbefore : before.filter (fun x => key x < key r) = [] := by
    apply filter_eq_nil_iff.mpr
    intro x hx
    have hlt := hcross x hx r mem_cons_self
    simpa using le_of_lt hlt
  have hafter : after.filter (fun x => key x < key r) = after := by
    apply filter_eq_self.mpr
    intro x hx
    simpa using (pairwise_cons.mp htail).1 x hx
  rw [filter_append, hbefore, filter_cons_of_neg (by simp), hafter, nil_append]

variable {γ : Type}

/-- Follow the cursor of every page until there is none.  A page may be refused. -/
def walk (page : γ → Option (List ρ × Option γ)) : Nat → γ → Option (List ρ)
  | 0, _ => none
  | fuel + 1, c =>
    match page c with
    | none => none
    | some (items, none) => some items
    | some (items, some next) => (walk page fuel next).map fun more => items ++ more

/-- A page keeps what it has looked at, and its cursor leaves the rest. -/
structure Advances (keep : ρ → Bool) (left : γ → List ρ) (good : γ → Prop) (c : γ)
    (items : List ρ) (next : Option γ) : Prop where
  split : ∃ seen rest, left c = seen ++ rest ∧ items = seen.filter keep ∧
    (next = none → rest = []) ∧
    (∀ c', next = some c' → good c' ∧ left c' = rest ∧ seen ≠ [])

/-- A walk in which every page moves on collects what is kept of all that was left. -/
theorem walk_eq {page : γ → Option (List ρ × Option γ)} {keep : ρ → Bool} {left : γ → List ρ}
    {good : γ → Prop} (hpage : ∀ c, good c → ∃ items next, page c = some (items, next) ∧
      Advances keep left good c items next)
    {fuel : Nat} {c : γ} (hgood : good c) (hfuel : (left c).length < fuel) :
    walk page fuel c = some ((left c).filter keep) := by
  induction fuel generalizing c with
  | zero => omega
  | succ fuel ih =>
    rcases hpage c hgood with ⟨items, next, heq, hadvances⟩
    rcases hadvances.split with ⟨seen, rest, hleft, hitems, hlast, hnext⟩
    unfold walk
    rw [heq, hleft, filter_append, ← hitems]
    cases next with
    | none =>
      rw [hlast rfl]
      simp
    | some c' =>
      rcases hnext c' rfl with ⟨hgood', hleft', hseen⟩
      have hpos := length_pos_of_ne_nil hseen
      have hshorter : (left c').length < fuel := by
        rw [hleft, length_append] at hfuel
        rw [hleft']
        omega
      have hrest := ih hgood' hshorter
      dsimp only
      rw [hrest, hleft']
      rfl

end Sencho.Verified.Keyset

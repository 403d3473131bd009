import Mathlib.Data.List.Nodup
import Mathlib.Data.List.Perm.Basic
import Sencho.Verified.CodeUnits

/-!
# Paths of a bulk operation

A bulk delete or move acts on a selection of paths from which repeats and whatever lies below
another selected path are taken out.  The letter case of a root decides what is the same path.
-/

namespace Sencho.Files

open Verified CodeUnits List

/-- The separator. -/
def slash : UInt16 := unit '/'

/-- The keys of the folders above a path, from the top. -/
def ancestors (k : Text) : List Text :=
  (range' 1 ((k.splitOn slash).length - 1)).map fun i =>
    intercalate [slash] ((k.splitOn slash).take i)

/-- Keep the first path of each key. -/
def dedupe (key : Text → Text) : List Text → List Text → List Text
  | _, [] => []
  | seen, p :: paths =>
    if key p ∈ seen then dedupe key seen paths else p :: dedupe key (key p :: seen) paths

/-- What a root takes for the same path. -/
def pathKey (toLowerCase : Text → Text) (caseSensitive : Bool) (p : Text) : Text :=
  if caseSensitive then p else toLowerCase p

/-- Keep the paths with no selected path above. -/
def dropCovered (key : Text → Text) (unique : List Text) : List Text :=
  unique.filter fun p => (ancestors (key p)).all fun k => k ∉ unique.map key

/-- Duplicates and covered paths dropped. -/
def normalizeBulkPaths (toLowerCase : Text → Text) (paths : List Text) (caseSensitive : Bool) :
    List Text :=
  let key := pathKey toLowerCase caseSensitive
  dropCovered key (dedupe key [] paths)

/-- `p` lies strictly inside `q`. -/
def Below (p q : Text) : Prop := q ++ [slash] <+: p

/-- `p` is `q` or lies inside it. -/
def Within (p q : Text) : Prop := p = q ∨ Below p q

theorem intercalate_append {as bs : List Text} (ha : as ≠ []) (hb : bs ≠ []) :
    intercalate [slash] (as ++ bs) =
      intercalate [slash] as ++ [slash] ++ intercalate [slash] bs := by
  induction as with
  | nil => exact absurd rfl ha
  | cons a as ih =>
    by_cases has : as = []
    · rw [has, intercalate_singleton]
      exact intercalate_cons_of_ne_nil hb
    · rw [cons_append, intercalate_cons_of_ne_nil (append_ne_nil_of_left_ne_nil has bs), ih has,
        intercalate_cons_of_ne_nil has]
      simp only [append_assoc]

/-- The ancestors are the keys above. -/
theorem mem_ancestors_iff (p k : Text) : k ∈ ancestors p ↔ Below p k := by
  unfold ancestors Below
  rw [mem_map]
  constructor
  · rintro ⟨i, hi, rfl⟩
    obtain ⟨hlow, hhigh⟩ := mem_range'_1.mp hi
    have htake : (p.splitOn slash).take i ≠ [] :=
      ne_nil_of_length_pos (by rw [length_take]; omega)
    have hdrop : (p.splitOn slash).drop i ≠ [] :=
      ne_nil_of_length_pos (by rw [length_drop]; omega)
    have hjoin := intercalate_append htake hdrop
    rw [take_append_drop, intercalate_splitOn] at hjoin
    exact ⟨_, hjoin.symm⟩
  · rintro ⟨r, rfl⟩
    have hk : 0 < (k.splitOn slash).length := length_pos_of_ne_nil (splitOn_ne_nil _ _)
    have hr : 0 < (r.splitOn slash).length := length_pos_of_ne_nil (splitOn_ne_nil _ _)
    rw [append_assoc, singleton_append, splitOn_append_cons_self, length_append]
    refine ⟨(k.splitOn slash).length, mem_range'_1.mpr (by omega), ?_⟩
    rw [take_left', intercalate_splitOn]
    rfl

/-- What lies below is longer. -/
theorem Below.length_lt {p q : Text} (h : Below p q) : q.length < p.length := by
  have hle := h.length_le
  rw [length_append] at hle
  exact hle

theorem Below.trans {p q r : Text} (h : Below p q) (h' : Below q r) : Below p r :=
  IsPrefix.trans h' (IsPrefix.trans ( prefix_append q [slash]) h)

theorem Within.trans {p q r : Text} (h : Within p q) (h' : Within q r) : Within p r := by
  rcases h with rfl | h
  · exact h'
  · rcases h' with rfl | h'
    · exact .inr h
    · exact .inr (h.trans h')

/-- Two folders above a path lie on one line. -/
theorem Within.compare {p q r : Text} (h : Within p q) (h' : Within p r) :
    q = r ∨ Below q r ∨ Below r q := by
  rcases h with rfl | h
  · exact h'.imp_right .inl
  rcases h' with rfl | h'
  · exact .inr (.inr h)
  rcases prefix_or_prefix_of_prefix h h' with hq | hr
  · rcases prefix_concat_iff.mp hq with heq | hbelow
    · exact .inl (append_cancel_right heq)
    · exact .inr (.inr hbelow)
  · rcases prefix_concat_iff.mp hr with heq | hbelow
    · exact .inl (append_cancel_right heq).symm
    · exact .inr (.inl hbelow)

variable {key : Text → Text} {seen paths : List Text}

/-- Nothing is made up. -/
theorem dedupe_subset : dedupe key seen paths ⊆ paths := by
  induction paths generalizing seen with
  | nil => exact nil_subset _
  | cons p paths ih =>
    unfold dedupe
    split
    · exact subset_cons_of_subset p ih
    · exact cons_subset_cons p ih

/-- Every unseen key survives. -/
theorem mem_dedupe_keys (k : Text) :
    k ∈ (dedupe key seen paths).map key ↔ k ∈ paths.map key ∧ k ∉ seen := by
  induction paths generalizing seen with
  | nil => simp [dedupe]
  | cons p paths ih =>
    unfold dedupe
    split
    · rename_i hseen
      rw [ih, map_cons, mem_cons]
      constructor
      · exact fun h => ⟨.inr h.1, h.2⟩
      · rintro ⟨rfl | h, hk⟩
        · exact absurd hseen hk
        · exact ⟨h, hk⟩
    · rename_i hseen
      rw [map_cons, mem_cons, ih, map_cons, mem_cons, mem_cons]
      by_cases hk : k = key p
      · simp [hk, hseen]
      · simp [hk]

theorem nodup_dedupe_keys : ((dedupe key seen paths).map key).Nodup := by
  induction paths generalizing seen with
  | nil => exact nodup_nil
  | cons p paths ih =>
    unfold dedupe
    split
    · exact ih
    · exact nodup_cons.mpr ⟨fun h => ((mem_dedupe_keys _).mp h).2 mem_cons_self, ih⟩

theorem dedupe_of_nodup (h : (paths.map key).Nodup) (hseen : ∀ p ∈ paths, key p ∉ seen) :
    dedupe key seen paths = paths := by
  induction paths generalizing seen with
  | nil => rfl
  | cons p paths ih =>
    rw [map_cons, nodup_cons] at h
    unfold dedupe
    rw [if_neg (hseen p mem_cons_self), ih h.2]
    intro q hq hmem
    rcases mem_cons.mp hmem with heq | hold
    · exact h.1 (heq ▸ mem_map_of_mem hq)
    · exact hseen q (mem_cons_of_mem p hq) hold

/-- What is kept has nothing above it. -/
theorem mem_dropCovered_iff (p : Text) : p ∈ dropCovered key paths ↔
    p ∈ paths ∧ ∀ q ∈ paths, ¬ Below (key p) (key q) := by
  unfold dropCovered
  rw [mem_filter, all_eq_true]
  refine and_congr_right fun _ => ⟨fun h q hq hbelow => ?_, fun h k hk => ?_⟩
  · have hout := of_decide_eq_true (h _ ((mem_ancestors_iff _ _).mpr hbelow))
    exact hout (mem_map_of_mem hq)
  · refine decide_eq_true fun hmem => ?_
    obtain ⟨q, hq, rfl⟩ := mem_map.mp hmem
    exact h q hq ((mem_ancestors_iff _ _).mp hk)

/-- A second pass drops nothing. -/
theorem dropCovered_idem : dropCovered key (dropCovered key paths) = dropCovered key paths := by
  refine filter_eq_self.mpr fun p hp => ?_
  obtain ⟨_, hfree⟩ := (mem_dropCovered_iff p).mp hp
  refine all_eq_true.mpr fun k hk => decide_eq_true fun hmem => ?_
  obtain ⟨q, hq, rfl⟩ := mem_map.mp hmem
  exact hfree q ((mem_dropCovered_iff q).mp hq).1 ((mem_ancestors_iff _ _).mp hk)

/-- The shortest selected path at or above a path is kept. -/
theorem exists_cover (key : Text → Text) :
    ∀ p ∈ paths, ∃ q ∈ dropCovered key paths, Within (key p) (key q) := by
  intro p hp
  induction hn : (key p).length using Nat.strongRecOn generalizing p with
  | ind n ih =>
    by_cases hfree : ∀ q ∈ paths, ¬ Below (key p) (key q)
    · exact ⟨p, (mem_dropCovered_iff p).mpr ⟨hp, hfree⟩, .inl rfl⟩
    · obtain ⟨q, hq⟩ := not_forall.mp hfree
      obtain ⟨hmem, hbelow⟩ := Classical.not_imp.mp hq
      have habove : Below (key p) (key q) := not_not.mp hbelow
      obtain ⟨r, hr, hwithin⟩ := ih _ (hn ▸ habove.length_lt) q hmem rfl
      exact ⟨r, hr, .trans (.inr habove) hwithin⟩

/-- No path of a selection is at or below another, and each given path is below one of it. -/
structure Covering (key : Text → Text) (paths out : List Text) : Prop where
  apart : out.Pairwise fun p q => ¬ Within (key p) (key q) ∧ ¬ Within (key q) (key p)
  covered : ∀ p ∈ paths, ∃ q, (q ∈ out ∧ Within (key p) (key q)) ∧
    ∀ r, r ∈ out ∧ Within (key p) (key r) → r = q
  chosen : out ⊆ paths

/-- Every path asked for is covered. -/
theorem covering_dropCovered (paths : List Text) :
    Covering key paths (dropCovered key (dedupe key [] paths)) := by
  have hnodup : ((dropCovered key (dedupe key [] paths)).map key).Nodup :=
    nodup_dedupe_keys.sublist (filter_sublist.map key)
  have hapart : ∀ q ∈ dropCovered key (dedupe key [] paths),
      ∀ r ∈ dropCovered key (dedupe key [] paths), ¬ Below (key q) (key r) := fun q hq r hr =>
    ((mem_dropCovered_iff q).mp hq).2 r ((mem_dropCovered_iff r).mp hr).1
  refine ⟨?_, fun p hp => ?_, fun p hp => dedupe_subset ((mem_dropCovered_iff p).mp hp).1⟩
  · refine (Nodup.of_map key hnodup).pairwise_of_forall_ne fun p hp q hq hne => ⟨?_, ?_⟩
    · rintro (heq | hbelow)
      · exact hne (inj_on_of_nodup_map hnodup hp hq heq)
      · exact hapart p hp q hq hbelow
    · rintro (heq | hbelow)
      · exact hne (inj_on_of_nodup_map hnodup hp hq heq.symm)
      · exact hapart q hq p hp hbelow
  · have hkey : key p ∈ (dedupe key [] paths).map key :=
      (mem_dedupe_keys _).mpr ⟨mem_map_of_mem hp, not_mem_nil⟩
    obtain ⟨p', hp', heq⟩ := mem_map.mp hkey
    obtain ⟨q, hq, hwithin⟩ := exists_cover key p' hp'
    rw [heq] at hwithin
    refine ⟨q, ⟨hq, hwithin⟩, fun r hr => ?_⟩
    rcases hr.2.compare hwithin with hsame | hbelow | hbelow
    · exact inj_on_of_nodup_map hnodup hr.1 hq hsame
    · exact absurd hbelow (hapart r hr.1 q hq)
    · exact absurd hbelow (hapart q hq r hr.1)

theorem mem_normalized_keys (k : Text) :
    k ∈ (dropCovered key (dedupe key [] paths)).map key ↔
      k ∈ paths.map key ∧ ∀ k' ∈ paths.map key, ¬ Below k k' := by
  have hkeys : ∀ k', k' ∈ (dedupe key [] paths).map key ↔ k' ∈ paths.map key := fun k' =>
    (mem_dedupe_keys k').trans (and_iff_left not_mem_nil)
  rw [mem_map]
  constructor
  · rintro ⟨p, hp, rfl⟩
    obtain ⟨hmem, hfree⟩ := (mem_dropCovered_iff p).mp hp
    refine ⟨(hkeys _).mp (mem_map_of_mem hmem), fun k' hk' => ?_⟩
    obtain ⟨q, hq, rfl⟩ := mem_map.mp ((hkeys k').mpr hk')
    exact hfree q hq
  · rintro ⟨hk, hfree⟩
    obtain ⟨p, hp, rfl⟩ := mem_map.mp ((hkeys k).mpr hk)
    refine ⟨p, (mem_dropCovered_iff p).mpr ⟨hp, fun q hq => ?_⟩, rfl⟩
    exact hfree _ ((hkeys _).mp (mem_map_of_mem hq))

/-- The selection covers every path once, stays as it is, and does not depend on the order. -/
theorem normalizeBulkPaths_covering (toLowerCase : Text → Text) (paths : List Text)
    (caseSensitive : Bool) :
    Covering (pathKey toLowerCase caseSensitive) paths
        (normalizeBulkPaths toLowerCase paths caseSensitive) ∧
      normalizeBulkPaths toLowerCase (normalizeBulkPaths toLowerCase paths caseSensitive)
          caseSensitive = normalizeBulkPaths toLowerCase paths caseSensitive ∧
      ∀ paths' : List Text, paths'.Perm paths →
        ((normalizeBulkPaths toLowerCase paths' caseSensitive).map
            (pathKey toLowerCase caseSensitive)).Perm
          ((normalizeBulkPaths toLowerCase paths caseSensitive).map
            (pathKey toLowerCase caseSensitive)) := by
  have hnodup : ∀ paths : List Text, ((normalizeBulkPaths toLowerCase paths caseSensitive).map
      (pathKey toLowerCase caseSensitive)).Nodup := fun _ =>
    nodup_dedupe_keys.sublist (filter_sublist.map _)
  refine ⟨covering_dropCovered paths, ?_, fun paths' hperm => ?_⟩
  · show dropCovered _ (dedupe _ [] (normalizeBulkPaths toLowerCase paths caseSensitive)) = _
    rw [dedupe_of_nodup (hnodup paths) fun _ _ => not_mem_nil]
    exact dropCovered_idem
  · refine (perm_ext_iff_of_nodup (hnodup paths') (hnodup paths)).mpr fun k => ?_
    refine (mem_normalized_keys k).trans (Iff.trans ?_ (mem_normalized_keys k).symm)
    simp only [(hperm.map _).mem_iff]

end Sencho.Files

import Sencho.Verified.Lookup

/-!
# Maps in insertion order

A map of a JavaScript host keeps its entries in the order in which their keys first came.  A
write to a key that is there replaces the value where it stands.  No key stands twice, and that is
a field.
-/

namespace Sencho.Verified

open List

structure OrderedMap (κ α : Type) where
  entries : List (κ × α)
  nodup : (entries.map Prod.fst).Nodup

namespace OrderedMap

variable {κ α β : Type} [DecidableEq κ]
variable (m : OrderedMap κ α) (k : κ)

def empty : OrderedMap κ α := ⟨[], nodup_nil⟩

def has (m : OrderedMap κ α) (k : κ) : Bool := m.entries.any fun e => e.1 = k

def get? (m : OrderedMap κ α) (k : κ) : Option α :=
  (m.entries.find? fun e => e.1 = k).map Prod.snd

def values (m : OrderedMap κ α) : List α := m.entries.map Prod.snd

theorem keys_replace (l : List (κ × α)) (k : κ) (v : α) :
    (l.map fun e => if e.1 = k then (k, v) else e).map Prod.fst = l.map Prod.fst := by
  rw [map_map]
  apply map_congr_left
  intro e _
  by_cases he : e.1 = k <;> simp [he]

def set (m : OrderedMap κ α) (k : κ) (v : α) : OrderedMap κ α :=
  if h : k ∈ m.entries.map Prod.fst then
    ⟨m.entries.map fun e => if e.1 = k then (k, v) else e,
      (keys_replace m.entries k v).symm ▸ m.nodup⟩
  else
    ⟨m.entries ++ [(k, v)], by
      rw [map_append, nodup_append]
      exact ⟨m.nodup, nodup_singleton k, by
        intro a ha b hb hab
        have hbk : b = k := by simpa using hb
        exact h (hbk ▸ hab ▸ ha)⟩⟩

def erase (m : OrderedMap κ α) (k : κ) : OrderedMap κ α :=
  ⟨m.entries.filter fun e => ¬ e.1 = k, (List.Sublist.map _ filter_sublist).nodup m.nodup⟩

def size (m : OrderedMap κ α) : Nat := m.entries.length

/-- Write a row of items, each at its key. -/
def setAll {ι : Type} (key : ι → κ) (value : ι → α) (m : OrderedMap κ α) (items : List ι) :
    OrderedMap κ α :=
  items.foldl (fun m i => m.set (key i) (value i)) m

@[simp] theorem get?_empty : (empty : OrderedMap κ α).get? k = none := rfl

theorem get?_eq_some_iff (v : α) : m.get? k = some v ↔ (k, v) ∈ m.entries := by
  unfold get?
  constructor
  · intro h
    obtain ⟨e, hfind, hv⟩ := Option.map_eq_some_iff.mp h
    obtain ⟨hmem, hkey⟩ := mem_key_of_find? hfind
    rw [← hkey, ← hv]
    exact hmem
  · intro h
    rw [(find?_key_iff m.nodup).mpr ⟨h, rfl⟩]
    rfl

theorem has_iff : m.has k = true ↔ ∃ v, m.get? k = some v := by
  unfold has
  rw [any_eq_true]
  constructor
  · rintro ⟨e, he, hk⟩
    have hkey : e.1 = k := by simpa using hk
    exact ⟨e.2, (get?_eq_some_iff m k e.2).mpr (hkey ▸ he)⟩
  · rintro ⟨v, hv⟩
    exact ⟨(k, v), (get?_eq_some_iff m k v).mp hv, by simp⟩

theorem mem_values_iff (v : α) : v ∈ m.values ↔ ∃ k, m.get? k = some v := by
  unfold values
  rw [mem_map]
  constructor
  · rintro ⟨e, he, hv⟩
    exact ⟨e.1, (get?_eq_some_iff m e.1 v).mpr (hv ▸ he)⟩
  · rintro ⟨k, hk⟩
    exact ⟨(k, v), (get?_eq_some_iff m k v).mp hk, rfl⟩

theorem mem_set_iff (k' : κ) (v v' : α) :
    (k', v') ∈ (m.set k v).entries ↔ (k' = k ∧ v' = v) ∨ (k' ≠ k ∧ (k', v') ∈ m.entries) := by
  unfold set
  by_cases h : k ∈ m.entries.map Prod.fst
  · rw [dif_pos h]
    obtain ⟨e, he, hek⟩ := mem_map.mp h
    rw [mem_map]
    constructor
    · rintro ⟨d, hd, hdeq⟩
      by_cases hdk : d.1 = k
      · rw [if_pos hdk] at hdeq
        exact .inl ⟨(congrArg Prod.fst hdeq).symm, (congrArg Prod.snd hdeq).symm⟩
      · rw [if_neg hdk] at hdeq
        rw [hdeq] at hd hdk
        exact .inr ⟨hdk, hd⟩
    · rintro (⟨rfl, rfl⟩ | ⟨hne, hmem⟩)
      · exact ⟨e, he, by rw [if_pos hek]⟩
      · exact ⟨(k', v'), hmem, by rw [if_neg hne]⟩
  · rw [dif_neg h, mem_append, mem_singleton]
    constructor
    · rintro (hmem | heq)
      · have hne : k' ≠ k := by
          rintro rfl
          exact h (mem_map.mpr ⟨(k', v'), hmem, rfl⟩)
        exact .inr ⟨hne, hmem⟩
      · exact .inl ⟨congrArg Prod.fst heq, congrArg Prod.snd heq⟩
    · rintro (⟨rfl, rfl⟩ | ⟨_, hmem⟩)
      · exact .inr rfl
      · exact .inl hmem

theorem get?_set (k' : κ) (v : α) : (m.set k v).get? k' = if k' = k then some v else m.get? k' := by
  apply Option.ext
  intro w
  rw [get?_eq_some_iff, mem_set_iff]
  by_cases hk : k' = k
  · rw [if_pos hk]
    simp [hk, eq_comm]
  · rw [if_neg hk, get?_eq_some_iff]
    simp [hk]

theorem get?_erase (k' : κ) : (m.erase k).get? k' = if k' = k then none else m.get? k' := by
  apply Option.ext
  intro v
  rw [get?_eq_some_iff]
  unfold erase
  by_cases hk : k' = k
  · simp [hk]
  · rw [if_neg hk, get?_eq_some_iff]
    simp [hk]

section Rows

variable {ι : Type} (key : ι → κ) (value : ι → α)

/-- The item that was last written to a key. -/
def lastAt (items : List ι) (k : κ) : Option ι := items.reverse.find? fun i => key i = k

theorem lastAt_mem {items : List ι} {k : κ} {i : ι} (h : lastAt key items k = some i) :
    i ∈ items ∧ key i = k := by
  obtain ⟨hmem, hkey⟩ := mem_key_of_find? h
  exact ⟨mem_reverse.mp hmem, hkey⟩

theorem get?_setAll (m : OrderedMap κ α) (items : List ι) (k : κ) :
    (setAll key value m items).get? k = ((lastAt key items k).map value).or (m.get? k) := by
  induction items generalizing m with
  | nil => rfl
  | cons i is ih =>
    have hstep : setAll key value m (i :: is) = setAll key value (m.set (key i) (value i)) is :=
      rfl
    have hlast : lastAt key (i :: is) k =
        (lastAt key is k).or (if key i = k then some i else none) := by
      unfold lastAt
      by_cases hi : key i = k <;> simp [hi]
    rw [hstep, ih, get?_set, hlast]
    cases lastAt key is k with
    | some j => rfl
    | none =>
      by_cases hi : key i = k
      · simp [hi]
      · have hi' : ¬ k = key i := fun h => hi h.symm
        simp [hi, hi']

/-- Write a row of items, each at its key unless the key is there. -/
def setNew (m : OrderedMap κ α) (items : List ι) : OrderedMap κ α :=
  items.foldl (fun m i => if m.has (key i) then m else m.set (key i) (value i)) m

theorem get?_setNew (m : OrderedMap κ α) (items : List ι) (k : κ) :
    (setNew key value m items).get? k =
      (m.get? k).or ((items.find? fun i => key i = k).map value) := by
  induction items generalizing m with
  | nil => simp [setNew]
  | cons i is ih =>
    have hstep : setNew key value m (i :: is) =
        setNew key value (if m.has (key i) then m else m.set (key i) (value i)) is := rfl
    rw [hstep, ih]
    by_cases hi : key i = k
    · rw [find?_cons_of_pos (by simpa using hi)]
      cases hk : m.get? k with
      | some v =>
        have hhas : m.has (key i) = true := (has_iff m (key i)).mpr ⟨v, hi ▸ hk⟩
        rw [if_pos hhas, hk]
        rfl
      | none =>
        have hhas : ¬ m.has (key i) = true := by
          intro hhas
          obtain ⟨v, hv⟩ := (has_iff m (key i)).mp hhas
          rw [hi, hk] at hv
          exact nomatch hv
        rw [if_neg hhas, get?_set, if_pos hi.symm]
        rfl
    · rw [find?_cons_of_neg (by simpa using hi)]
      have hi' : ¬ k = key i := fun h => hi h.symm
      by_cases hhas : m.has (key i) = true
      · rw [if_pos hhas]
      · rw [if_neg hhas, get?_set, if_neg hi']

/-- The items of each key, in their order. -/
def group (items : List ι) : OrderedMap κ (List ι) :=
  items.foldl (fun groups i => groups.set (key i) ((groups.get? (key i)).getD [] ++ [i])) .empty

theorem get?_group (items : List ι) (k : κ) : (group key items).get? k =
    if items.filter (key · = k) = [] then none else some (items.filter (key · = k)) := by
  have hfold : ∀ m : OrderedMap κ (List ι), (items.foldl (fun groups i =>
      groups.set (key i) ((groups.get? (key i)).getD [] ++ [i])) m).get? k =
        if items.filter (key · = k) = [] then m.get? k
        else some ((m.get? k).getD [] ++ items.filter (key · = k)) := by
    induction items with
    | nil => exact fun _ => rfl
    | cons i is ih =>
      intro m
      rw [foldl_cons, ih, get?_set]
      by_cases hi : k = key i
      · by_cases hnil : is.filter (key · = k) = []
        · simp [hi, hi ▸ hnil]
        · simp [hi, hi ▸ hnil]
      · have hi' : ¬ key i = k := fun h => hi h.symm
        simp [hi, hi']
  exact (hfold empty).trans (by rw [get?_empty]; rfl)

end Rows

end OrderedMap

end Sencho.Verified

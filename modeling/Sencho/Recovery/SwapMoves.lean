import Mathlib.Data.Finset.Basic
import Sencho.Recovery.Swap

/-!
# Renames of the swap, one specification each

The three directories of a swap are read through `Volume.lookup`.  This module
says once what a rename, a journal write and a metadata call do to those
readings and to the journal, so that the proofs about whole calls never unfold
the volume.
-/

namespace Sencho.Recovery

open Verified Verified.Interrupt Verified.Utf8 Prog

variable {id : IntentId} {C : Type} {n : FileName}

namespace Volume

variable (v : Volume id C) (p : Place)

theorem lookup_root (n : FileName) :
    v.lookup .root n = v.root.entries.lookup n := rfl

/-- The reserved name is not an entry of the root. -/
@[simp] theorem lookup_reserved : v.lookup .root (workDirName id) = none := by
  rw [lookup_root, AList.lookup_eq_none]
  exact v.reserved

theorem has_work (s : Side) (n : FileName) : v.has (.work s) n = (v.lookup (.work s) n).isSome := by
  simp [has]

theorem has_of_ne (h : n ≠ workDirName id) : v.has p n = (v.lookup p n).isSome := by
  simp [has, h]

theorem mem_listNames (n : FileName) : n ∈ v.listNames p ↔ v.has p n = true := by
  cases p with
  | root =>
    simp only [listNames, List.mem_insertionSort, List.mem_append, folder,
      Option.elim_some, has, lookup_root, Bool.or_eq_true, AList.lookup_isSome,
      AList.mem_keys]
    by_cases hw : v.work.isSome <;> simp [hw]
  | work s =>
    rw [has_work]
    simp only [listNames, List.mem_insertionSort, lookup]
    cases v.folder (.work s) with
    | none => simp
    | some f =>
      simp [Folder.lookup, AList.lookup_isSome, AList.mem_keys]

/-! Putting and taking an entry. -/

theorem lookup_work (s : Side) (n : FileName) :
    v.lookup (.work s) n = (v.folder (.work s)).bind (·.entries.lookup n) := rfl

theorem folder_onWork (g : WorkDir C → WorkDir C) (s : Side) :
    (v.onWork g).folder (.work s) = v.work.bind fun w => (g w).side s := by
  cases h : v.work <;> simp [folder, onWork, h]

@[simp] theorem side_setSide (w : WorkDir C) (f : Option (Folder C))
    (s t : Side) : (w.setSide f s).side t = if t = s then f else w.side t := by
  cases s <;> cases t <;> rfl

@[simp] theorem journal_setSide (w : WorkDir C) (f : Option (Folder C))
    (s : Side) : (w.setSide f s).journal = w.journal := by
  cases s <;> rfl

/-- A change of one side of the work directory, read through its folders. -/
theorem folder_onSide (g : Folder C → Folder C) (s : Side) (q : Place) :
    (v.onWork fun w => w.setSide ((w.side s).map g) s).folder q =
      if q = .work s then (v.folder q).map g else v.folder q := by
  cases q with
  | root => rfl
  | work t =>
    rw [folder_onWork]
    simp only [folder, side_setSide, Place.work.injEq]
    by_cases hts : t = s
    · subst hts
      cases v.work <;> simp
    · cases v.work <;> simp [hts]

theorem folder_put (q : Place) (e : Entry C) (hn : p = .root → n ≠ workDirName id) :
    (v.put p n e).folder q =
      if q = p then (v.folder q).map (·.put v.clock n e) else v.folder q := by
  cases p with
  | root =>
    simp only [put, hn rfl, dite_false]
    cases q <;> simp [folder]
  | work s => exact folder_onSide v _ s q

theorem folder_take (q : Place) (n : FileName) : (v.take p n).folder q =
      if q = p then (v.folder q).map (·.take v.clock n) else v.folder q := by
  cases p with
  | root => cases q <;> simp [take, folder]
  | work s => exact folder_onSide v _ s q

theorem lookup_put {p : Place} (e : Entry C) (hn : p = .root → n ≠ workDirName id)
    (hp : (v.folder p).isSome) (q : Place) (m : FileName) :
    (v.put p n e).lookup q m = if q = p ∧ m = n then some e else v.lookup q m := by
  rw [lookup, folder_put v p q e hn]
  by_cases hqp : q = p
  · subst hqp
    obtain ⟨f, hf⟩ := Option.isSome_iff_exists.mp hp
    by_cases hmn : m = n
    · subst hmn
      simp [hf, Folder.lookup, Folder.put]
    · simp [hf, Folder.lookup, Folder.put, hmn, lookup]
  · simp [hqp, lookup]

theorem lookup_take (n : FileName) (q : Place) (m : FileName) :
    (v.take p n).lookup q m = if q = p ∧ m = n then none else v.lookup q m := by
  rw [lookup, folder_take v p q n]
  by_cases hqp : q = p
  · subst hqp
    cases hf : v.folder q with
    | none => simp [lookup, hf]
    | some f =>
      by_cases hmn : m = n
      · subst hmn
        simp [Folder.lookup, Folder.take]
      · simp [Folder.lookup, Folder.take, hmn, lookup, hf]
  · simp [hqp, lookup]

/-! What a change leaves alone. -/

@[simp] theorem journal_onSide (g : Folder C → Folder C) (s : Side) :
    (v.onWork fun w => w.setSide ((w.side s).map g) s).journal = v.journal := by
  cases h : v.work <;> simp [journal, onWork, h]

@[simp] theorem journal_put (n : FileName) (e : Entry C) : (v.put p n e).journal = v.journal := by
  cases p with
  | root =>
    simp only [put]
    split <;> rfl
  | work s => exact journal_onSide v _ s

@[simp] theorem journal_take (n : FileName) : (v.take p n).journal = v.journal := by
  cases p with
  | root => rfl
  | work s => exact journal_onSide v _ s

@[simp] theorem device_put (n : FileName) (e : Entry C) :
    (v.put p n e).dev = v.dev ∧ (v.put p n e).ino = v.ino := by
  cases p with
  | root =>
    simp only [put]
    split <;> exact ⟨rfl, rfl⟩
  | work s => exact ⟨rfl, rfl⟩

@[simp] theorem device_take (n : FileName) :
    (v.take p n).dev = v.dev ∧ (v.take p n).ino = v.ino := by
  cases p <;> exact ⟨rfl, rfl⟩

@[simp] theorem journal_move (src dst : Place) (n : FileName) :
    (v.move src dst n).journal = v.journal := by
  unfold move
  cases v.lookup src n with
  | none => rfl
  | some e =>
    change ((v.take src n).put dst n e).journal = v.journal
    rw [journal_put, journal_take]

theorem device_move (src dst : Place) (n : FileName) :
    (v.move src dst n).dev = v.dev ∧ (v.move src dst n).ino = v.ino := by
  unfold move
  cases v.lookup src n with
  | none => exact ⟨rfl, rfl⟩
  | some e =>
    change ((v.take src n).put dst n e).dev = v.dev ∧ ((v.take src n).put dst n e).ino = v.ino
    rw [(device_put _ _ _ _).1, (device_put _ _ _ _).2]
    exact device_take v src n

theorem folder_move_isSome (src dst : Place) (hn : n ≠ workDirName id) (q : Place) :
    ((v.move src dst n).folder q).isSome = (v.folder q).isSome := by
  unfold move
  cases v.lookup src n with
  | none => rfl
  | some e =>
    change (((v.take src n).put dst n e).folder q).isSome = _
    rw [folder_put _ _ _ _ fun _ => hn, folder_take]
    split <;> split <;> simp

/-- A rename moves one name from one directory to another. -/
theorem lookup_move {src dst : Place} {e : Entry C} (hn : n ≠ workDirName id)
    (hsrc : v.lookup src n = some e) (hdst : (v.folder dst).isSome) (q : Place) (m : FileName) :
    (v.move src dst n).lookup q m = if q = dst ∧ m = n then some e
      else if q = src ∧ m = n then none else v.lookup q m := by
  have hdst' : ((v.take src n).folder dst).isSome := by
    rw [folder_take]
    split <;> simp [hdst]
  have hmove : v.move src dst n = ((v.take src n).put dst n e).tick := by
    simp [move, hsrc]
  rw [hmove]
  change ((v.take src n).put dst n e).lookup q m = _
  rw [lookup_put _ e (fun _ => hn) hdst', lookup_take]

@[simp] theorem lookup_setJournal (plan : SwapPlan) (p : Place) (n : FileName) :
    (v.setJournal plan).lookup p n = v.lookup p n := by
  cases p with
  | root => rfl
  | work s => cases h : v.work <;> cases s <;>
      simp [lookup, folder, setJournal, onWork, h, WorkDir.side]

theorem folder_setJournal (plan : SwapPlan) (p : Place) :
    (v.setJournal plan).folder p = v.folder p := by
  cases p with
  | root => rfl
  | work s => cases h : v.work <;> cases s <;> simp [folder, setJournal, onWork, h, WorkDir.side]

theorem work_isSome_of_journal {v : Volume id C} {j : Journal}
    (h : v.journal = some j) : v.work.isSome := by
  cases hw : v.work with
  | none => simp [journal, hw] at h
  | some w => rfl

theorem journal_setJournal {v : Volume id C} (plan : SwapPlan)
    (h : v.work.isSome) : (v.setJournal plan).journal = some (.plan plan.encoded) := by
  obtain ⟨w, hw⟩ := Option.isSome_iff_exists.mp h
  simp [journal, setJournal, onWork, hw]

/-- Creating an empty directory adds no entry. -/
theorem lookup_newFolder {s : Side} (hs : v.folder (.work s) = none) (now : Int) (p : Place)
    (n : FileName) : (v.onWork (·.setSide (some (newFolder now)) s)).lookup p n = v.lookup p n := by
  cases p with
  | root => rfl
  | work t =>
    rw [lookup_work, folder_onWork, lookup_work]
    by_cases hts : t = s
    · subst hts
      rw [hs]
      cases v.work <;> simp [newFolder]
    · simp [folder, hts]

theorem folder_newFolder {v : Volume id C} (hw : v.work.isSome) (s : Side) (now : Int) :
    ((v.onWork (·.setSide (some (newFolder now)) s)).folder (.work s)).isSome := by
  obtain ⟨w, hw⟩ := Option.isSome_iff_exists.mp hw
  simp [folder_onWork, hw]

end Volume

section Rules

variable {Q : Unit → Volume id C → Prop} {E : SwapError → Volume id C → Prop}
  {K : Volume id C → Prop} {v : Volume id C}

/-- A rename into a free name is not refused. -/
theorem wp_rename {src dst : Place} {e : Entry C}
    (hn : n ≠ workDirName id) (hsrc : v.lookup src n = some e)
    (hdst : (v.folder dst).isSome) (hfree : v.lookup dst n = none)
    (hcut : K v) (h : Q () (v.move src dst n)) : wp (rename src dst n) Q E K v := by
  obtain ⟨f, hf⟩ := Option.isSome_iff_exists.mp hdst
  have hok : renameError v src dst n = none := by
    simp [renameError, hsrc, hf, hfree, hn]
  refine wp_read_bind ?_
  rw [hok]
  exact wp_write hcut h

/-- The three metadata calls, for a property that does not look at the root's
metadata. -/
theorem wp_applyRootMeta {m : RootMeta} (hK : ∀ g u, K u → K (u.setStat g))
    (hcut : K v) (h : Q () (v.setStat fun _ => m)) : wp (applyRootMeta m) Q E K v := by
  refine wp_write_bind hcut (wp_write_bind (hK _ _ hcut) ?_)
  exact wp_write (hK _ _ (hK _ _ hcut)) h

end Rules

end Sencho.Recovery

import Sencho.Recovery.SwapSafety

/-!
# A rollback that dies while it removes the work directory

A rollback moves every entry back and then removes the work directory, in
whatever order the directory yields its contents.  The journal can outlive the
restored copy it describes.  A repeated rollback then decides what to move from
`root/N` and `incoming/data/N` alone, and for a name that is both an original
and a restored entry it reads the original as the restored one.
-/

namespace Sencho.Recovery

open Verified Verified.Interrupt Verified.Utf8 Volume Prog

variable {id : IntentId} {C : Type}

/-- A rollback that moved everything back and died in its removal after the
given deletions. -/
def dieInRemoval (removed : List (Removal C)) (v : Volume id C) : Volume id C :=
  removed.foldl (fun v r => r.apply v) (rollbackBeforeRemoval.after none v)

/-- Repeated rollbacks, each with its own order of deletions and its own
interruption. -/
def repeatRollback (repeats : List (List (Removal C) × Budget)) (v : Volume id C) : Volume id C :=
  repeats.foldl (fun v call => (swapRollback call.1).after call.2 v) v

/-- Every original entry is at the root with its content. -/
def OriginalsAtRoot (v₀ v : Volume id C) : Prop :=
  ∀ n e, v₀.lookup .root n = some e → v.lookup .root n = some e

/-- The rollback is not refused: it moves everything back and reaches its removal. -/
def ReachesRemoval (v : Volume id C) : Prop :=
  ∃ plan, rollbackBeforeRemoval.outcome none v = .done (some plan)

theorem Removal.journal_apply (r : Removal C) (v : Volume id C) :
    (r.apply v).journal = v.journal ∨ (r.apply v).journal = none := by
  rcases r with _ | ⟨s, n, _ | left⟩ | s
  · right
    cases h : v.work <;> simp [Removal.apply, Volume.journal, Volume.onWork, h]
  · exact .inl (Volume.journal_take v _ n)
  · left
    simp only [Removal.apply]
    split
    · exact journal_put v _ n left
    · rfl
  · left
    cases h : v.work <;> simp [Removal.apply, Volume.journal, Volume.onWork, Volume.tick, h]

/-- A removal puts nothing where there was nothing. -/
theorem Removal.original_apply (r : Removal C) {v : Volume id C}
    (h : ∀ n, v.lookup (.work .original) n = none) (n : FileName) :
    (r.apply v).lookup (.work .original) n = none := by
  rcases r with _ | ⟨s, m, _ | left⟩ | s
  · rw [← h n, Volume.lookup_work, Volume.lookup_work]
    cases hw : v.work <;> simp [Removal.apply, Volume.folder, Volume.onWork, WorkDir.side, hw]
  · change (v.take (.work s) m).lookup (.work .original) n = none
    rw [lookup_take, h n]
    simp
  · simp only [Removal.apply]
    split
    · rename_i hsome
      have hdir : (v.folder (.work s)).isSome := by
        cases hf : v.folder (.work s) with
        | none => simp [lookup, hf] at hsome
        | some f => rfl
      change (v.put (.work s) m left).lookup (.work .original) n = none
      rw [lookup_put v left (by simp) hdir, h n, ite_eq_right_iff]
      rintro ⟨hs, -⟩
      rw [← hs, h m] at hsome
      simp at hsome
    · exact h n
  · change (v.onWork (·.setSide none s)).lookup (.work .original) n = none
    have hn := h n
    rw [lookup_work] at hn ⊢
    rw [folder_onWork]
    cases hw : v.work with
    | none => rfl
    | some w =>
      cases s with
      | original => rfl
      | incoming => simpa [Volume.folder, hw] using hn

/-- Every entry of the root is the original one, nothing waits in `original`,
and the journal, if it is still there, is not a committed one. -/
structure BackAtRoot (base : Volume id C) (plan : SwapPlan) (v : Volume id C) : Prop where
  root : ∀ n, v.lookup .root n = base.lookup .root n
  original : ∀ n, v.lookup (.work .original) n = none
  journal : v.journal = none ∨
    ∃ st, InProgress st ∧ v.journal = some (.plan { plan with status := st })

section BackAtRoot

variable {base v : Volume id C} {plan : SwapPlan}

theorem Restored.backAtRoot (h : Restored base plan v) : BackAtRoot base plan v := by
  obtain ⟨pl, st, hst, hup, haway, h, -⟩ := h
  refine ⟨fun n => ?_, fun n => ?_, .inr ⟨st, hst, h.journal⟩⟩
  · rw [h.placed.root n, hup, haway]
    simp
  · rw [h.placed.original n, haway]
    simp

section

variable (h : BackAtRoot base plan v)
include h

theorem BackAtRoot.removal (r : Removal C) : BackAtRoot base plan (r.apply v) where
  root n := by
    rw [lookup_root, Removal.root_apply, ← lookup_root]
    exact h.root n
  original := r.original_apply h.original
  journal := by
    rcases r.journal_apply v with heq | hnone
    · rw [heq]
      exact h.journal
    · exact .inl hnone

theorem BackAtRoot.removals (rs : List (Removal C)) :
    BackAtRoot base plan (rs.foldl (fun v r => r.apply v) v) :=
  List.foldlRecOn rs _ h fun _ hv r _ => hv.removal r

theorem BackAtRoot.setStat (g : RootMeta → RootMeta) : BackAtRoot base plan (v.setStat g) :=
  ⟨h.root, h.original, h.journal⟩

theorem BackAtRoot.dropWork : BackAtRoot base plan v.dropWork :=
  ⟨h.root, fun _ => rfl, .inl rfl⟩

theorem BackAtRoot.wp_removeAll (order : List (Removal C)) :
    wp (removeAll order) (fun _ => BackAtRoot base plan)
      (fun (_ : SwapError) _ => False) (BackAtRoot base plan) v := by
  induction order generalizing v with
  | nil => exact wp_write h h.dropWork
  | cons r rest ih => exact wp_write_bind h (ih (h.removal r))

end

/-- Restored names that are not at the root are not moved. -/
theorem wp_moveIncomingBack_idle (ns : List FileName) (h : ∀ n ∈ ns, v.has .root n = false) :
    wp (moveIncomingBack ns) (fun _ v' => v' = v) (fun _ _ => False) (fun _ => False) v := by
  induction ns with
  | nil => exact wp_pure rfl
  | cons n ns ih =>
    refine wp_read_bind ?_
    rw [if_neg (by simp [h n (by simp)])]
    exact ih fun m hm => h m (by simp [hm])

/-- Nothing in `original`, nothing to move back. -/
theorem wp_moveOriginalsBack_idle (ns : List FileName)
    (h : ∀ n, v.lookup (.work .original) n = none) :
    wp (moveOriginalsBack ns) (fun _ v' => v' = v) (fun _ _ => False) (fun _ => False) v := by
  induction ns with
  | nil => exact wp_pure rfl
  | cons n ns ih =>
    refine wp_read_bind ?_
    rw [if_neg (by simp [has_work, h n])]
    exact ih

/-- No restored name is an original's. -/
def Disjoint (plan : SwapPlan) : Prop :=
  ∀ n ∈ plan.incoming, n ∉ plan.originals

section

variable (hp : Prepared base plan) (hdis : Disjoint plan) (h : BackAtRoot base plan v)
include hp hdis h

/-- Without a common name a repeated rollback leaves the root alone, wherever
it is interrupted. -/
theorem BackAtRoot.wp_swapRollback (order : List (Removal C)) :
    wp (swapRollback order) (fun _ => BackAtRoot base plan)
      (fun _ => BackAtRoot base plan) (BackAtRoot base plan) v := by
  refine wp_bind (wp_read_bind ?_)
  rcases h.journal with hnone | ⟨st, hst, hj⟩
  · simp only [hnone]
    refine wp_pure (wp_read_bind (wp_bind (wp_guardedBy (fun _ => ?_) fun _ => ?_)))
    · refine wp_mono (h.wp_removeAll order) (fun _ _ hQ => wp_pure hQ)
        (fun _ _ hE => hE.elim) (fun _ hK => hK)
    · exact wp_pure h
  · simp only [hj, hp.readPlan_eq]
    refine wp_bind (wp_pure ?_)
    have hidle : ∀ n ∈ plan.incoming, v.has .root n = false := by
      intro n hn
      have hnone := hdis n hn
      rw [hp.originals, Option.not_isSome_iff_eq_none] at hnone
      rw [has_of_ne _ _ (hp.incoming_ne hn), h.root n, hnone]
      rfl
    split
    · exact wp_fail h
    · exact wp_fail h
    · refine wp_bind (wp_bind (wp_mono (wp_moveIncomingBack_idle _ hidle) ?_
        (fun _ _ hE => hE.elim) (fun _ hK => hK.elim)))
      rintro - _ rfl
      refine wp_bind (wp_mono (wp_moveOriginalsBack_idle _ h.original) ?_
        (fun _ _ hE => hE.elim) (fun _ hK => hK.elim))
      rintro - _ rfl
      simp only [hp.originalRoot]
      refine wp_applyRootMeta (fun g u hu => hu.setStat g) h (wp_pure ?_)
      refine wp_bind (wp_mono ((h.setStat _).wp_removeAll order) ?_
        (fun _ _ hE => hE.elim) (fun _ hK => hK))
      intro _ v' h'
      exact wp_bind (wp_write h' (wp_pure (h'.setStat _)))

/-- Any number of repeated rollbacks, each cut off anywhere. -/
theorem BackAtRoot.repeatRollback (repeats : List (List (Removal C) × Budget)) :
    BackAtRoot base plan (repeatRollback repeats v) := by
  induction repeats generalizing v with
  | nil => exact h
  | cons call rest ih =>
    exact ih (after_of_wp (h.wp_swapRollback hp hdis call.1) call.2)

end

end BackAtRoot

/-- Everything is back at the root, and of the restored copy one name is
missing that is also an original's. -/
structure TwinGone (base : Volume id C) (plan : SwapPlan) (n : FileName)
    (v : Volume id C) : Prop where
  root : ∀ m, v.lookup .root m = base.lookup .root m
  original : ∀ m, v.lookup (.work .original) m = none
  incoming : ∀ m, v.lookup (.work .incoming) m =
    if m = n then none else base.lookup (.work .incoming) m
  incomingDir : (v.folder (.work .incoming)).isSome
  journal : ∃ st, InProgress st ∧ v.journal = some (.plan { plan with status := st })

section TwinGone

variable {base v : Volume id C} {plan : SwapPlan} {n : FileName}

/-- Deleting the restored twin first is one order of a removal. -/
theorem Restored.twinGone (h : Restored base plan v) (n : FileName) :
    TwinGone base plan n ((Removal.part .incoming n none).apply v) := by
  have hback := h.backAtRoot.removal (.part .incoming n none)
  obtain ⟨pl, st, hst, hup, -, h, -⟩ := h
  refine ⟨hback.root, hback.original, fun m => ?_, ?_, st, hst, ?_⟩
  · change (v.take (.work .incoming) n).lookup (.work .incoming) m = _
    rw [lookup_take, h.placed.incoming m, hup]
    simp
  · change ((v.take (.work .incoming) n).folder (.work .incoming)).isSome
    rw [folder_take, if_pos rfl, Option.isSome_map]
    exact h.incomingDir
  · change (v.take (.work .incoming) n).journal = _
    rw [journal_take]
    exact h.journal

/-- The helper still explains the volume: the original stands in for its
restored twin. -/
theorem TwinGone.computeStatus_ne (hp : Prepared base plan)
    (h : TwinGone base plan n v) (horig : n ∈ plan.originals) {st : SwapStatus} :
    computeStatus v { plan with status := st } ≠ .inconsistent := by
  have hroot : ∀ m ∈ plan.originals, v.has .root m = true := by
    intro m hm
    rw [has_of_ne _ _ (hp.original_ne hm), h.root m]
    exact (hp.originals m).mp hm
  refine computeStatus_ne_of_explained (fun m hm => ?_) (fun m hm => ?_) ?_
  · unfold originalMoved
    rw [if_pos (hroot m hm)]
    split <;> rfl
  · have hne := hp.incoming_ne hm
    unfold incomingMoved
    by_cases hmn : m = n
    · subst hmn
      have hin : v.has (.work .incoming) m = false := by
        simp [has_work, h.incoming m]
      simp [hin, hroot m horig]
    · have hin : v.has (.work .incoming) m = true := by
        rw [has_work, h.incoming m, if_neg hmn]
        exact hp.incoming m hm
      by_cases hat : v.has .root m = true
      · have hmem : m ∈ plan.originals := by
          rw [has_of_ne _ _ hne, h.root m] at hat
          exact (hp.originals m).mpr hat
        simp [hin, hat, hmem]
      · simp [hin, hat]
  · intro m hm
    rw [mem_listNames] at hm
    by_cases hne : m = workDirName id
    · simp [knownNames, hne]
    · rw [has_of_ne _ _ hne, h.root m] at hm
      have hmem := (hp.originals m).mpr hm
      simp [knownNames, hmem]

end TwinGone

/-- Nothing waits in `original`, and the name is at the root or in the restored
copy, not in both: an entry of the root counts as the restored one. -/
structure Losing (n : FileName) (v : Volume id C) : Prop where
  original : ∀ m, v.lookup (.work .original) m = none
  incomingDir : (v.folder (.work .incoming)).isSome
  pending : v.lookup .root n = none ∨ v.lookup (.work .incoming) n = none

theorem TwinGone.losing {base v : Volume id C} {plan : SwapPlan} {n : FileName}
    (h : TwinGone base plan n v) : Losing n v :=
  ⟨h.original, h.incomingDir, .inr (by rw [h.incoming n, if_pos rfl])⟩

section Losing

variable {base v : Volume id C} {plan : SwapPlan} {n : FileName} {st : SwapStatus}
  (hr : Journaled base plan) (h : Losing n v)
include hr h

/-- The loop takes the original for the restored entry and moves it away. -/
theorem Losing.wp_moveIncomingBack (ns : List FileName) (hns : ∀ m ∈ ns, m ∈ plan.incoming) :
    wp (moveIncomingBack ns) (fun _ v' => Losing n v' ∧
        (n ∈ ns ∨ v.lookup .root n = none → v'.lookup .root n = none))
      (fun _ _ => False) (fun _ => True) v := by
  induction ns generalizing v with
  | nil => exact wp_pure ⟨h, by simp⟩
  | cons m ns ih =>
    have hne := hr.incoming_ne (hns m (by simp))
    have hns' : ∀ k ∈ ns, k ∈ plan.incoming := fun k hk => hns k (by simp [hk])
    refine wp_read_bind ?_
    by_cases hat : (v.has .root m && !v.has (.work .incoming) m) = true
    · rw [if_pos hat]
      rw [has_of_ne _ _ hne, has_work, Bool.and_eq_true, Bool.not_eq_true',
        Option.isSome_eq_false_iff, Option.isNone_iff_eq_none] at hat
      obtain ⟨hroot, hin⟩ := hat
      obtain ⟨e, he⟩ := Option.isSome_iff_exists.mp hroot
      have hmoved := lookup_move v hne he h.incomingDir
      have h' : Losing n (v.move .root (.work .incoming) m) := by
        refine ⟨fun k => by simp [hmoved, h.original k], ?_, ?_⟩
        · rw [folder_move_isSome v _ _ hne]
          exact h.incomingDir
        · by_cases hnm : n = m
          · exact .inl (by simp [hmoved, hnm])
          · simpa [hmoved, hnm] using h.pending
      refine wp_bind (wp_mkdirAll_of_isSome h.incomingDir (wp_bind ?_))
      refine wp_rename hne he h.incomingDir hin trivial ?_
      refine wp_imp (ih h' hns') ?_
      rintro - v' ⟨h'', hgone⟩
      refine ⟨h'', fun hor => ?_⟩
      by_cases hnm : n = m
      · exact hgone (.inr (by simp [hmoved, hnm]))
      · exact hgone (by simpa [hmoved, hnm] using hor)
    · rw [if_neg hat]
      refine wp_imp (ih h hns') ?_
      rintro - v' ⟨h', hgone⟩
      refine ⟨h', fun hor => hgone ?_⟩
      by_cases hnm : n = m
      · subst hnm
        right
        rcases h.pending with hroot | hin
        · exact hroot
        · simpa [has_of_ne _ _ hne, has_work, hin] using hat
      · simpa [hnm] using hor

variable (hn : n ∈ plan.incoming) (hj : v.journal = some (.plan { plan with status := st }))
  (hst : st ≠ .swapped) (hne : computeStatus v { plan with status := st } ≠ .inconsistent)
include hn hj hst hne

/-- A rollback gets to its removal with the original gone from the root. -/
theorem Losing.wp_rollbackBeforeRemoval :
    wp rollbackBeforeRemoval (fun r v' => r = some { plan with status := st } ∧
        v'.lookup .root n = none) (fun _ _ => False) (fun _ => True) v := by
  refine wp_read_bind ?_
  simp only [hj, hr.readPlan_eq]
  refine wp_bind (wp_pure ?_)
  split
  · rename_i hsw
    exact absurd (computeStatus_eq_swapped.mp hsw) hst
  · rename_i hinc
    exact absurd hinc hne
  · refine wp_bind (wp_bind (wp_imp (h.wp_moveIncomingBack hr plan.incoming (fun _ hm => hm)) ?_))
    rintro - v₁ ⟨h₁, hgone⟩
    refine wp_bind (wp_mono (wp_moveOriginalsBack_idle _ h₁.original) ?_
      (fun _ _ hE => hE) (fun _ _ => trivial))
    rintro - _ rfl
    simp only [hr.originalRoot]
    exact wp_applyRootMeta (fun _ _ _ => trivial) trivial (wp_pure ⟨rfl, hgone (.inl hn)⟩)

/-- A rollback that is not interrupted ends with the original gone from the root. -/
theorem Losing.wp_swapRollback (order : List (Removal C)) :
    wp (swapRollback order) (fun _ v' => v'.lookup .root n = none)
      (fun _ _ => False) (fun _ => True) v := by
  refine wp_bind (wp_imp (h.wp_rollbackBeforeRemoval hr hn hj hst hne) ?_)
  rintro - v₁ ⟨rfl, hgone⟩
  refine wp_bind (wp_mono (wp_removeAll order _) ?_ (fun _ _ hE => hE) (fun _ _ => trivial))
  rintro - v₂ ⟨-, htouch⟩
  simp only [hr.originalRoot]
  refine wp_bind (wp_write trivial (wp_pure ?_))
  change v₂.root.entries.lookup n = none
  rw [htouch]
  exact hgone

end Losing

end Sencho.Recovery

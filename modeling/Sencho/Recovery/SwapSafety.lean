import Sencho.Recovery.SwapPlacement

/-!
# Crash safety of the volume swap

A swap can be interrupted between any two of its renames, journal writes and
metadata calls, resumed in either direction and interrupted again.  Each call
is specified once, for every interruption point at the same time: it ends with
its own result or leaves a volume in some placement of the same swap.
-/

namespace Sencho.Recovery

open Verified Verified.Interrupt Verified.Utf8 Volume Prog

variable {id : IntentId} {C : Type}

section Loops

variable {base : Volume id C} {plan : SwapPlan} {st : SwapStatus}

section

variable (hp : Prepared base plan) (hst : InProgress st)
include hp hst

/-- Moving originals away ends with every name of the list away. -/
theorem wp_moveOriginals (ns : List FileName) (hns : ∀ n ∈ ns, n ∈ plan.originals)
    (pl : Placement plan.originals plan.incoming) (v : Volume id C) (h : At base plan pl st v)
    (hdir : (v.folder (.work .original)).isSome) :
    wp (moveOriginals ns) (fun _ v' => ∃ pl', At base plan pl' st v' ∧ pl.away ⊆ pl'.away ∧
        ∀ n ∈ ns, n ∈ pl'.away)
      (fun _ _ => False) (Moving base plan) v := by
  induction ns generalizing pl v with
  | nil => exact wp_pure ⟨pl, h, fun _ hn => hn, by simp⟩
  | cons n ns ih =>
    have hn := hns n (by simp)
    have hns' : ∀ m ∈ ns, m ∈ plan.originals := fun m hm => hns m (by simp [hm])
    refine wp_read_bind ?_
    by_cases haway : n ∈ pl.away
    · rw [if_pos ((h.has_original hp n).mpr haway)]
      refine wp_imp (ih hns' pl v h hdir) ?_
      rintro - v' ⟨pl', h', hsub, hall⟩
      refine ⟨pl', h', hsub, ?_⟩
      simpa using ⟨hsub haway, hall⟩
    · obtain ⟨e, he, -⟩ := h.root_original hp hn haway
      have hroot : v.has .root n = true := by
        rw [has_of_ne _ _ (hp.original_ne hn), he]
        rfl
      have hfree : v.lookup (.work .original) n = none := by
        rw [h.placed.original n, if_neg haway]
      rw [if_neg fun hh => haway ((h.has_original hp n).mp hh), if_pos hroot]
      refine wp_bind (wp_rename (hp.original_ne hn) he hdir hfree ⟨pl, st, hst, h⟩ (wp_bind ?_))
      have hstep := h.sendAway hp hn haway hdir
      have hdir' : ((v.move .root (.work .original) n).folder (.work .original)).isSome := by
        rw [folder_move_isSome v _ _ (hp.original_ne hn)]
        exact hdir
      refine wp_imp (ih hns' _ _ hstep hdir') ?_
      rintro k v' ⟨pl', h', hsub, hall⟩
      refine wp_pure ⟨pl', h', fun m hm => hsub ?_, ?_⟩
      · exact Finset.mem_insert_of_mem hm
      · simpa using ⟨hsub (Finset.mem_insert_self n pl.away), hall⟩

/-- Moving restored entries up ends with every name of the list up. -/
theorem wp_moveIncoming (ns : List FileName) (hns : ∀ n ∈ ns, n ∈ plan.incoming)
    (pl : Placement plan.originals plan.incoming) (v : Volume id C) (h : At base plan pl st v)
    (hall : ∀ n ∈ plan.originals, n ∈ pl.away) :
    wp (moveIncoming ns) (fun _ v' => ∃ pl', At base plan pl' st v' ∧ pl.up ⊆ pl'.up ∧
        (∀ n ∈ plan.originals, n ∈ pl'.away) ∧ ∀ n ∈ ns, n ∈ pl'.up)
      (fun _ _ => False) (Moving base plan) v := by
  induction ns generalizing pl v with
  | nil => exact wp_pure ⟨pl, h, fun _ hn => hn, hall, by simp⟩
  | cons n ns ih =>
    have hn := hns n (by simp)
    have hns' : ∀ m ∈ ns, m ∈ plan.incoming := fun m hm => hns m (by simp [hm])
    refine wp_read_bind ?_
    by_cases hup : n ∈ pl.up
    · rw [if_neg fun hh => (h.has_incoming hp hn).mp hh hup]
      refine wp_imp (ih hns' pl v h hall) ?_
      rintro - v' ⟨pl', h', hsub, hall', hups⟩
      refine ⟨pl', h', hsub, hall', ?_⟩
      simpa using ⟨hsub hup, hups⟩
    · obtain ⟨e, he, -⟩ := h.incoming_waits hp hn hup
      have hfree : v.lookup .root n = none := by
        rw [h.placed.root n, if_neg hup]
        by_cases horig : n ∈ plan.originals
        · rw [if_pos (hall n horig)]
        · rw [hp.originals, Option.not_isSome_iff_eq_none] at horig
          simp [horig]
      rw [if_pos ((h.has_incoming hp hn).mpr hup)]
      refine wp_bind (wp_rename (hp.incoming_ne hn) he rfl hfree ⟨pl, st, hst, h⟩ (wp_bind ?_))
      refine wp_imp (ih hns' _ _ (h.lift hp hn hup hall) hall) ?_
      rintro k v' ⟨pl', h', hsub, hall', hups⟩
      refine wp_pure ⟨pl', h', fun m hm => hsub ?_, hall', ?_⟩
      · exact Finset.mem_insert_of_mem hm
      · simpa using ⟨hsub (Finset.mem_insert_self n pl.up), hups⟩

end

/-- A directory that exists is not created again. -/
theorem wp_mkdirAll_of_isSome {s : Side} {Q : Unit → Volume id C → Prop}
    {E : SwapError → Volume id C → Prop} {K : Volume id C → Prop}
    {v : Volume id C} (hdir : (v.folder (.work s)).isSome) (h : Q () v) :
    wp (mkdirAll s) Q E K v := by
  refine wp_read_bind (wp_guardedBy (fun hnone => ?_) fun _ => h)
  rw [Option.isNone_iff_eq_none] at hnone
  simp [hnone] at hdir

section

variable (hp : Prepared base plan) (hst : InProgress st)
include hp hst

/-- Moving restored entries back ends with none of the list up. -/
theorem wp_moveIncomingBack (ns : List FileName) (hns : ∀ n ∈ ns, n ∈ plan.incoming)
    (pl : Placement plan.originals plan.incoming) (v : Volume id C) (h : At base plan pl st v) :
    wp (moveIncomingBack ns) (fun _ v' => ∃ pl', At base plan pl' st v' ∧ pl'.up ⊆ pl.up ∧
        ∀ n ∈ ns, n ∉ pl'.up)
      (fun _ _ => False) (Moving base plan) v := by
  induction ns generalizing pl v with
  | nil => exact wp_pure ⟨pl, h, fun _ hn => hn, by simp⟩
  | cons n ns ih =>
    have hn := hns n (by simp)
    have hns' : ∀ m ∈ ns, m ∈ plan.incoming := fun m hm => hns m (by simp [hm])
    refine wp_read_bind ?_
    by_cases hup : n ∈ pl.up
    · obtain ⟨e, he, -⟩ := h.root_incoming hp hup
      have hroot : v.has .root n = true := by
        rw [has_of_ne _ _ (hp.incoming_ne hn), he]
        rfl
      have hin : v.has (.work .incoming) n = false := by
        rw [Bool.eq_false_iff]
        exact fun hin => (h.has_incoming hp hn).mp hin hup
      have hfree : v.lookup (.work .incoming) n = none := by
        rw [h.placed.incoming n, if_pos hup]
      rw [if_pos (by simp [hroot, hin])]
      refine wp_bind (wp_mkdirAll_of_isSome h.incomingDir (wp_bind ?_))
      refine wp_rename (hp.incoming_ne hn) he h.incomingDir hfree ⟨pl, st, hst, h⟩ ?_
      refine wp_imp (ih hns' _ _ (h.lower hp hup)) ?_
      rintro - v' ⟨pl', h', hsub, hnone⟩
      refine ⟨pl', h', hsub.trans (Finset.erase_subset n pl.up), ?_⟩
      have hnot : n ∉ pl'.up := fun hmem =>
        Finset.notMem_erase n pl.up (hsub hmem)
      simpa using ⟨hnot, hnone⟩
    · rw [if_neg (by simp [(h.has_incoming hp hn).mpr hup])]
      refine wp_imp (ih hns' pl v h) ?_
      rintro - v' ⟨pl', h', hsub, hnone⟩
      refine ⟨pl', h', hsub, ?_⟩
      simpa using ⟨fun hmem => hup (hsub hmem), hnone⟩

/-- Moving originals back ends with none of the list away. -/
theorem wp_moveOriginalsBack (ns : List FileName) (hns : ∀ n ∈ ns, n ∈ plan.originals)
    (pl : Placement plan.originals plan.incoming) (v : Volume id C) (h : At base plan pl st v)
    (hup : pl.up = ∅) :
    wp (moveOriginalsBack ns) (fun _ v' => ∃ pl', At base plan pl' st v' ∧ pl'.up = ∅ ∧
        pl'.away ⊆ pl.away ∧ ∀ n ∈ ns, n ∉ pl'.away)
      (fun _ _ => False) (Moving base plan) v := by
  induction ns generalizing pl v with
  | nil => exact wp_pure ⟨pl, h, hup, fun _ hn => hn, by simp⟩
  | cons n ns ih =>
    have hn := hns n (by simp)
    have hns' : ∀ m ∈ ns, m ∈ plan.originals := fun m hm => hns m (by simp [hm])
    refine wp_read_bind ?_
    by_cases haway : n ∈ pl.away
    · obtain ⟨e, he, -⟩ := h.original_away hp haway
      have hfree : v.lookup .root n = none := by
        rw [h.placed.root n, hup, if_pos haway]
        simp
      rw [if_pos ((h.has_original hp n).mpr haway)]
      refine wp_bind (wp_rename (hp.original_ne hn) he rfl hfree ⟨pl, st, hst, h⟩ ?_)
      refine wp_imp (ih hns' _ _ (h.bringBack hp haway hup) hup) ?_
      rintro - v' ⟨pl', h', hup', hsub, hnone⟩
      refine ⟨pl', h', hup', hsub.trans (Finset.erase_subset n pl.away), ?_⟩
      have hnot : n ∉ pl'.away := fun hmem =>
        Finset.notMem_erase n pl.away (hsub hmem)
      simpa using ⟨hnot, hnone⟩
    · rw [if_neg fun hh => haway ((h.has_original hp n).mp hh)]
      refine wp_imp (ih hns' pl v h hup) ?_
      rintro - v' ⟨pl', h', hup', hsub, hnone⟩
      refine ⟨pl', h', hup', hsub, ?_⟩
      simpa using ⟨fun hmem => haway (hsub hmem), hnone⟩

end

end Loops

section Calls

variable {base : Volume id C} {plan : SwapPlan} {st : SwapStatus}
  {pl : Placement plan.originals plan.incoming} {v : Volume id C}

theorem InProgress.ne_swapped (hst : InProgress st) : st ≠ .swapped := by
  rcases hst with rfl | rfl | rfl <;> simp

section

variable (hst : InProgress st) (h : At base plan pl st v)
include hst h

/-- The directory for the originals is there before the first of them moves. -/
theorem wp_mkdirAll_original : wp (mkdirAll .original) (fun _ v' => At base plan pl st v' ∧
        (v'.folder (.work .original)).isSome)
      (fun (_ : SwapError) _ => False) (Moving base plan) v := by
  by_cases hdir : (v.folder (.work .original)).isSome
  · exact wp_mkdirAll_of_isSome hdir ⟨h, hdir⟩
  · rw [Option.not_isSome_iff_eq_none] at hdir
    refine wp_read_bind (wp_guardedBy (fun _ => ?_) fun hnot => ?_)
    · exact wp_write ⟨pl, st, hst, h⟩ ⟨h.newOriginal hdir _, folder_newFolder h.work_isSome _ _⟩
    · simp [hdir] at hnot

/-- A guarded journal write on a swap in progress. -/
theorem wp_guarded_writePlan {c : Bool} {st' : SwapStatus} {Q : Unit → Volume id C → Prop}
    (hyes : c = true → Q () (v.setJournal { plan with status := st' })) (hno : c = false → Q () v) :
    wp (guardedBy c (writePlan { plan with status := st' })) Q
      (fun (_ : SwapError) _ => False) (Moving base plan) v :=
  wp_guardedBy (fun hc => wp_write ⟨pl, st, hst, h⟩ (hyes hc)) hno

end

/-- Both passes of a commit put every entry where it belongs. -/
theorem wp_commitMoves (hp : Prepared base plan) (hst : InProgress st) (h : At base plan pl st v) :
    wp (commitMoves { plan with status := st })
      (fun _ v' => ∃ pl' st', InProgress st' ∧ Full pl' ∧ At base plan pl' st' v')
      (fun _ _ => False) (Moving base plan) v := by
  refine wp_bind (wp_imp (wp_mkdirAll_original hst h) ?_)
  rintro - v₁ ⟨h₁, hdir₁⟩
  obtain ⟨st₂, hst₂, hwrite⟩ : ∃ st₂, InProgress st₂ ∧ wp (guardedBy (decide (st = .planned))
          (writePlan { plan with status := .movingOriginals }))
        (fun _ v' => At base plan pl st₂ v' ∧ (v'.folder (.work .original)).isSome)
        (fun (_ : SwapError) _ => False) (Moving base plan) v₁ := by
    by_cases hplanned : st = .planned
    · refine ⟨.movingOriginals, .inr (.inl rfl), ?_⟩
      refine wp_guarded_writePlan hst h₁ (fun _ => ⟨h₁.setJournal hp.toJournaled _, ?_⟩) ?_
      · rw [folder_setJournal]
        exact hdir₁
      · simp [hplanned]
    · refine ⟨st, hst, wp_guarded_writePlan hst h₁ ?_ fun _ => ⟨h₁, hdir₁⟩⟩
      simp [hplanned]
  refine wp_bind (wp_imp hwrite ?_)
  rintro - v₂ ⟨h₂, hdir₂⟩
  refine wp_bind (wp_imp (wp_moveOriginals hp hst₂ plan.originals (fun _ hn => hn) pl v₂ h₂ hdir₂)
    ?_)
  rintro away v₃ ⟨pl₃, h₃, -, hall₃⟩
  have hmark : wp (guardedBy (decide (st ≠ .movingIncoming))
        (writePlan { plan with status := .movingIncoming }))
      (fun _ v' => ∃ st₄, InProgress st₄ ∧ At base plan pl₃ st₄ v')
      (fun (_ : SwapError) _ => False) (Moving base plan) v₃ :=
    wp_guarded_writePlan hst₂ h₃
      (fun _ => ⟨.movingIncoming, .inr (.inr rfl), h₃.setJournal hp.toJournaled _⟩)
      (fun _ => ⟨st₂, hst₂, h₃⟩)
  refine wp_bind (wp_imp hmark ?_)
  rintro - v₄ ⟨st₄, hst₄, h₄⟩
  refine wp_bind (wp_imp (wp_moveIncoming hp hst₄ plan.incoming (fun _ hn => hn) pl₃ v₄ h₄ hall₃)
    ?_)
  rintro up v₅ ⟨pl₅, h₅, -, hall₅, hup₅⟩
  exact wp_pure ⟨pl₅, st₄, hst₄, ⟨hall₅, hup₅⟩, h₅⟩

theorem Moving.setStat (h : Moving base plan v) (g : RootMeta → RootMeta) :
    Moving base plan (v.setStat g) := by
  obtain ⟨pl, st, hst, h⟩ := h
  exact ⟨pl, st, hst, h.setStat g⟩

/-- The commit marker is written over the restored root metadata. -/
theorem wp_commitMarker (hr : Journaled base plan) {st' : SwapStatus} (hst : InProgress st)
    (h : At base plan pl st v) (hfull : Full pl) :
    wp (commitMarker { plan with status := st' })
      (fun _ => Committed base plan) (fun _ _ => False) (Moving base plan) v := by
  have hmoving : Moving base plan v := ⟨pl, st, hst, h⟩
  have h' := h.setStat fun _ => plan.root
  refine wp_bind (wp_applyRootMeta (fun g u hu => hu.setStat g) hmoving ?_)
  refine wp_bind (wp_read_bind ?_)
  rw [if_pos h'.incomingDir]
  exact wp_pure (wp_write ⟨pl, st, hst, h'⟩ ⟨pl, hfull, h'.setJournal hr .swapped, rfl⟩)

/-- A commit from any state of a swap ends committed, or in a state of the
same swap. -/
theorem wp_swapCommit (hp : Prepared base plan) (h : SwapInv base plan v) : wp swapCommit
      (fun r v' => r.status = .swapped ∧ Committed base plan v')
      (fun _ _ => False) (Moving base plan) v := by
  have hgate : ∀ {pl st}, At base plan pl st v →
      v.journal = some (.plan { plan with status := st }) ∧
        (v.dev = plan.rootDev ∧ v.ino = plan.rootIno) ∧
        computeStatus v { plan with status := st } ≠ .inconsistent := by
    intro pl st h
    refine ⟨h.journal, ?_, h.computeStatus_ne hp⟩
    rw [h.device.1, h.device.2]
    exact hp.device
  refine wp_read_bind ?_
  rcases h with ⟨pl, st, hst, h⟩ | ⟨pl, hfull, h, hstat⟩
  · obtain ⟨hj, ⟨hdev, hino⟩, hcs⟩ := hgate h
    simp only [hj, hp.readPlan_eq]
    refine wp_bind (wp_pure ?_)
    rw [if_neg (by simp [hp.owner]), if_neg (by simp [hdev, hino]), if_neg hcs,
      if_neg hst.ne_swapped]
    refine wp_bind (wp_imp (wp_commitMoves hp hst h) ?_)
    rintro moved v₁ ⟨pl₁, st₁, hst₁, hfull₁, h₁⟩
    refine wp_bind (wp_imp (wp_commitMarker hp.toJournaled hst₁ h₁ hfull₁) ?_)
    intro _ v₂ h₂
    exact wp_pure ⟨rfl, h₂⟩
  · obtain ⟨hj, ⟨hdev, hino⟩, hcs⟩ := hgate h
    simp only [hj, hp.readPlan_eq]
    refine wp_bind (wp_pure ?_)
    rw [if_neg (by simp [hp.owner]), if_neg (by simp [hdev, hino]), if_neg hcs, if_pos rfl]
    exact wp_pure ⟨rfl, pl, hfull, h, hstat⟩

/-- Every entry is back where `prepare` found it, the root's metadata
included. -/
def Restored (base : Volume id C) (plan : SwapPlan) (v : Volume id C) : Prop :=
  ∃ pl st, InProgress st ∧ pl.up = ∅ ∧ pl.away = ∅ ∧ At base plan pl st v ∧
    v.root.stat = base.root.stat

section

variable (hp : Prepared base plan)
include hp

theorem wp_rollbackMoves (hst : InProgress st) (h : At base plan pl st v) (st' : SwapStatus) :
    wp (rollbackMoves { plan with status := st' })
      (fun _ => Restored base plan) (fun _ _ => False) (Moving base plan) v := by
  refine wp_bind (wp_imp (wp_moveIncomingBack hp hst plan.incoming (fun _ hn => hn) pl v h) ?_)
  rintro - v₁ ⟨pl₁, h₁, -, hnone₁⟩
  have hup₁ : pl₁.up = ∅ := by
    rw [Finset.eq_empty_iff_forall_notMem]
    exact fun n hn => hnone₁ n (pl₁.up_sub n hn) hn
  refine wp_bind (wp_imp (wp_moveOriginalsBack hp hst plan.originals
    (fun _ hn => hn) pl₁ v₁ h₁ hup₁) ?_)
  rintro - v₂ ⟨pl₂, h₂, hup₂, -, hnone₂⟩
  have haway₂ : pl₂.away = ∅ := by
    rw [Finset.eq_empty_iff_forall_notMem]
    exact fun n hn => hnone₂ n (pl₂.away_sub n hn) hn
  simp only [hp.originalRoot]
  exact wp_applyRootMeta (fun g u hu => hu.setStat g) ⟨pl₂, st, hst, h₂⟩
    ⟨pl₂, st, hst, hup₂, haway₂, h₂.setStat _, rfl⟩

/-- A rollback of a swap in progress puts everything back before it removes
the work directory. -/
theorem wp_rollbackBeforeRemoval (h : Moving base plan v) : wp rollbackBeforeRemoval
      (fun r v' => (∃ st, r = some { plan with status := st }) ∧ Restored base plan v')
      (fun _ _ => False) (Moving base plan) v := by
  obtain ⟨pl, st, hst, h⟩ := h
  refine wp_read_bind ?_
  simp only [h.journal, hp.readPlan_eq]
  refine wp_bind (wp_pure ?_)
  have hmoves : wp (do
        rollbackMoves { plan with status := st }
        pure (some { plan with status := st }) : SwapM id C (Option SwapPlan))
      (fun r v' => (∃ st, r = some { plan with status := st }) ∧
        Restored base plan v') (fun _ _ => False) (Moving base plan) v := by
    refine wp_bind (wp_imp (wp_rollbackMoves hp hst h st) ?_)
    intro _ v₁ h₁
    exact wp_pure ⟨⟨st, rfl⟩, h₁⟩
  split
  · rename_i hsw
    exact absurd (computeStatus_eq_swapped.mp hsw) hst.ne_swapped
  · rename_i hinc
    exact absurd hinc (h.computeStatus_ne hp)
  · exact hmoves

/-- A committed swap refuses a rollback. -/
theorem wp_rollbackBeforeRemoval_committed (h : Committed base plan v) :
    wp rollbackBeforeRemoval (fun _ _ => False)
      (fun e v' => e = .committed ∧ v' = v) (fun _ => False) v := by
  obtain ⟨pl, -, h, -⟩ := h
  refine wp_read_bind ?_
  simp only [h.journal, hp.readPlan_eq]
  refine wp_bind (wp_pure ?_)
  exact wp_fail ⟨rfl, rfl⟩

end

end Calls

theorem Removal.root_apply (r : Removal C) (v : Volume id C) : (r.apply v).root = v.root := by
  rcases r with _ | ⟨s, n, _ | left⟩ | s
  · rfl
  · rfl
  · simp only [Removal.apply]
    split <;> rfl
  · rfl

/-- Whatever the order of its deletions, a removal that finishes takes the work
directory and leaves the root's entries alone. -/
theorem wp_removeAll (order : List (Removal C)) (v : Volume id C) : wp (removeAll order)
      (fun _ v' => v'.work = none ∧ v'.root = v.root.touch v'.root.stat.mtime)
      (fun (_ : SwapError) _ => False) (fun v' => v'.root = v.root) v := by
  induction order generalizing v with
  | nil => exact wp_write rfl ⟨rfl, rfl⟩
  | cons r rest ih =>
    refine wp_write_bind rfl (wp_mono (ih (r.apply v)) ?_ (fun _ _ hE => hE) ?_)
    · rintro - v' ⟨hw, hroot⟩
      exact ⟨hw, by rw [hroot, Removal.root_apply]; rfl⟩
    · intro v' hroot
      rw [hroot, Removal.root_apply]

variable {plan : SwapPlan}

/-- A rollback that nobody interrupts, from any state of a swap that has not
committed. -/
theorem wp_swapRollback {base v : Volume id C} (hp : Prepared base plan) (h : Moving base plan v)
    (order : List (Removal C)) :
    wp (swapRollback order) (fun r v' => r = ⟨.rolledBack, 0⟩ ∧ v'.work = none ∧
        (∀ n, v'.lookup .root n = base.lookup .root n) ∧
        v'.root.stat = base.root.stat)
      (fun _ _ => False) (fun _ => True) v := by
  refine wp_bind (wp_mono (wp_rollbackBeforeRemoval hp h) ?_ (fun _ _ hE => hE)
    (fun _ _ => trivial))
  rintro r v₁ ⟨⟨st', rfl⟩, pl, st, -, hup, haway, h₁, hstat⟩
  have hroot : ∀ n, v₁.lookup .root n = base.lookup .root n := by
    intro n
    rw [h₁.placed.root n, hup, haway]
    simp
  refine wp_bind (wp_mono (wp_removeAll order v₁) ?_ (fun _ _ hE => hE) (fun _ _ => trivial))
  rintro - v₂ ⟨hw, htouch⟩
  simp only [hp.originalRoot]
  refine wp_bind (wp_write trivial (wp_pure ⟨rfl, hw, fun n => ?_, ?_⟩))
  · rw [← hroot n]
    change v₂.root.entries.lookup n = v₁.root.entries.lookup n
    rw [htouch]
    rfl
  · change { v₂.root.stat with mtime := base.root.stat.mtime } = base.root.stat
    rw [htouch, ← hstat]
    rfl

/-- The calls of a swap after its `prepare`.  A rollback is taken up to the
point where it starts to remove the work directory. -/
inductive SwapCall where
  | prepare
  | commit
  | rollback

/-- What one call leaves in the volume when it is cut off by a budget. -/
def SwapCall.after (b : Budget) (v : Volume id C) : SwapCall → Volume id C
  | .prepare => swapPrepare.after b v
  | .commit => swapCommit.after b v
  | .rollback => rollbackBeforeRemoval.after b v

/-- A sequence of calls, each cut off by its own budget. -/
def runSwapCalls (calls : List (SwapCall × Budget)) (v : Volume id C) : Volume id C :=
  calls.foldl (fun v call => call.1.after call.2 v) v

/-- A repeated `prepare` answers from the journal and writes nothing. -/
theorem wp_swapPrepare_resumed {base v : Volume id C} (hr : Journaled base plan)
    {st : SwapStatus} (hj : v.journal = some (.plan { plan with status := st })) :
    wp swapPrepare (fun _ v' => v' = v) (fun _ v' => v' = v) (fun v' => v' = v) v := by
  refine wp_read_bind ?_
  split
  · exact wp_fail rfl
  · split
    · exact wp_fail rfl
    · simp only [hj, hr.readPlan_eq]
      refine wp_bind (wp_pure ?_)
      rw [if_neg (by simp [hr.owner])]
      exact wp_pure rfl

section Runs

variable {base v : Volume id C} {plan : SwapPlan}

section

variable (hp : Prepared base plan) (h : SwapInv base plan v)
include hp h

/-- One call, cut off anywhere, keeps the invariant. -/
theorem SwapInv.step (b : Budget) (call : SwapCall) : SwapInv base plan (call.after b v) := by
  cases call with
  | prepare =>
    obtain ⟨st, hj⟩ : ∃ st, v.journal = some (.plan { plan with status := st }) := by
      rcases h with ⟨pl, st, -, h⟩ | ⟨pl, -, h, -⟩
      · exact ⟨st, h.journal⟩
      · exact ⟨_, h.journal⟩
    have hsame : swapPrepare.after b v = v :=
      after_of_wp (wp_swapPrepare_resumed hp.toJournaled hj) b
    rw [SwapCall.after, hsame]
    exact h
  | commit =>
    refine after_of_wp (I := SwapInv base plan) (wp_mono (wp_swapCommit hp h) ?_ ?_ ?_) b
    · exact fun _ _ hQ => .inr hQ.2
    · exact fun _ _ hE => hE.elim
    · exact fun _ hK => .inl hK
  | rollback =>
    rcases h with h | h
    · refine after_of_wp (I := SwapInv base plan)
        (wp_mono (wp_rollbackBeforeRemoval hp h) ?_ ?_ ?_) b
      · rintro r v' ⟨-, pl, st, hst, -, -, h', -⟩
        exact .inl ⟨pl, st, hst, h'⟩
      · exact fun _ _ hE => hE.elim
      · exact fun _ hK => .inl hK
    · refine after_of_wp (I := SwapInv base plan)
        (wp_mono (wp_rollbackBeforeRemoval_committed hp h) ?_ ?_ ?_) b
      · exact fun _ _ hQ => hQ.elim
      · rintro e v' ⟨-, rfl⟩
        exact .inr h
      · exact fun _ hK => hK.elim

/-- Any sequence of interrupted calls keeps the invariant. -/
theorem SwapInv.run (calls : List (SwapCall × Budget)) :
    SwapInv base plan (runSwapCalls calls v) := by
  induction calls generalizing v with
  | nil => exact h
  | cons call rest ih => exact ih (h.step hp call.2 call.1)

end

end Runs

theorem Volume.work_isSome_of_folder {v : Volume id C} {s : Side} {f : Folder C}
    (h : v.folder (.work s) = some f) : v.work.isSome := by
  cases hw : v.work with
  | none => simp [folder, hw] at h
  | some w => rfl

/-- The plan a fresh `prepare` writes records the volume it was written into. -/
theorem journaled_freshPlan {v₀ : Volume id C} {f : Folder C}
    (hin : v₀.folder (.work .incoming) = some f) (horig : v₀.folder (.work .original) = none) :
    Journaled (v₀.setJournal (freshPlan v₀ f)) (freshPlan v₀ f).encoded where
  journal := journal_setJournal _ (work_isSome_of_folder hin)
  encoded := SwapPlan.encoded_encoded _
  status := rfl
  version := rfl
  owner := coerce_eq_iff.mpr (valid_of_ascii (isAscii_of_hexGroups id.2))
  device := ⟨rfl, rfl⟩
  fromRoot n := by
    simp only [SwapPlan.encoded, freshPlan, List.mem_map, List.mem_filter, mem_listNames,
      decide_eq_true_eq, lookup_setJournal]
    refine exists_congr fun m => and_congr_left fun _ => ⟨?_, fun hsome => ?_⟩
    · rintro ⟨hhas, hne⟩
      rwa [has_of_ne _ _ hne] at hhas
    · have hne : m ≠ workDirName id := by
        rintro rfl
        simp at hsome
      exact ⟨by rwa [has_of_ne _ _ hne], hne⟩
  fromIncoming n := by
    simp only [SwapPlan.encoded, freshPlan, withoutWorkDirs, List.mem_map, List.mem_filter,
      mem_listNames, has_work, restoredEntry, lookup_setJournal]
    refine exists_congr fun m => and_congr_left fun _ => ?_
    by_cases hname : isWorkDirName m <;> simp [hname]
  originalRoot := rfl
  incomingDir := by
    rw [folder_setJournal, hin]
    rfl
  originalDir := by
    rw [folder_setJournal, horig]

/-- A `prepare` of a volume without a journal records what it found and
changes no directory; one that does not return changes nothing. -/
theorem wp_swapPrepare_fresh {v₀ : Volume id C} (hfr : v₀.journal = none) : wp swapPrepare
      (fun r v' => r = ⟨.planned, 0⟩ ∧ (∃ plan, Journaled v' plan) ∧
        (∀ p n, v'.lookup p n = v₀.lookup p n) ∧ v'.root = v₀.root)
      (fun _ v' => v' = v₀) (fun v' => v' = v₀) v₀ := by
  refine wp_read_bind ?_
  split
  · exact wp_fail rfl
  · rename_i f hin
    split
    · exact wp_fail rfl
    · simp only [hfr]
      split
      · exact wp_fail rfl
      · rename_i horig
        rw [Option.not_isSome_iff_eq_none] at horig
        refine wp_write_bind rfl (wp_pure ⟨rfl, ?_, ?_, rfl⟩)
        · exact ⟨_, journaled_freshPlan hin horig⟩
        · exact fun p n => lookup_setJournal _ _ _ _

/-- What a volume holds decides how it is spelled. -/
theorem Spelled.of_lookup {v v' : Volume id C} (h : Spelled v)
    (hsame : ∀ p n, v'.lookup p n = v.lookup p n) : Spelled v' := by
  have hrest : restoredEntry v' = restoredEntry v := by
    funext n
    simp [restoredEntry, hsame]
  rw [Spelled, hrest, funext (hsame .root)]
  exact h

section Readings

variable {base v : Volume id C} {plan : SwapPlan}

theorem SwapInv.placed (h : SwapInv base plan v) :
    ∃ pl : Placement plan.originals plan.incoming, Placed base pl v := by
  rcases h with ⟨pl, st, -, h⟩ | ⟨pl, -, h, -⟩
  · exact ⟨pl, h.placed⟩
  · exact ⟨pl, h.placed⟩

theorem SwapInv.journal (hp : Prepared base plan) (h : SwapInv base plan v) :
    ∃ st, v.journal = some (.plan { plan with status := st }) ∧
      computeStatus v { plan with status := st } ≠ .inconsistent ∧
      (st ≠ .swapped → Moving base plan v) := by
  rcases h with ⟨pl, st, hst, h⟩ | ⟨pl, -, h, -⟩
  · exact ⟨st, h.journal, h.computeStatus_ne hp, fun _ => ⟨pl, st, hst, h⟩⟩
  · exact ⟨.swapped, h.journal, h.computeStatus_ne hp, fun hne => absurd rfl hne⟩

/-- A committed volume holds exactly the restored entries at its root and
exactly the originals in the work directory. -/
theorem Committed.readings (hp : Prepared base plan) (hspelled : Spelled base)
    (h : Committed base plan v) (n : FileName) :
    v.lookup .root n = restoredEntry base n ∧
      v.lookup (.work .original) n = base.lookup .root n := by
  obtain ⟨pl, ⟨haway, hup⟩, h, -⟩ := h
  have horig : n ∉ pl.away → base.lookup .root n = none := by
    intro hn
    have hnot : n ∉ plan.originals := fun hmem => hn (haway n hmem)
    rwa [hp.originals, Option.not_isSome_iff_eq_none] at hnot
  constructor
  · rw [h.placed.root n]
    by_cases hn : n ∈ pl.up
    · rw [if_pos hn, restoredEntry_eq (hp.incoming_plain (pl.up_sub n hn))]
    · have hrest : restoredEntry base n = none := by
        rw [← Option.not_isSome_iff_eq_none]
        intro hsome
        have hname := coerce_eq_iff.mpr (hspelled.restored n hsome)
        exact hn (hup n ((hp.fromIncoming n).mpr ⟨n, hsome, hname⟩))
      rw [if_neg hn, hrest]
      split
      · rfl
      · rename_i haway'
        exact horig haway'
  · rw [h.placed.original n]
    split
    · rfl
    · rename_i hn
      exact (horig hn).symm

end Readings

/-- Every original and every restored entry is in exactly one place with its
content, in a state the helper explains; a commit that is not interrupted
completes the swap, and a rollback that is not interrupted undoes it unless the
journal says it is committed. -/
structure Resumable (v₀ v : Volume id C) : Prop where
  placed : ∃ originals incoming : List FileName,
    (∀ n, n ∈ originals ↔ (v₀.lookup .root n).isSome) ∧
      (∀ n, n ∈ incoming ↔ (restoredEntry v₀ n).isSome) ∧
      ∃ pl : Placement originals incoming, Placed v₀ pl v
  explained : ∃ r, swapStatus.outcome none v = .done r ∧ r.status ≠ .inconsistent
  rollback : (∀ plan, v.journal = some (.plan plan) → plan.status ≠ .swapped) → ∀ order,
    (swapRollback order).outcome none v = .done ⟨.rolledBack, 0⟩ ∧
      ((swapRollback order).after none v).work = none ∧
      ((swapRollback order).after none v).root.stat = v₀.root.stat ∧
      ∀ n, ((swapRollback order).after none v).lookup .root n = v₀.lookup .root n
  commit : (∃ moved, swapCommit.outcome none v = .done ⟨.swapped, moved⟩) ∧
    (swapCommit.after none v).work.isSome ∧
    ∀ n, (swapCommit.after none v).lookup .root n = restoredEntry v₀ n ∧
      (swapCommit.after none v).lookup (.work .original) n = v₀.lookup .root n

/-- The status of a volume whose journal reads well. -/
theorem wp_swapStatus_of {v : Volume id C} (hj : v.journal = some (.plan plan))
    (hr : readPlan (.plan plan) = .ok plan) : wp swapStatus
      (fun r v' => r = ⟨computeStatus v plan, 0⟩ ∧ v' = v) (fun _ _ => False) (fun _ => True)
      v := by
  refine wp_read_bind ?_
  simp only [hj, hr]
  exact wp_bind (wp_pure (wp_pure ⟨rfl, rfl⟩))

/-- Names that are UTF-8 leave a swap resumable, after any sequence of commits and rollbacks,
each cut off anywhere before a removal of the work directory. -/
theorem SwapInv.resumable {v₀ base v : Volume id C} (hp : Prepared base plan)
    (hspelled : Spelled base) (hsame : ∀ p n, base.lookup p n = v₀.lookup p n)
    (hroot : base.root = v₀.root) (hinv : SwapInv base plan v) : Resumable v₀ v := by
  have hrest : ∀ n, restoredEntry base n = restoredEntry v₀ n := by
    intro n
    simp [restoredEntry, hsame]
  obtain ⟨st, hj, hcs, hmoving⟩ := hinv.journal hp
  constructor
  · refine ⟨plan.originals, plan.incoming, fun n => ?_, fun n => ?_, ?_⟩
    · rw [hp.originals, hsame]
    · rw [← hrest n, hp.fromIncoming]
      constructor
      · rintro ⟨m, hm, rfl⟩
        rwa [coerce_eq_iff.mpr (hspelled.restored m hm)]
      · exact fun hn => ⟨n, hn, coerce_eq_iff.mpr (hspelled.restored n hn)⟩
    · obtain ⟨pl, hpl⟩ := hinv.placed
      refine ⟨pl, ⟨fun n => ?_, fun n => ?_, fun n => ?_⟩⟩
      · rw [hpl.root n, hsame, hsame]
      · rw [hpl.original n, hsame]
      · rw [hpl.incoming n, hsame]
  · obtain ⟨r, hout, rfl, -⟩ := done_of_wp (wp_swapStatus_of hj (hp.readPlan_eq st))
    exact ⟨_, hout, hcs⟩
  · intro hopen order
    obtain ⟨r, hout, rfl, hwork, hlook, hstat⟩ :=
      done_of_wp (wp_swapRollback hp (hmoving (hopen _ hj)) order)
    refine ⟨hout, hwork, by rw [hstat, hroot], fun n => ?_⟩
    rw [hlook n, hsame]
  · obtain ⟨⟨s, moved⟩, hout, hs, hcom⟩ := done_of_wp (wp_swapCommit hp hinv)
    obtain rfl : s = .swapped := hs
    refine ⟨⟨moved, hout⟩, ?_, fun n => ?_⟩
    · obtain ⟨pl, -, h, -⟩ := hcom
      exact h.work_isSome
    · rw [← hrest n, ← hsame .root n]
      exact hcom.readings hp hspelled n

/-- An intent id of the shape the host generates. -/
def sampleId : IntentId := ⟨ascii "00000000-0000-4000-8000-000000000000", by decide⟩

/-- A volume with two originals and a restored snapshot of two entries, one
name in both. -/
def overlapVolume : Volume sampleId Nat where
  root := ⟨(∅ : Entries Nat).insert (ascii "a") ⟨false, 1⟩ |>.insert (ascii "b") ⟨true, 2⟩,
    ⟨0, 0, 0o755#12, 7⟩⟩
  work := some ⟨none, none, some ⟨(∅ : Entries Nat).insert (ascii "b") ⟨false, 3⟩ |>.insert
      (ascii "c") ⟨false, 4⟩, ⟨999, 999, 0o700#12, 5⟩⟩⟩
  dev := 1
  ino := 2
  clock := 10
  reserved := by decide

end Sencho.Recovery

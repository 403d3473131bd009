import Sencho.Recovery.HelperSteps

/-!
# The volume of a staged overwrite

A staged overwrite takes the volume from the original entries to the restored
ones through the states below.  This module says how whole and interrupted
helper steps move it between them.
-/

namespace Sencho.Recovery

open Verified Verified.Interrupt Verified.Utf8 Prog

variable {id : IntentId} {C : Type}

/-- The root holds exactly these entries. -/
def RootHolds (entries : FileName → Option (Entry C)) (v : Volume id C) : Prop :=
  ∀ n, v.lookup .root n = entries n

/-- The work directory is gone and the root holds exactly these entries. -/
structure Clear (entries : FileName → Option (Entry C)) (v : Volume id C) : Prop where
  work : v.work = none
  root : RootHolds entries v

/-- There is no journal: restored data may lie beside the entries. -/
structure Beside (orig : FileName → Option (Entry C)) (v : Volume id C) : Prop where
  journal : v.journal = none
  root : RootHolds orig v

/-- A prepared swap of the original entries for the restored ones. -/
structure SwapOf (orig restored : FileName → Option (Entry C)) (base : Volume id C)
    (plan : SwapPlan) : Prop where
  prepared : Prepared base plan
  spelled : Spelled base
  root : RootHolds orig base
  restored : ∀ n, restoredEntry base n = restored n

/-- The swap of the two has not committed. -/
def Uncommitted (orig restored : FileName → Option (Entry C)) (v : Volume id C) : Prop :=
  ∃ base plan, SwapOf orig restored base plan ∧ Moving base plan v

/-- The swap of the two has its commit marker. -/
def Marked (orig restored : FileName → Option (Entry C)) (v : Volume id C) : Prop :=
  ∃ base plan, SwapOf orig restored base plan ∧ Committed base plan v

section Volumes

variable {orig restored : FileName → Option (Entry C)} {v : Volume id C}

theorem Clear.beside (h : Clear orig v) : Beside orig v :=
  ⟨by rw [Volume.journal, h.work]; rfl, h.root⟩

theorem Uncommitted.journal (h : Uncommitted orig restored v) :
    ∃ plan, v.journal = some (.plan plan) ∧ plan.status ≠ .swapped ∧
      readPlan (.plan plan) = .ok plan ∧ computeStatus v plan ≠ .inconsistent := by
  obtain ⟨base, plan, hswap, pl, st, hst, hat⟩ := h
  exact ⟨_, hat.journal, hst.ne_swapped, hswap.prepared.readPlan_eq st,
    hat.computeStatus_ne hswap.prepared⟩

theorem Marked.journal (h : Marked orig restored v) :
    ∃ plan, v.journal = some (.plan plan) ∧ plan.status = .swapped ∧
      readPlan (.plan plan) = .ok plan := by
  obtain ⟨base, plan, hswap, pl, -, hat, -⟩ := h
  exact ⟨_, hat.journal, rfl, hswap.prepared.readPlan_eq _⟩

theorem Uncommitted.work (h : Uncommitted orig restored v) : v.work.isSome := by
  obtain ⟨plan, hj, -⟩ := h.journal
  exact Volume.work_isSome_of_journal hj

theorem Marked.work (h : Marked orig restored v) : v.work.isSome := by
  obtain ⟨plan, hj, -⟩ := h.journal
  exact Volume.work_isSome_of_journal hj

theorem Uncommitted.not_closed (h : Uncommitted orig restored v) : ¬ Closed v := by
  obtain ⟨plan, hj, hst, -⟩ := h.journal
  exact fun hclosed => hst (hclosed plan hj)

/-- A rollback without a journal removes what there is. -/
theorem Beside.wp_swapRollback (h : Beside orig v) (order : List (Removal C)) :
    wp (swapRollback order) (fun _ => Clear orig) (fun _ _ => False) (fun _ => True)
      v := by
  refine wp_bind (wp_read_bind ?_)
  simp only [h.journal]
  refine wp_pure (wp_read_bind (wp_bind (wp_guardedBy (fun _ => ?_) fun hw => ?_)))
  · refine wp_mono (wp_removeAll order v) (fun _ v' hQ => wp_pure ⟨hQ.1, fun n => ?_⟩)
      (fun _ _ hE => hE) (fun _ _ => trivial)
    rw [Volume.lookup_root, hQ.2]
    exact h.root n
  · exact wp_pure ⟨by simpa using hw, h.root⟩

theorem Uncommitted.wp_swapRollback (h : Uncommitted orig restored v) (order : List (Removal C)) :
    wp (swapRollback order) (fun _ => Clear orig) (fun _ _ => False) (fun _ => True)
      v := by
  obtain ⟨base, plan, hswap, hmoving⟩ := h
  refine wp_imp (Recovery.wp_swapRollback hswap.prepared hmoving order)
    (fun _ v' hQ => ⟨hQ.2.1, fun n => ?_⟩)
  rw [hQ.2.2.1 n]
  exact hswap.root n

/-- A rollback refuses a committed swap. -/
theorem Marked.wp_swapRollback (h : Marked orig restored v) (order : List (Removal C)) :
    wp (swapRollback order) (fun _ _ => False) (fun _ v' => v' = v) (fun _ => False)
      v := by
  obtain ⟨base, plan, hswap, hcommitted⟩ := h
  exact wp_bind (wp_mono
    (wp_rollbackBeforeRemoval_committed hswap.prepared hcommitted)
    (fun _ _ hQ => hQ.elim) (fun _ _ hE => hE.2) (fun _ hK => hK))

/-- A commit of a prepared swap ends with the marker, or in a state of the swap. -/
theorem wp_swapCommit_of (h : Uncommitted orig restored v ∨ Marked orig restored v) :
    wp swapCommit (fun r v' => r.status = .swapped ∧ Marked orig restored v')
      (fun _ _ => False) (Uncommitted orig restored) v := by
  obtain ⟨base, plan, hswap, hinv⟩ :
      ∃ base plan, SwapOf orig restored base plan ∧ SwapInv base plan v := by
    rcases h with ⟨base, plan, hswap, hv⟩ | ⟨base, plan, hswap, hv⟩
    · exact ⟨base, plan, hswap, .inl hv⟩
    · exact ⟨base, plan, hswap, .inr hv⟩
  exact wp_mono (wp_swapCommit hswap.prepared hinv)
    (fun _ _ hQ => ⟨hQ.1, base, plan, hswap, hQ.2⟩) (fun _ _ hE => hE)
    (fun _ hK => ⟨base, plan, hswap, hK⟩)

/-- Removing one of the two directories leaves the root alone. -/
theorem wp_removeSide_root (side : Side) (order : List (FileName × Option (Entry C)))
    (v : Volume id C) :
    wp (removeSide side order) (fun _ v' => v'.root = v.root)
      (fun (_ : SwapError) _ => False) (fun _ => True) v := by
  induction order generalizing v with
  | nil => exact wp_write trivial (Removal.root_apply _ v)
  | cons part rest ih =>
    refine wp_write_bind trivial (wp_imp (ih _) (fun _ v' hQ => ?_))
    rw [hQ, Removal.root_apply]

/-- A clean-up of a committed swap leaves the restored entries and nothing else. -/
theorem Marked.wp_swapCleanup (h : Marked orig restored v) (order : CleanupOrder C) :
    wp (swapCleanup order) (fun _ => Clear restored) (fun _ _ => False) (fun _ => True)
      v := by
  obtain ⟨plan, hj, hst, hread⟩ := h.journal
  have hroot : RootHolds restored v := by
    obtain ⟨base, plan, hswap, hcommitted⟩ := h
    intro n
    rw [(hcommitted.readings hswap.prepared hswap.spelled n).1, hswap.restored n]
  refine wp_read_bind ?_
  simp only [hj, hread]
  refine wp_bind (wp_pure ?_)
  rw [if_neg (by simp [hst])]
  refine wp_bind (wp_bind (wp_imp (wp_removeSide_root .original order.original v)
    (fun _ v₁ h₁ => ?_)))
  refine wp_bind (wp_imp (wp_removeSide_root .incoming order.incoming v₁) (fun _ v₂ h₂ => ?_))
  refine wp_mono (wp_removeAll order.rest v₂) (fun _ v₃ h₃ => ?_) (fun _ _ hE => hE)
    (fun _ _ => trivial)
  refine wp_write_bind trivial (wp_pure ⟨h₃.1, fun n => ?_⟩)
  change v₃.lookup .root n = restored n
  rw [Volume.lookup_root, h₃.2]
  rw [h₂, h₁]
  exact hroot n

end Volumes

/-- The helper was not started, or it ran to its end, heard or not. -/
def HelperRun.WholeOrNone : HelperRun C → Prop
  | .unavailable _ => True
  | .ran budget _ _ _ => budget = none

section Runs

variable {orig restored : FileName → Option (Entry C)} {v : Volume id C} {run : HelperRun C}

section

variable (hrun : run.WholeOrNone)
include hrun

/-- A run that was not interrupted leaves what its program is proved to leave. -/
theorem HelperRun.WholeOrNone.volume {action : SwapAction} {R : Volume id C → Prop}
    (h : ∀ order cleanup, wp (swapProgram action order cleanup) (fun _ => R)
      (fun _ => R) (fun _ => True) v) : run.volume action v = v ∨ R (run.volume action v) := by
  cases run with
  | unavailable e => exact .inl rfl
  | ran budget delivery order cleanup =>
    right
    have hnone : budget = none := hrun
    subst hnone
    have hb := h order cleanup none
    obtain ⟨hcut, -⟩ := (swapProgram action order cleanup).uncut v
    change R ((swapProgram action order cleanup).run none v).2.2
    generalize (swapProgram action order cleanup).run none v = r at hb hcut
    obtain ⟨o, b, v'⟩ := r
    cases o with
    | done report => exact hb
    | failed e => exact hb
    | cut => exact absurd rfl hcut

/-- A whole rollback leaves the originals with no work directory, or leaves the
volume as it was. -/
theorem volume_rollback (h : Beside orig v ∨ Uncommitted orig restored v ∨ Marked orig restored v) :
    run.volume .rollback v = v ∨ Clear orig (run.volume .rollback v) := by
  rcases h with h | h | h
  · exact hrun.volume fun order _ => wp_mono (h.wp_swapRollback order)
      (fun _ _ hQ => hQ) (fun _ _ hE => hE.elim) (fun _ hK => hK)
  · exact hrun.volume fun order _ => wp_mono (h.wp_swapRollback order)
      (fun _ _ hQ => hQ) (fun _ _ hE => hE.elim) (fun _ hK => hK)
  · have hsame : run.volume .rollback v = v ∨ run.volume .rollback v = v :=
      hrun.volume (R := (· = v)) fun order _ => wp_mono (h.wp_swapRollback order)
        (fun _ _ hQ => hQ.elim) (fun _ _ hE => hE) (fun _ hK => hK.elim)
    exact .inl (hsame.elim (fun heq => heq) fun heq => heq)

theorem volume_cleanup (h : Marked orig restored v) :
    run.volume .cleanup v = v ∨ Clear restored (run.volume .cleanup v) :=
  hrun.volume fun _ cleanup => wp_mono (h.wp_swapCleanup cleanup)
    (fun _ _ hQ => hQ) (fun _ _ hE => hE.elim) (fun _ hK => hK)

end

section

variable (h : Uncommitted orig restored v ∨ Marked orig restored v)
include h

/-- A commit of the live pipeline, cut anywhere, stays in the swap. -/
theorem volume_commit :
    Uncommitted orig restored (run.volume .commit v) ∨
      Marked orig restored (run.volume .commit v) := by
  cases run with
  | unavailable e => exact h
  | ran budget delivery order cleanup =>
    exact after_of_wp (I := fun v' => Uncommitted orig restored v' ∨
        Marked orig restored v')
      (wp_mono (wp_swapCommit_of h) (fun _ _ hQ => .inr hQ.2) (fun _ _ hE => hE.elim)
        (fun _ hK => .inl hK)) budget

/-- What a commit answers. -/
theorem status_commit {status : SwapStatus} (hstat : (run.result .commit v).status = some status) :
    Marked orig restored (run.volume .commit v) := by
  obtain ⟨report, hreport, -⟩ := Option.map_eq_some_iff.mp hstat
  obtain ⟨budget, order, cleanup, hdone, hafter⟩ := done_of_report hreport
  rw [hafter]
  exact (of_wp_done (wp_swapCommit_of h) hdone).2

end

section

variable (hnamed : Named orig restored) (h : Beside orig v)
  (hrestored : ∀ n, restoredEntry v n = restored n)
include hnamed h hrestored

/-- A prepare that answers has prepared the swap; one that does not has done
that or nothing. -/
theorem wp_swapPrepare_beside :
    wp swapPrepare (fun _ => Uncommitted orig restored) (fun _ v' => v' = v)
      (fun v' => v' = v) v := by
  refine wp_imp (wp_swapPrepare_fresh h.journal) (fun _ v' hQ => ?_)
  obtain ⟨-, ⟨plan, hrecorded⟩, hlookup, -⟩ := hQ
  have hspelled : Spelled v := by
    rw [Spelled, funext h.root, funext hrestored]
    exact hnamed
  have hprepared := hrecorded.prepared_of_spelled (hspelled.of_lookup hlookup)
  refine ⟨v', plan, ⟨hprepared, hspelled.of_lookup hlookup, fun n => ?_, fun n => ?_⟩, .start,
    .planned, .inl rfl, hprepared.at_start⟩
  · rw [hlookup]
    exact h.root n
  · rw [← hrestored n, restoredEntry, restoredEntry, hlookup]

theorem volume_prepare :
    run.volume .prepare v = v ∨ Uncommitted orig restored (run.volume .prepare v) := by
  cases run with
  | unavailable e => exact .inl rfl
  | ran budget delivery order cleanup =>
    exact after_of_wp (I := fun v' => v' = v ∨ Uncommitted orig restored v')
      (wp_mono (wp_swapPrepare_beside hnamed h hrestored) (fun _ _ hQ => .inr hQ)
        (fun _ _ hE => .inl hE) (fun _ hK => .inl hK)) budget

theorem ok_prepare (hok : (run.result .prepare v).ok = true) :
    Uncommitted orig restored (run.volume .prepare v) := by
  obtain ⟨report, hreport⟩ := report_of_ok hok
  obtain ⟨budget, order, cleanup, hdone, hafter⟩ := done_of_report hreport
  rw [hafter]
  exact of_wp_done (wp_swapPrepare_beside hnamed h hrestored) hdone

end

end Runs

end Sencho.Recovery

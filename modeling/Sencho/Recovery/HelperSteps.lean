import Sencho.Recovery.Overwrite
import Sencho.Recovery.SwapRemoval

/-!
# What a helper step proves

A staged overwrite decides from the answers of the helper, and the helper may be
cut or its answer lost.  This module says what a step does to a volume whatever
state that is in, and what an answer proves about it.

A volume is *closed* for data when no journal in it is short of its commit
marker: nothing a commit or a rollback does then moves an entry or applies root
metadata.
-/

namespace Sencho.Recovery

open Verified Verified.Interrupt Verified.Utf8 Prog

variable {id : IntentId} {C : Type}

variable (v : Volume id C)

/-- Every journal in the volume has its commit marker. -/
def Closed : Prop :=
  ∀ plan, v.journal = some (.plan plan) → plan.status = .swapped

theorem closed_of_journal_none {v : Volume id C} (h : v.journal = none) : Closed v := by
  intro plan hplan
  rw [h] at hplan
  cases hplan

theorem closed_of_work_none {v : Volume id C} (h : v.work = none) : Closed v :=
  closed_of_journal_none (by rw [Volume.journal, h]; rfl)

theorem Closed.movesData {v : Volume id C} (h : Closed v) (action : SwapAction) :
    movesData action v = false := by
  unfold Recovery.movesData
  split
  · rename_i plan hplan
    simp [h plan hplan]
  · rename_i plan hplan
    simp [h plan hplan]
  · rfl

theorem movesData_status : movesData .status v = false := rfl

theorem movesData_cleanup : movesData .cleanup v = false := rfl

section

variable {v : Volume id C} (h : Closed v)
include h

/-- Deleting parts of a work directory leaves the journal or takes it away. -/
theorem Closed.removal (r : Removal C) : Closed (r.apply v) := by
  rcases r.journal_apply v with hj | hj
  · intro plan hplan
    rw [hj] at hplan
    exact h plan hplan
  · exact closed_of_journal_none hj

theorem Closed.setStat (g : RootMeta → RootMeta) : Closed (v.setStat g) := h

theorem Closed.wp_removeAll (order : List (Removal C)) :
    wp (removeAll order) (fun _ => Closed) (fun (_ : SwapError) => Closed) Closed v := by
  induction order generalizing v with
  | nil => exact wp_write h (closed_of_work_none rfl)
  | cons r rest ih => exact wp_write_bind h (ih (h.removal r))

theorem Closed.wp_removeSide (side : Side) (order : List (FileName × Option (Entry C))) :
    wp (removeSide side order) (fun _ => Closed) (fun (_ : SwapError) => Closed) Closed
      v := by
  induction order generalizing v with
  | nil => exact wp_write h (h.removal _)
  | cons part rest ih => exact wp_write_bind h (ih (h.removal _))

end

theorem journal_of_readPlan {journal : Journal} {plan : SwapPlan}
    (h : readPlan journal = .ok plan) : ∃ p, journal = .plan p ∧ plan = p.encoded := by
  cases journal with
  | unreadable detail => cases h
  | plan p =>
    rw [readPlan] at h
    split at h
    · exact ⟨p, rfl, (Except.ok.inj h).symm⟩
    · cases h

/-- A plan in a closed volume that reads well has its marker. -/
theorem Closed.of_readPlan {v : Volume id C} (h : Closed v) {journal : Journal}
    (hj : v.journal = some journal) {plan : SwapPlan} (hr : readPlan journal = .ok plan) :
    plan.status = .swapped := by
  obtain ⟨p, rfl, rfl⟩ := journal_of_readPlan hr
  exact h p hj

section Steps

variable {v : Volume id C}

theorem wp_swapStatus (v : Volume id C) :
    wp swapStatus (fun _ v' => v' = v) (fun _ v' => v' = v) (fun v' => v' = v) v := by
  refine wp_read_bind ?_
  cases v.journal with
  | none => exact wp_pure rfl
  | some journal =>
    refine wp_bind ?_
    cases readPlan journal with
    | error e => exact wp_fail rfl
    | ok plan => exact wp_pure (wp_pure rfl)

theorem Closed.wp_swapCommit (h : Closed v) :
    wp swapCommit (fun _ => Closed) (fun _ => Closed) Closed v := by
  refine wp_read_bind ?_
  cases hj : v.journal with
  | none => exact wp_fail h
  | some journal =>
    refine wp_bind ?_
    cases hr : readPlan journal with
    | error e => exact wp_fail h
    | ok plan =>
      refine wp_pure ?_
      split
      · exact wp_fail h
      · split
        · exact wp_fail h
        · split
          · exact wp_fail h
          · rw [if_pos (h.of_readPlan hj hr)]
            exact wp_pure h

/-- A rollback of a closed volume moves nothing: without a journal it removes
what is there, and with the marker it refuses. -/
theorem Closed.wp_swapRollback (h : Closed v) (order : List (Removal C)) :
    wp (swapRollback order) (fun _ => Closed) (fun _ => Closed) Closed v := by
  refine wp_bind (wp_read_bind ?_)
  cases hj : v.journal with
  | none =>
    refine wp_pure (wp_read_bind (wp_bind ?_))
    refine wp_guardedBy (fun _ => ?_) (fun _ => wp_pure h)
    exact wp_imp (h.wp_removeAll order) (fun _ _ hQ => wp_pure hQ)
  | some journal =>
    refine wp_bind ?_
    cases hr : readPlan journal with
    | error e => exact wp_fail h
    | ok plan =>
      refine wp_pure ?_
      rw [computeStatus_eq_swapped.mpr (h.of_readPlan hj hr)]
      exact wp_fail h

/-- A clean-up deletes inside the work directory only. -/
theorem Closed.wp_swapCleanup (h : Closed v) (order : CleanupOrder C) :
    wp (swapCleanup order) (fun _ => Closed) (fun _ => Closed) Closed v := by
  refine wp_read_bind ?_
  cases hj : v.journal with
  | none =>
    dsimp only
    split
    · exact wp_fail h
    · exact wp_pure h
  | some journal =>
    refine wp_bind ?_
    cases hr : readPlan journal with
    | error e => exact wp_fail h
    | ok plan =>
      refine wp_pure ?_
      split
      · exact wp_fail h
      · refine wp_bind (wp_bind (wp_imp (h.wp_removeSide .original order.original)
          (fun _ v₁ h₁ => ?_)))
        refine wp_bind (wp_imp (h₁.wp_removeSide .incoming order.incoming) (fun _ v₂ h₂ => ?_))
        refine wp_imp (h₂.wp_removeAll order.rest) (fun _ v₃ h₃ => ?_)
        exact wp_write_bind h₃ (wp_pure (h₃.setStat _))

end Steps

variable {run : HelperRun C} {action : SwapAction}

/-- No step but `prepare` opens a closed volume again. -/
theorem Closed.helper {v : Volume id C} (h : Closed v) (hne : action ≠ .prepare)
    (run : HelperRun C) :
    Closed (run.volume action v) := by
  cases run with
  | unavailable e => exact h
  | ran budget delivery order cleanup =>
    cases action with
    | prepare => exact absurd rfl hne
    | commit => exact after_of_wp h.wp_swapCommit budget
    | status =>
      have hsame : (swapStatus : SwapM id C SwapReport).after budget v = v :=
        after_of_wp (wp_swapStatus v) budget
      change Closed ((swapStatus : SwapM id C SwapReport).after budget v)
      rw [hsame]
      exact h
    | rollback => exact after_of_wp (h.wp_swapRollback order) budget
    | cleanup => exact after_of_wp (h.wp_swapCleanup cleanup) budget

/-- A result that carries a report comes from a run that returned it. -/
theorem done_of_report {v : Volume id C} {report : SwapReport}
    (h : (run.result action v).report = some report) :
    ∃ budget order cleanup, (swapProgram action order cleanup).outcome budget v = .done report ∧
        run.volume action v = (swapProgram action order cleanup).after budget v := by
  cases run with
  | unavailable e => cases h
  | ran budget delivery order cleanup =>
    refine ⟨budget, order, cleanup, ?_, rfl⟩
    simp only [HelperRun.result] at h
    cases ho : (swapProgram action order cleanup).outcome budget v with
    | done r =>
      rw [ho] at h
      cases delivery with
      | exited => cases h; rfl
      | aborted printed =>
        cases printed
        · cases h
        · cases h; rfl
      | killed printed =>
        cases printed
        · cases h
        · cases h; rfl
    | failed e =>
      rw [ho] at h
      cases delivery with
      | exited => cases h
      | aborted printed => cases printed <;> cases h
      | killed printed => cases printed <;> cases h
    | cut =>
      rw [ho] at h
      cases delivery with
      | exited => cases h
      | aborted printed => cases printed <;> cases h
      | killed printed => cases printed <;> cases h

/-- A step that is `ok` has a report. -/
theorem report_of_ok {v : Volume id C} (h : (run.result action v).ok = true) :
    ∃ report, (run.result action v).report = some report := by
  cases run with
  | unavailable e => cases h
  | ran budget delivery order cleanup =>
    cases delivery with
    | exited => exact Option.isSome_iff_exists.mp h
    | aborted printed => cases h
    | killed printed => cases h

theorem wp_swapRollback_work (order : List (Removal C)) (v : Volume id C) :
    wp (swapRollback order) (fun _ v' => v'.work = none) (fun _ _ => True) (fun _ => True) v := by
  refine wp_bind (wp_mono wp_true (fun plan v₁ _ => ?_) (fun _ _ _ => trivial) (fun _ _ => trivial))
  have hremove := fun v : Volume id C => wp_mono (wp_removeAll order v)
    (fun _ v' hQ => hQ.1) (fun _ _ _ => trivial) (fun _ _ => trivial)
  cases plan with
  | none =>
    refine wp_read_bind (wp_bind (wp_guardedBy (fun _ => ?_) (fun hw => ?_)))
    · exact wp_imp (hremove v₁) (fun _ _ hQ => wp_pure hQ)
    · exact wp_pure (by simpa using hw)
  | some plan =>
    refine wp_bind (wp_imp (hremove v₁) (fun _ v₂ hw => ?_))
    cases plan.originalRoot with
    | none => exact wp_pure hw
    | some m => exact wp_write_bind trivial (wp_pure hw)

theorem wp_swapCleanup_work (order : CleanupOrder C) (v : Volume id C) :
    wp (swapCleanup order) (fun _ v' => v'.work = none) (fun _ _ => True) (fun _ => True) v := by
  refine wp_read_bind ?_
  cases hj : v.journal with
  | none =>
    dsimp only
    split
    · exact wp_fail trivial
    · rename_i hw
      exact wp_pure (by simpa using hw)
  | some journal =>
    refine wp_bind ?_
    cases readPlan journal with
    | error e => exact wp_fail trivial
    | ok plan =>
      refine wp_pure ?_
      split
      · exact wp_fail trivial
      · refine wp_bind (wp_bind (wp_imp wp_true (fun _ v₁ _ => ?_)))
        refine wp_bind (wp_imp wp_true (fun _ v₂ _ => ?_))
        refine wp_mono (wp_removeAll order.rest v₂) (fun _ v₃ hQ => ?_)
          (fun _ _ _ => trivial) (fun _ _ => trivial)
        exact wp_write_bind trivial (wp_pure hQ.1)

theorem work_none_of_rollback {v : Volume id C} (h : (run.result .rollback v).ok = true) :
    (run.volume .rollback v).work = none := by
  obtain ⟨report, hreport⟩ := report_of_ok h
  obtain ⟨budget, order, cleanup, hdone, hafter⟩ := done_of_report hreport
  rw [hafter]
  exact of_wp_done (wp_swapRollback_work order v) hdone

theorem work_none_of_cleanup {v : Volume id C} (h : (run.result .cleanup v).ok = true) :
    (run.volume .cleanup v).work = none := by
  obtain ⟨report, hreport⟩ := report_of_ok h
  obtain ⟨budget, order, cleanup, hdone, hafter⟩ := done_of_report hreport
  rw [hafter]
  exact of_wp_done (wp_swapCleanup_work cleanup v) hdone

theorem volume_status (run : HelperRun C) (v : Volume id C) : run.volume .status v = v := by
  cases run with
  | unavailable e => rfl
  | ran budget delivery order cleanup => exact after_of_wp (wp_swapStatus v) budget

/-- The status of a volume, as the helper answers it. -/
def VolumeReads (status : SwapStatus) : Prop :=
  (v.journal = none ∧ status = if v.work.isSome then .inconsistent else .absent) ∨
    ∃ journal plan, v.journal = some journal ∧ readPlan journal = .ok plan ∧
      status = computeStatus v plan

theorem wp_swapStatus_reads :
    wp swapStatus (fun r _ => VolumeReads v r.status) (fun _ _ => True) (fun _ => True) v := by
  refine wp_read_bind ?_
  cases hj : v.journal with
  | none => exact wp_pure (.inl ⟨hj, rfl⟩)
  | some journal =>
    refine wp_bind ?_
    cases hr : readPlan journal with
    | error e => exact wp_fail trivial
    | ok plan => exact wp_pure (wp_pure (.inr ⟨journal, plan, hj, hr, rfl⟩))

/-- A status that was answered is the status of the volume. -/
theorem reading_of_status {v : Volume id C} {status : SwapStatus}
    (h : (run.result .status v).status = some status) : VolumeReads v status := by
  unfold SwapRunResult.status at h
  cases hreport : (run.result .status v).report with
  | none => rw [hreport] at h; cases h
  | some report =>
    rw [hreport] at h
    cases h
    obtain ⟨budget, order, cleanup, hdone, -⟩ := done_of_report hreport
    exact of_wp_done (wp_swapStatus_reads v) hdone

theorem computeStatus_ne_absent (plan : SwapPlan) : computeStatus v plan ≠ .absent := by
  unfold computeStatus
  split
  · simp
  · split
    · split
      · simp
      · split
        · simp
        · split
          · simp
          · split <;> simp
    · simp

theorem VolumeReads.absent {v : Volume id C} (h : VolumeReads v .absent) : v.work = none := by
  rcases h with ⟨-, hstat⟩ | ⟨journal, plan, -, -, hstat⟩
  · cases hw : v.work with
    | none => rfl
    | some w => simp [hw] at hstat
  · exact absurd hstat.symm (computeStatus_ne_absent v plan)

theorem VolumeReads.swapped {v : Volume id C} (h : VolumeReads v .swapped) : Closed v := by
  rcases h with ⟨hj, -⟩ | ⟨journal, plan, hj, hr, hstat⟩
  · exact closed_of_journal_none hj
  · have hplan := computeStatus_eq_swapped.mp hstat.symm
    obtain ⟨p, rfl, rfl⟩ := journal_of_readPlan hr
    intro plan' hj'
    rw [hj] at hj'
    cases hj'
    exact hplan

end Sencho.Recovery

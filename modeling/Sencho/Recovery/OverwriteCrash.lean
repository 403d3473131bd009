import Sencho.Recovery.OverwriteSafety
import Sencho.Recovery.OverwriteVolumes

/-!
# What a crash of the live pipeline leaves

The phase of an intent and the journal in the volume are written by two
processes and can disagree at a crash.  `Fits` says, phase by phase, which
volumes a crash can leave; the pipeline keeps it at every interruption, with
every answer of the daemon, a commit cut anywhere and any answer lost.

A rollback and a clean-up of the live pipeline are taken to run to their end
when they are started at all: what a removal that dies half way leaves is the
subject of the swap itself.
-/

namespace Sencho.Recovery

open Verified.Interrupt Prog RestoreIntentPhase

variable {id : IntentId} {C : Type}

/-- The fence column does not say that workloads may run. -/
def Stopped (s : Overwrite id C) : Prop :=
  workloadsMayRunNow s.intent.fenceState = false

/-- Which volumes a crash can leave in a phase.  An intent the pipeline parked
promises nothing. -/
def Fits (orig restored : FileName → Option (Entry C)) (s : Overwrite id C) :
    RestoreIntentPhase → Prop
  | .recorded | .staging | .stagedVerified | .fenced | .protecting | .rolledBack =>
    Clear orig s.volume
  | .materializing =>
    Clear orig s.volume ∨ Stopped s ∧ (Beside orig s.volume ∨ Uncommitted orig restored s.volume)
  | .swapping =>
    Clear orig s.volume ∨
      Stopped s ∧ (Uncommitted orig restored s.volume ∨ Marked orig restored s.volume)
  | .swapped => Clear restored s.volume ∨ Stopped s ∧ Marked orig restored s.volume
  | .committed => Clear restored s.volume
  | .completionUnknown => True

structure Recoverable (orig restored : FileName → Option (Entry C)) (s : Overwrite id C) :
    Prop where
  mode : s.intent.targetMode = .stagedOverwrite
  target : s.intent.targetVolume.isSome
  fits : Fits orig restored s s.intent.phase

/-- The phases the live pipeline rolls back from. -/
def revertiblePhases : List RestoreIntentPhase :=
  preFencePhases ++ fencedPhases ++ [.swapping]

/-- An intent of an overwrite in a phase. -/
structure InPhase (phase : RestoreIntentPhase) (s : Overwrite id C) : Prop where
  mode : s.intent.targetMode = .stagedOverwrite
  target : s.intent.targetVolume.isSome
  phase : s.intent.phase = phase

section Invariant

variable {orig restored : FileName → Option (Entry C)} {s s' : Overwrite id C}
  {phase : RestoreIntentPhase}

theorem InPhase.of_intent (h : InPhase phase s) (hi : s'.intent = s.intent) : InPhase phase s' :=
  ⟨by rw [hi]; exact h.mode, by rw [hi]; exact h.target, by rw [hi]; exact h.phase⟩

theorem Stopped.of_fence (h : Stopped s) (hf : s'.intent.fenceState = s.intent.fenceState) :
    Stopped s' := by
  unfold Stopped
  rw [hf]
  exact h

theorem InPhase.recoverable (h : InPhase phase s) (hfits : Fits orig restored s phase) :
    Recoverable orig restored s :=
  ⟨h.mode, h.target, by rw [h.phase]; exact hfits⟩

theorem Recoverable.inPhase (h : Recoverable orig restored s) :
    InPhase s.intent.phase s := ⟨h.mode, h.target, rfl⟩

theorem fits_of_clear (hmem : phase ∈ revertiblePhases) (h : Clear orig s.volume) :
    Fits orig restored s phase := by
  cases phase with
  | recorded | staging | stagedVerified | fenced | protecting => exact h
  | materializing | swapping => exact .inl h
  | swapped | committed | rolledBack | completionUnknown =>
    simp [revertiblePhases, preFencePhases, fencedPhases] at hmem

/-- What a rollback of the live pipeline may find in the volume. -/
theorem Recoverable.revertible (h : Recoverable orig restored s)
    (hmem : s.intent.phase ∈ revertiblePhases) :
    Beside orig s.volume ∨ Uncommitted orig restored s.volume ∨ Marked orig restored s.volume := by
  have hfits := h.fits
  generalize s.intent.phase = phase at hmem hfits
  cases phase with
  | recorded | staging | stagedVerified | fenced | protecting =>
    exact .inl (Clear.beside hfits)
  | materializing =>
    rcases hfits with hclear | ⟨-, hbeside | hopen⟩
    · exact .inl hclear.beside
    · exact .inl hbeside
    · exact .inr (.inl hopen)
  | swapping =>
    rcases hfits with hclear | ⟨-, hswap⟩
    · exact .inl hclear.beside
    · exact .inr hswap
  | swapped | committed | rolledBack | completionUnknown =>
    simp [revertiblePhases, preFencePhases, fencedPhases] at hmem

variable {Q : Unit → Overwrite id C → Prop} {now : Int}

section

variable (hs : InPhase phase s) (hI : Recoverable orig restored s)
include hs hI

theorem wp_advance {next : RestoreIntentPhase} {extra : IntentAdvanceFields}
    (h : ∀ s', InPhase next s' → s'.volume = s.volume →
      s'.intent.fenceState = s.intent.fenceState → Q () s') :
    wp (advanceIntent next extra now) Q (fun _ => Recoverable orig restored)
      (Recoverable orig restored) s := by
  refine wp_read_bind ?_
  split
  · exact wp_write hI (h _ ⟨hs.mode, hs.target, rfl⟩ rfl rfl)
  · exact wp_fail hI

theorem wp_update {extra : IntentAdvanceFields} (h : ∀ s', InPhase phase s' → s'.volume = s.volume →
      s'.intent.fenceState = s.intent.fenceState → Q () s') :
    wp (updateIntent extra now) Q (fun _ => Recoverable orig restored)
      (Recoverable orig restored) s :=
  wp_write hI (h _ ⟨hs.mode, hs.target, hs.phase⟩ rfl rfl)

theorem wp_fence {state : RestoreFenceState} (h : ∀ s', InPhase phase s' → s'.volume = s.volume →
      s'.intent.fenceState = state → Q () s') :
    wp (setFenceState state now) Q (fun _ => Recoverable orig restored)
      (Recoverable orig restored) s :=
  wp_write hI (h _ ⟨hs.mode, hs.target, hs.phase⟩ rfl rfl)

end

end Invariant

section Shared

variable {α : Type} {I : Overwrite id C → Prop} {E : ErrorClass → Overwrite id C → Prop}
  {s : Overwrite id C}

theorem wp_stagingVolumeGone {removal : VolumeRemoval} {Q : Bool → Overwrite id C → Prop}
    (h : ∀ gone, Q gone s) : wp (stagingVolumeGone removal) Q E I s := by
  refine wp_read_bind ?_
  split <;> exact wp_pure (h _)

theorem wp_step {action : SwapAction} {run : HelperRun C}
    {Q : SwapRunResult → Overwrite id C → Prop} (hcut : I s)
    (h : ∀ s', s'.intent = s.intent → s'.volume = run.volume action s.volume →
      Q (run.result action s.volume) s') : wp (runSwapStep action run) Q E I s :=
  wp_read_bind (wp_write_bind hcut (wp_pure (h _ rfl rfl)))

/-- A closing step: a result that is `ok` proves that the work directory is
gone. -/
theorem wp_closing {action : SwapAction} {run statusRun : HelperRun C}
    {Q : SwapRunResult → Overwrite id C → Prop}
    (haction : action = .rollback ∨ action = .cleanup) (hcut : I s)
    (hmid : ∀ s', s'.intent = s.intent → s'.volume = run.volume action s.volume → I s')
    (h : ∀ r s', s'.intent = s.intent → s'.volume = run.volume action s.volume →
      (r.ok = true → s'.volume.work = none) → Q r s') :
    wp (runClosingSwapStep action run statusRun) Q E I s := by
  refine wp_bind (wp_step hcut fun s₁ hi₁ hv₁ => ?_)
  by_cases hok : (run.result action s.volume).ok = true
  · rw [if_pos hok]
    refine wp_pure (h _ s₁ hi₁ hv₁ fun _ => ?_)
    rw [hv₁]
    rcases haction with rfl | rfl
    · exact work_none_of_rollback hok
    · exact work_none_of_cleanup hok
  · rw [if_neg hok]
    refine wp_bind (wp_step (hmid s₁ hi₁ hv₁) fun s₂ hi₂ hv₂ => ?_)
    rw [volume_status] at hv₂
    have hi : s₂.intent = s.intent := hi₂.trans hi₁
    have hv : s₂.volume = run.volume action s.volume := hv₂.trans hv₁
    by_cases habsent : ((statusRun.result .status s₁.volume).ok &&
        (statusRun.result .status s₁.volume).status = some .absent) = true
    · rw [if_pos habsent]
      refine wp_pure (h _ s₂ hi hv fun _ => ?_)
      have hstat : (statusRun.result .status s₁.volume).status = some .absent :=
        of_decide_eq_true (Bool.and_eq_true _ _ ▸ habsent).2
      rw [hv₂]
      exact (reading_of_status hstat).absent
    · rw [if_neg habsent]
      exact wp_pure (h _ s₂ hi hv fun hok' => absurd hok' hok)

/-- Dealing with members changes neither the intent nor the volume. -/
theorem memberInv_membersOnly (s : Overwrite id C) : MemberInv (MembersOnly s) :=
  fun _ _ _ _ h => ⟨h.volume, h.intent⟩

theorem wp_releaseMembers_only {answers : String → MemberAnswer} {restart : Bool}
    {now : Int} {members : List FenceMember} {Q : Bool → Overwrite id C → Prop}
    (hI : ∀ s', MembersOnly s s' → I s') (h : ∀ failed s', MembersOnly s s' → Q failed s') :
    wp (releaseMembers answers restart now members) Q E I s :=
  wp_mono ((memberInv_membersOnly s).wp_releaseMembers ⟨rfl, rfl⟩ answers restart now
    members) (fun failed s' hQ => h failed s' hQ) (fun _ _ hE => hE.elim)
    (fun s' hK => hI s' hK)

section

variable {phase : RestoreIntentPhase} {Q : Bool → Overwrite id C → Prop} (hs : InPhase phase s)
  (hI : ∀ s', InPhase phase s' → s'.volume = s.volume → I s')
  (h : ∀ released s', InPhase phase s' → s'.volume = s.volume → Q released s')
include hs hI h

/-- A release, whatever it is answered, changes the fence column alone. -/
theorem wp_releaseRestoreFence_only {answers : String → MemberAnswer} {restart : Bool} {now : Int}
    {members : List FenceMember} :
    wp (releaseRestoreFence answers restart now members) Q E I s := by
  refine wp_bind (wp_releaseMembers_only (fun s' hm => hI s' (hs.of_intent hm.intent) hm.volume)
    fun failed s₁ hm => ?_)
  have h₁ := hs.of_intent hm.intent
  exact wp_write_bind (hI s₁ h₁ hm.volume)
    (wp_pure (h _ _ ⟨h₁.mode, h₁.target, h₁.phase⟩ hm.volume))

theorem wp_releaseFence_only {answers : String → MemberAnswer} {restart : Bool} {now : Int} :
    wp (releaseFence answers restart now) Q E I s := by
  refine wp_read_bind ?_
  split
  · exact wp_pure (h _ s hs rfl)
  · split
    · exact wp_write_bind (hI s hs rfl) (wp_pure (h _ _ ⟨hs.mode, hs.target, hs.phase⟩ rfl))
    · exact wp_releaseRestoreFence_only hs hI h

end

end Shared

/-- The rollback and the clean-up of the pipeline are not cut off inside. -/
structure LiveAnswers.WholeSteps (env : LiveAnswers C) : Prop where
  rollback : (env.helper .rollback).WholeOrNone
  cleanup : (env.helper .cleanup).WholeOrNone

section Stages

variable {orig restored : FileName → Option (Entry C)} {s : Overwrite id C}
  {env : LiveAnswers C} {phase : RestoreIntentPhase} {next : Overwrite id C → Prop}

/-- A conclusion of a program that leaves a recoverable overwrite on an error and
at a cut. -/
abbrev Leaves {α : Type} (orig restored : FileName → Option (Entry C))
    (p : OverwriteM id C α) (Q : α → Overwrite id C → Prop) (s : Overwrite id C) : Prop :=
  wp p Q (fun _ => Recoverable orig restored) (Recoverable orig restored) s

/-- How a stage may end: a rollback finds a phase to roll back from. -/
def stageEnds (orig restored : FileName → Option (Entry C)) (next : Overwrite id C → Prop)
    (r : StageEnd) (s : Overwrite id C) : Prop :=
  match r with
  | .next => next s
  | .rollback _ => Recoverable orig restored s ∧ s.intent.phase ∈ revertiblePhases
  | .finished _ => Recoverable orig restored s

section

variable (hs : InPhase phase s) (hmem : phase ∈ revertiblePhases)
include hs hmem

theorem stageEnds_rollback {c : ErrorClass} (hfits : Fits orig restored s phase) :
    stageEnds orig restored next (.rollback c) s :=
  ⟨hs.recoverable hfits, by rw [hs.phase]; exact hmem⟩

theorem stageEnds_recheck {r : Recheck} (hfits : Fits orig restored s phase)
    (hne : recheckEnd r ≠ .next) : stageEnds orig restored next (recheckEnd r) s := by
  cases r with
  | ok => exact absurd rfl hne
  | changed | unknown | threw c => exact stageEnds_rollback hs hmem hfits

/-- The clear volume of a phase before the swap. -/
theorem InPhase.recoverable_clear (hclear : Clear orig s.volume) : Recoverable orig restored s :=
  hs.recoverable (fits_of_clear hmem hclear)

theorem leaves_settleUnstaged {c : ErrorClass} {finish : OperationFinish}
    (hclear : Clear orig s.volume) :
    Leaves orig restored (settleUnstaged env c finish) (stageEnds orig restored next) s := by
  have hI : Recoverable orig restored s := hs.recoverable_clear hmem hclear
  refine wp_bind (wp_stagingVolumeGone fun gone => ?_)
  split
  · refine wp_bind (wp_advance hs hI fun s₁ h₁ hv₁ _ => wp_pure ?_)
    exact h₁.recoverable (by rw [← hv₁] at hclear; exact hclear)
  · refine wp_bind (wp_update hs hI fun s₁ h₁ hv₁ _ => wp_pure ?_)
    exact h₁.recoverable_clear hmem (by rw [hv₁]; exact hclear)

end

theorem leaves_stageRestore (hs : InPhase .staging s) (hclear : Clear orig s.volume) :
    Leaves orig restored (stageRestore env) (stageEnds orig restored fun s' =>
        InPhase .stagedVerified s' ∧ Clear orig s'.volume) s := by
  have hmem : staging ∈ revertiblePhases := by decide
  unfold stageRestore
  split
  · exact leaves_settleUnstaged hs hmem hclear
  · exact leaves_settleUnstaged hs hmem hclear
  · refine wp_bind (wp_advance hs (hs.recoverable_clear hmem hclear)
      fun s₁ h₁ hv₁ _ => wp_pure ⟨h₁, ?_⟩)
    rw [hv₁]
    exact hclear

theorem leaves_stagePoint (hs : InPhase .recorded s) (hclear : Clear orig s.volume) :
    Leaves orig restored (stagePoint env) (stageEnds orig restored fun s' =>
        InPhase .stagedVerified s' ∧ Clear orig s'.volume) s := by
  have hmem : recorded ∈ revertiblePhases := by decide
  refine wp_read_bind ?_
  split
  · exact wp_pure (stageEnds_rollback hs hmem hclear)
  · refine wp_bind (wp_advance hs (hs.recoverable_clear hmem hclear) fun s₁ h₁ hv₁ _ => ?_)
    have hmem₁ : staging ∈ revertiblePhases := by decide
    have hclear₁ : Clear orig s₁.volume := by rw [hv₁]; exact hclear
    split
    · exact leaves_settleUnstaged h₁ hmem₁ hclear₁
    · split
      · exact wp_pure (stageEnds_rollback h₁ hmem₁ hclear₁)
      · split
        · exact wp_pure (stageEnds_rollback h₁ hmem₁ hclear₁)
        · exact leaves_stageRestore h₁ hclear₁

theorem leaves_removeStaging (hs : InPhase .stagedVerified s) (hclear : Clear orig s.volume) :
    Leaves orig restored (removeStaging env) (stageEnds orig restored fun s' =>
        InPhase .stagedVerified s' ∧ Clear orig s'.volume) s := by
  refine wp_bind (wp_stagingVolumeGone fun gone => ?_)
  split
  · exact wp_pure ⟨hs, hclear⟩
  · refine wp_bind (wp_update hs (hs.recoverable hclear) fun s₁ h₁ hv₁ _ => wp_pure ?_)
    exact h₁.recoverable (by rw [← hv₁] at hclear; exact hclear)

/-- Where the fence is held, for the stages between the fence and the swap. -/
structure Protected (orig : FileName → Option (Entry C)) (s : Overwrite id C) : Prop where
  phase : InPhase .protecting s
  held : s.intent.fenceState = .held
  clear : Clear orig s.volume

theorem leaves_applyFence (hs : InPhase .fenced s) (hclear : Clear orig s.volume) :
    Leaves orig restored (applyFence env) (stageEnds orig restored (Protected orig)) s := by
  have hmem : fenced ∈ revertiblePhases := by decide
  have hI : Recoverable orig restored s := hs.recoverable hclear
  unfold applyFence
  split
  · exact wp_fail hI
  · refine wp_bind (wp_fence hs hI fun s₁ h₁ hv₁ _ => wp_pure ?_)
    exact stageEnds_rollback h₁ hmem (by rw [← hv₁] at hclear; exact hclear)
  · refine wp_bind (wp_fence hs hI fun s₁ h₁ hv₁ hf₁ => ?_)
    have hclear₁ : Clear orig s₁.volume := by rw [hv₁]; exact hclear
    split
    · exact wp_pure (stageEnds_rollback h₁ hmem hclear₁)
    · exact wp_pure (stageEnds_rollback h₁ hmem hclear₁)
    · refine wp_bind (wp_advance h₁ (h₁.recoverable hclear₁) fun s₂ h₂ hv₂ hf₂ =>
        wp_pure ⟨h₂, hf₂.trans hf₁, ?_⟩)
      rw [hv₂]
      exact hclear₁

theorem leaves_fenceStage (hs : InPhase .stagedVerified s) (hclear : Clear orig s.volume) :
    Leaves orig restored (fenceStage env) (stageEnds orig restored (Protected orig)) s := by
  have hmem : stagedVerified ∈ revertiblePhases := by decide
  have hI : Recoverable orig restored s := hs.recoverable hclear
  unfold fenceStage
  split
  · exact wp_fail hI
  · exact wp_pure (stageEnds_rollback hs hmem hclear)
  · exact wp_pure (stageEnds_rollback hs hmem hclear)
  · refine wp_bind (wp_advance hs hI fun s₁ h₁ hv₁ _ => ?_)
    have hclear₁ : Clear orig s₁.volume := by rw [hv₁]; exact hclear
    refine wp_bind (wp_fence h₁ (h₁.recoverable hclear₁) fun s₂ h₂ hv₂ _ => ?_)
    have hclear₂ : Clear orig s₂.volume := by rw [hv₂]; exact hclear₁
    split
    · exact leaves_applyFence h₂ hclear₂
    · refine wp_bind (wp_fence h₂ (h₂.recoverable hclear₂) fun s₃ h₃ hv₃ _ => wp_pure ?_)
      exact stageEnds_rollback h₃ (by decide) (by rw [← hv₃] at hclear₂; exact hclear₂)

theorem leaves_takePreRestorePoint (h : Protected orig s) :
    Leaves orig restored (takePreRestorePoint env)
      (stageEnds orig restored (Protected orig)) s := by
  have hmem : protecting ∈ revertiblePhases := by decide
  unfold takePreRestorePoint
  split
  · exact wp_pure (stageEnds_rollback h.phase hmem h.clear)
  · refine wp_bind (wp_update h.phase (h.phase.recoverable h.clear) fun s₁ h₁ hv₁ hf₁ => ?_)
    have hclear₁ : Clear orig s₁.volume := by rw [hv₁]; exact h.clear
    split
    · exact wp_pure (stageEnds_rollback h₁ hmem hclear₁)
    · exact wp_pure ⟨h₁, hf₁.trans h.held, hclear₁⟩
  · rename_i hne₁ hne₂
    refine wp_pure (stageEnds_recheck h.phase hmem h.clear fun hnext => ?_)
    cases hbegun : env.pointBegun with
    | error c => exact hne₁ c hnext hbegun
    | ok pointId => exact hne₂ pointId hnext hbegun

/-- The entries a committed restore leaves at the root: what the engine restored,
without the work directories the snapshot carries. -/
def LiveAnswers.restoredRoot (env : LiveAnswers C) (n : FileName) : Option (Entry C) :=
  if isWorkDirName n then none else env.materialized.join.bind (·.lookup n)

/-- The restored data lies beside the entries, under a held fence. -/
structure Materialized (orig restored : FileName → Option (Entry C)) (s : Overwrite id C) :
    Prop where
  phase : InPhase .materializing s
  held : s.intent.fenceState = .held
  beside : Beside orig s.volume
  restored : ∀ n, restoredEntry s.volume n = restored n

theorem stopped_of_held (h : s.intent.fenceState = .held) : Stopped s := by
  unfold Stopped
  rw [h]
  rfl

theorem Materialized.fits (h : Materialized orig restored s) :
    Fits orig restored s .materializing :=
  .inr ⟨stopped_of_held h.held, .inl h.beside⟩

theorem leaves_materialize {materialized : Option (Option (Folder C))}
    (hs : InPhase .materializing s) (hheld : s.intent.fenceState = .held)
    (hclear : Clear orig s.volume) :
    Leaves orig restored (materialize materialized) (fun _ => Materialized orig fun n =>
        if isWorkDirName n then none else materialized.join.bind (·.lookup n)) s := by
  cases materialized with
  | none =>
    refine wp_pure ⟨hs, hheld, hclear.beside, fun n => ?_⟩
    rw [restoredEntry, Volume.lookup, Volume.folder, hclear.work]
    rfl
  | some content =>
    refine wp_write (hs.recoverable (.inl hclear)) ⟨⟨hs.mode, hs.target, hs.phase⟩, hheld,
      ⟨rfl, hclear.root⟩, fun n => rfl⟩

theorem leaves_materializePoint (h : Protected orig s) :
    Leaves orig env.restoredRoot (materializePoint env)
      (stageEnds orig env.restoredRoot (Materialized orig env.restoredRoot)) s := by
  have hmem : materializing ∈ revertiblePhases := by decide
  refine wp_bind (wp_advance h.phase (h.phase.recoverable h.clear)
    fun s₁ h₁ hv₁ hf₁ => wp_read_bind ?_)
  have hclear₁ : Clear orig s₁.volume := by rw [hv₁]; exact h.clear
  split
  · exact wp_pure (stageEnds_rollback h₁ hmem (.inl hclear₁))
  · refine wp_bind (wp_imp (leaves_materialize h₁ (hf₁.trans h.held) hclear₁) (fun _ s₂ h₂ => ?_))
    split
    · exact wp_pure (stageEnds_rollback h₂.phase hmem h₂.fits)
    · exact wp_pure (stageEnds_rollback h₂.phase hmem h₂.fits)
    · refine wp_bind (wp_update h₂.phase (h₂.phase.recoverable h₂.fits)
        fun s₃ h₃ hv₃ hf₃ => wp_pure ⟨h₃, hf₃.trans h₂.held, ?_, ?_⟩)
      · rw [hv₃]
        exact h₂.beside
      · rw [hv₃]
        exact h₂.restored

/-- A swap under way, under a held fence. -/
structure Swapping (orig restored : FileName → Option (Entry C)) (s : Overwrite id C) : Prop where
  phase : InPhase .swapping s
  stopped : Stopped s
  swap : Uncommitted orig restored s.volume ∨ Marked orig restored s.volume

section

variable (h : Swapping orig restored s)
include h

theorem Swapping.fits : Fits orig restored s .swapping :=
  .inr ⟨h.stopped, h.swap⟩

theorem Swapping.recoverable : Recoverable orig restored s := h.phase.recoverable h.fits

/-- A helper step on the way changes neither the phase nor the fence. -/
theorem Swapping.of_step {s' : Overwrite id C} (hi : s'.intent = s.intent)
    (hswap : Uncommitted orig restored s'.volume ∨ Marked orig restored s'.volume) :
    Swapping orig restored s' :=
  ⟨h.phase.of_intent hi, h.stopped.of_fence (by rw [hi]), hswap⟩

/-- A status that reads swapped reads the commit marker. -/
theorem leaves_readSwapStatus {run : HelperRun C} {fallback : Option SwapStatus}
    (hfallback : fallback = some .swapped → Marked orig restored s.volume) :
    Leaves orig restored (readSwapStatus run fallback) (fun r s' => Swapping orig restored s' ∧
        (r = .swapped → Marked orig restored s'.volume)) s := by
  refine wp_bind (wp_step h.recoverable fun s₁ hi₁ hv₁ => wp_pure ?_)
  rw [volume_status] at hv₁
  refine ⟨h.of_step hi₁ (by rw [hv₁]; exact h.swap), fun hr => ?_⟩
  rw [hv₁]
  cases hstat : (run.result .status s.volume).status with
  | none =>
    rw [hstat] at hr
    refine hfallback ?_
    cases fallback with
    | none => cases hr
    | some status =>
      have hread : status = .swapped := hr
      rw [hread]
  | some status =>
    rw [hstat] at hr
    have hread : status = .swapped := hr
    rw [hread] at hstat
    rcases h.swap with hopen | hmarked
    · exact absurd (reading_of_status hstat).swapped hopen.not_closed
    · exact hmarked

theorem leaves_finalStatus {committed : SwapRunResult}
    (hcommitted : ∀ status, committed.status = some status → Marked orig restored s.volume) :
    Leaves orig restored (finalStatus env committed) (fun r s' => Swapping orig restored s' ∧
        (r = .swapped → Marked orig restored s'.volume)) s := by
  refine wp_bind (wp_imp (leaves_readSwapStatus h fun hst => hcommitted _ hst)
    (fun status s₁ h₁ => ?_))
  split
  · refine wp_bind (wp_step h₁.1.recoverable fun s₂ hi₂ hv₂ => ?_)
    have h₂ : Swapping orig restored s₂ := h₁.1.of_step hi₂ (by
      rw [hv₂]
      exact volume_commit h₁.1.swap)
    exact leaves_readSwapStatus h₂ fun hnone => by cases hnone
  · exact wp_pure h₁

end

section

variable (henv : env.WholeSteps)
include henv

theorem leaves_cleanUp (hs : InPhase .swapped s) (hstopped : Stopped s)
    (hmarked : Marked orig restored s.volume) :
    Leaves orig restored (cleanUp env) (stageEnds orig restored next) s := by
  have hafter : ∀ s' : Overwrite id C, s'.intent = s.intent →
      s'.volume = (env.helper .cleanup).volume .cleanup s.volume →
      InPhase .swapped s' ∧ (Clear restored s'.volume ∨
        Stopped s' ∧ Marked orig restored s'.volume) := by
    intro s' hi hv
    refine ⟨hs.of_intent hi, ?_⟩
    rcases volume_cleanup henv.cleanup hmarked with hsame | hclear
    · exact .inr ⟨hstopped.of_fence (by rw [hi]), by
        rw [hv, hsame]
        exact hmarked⟩
    · exact .inl (by rw [hv]; exact hclear)
  refine wp_bind (wp_closing (.inr rfl) (hs.recoverable (.inr ⟨hstopped, hmarked⟩))
    (fun s' hi hv => (hafter s' hi hv).1.recoverable (hafter s' hi hv).2)
    fun r s₁ hi₁ hv₁ hwork => ?_)
  obtain ⟨h₁, hfits₁⟩ := hafter s₁ hi₁ hv₁
  split
  · rename_i hok
    have hclear : Clear restored s₁.volume := by
      rcases hfits₁ with hclear | ⟨-, hmarked₁⟩
      · exact hclear
      · have hsome := hmarked₁.work
        rw [hwork hok] at hsome
        cases hsome
    have hkeep : ∀ s' : Overwrite id C, InPhase .swapped s' → s'.volume = s₁.volume →
        Recoverable orig restored s' := fun s' hs' hv' =>
      hs'.recoverable (.inl (by rw [hv']; exact hclear))
    refine wp_read_bind (wp_bind (wp_releaseRestoreFence_only h₁ hkeep
      fun released s₂ h₂ hv₂ => ?_))
    refine wp_bind (wp_advance h₂ (hkeep s₂ h₂ hv₂) fun s₃ h₃ hv₃ _ => wp_pure ?_)
    exact h₃.recoverable (by rw [← hv₂, ← hv₃] at hclear; exact hclear)
  · refine wp_bind (wp_update h₁ (h₁.recoverable hfits₁) fun s₂ h₂ hv₂ hf₂ => wp_pure ?_)
    refine h₂.recoverable ?_
    rcases hfits₁ with hclear | ⟨hstopped₁, hmarked₁⟩
    · exact .inl (by rw [hv₂]; exact hclear)
    · exact .inr ⟨hstopped₁.of_fence hf₂, by rw [hv₂]; exact hmarked₁⟩

theorem leaves_commitSwap (h : Swapping orig restored s) :
    Leaves orig restored (commitSwap env) (stageEnds orig restored next) s := by
  refine wp_bind (wp_step h.recoverable fun s₁ hi₁ hv₁ => ?_)
  have h₁ : Swapping orig restored s₁ := h.of_step hi₁ (by
    rw [hv₁]
    exact volume_commit h.swap)
  refine wp_bind (wp_imp (leaves_finalStatus h₁ fun status hstat => ?_) (fun status s₂ h₂ => ?_))
  · rw [hv₁]
    exact status_commit h.swap hstat
  obtain ⟨h₂, hmarked₂⟩ := h₂
  split
  · rename_i hswapped
    refine wp_bind (wp_advance h₂.phase h₂.recoverable fun s₃ h₃ hv₃ hf₃ => ?_)
    exact leaves_cleanUp henv h₃ (h₂.stopped.of_fence hf₃) (by rw [hv₃]; exact hmarked₂ hswapped)
  · split
    · exact wp_bind (wp_advance h₂.phase h₂.recoverable fun s₃ h₃ _ _ =>
        wp_pure (h₃.recoverable trivial))
    · exact wp_pure (stageEnds_rollback h₂.phase (by decide) h₂.fits)

theorem leaves_swapAndCleanup (hnamed : Named orig restored) (h : Materialized orig restored s) :
    Leaves orig restored (swapAndCleanup env) (stageEnds orig restored next) s := by
  refine wp_bind (wp_step (h.phase.recoverable h.fits) fun s₁ hi₁ hv₁ => ?_)
  have h₁ := h.phase.of_intent hi₁
  have hstopped₁ : Stopped s₁ := stopped_of_held (by rw [hi₁]; exact h.held)
  have hfits₁ : Fits orig restored s₁ .materializing := by
    refine .inr ⟨hstopped₁, ?_⟩
    rcases volume_prepare hnamed h.beside h.restored with hsame | hopen
    · exact .inl (by rw [hv₁, hsame]; exact h.beside)
    · exact .inr (by rw [hv₁]; exact hopen)
  split
  · rename_i hok
    have hopen : Uncommitted orig restored s₁.volume := by
      rw [hv₁]
      exact ok_prepare hnamed h.beside h.restored (Bool.and_eq_true _ _ ▸ hok).1
    refine wp_bind (wp_advance h₁ (h₁.recoverable hfits₁) fun s₂ h₂ hv₂ hf₂ => ?_)
    have hswapping : Swapping orig restored s₂ :=
      ⟨h₂, hstopped₁.of_fence hf₂, .inl (by rw [hv₂]; exact hopen)⟩
    split
    · exact leaves_commitSwap henv hswapping
    · rename_i hne
      exact wp_pure (stageEnds_recheck h₂ (by decide) hswapping.fits hne)
  · exact wp_pure (stageEnds_rollback h₁ (by decide) hfits₁)

end

theorem leaves_finishRollback {answers : Answers C} {intent : IntentRow}
    (hs : InPhase phase s) (hmem : phase ∈ revertiblePhases) (hclear : Clear orig s.volume) :
    Leaves orig restored (finishRollback answers intent)
      (fun _ => Recoverable orig restored) s := by
  have hkeep : ∀ s' : Overwrite id C, InPhase phase s' → s'.volume = s.volume →
      Recoverable orig restored s' := fun s' hs' hv' =>
    hs'.recoverable_clear hmem (by rw [hv']; exact hclear)
  refine wp_bind (wp_stagingVolumeGone fun gone => ?_)
  refine wp_bind (wp_releaseFence_only hs hkeep fun released s₁ h₁ hv₁ => ?_)
  have hI₁ := hkeep s₁ h₁ hv₁
  split
  · refine wp_read_bind (wp_bind (wp_guardedBy (fun _ => ?_) fun _ => wp_pure hI₁))
    refine wp_advance h₁ hI₁ fun s₂ h₂ hv₂ _ => wp_pure (h₂.recoverable ?_)
    rw [← hv₁, ← hv₂] at hclear
    exact hclear
  · exact wp_bind (wp_update h₁ hI₁ fun s₂ h₂ hv₂ _ =>
      wp_pure (hkeep s₂ h₂ (hv₂.trans hv₁)))

/-- A rollback that ended `ok` has put the originals back. -/
theorem leaves_rollbackIntent {answers : Answers C}
    (hwhole : (answers.helper .rollback).WholeOrNone) (h : Recoverable orig restored s)
    (hmem : s.intent.phase ∈ revertiblePhases) :
    Leaves orig restored (rollbackIntent answers) (fun _ => Recoverable orig restored)
      s := by
  refine wp_read_bind ?_
  split
  · exact wp_pure h
  · split
    · rename_i hph
      have hvolume := volume_rollback hwhole (h.revertible hmem)
      have hafter : ∀ s' : Overwrite id C, s'.intent = s.intent →
          s'.volume = (answers.helper .rollback).volume .rollback s.volume →
          Recoverable orig restored s' := by
        intro s' hi hv
        have hs' := h.inPhase.of_intent hi
        rcases hvolume with hsame | hclear
        · rw [hsame] at hv
          have hfits := h.fits
          refine hs'.recoverable ?_
          generalize s.intent.phase = phase at hmem hfits
          cases phase <;> simp_all [Fits, Stopped]
        · exact hs'.recoverable_clear hmem (by rw [hv]; exact hclear)
      refine wp_bind (wp_closing (.inl rfl) h hafter fun r s₁ hi₁ hv₁ hwork => ?_)
      have h₁ := h.inPhase.of_intent hi₁
      split
      · rename_i hok
        refine leaves_finishRollback h₁ hmem ?_
        rcases hvolume with hsame | hclear
        · rw [hsame] at hv₁
          have hnone := hwork hok
          rw [hv₁] at hnone ⊢
          rcases h.revertible hmem with hbeside | hopen | hmarked
          · exact ⟨hnone, hbeside.root⟩
          · exact absurd hopen.work (by simp [hnone])
          · exact absurd hmarked.work (by simp [hnone])
        · rw [hv₁]
          exact hclear
      · exact wp_bind (wp_advance h₁ (hafter s₁ hi₁ hv₁) fun s₂ h₂ _ _ =>
          wp_pure (h₂.recoverable trivial))
    · rename_i hph
      refine leaves_finishRollback h.inPhase hmem ?_
      have hfits := h.fits
      generalize s.intent.phase = phase at hmem hfits hph
      cases phase <;> simp_all [Fits, revertiblePhases, preFencePhases, fencedPhases]

theorem leaves_stages {stage : OverwriteM id C StageEnd}
    {stages : List (OverwriteM id C StageEnd)} (henv : env.WholeSteps)
    (hstage : Leaves orig restored stage (stageEnds orig restored next) s)
    (hnext : ∀ s', next s' → Leaves orig restored (runStages env stages)
      (fun _ => Recoverable orig restored) s') :
    Leaves orig restored (runStages env (stage :: stages))
      (fun _ => Recoverable orig restored) s := by
  refine wp_bind (wp_imp hstage (fun r s₁ h₁ => ?_))
  cases r with
  | next => exact hnext s₁ h₁
  | rollback c =>
    exact wp_bind (wp_imp (leaves_rollbackIntent henv.rollback h₁.1 h₁.2)
      (fun _ _ hQ => wp_pure hQ))
  | finished finish => exact wp_pure h₁

end Stages

/-- The live pipeline of an admitted overwrite leaves a recoverable one wherever
it is cut. -/
theorem recoverable_pipeline {s : Overwrite id C} {env : LiveAnswers C}
    (hadmitted : Admitted s) (henv : env.WholeSteps)
    (hnamed : Named (s.volume.lookup .root) env.restoredRoot) (b : Budget) :
    Recoverable (s.volume.lookup .root) env.restoredRoot
      ((runOverwritePipeline env).after b s) := by
  have hs : InPhase .recorded s := ⟨hadmitted.mode, hadmitted.target, hadmitted.phase⟩
  have hclear : Clear (s.volume.lookup .root) s.volume := ⟨hadmitted.work, fun _ => rfl⟩
  have hI : Recoverable (s.volume.lookup .root) env.restoredRoot s := hs.recoverable hclear
  refine after_of_wp (wp_read_bind ?_) b
  split
  · exact wp_pure hI
  · split
    · exact wp_pure hI
    · refine leaves_stages henv (leaves_stagePoint hs hclear) fun s₁ h₁ => ?_
      refine leaves_stages henv (leaves_removeStaging h₁.1 h₁.2) fun s₂ h₂ => ?_
      refine leaves_stages henv (leaves_fenceStage h₂.1 h₂.2) fun s₃ h₃ => ?_
      refine leaves_stages henv (leaves_takePreRestorePoint h₃) fun s₄ h₄ => ?_
      refine leaves_stages henv (leaves_materializePoint h₄) fun s₅ h₅ => ?_
      have hlast : Leaves _ _ (swapAndCleanup env)
          (stageEnds _ _ (Recoverable (s.volume.lookup .root) env.restoredRoot)) s₅ :=
        leaves_swapAndCleanup henv hnamed h₅
      exact leaves_stages henv hlast fun s₆ h₆ => wp_pure h₆

end Sencho.Recovery

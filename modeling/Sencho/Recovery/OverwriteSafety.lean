import Sencho.Recovery.OverwriteGuard
import Sencho.Recovery.OverwritePipeline

/-!
# No data moves under workloads that may be up

A run of a staged overwrite is its live pipeline, cut anywhere, followed by any
sequence of boots, retries and fence releases, each cut anywhere, with any
answers of the helper and the daemon.

Every release but the operator's `release_fence` starts on a closed volume; that
one starts on whatever is there, so a crash inside its member loop leaves a held
fence over an open journal, and the next retry takes the workloads for stopped.
-/

namespace Sencho.Recovery

open Verified Keeps Interrupt Interrupt.Prog

variable {id : IntentId} {C : Type}

section Live

variable {s : Overwrite id C} {env : LiveAnswers C}
variable {P : Overwrite id C → Prop}

/-- The pipeline has released nothing yet and has not parked the intent. -/
structure Live (s : Overwrite id C) : Prop where
  unreleased : ¬ Released s.log
  known : s.intent.phase ≠ .completionUnknown

theorem Live.of_intent {s s' : Overwrite id C} (h : Live s) (honly : IntentOnly s s')
    (hph : s'.intent.phase ≠ .completionUnknown) : Live s' :=
  ⟨honly.log ▸ h.unreleased, hph⟩

theorem Live.of_helper {s s' : Overwrite id C} (h : Live s) (honly : HelperOnly s s') : Live s' :=
  ⟨fun hrel => h.unreleased (honly.released.mp hrel), by
    rw [honly.intent]
    exact h.known⟩

/-- How a stage may end: the next one finds `P`, a rollback finds the pipeline
live. -/
def stagePost (P : Overwrite id C → Prop) (r : StageEnd) (s : Overwrite id C) : Prop :=
  match r with
  | .next => Live s ∧ P s
  | .rollback _ => Live s
  | .finished _ => True

theorem stagePost_recheck {r : Recheck} (h : Live s) (hne : recheckEnd r ≠ .next) :
    stagePost P (recheckEnd r) s := by
  cases r with
  | ok => exact absurd rfl hne
  | changed | unknown | threw c => exact h

theorem keeps_settleUnstaged {c : ErrorClass} {finish : OperationFinish} (h : Guarded s)
    (hclosed : Closed s.volume) : Keeps (settleUnstaged env c finish) (stagePost P) s := by
  refine bind (keeps_stagingVolumeGone h) fun gone s₁ h₁ hq₁ => ?_
  subst hq₁
  split
  · exact bind (keeps_advance h₁ fun _ _ => hclosed) fun _ _ h' _ =>
      pure h' trivial
  · exact bind (keeps_update h₁) fun _ _ h' _ => pure h' trivial

section

variable (h : Guarded s) (hlive : Live s)
include h hlive

theorem keeps_stageRestore (hclosed : Closed s.volume) :
    Keeps (stageRestore env) (stagePost fun _ => True) s := by
  unfold stageRestore
  split
  · exact keeps_settleUnstaged h hclosed
  · exact keeps_settleUnstaged h hclosed
  · refine bind (keeps_advance_early h (by simp)) fun _ s₁ h₁ hq₁ => ?_
    exact pure h₁ ⟨hlive.of_intent hq₁.1 (by rw [hq₁.2]; simp), trivial⟩

theorem keeps_stagePoint : Keeps (stagePoint env) (stagePost fun _ => True) s := by
  refine read ?_
  split
  · exact pure h hlive
  · refine bind (keeps_advance_early h (by simp)) fun _ s₁ h₁ hq₁ => ?_
    have hlive₁ : Live s₁ := hlive.of_intent hq₁.1 (by rw [hq₁.2]; simp)
    have hclosed₁ : Closed s₁.volume :=
      h₁.unswapped (by rw [hq₁.2]; simp [openPhases])
    split
    · exact keeps_settleUnstaged h₁ hclosed₁
    · split
      · exact pure h₁ hlive₁
      · split
        · exact pure h₁ hlive₁
        · exact keeps_stageRestore h₁ hlive₁ hclosed₁

theorem keeps_removeStaging : Keeps (removeStaging env) (stagePost fun _ => True) s := by
  refine bind (keeps_stagingVolumeGone h) fun gone s₁ h₁ hq₁ => ?_
  subst hq₁
  split
  · exact pure h₁ ⟨hlive, trivial⟩
  · exact bind (keeps_update h₁) fun _ _ h' _ => pure h' trivial

/-- The fence is written while nothing has been released. -/
theorem keeps_liveFence {state : RestoreFenceState} {now : Int} :
    Keeps (setFenceState state now) (fun _ s' => Live s') s :=
  (keeps_setFenceState h fun hrel => absurd hrel hlive.unreleased).mono
    fun _ _ _ hq => hlive.of_intent hq.1 (hq.2 ▸ hlive.known)

theorem keeps_applyFence : Keeps (applyFence env) (stagePost fun _ => True) s := by
  unfold applyFence
  split
  · exact fail h
  · exact bind (keeps_liveFence h hlive) fun _ _ h' hq => pure h' hq
  · refine bind (keeps_liveFence h hlive) fun _ s₁ h₁ hlive₁ => ?_
    split
    · exact pure h₁ hlive₁
    · exact pure h₁ hlive₁
    · refine bind (keeps_advance_early h₁ (by simp)) fun _ s₂ h₂ hq₂ => ?_
      exact pure h₂ ⟨hlive₁.of_intent hq₂.1 (by rw [hq₂.2]; simp), trivial⟩

theorem keeps_fenceStage : Keeps (fenceStage env) (stagePost fun _ => True) s := by
  unfold fenceStage
  split
  · exact fail h
  · exact pure h hlive
  · exact pure h hlive
  · refine bind (keeps_advance_early h (by simp)) fun _ s₁ h₁ hq₁ => ?_
    have hlive₁ : Live s₁ := hlive.of_intent hq₁.1 (by rw [hq₁.2]; simp)
    refine bind (keeps_liveFence h₁ hlive₁) fun _ s₂ h₂ hlive₂ => ?_
    split
    · exact keeps_applyFence h₂ hlive₂
    · exact bind (keeps_liveFence h₂ hlive₂) fun _ _ h' hq => pure h' hq

theorem keeps_liveUpdate {extra : IntentAdvanceFields} {now : Int} : Keeps (updateIntent extra now)
      (fun _ s' => Live s' ∧ s'.intent.phase = s.intent.phase) s :=
  (keeps_update h).mono fun _ _ _ hq =>
    ⟨hlive.of_intent hq.1 (hq.2 ▸ hlive.known), hq.2⟩

theorem keeps_takePreRestorePoint :
    Keeps (takePreRestorePoint env) (stagePost fun _ => True) s := by
  unfold takePreRestorePoint
  split
  · exact pure h hlive
  · refine bind (keeps_liveUpdate h hlive) fun _ s₁ h₁ hq₁ => ?_
    split
    · exact pure h₁ hq₁.1
    · exact pure h₁ ⟨hq₁.1, trivial⟩
  · rename_i hne₁ hne₂
    refine pure h (stagePost_recheck hlive fun hnext => ?_)
    cases hbegun : env.pointBegun with
    | error c => exact hne₁ c hnext hbegun
    | ok pointId => exact hne₂ pointId hnext hbegun

/-- The engine only writes below the work directory, and only in the open phase
that is for it. -/
theorem keeps_materialize {materialized : Option (Option (Folder C))}
    (hph : s.intent.phase = .materializing) :
    Keeps (materialize materialized)
      (fun _ s' => Live s' ∧ s'.intent.phase = .materializing) s := by
  unfold materialize
  split
  · exact pure h ⟨hlive, hph⟩
  · refine write h ⟨h.quiet, fun hrel => absurd hrel hlive.unreleased,
      fun hopen => absurd ?_ hopen⟩ ⟨⟨hlive.unreleased, hlive.known⟩, hph⟩
    rw [hph]
    simp [openPhases]

theorem keeps_materializePoint : Keeps (materializePoint env)
      (stagePost fun s' => s'.intent.phase = .materializing) s := by
  refine bind (keeps_advance h fun _ hopen => absurd (by simp [openPhases]) hopen)
    fun _ s₁ h₁ hq₁ => read ?_
  have hlive₁ : Live s₁ := hlive.of_intent hq₁.1 (by rw [hq₁.2]; simp)
  split
  · exact pure h₁ hlive₁
  · refine bind (keeps_materialize h₁ hlive₁ hq₁.2) fun _ s₂ h₂ hq₂ => ?_
    split
    · exact pure h₂ hq₂.1
    · exact pure h₂ hq₂.1
    · refine bind (keeps_liveUpdate h₂ hq₂.1) fun _ s₃ h₃ hq₃ => ?_
      exact pure h₃ ⟨hq₃.1, hq₃.2.trans hq₂.2⟩

theorem keeps_liveStep {action : SwapAction} {run : HelperRun C} (hne : action ≠ .prepare) :
    Keeps (runSwapStep action run) (fun _ s' => Live s') s :=
  (keeps_step h hne fun hrel => absurd hrel hlive.unreleased).mono
    fun _ _ _ hq => hlive.of_helper hq.2.2

theorem keeps_readSwapStatus {run : HelperRun C} {fallback : Option SwapStatus} :
    Keeps (readSwapStatus run fallback) (fun _ s' => Live s') s :=
  bind (keeps_liveStep h hlive (by simp)) fun _ _ h' hq => pure h' hq

theorem keeps_finalStatus {committed : SwapRunResult} :
    Keeps (finalStatus env committed) (fun _ s' => Live s') s := by
  refine bind (keeps_readSwapStatus h hlive) fun status s₁ h₁ hlive₁ => ?_
  split
  · refine bind (keeps_liveStep h₁ hlive₁ (by simp)) fun _ s₂ h₂ hlive₂ => ?_
    exact keeps_readSwapStatus h₂ hlive₂
  · exact pure h₁ hlive₁

end

section

variable (h : Guarded s)
include h

theorem keeps_cleanUp : Keeps (cleanUp env) (stagePost P) s := by
  refine bind (keeps_closing (.inr rfl) h fun _ => movesData_cleanup _) fun cleaned s₁ h₁ hq₁ => ?_
  split
  · rename_i hok
    refine read (bind (keeps_releaseRestoreFence h₁ (hq₁.1 hok)) fun released s₂ h₂ hq₂ => ?_)
    exact bind (keeps_advance h₂ fun _ _ => hq₂.volume ▸ hq₁.1 hok) fun _ _ h' _ => pure h' trivial
  · exact bind (keeps_update h₁) fun _ _ h' _ => pure h' trivial

theorem keeps_commitSwap (hlive : Live s) : Keeps (commitSwap env) (stagePost P) s := by
  refine bind (keeps_liveStep h hlive (by simp)) fun committed s₁ h₁ hlive₁ => ?_
  refine bind (keeps_finalStatus h₁ hlive₁) fun status s₂ h₂ hlive₂ => ?_
  split
  · refine bind (keeps_advance h₂ fun _ hopen => absurd (by simp [openPhases]) hopen)
      fun _ s₃ h₃ _ => keeps_cleanUp h₃
  · split
    · exact bind (keeps_advance h₂ fun _ hopen => absurd (by simp [openPhases]) hopen)
        fun _ _ h' _ => pure h' trivial
    · exact pure h₂ hlive₂

theorem keeps_swapAndCleanup (hlive : Live s) (hph : s.intent.phase = .materializing) :
    Keeps (swapAndCleanup env) (stagePost P) s := by
  refine bind (keeps_runSwapStep h (fun hrel => absurd hrel hlive.unreleased) ?_)
    fun prepared s₁ h₁ hq₁ => ?_
  · rintro - (hrel | hopen)
    · exact absurd hrel hlive.unreleased
    · exact absurd (by rw [hph]; simp [openPhases]) hopen
  have hlive₁ : Live s₁ := hlive.of_helper hq₁.2.2
  split
  · refine bind (keeps_advance h₁ fun _ hopen => absurd (by simp [openPhases]) hopen)
      fun _ s₂ h₂ hq₂ => ?_
    have hlive₂ : Live s₂ := hlive₁.of_intent hq₂.1 (by rw [hq₂.2]; simp)
    split
    · exact keeps_commitSwap h₂ hlive₂
    · rename_i hne
      exact pure h₂ (stagePost_recheck hlive₂ hne)
  · exact pure h₁ hlive₁

theorem keeps_finishRollback {env : Answers C} {intent : IntentRow} (hclosed : Closed s.volume) :
    Keeps (finishRollback env intent) (fun _ _ => True) s := by
  refine bind (keeps_stagingVolumeGone h) fun gone s₁ h₁ hq₁ => ?_
  subst hq₁
  refine bind (keeps_releaseFence h₁ hclosed) fun released s₂ h₂ hq₂ => ?_
  split
  · refine read (bind (P := fun _ _ => True)
      (guardedBy h₂ (fun _ => ?_) trivial) fun _ _ h' _ => pure h' trivial)
    exact (keeps_advance h₂ fun _ _ => hq₂.volume ▸ hclosed).mono fun _ _ _ _ => trivial
  · exact bind (keeps_update h₂) fun _ _ h' _ => pure h' trivial

theorem keeps_rollbackIntent {env : Answers C} (hlive : Live s) :
    Keeps (rollbackIntent env) (fun _ _ => True) s := by
  refine read ?_
  split
  · exact pure h trivial
  · split
    · refine bind (keeps_closing (.inl rfl) h
        fun hrel => absurd hrel hlive.unreleased) fun swap s₁ h₁ hq₁ => ?_
      split
      · rename_i hok
        exact keeps_finishRollback h₁ (hq₁.1 hok)
      · exact bind (keeps_advance h₁ fun _ hopen => absurd (by simp [openPhases]) hopen)
          fun _ _ h' _ => pure h' trivial
    · rename_i hph
      refine keeps_finishRollback h (h.unswapped ?_)
      have hknown := hlive.known
      generalize s.intent.phase = p at hph hknown
      cases p <;> simp_all [openPhases]

end

/-- A stage, then either the rollback or the stages that are left. -/
theorem keeps_stages {stage : OverwriteM id C StageEnd} {stages : List (OverwriteM id C StageEnd)}
    (hstage : Keeps stage (stagePost P) s) (hnext : ∀ s', Guarded s' → Live s' → P s' →
      Keeps (runStages env stages) (fun _ _ => True) s') :
    Keeps (runStages env (stage :: stages)) (fun _ _ => True) s := by
  refine bind hstage fun r s₁ h₁ hq₁ => ?_
  cases r with
  | next => exact hnext s₁ h₁ hq₁.1 hq₁.2
  | rollback c =>
    exact bind (keeps_rollbackIntent h₁ hq₁) fun _ _ h' _ =>
      pure h' trivial
  | finished finish => exact pure h₁ trivial

theorem keeps_pipeline (h : Guarded s) (hlive : Live s) :
    Keeps (runOverwritePipeline env) (fun _ _ => True) s := by
  refine read ?_
  split
  · exact pure h trivial
  · split
    · exact pure h trivial
    · refine keeps_stages (keeps_stagePoint h hlive) fun s₁ h₁ hlive₁ _ => ?_
      refine keeps_stages (keeps_removeStaging h₁ hlive₁) fun s₂ h₂ hlive₂ _ => ?_
      refine keeps_stages (keeps_fenceStage h₂ hlive₂) fun s₃ h₃ hlive₃ _ => ?_
      refine keeps_stages (keeps_takePreRestorePoint h₃ hlive₃) fun s₄ h₄ hlive₄ _ => ?_
      refine keeps_stages (keeps_materializePoint h₄ hlive₄) fun s₅ h₅ hlive₅ hph₅ => ?_
      refine keeps_stages (P := fun _ => True) (keeps_swapAndCleanup h₅ hlive₅ hph₅)
        fun s₆ h₆ _ _ => ?_
      exact pure h₆ trivial

end Live

section OperatorRelease

variable {s : Overwrite id C} {env : Answers C}

/-- A release on its way through the members: nothing else has changed, and the
log tells whether a member was dealt with. -/
structure Releasing (s s' : Overwrite id C) : Prop where
  only : MembersOnly s s'
  quiet : NoDataAfterRelease s'.log
  fresh : s' = s ∨ s.log.length < s'.log.length

theorem memberInv_releasing (s : Overwrite id C) : MemberInv (Releasing s) := by
  rintro s₁ members event he h₁
  refine ⟨⟨h₁.only.volume, h₁.only.intent⟩, h₁.quiet.concat fun hmoves => ?_, .inr ?_⟩
  · rw [OverwriteEvent.movesData_of_releases he] at hmoves
    cases hmoves
  · change s.log.length < (s₁.log ++ [event]).length
    rw [List.length_append, List.length_singleton]
    rcases h₁.fresh with heq | hlt
    · rw [heq]
      omega
    · omega

/-- A release that ends has written the fence; one that is cut is on its way, and
it found a live fence. -/
theorem wp_releaseFence_open (h : Guarded s) (answers : String → MemberAnswer)
    (restart : Bool) (now : Int) :
    wp (releaseFence answers restart now) (fun _ => Guarded) (fun _ _ => False)
      (fun s' => Releasing s s' ∧ s.intent.fenceState.isLive = true) s := by
  have hstart : Releasing s s := ⟨⟨rfl, rfl⟩, h.quiet, .inl rfl⟩
  refine wp_read_bind ?_
  by_cases hdown : (s.intent.fenceState = .none || s.intent.fenceState = .released) = true
  · rw [if_pos hdown]
    exact wp_pure h
  · rw [if_neg hdown]
    have hlive : s.intent.fenceState.isLive = true := by
      cases hf : s.intent.fenceState <;> simp_all [RestoreFenceState.isLive]
    split
    · exact wp_write_bind ⟨hstart, hlive⟩ (wp_pure (h.setIntent (fun _ => .inl rfl) h.unswapped))
    · refine wp_bind (wp_mono ((memberInv_releasing s).wp_releaseMembers hstart answers
        restart now s.members) (fun failed s₁ h₁ => ?_) (fun _ _ hE => hE)
        (fun _ hK => ⟨hK, hlive⟩))
      refine wp_write_bind ⟨h₁, hlive⟩ (wp_pure ⟨h₁.quiet, fun _ => .inl ?_, fun hopen => ?_⟩)
      · change workloadsMayRunNow (if failed then .releaseFailed else .released) = true
        cases failed <;> rfl
      · have hph : s₁.intent.phase ∉ openPhases := hopen
        rw [h₁.only.intent] at hph
        change Closed s₁.volume
        rw [h₁.only.volume]
        exact h.unswapped hph

/-- A release that died on its way is harmless when the fence column said
already that workloads may run, or when no member was dealt with. -/
theorem Releasing.guarded {s' : Overwrite id C} (h : Guarded s) (hrel : Releasing s s')
    (hok : s'.log ≠ s.log → workloadsMayRunNow s.intent.fenceState = true) : Guarded s' := by
  rcases hrel.fresh with heq | hlt
  · rw [heq]
    exact h
  · have hmay := hok fun heq => by
      rw [heq] at hlt
      omega
    refine ⟨hrel.quiet, fun _ => .inl ?_, fun hopen => ?_⟩
    · rw [hrel.only.intent]
      exact hmay
    · rw [hrel.only.intent] at hopen
      rw [hrel.only.volume]
      exact h.unswapped hopen

theorem keeps_acceptVolume {intent : IntentRow} (h : Guarded s) :
    Keeps (acceptVolume env intent) (fun _ _ => True) s := by
  have hstat : Keeps (statusOfTarget env intent) (fun _ _ => True) s := by
    unfold statusOfTarget
    split
    · exact bind (keeps_status h) fun _ _ h' _ => pure h' trivial
    · exact pure h trivial
  have hkeep : ∀ s₁ : Overwrite id C, Guarded s₁ →
      Keeps (keepReleased intent env.now) (fun _ _ => True) s₁ := by
    intro s₁ h₁
    unfold keepReleased
    split
    · exact (keeps_update h₁).mono fun _ _ _ _ => trivial
    · split
      · exact (keeps_advance h₁ fun _ hopen => absurd (by simp [openPhases]) hopen).mono
          fun _ _ _ _ => trivial
      · exact (keeps_update h₁).mono fun _ _ _ _ => trivial
  refine bind hstat fun status s₁ h₁ _ => ?_
  split
  · refine bind (keeps_closing (.inr rfl) h₁ fun _ => movesData_cleanup _)
      fun cleaned s₂ h₂ hq₂ => ?_
    split
    · rename_i hok
      exact bind (keeps_advance h₂ fun _ _ => hq₂.1 hok) fun _ _ h' _ =>
        pure h' trivial
    · exact bind (keeps_update h₂) fun _ _ h' _ => pure h' trivial
  · exact bind (hkeep s₁ h₁) fun _ _ h' _ => pure h' trivial

theorem Keeps.after {α : Type} {p : OverwriteM id C α} {Q : α → Overwrite id C → Prop}
    (h : Keeps p Q s) (b : Budget) : Guarded (p.after b s) :=
  after_of_wp (wp_imp h (fun _ _ hQ => hQ.1)) b

/-- The release of a `release_fence` died after it had dealt with a member and
before it wrote the fence, which is still held. -/
def DiesInRelease (env : Answers C) (b : Budget) (s : Overwrite id C) : Prop :=
  s.intent.fenceState = .held ∧ (releaseFence env.release false env.now).outcome b s = .cut ∧
    ((releaseFence env.release false env.now).after b s).log ≠ s.log

/-- A `release_fence` keeps the invariant unless it dies inside its release over
an open journal. -/
theorem guarded_releaseOverwriteFence (h : Guarded s) (b : Budget)
    (hdies : DiesInRelease env b s → Closed s.volume) :
    Guarded ((releaseOverwriteFence env).after b s) := by
  have hskip : ∀ e : ErrorClass,
      Guarded ((fail e : OverwriteM id C Resolved).after b s) := fun _ => h
  by_cases hclosed : Closed s.volume
  · refine after (Q := fun _ _ => True) (read ?_) b
    split
    · exact fail h
    · split
      · exact fail h
      · split
        · exact fail h
        · split
          · exact fail h
          · refine bind (keeps_releaseFence h hclosed) fun released s₁ h₁ _ => ?_
            split
            · exact keeps_acceptVolume h₁
            · exact fail h₁
  · have hrelease := wp_releaseFence_open h env.release false env.now
    change Guarded (after (if _ then _ else _) b s)
    split
    · exact hskip _
    · split
      · exact hskip _
      · split
        · exact hskip _
        · split
          · exact hskip _
          · refine after_bind (fun hcut => ?_) (fun e he => ?_) (fun released hdone b' => ?_)
            · obtain ⟨hway, hlive⟩ := of_wp_cut hrelease hcut
              refine hway.guarded h fun hlog => ?_
              by_contra hmay
              refine hclosed (hdies ⟨?_, hcut, hlog⟩)
              cases hf : s.intent.fenceState <;>
                simp_all [workloadsMayRunNow, RestoreFenceState.isLive]
            · exact (of_wp_failed hrelease he).elim
            · have h₁ := of_wp_done hrelease hdone
              split
              · exact (keeps_acceptVolume h₁).after b'
              · exact h₁

end OperatorRelease

/-- The entry points that settle an overwrite after its live pipeline. -/
inductive OverwriteEntry where
  | boot
  | retry
  | releaseFence

/-- One entry point with what the world answers it and where it is cut. -/
structure OverwriteStep (C : Type) where
  entry : OverwriteEntry
  answers : Answers C
  budget : Budget

def OverwriteStep.after (s : Overwrite id C) (step : OverwriteStep C) : Overwrite id C :=
  match step.entry with
  | .boot => (reconcileOverwriteIntentsAtStartup step.answers).after step.budget s
  | .retry => (retryOverwrite step.answers).after step.budget s
  | .releaseFence => (releaseOverwriteFence step.answers).after step.budget s

/-- The live pipeline, cut anywhere, and then any entry points. -/
def overwriteRun (live : LiveAnswers C) (b : Budget) (steps : List (OverwriteStep C))
    (s : Overwrite id C) : Overwrite id C :=
  Runs.run OverwriteStep.after ((runOverwritePipeline live).after b s) steps

/-- What admission leaves: the intent is recorded, nothing is fenced, and the
volume holds no work directory of it. -/
structure Admitted (s : Overwrite id C) : Prop where
  phase : s.intent.phase = .recorded
  mode : s.intent.targetMode = .stagedOverwrite
  target : s.intent.targetVolume.isSome
  fence : s.intent.fenceState = .none
  work : s.volume.work = none
  log : s.log = []

theorem Admitted.guarded {s : Overwrite id C} (h : Admitted s) : Guarded s := by
  refine ⟨?_, fun hrel => ?_, fun _ => closed_of_work_none h.work⟩
  · intro pre e post heq
    rw [h.log] at heq
    simp at heq
  · obtain ⟨e, he, -⟩ := hrel
    rw [h.log] at he
    cases he

theorem Admitted.live {s : Overwrite id C} (h : Admitted s) : Live s := by
  refine ⟨fun hrel => ?_, by rw [h.phase]; simp⟩
  obtain ⟨e, he, -⟩ := hrel
  rw [h.log] at he
  cases he

/-- The step is a `release_fence` that dies inside its release. -/
def OverwriteStep.DiesInRelease (step : OverwriteStep C) (s : Overwrite id C) : Prop :=
  step.entry = .releaseFence ∧ Recovery.DiesInRelease step.answers step.budget s

theorem Guarded.step {s : Overwrite id C} (h : Guarded s) (step : OverwriteStep C)
    (hdies : step.DiesInRelease s → Closed s.volume) : Guarded (step.after s) := by
  unfold OverwriteStep.after
  cases hent : step.entry with
  | boot => exact (keeps_boot h).after step.budget
  | retry => exact (keeps_retry h).after step.budget
  | releaseFence =>
    exact guarded_releaseOverwriteFence h step.budget fun hd => hdies ⟨hent, hd⟩

/-- In every run of a staged overwrite in which no `release_fence` dies inside
its release over an open journal, no helper step that moves entries or applies
root metadata is issued once a fenced container has been dealt with. -/
theorem no_data_step_after_release (s₀ : Overwrite id C) (hadmitted : Admitted s₀)
    (live : LiveAnswers C) (b : Budget) (steps : List (OverwriteStep C))
    (hdies : ∀ pre step post, steps = pre ++ step :: post →
      step.DiesInRelease (overwriteRun live b pre s₀) →
      Closed (overwriteRun live b pre s₀).volume) :
    NoDataAfterRelease (overwriteRun live b steps s₀).log := by
  suffices hguard : ∀ pre post, steps = pre ++ post → Guarded (overwriteRun live b pre s₀) from
    (hguard steps [] (List.append_nil steps).symm).quiet
  intro pre
  induction pre using List.reverseRecOn with
  | nil =>
    intro _ _
    exact (keeps_pipeline hadmitted.guarded hadmitted.live).after b
  | append_singleton pre step ih =>
    intro post hsteps
    have hsplit : steps = pre ++ step :: post := by
      rw [hsteps, List.append_assoc]
      rfl
    have hrun : overwriteRun live b (pre ++ [step]) s₀ =
        step.after (overwriteRun live b pre s₀) := Runs.run_append _ _ _
    rw [hrun]
    exact (ih (step :: post) hsplit).step step (hdies pre step post hsplit)

def sampleIntent : IntentRow where
  id := "00000000-0000-4000-8000-000000000000"
  operationId := "operation"
  pointId := "point"
  targetMode := .stagedOverwrite
  targetVolume := some "data"
  pathScope := none
  phase := .recorded
  stagingVolume := some "stage"
  expectedGenerationToken := some "generation"
  dependentStacks := none
  preRestorePointId := none
  fenceState := .none
  outcomeClass := none
  filesRestored := none
  bytesRestored := none
  verified := none
  xattrWarnings := none
  actor := "admin"
  processEpoch := "epoch"
  createdAt := 0
  updatedAt := 0

/-- An admitted overwrite of a volume with two entries, used by one container. -/
def sampleOverwrite : Overwrite sampleId Nat where
  intent := sampleIntent
  members := [⟨"web", ⟨some "always", none⟩, true, none⟩]
  volume := ⟨overlapVolume.root, none, 1, 2, 10, overlapVolume.reserved⟩
  log := []

theorem sampleOverwrite_admitted : Admitted sampleOverwrite :=
  ⟨rfl, rfl, rfl, rfl, rfl, rfl⟩

/-- What the engine restores beside the two entries. -/
def sampleContent : Folder Nat :=
  ⟨(∅ : Entries Nat).insert (ascii "b") ⟨false, 3⟩ |>.insert (ascii "c") ⟨false, 4⟩,
    ⟨999, 999, 0o700#12, 5⟩⟩

/-- The commit helper dies after its first rename and its status is not heard, so
the pipeline parks the intent with the fence held. -/
def lostCommit : LiveAnswers Nat :=
  { LiveAnswers.complete sampleContent with
    helper := fun site =>
      match site with
      | .commit => .ran (some 3) (.killed false) [] ⟨[], [], []⟩
      | .status => .unavailable .nodeError
      | _ => .complete }

/-- The operator releases the fence and then retries. -/
def releaseThenRetry (cut : Budget) : List (OverwriteStep Nat) :=
  [⟨.releaseFence, .complete, cut⟩, ⟨.retry, .complete, none⟩]

/-- With the release not cut, the retry finds it recorded and moves nothing. -/
theorem release_then_retry_moves_nothing : NoDataAfterRelease
      (overwriteRun lostCommit none (releaseThenRetry none) sampleOverwrite).log := by
  refine no_data_step_after_release sampleOverwrite sampleOverwrite_admitted lostCommit
    none (releaseThenRetry none) ?_
  intro pre step post hsteps hdies
  have hmem : step ∈ releaseThenRetry none := by
    rw [hsteps]
    simp
  have hbudget : step.budget = none := by
    simp only [releaseThenRetry, List.mem_cons, List.not_mem_nil, or_false] at hmem
    rcases hmem with rfl | rfl <;> rfl
  obtain ⟨-, -, hcut, -⟩ := hdies
  rw [hbudget] at hcut
  exact absurd hcut (uncut _ _).1

/-- The release dies after it gave `web` its restart policy back.  The fence
still reads `held`, and the retry rolls the half-moved volume back. -/
theorem retry_moves_data_after_release : Admitted sampleOverwrite ∧ ¬ NoDataAfterRelease
        (overwriteRun lostCommit none (releaseThenRetry (some 1)) sampleOverwrite).log := by
  refine ⟨sampleOverwrite_admitted, fun h => ?_⟩
  have hlog : (overwriteRun lostCommit none (releaseThenRetry (some 1)) sampleOverwrite).log =
      [.issued .prepare false, .issued .commit true, .issued .status false,
        .policyRestored "web" ⟨some "always", none⟩, .issued .status false] ++
      .issued .rollback true :: [.policyRestored "web" ⟨some "always", none⟩, .started "web",
          .markedReleased "web"] := by
    decide
  exact h _ _ _ hlog rfl ⟨.policyRestored "web" ⟨some "always", none⟩, by decide, rfl⟩

end Sencho.Recovery

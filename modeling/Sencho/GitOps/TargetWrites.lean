import Sencho.GitOps.CallWrites

/-!
# Write sets of the target calls

The calls that edit one target, and with it the recovery state of its
application; then the write set of any call.
-/

namespace Sencho.GitOps

open Verified Tx Transition Tx.Ensures Handed

variable {repoKey : String → Option String} {db : Db} {tr : Transition} {cols : List TargetColumn}

/-! ## Row edits -/

theorem TargetKept.refl (t : Target) : TargetKept cols t t :=
  ⟨rfl, fun _ _ => rfl⟩

theorem TargetKept.trans {t t' t'' : Target}
    (h : TargetKept cols t t') (h' : TargetKept cols t' t'') : TargetKept cols t t'' :=
  ⟨h'.1.trans h.1, fun c hc => (h'.2 c hc).trans (h.2 c hc)⟩

theorem TargetKept.mono {cols cols' : List TargetColumn} {t t' : Target}
    (h : TargetKept cols t t') (hcols : cols ⊆ cols') : TargetKept cols' t t' :=
  ⟨h.1, fun c hc => h.2 c fun hmem => hc (hcols hmem)⟩

namespace Target

variable (t : Target)

theorem markInFlightRestore_kept (at_ : Int) :
    TargetKept [.active] t (t.markInFlightRestore at_) := by
  rw [markInFlightRestore_eq]
  exact .of rfl rfl

theorem bindDeploy_kept (generationId : String) :
    TargetKept [.active] t (t.bindDeploy generationId) := by
  unfold bindDeploy
  rw [clearInterruption_eq, clearInterruption_eq, clearFailure_eq]
  exact .of rfl rfl

theorem tombstone_kept : TargetKept [.status, .lkg, .active] t t.tombstone := by
  exact .of rfl rfl

theorem withdraw_kept : TargetKept [.status, .active] t t.withdraw := by
  unfold withdraw
  rw [clearInterruption_eq]
  exact .of rfl rfl

theorem openBlueprintDeploy_kept (args : BlueprintDeployStartedArgs) :
    TargetKept [.active, .pending] t (t.openBlueprintDeploy args) := by
  unfold openBlueprintDeploy
  rw [clearInterruption_eq]
  exact .of rfl rfl

theorem noteRecoveryPoint_kept (generationId : Option String) :
    TargetKept [.recovery] t (t.noteRecoveryPoint generationId) := by
  rw [noteRecoveryPoint_eq]
  exact .of rfl rfl

theorem releaseRequest_kept (args : BlueprintAckArgs) :
    TargetKept [.active, .recovery] t (t.releaseRequest args) := by
  unfold releaseRequest
  rw [clearInterruption_eq, noteRecoveryPoint_eq]
  exact .of rfl rfl

theorem bindAcknowledged_kept (app : Application) (args : BlueprintAckArgs)
    (candidateId : Option String) :
    TargetKept [.intent, .applied, .attempts, .stopReason, .rolloutGeneration,
      .rolloutAuthorization, .sourceAcceptance] t (t.bindAcknowledged app args candidateId) := by
  exact .of rfl rfl

theorem acknowledged_kept (app : Application) (args : BlueprintAckArgs)
    (candidateId : Option String) :
    TargetKept (Transition.blueprintAckRecorded args).targetWrites t
      (t.acknowledged app args candidateId) := by
  have hreleased := @TargetKept.mono _ (Transition.blueprintAckRecorded args).targetWrites _ _
    (t.releaseRequest_kept args) (by simp [Transition.targetWrites])
  have hbound := @TargetKept.mono _ (Transition.blueprintAckRecorded args).targetWrites _ _
    ((t.releaseRequest args).bindAcknowledged_kept app args candidateId)
    (by simp [Transition.targetWrites])
  unfold acknowledged
  rw [clearInterruption_eq, clearFailure_eq]
  exact (hreleased.trans hbound).trans (.of rfl rfl)

theorem settleRollback_kept (recoveryRef : String) (failureClass : RollbackFailureClass)
    (at_ : Int) :
    TargetKept [.active, .recovery] t (t.settleRollback recoveryRef failureClass at_) := by
  unfold settleRollback
  rw [clearInterruption_eq, clearRestoreMarker_eq, rollbackFailure_eq]
  exact .of rfl rfl

theorem completeRecovery_kept : TargetKept [.active, .recovery] t t.completeRecovery := by
  unfold completeRecovery
  rw [clearFailure_eq, clearInterruption_eq]
  exact .of rfl rfl

theorem completeRollback_kept (evidence : RestoreEvidence) :
    TargetKept [.active, .recovery] t (t.completeRollback evidence) := by
  exact t.completeRecovery_kept.trans (.of rfl rfl)

theorem bindRestored_kept (db : Db) (applicationId restored : String)
    (capturedArtifactSetId capturedSourceAcceptanceRef : Option String) (at_ : Int) :
    TargetKept [.applied, .healthy, .lkg, .sourceAcceptance] t
      (t.bindRestored db applicationId restored capturedArtifactSetId
        capturedSourceAcceptanceRef at_) := by
  unfold bindRestored restoreSourceAcceptance
  dsimp only
  rw [restoreLastKnownGood_eq]
  exact .of rfl rfl

theorem recordVerdict_kept (db : Db) (args : HealthFinalizedArgs) (attributable : Bool) :
    TargetKept [.healthy, .lastHealth, .lkg] t (t.recordVerdict db args attributable) := by
  rw [recordVerdict_eq]
  exact .of rfl rfl

theorem releaseHealthRun_kept (healthRunId : String) :
    TargetKept [.pending] t (t.releaseHealthRun healthRunId) := by
  rw [releaseHealthRun_eq]
  exact .of rfl rfl

end Target

theorem applyHealthGatedDecision_kept (t : Target) (policy : HealthRolloutPolicy)
    (verdict : HealthVerdict) :
    TargetKept [.pending, .attempts, .stopReason] t
      (applyHealthGatedDecision t policy verdict).1 := by
  unfold applyHealthGatedDecision
  dsimp only
  split <;> exact .of rfl rfl

/-! ## Calls that settle a target

A call on one target whose application follows it: the call owns both rows and
may write the recovery state of the application and the listed target columns.
-/

structure Settling (tr : Transition) (id : String) (nodeId : Int)
    (cols : List TargetColumn) : Prop where
  ownsApp : tr.scope.ownsApp id
  ownsTarget : tr.scope.ownsTarget ⟨id, nodeId⟩
  follows : [.recovery, .failure] ⊆ tr.appWrites
  columns : cols ⊆ tr.targetWrites

namespace Settling

variable {id : String} {nodeId : Int} {cols : List TargetColumn}

theorem recovery (h : Settling tr id nodeId cols) : tr.writes (.app id .recovery) :=
  ⟨h.ownsApp, h.follows (by simp)⟩

theorem failure (h : Settling tr id nodeId cols) : tr.writes (.app id .failure) :=
  ⟨h.ownsApp, h.follows (by simp)⟩

theorem target {t : Target} {c : TargetColumn} (h : Settling tr id nodeId cols)
    (hown : tr.scope.ownsTarget t.key) (hc : c ∈ cols) : tr.writes (.target t.key c) :=
  ⟨hown, h.columns hc⟩

theorem handed {t t' : Target} (h : Settling tr id nodeId cols)
    (hown : tr.scope.ownsTarget t.key) (hkept : TargetKept cols t t') :
    Handed tr.writes db t t' db :=
  of_kept hown (hkept.mono h.columns)

/-- Hand the marker back to a restore once the call is done with the row. -/
theorem marked {db' : Db} {t t' : Target} {at_ : Int} (h : Settling tr id nodeId cols)
    (hown : tr.scope.ownsTarget t.key) (hc : .active ∈ cols)
    (hhanded : Handed tr.writes db t t' db') :
    Handed tr.writes db t (t'.markInFlightRestore at_) db' := by
  refine hhanded.trans (same (targetSame_marked ?_))
  rw [hhanded.2.1]
  exact h.target hown hc

end Settling

section

variable {id : String} {nodeId : Int} {envelope : EventEnvelope}
variable {node : Option Int} {recoveryGenerationId : Option String} {recoveryRef : String}

theorem writes_deployBound {generationId : String}
    (h : Settling tr id nodeId [.active, .recovery]) :
    Writes tr.writes (deployBound id nodeId generationId envelope) db := by
  refine writes_targetEdit h.ownsTarget fun t _ hown => ?_
  simp only [ensures_bind, ensures_refuseIf, ensures_pure]
  intro _ _
  have hbound := @Settling.handed db _ _ _ _ _ _ h hown
    ((t.bindDeploy_kept generationId).mono (by simp))
  have hslot : tr.writes (.target (t.bindDeploy generationId).key .recovery) := by
    rw [hbound.2.1]
    exact h.target hown (by simp)
  refine mono (ensures_retireOnSuccess h.recovery h.failure hslot) fun t' db' hretired => ?_
  exact h.marked hown (by simp) (hbound.trans hretired)

theorem ensures_settled {t : Target} {stage : TargetActiveStage} {failure : TargetFailure}
    (h : Settling tr id nodeId [.active, .recovery]) (hown : tr.scope.ownsTarget t.key) :
    Tx.Ensures (settleFailure t id stage failure envelope) db (Handed tr.writes db t) :=
  ensures_settleFailure h.recovery h.failure (h.target hown (by simp)) (h.target hown (by simp))

theorem writes_deployUnbound {generationId : String}
    (h : Settling tr id nodeId [.active, .recovery]) :
    Writes tr.writes (deployUnbound id nodeId generationId envelope) db := by
  refine writes_targetEdit h.ownsTarget fun t _ hown => ?_
  simp only [ensures_bind, ensures_refuseIf, ensures_pure]
  intro _
  exact ensures_settled h hown

theorem writes_deployFailed {failureClass : MutationClass}
    (h : Settling tr id nodeId [.active, .recovery]) :
    Writes tr.writes (deployFailed id nodeId failureClass envelope) db := by
  refine writes_targetEdit h.ownsTarget fun t _ hown => ?_
  simp only [ensures_bind, ensures_pure]
  exact ensures_settled h hown

theorem writes_blueprintWithdrawFailed {failureClass : String}
    (h : Settling tr id nodeId [.active, .recovery]) :
    Writes tr.writes (blueprintWithdrawFailed id nodeId failureClass envelope) db := by
  refine writes_targetEdit h.ownsTarget fun t _ hown => ?_
  simp only [ensures_bind, ensures_pure]
  exact ensures_settled h hown

theorem writes_blueprintDeployFailed {failureClass : String}
    (h : Settling tr id nodeId [.pending, .active, .recovery]) :
    Writes tr.writes (blueprintDeployFailed id nodeId failureClass envelope) db := by
  refine writes_targetEdit h.ownsTarget fun t _ hown => ?_
  have h' : Settling tr id nodeId [.active, .recovery] :=
    ⟨h.ownsApp, h.ownsTarget, h.follows, fun c hc => h.columns (List.mem_cons_of_mem _ hc)⟩
  simp only [ensures_bind, ensures_pure]
  refine mono (ensures_settled h' hown) fun t' db' hhanded => ?_
  have hown' : tr.scope.ownsTarget t'.key := by
    rw [hhanded.2.1]
    exact hown
  exact hhanded.trans (h.handed hown' (.of rfl rfl))

theorem writes_targetTombstoned (h : Settling tr id nodeId [.status, .lkg, .active]) :
    Writes tr.writes (targetTombstoned id nodeId envelope) db := by
  refine writes_targetEdit h.ownsTarget fun t _ hown => ?_
  simp only [ensures_bind, ensures_pure]
  refine mono (ensures_clearApplicationRecovery h.recovery h.failure) fun _ db' hbeside => ?_
  have hcleared : Handed tr.writes db t t db' := ⟨hbeside, TargetSame.refl t⟩
  exact h.marked hown (by simp) (hcleared.trans (h.handed hown t.tombstone_kept))

theorem writes_blueprintWithdrawn {intentRevisionId : String}
    (h : Settling tr id nodeId [.status, .active]) :
    Writes tr.writes (blueprintWithdrawn id nodeId intentRevisionId envelope) db := by
  refine writes_targetEdit h.ownsTarget fun t _ hown => ?_
  simp only [ensures_bind, ensures_require, ensures_pure]
  intro _ _
  refine mono (ensures_clearApplicationRecovery h.recovery h.failure) fun _ db' hbeside => ?_
  have hcleared : Handed tr.writes db t t db' := ⟨hbeside, TargetSame.refl t⟩
  exact h.marked hown (by simp) (hcleared.trans (h.handed hown t.withdraw_kept))

theorem writes_blueprintObservation {stage : BlueprintObservationStage}
    (h : Settling tr id nodeId [.status, .recovery]) :
    Writes tr.writes (blueprintObservation id nodeId stage envelope) db := by
  refine writes_targetEdit h.ownsTarget fun t _ hown => ?_
  unfold reviveForReview
  simp only [ensures_bind, ensures_ite, ensures_refuseIf, ensures_pure]
  refine ⟨fun _ => same (TargetSame.refl t), fun _ _ => ?_⟩
  refine mono (ensures_reviveTarget h.recovery h.failure
    (h.target hown (by simp)) (h.target hown (by simp))) fun t' db' hhanded => ?_
  exact hhanded.trans (same ⟨rfl, fun c _ => by cases c <;> rfl⟩)

/-- Write the recovery columns beside an update of the owning application. -/
theorem writes_recoveryEdit {β : Type} {stage : TargetStage}
    {mutate : Target → Application → Store (Target × β)} (h : Settling tr id nodeId cols)
    (hmutate : ∀ t app, tr.scope.ownsTarget t.key → Tx.Ensures (mutate t app) db
      fun r db' => BesideTargets tr.writes db db' ∧ TargetKept cols t r.1) :
    Writes tr.writes (mutateTarget id nodeId envelope stage mutate false) db := by
  refine writes_targetEdit h.ownsTarget fun t app hown => ?_
  refine (hmutate t app hown).mono fun r db' hr => ?_
  have hbeside : Handed tr.writes db t t db' := ⟨hr.1, TargetSame.refl t⟩
  exact hbeside.trans (h.handed hown hr.2)

theorem ensures_settleRefusedRollback {current : Target} (h : Settling tr id nodeId cols) :
    Tx.Ensures (settleRefusedRollback id current envelope) db fun _ db' =>
      BesideTargets tr.writes db db' :=
  ensures_deriveRecovery h.recovery h.failure

theorem writes_rollbackTargetFailed {failureClass : RollbackFailureClass}
    (h : Settling tr id nodeId [.active, .recovery]) :
    Writes tr.writes (rollbackTargetFailed id nodeId recoveryRef failureClass envelope) db := by
  refine writes_bind ?_ fun failed db' _ => ?_
  · refine writes_recoveryEdit h fun t _ _ => ?_
    have hkept := t.settleRollback_kept recoveryRef failureClass envelope.at_
    rw [ensures_ite, ensures_pure, ensures_bind]
    refine ⟨fun _ => ?_, fun _ => ⟨BesideTargets.refl db, hkept⟩⟩
    refine mono (ensures_settleRefusedRollback h) fun _ db' hbeside => ?_
    exact ensures_pure.mpr ⟨hbeside, hkept⟩
  · refine writes_ite (fun _ => writes_pure) fun _ => ?_
    exact mono (ensures_settleRefusedRollback h) fun _ _ hbeside => hbeside.1

theorem writes_rollbackCompleted {evidence : RestoreEvidence} (h : Settling tr id nodeId
      [.applied, .healthy, .stopReason, .lkg, .active, .recovery, .sourceAcceptance]) :
    Writes tr.writes (rollbackCompleted id nodeId evidence envelope) db := by
  refine writes_recoveryEdit h fun t _ _ => ?_
  simp only [ensures_bind, ensures_require, ensures_get, ensures_refuseIf, ensures_pure]
  intro restored _ _
  refine mono (ensures_settleRefusedRollback h) fun _ db' hbeside =>
    ⟨hbeside, ?_⟩
  have hcompleted := @TargetKept.mono _
    [.applied, .healthy, .stopReason, .lkg, .active, .recovery, .sourceAcceptance] _ _
    (t.completeRollback_kept evidence) (by simp)
  have hbound := @TargetKept.mono _
    [.applied, .healthy, .stopReason, .lkg, .active, .recovery, .sourceAcceptance] _ _
    ((t.completeRollback evidence).bindRestored_kept db id restored
      evidence.capturedArtifactSetId evidence.capturedSourceAcceptanceRef envelope.at_)
    (by simp)
  exact (hcompleted.trans hbound).trans (.of rfl rfl)

theorem writes_recoverySucceeded {evidence : RestoreEvidence} {proven : Bool}
    {binding : GitOpsBinding} (h : Settling tr id nodeId
      [.applied, .healthy, .lkg, .active, .recovery, .sourceAcceptance]) :
    Writes tr.writes (recoverySucceeded id nodeId evidence recoveryGenerationId proven binding
      envelope) db := by
  refine writes_recoveryEdit h fun t _ _ => ?_
  rw [ensures_bind]
  have hcompleted := @TargetKept.mono _
    [.applied, .healthy, .lkg, .active, .recovery, .sourceAcceptance] _ _
    t.completeRecovery_kept (by simp)
  refine mono (ensures_settleRefusedRollback h) fun _ db' hbeside => ?_
  rw [ensures_bind, ensures_get]
  split
  · rw [ensures_pure]
    exact ⟨hbeside, hcompleted.trans (.of rfl rfl)⟩
  · rename_i restored _
    rw [ensures_pure]
    refine ⟨hbeside, hcompleted.trans ?_⟩
    refine @TargetKept.trans _ _ ((t.completeRecovery.noteLimitation "recovery_unproven"
      none).bindRecovered restored binding) _ (.of rfl rfl) ?_
    exact (Target.bindRestored_kept _ _ _ _ _ _ _).mono (by simp)

theorem writes_recoveryFailed {failureClass : MutationClass}
    (h : Settling tr id nodeId [.active, .recovery]) :
    Writes tr.writes (recoveryFailed id nodeId recoveryRef failureClass envelope) db := by
  refine writes_recoveryEdit h fun t _ _ => ?_
  rw [ensures_bind]
  refine mono (ensures_withApplication (W := tr.writes) ?_) fun _ db' hbeside => ?_
  · rintro _ app rfl
    exact appSame_recovery h.recovery h.failure
  · rw [ensures_pure, Target.clearInterruption_eq]
    exact ⟨hbeside, .of rfl rfl⟩

theorem writes_blueprintDeployStarted {args : BlueprintDeployStartedArgs}
    (h : Settling tr args.applicationId args.nodeId [.status, .pending, .active, .recovery]) :
    Writes tr.writes (blueprintDeployStarted args) db := by
  refine writes_targetEdit h.ownsTarget fun t _ hown => ?_
  have hrevived : Tx.Ensures (reviveIfSevered t args.applicationId args.envelope) db
      (Handed tr.writes db t) := by
    unfold reviveIfSevered
    rw [ensures_ite, ensures_pure]
    exact ⟨fun _ => ensures_reviveTarget h.recovery h.failure (h.target hown (by simp))
      (h.target hown (by simp)), fun _ => same (TargetSame.refl t)⟩
  simp only [ensures_bind, ensures_refuseIf, ensures_pure]
  refine hrevived.mono fun t' db' hhanded _ => ?_
  have hown' : tr.scope.ownsTarget t'.key := by
    rw [hhanded.2.1]
    exact hown
  exact hhanded.trans (h.handed hown' ((t'.openBlueprintDeploy_kept args).mono (by simp)))

theorem writes_blueprintAckRecorded {args : BlueprintAckArgs} :
    Writes (Transition.blueprintAckRecorded args).writes (blueprintAckRecorded args) db := by
  have h : Settling (.blueprintAckRecorded args) args.applicationId args.nodeId
      (Transition.blueprintAckRecorded args).targetWrites :=
    ⟨rfl, rfl, .refl _, .refl _⟩
  refine writes_targetEdit rfl fun t app hown => ?_
  rw [ensures_ite, ensures_pure]
  refine ⟨fun _ => h.handed hown ((t.noteRecoveryPoint_kept _).mono ?_), fun _ => ?_⟩
  · simp [targetWrites]
  simp only [ensures_bind, ensures_require, ensures_refuseIf]
  intro candidateId _ _
  unfold acknowledge
  rw [ensures_ite, ensures_pure]
  refine ⟨fun _ => h.marked hown ?_ (h.handed hown ?_), fun _ => ?_⟩
  · simp [targetWrites]
  · exact ((t.releaseRequest_kept args).mono (by simp [targetWrites])).trans (.of rfl rfl)
  simp only [ensures_bind, ensures_pure]
  have hbound := @Settling.handed db _ _ _ _ _ _ h hown (t.acknowledged_kept app args candidateId)
  have hslot : (Transition.blueprintAckRecorded args).writes
      (.target (t.acknowledged app args candidateId).key .recovery) := by
    rw [hbound.2.1]
    exact h.target hown (by simp [targetWrites])
  refine mono (ensures_retireOnSuccess h.recovery h.failure hslot) fun t' db' hretired => ?_
  refine mono (ensures_clearApplicationRecovery h.recovery h.failure) fun _ db'' hbeside => ?_
  have hhanded := (hbound.trans hretired).trans ⟨hbeside, TargetSame.refl t'⟩
  exact h.marked hown (by simp [targetWrites]) hhanded

/-- Opening a restore writes the recovery column of the application alone. -/
theorem ensures_openApplicationRecovery (hr : tr.writes (.app id .recovery)) :
    Tx.Ensures (openApplicationRecovery id recoveryRef envelope) db fun _ db' =>
      BesideTargets tr.writes db db' := by
  refine ensures_withApplication ?_
  rintro _ app rfl
  refine ⟨rfl, fun c hc => ?_⟩
  cases c <;> first | rfl | exact absurd hr hc

theorem writes_recoveryStarted :
    Confined repoKey db (.recoveryStarted id nodeId recoveryRef recoveryGenerationId envelope) := by
  refine writes_targetEdit rfl fun t _ hown => ?_
  simp only [ensures_bind, ensures_refuseIf, ensures_pure]
  intro _ _
  exact mono (@ensures_openApplicationRecovery _ (.recoveryStarted id nodeId
    recoveryRef recoveryGenerationId envelope) _ _ _ ⟨rfl, List.mem_singleton.mpr rfl⟩)
    fun _ db' hbeside => ⟨hbeside, TargetKept.same (.of rfl rfl) hown⟩

theorem writes_rollbackInProgress :
    Confined repoKey db (.rollbackInProgress id node recoveryRef recoveryGenerationId envelope) := by
  cases node with
  | none =>
    refine writes_appEdit rfl fun app _ => ?_
    simp only [ensures_bind, ensures_refuseIf, ensures_pure]
    intro _
    exact ⟨Frame.refl db, .of rfl rfl⟩
  | some nodeId =>
    refine writes_targetEdit rfl fun t _ hown => ?_
    simp only [ensures_bind, ensures_refuseIf, ensures_pure]
    intro _ _
    exact mono (@ensures_openApplicationRecovery _ (.rollbackInProgress id
      (some nodeId) recoveryRef recoveryGenerationId envelope) _ _ _
        ⟨rfl, List.mem_singleton.mpr rfl⟩) fun _ db' hbeside =>
        ⟨hbeside, TargetKept.same (.of rfl rfl) hown⟩

theorem writes_rollbackPartialFailed {failureClass : RollbackFailureClass} :
    Confined repoKey db (.rollbackPartialFailed id node recoveryRef failureClass envelope) := by
  cases node with
  | none =>
    refine writes_appEdit rfl fun app _ => ?_
    simp only [ensures_bind, ensures_get, ensures_pure]
    rw [deriveApplicationRecovery_eq]
    exact ⟨Frame.refl db, .of rfl rfl⟩
  | some nodeId =>
    exact writes_rollbackTargetFailed ⟨rfl, rfl, .refl _, .refl _⟩

theorem writes_rollbackRefusalSettled {targets : List RefusedTarget} :
    Confined repoKey db (.rollbackRefusalSettled id targets recoveryRef envelope) := by
  refine writes_bind (writes_forM targets fun r _ db => ?_) fun _ db' _ => ?_
  · exact writes_attempt (writes_rollbackTargetFailed ⟨rfl, rfl, .refl _, .refl _⟩)
  · refine writes_appEdit rfl fun app _ => ?_
    simp only [ensures_bind, ensures_get, ensures_pure]
    rw [deriveApplicationRecovery_eq]
    exact ⟨Frame.refl db', .of rfl rfl⟩

theorem writes_tombstoneNodeTargets :
    Confined repoKey db (.tombstoneNodeTargets nodeId envelope) := by
  refine writes_bind writes_get fun read _ _ => ?_
  refine writes_forM _ fun t _ db => ?_
  exact writes_targetTombstoned ⟨trivial, rfl, .refl _, .refl _⟩

theorem writes_pauseApplication {reason : String} {origin : PauseOrigin}
    (hown : tr.scope.ownsApp id) (hpause : .pause ∈ tr.appWrites) :
    Tx.Ensures (pauseApplication id reason origin envelope) db fun _ db' =>
      BesideTargets tr.writes db db' := by
  have hwr : Writes tr.writes (pauseApplication id reason origin envelope) db := by
    refine writes_appEdit hown fun app _ => ?_
    simp only [ensures_bind, ensures_refuseIf, ensures_pure]
    intro _
    refine ⟨Frame.refl db, rfl, fun c hc => ?_⟩
    cases c <;> first | rfl | exact absurd hpause hc
  refine and hwr ?_
  unfold pauseApplication mutateApp writeApplication
  simp only [ensures_bind, ensures_requireApp, ensures_refuseIf, ensures_pure, ensures_modify]
  intros
  trivial

theorem writes_rolloutPaused {reason : String} {origin : PauseOrigin} :
    Confined repoKey db (.rolloutPaused id node reason origin envelope) := by
  cases node with
  | none =>
    exact mono (@writes_pauseApplication _
        (.rolloutPaused id none reason origin envelope) _ _ _ _ rfl
        (List.mem_singleton.mpr rfl)) fun _ _ hbeside => hbeside.1
  | some nodeId =>
    refine writes_targetEdit rfl fun t _ hown => ?_
    simp only [ensures_bind, ensures_refuseIf, ensures_pure]
    intro _
    exact of_kept hown (.of rfl rfl)

/-! ## Health verdicts -/

theorem writes_healthFinalized {args : HealthFinalizedArgs} :
    Writes (Transition.healthFinalized args).writes (healthFinalized args) db := by
  refine writes_targetEdit rfl fun t app hown => ?_
  have hhanded : ∀ {db : Db} {t' : Target},
      TargetKept (Transition.healthFinalized args).targetWrites t t' →
      Handed (Transition.healthFinalized args).writes db t t' db := of_kept hown
  have hreleased := @TargetKept.mono _ (Transition.healthFinalized args).targetWrites _ _
    (t.releaseHealthRun_kept args.healthRunId) (by simp [targetWrites])
  simp only [ensures_ite, ensures_pure]
  refine ⟨fun _ => hhanded (TargetKept.refl t), fun _ => ⟨fun _ => hhanded hreleased,
    fun _ => ⟨fun _ => hhanded hreleased, fun _ => ?_⟩⟩⟩
  unfold settleVerdict
  rw [ensures_bind, ensures_get]
  have hverdict : ∀ db attributable, TargetKept (Transition.healthFinalized args).targetWrites
      t (t.recordVerdict db args attributable) := fun db attributable =>
    (t.recordVerdict_kept db args attributable).mono (by simp [targetWrites])
  split
  · exact ensures_pure.mpr (hhanded (hverdict _ _))
  · rename_i rollout _
    rw [ensures_ite, ensures_ite, ensures_pure, ensures_pure]
    refine ⟨fun _ => ?_, fun _ =>
      ⟨fun _ => hhanded (.of rfl rfl), fun _ => hhanded (hverdict db false)⟩⟩
    unfold decideGatedVerdict holdUnackedRollout
    simp only [ensures_bind]
    have hdecided := @TargetKept.mono _ (Transition.healthFinalized args).targetWrites _ _
      (applyHealthGatedDecision_kept t rollout.healthPolicy args.healthStatus)
      (by simp [targetWrites])
    have hrecorded : ∀ db, TargetKept (Transition.healthFinalized args).targetWrites t
        ((applyHealthGatedDecision t rollout.healthPolicy args.healthStatus).1.recordVerdict
          db args true) := fun db =>
      hdecided.trans ((Target.recordVerdict_kept _ db args true).mono (by simp [targetWrites]))
    rw [ensures_ite, ensures_pure, ensures_get, ensures_pure]
    refine ⟨fun _ => ?_, fun _ => hhanded (hrecorded _)⟩
    refine ensures_attempt (mono (@writes_pauseApplication _
        (.healthFinalized args) _ _ _ _ rfl (List.mem_singleton.mpr rfl))
      fun _ db' hbeside => ?_) ?_
    · rw [ensures_get, ensures_pure]
      exact ⟨hbeside, TargetKept.same (hrecorded _) hown⟩
    · rw [ensures_get, ensures_pure]
      exact hhanded (hrecorded _)

end

/-! ## Every call -/

theorem writes_setApplicationLimitation {code id : String} {detail : Option String} {at_ : Int}
    (hown : tr.scope.ownsApp id) :
    Writes tr.writes (setApplicationLimitation code id detail at_) db := by
  refine writes_requireApp_bind fun app happ => ?_
  exact writes_writeBack hown happ (.of rfl rfl)

theorem writes_placeTarget {id : String} {nodeId now : Int} :
    Confined repoKey db (.placeTarget id nodeId now) := by
  refine writes_requireApp_bind fun _ _ => ?_
  refine writes_bind writes_get fun _ _ _ => ?_
  exact writes_ite (fun _ => writes_pure) fun _ => writes_upsertWhole rfl rfl

/-- The write set of a call. -/
theorem writes_perform (tr : Transition) : Confined repoKey db tr := by
  cases tr with
  | activateDirect => exact writes_activateDirect rfl rfl rfl
  | activateInlineBlueprint application =>
    refine writes_bind writes_require fun _ _ _ => ?_
    refine writes_bind writes_get fun _ _ _ => ?_
    refine writes_bind writes_refuseIf fun _ _ _ => ?_
    exact writes_insertApplication rfl rfl
  | activateCreateFromGit =>
    exact writes_activateCreateFromGit rfl rfl rfl (List.mem_singleton.mpr rfl)
  | createFailed => exact writes_createFailed
  | convertDirectToBlueprint =>
    exact writes_commitTargetBinding rfl (List.mem_singleton.mpr rfl) fun _ => .of rfl rfl
  | convertBlueprintToDirect | blueprintModeDemoted =>
    refine writes_commitTargetBinding rfl (List.mem_cons_self ..) fun app => ?_
    split
    · exact .of rfl rfl
    · exact .of rfl rfl
  | fetched | fetchStarted | fetchFailed | fetchedInvalid | sourceReviewBlocked
  | applyStarted | applyFailed | sourceRetryScheduled | sourcePollScheduled
  | sourcePolicyChanged | sourceUnsuspended | applicationTombstoned =>
    refine writes_appEdit rfl fun app _ => ?_
    simp only [ensures_bind, ensures_refuseIf, ensures_pure,
      ensures_requireOwnedGeneration, Application.clearFailure_eq,
      Application.clearInterruption_eq]
    intros
    exact ⟨Frame.refl _, .of rfl rfl⟩
  | sourceConflictBlocker | dismissed | configChangedPendingCleared | candidateReady =>
    refine writes_appEdit rfl fun app _ => ?_
    simp only [ensures_bind, ensures_refuseIf, ensures_pure,
      ensures_requireOwnedGeneration, Application.clearFailure_eq]
    intros
    exact mono (writes_forEachLiveDirectTarget fun t => ⟨rfl, fun c _ => by cases c <;> rfl⟩)
      fun _ _ hloop => ⟨hloop, .of rfl rfl⟩
  | applied => exact writes_applied
  | sourceAccepted => exact writes_sourceAccepted
  | targetApplied nodeId args =>
    refine writes_requireApp_bind fun _ _ => ?_
    refine writes_bind writes_refuseIf fun _ _ _ => ?_
    refine writes_bind writes_refuseIf fun _ _ _ => ?_
    refine writes_bind writes_refuseIf fun _ _ _ => ?_
    refine writes_targetEdit rfl fun t _ hown => ?_
    simp only [ensures_bind, ensures_refuseIf, ensures_pure]
    intro _ _
    exact of_kept hown (.of rfl rfl)
  | recordArtifactEvidence => exact writes_recordArtifactEvidence
  | acceptArtifactExpectation => exact writes_acceptArtifactExpectation
  | sourceSuspended => exact writes_sourceSuspended
  | recordAttempt =>
    refine writes_requireApp_bind fun _ _ => ?_
    exact writes_pure
  | allocateReconcileAttempt id =>
    refine writes_map (writes_requireApp_bind fun _ _ => ?_)
    refine writes_bind (ensures_modify.mpr ?_) fun _ _ _ => writes_pure
    intro c _
    cases c with
    | app key c =>
      simp only [Column.read, Db.getApplication, Table.find?_update, Option.map_map]
      congr 1
      funext a
      simp only [Function.comp_apply]
      split
      · cases c <;> rfl
      · rfl
    | target key c => rfl
    | table n => cases n <;> rfl
  | recordPreflightEvaluation =>
    refine writes_requireApp_bind fun app happ => ?_
    refine writes_ite (fun _ => writes_pure) fun _ => ?_
    exact writes_writeBack rfl happ (.of rfl rfl)
  | placementPolicyRefused =>
    refine writes_requireApp_bind fun app happ => ?_
    exact writes_writeBack rfl happ (.of rfl rfl)
  | setRegistryPreflightBlockedLimitation => exact writes_setApplicationLimitation rfl
  | setGitManagedArtifactLimitation => exact writes_setApplicationLimitation rfl
  | placementPolicyChanged | rolloutAuthorizationPolicyChanged =>
    refine writes_appEdit rfl fun app _ => ?_
    simp only [ensures_bind, ensures_refuseIf, ensures_get, ensures_pure]
    intros
    rw [withdrawPolicyAuthority_eq]
    split <;> exact ⟨Frame.refl _, .of rfl rfl⟩
  | healthRolloutPolicySet id policy envelope =>
    refine writes_appEdit rfl fun app _ => ?_
    simp only [ensures_bind, ensures_refuseIf, ensures_get, ensures_require,
      ensures_pure, updateIntentHealthPolicy, ensures_modify]
    intros
    refine ⟨Agrees.of_tables rfl rfl fun n hn => ?_, rfl, fun _ _ => rfl⟩
    cases n <;> first | rfl | exact absurd (List.mem_singleton.mpr rfl) hn
  | rolloutPaused => exact writes_rolloutPaused
  | rolloutUnpaused => exact writes_rolloutUnpaused
  | partiallyRolledOut id node partialJson envelope =>
    cases node with
    | none =>
      refine writes_appEdit rfl fun app _ => ?_
      rw [ensures_pure]
      exact ⟨Frame.refl db, .of rfl rfl⟩
    | some nodeId =>
      refine writes_targetEdit rfl fun t _ hown => ?_
      rw [ensures_pure]
      exact of_kept hown (.of rfl rfl)
  | partialCleared id node envelope =>
    cases node with
    | none =>
      refine writes_appEdit rfl fun app _ => ?_
      simp only [ensures_bind, ensures_refuseIf, ensures_pure]
      intro _
      exact ⟨Frame.refl db, .of rfl rfl⟩
    | some nodeId =>
      refine writes_targetEdit rfl fun t _ hown => ?_
      simp only [ensures_bind, ensures_refuseIf, ensures_pure]
      intro _
      exact of_kept hown (.of rfl rfl)
  | intentRevised => exact writes_intentRevised
  | rolloutCandidateOpened => exact writes_rolloutCandidateOpened
  | placementInvalidated id envelope =>
    refine writes_appEdit rfl fun app _ => ?_
    rw [ensures_bind, ensures_refuseIf]
    intro _
    refine (@ensures_invalidatePlacement _ (.placementInvalidated id envelope) ?_ ?_ _ _).mono
      fun _ _ h => ⟨h.1, h.2.mono ?_⟩
    · simp [tableWrites]
    · simp [tableWrites]
    · simp [placementColumns, appWrites]
  | legacyCombinedAppended id approvalId envelope =>
    refine writes_appEdit rfl fun app _ => ?_
    simp only [ensures_bind, ensures_refuseIf, ensures_pure]
    intro _
    exact mono (@writes_insertApproval _
        (.legacyCombinedAppended id approvalId envelope) _ (List.mem_singleton.mpr rfl))
      fun _ _ hinsert => ⟨hinsert, .of rfl rfl⟩
  | placementApproved => exact writes_placementApproved
  | rolloutAuthorized => exact writes_rolloutAuthorized
  | rolloutSuperseded => exact writes_rolloutSuperseded
  | invalidateAuthorizationOnPreflightDrift => exact writes_invalidateOnDrift
  | inlineRevisionFrozen => exact writes_inlineRevisionFrozen
  | deployStarted | blueprintWithdrawStarted | recordObservedRuntimeArtifact
  | recordObservedInvocation | healthRunReleased =>
    refine writes_targetEdit rfl fun t _ hown => ?_
    simp only [ensures_bind, ensures_refuseIf, ensures_pure, Target.clearInterruption_eq]
    intros
    exact of_kept hown (.of rfl rfl)
  | deployBound =>
    exact writes_deployBound ⟨rfl, rfl, .refl _, .refl _⟩
  | deployUnbound =>
    exact writes_deployUnbound ⟨rfl, rfl, .refl _, .refl _⟩
  | deployFailed =>
    exact writes_deployFailed ⟨rfl, rfl, .refl _, .refl _⟩
  | targetTombstoned =>
    exact writes_targetTombstoned ⟨rfl, rfl, .refl _, .refl _⟩
  | tombstoneNodeTargets => exact writes_tombstoneNodeTargets
  | healthFinalized => exact writes_map writes_healthFinalized
  | blueprintDeployStarted =>
    exact writes_blueprintDeployStarted ⟨rfl, rfl, .refl _, .refl _⟩
  | blueprintAckRecorded => exact writes_map writes_blueprintAckRecorded
  | blueprintDeployFailed =>
    exact writes_blueprintDeployFailed ⟨rfl, rfl, .refl _, .refl _⟩
  | blueprintWithdrawn =>
    exact writes_blueprintWithdrawn ⟨rfl, rfl, .refl _, .refl _⟩
  | blueprintWithdrawFailed =>
    exact writes_blueprintWithdrawFailed ⟨rfl, rfl, .refl _, .refl _⟩
  | blueprintObservation =>
    exact writes_blueprintObservation ⟨rfl, rfl, .refl _, .refl _⟩
  | rollbackInProgress => exact writes_rollbackInProgress
  | rollbackPartialFailed => exact writes_rollbackPartialFailed
  | rollbackRefusalSettled => exact writes_rollbackRefusalSettled
  | rollbackCompleted =>
    exact writes_rollbackCompleted ⟨rfl, rfl, .refl _, .refl _⟩
  | recoveryStarted => exact writes_recoveryStarted
  | recoverySucceeded =>
    exact writes_recoverySucceeded ⟨rfl, rfl, .refl _, .refl _⟩
  | recoveryFailed =>
    exact writes_recoveryFailed ⟨rfl, rfl, .refl _, .refl _⟩
  | interruptActiveOperations =>
    exact writes_interruptActiveOperations rfl (.refl _) (.refl _)
  | stageGeneration => exact writes_insertGeneration (List.mem_singleton.mpr rfl)
  | placeTarget => exact writes_placeTarget

/-- What one call leaves alone. -/
theorem step_agrees (db : Db) (tr : Transition) : Agrees tr.writes db (step repoKey db tr) :=
  frame_commit (writes_perform tr)

end Sencho.GitOps

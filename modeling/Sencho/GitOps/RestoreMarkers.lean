import Sencho.GitOps.Acceptances
import Sencho.GitOps.RecoveryClaims
import Sencho.GitOps.RowChecks

/-!
# Restore markers

A restore shares its target's operation marker with deploys and withdrawals.
Each of these hands the marker back when it ends, so a restore that is in flight
always has one, and the pass that runs at boot finds it, closes it and records a
claim for it.
-/

namespace Sencho.GitOps

open Verified Option Target

variable {repoKey : String → Option String} {db : Db} {tr : Transition} {key : TargetKey}

/-- A restore in flight on the row has the operation marker. -/
def Target.Marked (t : Target) : Prop :=
  targetRestoreInFlight t = true → t.active.stage.isSome = true

theorem Target.markInFlightRestore_marked (t : Target) (at_ : Int) :
    (t.markInFlightRestore at_).Marked := by
  intro hfl
  rw [flight_congr (t.markInFlightRestore_recovery at_)] at hfl
  unfold markInFlightRestore
  rw [hfl]
  cases hstage : t.active.stage with
  | none => rfl
  | some stage => simp [hstage]

theorem Target.Marked.of_same {t t' : Target} (h : t.Marked)
    (hrecovery : t'.recovery = t.recovery) (hactive : t'.active = t.active) : t'.Marked := by
  intro hfl
  rw [flight_congr hrecovery] at hfl
  rw [hactive]
  exact h hfl

theorem Target.Marked.of_phase {t : Target} {phase : Option RecoveryPhase}
    (hph : t.recovery.phase = phase)
    (hidle : phase = none ∨ phase = some .failed ∨ phase = some .complete) : t.Marked := by
  intro hfl
  unfold targetRestoreInFlight at hfl
  rw [hph] at hfl
  rcases hidle with rfl | rfl | rfl <;> cases hfl

theorem Target.Marked.stamps {row t : Target} (h : row.Marked) (hstamps : row.Stamps t) :
    t.Marked :=
  h.of_same hstamps.recovery hstamps.active

theorem settleRollback_phase (t : Target) (recoveryRef : String)
    (failureClass : RollbackFailureClass) (at_ : Int) :
    (t.settleRollback recoveryRef failureClass at_).recovery.phase = some .failed := by
  unfold settleRollback
  rw [clearInterruption_recovery, clearRestoreMarker_eq]
  unfold rollbackFailure
  split <;> rfl

theorem completeRecovery_phase (t : Target) :
    t.completeRecovery.recovery.phase = some .complete := by
  unfold completeRecovery
  rw [clearFailure_recovery]

theorem revived_marked {t : Target} (h : t.Marked) : t.revived.Marked := by
  unfold revived retiredNonMoving
  split
  · refine @Target.Marked.of_phase _ none ?_ (.inl rfl)
    unfold withoutClaim
    rw [clearFailure_recovery]
  · exact h.of_same rfl rfl

/-- A settling call leaves a restore in flight with a marker. -/
theorem Settles.marked {app : Application} {t row : Target} {hold : Hold}
    (h : Settles db app t tr row hold) (hmarked : t.Marked) : row.Marked := by
  have hopened : ∀ {t' : Target}, t'.active.stage.isSome = true → t'.Marked :=
    fun hstage _ => hstage
  cases h with
  | deployStarted => exact hopened (by rw [startDeploy, clearInterruption_eq]; rfl)
  | blueprintWithdrawStarted =>
    exact hopened (by rw [startWithdraw, clearInterruption_eq]; rfl)
  | deployBound | supersededAck | acknowledged | targetTombstoned | blueprintWithdrawn =>
    exact markInFlightRestore_marked _ _
  | deployUnbound | deployFailed | blueprintWithdrawFailed | blueprintDeployFailed =>
    exact (markInFlightRestore_marked _ _).of_same rfl rfl
  | blueprintDeployStarted =>
    exact hopened (by rw [openBlueprintDeploy, clearInterruption_eq]; rfl)
  | alreadyAcked =>
    intro hfl
    rw [noteRecoveryPoint_flight] at hfl
    rw [noteRecoveryPoint_eq]
    exact hmarked hfl
  | observed => exact hmarked
  | reviewed => exact (revived_marked hmarked).of_same rfl rfl
  | rollbackInProgress =>
    refine hopened ?_
    cases hstage : t.active.stage with
    | none => rfl
    | some stage => simp [hstage]
  | recoveryStarted => exact hopened rfl
  | rollbackPartialFailed =>
    exact Target.Marked.of_phase (settleRollback_phase _ _ _ _) (.inr (.inl rfl))
  | recoveryFailed => exact Target.Marked.of_phase rfl (.inr (.inl rfl))
  | @rollbackCompleted id _ evidence envelope restored =>
    have hbound := ((t.completeRollback evidence).bindRestored_kept db id restored
      evidence.capturedArtifactSetId evidence.capturedSourceAcceptanceRef
      envelope.at_).recovery (by simp)
    refine @Target.Marked.of_phase _ (some .complete) ?_ (.inr (.inr rfl))
    exact (congrArg TargetRecovery.phase hbound).trans (completeRecovery_phase t)
  | recoveryUnproven =>
    exact Target.Marked.of_phase (completeRecovery_phase t) (.inr (.inr rfl))
  | recoverySucceeded =>
    refine @Target.Marked.of_phase _ (some .complete) ?_ (.inr (.inr rfl))
    rw [(bindRestored_kept _ _ _ _ _ _ _).recovery (by simp)]
    exact completeRecovery_phase t

theorem interrupt_idle (t : Target) (at_ : Int) :
    targetRestoreInFlight (t.interrupt at_) = false ∧ (t.interrupt at_).active = .none := by
  unfold interrupt
  cases hfl : targetRestoreInFlight t with
  | true => exact ⟨rfl, rfl⟩
  | false => exact ⟨hfl, rfl⟩

/-- One call leaves a restore in flight with a marker, unless it tears a create
down. -/
theorem RowMove.marked {t t' : Target} (h : RowMove db tr key t t') (hmarked : t.Marked)
    (hkept : ∀ failureClass envelope, tr ≠ .createFailed key.applicationId failureClass
      envelope) : t'.Marked := by
  cases h with
  | kept h =>
    exact hmarked.of_same (h .recovery (.inl (by simp [settledColumns])))
      (h .active (.inl (by simp [settledColumns])))
  | settled _ _ hsettles hstamps => exact (hsettles.marked hmarked).stamps hstamps
  | nodeRemoved _ h =>
    induction h with
    | refl => exact hmarked
    | tail _ hstep _ => exact (markInFlightRestore_marked _ _).stamps hstep
  | torndown htr => exact absurd htr (hkept _ _)
  | interrupted =>
    intro hfl
    rw [(interrupt_idle t _).1] at hfl
    cases hfl
  | refused _ h =>
    induction h with
    | refl => exact hmarked
    | tail _ hstep _ =>
      obtain ⟨_, hstamps⟩ := hstep
      exact (Target.Marked.of_phase (settleRollback_phase _ _ _ _) (.inr (.inl rfl))).stamps hstamps

/-- Every restore in flight on a target of an application that is not deleted has
the operation marker. -/
def RestoresMarked (db : Db) : Prop :=
  ∀ key t app, db.targets.find? key = some t →
    db.getApplication key.applicationId = some app → app.lifecycleStatus ≠ .deleted →
    t.Marked

/-- A create that is torn down leaves its application deleted, or nothing changes. -/
theorem step_createFailed {id failureClass : String} {envelope : EventEnvelope} :
    step repoKey db (.createFailed id failureClass envelope) = db ∨
      ∃ app', (step repoKey db (.createFailed id failureClass envelope)).getApplication id =
        some app' ∧ app'.lifecycleStatus = .deleted := by
  refine (Tx.commit_or createFailed_retires).imp_right fun h => ?_
  obtain ⟨_, app', _, _, happ', hdeleted⟩ := h
  exact ⟨app', happ', hdeleted⟩

theorem Target.IsNew.idle {t : Target} (h : t.IsNew) : targetRestoreInFlight t = false := by
  obtain ⟨_, _, _, _, rfl⟩ := h
  rfl

theorem restoresMarked_step (howned : TargetsOwned db) (h : RestoresMarked db)
    (tr : Transition) : RestoresMarked (step repoKey db tr) := by
  intro key t' app' ht' happ' hlive
  cases ht : db.targets.find? key with
  | none =>
    intro hfl
    rcases step_target_cases howned ht' with ⟨t, hold, -⟩ | ⟨-, hnew, -⟩
    · exact absurd (hold.symm.trans ht) (some_ne_none t)
    · rw [hnew.idle] at hfl
      cases hfl
  | some t =>
    obtain ⟨app, happ⟩ := howned key t ht
    have hbefore : app.lifecycleStatus ≠ .deleted := by
      intro hdeleted
      obtain ⟨now, hnow, hlife⟩ := @step_retired _ _ _ repoKey tr happ (by rw [hdeleted]; rfl)
      rw [some.inj (happ'.symm.trans hnow), hlife] at hlive
      exact hlive hdeleted
    obtain ⟨now, hnow, hmove⟩ := @step_row repoKey _ tr howned key t ht
    rw [some.inj (hnow.symm.trans ht')] at hmove
    by_cases hcreate : ∃ failureClass envelope,
        tr = .createFailed key.applicationId failureClass envelope
    · obtain ⟨failureClass, envelope, rfl⟩ := hcreate
      rcases @step_createFailed repoKey db key.applicationId failureClass envelope with
        hsame | ⟨now, hnow, hgone⟩
      · rw [hsame] at ht'
        rw [some.inj (ht'.symm.trans ht)]
        exact h key t app ht happ hbefore
      · rw [some.inj (happ'.symm.trans hnow)] at hlive
        exact absurd hgone hlive
    · refine hmove.marked (h key t app ht happ hbefore) fun failureClass envelope heq => ?_
      exact hcreate ⟨failureClass, envelope, heq⟩

theorem restoresMarked_run (calls : List Transition) :
    RestoresMarked (runTransitions repoKey Db.empty calls) := by
  refine (Runs.run_invariant (P := fun db => TargetsOwned db ∧ RestoresMarked db)
    (fun _ tr h => ⟨targetsOwned_step h.1, restoresMarked_step h.1 h.2 tr⟩)
    ⟨targetsOwned_empty, ?_⟩ calls).2
  intro key t _ ht
  cases ht

/-- The target a call opens a restore on. -/
def Transition.opensAt : Transition → Option TargetKey
  | .rollbackInProgress id (some nodeId) _ _ _ | .recoveryStarted id nodeId _ _ _ =>
    some ⟨id, nodeId⟩
  | _ => none

/-- A restore in flight on the second row is the one in flight on the first. -/
def SameRestore (t t' : Target) : Prop :=
  targetRestoreInFlight t' = true →
    targetRestoreInFlight t = true ∧ t'.recovery.ref = t.recovery.ref

namespace SameRestore

variable {t t' t'' : Target}

theorem of_recovery (h : t'.recovery = t.recovery) : SameRestore t t' := by
  intro hfl
  rw [flight_congr h] at hfl
  exact ⟨hfl, by rw [h]⟩

theorem of_phase {phase : Option RecoveryPhase} (hph : t'.recovery.phase = phase)
    (hidle : phase = none ∨ phase = some .failed ∨ phase = some .complete) : SameRestore t t' := by
  intro hfl
  unfold targetRestoreInFlight at hfl
  rw [hph] at hfl
  rcases hidle with rfl | rfl | rfl <;> cases hfl

theorem trans (h : SameRestore t t') (h' : SameRestore t' t'') : SameRestore t t'' := by
  intro hfl
  obtain ⟨hmiddle, href⟩ := h' hfl
  obtain ⟨hfirst, href'⟩ := h hmiddle
  exact ⟨hfirst, href.trans href'⟩

theorem withoutClaim (t : Target) : SameRestore t t.withoutClaim := by
  refine @of_phase _ _ none ?_ (.inl rfl)
  unfold Target.withoutClaim
  rw [clearFailure_recovery]

theorem retiredOnSuccess (t : Target) : SameRestore t t.retiredOnSuccess := by
  unfold Target.retiredOnSuccess
  split
  · exact withoutClaim t
  · exact of_recovery rfl

theorem retiredNonMoving (t : Target) : SameRestore t t.retiredNonMoving := by
  unfold Target.retiredNonMoving
  split
  · exact withoutClaim t
  · exact of_recovery rfl

theorem revived (t : Target) : SameRestore t t.revived :=
  (@of_recovery _ { t with status := .active } rfl).trans (retiredNonMoving _)

theorem noteRecoveryPoint (t : Target) (generationId : Option String) :
    SameRestore t (t.noteRecoveryPoint generationId) := by
  intro hfl
  rw [noteRecoveryPoint_flight] at hfl
  rw [noteRecoveryPoint_eq]
  exact ⟨hfl, rfl⟩

theorem failed (t : Target) (stage : TargetActiveStage) (failure : TargetFailure)
    (at_ : Int) : SameRestore t (t.failed stage failure at_) := by
  have hreleased : SameRestore t (t.clearActive.clearInterruption stage) :=
    of_recovery (by simp)
  refine hreleased.trans ((retiredNonMoving _).trans (of_recovery ?_))
  exact markInFlightRestore_recovery _ _

end SameRestore

/-- A settling call starts no restore, unless it opens one. -/
theorem Settles.restore {app : Application} {t row : Target} {hold : Hold}
    (h : Settles db app t tr row hold) (hopens : tr.opensAt = none) : SameRestore t row := by
  cases h with
  | deployStarted | blueprintWithdrawStarted =>
    exact .of_recovery (clearInterruption_recovery _ _)
  | @deployBound id nodeId generationId envelope =>
    have hbound : (t.bindDeploy generationId).recovery = t.recovery :=
      (t.bindDeploy_kept generationId).recovery (by simp)
    refine (SameRestore.of_recovery hbound).trans ((SameRestore.retiredOnSuccess _).trans ?_)
    exact .of_recovery (markInFlightRestore_recovery _ _)
  | deployUnbound | deployFailed | blueprintWithdrawFailed => exact SameRestore.failed t _ _ _
  | @blueprintDeployFailed _ _ failureClass envelope =>
    exact SameRestore.failed t .blueprintDeployStarted
      ⟨some .blueprintDeploy, some failureClass, some envelope.at_⟩ envelope.at_
  | targetTombstoned =>
    exact .of_recovery (by rw [markInFlightRestore_recovery]; rfl)
  | blueprintDeployStarted =>
    refine SameRestore.trans ?_ (.of_recovery
      ((t.reopened.openBlueprintDeploy_kept _).recovery (by simp)))
    unfold reopened
    split
    · exact SameRestore.revived t
    · exact .of_recovery rfl
  | alreadyAcked => exact SameRestore.noteRecoveryPoint t _
  | @supersededAck args =>
    refine (SameRestore.noteRecoveryPoint t args.recoveryGenerationId).trans (.of_recovery ?_)
    rw [markInFlightRestore_recovery]
    exact releaseRequest_recovery
  | @acknowledged args =>
    refine (SameRestore.noteRecoveryPoint t args.recoveryGenerationId).trans ?_
    refine (SameRestore.of_recovery (@acknowledged_recovery args _ app
        args.rolloutCandidateId)).trans ?_
    refine (SameRestore.retiredOnSuccess _).trans (.of_recovery ?_)
    exact markInFlightRestore_recovery _ _
  | blueprintWithdrawn =>
    refine .of_recovery ?_
    rw [markInFlightRestore_recovery]
    exact t.withdraw_kept.recovery (by simp)
  | observed => exact .of_recovery rfl
  | reviewed => exact (SameRestore.revived t).trans (.of_recovery rfl)
  | rollbackInProgress | recoveryStarted => cases hopens
  | rollbackPartialFailed =>
    exact .of_phase (settleRollback_phase _ _ _ _) (.inr (.inl rfl))
  | recoveryFailed => exact .of_phase rfl (.inr (.inl rfl))
  | @rollbackCompleted id _ evidence envelope restored =>
    have hbound := ((t.completeRollback evidence).bindRestored_kept db id restored
      evidence.capturedArtifactSetId evidence.capturedSourceAcceptanceRef
      envelope.at_).recovery (by simp)
    refine @SameRestore.of_phase _ _ (some .complete) ?_ (.inr (.inr rfl))
    exact (congrArg TargetRecovery.phase hbound).trans (completeRecovery_phase t)
  | recoveryUnproven => exact .of_phase (completeRecovery_phase t) (.inr (.inr rfl))
  | recoverySucceeded =>
    refine @SameRestore.of_phase _ _ (some .complete) ?_ (.inr (.inr rfl))
    rw [(bindRestored_kept _ _ _ _ _ _ _).recovery (by simp)]
    exact completeRecovery_phase t

theorem Transition.opensAt_settlesAt {key' : TargetKey} (hat : tr.settlesAt = some key)
    (hopens : tr.opensAt = some key') : key' = key := by
  cases tr <;> try cases hopens
  case rollbackInProgress id nodeId _ _ _ =>
    cases nodeId with
    | none => cases hopens
    | some nodeId => exact (some.inj hopens).symm.trans (some.inj hat)
  case recoveryStarted => exact some.inj hat

/-- One call starts no restore on a target, unless it opens one there. -/
theorem RowMove.restore {t t' : Target} (h : RowMove db tr key t t')
    (hopens : tr.opensAt ≠ some key) : SameRestore t t' := by
  cases h with
  | kept h => exact .of_recovery (h .recovery (.inl (by simp [settledColumns])))
  | settled hat _ hsettles hstamps =>
    refine SameRestore.trans (hsettles.restore ?_) (.of_recovery hstamps.recovery)
    cases hopen : tr.opensAt with
    | none => rfl
    | some key' =>
      rw [Transition.opensAt_settlesAt hat hopen] at hopen
      exact absurd hopen hopens
  | nodeRemoved _ h =>
    induction h with
    | refl => exact .of_recovery rfl
    | tail _ hstep ih =>
      refine ih.trans (.of_recovery ?_)
      rw [hstep.recovery, markInFlightRestore_recovery]
      rfl
  | torndown _ _ _ h => exact .of_recovery h.recovery
  | interrupted =>
    intro hfl
    rw [(interrupt_idle t _).1] at hfl
    cases hfl
  | refused _ h =>
    induction h with
    | refl => exact .of_recovery rfl
    | tail _ hstep ih =>
      obtain ⟨_, hstamps⟩ := hstep
      exact (SameRestore.of_phase (settleRollback_phase _ _ _ _) (.inr (.inl rfl))).trans
        (.of_recovery hstamps.recovery)

/-- A target has at most one restore open: a second open is refused, and every
other call leaves the restore in flight the one it was. -/
structure OneRestore (repoKey : String → Option String) (db : Db) : Prop where
  refused : ∀ tr key t, db.targets.find? key = some t → tr.opensAt = some key →
    targetRestoreInFlight t = true → step repoKey db tr = db
  carried : ∀ tr key t', (step repoKey db tr).targets.find? key = some t' →
    targetRestoreInFlight t' = true → tr.opensAt ≠ some key →
    ∃ t, db.targets.find? key = some t ∧ targetRestoreInFlight t = true ∧
      t'.recovery.ref = t.recovery.ref

/-- An accepted open found no restore in flight. -/
theorem perform_opens (hopens : tr.opensAt = some key) :
    Tx.Ensures (tr.perform repoKey) db fun _ _ =>
      ∃ t, db.targets.find? key = some t ∧ targetRestoreInFlight t = false := by
  cases tr <;> try cases hopens
  case rollbackInProgress id nodeId _ _ _ =>
    cases nodeId with
    | none => cases hopens
    | some nodeId =>
      cases hopens
      refine settles_rollbackInProgress.mono fun _ _ h => ?_
      obtain ⟨_, t, _, _, _, ht, hsettles, -⟩ := h
      cases hsettles with
      | rollbackInProgress _ hidle => exact ⟨t, ht, hidle⟩
  case recoveryStarted =>
    refine settles_recoveryStarted.mono fun _ _ h => ?_
    obtain ⟨_, t, _, _, _, ht, hsettles, -⟩ := h
    cases hsettles with
    | recoveryStarted _ hidle => exact ⟨t, ht, hidle⟩

theorem one_restore (howned : TargetsOwned db) : OneRestore repoKey db where
  refused := by
    intro tr key t ht hopens hfl
    refine Tx.commit_of_ensures (P := fun db' => db' = db) ?_ rfl
    refine (perform_opens hopens).mono fun _ db' h => ?_
    obtain ⟨t₀, ht₀, hidle⟩ := h
    rw [some.inj (ht₀.symm.trans ht), hfl] at hidle
    cases hidle
  carried := by
    intro tr key t' ht' hfl hopens
    rcases step_target_cases howned ht' with ⟨t, ht, -⟩ | ⟨-, hnew, -⟩
    · obtain ⟨now, hnow, hmove⟩ := @step_row repoKey _ tr howned key t ht
      rw [some.inj (hnow.symm.trans ht')] at hmove
      exact ⟨t, ht, hmove.restore hopens hfl⟩
    · rw [hnew.idle] at hfl
      cases hfl

end Sencho.GitOps

import Sencho.GitOps.Rows

/-!
# Recovery claims

A recorded recovery failure that may have moved a target is retired by evidence
of success only: a deploy that went through, a current acknowledgement, or a
restore that completed.  Every other call keeps the class or replaces it by
another that may have moved the target, except a restore recorded as refused
over such a class.
-/

namespace Sencho.GitOps

open Verified Target

variable {repoKey : String → Option String} {db : Db} {tr : Transition} {key : TargetKey}

/-- The target carries a recovery failure that may have moved it. -/
def ClaimMoved (db : Db) (key : TargetKey) : Prop :=
  ∃ t, db.targets.find? key = some t ∧ recoveryClaimMoved t = true

/-- Evidence of success for a target, with no restore in flight beside it.  The
restore a completion reports is its own. -/
def Transition.succeedsOn (tr : Transition) (app : Application) (t : Target) : Prop :=
  match tr with
  | .deployBound id nodeId _ _ => t.key = ⟨id, nodeId⟩ ∧ targetRestoreInFlight t = false
  | .blueprintAckRecorded args =>
    t.key = ⟨args.applicationId, args.nodeId⟩ ∧ targetRestoreInFlight t = false ∧
      app.intentRevisionId = some args.intentRevisionId
  | .recoverySucceeded id nodeId _ _ _ _ _ | .rollbackCompleted id nodeId _ _ =>
    t.key = ⟨id, nodeId⟩
  | _ => False

/-- The call goes through and is evidence of success for the target under a key. -/
def RetiresAt (repoKey : String → Option String) (db : Db) (tr : Transition) (key : TargetKey) :
    Prop :=
  Tx.accepts (tr.perform repoKey) db ∧ ∃ app t, db.getApplication key.applicationId = some app ∧
    db.targets.find? key = some t ∧ tr.succeedsOn app t

/-- A restore recorded as refused over a claim that may have moved the target. -/
def DowngradesClaim (db : Db) (tr : Transition) : Prop :=
  ∃ id nodeId recoveryRef envelope, tr = .recoveryFailed id nodeId recoveryRef .preMutation
    envelope ∧ ClaimMoved db ⟨id, nodeId⟩

namespace Target

variable (t : Target)

theorem failureClass_withoutMoving (h : recoveryClaimMoved t = true) :
    recoveryClaimRetirable t = false := by
  unfold recoveryClaimMoved at h
  unfold recoveryClaimRetirable
  cases hclass : recoveryFailureClaimClass t with
  | none => simp [hclass] at h
  | some c =>
    rw [hclass] at h
    simp at h
    simp [h]

theorem retiredNonMoving_of_moved (h : recoveryClaimMoved t = true) : t.retiredNonMoving = t := by
  unfold retiredNonMoving
  rw [t.failureClass_withoutMoving h]
  rfl

theorem retiredOnSuccess_of_flight (h : targetRestoreInFlight t = true) :
    t.retiredOnSuccess = t := by
  unfold retiredOnSuccess retiresOnSuccess
  rw [h]
  rfl

end Target

/-- Whether a claim moved the target is read off the recovery slot. -/
theorem moved_congr {t t' : Target} (h : t'.recovery = t.recovery) :
    recoveryClaimMoved t' = recoveryClaimMoved t := by
  unfold recoveryClaimMoved recoveryFailureClaimClass
  rw [h]

theorem flight_congr {t t' : Target} (h : t'.recovery = t.recovery) :
    targetRestoreInFlight t' = targetRestoreInFlight t := by
  unfold targetRestoreInFlight
  rw [h]

theorem Target.Stamps.recovery {row t : Target} (h : row.Stamps t) : t.recovery = row.recovery := by
  obtain ⟨_, _, rfl⟩ := h
  rfl

theorem TargetKept.recovery {cols : List TargetColumn} {t t' : Target}
    (h : TargetKept cols t t') (hc : .recovery ∉ cols) : t'.recovery = t.recovery :=
  h.2 .recovery hc

theorem failed_moved {t : Target} (stage : TargetActiveStage) (failure : TargetFailure)
    (at_ : Int) (h : recoveryClaimMoved t = true) :
    recoveryClaimMoved (t.failed stage failure at_) = true := by
  have hreleased : recoveryClaimMoved (t.clearActive.clearInterruption stage) = true := by
    rw [moved_congr (t := t) (by simp)]
    exact h
  unfold failed
  rw [retiredNonMoving_of_moved _ hreleased]
  rw [moved_congr (t := t) (by simp)]
  exact h

theorem revived_moved {t : Target} (h : recoveryClaimMoved t = true) :
    recoveryClaimMoved t.revived = true := by
  have hactive : recoveryClaimMoved { t with status := .active } = true := h
  unfold revived
  rw [retiredNonMoving_of_moved _ hactive]
  exact hactive

/-- A failed rollback defers to a claim that may have moved the target. -/
theorem rollbackFailure_moved (t : Target) (recoveryRef : String)
    (failureClass : RollbackFailureClass) (at_ : Int) :
    recoveryClaimMoved (t.rollbackFailure recoveryRef failureClass at_) = true ↔
      failureClass ≠ .preMutation ∨ recoveryClaimMoved t = true := by
  unfold rollbackFailure
  by_cases hboth : failureClass = .preMutation ∧ recoveryClaimMoved t = true
  · rw [if_pos hboth]
    exact iff_of_true hboth.2 (.inr hboth.2)
  · rw [if_neg hboth]
    have hclass : recoveryClaimMoved (t.recordRecoveryFailure recoveryRef
        failureClass.recovery at_) = true ↔ failureClass ≠ .preMutation := by
      cases failureClass <;> simp [recoveryClaimMoved, recoveryFailureClaimClass,
        recordRecoveryFailure, RollbackFailureClass.recovery]
    rw [hclass]
    constructor
    · exact .inl
    · rintro (hne | hmoved)
      · exact hne
      · exact fun hpre => hboth ⟨hpre, hmoved⟩

theorem settleRollback_moved (t : Target) (recoveryRef : String)
    (failureClass : RollbackFailureClass) (at_ : Int) :
    recoveryClaimMoved (t.settleRollback recoveryRef failureClass at_) = true ↔
      failureClass ≠ .preMutation ∨ recoveryClaimMoved t = true := by
  rw [← rollbackFailure_moved t recoveryRef failureClass at_]
  unfold settleRollback
  rw [clearInterruption_eq, clearRestoreMarker_eq]
  exact Iff.rfl

theorem interrupt_moved {t : Target} {at_ : Int} (h : recoveryClaimMoved t = true) :
    recoveryClaimMoved (t.interrupt at_) = true := by
  unfold interrupt
  cases hfl : targetRestoreInFlight t with
  | true =>
    show (if recoveryClaimMoved t then t.recovery.failureClass else some .interrupted).any
      (fun c => c ≠ .preMutation) = true
    rw [if_pos h]
    exact h
  | false => exact h

variable {args : BlueprintAckArgs}

section

variable {t : Target} {generationId : Option String}

theorem noteRecoveryPoint_moved :
    recoveryClaimMoved (t.noteRecoveryPoint generationId) = recoveryClaimMoved t := by
  rw [noteRecoveryPoint_eq]
  rfl

theorem noteRecoveryPoint_flight :
    targetRestoreInFlight (t.noteRecoveryPoint generationId) = targetRestoreInFlight t := by
  rw [noteRecoveryPoint_eq]
  rfl

theorem releaseRequest_recovery : (t.releaseRequest args).recovery =
      (t.noteRecoveryPoint args.recoveryGenerationId).recovery := by
  unfold releaseRequest
  rw [clearInterruption_recovery, noteRecoveryPoint_eq, noteRecoveryPoint_eq]
  rfl

theorem acknowledged_recovery {app : Application} {candidateId : Option String} :
    (t.acknowledged app args candidateId).recovery =
      (t.noteRecoveryPoint args.recoveryGenerationId).recovery := by
  unfold acknowledged
  rw [clearInterruption_recovery, clearFailure_recovery]
  exact releaseRequest_recovery

theorem acknowledged_flight {app : Application} {candidateId : Option String} :
    targetRestoreInFlight (t.acknowledged app args candidateId) = targetRestoreInFlight t := by
  rw [flight_congr acknowledged_recovery, noteRecoveryPoint_flight]

end

/-- A settling call keeps a claim it does not retire. -/
theorem Settles.moved {app : Application} {t row : Target} {hold : Hold}
    (h : Settles db app t tr row hold) (hat : tr.settlesAt = some t.key)
    (hmoved : recoveryClaimMoved t = true) (hsuccess : ¬ tr.succeedsOn app t)
    (hrf : ∀ id nodeId recoveryRef envelope,
      tr ≠ .recoveryFailed id nodeId recoveryRef .preMutation envelope) :
    recoveryClaimMoved row = true := by
  have hkept : ∀ {t' : Target}, t'.recovery = t.recovery → recoveryClaimMoved t' = true := by
    intro t' heq
    rw [moved_congr heq]
    exact hmoved
  cases h with
  | deployStarted | blueprintWithdrawStarted =>
    exact hkept (clearInterruption_recovery _ _)
  | @deployBound id nodeId generationId envelope hlive hmatch =>
    have hkey : t.key = ⟨id, nodeId⟩ := (Option.some.inj hat).symm
    have hbound : (t.bindDeploy generationId).recovery = t.recovery :=
      (t.bindDeploy_kept generationId).recovery (by simp)
    have hfl : targetRestoreInFlight (t.bindDeploy generationId) = true := by
      rw [flight_congr hbound]
      cases hidle : targetRestoreInFlight t with
      | true => rfl
      | false => exact absurd ⟨hkey, hidle⟩ hsuccess
    rw [retiredOnSuccess_of_flight _ hfl]
    exact hkept (by rw [markInFlightRestore_recovery, hbound])
  | deployUnbound | deployFailed | blueprintWithdrawFailed => exact failed_moved _ _ _ hmoved
  | @blueprintDeployFailed _ _ failureClass envelope =>
    exact failed_moved .blueprintDeployStarted
      ⟨some .blueprintDeploy, some failureClass, some envelope.at_⟩ envelope.at_ hmoved
  | targetTombstoned => exact hkept (by rw [markInFlightRestore_recovery]; rfl)
  | blueprintDeployStarted =>
    have hopened : ∀ (t' : Target) args, (t'.openBlueprintDeploy args).recovery = t'.recovery :=
      fun t' args => (t'.openBlueprintDeploy_kept args).recovery (by simp)
    rw [moved_congr (hopened _ _)]
    unfold reopened
    split
    · exact revived_moved hmoved
    · exact hmoved
  | alreadyAcked =>
    rw [noteRecoveryPoint_moved]
    exact hmoved
  | supersededAck =>
    rw [moved_congr (markInFlightRestore_recovery _ _)]
    exact (moved_congr releaseRequest_recovery).trans (noteRecoveryPoint_moved.trans hmoved)
  | @acknowledged args _ hmatch hintent =>
    have hkey : t.key = ⟨args.applicationId, args.nodeId⟩ := (Option.some.inj hat).symm
    have hfl : targetRestoreInFlight
        (t.acknowledged app args args.rolloutCandidateId) = true := by
      rw [acknowledged_flight]
      cases hidle : targetRestoreInFlight t with
      | true => rfl
      | false => exact absurd ⟨hkey, hidle, hintent⟩ hsuccess
    rw [retiredOnSuccess_of_flight _ hfl, moved_congr (markInFlightRestore_recovery _ _)]
    exact (moved_congr acknowledged_recovery).trans (noteRecoveryPoint_moved.trans hmoved)
  | blueprintWithdrawn =>
    refine hkept ?_
    rw [markInFlightRestore_recovery]
    exact t.withdraw_kept.recovery (by simp)
  | observed => exact hmoved
  | reviewed => exact revived_moved hmoved
  | rollbackInProgress | recoveryStarted => exact hmoved
  | rollbackPartialFailed => exact (settleRollback_moved _ _ _ _).mpr (.inr hmoved)
  | @recoveryFailed id nodeId recoveryRef failureClass envelope =>
    cases failureClass with
    | preMutation => exact absurd rfl (hrf id nodeId recoveryRef envelope)
    | postMutation => rfl
  | rollbackCompleted | recoveryUnproven | recoverySucceeded =>
    exact absurd (Option.some.inj hat).symm hsuccess

/-- One call keeps a claim it does not retire. -/
theorem RowMove.moved {t t' : Target} (h : RowMove db tr key t t')
    (ht : db.targets.find? key = some t) (hmoved : recoveryClaimMoved t = true)
    (hsuccess : ∀ app, db.getApplication key.applicationId = some app → ¬ tr.succeedsOn app t)
    (hrf : ¬ DowngradesClaim db tr) : recoveryClaimMoved t' = true := by
  have hkey : t.key = key := Table.key_of_find? ht
  cases h with
  | kept h =>
    rw [moved_congr (h .recovery (.inl (by simp [settledColumns])))]
    exact hmoved
  | @settled app row hold _ hat happ hsettles hstamps =>
    rw [moved_congr hstamps.recovery]
    subst hkey
    refine hsettles.moved hat hmoved (hsuccess app happ) ?_
    rintro id nodeId recoveryRef envelope rfl
    have hsame : (⟨id, nodeId⟩ : TargetKey) = t.key := Option.some.inj hat
    exact hrf ⟨id, nodeId, recoveryRef, envelope, rfl, t, by rw [hsame]; exact ht, hmoved⟩
  | nodeRemoved _ h =>
    clear ht hkey
    induction h with
    | refl => exact hmoved
    | tail _ hstep ih =>
      rw [moved_congr hstep.recovery, moved_congr (markInFlightRestore_recovery _ _)]
      exact ih
  | torndown _ _ _ h =>
    rw [moved_congr h.recovery]
    exact hmoved
  | interrupted => exact interrupt_moved hmoved
  | refused _ h =>
    clear ht hkey
    induction h with
    | refl => exact hmoved
    | tail _ hstep ih =>
      obtain ⟨failureClass, hstamps⟩ := hstep
      rw [moved_congr hstamps.recovery]
      exact (settleRollback_moved _ _ _ _).mpr (.inr ih)

theorem claimMoved_step (howned : TargetsOwned db) (hmoved : ClaimMoved db key)
    (hsuccess : ¬ RetiresAt repoKey db tr key) (hrf : ¬ DowngradesClaim db tr) :
    ClaimMoved (step repoKey db tr) key := by
  refine Tx.commit_of_ensures (P := fun db' => ClaimMoved db' key) (fun a db' hrun => ?_) hmoved
  obtain ⟨t, ht, hclass⟩ := hmoved
  obtain ⟨t', ht', hmove⟩ := @step_row repoKey _ tr howned key t ht
  rw [← Tx.commit_of_ok hrun]
  exact ⟨t', ht', hmove.moved ht hclass
    (fun app happ hs => hsuccess ⟨⟨a, db', hrun⟩, app, t, happ, ht, hs⟩) hrf⟩

/-- A claim that may have moved a target stays such a claim, along every run,
until evidence of success retires it. -/
theorem moved_claim_kept (before after : List Transition)
    (hrf : Runs.Along (step repoKey) (fun db tr => ¬ DowngradesClaim db tr) Db.empty
      (before ++ after))
    (hsuccess : Runs.Along (step repoKey) (fun db tr => ¬ RetiresAt repoKey db tr key)
      (runTransitions repoKey Db.empty before) after)
    (hmoved : ClaimMoved (runTransitions repoKey Db.empty before) key) :
    ClaimMoved (runTransitions repoKey Db.empty (before ++ after)) key := by
  have hafter := (Runs.along_append.mp hrf).2
  have howned := @targetsOwned_run repoKey before
  unfold runTransitions at hmoved hafter howned hsuccess ⊢
  rw [Runs.run_append]
  generalize Runs.run (step repoKey) Db.empty before = db at *
  clear hrf
  induction after generalizing db with
  | nil => exact hmoved
  | cons tr after ih =>
    exact ih (step repoKey db tr) hsuccess.2
      (claimMoved_step howned hmoved hsuccess.1 hafter.1) hafter.2 (targetsOwned_step howned)

theorem claimMoved_iff :
    ClaimMoved db key ↔ (db.targets.find? key).any recoveryClaimMoved = true := by
  simp [ClaimMoved, Option.any_eq_true]

/-- A stack whose restore failed after it had touched the node. -/
def halfRestored : List Transition :=
  [.activateDirect linkedStack 1 (envelopeAt "link" 1),
    .recoveryStarted "app" 1 "first" none (envelopeAt "restore-1" 2),
    .recoveryFailed "app" 1 "first" .postMutation (envelopeAt "restore-1" 3)]

/-- A second restore, refused before it touched anything. -/
def refusedRestore : List Transition :=
  [.recoveryStarted "app" 1 "second" none (envelopeAt "restore-2" 4),
    .recoveryFailed "app" 1 "second" .preMutation (envelopeAt "restore-2" 5)]

/-- A refused restore downgrades the claim of the half-restored target. -/
theorem moved_claim_downgraded : ¬ ∀ (before after : List Transition) (key : TargetKey),
      Runs.Along (step fun _ => none) (fun db tr => ¬ RetiresAt (fun _ => none) db tr key)
        (runTransitions (fun _ => none) Db.empty before) after →
      ClaimMoved (runTransitions (fun _ => none) Db.empty before) key →
      ClaimMoved (runTransitions (fun _ => none) Db.empty (before ++ after)) key := by
  intro h
  have hkept := h halfRestored refusedRestore ⟨"app", 1⟩
    ⟨fun ⟨_, _, _, _, _, hs⟩ => hs, fun ⟨_, _, _, _, _, hs⟩ => hs, trivial⟩
    (claimMoved_iff.mpr (by decide))
  exact absurd (claimMoved_iff.mp hkept) (by decide)

/-- A deploy that fails beside the claim leaves it. -/
theorem moved_claim_kept_halfRestored :
    ClaimMoved (runTransitions (fun _ => none) Db.empty (halfRestored ++
      [.deployFailed "app" 1 .postMutation (envelopeAt "deploy" 4)])) ⟨"app", 1⟩ := by
  refine moved_claim_kept halfRestored _ ?_ ⟨fun ⟨_, _, _, _, _, hs⟩ => hs, trivial⟩
    (claimMoved_iff.mpr (by decide))
  refine ⟨?_, ?_, ?_, ?_, trivial⟩
  all_goals
    rintro ⟨id, nodeId, recoveryRef, envelope, heq, -⟩
    cases heq

end Sencho.GitOps

import Sencho.GitOps.Acceptances
import Sencho.Verified.Keeps

/-!
# Relations that every call keeps

A call is put together from statements of the store.  A relation between databases that each
statement keeps is kept by every call.
-/

namespace Sencho.GitOps

open Verified Tx Transition

variable {repoKey : String → Option String} {tr : Transition} {R : Db → Db → Prop} {β : Type}

/-- A relation that the statements keep, the record of a source acceptance apart: what leaves
four tables alone keeps it in any case. -/
structure Statements (R : Db → Db → Prop) : Prop extends Quasi R where
  same : ∀ {db db' : Db}, db'.targets = db.targets → db'.generations = db.generations →
    db'.artifactSets = db.artifactSets → db'.approvals = db.approvals → R db db'
  target : ∀ row, Keeps R (upsertTarget row)
  generation : ∀ row, Keeps R (insertGeneration row)
  artifactSet : ∀ row, Keeps R (insertArtifactSet row)
  decision : ∀ row : Approval, row.kind ≠ .sourceAcceptance → Keeps R (insertApproval row)
  confirmation : ∀ id c, Keeps R (writeSourceConfirmation id c)

/-- The source acceptance a call records: for which application, on whose authority. -/
def Transition.acceptance : Transition → Option (String × ApprovalAuthority)
  | .applied args | .sourceAccepted args => some (args.applicationId, args.authority.approval)
  | _ => none

section

variable (hR : Statements R) {app : Application} {id : String}

include hR

theorem keeps_beside {f : Db → Db} (ht : ∀ db, (f db).targets = db.targets)
    (hg : ∀ db, (f db).generations = db.generations)
    (ha : ∀ db, (f db).artifactSets = db.artifactSets)
    (hp : ∀ db, (f db).approvals = db.approvals) : Keeps R (modify f : Store PUnit) :=
  keeps_modify fun db => hR.same (ht db) (hg db) (ha db) (hp db)

theorem keeps_insertRow {ρ κ : Type} [DecidableEq κ] {key : ρ → κ}
    {table : Db → Table ρ κ key} {put : Db → Table ρ κ key → Db} {row : ρ}
    (ht : ∀ db t, (put db t).targets = db.targets)
    (hg : ∀ db t, (put db t).generations = db.generations)
    (ha : ∀ db t, (put db t).artifactSets = db.artifactSets)
    (hp : ∀ db t, (put db t).approvals = db.approvals) : Keeps R (insertRow table put row) :=
  fun db => ensures_insertRow.mpr fun t _ => hR.same (ht db t) (hg db t) (ha db t) (hp db t)

theorem keeps_writeApplication : Keeps R (writeApplication app) :=
  keeps_beside hR (fun _ => rfl) (fun _ => rfl) (fun _ => rfl) fun _ => rfl

theorem keeps_insertApplication : Keeps R (insertApplication app) :=
  keeps_bind hR.toQuasi (keeps_get hR.toQuasi) fun _ =>
    keeps_bind hR.toQuasi (keeps_refuseIf hR.toQuasi) fun _ =>
      keeps_insertRow hR (fun _ _ => rfl) (fun _ _ => rfl) (fun _ _ => rfl) fun _ _ => rfl

theorem keeps_insertIntentRevision {row : IntentRevision} : Keeps R (insertIntentRevision row) :=
  keeps_insertRow hR (fun _ _ => rfl) (fun _ _ => rfl) (fun _ _ => rfl) fun _ _ => rfl

theorem keeps_insertRolloutCandidate {row : RolloutCandidate} :
    Keeps R (insertRolloutCandidate row) :=
  keeps_bind hR.toQuasi (keeps_refuseIf hR.toQuasi) fun _ =>
    keeps_insertRow hR (fun _ _ => rfl) (fun _ _ => rfl) (fun _ _ => rfl) fun _ _ => rfl

theorem keeps_insertRolloutGeneration {row : RolloutGeneration} :
    Keeps R (insertRolloutGeneration row) :=
  keeps_bind hR.toQuasi (keeps_refuseIf hR.toQuasi) fun _ =>
    keeps_bind hR.toQuasi (keeps_refuseIf hR.toQuasi) fun _ =>
      keeps_insertRow hR (fun _ _ => rfl) (fun _ _ => rfl) (fun _ _ => rfl) fun _ _ => rfl

theorem keeps_updateApplicationTargetBinding {mode : TargetMode} {next : Application → Application}
    {hnext : ∀ a, (next a).id = a.id} :
    Keeps R (updateApplicationTargetBinding id mode next hnext) := by
  intro db
  unfold updateApplicationTargetBinding
  simp only [ensures_bind, ensures_get, ensures_refuseIf, ensures_set, ensures_pure]
  exact fun _ => hR.same rfl rfl rfl rfl

theorem keeps_updateRolloutGeneration {f : RolloutGeneration → RolloutGeneration}
    {hf : ∀ g, (f g).id = g.id} : Keeps R (updateRolloutGeneration id f hf) :=
  keeps_beside hR (fun _ => rfl) (fun _ => rfl) (fun _ => rfl) fun _ => rfl

theorem keeps_insertSupersededHistory {record : SupersededRecord} :
    Keeps R (insertSupersededHistory record) :=
  keeps_beside hR (fun _ => rfl) (fun _ => rfl) (fun _ => rfl) fun _ => rfl

theorem keeps_updateAttemptSeq {seq : Nat} : Keeps R (updateAttemptSeq id seq) :=
  keeps_beside hR (fun _ => rfl) (fun _ => rfl) (fun _ => rfl) fun _ => rfl

theorem keeps_updateIntentHealthPolicy {policy : HealthRolloutPolicy} :
    Keeps R (updateIntentHealthPolicy id policy) :=
  keeps_beside hR (fun _ => rfl) (fun _ => rfl) (fun _ => rfl) fun _ => rfl

theorem keeps_updateCandidateBinding {generationId : String} {artifactSetId : Option String} :
    Keeps R (updateCandidateBinding id generationId artifactSetId) :=
  keeps_beside hR (fun _ => rfl) (fun _ => rfl) (fun _ => rfl) fun _ => rfl

theorem keeps_requireApp : Keeps R (requireApp id) :=
  keeps_bind hR.toQuasi (keeps_get hR.toQuasi) fun _ => keeps_require hR.toQuasi

theorem keeps_requireOwnedGeneration {generationId : String} :
    Keeps R (requireOwnedGeneration id generationId) :=
  keeps_bind hR.toQuasi (keeps_get hR.toQuasi) fun _ => keeps_require hR.toQuasi

theorem keeps_mutateApp {envelope : EventEnvelope} {mutate : Application → Store Application}
    (h : ∀ app, app.id = id → Keeps R (mutate app)) : Keeps R (mutateApp id envelope mutate) := by
  refine fun db => ensures_mutateApp.mpr fun app happ => ?_
  refine (h app (Table.key_of_find? happ) db).mono fun _ db' hkept => ?_
  exact hR.trans hkept (hR.same rfl rfl rfl rfl)

theorem keeps_mutateTarget {nodeId : Int} {envelope : EventEnvelope} {stage : TargetStage}
    {mutate : Target → Application → Store (Target × β)} {keep : Bool}
    (h : ∀ t app, Keeps R (mutate t app)) :
    Keeps R (mutateTarget id nodeId envelope stage mutate keep) :=
  keeps_bind hR.toQuasi (keeps_requireApp hR) fun app =>
    keeps_bind hR.toQuasi (keeps_get hR.toQuasi) fun _ =>
      keeps_bind hR.toQuasi (keeps_require hR.toQuasi) fun t =>
        keeps_bind hR.toQuasi (h t app) fun _ =>
          keeps_bind hR.toQuasi (hR.target _) fun _ => keeps_pure hR.toQuasi

theorem keeps_withApplication {envelope : EventEnvelope} {mutate : Db → Application → Application} :
    Keeps R (withApplication id envelope mutate) :=
  keeps_bind hR.toQuasi (keeps_requireApp hR) fun _ =>
    keeps_bind hR.toQuasi (keeps_get hR.toQuasi) fun _ => keeps_writeApplication hR

theorem keeps_resumeTarget {t : Target} : Keeps R (resumeTarget app t) := by
  unfold resumeTarget
  split
  · exact keeps_pure hR.toQuasi
  · exact keeps_ite (hR.target _) (keeps_ite (hR.target _) (keeps_pure hR.toQuasi))

theorem keeps_freezeTarget {generationId artifactSetId : String} {t : Target} :
    Keeps R (freezeTarget generationId artifactSetId t) := by
  refine keeps_ite (keeps_pure hR.toQuasi)
    (keeps_bind hR.toQuasi (keeps_refuseIf hR.toQuasi) fun _ => ?_)
  exact hR.target _

theorem keeps_authorizationDropped {app : Application} {envelope : EventEnvelope} :
    Keeps R (invalidateAuthorizationOnSourceChange app envelope) := by
  simp only [invalidateAuthorizationOnSourceChange, recordRolloutGenerationSuperseded,
    markRolloutGenerationSuperseded]
  repeat' with_reducible first
    | exact keeps_pure hR.toQuasi | exact keeps_get hR.toQuasi
    | exact keeps_updateRolloutGeneration hR
    | exact keeps_insertSupersededHistory hR
    | apply keeps_map | apply keeps_bind hR.toQuasi | apply keeps_ite | intro _
    | split

/-- Recording an acceptance for the application of the row. -/
theorem keeps_accepted {app : Application} {args : AppliedArgs}
    {f : Application → Store Application} (hid : app.id = args.applicationId)
    (hrow : ∀ row : Approval, row.applicationId = args.applicationId →
      row.authority = args.authority.approval → Keeps R (insertApproval row))
    (hf : ∀ app, Keeps R (f app)) :
    Keeps R (do
        let app ← invalidateAuthorizationOnSourceChange app args.envelope
        let app ← applySourceAcceptanceMutation app args
        f app) := by
  intro db
  have hdropped := (@keeps_authorizationDropped R hR app args.envelope db).and
    ((ensures_authorizationDropped (Q := fun app' _ => app' = app.withoutAuthorization db)).mpr rfl)
  rw [ensures_bind]
  refine hdropped.mono fun dropped db₁ h => ?_
  obtain ⟨hkept, rfl⟩ := h
  refine Tx.Ensures.mono ?_ fun _ db' hrest => hR.trans hkept hrest
  refine keeps_bind hR.toQuasi ?_ hf db₁
  refine keeps_bind hR.toQuasi (keeps_bind hR.toQuasi (hR.artifactSet _) fun _ => ?_)
    fun _ => keeps_pure hR.toQuasi
  refine hrow _ ?_ rfl
  show (app.withoutAuthorization db).id = args.applicationId
  rw [withoutAuthorization_eq]
  exact hid

variable (hrow : ∀ row : Approval,
  tr.acceptance = some (row.applicationId, row.authority) → Keeps R (insertApproval row))

include hrow

/-- Every call keeps the relation, if what it accepts does. -/
theorem keeps_perform : Keeps R (tr.perform repoKey) := by
  have hQ := hR.toQuasi
  have haccepts : ∀ {args : AppliedArgs},
      tr.acceptance = some (args.applicationId, args.authority.approval) →
      ∀ row : Approval, row.applicationId = args.applicationId →
        row.authority = args.authority.approval → Keeps R (insertApproval row) := by
    intro args htr row hid hauthority
    exact hrow row (by rw [htr, hid, hauthority])
  cases tr <;> unfold Transition.perform
  case' applied =>
    refine keeps_mutateApp hR fun app hid => keeps_bind hQ ?_ fun _ =>
      keeps_accepted hR hid (haccepts rfl) fun _ => ?_
  case' sourceAccepted =>
    refine keeps_mutateApp hR fun app hid => keeps_bind hQ (keeps_refuseIf hQ) fun _ =>
      keeps_bind hQ ?_ fun _ => keeps_bind hQ ?_ fun _ =>
        keeps_accepted hR hid (haccepts rfl) fun _ => ?_
  all_goals
    simp only [activateDirect, activateInlineBlueprint, activateCreateFromGit, createFailed,
      convertDirectToBlueprint, convertBlueprintToDirect, blueprintModeDemoted,
      commitTargetBinding, fetched, fetchStarted, fetchFailed, fetchedInvalid,
      sourceConflictBlocker, dismissed, configChangedPendingCleared, candidateReady,
      sourceReviewBlocked, applyStarted, applyFailed, targetApplied,
      requireAcceptableCandidate, acceptanceTargets, invalidateAuthorizationOnSourceChange,
      rebindRolloutCandidateOnAcceptance, rebindRolloutCandidateSource,
      requireCurrentConfirmation, recordArtifactEvidence, acceptArtifactExpectation,
      invalidateOnExpectationChange, sourceRetryScheduled, sourcePollScheduled,
      sourcePolicyChanged, sourceUnsuspended, applicationTombstoned, recordAttempt,
      allocateReconcileAttempt, recordPreflightEvaluation, placementPolicyRefused,
      setRegistryPreflightBlockedLimitation, setGitManagedArtifactLimitation,
      setApplicationLimitation, placementPolicyChanged, rolloutAuthorizationPolicyChanged,
      healthRolloutPolicySet, rolloutPaused, rolloutUnpaused, pauseApplication,
      releaseConfirmedPlacement, recordConfirmedPlacement, partiallyRolledOut, partialCleared,
      intentRevised, clearFreezeOnComposeChange, clearInlineFreezePointers,
      invalidatePlacementOnMaterialChange, supersedeNamedGeneration,
      recordRolloutGenerationSuperseded, markRolloutGenerationSuperseded,
      markRolloutGenerationWithdrawn, rolloutCandidateOpened, placementInvalidated,
      legacyCombinedAppended, placementApproved, requirePlacementApprovable,
      requireDecisionProvenance, rolloutAuthorized, requireRolloutAuthorizable,
      answerConfirmation, bindRolloutCandidateSource, rolloutSuperseded,
      invalidateAuthorizationOnPreflightDrift, supersedeAuthorizedGeneration,
      inlineRevisionFrozen, freezeRevision, deployStarted, deployBound,
      deployUnbound, deployFailed, settleFailure, retireRecoveryClaimOnSuccess,
      retireNonMovingRecoveryClaim, clearRecoveryClaim,
      clearApplicationRecoveryWhenNoTargetFails, recordObservedRuntimeArtifact,
      recordObservedInvocation, targetTombstoned, tombstoneNodeTargets, healthFinalized,
      settleVerdict, decideGatedVerdict, holdUnackedRollout, healthRunReleased,
      blueprintDeployStarted, reviveIfSevered, reviveTarget, blueprintAckRecorded, acknowledge,
      blueprintDeployFailed, blueprintWithdrawStarted, blueprintWithdrawn,
      blueprintWithdrawFailed, blueprintObservation, reviveForReview, rollbackInProgress,
      openApplicationRecovery, rollbackPartialFailed, rollbackTargetFailed,
      settleRefusedRollback, rollbackRefusalSettled, rollbackCompleted, recoveryStarted,
      recoverySucceeded, recoveryFailed, interruptActiveOperations, interruptApplication,
      sourceSuspended, interruptForSuspension, forEachLiveDirectTarget, stageGeneration,
      placeTarget]
  all_goals
    repeat' with_reducible first
      | exact keeps_pure hQ | exact keeps_get hQ | exact keeps_refuseIf hQ
      | exact keeps_require hQ | exact keeps_liftM hQ | exact keeps_throw
      | exact keeps_writeApplication hR | exact hR.target _ | exact keeps_withApplication hR
      | exact keeps_requireApp hR | exact keeps_requireOwnedGeneration hR
      | exact keeps_insertApplication hR | exact hR.generation _ | exact hR.artifactSet _
      | exact keeps_insertIntentRevision hR | exact keeps_insertRolloutCandidate hR
      | exact keeps_insertRolloutGeneration hR | exact hR.decision _ (by simp)
      | exact keeps_updateApplicationTargetBinding hR | exact keeps_updateRolloutGeneration hR
      | exact keeps_insertSupersededHistory hR | exact keeps_updateAttemptSeq hR
      | exact keeps_updateIntentHealthPolicy hR | exact keeps_updateCandidateBinding hR
      | exact hR.confirmation _ _ | exact keeps_resumeTarget hR | exact keeps_freezeTarget hR
      | apply keeps_mutateApp hR | apply keeps_mutateTarget hR | apply keeps_forM hQ
      | apply keeps_attempt hQ | apply keeps_map | apply keeps_bind hQ | apply keeps_ite
      | intro _ | split

theorem keeps_step {db : Db} : R db (step repoKey db tr) :=
  (keeps_perform hR hrow).commit hR.toQuasi db

end

end Sencho.GitOps

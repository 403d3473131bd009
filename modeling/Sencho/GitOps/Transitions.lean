import Sencho.GitOps.RecoveryTransitions
import Sencho.Verified.Runs

/-!
# The transition system

Every call the rest of the program can make on the GitOps model, as one type.
A call that is refused leaves the database as it was; a run is any list of
calls, in any order, by any callers.  Two writes other services make on the
store directly are calls of their own: a fetched generation that is staged, and
the row of a node a rollout reaches for the first time.
-/

namespace Sencho.GitOps

open Verified

/-- A generation a fetch resolved is written before it is offered. -/
def stageGeneration (generation : Generation) : Store Unit := insertGeneration generation

/-- The first contact with a node writes an empty row; a row that is there stays. -/
def placeTarget (applicationId : String) (nodeId : Int) (now : Int) : Store Unit := do
  let _ ← requireApp applicationId
  let db ← get
  if (db.getTarget applicationId nodeId).isSome then pure ()
  else upsertTarget (emptyTargetRow applicationId nodeId now)

/-- A call on the model, with its arguments. -/
inductive Transition where
  | activateDirect (application : Application) (nodeId : Int) (envelope : EventEnvelope)
  | activateInlineBlueprint (application : Application)
  | activateCreateFromGit (application : Application) (nodeId : Int) (commitSha : String)
      (generation : Generation) (envelope : EventEnvelope)
  | createFailed (applicationId failureClass : String) (envelope : EventEnvelope)
  | convertDirectToBlueprint (applicationId : String) (blueprintId : Int) (envelope : EventEnvelope)
  | convertBlueprintToDirect (applicationId stackName : String) (envelope : EventEnvelope)
  | blueprintModeDemoted (applicationId : String) (envelope : EventEnvelope)
  | fetched (applicationId commitSha : String) (resolvedRefKind : Option RefKind)
      (envelope : EventEnvelope)
  | fetchStarted (applicationId : String) (envelope : EventEnvelope)
  | fetchFailed (applicationId : String) (code : Option String) (envelope : EventEnvelope)
  | fetchedInvalid (applicationId commitSha : String) (resolvedRefKind : Option RefKind)
      (envelope : EventEnvelope)
  | sourceConflictBlocker (applicationId generationId : String) (envelope : EventEnvelope)
  | dismissed (applicationId : String) (envelope : EventEnvelope)
  | configChangedPendingCleared (applicationId : String)
      (configured : SourceConfiguration) (envelope : EventEnvelope)
  | candidateReady (applicationId generationId : String) (reviewRequired : Bool)
      (envelope : EventEnvelope)
  | sourceReviewBlocked (applicationId generationId : String)
      (reason : SourceReviewBlockReason) (envelope : EventEnvelope)
  | applyStarted (applicationId generationId : String) (envelope : EventEnvelope)
  | applyFailed (applicationId failureClass : String) (envelope : EventEnvelope)
  | applied (args : AppliedArgs)
  | sourceAccepted (args : AppliedArgs)
  | targetApplied (nodeId : Int) (args : AppliedArgs)
  | recordArtifactEvidence (applicationId generationId artifactSetId : String)
      (evidenceVersion : Nat) (qualification : ArtifactQualification)
      (evidence : ArtifactEvidence) (authoritative : Bool) (envelope : EventEnvelope)
  | acceptArtifactExpectation (applicationId generationId artifactSetId : String)
      (envelope : EventEnvelope)
  | sourceRetryScheduled (applicationId : String) (retryAt : Int) (retryCount : Nat)
      (envelope : EventEnvelope)
  | sourcePollScheduled (applicationId : String) (nextPollAt : Int) (envelope : EventEnvelope)
  | sourcePolicyChanged (applicationId : String) (sourcePolicy : SourcePolicy)
      (envelope : EventEnvelope)
  | sourceSuspended (applicationId reason : String) (envelope : EventEnvelope)
  | sourceUnsuspended (applicationId : String) (envelope : EventEnvelope)
  | applicationTombstoned (applicationId : String) (retirement : Retirement)
      (envelope : EventEnvelope)
  | recordAttempt (applicationId : String)
  | allocateReconcileAttempt (applicationId : String)
  | recordPreflightEvaluation (applicationId evidenceJson : String) (at_ : Int)
  | placementPolicyRefused (applicationId reason : String) (at_ : Int)
  | setRegistryPreflightBlockedLimitation (applicationId : String)
      (detail : Option String) (at_ : Int)
  | setGitManagedArtifactLimitation (applicationId : String) (detail : Option String) (at_ : Int)
  | placementPolicyChanged (applicationId : String) (placementPolicy : PlacementPolicy)
      (envelope : EventEnvelope)
  | rolloutAuthorizationPolicyChanged (applicationId : String)
      (policy : RolloutAuthorizationPolicy) (envelope : EventEnvelope)
  | healthRolloutPolicySet (applicationId : String) (policy : HealthRolloutPolicy)
      (envelope : EventEnvelope)
  | rolloutPaused (applicationId : String) (nodeId : Option Int) (reason : String)
      (origin : PauseOrigin) (envelope : EventEnvelope)
  | rolloutUnpaused (applicationId : String) (nodeId : Option Int) (envelope : EventEnvelope)
  | partiallyRolledOut (applicationId : String) (nodeId : Option Int)
      (partialJson : String) (envelope : EventEnvelope)
  | partialCleared (applicationId : String) (nodeId : Option Int) (envelope : EventEnvelope)
  | intentRevised (applicationId : String) (intent : IntentRevision) (envelope : EventEnvelope)
  | rolloutCandidateOpened (applicationId : String) (candidate : RolloutCandidate)
      (envelope : EventEnvelope)
  | placementInvalidated (applicationId : String) (envelope : EventEnvelope)
  | legacyCombinedAppended (applicationId approvalId : String) (envelope : EventEnvelope)
  | placementApproved (args : PlacementApprovedArgs)
  | rolloutAuthorized (args : RolloutAuthorizedArgs)
  | rolloutSuperseded (applicationId : String) (envelope : EventEnvelope)
  | invalidateAuthorizationOnPreflightDrift (applicationId : String) (envelope : EventEnvelope)
  | inlineRevisionFrozen (applicationId : String) (generation : Generation)
      (artifactSetId : String) (envelope : EventEnvelope)
  | deployStarted (applicationId : String) (nodeId : Int) (generationId : String)
      (envelope : EventEnvelope)
  | deployBound (applicationId : String) (nodeId : Int) (generationId : String)
      (envelope : EventEnvelope)
  | deployUnbound (applicationId : String) (nodeId : Int) (generationId : String)
      (envelope : EventEnvelope)
  | deployFailed (applicationId : String) (nodeId : Int) (failureClass : MutationClass)
      (envelope : EventEnvelope)
  | recordObservedRuntimeArtifact (applicationId : String) (nodeId : Int)
      (observedJson : String) (envelope : EventEnvelope)
  | recordObservedInvocation (applicationId : String) (nodeId : Int)
      (observedJson : String) (envelope : EventEnvelope)
  | targetTombstoned (applicationId : String) (nodeId : Int) (envelope : EventEnvelope)
  | tombstoneNodeTargets (nodeId : Int) (envelope : EventEnvelope)
  | healthFinalized (args : HealthFinalizedArgs)
  | healthRunReleased (applicationId : String) (nodeId : Int) (healthRunId : String)
      (envelope : EventEnvelope)
  | blueprintDeployStarted (args : BlueprintDeployStartedArgs)
  | blueprintAckRecorded (args : BlueprintAckArgs)
  | blueprintDeployFailed (applicationId : String) (nodeId : Int) (failureClass : String)
      (envelope : EventEnvelope)
  | blueprintWithdrawStarted (applicationId : String) (nodeId : Int)
      (intentRevisionId : String) (envelope : EventEnvelope)
  | blueprintWithdrawn (applicationId : String) (nodeId : Int)
      (intentRevisionId : String) (envelope : EventEnvelope)
  | blueprintWithdrawFailed (applicationId : String) (nodeId : Int)
      (failureClass : String) (envelope : EventEnvelope)
  | blueprintObservation (applicationId : String) (nodeId : Int)
      (stage : BlueprintObservationStage) (envelope : EventEnvelope)
  | rollbackInProgress (applicationId : String) (nodeId : Option Int)
      (recoveryRef : String) (recoveryGenerationId : Option String)
      (envelope : EventEnvelope)
  | rollbackPartialFailed (applicationId : String) (nodeId : Option Int)
      (recoveryRef : String) (failureClass : RollbackFailureClass)
      (envelope : EventEnvelope)
  | rollbackRefusalSettled (applicationId : String) (targets : List RefusedTarget)
      (recoveryRef : String) (envelope : EventEnvelope)
  | rollbackCompleted (applicationId : String) (nodeId : Int) (evidence : RestoreEvidence)
      (envelope : EventEnvelope)
  | recoveryStarted (applicationId : String) (nodeId : Int) (recoveryRef : String)
      (recoveryGenerationId : Option String) (envelope : EventEnvelope)
  | recoverySucceeded (applicationId : String) (nodeId : Int) (evidence : RestoreEvidence)
      (recoveryGenerationId : Option String) (proven : Bool) (binding : GitOpsBinding)
      (envelope : EventEnvelope)
  | recoveryFailed (applicationId : String) (nodeId : Int) (recoveryRef : String)
      (failureClass : MutationClass) (envelope : EventEnvelope)
  | interruptActiveOperations (applicationId : String) (envelope : EventEnvelope)
  | stageGeneration (generation : Generation)
  | placeTarget (applicationId : String) (nodeId : Int) (now : Int)

/-- The transaction of a call.  The identity of a repository URL is decided by
another part of the program. -/
def Transition.perform (repoKey : String → Option String) : Transition → Store Unit
  | .activateDirect application nodeId envelope =>
    GitOps.activateDirect application nodeId envelope
  | .activateInlineBlueprint application => GitOps.activateInlineBlueprint application
  | .activateCreateFromGit application nodeId commitSha generation envelope =>
    GitOps.activateCreateFromGit application nodeId commitSha generation envelope
  | .createFailed applicationId failureClass envelope =>
    GitOps.createFailed applicationId failureClass envelope
  | .convertDirectToBlueprint applicationId blueprintId envelope =>
    GitOps.convertDirectToBlueprint repoKey applicationId blueprintId envelope
  | .convertBlueprintToDirect applicationId stackName envelope =>
    GitOps.convertBlueprintToDirect applicationId stackName envelope
  | .blueprintModeDemoted applicationId envelope =>
    GitOps.blueprintModeDemoted applicationId envelope
  | .fetched applicationId commitSha resolvedRefKind envelope =>
    GitOps.fetched applicationId commitSha resolvedRefKind envelope
  | .fetchStarted applicationId envelope => GitOps.fetchStarted applicationId envelope
  | .fetchFailed applicationId code envelope =>
    GitOps.fetchFailed applicationId code envelope
  | .fetchedInvalid applicationId commitSha resolvedRefKind envelope =>
    GitOps.fetchedInvalid applicationId commitSha resolvedRefKind envelope
  | .sourceConflictBlocker applicationId generationId envelope =>
    GitOps.sourceConflictBlocker applicationId generationId envelope
  | .dismissed applicationId envelope => GitOps.dismissed applicationId envelope
  | .configChangedPendingCleared applicationId configured envelope =>
    GitOps.configChangedPendingCleared applicationId configured envelope
  | .candidateReady applicationId generationId reviewRequired envelope =>
    GitOps.candidateReady applicationId generationId reviewRequired envelope
  | .sourceReviewBlocked applicationId generationId reason envelope =>
    GitOps.sourceReviewBlocked applicationId generationId reason envelope
  | .applyStarted applicationId generationId envelope =>
    GitOps.applyStarted applicationId generationId envelope
  | .applyFailed applicationId failureClass envelope =>
    GitOps.applyFailed applicationId failureClass envelope
  | .applied args => GitOps.applied args
  | .sourceAccepted args => GitOps.sourceAccepted args
  | .targetApplied nodeId args => GitOps.targetApplied nodeId args
  | .recordArtifactEvidence applicationId generationId artifactSetId evidenceVersion qualification
      evidence authoritative envelope =>
    GitOps.recordArtifactEvidence applicationId generationId artifactSetId evidenceVersion
      qualification evidence authoritative envelope
  | .acceptArtifactExpectation applicationId generationId artifactSetId envelope =>
    GitOps.acceptArtifactExpectation applicationId generationId artifactSetId envelope
  | .sourceRetryScheduled applicationId retryAt retryCount envelope =>
    GitOps.sourceRetryScheduled applicationId retryAt retryCount envelope
  | .sourcePollScheduled applicationId nextPollAt envelope =>
    GitOps.sourcePollScheduled applicationId nextPollAt envelope
  | .sourcePolicyChanged applicationId sourcePolicy envelope =>
    GitOps.sourcePolicyChanged applicationId sourcePolicy envelope
  | .sourceSuspended applicationId reason envelope =>
    GitOps.sourceSuspended applicationId reason envelope
  | .sourceUnsuspended applicationId envelope =>
    GitOps.sourceUnsuspended applicationId envelope
  | .applicationTombstoned applicationId retirement envelope =>
    GitOps.applicationTombstoned applicationId retirement envelope
  | .recordAttempt applicationId => GitOps.recordAttempt applicationId
  | .allocateReconcileAttempt applicationId =>
    (fun _ => ()) <$> GitOps.allocateReconcileAttempt applicationId
  | .recordPreflightEvaluation applicationId evidenceJson at_ =>
    GitOps.recordPreflightEvaluation applicationId evidenceJson at_
  | .placementPolicyRefused applicationId reason at_ =>
    GitOps.placementPolicyRefused applicationId reason at_
  | .setRegistryPreflightBlockedLimitation applicationId detail at_ =>
    GitOps.setRegistryPreflightBlockedLimitation applicationId detail at_
  | .setGitManagedArtifactLimitation applicationId detail at_ =>
    GitOps.setGitManagedArtifactLimitation applicationId detail at_
  | .placementPolicyChanged applicationId placementPolicy envelope =>
    GitOps.placementPolicyChanged applicationId placementPolicy envelope
  | .rolloutAuthorizationPolicyChanged applicationId policy envelope =>
    GitOps.rolloutAuthorizationPolicyChanged applicationId policy envelope
  | .healthRolloutPolicySet applicationId policy envelope =>
    GitOps.healthRolloutPolicySet applicationId policy envelope
  | .rolloutPaused applicationId nodeId reason origin envelope =>
    GitOps.rolloutPaused applicationId nodeId reason origin envelope
  | .rolloutUnpaused applicationId nodeId envelope =>
    GitOps.rolloutUnpaused applicationId nodeId envelope
  | .partiallyRolledOut applicationId nodeId partialJson envelope =>
    GitOps.partiallyRolledOut applicationId nodeId partialJson envelope
  | .partialCleared applicationId nodeId envelope =>
    GitOps.partialCleared applicationId nodeId envelope
  | .intentRevised applicationId intent envelope =>
    GitOps.intentRevised applicationId intent envelope
  | .rolloutCandidateOpened applicationId candidate envelope =>
    GitOps.rolloutCandidateOpened applicationId candidate envelope
  | .placementInvalidated applicationId envelope =>
    GitOps.placementInvalidated applicationId envelope
  | .legacyCombinedAppended applicationId approvalId envelope =>
    GitOps.legacyCombinedAppended applicationId approvalId envelope
  | .placementApproved args => GitOps.placementApproved args
  | .rolloutAuthorized args => GitOps.rolloutAuthorized args
  | .rolloutSuperseded applicationId envelope =>
    GitOps.rolloutSuperseded applicationId envelope
  | .invalidateAuthorizationOnPreflightDrift applicationId envelope =>
    GitOps.invalidateAuthorizationOnPreflightDrift applicationId envelope
  | .inlineRevisionFrozen applicationId generation artifactSetId envelope =>
    GitOps.inlineRevisionFrozen applicationId generation artifactSetId envelope
  | .deployStarted applicationId nodeId generationId envelope =>
    GitOps.deployStarted applicationId nodeId generationId envelope
  | .deployBound applicationId nodeId generationId envelope =>
    GitOps.deployBound applicationId nodeId generationId envelope
  | .deployUnbound applicationId nodeId generationId envelope =>
    GitOps.deployUnbound applicationId nodeId generationId envelope
  | .deployFailed applicationId nodeId failureClass envelope =>
    GitOps.deployFailed applicationId nodeId failureClass envelope
  | .recordObservedRuntimeArtifact applicationId nodeId observedJson envelope =>
    GitOps.recordObservedRuntimeArtifact applicationId nodeId observedJson envelope
  | .recordObservedInvocation applicationId nodeId observedJson envelope =>
    GitOps.recordObservedInvocation applicationId nodeId observedJson envelope
  | .targetTombstoned applicationId nodeId envelope =>
    GitOps.targetTombstoned applicationId nodeId envelope
  | .tombstoneNodeTargets nodeId envelope => GitOps.tombstoneNodeTargets nodeId envelope
  | .healthFinalized args => (fun _ => ()) <$> GitOps.healthFinalized args
  | .healthRunReleased applicationId nodeId healthRunId envelope =>
    GitOps.healthRunReleased applicationId nodeId healthRunId envelope
  | .blueprintDeployStarted args => GitOps.blueprintDeployStarted args
  | .blueprintAckRecorded args => (fun _ => ()) <$> GitOps.blueprintAckRecorded args
  | .blueprintDeployFailed applicationId nodeId failureClass envelope =>
    GitOps.blueprintDeployFailed applicationId nodeId failureClass envelope
  | .blueprintWithdrawStarted applicationId nodeId intentRevisionId envelope =>
    GitOps.blueprintWithdrawStarted applicationId nodeId intentRevisionId envelope
  | .blueprintWithdrawn applicationId nodeId intentRevisionId envelope =>
    GitOps.blueprintWithdrawn applicationId nodeId intentRevisionId envelope
  | .blueprintWithdrawFailed applicationId nodeId failureClass envelope =>
    GitOps.blueprintWithdrawFailed applicationId nodeId failureClass envelope
  | .blueprintObservation applicationId nodeId stage envelope =>
    GitOps.blueprintObservation applicationId nodeId stage envelope
  | .rollbackInProgress applicationId nodeId recoveryRef recoveryGenerationId envelope =>
    GitOps.rollbackInProgress applicationId nodeId recoveryRef recoveryGenerationId envelope
  | .rollbackPartialFailed applicationId nodeId recoveryRef failureClass envelope =>
    GitOps.rollbackPartialFailed applicationId nodeId recoveryRef failureClass envelope
  | .rollbackRefusalSettled applicationId targets recoveryRef envelope =>
    GitOps.rollbackRefusalSettled applicationId targets recoveryRef envelope
  | .rollbackCompleted applicationId nodeId evidence envelope =>
    GitOps.rollbackCompleted applicationId nodeId evidence envelope
  | .recoveryStarted applicationId nodeId recoveryRef recoveryGenerationId envelope =>
    GitOps.recoveryStarted applicationId nodeId recoveryRef recoveryGenerationId envelope
  | .recoverySucceeded applicationId nodeId evidence recoveryGenerationId proven binding envelope =>
    GitOps.recoverySucceeded applicationId nodeId evidence recoveryGenerationId proven binding envelope
  | .recoveryFailed applicationId nodeId recoveryRef failureClass envelope =>
    GitOps.recoveryFailed applicationId nodeId recoveryRef failureClass envelope
  | .interruptActiveOperations applicationId envelope =>
    GitOps.interruptActiveOperations applicationId envelope
  | .stageGeneration generation => GitOps.stageGeneration generation
  | .placeTarget applicationId nodeId now => GitOps.placeTarget applicationId nodeId now

/-- One call: a refusal changes nothing. -/
def step (repoKey : String → Option String) (db : Db) (t : Transition) : Db :=
  Tx.commit (t.perform repoKey) db

/-- A call is refused, or leaves what it ensures. -/
theorem step_or {repoKey : String → Option String} {db : Db} {t : Transition} {P : Db → Prop}
    (h : Tx.Ensures (t.perform repoKey) db fun _ => P) :
    step repoKey db t = db ∨ P (step repoKey db t) := Tx.commit_or h

/-- The database after a run of calls. -/
def runTransitions (repoKey : String → Option String) (db : Db) (ts : List Transition) : Db :=
  Runs.run (step repoKey) db ts

end Sencho.GitOps

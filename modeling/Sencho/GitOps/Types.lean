import Mathlib.Data.Int.Notation

/-!
# GitOps rows

The rows of the GitOps store and the values their columns take.  A row groups
the columns that are written and cleared together: the operation in flight, the
failure, the recovery slot, the interruption, the pause, the last-known-good.
A JSON column holds its decoded value where the code decodes it and its text
where the code only passes it on.
-/

namespace Sencho.GitOps

inductive TargetMode where
  | direct
  | inlineBlueprint
  | blueprint
  deriving DecidableEq

def TargetMode.name : TargetMode → String
  | .direct => "direct"
  | .inlineBlueprint => "inline_blueprint"
  | .blueprint => "blueprint"

inductive LifecycleStatus where
  | active
  | creating
  | detached
  | deleted
  deriving DecidableEq

/-- The lifecycle states the live lookups select. -/
def LifecycleStatus.live : LifecycleStatus → Bool
  | .active | .creating => true
  | .detached | .deleted => false

inductive ArtifactQualification where
  | unresolved
  | exact
  | qualified
  | stale
  | unavailable
  | localBuildUnverified
  deriving DecidableEq

inductive ApprovalKind where
  | sourceAcceptance
  | placementApproval
  | rolloutAuthorization
  | legacyCombined
  deriving DecidableEq

inductive ApprovalAuthority where
  | operator
  | configuredPolicy
  | legacyCombined
  deriving DecidableEq

/-- The two authorities a decomposed approval can be given. -/
inductive DecisionAuthority where
  | operator
  | configuredPolicy
  deriving DecidableEq

def DecisionAuthority.approval : DecisionAuthority → ApprovalAuthority
  | .operator => .operator
  | .configuredPolicy => .configuredPolicy

inductive ApplicationActiveStage where
  | fetchStarted
  | applyStarted
  | deployStarted
  | recoveryStarted
  deriving DecidableEq

inductive TargetActiveStage where
  | deployStarted
  | blueprintDeployStarted
  | blueprintWithdrawStarted
  | recoveryStarted
  deriving DecidableEq

inductive RecoveryPhase where
  | capturing
  | restoring
  | compensating
  | complete
  | failed
  deriving DecidableEq

inductive ApplicationFailureStage where
  | fetch
  | validation
  | apply
  | create
  | recovery
  deriving DecidableEq

inductive TargetFailureStage where
  | deploy
  | recovery
  | blueprintDeploy
  | blueprintWithdraw
  deriving DecidableEq

/-- The classes a recovery failure is recorded with. -/
inductive RecoveryFailureClass where
  | preMutation
  | postMutation
  | partial_
  | interrupted
  deriving DecidableEq

def RecoveryFailureClass.name : RecoveryFailureClass → String
  | .preMutation => "pre_mutation"
  | .postMutation => "post_mutation"
  | .partial_ => "partial"
  | .interrupted => "interrupted"

inductive SourcePolicy where
  | manual
  | review
  | automatic
  deriving DecidableEq

inductive PlacementPolicy where
  | operator
  | boundedAuto
  deriving DecidableEq

inductive RolloutAuthorizationPolicy where
  | manual
  | automatic
  deriving DecidableEq

inductive PauseOrigin where
  | operator
  | system
  | health
  deriving DecidableEq

inductive RefKind where
  | branch
  | tag
  | sha

inductive SourceReviewBlockReason where
  | statefulWithdrawal

inductive LkgUnavailableReason where
  | generationMissing
  | recoveryUnretainable

inductive TargetStatus where
  | active
  | tombstoned
  deriving DecidableEq

inductive HealthVerdict where
  | passed
  | failed
  | unknown
  deriving DecidableEq

/-- How a rollout reacts to a health outcome on a target. -/
inductive HealthRolloutPolicy where
  | observe
  | pause
  | retryOnce
  | stop
  | rollback

inductive HealthStopReason where
  | healthPassed
  | healthFailed
  | healthUnknown
  | healthRetried
  | healthRetryExhausted
  | rolloutStopped
  | rollbackCompleted
  | rollbackPending
  | stopAcknowledged
  | rollbackUnavailable
  deriving DecidableEq

inductive CandidateProvenance where
  | intentChange
  | rosterChange
  | legacyInline

inductive RolloutProvenance where
  | legacyInline
  | placementApproval
  | rolloutAuthorization
  deriving DecidableEq

/-- What the reconciler may record against a target as an observation. -/
inductive BlueprintObservationStage where
  | stateReview
  | evictBlocked
  | drifted
  | correcting
  | repairHeld
  | driftCleared
  deriving DecidableEq

/-- The stages a target mutation stamps as the latest thing that happened. -/
inductive TargetStage where
  | targetApplied
  | runtimeArtifactObserved
  | invocationObserved
  | deployStarted
  | deployBound
  | deployUnbound
  | deployFailed
  | healthFinalized
  | healthRunReleased
  | targetTombstoned
  | rolloutPaused
  | rolloutUnpaused
  | partiallyRolledOut
  | partialCleared
  | blueprintDeployStarted
  | blueprintAckRecorded
  | blueprintDeployFailed
  | blueprintWithdrawStarted
  | blueprintWithdrawn
  | blueprintWithdrawFailed
  | observation (stage : BlueprintObservationStage)
  | rollbackInProgress
  | rollbackPartialFailed
  | rollbackCompleted
  | recoveryStarted
  | recoverySucceeded
  | recoveryFailed

/-- A fact the writer could not prove, kept on the row. -/
structure EvidenceLimitation where
  code : String
  detail : Option String

/-- The evidence of an artifact set: its kind and the rest of the document. -/
structure ArtifactEvidence where
  kind : ArtifactQualification
  document : String

inductive PlacementOutcome where
  | place
  | remove
  deriving DecidableEq

/-- One node of an approved placement effect. -/
structure PlacementEffect where
  nodeId : Int
  outcome : PlacementOutcome

/-- The three authority policies a decision was made under. -/
structure PolicySnapshot where
  version : Int
  source : SourcePolicy
  placement : PlacementPolicy
  rolloutAuthorization : RolloutAuthorizationPolicy

/-- The reviewed authority state one source action was confirmed against. -/
structure SourceConfirmation where
  placementApprovalRef : Option String
  rolloutMayStart : Bool

structure ApplicationOperation where
  operationId : Option String
  stage : Option ApplicationActiveStage
  at_ : Option Int
  generationId : Option String

structure TargetOperation where
  operationId : Option String
  stage : Option TargetActiveStage
  at_ : Option Int
  generationId : Option String
  intentRevisionId : Option String
  rolloutCandidateId : Option String

structure ApplicationFailure where
  stage : Option ApplicationFailureStage
  class_ : Option String
  at_ : Option Int

structure TargetFailure where
  stage : Option TargetFailureStage
  class_ : Option String
  at_ : Option Int

structure Pause where
  at_ : Option Int
  reason : Option String
  origin : PauseOrigin

structure ApplicationRecovery where
  ref : Option String
  phase : Option RecoveryPhase

/-- The recovery slot of a target: the restore and the failure it still claims. -/
structure TargetRecovery where
  ref : Option String
  generationId : Option String
  phase : Option RecoveryPhase
  failureClass : Option RecoveryFailureClass
  failureAt : Option Int

structure LastKnownGood where
  generationId : Option String
  artifactSetId : Option String
  unavailableAt : Option Int
  unavailableReason : Option LkgUnavailableReason

structure LastHealth where
  status : Option HealthVerdict
  generationId : Option String
  runId : Option String

/-- What a source is built from. -/
structure SourceConfiguration where
  repoUrl : Option String
  repoIdentityJson : Option String
  ref : Option String
  composePathsJson : Option String
  contextDir : Option String
  syncEnv : Option Bool
  envPath : Option String
  fingerprint : Option String

def ApplicationOperation.none : ApplicationOperation :=
  ⟨Option.none, Option.none, Option.none, Option.none⟩

def TargetOperation.none : TargetOperation :=
  ⟨Option.none, Option.none, Option.none, Option.none, Option.none, Option.none⟩

def ApplicationFailure.none : ApplicationFailure :=
  ⟨Option.none, Option.none, Option.none⟩

def TargetFailure.none : TargetFailure := ⟨Option.none, Option.none, Option.none⟩

def Pause.none : Pause := ⟨Option.none, Option.none, .operator⟩

def LastKnownGood.none : LastKnownGood :=
  ⟨Option.none, Option.none, Option.none, Option.none⟩

structure Application where
  id : String
  lifecycleStatus : LifecycleStatus
  targetMode : TargetMode
  stackName : Option String
  configuredSourceStackName : Option String
  blueprintId : Option Int
  configured : SourceConfiguration
  desiredCommitSha : Option String
  fetchedCommitSha : Option String
  fetchedResolvedRefKind : Option RefKind
  candidateGenerationId : Option String
  acceptedGenerationId : Option String
  candidatePlanBlocked : Bool
  reviewRequired : Bool
  reviewBlockReason : Option SourceReviewBlockReason
  artifactSetId : Option String
  latestArtifactSetId : Option String
  intentRevisionId : Option String
  rolloutCandidateId : Option String
  rolloutGenerationId : Option String
  sourceAcceptanceRef : Option String
  placementApprovalRef : Option String
  rolloutAuthorizationRef : Option String
  legacyCombinedApprovalRef : Option String
  preflightFingerprint : Option String
  latestPreflightEvidenceJson : Option String
  latestOperationId : Option String
  active : ApplicationOperation
  pause : Pause
  sourceSuspendedReason : Option String
  sourcePolicy : SourcePolicy
  placementPolicy : PlacementPolicy
  rolloutAuthorizationPolicy : RolloutAuthorizationPolicy
  placementPolicyRefusalReason : Option String
  placementPolicyRefusedAt : Option Int
  nextPollAt : Option Int
  attemptSeq : Nat
  partialJson : Option String
  failure : ApplicationFailure
  retryAt : Option Int
  retryCount : Nat
  suspendedAt : Option Int
  recovery : ApplicationRecovery
  interruption : ApplicationOperation
  evidenceLimitations : List EvidenceLimitation
  createdAt : Int
  updatedAt : Int

structure Generation where
  id : String
  applicationId : String
  resolvedRefKind : Option RefKind
  materializationFingerprint : String
  validationOk : Bool
  planBlocked : Bool

structure ArtifactSet where
  id : String
  generationId : String
  evidenceVersion : Nat
  authoritative : Bool
  qualification : ArtifactQualification
  evidence : ArtifactEvidence
  createdAt : Int

structure IntentRevision where
  id : String
  applicationId : String
  composeContentSha256 : String
  deployStackName : String
  healthPolicy : Option HealthRolloutPolicy
  createdAt : Int

structure RolloutCandidate where
  id : String
  applicationId : String
  intentRevisionId : String
  acceptedGenerationId : Option String
  artifactSetId : Option String
  requiredTargets : List Int
  provenance : CandidateProvenance
  createdAt : Int

structure RolloutGeneration where
  id : String
  applicationId : String
  intentRevisionId : String
  rolloutCandidateId : String
  acceptedGenerationId : Option String
  artifactSetId : Option String
  placementApprovalRef : Option String
  sourceAcceptanceRef : Option String
  rolloutAuthorizationRef : Option String
  requiredTargets : List Int
  preflightFingerprint : Option String
  preflightEvidenceJson : Option String
  rolloutStrategyJson : String
  policySnapshot : PolicySnapshot
  provenance : RolloutProvenance
  supersedesGenerationId : Option String
  supersededAt : Option Int
  withdrawnAt : Option Int
  operationId : String
  actor : Option String
  trigger : String
  createdAt : Int

structure Approval where
  id : String
  kind : ApprovalKind
  authority : ApprovalAuthority
  authoritative : Bool
  applicationId : String
  generationId : Option String
  intentRevisionId : Option String
  artifactSetId : Option String
  rolloutCandidateId : Option String
  rolloutGenerationId : Option String
  sourceAcceptanceRef : Option String
  placementApprovalRef : Option String
  requiredTargets : Option (List Int)
  preflightFingerprint : Option String
  fingerprint : Option String
  blast : Option (List PlacementEffect)
  policyProvenance : Option PolicySnapshot
  sourceConfirmation : Option SourceConfirmation
  actor : Option String
  createdAt : Int

structure Target where
  applicationId : String
  nodeId : Int
  status : TargetStatus
  desiredGenerationId : Option String
  candidateGenerationId : Option String
  appliedGenerationId : Option String
  deployedGenerationId : Option String
  healthyGenerationId : Option String
  lastHealth : LastHealth
  pendingHealthRunId : Option String
  healthAttempts : Nat
  healthStopReason : Option HealthStopReason
  lkg : LastKnownGood
  expectedArtifactSetId : Option String
  latestArtifactSetId : Option String
  observedArtifactIdentityJson : Option String
  observedInvocationJson : Option String
  intentRevisionId : Option String
  rolloutCandidateId : Option String
  rolloutGenerationId : Option String
  sourceAcceptanceRef : Option String
  placementApprovalRef : Option String
  rolloutAuthorizationRef : Option String
  legacyAppliedRevision : Option Int
  latestStage : Option TargetStage
  active : TargetOperation
  failure : TargetFailure
  recovery : TargetRecovery
  interruption : TargetOperation
  pauseAt : Option Int
  pauseReason : Option String
  partialJson : Option String
  evidenceLimitations : List EvidenceLimitation
  updatedAt : Int

/-- The primary key of a target row. -/
structure TargetKey where
  applicationId : String
  nodeId : Int
  deriving DecidableEq

def Target.key (t : Target) : TargetKey := ⟨t.applicationId, t.nodeId⟩

/-- A row for a node nothing has happened on. -/
def emptyTargetRow (applicationId : String) (nodeId : Int) (now : Int) : Target where
  applicationId := applicationId
  nodeId := nodeId
  status := .active
  desiredGenerationId := none
  candidateGenerationId := none
  appliedGenerationId := none
  deployedGenerationId := none
  healthyGenerationId := none
  lastHealth := ⟨none, none, none⟩
  pendingHealthRunId := none
  healthAttempts := 0
  healthStopReason := none
  lkg := .none
  expectedArtifactSetId := none
  latestArtifactSetId := none
  observedArtifactIdentityJson := none
  observedInvocationJson := none
  intentRevisionId := none
  rolloutCandidateId := none
  rolloutGenerationId := none
  sourceAcceptanceRef := none
  placementApprovalRef := none
  rolloutAuthorizationRef := none
  legacyAppliedRevision := none
  latestStage := none
  active := .none
  failure := .none
  recovery := ⟨none, none, none, none, none⟩
  interruption := .none
  pauseAt := none
  pauseReason := none
  partialJson := none
  evidenceLimitations := []
  updatedAt := now

/-- A row nothing has been asked of, under the default policies. -/
def blankApplicationRow (id : String) (lifecycleStatus : LifecycleStatus)
    (targetMode : TargetMode) (stackName : Option String) (blueprintId : Option Int)
    (configured : SourceConfiguration) (sourcePolicy : SourcePolicy) (now : Int) :
    Application where
  id := id
  lifecycleStatus := lifecycleStatus
  targetMode := targetMode
  stackName := stackName
  configuredSourceStackName := none
  blueprintId := blueprintId
  configured := configured
  desiredCommitSha := none
  fetchedCommitSha := none
  fetchedResolvedRefKind := none
  candidateGenerationId := none
  acceptedGenerationId := none
  candidatePlanBlocked := false
  reviewRequired := false
  reviewBlockReason := none
  artifactSetId := none
  latestArtifactSetId := none
  intentRevisionId := none
  rolloutCandidateId := none
  rolloutGenerationId := none
  sourceAcceptanceRef := none
  placementApprovalRef := none
  rolloutAuthorizationRef := none
  legacyCombinedApprovalRef := none
  preflightFingerprint := none
  latestPreflightEvidenceJson := none
  latestOperationId := none
  active := .none
  pause := .none
  sourceSuspendedReason := none
  sourcePolicy := sourcePolicy
  placementPolicy := .operator
  rolloutAuthorizationPolicy := .manual
  placementPolicyRefusalReason := none
  placementPolicyRefusedAt := none
  nextPollAt := none
  attemptSeq := 0
  partialJson := none
  failure := .none
  retryAt := none
  retryCount := 0
  suspendedAt := none
  recovery := ⟨none, none⟩
  interruption := .none
  evidenceLimitations := []
  createdAt := now
  updatedAt := now

/-- A Direct application for a stack that exists, or that a create will make. -/
def buildDirectApplicationRow (id stackName : String) (configured : SourceConfiguration)
    (lifecycleStatus : LifecycleStatus) (policy : SourcePolicy) (now : Int) : Application :=
  blankApplicationRow id lifecycleStatus .direct (some stackName) none configured policy now

/-- A Blueprint application before anything has been asked of it. -/
def blankInlineApplication (id : String) (blueprintId : Int) (now : Int) : Application :=
  blankApplicationRow id .active .inlineBlueprint none (some blueprintId)
    ⟨none, none, none, none, none, some false, none, none⟩ .manual now

/-- The history row of one superseded rollout generation. -/
structure SupersededRecord where
  applicationId : String
  operationId : String
  rolloutGenerationId : String

/-- The columns two history rows of one stage cannot share. -/
def SupersededRecord.dedupe (r : SupersededRecord) : String × String :=
  (r.applicationId, r.operationId)

/-- What every call carries: who asked for what, and when. -/
structure EventEnvelope where
  operationId : String
  actor : Option String
  trigger : String
  at_ : Int

/-- The arguments of a source acceptance. -/
structure AppliedArgs where
  applicationId : String
  generationId : String
  artifactSetId : String
  sourceAcceptanceId : String
  authority : DecisionAuthority
  envelope : EventEnvelope
  activateCreating : Bool
  confirmation : Option SourceConfirmation

/-- A string column read as a condition: null and the empty string are false. -/
def truthy (o : Option String) : Bool := o.any fun s => s ≠ ""

/-- A number column read as a condition: null and zero are false. -/
def truthyAt (o : Option Int) : Bool := o.any fun n => n ≠ 0

/-- Whether a restore is still moving on the row. -/
def targetRestoreInFlight (t : Target) : Bool :=
  t.recovery.phase = some .capturing || t.recovery.phase = some .restoring ||
    t.recovery.phase = some .compensating

/-- The class of the recovery failure the row still claims. -/
def recoveryFailureClaimClass (t : Target) : Option RecoveryFailureClass :=
  t.recovery.failureClass

def recoveryFailureClaimAt (t : Target) : Option Int := t.recovery.failureAt

/-- A recovery failure, or a restore in flight, that may have moved the target. -/
def targetRecoveryFailureMoved (t : Target) : Bool :=
  targetRestoreInFlight t ||
    (recoveryFailureClaimClass t).any fun c => c ≠ .preMutation

/-- A recorded claim that may have moved the target. -/
def recoveryClaimMoved (t : Target) : Bool :=
  (recoveryFailureClaimClass t).any fun c => c ≠ .preMutation

/-- A claim a newer outcome may retire. -/
def recoveryClaimRetirable (t : Target) : Bool :=
  !targetRestoreInFlight t && recoveryFailureClaimClass t = some .preMutation

/-- The generation a target is running, in the sense each mode can prove. -/
def runningGenerationForTarget (app : Application) (t : Target) : Option String :=
  match app.targetMode with
  | .direct => t.deployedGenerationId
  | .inlineBlueprint | .blueprint => t.appliedGenerationId

end Sencho.GitOps

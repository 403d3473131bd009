import Sencho.GitOps.RolloutTransitions

/-!
# Target transitions

What happens on one node: a Direct deploy and its outcome, a health verdict and
what the frozen policy makes of it, and a Blueprint deploy or withdrawal from
its start to the acknowledgement, the failure or the observation that ends it.
-/

namespace Sencho.GitOps

open Verified Tx

/-- Whether a failed mutation had been handed off. -/
inductive MutationClass where
  | preMutation
  | postMutation

def MutationClass.recovery : MutationClass → RecoveryFailureClass
  | .preMutation => .preMutation
  | .postMutation => .postMutation

variable (t : Target) (applicationId : String) (app : Application) (args : HealthFinalizedArgs)

/-- A terminal deploy event names the live deploy or the one a restart
interrupted. -/
def requireMatchingDeploy (generationId : String) (envelope : EventEnvelope) : Bool :=
  let live := t.active.stage = some .deployStarted && t.active.generationId = some generationId &&
    (!truthy t.active.operationId || t.active.operationId = some envelope.operationId)
  let interrupted := t.interruption.stage = some .deployStarted &&
    t.interruption.generationId = some generationId &&
    (!truthy t.interruption.operationId || t.interruption.operationId = some envelope.operationId)
  live || interrupted

def deployStarted (applicationId : String) (nodeId : Int) (generationId : String)
    (envelope : EventEnvelope) : Store Unit :=
  mutateTarget applicationId nodeId envelope .deployStarted (fun t _ => do
    refuseIf (t.status ≠ .active) (refusal "target not found")
    refuseIf (t.appliedGenerationId ≠ some generationId)
      (refusal "deploy generation is not applied")
    refuseIf (t.active.stage.isSome && t.active.operationId ≠ some envelope.operationId)
      (refusal "conflicting target operation")
    pure ({ t with
      active := { t.active with
        operationId := some envelope.operationId
        stage := some .deployStarted
        at_ := some envelope.at_
        generationId := some generationId } }.clearInterruption .deployStarted, ())) false

/-- The row of a deploy that went through, before its recovery claim is looked at. -/
def Target.bindDeploy (generationId : String) : Target :=
  let t := { t with deployedGenerationId := some generationId }.clearActive
  ((t.clearFailure [.deploy]).clearInterruption .deployStarted).clearInterruption .recoveryStarted

def deployBound (applicationId : String) (nodeId : Int) (generationId : String)
    (envelope : EventEnvelope) : Store Unit :=
  mutateTarget applicationId nodeId envelope .deployBound (fun t _ => do
    refuseIf (t.status ≠ .active) (refusal "cannot bind a deploy on a tombstoned target")
    refuseIf (!requireMatchingDeploy t generationId envelope)
      (refusal "no matching deploy operation")
    let t ← retireRecoveryClaimOnSuccess (t.bindDeploy generationId) applicationId envelope
    pure (t.markInFlightRestore envelope.at_, ())) false

/-- Settle a target after a deploy or withdrawal that did not succeed: release
the operation, retire a claim that moved nothing, and record the failure. -/
def settleFailure (stage : TargetActiveStage) (failure : TargetFailure) (envelope : EventEnvelope) :
    Store Target := do
  let t ← retireNonMovingRecoveryClaim (t.clearActive.clearInterruption stage) applicationId
    envelope
  pure { t.markInFlightRestore envelope.at_ with failure := failure }

def deployUnbound (applicationId : String) (nodeId : Int) (generationId : String)
    (envelope : EventEnvelope) : Store Unit :=
  mutateTarget applicationId nodeId envelope .deployUnbound (fun t _ => do
    refuseIf (!requireMatchingDeploy t generationId envelope)
      (refusal "no matching deploy operation")
    let t ← settleFailure t applicationId .deployStarted
      ⟨some .deploy, some "unbound", some envelope.at_⟩ envelope
    pure (t, ())) false

def deployFailed (applicationId : String) (nodeId : Int) (failureClass : MutationClass)
    (envelope : EventEnvelope) : Store Unit :=
  mutateTarget applicationId nodeId envelope .deployFailed (fun t _ => do
    let t ← settleFailure t applicationId .deployStarted
      ⟨some .deploy, some failureClass.recovery.name, some envelope.at_⟩ envelope
    pure (t, ())) false

def recordObservedRuntimeArtifact (nodeId : Int) (observedJson : String) (envelope : EventEnvelope)
    : Store Unit :=
  mutateTarget applicationId nodeId envelope .runtimeArtifactObserved (fun t _ =>
    pure ({ t with observedArtifactIdentityJson := some observedJson }, ())) true

def recordObservedInvocation (nodeId : Int) (observedJson : String) (envelope : EventEnvelope) :
    Store Unit :=
  mutateTarget applicationId nodeId envelope .invocationObserved (fun t _ =>
    pure ({ t with observedInvocationJson := some observedJson }, ())) true

def targetTombstoned (applicationId : String) (nodeId : Int) (envelope : EventEnvelope) :
    Store Unit :=
  mutateTarget applicationId nodeId envelope .targetTombstoned (fun t _ => do
    clearApplicationRecoveryWhenNoTargetFails applicationId nodeId envelope
    pure (t.tombstone.markInFlightRestore envelope.at_, ())) false

/-- Retire every live target on a node that is going away. -/
def tombstoneNodeTargets (nodeId : Int) (envelope : EventEnvelope) : Store Unit := do
  let db ← get
  (db.listActiveTargetsForNode nodeId).forM fun t =>
    targetTombstoned t.applicationId nodeId envelope

inductive HealthRolloutAction where
  | none
  | advance
  | retry
  | pause
  | stop
  | rollback
  deriving DecidableEq

/-- What a verdict does to the rollout.  Observing gives no reason of its own. -/
structure HealthPolicyDecision where
  action : HealthRolloutAction
  reason : Option HealthStopReason

def decideHealthRolloutAction (policy : HealthRolloutPolicy) (verdict : HealthVerdict)
    (attemptsUsed : Nat) (recoveryAvailable : Bool) : HealthPolicyDecision :=
  match policy, verdict with
  | .observe, _ => ⟨.none, none⟩
  | _, .passed => ⟨.advance, some .healthPassed⟩
  | _, .unknown => ⟨.pause, some .healthUnknown⟩
  | .pause, .failed => ⟨.pause, some .healthFailed⟩
  | .retryOnce, .failed =>
    if attemptsUsed < 1 then ⟨.retry, some .healthRetried⟩
    else ⟨.pause, some .healthRetryExhausted⟩
  | .stop, .failed => ⟨.stop, some .rolloutStopped⟩
  | .rollback, .failed =>
    if recoveryAvailable then ⟨.rollback, some .healthFailed⟩
    else ⟨.pause, some .rollbackUnavailable⟩

/-- Consume one health-gated attempt and record what the verdict does. -/
def applyHealthGatedDecision (policy : HealthRolloutPolicy) (verdict : HealthVerdict) :
    Target × HealthPolicyDecision :=
  let decision := decideHealthRolloutAction policy verdict t.healthAttempts
    t.recovery.generationId.isSome
  let t := { t with pendingHealthRunId := none }
  match decision.action with
  | .none => (t, decision)
  | .advance => ({ t with healthStopReason := none }, decision)
  | .retry =>
    ({ t with
      healthAttempts := t.healthAttempts + 1
      healthStopReason := decision.reason }, decision)
  | .rollback => ({ t with healthStopReason := some .rollbackPending }, decision)
  | .pause | .stop => ({ t with healthStopReason := decision.reason }, decision)

/-- The decisions that hold the whole rollout. -/
def holdsRollout : HealthRolloutAction → Bool
  | .pause | .stop | .rollback => true
  | .none | .advance | .retry => false

def HealthStopReason.words : HealthStopReason → String
  | .healthPassed => "health passed"
  | .healthFailed => "health failed"
  | .healthUnknown => "health unknown"
  | .healthRetried => "health retried"
  | .healthRetryExhausted => "health retry exhausted"
  | .rolloutStopped => "rollout stopped"
  | .rollbackCompleted => "rollback completed"
  | .rollbackPending => "rollback pending"
  | .stopAcknowledged => "stop acknowledged"
  | .rollbackUnavailable => "rollback unavailable"

def healthHoldReason (decision : HealthPolicyDecision) : String :=
  "Held by the health rollout policy (" ++
    ((decision.reason.map HealthStopReason.words).getD "health policy observe") ++ ")."

/-- The rollout a reserved health run belongs to. -/
structure HealthRolloutBinding where
  rolloutGenerationId : String
  healthPolicy : HealthRolloutPolicy

inductive HealthScope where
  | stack
  | service
  deriving DecidableEq

structure HealthFinalizedArgs where
  applicationId : String
  nodeId : Int
  healthRunId : String
  healthStatus : HealthVerdict
  deployedGenerationId : Option String
  targetScope : HealthScope
  rollout : Option HealthRolloutBinding
  envelope : EventEnvelope

/-- What a verdict hands back to its caller. -/
structure HealthOutcome where
  decision : Option HealthPolicyDecision
  unattributable : Bool

/-- The run's rollout is the application's, and the target has not acked it. -/
def unackedAttempt (rollout : Option HealthRolloutBinding) : Bool :=
  rollout.any fun r =>
    t.rolloutGenerationId ≠ app.rolloutGenerationId &&
      app.rolloutGenerationId = some r.rolloutGenerationId

/-- Whether a verdict can be tied to what the target is running. -/
def healthAttributable : Bool :=
  t.status = .active && args.targetScope = .stack && truthy args.deployedGenerationId &&
    if unackedAttempt t app args.rollout then args.healthStatus = .unknown
    else runningGenerationForTarget app t = args.deployedGenerationId

/-- Release the run a finished verdict was awaited for. -/
def Target.releaseHealthRun (healthRunId : String) : Target :=
  if t.pendingHealthRunId = some healthRunId then { t with pendingHealthRunId := none }
  else t

/-- The evidence a verdict leaves on the row: the last verdict, the promotion it
earns and the one it withdraws. -/
def Target.recordVerdict (db : Db) (args : HealthFinalizedArgs) (attributable : Bool) : Target :=
  let t :=
    if attributable && (args.healthStatus ≠ .unknown || t.lastHealth.status = none) then
      { t with
        lastHealth := ⟨some args.healthStatus, args.deployedGenerationId, some args.healthRunId⟩ }
    else t
  if attributable && args.healthStatus = .passed then
    let expected := (t.expectedArtifactSetId.filter fun s => truthy (some s)).bind db.getArtifactSet
    { t with
      healthyGenerationId := args.deployedGenerationId
      lkg := ⟨args.deployedGenerationId,
        (expected.filter fun e => some e.generationId = args.deployedGenerationId).map
          ArtifactSet.id, none, none⟩ }
  else if attributable && args.healthStatus = .failed &&
      t.healthyGenerationId = args.deployedGenerationId then
    { t with healthyGenerationId := none }
  else t

/-- Hold a rollout whose target has not acked it, beside the fence.  A refusal of
the hold is dropped. -/
def holdUnackedRollout (decision : HealthPolicyDecision) : Store Unit :=
  if unackedAttempt t app args.rollout && holdsRollout decision.action && app.pause.at_.isNone then
    attempt (pauseApplication args.applicationId (healthHoldReason decision) .health
      args.envelope) Refusal.isTransition
  else pure ()

/-- An attributable verdict of a gated rollout. -/
def decideGatedVerdict (rollout : HealthRolloutBinding) : Store (Target × HealthOutcome) := do
  let (decided, decision) := applyHealthGatedDecision t rollout.healthPolicy args.healthStatus
  holdUnackedRollout t app args decision
  let db ← get
  pure (decided.recordVerdict db args true, ⟨some decision, false⟩)

/-- What a verdict does once it is neither stale nor superseded. -/
def settleVerdict :
    Store (Target × HealthOutcome) := do
  let db ← get
  let attributable := healthAttributable t app args
  match args.rollout with
  | none => pure (t.recordVerdict db args attributable, ⟨none, false⟩)
  | some rollout =>
    if attributable then decideGatedVerdict t app args rollout
    else if t.pendingHealthRunId = some args.healthRunId then
      pure ({ t with pendingHealthRunId := none }, ⟨none, true⟩)
    else pure (t.recordVerdict db args false, ⟨none, false⟩)

def healthFinalized (args : HealthFinalizedArgs) : Store HealthOutcome :=
  mutateTarget args.applicationId args.nodeId args.envelope .healthFinalized (fun t app =>
    if args.rollout.isSome && t.pendingHealthRunId ≠ some args.healthRunId then
      pure (t, ⟨none, false⟩)
    else if (args.rollout.any fun r => t.rolloutGenerationId ≠ some r.rolloutGenerationId) &&
        !unackedAttempt t app args.rollout then
      pure (t.releaseHealthRun args.healthRunId, ⟨none, true⟩)
    else if args.rollout.any fun r => app.rolloutGenerationId ≠ some r.rolloutGenerationId then
      pure (t.releaseHealthRun args.healthRunId,
        ⟨none, t.pendingHealthRunId = some args.healthRunId⟩)
    else settleVerdict t app args) false

def healthRunReleased (applicationId : String) (nodeId : Int) (healthRunId : String)
    (envelope : EventEnvelope) : Store Unit :=
  mutateTarget applicationId nodeId envelope .healthRunReleased (fun t _ => do
    refuseIf (t.pendingHealthRunId ≠ some healthRunId)
      (refusal "the target is no longer awaiting that health run")
    pure ({ t with pendingHealthRunId := none }, ())) false

structure BlueprintDeployStartedArgs where
  applicationId : String
  nodeId : Int
  intentRevisionId : String
  rolloutCandidateId : Option String
  /-- The run a gated rollout reserved; absent when the writer reserved none. -/
  pendingHealthRunId : Option (Option String)
  envelope : EventEnvelope

/-- Re-open a placement the model had severed. -/
def reviveIfSevered (envelope : EventEnvelope) : Store Target :=
  if t.status ≠ .active then reviveTarget t applicationId envelope else pure t

/-- Open the request on the row, with the health run it is observed by. -/
def Target.openBlueprintDeploy (args : BlueprintDeployStartedArgs) : Target :=
  { t with
    active := { t.active with
      operationId := some args.envelope.operationId
      stage := some .blueprintDeployStarted
      at_ := some args.envelope.at_
      intentRevisionId := some args.intentRevisionId
      rolloutCandidateId := args.rolloutCandidateId }
    pendingHealthRunId := args.pendingHealthRunId.getD t.pendingHealthRunId
    }.clearInterruption .blueprintDeployStarted

def blueprintDeployStarted (args : BlueprintDeployStartedArgs) : Store Unit :=
  mutateTarget args.applicationId args.nodeId args.envelope .blueprintDeployStarted (fun t _ => do
      let t ← reviveIfSevered t args.applicationId args.envelope
      refuseIf (t.active.stage.isSome && t.active.stage ≠ some .blueprintDeployStarted &&
          t.active.operationId ≠ some args.envelope.operationId)
        (refusal "conflicting target operation")
      pure (t.openBlueprintDeploy args, ())) false

/-- The request a terminal event names, live or interrupted: its candidate. -/
def matchBlueprintRequest (expectedStage : TargetActiveStage) (intentRevisionId : String) :
    Option (Option String) :=
  if t.active.stage = some expectedStage ∧ t.active.intentRevisionId = some intentRevisionId then
    some t.active.rolloutCandidateId
  else if t.interruption.stage = some expectedStage ∧
      t.interruption.intentRevisionId = some intentRevisionId then
    some t.interruption.rolloutCandidateId
  else none

structure BlueprintAckArgs where
  applicationId : String
  nodeId : Int
  intentRevisionId : String
  rolloutCandidateId : Option String
  legacyAppliedRevision : Option Int
  recoveryGenerationId : Option String
  envelope : EventEnvelope

/-- Whether the target is already acked to the rollout the application is on. -/
def alreadyAckedForThisRollout (intentRevisionId : String) (rolloutCandidateId : Option String) :
    Bool :=
  app.intentRevisionId = some intentRevisionId && app.rolloutCandidateId = rolloutCandidateId &&
    app.acceptedGenerationId.isSome &&
    t.appliedGenerationId = app.acceptedGenerationId &&
    t.rolloutAuthorizationRef = app.rolloutAuthorizationRef &&
    t.rolloutGenerationId = app.rolloutGenerationId &&
    (t.active.stage.isNone || t.active.stage = some .recoveryStarted)

/-- How an acknowledgement was recorded. -/
inductive AckOutcome where
  | alreadyAcked
  | superseded
  | acknowledged
  deriving DecidableEq

/-- The recovery point the first attempt reports with its acknowledgement. -/
def Target.noteRecoveryPoint (recoveryGenerationId : Option String) : Target :=
  if truthy recoveryGenerationId then
    { t with recovery := { t.recovery with generationId := recoveryGenerationId } }
  else t

/-- Bind the application's current pointers onto an acknowledged target. -/
def Target.bindAcknowledged (args : BlueprintAckArgs) (requestCandidateId : Option String) :
    Target :=
  { t with
    intentRevisionId := some args.intentRevisionId
    rolloutCandidateId := requestCandidateId
    legacyAppliedRevision := args.legacyAppliedRevision
    desiredGenerationId := app.acceptedGenerationId
    appliedGenerationId := app.acceptedGenerationId
    observedArtifactIdentityJson :=
      if t.expectedArtifactSetId.isSome ∧ t.expectedArtifactSetId ≠ app.artifactSetId then
        none
      else t.observedArtifactIdentityJson
    expectedArtifactSetId := app.artifactSetId
    latestArtifactSetId := app.artifactSetId
    sourceAcceptanceRef := app.sourceAcceptanceRef
    placementApprovalRef := app.placementApprovalRef
    rolloutAuthorizationRef := app.rolloutAuthorizationRef
    healthAttempts :=
      if t.rolloutGenerationId ≠ app.rolloutGenerationId then 0 else t.healthAttempts
    healthStopReason :=
      if t.rolloutGenerationId ≠ app.rolloutGenerationId then none
      else t.healthStopReason
    rolloutGenerationId := app.rolloutGenerationId }

/-- The row with its request released and the reported recovery point on it. -/
def Target.releaseRequest (args : BlueprintAckArgs) : Target :=
  (t.clearActive.noteRecoveryPoint args.recoveryGenerationId).clearInterruption
    .blueprintDeployStarted

/-- The row of a current acknowledgement, before its recovery claim is looked at. -/
def Target.acknowledged (args : BlueprintAckArgs) (requestCandidateId : Option String) : Target :=
  (((t.releaseRequest args).bindAcknowledged app args requestCandidateId).clearFailure
    [.blueprintDeploy, .blueprintWithdraw]).clearInterruption .recoveryStarted

/-- Record an acknowledgement whose request the target was launched with. -/
def acknowledge (args : BlueprintAckArgs) (requestCandidateId : Option String) :
    Store (Target × AckOutcome) :=
  if app.intentRevisionId ≠ some args.intentRevisionId then
    pure ({ t.releaseRequest args with legacyAppliedRevision := args.legacyAppliedRevision
      }.markInFlightRestore args.envelope.at_, .superseded)
  else do
    let retired ← retireRecoveryClaimOnSuccess (t.acknowledged app args requestCandidateId)
      args.applicationId args.envelope
    clearApplicationRecoveryWhenNoTargetFails args.applicationId args.nodeId args.envelope
    pure (retired.markInFlightRestore args.envelope.at_, .acknowledged)

def blueprintAckRecorded (args : BlueprintAckArgs) : Store AckOutcome :=
  mutateTarget args.applicationId args.nodeId args.envelope .blueprintAckRecorded (fun t app =>
      if alreadyAckedForThisRollout t app args.intentRevisionId args.rolloutCandidateId then
        pure (t.noteRecoveryPoint args.recoveryGenerationId, .alreadyAcked)
      else do
        let requestCandidateId ← require
          (matchBlueprintRequest t .blueprintDeployStarted args.intentRevisionId)
          (refusal "cannot acknowledge an intent this target was not asked to run")
        refuseIf (args.rolloutCandidateId ≠ requestCandidateId)
          (refusal "acknowledged candidate is not the one deployed")
        acknowledge t app args requestCandidateId) false

def blueprintDeployFailed (applicationId : String) (nodeId : Int) (failureClass : String)
    (envelope : EventEnvelope) : Store Unit :=
  mutateTarget applicationId nodeId envelope .blueprintDeployFailed (fun t _ => do
    let t ← settleFailure t applicationId .blueprintDeployStarted
      ⟨some .blueprintDeploy, some failureClass, some envelope.at_⟩ envelope
    pure ({ t with pendingHealthRunId := none }, ())) false

def blueprintWithdrawStarted (applicationId : String) (nodeId : Int)
    (intentRevisionId : String) (envelope : EventEnvelope) : Store Unit :=
  mutateTarget applicationId nodeId envelope .blueprintWithdrawStarted (fun t _ => do
    refuseIf (t.status ≠ .active) (refusal "cannot withdraw from a tombstoned target")
    refuseIf (t.active.stage.isSome && t.active.operationId ≠ some envelope.operationId)
      (refusal "conflicting target operation")
    pure ({ t with
      active := { t.active with
        operationId := some envelope.operationId
        stage := some .blueprintWithdrawStarted
        at_ := some envelope.at_
        intentRevisionId := some intentRevisionId } }.clearInterruption
          .blueprintWithdrawStarted, ())) false

/-- Sever a placement whose withdrawal went through. -/
def Target.withdraw : Target :=
  { t.clearActive.clearInterruption .blueprintWithdrawStarted with
    status := .tombstoned
    failure := .none }

def blueprintWithdrawn (applicationId : String) (nodeId : Int) (intentRevisionId : String)
    (envelope : EventEnvelope) : Store Unit :=
  mutateTarget applicationId nodeId envelope .blueprintWithdrawn (fun t _ => do
    let _ ← require (matchBlueprintRequest t .blueprintWithdrawStarted intentRevisionId)
      (refusal "cannot withdraw an intent this target was not asked to run")
    clearApplicationRecoveryWhenNoTargetFails applicationId nodeId envelope
    pure (t.withdraw.markInFlightRestore envelope.at_, ())) false

def blueprintWithdrawFailed (applicationId : String) (nodeId : Int) (failureClass : String)
    (envelope : EventEnvelope) : Store Unit :=
  mutateTarget applicationId nodeId envelope .blueprintWithdrawFailed (fun t _ => do
    let t ← settleFailure t applicationId .blueprintWithdrawStarted
      ⟨some .blueprintWithdraw, some failureClass, some envelope.at_⟩ envelope
    pure (t, ())) false

/-- A state-review hold re-opens a severed placement; every other observation of
a severed target is refused. -/
def reviveForReview (stage : BlueprintObservationStage) (envelope : EventEnvelope) : Store Target :=
  if t.status = .active then pure t
  else do
    refuseIf (stage ≠ .stateReview) (refusal "cannot observe a tombstoned target")
    let t ← reviveTarget t applicationId envelope
    pure { t with interruption := .none }

def blueprintObservation (nodeId : Int) (stage : BlueprintObservationStage)
    (envelope : EventEnvelope) : Store Unit :=
  mutateTarget applicationId nodeId envelope (.observation stage) (fun t _ => do
    let t ← reviveForReview t applicationId stage envelope
    pure (t, ())) false

end Sencho.GitOps

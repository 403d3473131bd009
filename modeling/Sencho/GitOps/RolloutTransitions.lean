import Sencho.GitOps.SourceTransitions

/-!
# Rollout transitions

How a rollout of an application is decided: intent revisions and candidates,
placement approval, rollout authorization and its withdrawal, the policies that
grant them, pauses, and the freeze of an Inline revision.
-/

namespace Sencho.GitOps

open Verified Tx

/-- Withdraw the authority a policy wrote, leaving an operator's alone. -/
def withdrawPolicyAuthority (db : Db) (app : Application) : Application :=
  match app.placementApprovalRef with
  | none => app
  | some ref =>
    if (db.getApproval ref).any fun a => a.authority = .configuredPolicy then
      { app with placementApprovalRef := none, rolloutAuthorizationRef := none }
    else app

variable (app : Application) (args : RolloutAuthorizedArgs) (applicationId : String)
  (envelope : EventEnvelope)

def placementPolicyChanged (placementPolicy : PlacementPolicy) (envelope : EventEnvelope) :
    Store Unit :=
  mutateApp applicationId envelope fun app => do
    refuseIf (app.lifecycleStatus ≠ .active) (refusal "application is not live")
    refuseIf app.active.stage.isSome
      (refusal "cannot change the placement policy while an operation is in flight")
    refuseIf (app.placementPolicy = placementPolicy)
      (refusal "the placement policy is already set to that value")
    let db ← get
    let app := { app with
      placementPolicy := placementPolicy
      placementPolicyRefusalReason := none
      placementPolicyRefusedAt := none }
    pure (if placementPolicy = .boundedAuto then withdrawPolicyAuthority db app else app)

def rolloutAuthorizationPolicyChanged (policy : RolloutAuthorizationPolicy)
    (envelope : EventEnvelope) : Store Unit :=
  mutateApp applicationId envelope fun app => do
    refuseIf (app.lifecycleStatus ≠ .active) (refusal "application is not live")
    refuseIf app.active.stage.isSome
      (refusal "cannot change the rollout authorization policy while an operation is in flight")
    refuseIf (app.rolloutAuthorizationPolicy = policy)
      (refusal "the rollout authorization policy is already set to that value")
    let db ← get
    let app := { app with rolloutAuthorizationPolicy := policy }
    pure (if policy = .automatic then withdrawPolicyAuthority db app else app)

def healthRolloutPolicySet (policy : HealthRolloutPolicy) (envelope : EventEnvelope) : Store Unit :=
  mutateApp applicationId envelope fun app => do
    refuseIf (app.lifecycleStatus ≠ .active) (refusal "application is not live")
    let intentId ← require (app.intentRevisionId.filter fun s => truthy (some s))
      (refusal "the application has no intent revision to carry the policy")
    let db ← get
    let intent ← require (db.getIntentRevision intentId)
      (refusal "the current intent revision could not be read")
    updateIntentHealthPolicy intent.id policy
    pure app

/-- Pause the whole rollout. -/
def pauseApplication (reason : String) (origin : PauseOrigin) (envelope : EventEnvelope) :
    Store Unit :=
  mutateApp applicationId envelope fun app => do
    refuseIf (app.lifecycleStatus ≠ .active) (refusal "application is not live")
    pure { app with pause := ⟨some envelope.at_, some reason, origin⟩ }

/-- Pause a rollout, application-wide or on one target. -/
def rolloutPaused (applicationId : String) (nodeId : Option Int) (reason : String)
    (origin : PauseOrigin) (envelope : EventEnvelope) : Store Unit :=
  match nodeId with
  | none => pauseApplication applicationId reason origin envelope
  | some nodeId =>
    mutateTarget applicationId nodeId envelope .rolloutPaused (fun t _ => do
      refuseIf (t.status ≠ .active) (refusal "target is tombstoned")
      pure ({ t with pauseAt := some envelope.at_, pauseReason := some reason }, ())) false

/-- The fences a resume answers. -/
def resumableHealthFence : HealthStopReason → Bool
  | .healthFailed | .healthUnknown | .healthRetryExhausted | .rollbackUnavailable => true
  | _ => false

/-- The fences a resume records its answer beside. -/
def acknowledgedHealthFence : HealthStopReason → Bool
  | .rolloutStopped | .rollbackCompleted => true
  | _ => false

/-- What an application-wide resume does to one target. -/
def resumeTarget (t : Target) : Store Unit :=
  match t.healthStopReason with
  | none => pure ()
  | some fence =>
    if resumableHealthFence fence then upsertTarget { t with healthStopReason := none }
    else if acknowledgedHealthFence fence ∧ t.rolloutGenerationId = app.rolloutGenerationId then
      upsertTarget { t with healthStopReason := some .stopAcknowledged }
    else pure ()

def rolloutUnpaused (applicationId : String) (nodeId : Option Int)
    (envelope : EventEnvelope) : Store Unit :=
  match nodeId with
  | none =>
    mutateApp applicationId envelope fun app => do
      refuseIf (!truthyAt app.pause.at_) (refusal "application is not paused")
      releaseConfirmedPlacement applicationId
      let db ← get
      (db.listTargets applicationId).forM (resumeTarget app)
      pure { app with pause := .none }
  | some nodeId =>
    mutateTarget applicationId nodeId envelope .rolloutUnpaused (fun t _ => do
      refuseIf (!truthyAt t.pauseAt) (refusal "target is not paused")
      pure ({ t with pauseAt := none, pauseReason := none }, ())) false

def partiallyRolledOut (applicationId : String) (nodeId : Option Int) (partialJson : String)
    (envelope : EventEnvelope) : Store Unit :=
  match nodeId with
  | none =>
    mutateApp applicationId envelope fun app =>
      pure { app with partialJson := some partialJson }
  | some nodeId =>
    mutateTarget applicationId nodeId envelope .partiallyRolledOut (fun t _ =>
      pure ({ t with partialJson := some partialJson }, ())) false

def partialCleared (applicationId : String) (nodeId : Option Int)
    (envelope : EventEnvelope) : Store Unit :=
  match nodeId with
  | none =>
    mutateApp applicationId envelope fun app => do
      refuseIf (!truthy app.partialJson) (refusal "application has no partial state")
      pure { app with partialJson := none }
  | some nodeId =>
    mutateTarget applicationId nodeId envelope .partialCleared (fun t _ => do
      refuseIf (!truthy t.partialJson) (refusal "target has no partial state")
      pure ({ t with partialJson := none }, ())) false

/-- Intent or candidate churn invalidates placement and authorization, and
supersedes the live rollout generation. -/
def invalidatePlacementOnMaterialChange :
    Store Application := do
  supersedeNamedGeneration app envelope
  pure { app with
    placementApprovalRef := none
    rolloutAuthorizationRef := none
    preflightFingerprint := none
    rolloutGenerationId :=
      if truthy app.rolloutGenerationId then none else app.rolloutGenerationId }

/-- Drop the Inline freeze, so that the next deploy mints a generation for the
current compose. -/
def clearInlineFreezePointers : Store Application := do
  let db ← get
  let targets := (db.listTargets app.id).filter fun t => t.status = .active
  targets.forM fun t => upsertTarget { t with
    desiredGenerationId := none
    expectedArtifactSetId := none
    latestArtifactSetId := none }
  pure { app with
    acceptedGenerationId := none
    artifactSetId := none
    latestArtifactSetId := none }

/-- The Inline freeze is per compose content. -/
def clearFreezeOnComposeChange (composeChanged : Bool) : Store Application :=
  if app.targetMode = .inlineBlueprint && composeChanged then clearInlineFreezePointers app
  else pure app

def intentRevised (intent : IntentRevision) (envelope : EventEnvelope) : Store Unit :=
  mutateApp applicationId envelope fun app => do
    refuseIf (app.lifecycleStatus ≠ .active) (refusal "application is not live")
    refuseIf (intent.applicationId ≠ applicationId)
      (refusal "intent belongs to another application")
    let db ← get
    let previousIntent := app.intentRevisionId.bind db.getIntentRevision
    insertIntentRevision intent
    let composeChanged := previousIntent.all fun previous =>
      previous.composeContentSha256 ≠ intent.composeContentSha256
    let app ← clearFreezeOnComposeChange { app with intentRevisionId := some intent.id }
      composeChanged
    invalidatePlacementOnMaterialChange app envelope

def rolloutCandidateOpened (candidate : RolloutCandidate) (envelope : EventEnvelope) : Store Unit :=
  mutateApp applicationId envelope fun app => do
    refuseIf (app.lifecycleStatus ≠ .active) (refusal "application is not live")
    refuseIf (candidate.applicationId ≠ applicationId)
      (refusal "candidate belongs to another application")
    refuseIf (some candidate.intentRevisionId ≠ app.intentRevisionId)
      (refusal "candidate does not name the current intent")
    insertRolloutCandidate candidate
    invalidatePlacementOnMaterialChange { app with rolloutCandidateId := some candidate.id }
      envelope

def placementInvalidated : Store Unit :=
  mutateApp applicationId envelope fun app => do
    refuseIf (app.lifecycleStatus ≠ .active) (refusal "application is not live")
    invalidatePlacementOnMaterialChange app envelope

def legacyCombinedAppended (approvalId : String) (envelope : EventEnvelope) : Store Unit :=
  mutateApp applicationId envelope fun app => do
    refuseIf (app.lifecycleStatus ≠ .active) (refusal "application is not live")
    insertApproval {
      id := approvalId
      kind := .legacyCombined
      authority := .legacyCombined
      authoritative := false
      applicationId := applicationId
      generationId := none
      intentRevisionId := none
      artifactSetId := none
      rolloutCandidateId := none
      rolloutGenerationId := none
      sourceAcceptanceRef := none
      placementApprovalRef := none
      requiredTargets := none
      preflightFingerprint := none
      fingerprint := none
      blast := none
      policyProvenance := none
      sourceConfirmation := none
      actor := envelope.actor
      createdAt := envelope.at_ }
    pure { app with legacyCombinedApprovalRef := some approvalId }

/-- The pair of authority and snapshot a decision is made with, checked against
the policies configured on the row.  The sentences are the caller's. -/
def requireDecisionProvenance (authority : DecisionAuthority) (provenance : Option PolicySnapshot)
    (missing extra changed : String) : Store Unit := do
  refuseIf (authority = .configuredPolicy && provenance.isNone) (refusal missing)
  refuseIf (authority = .operator && provenance.isSome) (refusal extra)
  refuseIf (authority = .configuredPolicy &&
      provenance.any fun p => p.version ≠ policyContractVersion)
    (.store "The policy snapshot names an unknown version")
  refuseIf (authority = .configuredPolicy &&
      provenance.any fun p => !policyValuesEqual p (configuredSnapshotFor app))
    (refusal changed)

structure PlacementApprovedArgs where
  applicationId : String
  approvalId : String
  intentRevisionId : String
  blast : List PlacementEffect
  requiredNodeIds : List Int
  fingerprint : Option String
  actor : Option String
  envelope : EventEnvelope
  rolloutGenerationId : String
  candidateId : String
  authority : DecisionAuthority
  policyProvenance : Option PolicySnapshot
  strategyJson : Option String
  provenance : Option RolloutProvenance

/-- The guards of a placement approval. -/
def requirePlacementApprovable (args : PlacementApprovedArgs) : Store Unit := do
  refuseIf (app.lifecycleStatus ≠ .active) (refusal "application is not live")
  requireDecisionProvenance app args.authority args.policyProvenance
    "a policy-authorized approval must record its policy snapshot"
    "an operator approval records no policy snapshot"
    "the placement policy changed while the decision was being applied"
  refuseIf (args.authority = .configuredPolicy && app.placementPolicy ≠ .boundedAuto)
    (refusal "the placement policy requires an operator to approve")
  refuseIf (app.intentRevisionId ≠ some args.intentRevisionId)
    (refusal "intent revision is not current")
  refuseIf (app.rolloutCandidateId ≠ some args.candidateId)
    (refusal "rollout candidate is not current")
  let db ← get
  let candidate ← require ((db.getRolloutCandidate args.candidateId).filter fun c =>
      c.applicationId = args.applicationId)
    (refusal "rollout candidate not found")
  refuseIf (candidate.intentRevisionId ≠ args.intentRevisionId)
    (refusal "rollout candidate does not match intent")
  refuseIf (args.authority = .configuredPolicy &&
      db.hasPlacementApprovalFor args.applicationId args.intentRevisionId args.candidateId)
    (refusal "placement approval already recorded for this intent and candidate")

def placementApproved (args : PlacementApprovedArgs) : Store Unit :=
  mutateApp args.applicationId args.envelope fun app => do
    requirePlacementApprovable app args
    let requiredTargets := canonicalizeNodeIds args.requiredNodeIds
    insertApproval {
      id := args.approvalId
      kind := .placementApproval
      authority := args.authority.approval
      authoritative := true
      applicationId := args.applicationId
      generationId := none
      intentRevisionId := some args.intentRevisionId
      artifactSetId := none
      rolloutCandidateId := some args.candidateId
      rolloutGenerationId := none
      sourceAcceptanceRef := none
      placementApprovalRef := none
      requiredTargets := some requiredTargets
      preflightFingerprint := none
      fingerprint := args.fingerprint
      blast := some args.blast
      policyProvenance := args.policyProvenance
      sourceConfirmation := none
      actor := args.actor
      createdAt := args.envelope.at_ }
    supersedeNamedGeneration app args.envelope
    insertRolloutGeneration {
      id := args.rolloutGenerationId
      applicationId := args.applicationId
      intentRevisionId := args.intentRevisionId
      rolloutCandidateId := args.candidateId
      acceptedGenerationId := none
      artifactSetId := none
      placementApprovalRef := some args.approvalId
      sourceAcceptanceRef := none
      rolloutAuthorizationRef := none
      requiredTargets := requiredTargets
      preflightFingerprint := none
      preflightEvidenceJson := none
      rolloutStrategyJson := args.strategyJson.getD "\x7b\x7d"
      policySnapshot := configuredSnapshotFor app
      provenance := args.provenance.getD .legacyInline
      supersedesGenerationId := app.rolloutGenerationId
      supersededAt := none
      withdrawnAt := none
      operationId := args.envelope.operationId
      actor := args.actor
      trigger := args.envelope.trigger
      createdAt := args.envelope.at_ }
    pure { app with
      rolloutAuthorizationRef := none
      placementApprovalRef := some args.approvalId
      legacyCombinedApprovalRef := none
      rolloutGenerationId := some args.rolloutGenerationId
      placementPolicyRefusalReason := none
      placementPolicyRefusedAt := none }

structure RolloutAuthorizedArgs where
  applicationId : String
  approvalId : String
  rolloutGenerationId : String
  preflightFingerprint : String
  preflightEvidenceJson : String
  actor : Option String
  envelope : EventEnvelope
  strategyJson : Option String
  authority : DecisionAuthority
  policyProvenance : Option PolicySnapshot

/-- The guards of a rollout authorization. -/
def requireRolloutAuthorizable : Store Unit := do
  refuseIf (app.lifecycleStatus ≠ .active) (refusal "application is not live")
  refuseIf (app.targetMode ≠ .blueprint)
    (refusal "rollout authorization is only for Blueprint target mode")
  requireDecisionProvenance app args.authority args.policyProvenance
    "a policy-authorized rollout must record its policy snapshot"
    "an operator rollout authorization records no policy snapshot"
    "the configured policy changed while the decision was being applied"
  refuseIf (args.authority = .configuredPolicy && app.rolloutAuthorizationPolicy ≠ .automatic)
    (refusal "the rollout authorization policy requires an operator to authorize")
  refuseIf app.active.stage.isSome
    (refusal "an operation is already in flight for this application")
  let db ← get
  refuseIf ((app.rolloutAuthorizationRef.filter fun s => truthy (some s)).any fun ref =>
      (db.currentAuthorizationBinding app).any fun live =>
        (db.resolveRolloutAuthorization ref app.id live).isSome)
    (refusal "rollout authorization already live")

/-- An operator's mint answers the confirmation an acceptance deferred. -/
def answerConfirmation (placementApprovalRef : String) : Store Unit :=
  match args.authority with
  | .operator => recordConfirmedPlacement args.applicationId (some placementApprovalRef)
  | .configuredPolicy => pure ()

def rolloutAuthorized : Store Unit :=
  mutateApp args.applicationId args.envelope fun app => do
    requireRolloutAuthorizable app args
    let db ← get
    let ingredients ← require (db.authorizationIngredients app)
      (refusal "authorization binding is incomplete")
    refuseIf (db.getArtifactSet ingredients.artifactSetId).isNone (refusal "artifact set not found")
    bindRolloutCandidateSource ingredients.rolloutCandidateId
      ingredients.acceptedGenerationId ingredients.artifactSetId
    answerConfirmation args ingredients.placementApprovalRef
    insertApproval {
      id := args.approvalId
      kind := .rolloutAuthorization
      authority := args.authority.approval
      authoritative := true
      applicationId := args.applicationId
      generationId := some ingredients.acceptedGenerationId
      intentRevisionId := some ingredients.intentRevisionId
      artifactSetId := some ingredients.artifactSetId
      rolloutCandidateId := some ingredients.rolloutCandidateId
      rolloutGenerationId := some args.rolloutGenerationId
      sourceAcceptanceRef := some ingredients.sourceAcceptanceRef
      placementApprovalRef := some ingredients.placementApprovalRef
      requiredTargets := some ingredients.requiredNodeIds
      preflightFingerprint := some args.preflightFingerprint
      fingerprint := none
      blast := none
      policyProvenance := args.policyProvenance
      sourceConfirmation := none
      actor := args.actor
      createdAt := args.envelope.at_ }
    supersedeNamedGeneration app args.envelope
    insertRolloutGeneration {
      id := args.rolloutGenerationId
      applicationId := args.applicationId
      intentRevisionId := ingredients.intentRevisionId
      rolloutCandidateId := ingredients.rolloutCandidateId
      acceptedGenerationId := some ingredients.acceptedGenerationId
      artifactSetId := some ingredients.artifactSetId
      placementApprovalRef := some ingredients.placementApprovalRef
      sourceAcceptanceRef := some ingredients.sourceAcceptanceRef
      rolloutAuthorizationRef := some args.approvalId
      requiredTargets := ingredients.requiredNodeIds
      preflightFingerprint := some args.preflightFingerprint
      preflightEvidenceJson := some args.preflightEvidenceJson
      rolloutStrategyJson := args.strategyJson.getD "\x7b\x7d"
      policySnapshot := configuredSnapshotFor app
      provenance := .rolloutAuthorization
      supersedesGenerationId := app.rolloutGenerationId
      supersededAt := none
      withdrawnAt := none
      operationId := args.envelope.operationId
      actor := args.actor
      trigger := args.envelope.trigger
      createdAt := args.envelope.at_ }
    pure { app.noteLimitation "git_managed_rollout_not_enabled" none with
      rolloutAuthorizationRef := some args.approvalId
      preflightFingerprint := some args.preflightFingerprint
      rolloutGenerationId := some args.rolloutGenerationId }

/-- The authorization a withdrawal marks: the one the pointer names, or the
newest for the accepted source. -/
def rolloutToSupersede (db : Db) (app : Application) : Option RolloutGeneration :=
  let named := (app.rolloutGenerationId.filter fun s => truthy (some s)).bind
    db.getRolloutGeneration
  let latest := (app.acceptedGenerationId.filter fun s => truthy (some s)).bind
    (db.latestRolloutAuthorizationForAcceptedGeneration app.id)
  let target :=
    if named.any fun g => g.provenance = .rolloutAuthorization then named else latest
  target.filter fun g => g.applicationId = app.id

def rolloutSuperseded : Store Unit :=
  mutateApp applicationId envelope fun app => do
    refuseIf (app.lifecycleStatus ≠ .active) (refusal "application is not live")
    let db ← get
    let target ← require (rolloutToSupersede db app)
      (refusal "there is no live rollout generation to supersede")
    markRolloutGenerationSuperseded target.id envelope.at_
    markRolloutGenerationWithdrawn target.id envelope.at_
    insertSupersededHistory ⟨app.id, envelope.operationId, target.id⟩
    pure { app with rolloutAuthorizationRef := none, preflightFingerprint := none }

/-- Supersede the generation the pointer names when an authorization opened it. -/
def supersedeAuthorizedGeneration : Store Unit := do
  let db ← get
  match (app.rolloutGenerationId.filter fun s => truthy (some s)).bind db.getRolloutGeneration with
  | some live =>
    if live.provenance = .rolloutAuthorization then
      recordRolloutGenerationSuperseded app.id live.id envelope
    else pure ()
  | none => pure ()

def invalidateAuthorizationOnPreflightDrift : Store Unit := do
  let app ← requireApp applicationId
  refuseIf (app.targetMode ≠ .blueprint)
    (refusal "preflight drift invalidation is only for Blueprint target mode")
  if !truthy app.rolloutAuthorizationRef ∧ !truthy app.preflightFingerprint then pure ()
  else
    supersedeAuthorizedGeneration app envelope
    writeApplication { app with
      rolloutAuthorizationRef := none
      preflightFingerprint := none
      rolloutGenerationId :=
        if truthy app.rolloutGenerationId then none else app.rolloutGenerationId
      latestOperationId := some envelope.operationId
      updatedAt := envelope.at_ }

/-- Bind a placed target that still lacks its pointers to the frozen revision. -/
def freezeTarget (generationId artifactSetId : String) (t : Target) : Store Unit :=
  if t.desiredGenerationId.isSome ∧ t.expectedArtifactSetId.isSome then pure ()
  else do
    refuseIf (t.desiredGenerationId.any fun g => g ≠ generationId)
      (refusal "target desired generation does not match the frozen generation")
    upsertTarget { t with
      desiredGenerationId := some generationId
      expectedArtifactSetId := t.expectedArtifactSetId.or (some artifactSetId)
      latestArtifactSetId := t.latestArtifactSetId.or (some artifactSetId) }

/-- Mint the frozen generation and bind it to the application and its targets. -/
def freezeRevision (generation : Generation) (artifactSetId : String) (envelope : EventEnvelope) :
    Store Application := do
  refuseIf (generation.applicationId ≠ app.id)
    (refusal "generation does not belong to the application")
  let db ← get
  refuseIf (db.getGeneration generation.id).isSome (refusal "generation already exists")
  refuseIf (db.getArtifactSet artifactSetId).isSome (refusal "artifact set already exists")
  insertGeneration generation
  insertArtifactSet (seedArtifactSet artifactSetId generation.id envelope.at_)
  let db ← get
  let targets := (db.listTargets app.id).filter fun t => t.status = .active
  targets.forM (freezeTarget generation.id artifactSetId)
  pure { app with
    acceptedGenerationId := some generation.id
    artifactSetId := some artifactSetId
    latestArtifactSetId := some artifactSetId }

/-- Whether an Inline revision is already bound. -/
def revisionFrozen : Bool :=
  truthy app.acceptedGenerationId && truthy app.artifactSetId

def inlineRevisionFrozen (generation : Generation) (artifactSetId : String)
    (envelope : EventEnvelope) : Store Unit := do
  let existing ← requireApp applicationId
  refuseIf (existing.targetMode ≠ .inlineBlueprint)
    (refusal "inline freeze requires an inline_blueprint application")
  if revisionFrozen existing then pure ()
  else mutateApp applicationId envelope fun app =>
    if revisionFrozen app then pure app
    else freezeRevision app generation artifactSetId envelope

end Sencho.GitOps

import Sencho.GitOps.Mutation

/-!
# Source transitions

How a source moves: activation, binding to a target mode, fetching, staging and
declining candidates, accepting one, recording artifact evidence, and the
schedules, policies and suspensions around them.
-/

namespace Sencho.GitOps

open Verified Tx

def activateDirect (application : Application) (nodeId : Int) (envelope : EventEnvelope) :
    Store Unit := do
  let db ← get
  refuseIf (db.getLiveDirectApplication (application.stackName.getD "")).isSome
    (refusal "live direct application already exists")
  insertApplication application
  upsertTarget (emptyTargetRow application.id nodeId envelope.at_)

def activateInlineBlueprint (application : Application) : Store Unit := do
  let blueprintId ← require application.blueprintId
    (refusal "an inline blueprint application needs a blueprint id")
  let db ← get
  refuseIf (db.getLiveBlueprintApplication blueprintId).isSome
    (refusal "live blueprint application already exists")
  insertApplication application

/-- The transaction that makes a create-from-Git durable. -/
def activateCreateFromGit (application : Application) (nodeId : Int) (commitSha : String)
    (generation : Generation) (envelope : EventEnvelope) : Store Unit := do
  let db ← get
  refuseIf (db.getLiveDirectApplication (application.stackName.getD "")).isSome
    (refusal "live direct application already exists")
  refuseIf (application.lifecycleStatus ≠ .creating)
    (refusal "create activation requires a creating application")
  refuseIf (generation.applicationId ≠ application.id)
    (refusal "generation does not belong to the application")
  refuseIf (some generation.materializationFingerprint ≠ application.configured.fingerprint)
    (refusal "generation fingerprint does not match the application")
  refuseIf (!generation.validationOk || generation.planBlocked)
    (refusal "create cannot persist an invalid or blocked candidate")
  insertApplication application
  upsertTarget (emptyTargetRow application.id nodeId envelope.at_)
  insertGeneration generation
  writeApplication { application.clearCandidate with
    desiredCommitSha := some commitSha
    fetchedCommitSha := some commitSha
    fetchedResolvedRefKind := generation.resolvedRefKind
    retryCount := 0
    candidateGenerationId := some generation.id
    latestOperationId := some envelope.operationId
    updatedAt := envelope.at_ }
  upsertTarget { emptyTargetRow application.id nodeId envelope.at_ with
    candidateGenerationId := some generation.id }

/-- Retire a target row with its operation, failure and last-known-good. -/
def Target.tombstone (t : Target) : Target :=
  { t.clearActive with status := .tombstoned, failure := .none, lkg := .none }

variable (app : Application) (args : AppliedArgs) (applicationId generationId : String)
  (envelope : EventEnvelope)

/-- Tear down a create that never reached its success boundary. -/
def createFailed (failureClass : String) (envelope : EventEnvelope) : Store Unit := do
  let app ← requireApp applicationId
  refuseIf (app.lifecycleStatus ≠ .creating)
    (refusal "create_failed requires a creating application")
  writeApplication { app.clearActive with
    failure := ⟨some .create, some failureClass, some envelope.at_⟩
    lifecycleStatus := .deleted
    latestOperationId := some envelope.operationId
    updatedAt := envelope.at_ }
  let db ← get
  (db.listTargets app.id).forM fun t =>
    upsertTarget { t.tombstone with updatedAt := envelope.at_ }

/-- What a retarget writes into the binding columns. -/
structure TargetBinding where
  targetMode : TargetMode
  stackName : Option String
  blueprintId : Option Int
  configuredSourceStackName : Option String
  configuredRepoUrl : Option String

def TargetBinding.write (b : TargetBinding) (updatedAt : Int) (app : Application) :
    Application :=
  { app with
    targetMode := b.targetMode
    stackName := b.stackName
    blueprintId := b.blueprintId
    configuredSourceStackName := b.configuredSourceStackName
    configured := { app.configured with repoUrl := b.configuredRepoUrl }
    updatedAt := updatedAt }

@[simp] theorem TargetBinding.write_id (b : TargetBinding) (updatedAt : Int)
    (app : Application) : (b.write updatedAt app).id = app.id := rfl

/-- Move an application to another target mode.  A row already there is left
alone. -/
def commitTargetBinding (expectedMode : TargetMode)
    (next : Application → Except Refusal TargetBinding) (matchesDestination : Application → Bool)
    (assertReady : Db → Application → Except Refusal Unit) (onRetarget : Application → Application)
    : Store Unit := do
  let app ← requireApp applicationId
  if matchesDestination app then pure ()
  else
    refuseIf (app.targetMode ≠ expectedMode)
      (refusal ("current mode must be " ++ expectedMode.name))
    let db ← get
    liftM (assertReady db app)
    let binding ← liftM (next app)
    let changed ← updateApplicationTargetBinding app.id expectedMode
      (binding.write envelope.at_) fun a => binding.write_id envelope.at_ a
    refuseIf (!changed) (refusal "application target binding changed concurrently")
    let updated ← requireApp app.id
    writeApplication (onRetarget updated)

/-- One live Blueprint-mode application may claim a repository, compared on the
canonical identity of the configured URL. -/
def assertRepoClaimFree (canonicalRepoKeyFromUrl : String → Option String) (db : Db)
    (app : Application) : Except Refusal Unit :=
  match canonicalRepoKeyFromUrl (app.configured.repoUrl.getD "") with
  | none => .error (.transition ("this git source has no repository path to identify; " ++
      "set a repository URL on the git source first") (some "live_blueprint_repo"))
  | some key =>
    (db.listLiveBlueprintModeApplications.filter fun other => other.id ≠ app.id).forM fun other =>
        match canonicalRepoKeyFromUrl (other.configured.repoUrl.getD "") with
        | none => .error (.transition ("blueprint " ++
            ((other.blueprintId.map fun b => toString b).getD "null") ++
            " claims a repository that cannot be identified; " ++
            "retire or detach it to continue") (some "live_blueprint_repo"))
        | some otherKey =>
          if otherKey = key then
            .error (.transition "live blueprint application already claims this repo"
              (some "live_blueprint_repo"))
          else .ok ()

def convertDirectToBlueprint (canonicalRepoKeyFromUrl : String → Option String)
    (applicationId : String) (blueprintId : Int) (envelope : EventEnvelope) : Store Unit :=
  commitTargetBinding applicationId envelope .direct (fun app =>
      if !truthy app.stackName then
        .error (refusal "direct application is missing a stack name")
      else if !truthy app.configured.repoUrl then
        .error (refusal "blueprint mode requires a configured repo url")
      else .ok ⟨.blueprint, none, some blueprintId, app.stackName, app.configured.repoUrl⟩)
    (fun app => app.targetMode = .blueprint && app.blueprintId = some blueprintId)
    (fun db app =>
      if (db.getLiveBlueprintApplication blueprintId).any fun live => live.id ≠ app.id then
        .error (.transition "live blueprint application already exists"
          (some "live_blueprint_application"))
      else assertRepoClaimFree canonicalRepoKeyFromUrl db app)
    id

def convertBlueprintToDirect (stackName : String) (envelope : EventEnvelope) : Store Unit :=
  commitTargetBinding applicationId envelope .blueprint
    (fun app => .ok ⟨.direct, some stackName, none, none, app.configured.repoUrl⟩)
    (fun app => app.targetMode = .direct && app.stackName = some stackName)
    (fun db app =>
      if (db.getLiveDirectApplication stackName).any fun live => live.id ≠ app.id then
        .error (refusal "live direct application already exists")
      else .ok ())
    (fun app => if app.pause.at_ = none then app else { app with pause := .none })

def blueprintModeDemoted : Store Unit :=
  commitTargetBinding applicationId envelope .blueprint (fun app =>
      match app.blueprintId with
      | none => .error (refusal "an inline blueprint application needs a blueprint id")
      | some blueprintId => .ok ⟨.inlineBlueprint, none, some blueprintId, none, none⟩)
    (fun app => app.targetMode = .inlineBlueprint)
    (fun _ _ => .ok ())
    (fun app =>
      if app.placementApprovalRef = none ∧ app.rolloutAuthorizationRef = none ∧
          app.rolloutAuthorizationPolicy = .manual ∧
          app.latestPreflightEvidenceJson = none ∧ app.preflightFingerprint = none ∧
          app.pause.at_ = none then app
      else
        { app with
          placementApprovalRef := none
          rolloutAuthorizationRef := none
          rolloutAuthorizationPolicy := .manual
          latestPreflightEvidenceJson := none
          preflightFingerprint := none
          pause := .none })

/-- A fetch outcome names the live fetch or the one a restart interrupted. -/
def requireMatchingFetch : Bool :=
  let live := app.active.stage = some .fetchStarted &&
    (!truthy app.active.operationId || app.active.operationId = some envelope.operationId)
  let interrupted := app.interruption.stage = some .fetchStarted &&
    (!truthy app.interruption.operationId ||
      app.interruption.operationId = some envelope.operationId)
  live || interrupted

def fetched (commitSha : String) (resolvedRefKind : Option RefKind) (envelope : EventEnvelope) :
    Store Unit :=
  mutateApp applicationId envelope fun app => do
    refuseIf (!requireMatchingFetch app envelope) (refusal "no matching fetch operation")
    let app := { app.clearActive with
      desiredCommitSha := some commitSha
      fetchedCommitSha := some commitSha
      fetchedResolvedRefKind := resolvedRefKind
      retryCount := 0 }
    pure ((app.clearFailure [.fetch, .validation]).clearInterruption .fetchStarted)

def fetchStarted (applicationId : String) (envelope : EventEnvelope) : Store Unit :=
  mutateApp applicationId envelope fun app => do
    refuseIf (truthyAt app.suspendedAt) (refusal "source is suspended")
    refuseIf (app.active.stage = some .applyStarted) (refusal "apply is already active")
    refuseIf (app.active.stage.isSome && app.active.operationId ≠ some envelope.operationId)
      (refusal "conflicting active operation")
    let app := { app with
      active := ⟨some envelope.operationId, some .fetchStarted, some envelope.at_, none⟩
      retryAt := none
      nextPollAt := none }
    pure (app.clearInterruption .fetchStarted)

def fetchFailed (code : Option String) (envelope : EventEnvelope) : Store Unit :=
  mutateApp applicationId envelope fun app => do
    refuseIf (!requireMatchingFetch app envelope) (refusal "no matching fetch operation")
    let app := { app.clearActive with
      failure := ⟨some .fetch, some (code.getD "fetch"), some envelope.at_⟩ }
    pure (app.clearInterruption .fetchStarted)

def fetchedInvalid (commitSha : String) (resolvedRefKind : Option RefKind)
    (envelope : EventEnvelope) : Store Unit :=
  mutateApp applicationId envelope fun app => do
    refuseIf (!requireMatchingFetch app envelope) (refusal "no matching fetch operation")
    let app := { app.clearActive with
      desiredCommitSha := some commitSha
      fetchedCommitSha := some commitSha
      fetchedResolvedRefKind := resolvedRefKind
      failure := ⟨some .validation, some "validation", some envelope.at_⟩ }
    pure (app.clearInterruption .fetchStarted)

/-- The candidate cannot be replaced under an apply that is reading it. -/
def replacesCandidateInFlight : Bool :=
  app.active.stage = some .applyStarted && app.candidateGenerationId ≠ some generationId

def sourceConflictBlocker : Store Unit :=
  mutateApp applicationId envelope fun app => do
    let generation ← requireOwnedGeneration app.id generationId
    refuseIf (!generation.planBlocked) (refusal "generation is not blocked")
    refuseIf (replacesCandidateInFlight app generationId)
      (refusal "cannot replace the candidate while an apply is in flight")
    forEachLiveDirectTarget app fun t => { t with candidateGenerationId := some generationId }
    pure { app with
      candidateGenerationId := some generationId
      candidatePlanBlocked := true
      reviewBlockReason := none }

def dismissed : Store Unit :=
  mutateApp applicationId envelope fun app => do
    refuseIf (!truthy app.candidateGenerationId) (refusal "no candidate to dismiss")
    refuseIf app.active.stage.isSome (refusal "cannot dismiss while an operation is in flight")
    forEachLiveDirectTarget app fun t => { t with candidateGenerationId := none }
    pure app.clearCandidate

def configChangedPendingCleared (configured : SourceConfiguration) (envelope : EventEnvelope) :
    Store Unit :=
  mutateApp applicationId envelope fun app => do
    refuseIf (app.targetMode ≠ .direct)
      (refusal "material configuration applies to Direct applications only")
    refuseIf app.active.stage.isSome
      (refusal "cannot change material configuration while an operation is in flight")
    forEachLiveDirectTarget app fun t => { t with candidateGenerationId := none }
    pure ({ app.clearCandidate with
      configured := configured
      desiredCommitSha := none
      fetchedCommitSha := none
      fetchedResolvedRefKind := none }.clearFailure [.fetch, .validation])

def candidateReady (reviewRequired : Bool) (envelope : EventEnvelope) : Store Unit :=
  mutateApp applicationId envelope fun app => do
    let generation ← requireOwnedGeneration app.id generationId
    refuseIf (!generation.validationOk || generation.planBlocked)
      (refusal "generation is not a valid candidate")
    refuseIf (some generation.materializationFingerprint ≠ app.configured.fingerprint)
      (refusal "generation fingerprint does not match current configuration")
    refuseIf (replacesCandidateInFlight app generationId)
      (refusal "cannot replace the candidate while an apply is in flight")
    forEachLiveDirectTarget app fun t => { t with candidateGenerationId := some generationId }
    pure ({ app with
      candidateGenerationId := some generationId
      candidatePlanBlocked := false
      reviewRequired := reviewRequired
      reviewBlockReason := none }.clearFailure [.validation])

def sourceReviewBlocked (reason : SourceReviewBlockReason) (envelope : EventEnvelope) :
    Store Unit :=
  mutateApp applicationId envelope fun app => do
    refuseIf (app.candidateGenerationId ≠ some generationId)
      (refusal "blocked generation is not the current candidate")
    refuseIf app.candidatePlanBlocked
      (refusal "candidate is blocked by its plan, not by acceptance")
    refuseIf (app.active.stage = some .applyStarted)
      (refusal "cannot hold acceptance while an apply is in flight")
    pure { app with reviewRequired := true, reviewBlockReason := some reason }

def applyStarted (applicationId generationId : String) (envelope : EventEnvelope) : Store Unit :=
  mutateApp applicationId envelope fun app => do
    refuseIf (truthyAt app.suspendedAt) (refusal "source is suspended")
    refuseIf (app.candidateGenerationId ≠ some generationId)
      (refusal "apply generation is not the current candidate")
    refuseIf app.candidatePlanBlocked (refusal "candidate is blocked")
    let generation ← requireOwnedGeneration app.id generationId
    refuseIf (some generation.materializationFingerprint ≠ app.configured.fingerprint)
      (refusal "generation fingerprint does not match current configuration")
    refuseIf (app.active.stage.isSome && app.active.operationId ≠ some envelope.operationId)
      (refusal "conflicting active operation")
    let app := { app with
      active := ⟨some envelope.operationId, some .applyStarted, some envelope.at_,
        some generationId⟩ }
    pure (app.clearInterruption .applyStarted)

def applyFailed (failureClass : String) (envelope : EventEnvelope) : Store Unit :=
  mutateApp applicationId envelope fun app => do
    refuseIf (app.active.stage ≠ some .applyStarted && app.interruption.stage ≠ some .applyStarted)
      (refusal "no matching apply operation")
    let app := { app.clearActive with
      failure := ⟨some .apply, some failureClass, some envelope.at_⟩ }
    pure (app.clearInterruption .applyStarted)

/-- The guards of accepting a candidate. -/
def requireAcceptableCandidate : Store Unit := do
  refuseIf (app.candidateGenerationId ≠ some args.generationId)
    (refusal "applied generation is not the current candidate")
  refuseIf app.candidatePlanBlocked (refusal "candidate is blocked")
  refuseIf (args.authority = .configuredPolicy && app.sourcePolicy ≠ .automatic)
    (refusal "source policy is no longer automatic")
  refuseIf (app.acceptedGenerationId = some args.generationId)
    (refusal "generation is already accepted")
  let _ ← requireOwnedGeneration app.id args.generationId
  refuseIf (app.active.stage = some .applyStarted &&
      app.active.generationId ≠ some args.generationId)
    (refusal "live apply is bound to a different generation")
  refuseIf (app.active.stage = some .applyStarted && truthy app.active.operationId &&
      app.active.operationId ≠ some args.envelope.operationId)
    (refusal "live apply belongs to a different operation")

/-- The live targets an acceptance has to bind, with their candidates checked. -/
def acceptanceTargets : Store (List Target) := do
  requireAcceptableCandidate app args
  let db ← get
  let targets := (db.listTargets app.id).filter fun t => t.status = .active
  refuseIf (app.targetMode = .direct &&
      targets.any fun t => t.candidateGenerationId ≠ some args.generationId)
    (refusal "direct target candidate does not match applied generation")
  pure targets

/-- The seed artifact row of an acceptance. -/
def seedArtifactSet (id generationId : String) (createdAt : Int) : ArtifactSet :=
  ⟨id, generationId, 1, false, .unresolved, ⟨.unresolved, ""⟩, createdAt⟩

/-- Seed the unresolved artifact row and the acceptance this apply proves. -/
def insertAcceptanceRecords : Store Unit := do
  insertArtifactSet (seedArtifactSet args.artifactSetId args.generationId args.envelope.at_)
  insertApproval {
    id := args.sourceAcceptanceId
    kind := .sourceAcceptance
    authority := args.authority.approval
    authoritative := true
    applicationId := app.id
    generationId := some args.generationId
    intentRevisionId := none
    artifactSetId := none
    rolloutCandidateId := none
    rolloutGenerationId := none
    sourceAcceptanceRef := none
    placementApprovalRef := args.confirmation.bind SourceConfirmation.placementApprovalRef
    requiredTargets := none
    preflightFingerprint := none
    fingerprint := none
    blast := none
    policyProvenance := none
    sourceConfirmation := args.confirmation
    actor := args.envelope.actor
    createdAt := args.envelope.at_ }

/-- The application row an acceptance leaves. -/
def acceptedApplication : Application :=
  let app := (app.noteLimitation "git_managed_artifact_unmodellable" none).clearCandidate
  let app := { app.clearActive with
    acceptedGenerationId := some args.generationId
    artifactSetId := some args.artifactSetId
    latestArtifactSetId := some args.artifactSetId
    sourceAcceptanceRef := some args.sourceAcceptanceId
    lifecycleStatus :=
      if args.activateCreating && app.lifecycleStatus = LifecycleStatus.creating then
        LifecycleStatus.active
      else app.lifecycleStatus }
  (app.clearFailure [.apply, .fetch, .validation]).clearInterruption .applyStarted

def applySourceAcceptanceMutation : Store Application := do
  insertAcceptanceRecords app args
  pure (acceptedApplication app args)

/-- A new generation or artifact identity cannot reuse the prior rollout
authorization.  A system pause goes with the rollout it held, unless a roll back
is unfinished. -/
def invalidateAuthorizationOnSourceChange :
    Store Application := do
  let db ← get
  let rollbackPending := app.targetMode = .blueprint && (db.listTargets app.id).any fun t =>
      t.status = .active && t.healthStopReason = some .rollbackPending
  let app :=
    if app.pause.at_.isSome && app.pause.origin = .system && !rollbackPending then
      { app with pause := .none }
    else app
  if app.targetMode = .blueprint then
    let app := { app with rolloutAuthorizationRef := none, preflightFingerprint := none }
    match (app.rolloutGenerationId.filter fun s => truthy (some s)).bind
        db.getRolloutGeneration with
    | some live =>
      if live.provenance = .rolloutAuthorization then
        recordRolloutGenerationSuperseded app.id live.id envelope
        pure { app with rolloutGenerationId := none }
      else pure app
    | none => pure app
  else pure app

/-- Move the current rollout candidate onto the generation just accepted. -/
def rebindRolloutCandidateOnAcceptance (acceptedGenerationId : String) :
    Store Unit := do
  let db ← get
  match (app.rolloutCandidateId.filter fun s => truthy (some s)).bind db.getRolloutCandidate with
  | none => pure ()
  | some candidate =>
    if app.targetMode = .blueprint ∧ candidate.applicationId = app.id ∧
        some candidate.intentRevisionId = app.intentRevisionId then
      rebindRolloutCandidateSource app.id candidate.id acceptedGenerationId
    else pure ()

/-- The target row a Direct acceptance leaves. -/
def Target.applyAcceptance (t : Target) (args : AppliedArgs) : Target :=
  { t with
    desiredGenerationId := some args.generationId
    appliedGenerationId := some args.generationId
    expectedArtifactSetId := some args.artifactSetId
    latestArtifactSetId := some args.artifactSetId
    sourceAcceptanceRef := some args.sourceAcceptanceId
    candidateGenerationId := none }

def applied : Store Unit :=
  mutateApp args.applicationId args.envelope fun app => do
    let targets ← acceptanceTargets app args
    let app ← invalidateAuthorizationOnSourceChange app args.envelope
    let app ← applySourceAcceptanceMutation app args
    rebindRolloutCandidateOnAcceptance app args.generationId
    targets.forM fun t =>
      upsertTarget (if app.targetMode = .direct then t.applyAcceptance args else t)
    pure app

/-- Which reviewed fact no longer matches the row. -/
inductive ConfirmationDrift where
  | placementChanged
  | rolloutAuthorizationWidened

def sourceConfirmationDrift (c : SourceConfirmation) : Option ConfirmationDrift :=
  if app.placementApprovalRef ≠ c.placementApprovalRef then some .placementChanged
  else if !c.rolloutMayStart ∧ app.rolloutAuthorizationPolicy = .automatic then
    some .rolloutAuthorizationWidened
  else none

def driftSentence : ConfirmationDrift → String
  | .placementChanged => "The approved placement changed since you reviewed it; " ++
      "review the current approval and confirm again."
  | .rolloutAuthorizationWidened => "Rollout authorization now authorizes without an " ++
      "operator, so this could start a rollout; review it and confirm again."

/-- A confirmation that no longer describes the row refuses the acceptance. -/
def requireCurrentConfirmation (confirmation : Option SourceConfirmation) : Store Unit :=
  match confirmation.bind (sourceConfirmationDrift app) with
  | some drift => throw (.transition (driftSentence drift) (some "CONFIRMATION_STALE"))
  | none => pure ()

def sourceAccepted : Store Unit :=
  mutateApp args.applicationId args.envelope fun app => do
    refuseIf (truthyAt app.suspendedAt) (refusal "source is suspended")
    requireAcceptableCandidate app args
    requireCurrentConfirmation app args.confirmation
    let app ← invalidateAuthorizationOnSourceChange app args.envelope
    let app ← applySourceAcceptanceMutation app args
    rebindRolloutCandidateOnAcceptance app args.generationId
    pure app

def targetApplied (nodeId : Int) (args : AppliedArgs) : Store Unit := do
  let app ← requireApp args.applicationId
  refuseIf (app.targetMode ≠ .direct) (refusal "target application is not direct")
  refuseIf (app.acceptedGenerationId ≠ some args.generationId)
    (refusal "generation is not accepted")
  refuseIf (app.sourceAcceptanceRef ≠ some args.sourceAcceptanceId)
    (refusal "source acceptance reference does not match the accepted generation")
  mutateTarget args.applicationId nodeId args.envelope .targetApplied (fun t _ => do
    refuseIf (t.status ≠ .active) (refusal "cannot apply to a tombstoned target")
    refuseIf (t.candidateGenerationId ≠ some args.generationId)
      (refusal "target candidate does not match applied generation")
    pure (t.applyAcceptance args, ())) false

/-- An expectation that is already resolved never advances on its own. -/
def allowedExpectedAdvance (db : Db) (loadedExpectedId : Option String)
    (qualification : ArtifactQualification) : Bool :=
  (qualification = .exact || qualification = .qualified) &&
    match (loadedExpectedId.filter fun s => truthy (some s)).bind db.getArtifactSet with
    | none => true
    | some loaded => loaded.qualification ≠ .exact && loaded.qualification ≠ .qualified

def recordArtifactEvidence (artifactSetId : String) (evidenceVersion : Nat)
    (qualification : ArtifactQualification) (evidence : ArtifactEvidence) (authoritative : Bool)
    (envelope : EventEnvelope) : Store Unit :=
  mutateApp applicationId envelope fun app => do
    refuseIf authoritative
      (refusal "artifact rows must be non-authoritative until qualification is accepted")
    let generation ← requireOwnedGeneration app.id generationId
    refuseIf (evidence.kind ≠ qualification) (refusal "qualification must match evidence_json.kind")
    let db ← get
    refuseIf (evidenceVersion ≠ db.maxEvidenceVersion generationId + 1)
      (refusal "evidenceVersion must be max+1")
    insertArtifactSet ⟨artifactSetId, generation.id, evidenceVersion, false, qualification,
      evidence, envelope.at_⟩
    let db ← get
    let targets := (db.listTargets app.id).filter fun t =>
      t.status = .active && t.desiredGenerationId = some generationId
    targets.forM fun t => upsertTarget { t with
      latestArtifactSetId := some artifactSetId
      expectedArtifactSetId :=
        if allowedExpectedAdvance db t.expectedArtifactSetId qualification then
          some artifactSetId
        else t.expectedArtifactSetId }
    pure (if app.acceptedGenerationId = some generationId then
      { app with
        latestArtifactSetId := some artifactSetId
        artifactSetId :=
          if allowedExpectedAdvance db app.artifactSetId qualification then
            some artifactSetId
          else app.artifactSetId }
      else app)

/-- A changed expectation withdraws the authorization that named the old one. -/
def invalidateOnExpectationChange (artifactSetId : String) (envelope : EventEnvelope) :
    Store Application :=
  if app.artifactSetId ≠ some artifactSetId then
    invalidateAuthorizationOnSourceChange app envelope
  else pure app

def acceptArtifactExpectation (artifactSetId : String) (envelope : EventEnvelope) : Store Unit :=
  mutateApp applicationId envelope fun app => do
    let db ← get
    let artifact ← require
      ((db.getArtifactSet artifactSetId).filter fun a => a.generationId = generationId)
      (refusal "artifact set is not owned by the generation")
    refuseIf (artifact.qualification ≠ .exact && artifact.qualification ≠ .qualified)
      (refusal "only exact or qualified evidence can be accepted")
    refuseIf (app.acceptedGenerationId ≠ some generationId)
      (refusal "application accepted generation does not match")
    let app ← invalidateOnExpectationChange app artifactSetId envelope
    let db ← get
    let targets := (liveDirectTargets db app).filter fun t =>
      t.desiredGenerationId = some generationId
    targets.forM fun t => upsertTarget { t with expectedArtifactSetId := some artifactSetId }
    pure { app with artifactSetId := some artifactSetId }

def sourceRetryScheduled (retryAt : Int) (retryCount : Nat) (envelope : EventEnvelope) :
    Store Unit :=
  mutateApp applicationId envelope fun app => do
    refuseIf (truthyAt app.suspendedAt) (refusal "source is suspended")
    refuseIf app.active.stage.isSome
      (refusal "cannot schedule a retry while an operation is in flight")
    pure { app with retryAt := some retryAt, retryCount := retryCount }

def sourcePollScheduled (nextPollAt : Int) (envelope : EventEnvelope) : Store Unit :=
  mutateApp applicationId envelope fun app => do
    refuseIf (truthyAt app.suspendedAt) (refusal "source is suspended")
    refuseIf app.active.stage.isSome
      (refusal "cannot schedule a poll while an operation is in flight")
    pure { app with nextPollAt := some nextPollAt }

def sourcePolicyChanged (sourcePolicy : SourcePolicy) (envelope : EventEnvelope) : Store Unit :=
  mutateApp applicationId envelope fun app => do
    refuseIf app.active.stage.isSome
      (refusal "cannot change the source policy while an operation is in flight")
    pure { app with
      sourcePolicy := sourcePolicy
      reviewBlockReason :=
        if sourcePolicy ≠ .automatic then none else app.reviewBlockReason
      nextPollAt := if sourcePolicy = .manual then none else app.nextPollAt
      retryAt := if sourcePolicy = .manual then none else app.retryAt }

def sourceUnsuspended : Store Unit :=
  mutateApp applicationId envelope fun app => do
    refuseIf (!truthyAt app.suspendedAt) (refusal "source is not suspended")
    pure { app with suspendedAt := none, sourceSuspendedReason := none }

/-- The two ways an application is retired. -/
inductive Retirement where
  | deleted
  | detached

def Retirement.status : Retirement → LifecycleStatus
  | .deleted => .deleted
  | .detached => .detached

def applicationTombstoned (retirement : Retirement) (envelope : EventEnvelope) : Store Unit :=
  mutateApp applicationId envelope fun app => do
    refuseIf (app.lifecycleStatus = .deleted || app.lifecycleStatus = .detached)
      (refusal "application is already tombstoned")
    pure { app.clearActive with lifecycleStatus := retirement.status, failure := .none }

/-! ## Bare attempts

A reservation, a settlement and a deploy or promotion witness append to history
and change no row; they still refuse an application that is not there. -/

def recordAttempt : Store Unit := do
  let _ ← requireApp applicationId
  pure ()

def allocateReconcileAttempt : Store String := do
  let app ← requireApp applicationId
  updateAttemptSeq applicationId (app.attemptSeq + 1)
  pure (applicationId ++ ":attempt:" ++ toString (app.attemptSeq + 1))

def recordPreflightEvaluation (evidenceJson : String) (at_ : Int) : Store Unit := do
  let app ← requireApp applicationId
  if app.targetMode = .inlineBlueprint then pure ()
  else writeApplication { app with
    latestPreflightEvidenceJson := some evidenceJson
    updatedAt := at_ }

def placementPolicyRefused (reason : String) (at_ : Int) : Store Unit := do
  let app ← requireApp applicationId
  writeApplication { app with
    placementPolicyRefusalReason := some reason
    placementPolicyRefusedAt := some at_ }

/-- Record or clear one evidence limitation of an application. -/
def setApplicationLimitation (code applicationId : String) (detail : Option String)
    (at_ : Int) : Store Unit := do
  let app ← requireApp applicationId
  writeApplication { app.noteLimitation code detail with updatedAt := at_ }

def setRegistryPreflightBlockedLimitation : String → Option String → Int → Store Unit :=
  setApplicationLimitation "registry_preflight_blocked"

def setGitManagedArtifactLimitation : String → Option String → Int → Store Unit :=
  setApplicationLimitation "git_managed_artifact_unmodellable"

end Sencho.GitOps

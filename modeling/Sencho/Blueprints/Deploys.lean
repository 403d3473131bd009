import Sencho.Blueprints.Authority

/-!
# Deploys and repairs on one node

The blueprint service moves the row of a node through a deploy, a withdrawal or a repair.  What
it meets on the way (the lock, the probe of the name, the answer of the node, the binding of the
target) is given as an answer; what it writes and returns is a function of the answers.
-/

namespace Sencho.Blueprints

open Verified CodeUnits BlueprintDeployment

inductive DriftCause where
  | revision
  | container
  | digest
  deriving DecidableEq

inductive RuntimeRepairHoldReason where
  | evidenceIncomplete
  | rolloutSuperseded
  | notARequiredTarget
  | authorityUnreadable
  | bindingIncoherent
  | targetEvidenceStale
  | targetInterrupted
  | recoveryBound
  | classificationForbidsRepair

structure RepairBlock where
  reason : RuntimeRepairHoldReason
  detail : Text

inductive DriftCheckResult where
  | matched
  | drifted (reason : Text) (cause : DriftCause) (repairBlock : Option RepairBlock)
  | unverified (reason : Text) (repairBlock : Option RepairBlock)

/-- What a tick does that is seen from outside the row. -/
inductive Event where
  | checked (nodeId : Int) (result : DriftCheckResult)
  | deployToNode (nodeId : Int)
  | reapply (nodeId : Int) (pinned : Bool)
  | alert (nodeId : Int) (message : Text)

/-- The rows, and what was done so far, the latest first. -/
structure Ledger where
  deployments : Deployments
  trace : List Event

namespace Ledger

variable (l : Ledger)

def getDeployment (nodeId : Int) : Option BlueprintDeployment := l.deployments.find? nodeId

def record (event : Event) : Ledger := { l with trace := event :: l.trace }

def blankDeployment (nodeId : Int) : BlueprintDeployment :=
  ⟨nodeId, .pending, none, none, none, none⟩

/-- Write the row of a node, inserting it when there is none. -/
def upsert (nodeId : Int) (change : BlueprintDeployment → BlueprintDeployment) : Ledger :=
  let row := (l.getDeployment nodeId).getD (blankDeployment nodeId)
  { l with deployments := l.deployments.put { change row with nodeId := nodeId } }

def setStatus (nodeId : Int) (status : DeploymentStatus) : Ledger :=
  l.upsert nodeId fun d => { d with status := status }

def deleteDeployment (nodeId : Int) : Ledger :=
  { l with deployments := l.deployments.delete fun d => d.nodeId = nodeId }

end Ledger

inductive OutcomeStatus where
  | active
  | pending
  | nameConflict
  | failed
  | repairHeld
  | withdrawn
  deriving DecidableEq

structure DeployOutcome where
  status : OutcomeStatus
  error : Option Text
  holdReason : Option RuntimeRepairHoldReason

def refused (message : Text) : DeployOutcome := ⟨.failed, some message, none⟩

inductive ApplyError where
  | nameConflict (message : Text)
  | other (message : Text)

/-- What a deploy meets: whether the lock is free, the probe of the name, the apply on the node
and the freeze of what was deployed. -/
structure DeployAnswers where
  lockFree : Bool
  hasNameConflict : Except Text Bool
  apply : Except ApplyError Unit
  freeze : Except Text Unit
  now : Int

section Deploy

variable (blueprint : Blueprint) (nodeId : Int) (a : DeployAnswers) (l : Ledger)

def deployFailed (message : Text) (l : Ledger) : Ledger × DeployOutcome :=
  (l.upsert nodeId fun d => { d with status := .failed, lastError := some message },
    refused message)

def deployConflicts (message : Text) (l : Ledger) : Ledger × DeployOutcome :=
  (l.upsert nodeId fun d => { d with status := .nameConflict, lastError := some message },
    ⟨.nameConflict, some (text "name_conflict"), none⟩)

def deployAcknowledged (l : Ledger) : Ledger :=
  l.upsert nodeId fun d =>
    { d with
      status := .active
      appliedRevision := some blueprint.revision
      lastDeployedAt := some a.now
      driftSummary := none
      lastError := none }

/-- A deploy that holds the lock. -/
def deployUnderLock : Ledger × DeployOutcome :=
  let l := l.setStatus nodeId .deploying
  match a.hasNameConflict with
  | .error message => deployFailed nodeId message l
  | .ok true =>
    deployConflicts nodeId (text "A stack named \"" ++ blueprint.name ++
      text "\" already exists on this node and is not managed by Sencho.") l
  | .ok false =>
    match a.apply with
    | .error (.nameConflict message) => deployConflicts nodeId message l
    | .error (.other message) => deployFailed nodeId message l
    | .ok () =>
      let l := deployAcknowledged blueprint nodeId a l
      match a.freeze with
      | .error message => deployFailed nodeId message l
      | .ok () => (l, ⟨.active, none, none⟩)

/-- A deploy of authorized content that takes the lock itself. -/
def deployAuthorizedMaterialization : Ledger × DeployOutcome :=
  if !a.lockFree then (l, ⟨.pending, none, none⟩) else deployUnderLock blueprint nodeId a l

/-- A deploy of the content of the row. -/
def deployToNode : Ledger × DeployOutcome :=
  let l := l.record (.deployToNode nodeId)
  if !a.lockFree then (l, ⟨.pending, none, none⟩) else deployUnderLock blueprint nodeId a l

end Deploy

/-- What a repair reads of the store: a recordable application, and the binding of the target. -/
structure BindingAnswers where
  recordable : Bool
  binding : Except RuntimeRepairHoldReason Unit

/-- What a digest repair meets: the binding, the platform of the node, the pins, the binding
again, the content, and the deploy. -/
structure RepairAnswers where
  first : BindingAnswers
  platform : Except Text Unit
  pins : Bool
  again : BindingAnswers
  content : Except Text Unit
  deploy : DeployAnswers

def describeRuntimeRepairHold : RuntimeRepairHoldReason → Text
  | .evidenceIncomplete => text "no acknowledged generation to restore"
  | .rolloutSuperseded =>
    text "the rollout for this target was superseded, so the rollout replacing it owns it"
  | .notARequiredTarget =>
    text "this node is not in the frozen target set of the rollout it is bound to"
  | .authorityUnreadable =>
    text "the generation or artifact set this target acknowledged could not be read"
  | .bindingIncoherent => text <|
      "the rollout and the target acknowledgements disagree, " ++
        "so neither can be trusted as current"
  | .targetEvidenceStale => text <|
      "this node is unreachable or its connectivity evidence is stale, " ++
        "so Sencho cannot write to it safely"
  | .targetInterrupted => text <|
      "an earlier change to this target was interrupted, so what is running is not known"
  | .recoveryBound =>
    text "a recovery or rollback owns this target, so an auto-fix would race it"
  | .classificationForbidsRepair => text <|
      "this Blueprint is stateful or cannot be classified, " ++
        "so auto-fix is declined to avoid touching data Sencho cannot prove is safe"

def heldRepair (reason : RuntimeRepairHoldReason) : DeployOutcome :=
  ⟨.repairHeld, some (describeRuntimeRepairHold reason), some reason⟩

section Repair

variable (blueprint : Blueprint) (nodeId : Int) (a : RepairAnswers) (l : Ledger)

/-- Deploy again what the target acknowledged, under digest pins or without. -/
def reapplyAuthorizedMaterialization (digestPins : Bool) : Ledger × DeployOutcome :=
  let l := l.record (.reapply nodeId digestPins)
  if !a.again.recordable then
    (l, refused (text "no recordable GitOps application for authorized reapply"))
  else
    match a.again.binding with
    | .error reason => (l, heldRepair reason)
    | .ok () =>
      match a.content with
      | .error message => (l, refused message)
      | .ok () => deployAuthorizedMaterialization blueprint nodeId a.deploy l

/-- Restore the acknowledged digests.  An error is a throw, before anything is written. -/
def enforceDigestRepair : Ledger × Except Text DeployOutcome :=
  if !a.first.recordable then
    (l, .ok (refused (text "no recordable GitOps application for digest repair")))
  else
    match a.first.binding with
    | .error reason => (l, .ok (heldRepair reason))
    | .ok () =>
      match a.platform with
      | .error message => (l, .error message)
      | .ok () =>
        if !a.pins then
          (l, .ok (refused (text "approved digest unavailable for digest repair")))
        else
          let repaired := reapplyAuthorizedMaterialization blueprint nodeId a l true
          (repaired.1, .ok repaired.2)

end Repair

inductive WithdrawAnswer where
  | withdrawn
  | nameConflict (message : Text)
  | failed (message : Text)
  | throws (message : Text)

/-- What one node answers during a tick. -/
structure NodeAnswers where
  check : DriftCheckResult
  markerMissing : Bool
  repair : RepairAnswers
  deploy : DeployAnswers
  withdrawLockFree : Bool
  withdraw : WithdrawAnswer
  retired : Bool

section Drift

variable (blueprint : Blueprint) (nodeId : Int) (a : NodeAnswers) (l : Ledger)

def classificationName : Classification → Text
  | .stateless => text "stateless"
  | .stateful => text "stateful"
  | .unknown => text "unknown"

/-- Why the classification forbids a repair, when it does. -/
def repairHeldByClassification : Option Text :=
  if !needsReview blueprint then none
  else if a.markerMissing then
    some (text "this Blueprint lost its marker and is " ++ classificationName blueprint.classification
      ++ text ", so auto-fix was declined to avoid stomping unowned data")
  else
    some (text "this Blueprint is " ++ classificationName blueprint.classification ++
      text ", so auto-fix is declined to avoid touching data Sencho cannot prove is safe")

def effectiveRepairBlock (evidenceBlock : Option RepairBlock) : Option RepairBlock :=
  evidenceBlock.or ((repairHeldByClassification blueprint a).map fun detail =>
    ⟨.classificationForbidsRepair, detail⟩)

/-- Record a declined repair, once for one reason. -/
def recordRepairHold (block : RepairBlock) : Ledger :=
  if (l.getDeployment nodeId).any fun d =>
      d.status = .repairHeld && d.driftSummary = some block.detail then l
  else
    (l.upsert nodeId fun d =>
      { d with status := .repairHeld, driftSummary := some block.detail }).record
      (.alert nodeId block.detail)

/-- A row whose drift a check no longer finds is active again. -/
def clearSettledDriftState : Ledger :=
  if (l.getDeployment nodeId).any fun d => d.status = .drifted || d.status = .repairHeld then
    l.upsert nodeId fun d => { d with status := .active, driftSummary := none, lastError := none }
  else l

/-- One method for one cause.  An error is a throw. -/
def runDriftRepair (cause : DriftCause) : Ledger × Except Text DeployOutcome :=
  if cause = .digest then enforceDigestRepair blueprint nodeId a.repair l
  else if isGitManagedBlueprint blueprint then
    let repaired := reapplyAuthorizedMaterialization blueprint nodeId a.repair l false
    (repaired.1, .ok repaired.2)
  else
    let deployed := deployToNode blueprint nodeId a.deploy l
    (deployed.1, .ok deployed.2)

def unknownError : Text := text "unknown error"

/-- Settle a repair that is not done: a row it left correcting is drifted again.  The message is
what the operator has not been told. -/
def settleRefusedDriftRepair (outcome : DeployOutcome) (before : Option BlueprintDeployment)
    (deferred : Bool) : Ledger × Option Text :=
  let row := l.getDeployment nodeId
  let stranded := row.any fun d => d.status = .correcting
  let message :=
    if stranded then outcome.error.getD unknownError
    else ((row.bind lastError).or outcome.error).getD unknownError
  let settled :=
    if stranded then
      l.upsert nodeId fun d =>
        { d with status := .drifted, lastError := if deferred then d.lastError else some message }
    else l
  let nowStatus := if stranded then some .drifted else row.map status
  let nowError :=
    if stranded && !deferred then some message else row.bind lastError
  if deferred || nowStatus = some .active then (settled, none)
  else if nowStatus ≠ before.map status ||
      nowError ≠ before.bind lastError then (settled, some message)
  else (settled, none)

/-- What a repair answered, settled on the row. -/
def settleRepair (before : Option BlueprintDeployment)
    (repaired : Ledger × Except Text DeployOutcome) : Ledger :=
  let result := match repaired.2 with
    | .ok outcome => outcome
    | .error message => refused message
  match result.status with
  | .repairHeld =>
    recordRepairHold nodeId repaired.1
      ⟨result.holdReason.getD .evidenceIncomplete,
        result.error.getD (text "the repair authority could not be resolved")⟩
  | .active => repaired.1
  | _ =>
    let settled := settleRefusedDriftRepair nodeId repaired.1 result before
      (result.status = .pending)
    match settled.2 with
    | none => settled.1
    | some message => settled.1.record (.alert nodeId message)

def handleDrift (reason : Text) (cause : DriftCause) (isNewEpisode : Bool) : Ledger :=
  match blueprint.driftMode with
  | .observe => l
  | .suggest => if isNewEpisode then l.record (.alert nodeId reason) else l
  | .enforce =>
    match repairHeldByClassification blueprint a with
    | some detail => recordRepairHold nodeId l ⟨.classificationForbidsRepair, detail⟩
    | none =>
      let before := l.getDeployment nodeId
      settleRepair nodeId before
        (runDriftRepair blueprint nodeId a (l.setStatus nodeId .correcting) cause)

/-- A check of the drift of one node. -/
def checkDrift : Ledger :=
  let l := l.record (.checked nodeId a.check)
  match a.check with
  | .matched => clearSettledDriftState nodeId l
  | .unverified _ repairBlock =>
    match repairBlock with
    | some block => if blueprint.driftMode = .enforce then recordRepairHold nodeId l block else l
    | none => l
  | .drifted reason cause repairBlock =>
    let block :=
      if blueprint.driftMode = .enforce then effectiveRepairBlock blueprint a repairBlock
      else none
    match block with
    | some block => recordRepairHold nodeId l block
    | none =>
      let inEpisode := (l.getDeployment nodeId).any fun d =>
        d.status = .drifted || d.status = .repairHeld
      handleDrift blueprint nodeId a
        (l.upsert nodeId fun d => { d with status := .drifted, driftSummary := some reason })
        reason cause (!inEpisode)

end Drift

section Execute

variable (blueprint : Blueprint) (nodeId : Int) (a : NodeAnswers) (l : Ledger)

def withdrawFromNode : Ledger :=
  if !a.withdrawLockFree then l
  else
    let l := l.setStatus nodeId .withdrawing
    match a.withdraw with
    | .withdrawn => l.deleteDeployment nodeId
    | .nameConflict message =>
      l.upsert nodeId fun d => { d with status := .nameConflict, lastError := some message }
    | .failed message =>
      l.upsert nodeId fun d => { d with status := .failed, lastError := some message }
    | .throws message => l.upsert nodeId fun d =>
      { d with status := .failed, lastError := some (text "withdraw failed: " ++ message) }

def applyClearReversedEvict : Ledger :=
  match l.getDeployment nodeId with
  | none => l
  | some dep =>
    if dep.status ≠ .evictBlocked then l
    else if dep.lastDeployedAt.isNone then l.deleteDeployment nodeId
    else
      l.upsert nodeId fun d =>
        { d with status := .active, driftSummary := none, lastError := none }

def applyClearStaleGuard : Ledger :=
  match l.getDeployment nodeId with
  | none => l
  | some dep =>
    if dep.status ≠ .pendingStateReview || dep.lastDeployedAt.isSome then l
    else if !a.retired then l
    else l.deleteDeployment nodeId

def executeOneAction (action : PreviewAction) : Ledger :=
  match action with
  | .awaitStateReview =>
    let summary :=
      if (l.getDeployment nodeId).isSome then
        text "Stateful blueprint revision change awaits operator confirmation"
      else text "Stateful blueprint awaiting operator confirmation before first deploy"
    l.upsert nodeId fun d =>
      { d with status := .pendingStateReview, driftSummary := some summary }
  | .awaitEvictConfirm =>
    l.upsert nodeId fun d =>
      { d with
        status := .evictBlocked
        driftSummary := some (text "Stateful blueprint eviction requires operator confirmation") }
  | .clearReversedEvict => applyClearReversedEvict nodeId l
  | .clearStaleGuard => applyClearStaleGuard nodeId a l
  | .create | .update => (deployToNode blueprint nodeId a.deploy l).1
  | .remove => withdrawFromNode nodeId a l
  | .checkObserve | .checkEnforce => checkDrift blueprint nodeId a l
  | _ => l

end Execute

end Sencho.Blueprints

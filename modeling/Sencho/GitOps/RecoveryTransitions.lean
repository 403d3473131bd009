import Sencho.GitOps.TargetTransitions

/-!
# Recovery transitions

A restore on one target, opened by a rollout rollback or by a stack recovery,
and every way it can end: completed, failed, refused, or cut off by a restart.
-/

namespace Sencho.GitOps

open Verified

/-- The recovery slot of a restore that is being opened. -/
def TargetRecovery.opened (r : TargetRecovery) (recoveryRef : String)
    (recoveryGenerationId : Option String) : TargetRecovery :=
  { r with
    phase := some .restoring
    ref := some recoveryRef
    generationId := recoveryGenerationId }

variable (app : Application) (applicationId : String) (t : Target) (db : Db)

def openApplicationRecovery (recoveryRef : String) (envelope : EventEnvelope) : Store Unit :=
  withApplication applicationId envelope fun _ app =>
    { app with recovery := ⟨some recoveryRef, some .restoring⟩ }

/-- The marker a restore writes for itself. -/
def TargetOperation.restoreMarker (o : TargetOperation) (recoveryGenerationId : Option String)
    (envelope : EventEnvelope) : TargetOperation :=
  { o with
    operationId := some envelope.operationId
    stage := some .recoveryStarted
    at_ := some envelope.at_
    generationId := recoveryGenerationId }

/-- A rollout-scoped rollback started, on the application or on one target. -/
def rollbackInProgress (applicationId : String) (nodeId : Option Int) (recoveryRef : String)
    (recoveryGenerationId : Option String) (envelope : EventEnvelope) : Store Unit :=
  match nodeId with
  | none =>
    mutateApp applicationId envelope fun app => do
      Tx.refuseIf (app.lifecycleStatus ≠ .active) (refusal "application is not live")
      pure { app with recovery := ⟨some recoveryRef, some .restoring⟩ }
  | some nodeId =>
    mutateTarget applicationId nodeId envelope .rollbackInProgress (fun t _ => do
      Tx.refuseIf (t.status ≠ .active) (refusal "cannot roll back a tombstoned target")
      Tx.refuseIf (targetRestoreInFlight t)
        (refusal "a rollback is already in progress on this target")
      openApplicationRecovery applicationId recoveryRef envelope
      pure ({ t with
        recovery := t.recovery.opened recoveryRef recoveryGenerationId
        active :=
          if t.active.stage.isNone then t.active.restoreMarker recoveryGenerationId envelope
          else t.active }, ())) false

/-- A restore is about to touch the filesystem. -/
def recoveryStarted (applicationId : String) (nodeId : Int) (recoveryRef : String)
    (recoveryGenerationId : Option String) (envelope : EventEnvelope) : Store Unit :=
  mutateTarget applicationId nodeId envelope .recoveryStarted (fun t _ => do
    Tx.refuseIf (t.status ≠ .active) (refusal "cannot recover a tombstoned target")
    Tx.refuseIf (targetRestoreInFlight t)
      (refusal "a recovery is already in progress on this target")
    openApplicationRecovery applicationId recoveryRef envelope
    pure ({ t with
      recovery := t.recovery.opened recoveryRef recoveryGenerationId
      active := t.active.restoreMarker recoveryGenerationId envelope }, ())) false

inductive RollbackFailureClass where
  | preMutation
  | postMutation
  | partial_
  deriving DecidableEq

def RollbackFailureClass.recovery : RollbackFailureClass → RecoveryFailureClass
  | .preMutation => .preMutation
  | .postMutation => .postMutation
  | .partial_ => .partial_

/-- Write a recovery failure over the recovery slot and the failure slot. -/
def Target.recordRecoveryFailure (recoveryRef : String) (failureClass : RecoveryFailureClass)
    (at_ : Int) : Target :=
  { t with
    recovery := { t.recovery with
      phase := some .failed
      ref := some recoveryRef
      failureClass := some failureClass
      failureAt := some at_ }
    failure := ⟨some .recovery, some failureClass.name, some at_⟩ }

/-- The row a failed rollback leaves: a refusal defers to an earlier claim that
may have moved the target. -/
def Target.rollbackFailure (recoveryRef : String) (failureClass : RollbackFailureClass) (at_ : Int)
    : Target :=
  if failureClass = .preMutation ∧ recoveryClaimMoved t then
    { t with recovery := { t.recovery with phase := some .failed } }
  else t.recordRecoveryFailure recoveryRef failureClass.recovery at_

/-- Release the marker a restore's own open wrote. -/
def Target.clearRestoreMarker : Target :=
  if t.active.stage = some .recoveryStarted then t.clearActive else t

/-- The row a failed rollback leaves, with its operation and interruption released. -/
def Target.settleRollback (recoveryRef : String) (failureClass : RollbackFailureClass) (at_ : Int) :
    Target :=
  ((t.rollbackFailure recoveryRef failureClass at_).clearRestoreMarker).clearInterruption
    .recoveryStarted

/-- Derive the application's recovery state with one row not yet written. -/
def settleRefusedRollback (current : Target) (envelope : EventEnvelope) : Store Unit :=
  withApplication applicationId envelope fun db app =>
    deriveApplicationRecovery db app envelope.at_ [current]

/-- A rollback failed on one target. -/
def rollbackTargetFailed (nodeId : Int) (recoveryRef : String) (failureClass : RollbackFailureClass)
    (envelope : EventEnvelope) : Store Unit := do
  let failed ← mutateTarget applicationId nodeId envelope .rollbackPartialFailed (fun t _ => do
    let t := t.settleRollback recoveryRef failureClass envelope.at_
    if failureClass = .preMutation then
      settleRefusedRollback applicationId t envelope
      pure (t, t)
    else pure (t, t)) false
  if failureClass = .preMutation then pure ()
  else settleRefusedRollback applicationId failed envelope

/-- A rollback failed, on the application or on one target. -/
def rollbackPartialFailed (nodeId : Option Int) (recoveryRef : String)
    (failureClass : RollbackFailureClass) (envelope : EventEnvelope) : Store Unit :=
  match nodeId with
  | none =>
    mutateApp applicationId envelope fun app => do
      let db ← get
      pure (deriveApplicationRecovery db app envelope.at_ [])
  | some nodeId =>
    rollbackTargetFailed applicationId nodeId recoveryRef failureClass envelope

/-- A target whose failure record is written again. -/
structure RefusedTarget where
  nodeId : Int
  refused : Bool

def RefusedTarget.failureClass (r : RefusedTarget) : RollbackFailureClass :=
  if r.refused then .preMutation else .partial_

/-- Settle a rollback whose per-target failure records could not be written. -/
def rollbackRefusalSettled (targets : List RefusedTarget) (recoveryRef : String)
    (envelope : EventEnvelope) : Store Unit := do
  targets.forM fun r => Tx.attempt
    (rollbackTargetFailed applicationId r.nodeId recoveryRef r.failureClass envelope)
    fun _ => true
  mutateApp applicationId envelope fun app => do
    let db ← get
    let intended := targets.filterMap fun r =>
      (db.getTarget applicationId r.nodeId).map fun row =>
        row.rollbackFailure recoveryRef r.failureClass envelope.at_
    pure (deriveApplicationRecovery db app envelope.at_ intended)

/-- A restore failed. -/
def recoveryFailed (applicationId : String) (nodeId : Int) (recoveryRef : String)
    (failureClass : MutationClass) (envelope : EventEnvelope) : Store Unit :=
  mutateTarget applicationId nodeId envelope .recoveryFailed (fun t _ => do
    withApplication applicationId envelope fun _ app => { app with
      recovery := ⟨some recoveryRef, some .failed⟩
      failure := ⟨some .recovery, some failureClass.recovery.name, some envelope.at_⟩ }
    pure ((t.clearActive.clearInterruption .recoveryStarted).recordRecoveryFailure recoveryRef
      failureClass.recovery envelope.at_, ())) false

/-- Rebind the artifact expectation to the restored generation. -/
def Target.restoreArtifactPointers (generationId : String) (capturedArtifactSetId : Option String) :
    Target :=
  let captured := capturedArtifactSetId.filter fun s => truthy (some s)
  let usable := (captured.bind db.getArtifactSet).filter fun a =>
    a.generationId = generationId
  let expected := usable.map ArtifactSet.id
  let t := { t with expectedArtifactSetId := expected }.noteLimitation
    "artifact_expectation_unprovable" (if usable.isSome then none else captured)
  { t with
    latestArtifactSetId := (db.newestArtifactSetIdForGeneration generationId).or expected }

/-- Why a last-known-good cannot stay after a restore. -/
def lkgUnavailability (applicationId lkgGenerationId : String) : Option LkgUnavailableReason :=
  match db.getGeneration lkgGenerationId with
  | none => some .generationMissing
  | some lkg =>
    if lkg.applicationId ≠ applicationId then some .recoveryUnretainable else none

/-- Decide what survives of the last-known-good after a restore. -/
def Target.restoreLastKnownGood (applicationId : String) (at_ : Int) : Target :=
  match t.lkg.generationId.filter fun s => truthy (some s) with
  | none => t
  | some lkg =>
    match lkgUnavailability db applicationId lkg with
    | some reason => { t with lkg := ⟨none, none, some at_, some reason⟩ }
    | none =>
      match t.lkg.artifactSetId.filter fun s => truthy (some s) with
      | none => t
      | some artifactSetId =>
        if (db.getArtifactSet artifactSetId).any fun a => a.generationId = lkg then t
        else { t.noteLimitation "lkg_artifact_unprovable" (some artifactSetId) with
          lkg := { t.lkg with artifactSetId := none } }

/-- Restore the acceptance that authorized the generation now running. -/
def Target.restoreSourceAcceptance (applicationId generationId : String)
    (capturedRef : Option String) : Target :=
  let captured := capturedRef.filter fun s => truthy (some s)
  let resolved := captured.filter fun ref =>
    (db.resolveSourceAcceptance ref applicationId generationId).isSome
  { t with sourceAcceptanceRef := resolved }.noteLimitation "source_acceptance_unprovable"
    (if resolved.isSome then none else captured)

/-- Release the operation and close the recovery slot as complete. -/
def Target.completeRecovery : Target :=
  let t := t.clearActive.clearInterruption .recoveryStarted
  { t with
    recovery := { t.recovery with
      phase := some .complete
      failureClass := none
      failureAt := none } }.clearFailure [.recovery]

/-- Bind a target to the generation a restore brought back. -/
def Target.bindRestored (applicationId restored : String)
    (capturedArtifactSetId capturedSourceAcceptanceRef : Option String) (at_ : Int) : Target :=
  let t := { t with
    desiredGenerationId := some restored
    appliedGenerationId := some restored
    healthyGenerationId := none }
  ((t.restoreArtifactPointers db restored capturedArtifactSetId).restoreLastKnownGood db
    applicationId at_).restoreSourceAcceptance db applicationId restored
    capturedSourceAcceptanceRef

structure RestoreEvidence where
  recoveryRef : String
  capturedArtifactSetId : Option String
  capturedSourceAcceptanceRef : Option String

/-- Close the recovery slot under the reference the rollback reports. -/
def Target.completeRollback (evidence : RestoreEvidence) : Target :=
  { t.completeRecovery with
    recovery := { t.completeRecovery.recovery with ref := some evidence.recoveryRef } }

/-- A rollout-scoped rollback finished and the target is back on its generation. -/
def rollbackCompleted (applicationId : String) (nodeId : Int) (evidence : RestoreEvidence)
    (envelope : EventEnvelope) : Store Unit :=
  mutateTarget applicationId nodeId envelope .rollbackCompleted (fun t _ => do
    let restored ← Tx.require (t.recovery.generationId.filter fun s => truthy (some s))
      (refusal "rollback_completed requires a bound recovery generation")
    let db ← get
    Tx.refuseIf (!(db.getGeneration restored).any fun g => g.applicationId = applicationId)
      (refusal "rollback_completed names a generation this application does not own")
    let t := t.completeRollback evidence
    settleRefusedRollback applicationId t envelope
    let t := t.bindRestored db applicationId restored evidence.capturedArtifactSetId
      evidence.capturedSourceAcceptanceRef envelope.at_
    pure ({ t with healthStopReason := some .rollbackCompleted }, ())) false

/-- Whether the workload of a recovered stack is bound to the model. -/
inductive GitOpsBinding where
  | bound
  | unbound
  | notApplicable
  | serviceOnly
  deriving DecidableEq

/-- A workload bound to the model runs the generation that was restored. -/
def Target.bindRecovered (restored : String) (binding : GitOpsBinding) : Target :=
  { t with
    deployedGenerationId :=
      if binding = GitOpsBinding.bound then some restored else t.deployedGenerationId }

/-- A restore finished and the workload is back.  Pointers move only to a
generation the restore can prove. -/
def recoverySucceeded (applicationId : String) (nodeId : Int) (evidence : RestoreEvidence)
    (recoveryGenerationId : Option String) (proven : Bool) (binding : GitOpsBinding)
    (envelope : EventEnvelope) : Store Unit :=
  mutateTarget applicationId nodeId envelope .recoverySucceeded (fun t _ => do
    let t := t.completeRecovery
    settleRefusedRollback applicationId t envelope
    let db ← get
    match (recoveryGenerationId.filter fun s => truthy (some s)).filter fun g =>
        proven && (db.getGeneration g).any fun row => row.applicationId = applicationId with
    | none =>
      pure (t.noteLimitation "recovery_unproven"
        (some (recoveryGenerationId.getD evidence.recoveryRef)), ())
    | some restored =>
      let t := (t.noteLimitation "recovery_unproven" none).bindRecovered restored binding
      pure (t.bindRestored db applicationId restored evidence.capturedArtifactSetId
        evidence.capturedSourceAcceptanceRef envelope.at_, ())) false

def applicationRecoveryInFlight : Bool :=
  app.recovery.phase = some .capturing || app.recovery.phase = some .restoring ||
    app.recovery.phase = some .compensating

/-- The application row a restart leaves. -/
def Application.interrupt (at_ : Int) : Application :=
  let app :=
    if applicationRecoveryInFlight app then
      { app with
        recovery := { app.recovery with phase := some .failed }
        failure := ⟨some .recovery, some "interrupted", some at_⟩ }
    else app
  { app.clearActive with
    interruption := { app.active with at_ := some at_ }
    updatedAt := at_ }

/-- A restore cut off by a restart: an earlier claim that may have moved the
target outranks this attempt's unknown outcome. -/
def Target.interruptRestore (at_ : Int) : Target :=
  { t with
    recovery := { t.recovery with
      phase := some .failed
      failureClass :=
        if recoveryClaimMoved t then t.recovery.failureClass else some .interrupted
      failureAt :=
        if recoveryClaimMoved t then some (t.recovery.failureAt.getD at_) else some at_ }
    failure := ⟨some .recovery, some "interrupted", some at_⟩ }

/-- The target row a restart leaves. -/
def Target.interrupt (at_ : Int) : Target :=
  let interrupted := if targetRestoreInFlight t then t.interruptRestore at_ else t
  { interrupted.clearActive with
    interruption := { t.active with
      stage := t.active.stage.or
        (if targetRestoreInFlight t then some .recoveryStarted else none)
      at_ := some at_ }
    updatedAt := at_ }

/-- Write the interruption of an application that had work open. -/
def interruptApplication (envelope : EventEnvelope) : Store Unit :=
  if app.active.stage.isSome || applicationRecoveryInFlight app then
    writeApplication (app.interrupt envelope.at_)
  else pure ()

/-- Reclassify work the previous process never finished. -/
def interruptActiveOperations (envelope : EventEnvelope) :
    Store Unit := do
  let app ← requireApp applicationId
  interruptApplication app envelope
  let db ← get
  let targets := (db.listTargets applicationId).filter fun t =>
    t.active.stage.isSome || targetRestoreInFlight t
  targets.forM fun t => upsertTarget (t.interrupt envelope.at_)

/-- Interrupt the work of a source that is being suspended and take the
interruption, and only that, over from the row it wrote. -/
def interruptForSuspension (envelope : EventEnvelope) : Store Application :=
  if app.active.stage.isSome then do
    interruptActiveOperations app.id envelope
    let reloaded ← requireApp app.id
    pure { app.clearActive with interruption := reloaded.interruption }
  else pure app

/-- Stop acting on a source without forgetting anything about it. -/
def sourceSuspended (reason : String) (envelope : EventEnvelope) : Store Unit :=
  mutateApp applicationId envelope fun app => do
    Tx.refuseIf (app.lifecycleStatus ≠ .active) (refusal "source is not live")
    let app ← interruptForSuspension app envelope
    pure { app with
      suspendedAt := some envelope.at_
      sourceSuspendedReason := some reason }

end Sencho.GitOps

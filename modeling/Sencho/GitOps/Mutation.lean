import Sencho.GitOps.Store

/-!
# Row mutations

The two shapes every transition has: `mutateApp` loads an application, edits the
loaded row and writes it back whole; `mutateTarget` does the same for one target
and stamps the stage.  An edit may issue writes of its own, so the row that is
written back last is the one that was loaded first.  Beside them stand the edits
several transitions share: clearing an operation, a failure or an interruption,
retiring a recovery claim, and deriving the application's recovery state from
its targets.
-/

namespace Sencho.GitOps

open Verified

namespace Application

variable (app : Application)

def clearActive : Application := { app with active := .none }

def clearInterruption (stage : ApplicationActiveStage) : Application :=
  if app.interruption.stage = some stage then { app with interruption := .none } else app

def clearFailure (stages : List ApplicationFailureStage) : Application :=
  if app.failure.stage.any stages.contains then { app with failure := .none } else app

/-- Drop the candidate and everything said about it. -/
def clearCandidate : Application :=
  { app with
    candidateGenerationId := none
    candidatePlanBlocked := false
    reviewRequired := false
    reviewBlockReason := none }

def noteLimitation (code : String) (detail : Option String) : Application :=
  { app with
    evidenceLimitations := encodeEvidenceLimitations app.evidenceLimitations code
      (detail.map fun d => ⟨code, some d⟩) }

section

variable (app : Application) (stages : List ApplicationFailureStage)
  (stage : ApplicationActiveStage)

@[simp] theorem clearInterruption_id : (app.clearInterruption stage).id = app.id := by
  unfold clearInterruption
  split <;> rfl

@[simp] theorem clearFailure_id : (app.clearFailure stages).id = app.id := by
  unfold clearFailure
  split <;> rfl

end

end Application

namespace Target

variable (t : Target)

/-- Release the operation in flight, identity included. -/
def clearActive : Target := { t with active := .none }

/-- Retire an interruption once its stage has reached a real outcome. -/
def clearInterruption (stage : TargetActiveStage) : Target :=
  if t.interruption.stage = some stage then { t with interruption := .none } else t

def clearFailure (stages : List TargetFailureStage) : Target :=
  if t.failure.stage.any stages.contains then { t with failure := .none } else t

/-- Hand the operation marker back to a restore that is still moving. -/
def markInFlightRestore (at_ : Int) : Target :=
  if targetRestoreInFlight t && t.active.stage.isNone then
    { t with
      active := ⟨none, some .recoveryStarted, some at_, t.recovery.generationId, none, none⟩ }
  else t

/-- Record, or drop, what the writer could not prove. -/
def noteLimitation (code : String) (detail : Option String) : Target :=
  { t with
    evidenceLimitations := encodeEvidenceLimitations t.evidenceLimitations code
      (detail.map fun d => ⟨code, some d⟩) }

section

variable (t : Target)
variable (stage : TargetActiveStage) (at_ : Int) (stages : List TargetFailureStage)

@[simp] theorem clearActive_key : t.clearActive.key = t.key := rfl

@[simp] theorem clearActive_recovery : t.clearActive.recovery = t.recovery := rfl

@[simp] theorem clearInterruption_key : (t.clearInterruption stage).key = t.key := by
  unfold clearInterruption
  split <;> rfl

@[simp] theorem clearInterruption_recovery : (t.clearInterruption stage).recovery = t.recovery := by
  unfold clearInterruption
  split <;> rfl

@[simp] theorem clearInterruption_applied :
    (t.clearInterruption stage).appliedGenerationId = t.appliedGenerationId := by
  unfold clearInterruption
  split <;> rfl

@[simp] theorem clearFailure_key : (t.clearFailure stages).key = t.key := by
  unfold clearFailure
  split <;> rfl

@[simp] theorem clearFailure_recovery : (t.clearFailure stages).recovery = t.recovery := by
  unfold clearFailure
  split <;> rfl

@[simp] theorem clearFailure_applied :
    (t.clearFailure stages).appliedGenerationId = t.appliedGenerationId := by
  unfold clearFailure
  split <;> rfl

@[simp] theorem markInFlightRestore_key : (t.markInFlightRestore at_).key = t.key := by
  unfold markInFlightRestore
  split <;> rfl

@[simp] theorem markInFlightRestore_recovery :
    (t.markInFlightRestore at_).recovery = t.recovery := by
  unfold markInFlightRestore
  split <;> rfl

@[simp] theorem markInFlightRestore_applied :
    (t.markInFlightRestore at_).appliedGenerationId = t.appliedGenerationId := by
  unfold markInFlightRestore
  split <;> rfl

end

end Target

/-- The stages that record a decision someone still has to act on. -/
def isStandingBlueprintDecision : Option TargetStage → Bool
  | some (.observation .driftCleared) => false
  | some (.observation _) => true
  | _ => false

variable (app : Application) (t : Target) (applicationId : String) (envelope : EventEnvelope)

def requireApp : Store Application := do
  let db ← get
  Tx.require (db.getApplication applicationId) (refusal "application not found")

def requireOwnedGeneration (generationId : String) : Store Generation := do
  let db ← get
  Tx.require ((db.getGeneration generationId).filter fun g => g.applicationId = applicationId)
    (refusal "generation is not owned by this application")

/-- Edit an application.  The row that is written back is the one loaded here. -/
def mutateApp (mutate : Application → Store Application) : Store Unit := do
  let app ← requireApp applicationId
  let app ← mutate app
  writeApplication { app with
    latestOperationId := some envelope.operationId
    updatedAt := envelope.at_ }

/-- Edit a target and stamp the stage.  An edit that only records evidence leaves
a standing decision alone. -/
def mutateTarget {β : Type} (applicationId : String) (nodeId : Int)
    (envelope : EventEnvelope) (stage : TargetStage)
    (mutate : Target → Application → Store (Target × β))
    (keepStandingDecision : Bool) : Store β := do
  let app ← requireApp applicationId
  let db ← get
  let target ← Tx.require (db.getTarget applicationId nodeId) (refusal "target not found")
  let (target, result) ← mutate target app
  let latestStage :=
    if keepStandingDecision && isStandingBlueprintDecision target.latestStage then
      target.latestStage
    else some stage
  upsertTarget { target with latestStage := latestStage, updatedAt := envelope.at_ }
  pure result

/-- Edit the owning application inside the current transaction. -/
def withApplication (mutate : Db → Application → Application) : Store Unit := do
  let app ← requireApp applicationId
  let db ← get
  writeApplication { mutate db app with updatedAt := envelope.at_ }

/-- The live targets of a Direct application. -/
def liveDirectTargets (db : Db) (app : Application) : List Target :=
  if app.targetMode = .direct then
    (db.listTargets app.id).filter fun t => t.status = .active
  else []

/-- Write an edit of every live target of a Direct application. -/
def forEachLiveDirectTarget (edit : Target → Target) : Store Unit := do
  let db ← get
  (liveDirectTargets db app).forM fun t => upsertTarget (edit t)

/-- The application-level recovery state, derived from the live targets.  The
overrides are the rows a caller has edited and not yet written. -/
def deriveApplicationRecovery (db : Db) (app : Application) (at_ : Int)
    (overrides : List Target) : Application :=
  let others := (db.listTargets app.id).filter fun row =>
    row.status ≠ .tombstoned && !overrides.any fun o => o.nodeId = row.nodeId
  let live := others ++ overrides.filter fun row => row.status ≠ .tombstoned
  if live.any targetRestoreInFlight then app
  else
    match live.find? recoveryClaimMoved with
    | some surviving =>
      { app with
        recovery := ⟨surviving.recovery.ref.or app.recovery.ref, some .failed⟩
        failure := ⟨some .recovery,
          some (((recoveryFailureClaimClass surviving).getD .partial_).name),
          some ((recoveryFailureClaimAt surviving).getD at_)⟩ }
    | none =>
      if live.any fun row => row.recovery.phase = some .complete then
        { app with recovery := ⟨app.recovery.ref, some .complete⟩ }.clearFailure [.recovery]
      else { app with recovery := ⟨none, none⟩ }.clearFailure [.recovery]

/-- Drop the application-level recovery failure once its last claimant is gone. -/
def clearApplicationRecoveryWhenNoTargetFails (acknowledgedNodeId : Int) (envelope : EventEnvelope)
    : Store Unit := do
  let db ← get
  let remaining := (db.listTargets applicationId).any fun row =>
    (row.nodeId ≠ acknowledgedNodeId || targetRestoreInFlight row) &&
      row.status ≠ .tombstoned && targetRecoveryFailureMoved row
  if remaining then pure ()
  else withApplication applicationId envelope fun _ app =>
    if app.recovery.phase ≠ some .failed ∧ app.failure.stage ≠ some .recovery then app
    else { app with recovery := ⟨none, none⟩ }.clearFailure [.recovery]

/-- Drop the recovery slot and what the failure slot said on its behalf. -/
def clearRecoveryClaim :
    Store Target := do
  clearApplicationRecoveryWhenNoTargetFails applicationId t.nodeId envelope
  pure ({ t with
    recovery := ⟨none, t.recovery.generationId, none, none, none⟩ }.clearFailure [.recovery])

/-- Retire a claim on evidence that the target is consistent. -/
def retireRecoveryClaimOnSuccess : Store Target :=
  if targetRestoreInFlight t then pure t
  else if recoveryFailureClaimClass t = none ∧ t.recovery.phase ≠ some .failed then pure t
  else clearRecoveryClaim t applicationId envelope

/-- Retire a claim a later failure makes irrelevant. -/
def retireNonMovingRecoveryClaim : Store Target :=
  if recoveryClaimRetirable t then clearRecoveryClaim t applicationId envelope
  else pure t

/-- Bring a tombstoned placement back into the fleet. -/
def reviveTarget :
    Store Target := do
  let t ← retireNonMovingRecoveryClaim { t with status := .active } applicationId envelope
  if recoveryClaimMoved t then
    withApplication applicationId envelope fun db app =>
      deriveApplicationRecovery db app envelope.at_ [t]
    pure t
  else pure t

/-- Mark a rollout generation superseded and record it, once. -/
def recordRolloutGenerationSuperseded (previousGenerationId : String) (envelope : EventEnvelope) :
    Store Unit := do
  let db ← get
  match db.getRolloutGeneration previousGenerationId with
  | none => pure ()
  | some existing =>
    if existing.supersededAt.isSome then pure ()
    else do
      markRolloutGenerationSuperseded previousGenerationId envelope.at_
      insertSupersededHistory
        ⟨applicationId, envelope.operationId, previousGenerationId⟩

/-- Mark the rollout generation an application's pointer names, when it names one. -/
def supersedeNamedGeneration : Store Unit :=
  match app.rolloutGenerationId.filter fun s => truthy (some s) with
  | none => pure ()
  | some id => recordRolloutGenerationSuperseded app.id id envelope

end Sencho.GitOps

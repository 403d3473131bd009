import Sencho.Recovery.Overwrite

/-!
# The live pipeline of a staged overwrite

This module embeds the pipeline that runs one staged overwrite: prove the point
in a staging volume, stop the workloads, take a point of the stopped volume,
copy the restored data next to the live entries, swap, clean up and release.

Every exit of the source that settles a rollback does so as its last action and
then ends the pipeline.  A stage here ends with what is to follow, and the
pipeline settles in one place.  A call that throws past the stage ends the
pipeline with the intent where it is.

The daemon, the backup engine and the recovery point store appear through their
answers.  Stopping the containers of the fence changes nothing the settlement
reads, so only the fence column is written.
-/

namespace Sencho.Recovery

open Verified.Interrupt Prog

variable {id : IntentId} {C : Type}

/-- How a re-check of the dependents ends. -/
inductive Recheck where
  | ok
  | changed
  | unknown
  | threw (errorClass : ErrorClass)

/-- The listing of the containers that mount the volume. -/
inductive MemberListing where
  | same
  | changed
  | threw (errorClass : ErrorClass)

structure RestoreEvidence where
  filesRestored : Nat
  bytesRestored : Nat
  xattrWarnings : Nat

inductive RestoreResult where
  | restored (evidence : RestoreEvidence)
  | unverified
  | failed (errorClass : ErrorClass)

/-- What the world answers the pipeline beside the shared calls. -/
structure LiveAnswers (C : Type) extends Answers C where
  storageKnown : Bool
  /-- The staging volume was created with this label, or creating it threw. -/
  created : Except ErrorClass Bool
  pointReadable : Bool
  staged : RestoreResult
  beforeFence : Recheck
  drained : Bool
  listing : MemberListing
  fenceApplied : Except ErrorClass Unit
  startTimes : Except ErrorClass Unit
  beforePoint : Recheck
  pointBegun : Except ErrorClass String
  pointTaken : Except ErrorClass Unit
  pointStillReadable : Bool
  /-- What the engine left in `incoming/data`, if it started. -/
  materialized : Option (Option (Folder C))
  restored : RestoreResult
  beforeSwap : Recheck

/-- How a stage ends: the next one follows, the restore is rolled back with a
class, or the operation has ended already. -/
inductive StageEnd where
  | next
  | rollback (errorClass : ErrorClass)
  | finished (outcome : OperationFinish)

def recheckEnd : Recheck → StageEnd
  | .ok => .next
  | .changed => .rollback .dependentsChanged
  | .unknown => .rollback .identityUnknown
  | .threw c => .rollback c

variable (env : LiveAnswers C)

/-- Settle an attempt that failed before the fence, or keep it for its staging
volume. -/
def settleUnstaged (c : ErrorClass) (finish : OperationFinish) :
    OverwriteM id C StageEnd := do
  let gone ← stagingVolumeGone env.staging
  if gone then do
    advanceIntent .rolledBack (outcomeOnly (some c)) env.now
    pure (.finished finish)
  else do
    keepForCleanup env.now
    pure (.finished finish)

def cancelledOr (c : ErrorClass) : OperationFinish :=
  if c = .interrupted then .cancelled else .failed c

/-- The rest of staging, once the volume exists: restore and verify. -/
def stageRestore : OverwriteM id C StageEnd :=
  match env.staged with
  | .failed c => settleUnstaged env c (cancelledOr c)
  | .unverified =>
    settleUnstaged env .attributesNotRestored (.failed .attributesNotRestored)
  | .restored e => do
    advanceIntent .stagedVerified { IntentAdvanceFields.empty with
        filesRestored := some e.filesRestored
        bytesRestored := some e.bytesRestored
        verified := some true
        xattrWarnings := some e.xattrWarnings } env.now
    pure .next

/-- Stage and verify the point in the separate volume. -/
def stagePoint : OverwriteM id C StageEnd := do
  let s ← read
  if s.intent.stagingVolume.isNone then pure (.rollback .internal)
  else do
    advanceIntent .staging .empty env.now
    match env.created with
    | .error c => settleUnstaged env c (.failed c)
    | .ok labelled =>
      if !labelled then pure (.rollback .identityUnknown)
      else if !env.pointReadable then pure (.rollback .invalidRequest)
      else stageRestore env

/-- The staging volume proved the point; it goes before the workloads stop. -/
def removeStaging : OverwriteM id C StageEnd := do
  let gone ← stagingVolumeGone env.staging
  if gone then pure .next
  else do
    keepForCleanup env.now
    pure (.finished (.failed .cleanupFailed))

/-- The containers were listed again under the fence, and the fence is applied.
Nothing was stopped before, so an abort puts the fence back. -/
def applyFence : OverwriteM id C StageEnd :=
  match env.listing with
  | .threw c => fail c
  | .changed => do
    setFenceState .none env.now
    pure (.rollback .dependentsChanged)
  | .same => do
    setFenceState .held env.now
    match env.fenceApplied, env.startTimes with
    | .error c, _ => pure (.rollback c)
    | .ok _, .error c => pure (.rollback c)
    | .ok _, .ok _ => do
      advanceIntent .protecting .empty env.now
      pure .next

/-- Record the fence and apply it. -/
def fenceStage : OverwriteM id C StageEnd :=
  match env.beforeFence with
  | .threw c => fail c
  | .changed => pure (.rollback .dependentsChanged)
  | .unknown => pure (.rollback .identityUnknown)
  | .ok => do
    advanceIntent .fenced .empty env.now
    setFenceState .held env.now
    if env.drained then applyFence env
    else do
      setFenceState .none env.now
      pure (.rollback .fenceUnavailable)

/-- A complete root point of the target, taken stopped. -/
def takePreRestorePoint : OverwriteM id C StageEnd :=
  match recheckEnd env.beforePoint, env.pointBegun with
  | .next, .error c => pure (.rollback c)
  | .next, .ok pointId => do
    updateIntent { IntentAdvanceFields.empty with preRestorePointId := some pointId } env.now
    match env.pointTaken with
    | .error c => pure (.rollback c)
    | .ok _ => pure .next
  | stop, _ => pure stop

/-- The engine writes the restored data below the work directory. -/
def Volume.materialize (content : Option (Folder C)) (v : Volume id C) : Volume id C :=
  { v with
    work := some ⟨none, none, content⟩
    root := v.root.touch v.clock
    reserved := v.reserved }.tick

/-- What the engine did to the volume. -/
def materialize (materialized : Option (Option (Folder C))) : OverwriteM id C Unit :=
  match materialized with
  | none => pure ()
  | some content => write fun s => { s with volume := s.volume.materialize content }

/-- Restore the point inside the target's own work directory. -/
def materializePoint : OverwriteM id C StageEnd := do
  advanceIntent .materializing .empty env.now
  let s ← read
  if !env.pointStillReadable || s.intent.targetVolume.isNone then
    pure (.rollback .invalidRequest)
  else do
    materialize env.materialized
    match env.restored with
    | .failed c => pure (.rollback c)
    | .unverified => pure (.rollback .attributesNotRestored)
    | .restored e => do
      updateIntent { IntentAdvanceFields.empty with
          filesRestored := some e.filesRestored
          bytesRestored := some e.bytesRestored
          verified := some true
          xattrWarnings := some e.xattrWarnings } env.now
      pure .next

/-- The status a commit ended in.  A status the helper cannot answer falls back
to what the commit reported, and then to an unexplained one. -/
def readSwapStatus (run : HelperRun C) (fallback : Option SwapStatus) :
    OverwriteM id C SwapStatus := do
  let status ← runSwapStep .status run
  pure ((status.status.or fallback).getD .inconsistent)

/-- A commit whose marker is missing is run once more. -/
def finalStatus (committed : SwapRunResult) : OverwriteM id C SwapStatus := do
  let status ← readSwapStatus (env.helper .status) committed.status
  if status = .metadataPending then do
    let _ ← runSwapStep .commit (env.helper .commitAgain)
    readSwapStatus (env.helper .statusAgain) none
  else pure status

/-- The class a helper step that did not succeed is rolled back with. -/
def stepClass (r : SwapRunResult) : ErrorClass :=
  if r.errorClass = some .interrupted then .interrupted else .nodeError

/-- The originals are deleted before any workload restarts. -/
def cleanUp : OverwriteM id C StageEnd := do
  let cleaned ← runClosingSwapStep .cleanup (env.helper .cleanup) (env.helper .cleanupStatus)
  if cleaned.ok then do
    let s ← read
    let released ← releaseRestoreFence env.release true env.now s.members
    advanceIntent .committed
      (outcomeOnly (if released then none else some .fenceUnavailable)) env.now
    pure (.finished (if released then .succeeded else .partial_ .fenceUnavailable))
  else do
    updateIntent (outcomeOnly (some .cleanupFailed)) env.now
    pure (.finished (.partial_ .cleanupFailed))

/-- Commit, and go on only when the journal says the swap committed. -/
def commitSwap : OverwriteM id C StageEnd := do
  let committed ← runSwapStep .commit (env.helper .commit)
  let status ← finalStatus env committed
  if status = .swapped then do
    advanceIntent .swapped .empty env.now
    cleanUp env
  else if status = .inconsistent then do
    advanceIntent .completionUnknown (outcomeOnly (some .identityUnknown)) env.now
    pure (.finished .completionUnknown)
  else pure (.rollback (stepClass committed))

/-- Prepare, re-check, commit, clean up and release. -/
def swapAndCleanup : OverwriteM id C StageEnd := do
  let prepared ← runSwapStep .prepare (env.helper .prepare)
  if prepared.ok && prepared.status = some .planned then do
    advanceIntent .swapping .empty env.now
    match recheckEnd env.beforeSwap with
    | .next => commitSwap env
    | stop => pure stop
  else pure (.rollback (stepClass prepared))

/-- Roll back, then end the operation. -/
def settleRollback (c : ErrorClass) : OverwriteM id C OperationFinish := do
  let ended ← rollbackIntent env.toAnswers
  pure (if ended = .unknown then .completionUnknown else cancelledOr c)

/-- The stages that are left. -/
def runStages (env : LiveAnswers C) :
    List (OverwriteM id C StageEnd) → OverwriteM id C OperationFinish
  | [] => pure .succeeded
  | stage :: stages => do
    let ended ← stage
    match ended with
    | .next => runStages env stages
    | .rollback c => settleRollback env c
    | .finished finish => pure finish

/-- The stages of the pipeline; the last one always ends it. -/
def overwriteStages : List (OverwriteM id C StageEnd) :=
  [stagePoint env, removeStaging env, fenceStage env, takePreRestorePoint env,
    materializePoint env, swapAndCleanup env]

/-- Run one staged overwrite. -/
def runOverwritePipeline : OverwriteM id C OperationFinish := do
  let s ← read
  if s.intent.targetMode ≠ .stagedOverwrite || s.intent.targetVolume.isNone then
    pure (.failed .invalidRequest)
  else if !env.storageKnown then pure (.failed .identityUnknown)
  else runStages env (overwriteStages env)

/-- The helper runs to its end and is heard. -/
def HelperRun.complete : HelperRun C := .ran none .exited [] ⟨[], [], []⟩

/-- Everything answers as asked. -/
def Answers.complete : Answers C where
  now := 1
  helper _ := .complete
  release _ := ⟨.ok, .ok⟩
  releaseLeftover _ := ⟨.ok, .ok⟩
  staging := .removed

/-- A pipeline of which nothing fails, with what the engine restores. -/
def LiveAnswers.complete (content : Folder C) : LiveAnswers C where
  toAnswers := .complete
  storageKnown := true
  created := .ok true
  pointReadable := true
  staged := .restored ⟨2, 2, 0⟩
  beforeFence := .ok
  drained := true
  listing := .same
  fenceApplied := .ok ()
  startTimes := .ok ()
  beforePoint := .ok
  pointBegun := .ok "before"
  pointTaken := .ok ()
  pointStillReadable := true
  materialized := some (some content)
  restored := .restored ⟨2, 2, 0⟩
  beforeSwap := .ok

end Sencho.Recovery

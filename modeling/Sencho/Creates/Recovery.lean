import Sencho.Creates.Checkpoints

/-!
# Recovery of interrupted creates

At every start each checkpoint is settled from its phase and what is on disk: stale
bookkeeping is cleared, a create whose manifest is committed is finished, and anything else
is torn down, files first.  What cannot be settled keeps its checkpoint for the next start.

Every filesystem call may fail, and a removal that fails, or is cut off, may have removed a
part.
-/

namespace Sencho.Creates

open Verified Interrupt GitOps Prog

/-- What recovery reads and changes.  Beside it stand the creates that were finished, and
whether the stack's directory was there. -/
structure World where
  db : CreateDb
  files : Files
  finished : List (String × Bool)

/-- A program of the recovery, which reports errors by their messages. -/
abbrev Recovers (α : Type) := Prog World String α

inductive CreateRecoveryOutcome where
  | completed
  | tombstoned
  | checkpointCleared
  | sourcePreserved
  | retained
  | markerRetained
  deriving DecidableEq

structure CreateRecoveryResult where
  stackName : String
  applicationId : String
  outcome : CreateRecoveryOutcome

/-- How a recursive removal goes: what is gone before it ends, and why it failed. -/
structure Removal where
  gone : Path → Bool
  error : Option String

/-- What the filesystem and the clock answer for one checkpoint.  A stat answers unless it
fails with something other than `ENOENT`. -/
structure Answers where
  completionStat : Bool
  manifest : Except String (Option ManifestState)
  teardownStat : Bool
  stackWithinBase : Bool
  deleteStack : Removal
  rootInPlace : Bool
  root : Removal
  candidateInPlace : Bool
  candidate : Removal
  appliedInPlace : Bool
  applied : Removal
  markerInPlace : Bool
  marker : Option String
  artifactSetId : String
  sourceAcceptanceId : String
  pollOperationId : String
  now : Int

/-- Change the files. -/
def onFiles (f : Files → Files) : Recovers Unit :=
  write fun w => { w with files := f w.files }

/-- Remove a path and everything under it. -/
def rm (p : Path) (r : Removal) : Recovers Unit := do
  onFiles fun f => f.removeSome p r.gone
  match r.error with
  | some error => fail error
  | none => onFiles fun f => f.remove p

def Refusal.message : Refusal → String
  | .transition message _ => message
  | .store message => message

/-- Run a transaction: one effect, or none where it is refused. -/
def transact (p : CreateStore Unit) (note : World → World) : Recovers Unit := do
  let w ← read
  match p w.db with
  | .ok (_, db) => write fun w => note { w with db := db }
  | .error e => fail (Refusal.message e)

inductive CleanupOutcome where
  | cleared
  | markerRetained

variable (l : Layout) (c : CreateCheckpoint)

def deleteStagingMarker (stackName : String) (a : Answers) : Recovers Unit :=
  if a.markerInPlace then
    match a.marker with
    | some error => fail error
    | none => onFiles fun f => f.removeFile (l.stagingMarker stackName)
  else fail "managed root links outside its managed location"

/-- Delete a staging marker, and say whether it went. -/
def clearSettledMarker (stackName : String) (a : Answers) : Recovers Bool :=
  recover (do deleteStagingMarker l stackName a; pure true) fun _ => false

/-- Remove a directory a create staged. -/
def removeStaged (base : Path) (rel : Option RelPath) (inPlace : Bool) (r : Removal) :
    Recovers Unit :=
  match rel.filter fun rel => rel ≠ [""] with
  | none => pure ()
  | some rel =>
    let resolved := resolveIn base rel
    if resolved = base || !isPathWithinBase resolved base then
      fail "refusing to remove a path outside the managed root"
    else if !isGenerationPath rel then
      fail ("refusing to remove a path that is not a generation directory: " ++
        "/".intercalate rel)
    else if !inPlace then
      fail ("refusing to remove a path that links outside its managed location. " ++
        "repair or remove the redirected directory under DATA_DIR/git-managed, then retry")
    else rm resolved r

/-- Remove only what one create put on disk. -/
def removeOperationOwnedPaths (stackName : String) (dirs : Option GenerationDirs)
    (ownsManagedRoot : Bool) (a : Answers) : Recovers CleanupOutcome := do
  let base := l.managedRoot stackName
  if ownsManagedRoot then
    if a.rootInPlace then
      rm base a.root
      return .cleared
    else
      fail ("refusing to remove a managed root that links outside its managed location. " ++
        "repair or remove the redirected directory under DATA_DIR/git-managed, then retry")
  else
    removeStaged base (dirs.map GenerationDirs.candidateDir) a.candidateInPlace a.candidate
    removeStaged base (dirs.map GenerationDirs.appliedDir) a.appliedInPlace a.applied
    let cleared ← clearSettledMarker l stackName a
    return if cleared then .cleared else .markerRetained

inductive StackDirState where
  | present
  | absent
  | unknown
  deriving DecidableEq

/-- A stat of the stack's directory. -/
def stackDirState (stackName : String) (answers : Bool) (w : World) : StackDirState :=
  if !answers then .unknown
  else if w.files.has (l.stackDir stackName) then .present
  else .absent

def deleteStack (l : Layout) (stackName : String) (a : Answers) : Recovers Unit :=
  if a.stackWithinBase then rm (l.stackDir stackName) a.deleteStack
  else fail "Stack directory escapes the compose directory"

def envelopeFor (now : Int) : EventEnvelope :=
  ⟨c.operationId, some "system:startup", "create_recovery", now⟩

/-- The source row a finished create has: the one that is there, or one from the
checkpoint. -/
def recoveredSource (db : CreateDb) (c : CreateCheckpoint) (spec : Option AppliedSpec)
    (manifest : Option ManifestState) : GitSource :=
  let source := (db.sources.find? c.stackName).getD
    ⟨c.stackName, c.repoUrl, c.branch, c.commitSha, none, none⟩
  { source with
    lastAppliedCommitSha := some (c.commitSha.getD "")
    appliedSpec := spec.or source.appliedSpec
    manifest := manifest.or source.manifest }

def minPollIntervalSecs : Int := 60

def effectivePollIntervalSecs (perSourceSecs : Option Int) (globalIntervalMins : Int) : Int :=
  match perSourceSecs with
  | some secs => if secs > 0 then max secs minPollIntervalSecs else 0
  | none =>
    let global := globalIntervalMins * 60
    if global > 0 then max global minPollIntervalSecs else 0

/-- Arm the first poll of a finished create. -/
def armFirstPoll (a : Answers) : CreateStore Unit := do
  let db ← get
  match db.gitops.getApplication c.applicationId with
  | none => pure ()
  | some app =>
    let secs := effectivePollIntervalSecs (db.pollIntervalSecs app.id) db.gitOpsPollIntervalMins
    if app.sourcePolicy ≠ .manual ∧ app.suspendedAt = none ∧ app.nextPollAt = none ∧
        app.retryAt = none ∧ secs > 0 then
      onGitOps (sourcePollScheduled c.applicationId (a.now + secs * 1000)
        ⟨a.pollOperationId, some "system:git-source", "create", a.now⟩)
    else pure ()

/-- The transaction that finishes a create. -/
def finishCreate (generationId : String) (spec : Option AppliedSpec)
    (manifest : Option ManifestState) (a : Answers) : CreateStore Unit := do
  modify fun db => { db with sources := db.sources.put (recoveredSource db c spec manifest) }
  onGitOps (GitOps.applied {
    applicationId := c.applicationId
    generationId := generationId
    artifactSetId := a.artifactSetId
    sourceAcceptanceId := a.sourceAcceptanceId
    authority := .operator
    envelope := envelopeFor c a.now
    activateCreating := true
    confirmation := none })
  updateCreateCheckpoint c.applicationId .pointersCommitted
  armFirstPoll c a

/-- Drop a settled checkpoint, its marker first. -/
def clearCheckpoint (a : Answers) (outcome : CreateRecoveryOutcome) :
    Recovers CreateRecoveryOutcome := do
  let cleared ← clearSettledMarker l c.stackName a
  if cleared then
    transact (modify fun db => db.deleteCreateCheckpoint c.applicationId) id
    return outcome
  else return .markerRetained

/-- Finish a create whose manifest is committed. -/
def complete (generationId : String) (a : Answers) : Recovers CreateRecoveryOutcome :=
  match c.appliedSpec, a.manifest with
  | some (.error error), _ => fail error
  | _, .error error => fail error
  | spec, .ok manifest => do
    let spec := spec.bind fun spec => spec.toOption
    transact (finishCreate c generationId spec manifest a) fun w =>
      { w with
        finished := (c.applicationId, w.files.has (l.stackDir c.stackName)) :: w.finished }
    clearCheckpoint l c a .completed

/-- The transaction that records a create as failed. -/
def failCreate (applicationId failureClass : String) (envelope : EventEnvelope) :
    CreateStore Unit := do
  onGitOps (createFailed applicationId failureClass envelope)
  modify fun db => db.deleteCreateCheckpoint applicationId

/-- Remove what a create staged, then record it as failed. -/
def recordFailed (dirs : Option GenerationDirs) (a : Answers) : Recovers CreateRecoveryOutcome := do
  let cleanup ← removeOperationOwnedPaths l c.stackName dirs c.createdManagedRoot a
  match cleanup with
  | .markerRetained => return .markerRetained
  | .cleared =>
    transact (failCreate c.applicationId "interrupted_create" (envelopeFor c a.now)) id
    return .tombstoned

/-- Remove what a create put on disk, files first. -/
def teardown (a : Answers) :
    Recovers CreateRecoveryOutcome := do
  let w ← read
  if c.phase ≠ .preStack ∧ stackDirState l c.stackName a.teardownStat w = .present then
    deleteStack l c.stackName a
  recordFailed l c (w.db.directoriesOf c) a

/-- The generation of a create whose manifest is committed. -/
def CreateCheckpoint.committed : Option String :=
  if c.phase = .manifestCommitted then c.generationId.filter fun id => id ≠ "" else none

/-- Settle one checkpoint. -/
def resolveOne (a : Answers) :
    Recovers CreateRecoveryOutcome := do
  let w ← read
  match (w.db.gitops.getApplication c.applicationId).filter fun app =>
      c.phase ≠ .pointersCommitted && app.lifecycleStatus = .creating with
  | none => clearCheckpoint l c a .checkpointCleared
  | some _ =>
    match c.committed.filter fun _ =>
        stackDirState l c.stackName a.completionStat w = .present with
    | some generationId => complete l c generationId a
    | none => teardown l c a

/-- Settle one checkpoint, whatever happens. -/
def settleOne (answers : String → Answers) (c : CreateCheckpoint) :
    Recovers CreateRecoveryResult := do
  let outcome ← recover (resolveOne l c (answers c.applicationId)) fun _ => .retained
  return ⟨c.stackName, c.applicationId, outcome⟩

/-- A creating application that has no checkpoint cannot be finished. -/
def settleCheckpointless (answers : String → Answers) (app : Application) :
    Recovers (List CreateRecoveryResult) := do
  let w ← read
  match w.db.getCreateCheckpoint app.id with
  | some _ => return []
  | none =>
    let stackName := app.stackName.getD ""
    let source := stackName ≠ "" && (w.db.sources.find? stackName).isSome
    let outcome ← recover (do
      transact (failCreate app.id "create_checkpoint_missing"
        ⟨app.latestOperationId.getD (answers app.id).pollOperationId, some "system:startup",
          "create_recovery", (answers app.id).now⟩) id
      return if source then .sourcePreserved else .tombstoned) fun _ => .retained
    return [⟨stackName, app.id, outcome⟩]

/-- Settle every create that a previous process left in flight. -/
def resolveInterruptedCreates (answers : String → Answers) :
    Recovers (List CreateRecoveryResult) := do
  let w ← read
  let settled ← each w.db.listCreateCheckpoints (settleOne l answers)
  let w ← read
  let rest ← each w.db.listCreatingDirectApplications (settleCheckpointless answers)
  return settled ++ rest.flatten

/-- The creates that keep an instance from starting. -/
def unsettled (results : List CreateRecoveryResult) : List CreateRecoveryResult :=
  results.filter fun r => r.outcome = .retained

end Sencho.Creates

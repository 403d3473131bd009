import Sencho.GitOps.Transitions
import Sencho.Verified.Interrupt

/-!
# Create checkpoints

A create from Git stages a candidate under the stack's managed root, makes the stack's
directory, promotes the candidate and commits the application's pointers.  A checkpoint
records how far it came, so that a create whose process died can be settled at the next
start.
-/

namespace Sencho.Creates

open Verified GitOps

/-- An absolute path, cut at its separators. -/
abbrev Path := List String

/-- The paths that are there. -/
structure Files where
  has : Path → Bool

namespace Files

/-- Remove what is at and under a path. -/
def remove (f : Files) (p : Path) : Files := ⟨fun q => f.has q && !p.isPrefixOf q⟩

/-- Remove one file. -/
def removeFile (f : Files) (p : Path) : Files := ⟨fun q => f.has q && q ≠ p⟩

/-- Remove some of what is under a path. -/
def removeSome (f : Files) (p : Path) (gone : Path → Bool) : Files :=
  ⟨fun q => f.has q && !(p.isPrefixOf q && gone q)⟩

end Files

/-- `path.resolve` of one segment after another. -/
def resolve (base : Path) : List String → Path
  | [] => base
  | segment :: rest =>
    if segment = "" || segment = "." then resolve base rest
    else if segment = ".." then resolve base.dropLast rest
    else resolve (base ++ [segment]) rest

/-- A relative path, cut at its separators.  The empty text is one empty segment. -/
abbrev RelPath := List String

/-- `path.resolve`: a path that starts with a separator is absolute. -/
def resolveIn (base : Path) (rel : RelPath) : Path :=
  match rel with
  | "" :: _ :: _ => resolve [] rel
  | _ => resolve base rel

def isPathWithinBase (resolved base : Path) : Bool := base.isPrefixOf resolved

/-- Whether a path names a candidate or an applied directory. -/
def isGenerationPath (rel : RelPath) : Bool :=
  let named (segment : String) : Bool :=
    "candidate-".isPrefixOf segment || "applied-".isPrefixOf segment
  match rel with
  | "generations" :: segment :: _ => named segment
  | segment :: _ =>
    "generations\\candidate-".isPrefixOf segment || "generations\\applied-".isPrefixOf segment
  | [] => false

/-- Where things are. -/
structure Layout where
  baseDir : Path
  managedArea : Path
  nodeId : String

def Layout.stackDir (l : Layout) (stackName : String) : Path := l.baseDir ++ [stackName]

def Layout.managedRoot (l : Layout) (stackName : String) : Path :=
  l.managedArea ++ [l.nodeId, stackName]

def stagingMarkerFilename : String := ".create-staging.v1.json"

def Layout.stagingMarker (l : Layout) (stackName : String) : Path :=
  l.managedRoot stackName ++ [stagingMarkerFilename]

inductive GitOpsCreatePhase where
  | preStack
  | stackCreated
  | promoting
  | manifestCommitted
  | pointersCommitted
  deriving DecidableEq

/-- The deploy spec of a create, as its JSON reads. -/
abbrev AppliedSpec := String

structure CreateCheckpoint where
  applicationId : String
  stackName : String
  phase : GitOpsCreatePhase
  generationId : Option String
  operationId : String
  repoUrl : String
  branch : String
  commitSha : Option String
  appliedSpec : Option (Except String AppliedSpec)
  createdManagedRoot : Bool
  createdAt : Int

/-- The directories a generation names, relative to the managed root. -/
structure GenerationDirs where
  generationId : String
  candidateDir : RelPath
  appliedDir : RelPath

structure ManifestState where
  manifestVersion : Int
  state : String
  appliedDir : String

structure GitSource where
  stackName : String
  repoUrl : String
  branch : String
  lastAppliedCommitSha : Option String
  appliedSpec : Option AppliedSpec
  manifest : Option ManifestState

/-- The database: the rows of the applications, and the tables that only a create uses. -/
structure CreateDb where
  gitops : Db
  checkpoints : Table CreateCheckpoint String CreateCheckpoint.applicationId
  directories : Table GenerationDirs String GenerationDirs.generationId
  sources : Table GitSource String GitSource.stackName
  pollIntervalSecs : String → Option Int
  gitOpsPollIntervalMins : Int

namespace CreateDb

def getCreateCheckpoint (db : CreateDb) (applicationId : String) : Option CreateCheckpoint :=
  db.checkpoints.find? applicationId

/-- The checkpoints, the oldest first. -/
def listCreateCheckpoints (db : CreateDb) : List CreateCheckpoint :=
  db.checkpoints.rows.mergeSort fun a b => a.createdAt ≤ b.createdAt

def listCreatingDirectApplications (db : CreateDb) : List Application :=
  db.gitops.applications.rows.filter fun app =>
    app.targetMode = .direct && app.lifecycleStatus = .creating

def deleteCreateCheckpoint (db : CreateDb) (applicationId : String) : CreateDb :=
  { db with checkpoints := db.checkpoints.delete fun c => c.applicationId = applicationId }

def setPhase (db : CreateDb) (applicationId : String) (phase : GitOpsCreatePhase) : CreateDb :=
  { db with
    checkpoints := db.checkpoints.update (fun c => c.applicationId = applicationId)
      (fun c => { c with phase := phase }) fun _ => rfl }

end CreateDb

abbrev CreateStore := Tx CreateDb Refusal

/-- A transaction on the rows of the applications. -/
def onGitOps (p : Store Unit) : CreateStore Unit := fun db =>
  match p db.gitops with
  | .ok (_, gitops) => .ok ((), { db with gitops := gitops })
  | .error e => .error e

def updateCreateCheckpoint (applicationId : String) (phase : GitOpsCreatePhase) :
    CreateStore Unit := do
  let db ← get
  let _ ← Tx.require (db.getCreateCheckpoint applicationId)
    (.store "create checkpoint not found")
  set (db.setPhase applicationId phase)

/-- The directories the generation of a create names. -/
def CreateDb.directoriesOf (db : CreateDb) (c : CreateCheckpoint) : Option GenerationDirs :=
  (c.generationId.filter fun id => id ≠ "").bind db.directories.find?

/-- What a create staged and may remove: the whole managed root where it made it, else the
directories its generation names. -/
def CreateDb.staged (db : CreateDb) (l : Layout) (c : CreateCheckpoint) : List Path :=
  let base := l.managedRoot c.stackName
  if c.createdManagedRoot then [base]
  else
    ((db.directoriesOf c).toList.flatMap fun d => [d.candidateDir, d.appliedDir]).filterMap
      fun rel => if rel = [""] then none else some (resolveIn base rel)

end Sencho.Creates

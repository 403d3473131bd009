import Mathlib.Data.Finset.Insert
import Mathlib.Data.Finset.Erase
import Sencho.GitOps.Transitions

/-!
# The source controller

The background driver of unattended sources.  A timer evaluates the sources that
are due, a resume evaluates one right away, and an operator pull runs the same
fetch for a Git-managed Blueprint and may leave work running behind its answer.
The three share one slot for each application; a resume that finds the slot taken
is parked, and whoever releases the slot runs it.

An evaluation is a promise: the controller learns nothing of it but that it
settled.  What other writers do to the database between two of its steps is a
step of its own.
-/

namespace Sencho.GitOps

open Verified

namespace Db

variable (db : Db)

def getLiveBlueprintApplicationBySourceStack (stackName : String) : Option Application :=
  db.applications.rows.find? fun a =>
    a.configuredSourceStackName = some stackName && a.targetMode ≠ .direct && a.lifecycleStatus.live

/-- The live Direct application, or the converted Blueprint that holds the stack. -/
def getLiveSourceApplication (stackName : String) : Option Application :=
  (db.getLiveDirectApplication stackName).or (db.getLiveBlueprintApplicationBySourceStack stackName)

end Db

/-- Rows a due scan may select, whatever their cursors say. -/
def Application.scannable (app : Application) : Bool :=
  (app.targetMode = .direct ||
      (app.targetMode = .blueprint && app.configuredSourceStackName.isSome)) &&
    app.lifecycleStatus = .active && app.suspendedAt.isNone && app.active.stage.isNone

/-- The first rows by a cursor. -/
def firstBy (cursor : Application → Option Int) (limit : Nat) (apps : List Application) :
    List Application :=
  (apps.mergeSort fun a b => (cursor a).getD 0 ≤ (cursor b).getD 0).take limit

def Db.listSourcesDueForPoll (db : Db) (now : Int) : List Application :=
  firstBy Application.nextPollAt 200 (db.applications.rows.filter fun app =>
    app.scannable && app.nextPollAt.any (fun t => t ≤ now) && app.retryAt.isNone)

def Db.listApplicationsDueForRetry (db : Db) (now : Int) : List Application :=
  firstBy Application.retryAt 200 (db.applications.rows.filter fun app =>
    app.scannable && app.retryAt.any (fun t => t ≤ now))

inductive OperatorFetchRefusalCode where
  | notGitManaged
  | noSourceIdentity
  | suspended
  | applying
  | fetchInFlight
  | recovery
  | confirmationStale

/-- The row waits on a restore in flight, or on a hold that success retires. -/
def recoveryWaitHolds (app : Application) : Bool :=
  app.recovery.phase = some .restoring || app.recovery.phase = some .compensating ||
    app.recovery.phase = some .failed || app.failure.stage = some .recovery

/-- Row-level reasons an operator pull must not start; else the row and its stack. -/
def operatorFetchBlock (app : Option Application) (inFlight : Bool) :
    Except (OperatorFetchRefusalCode × String) (Application × String) :=
  match app.filter fun app => app.targetMode = .blueprint && app.lifecycleStatus.live with
  | none => .error (.notGitManaged, "Pull source applies to a Git-managed Blueprint.")
  | some app =>
    match (app.configuredSourceStackName.or app.stackName).filter fun name => name ≠ "" with
    | none => .error (.noSourceIdentity, "This Blueprint has no Git source to pull.")
    | some stackName =>
      if truthyAt app.suspendedAt then
        .error (.suspended, "This source is suspended. Resume it before pulling.")
      else if app.active.stage = some .applyStarted then
        .error (.applying, "A fetch cannot start while a candidate is being applied.")
      else if app.interruption.stage = some .applyStarted ∧ app.interruption.generationId.isSome ∧
          app.interruption.generationId = app.candidateGenerationId then
        .error (.applying, "A fetch cannot start while an interrupted apply is still unresolved.")
      else if inFlight ∨ app.active.stage = some .fetchStarted then
        .error (.fetchInFlight, "A fetch is already running for this source.")
      else if recoveryWaitHolds app then
        .error (.recovery, "A fetch cannot start while this source is recovering.")
      else .ok (app, stackName)

/-- What holds the slot of an application: an evaluation, an operator pull, or the
preparation and dispatch still running after a pull has answered. -/
inductive Work where
  | evaluation
  | pull
  | follow
  deriving DecidableEq

/-- A promise that has not settled. -/
structure Task where
  work : Work
  applicationId : String
  deriving DecidableEq

/-- How a promise settles.  A pull may settle with work still running behind it. -/
inductive Settlement where
  | resolved
  | rejected
  | continuing
  deriving DecidableEq

/-- The in-flight set, the parked wakes, the promises that run, and every
evaluation begun so far, the latest first. -/
structure Controller where
  db : Db
  inFlight : Finset String
  pendingWakes : String → Option String
  tasks : List Task
  begun : List String

namespace Controller

/-- A controller of a process that has just come up. -/
def init (db : Db) : Controller := ⟨db, ∅, fun _ => none, [], []⟩

/-- Take the slot of an application. -/
def claim (c : Controller) (work : Work) (applicationId : String) : Controller :=
  { c with
    inFlight := insert applicationId c.inFlight
    tasks := ⟨work, applicationId⟩ :: c.tasks
    begun := if work = .evaluation then applicationId :: c.begun else c.begun }

/-- Evaluate the source of a stack now, or park the wake. -/
def evaluateNow (c : Controller) (stackName : String) : Controller :=
  match c.db.getLiveSourceApplication stackName with
  | none => c
  | some app =>
    if app.sourcePolicy = .manual ∨ truthyAt app.suspendedAt = true then c
    else if app.id ∈ c.inFlight then
      { c with pendingWakes := Function.update c.pendingWakes app.id (some stackName) }
    else c.claim .evaluation app.id

/-- Evaluate every source that is due and not in flight. -/
def scan (c : Controller) (now : Int) : Controller :=
  (c.db.listSourcesDueForPoll now ++ c.db.listApplicationsDueForRetry now).foldl
    (fun c app => if app.id ∈ c.inFlight then c else c.claim .evaluation app.id) c

/-- Start an operator pull. -/
def requestFetch (c : Controller) (applicationId : String)
    (confirmation : Option SourceConfirmation) : Controller :=
  match operatorFetchBlock (c.db.getApplication applicationId) (applicationId ∈ c.inFlight) with
  | .error _ => c
  | .ok (app, _) =>
    if (confirmation.bind (sourceConfirmationDrift app)).isSome then c
    else c.claim .pull app.id

/-- Release the slot and run the wake parked against it. -/
def releaseAndDrainWake (c : Controller) (applicationId : String) : Controller :=
  let released := { c with inFlight := c.inFlight.erase applicationId }
  match c.pendingWakes applicationId with
  | none => released
  | some stackName =>
    { released with
      pendingWakes := Function.update c.pendingWakes applicationId none }.evaluateNow stackName

/-- A promise settles.  A pull that answered hands its slot to the work behind it. -/
def settle (c : Controller) (task : Task) (how : Settlement) : Controller :=
  if task ∈ c.tasks then
    let rest := { c with tasks := c.tasks.erase task }
    if task.work = .pull ∧ how = .continuing then
      { rest with tasks := ⟨.follow, task.applicationId⟩ :: rest.tasks }
    else rest.releaseAndDrainWake task.applicationId
  else c

end Controller

/-- Everything that moves the controller. -/
inductive ControllerEvent where
  | rows (db : Db)
  | tick (now : Int)
  | evaluateNow (stackName : String)
  | requestFetch (applicationId : String) (confirmation : Option SourceConfirmation)
  | settle (task : Task) (how : Settlement)

def Controller.step (c : Controller) : ControllerEvent → Controller
  | .rows db => { c with db := db }
  | .tick now => c.scan now
  | .evaluateNow stackName => c.evaluateNow stackName
  | .requestFetch applicationId confirmation => c.requestFetch applicationId confirmation
  | .settle task how => c.settle task how

/-- The controller after a run of events. -/
def runController (db : Db) (events : List ControllerEvent) : Controller :=
  Runs.run Controller.step (.init db) events

end Sencho.GitOps

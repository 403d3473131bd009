import Sencho.Recovery.Types
import Sencho.Verified.JsString
import Sencho.Verified.Table

/-!
# Restore intents

This module embeds the restore intent store: the durable row a restore writes
before anything else happens, its phases and the table of phase transitions,
and the five writes of the store.  A new-volume restore and a staged overwrite
share the row and the transition table; what only an overwrite may enter is a
separate check.

A call that throws leaves the table as it was.  The partial unique index on
live targets, the unique operation column and the primary key are checked
where the database checks them; which operations and points exist when a
call refers to them is an argument, as their tables belong to other stores.
Ids the host generates are arguments and log lines are left out.
-/

namespace Sencho.Recovery

open Verified

inductive RestoreIntentPhase where
  | recorded
  | staging
  | stagedVerified
  | fenced
  | protecting
  | materializing
  | swapping
  | swapped
  | committed
  | rolledBack
  | completionUnknown
  deriving DecidableEq

/-- The phases outside the index on live targets. -/
def RestoreIntentPhase.isSettled : RestoreIntentPhase → Bool
  | .committed | .rolledBack | .completionUnknown => true
  | _ => false

inductive RestoreIntentTargetMode where
  | newVolume
  | newPath
  | stagedOverwrite
  deriving DecidableEq

/-- How far the durable fence around the target's workloads got. -/
inductive RestoreFenceState where
  | none
  | held
  | released
  | releaseFailed
  deriving DecidableEq

/-- One restore intent.  The stacks column is the parsed list; no stacks are
stored as no value. -/
structure IntentRow where
  id : String
  operationId : String
  pointId : String
  targetMode : RestoreIntentTargetMode
  targetVolume : Option String
  pathScope : Option String
  phase : RestoreIntentPhase
  stagingVolume : Option String
  expectedGenerationToken : Option String
  dependentStacks : Option (List String)
  preRestorePointId : Option String
  fenceState : RestoreFenceState
  outcomeClass : Option ErrorClass
  filesRestored : Option Nat
  bytesRestored : Option Nat
  verified : Option Bool
  xattrWarnings : Option Nat
  actor : String
  processEpoch : String
  createdAt : Int
  updatedAt : Int

abbrev IntentTable := Table IntentRow String IntentRow.id

/-- The rows the foreign keys of an intent refer to. -/
structure IntentParents where
  operations : List String
  points : List String

/-- Why a call threw: a recovery error with its class, or a constraint of the
table that no caller translates. -/
inductive IntentError where
  | recovery (errorClass : ErrorClass)
  | uniqueConstraint
  | foreignKeyConstraint

/-- The phases a phase may be followed by. -/
def allowedTransitions : RestoreIntentPhase → List RestoreIntentPhase
  | .recorded => [.staging, .rolledBack, .completionUnknown]
  | .staging => [.stagedVerified, .rolledBack, .completionUnknown]
  | .stagedVerified => [.fenced, .committed, .rolledBack, .completionUnknown]
  | .fenced => [.protecting, .rolledBack, .completionUnknown]
  | .protecting => [.materializing, .rolledBack, .completionUnknown]
  | .materializing => [.swapping, .rolledBack, .completionUnknown]
  | .swapping => [.swapped, .rolledBack, .completionUnknown]
  | .swapped => [.committed, .rolledBack, .completionUnknown]
  | .committed => []
  | .rolledBack => []
  | .completionUnknown => [.committed, .rolledBack]

/-- The phases of a staged overwrite alone, in the order it takes them. -/
def restoreOverwritePhases : List RestoreIntentPhase :=
  [.fenced, .protecting, .materializing, .swapping, .swapped]

/-- What a caller says of a new intent.  An overwrite fills the last three. -/
structure RestoreIntentInput where
  id : Option String
  operationId : String
  pointId : String
  targetVolume : String
  actor : String
  processEpoch : String

structure OverwriteIntentInput extends RestoreIntentInput where
  stagingVolume : String
  expectedGenerationToken : String
  dependentStacks : List String

/-- Evidence an intent may be given with or without a phase change.  A field
without a value keeps the column; the outcome class can be set to no class. -/
structure IntentAdvanceFields where
  filesRestored : Option Nat
  bytesRestored : Option Nat
  verified : Option Bool
  xattrWarnings : Option Nat
  stagingVolume : Option String
  expectedGenerationToken : Option String
  preRestorePointId : Option String
  outcomeClass : Option (Option ErrorClass)

/-- No evidence. -/
def IntentAdvanceFields.empty : IntentAdvanceFields :=
  ⟨none, none, none, none, none, none, none, none⟩

/-- The columns an intent is given beside its phase and its time. -/
def IntentAdvanceFields.apply (extra : IntentAdvanceFields) (now : Int)
    (row : IntentRow) : IntentRow :=
  { row with
    updatedAt := now
    filesRestored := extra.filesRestored.or row.filesRestored
    bytesRestored := extra.bytesRestored.or row.bytesRestored
    verified := extra.verified.or row.verified
    xattrWarnings := extra.xattrWarnings.or row.xattrWarnings
    stagingVolume := extra.stagingVolume.or row.stagingVolume
    expectedGenerationToken :=
      extra.expectedGenerationToken.or row.expectedGenerationToken
    preRestorePointId := extra.preRestorePointId.or row.preRestorePointId
    outcomeClass := extra.outcomeClass.getD row.outcomeClass }

/-- The pre-restore point a write names has to exist. -/
def IntentAdvanceFields.refers (extra : IntentAdvanceFields) (parents : IntentParents) : Bool :=
  extra.preRestorePointId.all fun pointId => parents.points.contains pointId

/-- The stacks column: each name once, in the host's string order. -/
def stackList (names : List String) : Option (List String) :=
  if names.isEmpty then none
  else some (names.eraseDups.mergeSort JsString.le)

namespace IntentTable

variable (t : IntentTable)

def require (id : String) : Except IntentError IntentRow :=
  match t.find? id with
  | some row => .ok row
  | none => .error (.recovery .invalidRequest)

/-- The partial unique index: a live row whose target another live row has. -/
def liveTargetTaken (row : IntentRow) : Bool :=
  !row.phase.isSettled && row.targetVolume.isSome && t.any fun other =>
    other.id ≠ row.id && !other.phase.isSettled && other.targetVolume == row.targetVolume

/-- Write the columns of one row. -/
def set (id : String) (f : IntentRow → IntentRow) (hf : ∀ row, (f row).id = row.id) :
    IntentTable :=
  t.update (fun row => row.id = id) f hf

end IntentTable

namespace RestoreIntentStore

/-- The row of a new intent. -/
def newIntentRow (targetMode : RestoreIntentTargetMode) (newId : String)
    (input : RestoreIntentInput) (stagingVolume expectedGenerationToken : Option String)
    (dependentStacks : List String) (now : Int) : IntentRow where
  id := input.id.getD newId
  operationId := input.operationId
  pointId := input.pointId
  targetMode
  targetVolume := some input.targetVolume
  pathScope := none
  phase := .recorded
  stagingVolume
  expectedGenerationToken
  dependentStacks := stackList dependentStacks
  preRestorePointId := none
  fenceState := .none
  outcomeClass := none
  filesRestored := none
  bytesRestored := none
  verified := none
  xattrWarnings := none
  actor := input.actor
  processEpoch := input.processEpoch
  createdAt := now
  updatedAt := now

/-- Insert a new intent.  A taken id, a taken operation and a taken live target
are all reported as a held lock. -/
def insert (parents : IntentParents) (row : IntentRow) (t : IntentTable) :
    Except IntentError IntentTable :=
  if row.targetVolume = some "" then .error (.recovery .invalidRequest)
  else if t.any (fun other => other.operationId = row.operationId) || t.liveTargetTaken row then
    .error (.recovery .lockHeld)
  else
    match t.insert? row with
    | none => .error (.recovery .lockHeld)
    | some t' =>
      if parents.operations.contains row.operationId &&
          parents.points.contains row.pointId then .ok t'
      else .error .foreignKeyConstraint

/-- Record a new-volume restore before anything else happens. -/
def record (parents : IntentParents) (newId : String) (input : RestoreIntentInput)
    (now : Int) (t : IntentTable) : Except IntentError IntentTable :=
  insert parents (newIntentRow .newVolume newId input none none [] now) t

/-- Record a staged overwrite before anything else happens. -/
def recordOverwrite (parents : IntentParents) (newId : String)
    (input : OverwriteIntentInput) (now : Int) (t : IntentTable) :
    Except IntentError IntentTable :=
  insert parents (newIntentRow .stagedOverwrite newId input.toRestoreIntentInput
      (some input.stagingVolume) (some input.expectedGenerationToken)
      input.dependentStacks now) t

/-- Move an intent forward.  An illegal transition is refused. -/
def advance (parents : IntentParents) (id : String) (phase : RestoreIntentPhase)
    (extra : IntentAdvanceFields) (now : Int) (t : IntentTable) :
    Except IntentError IntentTable := do
  let current ← t.require id
  if !(allowedTransitions current.phase).contains phase then
    .error (.recovery .invalidRequest)
  else if current.targetMode ≠ .stagedOverwrite && restoreOverwritePhases.contains phase then
    .error (.recovery .invalidRequest)
  else if t.liveTargetTaken { current with phase } then
    .error .uniqueConstraint
  else if !extra.refers parents then
    .error .foreignKeyConstraint
  else
    .ok (t.set id (fun row => extra.apply now { row with phase }) fun _ => rfl)

/-- Record the fence state. -/
def setFenceState (id : String) (state : RestoreFenceState) (now : Int)
    (t : IntentTable) : Except IntentError IntentTable := do
  let _ ← t.require id
  .ok (t.set id (fun row => { row with fenceState := state, updatedAt := now }) fun _ => rfl)

/-- Record evidence or an outcome without moving the phase. -/
def update (parents : IntentParents) (id : String) (extra : IntentAdvanceFields)
    (now : Int) (t : IntentTable) : Except IntentError IntentTable := do
  let _ ← t.require id
  if !extra.refers parents then .error .foreignKeyConstraint
  else .ok (t.set id (extra.apply now) fun _ => rfl)

end RestoreIntentStore

end Sencho.Recovery

import Sencho.Recovery.Operations

/-!
# Recovery points

A point is written `pending` before the engine runs and finalized once; the
database refuses any update of a finished point.  `finalize` first reads the
point and then writes it, in two statements that are not one transaction, so
the write is a definition of its own (`finalizeWrite`) that another process may
precede with a settlement of the same point.

The test for credential-shaped text is a parameter: it decides only whether
evidence is refused.
-/

namespace Sencho.Recovery

open Verified

def recoveryPointSchemaVersion : Nat := 1

def volumeProtectionCapabilityVersion : Nat := 1

/-- Cut a path at its slashes. -/
def splitPath (cs : List Char) : List (List Char) :=
  cs.splitOnP fun c => c = '/'

/-- A path scope is relative to the storage root and cannot leave it.  Without
a parent step the normal form drops empty and `.` segments. -/
def canonicalizePathScope (raw : String) : Option String :=
  let cs := raw.toList
  let segments := splitPath cs
  if cs.isEmpty || cs.contains (Char.ofNat 0) then none
  else if cs.head? = some '/' || segments.contains ['.', '.'] then none
  else
    match segments.filter fun s => s ≠ [] && s ≠ ['.'] with
    | [] => none
    | kept => some (String.ofList (['/'].intercalate kept))

def maxSnapshotIdLength : Nat := 128

/-- Canonical exclusions, or nothing when one of the paths is refused. -/
def sanitizeExclusions : List PointExclusion → Option (List PointExclusion)
  | [] => some []
  | e :: es => do
    let path ← canonicalizePathScope e.path
    let rest ← sanitizeExclusions es
    some (⟨path, e.reason⟩ :: rest)

variable (credentialShaped : String → Bool)

/-- Rebuild engine evidence from its known fields, or refuse it. -/
def sanitizeEvidence (evidence : CaptureEvidence) : Option CaptureEvidence :=
  if JsString.trim evidence.snapshotId = "" then none
  else if JsString.length evidence.snapshotId > maxSnapshotIdLength then none
  else
    match sanitizeExclusions evidence.exclusions with
    | none => none
    | some exclusions =>
      if credentialShaped evidence.snapshotId then none
      else some { evidence with exclusions }

/-- Anything the engine could not read makes a point `partial`. -/
def demotedStatus (evidence : CaptureEvidence) (complete : Bool) : PointStatus :=
  if !complete then .partial_
  else if evidence.capture.skippedCount > 0 ||
      evidence.exclusions.any fun e => e.reason ≠ .policyExcluded then .partial_
  else .succeeded

structure BeginPointInput where
  storageId : String
  expectedGenerationToken : String
  repositoryId : String
  trigger : PointTrigger
  actor : String
  sourceOperationId : String
  sourceNodeKey : String
  engineId : String
  scope : PointScope

/-- The scope a point is recorded with. -/
def canonicalScope : PointScope → Option PointScope
  | .root => some .root
  | .path raw => (canonicalizePathScope raw).map .path

def pendingRow (id : String) (input : BeginPointInput) (generation : Nat)
    (scope : PointScope) (now : Int) : PointRow where
  id := id
  schemaVersion := recoveryPointSchemaVersion
  storageId := input.storageId
  storageGeneration := generation
  scope := scope
  repositoryId := input.repositoryId
  snapshotId := none
  status := .pending
  consistency := .unknown
  capture := none
  exclusions := []
  trigger := input.trigger
  actor := input.actor
  sourceOperationId := input.sourceOperationId
  sourceNodeKey := input.sourceNodeKey
  engineId := input.engineId
  capabilityVersion := volumeProtectionCapabilityVersion
  startedAt := now
  completedAt := none
  failureClass := none

/-- Record a point as pending against the generation the caller observed. -/
def begin_ (newId : String) (input : BeginPointInput) (now : Int)
    (db : RecoveryDb) : Except StoreError (PointRow × RecoveryDb) :=
  match db.identities.find? fun s => s.id = input.storageId with
  | none => refuse .identityUnknown
  | some storage =>
    if storage.current = false ∨
        storage.generationToken ≠ input.expectedGenerationToken then
      refuse .identityUnknown
    else if !db.repositories.contains input.repositoryId then
      refuse .repositoryUnavailable
    else
      match canonicalScope input.scope with
      | none => refuse .invalidRequest
      | some scope =>
        let row := pendingRow newId input storage.generation scope now
        match db.points.insert? row with
        | none => .error .duplicateKey
        | some points => .ok (row, { db with points })

inductive PointFinalization where
  | captured (complete : Bool) (evidence : CaptureEvidence)
  | failed (errorClass : ErrorClass)
  | completionUnknown

/-- Update one point by id.  The trigger aborts the statement when the point
is not pending. -/
def updatePoint (id : String) (f : PointRow → PointRow)
    (hf : ∀ r, (f r).id = r.id) (db : RecoveryDb) :
    Except StoreError RecoveryDb :=
  if db.points.any fun r => r.id = id && r.status ≠ .pending then
    .error .pointImmutable
  else .ok { db with points := db.points.update (fun r => r.id = id) f hf }

/-- The columns a finalization writes. -/
def settledPoint (status : PointStatus) (failureClass : Option ErrorClass)
    (now : Int) (r : PointRow) : PointRow :=
  { r with
    status := status, failureClass := failureClass, completedAt := some now }

def capturedPoint (status : PointStatus) (evidence : CaptureEvidence)
    (now : Int) (r : PointRow) : PointRow :=
  { r with
    status := status, snapshotId := some evidence.snapshotId,
    consistency := evidence.consistency, capture := some evidence.capture,
    exclusions := evidence.exclusions, completedAt := some now }

/-- The row a finalization writes.  Evidence that fails validation ends the
point `failed`. -/
def finalizedPoint (outcome : PointFinalization) (now : Int) : PointRow → PointRow :=
  match outcome with
  | .captured complete raw =>
    match sanitizeEvidence credentialShaped raw with
    | none => settledPoint .failed (some .internal) now
    | some evidence => capturedPoint (demotedStatus evidence complete) evidence now
  | .failed c => settledPoint .failed (some c) now
  | .completionUnknown => settledPoint .completionUnknown (some .interrupted) now

theorem finalizedPoint_id (outcome : PointFinalization) (now : Int) (r : PointRow) :
    (finalizedPoint credentialShaped outcome now r).id = r.id := by
  cases outcome with
  | captured complete raw =>
    simp only [finalizedPoint]
    cases sanitizeEvidence credentialShaped raw <;> rfl
  | failed c | completionUnknown => rfl

/-- The error a finalization reports after its write. -/
def finalizeError :
    PointFinalization → Option StoreError
  | .captured _ raw =>
    if (sanitizeEvidence credentialShaped raw).isNone then
      some (.recovery .internal)
    else none
  | .failed _ | .completionUnknown => none

/-- The write of a finalization.  It stays when refused evidence is reported. -/
def finalizeWrite (id : String) (outcome : PointFinalization) (now : Int) (db : RecoveryDb) :
    Option StoreError × RecoveryDb :=
  match updatePoint id (finalizedPoint credentialShaped outcome now)
      (finalizedPoint_id credentialShaped outcome now) db with
  | .ok db' => (finalizeError credentialShaped outcome, db')
  | .error e => (some e, db)

/-- Write the point's only terminal state; a late completion is refused. -/
def finalize (id : String) (outcome : PointFinalization) (now : Int) (db : RecoveryDb) :
    Option StoreError × RecoveryDb :=
  match db.points.find? id with
  | none => (some (.recovery .invalidRequest), db)
  | some current =>
    if current.status ≠ .pending then (some (.recovery .invalidRequest), db)
    else finalizeWrite credentialShaped id outcome now db

end Sencho.Recovery

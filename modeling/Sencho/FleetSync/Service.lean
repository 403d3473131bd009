import Mathlib.Data.List.Basic

/-!
# Fleet sync

A control replicates three tables to a remote.  Every push carries the whole table and a
stamp; the remote keeps the last stamp it applied for each table and refuses a push with an
older one.  Pushes to a remote are chained, a push that fails is recorded for the retry
service, and one that is refused as stale is not.

The stamps come from the wall clock and a counter that the control's process keeps.
-/

namespace Sencho.FleetSync

inductive FleetResource where
  | scan_policies
  | cve_suppressions
  | misconfig_acknowledgements
  deriving DecidableEq

inductive FleetRole where
  | control
  | replica
  deriving DecidableEq

def maxSyncRows : Nat := 5000

def retryMaxAgeMs : Int := 24 * 60 * 60 * 1000

inductive SyncErrorCode where
  | staleSyncPush
  | payloadTooLarge
  | controlIdentityMismatch

structure FleetSyncPayload (Row : Type) where
  rows : List Row
  pushedAt : Int
  targetIdentity : String
  controlIdentity : String

/-- The stamp of a push: the clock, or one more than the last stamp of this process. -/
def nextPushedAt (now lastPushedAt : Int) : Int :=
  if now > lastPushedAt then now else lastPushedAt + 1

/-- The rows a push carries. -/
def loadResource {Row : Type} (rows : List Row) : List Row := rows.take maxSyncRows

/-- What the remote keeps.  A text that is absent or empty is not set. -/
structure Replica (Row : Type) where
  fleetRole : FleetRole
  fleetSelfIdentity : Option String
  fleetControlIdentity : Option String
  receivedPushedAt : FleetResource → Option Int
  replicated : FleetResource → List Row

/-- Why an incoming push is not applied. -/
inductive SyncRefusal where
  | staleSyncPush (previous incoming : Int)
  | controlIdentityMismatch (expected got : String)

def SyncRefusal.message : SyncRefusal → String
  | .staleSyncPush previous incoming =>
    "Stale sync push: pushedAt=" ++ toString incoming ++ " is older than last applied=" ++
      toString previous
  | .controlIdentityMismatch expected got =>
    "Control identity mismatch: replica is anchored to \"" ++ expected ++ "\", push from \"" ++
      got ++ "\""

section Remote

variable {Row : Type}

/-- The remote belongs to the first control that names itself. -/
def Replica.anchor (replica : Replica Row) (controlIdentity : String) :
    Except SyncRefusal (Replica Row) :=
  if controlIdentity = "" then .ok replica
  else
    match replica.fleetControlIdentity.filter fun cached => cached ≠ "" with
    | none => .ok { replica with fleetControlIdentity := some controlIdentity }
    | some cached =>
      if cached = controlIdentity then .ok replica
      else .error (.controlIdentityMismatch cached controlIdentity)

/-- The stamp of the last push applied moves to this one's. -/
def Replica.watermark (replica : Replica Row) (resource : FleetResource)
    (pushedAt : Option Int) : Except SyncRefusal (Replica Row) :=
  match pushedAt with
  | none => .ok replica
  | some pushedAt =>
    let moved :=
      { replica with
        receivedPushedAt := fun r =>
          if r = resource then some pushedAt else replica.receivedPushedAt r }
    match replica.receivedPushedAt resource with
    | some previous =>
      if pushedAt < previous then .error (.staleSyncPush previous pushedAt) else .ok moved
    | none => .ok moved

/-- Apply a push, in one transaction. -/
def applyIncomingSync (replica : Replica Row) (resource : FleetResource) (rows : List Row)
    (targetIdentity : String) (pushedAt : Option Int) (controlIdentity : String) :
    Except SyncRefusal (Replica Row) := do
  let anchored ← replica.anchor controlIdentity
  let moved ← anchored.watermark resource pushedAt
  return { moved with
    fleetRole := .replica
    fleetSelfIdentity :=
      if targetIdentity = "" then moved.fleetSelfIdentity else some targetIdentity
    replicated := fun r => if r = resource then rows else moved.replicated r }

/-- What the remote answers. -/
inductive SyncAnswer where
  | success (applied : Nat)
  | refused (refusal : SyncRefusal)
  | failed (status : Nat) (error : String)

/-- The first row that does not validate, with its index and what is wrong with it. -/
def firstInvalid (validate : Row → Option String) (i : Nat) : List Row → Option (Nat × String)
  | [] => none
  | row :: rows =>
    match validate row with
    | some err => some (i, err)
    | none => firstInvalid validate (i + 1) rows

/-- Receive a push.  A stamp that is not positive counts as absent. -/
def receiveSync (validate : FleetResource → Row → Option String) (replica : Replica Row)
    (resource : FleetResource) (payload : FleetSyncPayload Row) : Replica Row × SyncAnswer :=
  if payload.rows.length > maxSyncRows then
    (replica, .failed 413 ("Too many rows (max " ++ toString maxSyncRows ++ ")"))
  else
    match firstInvalid (validate resource) 0 payload.rows with
    | some (i, err) =>
      (replica, .failed 400 ("Invalid row at index " ++ toString i ++ ": " ++ err))
    | none =>
      match applyIncomingSync replica resource payload.rows payload.targetIdentity
          (if payload.pushedAt > 0 then some payload.pushedAt else none)
          payload.controlIdentity with
      | .ok replica => (replica, .success payload.rows.length)
      | .error refusal => (replica, .refused refusal)

end Remote

/-- The row of a remote and a resource. -/
structure FleetSyncStatus where
  last_success_at : Option Int
  last_failure_at : Option Int
  sticky_error_code : Option SyncErrorCode

/-- A push succeeded.  An earlier failure keeps its time. -/
def recordFleetSyncSuccess (now : Int) (status : Option FleetSyncStatus) : FleetSyncStatus :=
  match status with
  | none => ⟨some now, none, none⟩
  | some row => { row with last_success_at := some now, sticky_error_code := none }

def recordFleetSyncFailure (now : Int) (status : Option FleetSyncStatus) : FleetSyncStatus :=
  match status with
  | none => ⟨none, some now, none⟩
  | some row => { row with last_failure_at := some now }

def setFleetSyncSticky (code : SyncErrorCode) (status : Option FleetSyncStatus) :
    FleetSyncStatus :=
  match status with
  | none => ⟨none, none, some code⟩
  | some row => { row with sticky_error_code := some code }

def getFleetSyncStickyCode (status : Option FleetSyncStatus) : Option SyncErrorCode :=
  status.bind FleetSyncStatus.sticky_error_code

/-- A failure that no success has followed, and that a retry may resolve. -/
def FleetSyncStatus.unresolved (row : FleetSyncStatus) : Bool :=
  match row.last_failure_at with
  | none => false
  | some failure =>
    row.last_success_at.all (fun success => success < failure) && row.sticky_error_code.isNone

/-- What the retry service sends again: an unresolved failure that is not too old. -/
def getFailedSyncTarget (now maxAgeMs : Int) (status : Option FleetSyncStatus) :
    Option FleetSyncStatus :=
  status.filter fun row =>
    row.unresolved && row.last_failure_at.any fun failure => failure > now - maxAgeMs

/-- What the control records of an answer, or of none.  A push refused as stale is not a
failure. -/
def recordAnswer (now : Int) (answer : Option SyncAnswer) (status : Option FleetSyncStatus) :
    Option FleetSyncStatus :=
  match answer with
  | some (.success _) => some (recordFleetSyncSuccess now status)
  | some (.refused (.staleSyncPush _ _)) => status
  | some (.refused (.controlIdentityMismatch _ _)) =>
    some (setFleetSyncSticky .controlIdentityMismatch
      (some (recordFleetSyncFailure now status)))
  | some (.failed _ _) | none => some (recordFleetSyncFailure now status)

end Sencho.FleetSync

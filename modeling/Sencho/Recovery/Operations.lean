import Sencho.Recovery.Types
import Sencho.Verified.JsString
import Sencho.Verified.Table

/-!
# Recovery operations and their locks

This module embeds the operation store: durable recovery operations, the
storage and repository locks they hold, and boot reconciliation.  Every
operation and lock records the epoch of the process that owns it.

A call is a function of the epoch of the process that makes it and of the
tables; one transaction is one function, and a call that throws leaves the
tables as they were.  Ids the host generates are arguments.  The checks the
host makes against untyped callers (an ending that is not terminal, a failure
class outside the list) are excluded by the argument types here, and log lines
are left out.
-/

namespace Sencho.Recovery

open Verified

structure OperationRow where
  id : String
  idempotencyKey : String
  kind : OperationKind
  storageId : Option String
  pointId : Option String
  actor : String
  transport : Transport
  state : OperationState
  errorClass : Option ErrorClass
  requestDigest : Option String
  processEpoch : String
  createdAt : Int
  updatedAt : Int
  completedAt : Option Int

structure LockRow where
  scope : LockScope
  resourceKey : String
  ownerOperationId : String
  processEpoch : String
  acquiredAt : Int
  staleSince : Option Int
  deriving DecidableEq

/-- The primary key of a lock. -/
abbrev LockKey := LockScope × String

def LockRow.key (l : LockRow) : LockKey := (l.scope, l.resourceKey)

/-- A lock that waits for review. -/
def LockRow.stale (l : LockRow) (now : Int) : LockRow :=
  { l with staleSince := some now }

theorem LockRow.key_stale (l : LockRow) (now : Int) : (l.stale now).key = l.key := rfl

structure PointRow where
  id : String
  schemaVersion : Nat
  storageId : String
  storageGeneration : Nat
  scope : PointScope
  repositoryId : String
  snapshotId : Option String
  status : PointStatus
  consistency : Consistency
  capture : Option CaptureSummary
  exclusions : List PointExclusion
  trigger : PointTrigger
  actor : String
  sourceOperationId : String
  sourceNodeKey : String
  engineId : String
  capabilityVersion : Nat
  startedAt : Int
  completedAt : Option Int
  failureClass : Option ErrorClass

/-- The columns of a storage identity the recovery stores read. -/
structure StorageIdentityRow where
  id : String
  storageKey : String
  generation : Nat
  generationToken : String
  current : Bool

/-- The tables of the recovery stores.  Identities and repositories are
written by other modules and only read here. -/
structure RecoveryDb where
  operations : Table OperationRow String OperationRow.id
  locks : Table LockRow LockKey LockRow.key
  points : Table PointRow String PointRow.id
  identities : List StorageIdentityRow
  repositories : List String

def RecoveryDb.empty : RecoveryDb := ⟨.empty, .empty, .empty, [], []⟩

/-- Why a call threw: a recovery error with its class, a duplicate key, or the
trigger that keeps a finished point immutable. -/
inductive StoreError where
  | recovery (errorClass : ErrorClass)
  | duplicateKey
  | pointImmutable

/-- The text an error carries. -/
def StoreError.message : StoreError → String
  | .recovery c => errorDetailFor c
  | .duplicateKey => "UNIQUE constraint failed"
  | .pointImmutable => "recovery point is immutable"

def refuse {α : Type} (c : ErrorClass) : Except StoreError α :=
  .error (.recovery c)

namespace RecoveryDb

variable (db : RecoveryDb)

def require (id : String) : Except StoreError OperationRow :=
  match db.operations.find? id with
  | some row => .ok row
  | none => refuse .invalidRequest

/-- A conditional update of operations; the key column is not written. -/
def setOperations (p : OperationRow → Bool) (state : OperationState)
    (errorClass : Option ErrorClass) (now : Int) : RecoveryDb :=
  { db with
    operations := db.operations.update p (fun r => { r with
        state := state, errorClass := errorClass, updatedAt := now,
        completedAt := some now })
      fun _ => rfl }

/-- Settle the points that meet a condition and are pending. -/
def settlePending (p : PointRow → Bool) (status : PointStatus)
    (failureClass : ErrorClass) (now : Int) : RecoveryDb :=
  { db with
    points := db.points.update (fun r => p r && r.status = .pending) (fun r => { r with
        status := status, failureClass := some failureClass,
        completedAt := some now })
      fun _ => rfl }

def staleLocks (p : LockRow → Bool) (now : Int) : RecoveryDb :=
  { db with
    locks := db.locks.update (fun l => p l && l.staleSince.isNone)
      (·.stale now) (LockRow.key_stale · now) }

def deleteLocks (p : LockRow → Bool) : RecoveryDb :=
  { db with locks := db.locks.delete p }

end RecoveryDb

structure StartInput where
  idempotencyKey : String
  kind : OperationKind
  storageId : Option String
  pointId : Option String
  actor : String
  transport : Transport
  requestDigest : Option String

structure StartedOperation where
  operation : OperationRow
  replayed : Bool

/-- A lower-case SHA-256 in hexadecimal. -/
def isDigest (s : String) : Bool :=
  s.toList.length == 64 && s.toList.all fun c => c.isDigit || ('a' ≤ c && c ≤ 'f')

/-- Whether a stored operation was created by this very request. -/
def sameRequest (row : OperationRow) (input : StartInput) : Bool :=
  row.kind == input.kind && row.storageId == input.storageId &&
    row.pointId == input.pointId && row.actor == input.actor &&
    row.transport == input.transport && row.requestDigest == input.requestDigest

variable (db : RecoveryDb) (epoch : String)

/-- The row a new request creates. -/
def queuedRow (id key : String) (input : StartInput) (now : Int) : OperationRow where
  id := id
  idempotencyKey := key
  kind := input.kind
  storageId := input.storageId
  pointId := input.pointId
  actor := input.actor
  transport := input.transport
  state := .queued
  errorClass := none
  requestDigest := input.requestDigest
  processEpoch := epoch
  createdAt := now
  updatedAt := now
  completedAt := none

/-- A key that is known answers with the operation it created, for the same
request only; a new key creates an operation. -/
def start (newId : String) (input : StartInput) (now : Int) (db : RecoveryDb) :
    Except StoreError (StartedOperation × RecoveryDb) :=
  let key := JsString.trim input.idempotencyKey
  if key = "" ∨ JsString.length key > 200 then refuse .invalidRequest
  else if input.requestDigest.any fun d => !isDigest d then
    refuse .invalidRequest
  else
    match db.operations.rows.find? fun r => r.idempotencyKey = key with
    | some row =>
      if sameRequest row input then .ok (⟨row, true⟩, db)
      else refuse .invalidRequest
    | none =>
      let row := queuedRow epoch newId key input now
      match db.operations.insert? row with
      | none => .error .duplicateKey
      | some operations => .ok (⟨row, false⟩, { db with operations })

/-- The operation `markRunning` moves. -/
def queuedHere (id : String) (r : OperationRow) : Bool :=
  r.id = id && r.state = .queued && r.processEpoch = epoch

def RecoveryDb.setRunning (p : OperationRow → Bool) (now : Int) : RecoveryDb :=
  { db with
    operations := db.operations.update p
      (fun r => { r with state := .running, updatedAt := now }) fun _ => rfl }

/-- Move an operation this process queued to running; a replay is a no-op. -/
def markRunning (id : String) (now : Int) (db : RecoveryDb) :
    Except StoreError (OperationRow × RecoveryDb) := do
  let changed := db.operations.any (queuedHere epoch id)
  let db' := db.setRunning (queuedHere epoch id) now
  let op ← db'.require id
  if changed ∨ (op.state = .running ∧ op.processEpoch = epoch) then .ok (op, db')
  else if isTerminal op.state = false ∧ op.processEpoch ≠ epoch then
    refuse .interrupted
  else refuse .invalidRequest

/-- Whether a lock key names a storage or a repository that exists. -/
def lockTargetExists (k : LockKey) : Bool :=
  match k.1 with
  | .storage => db.identities.any fun s => s.storageKey = k.2
  | .repository => db.repositories.contains k.2

/-- The row a process takes a lock with. -/
def lockRow (k : LockKey) (operationId : String) (now : Int) : LockRow :=
  ⟨k.1, k.2, operationId, epoch, now, none⟩

/-- Take a lock for a live operation of this process. -/
def acquireLock (k : LockKey) (operationId : String) (now : Int) (db : RecoveryDb) :
    Except StoreError (LockRow × RecoveryDb) := do
  let op ← db.require operationId
  if isTerminal op.state then refuse .invalidRequest
  else if !lockTargetExists db k then refuse .invalidRequest
  else
    match db.locks.find? k with
    | some l =>
      if l.staleSince ≠ none ∨ l.processEpoch ≠ epoch then refuse .lockStale
      else if l.ownerOperationId ≠ operationId then refuse .lockHeld
      else .ok (l, db)
    | none =>
      if op.processEpoch ≠ epoch then refuse .interrupted
      else
        let row := lockRow epoch k operationId now
        match db.locks.insert? row with
        | none => .error .duplicateKey
        | some locks => .ok (row, { db with locks })

/-- Take a list of locks in order; one refusal refuses the whole step. -/
def acquireLocks (epoch : String) (operationId : String) (now : Int) :
    List LockKey → RecoveryDb → Except StoreError RecoveryDb
  | [], db => .ok db
  | k :: ks, db => do
    let (_, db') ← acquireLock epoch k operationId now db
    acquireLocks epoch operationId now ks db'

/-- Record an operation, mark it running and take every lock it needs, as one
step.  `setup` stands for the rows of other tables a caller records with it; it
can refuse the step, and never runs for a replay. -/
def admitOperation (newId : String) (input : StartInput) (locks : List LockKey)
    (setup : RecoveryDb → OperationRow → Except StoreError Unit) (now : Int) (db : RecoveryDb) :
    Except StoreError (StartedOperation × RecoveryDb) := do
  let (started, db₁) ← start epoch newId input now db
  if started.replayed then .ok (started, db₁)
  else do
    let (_, db₂) ← markRunning epoch started.operation.id now db₁
    let db₃ ← acquireLocks epoch started.operation.id now locks db₂
    let op ← db₃.require started.operation.id
    setup db₃ op
    .ok (⟨op, false⟩, db₃)

/-- Release a stale lock after review.  A live lock is never released here. -/
def releaseStaleLock (k : LockKey) (db : RecoveryDb) : Except StoreError (LockRow × RecoveryDb) :=
  match db.locks.find? k with
  | none => refuse .invalidRequest
  | some l =>
    if l.staleSince = none then refuse .invalidRequest
    else .ok (l, db.deleteLocks fun l => l.key = k)

/-- The stale repository locks boot may release: those of a provisioning
operation on any repository, and those of captures, checks and restores on the
repository restic has just unlocked. -/
def interruptedRepositoryLock (activeId : Option String) (l : LockRow) : Bool :=
  l.scope == .repository && l.staleSince.isSome && db.operations.any fun o =>
      o.id == l.ownerOperationId && (o.kind == .repositoryInit || (activeId == some l.resourceKey &&
            (o.kind == .createPoint || o.kind == .verifyPoint || o.kind == .restore)))

def releaseInterruptedRepositoryLocks (activeId : Option String) (db : RecoveryDb) : RecoveryDb :=
  db.deleteLocks (interruptedRepositoryLock db activeId)

/-- The operation a conditional ending of `finish` writes. -/
def finishable (id : String) (r : OperationRow) : Bool :=
  r.id = id && !isTerminal r.state && r.processEpoch = epoch

/-- The points an ending settles: `failed` with the operation's class, any
other ending that does not need them finalized first as unknown. -/
def settlePoints (id : String) (outcome : OperationFinish) (now : Int)
    (db : RecoveryDb) : RecoveryDb :=
  let mine : PointRow → Bool := fun p => p.sourceOperationId = id
  match outcome with
  | .failed c => db.settlePending mine .failed c now
  | .succeeded | .partial_ _ => db
  | .cancelled | .completionUnknown =>
    db.settlePending mine .completionUnknown .interrupted now

/-- The locks an ending settles: stale when the outcome is unknown, gone when
it is known. -/
def settleLocks (id : String) (outcome : OperationFinish) (now : Int)
    (db : RecoveryDb) : RecoveryDb :=
  let mine : LockRow → Bool := fun l => l.ownerOperationId = id
  match outcome with
  | .completionUnknown => db.staleLocks mine now
  | .succeeded | .cancelled | .partial_ _ | .failed _ => db.deleteLocks mine

/-- The writes of an ending: the operation, its points and its locks. -/
def endOperation (id : String) (outcome : OperationFinish) (now : Int) (db : RecoveryDb) :
    RecoveryDb :=
  settleLocks id outcome now (settlePoints id outcome now
    (db.setOperations (finishable epoch id) outcome.state outcome.errorClass now))

/-- Record the one terminal state.  A finished operation is never rewritten. -/
def finish (id : String) (outcome : OperationFinish) (now : Int) (db : RecoveryDb) :
    Except StoreError (OperationRow × RecoveryDb) := do
  let current ← db.require id
  if isTerminal current.state then .ok (current, db)
  else if current.processEpoch ≠ epoch then refuse .interrupted
  else if outcome.pointsFinalizedFirst &&
      db.points.any fun p => p.sourceOperationId = id && p.status = .pending then
    refuse .invalidRequest
  else
    let db' := endOperation epoch id outcome now db
    let stored ← db'.require id
    .ok (stored, db')

/-- Whether an operation reads as interrupted with an unknown outcome. -/
def parked (r : OperationRow) : Bool :=
  r.state = .completionUnknown && r.errorClass = some .interrupted

/-- The writes of a proven ending: the operation and its storage locks. -/
def settleOperation (id : String) (outcome : OperationFinish) (now : Int)
    (db : RecoveryDb) : RecoveryDb :=
  (db.setOperations (fun r => r.id = id && parked r) outcome.state
    outcome.errorClass now).deleteLocks fun l =>
      l.ownerOperationId = id && l.scope = .storage

/-- Replace an unknown ending with the ending its owner has proven, and release
its storage locks. -/
def settleReconciled (id : String) (outcome : OperationFinish) (now : Int)
    (db : RecoveryDb) : Except StoreError (OperationRow × RecoveryDb) :=
  if outcome.state = .completionUnknown then refuse .invalidRequest
  else do
    let current ← db.require id
    if !parked current then .ok (current, db)
    else
      let db' := settleOperation id outcome now db
      let stored ← db'.require id
      .ok (stored, db')

/-- Whether a pending point's operation is still live. -/
def sourceLive (p : PointRow) : Bool :=
  db.operations.any fun o => o.id = p.sourceOperationId && !isTerminal o.state

/-- The live operations of other processes end unknown. -/
def interruptOthers (now : Int) (db : RecoveryDb) : RecoveryDb :=
  db.setOperations (fun r => !isTerminal r.state && r.processEpoch ≠ epoch)
    .completionUnknown (some .interrupted) now

/-- Settle what other processes left behind: their live operations, the pending
points whose operation is not live, and their locks. -/
def reconcile (now : Int) (db : RecoveryDb) : RecoveryDb :=
  let db₁ := interruptOthers epoch now db
  let db₂ := db₁.settlePending (fun p => !sourceLive db₁ p) .completionUnknown .interrupted now
  db₂.staleLocks (fun l => l.processEpoch ≠ epoch) now

end Sencho.Recovery

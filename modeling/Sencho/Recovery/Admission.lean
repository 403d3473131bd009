import Sencho.Recovery.OperationLocks
import Sencho.Verified.Savepoints

/-!
# Admissions, statement by statement

This module embeds `start`, `markRunning`, `acquireLock` and `admit` as code on
a connection: the statements they issue, in order, and the transactions they
open inside one another.  A throw leaves what was written before it, and only
the transaction around it takes the writes back.

The rows are those of the recovery tables and of the other stores a `setup`
writes (`ρ`).  A `setup` is any code on the points and on those other rows; it
reads everything and may throw anything.
-/

namespace Sencho.Recovery

open Verified Savepoints

/-- What an admission throws: a refusal of the store, or what its `setup`
threw. -/
inductive AdmissionFailure (ξ : Type) where
  | store (e : StoreError)
  | setup (x : ξ)

/-- The rows an admission reads and writes. -/
abbrev AdmissionRows (ρ : Type) := RecoveryDb × ρ

abbrev Sql (ρ ξ α : Type) := Code (AdmissionRows ρ) (AdmissionFailure ξ) α

/-- The rows a `setup` writes. -/
abbrev SetupRows (ρ : Type) := Table PointRow String PointRow.id × ρ

section Statements

variable {ρ ξ α β : Type}

/-- A function of the recovery tables, as a function of all rows. -/
def onDb (f : RecoveryDb → Except StoreError (α × RecoveryDb)) (s : AdmissionRows ρ) :
    Except (AdmissionFailure ξ) (α × AdmissionRows ρ) :=
  match f s.1 with
  | .ok (a, db) => .ok (a, (db, s.2))
  | .error e => .error (.store e)

def refuseSql (c : ErrorClass) : Sql ρ ξ α := .throw (.store (.recovery c))

def operationByKey (key : String) : Sql ρ ξ (Option OperationRow) :=
  .select fun s => s.1.operations.rows.find? fun r => r.idempotencyKey = key

/-- The insert of an operation.  Its id and its idempotency key are unique. -/
def insertedOperation (row : OperationRow) (db : RecoveryDb) :
    Except StoreError (Unit × RecoveryDb) :=
  if db.operations.any fun r => r.idempotencyKey = row.idempotencyKey then
    .error .duplicateKey
  else
    match db.operations.insert? row with
    | none => .error .duplicateKey
    | some operations => .ok ((), { db with operations })

def insertOperation (row : OperationRow) : Sql ρ ξ Unit :=
  .statement (onDb (insertedOperation row))

def requireSql (id : String) : Sql ρ ξ OperationRow :=
  .statement <| onDb fun db => (db.require id).map fun r => (r, db)

/-- The conditional update of `markRunning`, with whether it changed a row. -/
def updateRunning (epoch id : String) (now : Int) : Sql ρ ξ Bool :=
  .statement <| onDb fun db =>
    .ok (db.operations.any (queuedHere epoch id), db.setRunning (queuedHere epoch id) now)

def findLockRow (k : LockKey) : Sql ρ ξ (Option LockRow) :=
  .select fun s => s.1.locks.find? k

def insertLock (row : LockRow) : Sql ρ ξ Unit :=
  .statement <| onDb fun db =>
    match db.locks.insert? row with
    | none => .error .duplicateKey
    | some locks => .ok ((), { db with locks })

end Statements

section Calls

variable {ρ ξ : Type}

/-- The answer of `start` once it has looked the key up: the operation that is
there, for the same request only, or a new one. -/
def answerSql (input : StartInput) (row : OperationRow) :
    Option OperationRow → Sql ρ ξ StartedOperation
  | some existing =>
    if sameRequest existing input then return ⟨existing, true⟩
    else refuseSql .invalidRequest
  | none => do
    insertOperation row
    let op ← requireSql row.id
    return ⟨op, false⟩

def startSql (epoch newId : String) (input : StartInput) (now : Int) : Sql ρ ξ StartedOperation :=
  let key := JsString.trim input.idempotencyKey
  if key = "" ∨ JsString.length key > 200 then refuseSql .invalidRequest
  else if input.requestDigest.any fun d => !isDigest d then refuseSql .invalidRequest
  else .transaction do
    let existing ← operationByKey key
    answerSql input (queuedRow epoch newId key input now) existing

def markRunningSql (epoch id : String) (now : Int) : Sql ρ ξ OperationRow := do
  let changed ← updateRunning epoch id now
  let op ← requireSql id
  if changed ∨ (op.state = .running ∧ op.processEpoch = epoch) then return op
  else if isTerminal op.state = false ∧ op.processEpoch ≠ epoch then
    refuseSql .interrupted
  else refuseSql .invalidRequest

/-- The answer of `acquireLock` once it has looked the lock up: the owner has it
again, and a lock nobody holds is taken. -/
def takeLockSql (epoch : String) (op : OperationRow) (row : LockRow) :
    Option LockRow → Sql ρ ξ LockRow
  | some l =>
    if l.staleSince ≠ none ∨ l.processEpoch ≠ epoch then refuseSql .lockStale
    else if l.ownerOperationId ≠ row.ownerOperationId then refuseSql .lockHeld
    else return l
  | none =>
    if op.processEpoch ≠ epoch then refuseSql .interrupted
    else do
      insertLock row
      let taken ← findLockRow row.key
      return taken.getD row

def acquireLockSql (epoch : String) (k : LockKey) (operationId : String)
    (now : Int) : Sql ρ ξ LockRow :=
  .transaction do
    let op ← requireSql operationId
    if isTerminal op.state then refuseSql .invalidRequest
    else do
      let target ← Code.select fun s => lockTargetExists s.1 k
      if !target then refuseSql .invalidRequest
      else do
        let existing ← findLockRow k
        takeLockSql epoch op (lockRow epoch k operationId now) existing

/-- The locks of an admission, in the order of the list. -/
def acquireLocksSql (epoch : String) (operationId : String) (now : Int) :
    List LockKey → Sql ρ ξ Unit
  | [] => return ()
  | k :: ks => do
    let _ ← acquireLockSql epoch k operationId now
    acquireLocksSql epoch operationId now ks

end Calls

/-- One call of `admit`, in the process of an epoch. -/
structure Admission (ρ ξ τ : Type) where
  epoch : String
  newId : String
  input : StartInput
  locks : List LockKey
  setup : Option (RecoveryDb → OperationRow → Code (SetupRows ρ) ξ τ)
  now : Int

structure AdmittedOperation (τ : Type) where
  started : StartedOperation
  setup : Option τ

/-- A `setup` on the points and the other rows. -/
def runSetup {ρ ξ τ : Type} (setup : RecoveryDb → OperationRow → Code (SetupRows ρ) ξ τ)
    (op : OperationRow) : Sql ρ ξ τ :=
  .zoom (fun s => (s.1.points, s.2)) (fun t s => ({ s.1 with points := t.1 }, t.2))
    .setup fun s => setup s.1 op

namespace Admission

variable {ρ ξ τ : Type}

/-- The `setup` of an admission, when there is one. -/
def prepare (a : Admission ρ ξ τ) (operationId : String) : Sql ρ ξ (Option τ) :=
  match a.setup with
  | none => return none
  | some setup => do
    let op ← requireSql operationId
    let prepared ← runSetup setup op
    return some prepared

/-- An admission that is new, once its operation is recorded. -/
def record (a : Admission ρ ξ τ) (operationId : String) : Sql ρ ξ (AdmittedOperation τ) := do
  let _ ← markRunningSql a.epoch operationId a.now
  acquireLocksSql a.epoch operationId a.now a.locks
  let prepared ← a.prepare operationId
  let op ← requireSql operationId
  return ⟨⟨op, false⟩, prepared⟩

/-- What follows `start` in an admission. -/
def followed (a : Admission ρ ξ τ) (started : StartedOperation) : Sql ρ ξ (AdmittedOperation τ) :=
  if started.replayed then return ⟨started, none⟩
  else a.record started.operation.id

def code (a : Admission ρ ξ τ) : Sql ρ ξ (AdmittedOperation τ) :=
  .transaction do
    let started ← startSql a.epoch a.newId a.input a.now
    a.followed started

end Admission

section Computed

variable {ρ ξ α β : Type}
variable {f : RecoveryDb → Except StoreError (α × RecoveryDb)} {p : Sql ρ ξ α} (epoch : String)

theorem onDb_bind (f : RecoveryDb → Except StoreError (α × RecoveryDb))
    (k : α → RecoveryDb → Except StoreError (β × RecoveryDb)) (s : AdmissionRows ρ) :
    (onDb f s >>= fun r => onDb (k r.1) r.2 : Except (AdmissionFailure ξ) (β × AdmissionRows ρ)) =
      onDb (fun db => f db >>= fun r => k r.1 r.2) s := by
  simp only [onDb, bind, Except.bind]
  cases f s.1 with
  | ok r | error e => rfl

/-- One call after another, both on the recovery tables. -/
theorem computes_onDb_bind {q : α → Sql ρ ξ β}
    {k : α → RecoveryDb → Except StoreError (β × RecoveryDb)} (hp : Computes p (onDb f))
    (hq : ∀ a, Computes (q a) (onDb (k a))) :
    Computes (p >>= q) (onDb fun db => f db >>= fun r => k r.1 r.2) :=
  (hp.bind hq).congr (onDb_bind f k)

theorem computes_onDb_pure (a : α) :
    Computes (pure a : Sql ρ ξ α) (onDb fun db => .ok (a, db)) := Computes.pure a

theorem computes_refuseSql (c : ErrorClass) :
    Computes (refuseSql c : Sql ρ ξ α) (onDb fun _ => refuse c) :=
  Computes.throw _

theorem computes_selectDb (f : RecoveryDb → α) :
    Computes (.select fun s => f s.1 : Sql ρ ξ α) (onDb fun db => .ok (f db, db)) :=
  Computes.select _

theorem operationByKey_computes (key : String) :
    Computes (operationByKey key : Sql ρ ξ (Option OperationRow)) (onDb fun db =>
        .ok (db.operations.rows.find? fun r => r.idempotencyKey = key, db)) :=
  Computes.select _

theorem findLockRow_computes (k : LockKey) : Computes (findLockRow k : Sql ρ ξ (Option LockRow))
      (onDb fun db => .ok (db.locks.find? k, db)) := Computes.select _

/-- A check of the arguments, before the tables are read. -/
theorem computes_onDb_ite {c : Prop} [Decidable c] {q : Sql ρ ξ α}
    {g : RecoveryDb → Except StoreError (α × RecoveryDb)} (hp : Computes p (onDb f))
    (hq : Computes q (onDb g)) :
    Computes (if c then p else q) (onDb fun db => if c then f db else g db) := by
  by_cases hc : c
  · simpa only [if_pos hc] using hp
  · simpa only [if_neg hc] using hq

theorem Computes.onDb_congr {g : RecoveryDb → Except StoreError (α × RecoveryDb)}
    (h : Computes p (onDb f)) (hfg : ∀ db, f db = g db) : Computes p (onDb g) :=
  h.congr fun s => by rw [show f = g from funext hfg]

theorem require_inserted {db : RecoveryDb} {row : OperationRow}
    {operations : Table OperationRow String OperationRow.id}
    (hins : db.operations.insert? row = some operations) :
    ({ db with operations } : RecoveryDb).require row.id = .ok row := by
  have hfind : operations.find? row.id = some row := by
    rw [(Table.insert?_eq_some hins).2, if_pos rfl]
  simp only [RecoveryDb.require, hfind]

/-- The tables after `answerSql`. -/
def answer (input : StartInput) (row : OperationRow) : Option OperationRow → RecoveryDb →
      Except StoreError (StartedOperation × RecoveryDb)
  | some existing, db =>
    if sameRequest existing input then .ok (⟨existing, true⟩, db)
    else refuse .invalidRequest
  | none, db => do
    let inserted ← insertedOperation row db
    let found ← (inserted.2.require row.id).map fun r => (r, inserted.2)
    .ok (⟨found.1, false⟩, found.2)

theorem answerSql_computes (input : StartInput) (row : OperationRow)
    (existing : Option OperationRow) :
    Computes (answerSql input row existing : Sql ρ ξ StartedOperation)
      (onDb (answer input row existing)) := by
  cases existing with
  | some existing =>
    exact computes_onDb_ite (computes_onDb_pure _) (computes_refuseSql _)
  | none =>
    exact computes_onDb_bind (Computes.statement _) fun _ =>
      computes_onDb_bind (Computes.statement _) fun op => computes_onDb_pure _

theorem startSql_computes (newId : String) (input : StartInput) (now : Int) :
    Computes (startSql epoch newId input now : Sql ρ ξ StartedOperation)
      (onDb (start epoch newId input now)) := by
  unfold startSql start
  dsimp only
  generalize JsString.trim input.idempotencyKey = key
  refine computes_onDb_ite (computes_refuseSql _) (computes_onDb_ite (computes_refuseSql _) ?_)
  refine Computes.transaction (Computes.onDb_congr
    (computes_onDb_bind (operationByKey_computes key) (answerSql_computes input _))
    fun db => ?_)
  cases hfind : db.operations.rows.find? fun r => r.idempotencyKey = key with
  | some row => rfl
  | none =>
    have hany : (db.operations.any fun r => r.idempotencyKey = key) = false := by
      simpa [Table.any] using hfind
    cases hins : db.operations.insert? (queuedRow epoch newId key input now) with
    | none =>
      have hrf : insertedOperation (queuedRow epoch newId key input now) db =
          .error .duplicateKey := by
        simp only [insertedOperation, hins]
        exact if_neg (Bool.eq_false_iff.mp hany)
      simp only [answer, bind, Except.bind, hrf]
    | some operations =>
      have hinserted : insertedOperation (queuedRow epoch newId key input now) db =
          .ok ((), { db with operations }) := by
        simp only [insertedOperation, hins]
        exact if_neg (Bool.eq_false_iff.mp hany)
      simp only [answer, bind, Except.bind, hinserted, require_inserted hins, Except.map]

theorem requireSql_computes (id : String) : Computes (requireSql id : Sql ρ ξ OperationRow)
      (onDb fun db => (db.require id).map fun r => (r, db)) := Computes.statement _

theorem markRunningSql_computes (id : String) (now : Int) :
    Computes (markRunningSql epoch id now : Sql ρ ξ OperationRow)
      (onDb (markRunning epoch id now)) := by
  refine Computes.onDb_congr (computes_onDb_bind (Computes.statement _) fun changed =>
    computes_onDb_bind (requireSql_computes id) fun op =>
      computes_onDb_ite (computes_onDb_pure op)
        (computes_onDb_ite (computes_refuseSql _) (computes_refuseSql _)))
    fun db => ?_
  simp only [markRunning, bind, Except.bind]
  cases (db.setRunning (queuedHere epoch id) now).require id with
  | ok op | error e => rfl

/-- The tables after `takeLockSql`. -/
def takeLock (epoch : String) (op : OperationRow) (row : LockRow) :
    Option LockRow → RecoveryDb → Except StoreError (LockRow × RecoveryDb)
  | some l, db =>
    if l.staleSince ≠ none ∨ l.processEpoch ≠ epoch then refuse .lockStale
    else if l.ownerOperationId ≠ row.ownerOperationId then refuse .lockHeld
    else .ok (l, db)
  | none, db =>
    if op.processEpoch ≠ epoch then refuse .interrupted
    else
      match db.locks.insert? row with
      | none => .error .duplicateKey
      | some locks => .ok (row, { db with locks })

theorem takeLockSql_computes (op : OperationRow) (row : LockRow) (existing : Option LockRow) :
    Computes (takeLockSql epoch op row existing : Sql ρ ξ LockRow)
      (onDb (takeLock epoch op row existing)) := by
  cases existing with
  | some l =>
    exact computes_onDb_ite (computes_refuseSql _)
      (computes_onDb_ite (computes_refuseSql _) (computes_onDb_pure l))
  | none =>
    refine computes_onDb_ite (computes_refuseSql _) (Computes.onDb_congr
      (computes_onDb_bind (Computes.statement _) fun _ =>
        computes_onDb_bind (findLockRow_computes row.key) fun taken =>
          computes_onDb_pure (taken.getD row)) fun db => ?_)
    cases hins : db.locks.insert? row with
    | none => rfl
    | some locks =>
      have hfind : locks.find? row.key = some row := by
        rw [(Table.insert?_eq_some hins).2, if_pos rfl]
      simp only [bind, Except.bind, hfind, Option.getD_some]

theorem acquireLockSql_computes (k : LockKey) (operationId : String) (now : Int) :
    Computes (acquireLockSql epoch k operationId now : Sql ρ ξ LockRow)
      (onDb (acquireLock epoch k operationId now)) := by
  refine Computes.transaction (Computes.onDb_congr
    (computes_onDb_bind (requireSql_computes operationId) fun op =>
      computes_onDb_ite (computes_refuseSql _)
        (computes_onDb_bind (computes_selectDb fun db => lockTargetExists db k)
          fun target => computes_onDb_ite (computes_refuseSql _)
            (computes_onDb_bind (findLockRow_computes k)
              (takeLockSql_computes epoch op (lockRow epoch k operationId now)))))
    fun db => ?_)
  simp only [acquireLock, bind, Except.bind]
  cases db.require operationId with
  | error e => rfl
  | ok op =>
    cases hlock : db.locks.find? k with
    | some l =>
      simp only [Except.map, hlock]
      rfl
    | none =>
      simp only [Except.map, hlock]
      rfl

/-- `acquireLocks` with an answer, as the code has one. -/
def acquireAll (epoch : String) (operationId : String) (now : Int) (ks : List LockKey)
    (db : RecoveryDb) : Except StoreError (Unit × RecoveryDb) :=
  (acquireLocks epoch operationId now ks db).map fun db' => ((), db')

theorem acquireLocksSql_computes (operationId : String) (now : Int) (ks : List LockKey) :
    Computes (acquireLocksSql epoch operationId now ks : Sql ρ ξ Unit)
      (onDb (acquireAll epoch operationId now ks)) := by
  induction ks with
  | nil => exact computes_onDb_pure ()
  | cons k ks ih =>
    refine Computes.onDb_congr (computes_onDb_bind
      (acquireLockSql_computes epoch k operationId now) fun _ => ih) fun db => ?_
    simp only [acquireAll, acquireLocks, bind, Except.bind]
    cases acquireLock epoch k operationId now db with
    | error e => rfl
    | ok r => rfl

end Computed

namespace Admission

variable {ρ ξ τ : Type} (a : Admission ρ ξ τ)
variable (operationId : String)

/-- The rows after `prepare`. -/
def prepared (s : AdmissionRows ρ) : Except (AdmissionFailure ξ) (Option τ × AdmissionRows ρ) :=
  match a.setup with
  | none => .ok (none, s)
  | some setup => do
    let found ← onDb (fun db => (db.require operationId).map fun r => (r, db)) s
    let ran ← zoomed (fun s => (s.1.points, s.2))
      (fun t s => ({ s.1 with points := t.1 }, t.2)) .setup
      (fun s => setup s.1 found.1) found.2
    .ok (some ran.1, ran.2)

theorem prepare_computes : Computes (a.prepare operationId) (a.prepared operationId) := by
  unfold prepare prepared
  cases a.setup with
  | none => exact Computes.pure _
  | some setup =>
    exact (requireSql_computes operationId).bind fun op =>
      (Computes.zoom _ _ _ _).bind fun v => Computes.pure (some v)

/-- The rows after an admission that is new. -/
def recorded (s : AdmissionRows ρ) :
    Except (AdmissionFailure ξ) (AdmittedOperation τ × AdmissionRows ρ) := do
  let marked ← onDb (markRunning a.epoch operationId a.now) s
  let locked ← onDb (acquireAll a.epoch operationId a.now a.locks) marked.2
  let prepared ← a.prepared operationId locked.2
  let found ← onDb (fun db => (db.require operationId).map fun r => (r, db)) prepared.2
  .ok (⟨⟨found.1, false⟩, prepared.1⟩, found.2)

theorem record_computes : Computes (a.record operationId) (a.recorded operationId) := by
  have hfound (prepared : Option τ) := Computes.bind (requireSql_computes operationId)
    fun op => Computes.pure (ε := AdmissionFailure ξ) (σ := AdmissionRows ρ)
      (AdmittedOperation.mk ⟨op, false⟩ prepared)
  have hprepared := (a.prepare_computes operationId).bind hfound
  have hlocked := (acquireLocksSql_computes a.epoch operationId a.now a.locks).bind
    fun _ => hprepared
  exact (markRunningSql_computes a.epoch operationId a.now).bind fun _ => hlocked

/-- The rows after `followed`. -/
def settled (started : StartedOperation) (s : AdmissionRows ρ) :
    Except (AdmissionFailure ξ) (AdmittedOperation τ × AdmissionRows ρ) :=
  if started.replayed then .ok (⟨started, none⟩, s)
  else a.recorded started.operation.id s

/-- The rows after an admission. -/
def admitted (s : AdmissionRows ρ) :
    Except (AdmissionFailure ξ) (AdmittedOperation τ × AdmissionRows ρ) := do
  let started ← onDb (start a.epoch a.newId a.input a.now) s
  a.settled started.1 started.2

theorem followed_computes (started : StartedOperation) :
    Computes (a.followed started) (a.settled started) := by
  unfold followed settled
  cases started.replayed with
  | true => exact Computes.pure _
  | false => exact a.record_computes started.operation.id

/-- An admission is all of its function of the rows, or nothing. -/
theorem code_atomic : Atomic a.code a.admitted :=
  Computes.atomic ((startSql_computes a.epoch a.newId a.input a.now).bind a.followed_computes)

end Admission

end Sencho.Recovery

import Sencho.Recovery.Points
import Sencho.Verified.Runs

/-!
# Runs of the recovery stores

Any number of processes call the operation store and the point store on the
same tables.  A call carries the epoch of the process that makes it, so a run
covers every interleaving of live, dead and restarted processes, late and
duplicated completions included.  `OperationFate` and `LockFate` say once what
one call can do to an operation and to a lock; the invariants of whole runs are
read off from them.
-/

namespace Sencho.Recovery

open Verified RecoveryDb

/-- The tables, and the epochs whose process has reconciled already (the
`reconciled` flag of each process's store). -/
structure Stores where
  db : RecoveryDb
  reconciled : List String

def Stores.empty : Stores := ⟨.empty, []⟩

/-- A second reconciliation of the same process does nothing. -/
def reconcileAtStartup (epoch : String) (now : Int) (s : Stores) : Stores :=
  if s.reconciled.contains epoch then s
  else ⟨reconcile epoch now s.db, epoch :: s.reconciled⟩

/-- One call of either store.  `observed` is a write of another module to the
tables the stores only read. -/
inductive StoreCall where
  | start (epoch newId : String) (input : StartInput) (now : Int)
  | admitOperation (epoch newId : String) (input : StartInput) (locks : List LockKey)
      (setup : RecoveryDb → OperationRow → Except StoreError Unit) (now : Int)
  | markRunning (epoch id : String) (now : Int)
  | finish (epoch id : String) (outcome : OperationFinish) (now : Int)
  | settleReconciled (id : String) (outcome : OperationFinish) (now : Int)
  | acquireLock (epoch : String) (k : LockKey) (operationId : String) (now : Int)
  | releaseStaleLock (k : LockKey)
  | releaseInterruptedRepositoryLocks (activeId : Option String)
  | reconcileAtStartup (epoch : String) (now : Int)
  | begin_ (newId : String) (input : BeginPointInput) (now : Int)
  | finalize (id : String) (outcome : PointFinalization) (now : Int)
  | finalizeWrite (id : String) (outcome : PointFinalization) (now : Int)
  | observed (identities : List StorageIdentityRow) (repositories : List String)

/-- The tables after a transaction: those it produced, or the old ones when it
threw. -/
def committed {α : Type} (db : RecoveryDb) (r : Except StoreError (α × RecoveryDb)) : RecoveryDb :=
  match r with
  | .ok (_, db') => db'
  | .error _ => db

variable (shaped : String → Bool)

/-- The tables after one call. -/
def callDb (db : RecoveryDb) : StoreCall → RecoveryDb
  | .start epoch newId input now => committed db (start epoch newId input now db)
  | .admitOperation epoch newId input locks setup now =>
    committed db (admitOperation epoch newId input locks setup now db)
  | .markRunning epoch id now => committed db (markRunning epoch id now db)
  | .finish epoch id outcome now =>
    committed db (finish epoch id outcome now db)
  | .settleReconciled id outcome now =>
    committed db (settleReconciled id outcome now db)
  | .acquireLock epoch k operationId now =>
    committed db (acquireLock epoch k operationId now db)
  | .releaseStaleLock k => committed db (releaseStaleLock k db)
  | .releaseInterruptedRepositoryLocks activeId =>
    releaseInterruptedRepositoryLocks activeId db
  | .reconcileAtStartup epoch now => reconcile epoch now db
  | .begin_ newId input now => committed db (begin_ newId input now db)
  | .finalize id outcome now => (finalize shaped id outcome now db).2
  | .finalizeWrite id outcome now => (finalizeWrite shaped id outcome now db).2
  | .observed identities repositories => { db with identities, repositories }

/-- One call on the stores. -/
def storeStep (s : Stores) (c : StoreCall) : Stores :=
  match c with
  | .reconcileAtStartup epoch now => reconcileAtStartup epoch now s
  | c => ⟨callDb shaped s.db c, s.reconciled⟩

/-- A run from empty tables. -/
def storeRun (calls : List StoreCall) : Stores :=
  Runs.run (storeStep shaped) Stores.empty calls

/-- Every call makes one change of the tables, or none. -/
theorem storeStep_db (s : Stores) (c : StoreCall) :
    (storeStep shaped s c).db = s.db ∨ (storeStep shaped s c).db = callDb shaped s.db c := by
  cases c with
  | reconcileAtStartup epoch now =>
    simp only [storeStep, reconcileAtStartup]
    split
    · exact .inl rfl
    · exact .inr (by rw [callDb])
  | _ => exact .inr (by simp only [storeStep])

section Statements

variable (db : RecoveryDb)
variable {now : Int}

section

variable {id : String} {r : OperationRow} (h : db.operations.find? id = some r)
include h

theorem find?_setRunning {p : OperationRow → Bool} : (db.setRunning p now).operations.find? id =
      some (if p r then { r with state := .running, updatedAt := now } else r) := by
  rw [setRunning, Table.find?_update, h]
  rfl

theorem find?_setOperations {p : OperationRow → Bool} {state : OperationState}
    {errorClass : Option ErrorClass} :
    (db.setOperations p state errorClass now).operations.find? id = some (if p r then
          { r with
            state := state, errorClass := errorClass, updatedAt := now,
            completedAt := some now }
        else r) := by
  rw [setOperations, Table.find?_update, h]
  rfl

end

section

variable {k : LockKey} {l : LockRow} (h : db.locks.find? k = some l)
include h

theorem find?_staleLocks {p : LockRow → Bool} : (db.staleLocks p now).locks.find? k =
      some (if p l && l.staleSince.isNone then l.stale now else l) := by
  rw [staleLocks, Table.find?_update, h]
  rfl

theorem find?_deleteLocks {p : LockRow → Bool} :
    (db.deleteLocks p).locks.find? k = if p l then none else some l := by
  rw [deleteLocks, Table.find?_delete, h, Option.filter_some]
  cases p l <;> rfl

end

end Statements

variable {now : Int} {db' : RecoveryDb} {epoch id : String} (shaped : String → Bool)
variable {newId : String} {db : RecoveryDb} {r : OperationRow}

theorem require_ok (h : db.require id = .ok r) : db.operations.find? id = some r := by
  unfold require at h
  split at h
  · cases h
    assumption
  · cases h

theorem require_bind_ok {α : Type} {f : OperationRow → Except StoreError α}
    {a : α} (h : (db.require id >>= f) = .ok a) :
    ∃ r, db.operations.find? id = some r ∧ f r = .ok a := by
  cases hr : db.require id with
  | error e => simp [hr, bind, Except.bind] at h
  | ok r =>
    refine ⟨r, require_ok hr, ?_⟩
    simpa [hr, bind, Except.bind] using h

theorem start_ok {input : StartInput} {r : StartedOperation}
    (h : start epoch newId input now db = .ok (r, db')) :
    (r.replayed = true ∧ db' = db) ∨ ∃ key operations,
        db.operations.insert? (queuedRow epoch newId key input now) = some operations ∧
        r = ⟨queuedRow epoch newId key input now, false⟩ ∧
        db' = { db with operations } := by
  simp only [start] at h
  split at h
  · cases h
  · split at h
    · cases h
    · split at h
      · split at h
        · cases h
          exact .inl ⟨rfl, rfl⟩
        · cases h
      · split at h
        · cases h
        · rename_i operations hins
          cases h
          exact .inr ⟨_, operations, hins, rfl, rfl⟩

theorem markRunning_ok (h : markRunning epoch id now db = .ok (r, db')) :
    db' = db.setRunning (queuedHere epoch id) now := by
  obtain ⟨op, -, h⟩ := require_bind_ok h
  split at h
  · cases h
    rfl
  · split at h
    · cases h
    · cases h

theorem acquireLock_ok {k : LockKey} {operationId : String} {l : LockRow}
    (h : acquireLock epoch k operationId now db = .ok (l, db')) :
    (db' = db ∧ db.locks.find? k = some l ∧ l.staleSince = none ∧
        l.ownerOperationId = operationId) ∨
      ∃ op locks, db.operations.find? operationId = some op ∧
        isTerminal op.state = false ∧ op.processEpoch = epoch ∧
        db.locks.insert? (lockRow epoch k operationId now) = some locks ∧
        l = lockRow epoch k operationId now ∧ db' = { db with locks } := by
  obtain ⟨op, hop, h⟩ := require_bind_ok h
  split at h
  · cases h
  · rename_i hlive
    split at h
    · cases h
    · split at h
      · rename_i l' hl'
        split at h
        · cases h
        · rename_i hfr
          split at h
          · cases h
          · rename_i howner
            cases h
            simp only [ne_eq, not_or, not_not] at hfr howner
            exact .inl ⟨rfl, hl', hfr.1, howner⟩
      · split at h
        · cases h
        · rename_i hepoch
          simp only at h
          split at h
          · cases h
          · rename_i locks hins
            cases h
            simp only [ne_eq, not_not] at hepoch
            exact .inr ⟨op, locks, hop, by simpa using hlive, hepoch, hins, rfl, rfl⟩

theorem finish_ok {outcome : OperationFinish} (h : finish epoch id outcome now db = .ok (r, db')) :
    (db' = db ∧ db.operations.find? id = some r ∧ isTerminal r.state = true) ∨
      ∃ current, db.operations.find? id = some current ∧
        isTerminal current.state = false ∧ current.processEpoch = epoch ∧
        (outcome.pointsFinalizedFirst = true → (db.points.any fun p =>
          p.sourceOperationId = id && p.status = .pending) = false) ∧
        db' = endOperation epoch id outcome now db := by
  obtain ⟨current, hcur, h⟩ := require_bind_ok h
  split at h
  · rename_i hterm
    cases h
    exact .inl ⟨rfl, hcur, hterm⟩
  · rename_i hlive
    split at h
    · cases h
    · rename_i hepoch
      split at h
      · cases h
      · rename_i hpoints
        obtain ⟨stored, -, h⟩ := require_bind_ok h
        cases h
        refine .inr ⟨current, hcur, by simpa using hlive, by simpa using hepoch,
          fun hfirst => ?_, rfl⟩
        simpa [hfirst] using hpoints

theorem settleReconciled_ok {outcome : OperationFinish}
    (h : settleReconciled id outcome now db = .ok (r, db')) :
    db' = db ∨ ∃ current, db.operations.find? id = some current ∧
        parked current = true ∧ outcome.state ≠ .completionUnknown ∧
        db' = settleOperation id outcome now db := by
  unfold settleReconciled at h
  split at h
  · cases h
  · rename_i hstate
    obtain ⟨current, hcur, h⟩ := require_bind_ok h
    split at h
    · cases h
      exact .inl rfl
    · rename_i hparked
      obtain ⟨stored, -, h⟩ := require_bind_ok h
      cases h
      exact .inr ⟨current, hcur, by simpa using hparked, hstate, rfl⟩

theorem releaseStaleLock_ok {k : LockKey} {l : LockRow} (h : releaseStaleLock k db = .ok (l, db')) :
    db.locks.find? k = some l ∧ l.staleSince ≠ none ∧ db' = db.deleteLocks fun l => l.key = k := by
  unfold releaseStaleLock at h
  split at h
  · cases h
  · rename_i l' hl'
    split at h
    · cases h
    · rename_i hstale
      cases h
      exact ⟨hl', hstale, rfl⟩

theorem begin_ok {input : BeginPointInput} {r : PointRow}
    (h : begin_ newId input now db = .ok (r, db')) :
    ∃ points, db.points.insert? r = some points ∧ r.status = .pending ∧
      db' = { db with points } := by
  unfold begin_ at h
  split at h
  · cases h
  · split at h
    · cases h
    · split at h
      · cases h
      · split at h
        · cases h
        · simp only at h
          split at h
          · cases h
          · rename_i points hins
            cases h
            exact ⟨points, hins, rfl, rfl⟩

/-- A finalization writes at most one point, and only a pending one. -/
theorem finalizeWrite_db (id : String) (outcome : PointFinalization) (now : Int) (db : RecoveryDb) :
    (finalizeWrite shaped id outcome now db).2 = db ∨
      (db.points.any fun r => r.id = id && r.status ≠ .pending) = false ∧
        (finalizeWrite shaped id outcome now db).2 = { db with
            points := db.points.update (fun r => r.id = id) (finalizedPoint shaped outcome now)
              (finalizedPoint_id shaped outcome now) } := by
  unfold finalizeWrite updatePoint
  split
  · rename_i db' hok
    split at hok
    · cases hok
    · rename_i hany
      cases hok
      exact .inr ⟨by simpa using hany, rfl⟩
  · exact .inl rfl

theorem finalize_db (id : String) (outcome : PointFinalization) (now : Int) (db : RecoveryDb) :
    (finalize shaped id outcome now db).2 = db ∨ (finalize shaped id outcome now db).2 =
        (finalizeWrite shaped id outcome now db).2 := by
  unfold finalize
  split
  · exact .inl rfl
  · split
    · exact .inl rfl
    · exact .inr rfl

/-- Taking locks leaves the operations alone. -/
theorem acquireLocks_operations {operationId : String} {ks : List LockKey}
    (h : acquireLocks epoch operationId now ks db = .ok db') :
    db'.operations = db.operations ∧ db'.points = db.points := by
  induction ks generalizing db with
  | nil =>
    cases h
    exact ⟨rfl, rfl⟩
  | cons k ks ih =>
    simp only [acquireLocks, bind, Except.bind] at h
    split at h
    · cases h
    · rename_i res hacq
      obtain ⟨l, db₁⟩ := res
      have hrest := ih h
      rcases acquireLock_ok hacq with ⟨rfl, -⟩ | ⟨op, locks, -, -, -, -, -, rfl⟩
      · exact hrest
      · exact hrest

/-- The parts of an admission that is not a replay. -/
theorem admitOperation_ok {input : StartInput} {locks : List LockKey}
    {setup : RecoveryDb → OperationRow → Except StoreError Unit}
    {r : StartedOperation} (h : admitOperation epoch newId input locks setup now db = .ok (r, db')) :
    (r.replayed = true ∧ db' = db) ∨ ∃ key operations,
        db.operations.insert? (queuedRow epoch newId key input now) =
          some operations ∧ r.operation.id = newId ∧
        acquireLocks epoch newId now locks (({ db with operations } : RecoveryDb).setRunning
            (queuedHere epoch newId) now) = .ok db' := by
  simp only [admitOperation, bind, Except.bind] at h
  split at h
  · cases h
  · rename_i res hstart
    obtain ⟨started, db₁⟩ := res
    simp only at h
    split at h
    · rename_i hrep
      cases h
      rcases start_ok hstart with ⟨-, rfl⟩ | ⟨key, ops, -, rfl, -⟩
      · exact .inl ⟨hrep, rfl⟩
      · simp at hrep
    · rename_i hrep
      rcases start_ok hstart with ⟨hrep', -⟩ | ⟨key, ops, hins, rfl, rfl⟩
      · exact absurd hrep' hrep
      · split at h
        · cases h
        · rename_i res hmark
          obtain ⟨op, db₂⟩ := res
          have hdb₂ := markRunning_ok hmark
          simp only at h hdb₂
          subst hdb₂
          split at h
          · cases h
          · rename_i db₃ hacq
            split at h
            · cases h
            · rename_i op' hop
              split at h
              · cases h
              · cases h
                have hid : op'.id = newId := Table.key_of_find? (require_ok hop)
                exact .inr ⟨key, ops, hins, hid, hacq⟩

/-- Everything one call can do to the tables, with the checks it passed. -/
inductive CallEffect (shaped : String → Bool) (db : RecoveryDb) :
    StoreCall → RecoveryDb → Prop where
  | same (c : StoreCall) : CallEffect shaped db c db
  | started {epoch newId input now key operations}
      (hins : db.operations.insert? (queuedRow epoch newId key input now) = some operations) :
      CallEffect shaped db (.start epoch newId input now) { db with operations }
  | admitted {epoch newId input locks setup now key operations db'}
      (hins : db.operations.insert? (queuedRow epoch newId key input now) = some operations)
      (hacq : acquireLocks epoch newId now locks (({ db with operations } : RecoveryDb).setRunning
          (queuedHere epoch newId) now) = .ok db') :
      CallEffect shaped db (.admitOperation epoch newId input locks setup now) db'
  | running (epoch id : String) (now : Int) : CallEffect shaped db (.markRunning epoch id now)
        (db.setRunning (queuedHere epoch id) now)
  | finished {epoch id outcome now current} (hcur : db.operations.find? id = some current)
      (hlive : isTerminal current.state = false)
      (hepoch : current.processEpoch = epoch)
      (hpoints : outcome.pointsFinalizedFirst = true → (db.points.any fun p =>
        p.sourceOperationId = id && p.status = .pending) = false) :
      CallEffect shaped db (.finish epoch id outcome now) (endOperation epoch id outcome now db)
  | settled {id outcome now current} (hcur : db.operations.find? id = some current)
      (hparked : parked current = true)
      (hknown : outcome.state ≠ .completionUnknown) :
      CallEffect shaped db (.settleReconciled id outcome now) (settleOperation id outcome now db)
  | acquired {epoch k operationId now op locks} (hop : db.operations.find? operationId = some op)
      (hlive : isTerminal op.state = false) (hepoch : op.processEpoch = epoch)
      (hins : db.locks.insert? (lockRow epoch k operationId now) = some locks) :
      CallEffect shaped db (.acquireLock epoch k operationId now) { db with locks }
  | releasedStale {k l} (hl : db.locks.find? k = some l) (hstale : l.staleSince ≠ none) :
      CallEffect shaped db (.releaseStaleLock k) (db.deleteLocks fun l => l.key = k)
  | releasedRepository (activeId : Option String) :
      CallEffect shaped db (.releaseInterruptedRepositoryLocks activeId)
        (releaseInterruptedRepositoryLocks activeId db)
  | reconciled (epoch : String) (now : Int) : CallEffect shaped db (.reconcileAtStartup epoch now)
        (reconcile epoch now db)
  | begun {newId input now r points} (hins : db.points.insert? r = some points)
      (hpend : r.status = .pending) :
      CallEffect shaped db (.begin_ newId input now) { db with points }
  | finalized {c : StoreCall} (id : String) (outcome : PointFinalization)
      (now : Int) (hcall : c = .finalize id outcome now ∨ c = .finalizeWrite id outcome now)
      (hpend : (db.points.any fun r => r.id = id && r.status ≠ .pending) = false) :
      CallEffect shaped db c { db with
          points := db.points.update (fun r => r.id = id) (finalizedPoint shaped outcome now)
            (finalizedPoint_id shaped outcome now) }
  | observed (identities : List StorageIdentityRow) (repositories : List String) :
      CallEffect shaped db (.observed identities repositories) { db with identities, repositories }

/-- A transaction that throws changes nothing; one that commits has its own
effect. -/
theorem CallEffect.of_committed {shaped : String → Bool}
    {c : StoreCall} {α : Type} {r : Except StoreError (α × RecoveryDb)}
    (h : ∀ a db', r = .ok (a, db') → CallEffect shaped db c db') :
    CallEffect shaped db c (committed db r) := by
  cases hr : r with
  | error e => exact .same c
  | ok res => exact h res.1 res.2 hr

/-- Every call does one of these. -/
theorem call_effect (db : RecoveryDb) (c : StoreCall) :
    CallEffect shaped db c (callDb shaped db c) := by
  cases c with
  | start epoch newId input now =>
    refine .of_committed fun r db' hres => ?_
    rcases start_ok hres with ⟨-, rfl⟩ | ⟨key, ops, hins, -, rfl⟩
    · exact .same _
    · exact .started hins
  | admitOperation epoch newId input locks setup now =>
    refine .of_committed fun r db' hres => ?_
    rcases admitOperation_ok hres with ⟨-, rfl⟩ | ⟨key, ops, hins, -, hacq⟩
    · exact .same _
    · exact .admitted hins hacq
  | markRunning epoch id now =>
    refine .of_committed fun r db' hres => ?_
    rw [markRunning_ok hres]
    exact .running epoch id now
  | finish epoch id outcome now =>
    refine .of_committed fun r db' hres => ?_
    rcases finish_ok hres with ⟨rfl, -⟩ | ⟨cur, hcur, hlive, hep, hpts, rfl⟩
    · exact .same _
    · exact .finished hcur hlive hep hpts
  | settleReconciled id outcome now =>
    refine .of_committed fun r db' hres => ?_
    rcases settleReconciled_ok hres with rfl | ⟨cur, hcur, hpark, hknown, rfl⟩
    · exact .same _
    · exact .settled hcur hpark hknown
  | acquireLock epoch k operationId now =>
    refine .of_committed fun r db' hres => ?_
    rcases acquireLock_ok hres with
      ⟨rfl, -⟩ | ⟨op, locks, hop, hlive, hep, hins, -, rfl⟩
    · exact .same _
    · exact .acquired hop hlive hep hins
  | releaseStaleLock k =>
    refine .of_committed fun r db' hres => ?_
    obtain ⟨hl, hstale, rfl⟩ := releaseStaleLock_ok hres
    exact .releasedStale hl hstale
  | releaseInterruptedRepositoryLocks activeId => exact .releasedRepository activeId
  | reconcileAtStartup epoch now => exact .reconciled epoch now
  | begin_ newId input now =>
    refine .of_committed fun r db' hres => ?_
    obtain ⟨points, hins, hpend, rfl⟩ := begin_ok hres
    exact .begun hins hpend
  | finalize id outcome now =>
    simp only [callDb]
    rcases finalize_db shaped id outcome now db with heq | heq <;> rw [heq]
    · exact .same _
    · rcases finalizeWrite_db shaped id outcome now db with
        heq' | ⟨hpend, heq'⟩ <;> rw [heq']
      · exact .same _
      · exact .finalized id outcome now (.inl rfl) hpend
  | finalizeWrite id outcome now =>
    simp only [callDb]
    rcases finalizeWrite_db shaped id outcome now db with
      heq' | ⟨hpend, heq'⟩ <;> rw [heq']
    · exact .same _
    · exact .finalized id outcome now (.inr rfl) hpend
  | observed identities repositories => exact .observed identities repositories

/-- What one call does to an operation that exists.  Its identity, its owner's
epoch and its kind never change. -/
inductive OperationChange (c : StoreCall) (r r' : OperationRow) : Prop where
  | kept (hstate : r'.state = r.state) (herr : r'.errorClass = r.errorClass)
  | started (hfrom : r.state = .queued) (hto : r'.state = .running)
      (herr : r'.errorClass = r.errorClass)
  | finished (epoch : String) (outcome : OperationFinish) (now : Int)
      (hcall : c = .finish epoch r.id outcome now)
      (hlive : isTerminal r.state = false) (hto : r'.state = outcome.state)
      (herr : r'.errorClass = outcome.errorClass)
  | interrupted (epoch : String) (now : Int) (hcall : c = .reconcileAtStartup epoch now)
      (hepoch : r.processEpoch ≠ epoch)
      (hlive : isTerminal r.state = false) (hto : r'.state = .completionUnknown)
      (herr : r'.errorClass = some .interrupted)
  | settled (outcome : OperationFinish) (now : Int) (hcall : c = .settleReconciled r.id outcome now)
      (hparked : parked r = true) (hknown : outcome.state ≠ .completionUnknown)
      (hto : r'.state = outcome.state) (herr : r'.errorClass = outcome.errorClass)

/-- An operation that exists still exists after a call, changed in one of the
five ways. -/
structure OperationFate (c : StoreCall) (db' : RecoveryDb) (r : OperationRow) : Prop where
  intro ::
  survives : ∃ r', db'.operations.find? r.id = some r' ∧
    r'.processEpoch = r.processEpoch ∧ r'.kind = r.kind ∧ OperationChange c r r'

section Fates

variable {c : StoreCall} {db : RecoveryDb} {r : OperationRow}
variable {db' : RecoveryDb}

theorem OperationFate.of_eq (hr : db.operations.find? r.id = some r)
    (heq : db'.operations = db.operations) : OperationFate c db' r :=
  ⟨r, by rw [heq, hr], rfl, rfl, .kept rfl rfl⟩

/-- Only the operations matter for the fate of one. -/
theorem OperationFate.congr {db₁ db₂ : RecoveryDb}
    (heq : db₂.operations = db₁.operations) (h : OperationFate c db₁ r) :
    OperationFate c db₂ r := by
  obtain ⟨r', hr', hrest⟩ := h.survives
  exact ⟨r', by rw [heq, hr'], hrest⟩

/-- A conditional update: the row is changed or kept. -/
theorem OperationFate.of_update {p : Bool} {r₁ : OperationRow}
    (hfind : db'.operations.find? r.id = some (if p then r₁ else r))
    (hepoch : r₁.processEpoch = r.processEpoch) (hkind : r₁.kind = r.kind)
    (hchange : p = true → OperationChange c r r₁) : OperationFate c db' r := by
  cases p with
  | true => exact ⟨r₁, hfind, hepoch, hkind, hchange rfl⟩
  | false => exact ⟨r, hfind, rfl, rfl, .kept rfl rfl⟩

section

variable {row : OperationRow} {operations : Table OperationRow String OperationRow.id}
  (hr : db.operations.find? r.id = some r) (hins : db.operations.insert? row = some operations)
include hr hins

/-- Inserting another operation does not touch this one. -/
theorem find?_operation_of_insert : operations.find? r.id = some r := by
  obtain ⟨hnew, hfind⟩ := Table.insert?_eq_some hins
  have hne : r.id ≠ row.id := by
    intro hid
    rw [← hid, hr] at hnew
    cases hnew
  rw [hfind, if_neg hne, hr]

theorem OperationFate.of_insert (heq : db'.operations = operations) : OperationFate c db' r :=
  ⟨r, by rw [heq, find?_operation_of_insert hr hins], rfl, rfl, .kept rfl rfl⟩

end

theorem OperationFate.setRunning {epoch id : String} {now : Int}
    (hr : db.operations.find? r.id = some r) :
    OperationFate c (db.setRunning (queuedHere epoch id) now) r := by
  refine .of_update (find?_setRunning db hr) rfl rfl fun hp => ?_
  simp only [queuedHere, Bool.and_eq_true, decide_eq_true_eq] at hp
  exact .started hp.1.2 rfl rfl

end Fates

variable (id : String)
variable (outcome : OperationFinish)

theorem settleLocks_operations (now : Int) (db : RecoveryDb) :
    (settleLocks id outcome now db).operations = db.operations := by
  cases outcome <;> rfl

theorem settlePoints_operations (now : Int) (db : RecoveryDb) :
    (settlePoints id outcome now db).operations = db.operations := by
  cases outcome <;> rfl

theorem settlePoints_locks (now : Int) (db : RecoveryDb) :
    (settlePoints id outcome now db).locks = db.locks := by
  cases outcome <;> rfl

theorem settleLocks_points (now : Int) (db : RecoveryDb) :
    (settleLocks id outcome now db).points = db.points := by
  cases outcome <;> rfl

theorem endOperation_operations (epoch id : String) (outcome : OperationFinish)
    (now : Int) (db : RecoveryDb) :
    (endOperation epoch id outcome now db).operations =
      (db.setOperations (finishable epoch id) outcome.state outcome.errorClass now).operations :=
  (settleLocks_operations _ _ _ _).trans (settlePoints_operations _ _ _ _)

/-- What a call does to an operation that exists. -/
theorem operation_fate (c : StoreCall)
    (hr : db.operations.find? r.id = some r) : OperationFate c (callDb shaped db c) r := by
  have heffect := call_effect shaped db c
  generalize callDb shaped db c = db' at heffect
  cases heffect with
  | same => exact .of_eq hr rfl
  | started hins => exact .of_insert hr hins rfl
  | @admitted epoch newId input locks setup now key ops _ hins hacq =>
    have hr₁ : ({ db with operations := ops } : RecoveryDb).operations.find?
        r.id = some r := find?_operation_of_insert hr hins
    exact .congr (acquireLocks_operations hacq).1 (.setRunning hr₁)
  | running epoch id now => exact .setRunning hr
  | @finished epoch id outcome now cur hcur hlive hep hpts =>
    refine .congr (endOperation_operations _ _ _ _ _) ?_
    refine .of_update (find?_setOperations db hr) rfl rfl fun hp => ?_
    simp only [finishable, Bool.and_eq_true, decide_eq_true_eq, Bool.not_eq_true'] at hp
    obtain ⟨⟨rfl, hlive'⟩, -⟩ := hp
    exact .finished epoch outcome now rfl hlive' rfl rfl
  | @settled id outcome now cur hcur hparked hknown =>
    refine .of_update (find?_setOperations db hr) rfl rfl fun hp => ?_
    simp only [Bool.and_eq_true, decide_eq_true_eq] at hp
    obtain ⟨rfl, hparked'⟩ := hp
    exact .settled outcome now rfl hparked' hknown rfl rfl
  | acquired hop hlive hep hins => exact .of_eq hr rfl
  | releasedStale hl hstale => exact .of_eq hr rfl
  | releasedRepository activeId => exact .of_eq hr rfl
  | reconciled epoch now =>
    refine .of_update (find?_setOperations db hr) rfl rfl fun hp => ?_
    simp only [Bool.and_eq_true, decide_eq_true_eq, Bool.not_eq_true'] at hp
    exact .interrupted epoch now rfl hp.2 hp.1 rfl rfl
  | begun hins hpend => exact .of_eq hr rfl
  | finalized id outcome now hcall hpend => exact .of_eq hr rfl
  | observed identities repositories => exact .of_eq hr rfl

end Sencho.Recovery

import Sencho.Recovery.StoreRuns

/-!
# Recovery operations exclude each other through their locks

A lock that is not stale belongs to a live operation of the process that took
it, and a stale lock to one that has ended.  That one correspondence between
the two tables (`LockInv`) holds in every reachable state; from it and from the
fate of a lock in one call follows everything a lock promises: it stays as long
as its operation is live, no two live operations share one, and a storage lock
of an interrupted operation stays closed until it is released on purpose.
-/

namespace Sencho.Recovery

open Verified Table

/-- The lock and operation tables correspond: every lock has an owner of its
own epoch, and it is stale exactly when the owner is not live. -/
def LockInv (db : RecoveryDb) : Prop :=
  ∀ k l, db.locks.find? k = some l → ∃ o, db.operations.find? l.ownerOperationId = some o ∧
      o.processEpoch = l.processEpoch ∧
      (isTerminal o.state = false ↔ l.staleSince = none)

/-- The operation exists and is queued or running. -/
def LiveOperation (db : RecoveryDb) (id : String) : Prop :=
  ∃ o, db.operations.find? id = some o ∧ isTerminal o.state = false

/-- The operation holds the lock. -/
def HoldsLock (db : RecoveryDb) (id : String) (k : LockKey) : Prop :=
  ∃ l, db.locks.find? k = some l ∧ l.ownerOperationId = id ∧ l.staleSince = none

/-- The operation left the lock stale. -/
def LeftStale (db : RecoveryDb) (id : String) (k : LockKey) : Prop :=
  ∃ l, db.locks.find? k = some l ∧ l.ownerOperationId = id ∧ l.staleSince ≠ none

/-- The owner of a lock, with its state. -/
def OwnerIs (db : RecoveryDb) (l : LockRow) (P : OperationState → Prop) : Prop :=
  ∃ o, db.operations.find? l.ownerOperationId = some o ∧ o.processEpoch = l.processEpoch ∧ P o.state

/-- What one call does to a lock that exists, and what becomes of its owner. -/
inductive LockFate (c : StoreCall) (db' : RecoveryDb) (k : LockKey) (l : LockRow) : Prop where
  | kept (hlock : db'.locks.find? k = some l) (howner : OwnerIs db' l fun st =>
        isTerminal st = false ↔ l.staleSince = none)
  | staled (now : Int) (hlive : l.staleSince = none)
      (hlock : db'.locks.find? k = some (l.stale now))
      (howner : OwnerIs db' l (· = .completionUnknown))
  | ended (hlive : l.staleSince = none) (hlock : db'.locks.find? k = none)
      (howner : OwnerIs db' l fun st =>
        isTerminal st = true ∧ st ≠ .completionUnknown)
  | released (hstale : l.staleSince ≠ none) (hlock : db'.locks.find? k = none)
      (hcall : c = .releaseStaleLock k ∨ k.1 = .repository ∨
        ∃ outcome now, c = .settleReconciled l.ownerOperationId outcome now)

section Fate

variable {c : StoreCall} {db db' : RecoveryDb} {k : LockKey} {l : LockRow}

/-- Calls other than an ending of an operation keep its liveness. -/
theorem OperationChange.isTerminal_eq {r r' : OperationRow}
    (h : OperationChange c r r') (hfin : ∀ e i o n, c ≠ .finish e i o n)
    (hrec : ∀ e n, c ≠ .reconcileAtStartup e n) : isTerminal r'.state = isTerminal r.state := by
  cases h with
  | kept hstate herr => rw [hstate]
  | started hfrom hto herr => rw [hfrom, hto]; rfl
  | finished epoch outcome now hcall hlive hto herr =>
    exact absurd hcall (hfin _ _ _ _)
  | interrupted epoch now hcall hepoch hlive hto herr =>
    exact absurd hcall (hrec _ _)
  | settled outcome now hcall hparked hknown hto herr =>
    simp only [parked, Bool.and_eq_true, decide_eq_true_eq] at hparked
    rw [hto, hparked.1, OperationFinish.isTerminal_state]
    rfl

theorem LockInv.owner (hinv : LockInv db) (hl : db.locks.find? k = some l) :
    OwnerIs db l fun st => isTerminal st = false ↔ l.staleSince = none := by
  obtain ⟨o, ho, hepoch, hlive⟩ := hinv k l hl
  exact ⟨o, ho, hepoch, hlive⟩

/-- A call that ends no operation leaves the owner of a lock as live as it
was. -/
theorem LockInv.owner_after (shaped : String → Bool) (hinv : LockInv db)
    (hl : db.locks.find? k = some l) (hfin : ∀ e i o n, c ≠ .finish e i o n)
    (hrec : ∀ e n, c ≠ .reconcileAtStartup e n) :
    OwnerIs (callDb shaped db c) l fun st =>
      isTerminal st = false ↔ l.staleSince = none := by
  obtain ⟨o, ho, hepoch, hlive⟩ := hinv k l hl
  have hid : l.ownerOperationId = o.id := (key_of_find? ho).symm
  rw [hid] at ho
  obtain ⟨o', ho', hepoch', -, hchange⟩ := (operation_fate shaped c ho).survives
  refine ⟨o', by rw [hid, ho'], by rw [hepoch', hepoch], ?_⟩
  change isTerminal o'.state = false ↔ l.staleSince = none
  rw [hchange.isTerminal_eq hfin hrec]
  exact hlive

/-- Inserting another lock does not touch this one. -/
theorem find?_lock_of_insert {row : LockRow} {locks : Table LockRow LockKey LockRow.key}
    (hl : db.locks.find? k = some l)
    (hins : db.locks.insert? row = some locks) : locks.find? k = some l := by
  obtain ⟨hnew, hfind⟩ := insert?_eq_some hins
  have hne : k ≠ row.key := by
    rintro rfl
    rw [hl] at hnew
    cases hnew
  rw [hfind, if_neg hne, hl]

theorem acquireLocks_kept {epoch operationId : String} {now : Int}
    {ks : List LockKey} (hl : db.locks.find? k = some l)
    (h : acquireLocks epoch operationId now ks db = .ok db') : db'.locks.find? k = some l := by
  induction ks generalizing db with
  | nil =>
    cases h
    exact hl
  | cons k₁ ks ih =>
    simp only [acquireLocks, bind, Except.bind] at h
    split at h
    · cases h
    · rename_i res hacq
      obtain ⟨l₁, db₁⟩ := res
      refine ih ?_ h
      rcases acquireLock_ok hacq with ⟨rfl, -⟩ | ⟨op, locks, -, -, -, hins, -, rfl⟩
      · exact hl
      · exact find?_lock_of_insert hl hins

theorem endOperation_lock (epoch id : String) (outcome : OperationFinish)
    (now : Int) (hl : db.locks.find? k = some l) :
    (endOperation epoch id outcome now db).locks.find? k = if l.ownerOperationId = id then
        if outcome = .completionUnknown then
          some (if l.staleSince.isNone then l.stale now else l)
        else none
      else some l := by
  have hl' : (settlePoints id outcome now (db.setOperations
      (finishable epoch id) outcome.state outcome.errorClass
      now)).locks.find? k = some l := by
    rw [settlePoints_locks]
    exact hl
  cases outcome with
  | completionUnknown =>
    rw [endOperation, settleLocks, find?_staleLocks _ hl']
    by_cases howner : l.ownerOperationId = id <;> simp [howner]
  | succeeded | cancelled | partial_ | failed =>
    rw [endOperation, settleLocks, find?_deleteLocks _ hl']
    by_cases howner : l.ownerOperationId = id <;> simp [howner]

/-- The fate of a lock when an operation ends. -/
theorem lock_fate_finish {epoch id : String} {outcome : OperationFinish}
    {now : Int} {current : OperationRow} (hinv : LockInv db)
    (hcur : db.operations.find? id = some current) (hlive : isTerminal current.state = false)
    (hepoch : current.processEpoch = epoch) (hl : db.locks.find? k = some l) :
    LockFate (.finish epoch id outcome now) (endOperation epoch id outcome now db) k l := by
  obtain ⟨o, ho, hown, hiff⟩ := hinv k l hl
  have hlock := endOperation_lock epoch id outcome now hl
  by_cases howner : l.ownerOperationId = id
  · have hoc : o = current := by
      rw [howner, hcur] at ho
      exact (Option.some.inj ho).symm
    subst hoc
    have hfr : l.staleSince = none := hiff.mp hlive
    have hfinal : OwnerIs (endOperation epoch id outcome now db) l (· = outcome.state) := by
      have hid : o.id = id := key_of_find? hcur
      have hfind : (endOperation epoch id outcome now db).operations.find?
          l.ownerOperationId = some { o with
            state := outcome.state, errorClass := outcome.errorClass,
            updatedAt := now, completedAt := some now } := by
        rw [endOperation_operations, howner, find?_setOperations db hcur]
        simp [finishable, hid, hlive, hepoch]
      exact ⟨_, hfind, hown, rfl⟩
    by_cases hcu : outcome = .completionUnknown
    · subst hcu
      refine .staled now hfr ?_ hfinal
      rw [hlock]
      simp [howner, hfr]
    · refine .ended hfr ?_ ?_
      · rw [hlock]
        simp [howner, hcu]
      · obtain ⟨o', ho', hep', hst⟩ := hfinal
        refine ⟨o', ho', hep', ?_⟩
        rw [hst]
        cases outcome with
        | completionUnknown => exact absurd rfl hcu
        | succeeded | cancelled | partial_ | failed =>
          simp [OperationFinish.state, isTerminal]
  · refine .kept ?_ ⟨o, ?_, hown, hiff⟩
    · rw [hlock, if_neg howner]
    · have hid : o.id ≠ id := by
        rw [key_of_find? ho]
        exact howner
      rw [endOperation_operations, find?_setOperations db ho]
      simp [finishable, hid]

/-- The fate of a lock at boot: the locks of other processes go stale together
with the operations that own them. -/
theorem lock_fate_reconcile {epoch : String} {now : Int} (hinv : LockInv db)
    (hl : db.locks.find? k = some l) :
    LockFate (.reconcileAtStartup epoch now) (reconcile epoch now db) k l := by
  obtain ⟨o, ho, hepoch, hiff⟩ := hinv k l hl
  have hlock : (reconcile epoch now db).locks.find? k =
      some (if (l.processEpoch ≠ epoch : Bool) && l.staleSince.isNone then
        l.stale now else l) := find?_staleLocks _ hl
  have howner : (reconcile epoch now db).operations.find? l.ownerOperationId =
      _ := find?_setOperations db ho
  by_cases hother : l.processEpoch = epoch
  · refine .kept ?_ ⟨o, ?_, hepoch, hiff⟩
    · rw [hlock]
      simp [hother]
    · rw [howner]
      simp [hepoch, hother]
  · by_cases hfr : l.staleSince = none
    · refine .staled now hfr ?_ ⟨_, howner, ?_⟩
      · rw [hlock]
        simp [hother, hfr]
      · have hlive := hiff.mpr hfr
        simp [hlive, hepoch, hother]
    · refine .kept ?_ ⟨o, ?_, hepoch, hiff⟩
      · rw [hlock]
        have hnot : l.staleSince.isNone = false := by
          rw [Bool.eq_false_iff, ne_eq, Option.isNone_iff_eq_none]
          exact hfr
        simp [hnot]
      · have hterm : isTerminal o.state = true := by
          by_contra hlive
          exact hfr (hiff.mp (by simpa using hlive))
        rw [howner]
        simp [hterm]

/-- What a call does to a lock that exists. -/
theorem lock_fate (shaped : String → Bool) (c : StoreCall) (hinv : LockInv db)
    (hl : db.locks.find? k = some l) : LockFate c (callDb shaped db c) k l := by
  have hkey : l.key = k := key_of_find? hl
  have hkept := fun hfin hrec => hinv.owner_after (c := c) shaped hl hfin hrec
  have heffect := call_effect shaped db c
  generalize callDb shaped db c = db' at heffect hkept
  cases heffect with
  | same => exact .kept hl (hinv.owner hl)
  | started hins | running epoch id now => exact .kept hl (hkept (by simp) (by simp))
  | admitted hins hacq =>
    refine .kept (acquireLocks_kept ?_ hacq) (hkept (by simp) (by simp))
    exact hl
  | finished hcur hlive hep hpts => exact lock_fate_finish hinv hcur hlive hep hl
  | @settled id outcome now cur hcur hparked hknown =>
    have hfind : (settleOperation id outcome now db).locks.find? k = _ :=
      find?_deleteLocks (db.setOperations _ _ _ _) hl
    by_cases hmine : l.ownerOperationId = id ∧ l.scope = .storage
    · refine .released ?_ ?_ (.inr (.inr ⟨outcome, now, by rw [hmine.1]⟩))
      · obtain ⟨o, ho, -, hiff⟩ := hinv k l hl
        rw [hmine.1, hcur] at ho
        cases ho
        simp only [parked, Bool.and_eq_true, decide_eq_true_eq] at hparked
        intro hfr
        have hlive := hiff.mpr hfr
        rw [hparked.1] at hlive
        cases hlive
      · rw [hfind]
        simp [hmine]
    · refine .kept ?_ (hkept (by simp) (by simp))
      rw [hfind]
      simpa using hmine
  | acquired hop hlive hep hins =>
    exact .kept (find?_lock_of_insert hl hins) (hkept (by simp) (by simp))
  | @releasedStale k₁ l₁ hl₁ hstale =>
    have hfind := find?_deleteLocks db (p := fun l => l.key = k₁) hl
    by_cases hk : k = k₁
    · subst hk
      rw [hl] at hl₁
      cases hl₁
      refine .released hstale ?_ (.inl rfl)
      rw [hfind]
      simp [hkey]
    · refine .kept ?_ (hinv.owner hl)
      rw [hfind]
      simp [hkey, hk]
  | releasedRepository activeId =>
    have hfind := find?_deleteLocks db (p := interruptedRepositoryLock db activeId) hl
    by_cases hgone : interruptedRepositoryLock db activeId l = true
    · have hparts := hgone
      simp only [interruptedRepositoryLock, Bool.and_eq_true, beq_iff_eq] at hparts
      refine .released ?_ ?_ (.inr (.inl ?_))
      · rw [← Option.isSome_iff_ne_none]
        exact hparts.1.2
      · rw [releaseInterruptedRepositoryLocks, hfind, if_pos hgone]
      · rw [← hkey]
        exact hparts.1.1
    · refine .kept ?_ (hinv.owner hl)
      rw [releaseInterruptedRepositoryLocks, hfind, if_neg hgone]
  | reconciled epoch now => exact lock_fate_reconcile hinv hl
  | begun hins hpend => exact .kept hl (hinv.owner hl)
  | finalized id outcome now hcall hpend => exact .kept hl (hinv.owner hl)
  | observed identities repositories => exact .kept hl (hinv.owner hl)

end Fate

/-! ## New locks -/

section New

variable {db' : RecoveryDb} {db : RecoveryDb}

/-- A lock taken in a call belongs to a live operation of the same process. -/
def FreshLock (db : RecoveryDb) (l : LockRow) : Prop :=
  l.staleSince = none ∧ ∃ o, db.operations.find? l.ownerOperationId = some o ∧
      o.processEpoch = l.processEpoch ∧ isTerminal o.state = false

theorem acquireLock_new {epoch : String} {k : LockKey} {operationId : String}
    {now : Int} {l₁ : LockRow}
    (h : acquireLock epoch k operationId now db = .ok (l₁, db')) (k' : LockKey)
    (l : LockRow) (hl : db'.locks.find? k' = some l) :
    db.locks.find? k' = some l ∨ FreshLock db' l := by
  rcases acquireLock_ok h with ⟨rfl, -⟩ | ⟨op, locks, hop, hlive, hep, hins, -, rfl⟩
  · exact .inl hl
  · obtain ⟨-, hfind⟩ := insert?_eq_some hins
    rw [hfind] at hl
    split at hl
    · cases hl
      exact .inr ⟨rfl, op, hop, hep, hlive⟩
    · exact .inl hl

section

variable {epoch operationId : String} {now : Int} {ks : List LockKey}
  (h : acquireLocks epoch operationId now ks db = .ok db')
include h

theorem acquireLocks_new (k' : LockKey) (l : LockRow) (hl : db'.locks.find? k' = some l) :
    db.locks.find? k' = some l ∨ FreshLock db' l := by
  induction ks generalizing db with
  | nil =>
    cases h
    exact .inl hl
  | cons k ks ih =>
    simp only [acquireLocks, bind, Except.bind] at h
    split at h
    · cases h
    · rename_i res hacq
      rcases ih h with hold | hnew
      · rcases acquireLock_new hacq k' l hold with hold' | ⟨hfr, o, ho, hrest⟩
        · exact .inl hold'
        · refine .inr ⟨hfr, o, ?_, hrest⟩
          rw [(acquireLocks_operations h).1, ho]
      · exact .inr hnew

/-- Every lock of the list is held after the list was taken. -/
theorem acquireLocks_holds (k : LockKey) (hk : k ∈ ks) : HoldsLock db' operationId k := by
  induction ks generalizing db with
  | nil => simp at hk
  | cons k₁ ks ih =>
    simp only [acquireLocks, bind, Except.bind] at h
    split at h
    · cases h
    · rename_i res hacq
      obtain ⟨l₁, db₁⟩ := res
      rcases List.mem_cons.mp hk with rfl | hk
      · have hheld : db₁.locks.find? k = some l₁ ∧
            l₁.ownerOperationId = operationId ∧ l₁.staleSince = none := by
          rcases acquireLock_ok hacq with
            ⟨rfl, hl, hfr, howner⟩ | ⟨op, locks, -, -, -, hins, rfl, rfl⟩
          · exact ⟨hl, howner, hfr⟩
          · obtain ⟨-, hfind⟩ := insert?_eq_some hins
            refine ⟨?_, rfl, rfl⟩
            rw [hfind, if_pos (show k = (lockRow epoch k operationId now).key from rfl)]
        exact ⟨l₁, acquireLocks_kept hheld.1 h, hheld.2⟩
      · exact ih h hk

end

theorem find?_staleLocks_none (db : RecoveryDb) {p : LockRow → Bool} {now : Int}
    {k : LockKey} (h : db.locks.find? k = none) : (db.staleLocks p now).locks.find? k = none := by
  rw [RecoveryDb.staleLocks, Table.find?_update, h]
  rfl

theorem find?_deleteLocks_none (db : RecoveryDb) {p : LockRow → Bool}
    {k : LockKey} (h : db.locks.find? k = none) : (db.deleteLocks p).locks.find? k = none := by
  rw [RecoveryDb.deleteLocks, Table.find?_delete, h]
  rfl

/-- A lock that was not there before a call is fresh after it. -/
theorem lock_origin (shaped : String → Bool) (c : StoreCall) {k : LockKey}
    {l : LockRow} (hnone : db.locks.find? k = none)
    (hl : (callDb shaped db c).locks.find? k = some l) : FreshLock (callDb shaped db c) l := by
  have heffect := call_effect shaped db c
  generalize callDb shaped db c = db' at heffect hl
  have hno : ∀ db₁ : RecoveryDb, db₁.locks.find? k = none → db₁.locks.find? k ≠ some l := by
    intro db₁ h₁ h₂
    rw [h₁] at h₂
    cases h₂
  cases heffect with
  | same | started hins | running epoch id now => exact absurd hl (hno db hnone)
  | admitted hins hacq =>
    rcases acquireLocks_new hacq k l hl with hold | hnew
    · exact absurd hold (hno db hnone)
    · exact hnew
  | @finished epoch id outcome now cur hcur hlive hep hpts =>
    refine absurd hl (hno _ ?_)
    have hnone' : (settlePoints id outcome now (db.setOperations
        (finishable epoch id) outcome.state outcome.errorClass
        now)).locks.find? k = none := by
      rw [settlePoints_locks]
      exact hnone
    cases outcome with
    | completionUnknown => exact find?_staleLocks_none _ hnone'
    | succeeded | cancelled | partial_ | failed =>
      exact find?_deleteLocks_none _ hnone'
  | settled hcur hparked hknown =>
    exact absurd hl (hno _ (find?_deleteLocks_none (db.setOperations _ _ _ _) hnone))
  | @acquired epoch k₁ operationId now op locks hop hlive hep hins =>
    obtain ⟨-, hfind⟩ := insert?_eq_some hins
    rw [hfind] at hl
    split at hl
    · cases hl
      exact ⟨rfl, op, hop, hep, hlive⟩
    · exact absurd hl (hno db hnone)
  | releasedStale hl₁ hstale =>
    exact absurd hl (hno _ (find?_deleteLocks_none db hnone))
  | releasedRepository activeId =>
    exact absurd hl (hno _ (find?_deleteLocks_none db hnone))
  | reconciled epoch now =>
    exact absurd hl (hno _ (find?_staleLocks_none
      ((db.setOperations _ _ _ _).settlePending _ _ _ _) hnone))
  | begun hins hpend => exact absurd hl (hno db hnone)
  | finalized id outcome now hcall hpend => exact absurd hl (hno db hnone)
  | observed identities repositories => exact absurd hl (hno db hnone)

end New

/-! ## The correspondence over runs -/

theorem lockInv_empty : LockInv RecoveryDb.empty := by
  intro k l hl
  simp [RecoveryDb.empty] at hl

/-- Every call keeps the correspondence of locks and operations. -/
theorem LockInv.call (shaped : String → Bool) {db : RecoveryDb}
    (hinv : LockInv db) (c : StoreCall) : LockInv (callDb shaped db c) := by
  intro k l' hl'
  cases hl : db.locks.find? k with
  | none =>
    obtain ⟨hfr, o, ho, hepoch, hlive⟩ := lock_origin shaped c hl hl'
    exact ⟨o, ho, hepoch, by simp [hlive, hfr]⟩
  | some l =>
    cases lock_fate shaped c hinv hl with
    | kept hlock howner =>
      rw [hl'] at hlock
      cases hlock
      exact howner
    | staled now hlive hlock howner =>
      rw [hl'] at hlock
      cases hlock
      obtain ⟨o, ho, hepoch, hst⟩ := howner
      exact ⟨o, ho, hepoch, by simp [hst, isTerminal, LockRow.stale]⟩
    | ended hlive hlock howner =>
      rw [hl'] at hlock
      cases hlock
    | released hstale hlock hcall =>
      rw [hl'] at hlock
      cases hlock

theorem LockInv.step (shaped : String → Bool) {s : Stores} (c : StoreCall)
    (hinv : LockInv s.db) : LockInv (storeStep shaped s c).db := by
  rcases storeStep_db shaped s c with heq | heq <;> rw [heq]
  · exact hinv
  · exact hinv.call shaped c

theorem LockInv.run (shaped : String → Bool) {s : Stores}
    (hinv : LockInv s.db) (calls : List StoreCall) :
    LockInv (Runs.run (storeStep shaped) s calls).db :=
  Runs.run_invariant (P := fun s : Stores => LockInv s.db)
    (fun _ c h => LockInv.step shaped c h) hinv calls

/-! ## What a lock promises -/

/-- The operation exists and has ended in one of the given states. -/
def EndedOperation (db : RecoveryDb) (id : String) (P : OperationState → Prop) : Prop :=
  ∃ o, db.operations.find? id = some o ∧ isTerminal o.state = true ∧ P o.state

section Promises

variable (shaped : String → Bool) {s : Stores} {id : String} {k : LockKey}

/-- An operation that has ended never comes back to life. -/
theorem EndedOperation.step (c : StoreCall) (h : EndedOperation s.db id fun _ => True) :
    EndedOperation (storeStep shaped s c).db id fun _ => True := by
  rcases storeStep_db shaped s c with heq | heq <;> rw [heq]
  · exact h
  · obtain ⟨o, ho, hterm, -⟩ := h
    have hid : id = o.id := (key_of_find? ho).symm
    subst hid
    obtain ⟨o', ho', -, -, hchange⟩ := (operation_fate shaped c ho).survives
    refine ⟨o', ho', ?_, trivial⟩
    cases hchange with
    | kept hstate herr => rw [hstate, hterm]
    | started hfrom hto herr =>
      rw [hfrom] at hterm
      cases hterm
    | finished epoch outcome now hcall hlive hto herr
    | interrupted epoch now hcall hepoch hlive hto herr =>
      rw [hlive] at hterm
      cases hterm
    | settled outcome now hcall hparked hknown hto herr =>
      rw [hto, OperationFinish.isTerminal_state]

section

variable (hinv : LockInv s.db) (h : HoldsLock s.db id k)
include hinv h

/-- What one step does to a lock an operation holds. -/
theorem HoldsLock.step (c : StoreCall) : HoldsLock (storeStep shaped s c).db id k ∨
      LeftStale (storeStep shaped s c).db id k ∧
        EndedOperation (storeStep shaped s c).db id (· = .completionUnknown) ∨
      EndedOperation (storeStep shaped s c).db id (· ≠ .completionUnknown) := by
  rcases storeStep_db shaped s c with heq | heq <;> rw [heq]
  · exact .inl h
  · obtain ⟨l, hl, rfl, hfr⟩ := h
    cases lock_fate shaped c hinv hl with
    | kept hlock howner => exact .inl ⟨l, hlock, rfl, hfr⟩
    | staled now hlive hlock howner =>
      obtain ⟨o, ho, -, hst⟩ := howner
      refine .inr (.inl ⟨⟨l.stale now, hlock, rfl, by simp [LockRow.stale]⟩, o, ho, ?_, hst⟩)
      rw [hst]
      rfl
    | ended hlive hlock howner =>
      obtain ⟨o, ho, -, hterm, hne⟩ := howner
      exact .inr (.inr ⟨o, ho, hterm, hne⟩)
    | released hstale hlock hcall => exact absurd hfr hstale

/-- A lock stays with its operation as long as that is live. -/
theorem HoldsLock.run (later : List StoreCall)
    (hlive : LiveOperation (Runs.run (storeStep shaped) s later).db id) :
    HoldsLock (Runs.run (storeStep shaped) s later).db id k := by
  have hor : HoldsLock (Runs.run (storeStep shaped) s later).db id k ∨
      EndedOperation (Runs.run (storeStep shaped) s later).db id fun _ => True := by
    refine Runs.run_stable (P := fun s : Stores => LockInv s.db)
      (Q := fun s : Stores => HoldsLock s.db id k ∨ EndedOperation s.db id fun _ => True)
      (R := fun _ => True) (fun _ c h => LockInv.step shaped c h) ?_ hinv
      (.inl h) (fun _ _ => trivial)
    rintro s c hinv (hheld | hended) -
    · rcases hheld.step shaped hinv c with hheld' | ⟨-, o, ho, ht, -⟩ | ⟨o, ho, ht, -⟩
      · exact .inl hheld'
      · exact .inr ⟨o, ho, ht, trivial⟩
      · exact .inr ⟨o, ho, ht, trivial⟩
    · exact .inr (hended.step shaped c)
  rcases hor with hheld | ⟨o, ho, hterm, -⟩
  · exact hheld
  · obtain ⟨o', ho', hlive'⟩ := hlive
    rw [ho] at ho'
    cases ho'
    rw [hterm] at hlive'
    cases hlive'

end

/-- The steps that may take a stale storage lock away. -/
def RemovesStale (id key : String) : StoreCall → Prop
  | .releaseStaleLock k => k = (.storage, key)
  | .settleReconciled i _ _ => i = id
  | _ => False

/-- A stale storage lock stays until it is released on purpose. -/
theorem LeftStale.run {key : String} (hinv : LockInv s.db)
    (h : LeftStale s.db id (.storage, key)) (later : List StoreCall)
    (hlater : ∀ c ∈ later, ¬ RemovesStale id key c) :
    LeftStale (Runs.run (storeStep shaped) s later).db id (.storage, key) := by
  refine Runs.run_stable (P := fun s : Stores => LockInv s.db)
    (Q := fun s : Stores => LeftStale s.db id (.storage, key))
    (R := fun c => ¬ RemovesStale id key c)
    (fun _ c h => LockInv.step shaped c h) ?_ hinv h hlater
  intro s c hinv hleft hnot
  rcases storeStep_db shaped s c with heq | heq <;> rw [heq]
  · exact hleft
  · obtain ⟨l, hl, rfl, hstale⟩ := hleft
    cases lock_fate shaped c hinv hl with
    | kept hlock howner => exact ⟨l, hlock, rfl, hstale⟩
    | staled now hlive hlock howner | ended hlive hlock howner => exact absurd hlive hstale
    | released hstale hlock hcall =>
      rcases hcall with rfl | hrepo | ⟨outcome, now, rfl⟩
      · exact absurd rfl hnot
      · cases hrepo
      · exact absurd rfl hnot

/-- A stale lock refuses every acquire. -/
theorem LeftStale.refuses {db : RecoveryDb} (h : LeftStale db id k)
    (epoch operationId : String) (now : Int) :
    ∃ e, acquireLock epoch k operationId now db = .error e := by
  obtain ⟨l, hl, -, hstale⟩ := h
  cases hres : acquireLock epoch k operationId now db with
  | error e => exact ⟨e, rfl⟩
  | ok res =>
    rcases acquireLock_ok hres with
      ⟨-, hl', hfr, -⟩ | ⟨op, locks, -, -, -, hins, -, -⟩
    · rw [hl] at hl'
      cases hl'
      exact absurd hfr hstale
    · obtain ⟨hnone, -⟩ := insert?_eq_some hins
      change db.locks.find? k = none at hnone
      rw [hl] at hnone
      cases hnone

end Promises

/-- Recovery operations exclude each other through their locks for their whole
life, over every run of the stores by any number of processes. -/
theorem operation_locks (shaped : String → Bool) (calls : List StoreCall)
    (s : Stores) (hs : s = storeRun shaped calls) :
    (∀ k l, s.db.locks.find? k = some l → l.staleSince = none →
      ∃ o, s.db.operations.find? l.ownerOperationId = some o ∧
        isTerminal o.state = false ∧ o.processEpoch = l.processEpoch) ∧
    (∀ epoch k id now l db', acquireLock epoch k id now s.db = .ok (l, db') → HoldsLock db' id k) ∧
    (∀ epoch newId input locks setup now r db',
      admitOperation epoch newId input locks setup now s.db = .ok (r, db') →
      r.replayed = false → ∀ k ∈ locks, HoldsLock db' r.operation.id k) ∧
    (∀ id k, HoldsLock s.db id k → ∀ later,
      LiveOperation (Runs.run (storeStep shaped) s later).db id →
      HoldsLock (Runs.run (storeStep shaped) s later).db id k) ∧
    (∀ a b k, HoldsLock s.db a k → HoldsLock s.db b k → a = b) ∧
    (∀ id k c, HoldsLock s.db id k →
      EndedOperation (storeStep shaped s c).db id (· = .completionUnknown) →
      LeftStale (storeStep shaped s c).db id k) ∧
    (∀ id key, LeftStale s.db id (.storage, key) →
      (∀ later, (∀ c ∈ later, ¬ RemovesStale id key c) →
        LeftStale (Runs.run (storeStep shaped) s later).db id (.storage, key)) ∧
      ∀ epoch operationId now, ∃ e,
        acquireLock epoch (.storage, key) operationId now s.db = .error e) := by
  have hinv : LockInv s.db := by
    rw [hs]
    exact LockInv.run shaped (s := Stores.empty) lockInv_empty calls
  refine ⟨?_, ?_, ?_, ?_, ?_, ?_, ?_⟩
  · intro k l hl hfr
    obtain ⟨o, ho, hepoch, hiff⟩ := hinv k l hl
    exact ⟨o, ho, hiff.mpr hfr, hepoch⟩
  · intro epoch k id now l db' hacq
    have hall : acquireLocks epoch id now [k] s.db = .ok db' := by
      simp [acquireLocks, hacq, bind, Except.bind]
    exact acquireLocks_holds hall k (by simp)
  · intro epoch newId input locks setup now r db' hadm hnew k hk
    rcases admitOperation_ok hadm with ⟨hrep, -⟩ | ⟨key, ops, -, hid, hacq⟩
    · rw [hrep] at hnew
      cases hnew
    · rw [hid]
      exact acquireLocks_holds hacq k hk
  · exact fun id k h later hlive => h.run shaped hinv later hlive
  · rintro a b k ⟨l, hl, rfl, -⟩ ⟨l', hl', rfl, -⟩
    rw [hl] at hl'
    cases hl'
    rfl
  · intro id k c h hended
    obtain ⟨o, ho, hterm, hst⟩ := hended
    rcases h.step shaped hinv c with hheld | ⟨hstale, -⟩ | ⟨o', ho', -, hne⟩
    · obtain ⟨l, hl, rfl, hfr⟩ := hheld
      obtain ⟨o', ho', -, hiff⟩ := hinv.step shaped c _ l hl
      rw [ho] at ho'
      cases ho'
      rw [hiff.mpr hfr] at hterm
      cases hterm
    · exact hstale
    · rw [ho] at ho'
      cases ho'
      exact absurd hst hne
  · intro id key hleft
    exact ⟨fun later hlater => hleft.run shaped hinv later hlater,
      fun epoch operationId now => hleft.refuses epoch operationId now⟩

/-- A restore is admitted with its storage lock, its process dies and the next
one reconciles. -/
def interruptedRestore : List StoreCall :=
  [.observed [⟨"sid", "vol", 1, "tok", true⟩] [],
    .admitOperation "p1" "op" ⟨"key", .restore, some "sid", none, "ada", .local_, none⟩
      [(.storage, "vol")] (fun _ _ => .ok ()) 1,
    .reconcileAtStartup "p2" 2]

/-- After the restart the storage lock of the interrupted restore refuses an
operation of the new process. -/
theorem operation_locks_interrupted : ∃ e, acquireLock "p2" (.storage, "vol") "op2" 3
      (storeRun (fun _ => false) interruptedRestore).db = .error e := by
  have hleft : LeftStale (storeRun (fun _ => false) interruptedRestore).db "op" (.storage, "vol") :=
    ⟨⟨.storage, "vol", "op", "p1", 1, some 2⟩, by decide, rfl, by decide⟩
  exact ((operation_locks (fun _ => false) interruptedRestore _
    rfl).2.2.2.2.2.2 "op" "vol" hleft).2 "p2" "op2" 3

end Sencho.Recovery

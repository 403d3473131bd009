import Sencho.Recovery.Admission

/-!
# Admissions over whole runs

The part of an operation that says what was asked never changes, and no
operation is deleted, so the answer to a key is settled by the request that
first used it.  A run is any sequence of admissions, of other calls of the
recovery stores and of writes to the other rows.
-/

namespace Sencho.Recovery

open Verified Savepoints List RecoveryDb JsString OperationRow

/-- The part of an operation that no call writes: its id, its key and what was
asked, by whom and when. -/
def OperationRow.request (r : OperationRow) : OperationRow :=
  { r with
    state := .queued
    errorClass := none
    updatedAt := 0
    completedAt := none }

/-- The requests of a table of operations. -/
def RecoveryDb.requests (db : RecoveryDb) : List OperationRow :=
  db.operations.rows.map request

/-- The operation that answers for a key. -/
def RecoveryDb.byKey (db : RecoveryDb) (key : String) : Option OperationRow :=
  db.operations.rows.find? fun r => r.idempotencyKey = key

/-- What a call does to the recorded requests. -/
inductive Recorded (db db' : RecoveryDb) : Prop where
  | none (hsame : db'.requests = db.requests)
  | one (row : OperationRow) (hfree : db.byKey row.idempotencyKey = .none)
      (hmore : db'.requests = row.request :: db.requests)

theorem requests_update (db : RecoveryDb) {p : OperationRow → Bool}
    {f : OperationRow → OperationRow} (hid : ∀ r, (f r).id = r.id)
    (hrequest : ∀ r, (f r).request = r.request) :
    ({ db with operations := db.operations.update p f hid } : RecoveryDb).requests =
      db.requests := by
  simp only [requests, Table.update, map_map]
  refine map_congr_left fun r _ => ?_
  simp only [Function.comp_apply]
  by_cases hp : p r = true
  · rw [if_pos hp, hrequest]
  · rw [if_neg hp]

theorem requests_of_operations {db db' : RecoveryDb}
    (h : db'.operations = db.operations) : db'.requests = db.requests := by
  rw [requests, h, requests]

variable {db : RecoveryDb}

theorem requests_insert {row : OperationRow} {operations : Table OperationRow String id}
    (hins : db.operations.insert? row = some operations) :
    ({ db with operations } : RecoveryDb).requests = row.request :: db.requests := by
  simp only [Table.insert?] at hins
  split at hins
  · cases hins
  · cases hins
    rfl

theorem requests_setRunning (db : RecoveryDb) (p : OperationRow → Bool) (now : Int) :
    (db.setRunning p now).requests = db.requests := by
  have hid : ∀ r : OperationRow,
      ({ r with state := .running, updatedAt := now } : OperationRow).id = r.id :=
    fun _ => rfl
  exact requests_update db hid fun _ => rfl

theorem requests_setOperations (db : RecoveryDb) (p : OperationRow → Bool)
    (state : OperationState) (errorClass : Option ErrorClass) (now : Int) :
    (db.setOperations p state errorClass now).requests = db.requests := by
  have hid : ∀ r : OperationRow, ({ r with
          state := state, errorClass := errorClass, updatedAt := now,
          completedAt := some now } : OperationRow).id = r.id := fun _ => rfl
  exact requests_update db hid fun _ => rfl

/-- The checks a request passes before the tables are read. -/
def acceptable (input : StartInput) : Prop :=
  ¬ (JsString.trim input.idempotencyKey = "" ∨
    length (trim input.idempotencyKey) > 200) ∧
  ¬ (input.requestDigest.any fun d => !isDigest d) = true

section Starting

variable {epoch newId : String} {input : StartInput} {now : Int} {db db' : RecoveryDb}

theorem start_acceptable (h : acceptable input) : start epoch newId input now db =
      match db.byKey (trim input.idempotencyKey) with
      | some row =>
        if sameRequest row input then .ok (⟨row, true⟩, db)
        else refuse .invalidRequest
      | none =>
        match db.operations.insert? (queuedRow epoch newId
          (trim input.idempotencyKey) input now) with
        | none => .error .duplicateKey
        | some operations =>
          .ok (⟨queuedRow epoch newId (trim input.idempotencyKey) input now,
            false⟩, { db with operations }) := by
  cases hrow : db.byKey (trim input.idempotencyKey) with
  | some row =>
    have hfound := hrow
    simp only [byKey] at hfound
    simp only [start, if_neg h.1, if_neg h.2, hfound]
  | none =>
    have hfound := hrow
    simp only [byKey] at hfound
    cases hinsert : db.operations.insert? (queuedRow epoch newId
        (trim input.idempotencyKey) input now) with
    | none => simp only [start, if_neg h.1, if_neg h.2, hfound, hinsert]
    | some operations => simp only [start, if_neg h.1, if_neg h.2, hfound, hinsert]

theorem acceptable_of_start {r : StartedOperation × RecoveryDb}
    (h : start epoch newId input now db = .ok r) : acceptable input := by
  simp only [start] at h
  refine ⟨fun hkey => ?_, fun hdigest => ?_⟩
  · rw [if_pos hkey] at h
    cases h
  · rw [if_pos hdigest] at h
    split at h <;> cases h

section

variable {r : StartedOperation} (h : start epoch newId input now db = .ok (r, db'))
include h

/-- A start that succeeds answers with the operation of its key, or creates the
operation of a key that is free. -/
theorem start_cases : (db.byKey (trim input.idempotencyKey) = some r.operation ∧
      sameRequest r.operation input = true ∧ r.replayed = true ∧ db' = db) ∨
    db.byKey (trim input.idempotencyKey) = none ∧ ∃ operations, db.operations.insert?
        (queuedRow epoch newId (trim input.idempotencyKey) input now) = some operations ∧
        r = ⟨queuedRow epoch newId (trim input.idempotencyKey) input now, false⟩ ∧
        db' = { db with operations } := by
  rw [start_acceptable (acceptable_of_start h)] at h
  cases hfind : db.byKey (trim input.idempotencyKey) with
  | some row =>
    simp only [hfind] at h
    by_cases hsame : sameRequest row input = true
    · rw [if_pos hsame] at h
      cases h
      exact .inl ⟨rfl, hsame, rfl, rfl⟩
    · rw [if_neg hsame] at h
      cases h
  | none =>
    simp only [hfind] at h
    cases hins : db.operations.insert? (queuedRow epoch newId
        (trim input.idempotencyKey) input now) with
    | none =>
      rw [hins] at h
      cases h
    | some operations =>
      rw [hins] at h
      cases h
      exact .inr ⟨rfl, operations, rfl, rfl, rfl⟩

theorem start_recorded : Recorded db db' := by
  rcases start_cases h with ⟨-, -, -, rfl⟩ | ⟨hfree, operations, hins, -, rfl⟩
  · exact .none rfl
  · exact .one (queuedRow epoch newId (trim input.idempotencyKey) input now) hfree
      (requests_insert hins)

end

end Starting

theorem Recorded.of_requests {db db₁ db₂ : RecoveryDb} (h : Recorded db db₁)
    (heq : db₂.requests = db₁.requests) : Recorded db db₂ := by
  cases h with
  | none hsame => exact .none (heq.trans hsame)
  | one row hfree hmore => exact .one row hfree (heq.trans hmore)

theorem bind_ok {ε α β : Type} {x : Except ε α} {f : α → Except ε β} {b : β}
    (h : (x >>= f) = .ok b) : ∃ a, x = .ok a ∧ f a = .ok b := by
  cases x with
  | ok a => exact ⟨a, rfl, h⟩
  | error e => cases h

theorem admitOperation_recorded {epoch newId : String} {input : StartInput}
    {locks : List LockKey} {setup : RecoveryDb → OperationRow → Except StoreError Unit}
    {now : Int} {db db' : RecoveryDb} {r : StartedOperation}
    (h : admitOperation epoch newId input locks setup now db = .ok (r, db')) : Recorded db db' := by
  obtain ⟨started, hstart, h⟩ := bind_ok h
  have hrecorded := start_recorded hstart
  dsimp only at h
  split at h
  · cases h
    exact hrecorded
  · obtain ⟨marked, hmark, h⟩ := bind_ok h
    obtain ⟨db₃, hacq, h⟩ := bind_ok h
    obtain ⟨op, -, h⟩ := bind_ok h
    obtain ⟨u, -, h⟩ := bind_ok h
    cases h
    have hlocks : db'.requests = marked.2.requests :=
      requests_of_operations (acquireLocks_operations hacq).1
    rw [markRunning_ok hmark, requests_setRunning] at hlocks
    exact hrecorded.of_requests hlocks

/-- A call records at most one request, under a key that was free. -/
theorem call_recorded (shaped : String → Bool) (db : RecoveryDb) (c : StoreCall) :
    Recorded db (callDb shaped db c) := by
  have heffect := call_effect shaped db c
  generalize hdb' : callDb shaped db c = db' at heffect
  cases heffect with
  | same => exact .none rfl
  | @started epoch newId input now =>
    simp only [callDb] at hdb'
    cases hstart : start epoch newId input now db with
    | error e =>
      rw [hstart] at hdb'
      exact .none (congrArg requests hdb'.symm)
    | ok r =>
      rw [hstart] at hdb'
      exact (start_recorded hstart).of_requests (congrArg requests hdb'.symm)
  | @admitted epoch newId input locks setup now =>
    simp only [callDb] at hdb'
    cases hadmission : admitOperation epoch newId input locks setup now db with
    | error e =>
      rw [hadmission] at hdb'
      exact .none (congrArg requests hdb'.symm)
    | ok r =>
      rw [hadmission] at hdb'
      exact (admitOperation_recorded hadmission).of_requests (congrArg requests hdb'.symm)
  | running epoch id now => exact .none (requests_setRunning db _ _)
  | finished hcur hlive hep hpts =>
    exact .none ((requests_of_operations (endOperation_operations _ _ _ _ _)).trans
      (requests_setOperations db _ _ _ _))
  | settled hcur hparked hknown => exact .none (requests_setOperations db _ _ _ _)
  | acquired hop hlive hep hins => exact .none rfl
  | releasedStale hl hstale => exact .none rfl
  | releasedRepository activeId => exact .none rfl
  | reconciled epoch now => exact .none (requests_setOperations db _ _ _ _)
  | begun hins hpend => exact .none rfl
  | finalized id outcome now hcall hpend => exact .none rfl
  | observed identities repositories => exact .none rfl

theorem onDb_ok {ρ ξ α : Type} {f : RecoveryDb → Except StoreError (α × RecoveryDb)}
    {s s' : AdmissionRows ρ} {x : α}
    (h : onDb f s = (.ok (x, s') : Except (AdmissionFailure ξ) (α × AdmissionRows ρ))) :
    f s.1 = .ok (x, s'.1) ∧ s'.2 = s.2 := by
  simp only [onDb] at h
  cases hf : f s.1 with
  | ok r =>
    rw [hf] at h
    cases h
    exact ⟨rfl, rfl⟩
  | error e =>
    rw [hf] at h
    cases h

variable {op : OperationRow}

namespace Admission

variable {ρ ξ τ : Type} (a : Admission ρ ξ τ)
variable {operations : Table OperationRow String id}

def key : String := trim a.input.idempotencyKey

/-- The `setup` of an admission ran once, from the rows before the admission,
and left the rows after it.  It saw the operation, running, and its locks. -/
def SetupRan (op : OperationRow) (v : Option τ) (s s' : AdmissionRows ρ) : Prop :=
  match a.setup with
  | none => v = none ∧ s'.1.points = s.1.points ∧ s'.2 = s.2
  | some setup => ∃ answer saved,
      setup { s'.1 with points := s.1.points } op ⟨(s.1.points, s.2), []⟩ =
        (.ok answer, ⟨(s'.1.points, s'.2), saved⟩) ∧ v = some answer

theorem prepared_ok {operationId : String} {v : Option τ} {s s' : AdmissionRows ρ}
    (hop : s.1.operations.find? operationId = some op)
    (h : a.prepared operationId s = .ok (v, s')) :
    s'.1 = { s.1 with points := s'.1.points } ∧ a.SetupRan op v s s' := by
  unfold prepared at h
  unfold SetupRan
  cases hsetup : a.setup with
  | none =>
    rw [hsetup] at h
    cases h
    exact ⟨rfl, rfl, rfl, rfl⟩
  | some setup =>
    rw [hsetup] at h
    obtain ⟨found, hfound, h⟩ := bind_ok h
    obtain ⟨ran, hran, h⟩ := bind_ok h
    obtain ⟨hreq, hothers⟩ := onDb_ok hfound
    have hrow : found = (op, s) := by
      simp only [require, hop, Except.map] at hreq
      cases found with
      | mk row rest =>
          cases rest
          cases hreq
          cases hothers
          rfl
    subst hrow
    simp only [zoomed] at hran
    cases hcode : setup s.1 op ⟨(s.1.points, s.2), []⟩ with
    | mk result c' =>
      cases result with
      | error x =>
        rw [hcode] at hran
        cases hran
      | ok answer =>
        rw [hcode] at hran
        cases hran
        cases h
        exact ⟨rfl, answer, c'.saved, hcode, rfl⟩

/-- The row of the operation once it runs. -/
def runningRow : OperationRow :=
  { queuedRow a.epoch a.newId a.key a.input a.now with
    state := .running
    updatedAt := a.now }

/-- What an admission that is new leaves. -/
structure Fresh (r : AdmittedOperation τ) (s s' : AdmissionRows ρ) : Prop where
  isNew : r.started.replayed = false
  free : s.1.byKey a.key = none
  recorded : s'.1.requests = r.started.operation.request :: s.1.requests
  only : s'.1.operations.rows.filter (fun o => o.idempotencyKey = a.key) = [r.started.operation]
  running : r.started.operation.state = .running
  asked : sameRequest r.started.operation a.input = true
  locked : ∀ k ∈ a.locks, HoldsLock s'.1 r.started.operation.id k
  setup : a.SetupRan r.started.operation r.setup s s'

/-- What an admission that is a replay leaves. -/
structure Replay (r : AdmittedOperation τ) (s s' : AdmissionRows ρ) : Prop where
  isReplay : r.started.replayed = true
  found : s.1.byKey a.key = some r.started.operation
  asked : sameRequest r.started.operation a.input = true
  skipped : r.setup = none
  same : s' = s

theorem runningRow_only (hfree : db.byKey a.key = none)
    (hins : db.operations.insert? (queuedRow a.epoch a.newId a.key a.input a.now) =
      some operations) :
    ((({ db with operations } : RecoveryDb).setRunning (queuedHere a.epoch a.newId)
      a.now).operations.rows.filter fun o => o.idempotencyKey = a.key) =
      [a.runningRow] := by
  have hrows : operations.rows =
      queuedRow a.epoch a.newId a.key a.input a.now :: db.operations.rows := by
    simp only [Table.insert?] at hins
    split at hins
    · cases hins
    · cases hins
      rfl
  have hold : (db.operations.rows.filter fun o => o.idempotencyKey = a.key) = [] := by
    rw [filter_eq_nil_iff]
    exact find?_eq_none.mp hfree
  have hkey : ∀ o : OperationRow, (if queuedHere a.epoch a.newId o then
      { o with state := .running, updatedAt := a.now } else o).idempotencyKey =
        o.idempotencyKey := by
    intro o
    split <;> rfl
  have hhere : queuedHere a.epoch a.newId
      (queuedRow a.epoch a.newId a.key a.input a.now) = true := by
    simp [queuedHere, queuedRow]
  simp only [setRunning, Table.update, filter_map, Function.comp_def, hkey]
  rw [hrows, filter_cons_of_pos (by simp [queuedRow]), hold, map_singleton, if_pos hhere]
  rfl

theorem SetupRan.of_rows {v : Option τ} {s s₁ s' : AdmissionRows ρ}
    (h : a.SetupRan op v s₁ s') (hpoints : s₁.1.points = s.1.points)
    (hothers : s₁.2 = s.2) : a.SetupRan op v s s' := by
  unfold SetupRan at h ⊢
  rw [← hpoints, ← hothers]
  exact h

theorem find?_runningRow
    (hins : db.operations.insert? (queuedRow a.epoch a.newId a.key a.input a.now) =
      some operations) :
    (({ db with operations } : RecoveryDb).setRunning (queuedHere a.epoch a.newId)
      a.now).operations.find? a.newId = some a.runningRow := by
  have hfind : operations.find? a.newId = some (queuedRow a.epoch a.newId a.key a.input a.now) := by
    rw [(Table.insert?_eq_some hins).2]
    exact if_pos rfl
  have hhere : queuedHere a.epoch a.newId
      (queuedRow a.epoch a.newId a.key a.input a.now) = true := by
    simp [queuedHere, queuedRow]
  rw [find?_setRunning _ hfind, if_pos hhere]
  rfl

theorem sameRequest_runningRow : sameRequest a.runningRow a.input = true := by
  simp [sameRequest, runningRow, queuedRow]

/-- The steps of an admission that is new. -/
theorem recorded_ok {r : AdmittedOperation τ} {s s' : AdmissionRows ρ}
    (hfree : s.1.byKey a.key = none)
    (hins : s.1.operations.insert? (queuedRow a.epoch a.newId a.key a.input a.now) =
      some operations) (h : a.recorded a.newId ({ s.1 with operations }, s.2) = .ok (r, s')) :
    a.Fresh r s s' := by
  obtain ⟨marked, hmark, h⟩ := bind_ok h
  obtain ⟨hmark, hmarked⟩ := onDb_ok hmark
  have hrunning := markRunning_ok hmark
  obtain ⟨locked, hlock, h⟩ := bind_ok h
  obtain ⟨hlock, hlocked⟩ := onDb_ok hlock
  have hacq : acquireLocks a.epoch a.newId a.now a.locks marked.2.1 = .ok locked.2.1 := by
    unfold acquireAll at hlock
    cases hdb : acquireLocks a.epoch a.newId a.now a.locks marked.2.1 with
    | error e =>
      rw [hdb] at hlock
      cases hlock
    | ok db =>
      rw [hdb] at hlock
      exact congrArg Except.ok (congrArg Prod.snd (Except.ok.inj hlock))
  obtain ⟨hoperations, hpoints⟩ := acquireLocks_operations hacq
  rw [hrunning] at hoperations hpoints
  have hop : locked.2.1.operations.find? a.newId = some a.runningRow := by
    rw [hoperations]
    exact a.find?_runningRow hins
  obtain ⟨prepared, hprepared, h⟩ := bind_ok h
  obtain ⟨honly, hran⟩ := a.prepared_ok hop hprepared
  obtain ⟨found, hfound, h⟩ := bind_ok h
  obtain ⟨hreq, hrest⟩ := onDb_ok hfound
  have hrow : found = (a.runningRow, prepared.2) := by
    have hstill : prepared.2.1.operations.find? a.newId = some a.runningRow := by
      rw [honly]
      exact hop
    simp only [require, hstill, Except.map] at hreq
    have hpair := Except.ok.inj hreq
    exact Prod.ext (congrArg Prod.fst hpair).symm (Prod.ext (congrArg Prod.snd hpair).symm hrest)
  subst hrow
  cases h
  have hrequests : prepared.2.1.requests =
      (queuedRow a.epoch a.newId a.key a.input a.now).request :: s.1.requests := by
    have hsame : prepared.2.1.operations = locked.2.1.operations := by rw [honly]
    rw [requests_of_operations (hsame.trans hoperations), requests_setRunning, requests_insert hins]
  refine ⟨rfl, hfree, hrequests, ?_, rfl, a.sameRequest_runningRow, fun k hk => ?_, ?_⟩
  · rw [honly]
    refine Eq.trans ?_ (a.runningRow_only hfree hins)
    rw [← hoperations]
  · obtain ⟨l, hl, howner, hfr⟩ := acquireLocks_holds hacq k hk
    refine ⟨l, ?_, howner, hfr⟩
    rw [honly]
    exact hl
  · exact hran.of_rows a hpoints (hlocked.trans hmarked)

theorem admitted_ok {r : AdmittedOperation τ} {s s' : AdmissionRows ρ}
    (h : a.admitted s = .ok (r, s')) : a.Replay r s s' ∨ a.Fresh r s s' := by
  obtain ⟨started, hstart, h⟩ := bind_ok h
  obtain ⟨hstart, hothers⟩ := onDb_ok hstart
  rcases start_cases hstart with ⟨hfind, hsame, hreplayed, hdb⟩ |
    ⟨hfree, operations, hins, hstarted, hdb⟩
  · rw [settled, if_pos hreplayed] at h
    cases h
    exact .inl ⟨hreplayed, hfind, hsame, rfl, Prod.ext hdb hothers⟩
  · have hafter : started = (⟨queuedRow a.epoch a.newId a.key a.input a.now, false⟩,
        ({ s.1 with operations }, s.2)) := Prod.ext hstarted (Prod.ext hdb hothers)
    rw [hafter, settled, if_neg Bool.false_ne_true] at h
    exact .inr (a.recorded_ok hfree hins h)

end Admission

/-- The rows of the database.  An idempotency key is unique. -/
structure Ledger (ρ : Type) where
  db : RecoveryDb
  others : ρ
  keyed : (db.requests.map idempotencyKey).Nodup

variable {request : OperationRow}

section

variable {db db' : RecoveryDb} (h : Recorded db db')
include h

theorem Recorded.keyed (hkeyed : (db.requests.map idempotencyKey).Nodup) :
    (db'.requests.map idempotencyKey).Nodup := by
  cases h with
  | none hsame => rwa [hsame]
  | one row hfree hmore =>
    rw [hmore, map_cons, nodup_cons]
    refine ⟨fun hmem => ?_, hkeyed⟩
    simp only [requests, map_map, mem_map, Function.comp_apply] at hmem
    obtain ⟨old, hold, hkey⟩ := hmem
    have hother := find?_eq_none.mp hfree old hold
    exact hother (decide_eq_true hkey)

theorem Recorded.kept (hmem : request ∈ db.requests) : request ∈ db'.requests := by
  cases h with
  | none hsame => rwa [hsame]
  | one row hfree hmore =>
    rw [hmore]
    exact mem_cons_of_mem _ hmem

end

theorem key_of_byKey {key : String} (h : db.byKey key = some op) : op.idempotencyKey = key :=
  (mem_key_of_find? h).2

/-- A key whose request is recorded finds its operation. -/
theorem byKey_of_request (hkeyed : (db.requests.map idempotencyKey).Nodup)
    (hmem : request ∈ db.requests) :
    ∃ op, db.byKey request.idempotencyKey = some op ∧ op.request = request := by
  obtain ⟨op, hop, rfl⟩ := mem_map.mp hmem
  have hkeys : (db.operations.rows.map idempotencyKey).Nodup := by
    rw [requests, map_map] at hkeyed
    exact hkeyed
  exact ⟨op, (find?_key_iff hkeys).mpr ⟨hop, rfl⟩, rfl⟩

section Runs

variable {ρ ξ τ : Type}

/-- An admission that commits, or one that threw. -/
theorem Admission.code_recorded (a : Admission ρ ξ τ) (c : Connection (AdmissionRows ρ)) :
    Recorded c.rows.1 (a.code c).2.rows.1 := by
  cases hrun : (a.code c).1 with
  | error e =>
    have hsame : (a.code c).2 = c := a.code_atomic.refused hrun
    rw [hsame]
    exact .none rfl
  | ok r =>
    obtain ⟨hrows, -⟩ := a.code_atomic.accepted hrun
    have hsett : a.Replay r c.rows (a.code c).2.rows ∨
        a.Fresh r c.rows (a.code c).2.rows := a.admitted_ok hrows
    cases hsett with
    | inl hreplay =>
      exact .none (congrArg (fun s => s.1.requests) hreplay.same)
    | inr hfr =>
      have hmem : r.started.operation ∈ [r.started.operation] :=
        mem_singleton_self _
      rw [← hfr.only] at hmem
      have hkey : r.started.operation.idempotencyKey = a.key :=
        of_decide_eq_true (mem_filter.mp hmem).2
      have hfree : c.rows.1.byKey r.started.operation.idempotencyKey = none := by
        rw [hkey]
        exact hfr.free
      exact .one r.started.operation hfree hfr.recorded

/-- One write to the database: a call of a recovery store, an admission, or a
write of another module to its own rows. -/
inductive LedgerCall (ρ ξ τ : Type) where
  | store (c : StoreCall)
  | admission (a : Admission ρ ξ τ)
  | others (f : ρ → ρ)

namespace Ledger

def rows (l : Ledger ρ) : AdmissionRows ρ := (l.db, l.others)

/-- The rows after an admission, committed or not. -/
def admission (l : Ledger ρ) (a : Admission ρ ξ τ) : Ledger ρ where
  db := (a.code ⟨l.rows, []⟩).2.rows.1
  others := (a.code ⟨l.rows, []⟩).2.rows.2
  keyed := (a.code_recorded ⟨l.rows, []⟩).keyed l.keyed

theorem admission_recorded (l : Ledger ρ) (a : Admission ρ ξ τ) :
    Recorded l.db (l.admission a).db := by
  exact a.code_recorded ⟨l.rows, []⟩

def step (shaped : String → Bool) (l : Ledger ρ) : LedgerCall ρ ξ τ → Ledger ρ
  | .store c => ⟨callDb shaped l.db c, l.others, (call_recorded shaped l.db c).keyed l.keyed⟩
  | .admission a => l.admission a
  | .others f => { l with others := f l.others }

theorem step_recorded (shaped : String → Bool) (l : Ledger ρ) (c : LedgerCall ρ ξ τ) :
    Recorded l.db (l.step shaped c).db := by
  cases c with
  | store c => exact call_recorded shaped l.db c
  | admission a => exact l.admission_recorded a
  | others f => exact .none rfl

/-- A request that is recorded stays recorded. -/
theorem run_kept (shaped : String → Bool) {l : Ledger ρ}
    (hmem : request ∈ l.db.requests) (calls : List (LedgerCall ρ ξ τ)) :
    request ∈ (Runs.run (step shaped) l calls).db.requests :=
  Runs.run_invariant (P := fun l : Ledger ρ => request ∈ l.db.requests)
    (fun l c h => (l.step_recorded shaped c).kept h) hmem calls

end Ledger

namespace Admission

variable (b : Admission ρ ξ τ)

/-- The answer of an admission whose key is recorded: its operation, for the
same request only. -/
theorem code_known (l : Ledger ρ) (saved : List (AdmissionRows ρ))
    (hop : l.db.byKey b.key = some op) (hasked : acceptable b.input) :
    b.code ⟨l.rows, saved⟩ = (if sameRequest op b.input then .ok ⟨⟨op, true⟩, none⟩
        else .error (.store (.recovery .invalidRequest)), ⟨l.rows, saved⟩) := by
  have hstart : start b.epoch b.newId b.input b.now l.db =
      if sameRequest op b.input then .ok (⟨op, true⟩, l.db)
      else refuse .invalidRequest := by
    rw [start_acceptable hasked]
    unfold key at hop
    rw [hop]
  by_cases hsame : sameRequest op b.input = true
  · rw [if_pos hsame] at hstart ⊢
    have hrows : b.admitted l.rows = .ok (⟨⟨op, true⟩, none⟩, l.rows) := by
      simp only [admitted, onDb, Ledger.rows, hstart, bind, Except.bind, settled, if_true]
    exact b.code_atomic.returns hrows
  · rw [if_neg hsame] at hstart ⊢
    have hrows : b.admitted l.rows = .error (.store (.recovery .invalidRequest)) := by
      simp only [admitted, onDb, Ledger.rows, hstart, bind, Except.bind, refuse]
    exact b.code_atomic.refuses hrows

/-- A malformed digest is refused before the tables are read. -/
theorem code_malformed (c : Connection (AdmissionRows ρ)) (hasked : ¬ acceptable b.input) :
    b.code c = (.error (.store (.recovery .invalidRequest)), c) := by
  have hstart : start b.epoch b.newId b.input b.now c.rows.1 = refuse .invalidRequest := by
    cases h : start b.epoch b.newId b.input b.now c.rows.1 with
    | ok r => exact absurd (acceptable_of_start h) hasked
    | error e =>
      simp only [start] at h
      split at h
      · exact h.symm
      · next hkey =>
          split at h
          · exact h.symm
          · next hdigest => exact absurd ⟨hkey, hdigest⟩ hasked
  refine b.code_atomic.refuses ?_
  simp only [admitted, onDb, hstart, bind, Except.bind, refuse]

/-- The operation an admission answered with is recorded after it, and the
request passed its checks. -/
theorem answered {a : Admission ρ ξ τ} {r : AdmittedOperation τ} {s s' : AdmissionRows ρ}
    (h : a.admitted s = .ok (r, s')) :
    r.started.operation.request ∈ s'.1.requests ∧ r.started.operation.idempotencyKey = a.key ∧
      sameRequest r.started.operation a.input = true ∧ acceptable a.input := by
  obtain ⟨started, hstart, -⟩ := bind_ok h
  have hasked : acceptable a.input := acceptable_of_start (onDb_ok hstart).1
  rcases a.admitted_ok h with hreplay | hfr
  · have hmem : r.started.operation ∈ s.1.operations.rows :=
      mem_of_find?_eq_some hreplay.found
    rw [hreplay.same]
    exact ⟨mem_map_of_mem hmem, key_of_byKey hreplay.found, hreplay.asked, hasked⟩
  · have hmem : r.started.operation ∈ [r.started.operation] := mem_singleton_self _
    rw [← hfr.only] at hmem
    refine ⟨?_, of_decide_eq_true (mem_filter.mp hmem).2, hfr.asked, hasked⟩
    rw [hfr.recorded]
    exact mem_cons_self

/-- A request with a recorded key, in any later state. -/
theorem code_later (l : Ledger ρ) (saved : List (AdmissionRows ρ)) {a : Admission ρ ξ τ}
    {first : OperationRow} (hmem : first.request ∈ l.db.requests)
    (hkey : first.idempotencyKey = a.key) (hsame : sameRequest first a.input = true)
    (hasked : acceptable a.input) (hb : b.key = a.key) :
    ∃ op ∈ l.db.operations.rows, op.request = first.request ∧ b.code ⟨l.rows, saved⟩ =
        (if sameRequest first b.input then .ok ⟨⟨op, true⟩, none⟩
          else .error (.store (.recovery .invalidRequest)), ⟨l.rows, saved⟩) := by
  obtain ⟨op, hfind, hop⟩ := byKey_of_request l.keyed hmem
  have hrow : op ∈ l.db.operations.rows := mem_of_find?_eq_some hfind
  have hfind' : l.db.byKey b.key = some op := by
    rw [hb, ← hkey]
    exact hfind
  have hrequest : sameRequest op b.input = sameRequest first b.input := by
    have h := congrArg (fun row => sameRequest row b.input) hop
    exact h
  refine ⟨op, hrow, hop, ?_⟩
  by_cases hacceptable : acceptable b.input
  · rw [code_known b l saved hfind' hacceptable, hrequest]
  · rw [code_malformed b _ hacceptable]
    have hdiffers : ¬ sameRequest first b.input = true := by
      intro hsame'
      refine hacceptable ⟨?_, ?_⟩
      · have hkeys : trim b.input.idempotencyKey =
            trim a.input.idempotencyKey := hb
        rw [hkeys]
        exact hasked.1
      · simp only [sameRequest, Bool.and_eq_true, beq_iff_eq] at hsame hsame'
        rw [← hsame'.2, hsame.2]
        exact hasked.2
    rw [if_neg hdiffers]

theorem once_per_key (shaped : String → Bool) (l : Ledger ρ) (saved : List (AdmissionRows ρ))
    (a : Admission ρ ξ τ) :
    (∀ e, (a.code ⟨l.rows, saved⟩).1 = .error e → (a.code ⟨l.rows, saved⟩).2 = ⟨l.rows, saved⟩) ∧
    ∀ r, (a.code ⟨l.rows, saved⟩).1 = .ok r → (a.code ⟨l.rows, saved⟩).2.saved = saved ∧
      (a.Replay r l.rows (a.code ⟨l.rows, saved⟩).2.rows ∨
        a.Fresh r l.rows (a.code ⟨l.rows, saved⟩).2.rows) ∧
      ∀ after : Ledger ρ, after.rows = (a.code ⟨l.rows, saved⟩).2.rows →
        ∀ (calls : List (LedgerCall ρ ξ τ)) (later : Ledger ρ),
          later = Runs.run (Ledger.step shaped) after calls →
          ∀ (b : Admission ρ ξ τ) (opened : List (AdmissionRows ρ)), b.key = a.key →
            ∃ op ∈ later.db.operations.rows, op.id = r.started.operation.id ∧
              b.code ⟨later.rows, opened⟩ =
                (if sameRequest r.started.operation b.input then .ok ⟨⟨op, true⟩, none⟩
                  else .error (.store (.recovery .invalidRequest)),
                 ⟨later.rows, opened⟩) := by
  refine ⟨fun e hrun => a.code_atomic.refused hrun, fun r hrun => ?_⟩
  obtain ⟨hrows, hsaved⟩ := a.code_atomic.accepted hrun
  obtain ⟨hmem, hkey, hsame, hasked⟩ := answered hrows
  refine ⟨hsaved, a.admitted_ok hrows, fun after hafter calls later hlater b opened hb => ?_⟩
  have hfirst : r.started.operation.request ∈ after.db.requests := by
    have hdb : after.db = (a.code ⟨l.rows, saved⟩).2.rows.1 := congrArg Prod.fst hafter
    rw [hdb]
    exact hmem
  have hstill : r.started.operation.request ∈ later.db.requests := by
    rw [hlater]
    exact Ledger.run_kept shaped hfirst calls
  obtain ⟨op, hop, hrequest, hcode⟩ := b.code_later later opened hstill hkey hsame hasked hb
  have hid := congrArg OperationRow.id hrequest
  exact ⟨op, hop, hid, hcode⟩

end Admission

end Runs

end Sencho.Recovery

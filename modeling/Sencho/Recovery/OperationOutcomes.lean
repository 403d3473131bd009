import Sencho.Recovery.OperationLocks

/-!
# A recovery operation's outcome is written once

Completions can arrive late, twice, or from a process whose work was already
reconciled.  The fates of operations and points in one call give the guarantee
over every run: an outcome stands once it is written, an unknown one may be
replaced once by its proven ending, and a point leaves `pending` at most once.
-/

namespace Sencho.Recovery

open Verified Table Runs

/-- The operation reads with this state and class. -/
def OutcomeIs (db : RecoveryDb) (id : String) (st : OperationState)
    (e : Option ErrorClass) : Prop :=
  ∃ r, db.operations.find? id = some r ∧ r.state = st ∧ r.errorClass = e

/-- An ending boot or the live pipeline left for a reconciler. -/
def ParkedOutcome (st : OperationState) (e : Option ErrorClass) : Prop :=
  st = .completionUnknown ∧ e = some .interrupted

section Outcomes

variable (shaped : String → Bool) {s : Stores} {id : String}
  {st : OperationState} {e : Option ErrorClass}

section

variable (h : OutcomeIs s.db id st e) (hterm : isTerminal st = true)
include h hterm

/-- What one step does to an ending: nothing, or the one replacement a proven
ending makes of an interrupted one. -/
theorem outcome_step (c : StoreCall) : OutcomeIs (storeStep shaped s c).db id st e ∨
      ∃ outcome now, c = .settleReconciled id outcome now ∧
        ParkedOutcome st e ∧ outcome.state ≠ .completionUnknown ∧
        OutcomeIs (storeStep shaped s c).db id outcome.state
          outcome.errorClass := by
  rcases storeStep_db shaped s c with heq | heq <;> rw [heq]
  · exact .inl h
  · obtain ⟨r, hr, rfl, rfl⟩ := h
    have hid : id = r.id := (key_of_find? hr).symm
    subst hid
    obtain ⟨r', hr', -, -, hchange⟩ := (operation_fate shaped c hr).survives
    have hdead : isTerminal r.state ≠ false := by simp [hterm]
    cases hchange with
    | kept hstate herr => exact .inl ⟨r', hr', hstate, herr⟩
    | started hfrom hto herr =>
      rw [hfrom] at hterm
      cases hterm
    | finished epoch outcome now hcall hlive hto herr
    | interrupted epoch now hcall hepoch hlive hto herr => exact absurd hlive hdead
    | settled outcome now hcall hparked hknown hto herr =>
      simp only [parked, Bool.and_eq_true, decide_eq_true_eq] at hparked
      exact .inr ⟨outcome, now, hcall, hparked, hknown, r', hr', hto, herr⟩

/-- An ending that is not an interrupted one never changes. -/
theorem outcome_fixed (hnot : ¬ ParkedOutcome st e) (later : List StoreCall) :
    OutcomeIs (run (storeStep shaped) s later).db id st e := by
  refine run_invariant (P := fun s : Stores => OutcomeIs s.db id st e) (fun s c hs => ?_) h later
  rcases outcome_step shaped hs hterm c with hsame | ⟨_, _, -, hparked, -⟩
  · exact hsame
  · exact absurd hparked hnot

/-- After any run an ending is the same, or it was an interrupted one that
`settleReconciled` replaced once. -/
theorem outcome_run (later : List StoreCall) :
    OutcomeIs (run (storeStep shaped) s later).db id st e ∨ ∃ pre outcome now post,
        later = pre ++ .settleReconciled id outcome now :: post ∧
        ParkedOutcome st e ∧ outcome.state ≠ .completionUnknown ∧
        OutcomeIs (run (storeStep shaped) s pre).db id st e ∧
        ∀ more, OutcomeIs (run (storeStep shaped) s
          (pre ++ .settleReconciled id outcome now :: more)).db id outcome.state
          outcome.errorClass := by
  by_cases hsame : OutcomeIs (run (storeStep shaped) s later).db id st e
  · exact .inl hsame
  · right
    obtain ⟨pre, c, post, rfl, hpre, hlost⟩ := run_first_change
      (Q := fun s : Stores => OutcomeIs s.db id st e) h hsame
    rw [run_append] at hlost
    rcases outcome_step shaped hpre hterm c with hkept | hreplaced
    · exact absurd hkept hlost
    · obtain ⟨outcome, now, rfl, hparked, hknown, hnew⟩ := hreplaced
      refine ⟨pre, outcome, now, post, rfl, hparked, hknown, hpre, fun more => ?_⟩
      rw [run_append, run_cons]
      exact outcome_fixed shaped hnew (OperationFinish.isTerminal_state _)
        (fun hp => hknown hp.1) more

end

end Outcomes

variable {now : Int} {p : PointRow} {db : RecoveryDb} {pid : String}

theorem find?_settlePending (db : RecoveryDb) {q : PointRow → Bool} {status : PointStatus}
    {failureClass : ErrorClass} (h : db.points.find? pid = some p) :
    (db.settlePending q status failureClass now).points.find? pid =
      some (if q p && p.status = .pending then
          { p with
            status := status, failureClass := some failureClass,
            completedAt := some now }
        else p) := by
  rw [RecoveryDb.settlePending, find?_update, h]
  rfl

theorem settlePoints_kept {id : String} {outcome : OperationFinish} (db : RecoveryDb)
    (h : db.points.find? pid = some p) (hdone : p.status ≠ .pending) :
    (settlePoints id outcome now db).points.find? pid = some p := by
  cases outcome with
  | failed c | cancelled | completionUnknown =>
    rw [settlePoints, find?_settlePending db h]
    simp [hdone]
  | succeeded | partial_ => exact h

/-- No call changes a finished point. -/
theorem point_kept (shaped : String → Bool) (c : StoreCall) (h : db.points.find? pid = some p)
    (hdone : p.status ≠ .pending) : (callDb shaped db c).points.find? pid = some p := by
  have heffect := call_effect shaped db c
  generalize callDb shaped db c = db' at heffect
  cases heffect with
  | same | started hins => exact h
  | admitted hins hacq =>
    rw [(acquireLocks_operations hacq).2]
    exact h
  | running epoch id now => exact h
  | @finished epoch id outcome now cur hcur hlive hep hpts =>
    rw [endOperation, settleLocks_points]
    exact settlePoints_kept (db.setOperations _ _ _ _) h hdone
  | settled hcur hparked hknown => exact h
  | acquired hop hlive hep hins => exact h
  | releasedStale hl hstale => exact h
  | releasedRepository activeId => exact h
  | reconciled epoch now =>
    have hfind : (reconcile epoch now db).points.find? pid = _ :=
      find?_settlePending (interruptOthers epoch now db) h
    rw [hfind]
    simp [hdone]
  | @begun newId input now r points hins hpend =>
    obtain ⟨hnew, hfind⟩ := insert?_eq_some hins
    have hne : pid ≠ r.id := by
      intro heq
      rw [← heq, h] at hnew
      cases hnew
    rw [hfind, if_neg hne, h]
  | finalized id outcome now hcall hpend =>
    have hne : p.id ≠ id := by
      intro hid
      have hany := (any_iff db.points fun r =>
        r.id = id && r.status ≠ .pending).mpr ⟨pid, p, h, by simp [hid, hdone]⟩
      rw [hpend] at hany
      cases hany
    rw [find?_update, h]
    simp [hne]
  | observed identities repositories => exact h

/-- A finished point is the same row after every run. -/
theorem point_fixed (shaped : String → Bool) {s : Stores} (h : s.db.points.find? pid = some p)
    (hdone : p.status ≠ .pending) (later : List StoreCall) :
    (run (storeStep shaped) s later).db.points.find? pid = some p := by
  refine run_invariant (P := fun s : Stores => s.db.points.find? pid = some p) (fun s c hs => ?_) h
    later
  rcases storeStep_db shaped s c with heq | heq <;> rw [heq]
  · exact hs
  · exact point_kept shaped c hs hdone

/-- A call under which a live operation ends with a complete or partial result
found no pending point of it. -/
theorem no_pending_at_success (shaped : String → Bool) {s : Stores} {c : StoreCall} {id : String}
    (hlive : LiveOperation s.db id) (hend : EndedOperation (storeStep shaped s c).db id
      fun st => st = .succeeded ∨ st = .partial_) (hp : s.db.points.find? pid = some p)
    (hsource : p.sourceOperationId = id) : p.status ≠ .pending := by
  obtain ⟨o, ho, holive⟩ := hlive
  obtain ⟨o', ho', hterm, hst⟩ := hend
  have hstuck : (storeStep shaped s c).db ≠ s.db := by
    intro heq
    rw [heq, ho] at ho'
    cases ho'
    rw [holive] at hterm
    cases hterm
  have heq := (storeStep_db shaped s c).resolve_left hstuck
  rw [heq] at ho'
  have hid : id = o.id := (key_of_find? ho).symm
  subst hid
  obtain ⟨o₁, ho₁, -, -, hchange⟩ := (operation_fate shaped c ho).survives
  rw [ho'] at ho₁
  cases ho₁
  cases hchange with
  | kept hstate herr =>
    rw [hstate, holive] at hterm
    cases hterm
  | started hfrom hto herr =>
    rw [hto] at hterm
    cases hterm
  | finished epoch outcome now hcall hlive' hto herr =>
    subst hcall
    have hfirst : outcome.pointsFinalizedFirst = true := by
      cases outcome <;> simp_all [OperationFinish.state, OperationFinish.pointsFinalizedFirst]
    have heffect := call_effect shaped s.db (.finish epoch o.id outcome now)
    rw [← heq] at heffect
    generalize (storeStep shaped s (.finish epoch o.id outcome now)).db = db' at heffect hstuck
    cases heffect with
    | same => exact absurd rfl hstuck
    | finished hcur hlive'' hepoch hpoints =>
      intro hpend
      have hany := (any_iff s.db.points fun p =>
        p.sourceOperationId = o.id && p.status = .pending).mpr
          ⟨pid, p, hp, by simp [hsource, hpend]⟩
      rw [hpoints hfirst] at hany
      cases hany
    | finalized id' outcome' now' hcall _ =>
      rcases hcall with hcall | hcall <;> cases hcall
  | interrupted epoch now hcall hepoch hlive' hto herr =>
    rw [hto] at hst
    rcases hst with hst | hst <;> cases hst
  | settled outcome now hcall hparked hknown hto herr =>
    simp only [parked, Bool.and_eq_true, decide_eq_true_eq] at hparked
    rw [hparked.1] at holive
    cases holive

/-- After a first reconciliation no operation of another process is live. -/
theorem reconcile_ends_others {epoch : String} {id : String} {r : OperationRow}
    (hr : (reconcile epoch now db).operations.find? id = some r) (hother : r.processEpoch ≠ epoch) :
    isTerminal r.state = true := by
  cases h : db.operations.find? id with
  | none =>
    have hnone : (reconcile epoch now db).operations.find? id = none := by
      change (interruptOthers epoch now db).operations.find? id = none
      rw [interruptOthers, RecoveryDb.setOperations, find?_update, h]
      rfl
    rw [hnone] at hr
    cases hr
  | some r₀ =>
    have hfind : (reconcile epoch now db).operations.find? id = _ :=
      find?_setOperations db h
    rw [hr] at hfind
    have heq := Option.some.inj hfind
    split at heq
    · rw [heq]
      rfl
    · rename_i hnot
      subst heq
      simpa [hother] using hnot

/-- After a reconciliation every pending point has a live operation. -/
theorem reconcile_pending_live {epoch : String}
    (hp : (reconcile epoch now db).points.find? pid = some p) (hpend : p.status = .pending) :
    LiveOperation (reconcile epoch now db) p.sourceOperationId := by
  have hlive : sourceLive (interruptOthers epoch now db) p = true := by
    cases h : db.points.find? pid with
    | none =>
      have hnone : (reconcile epoch now db).points.find? pid = none := by
        change ((interruptOthers epoch now db).settlePending _ _ _ _).points.find? pid = none
        rw [RecoveryDb.settlePending, find?_update]
        change Option.map _ (db.points.find? pid) = none
        rw [h]
        rfl
      rw [hnone] at hp
      cases hp
    | some p₀ =>
      have hfind : (reconcile epoch now db).points.find? pid = _ :=
        find?_settlePending (interruptOthers epoch now db) h
      rw [hp] at hfind
      have heq := Option.some.inj hfind
      split at heq
      · rw [heq] at hpend
        cases hpend
      · rename_i hnot
        subst heq
        simpa [hpend] using hnot
  obtain ⟨k, o, ho, hcond⟩ := (any_iff _ _).mp hlive
  simp only [Bool.and_eq_true, decide_eq_true_eq, Bool.not_eq_true'] at hcond
  have hk : k = p.sourceOperationId := by
    rw [← hcond.1]
    exact (key_of_find? ho).symm
  subst hk
  exact ⟨o, ho, hcond.2⟩

/-- The outcome of a recovery operation is written once: from every state of
the two stores, over every run of calls by any number of processes. -/
theorem outcomes_written_once (shaped : String → Bool) (s : Stores) :
    (∀ id st e, OutcomeIs s.db id st e → isTerminal st = true → ∀ later,
      OutcomeIs (run (storeStep shaped) s later).db id st e ∨ ∃ pre outcome now post,
          later = pre ++ .settleReconciled id outcome now :: post ∧
          ParkedOutcome st e ∧ outcome.state ≠ .completionUnknown ∧
          OutcomeIs (run (storeStep shaped) s pre).db id st e ∧
          ∀ more, OutcomeIs (run (storeStep shaped) s
            (pre ++ .settleReconciled id outcome now :: more)).db id
            outcome.state outcome.errorClass) ∧
    (∀ id c, LiveOperation s.db id → EndedOperation (storeStep shaped s c).db id
        (fun st => st = .succeeded ∨ st = .partial_) →
      ∀ pid p, s.db.points.find? pid = some p → p.sourceOperationId = id → p.status ≠ .pending) ∧
    (∀ pid p, s.db.points.find? pid = some p → p.status ≠ .pending →
      ∀ later, (run (storeStep shaped) s later).db.points.find? pid = some p) ∧
    (∀ epoch now, epoch ∉ s.reconciled → (∀ id r, (storeStep shaped s
          (.reconcileAtStartup epoch now)).db.operations.find? id = some r →
        r.processEpoch ≠ epoch → isTerminal r.state = true) ∧
      ∀ pid p, (storeStep shaped s (.reconcileAtStartup epoch now)).db.points.find? pid = some p →
        p.status = .pending → LiveOperation (storeStep shaped s
          (.reconcileAtStartup epoch now)).db p.sourceOperationId) := by
  refine ⟨?_, ?_, ?_, ?_⟩
  · exact fun id st e h hterm later => outcome_run shaped h hterm later
  · exact fun id c hlive hend pid p hp hsource =>
      no_pending_at_success shaped hlive hend hp hsource
  · exact fun pid p hp hdone later => point_fixed shaped hp hdone later
  · intro epoch now hfr
    have hdb : (storeStep shaped s (.reconcileAtStartup epoch now)).db =
        reconcile epoch now s.db := by
      simp [storeStep, reconcileAtStartup, hfr]
    rw [hdb]
    exact ⟨fun id r hr hother => reconcile_ends_others hr hother,
      fun pid p hp hpend => reconcile_pending_live hp hpend⟩

end Sencho.Recovery

import Sencho.GitOps.Transitions
import Sencho.Verified.Frames

/-!
# Columns

The store read through the columns the properties of the model are about: of an
application row, of a target row, and the tables that are read whole.  A row
that is missing reads as missing in every column.  The rules below give the
write set of each statement the transitions issue and of the two shapes every
transition has.
-/

namespace Sencho.GitOps

open Verified Option Tx

inductive AppColumn where
  | lifecycle
  | mode
  | accepted
  | artifactSet
  | intent
  | rolloutCandidate
  | rolloutGeneration
  | sourceAcceptance
  | placementApproval
  | rolloutAuthorization
  | preflight
  | active
  | pause
  | suspended
  | authorizationPolicy
  | failure
  | recovery
  | candidate
  | planBlocked
  | fingerprint
  | policy
  deriving DecidableEq

def AppColumn.Value : AppColumn → Type
  | .lifecycle => LifecycleStatus
  | .mode => TargetMode
  | .active => ApplicationOperation
  | .pause => Pause
  | .suspended => Option Int
  | .authorizationPolicy => RolloutAuthorizationPolicy
  | .failure => ApplicationFailure
  | .recovery => ApplicationRecovery
  | .planBlocked => Bool
  | .policy => SourcePolicy
  | .accepted | .artifactSet | .intent | .rolloutCandidate | .rolloutGeneration
  | .sourceAcceptance | .placementApproval | .rolloutAuthorization | .preflight
  | .candidate | .fingerprint => Option String

def AppColumn.get : (c : AppColumn) → Application → c.Value
  | .lifecycle, a => a.lifecycleStatus
  | .mode, a => a.targetMode
  | .accepted, a => a.acceptedGenerationId
  | .artifactSet, a => a.artifactSetId
  | .intent, a => a.intentRevisionId
  | .rolloutCandidate, a => a.rolloutCandidateId
  | .rolloutGeneration, a => a.rolloutGenerationId
  | .sourceAcceptance, a => a.sourceAcceptanceRef
  | .placementApproval, a => a.placementApprovalRef
  | .rolloutAuthorization, a => a.rolloutAuthorizationRef
  | .preflight, a => a.preflightFingerprint
  | .active, a => a.active
  | .pause, a => a.pause
  | .suspended, a => a.suspendedAt
  | .authorizationPolicy, a => a.rolloutAuthorizationPolicy
  | .failure, a => a.failure
  | .recovery, a => a.recovery
  | .candidate, a => a.candidateGenerationId
  | .planBlocked, a => a.candidatePlanBlocked
  | .fingerprint, a => a.configured.fingerprint
  | .policy, a => a.sourcePolicy

inductive TargetColumn where
  | status
  | intent
  | applied
  | healthy
  | lastHealth
  | pending
  | attempts
  | stopReason
  | lkg
  | rolloutGeneration
  | rolloutAuthorization
  | active
  | recovery
  | pause
  | sourceAcceptance
  deriving DecidableEq

def TargetColumn.Value : TargetColumn → Type
  | .status => TargetStatus
  | .lastHealth => LastHealth
  | .attempts => Nat
  | .stopReason => Option HealthStopReason
  | .lkg => LastKnownGood
  | .active => TargetOperation
  | .recovery => TargetRecovery
  | .pause => Option Int
  | .intent | .applied | .healthy | .pending | .rolloutGeneration
  | .rolloutAuthorization | .sourceAcceptance => Option String

def TargetColumn.get : (c : TargetColumn) → Target → c.Value
  | .status, t => t.status
  | .intent, t => t.intentRevisionId
  | .applied, t => t.appliedGenerationId
  | .healthy, t => t.healthyGenerationId
  | .lastHealth, t => t.lastHealth
  | .pending, t => t.pendingHealthRunId
  | .attempts, t => t.healthAttempts
  | .stopReason, t => t.healthStopReason
  | .lkg, t => t.lkg
  | .rolloutGeneration, t => t.rolloutGenerationId
  | .rolloutAuthorization, t => t.rolloutAuthorizationRef
  | .active, t => t.active
  | .recovery, t => t.recovery
  | .pause, t => t.pauseAt
  | .sourceAcceptance, t => t.sourceAcceptanceRef

inductive TableName where
  | generations
  | artifactSets
  | intentRevisions
  | rolloutCandidates
  | rolloutGenerations
  | approvals
  | supersessions
  deriving DecidableEq

def TableName.Value : TableName → Type
  | .generations => Table Generation String Generation.id
  | .artifactSets => Table ArtifactSet String ArtifactSet.id
  | .intentRevisions => Table IntentRevision String IntentRevision.id
  | .rolloutCandidates => Table RolloutCandidate String RolloutCandidate.id
  | .rolloutGenerations => Table RolloutGeneration String RolloutGeneration.id
  | .approvals => Table Approval String Approval.id
  | .supersessions =>
    Table SupersededRecord (String × String) SupersededRecord.dedupe

def TableName.get : (n : TableName) → Db → n.Value
  | .generations, db => db.generations
  | .artifactSets, db => db.artifactSets
  | .intentRevisions, db => db.intentRevisions
  | .rolloutCandidates, db => db.rolloutCandidates
  | .rolloutGenerations, db => db.rolloutGenerations
  | .approvals, db => db.approvals
  | .supersessions, db => db.supersessions

inductive Column where
  | app (id : String) (c : AppColumn)
  | target (key : TargetKey) (c : TargetColumn)
  | table (n : TableName)

def Column.Value : Column → Type
  | .app _ c => Option c.Value
  | .target _ c => Option c.Value
  | .table n => n.Value

def Column.read : (c : Column) → Db → c.Value
  | .app id c, db => (db.getApplication id).map c.get
  | .target key c, db => (db.targets.find? key).map c.get
  | .table n, db => n.get db

/-- Two stores agree outside a write set. -/
abbrev Agrees (W : Column → Prop) (db db' : Db) : Prop := Frame Column.read W db db'

/-- A transaction writes nothing outside a write set. -/
abbrev Writes {α : Type} (W : Column → Prop) (p : Store α) (db : Db) : Prop :=
  Tx.Writes Column.read W p db

variable {W : Column → Prop} {db db' : Db}

namespace Agrees

/-- A row whose column is not written is still there, with the column it had. -/
theorem app {id : String} {c : AppColumn} {a : Application} (h : Agrees W db db')
    (hc : ¬ W (.app id c)) (ha : db.getApplication id = some a) :
    ∃ a', db'.getApplication id = some a' ∧ c.get a' = c.get a := by
  have hread : (db'.getApplication id).map c.get = (db.getApplication id).map c.get :=
    h (.app id c) hc
  rw [ha, map_some, map_eq_some_iff] at hread
  exact hread

theorem target {key : TargetKey} {c : TargetColumn} {t : Target} (h : Agrees W db db')
    (hc : ¬ W (.target key c)) (ht : db.targets.find? key = some t) :
    ∃ t', db'.targets.find? key = some t' ∧ c.get t' = c.get t := by
  have hread : (db'.targets.find? key).map c.get = (db.targets.find? key).map c.get :=
    h (.target key c) hc
  rw [ht, map_some, map_eq_some_iff] at hread
  exact hread

/-- Stores that share their rows agree on every column of a row. -/
theorem of_tables (happs : db'.applications = db.applications) (htargets : db'.targets = db.targets)
    (htables : ∀ n, ¬ W (.table n) → n.get db' = n.get db) : Agrees W db db' := by
  intro c hc
  cases c with
  | app id c =>
    show (db'.applications.find? id).map c.get = (db.applications.find? id).map c.get
    rw [happs]
  | target key c =>
    show (db'.targets.find? key).map c.get = (db.targets.find? key).map c.get
    rw [htargets]
  | table n => exact htables n hc

end Agrees

/-- An application row changed in a few columns only. -/
def AppSame (W : Column → Prop) (a a' : Application) : Prop :=
  a'.id = a.id ∧ ∀ c, ¬ W (.app a.id c) → c.get a' = c.get a

/-- A target row changed in a few columns only. -/
def TargetSame (W : Column → Prop) (t t' : Target) : Prop :=
  t'.key = t.key ∧ ∀ c, ¬ W (.target t.key c) → c.get t' = c.get t

theorem TargetSame.refl (t : Target) : TargetSame W t t := ⟨rfl, fun _ _ => rfl⟩

theorem TargetSame.trans {t t' t'' : Target} (h : TargetSame W t t')
    (h' : TargetSame W t' t'') : TargetSame W t t'' := by
  refine ⟨h'.1.trans h.1, fun c hc => ?_⟩
  have hc' : ¬ W (.target t'.key c) := by
    rw [h.1]
    exact hc
  exact (h'.2 c hc').trans (h.2 c hc)

theorem writes_get : Writes W (get : Store Db) db :=
  ensures_get.mpr (Frame.refl db)

theorem writes_refuseIf {c : Bool} {e : Refusal} : Writes W (refuseIf c e) db :=
  ensures_refuseIf.mpr fun _ => Frame.refl db

theorem writes_require {α : Type} {o : Option α} {e : Refusal} : Writes W (require o e) db :=
  ensures_require.mpr fun _ _ => Frame.refl db

theorem writes_insertRow {ρ κ : Type} [DecidableEq κ] {key : ρ → κ}
    {table : Db → Table ρ κ key} {put : Db → Table ρ κ key → Db} {row : ρ}
    (happs : ∀ db t, (put db t).applications = db.applications)
    (htargets : ∀ db t, (put db t).targets = db.targets)
    (htables : ∀ t n, ¬ W (.table n) → n.get (put db t) = n.get db) :
    Writes W (insertRow table put row) db := by
  refine ensures_insertRow.mpr ?_
  intro t _
  exact Agrees.of_tables (happs db t) (htargets db t) (htables t)

theorem AppColumn.get_keepIdentity {c : AppColumn} {stored app : Application} :
    c.get (keepIdentity stored app) = if c = .mode then c.get stored else c.get app := by
  cases c <;> rfl

theorem writes_writeApplication {app : Application}
    (h : ∀ stored, db.getApplication app.id = some stored → ∀ c, ¬ W (.app app.id c) →
      c ≠ .mode → c.get app = c.get stored) : Writes W (writeApplication app) db := by
  refine ensures_modify.mpr ?_
  intro c hc
  cases c with
  | target key c => rfl
  | table n => cases n <;> rfl
  | app id c =>
    refine (congrArg (Option.map c.get) (getApplication_writeApplication app id)).trans ?_
    cases hst : db.getApplication id with
    | none => simp [Column.read, hst]
    | some stored =>
      by_cases hid : id = app.id
      · subst hid
        simp only [Column.read, hst, map_some, if_true, AppColumn.get_keepIdentity]
        by_cases hmode : c = .mode
        · rw [if_pos hmode]
        · rw [if_neg hmode, h stored hst c hc hmode]
      · simp [Column.read, hst, hid]

theorem writes_upsertTarget {row : Target}
    (h : ∀ old, db.targets.find? row.key = some old → TargetSame W old row)
    (hnew : db.targets.find? row.key = none → ∀ c, W (.target row.key c)) :
    Writes W (upsertTarget row) db := by
  refine ensures_upsertTarget.mpr ?_
  intro _ c hc
  cases c with
  | app id c => rfl
  | table n => cases n <;> rfl
  | target key c =>
    show Option.map c.get ((db.targets.put row).find? key) = _
    by_cases hkey : key = row.key
    · subst hkey
      cases hold : db.targets.find? row.key with
      | none => exact absurd (hnew hold c) hc
      | some old =>
        obtain ⟨hkeys, hcols⟩ := h old hold
        have hc' : ¬ W (.target old.key c) := by
          rw [← hkeys]
          exact hc
        simp [Column.read, hold, hcols c hc']
    · simp [Column.read, hkey]

variable {envelope : EventEnvelope} {id : String}

theorem writes_updateRolloutGeneration {f : RolloutGeneration → RolloutGeneration}
    {hf : ∀ g, (f g).id = g.id} (hW : W (.table .rolloutGenerations)) :
    Writes W (updateRolloutGeneration id f hf) db := by
  refine ensures_modify.mpr (Agrees.of_tables rfl rfl ?_)
  intro n hn
  cases n <;> first | rfl | exact absurd hW hn

theorem writes_insertSupersededHistory {record : SupersededRecord}
    (hW : W (.table .supersessions)) : Writes W (insertSupersededHistory record) db := by
  refine ensures_modify.mpr (Agrees.of_tables rfl rfl ?_)
  intro n hn
  cases n <;> first | rfl | exact absurd hW hn

theorem writes_updateCandidateBinding {generationId : String} {artifactSetId}
    (hW : W (.table .rolloutCandidates)) :
    Writes W (updateCandidateBinding id generationId artifactSetId) db := by
  refine ensures_modify.mpr (Agrees.of_tables rfl rfl ?_)
  intro n hn
  cases n <;> first | rfl | exact absurd hW hn

theorem writes_writeSourceConfirmation {confirmation} (hW : W (.table .approvals)) :
    Writes W (writeSourceConfirmation id confirmation) db := by
  refine ensures_modify.mpr ?_
  split
  · exact Frame.refl db
  · refine Agrees.of_tables rfl rfl ?_
    intro n hn
    cases n <;> first | rfl | exact absurd hW hn

theorem ensures_requireApp {Q : Application → Db → Prop} :
    Tx.Ensures (requireApp id) db Q ↔ ∀ app, db.getApplication id = some app → Q app db := by
  simp [requireApp]

theorem ensures_requireOwnedGeneration {generationId : String} {Q : Generation → Db → Prop} :
    Tx.Ensures (requireOwnedGeneration id generationId) db Q ↔
      ∀ g, db.getGeneration generationId = some g ∧ g.applicationId = id → Q g db := by
  simp [requireOwnedGeneration, filter_eq_some_iff]

/-- What the edit of an application hands to the final write. -/
def AppEdited (W : Column → Prop) (db : Db) (app app' : Application) (db' : Db) : Prop :=
  Agrees W db db' ∧ AppSame W app app'

/-- The write set of an application edit. -/
theorem writes_mutateApp {mutate : Application → Store Application}
    (hmutate : ∀ app, db.getApplication id = some app →
      Tx.Ensures (mutate app) db (AppEdited W db app)) :
    Writes W (mutateApp id envelope mutate) db := by
  unfold Writes Tx.Writes mutateApp
  rw [ensures_bind, ensures_requireApp]
  intro app happ
  rw [ensures_bind]
  refine (hmutate app happ).mono ?_
  rintro app' db' ⟨hagr, hid, hcols⟩
  have happid : app.id = id := Table.key_of_find? happ
  have happ' : db.getApplication app'.id = some app := by
    rw [hid, happid]
    exact happ
  refine Tx.Ensures.mono (writes_writeApplication (W := W) ?_) fun _ _ hwrite =>
    hagr.trans hwrite
  intro stored hst c hc _
  obtain ⟨now, hnow, hget⟩ := hagr.app hc happ'
  have hsame : now = stored := some.inj (hnow.symm.trans hst)
  subst hsame
  have hc' : ¬ W (.app app.id c) := by
    rw [← hid]
    exact hc
  have hedit := hcols c hc'
  have hstamp : c.get { app' with
      latestOperationId := some envelope.operationId, updatedAt := envelope.at_ } =
      c.get app' := by
    cases c <;> rfl
  rw [hstamp, hedit, hget]

/-- What the edit of a target hands to the final write. -/
def TargetEdited (W : Column → Prop) (db : Db) (t t' : Target) (db' : Db) : Prop :=
  Agrees W db db' ∧ db'.targets = db.targets ∧ TargetSame W t t'

/-- The write set of a target edit. -/
theorem writes_mutateTarget {β : Type} {nodeId : Int} {stage : TargetStage}
    {mutate : Target → Application → Store (Target × β)} {keep : Bool}
    (hmutate : ∀ t app, db.targets.find? ⟨id, nodeId⟩ = some t →
      db.getApplication id = some app →
      Tx.Ensures (mutate t app) db fun r db' => TargetEdited W db t r.1 db') :
    Writes W (mutateTarget id nodeId envelope stage mutate keep) db := by
  unfold Writes Tx.Writes mutateTarget
  rw [ensures_bind, ensures_requireApp]
  intro app happ
  simp only [ensures_bind, ensures_get, ensures_require]
  intro t ht
  refine (hmutate t app ht happ).mono ?_
  rintro r db' ⟨hagr, htargets, hkey, hcols⟩
  have htkey : t.key = ⟨id, nodeId⟩ := Table.key_of_find? ht
  have hst : db'.targets.find? r.1.key = some t := by
    rw [htargets, hkey, htkey]
    exact ht
  refine Tx.Ensures.mono (writes_upsertTarget (W := W) ?_ ?_) ?_
  · intro old hold
    have hsame : t = old := some.inj (hst.symm.trans hold)
    subst hsame
    refine ⟨hkey, fun c hc => ?_⟩
    rw [← hcols c hc]
    cases c <;> rfl
  · intro hnone
    exact absurd (hst.symm.trans hnone) (some_ne_none t)
  · intro _ db'' hwrite
    exact ensures_pure.mpr (hagr.trans hwrite)

/-- A write of the owning application that leaves every target alone. -/
def BesideTargets (W : Column → Prop) (db db' : Db) : Prop :=
  Agrees W db db' ∧ db'.targets = db.targets

theorem BesideTargets.refl (db : Db) : BesideTargets W db db := ⟨Frame.refl db, rfl⟩

theorem BesideTargets.trans {db'' : Db} (h : BesideTargets W db db')
    (h' : BesideTargets W db' db'') : BesideTargets W db db'' :=
  ⟨h.1.trans h'.1, h'.2.trans h.2⟩

theorem ensures_withApplication {mutate : Db → Application → Application}
    (h : ∀ db app, app.id = id → AppSame W app (mutate db app)) :
    Tx.Ensures (withApplication id envelope mutate) db fun _ db' =>
      BesideTargets W db db' := by
  unfold withApplication
  rw [ensures_bind, ensures_requireApp]
  intro app happ
  have happid : app.id = id := Table.key_of_find? happ
  obtain ⟨hid, hcols⟩ := h db app happid
  have hframe : Writes W (writeApplication { mutate db app with updatedAt := envelope.at_ })
      db := by
    refine writes_writeApplication ?_
    intro stored hst c hc _
    have hst' : db.getApplication (mutate db app).id = some stored := hst
    rw [hid, happid] at hst'
    have hsame : app = stored := some.inj (happ.symm.trans hst')
    subst hsame
    have hc' : ¬ W (.app app.id c) := by
      rw [← hid]
      exact hc
    rw [← hcols c hc']
    cases c <;> rfl
  exact Tx.Ensures.and hframe (ensures_modify.mpr rfl)

end Sencho.GitOps

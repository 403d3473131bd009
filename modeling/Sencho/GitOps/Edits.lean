import Sencho.GitOps.Columns

/-!
# Shared edits

Each edit several transitions share, as an update of the columns it may change,
and the write set of each helper that also updates the owning application.
-/

namespace Sencho.GitOps

open Verified Tx

variable {W : Column → Prop} {db : Db}

namespace Application

theorem clearInterruption_eq (app : Application) (stage : ApplicationActiveStage) :
    app.clearInterruption stage = { app with
      interruption := if app.interruption.stage = some stage then .none
        else app.interruption } := by
  unfold clearInterruption
  split <;> rfl

theorem clearFailure_eq (app : Application) (stages : List ApplicationFailureStage) :
    app.clearFailure stages = { app with
      failure := if app.failure.stage.any stages.contains then .none
        else app.failure } := by
  unfold clearFailure
  split <;> rfl

end Application

namespace Target

variable (t : Target)

theorem clearInterruption_eq (stage : TargetActiveStage) :
    t.clearInterruption stage = { t with
      interruption := if t.interruption.stage = some stage then .none
        else t.interruption } := by
  unfold clearInterruption
  split <;> rfl

theorem clearFailure_eq (stages : List TargetFailureStage) :
    t.clearFailure stages = { t with
      failure := if t.failure.stage.any stages.contains then .none else t.failure } := by
  unfold clearFailure
  split <;> rfl

/-- The marker of a restore whose operation another terminal has released. -/
def restoreMarkerAt (at_ : Int) : TargetOperation :=
  ⟨none, some .recoveryStarted, some at_, t.recovery.generationId, none, none⟩

theorem markInFlightRestore_eq (at_ : Int) : t.markInFlightRestore at_ = { t with
      active := if targetRestoreInFlight t && t.active.stage.isNone then
        t.restoreMarkerAt at_ else t.active } := by
  unfold markInFlightRestore
  split <;> rfl

theorem noteRecoveryPoint_eq (generationId : Option String) :
    t.noteRecoveryPoint generationId = { t with
      recovery := { t.recovery with
        generationId := if truthy generationId then generationId
          else t.recovery.generationId } } := by
  unfold noteRecoveryPoint
  split <;> rfl

theorem releaseHealthRun_eq (healthRunId : String) :
    t.releaseHealthRun healthRunId = { t with
      pendingHealthRunId := if t.pendingHealthRunId = some healthRunId then none
        else t.pendingHealthRunId } := by
  unfold releaseHealthRun
  split <;> rfl

theorem clearRestoreMarker_eq : t.clearRestoreMarker = { t with
      active := if t.active.stage = some .recoveryStarted then .none else t.active } := by
  unfold clearRestoreMarker
  split <;> rfl

theorem rollbackFailure_eq (recoveryRef : String) (failureClass : RollbackFailureClass) (at_ : Int)
    :
    t.rollbackFailure recoveryRef failureClass at_ = { t with
      recovery := (t.rollbackFailure recoveryRef failureClass at_).recovery
      failure := (t.rollbackFailure recoveryRef failureClass at_).failure } := by
  unfold rollbackFailure
  split <;> rfl

theorem interrupt_eq (at_ : Int) : t.interrupt at_ = { t with
      recovery := (t.interrupt at_).recovery
      failure := (t.interrupt at_).failure
      active := .none
      interruption := (t.interrupt at_).interruption
      updatedAt := at_ } := by
  unfold interrupt
  cases targetRestoreInFlight t <;> rfl

theorem restoreLastKnownGood_eq (db : Db) (applicationId : String) (at_ : Int) :
    t.restoreLastKnownGood db applicationId at_ = { t with
      lkg := (t.restoreLastKnownGood db applicationId at_).lkg
      evidenceLimitations :=
        (t.restoreLastKnownGood db applicationId at_).evidenceLimitations } := by
  unfold restoreLastKnownGood
  repeat' split
  all_goals rfl

theorem recordVerdict_eq (db : Db) (args : HealthFinalizedArgs) (attributable : Bool) :
    t.recordVerdict db args attributable = { t with
      lastHealth := (t.recordVerdict db args attributable).lastHealth
      healthyGenerationId := (t.recordVerdict db args attributable).healthyGenerationId
      lkg := (t.recordVerdict db args attributable).lkg } := by
  unfold recordVerdict
  dsimp only
  repeat' split
  all_goals rfl

end Target

theorem deriveApplicationRecovery_eq (db : Db) (app : Application) (at_ : Int)
    (overrides : List Target) :
    deriveApplicationRecovery db app at_ overrides = { app with
      recovery := (deriveApplicationRecovery db app at_ overrides).recovery
      failure := (deriveApplicationRecovery db app at_ overrides).failure } := by
  unfold deriveApplicationRecovery
  dsimp only
  split
  · rfl
  · split
    · rfl
    · split <;> rw [Application.clearFailure_eq]

theorem withdrawPolicyAuthority_eq (db : Db) (app : Application) :
    withdrawPolicyAuthority db app = { app with
      placementApprovalRef := (withdrawPolicyAuthority db app).placementApprovalRef
      rolloutAuthorizationRef :=
        (withdrawPolicyAuthority db app).rolloutAuthorizationRef } := by
  unfold withdrawPolicyAuthority
  repeat' split
  all_goals rfl

variable {app : Application}

theorem appSame_recovery {recovery : ApplicationRecovery}
    {failure : ApplicationFailure} (hr : W (.app app.id .recovery))
    (hf : W (.app app.id .failure)) :
    AppSame W app { app with recovery := recovery, failure := failure } := by
  refine ⟨rfl, fun c hc => ?_⟩
  cases c <;> first | rfl | exact absurd hr hc | exact absurd hf hc

theorem appSame_derive {at_ : Int} {overrides : List Target}
    (hr : W (.app app.id .recovery)) (hf : W (.app app.id .failure)) :
    AppSame W app (deriveApplicationRecovery db app at_ overrides) := by
  rw [deriveApplicationRecovery_eq]
  exact appSame_recovery hr hf

variable {envelope : EventEnvelope}

theorem ensures_deriveRecovery {id : String}
    {overrides : List Target} (hr : W (.app id .recovery)) (hf : W (.app id .failure)) :
    Tx.Ensures (withApplication id envelope fun db app =>
        deriveApplicationRecovery db app envelope.at_ overrides) db
      fun _ db' => BesideTargets W db db' := by
  refine ensures_withApplication ?_
  rintro db app rfl
  exact appSame_derive hr hf

/-- The hold is dropped, or stays because someone still answers for it. -/
def clearHold (app : Application) : Application :=
  if app.recovery.phase ≠ some .failed ∧ app.failure.stage ≠ some .recovery then app
  else { app with recovery := ⟨none, none⟩ }.clearFailure [.recovery]

theorem clearHold_eq (app : Application) : clearHold app = { app with
      recovery := (clearHold app).recovery
      failure := (clearHold app).failure } := by
  unfold clearHold
  split
  · rfl
  · rw [Application.clearFailure_eq]

theorem ensures_clearApplicationRecovery {id : String} {nodeId : Int}
    (hr : W (.app id .recovery)) (hf : W (.app id .failure)) :
    Tx.Ensures (clearApplicationRecoveryWhenNoTargetFails id nodeId envelope) db
      fun _ db' => BesideTargets W db db' := by
  unfold clearApplicationRecoveryWhenNoTargetFails
  rw [ensures_bind, ensures_get, ensures_ite, ensures_pure]
  refine ⟨fun _ => BesideTargets.refl db, fun _ => ensures_withApplication ?_⟩
  rintro db app rfl
  show AppSame W app (clearHold app)
  rw [clearHold_eq]
  exact appSame_recovery hr hf

/-- A target helper: it may update the owning application and hands a row on. -/
def Handed (W : Column → Prop) (db : Db) (t t' : Target) (db' : Db) : Prop :=
  BesideTargets W db db' ∧ TargetSame W t t'

theorem Handed.same {t t' : Target} (h : TargetSame W t t') : Handed W db t t' db :=
  ⟨BesideTargets.refl db, h⟩

section

variable {db' : Db} {t t' : Target} (h : Handed W db t t' db')
include h

theorem Handed.trans {db'' : Db} {t'' : Target} (h' : Handed W db' t' t'' db'') :
    Handed W db t t'' db'' :=
  ⟨h.1.trans h'.1, h.2.trans h'.2⟩

theorem Handed.edited : TargetEdited W db t t' db' :=
  ⟨h.1.1, h.1.2, h.2⟩

end

theorem targetSame_recovery {t : Target} {recovery : TargetRecovery} {failure : TargetFailure}
    (hr : W (.target t.key .recovery)) :
    TargetSame W t { t with recovery := recovery, failure := failure } := by
  refine ⟨rfl, fun c hc => ?_⟩
  cases c <;> first | rfl | exact absurd hr hc

section

variable {t : Target} (ha : W (.target t.key .active))
include ha

theorem targetSame_released {stage : TargetActiveStage} :
    TargetSame W t (t.clearActive.clearInterruption stage) := by
  rw [Target.clearInterruption_eq]
  refine ⟨rfl, fun c hc => ?_⟩
  cases c <;> first | rfl | exact absurd ha hc

theorem targetSame_marked {at_ : Int} : TargetSame W t (t.markInFlightRestore at_) := by
  rw [Target.markInFlightRestore_eq]
  refine ⟨rfl, fun c hc => ?_⟩
  cases c <;> first | rfl | exact absurd ha hc

end

section

variable {t : Target} {id : String} {envelope : EventEnvelope}

section

variable (hr : W (.app id .recovery)) (hf : W (.app id .failure))
variable (ht : W (.target t.key .recovery))

include hr hf ht

theorem ensures_clearRecoveryClaim :
    Tx.Ensures (clearRecoveryClaim t id envelope) db (Handed W db t) := by
  unfold clearRecoveryClaim
  rw [ensures_bind]
  refine (ensures_clearApplicationRecovery hr hf).mono ?_
  intro _ db' hdb'
  rw [ensures_pure, Target.clearFailure_eq]
  exact ⟨hdb', targetSame_recovery ht⟩

theorem ensures_retireOnSuccess :
    Tx.Ensures (retireRecoveryClaimOnSuccess t id envelope) db (Handed W db t) := by
  unfold retireRecoveryClaimOnSuccess
  rw [ensures_ite, ensures_pure, ensures_ite, ensures_pure]
  exact ⟨fun _ => Handed.same (TargetSame.refl t), fun _ =>
    ⟨fun _ => Handed.same (TargetSame.refl t), fun _ =>
      ensures_clearRecoveryClaim hr hf ht⟩⟩

theorem ensures_retireNonMoving :
    Tx.Ensures (retireNonMovingRecoveryClaim t id envelope) db (Handed W db t) := by
  unfold retireNonMovingRecoveryClaim
  rw [ensures_ite, ensures_pure]
  exact ⟨fun _ => ensures_clearRecoveryClaim hr hf ht, fun _ => Handed.same (TargetSame.refl t)⟩

theorem ensures_reviveTarget (hs : W (.target t.key .status)) :
    Tx.Ensures (reviveTarget t id envelope) db (Handed W db t) := by
  have hstat : TargetSame W t { t with status := .active } := by
    refine ⟨rfl, fun c hc => ?_⟩
    cases c <;> first | rfl | exact absurd hs hc
  unfold reviveTarget
  rw [ensures_bind]
  refine (ensures_retireNonMoving (t := { t with status := .active }) hr hf ht).mono ?_
  intro t' db' hretired
  have hhanded : Handed W db t t' db' := (Handed.same hstat).trans hretired
  rw [ensures_ite, ensures_pure, ensures_bind]
  refine ⟨fun _ => ?_, fun _ => hhanded⟩
  refine (ensures_deriveRecovery hr hf).mono ?_
  intro _ db'' hdb''
  rw [ensures_pure]
  exact hhanded.trans ⟨hdb'', TargetSame.refl t'⟩

theorem ensures_settleFailure {stage : TargetActiveStage} {failure : TargetFailure}
    (ha : W (.target t.key .active)) :
    Tx.Ensures (settleFailure t id stage failure envelope) db (Handed W db t) := by
  unfold settleFailure
  rw [ensures_bind]
  have hreleased : TargetSame W t (t.clearActive.clearInterruption stage) :=
    targetSame_released ha
  have hkey := hreleased.1
  refine (ensures_retireNonMoving hr hf (by rw [hkey]; exact ht)).mono ?_
  intro t' db' hretired
  rw [ensures_pure]
  have hhanded : Handed W db t t' db' := (Handed.same hreleased).trans hretired
  have hmarked : TargetSame W t' (t'.markInFlightRestore envelope.at_) :=
    targetSame_marked (by rw [hhanded.2.1]; exact ha)
  have hfailed : TargetSame W (t'.markInFlightRestore envelope.at_)
      { t'.markInFlightRestore envelope.at_ with failure := failure } := by
    refine ⟨rfl, fun c _ => ?_⟩
    cases c <;> rfl
  exact hhanded.trans (Handed.same (hmarked.trans hfailed))

end

end

section

variable (hg : W (.table .rolloutGenerations)) (hs : W (.table .supersessions))

include hg hs

theorem writes_recordRolloutGenerationSuperseded {applicationId id : String}
    :
    Writes W (recordRolloutGenerationSuperseded applicationId id envelope) db := by
  refine writes_bind writes_get ?_
  intro db' _ _
  split
  · exact writes_pure
  · refine writes_ite (fun _ => writes_pure) fun _ => ?_
    exact writes_bind (writes_updateRolloutGeneration hg) fun _ _ _ =>
      writes_insertSupersededHistory hs

theorem writes_supersedeNamedGeneration : Writes W (supersedeNamedGeneration app envelope) db := by
  unfold supersedeNamedGeneration
  split
  · exact writes_pure
  · exact writes_recordRolloutGenerationSuperseded hg hs

end

/-- Write back an edit of a row as it was listed. -/
theorem ensures_upsert_listed {db' : Db} {t t' : Target} (h : Agrees W db db')
    (ht : db.targets.find? t.key = some t) (hsame : TargetSame W t t') :
    Tx.Ensures (upsertTarget t') db' fun _ db'' => Agrees W db db'' := by
  have hwr : Writes W (upsertTarget t') db' := by
    refine writes_upsertTarget ?_ ?_
    · intro old hold
      rw [hsame.1] at hold
      have holdkey : old.key = t.key := Table.key_of_find? hold
      refine ⟨hsame.1.trans holdkey.symm, fun c hc => ?_⟩
      rw [holdkey] at hc
      obtain ⟨now, hnow, hget⟩ := h.target hc ht
      have hsame' : now = old := Option.some.inj (hnow.symm.trans hold)
      subst hsame'
      rw [hsame.2 c hc, hget]
    · intro hnone c
      rw [hsame.1] at hnone ⊢
      by_contra hc
      obtain ⟨now, hnow, _⟩ := h.target hc ht
      exact Option.some_ne_none now (hnow.symm.trans hnone)
  exact Tx.Ensures.mono hwr fun _ _ hwrite => h.trans hwrite

/-- A loop that writes back rows listed before it began. -/
theorem ensures_forM_listed {db' : Db} (xs : List Target) {body : Target → Store PUnit}
    (h : Agrees W db db') (hbody : ∀ t ∈ xs, ∀ db', Agrees W db db' →
      Tx.Ensures (body t) db' fun _ db'' => Agrees W db db'') :
    Tx.Ensures (xs.forM body) db' fun _ db'' => Agrees W db db'' :=
  ensures_forM (I := fun db' => Agrees W db db') xs hbody h

theorem writes_forM_upsert (xs : List Target) (edit : Target → Target)
    (hxs : ∀ t ∈ xs, db.targets.find? t.key = some t) (hedit : ∀ t ∈ xs, TargetSame W t (edit t)) :
    Writes W (xs.forM fun t => upsertTarget (edit t)) db :=
  ensures_forM_listed xs (Frame.refl db) fun t ht _ hagr =>
    ensures_upsert_listed hagr (hxs t ht) (hedit t ht)

theorem stored_of_list {id : String} :
    ∀ t ∈ db.listTargets id, db.targets.find? t.key = some t ∧ t.applicationId = id := by
  intro t ht
  exact mem_listTargets.mp ht

theorem stored_of_listed {id : String} {p : Target → Bool} : ∀ t ∈ (db.listTargets id).filter p,
      db.targets.find? t.key = some t ∧ t.applicationId = id := by
  intro t ht
  exact stored_of_list t (List.mem_filter.mp ht).1

theorem stored_of_liveDirect : ∀ t ∈ liveDirectTargets db app,
      db.targets.find? t.key = some t ∧ t.applicationId = app.id := by
  intro t ht
  unfold liveDirectTargets at ht
  split at ht
  · exact stored_of_listed t ht
  · cases ht

/-- Edits of columns nothing is proved about. -/
theorem writes_forEachLiveDirectTarget {edit : Target → Target}
    (hedit : ∀ t, TargetSame W t (edit t)) : Writes W (forEachLiveDirectTarget app edit) db := by
  refine writes_bind writes_get ?_
  rintro read db' hread
  have hsame : read = db' := by
    cases hread
    rfl
  subst hsame
  exact writes_forM_upsert _ edit (fun t ht => (stored_of_liveDirect t ht).1) fun t _ =>
    hedit t

end Sencho.GitOps

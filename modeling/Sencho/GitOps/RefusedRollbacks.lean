import Sencho.GitOps.HoldSteps

/-!
# Refused rollbacks

A rollback whose failure records could not be written is settled once more, one
target at a time, and the hold is then derived with the rows as they should be.
Every record over a stored row goes through, so these rows say what the stored
ones say.
-/

namespace Sencho.GitOps

open Verified Option Tx Target

variable {repoKey : String → Option String} {db db' : Db} {tr : Transition}

theorem withApplication_of_some {id : String} {envelope : EventEnvelope} {app : Application}
    {mutate : Db → Application → Application} (happ : db.getApplication id = some app) :
    withApplication id envelope mutate db =
      .ok ((), db.writeApp { mutate db app with updatedAt := envelope.at_ }) := by
  refine (bind_of_ok (requireApp_of_some happ)).trans ?_
  exact @Tx.bind_of_ok _ _ _ _ db _ _ _ db rfl

theorem mutateTarget_of_some {β : Type} {id : String} {nodeId : Int}
    {envelope : EventEnvelope} {stage : TargetStage}
    {mutate : Target → Application → Store (Target × β)} {keep : Bool} {app : Application}
    {t row : Target} {b : β} (happ : db.getApplication id = some app)
    (ht : db.targets.find? ⟨id, nodeId⟩ = some t) (hrun : mutate t app db = .ok ((row, b), db'))
    (hpass : assertTargetInvariants db' (row.stamped stage keep envelope) = none) :
    mutateTarget id nodeId envelope stage mutate keep db =
      .ok (b, db'.putTarget (row.stamped stage keep envelope)) := by
  refine (bind_of_ok (requireApp_of_some happ)).trans ?_
  refine (@Tx.bind_of_ok _ _ _ _ db _ _ _ db rfl).trans ?_
  have hfound : require (db.getTarget id nodeId) (refusal "target not found") db =
      .ok (t, db) := by
    unfold Db.getTarget
    rw [ht]
    rfl
  refine (bind_of_ok hfound).trans ((bind_of_ok hrun).trans ?_)
  exact bind_of_ok (upsertTarget_of_passes hpass)

/-- A record of a failed rollback changes none of the columns the store checks. -/
theorem settleRollback_passes {t : Target} {recoveryRef : String}
    {failureClass : RollbackFailureClass} {at_ : Int} {stage : TargetStage} {keep : Bool}
    {envelope : EventEnvelope} (h : assertTargetInvariants db t = none) :
    assertTargetInvariants db
      ((t.settleRollback recoveryRef failureClass at_).stamped stage keep envelope) = none := by
  unfold settleRollback
  rw [clearInterruption_eq, clearRestoreMarker_eq, rollbackFailure_eq]
  rw [assertTargetInvariants_none_iff] at h ⊢
  exact h

theorem accepts_rollbackTargetFailed (hrows : RowsPass db) {id : String} {nodeId : Int}
    {app : Application} {t : Target} {recoveryRef : String}
    {failureClass : RollbackFailureClass} {envelope : EventEnvelope}
    (happ : db.getApplication id = some app) (ht : db.targets.find? ⟨id, nodeId⟩ = some t) :
    ∃ db', rollbackTargetFailed id nodeId recoveryRef failureClass envelope db =
      .ok ((), db') := by
  have hpass := hrows _ t ht
  unfold rollbackTargetFailed
  by_cases hpre : failureClass = .preMutation
  · subst hpre
    have hderive := @withApplication_of_some _ _ envelope _ (fun db app =>
      deriveApplicationRecovery db app envelope.at_
        [t.settleRollback recoveryRef .preMutation envelope.at_]) happ
    refine ⟨_, (bind_of_ok (mutateTarget_of_some happ ht (bind_of_ok hderive)
      (settleRollback_passes ?_))).trans rfl⟩
    exact (Grows.of_tables rfl rfl).passes hpass
  · simp only [hpre, if_false]
    have hedit : (pure (t.settleRollback recoveryRef failureClass envelope.at_,
        t.settleRollback recoveryRef failureClass envelope.at_) : Store (Target × Target)) db =
          .ok ((t.settleRollback recoveryRef failureClass envelope.at_,
            t.settleRollback recoveryRef failureClass envelope.at_), db) := rfl
    exact ⟨_, (bind_of_ok (mutateTarget_of_some happ ht hedit
      (settleRollback_passes hpass))).trans (withApplication_of_some happ)⟩

/-- The record of a refused target stands on its row, if it has one. -/
def Recorded (id : String) (r : RefusedTarget) (db : Db) : Prop :=
  ∀ t, db.targets.find? ⟨id, r.nodeId⟩ = some t →
    t.recovery.phase = some .failed ∧ (r.refused = false → recoveryClaimMoved t = true)

theorem rollbackFailure_phase (t : Target) (recoveryRef : String)
    (failureClass : RollbackFailureClass) (at_ : Int) :
    (t.rollbackFailure recoveryRef failureClass at_).recovery.phase = some .failed := by
  unfold rollbackFailure
  split <;> rfl

theorem RefusedTarget.failureClass_iff (r : RefusedTarget) :
    r.failureClass ≠ .preMutation ↔ r.refused = false := by
  unfold RefusedTarget.failureClass
  cases r.refused <;> simp

variable {id recoveryRef : String} {r : RefusedTarget} {overrides : List Target}

/-- A row a turn settled. -/
theorem recorded_self {at_ : Int} {t t' : Target} (ht' : db'.targets.find? ⟨id, r.nodeId⟩ = some t')
    (hstamps : (t.settleRollback recoveryRef r.failureClass at_).Stamps t') :
    Recorded id r db' := by
  intro t₁ ht₁
  rw [some.inj (ht₁.symm.trans ht'), hstamps.recovery, moved_congr hstamps.recovery]
  refine ⟨settleRollback_phase t recoveryRef r.failureClass at_, fun hrf => ?_⟩
  exact (settleRollback_moved _ _ _ _).mpr (.inl (r.failureClass_iff.mpr hrf))

theorem Recorded.settled
    {failureClass : RollbackFailureClass} {at_ : Int} {key : TargetKey} {t t' : Target}
    (h : Recorded id r db) (ht : db.targets.find? key = some t)
    (ht' : db'.targets.find? key = some t')
    (hstamps : (t.settleRollback recoveryRef failureClass at_).Stamps t')
    (hothers : ∀ key', key' ≠ key → db'.targets.find? key' = db.targets.find? key') :
    Recorded id r db' := by
  intro t₁ ht₁
  by_cases hkey : ⟨id, r.nodeId⟩ = key
  · rw [hkey] at ht₁
    rw [some.inj (ht₁.symm.trans ht'), hstamps.recovery, moved_congr hstamps.recovery]
    refine ⟨settleRollback_phase t recoveryRef failureClass at_, fun hrf => ?_⟩
    refine (settleRollback_moved _ _ _ _).mpr (.inr ((h t ?_).2 hrf))
    rw [hkey]
    exact ht
  · rw [hothers _ hkey] at ht₁
    exact h t₁ ht₁

/-- What every turn of a settlement finds. -/
structure Underway (db : Db) (id : String) : Prop where
  owned : TargetsOwned db
  rows : RowsPass db
  agrees : ∃ app, db.getApplication id = some app ∧ AgreesAt db id app.hold

theorem Underway.settles {id : String} {key : TargetKey} (h : Underway db id)
    (hat : tr.settlesAt = some key) (hid : key.applicationId = id)
    (hspares : ∀ t, db.targets.find? key = some t → tr.SparesHold db key t) :
    Underway (step repoKey db tr) id := by
  subst hid
  obtain ⟨app, happ, hagr⟩ := h.agrees
  exact ⟨targetsOwned_step h.owned, rowsPass_step h.rows tr,
    agreesAt_settlesAt hat happ hagr hspares⟩

/-- What a turn does about its own target and about the others. -/
theorem turn_records {envelope : EventEnvelope} (h : Underway db id) {db' : Db} (hdb' : db' = commit
      (rollbackTargetFailed id r.nodeId recoveryRef r.failureClass envelope) db) :
    Recorded id r db' ∧ ∀ r', Recorded id r' db → Recorded id r' db' := by
  obtain ⟨app, happ, -⟩ := h.agrees
  cases ht : db.targets.find? ⟨id, r.nodeId⟩ with
  | none =>
    have hrf : db' = db := by
      rw [hdb']
      refine commit_of_ensures (P := fun db₁ => db₁ = db) ?_ rfl
      refine settles_rollbackTargetFailed.mono fun _ _ hsett => ?_
      obtain ⟨_, t, _, _, _, ht', -⟩ := hsett
      exact absurd (ht'.symm.trans ht) (some_ne_none t)
    rw [hrf]
    refine ⟨fun t ht' => ?_, fun _ hr' => hr'⟩
    exact absurd (ht'.symm.trans ht) (some_ne_none t)
  | some t =>
    obtain ⟨db₁, hrun⟩ := @accepts_rollbackTargetFailed _ h.rows _ _ _ _ recoveryRef
        r.failureClass envelope happ ht
    rw [commit_of_ok hrun] at hdb'
    subst hdb'
    obtain ⟨_, told, row, hold, _, htold, hsettles, hlanded⟩ :=
      settles_rollbackTargetFailed _ _ hrun
    rw [some.inj (htold.symm.trans ht)] at hsettles
    obtain ⟨t', ht', hstamps⟩ := hlanded.target
    cases hsettles with
    | rollbackPartialFailed =>
      exact ⟨recorded_self ht' hstamps, fun r' hr' =>
        hr'.settled ht ht' hstamps hlanded.others⟩

/-- The turns of a settlement keep the agreement and leave every record standing. -/
theorem ensures_turns {targets : List RefusedTarget}
    {envelope : EventEnvelope} (h : Underway db id) :
    Tx.Ensures (targets.forM fun r => attempt
        (rollbackTargetFailed id r.nodeId recoveryRef r.failureClass envelope)
        fun _ => true) db fun _ db' =>
      Underway db' id ∧ ∀ r ∈ targets, Recorded id r db' := by
  refine (ensures_forM_each (I := fun db => Underway db id)
    (J := Recorded id) targets ?_ h).mono fun _ db' hdone => ⟨hdone.1, hdone.2.1⟩
  intro r _ db₁ hdb₁
  refine ensures_attempt_committed.mono fun _ db₂ hdb₂ => ⟨?_, turn_records hdb₁ hdb₂⟩
  have hstep : db₂ = step (fun _ => none) db₁ (.rollbackPartialFailed id (some r.nodeId)
      recoveryRef r.failureClass envelope) := hdb₂
  rw [hstep]
  exact @Underway.settles _ _ _ _ ⟨id, r.nodeId⟩ hdb₁ rfl rfl fun _ _ => trivial

/-- A listing whose overrides say what the stored rows say. -/
theorem any_liveWith_same {id : String} {p : Target → Bool}
    (hsame : ∀ o ∈ overrides, ∃ t, db.targets.find? ⟨id, o.nodeId⟩ = some t ∧
      o.status = t.status ∧ p o = p t) :
    (liveWith db id overrides).any p = true ↔ SomeLive p db id := by
  rw [List.any_eq_true]
  constructor
  · rintro ⟨r, hmem, hp⟩
    rcases mem_liveWith.mp hmem with ⟨hfind, hid, hlive, -⟩ | ⟨hmem, hlive⟩
    · exact ⟨r.key, r, hfind, hid, hlive, hp⟩
    · obtain ⟨t, ht, hstat, hpt⟩ := hsame r hmem
      exact ⟨_, t, ht, rfl, hstat ▸ hlive, hpt ▸ hp⟩
  · rintro ⟨key, t, ht, hid, hlive, hp⟩
    have hkey : t.key = key := Table.key_of_find? ht
    by_cases hover : ∃ o ∈ overrides, o.nodeId = key.nodeId
    · obtain ⟨o, ho, hnode⟩ := hover
      obtain ⟨t₀, ht₀, hstat, hpo⟩ := hsame o ho
      have hplace : (⟨id, o.nodeId⟩ : TargetKey) = key := by
        rw [hnode, ← hid]
      rw [hplace] at ht₀
      rw [some.inj (ht₀.symm.trans ht)] at hstat hpo
      exact ⟨o, mem_liveWith.mpr (.inr ⟨ho, hstat.symm ▸ hlive⟩), hpo.trans hp⟩
    · refine ⟨t, mem_liveWith.mpr (.inl ⟨?_, ?_, hlive, fun o ho hnode => ?_⟩), hp⟩
      · rw [hkey]
        exact ht
      · exact (congrArg TargetKey.applicationId hkey).trans hid
      · refine hover ⟨o, ho, hnode.trans ?_⟩
        exact congrArg TargetKey.nodeId hkey

/-- A hold derived from what the stored rows say. -/
theorem agreesAt_derived {id : String} {h : Hold} {at_ : Int} (hagr : AgreesAt db id h)
    (hsame : ∀ o ∈ overrides, ∃ t, db.targets.find? ⟨id, o.nodeId⟩ = some t ∧
      o.status = t.status ∧ targetRestoreInFlight o = targetRestoreInFlight t ∧
        recoveryClaimMoved o = recoveryClaimMoved t) :
    AgreesAt db id (h.derived (liveWith db id overrides) at_) where
  hold := by
    refine Hold.agrees_derived (any_liveWith_same fun o ho => ?_)
      (any_liveWith_same fun o ho => ?_) fun hfl => ?_
    · obtain ⟨t, ht, hstat, hfl, -⟩ := hsame o ho
      exact ⟨t, ht, hstat, hfl⟩
    · obtain ⟨t, ht, hstat, -, hmoved⟩ := hsame o ho
      exact ⟨t, ht, hstat, hmoved⟩
    · exact (hagr.hold.moving hfl).imp (fun h => h) fun hfailed =>
        ⟨hfailed, hagr.hold.named hfailed⟩
  grounded := hagr.grounded

/-- The row a refused target should have says what the stored one says. -/
theorem Recorded.intended {at_ : Int}
    {t : Target} (h : Recorded id r db) (ht : db.targets.find? ⟨id, r.nodeId⟩ = some t) :
    (t.rollbackFailure recoveryRef r.failureClass at_).status = t.status ∧
    targetRestoreInFlight (t.rollbackFailure recoveryRef r.failureClass at_) =
      targetRestoreInFlight t ∧
    recoveryClaimMoved (t.rollbackFailure recoveryRef r.failureClass at_) =
      recoveryClaimMoved t := by
  obtain ⟨hph, hmoved⟩ := h t ht
  refine ⟨?_, ?_, ?_⟩
  · rw [rollbackFailure_eq]
  · unfold targetRestoreInFlight
    rw [rollbackFailure_phase, hph]
  · rw [Bool.eq_iff_iff, rollbackFailure_moved, r.failureClass_iff]
    exact ⟨fun h => h.elim hmoved fun h => h, .inr⟩

/-- A derived hold written back. -/
theorem agreesFor_derived {id : String} {app app' : Application}
    {envelope : EventEnvelope} (happ : db.getApplication id = some app)
    (hagr : AgreesAt db id app.hold)
    (hsame : ∀ o ∈ overrides, ∃ t, db.targets.find? ⟨id, o.nodeId⟩ = some t ∧
      o.status = t.status ∧ targetRestoreInFlight o = targetRestoreInFlight t ∧
        recoveryClaimMoved o = recoveryClaimMoved t)
    (happ' : app' = deriveApplicationRecovery db app envelope.at_ overrides) :
    AgreesFor (db.writeApp (app'.stamped envelope)) id := by
  subst happ'
  have hid : app.id = id := Table.key_of_find? happ
  refine ⟨_, Db.getApplication_writeApp_self ?_ happ, fun _ => ?_⟩
  · show (deriveApplicationRecovery db app envelope.at_ overrides).id = id
    rw [deriveApplicationRecovery_eq]
    exact hid
  · have hhold := @deriveApplicationRecovery_hold db app envelope.at_ overrides
    rw [hid] at hhold
    show AgreesAt _ id (deriveApplicationRecovery db app envelope.at_ overrides).hold
    rw [hhold]
    exact (agreesAt_derived hagr hsame).of_targets rfl

/-- A rollback that failed on the application as a whole. -/
theorem agreesFor_partialFailed {id : String} {app : Application} {envelope : EventEnvelope}
    (recoveryRef : String) (failureClass : RollbackFailureClass)
    (happ : db.getApplication id = some app) (hagr : AgreesAt db id app.hold) :
    Tx.Ensures (rollbackPartialFailed id none recoveryRef failureClass envelope) db
      fun _ db' => AgreesFor db' id := by
  refine ensures_mutateApp.mpr fun app₀ happ₀ => ?_
  rw [some.inj (happ₀.symm.trans happ)]
  simp only [ensures_bind, ensures_get, ensures_pure]
  refine agreesFor_derived happ hagr (fun o ho => ?_) rfl
  cases ho

/-- A rollback whose records were written again. -/
theorem agreesFor_refusals {targets : List RefusedTarget}
    {envelope : EventEnvelope} (h : Underway db id) :
    Tx.Ensures (rollbackRefusalSettled id targets recoveryRef envelope) db
      fun _ db' => AgreesFor db' id := by
  unfold rollbackRefusalSettled
  rw [ensures_bind]
  refine (ensures_turns h).mono fun _ db₁ hdone => ?_
  obtain ⟨hunder, hrecorded⟩ := hdone
  obtain ⟨app, happ, hagr⟩ := hunder.agrees
  refine ensures_mutateApp.mpr fun app₀ happ₀ => ?_
  rw [some.inj (happ₀.symm.trans happ)]
  simp only [ensures_bind, ensures_get, ensures_pure]
  refine agreesFor_derived happ hagr (fun o ho => ?_) rfl
  obtain ⟨r, hr, hintended⟩ := List.mem_filterMap.mp ho
  obtain ⟨t, ht, rfl⟩ := map_eq_some_iff.mp hintended
  have hkey : t.key = ⟨id, r.nodeId⟩ := Table.key_of_find? ht
  have hnode : (t.rollbackFailure recoveryRef r.failureClass envelope.at_).nodeId =
      r.nodeId := by
    rw [rollbackFailure_eq]
    exact congrArg TargetKey.nodeId hkey
  rw [hnode]
  exact ⟨t, ht, (hrecorded r hr).intended ht⟩

/-- No restore is in flight on a node for an application. -/
def NodeIdle (db : Db) (id : String) (nodeId : Int) : Prop :=
  ∀ t, db.targets.find? ⟨id, nodeId⟩ = some t → targetRestoreInFlight t = false

/-- A removed node leaves the agreement of an application that had no restore in
flight there. -/
theorem agreesFor_nodeRemoved {id : String} {nodeId : Int} {envelope : EventEnvelope}
    (h : Underway db id) (hidle : NodeIdle db id nodeId) :
    Tx.Ensures (tombstoneNodeTargets nodeId envelope) db fun _ db' => AgreesFor db' id := by
  unfold tombstoneNodeTargets
  refine (ensures_forM (I := fun db => Underway db id ∧ NodeIdle db id nodeId) _ ?_
    ⟨h, hidle⟩).mono fun _ db' hdone => ?_
  · intro t _ db₁ hdb₁
    obtain ⟨hunder, hstill⟩ := hdb₁
    refine ensures_committed.mono fun _ db₂ hdb₂ => ?_
    have hstep : db₂ = step (fun _ => none) db₁
        (.targetTombstoned t.applicationId nodeId envelope) := hdb₂
    subst hstep
    refine ⟨?_, fun t' ht' => ?_⟩
    · by_cases hid : t.applicationId = id
      · refine @Underway.settles _ _ _ _ ⟨t.applicationId, nodeId⟩ hunder rfl hid fun t' ht' => ?_
        rw [hid] at ht'
        exact hstill t' ht'
      · obtain ⟨app, happ, hagr⟩ := hunder.agrees
        exact ⟨targetsOwned_step hunder.owned, rowsPass_step hunder.rows _,
          agreesAt_quiet hunder.owned (Transition.quietFor_of_other fun h => hid h.symm) happ
            hagr⟩
    · refine Bool.eq_false_iff.mpr fun hfl => ?_
      obtain ⟨told, htold, hbefore, -⟩ := (one_restore hunder.owned).carried _ _ _ ht' hfl nofun
      rw [hstill told htold] at hbefore
      cases hbefore
  · obtain ⟨app, happ, hagr⟩ := hdone.1.agrees
    exact ⟨app, happ, fun _ => hagr⟩

end Sencho.GitOps

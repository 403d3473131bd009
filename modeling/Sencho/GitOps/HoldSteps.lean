import Sencho.GitOps.HoldAgreement
import Sencho.GitOps.StartupPass

/-!
# What each call does to a hold

The hold of a live application agrees with its targets before a call.  A call
that leaves the hold and the rows alone keeps the agreement; so does one that
settles a target, one that writes the failure slot under no hold, and one that
interrupts what was in flight.
-/

namespace Sencho.GitOps

open Verified Tx Application

variable {repoKey : String → Option String} {db db' : Db} {tr : Transition}

/-- The hold of an application agrees with its targets, and none of them was
severed under a restore. -/
structure AgreesAt (db : Db) (id : String) (h : Hold) : Prop where
  hold : h.Agrees (SomeLive targetRestoreInFlight db id) (SomeLive recoveryClaimMoved db id)
  grounded : ∀ key t, db.targets.find? key = some t → key.applicationId = id → t.Grounded

/-- The hold of every live application agrees with its targets. -/
def HoldsAgree (db : Db) : Prop :=
  ∀ id app, db.getApplication id = some app → app.lifecycleStatus.live = true →
    AgreesAt db id app.hold

/-- Rows that keep their status and their recovery slot, with new rows empty. -/
structure RowsKept (db db' : Db) (id : String) : Prop where
  kept : ∀ key t, db.targets.find? key = some t → key.applicationId = id →
    ∃ t', db'.targets.find? key = some t' ∧ t'.status = t.status ∧ t'.recovery = t.recovery
  fresh : ∀ key t', db'.targets.find? key = some t' → key.applicationId = id →
    db.targets.find? key = none → t'.recovery = ⟨none, none, none, none, none⟩

theorem RowsKept.of_targets (h : db'.targets = db.targets) (id : String) : RowsKept db db' id where
  kept key t ht _ := ⟨t, by rw [h]; exact ht, rfl, rfl⟩
  fresh key t' ht' _ hnone := by
    rw [h, hnone] at ht'
    cases ht'

variable {id : String}

/-- A row after the call comes from a row before it, or claims nothing. -/
theorem RowsKept.back (h : RowsKept db db' id) {key : TargetKey} {t' : Target}
    (ht' : db'.targets.find? key = some t') (hid : key.applicationId = id) :
    (∃ t, db.targets.find? key = some t ∧ t'.status = t.status ∧ t'.recovery = t.recovery) ∨
      t'.recovery = ⟨none, none, none, none, none⟩ := by
  cases ht : db.targets.find? key with
  | none => exact .inr (h.fresh key t' ht' hid ht)
  | some t =>
    obtain ⟨now, hnow, hkept⟩ := h.kept key t ht hid
    rw [Option.some.inj (hnow.symm.trans ht')] at hkept
    exact .inl ⟨t, rfl, hkept⟩

theorem RowsKept.someLive (h : RowsKept db db' id) {p : Target → Bool}
    (hp : ∀ t t' : Target, t'.recovery = t.recovery → p t' = p t)
    (hempty : ∀ t : Target, t.recovery = ⟨none, none, none, none, none⟩ → p t = false) :
    SomeLive p db' id ↔ SomeLive p db id := by
  constructor
  · rintro ⟨key, t', ht', hid, hlive, hpt⟩
    rcases h.back ht' hid with ⟨t, ht, hstat, hrecovery⟩ | hnew
    · exact ⟨key, t, ht, hid, by rw [← hstat]; exact hlive, (hp t t' hrecovery).symm.trans hpt⟩
    · rw [hempty t' hnew] at hpt
      cases hpt
  · rintro ⟨key, t, ht, hid, hlive, hpt⟩
    obtain ⟨t', ht', hstat, hrecovery⟩ := h.kept key t ht hid
    exact ⟨key, t', ht', hid, by rw [hstat]; exact hlive, (hp t t' hrecovery).trans hpt⟩

section

variable {t : Target} (h : t.recovery = ⟨none, none, none, none, none⟩)
include h

theorem flight_empty : targetRestoreInFlight t = false := by
  unfold targetRestoreInFlight
  rw [h]
  rfl

theorem moved_empty : recoveryClaimMoved t = false := by
  unfold recoveryClaimMoved recoveryFailureClaimClass
  rw [h]
  rfl

end

/-- The rows kept, the hold may still change to another that agrees. -/
theorem RowsKept.agreesAt {h h' : Hold} (hrows : RowsKept db db' id) (hagr : AgreesAt db id h)
    (hhold : ∀ flight moved, h.Agrees flight moved → h'.Agrees flight moved) :
    AgreesAt db' id h' where
  hold := by
    refine (hhold _ _ hagr.hold).congr ?_ ?_
    · exact hrows.someLive (fun _ _ => flight_congr) fun _ => flight_empty
    · exact hrows.someLive (fun _ _ => moved_congr) fun _ => moved_empty
  grounded key t' ht' hid hsevered := by
    rcases hrows.back ht' hid with ⟨t, ht, hstat, hrecovery⟩ | hnew
    · rw [flight_congr hrecovery]
      exact hagr.grounded key t ht hid (by rw [← hstat]; exact hsevered)
    · exact flight_empty hnew

namespace Transition

/-- The call changes neither the hold of an application nor what its targets
claim. -/
structure QuietFor (tr : Transition) (id : String) : Prop where
  hold : tr.activates = true ∨ ¬ tr.writes (.app id .recovery) ∧ ¬ tr.writes (.app id .failure)
  rows : ∀ nodeId, ¬ tr.edits ⟨id, nodeId⟩ .status ∧ ¬ tr.edits ⟨id, nodeId⟩ .recovery

/-- The calls that are not about one target and steer a hold. -/
def steersHold : Transition → Bool
  | .createFailed .. | .fetched .. | .fetchFailed .. | .fetchedInvalid ..
  | .configChangedPendingCleared .. | .candidateReady .. | .applyFailed ..
  | .applied .. | .sourceAccepted .. | .sourceSuspended .. | .applicationTombstoned ..
  | .tombstoneNodeTargets .. | .rollbackInProgress .. | .rollbackPartialFailed ..
  | .rollbackRefusalSettled .. | .interruptActiveOperations .. => true
  | _ => false

theorem settlesAt_scope {key : TargetKey} (hat : tr.settlesAt = some key) :
    tr.scope = .target key.applicationId key.nodeId := by
  cases tr <;> try cases hat
  case rollbackInProgress id nodeId _ _ _ =>
    cases nodeId with
    | none => cases hat
    | some nodeId =>
      cases hat
      rfl
  case rollbackPartialFailed id nodeId _ _ _ =>
    cases nodeId with
    | none => cases hat
    | some nodeId =>
      cases hat
      rfl
  all_goals rfl

theorem quietFor_of_other (h : ¬ tr.scope.ownsApp id) : tr.QuietFor id where
  hold := .inr ⟨fun hw => h hw.1, fun hw => h hw.1⟩
  rows nodeId := by
    have hother : ∀ c, ¬ tr.edits ⟨id, nodeId⟩ c := by
      rintro c ⟨-, howns, -⟩
      refine h ?_
      cases hscope : tr.scope with
      | application id' =>
        rw [hscope] at howns
        exact howns
      | target id' nodeId' =>
        rw [hscope] at howns
        exact congrArg TargetKey.applicationId howns
      | node nodeId' => trivial
      | nothing =>
        rw [hscope] at howns
        exact howns.elim
    exact ⟨hother .status, hother .recovery⟩

theorem quietFor_of_idle (hat : tr.settlesAt = none)
    (hsteers : tr.steersHold = false) : tr.QuietFor id where
  hold := by
    cases tr <;> simp [settlesAt, steersHold, activates, writes, appWrites,
      authorizationColumns] at hat hsteers ⊢
  rows nodeId := by
    cases tr <;> simp [settlesAt, steersHold, edits, places, writes, targetWrites] at hat hsteers ⊢

end Transition

theorem Target.IsNew.recovery {t : Target} (h : t.IsNew) :
    t.recovery = ⟨none, none, none, none, none⟩ := by
  obtain ⟨_, _, _, _, rfl⟩ := h
  rfl

/-- The rows of an application a call edits neither the status nor the recovery
slot of. -/
theorem rowsKept_step (howned : TargetsOwned db)
    (hrows : ∀ nodeId, ¬ tr.edits ⟨id, nodeId⟩ .status ∧ ¬ tr.edits ⟨id, nodeId⟩ .recovery) :
    RowsKept db (step repoKey db tr) id where
  kept := by
    rintro ⟨_, nodeId⟩ t ht rfl
    obtain ⟨t', ht', hkept⟩ := @step_target repoKey _ tr howned _ _ ht
    exact ⟨t', ht', hkept .status (hrows nodeId).1, hkept .recovery (hrows nodeId).2⟩
  fresh := by
    intro key t' ht' _ hnone
    rcases step_target_cases howned ht' with ⟨t, ht, -⟩ | ⟨-, hnew, -⟩
    · exact absurd (ht.symm.trans hnone) (Option.some_ne_none t)
    · exact hnew.recovery

variable {app : Application}

/-- A call that is quiet for an application keeps its agreement. -/
theorem agreesAt_quiet (howned : TargetsOwned db)
    (hquiet : tr.QuietFor id) (happ : db.getApplication id = some app)
    (hagr : AgreesAt db id app.hold) :
    ∃ app', (step repoKey db tr).getApplication id = some app' ∧
      AgreesAt (step repoKey db tr) id app'.hold := by
  obtain ⟨app', happ', hkept⟩ := @step_app repoKey _ tr _ _ happ
  have hrecovery : app'.recovery = app.recovery :=
    hkept .recovery (hquiet.hold.imp_right And.left)
  have hfailure : app'.failure = app.failure :=
    hkept .failure (hquiet.hold.imp_right And.right)
  have hhold : app'.hold = app.hold := by
    unfold hold
    rw [hrecovery, hfailure]
  refine ⟨app', happ', ?_⟩
  rw [hhold]
  exact (rowsKept_step howned hquiet.rows).agreesAt hagr fun _ _ h => h

theorem rowAgrees_of {h : Hold} {key : TargetKey} {t : Target}
    (hagr : AgreesAt db id h) (ht : db.targets.find? key = some t)
    (hid : key.applicationId = id) : RowAgrees db h key t := by
  subst hid
  exact hagr.hold.congr (someLive_iff ht).symm (someLive_iff ht).symm

section

variable {key : TargetKey} (hat : tr.settlesAt = some key)
include hat

/-- A settled call keeps the agreement of the application it is about. -/
theorem agreesAt_settled (hsett : Settled db db' tr key)
    (hagr : ∀ app, db.getApplication key.applicationId = some app →
      AgreesAt db key.applicationId app.hold)
    (hspares : ∀ t, db.targets.find? key = some t → tr.SparesHold db key t) :
    ∃ app', db'.getApplication key.applicationId = some app' ∧
      AgreesAt db' key.applicationId app'.hold := by
  obtain ⟨app, t, row, hold, happ, ht, hsettles, hlanded⟩ := hsett
  obtain ⟨app', happ', hhold⟩ := hlanded.owner
  obtain ⟨t', ht', hstamps⟩ := hlanded.target
  have hid : app.id = key.applicationId := Table.key_of_find? happ
  have hbefore := hagr app happ
  have hrow := hsettles.settled hat hid ht
    ⟨rowAgrees_of hbefore ht rfl, hbefore.grounded key t ht rfl⟩ (hspares t ht)
  have hstat : t'.status = row.status := by
    obtain ⟨_, _, rfl⟩ := hstamps
    rfl
  have hlive : ∀ p : Target → Bool, p t' = p row →
      (SomeLive p db' key.applicationId ↔ row.LiveAnd p ∨ SomeOther p db key) := by
    intro p hp
    rw [someLive_iff ht', someOther_congr hlanded.others]
    unfold Target.LiveAnd
    rw [hstat, hp]
  refine ⟨app', happ', ?_, ?_⟩
  · rw [hhold]
    refine hrow.agrees.congr ?_ ?_
    · exact hlive _ (flight_congr hstamps.recovery)
    · exact hlive _ (moved_congr hstamps.recovery)
  · intro key' t₁ ht₁ hid₁
    by_cases hkey : key' = key
    · subst hkey
      rw [Option.some.inj (ht₁.symm.trans ht')]
      have hsame : SameClaim row t' := by
        obtain ⟨_, _, rfl⟩ := hstamps
        exact .of_recovery rfl rfl rfl
      exact hrow.grounded.sameClaim hsame
    · rw [hlanded.others key' hkey] at ht₁
      exact hbefore.grounded key' t₁ ht₁ hid₁

/-- A call about one target keeps the agreement of its application. -/
theorem agreesAt_settlesAt (happ : db.getApplication key.applicationId = some app)
    (hagr : AgreesAt db key.applicationId app.hold)
    (hspares : ∀ t, db.targets.find? key = some t → tr.SparesHold db key t) :
    ∃ app', (step repoKey db tr).getApplication key.applicationId = some app' ∧
      AgreesAt (step repoKey db tr) key.applicationId app'.hold := by
  refine commit_of_ensures (P := fun db' : Db => ∃ app',
    db'.getApplication key.applicationId = some app' ∧
      AgreesAt db' key.applicationId app'.hold) ?_ ⟨app, happ, hagr⟩
  refine (perform_settles hat).mono fun _ db' hsett => ?_
  refine agreesAt_settled hat hsett (fun app₀ happ₀ => ?_) hspares
  rw [Option.some.inj (happ₀.symm.trans happ)]
  exact hagr

end

/-- An application whose failure slot names a recovery failure. -/
def FailureNamed (db : Db) (id : String) : Prop :=
  ∃ app, db.getApplication id = some app ∧ app.failure.stage = some .recovery

theorem clearFailure_kept {stages : List ApplicationFailureStage}
    (hstages : .recovery ∉ stages) (h : app.failure.stage = some .recovery) :
    (app.clearFailure stages).failure.stage = some .recovery := by
  rw [clearFailure_eq, h]
  have hnot : stages.contains ApplicationFailureStage.recovery = false := by
    simpa using hstages
  simp only [Option.any_some, hnot, Bool.false_eq_true, if_false]
  exact h

/-- A call that writes the failure slot and neither the recovery columns nor the
rows of an application, and goes on naming the failure of a hold. -/
theorem agreesAt_failure (howned : TargetsOwned db) (hrecovery : AppColumn.recovery ∉ tr.appWrites)
    (hrows : ∀ nodeId, ¬ tr.edits ⟨id, nodeId⟩ .status ∧ ¬ tr.edits ⟨id, nodeId⟩ .recovery)
    (happ : db.getApplication id = some app) (hagr : AgreesAt db id app.hold)
    (hnamed : app.recovery.phase = some .failed → app.failure.stage = some .recovery →
      Tx.Ensures (tr.perform repoKey) db fun _ db' => FailureNamed db' id) :
    ∃ app', (step repoKey db tr).getApplication id = some app' ∧
      AgreesAt (step repoKey db tr) id app'.hold := by
  obtain ⟨app', happ', hkept⟩ := @step_app repoKey _ tr _ _ happ
  have hsame : app'.recovery = app.recovery :=
    hkept .recovery (.inr fun hw => hrecovery hw.2)
  have hstage : app.recovery.phase = some .failed → app.failure.stage = some .recovery →
      app'.failure.stage = some .recovery := by
    intro hph hfailure
    have hcommit := commit_of_ensures (P := fun db' => FailureNamed db' id)
      (hnamed hph hfailure) ⟨app, happ, hfailure⟩
    obtain ⟨now, hnow, hfailed⟩ := hcommit
    rw [Option.some.inj (happ'.symm.trans hnow)]
    exact hfailed
  refine ⟨app', happ', (rowsKept_step howned hrows).agreesAt hagr ?_⟩
  intro flight moved h
  have hph : app'.hold.recovery = app.hold.recovery := hsame
  refine ⟨?_, ?_, ?_, ?_, ?_⟩
  · rw [hph]
    exact h.moving
  · rw [hph]
    exact h.held
  · rw [hph]
    exact h.answered
  · unfold Hold.InFlight
    rw [hph]
    exact h.started
  · rw [hph]
    exact fun hfailed => hstage hfailed (h.named hfailed)

variable {envelope : EventEnvelope}

/-- An edit of an application that keeps its failure slot, writing only targets
on the way. -/
theorem failureNamed_mutateApp
    {mutate : Application → Store Application} (happ : db.getApplication id = some app)
    (h : Tx.Ensures (mutate app) db fun app' db' => app'.id = app.id ∧
      db'.applications = db.applications ∧ app'.failure.stage = some .recovery) :
    Tx.Ensures (mutateApp id envelope mutate) db fun _ db' => FailureNamed db' id := by
  refine ensures_mutateApp.mpr fun app₀ happ₀ => ?_
  rw [Option.some.inj (happ₀.symm.trans happ)]
  refine h.mono fun app' db' hedit => ?_
  obtain ⟨hid, happs, hfailure⟩ := hedit
  refine ⟨_, @Db.getApplication_writeApp_self _ _ app _
      (hid.trans (Table.key_of_find? happ)) ?_, hfailure⟩
  show db'.applications.find? id = some app
  rw [happs]
  exact happ

theorem applications_forEachLive {edit : Target → Target} :
    Tx.Ensures (forEachLiveDirectTarget app edit) db fun _ db' =>
      db'.applications = db.applications := by
  unfold forEachLiveDirectTarget
  refine ensures_forM _ (fun t _ db₁ h => ?_) rfl
  exact ensures_upsert.mpr fun _ => h

section

variable {id : String} {app : Application} {envelope : EventEnvelope}
  (happ : db.getApplication id = some app) (hstage : app.failure.stage = some .recovery)

include happ hstage

theorem failureNamed_fetched {commitSha : String} {refKind : Option RefKind} :
    Tx.Ensures (fetched id commitSha refKind envelope) db fun _ db' =>
      FailureNamed db' id := by
  refine failureNamed_mutateApp happ ?_
  simp only [ensures_bind, ensures_refuseIf, ensures_pure]
  intro _
  rw [clearInterruption_eq, clearFailure_id]
  refine ⟨rfl, trivial, ?_⟩
  refine clearFailure_kept (by decide) ?_
  exact hstage

theorem failureNamed_configChanged {configured : SourceConfiguration} :
    Tx.Ensures (configChangedPendingCleared id configured envelope) db fun _ db' =>
      FailureNamed db' id := by
  refine failureNamed_mutateApp happ ?_
  simp only [ensures_bind, ensures_refuseIf, ensures_pure]
  intro _ _
  refine applications_forEachLive.mono fun _ db' happs => ?_
  rw [clearFailure_id]
  refine ⟨rfl, happs, ?_⟩
  refine clearFailure_kept (by decide) ?_
  exact hstage

theorem failureNamed_candidateReady {generationId : String} {reviewRequired : Bool} :
    Tx.Ensures (candidateReady id generationId reviewRequired envelope) db fun _ db' =>
      FailureNamed db' id := by
  refine failureNamed_mutateApp happ ?_
  simp only [requireOwnedGeneration, ensures_bind, ensures_refuseIf, ensures_pure,
    ensures_get, ensures_require]
  intro _ _ _ _ _
  refine applications_forEachLive.mono fun _ db' happs => ?_
  rw [clearFailure_id]
  refine ⟨rfl, happs, ?_⟩
  refine clearFailure_kept (by decide) ?_
  exact hstage

theorem failureNamed_accepts {args : AppliedArgs} {db' : Db} (hid : args.applicationId = id)
    (haccepts : ∃ app, Accepts db db' args app) : FailureNamed db' id := by
  obtain ⟨app₀, haccepts⟩ := haccepts
  have hbefore := haccepts.before
  rw [hid] at hbefore
  have hrow : app₀ = app := Option.some.inj (hbefore.symm.trans happ)
  subst hrow
  have hafter := haccepts.after
  rw [hid] at hafter
  refine ⟨_, hafter, ?_⟩
  show (acceptedApplication (app₀.withoutAuthorization db) args).failure.stage = _
  unfold acceptedApplication
  rw [clearInterruption_eq]
  refine clearFailure_kept (by decide) ?_
  show (app₀.withoutAuthorization db).failure.stage = some .recovery
  rw [withoutAuthorization_eq]
  exact hstage

end

/-- Every restore in flight has become a claim. -/
theorem Hold.Agrees.interrupted {h : Hold} {flight moved : Prop} (hagr : h.Agrees flight moved)
    (hidle : ¬ h.InFlight) : h.Agrees False (flight ∨ moved) := by
  by_cases hph : h.recovery.phase = some .failed
  · exact Hold.agrees_failed hph (hagr.named hph) (.inr (hagr.answered hph))
  · have hfl : ¬ flight := by
      intro hf
      rcases hagr.moving hf with hr | hfailed
      · exact hidle (.inr (.inl hr))
      · exact hph hfailed
    refine Hold.agrees_idle hph hidle id ?_
    rintro (hf | hm)
    · exact hfl hf
    · exact hph (hagr.held hfl hm)

/-- The rows of one application after its work was interrupted. -/
theorem agreesAt_interrupted {h h' : Hold} {at_ : Int}
    (hrows : ∀ key, db'.targets.find? key = (db.targets.find? key).map fun t =>
      if t.applicationId = id ∧ t.isOpen then t.interrupt at_ else t)
    (hagr : AgreesAt db id h)
    (hhold : ∀ flight moved, h.Agrees flight moved → h'.Agrees False (flight ∨ moved)) :
    AgreesAt db' id h' := by
  have hback : ∀ key t', db'.targets.find? key = some t' → key.applicationId = id →
      ∃ t, db.targets.find? key = some t ∧ t'.status = t.status ∧ targetRestoreInFlight t' = false ∧
        (recoveryClaimMoved t' = true ↔ targetRecoveryFailureMoved t = true) := by
    intro key t' ht' hid
    rw [hrows key] at ht'
    obtain ⟨t, ht, hmap⟩ := Option.map_eq_some_iff.mp ht'
    have hown : t.applicationId = id :=
      (congrArg TargetKey.applicationId (Table.key_of_find? ht)).trans hid
    refine ⟨t, ht, ?_⟩
    subst hmap
    unfold targetRecoveryFailureMoved
    by_cases hopen : t.isOpen = true
    · rw [if_pos ⟨hown, hopen⟩]
      refine ⟨by rw [Target.interrupt_eq], (interrupt_idle t at_).1, ?_⟩
      rw [Bool.or_eq_true]
      unfold Target.interrupt
      cases hfl : targetRestoreInFlight t with
      | true =>
        refine iff_of_true ?_ (.inl rfl)
        show (if recoveryClaimMoved t then t.recovery.failureClass
          else some .interrupted).any (fun c => c ≠ .preMutation) = true
        split
        · assumption
        · rfl
      | false =>
        simp only [Bool.false_eq_true, if_false, false_or]
        exact Iff.rfl
    · rw [if_neg fun hboth => hopen hboth.2]
      have hidle : targetRestoreInFlight t = false := by
        exact (Bool.or_eq_false_iff.mp (Bool.eq_false_iff.mpr hopen)).2
      refine ⟨rfl, hidle, ?_⟩
      rw [hidle, Bool.false_or]
      exact Iff.rfl
  refine ⟨(hhold _ _ hagr.hold).congr ?_ ?_, fun key t' ht' hid => ?_⟩
  · refine iff_of_false ?_ fun h => h
    rintro ⟨key, t', ht', hid, -, hf⟩
    obtain ⟨t, -, -, hidle, -⟩ := hback key t' ht' hid
    rw [hidle] at hf
    cases hf
  · constructor
    · rintro ⟨key, t', ht', hid, hlive, hm⟩
      obtain ⟨t, ht, hstat, -, hmoved⟩ := hback key t' ht' hid
      have hclaim := hmoved.mp hm
      rw [hstat] at hlive
      rcases Bool.or_eq_true_iff.mp hclaim with hf | hm'
      · exact .inl ⟨key, t, ht, hid, hlive, hf⟩
      · exact .inr ⟨key, t, ht, hid, hlive, hm'⟩
    · have hforth : ∀ p : Target → Bool,
          (∀ t, p t = true → targetRecoveryFailureMoved t = true) → SomeLive p db id →
          SomeLive recoveryClaimMoved db' id := by
        rintro p hp ⟨key, t, ht, hid, hlive, hpt⟩
        cases ht' : db'.targets.find? key with
        | none =>
          rw [hrows key, ht] at ht'
          cases ht'
        | some t' =>
          obtain ⟨t₀, ht₀, hstat, -, hmoved⟩ := hback key t' ht' hid
          rw [Option.some.inj (ht₀.symm.trans ht)] at hstat hmoved
          refine ⟨key, t', ht', hid, ?_, hmoved.mpr (hp t hpt)⟩
          rw [hstat]
          exact hlive
      rintro (hf | hm)
      · refine hforth _ (fun t ht => ?_) hf
        unfold targetRecoveryFailureMoved
        rw [ht]
        rfl
      · refine hforth _ (fun t ht => ?_) hm
        exact Bool.or_eq_true_iff.mpr (.inr ht)
  · obtain ⟨-, -, -, hidle, -⟩ := hback key t' ht' hid
    exact .of_idle hidle

/-- An application that is there, whose hold agrees with its targets unless it was
retired. -/
def AgreesFor (db : Db) (id : String) : Prop :=
  ∃ app, db.getApplication id = some app ∧
    (app.lifecycleStatus.live = true → AgreesAt db id app.hold)

theorem AgreesAt.of_targets {h : Hold} (hagr : AgreesAt db id h)
    (htargets : db'.targets = db.targets) : AgreesAt db' id h :=
  (RowsKept.of_targets htargets id).agreesAt hagr fun _ _ h => h

theorem hold_inFlight_iff (app : Application) :
    app.hold.InFlight ↔ applicationRecoveryInFlight app = true := by
  unfold applicationRecoveryInFlight Hold.InFlight hold
  simp [or_assoc]

section

variable {id : String} {app : Application} (happ : db.getApplication id = some app)
  (hagr : AgreesAt db id app.hold)
include happ hagr

/-- The startup pass and a suspension cut restores off. -/
theorem agreesFor_interrupted :
    Tx.Ensures (interruptActiveOperations id envelope) db fun _ db' => AgreesFor db' id := by
  refine ensures_reclassified.mono fun _ db' h => ?_
  have hid : app.id = id := Table.key_of_find? happ
  have happ' := h.applications id
  rw [happ, Option.map_some] at happ'
  refine ⟨_, happ', fun _ => agreesAt_interrupted h.targets hagr fun flight moved hold => ?_⟩
  by_cases hopen : app.id = id ∧ app.isOpen = true
  · rw [if_pos hopen]
    cases hfl : applicationRecoveryInFlight app with
    | true =>
      have hfailed : (keepIdentity app (app.interrupt envelope.at_)).hold =
          ⟨{ app.recovery with phase := some .failed },
            ⟨some .recovery, some "interrupted", some envelope.at_⟩⟩ := by
        unfold interrupt
        rw [if_pos hfl]
        rfl
      rw [hfailed]
      refine Hold.agrees_failed rfl rfl (.inr (.inl (hold.started ?_)))
      exact (hold_inFlight_iff app).mpr hfl
    | false =>
      have hsame : (keepIdentity app (app.interrupt envelope.at_)).hold = app.hold := by
        unfold interrupt
        rw [if_neg (Bool.eq_false_iff.mp hfl)]
        rfl
      rw [hsame]
      refine hold.interrupted ?_
      rw [hold_inFlight_iff, hfl]
      exact Bool.false_ne_true
  · rw [if_neg hopen]
    have hidle : app.isOpen = false := Bool.eq_false_iff.mpr fun h => hopen ⟨hid, h⟩
    refine hold.interrupted ?_
    rw [hold_inFlight_iff, (Bool.or_eq_false_iff.mp hidle).2]
    exact Bool.false_ne_true

/-- A suspension interrupts the operations of its targets and keeps the hold it
loaded before. -/
theorem agreesFor_suspended {reason : String}
    (hidle : app.lifecycleStatus = .active → app.active.stage.isSome = true →
      applicationRecoveryInFlight app = false) :
    Tx.Ensures (sourceSuspended id reason envelope) db fun _ db' => AgreesFor db' id := by
  have hid : app.id = id := Table.key_of_find? happ
  refine ensures_mutateApp.mpr fun app₀ happ₀ => ?_
  rw [Option.some.inj (happ₀.symm.trans happ)]
  unfold interruptForSuspension
  simp only [ensures_bind, ensures_refuseIf, ensures_ite, ensures_pure, ensures_requireApp]
  refine fun hactive => ⟨fun hopen => ?_, fun _ => ?_⟩
  · rw [hid]
    refine ensures_reclassified.mono fun _ db' h now hnow => ?_
    refine ⟨_, Db.getApplication_writeApp_self hid hnow, fun _ => ?_⟩
    have hstill : ¬ app.hold.InFlight := by
      rw [hold_inFlight_iff, hidle (by simpa using hactive) hopen]
      exact Bool.false_ne_true
    have hinterrupted : AgreesAt db' id app.hold :=
      agreesAt_interrupted h.targets hagr fun _ _ hold => hold.interrupted hstill
    exact hinterrupted.of_targets rfl
  · exact ⟨_, Db.getApplication_writeApp_self hid happ, fun _ => hagr.of_targets rfl⟩

end

end Sencho.GitOps

import Sencho.GitOps.RefusedRollbacks

/-!
# The recovery hold

Over a run, the hold of every live application agrees with its targets, as long
as no call breaks the agreement: a failure written over the hold, a restore
severed with its target, a refused restore nothing else answers for, a rollback
opened without a target, or a suspension that writes back the hold it loaded
before it interrupted the restore.
-/

namespace Sencho.GitOps

open Verified Option Transition Db

variable {repoKey : String → Option String} {db : Db} {tr : Transition}

/-- An application that is there and not retired. -/
def LiveApp (db : Db) (id : String) (app : Application) : Prop :=
  db.getApplication id = some app ∧ app.lifecycleStatus.live = true

namespace Transition

/-- What a call that is not about one target must find, for the hold of a live
application to follow its targets. -/
def SparesHolds (db : Db) : Transition → Prop
  | .activateDirect application _ _ | .activateInlineBlueprint application
  | .activateCreateFromGit application _ _ _ _ => application.recovery = ⟨none, none⟩
  | .fetchFailed id _ envelope | .fetchedInvalid id _ _ envelope =>
    ∀ app, LiveApp db id app → requireMatchingFetch app envelope = true →
      app.recovery.phase ≠ some .failed
  | .applyFailed id _ _ =>
    ∀ app, LiveApp db id app →
      app.active.stage = some .applyStarted ∨ app.interruption.stage = some .applyStarted →
      app.recovery.phase ≠ some .failed
  | .sourceSuspended id _ _ =>
    ∀ app, db.getApplication id = some app → app.lifecycleStatus = .active →
      app.active.stage.isSome = true → applicationRecoveryInFlight app = false
  | .tombstoneNodeTargets nodeId _ =>
    ∀ id app, LiveApp db id app → NodeIdle db id nodeId
  | .rollbackInProgress id none _ _ _ =>
    ∀ app, db.getApplication id = some app → app.lifecycleStatus = .active →
      SomeLive targetRestoreInFlight db id
  | _ => True

/-- What a call must find, for the hold of every live application to follow its
targets. -/
structure KeepsHolds (db : Db) (tr : Transition) : Prop where
  target : ∀ key app t, tr.settlesAt = some key → LiveApp db key.applicationId app →
    db.targets.find? key = some t → tr.SparesHold db key t
  others : tr.SparesHolds db

end Transition

theorem inserted_blank {application : Application} (hinserts : tr.inserts = some application)
    (hblank : tr.SparesHolds db) : application.recovery = ⟨none, none⟩ := by
  cases tr <;> cases hinserts <;> exact hblank

variable {id : String} {envelope : EventEnvelope}

/-- An application that was not there before a call was inserted by it. -/
theorem agreesAt_inserted (howned : TargetsOwned db) {app' : Application}
    (hnone : db.getApplication id = none)
    (happ' : (step repoKey db tr).getApplication id = some app') (hkeeps : tr.SparesHolds db) :
    AgreesAt (step repoKey db tr) id app'.hold := by
  have hrows : ∀ key t', (step repoKey db tr).targets.find? key = some t' →
      key.applicationId = id → t'.recovery = ⟨none, none, none, none, none⟩ := by
    rintro ⟨_, nodeId⟩ t' ht' rfl
    rcases step_target_cases howned ht' with ⟨t, ht, -⟩ | ⟨-, hnew, -⟩
    · exact absurd (ht.symm.trans (howned.find?_none hnone)) (some_ne_none t)
    · exact hnew.recovery
  obtain ⟨application, hinserts, hkept⟩ := step_inserted hnone happ'
  have hblank : app'.recovery = ⟨none, none⟩ :=
    (hkept .recovery (by decide)).trans (inserted_blank hinserts hkeeps)
  refine ⟨?_, fun key t' ht' hid _ => flight_empty (hrows key t' ht' hid)⟩
  unfold Application.hold
  rw [hblank]
  refine Hold.agrees_none (.inl rfl) ?_ ?_
  · rintro ⟨key, t', ht', hid, -, hfl⟩
    rw [flight_empty (hrows key t' ht' hid)] at hfl
    cases hfl
  · rintro ⟨key, t', ht', hid, -, hmoved⟩
    rw [moved_empty (hrows key t' ht' hid)] at hmoved
    cases hmoved

/-- A rollback of the whole application, over a restore in flight. -/
theorem agreesFor_opened {id recoveryRef : String} {app : Application}
    (recoveryGenerationId : Option String)
    (happ : db.getApplication id = some app) (hagr : AgreesAt db id app.hold)
    (hfl : app.lifecycleStatus = .active → SomeLive targetRestoreInFlight db id) :
    Tx.Ensures (rollbackInProgress id none recoveryRef recoveryGenerationId envelope) db
      fun _ db' => AgreesFor db' id := by
  have hid : app.id = id := Table.key_of_find? happ
  refine ensures_mutateApp.mpr fun app₀ happ₀ => ?_
  rw [some.inj (happ₀.symm.trans happ), Tx.ensures_bind, Tx.ensures_refuseIf]
  intro hlive
  rw [Tx.ensures_pure]
  refine ⟨_, getApplication_writeApp_self hid happ, fun _ => AgreesAt.of_targets ?_ rfl⟩
  exact ⟨Hold.agrees_opened rfl (hfl (by simpa using hlive)), hagr.grounded⟩

/-- A retired application no longer answers for its targets. -/
theorem agreesFor_retired {retirement : Retirement} :
    Tx.Ensures (applicationTombstoned id retirement envelope) db fun _ db' => AgreesFor db' id := by
  refine ensures_mutateApp.mpr fun app happ => ?_
  have hid : app.id = id := Table.key_of_find? happ
  rw [Tx.ensures_bind, Tx.ensures_refuseIf]
  intro _
  rw [Tx.ensures_pure]
  refine ⟨_, getApplication_writeApp_self hid happ, fun hlive => ?_⟩
  have hgone : retirement.status.live = true := hlive
  cases retirement <;> cases hgone

theorem agreesFor_of_ensures {p : Store Unit} {app : Application}
    (hp : tr.perform repoKey = p) (happ : db.getApplication id = some app)
    (hagr : AgreesAt db id app.hold) (h : Tx.Ensures p db fun _ db' => AgreesFor db' id) :
    AgreesFor (step repoKey db tr) id := by
  unfold step
  rw [hp]
  exact Tx.commit_of_ensures (P := fun db' => AgreesFor db' id) h ⟨app, happ, fun _ => hagr⟩

/-- A call that writes the failure slot, and no recovery column. -/
theorem agreesFor_failure (howned : TargetsOwned db) {app : Application}
    (hrecovery : AppColumn.recovery ∉ tr.appWrites)
    (hrows : TargetColumn.status ∉ tr.targetWrites ∧ TargetColumn.recovery ∉ tr.targetWrites)
    (happ : db.getApplication id = some app) (hagr : AgreesAt db id app.hold)
    (hnamed : app.recovery.phase = some .failed → app.failure.stage = some .recovery →
      Tx.Ensures (tr.perform repoKey) db fun _ db' => FailureNamed db' id) :
    AgreesFor (step repoKey db tr) id := by
  obtain ⟨app', happ', hagr'⟩ := agreesAt_failure howned hrecovery
    (fun _ => ⟨fun h => hrows.1 h.2.2, fun h => hrows.2 h.2.2⟩) happ hagr hnamed
  exact ⟨app', happ', fun _ => hagr'⟩

/-- A call that records a failure, over no hold. -/
theorem ensures_overNoHold {app : Application}
    {c : Application → Bool} {reason : Refusal} {edit : Application → Application}
    (happ : db.getApplication id = some app) (hfailed : app.recovery.phase = some .failed)
    (hfree : c app = false → app.recovery.phase ≠ some .failed) :
    Tx.Ensures (mutateApp id envelope fun app => do
        Tx.refuseIf (c app) reason
        pure (edit app)) db fun _ db' => FailureNamed db' id := by
  refine ensures_mutateApp.mpr fun app₀ happ₀ => ?_
  rw [some.inj (happ₀.symm.trans happ), Tx.ensures_bind, Tx.ensures_refuseIf]
  exact fun hguard => absurd hfailed (hfree hguard)

/-- A call about the application as a whole, or about a node. -/
theorem agreesFor_steered {app : Application} (hunder : Underway db id)
    (hlive : LiveApp db id app) (hagr : AgreesAt db id app.hold)
    (hothers : tr.SparesHolds db) (howns : tr.scope.ownsApp id) (hat : tr.settlesAt = none)
    (hsteers : tr.steersHold = true) : AgreesFor (step repoKey db tr) id := by
  have happ := hlive.1
  have howned := hunder.owned
  cases tr <;> try cases hsteers
  case createFailed id' failureClass envelope =>
    obtain rfl : id = id' := howns
    rcases @step_createFailed repoKey db id failureClass envelope with hsame | ⟨app', happ', hgone⟩
    · rw [hsame]
      exact ⟨app, happ, fun _ => hagr⟩
    · refine ⟨app', happ', fun hlive' => ?_⟩
      rw [hgone] at hlive'
      cases hlive'
  case fetched id' _ _ _ =>
    obtain rfl : id = id' := howns
    exact agreesFor_failure howned (by simp [appWrites])
      (by simp [targetWrites]) happ hagr fun _ hstage =>
        failureNamed_fetched happ hstage
  case configChangedPendingCleared id' _ _ =>
    obtain rfl : id = id' := howns
    exact agreesFor_failure howned (by simp [appWrites])
      (by simp [targetWrites]) happ hagr fun _ hstage =>
        failureNamed_configChanged happ hstage
  case candidateReady id' _ _ _ =>
    obtain rfl : id = id' := howns
    exact agreesFor_failure howned (by simp [appWrites])
      (by simp [targetWrites]) happ hagr fun _ hstage =>
        failureNamed_candidateReady happ hstage
  case fetchFailed id' _ _ =>
    obtain rfl : id = id' := howns
    exact agreesFor_failure howned (by simp [appWrites])
      (by simp [targetWrites]) happ hagr fun hfailed _ =>
        ensures_overNoHold happ hfailed fun hguard => hothers app hlive (by simpa using hguard)
  case fetchedInvalid id' _ _ _ =>
    obtain rfl : id = id' := howns
    exact agreesFor_failure howned (by simp [appWrites])
      (by simp [targetWrites]) happ hagr fun hfailed _ =>
        ensures_overNoHold happ hfailed fun hguard => hothers app hlive (by simpa using hguard)
  case applyFailed id' _ _ =>
    obtain rfl : id = id' := howns
    exact agreesFor_failure howned (by simp [appWrites])
      (by simp [targetWrites]) happ hagr fun hfailed _ =>
        ensures_overNoHold happ hfailed fun hguard => hothers app hlive
          (Classical.or_iff_not_imp_left.mpr (by simpa using hguard))
  case applied args =>
    obtain rfl : id = args.applicationId := howns
    exact agreesFor_failure howned (by simp [appWrites, authorizationColumns, acceptanceColumns])
      (by simp [targetWrites]) happ hagr fun _ hstage =>
        ensures_applied_accepts.mono fun _ _ h => failureNamed_accepts happ hstage rfl h
  case sourceAccepted args =>
    obtain rfl : id = args.applicationId := howns
    exact agreesFor_failure howned (by simp [appWrites, authorizationColumns, acceptanceColumns])
      (by simp [targetWrites]) happ hagr fun _ hstage =>
        ensures_sourceAccepted_accepts.mono fun _ _ h => failureNamed_accepts happ hstage rfl h
  case sourceSuspended id' _ _ =>
    obtain rfl : id = id' := howns
    exact agreesFor_of_ensures rfl happ hagr
      (agreesFor_suspended happ hagr (hothers app happ))
  case applicationTombstoned id' _ _ =>
    obtain rfl : id = id' := howns
    exact agreesFor_of_ensures rfl happ hagr agreesFor_retired
  case tombstoneNodeTargets =>
    exact agreesFor_of_ensures rfl happ hagr
      (agreesFor_nodeRemoved hunder (hothers id app hlive))
  case rollbackInProgress id' nodeId _ recoveryGenerationId _ =>
    cases nodeId with
    | none =>
      obtain rfl : id = id' := howns
      exact agreesFor_of_ensures rfl happ hagr
        (agreesFor_opened recoveryGenerationId happ hagr (hothers app happ))
    | some nodeId => cases hat
  case rollbackPartialFailed id' nodeId recoveryRef failureClass _ =>
    cases nodeId with
    | none =>
      obtain rfl : id = id' := howns
      exact agreesFor_of_ensures rfl happ hagr
        (agreesFor_partialFailed recoveryRef failureClass happ hagr)
    | some nodeId => cases hat
  case rollbackRefusalSettled id' _ _ _ =>
    obtain rfl : id = id' := howns
    exact agreesFor_of_ensures rfl happ hagr (agreesFor_refusals hunder)
  case interruptActiveOperations id' _ =>
    obtain rfl : id = id' := howns
    exact agreesFor_of_ensures rfl happ hagr (agreesFor_interrupted happ hagr)

/-- One call about an application that is live before it. -/
theorem agreesFor_step (hunder : Underway db id) {app : Application}
    (hlive : LiveApp db id app) (hagr : AgreesAt db id app.hold)
    (hkeeps : tr.KeepsHolds db) : AgreesFor (step repoKey db tr) id := by
  have hquiet : tr.QuietFor id → AgreesFor (step repoKey db tr) id := by
    intro hquiet
    obtain ⟨app', happ', hagr'⟩ := agreesAt_quiet hunder.owned hquiet hlive.1 hagr
    exact ⟨app', happ', fun _ => hagr'⟩
  by_cases howns : tr.scope.ownsApp id
  swap
  · exact hquiet (quietFor_of_other howns)
  cases hat : tr.settlesAt with
  | some key =>
    have hid : key.applicationId = id := by
      rw [settlesAt_scope hat] at howns
      exact Eq.symm howns
    subst hid
    obtain ⟨app', happ', hagr'⟩ := agreesAt_settlesAt hat hlive.1 hagr
      fun t ht => hkeeps.target key app t hat hlive ht
    exact ⟨app', happ', fun _ => hagr'⟩
  | none =>
    cases hsteers : tr.steersHold with
    | false => exact hquiet (quietFor_of_idle hat hsteers)
    | true => exact agreesFor_steered hunder hlive hagr hkeeps.others howns hat hsteers

/-- One call keeps the agreement of every live application. -/
theorem holdsAgree_step (howned : TargetsOwned db) (hrows : RowsPass db)
    (h : HoldsAgree db) (hkeeps : tr.KeepsHolds db) : HoldsAgree (step repoKey db tr) := by
  intro id app' happ' hlive'
  cases happ : db.getApplication id with
  | none => exact agreesAt_inserted howned happ happ' hkeeps.others
  | some app =>
    have hlive : app.lifecycleStatus.live = true := by
      refine Bool.of_not_eq_false fun hretired => ?_
      obtain ⟨now, hnow, hsame⟩ := @step_retired _ _ _ repoKey tr happ hretired
      rw [some.inj (happ'.symm.trans hnow), hsame, hretired] at hlive'
      cases hlive'
    have hagr := h id app happ hlive
    obtain ⟨now, hnow, hfollows⟩ := @agreesFor_step repoKey _ _ _
        ⟨howned, hrows, app, happ, hagr⟩ _ ⟨happ, hlive⟩ hagr hkeeps
    rw [some.inj (happ'.symm.trans hnow)] at hlive' ⊢
    exact hfollows hlive'

/-- The recovery state of an application answers for its targets. -/
structure HoldAnswered (db : Db) (id : String) (app : Application) : Prop where
  held : SomeLive recoveryClaimMoved db id → ¬ SomeLive targetRestoreInFlight db id →
    app.recovery.phase = some .failed ∧ app.failure.stage = some .recovery
  opened : SomeLive targetRestoreInFlight db id → app.recovery.phase ≠ none
  answered : app.recovery.phase = some .failed → app.failure.stage = some .recovery →
    SomeLive recoveryClaimMoved db id ∨ SomeLive targetRestoreInFlight db id

theorem AgreesAt.held {app : Application} (h : AgreesAt db id app.hold) :
    HoldAnswered db id app where
  held hmoved hidle := by
    have hfailed := h.hold.held hidle hmoved
    exact ⟨hfailed, h.hold.named hfailed⟩
  opened hfl hnone := by
    rcases h.hold.moving hfl with hph | hph
    · exact some_ne_none _ (hph.symm.trans hnone)
    · exact some_ne_none _ (hph.symm.trans hnone)
  answered hfailed _ := (h.hold.answered hfailed).symm

/-- After every run of calls that keep the holds, the recovery state of every
active application answers for its targets. -/
theorem recovery_hold_answered (calls : List Transition)
    (hcalls : Runs.Along (step repoKey) (fun db tr => tr.KeepsHolds db) empty calls) :
    ∀ id app, (runTransitions repoKey empty calls).getApplication id = some app →
      app.lifecycleStatus = .active →
      HoldAnswered (runTransitions repoKey empty calls) id app := by
  intro id app happ hactive
  have hrun := Runs.run_along (P := fun db => TargetsOwned db ∧ RowsPass db ∧ HoldsAgree db)
    (fun db tr h hkeeps => ⟨targetsOwned_step h.1, rowsPass_step h.2.1 tr,
      holdsAgree_step h.1 h.2.1 h.2.2 hkeeps⟩)
    ⟨targetsOwned_empty, rowsPass_empty, fun _ _ h => by cases h⟩ hcalls
  refine (hrun.2.2 id app happ ?_).held
  rw [hactive]
  rfl

theorem someLive_of_any {p : Target → Bool} {key : TargetKey}
    (h : (db.targets.find? key).any (fun t => t.status ≠ .tombstoned && p t) = true) :
    SomeLive p db key.applicationId := by
  obtain ⟨t, ht, hboth⟩ := (any_eq_true _ _).mp h
  rw [Bool.and_eq_true, decide_eq_true_eq] at hboth
  exact ⟨key, t, ht, rfl, hboth.1, hboth.2⟩

theorem not_someLive_of_any {p : Target → Bool}
    (h : db.targets.any p = false) : ¬ SomeLive p db id := by
  rintro ⟨key, t, ht, -, -, hp⟩
  rw [(Table.any_iff _ _).mpr ⟨key, t, ht, hp⟩] at h
  cases h

/-- A fetch and a restore are under way when the source is suspended. -/
def suspendedUnderRestore : List Transition :=
  [.activateDirect linkedStack 1 (envelopeAt "link" 1), .fetchStarted "app" (envelopeAt "fetch" 2),
    .recoveryStarted "app" 1 "restore" none (envelopeAt "restore" 3),
    .sourceSuspended "app" "paused by an operator" (envelopeAt "suspend" 4)]

/-- The suspension interrupts the restore and writes back the hold from before
it, so the claim on the target is answered by nothing. -/
theorem suspension_forgets_hold : ¬ ∀ (calls : List Transition) (id : String) (app : Application),
      (runTransitions (fun _ => none) empty calls).getApplication id = some app →
      app.lifecycleStatus = .active →
      HoldAnswered (runTransitions (fun _ => none) empty calls) id app := by
  intro h
  have hrow : ((runTransitions (fun _ => none) empty suspendedUnderRestore).getApplication
      "app").any (fun app => app.lifecycleStatus = .active &&
        app.recovery.phase = some .restoring) = true := by
    decide
  obtain ⟨app, happ, hboth⟩ := (any_eq_true _ _).mp hrow
  rw [Bool.and_eq_true, decide_eq_true_eq, decide_eq_true_eq] at hboth
  have hheld : app.recovery.phase = some .failed ∧ app.failure.stage = some .recovery := by
    refine (h _ "app" app happ hboth.1).held ?_ (not_someLive_of_any (by decide))
    exact @someLive_of_any _ _ ⟨"app", 1⟩ (by decide)
  rw [hboth.2] at hheld
  cases hheld.1

/-- A restore that failed after it had touched the node is answered by the hold. -/
theorem halfRestored_held :
    ∃ app, (runTransitions (fun _ => none) empty halfRestored).getApplication "app" = some app ∧
      HoldAnswered (runTransitions (fun _ => none) empty halfRestored) "app" app := by
  have hrow : ((runTransitions (fun _ => none) empty halfRestored).getApplication
      "app").any (fun app => app.lifecycleStatus = .active) = true := by
    decide
  obtain ⟨app, happ, hactive⟩ := (any_eq_true _ _).mp hrow
  refine ⟨app, happ, recovery_hold_answered halfRestored ?_ "app" app happ
    (of_decide_eq_true hactive)⟩
  refine ⟨⟨fun _ _ _ hat _ _ => ?_, rfl⟩, ⟨fun _ _ _ _ _ _ => trivial, trivial⟩,
    ⟨fun key _ t hat _ ht => ?_, trivial⟩, trivial⟩
  · cases hat
  · cases hat
    have hst : ((runTransitions (fun _ => none) empty (halfRestored.take 2)).targets.find?
        ⟨"app", 1⟩).all (fun t => t.status ≠ .tombstoned) = true := by
      decide
    have hfind : (runTransitions (fun _ => none) empty (halfRestored.take 2)).targets.find?
        ⟨"app", 1⟩ = some t := ht
    rw [hfind] at hst
    exact .inl ⟨of_decide_eq_true hst, rfl⟩

end Sencho.GitOps

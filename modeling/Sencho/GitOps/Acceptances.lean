import Sencho.GitOps.RolloutRules

/-!
# Acceptances

The two calls that accept a candidate do the same to the application and to its
rollout: the authorization of the replaced source is withdrawn, the acceptance
and its seed artifact row are recorded, and the rollout candidate of the current
intent is moved onto the accepted generation.
-/

namespace Sencho.GitOps

open Verified Option Tx Table Application RolloutCandidate

variable {db : Db} {app : Application} {envelope : EventEnvelope}
variable {args : AppliedArgs} {generationId id : String}

/-- The candidate an acceptance moves: the current one, of the current intent. -/
def Application.rebinds (app : Application) (candidate : RolloutCandidate) : Bool :=
  app.rolloutCandidateId = some candidate.id && truthy app.rolloutCandidateId &&
    app.targetMode = .blueprint && candidate.applicationId = app.id &&
    some candidate.intentRevisionId = app.intentRevisionId

/-- A candidate after an acceptance. -/
def RolloutCandidate.rebound (candidate : RolloutCandidate) (app : Application)
    (generationId : String) : RolloutCandidate :=
  if app.rebinds candidate then
    { candidate with acceptedGenerationId := some generationId, artifactSetId := none }
  else candidate

/-- Two databases that differ in the rollout candidates only. -/
structure SameBesideCandidates (db db' : Db) : Prop where
  applications : db'.applications = db.applications
  targets : db'.targets = db.targets
  generations : db'.generations = db.generations
  artifactSets : db'.artifactSets = db.artifactSets
  intents : db'.intentRevisions = db.intentRevisions
  rollouts : db'.rolloutGenerations = db.rolloutGenerations
  approvals : db'.approvals = db.approvals
  history : db'.supersessions = db.supersessions

theorem SameBesideCandidates.refl : SameBesideCandidates db db :=
  ⟨rfl, rfl, rfl, rfl, rfl, rfl, rfl, rfl⟩

/-- A candidate that is the one rebound, in the words of the call. -/
theorem rebinds_iff {candidate : RolloutCandidate}
    (hptr : app.rolloutCandidateId.filter (fun s => truthy (some s)) = some id)
    (hid : candidate.id = id) :
    app.rebinds candidate = true ↔ app.targetMode = .blueprint ∧ candidate.applicationId = app.id ∧
        some candidate.intentRevisionId = app.intentRevisionId := by
  obtain ⟨hsome, htruthy⟩ := filter_eq_some_iff.mp hptr
  unfold rebinds
  rw [hsome, hid]
  simp [htruthy, and_assoc]

theorem rebound_of_none {candidate : RolloutCandidate}
    (hptr : app.rolloutCandidateId.filter (fun s => truthy (some s)) = none) :
    candidate.rebound app generationId = candidate := by
  refine if_neg ?_
  unfold rebinds
  cases hp : app.rolloutCandidateId with
  | none => simp
  | some id =>
    have hempty : truthy (some id) = false := by simpa [hp] using hptr
    simp [hempty]

/-- A candidate bound to a generation, and to an artifact set or none. -/
def RolloutCandidate.bindTo (c : RolloutCandidate) (generationId : String)
    (artifactSetId : Option String) : RolloutCandidate :=
  { c with acceptedGenerationId := some generationId, artifactSetId := artifactSetId }

theorem RolloutCandidate.bindTo_id (c : RolloutCandidate) (generationId : String)
    (artifactSetId : Option String) : (c.bindTo generationId artifactSetId).id = c.id := rfl

/-- The database with a candidate bound. -/
def Db.bindCandidate (db : Db) (id generationId : String) (artifactSetId : Option String) :
    Db := { db with
  rolloutCandidates := db.rolloutCandidates.update (fun c => c.id = id)
    (fun c => c.bindTo generationId artifactSetId)
    fun c => c.bindTo_id generationId artifactSetId }

theorem Db.getRolloutCandidate_bindCandidate (id generationId : String)
    (artifactSetId : Option String) (id' : String) :
    (db.bindCandidate id generationId artifactSetId).getRolloutCandidate id' =
      (db.getRolloutCandidate id').map fun c => if c.id = id then
        { c with acceptedGenerationId := some generationId, artifactSetId := artifactSetId }
      else c := by
  unfold bindCandidate Db.getRolloutCandidate
  rw [find?_update]
  simp only [decide_eq_true_eq, bindTo]

theorem ensures_updateCandidateBinding {artifactSetId : Option String} {Q : Unit → Db → Prop} :
    Tx.Ensures (updateCandidateBinding id generationId artifactSetId) db Q ↔
      Q () (db.bindCandidate id generationId artifactSetId) :=
  ensures_modify

/-- The candidates of two databases, one the image of the other. -/
def CandidatesMap (f : RolloutCandidate → RolloutCandidate) (db db' : Db) : Prop :=
  SameBesideCandidates db db' ∧ ∀ id, db'.getRolloutCandidate id = (db.getRolloutCandidate id).map f

theorem CandidatesMap.refl {f : RolloutCandidate → RolloutCandidate}
    (h : ∀ id c, db.getRolloutCandidate id = some c → f c = c) : CandidatesMap f db db := by
  refine ⟨.refl, fun id => ?_⟩
  cases hc : db.getRolloutCandidate id with
  | none => rfl
  | some c => rw [map_some, h id c hc]

theorem CandidatesMap.congr {f g : RolloutCandidate → RolloutCandidate} {db' : Db}
    (h : CandidatesMap f db db') (hfg : ∀ id c, db.getRolloutCandidate id = some c → f c = g c) :
    CandidatesMap g db db' := by
  refine ⟨h.1, fun id => (h.2 id).trans ?_⟩
  cases hc : db.getRolloutCandidate id with
  | none => rfl
  | some c => rw [map_some, map_some, hfg id c hc]

/-- A candidate moved onto a generation, its artifact set dropped. -/
def RolloutCandidate.movedOnto (candidate : RolloutCandidate) (id generationId : String) :
    RolloutCandidate :=
  if candidate.id = id then
    { candidate with acceptedGenerationId := some generationId, artifactSetId := none }
  else candidate

theorem ensures_movedOnto {candidateId : String} :
    Tx.Ensures (rebindRolloutCandidateSource id candidateId generationId) db fun _ db' =>
      CandidatesMap (fun c => c.movedOnto candidateId generationId) db db' := by
  unfold rebindRolloutCandidateSource
  simp only [ensures_bind, ensures_get, ensures_require, ensures_refuseIf,
    ensures_ite, ensures_pure, ensures_updateCandidateBinding]
  intro candidate hfound _
  refine ⟨fun hsame => CandidatesMap.refl fun id c hc => ?_, fun _ => ⟨?_, fun id => ?_⟩⟩
  · unfold movedOnto
    by_cases heq : c.id = candidateId
    · have hid : c.id = id := key_of_find? hc
      rw [← hid, heq, hfound] at hc
      cases hc
      rw [if_pos heq, ← hsame.1, ← hsame.2]
    · rw [if_neg heq]
  · exact ⟨rfl, rfl, rfl, rfl, rfl, rfl, rfl, rfl⟩
  · exact Db.getRolloutCandidate_bindCandidate _ _ _ _

/-- Every candidate after an acceptance is the one before it, rebound. -/
theorem ensures_rebound :
    Tx.Ensures (rebindRolloutCandidateOnAcceptance app generationId) db fun _ db' =>
      CandidatesMap (fun c => c.rebound app generationId) db db' := by
  unfold rebindRolloutCandidateOnAcceptance
  rw [ensures_bind, ensures_get]
  cases hptr : app.rolloutCandidateId.filter fun s => truthy (some s) with
  | none => exact ensures_pure.mpr (.refl fun _ c _ => rebound_of_none hptr)
  | some pointer =>
    have hother : ∀ c : RolloutCandidate, c.id ≠ pointer → c.rebound app generationId = c := by
      intro c hne
      obtain ⟨hsome, -⟩ := filter_eq_some_iff.mp hptr
      unfold rebound rebinds
      rw [hsome]
      simp [Ne.symm hne]
    have hnamed : ∀ {id : String} {c : RolloutCandidate},
        db.getRolloutCandidate id = some c → c.id = pointer →
        db.getRolloutCandidate pointer = some c := by
      intro id c hc hcid
      have hid : c.id = id := key_of_find? hc
      rw [← hcid, hid]
      exact hc
    rw [bind_some]
    cases hfound : db.getRolloutCandidate pointer with
    | none =>
      refine ensures_pure.mpr (.refl fun id c hc => hother c fun heq => ?_)
      exact some_ne_none c ((hnamed hc heq).symm.trans hfound)
    | some candidate =>
      have hcid : candidate.id = pointer := key_of_find? hfound
      simp only [ensures_ite, ensures_pure]
      refine ⟨fun hrebinds => ?_, fun hkept => .refl fun id c hc => ?_⟩
      · refine ensures_movedOnto.mono fun _ db' h => h.congr fun id c hc => ?_
        unfold movedOnto
        by_cases heq : c.id = candidate.id
        · have hsame : candidate = c :=
            some.inj (hfound.symm.trans (hnamed hc (heq.trans hcid)))
          subst hsame
          unfold rebound
          rw [if_pos rfl, if_pos ((rebinds_iff hptr hcid).mpr hrebinds)]
        · rw [if_neg heq, hother c fun h => heq (h.trans hcid.symm)]
      · by_cases heq : c.id = pointer
        · have hsame : candidate = c := some.inj (hfound.symm.trans (hnamed hc heq))
          subst hsame
          exact if_neg fun h => hkept ((rebinds_iff hptr hcid).mp h)
        · exact hother c heq

/-- The application row an acceptance writes back. -/
def Application.accepting (app : Application) (db : Db) (args : AppliedArgs) : Application :=
  keepIdentity app ((acceptedApplication (app.withoutAuthorization db) args).stamped args.envelope)

theorem withoutAuthorization_eq (app : Application) (db : Db) :
    app.withoutAuthorization db = { app with
      pause := (app.withoutAuthorization db).pause
      rolloutAuthorizationRef := (app.withoutAuthorization db).rolloutAuthorizationRef
      preflightFingerprint := (app.withoutAuthorization db).preflightFingerprint
      rolloutGenerationId := (app.withoutAuthorization db).rolloutGenerationId } := by
  unfold withoutAuthorization
  rw [app.withoutSystemPause_eq db]
  split <;> rfl

theorem acceptedApplication_eq (app : Application) (args : AppliedArgs) :
    acceptedApplication app args = { app with
      candidateGenerationId := none
      candidatePlanBlocked := false
      reviewRequired := false
      reviewBlockReason := none
      evidenceLimitations := (acceptedApplication app args).evidenceLimitations
      active := .none
      acceptedGenerationId := some args.generationId
      artifactSetId := some args.artifactSetId
      latestArtifactSetId := some args.artifactSetId
      sourceAcceptanceRef := some args.sourceAcceptanceId
      lifecycleStatus :=
        if args.activateCreating && app.lifecycleStatus = LifecycleStatus.creating then
          LifecycleStatus.active
        else app.lifecycleStatus
      failure := (acceptedApplication app args).failure
      interruption := (acceptedApplication app args).interruption } := by
  unfold acceptedApplication
  rw [clearInterruption_eq, clearFailure_eq]
  rfl

/-- What an accepted acceptance leaves in the database. -/
structure Accepts (db db' : Db) (args : AppliedArgs) (app : Application) : Prop where
  before : db.getApplication args.applicationId = some app
  candidate : app.candidateGenerationId = some args.generationId
  fresh : app.acceptedGenerationId ≠ some args.generationId
  after : db'.getApplication args.applicationId = some (app.accepting db args)
  others : ∀ id, id ≠ args.applicationId → db'.getApplication id = db.getApplication id
  rollouts : db'.rolloutGenerations = (db.withoutAuthorization app args.envelope).rolloutGenerations
  history : db'.supersessions = (db.withoutAuthorization app args.envelope).supersessions
  candidates : ∀ id, db'.getRolloutCandidate id =
    (db.getRolloutCandidate id).map fun c => c.rebound app args.generationId
  intents : db'.intentRevisions = db.intentRevisions

theorem rebound_congr {app' : Application} (hid : app'.id = app.id)
    (hmode : app'.targetMode = app.targetMode)
    (hcand : app'.rolloutCandidateId = app.rolloutCandidateId)
    (hintent : app'.intentRevisionId = app.intentRevisionId) (c : RolloutCandidate)
    (generationId : String) : c.rebound app' generationId = c.rebound app generationId := by
  unfold rebound rebinds
  rw [hid, hmode, hcand, hintent]

/-- The part of the database an acceptance shares between its two calls. -/
structure AcceptsPart (db db' : Db) (args : AppliedArgs) (app : Application) : Prop where
  applications : db'.applications = db.applications
  rollouts : db'.rolloutGenerations = (db.withoutAuthorization app args.envelope).rolloutGenerations
  history : db'.supersessions = (db.withoutAuthorization app args.envelope).supersessions
  candidates : ∀ id, db'.getRolloutCandidate id =
    (db.getRolloutCandidate id).map fun c => c.rebound app args.generationId
  intents : db'.intentRevisions = db.intentRevisions

theorem ensures_requireAcceptableCandidate :
    Tx.Ensures (requireAcceptableCandidate app args) db fun _ db' => db' = db ∧
      app.candidateGenerationId = some args.generationId ∧
      app.acceptedGenerationId ≠ some args.generationId := by
  unfold requireAcceptableCandidate requireOwnedGeneration
  simp only [ensures_bind, ensures_refuseIf, ensures_get, ensures_require]
  intro hcand _ _ hfr _ _ _ _
  exact ⟨trivial, by simpa using hcand, by simpa using hfr⟩

theorem ensures_insertAcceptanceRecords :
    Tx.Ensures (insertAcceptanceRecords app args) db fun _ db' =>
      db'.applications = db.applications ∧ db'.rolloutGenerations = db.rolloutGenerations ∧
      db'.supersessions = db.supersessions ∧ db'.rolloutCandidates = db.rolloutCandidates ∧
      db'.intentRevisions = db.intentRevisions := by
  unfold insertAcceptanceRecords insertArtifactSet insertApproval
  simp only [ensures_bind, ensures_refuseIf, ensures_get, ensures_insertRow]
  intro _ _ _ _ _ _ _ _ _ _
  exact ⟨trivial, trivial, trivial, trivial, trivial⟩

/-- The middle of both calls: withdraw, record, rebind. -/
theorem ensures_acceptance : Tx.Ensures (do
        let app ← invalidateAuthorizationOnSourceChange app args.envelope
        let app ← applySourceAcceptanceMutation app args
        rebindRolloutCandidateOnAcceptance app args.generationId
        pure app) db fun app' db' =>
      app' = acceptedApplication (app.withoutAuthorization db) args ∧
        AcceptsPart db db' args app := by
  simp only [ensures_bind, ensures_authorizationDropped, applySourceAcceptanceMutation,
    ensures_pure]
  refine ensures_insertAcceptanceRecords.mono fun _ db₁ hrecords => ?_
  obtain ⟨happs, hrollouts, hhistory, hcandidates, hintents⟩ := hrecords
  have hbeside := @Db.withoutAuthorization_beside db app args.envelope
  refine ensures_rebound.mono fun _ db₂ hmap => ⟨trivial, ?_⟩
  refine ⟨?_, ?_, ?_, fun id => ?_, ?_⟩
  · rw [hmap.1.applications, happs, hbeside.applications]
  · rw [hmap.1.rollouts, hrollouts]
  · rw [hmap.1.history, hhistory]
  · rw [hmap.2 id]
    unfold Db.getRolloutCandidate
    rw [hcandidates, hbeside.candidates]
    refine congrArg (fun f => Option.map f (db.rolloutCandidates.find? id)) (funext fun c => ?_)
    refine rebound_congr ?_ ?_ ?_ ?_ c args.generationId
    all_goals rw [acceptedApplication_eq, withoutAuthorization_eq]
  · rw [hmap.1.intents, hintents, hbeside.intents]

/-- Writing the accepted row back. -/
theorem Accepts.of_part {db₁ db' : Db} (happ : db.getApplication args.applicationId = some app)
    (hcand : app.candidateGenerationId = some args.generationId)
    (hfr : app.acceptedGenerationId ≠ some args.generationId)
    (hpart : AcceptsPart db db₁ args app) (hdb' : db' = db₁.writeApp
      ((acceptedApplication (app.withoutAuthorization db) args).stamped args.envelope)) :
    Accepts db db' args app := by
  subst hdb'
  have hid : app.id = args.applicationId := key_of_find? happ
  have hacc : ((acceptedApplication (app.withoutAuthorization db) args).stamped
      args.envelope).id = args.applicationId := by
    show (acceptedApplication (app.withoutAuthorization db) args).id = _
    rw [acceptedApplication_eq, withoutAuthorization_eq]
    exact hid
  have hst : ∀ id, db₁.getApplication id = db.getApplication id := by
    intro id
    unfold Db.getApplication
    rw [hpart.applications]
  refine ⟨happ, hcand, hfr, ?_, fun id hne => ?_, hpart.rollouts, hpart.history,
    hpart.candidates, hpart.intents⟩
  · exact Db.getApplication_writeApp_self hacc ((hst _).trans happ)
  · rw [Db.getApplication_writeApp_ne, hst id]
    rw [hacc]
    exact hne

theorem ensures_sourceAccepted_accepts :
    Tx.Ensures (sourceAccepted args) db fun _ db' => ∃ app, Accepts db db' args app := by
  refine ensures_mutateApp.mpr fun app happ => ?_
  rw [ensures_bind, ensures_refuseIf]
  intro _
  rw [ensures_bind]
  refine ensures_requireAcceptableCandidate.mono fun _ db₀ hguards => ?_
  obtain ⟨rfl, hcand, hfr⟩ := hguards
  rw [ensures_bind]
  have hconfirmed : Tx.Ensures (requireCurrentConfirmation app args.confirmation) db₀
      fun _ db' => db' = db₀ := by
    unfold requireCurrentConfirmation
    split <;> simp
  refine hconfirmed.mono fun _ db₀' heq => ?_
  subst heq
  refine ensures_acceptance.mono fun app' db₁ hpart => ?_
  obtain ⟨rfl, hpart⟩ := hpart
  exact ⟨app, .of_part happ hcand hfr hpart rfl⟩

theorem ensures_applied_accepts :
    Tx.Ensures (applied args) db fun _ db' => ∃ app, Accepts db db' args app := by
  refine ensures_mutateApp.mpr fun app happ => ?_
  unfold acceptanceTargets
  simp only [ensures_bind, ensures_get, ensures_refuseIf, ensures_pure]
  refine ensures_requireAcceptableCandidate.mono fun _ db₀ hguards => ?_
  obtain ⟨rfl, hcand, hfr⟩ := hguards
  intro _
  have hpart := @ensures_acceptance db₀ app args
  simp only [ensures_bind, ensures_pure] at hpart
  refine hpart.mono fun app₁ db₁ h₁ => h₁.mono fun app₂ db₂ h₂ => h₂.mono fun _ db₃ h₃ => ?_
  obtain ⟨rfl, hpart⟩ := h₃
  refine (ensures_forM (I := fun db' => AcceptsPart db₀ db' args app) _ ?_ hpart).mono ?_
  · intro t _ db' h
    exact ensures_upsert.mpr fun _ => ⟨h.applications, h.rollouts, h.history, h.candidates,
      h.intents⟩
  · intro _ db' h
    exact ⟨app, .of_part happ hcand hfr h rfl⟩

/-- Tearing a create down retires its application. -/
theorem createFailed_retires {failureClass : String} :
    Tx.Ensures (createFailed id failureClass envelope) db fun _ db' =>
      ∃ app app', db.getApplication id = some app ∧ app.lifecycleStatus = .creating ∧
        db'.getApplication id = some app' ∧ app'.lifecycleStatus = .deleted := by
  unfold createFailed
  rw [ensures_bind, ensures_requireApp]
  intro app happ
  have hid : app.id = id := key_of_find? happ
  simp only [ensures_bind, ensures_refuseIf, ensures_writeApplication, ensures_get]
  intro hcreating
  refine (ensures_forM (I := fun db' => ∃ app', db'.getApplication id = some app' ∧
    app'.lifecycleStatus = .deleted) _ ?_ ?_).mono fun _ db' h => ?_
  · intro t _ db' h
    exact ensures_upsert.mpr fun _ => h
  · exact ⟨_, Db.getApplication_writeApp_self hid happ, rfl⟩
  · obtain ⟨app', happ', hdeleted⟩ := h
    exact ⟨app, app', happ, by simpa using hcreating, happ', hdeleted⟩

/-- The calls that may change the lifecycle of an application that is there. -/
theorem lifecycle_writers {tr : Transition} (hactivates : tr.activates = false)
    (hwr : tr.writes (.app id .lifecycle)) :
    (∃ failureClass envelope, tr = .createFailed id failureClass envelope) ∨
    (∃ retirement envelope, tr = .applicationTombstoned id retirement envelope) ∨
    (∃ args, args.applicationId = id ∧ (tr = .applied args ∨ tr = .sourceAccepted args)) := by
  obtain ⟨howns, hmem⟩ := hwr
  cases tr <;> simp [Transition.appWrites, authorizationColumns, acceptanceColumns,
    Transition.activates] at hmem hactivates
  case createFailed => exact .inl ⟨_, _, by rw [show id = _ from howns]⟩
  case applicationTombstoned => exact .inr (.inl ⟨_, _, by rw [show id = _ from howns]⟩)
  case applied args => exact .inr (.inr ⟨args, Eq.symm howns, .inl rfl⟩)
  case sourceAccepted args => exact .inr (.inr ⟨args, Eq.symm howns, .inr rfl⟩)

/-- An application that was retired stays as it was retired. -/
theorem step_retired {repoKey : String → Option String} {tr : Transition}
    (happ : db.getApplication id = some app) (hretired : app.lifecycleStatus.live = false) :
    ∃ app', (step repoKey db tr).getApplication id = some app' ∧
      app'.lifecycleStatus = app.lifecycleStatus := by
  obtain ⟨app', happ', hkept⟩ := @step_app repoKey _ tr _ _ happ
  refine ⟨app', happ', ?_⟩
  by_cases hwr : tr.activates = true ∨ ¬ tr.writes (.app id .lifecycle)
  · exact hkept .lifecycle hwr
  · obtain ⟨hactivates, hwr⟩ := not_or.mp hwr
    have hsame : ∀ {p : Store Unit}, tr.perform repoKey = p →
        (Tx.Ensures p db fun _ db' => ∃ app', db'.getApplication id = some app' ∧
          app'.lifecycleStatus = app.lifecycleStatus) →
        app'.lifecycleStatus = app.lifecycleStatus := by
      intro p hp hensures
      have hcommit := commit_of_ensures (P := fun db' : Db => ∃ app', db'.getApplication id =
        some app' ∧ app'.lifecycleStatus = app.lifecycleStatus) hensures ⟨app, happ, rfl⟩
      rw [← hp] at hcommit
      obtain ⟨now, hnow, hlife⟩ := hcommit
      rw [some.inj (happ'.symm.trans hnow)]
      exact hlife
    have haccepts : ∀ {args : AppliedArgs} {db' : Db} {app₀ : Application},
        args.applicationId = id → Accepts db db' args app₀ →
        ∃ app', db'.getApplication id = some app' ∧ app'.lifecycleStatus = app.lifecycleStatus := by
      intro args db' app₀ hid haccepts
      subst hid
      have hrow : app₀ = app := some.inj (haccepts.before.symm.trans happ)
      subst hrow
      refine ⟨_, haccepts.after, ?_⟩
      show (acceptedApplication (app₀.withoutAuthorization db) args).lifecycleStatus = _
      rw [acceptedApplication_eq, withoutAuthorization_eq]
      refine if_neg ?_
      intro hcreating
      simp only [Bool.and_eq_true, decide_eq_true_eq] at hcreating
      rw [hcreating.2] at hretired
      cases hretired
    rcases lifecycle_writers (Bool.eq_false_iff.mpr hactivates) (not_not.mp hwr) with
      ⟨_, _, rfl⟩ | ⟨_, _, rfl⟩ | ⟨args, hid, rfl | rfl⟩
    · refine hsame rfl (createFailed_retires.mono fun _ db' h => ?_)
      obtain ⟨app₀, -, happ₀, hcreating, -⟩ := h
      rw [some.inj (happ₀.symm.trans happ)] at hcreating
      rw [hcreating] at hretired
      cases hretired
    · refine hsame rfl (ensures_mutateApp.mpr fun app₀ happ₀ => ?_)
      rw [some.inj (happ₀.symm.trans happ), ensures_bind, ensures_refuseIf]
      intro hlive
      cases hlife : app.lifecycleStatus <;> simp [hlife, LifecycleStatus.live] at hlive hretired
    · exact hsame rfl (ensures_applied_accepts.mono fun _ _ ⟨_, h⟩ => haccepts hid h)
    · exact hsame rfl (ensures_sourceAccepted_accepts.mono fun _ _ ⟨_, h⟩ => haccepts hid h)

end Sencho.GitOps

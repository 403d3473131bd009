import Sencho.GitOps.Acceptances

/-!
# What each call does to a rollout

The calls that open, withdraw or drop a rollout generation, or bind a rollout
candidate, each told as one move of the application's pointer and of the two
rollout tables.  A call that writes neither the pointer nor the tables leaves
all three alone.
-/

namespace Sencho.GitOps

open Verified Tx Transition Table Db

variable {repoKey : String → Option String} {db db' : Db} {tr : Transition}
  {app : Application} {envelope : EventEnvelope}
variable {args : RolloutAuthorizedArgs} {id : String} {Q : Unit → Db → Prop}

/-- The rollout generation a call opens. -/
def Transition.opensGeneration : Transition → Option String
  | .placementApproved args => some args.rolloutGenerationId
  | .rolloutAuthorized args => some args.rolloutGenerationId
  | _ => none

/-- What a call does to the pointer of an application and to the rollout tables. -/
inductive RolloutMove (db db' : Db) (tr : Transition) (app : Application)
    (pointer : Option String) : Prop where
  | kept (hgens : db'.rolloutGenerations = db.rolloutGenerations)
      (hhistory : db'.supersessions = db.supersessions)
      (hptr : pointer = app.rolloutGenerationId)
  | dropped (envelope : EventEnvelope) (hgens :
        db'.rolloutGenerations = (db.supersedeNamed app envelope).rolloutGenerations)
      (hhistory : db'.supersessions = (db.supersedeNamed app envelope).supersessions)
      (hptr : pointer = dropPointer app.rolloutGenerationId)
  | withdrawn (envelope : EventEnvelope) (hgens :
        db'.rolloutGenerations = (db.supersedeAuthorized app envelope).rolloutGenerations)
      (hhistory : db'.supersessions = (db.supersedeAuthorized app envelope).supersessions)
      (hptr : pointer =
        if (db.namedGeneration app).any fun g => g.provenance = .rolloutAuthorization then none
        else app.rolloutGenerationId)
  | drifted (envelope : EventEnvelope)
      (htr : tr = .invalidateAuthorizationOnPreflightDrift app.id envelope)
      (hauthorized : app.targetMode = .blueprint ∧
        (truthy app.rolloutAuthorizationRef || truthy app.preflightFingerprint) = true)
      (hgens :
        db'.rolloutGenerations = (db.supersedeAuthorized app envelope).rolloutGenerations)
      (hhistory : db'.supersessions = (db.supersedeAuthorized app envelope).supersessions)
      (hptr : pointer = dropPointer app.rolloutGenerationId)
  | opened (envelope : EventEnvelope) (g : RolloutGeneration)
      (hgens : (db.supersedeNamed app envelope).rolloutGenerations.insert? g =
        some db'.rolloutGenerations)
      (hhistory : db'.supersessions = (db.supersedeNamed app envelope).supersessions)
      (hptr : pointer = some g.id) (hopens : tr.opensGeneration = some g.id)
      (howner : g.applicationId = app.id)
      (hlink : g.supersedesGenerationId = app.rolloutGenerationId)
      (hlive : g.supersededAt = none)
  | marked (envelope : EventEnvelope) (target : RolloutGeneration)
      (htr : tr = .rolloutSuperseded app.id envelope)
      (hactive : app.lifecycleStatus = .active)
      (htarget : rolloutToSupersede db app = some target)
      (hgens : ∀ id, db'.getRolloutGeneration id =
        (db.getRolloutGeneration id).map fun g => if g.id = target.id then
          { g with
            supersededAt := g.supersededAt.or (some envelope.at_)
            withdrawnAt := g.withdrawnAt.or (some envelope.at_) }
        else g)
      (hhistory : db'.supersessions = (db.supersessions.insert?
        ⟨app.id, envelope.operationId, target.id⟩).getD db.supersessions)
      (hptr : pointer = app.rolloutGenerationId)

theorem RolloutMove.of_tables {db'' : Db} {pointer : Option String}
    (h : RolloutMove db db' tr app pointer) (hg : db''.rolloutGenerations = db'.rolloutGenerations)
    (hs : db''.supersessions = db'.supersessions) : RolloutMove db db'' tr app pointer := by
  cases h with
  | kept hgens hhistory hptr =>
    exact .kept (hg.trans hgens) (hs.trans hhistory) hptr
  | dropped envelope hgens hhistory hptr =>
    exact .dropped envelope (hg.trans hgens) (hs.trans hhistory) hptr
  | withdrawn envelope hgens hhistory hptr =>
    exact .withdrawn envelope (hg.trans hgens) (hs.trans hhistory) hptr
  | drifted envelope htr hauthorized hgens hhistory hptr =>
    exact .drifted envelope htr hauthorized (hg.trans hgens) (hs.trans hhistory) hptr
  | opened envelope g hgens hhistory hptr hopens howner hlink hlive =>
    exact .opened envelope g (hgens.trans (congrArg some hg.symm))
      (hs.trans hhistory) hptr hopens howner hlink hlive
  | marked envelope target htr hactive htarget hgens hhistory hptr =>
    refine .marked envelope target htr hactive htarget (fun id => ?_) (hs.trans hhistory) hptr
    rw [← hgens id]
    unfold getRolloutGeneration
    rw [hg]

/-- A call that moved the rollouts of one application. -/
def Rolled (db db' : Db) (tr : Transition) (id : String) : Prop :=
  ∃ app app', db.getApplication id = some app ∧ db'.getApplication id = some app' ∧
    RolloutMove db db' tr app app'.rolloutGenerationId

/-- Two databases that differ in the targets only. -/
structure SameBesideTargets (db db' : Db) : Prop where
  applications : db'.applications = db.applications
  rollouts : db'.rolloutGenerations = db.rolloutGenerations
  history : db'.supersessions = db.supersessions
  candidates : db'.rolloutCandidates = db.rolloutCandidates
  artifactSets : db'.artifactSets = db.artifactSets

theorem ensures_forM_upsertBeside (xs : List Target) (f : Target → Target) :
    Tx.Ensures (xs.forM fun t => upsertTarget (f t)) db fun _ db' =>
      SameBesideTargets db db' := by
  refine ensures_forM xs (fun t _ db₁ h => ?_) ⟨rfl, rfl, rfl, rfl, rfl⟩
  exact ensures_upsert.mpr fun _ => ⟨h.applications, h.rollouts, h.history, h.candidates,
    h.artifactSets⟩

/-- The move of an invalidated authorization. -/
theorem rolloutMove_withoutAuthorization {pointer : Option String} (hgens :
      db'.rolloutGenerations = (db.withoutAuthorization app envelope).rolloutGenerations)
    (hhistory : db'.supersessions = (db.withoutAuthorization app envelope).supersessions)
    (hptr : pointer = (app.withoutAuthorization db).rolloutGenerationId) :
    RolloutMove db db' tr app pointer := by
  unfold withoutAuthorization at hgens hhistory
  unfold Application.withoutAuthorization at hptr
  by_cases hblue : app.targetMode = .blueprint
  · rw [if_pos hblue] at hgens hhistory hptr
    exact .withdrawn envelope hgens hhistory hptr
  · rw [if_neg hblue] at hgens hhistory hptr
    refine .kept hgens hhistory (hptr.trans ?_)
    rw [app.withoutSystemPause_eq db]

theorem Accepts.rolled {args : AppliedArgs} (h : Accepts db db' args app) :
    Rolled db db' tr args.applicationId := by
  refine ⟨app, _, h.before, h.after, rolloutMove_withoutAuthorization h.rollouts h.history ?_⟩
  show (acceptedApplication (app.withoutAuthorization db) args).rolloutGenerationId = _
  rw [acceptedApplication_eq]

/-- What recorded evidence does to the expected artifact set of its application. -/
structure EvidenceRecorded (db db' : Db) (id generationId artifactSetId : String)
    (qualification : ArtifactQualification) (app app' : Application) : Prop where
  before : db.getApplication id = some app
  after : db'.getApplication id = some app'
  artifactSet : app'.artifactSetId = app.artifactSetId ∨
    app.acceptedGenerationId = some generationId ∧
      allowedExpectedAdvance db app.artifactSetId qualification = true ∧
      app'.artifactSetId = some artifactSetId
  kept : app'.acceptedGenerationId = app.acceptedGenerationId ∧
    app'.sourceAcceptanceRef = app.sourceAcceptanceRef
  set : ∃ a, db'.getArtifactSet artifactSetId = some a ∧ a.generationId = generationId

/-- The new row opens no advance of its own. -/
theorem allowedExpectedAdvance_of_insert {artifact : ArtifactSet}
    {table : Table ArtifactSet String ArtifactSet.id} {expected : Option String}
    (hinsert : db.artifactSets.insert? artifact = some table)
    (h : allowedExpectedAdvance { db with artifactSets := table } expected
      artifact.qualification = true) :
    allowedExpectedAdvance db expected artifact.qualification = true := by
  obtain ⟨hfree, hfind⟩ := insert?_eq_some hinsert
  unfold allowedExpectedAdvance at h ⊢
  cases hexp : expected.filter fun s => truthy (some s) with
  | none =>
    rw [hexp] at h
    exact h
  | some a =>
    rw [hexp] at h
    simp only [Option.bind_some, getArtifactSet, hfind] at h ⊢
    by_cases ha : a = artifact.id
    · rw [ha, hfree]
      rw [Bool.and_eq_true] at h
      simp [h.1]
    · rw [if_neg ha] at h
      exact h

theorem ensures_evidenceRecorded {generationId artifactSetId : String} {evidenceVersion : Nat}
    {qualification : ArtifactQualification} {evidence : ArtifactEvidence} {authoritative : Bool} :
    Tx.Ensures (recordArtifactEvidence id generationId artifactSetId evidenceVersion
      qualification evidence authoritative envelope) db fun _ db' =>
        ∃ app app', EvidenceRecorded db db' id generationId artifactSetId qualification app
          app' := by
  refine ensures_mutateApp.mpr fun app happ => ?_
  have hid : app.id = id := key_of_find? happ
  unfold requireOwnedGeneration insertArtifactSet
  simp only [ensures_bind, ensures_refuseIf, ensures_get, ensures_require, ensures_insertRow]
  intro _ generation hgeneration _ _ _ _ _ table htable
  refine (ensures_forM_upsertBeside _ _).mono fun _ db₁ hbeside => ?_
  rw [ensures_pure]
  have hst : db₁.getApplication id = some app := by
    unfold getApplication
    rw [hbeside.applications]
    exact happ
  have hset : ∃ a, db₁.getArtifactSet artifactSetId = some a ∧ a.generationId = generationId := by
    have hgid : generation.id = generationId :=
      key_of_find? (Option.filter_eq_some_iff.mp hgeneration).1
    refine ⟨⟨artifactSetId, generation.id, evidenceVersion, false, qualification, evidence,
      envelope.at_⟩, ?_, hgid⟩
    unfold getArtifactSet
    rw [hbeside.artifactSets, (insert?_eq_some htable).2, if_pos rfl]
  split
  · rename_i hacc
    refine ⟨app, _, happ, getApplication_writeApp_self hid hst, ?_, ⟨rfl, rfl⟩, hset⟩
    by_cases hallowed : allowedExpectedAdvance { db with artifactSets := table }
        app.artifactSetId qualification = true
    · exact .inr ⟨hacc, allowedExpectedAdvance_of_insert htable hallowed, if_pos hallowed⟩
    · exact .inl (if_neg hallowed)
  · exact ⟨app, _, happ, getApplication_writeApp_self hid hst, .inl rfl, ⟨rfl, rfl⟩, hset⟩

/-- What an accepted artifact expectation leaves. -/
structure ExpectationAccepted (db db' : Db) (id generationId artifactSetId : String)
    (app app' : Application) : Prop where
  before : db.getApplication id = some app
  after : db'.getApplication id = some app'
  owned : (db.getArtifactSet artifactSetId).any (fun a => a.generationId = generationId &&
    (a.qualification = .exact || a.qualification = .qualified)) = true
  accepted : app.acceptedGenerationId = some generationId
  artifactSet : app'.artifactSetId = some artifactSetId
  kept : app'.acceptedGenerationId = app.acceptedGenerationId ∧
    app'.sourceAcceptanceRef = app.sourceAcceptanceRef
  sets : db'.artifactSets = db.artifactSets
  move : ∀ tr, RolloutMove db db' tr app app'.rolloutGenerationId

theorem ensures_expectationAccepted {generationId artifactSetId : String} :
    Tx.Ensures (acceptArtifactExpectation id generationId artifactSetId envelope) db
      fun _ db' => ∃ app app',
        ExpectationAccepted db db' id generationId artifactSetId app app' := by
  refine ensures_mutateApp.mpr fun app happ => ?_
  have hid : app.id = id := key_of_find? happ
  simp only [ensures_bind, ensures_get, ensures_require, ensures_refuseIf]
  intro artifact hartifact hqualified hacc
  obtain ⟨hfound, howned⟩ := Option.filter_eq_some_iff.mp hartifact
  have hacceptable : (db.getArtifactSet artifactSetId).any (fun a =>
      a.generationId = generationId &&
        (a.qualification = .exact || a.qualification = .qualified)) = true := by
    rw [hfound, Option.any_some, howned, Bool.true_and]
    cases hq : artifact.qualification <;> simp [hq] at hqualified ⊢
  have hdone : ∀ (app₁ : Application) (db₁ : Db), app₁.id = id →
      db₁.applications = db.applications → db₁.artifactSets = db.artifactSets →
      app₁.acceptedGenerationId = app.acceptedGenerationId →
      app₁.sourceAcceptanceRef = app.sourceAcceptanceRef →
      (∀ tr, RolloutMove db db₁ tr app app₁.rolloutGenerationId) →
      Tx.Ensures (do
          let db ← get
          let targets := (liveDirectTargets db app₁).filter fun t =>
            t.desiredGenerationId = some generationId
          targets.forM fun t =>
            upsertTarget { t with expectedArtifactSetId := some artifactSetId }
          pure { app₁ with artifactSetId := some artifactSetId }) db₁ fun row db₂ =>
        ∃ app app', ExpectationAccepted db (db₂.writeApp (row.stamped envelope)) id
          generationId artifactSetId app app' := by
    intro app₁ db₁ hid₁ happs₁ hsets₁ hacc₁ hsource₁ hmove
    simp only [ensures_bind, ensures_get, ensures_pure]
    refine (ensures_forM_upsertBeside _ _).mono fun _ db₂ hbeside => ?_
    have hst : db₂.getApplication id = some app := by
      unfold getApplication
      rw [hbeside.applications, happs₁]
      exact happ
    exact ⟨app, _, happ, getApplication_writeApp_self hid₁ hst, hacceptable,
      by simpa using hacc, rfl, ⟨hacc₁, hsource₁⟩, hbeside.artifactSets.trans hsets₁,
      fun tr => (hmove tr).of_tables hbeside.rollouts hbeside.history⟩
  unfold invalidateOnExpectationChange
  simp only [ensures_bind, ensures_pure, ensures_get] at hdone ⊢
  rw [ensures_ite, ensures_authorizationDropped, ensures_pure]
  have hbeside := @withoutAuthorization_beside db app envelope
  refine ⟨fun _ => hdone _ _ ?_ hbeside.applications hbeside.artifactSets ?_ ?_
    (fun _ => rolloutMove_withoutAuthorization rfl rfl rfl), fun _ => hdone _ _ hid rfl rfl rfl rfl
      (fun _ => .kept rfl rfl rfl)⟩
  all_goals rw [withoutAuthorization_eq]
  exact hid

/-- What an opened rollout candidate leaves. -/
structure CandidateOpened (db db' : Db) (id : String) (candidate : RolloutCandidate)
    (app app' : Application) : Prop where
  before : db.getApplication id = some app
  after : db'.getApplication id = some app'
  owner : candidate.applicationId = id
  intent : some candidate.intentRevisionId = app.intentRevisionId
  candidates : db.rolloutCandidates.insert? candidate = some db'.rolloutCandidates
  pointer : app'.rolloutCandidateId = some candidate.id
  move : ∀ tr, RolloutMove db db' tr app app'.rolloutGenerationId

/-- The move of a dropped placement. -/
theorem rolloutMove_withoutPlacement {db₁ : Db} {app₁ : Application}
    (hgens : db₁.rolloutGenerations = db.rolloutGenerations)
    (hhistory : db₁.supersessions = db.supersessions) (hid : app₁.id = app.id)
    (hptr : app₁.rolloutGenerationId = app.rolloutGenerationId) :
    RolloutMove db (db₁.supersedeNamed app₁ envelope) tr app
      (dropPointer app₁.rolloutGenerationId) := by
  obtain ⟨hg, hs⟩ := @supersedeNamed_congr _ _ envelope _ _ hgens hhistory hid hptr
  exact .dropped envelope hg hs (by rw [hptr])

theorem ensures_candidateOpened {candidate : RolloutCandidate} :
    Tx.Ensures (rolloutCandidateOpened id candidate envelope) db fun _ db' =>
      ∃ app app', CandidateOpened db db' id candidate app app' := by
  refine ensures_mutateApp.mpr fun app happ => ?_
  have hid : app.id = id := key_of_find? happ
  simp only [ensures_bind, ensures_refuseIf, insertRolloutCandidate, ensures_insertRow]
  intro _ howner hintent _ table htable
  rw [ensures_placementDropped]
  have hst : (({ db with rolloutCandidates := table } : Db).supersedeNamed
      { app with rolloutCandidateId := some candidate.id } envelope).getApplication id =
      some app := by
    unfold getApplication
    rw [supersedeNamed_beside.applications]
    exact happ
  refine ⟨app, _, happ, getApplication_writeApp_self hid hst, by simpa using howner,
    by simpa using hintent, ?_, rfl, ?_⟩
  · show _ = some (({ db with rolloutCandidates := table } : Db).supersedeNamed _
      envelope).rolloutCandidates
    rw [supersedeNamed_beside.candidates]
    exact htable
  · intro tr
    refine RolloutMove.of_tables (@rolloutMove_withoutPlacement db _ _ envelope
        { db with rolloutCandidates := table }
        { app with rolloutCandidateId := some candidate.id } rfl rfl rfl rfl) rfl rfl

theorem rolled_placementInvalidated : Tx.Ensures (placementInvalidated id envelope) db fun _ db' =>
      Rolled db db' (.placementInvalidated id envelope) id := by
  refine ensures_mutateApp.mpr fun app happ => ?_
  have hid : app.id = id := key_of_find? happ
  rw [ensures_bind, ensures_refuseIf]
  intro _
  rw [ensures_placementDropped]
  have hst : (db.supersedeNamed app envelope).getApplication id = some app := by
    unfold getApplication
    rw [supersedeNamed_beside.applications]
    exact happ
  refine ⟨app, _, happ, getApplication_writeApp_self hid hst, ?_⟩
  exact RolloutMove.of_tables
    (@rolloutMove_withoutPlacement db _ _ envelope _ _ rfl rfl rfl rfl) rfl rfl

theorem rolled_intentRevised {intent : IntentRevision} :
    Tx.Ensures (intentRevised id intent envelope) db fun _ db' =>
      Rolled db db' (.intentRevised id intent envelope) id := by
  refine ensures_intentRevised.mono fun _ db' h => ?_
  obtain ⟨app, app', h⟩ := h
  exact ⟨app, app', h.before, h.after, .dropped envelope h.generations h.history h.pointer⟩

theorem ensures_insertApproval {row : Approval} (h : ∀ table, Q () { db with approvals := table }) :
    Tx.Ensures (insertApproval row) db Q := by
  unfold insertApproval
  simp only [ensures_bind, ensures_refuseIf, ensures_insertRow]
  intro _ _ _ table _
  exact h table

theorem ensures_insertRolloutGeneration {row : RolloutGeneration}
    (h : ∀ table, db.rolloutGenerations.insert? row = some table →
      Q () { db with rolloutGenerations := table }) :
    Tx.Ensures (insertRolloutGeneration row) db Q := by
  unfold insertRolloutGeneration
  simp only [ensures_bind, ensures_refuseIf, ensures_insertRow]
  exact fun _ _ => h

theorem ensures_requirePlacementApprovable {args : PlacementApprovedArgs} :
    Tx.Ensures (requirePlacementApprovable app args) db fun _ db' => db' = db := by
  unfold requirePlacementApprovable requireDecisionProvenance
  simp only [ensures_bind, ensures_refuseIf, ensures_get, ensures_require]
  intros
  trivial

/-- The move of a generation opened over the one the pointer names. -/
theorem rolloutMove_opened {db₁ : Db} {g : RolloutGeneration}
    {table : Table RolloutGeneration String RolloutGeneration.id}
    (hg : db₁.rolloutGenerations = db.rolloutGenerations)
    (hs : db₁.supersessions = db.supersessions)
    (hinsert : (db₁.supersedeNamed app envelope).rolloutGenerations.insert? g = some table)
    (howner : g.applicationId = app.id) (hlink : g.supersedesGenerationId = app.rolloutGenerationId)
    (hlive : g.supersededAt = none) (hopens : tr.opensGeneration = some g.id) :
    RolloutMove db { db₁.supersedeNamed app envelope with rolloutGenerations := table }
      tr app (some g.id) := by
  obtain ⟨hgens, hhistory⟩ := @supersedeNamed_congr _ _ envelope _ _ hg hs
      (Eq.refl app.id) (Eq.refl app.rolloutGenerationId)
  rw [hgens] at hinsert
  exact .opened envelope g hinsert hhistory rfl hopens howner hlink hlive

theorem rolled_placementApproved {args : PlacementApprovedArgs} :
    Tx.Ensures (placementApproved args) db fun _ db' =>
      Rolled db db' (.placementApproved args) args.applicationId := by
  refine ensures_mutateApp.mpr fun app happ => ?_
  have hid : app.id = args.applicationId := key_of_find? happ
  rw [ensures_bind]
  refine ensures_requirePlacementApprovable.mono fun _ db₀ heq => ?_
  subst heq
  rw [ensures_bind]
  refine ensures_insertApproval fun approvals => ?_
  rw [ensures_bind, ensures_supersedeNamed, ensures_bind]
  refine ensures_insertRolloutGeneration fun table htable => ?_
  rw [ensures_pure]
  have hst : (({ db₀ with approvals := approvals } : Db).supersedeNamed app
      args.envelope).getApplication args.applicationId = some app := by
    unfold getApplication
    rw [supersedeNamed_beside.applications]
    exact happ
  refine ⟨app, _, happ, getApplication_writeApp_self hid hst, ?_⟩
  exact (@rolloutMove_opened db₀ _ _ _ { db₀ with approvals := approvals } _ _ rfl rfl
      htable hid.symm rfl rfl rfl).of_tables rfl rfl

/-- What an authorized rollout leaves. -/
structure Authorized (db db' : Db) (args : RolloutAuthorizedArgs)
    (app app' : Application) (bound : AuthorizationIngredients) : Prop where
  before : db.getApplication args.applicationId = some app
  after : db'.getApplication args.applicationId = some app'
  blueprint : app.targetMode = .blueprint
  ingredients : db.authorizationIngredients app = some bound
  candidates : db'.rolloutCandidates = (db.bindCandidate bound.rolloutCandidateId
    bound.acceptedGenerationId (some bound.artifactSetId)).rolloutCandidates
  move : RolloutMove db db' (.rolloutAuthorized args) app app'.rolloutGenerationId

theorem ensures_requireRolloutAuthorizable :
    Tx.Ensures (requireRolloutAuthorizable app args) db fun _ db' =>
      db' = db ∧ app.targetMode = .blueprint := by
  unfold requireRolloutAuthorizable requireDecisionProvenance
  simp only [ensures_bind, ensures_refuseIf, ensures_get]
  intro _ hblue _ _ _ _ _ _ _
  exact ⟨trivial, by simpa using hblue⟩

theorem ensures_bindCandidate {candidateId generationId artifactSetId : String}
    (h : Q () (db.bindCandidate candidateId generationId (some artifactSetId))) :
    Tx.Ensures (bindRolloutCandidateSource candidateId generationId artifactSetId) db Q := by
  unfold bindRolloutCandidateSource
  simp only [ensures_bind, ensures_get, ensures_require, ensures_refuseIf,
    ensures_updateCandidateBinding]
  intro _ _ _ _
  exact h

/-- Two databases that differ in the approvals only. -/
structure SameBesideApprovals (db db' : Db) : Prop where
  applications : db'.applications = db.applications
  rollouts : db'.rolloutGenerations = db.rolloutGenerations
  history : db'.supersessions = db.supersessions
  candidates : db'.rolloutCandidates = db.rolloutCandidates

theorem ensures_answerConfirmation {ref : String} :
    Tx.Ensures (answerConfirmation args ref) db fun _ db' => SameBesideApprovals db db' := by
  unfold answerConfirmation
  split
  · unfold recordConfirmedPlacement writeSourceConfirmation
    rw [ensures_modify]
    split <;> exact ⟨rfl, rfl, rfl, rfl⟩
  · exact ensures_pure.mpr ⟨rfl, rfl, rfl, rfl⟩

theorem ensures_authorized : Tx.Ensures (rolloutAuthorized args) db fun _ db' =>
      ∃ app app' ingredients, Authorized db db' args app app' ingredients := by
  refine ensures_mutateApp.mpr fun app happ => ?_
  have hid : app.id = args.applicationId := key_of_find? happ
  rw [ensures_bind]
  refine ensures_requireRolloutAuthorizable.mono fun _ db₀ hguards => ?_
  obtain ⟨rfl, hblue⟩ := hguards
  simp only [ensures_bind, ensures_get, ensures_require, ensures_refuseIf]
  intro ingredients hingredients _
  refine ensures_bindCandidate (ensures_answerConfirmation.mono fun _ db₁ hconfirmed => ?_)
  refine ensures_insertApproval fun approvals => ?_
  rw [ensures_supersedeNamed]
  refine ensures_insertRolloutGeneration fun table htable => ?_
  rw [ensures_pure]
  have hbeside := @Db.supersedeNamed_beside { db₁ with approvals := approvals } app args.envelope
  have hst : (({ db₁ with approvals := approvals } : Db).supersedeNamed app
      args.envelope).getApplication args.applicationId = some app := by
    unfold getApplication
    rw [hbeside.applications]
    exact (congrArg (fun t => t.find? args.applicationId) hconfirmed.applications).trans happ
  refine ⟨app, _, ingredients, happ, getApplication_writeApp_self ?_ hst, hblue,
    hingredients, ?_, ?_⟩
  · exact hid
  · exact hbeside.candidates.trans hconfirmed.candidates
  · exact (@rolloutMove_opened db₀ _ _ _ { db₁ with approvals := approvals } _ _
      hconfirmed.rollouts hconfirmed.history htable hid.symm rfl rfl rfl).of_tables rfl rfl

theorem rolled_rolloutSuperseded : Tx.Ensures (rolloutSuperseded id envelope) db fun _ db' =>
      Rolled db db' (.rolloutSuperseded id envelope) id := by
  refine ensures_mutateApp.mpr fun app happ => ?_
  have hid : app.id = id := key_of_find? happ
  unfold markRolloutGenerationSuperseded markRolloutGenerationWithdrawn updateRolloutGeneration
    insertSupersededHistory
  simp only [ensures_bind, ensures_get, ensures_refuseIf, ensures_require,
    ensures_modify, ensures_pure]
  intro hactive target htarget
  refine ⟨app, _, happ, getApplication_writeApp_self hid happ,
    .marked envelope target (by rw [hid]) (by simpa using hactive) htarget (fun gid => ?_) rfl rfl⟩
  show ((db.rolloutGenerations.update (fun g => g.id = target.id)
      (fun g => { g with supersededAt := g.supersededAt.or (some envelope.at_) })
      fun _ => rfl).update (fun g => g.id = target.id)
      (fun g => { g with withdrawnAt := g.withdrawnAt.or (some envelope.at_) })
      fun _ => rfl).find? gid = _
  rw [find?_update, find?_update, Option.map_map]
  refine congrArg (fun f => Option.map f (db.rolloutGenerations.find? gid)) (funext fun g => ?_)
  by_cases hg : g.id = target.id
  · simp [hg]
  · simp [hg]

theorem rolled_preflightDrift :
    Tx.Ensures (invalidateAuthorizationOnPreflightDrift id envelope) db fun _ db' =>
      Rolled db db' (.invalidateAuthorizationOnPreflightDrift id envelope) id := by
  unfold invalidateAuthorizationOnPreflightDrift
  rw [ensures_bind, ensures_requireApp]
  intro app happ
  have hid : app.id = id := key_of_find? happ
  simp only [ensures_bind, ensures_refuseIf, ensures_ite, ensures_pure,
    ensures_supersedeAuthorized, ensures_writeApplication]
  refine fun hblue => ⟨fun _ => ⟨app, app, happ, happ, .kept rfl rfl rfl⟩, fun hheld => ?_⟩
  have hst : (db.supersedeAuthorized app envelope).getApplication id = some app := by
    unfold getApplication
    rw [supersedeAuthorized_beside.applications]
    exact happ
  have hheldBy : (truthy app.rolloutAuthorizationRef || truthy app.preflightFingerprint) =
      true := by
    cases hauth : truthy app.rolloutAuthorizationRef with
    | true => rfl
    | false =>
      cases hprint : truthy app.preflightFingerprint with
      | true => rfl
      | false => exact absurd ⟨by simp [hauth], by simp [hprint]⟩ hheld
  exact ⟨app, _, happ, getApplication_writeApp_self hid hst,
    .drifted envelope (by rw [hid]) ⟨by simpa using hblue, hheldBy⟩ rfl rfl rfl⟩

/-- The application whose rollouts a call may move. -/
def Transition.rollsAt : Transition → Option String
  | .applied args | .sourceAccepted args | .placementApproved args | .rolloutAuthorized args =>
    some args.applicationId
  | .acceptArtifactExpectation id _ _ _ | .intentRevised id _ _ | .rolloutCandidateOpened id _ _
  | .placementInvalidated id _ | .rolloutSuperseded id _
  | .invalidateAuthorizationOnPreflightDrift id _ => some id
  | _ => none

theorem perform_rolls (hat : tr.rollsAt = some id) :
    Tx.Ensures (tr.perform repoKey) db fun _ db' => Rolled db db' tr id := by
  cases tr <;> try cases hat
  case applied args =>
    refine ensures_applied_accepts.mono fun _ _ h => ?_
    obtain ⟨app, haccepts⟩ := h
    exact haccepts.rolled
  case sourceAccepted args =>
    refine ensures_sourceAccepted_accepts.mono fun _ _ h => ?_
    obtain ⟨app, haccepts⟩ := h
    exact haccepts.rolled
  case acceptArtifactExpectation =>
    refine ensures_expectationAccepted.mono fun _ _ h => ?_
    obtain ⟨app, app', h⟩ := h
    exact ⟨app, app', h.before, h.after, h.move _⟩
  case rolloutCandidateOpened =>
    refine ensures_candidateOpened.mono fun _ _ h => ?_
    obtain ⟨app, app', h⟩ := h
    exact ⟨app, app', h.before, h.after, h.move _⟩
  case rolloutAuthorized args =>
    refine ensures_authorized.mono fun _ _ h => ?_
    obtain ⟨app, app', _, h⟩ := h
    exact ⟨app, app', h.before, h.after, h.move⟩
  case intentRevised => exact rolled_intentRevised
  case placementInvalidated => exact rolled_placementInvalidated
  case placementApproved => exact rolled_placementApproved
  case rolloutSuperseded => exact rolled_rolloutSuperseded
  case invalidateAuthorizationOnPreflightDrift => exact rolled_preflightDrift

theorem rollsAt_none (hat : tr.rollsAt = none) :
    .rolloutGenerations ∉ tr.tableWrites ∧ .supersessions ∉ tr.tableWrites ∧
      (tr.activates = true ∨ .rolloutGeneration ∉ tr.appWrites) := by
  cases tr <;> simp [rollsAt] at hat <;> simp [tableWrites, appWrites, activates]

/-- What a call about no rollout leaves of the pointers and of the two tables. -/
structure RolloutsKept (db db' : Db) : Prop where
  generations : db'.rolloutGenerations = db.rolloutGenerations
  history : db'.supersessions = db.supersessions
  pointers : ∀ id app, db.getApplication id = some app → ∃ app', db'.getApplication id = some app' ∧
      app'.rolloutGenerationId = app.rolloutGenerationId

theorem rolloutsKept_step (hat : tr.rollsAt = none) : RolloutsKept db (step repoKey db tr) := by
  obtain ⟨hg, hs, hp⟩ := rollsAt_none hat
  have hagr := @step_agrees repoKey db tr
  refine ⟨hagr (.table .rolloutGenerations) hg, hagr (.table .supersessions) hs, ?_⟩
  intro id app happ
  obtain ⟨app', happ', hkept⟩ := @step_app repoKey _ tr _ _ happ
  exact ⟨app', happ', hkept .rolloutGeneration (hp.imp_right fun h hw => h hw.2)⟩

theorem rollsAt_scope (hat : tr.rollsAt = some id) :
    tr.scope = .application id ∧ tr.activates = false := by
  cases tr <;> cases hat <;> exact ⟨rfl, rfl⟩

/-- A call about a rollout leaves the other applications' pointers alone, and
either moves its own application's rollouts or is refused. -/
theorem step_rollouts (hat : tr.rollsAt = some id) :
    (step repoKey db tr = db ∨ Rolled db (step repoKey db tr) tr id) ∧
    ∀ id' app, id' ≠ id → db.getApplication id' = some app →
      ∃ app', (step repoKey db tr).getApplication id' = some app' ∧
        app'.rolloutGenerationId = app.rolloutGenerationId := by
  refine ⟨step_or (perform_rolls hat), fun id' app hne happ => ?_⟩
  obtain ⟨app', happ', hkept⟩ := @step_app repoKey _ tr _ _ happ
  refine ⟨app', happ', hkept .rolloutGeneration (.inr fun hw => hne ?_)⟩
  have howns := hw.1
  rw [(rollsAt_scope hat).1] at howns
  exact howns

end Sencho.GitOps

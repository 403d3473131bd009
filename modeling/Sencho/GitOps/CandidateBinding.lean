import Sencho.GitOps.RolloutCalls
import Sencho.GitOps.Acknowledgements

/-!
# The source binding of a rollout candidate

An authorization binds the current rollout candidate to the accepted generation
and to its artifact set, and refuses a candidate bound to others.  An acceptance
moves the binding along; the other calls that move the artifact set of an
application do not, so a bound candidate can end up refusing every later
authorization.
-/

namespace Sencho.GitOps

open Verified Option Transition Db Table Tx

variable {repoKey : String → Option String} {db db' : Db} {tr : Transition}

/-- A candidate bound to no source. -/
def RolloutCandidate.Unbound (c : RolloutCandidate) : Prop :=
  c.acceptedGenerationId = none ∧ c.artifactSetId = none

/-- A candidate belongs to the application that names it, and to an intent that is
there. -/
structure CandidateOwned (db : Db) : Prop where
  pointers : ∀ id app cid, db.getApplication id = some app → app.rolloutCandidateId = some cid →
    ∃ c, db.getRolloutCandidate cid = some c ∧ c.applicationId = id
  intents : ∀ cid c, db.getRolloutCandidate cid = some c →
    (db.getIntentRevision c.intentRevisionId).isSome = true
  revised : ∀ id app iid, db.getApplication id = some app →
    app.intentRevisionId = some iid → (db.getIntentRevision iid).isSome = true
  unnamed : ∀ c, db.getRolloutCandidate "" = some c → c.Unbound

namespace Transition

/-- The rows a call brings in name no intent, no candidate and no source. -/
def BringsBlankRows : Transition → Prop
  | .activateDirect application _ _ | .activateInlineBlueprint application
  | .activateCreateFromGit application _ _ _ _ =>
    application.rolloutCandidateId = none ∧ application.intentRevisionId = none
  | .rolloutCandidateOpened _ candidate _ => candidate.Unbound
  | _ => True

/-- The calls that write the candidates. -/
def writesCandidates : Transition → Bool
  | .applied _ | .sourceAccepted _ | .rolloutCandidateOpened _ _ _ | .rolloutAuthorized _ =>
    true
  | _ => false

end Transition

/-- What a call does to the rollout candidates. -/
inductive CandidateMove (db db' : Db) (tr : Transition) : Prop where
  | kept (h : db'.rolloutCandidates = db.rolloutCandidates)
  | rebound (args : AppliedArgs) (app : Application)
      (htr : tr = .applied args ∨ tr = .sourceAccepted args)
      (h : Accepts db db' args app)
  | opened (id : String) (candidate : RolloutCandidate) (envelope : EventEnvelope)
      (app app' : Application) (htr : tr = .rolloutCandidateOpened id candidate envelope)
      (h : CandidateOpened db db' id candidate app app')
  | bound (args : RolloutAuthorizedArgs) (app app' : Application)
      (ingredients : AuthorizationIngredients) (htr : tr = .rolloutAuthorized args)
      (h : Authorized db db' args app app' ingredients)

theorem step_candidates : CandidateMove db (step repoKey db tr) tr := by
  cases hwr : tr.writesCandidates with
  | false =>
    refine .kept (@step_agrees repoKey db tr (.table .rolloutCandidates) ?_)
    cases tr <;> simp [writesCandidates] at hwr <;>
      simp [writes, tableWrites]
  | true =>
    refine commit_of_ensures (P := fun db' => CandidateMove db db' tr) ?_ (.kept rfl)
    cases tr <;> simp [writesCandidates] at hwr
    case applied args =>
      refine ensures_applied_accepts.mono fun _ _ h => ?_
      obtain ⟨app, h⟩ := h
      exact .rebound args app (.inl rfl) h
    case sourceAccepted args =>
      refine ensures_sourceAccepted_accepts.mono fun _ _ h => ?_
      obtain ⟨app, h⟩ := h
      exact .rebound args app (.inr rfl) h
    case rolloutCandidateOpened id candidate envelope =>
      refine ensures_candidateOpened.mono fun _ _ h => ?_
      obtain ⟨app, app', h⟩ := h
      exact .opened id candidate envelope app app' rfl h
    case rolloutAuthorized args =>
      refine ensures_authorized.mono fun _ _ h => ?_
      obtain ⟨app, app', ingredients, h⟩ := h
      exact .bound args app app' ingredients rfl h

/-- What the ingredients of an authorization say of the row they were read from. -/
structure IngredientsOf (db : Db) (app : Application) (bound : AuthorizationIngredients) :
    Prop where
  pointer : app.rolloutCandidateId = some bound.rolloutCandidateId
  named : bound.rolloutCandidateId ≠ ""
  accepted : app.acceptedGenerationId = some bound.acceptedGenerationId
  artifactSet : app.artifactSetId = some bound.artifactSetId
  candidate : ∃ c, db.getRolloutCandidate bound.rolloutCandidateId = some c ∧
    c.applicationId = app.id

theorem ingredientsOf {app : Application} {bound : AuthorizationIngredients}
    (h : db.authorizationIngredients app = some bound) : IngredientsOf db app bound := by
  unfold authorizationIngredients at h
  simp only [bind_eq_bind, bind_eq_some_iff, filter_eq_some_iff, pure_def, some.injEq] at h
  obtain ⟨candidateId, ⟨hptr, hnamed⟩, acceptedId, ⟨hacc, -⟩, artifactId,
    ⟨hartifact, -⟩, intentId, -, sourceRef, -, placementRef, -, candidate,
    ⟨hcand, hchecks⟩, _, -, _, -, required, -, _, -, _, -, rfl⟩ := h
  simp only [Bool.and_eq_true, decide_eq_true_eq] at hchecks
  exact ⟨hptr, by simpa [truthy] using hnamed, hacc, hartifact, candidate, hcand, hchecks.1.1.1⟩

variable {app app' : Application} {args : RolloutAuthorizedArgs}

theorem candidate_of_authorized
    {ingredients : AuthorizationIngredients} (h : Authorized db db' args app app' ingredients)
    (cid : String) : db'.getRolloutCandidate cid = (db.getRolloutCandidate cid).map fun c =>
      if c.id = ingredients.rolloutCandidateId then
        { c with
          acceptedGenerationId := some ingredients.acceptedGenerationId
          artifactSetId := some ingredients.artifactSetId }
      else c := by
  rw [← getRolloutCandidate_bindCandidate]
  exact congrArg (fun t => t.find? cid) h.candidates

/-- The application whose binding a call may move. -/
def Transition.bindsAt : Transition → Option String
  | .applied args | .sourceAccepted args | .rolloutAuthorized args => some args.applicationId
  | .convertDirectToBlueprint id _ _ | .convertBlueprintToDirect id _ _
  | .blueprintModeDemoted id _ | .recordArtifactEvidence id _ _ _ _ _ _ _
  | .acceptArtifactExpectation id _ _ _ | .intentRevised id _ _
  | .rolloutCandidateOpened id _ _ | .inlineRevisionFrozen id _ _ _ => some id
  | _ => none

variable {c : RolloutCandidate} {c' : RolloutCandidate}

/-- A candidate that was there is still there, with its owner and its intent, and it changes
only in a call about its owner. -/
theorem step_candidate {cid : String} (hc : db.getRolloutCandidate cid = some c) :
    ∃ c', (step repoKey db tr).getRolloutCandidate cid = some c' ∧
      c'.applicationId = c.applicationId ∧ c'.intentRevisionId = c.intentRevisionId ∧
      (c' = c ∨ cid ≠ "" ∧ tr.bindsAt = some c.applicationId) := by
  have hcid : c.id = cid := key_of_find? hc
  cases @step_candidates repoKey db tr with
  | kept h =>
    unfold getRolloutCandidate at hc ⊢
    rw [h]
    exact ⟨c, hc, rfl, rfl, .inl rfl⟩
  | rebound args app htr h =>
    refine ⟨c.rebound app args.generationId, by rw [h.candidates cid, hc, map_some], ?_⟩
    unfold RolloutCandidate.rebound
    split
    · rename_i hrebinds
      unfold Application.rebinds at hrebinds
      simp only [Bool.and_eq_true, decide_eq_true_eq] at hrebinds
      obtain ⟨⟨⟨⟨hptr, htruthy⟩, -⟩, howner⟩, -⟩ := hrebinds
      refine ⟨rfl, rfl, .inr ⟨?_, ?_⟩⟩
      · rintro rfl
        rw [hptr, hcid] at htruthy
        exact absurd htruthy (by decide)
      · rw [howner, show app.id = args.applicationId from key_of_find? h.before]
        rcases htr with rfl | rfl <;> rfl
    · exact ⟨rfl, rfl, .inl rfl⟩
  | opened id candidate _ app app' _ h =>
    obtain ⟨hnone, hfind⟩ := insert?_eq_some h.candidates
    unfold getRolloutCandidate at hc ⊢
    rw [hfind, if_neg fun heq => ?_]
    · exact ⟨c, hc, rfl, rfl, .inl rfl⟩
    · rw [heq, hnone] at hc
      cases hc
  | bound args app app' ingredients htr h =>
    have hingredients := ingredientsOf h.ingredients
    refine ⟨_, by rw [candidate_of_authorized h, hc, map_some], ?_⟩
    split
    · rename_i hbound
      rw [hcid] at hbound
      obtain ⟨c₀, hc₀, howner⟩ := hingredients.candidate
      rw [← hbound, hc] at hc₀
      cases hc₀
      refine ⟨rfl, rfl, .inr ⟨hbound ▸ hingredients.named, ?_⟩⟩
      rw [htr, howner, show app.id = args.applicationId from key_of_find? h.before]
      rfl
    · exact ⟨rfl, rfl, .inl rfl⟩

/-- Where a candidate comes from: it was there, or the call opened it. -/
theorem candidate_back {cid : String}
    (hc' : (step repoKey db tr).getRolloutCandidate cid = some c') :
    (∃ c, db.getRolloutCandidate cid = some c ∧ c'.intentRevisionId = c.intentRevisionId ∧
      (c' = c ∨ cid ≠ "")) ∨
    ∃ id envelope app, tr = .rolloutCandidateOpened id c' envelope ∧
      db.getApplication id = some app ∧ some c'.intentRevisionId = app.intentRevisionId := by
  cases hc : db.getRolloutCandidate cid with
  | some c =>
    obtain ⟨c'', hc'', -, hintent, hsame⟩ := @step_candidate repoKey _ tr _ _ hc
    cases some.inj (hc'.symm.trans hc'')
    exact .inl ⟨c, rfl, hintent, hsame.imp_right And.left⟩
  | none =>
    cases @step_candidates repoKey db tr with
    | kept h =>
      unfold getRolloutCandidate at hc hc'
      rw [h, hc] at hc'
      cases hc'
    | rebound args app _ h =>
      rw [h.candidates cid, hc] at hc'
      cases hc'
    | opened id candidate envelope app app' htr h =>
      unfold getRolloutCandidate at hc hc'
      rw [(insert?_eq_some h.candidates).2, hc] at hc'
      split at hc'
      · cases hc'
        exact .inr ⟨id, envelope, app, htr, h.before, h.intent⟩
      · cases hc'
    | bound args app app' ingredients _ h =>
      rw [candidate_of_authorized h, hc] at hc'
      cases hc'

variable {id : String}

theorem step_candidateOpened {candidate : RolloutCandidate} {envelope : EventEnvelope} :
    step repoKey db (.rolloutCandidateOpened id candidate envelope) = db ∨
      ∃ app app', CandidateOpened db
        (step repoKey db (.rolloutCandidateOpened id candidate envelope)) id candidate app
        app' :=
  commit_or ensures_candidateOpened

theorem step_intentRevised {intent : IntentRevision} {envelope : EventEnvelope} :
    step repoKey db (.intentRevised id intent envelope) = db ∨
      ∃ app app', IntentRevised db (step repoKey db (.intentRevised id intent envelope)) id
        intent envelope app app' :=
  commit_or ensures_intentRevised

/-- A row of the intent table stays. -/
theorem intent_stays {iid : String} (h : (db.getIntentRevision iid).isSome = true) :
    ((step repoKey db tr).getIntentRevision iid).isSome = true := by
  by_cases hwr : .intentRevisions ∈ tr.tableWrites
  · cases tr <;> simp [tableWrites, acceptanceTables] at hwr
    case healthRolloutPolicySet id policy envelope =>
      refine commit_of_ensures (P := fun db' : Db => (db'.getIntentRevision iid).isSome = true) ?_ h
      refine ensures_mutateApp.mpr fun app _ => ?_
      unfold updateIntentHealthPolicy
      simp only [ensures_bind, ensures_refuseIf, ensures_get, ensures_require,
        ensures_modify, ensures_pure]
      intro _ _ _ intent _
      unfold writeApp getIntentRevision
      rw [find?_update, isSome_map]
      exact h
    case intentRevised id intent envelope =>
      rcases @step_intentRevised repoKey db id intent envelope with hkept | ⟨app, app', hrevised⟩
      · rw [hkept]
        exact h
      · unfold getIntentRevision at h ⊢
        rw [(insert?_eq_some hrevised.intents).2]
        split
        · rfl
        · exact h
  · have hkept := @step_agrees repoKey db tr (.table .intentRevisions) hwr
    unfold getIntentRevision at h ⊢
    rw [show (step repoKey db tr).intentRevisions = db.intentRevisions from hkept]
    exact h

section

variable (h : CandidateOwned db) (hblank : tr.BringsBlankRows)
include h hblank

section

variable {id : String} {app' : Application}
  (happ' : (step repoKey db tr).getApplication id = some app')
include happ'

omit h in
/-- An application names no intent and no candidate yet, or it was there. -/
theorem app_back : (app'.rolloutCandidateId = none ∧ app'.intentRevisionId = none) ∨
    ∃ app, db.getApplication id = some app ∧
      ∀ c : AppColumn, tr.activates = true ∨ ¬ tr.writes (.app id c) → c.get app' = c.get app := by
  cases happ : db.getApplication id with
  | none =>
    obtain ⟨application, hinserts, hcolumns⟩ := step_inserted happ happ'
    have hnone : application.rolloutCandidateId = none ∧ application.intentRevisionId = none := by
      cases tr <;> cases hinserts <;> exact hblank
    exact .inl ⟨(hcolumns .rolloutCandidate (by decide)).trans hnone.1,
      (hcolumns .intent (by decide)).trans hnone.2⟩
  | some app =>
    obtain ⟨app'', happ'', hkept⟩ := @step_app repoKey _ tr _ _ happ
    cases some.inj (happ'.symm.trans happ'')
    exact .inr ⟨app, rfl, hkept⟩

theorem CandidateOwned.pointers_step {cid : String} (hptr : app'.rolloutCandidateId = some cid) :
    ∃ c, (step repoKey db tr).getRolloutCandidate cid = some c ∧ c.applicationId = id := by
  rcases app_back hblank happ' with ⟨hnone, -⟩ | ⟨app, happ, hkept⟩
  · rw [hnone] at hptr
    cases hptr
  · have hforth : app.rolloutCandidateId = some cid →
        ∃ c, (step repoKey db tr).getRolloutCandidate cid = some c ∧ c.applicationId = id := by
      intro hbefore
      obtain ⟨c, hc, howner⟩ := h.pointers id app cid happ hbefore
      obtain ⟨c', hc', howner', -⟩ := step_candidate hc
      exact ⟨c', hc', howner'.trans howner⟩
    by_cases hopens : tr.activates = true ∨ ¬ tr.writes (.app id .rolloutCandidate)
    · exact hforth ((hkept .rolloutCandidate hopens).symm.trans hptr)
    · obtain ⟨hactivates, hwr⟩ := not_or.mp hopens
      obtain ⟨hid, hcolumn⟩ := not_not.mp hwr
      cases tr <;> simp [appWrites, authorizationColumns, acceptanceColumns,
        activates] at hcolumn hactivates
      rename_i id₁ candidate envelope
      rcases @step_candidateOpened repoKey db id₁ candidate envelope with hrf | ⟨_, opened, hopened⟩
      · rw [hrf] at happ'
        exact hforth (some.inj (happ.symm.trans happ') ▸ hptr)
      · cases (show id = id₁ from hid)
        cases some.inj (happ'.symm.trans hopened.after)
        cases some.inj (hptr.symm.trans hopened.pointer)
        refine ⟨candidate, ?_, hopened.owner⟩
        unfold getRolloutCandidate
        rw [(insert?_eq_some hopened.candidates).2, if_pos rfl]

theorem CandidateOwned.revised_step {iid : String} (hintent : app'.intentRevisionId = some iid) :
    ((step repoKey db tr).getIntentRevision iid).isSome = true := by
  rcases app_back hblank happ' with ⟨-, hnone⟩ | ⟨app, happ, hkept⟩
  · rw [hnone] at hintent
    cases hintent
  · by_cases hrevises : tr.activates = true ∨ ¬ tr.writes (.app id .intent)
    · refine intent_stays (h.revised id app iid happ ?_)
      exact (hkept .intent hrevises).symm.trans hintent
    · obtain ⟨hactivates, hwr⟩ := not_or.mp hrevises
      obtain ⟨hid, hcolumn⟩ := not_not.mp hwr
      cases tr <;> simp [appWrites, authorizationColumns, acceptanceColumns,
        activates] at hcolumn hactivates
      rename_i id₁ intent envelope
      rcases @step_intentRevised repoKey db id₁ intent envelope with hrf | ⟨_, revised, hrevised⟩
      · rw [hrf] at happ' ⊢
        exact h.revised id app' iid happ' hintent
      · cases (show id = id₁ from hid)
        cases some.inj (happ'.symm.trans hrevised.after)
        cases some.inj (hintent.symm.trans hrevised.intent)
        unfold getIntentRevision
        rw [(insert?_eq_some hrevised.intents).2, if_pos rfl]
        rfl

end

theorem CandidateOwned.unnamed_step
    (hc' : (step repoKey db tr).getRolloutCandidate "" = some c') : c'.Unbound := by
  rcases candidate_back hc' with ⟨c, hc, -, rfl | hnamed⟩ | ⟨id, envelope, app, htr, -, -⟩
  · exact h.unnamed c' hc
  · exact absurd rfl hnamed
  · subst htr
    exact hblank

theorem candidateOwned_step : CandidateOwned (step repoKey db tr) where
  pointers _ _ _ happ' hptr := h.pointers_step hblank happ' hptr
  intents cid c' hc' := by
    rcases candidate_back hc' with ⟨c, hc, hintent, -⟩ | ⟨id, _, app, _, happ, hintent⟩
    · rw [hintent]
      exact intent_stays (h.intents cid c hc)
    · exact intent_stays (h.revised id app _ happ hintent.symm)
  revised _ _ _ happ' hintent := h.revised_step hblank happ' hintent
  unnamed _ hc' := h.unnamed_step hblank hc'

end

theorem candidateOwned_empty : CandidateOwned empty where
  pointers _ _ _ h := by cases h
  intents _ _ h := by cases h
  revised _ _ _ h := by cases h
  unnamed _ h := by cases h

/-- A candidate whose binding the next authorization accepts. -/
def RolloutCandidate.Fits (c : RolloutCandidate) (app : Application) : Prop :=
  (c.acceptedGenerationId = none ∨ c.acceptedGenerationId = app.acceptedGenerationId) ∧
    (c.artifactSetId = none ∨ c.artifactSetId = app.artifactSetId)

theorem RolloutCandidate.Unbound.fits (h : c.Unbound) (app : Application) : c.Fits app :=
  ⟨.inl h.1, .inl h.2⟩

/-- The candidate an application points to, when it names the current intent. -/
structure CurrentCandidate (db : Db) (app : Application) (c : RolloutCandidate) : Prop where
  pointer : app.rolloutCandidateId = some c.id
  stored : db.getRolloutCandidate c.id = some c
  intent : some c.intentRevisionId = app.intentRevisionId

/-- The current candidate of every Blueprint application fits it. -/
def CandidateFits (db : Db) : Prop :=
  ∀ id app c, db.getApplication id = some app → app.targetMode = .blueprint →
    CurrentCandidate db app c → c.Fits app

/-- A call that moves no bound artifact set away from the current candidate. -/
def Transition.KeepsBinding (tr : Transition) (db : Db) : Prop :=
  tr.BringsBlankRows ∧ match tr with
    | .convertDirectToBlueprint id _ _ =>
      ∀ app c, db.getApplication id = some app → app.targetMode = .direct →
        CurrentCandidate db app c → c.Fits app
    | .recordArtifactEvidence id generationId _ _ qualification _ _ _ =>
      ∀ app c, db.getApplication id = some app → app.targetMode = .blueprint →
        CurrentCandidate db app c → app.acceptedGenerationId = some generationId →
        allowedExpectedAdvance db app.artifactSetId qualification = true →
        c.artifactSetId = none
    | .acceptArtifactExpectation id generationId artifactSetId _ =>
      ∀ app c, db.getApplication id = some app → app.targetMode = .blueprint →
        CurrentCandidate db app c → app.acceptedGenerationId = some generationId →
        (db.getArtifactSet artifactSetId).any (fun a => a.generationId = generationId &&
          (a.qualification = .exact || a.qualification = .qualified)) = true →
        c.artifactSetId = none ∨ c.artifactSetId = some artifactSetId
    | _ => True

/-- The columns an authorization compares with the candidate. -/
def bindingColumns : List AppColumn := [.mode, .accepted, .artifactSet, .intent, .rolloutCandidate]

theorem bindsAt_writes (h : tr.bindsAt ≠ some id) {c : AppColumn}
    (hc : c ∈ bindingColumns) : tr.activates = true ∨ ¬ tr.writes (.app id c) := by
  cases hat : tr.bindsAt with
  | none =>
    have hlist : tr.activates = true ∨ c ∉ tr.appWrites := by
      simp only [bindingColumns, List.mem_cons, List.not_mem_nil, or_false] at hc
      cases tr <;> simp [bindsAt] at hat <;>
        rcases hc with rfl | rfl | rfl | rfl | rfl <;>
        simp [appWrites, activates]
    exact hlist.imp_right fun hnot hw => hnot hw.2
  | some id' =>
    have hne : id ≠ id' := by
      rintro rfl
      exact h hat
    have hscope : tr.scope = .application id' := by
      cases tr <;> cases hat <;> rfl
    refine .inr fun hw => hne ?_
    have howns := hw.1
    rw [hscope] at howns
    exact howns

/-- A row whose compared columns a call leaves. -/
theorem Fits.of_columns (hacc : app'.acceptedGenerationId = app.acceptedGenerationId)
    (hartifact : app'.artifactSetId = app.artifactSetId) (h : c.Fits app) : c.Fits app' := by
  unfold RolloutCandidate.Fits
  rw [hacc, hartifact]
  exact h

section

variable (howned : CandidateOwned db)
include howned

/-- A candidate no call of its own application touches stays as it is. -/
theorem candidate_stays {id cid : String} {app : Application} (hat : tr.bindsAt ≠ some id)
    (happ : db.getApplication id = some app) (hptr : app.rolloutCandidateId = some cid) :
    (step repoKey db tr).getRolloutCandidate cid = db.getRolloutCandidate cid := by
  obtain ⟨c, hc, howner⟩ := howned.pointers id app cid happ hptr
  obtain ⟨c', hc', -, -, hsame⟩ := @step_candidate repoKey _ tr _ _ hc
  rcases hsame with rfl | ⟨-, hbinds⟩
  · exact hc'.trans hc.symm
  · rw [howner] at hbinds
    exact absurd hbinds hat

/-- The binding of an application the call is not about. -/
theorem candidateFits_elsewhere (hfits : CandidateFits db) (hblank : tr.BringsBlankRows)
    {app' : Application} (hat : tr.bindsAt ≠ some id)
    (happ' : (step repoKey db tr).getApplication id = some app')
    (hblue : app'.targetMode = .blueprint)
    (hcur : CurrentCandidate (step repoKey db tr) app' c') : c'.Fits app' := by
  rcases app_back hblank happ' with ⟨hnone, -⟩ | ⟨app, happ, hkept⟩
  · have hptr := hcur.pointer
    rw [hnone] at hptr
    cases hptr
  · have hcolumn : ∀ c ∈ bindingColumns, c.get app' = c.get app := fun c hc =>
      hkept c (bindsAt_writes hat hc)
    have hmode : app'.targetMode = app.targetMode := hcolumn .mode (by simp [bindingColumns])
    have hacc : app'.acceptedGenerationId = app.acceptedGenerationId :=
      hcolumn .accepted (by simp [bindingColumns])
    have hartifact : app'.artifactSetId = app.artifactSetId :=
      hcolumn .artifactSet (by simp [bindingColumns])
    have hintent : app'.intentRevisionId = app.intentRevisionId :=
      hcolumn .intent (by simp [bindingColumns])
    have hptr : app'.rolloutCandidateId = app.rolloutCandidateId :=
      hcolumn .rolloutCandidate (by simp [bindingColumns])
    have hstays := @candidate_stays repoKey _ _ howned _ _ _ hat happ (hptr.symm.trans hcur.pointer)
    refine Fits.of_columns hacc hartifact (hfits id app c' happ (hmode ▸ hblue) ?_)
    exact ⟨hptr.symm.trans hcur.pointer, hstays.symm.trans hcur.stored, hcur.intent.trans hintent⟩

/-- The binding after an acceptance: moved along, unless nothing was bound. -/
theorem Accepts.fits {args : AppliedArgs} {app : Application} (h : Accepts db db' args app)
    (hblue : (app.accepting db args).targetMode = .blueprint)
    (hcur : CurrentCandidate db' (app.accepting db args) c') : c'.Fits (app.accepting db args) := by
  have hid : app.id = args.applicationId := key_of_find? h.before
  have haccepting : app.accepting db args = keepIdentity app
      ((acceptedApplication (app.withoutAuthorization db) args).stamped args.envelope) := rfl
  rw [acceptedApplication_eq, withoutAuthorization_eq] at haccepting
  have hptr : app.rolloutCandidateId = some c'.id := by
    have := hcur.pointer
    rw [haccepting] at this
    exact this
  have hintent : some c'.intentRevisionId = app.intentRevisionId := by
    have := hcur.intent
    rw [haccepting] at this
    exact this
  have hst := hcur.stored
  rw [h.candidates c'.id] at hst
  obtain ⟨c, hc, hc'⟩ := map_eq_some_iff.mp hst
  obtain ⟨c₀, hc₀, howner⟩ := howned.pointers _ app c'.id h.before hptr
  cases some.inj (hc.symm.trans hc₀)
  have hcid : c.id = c'.id := key_of_find? hc
  by_cases hnamed : c'.id = ""
  · rw [hnamed] at hc
    have hunbound := howned.unnamed c hc
    have hsame : c' = c := by
      rw [← hc']
      unfold RolloutCandidate.rebound
      rw [if_neg]
      unfold Application.rebinds
      rw [hptr, hnamed]
      simp [truthy]
    rw [hsame]
    exact hunbound.fits _
  · have hkeeps : c.intentRevisionId = c'.intentRevisionId := by
      rw [← hc']
      unfold RolloutCandidate.rebound
      split <;> rfl
    have hrebinds : app.rebinds c = true := by
      unfold Application.rebinds
      rw [haccepting] at hblue
      rw [hptr, hcid, hkeeps, hintent, howner, hid, show app.targetMode = .blueprint from hblue]
      simp [truthy, hnamed]
    rw [← hc']
    unfold RolloutCandidate.rebound
    rw [if_pos hrebinds, haccepting]
    exact ⟨.inr rfl, .inl rfl⟩

end

variable {envelope : EventEnvelope} {artifactSetId : String}

/-- What a retarget checks before it writes. -/
theorem ensures_commitTargetBinding {expectedMode : TargetMode}
    {next : Application → Except Refusal TargetBinding} {matchesDestination : Application → Bool}
    {assertReady : Db → Application → Except Refusal Unit}
    {onRetarget : Application → Application} :
    Tx.Ensures (commitTargetBinding id envelope expectedMode next matchesDestination
      assertReady onRetarget) db fun _ db' => db' = db ∨
        ∃ app, db.getApplication id = some app ∧ app.targetMode = expectedMode := by
  unfold commitTargetBinding
  rw [ensures_bind, ensures_requireApp]
  intro app happ
  rw [ensures_ite, ensures_pure, ensures_bind, ensures_refuseIf]
  refine ⟨fun _ => .inl rfl, fun _ hmode => ?_⟩
  exact fun _ _ _ => .inr ⟨app, happ, by simpa using hmode⟩

/-- Where the mode of an application may be about to change. -/
def Transition.retargets : Transition → Option (String × TargetMode)
  | .convertDirectToBlueprint id _ _ => some (id, .direct)
  | .convertBlueprintToDirect id _ _ | .blueprintModeDemoted id _ => some (id, .blueprint)
  | _ => none

theorem step_retargets {mode : TargetMode} (h : tr.retargets = some (id, mode)) :
    step repoKey db tr = db ∨ ∃ app, db.getApplication id = some app ∧ app.targetMode = mode := by
  refine commit_of_ensures (P := fun db' => db' = db ∨
    ∃ app, db.getApplication id = some app ∧ app.targetMode = mode) ?_ (.inl rfl)
  cases tr <;> cases h
  case convertDirectToBlueprint => exact ensures_commitTargetBinding
  case convertBlueprintToDirect => exact ensures_commitTargetBinding
  case blueprintModeDemoted => exact ensures_commitTargetBinding

/-- A freeze is about an Inline application. -/
theorem step_inlineRevisionFrozen {generation : Generation} :
    step repoKey db (.inlineRevisionFrozen id generation artifactSetId envelope) = db ∨
      ∃ app, db.getApplication id = some app ∧ app.targetMode = .inlineBlueprint := by
  refine commit_of_ensures (P := fun db' => db' = db ∨
    ∃ app, db.getApplication id = some app ∧ app.targetMode = .inlineBlueprint) ?_ (.inl rfl)
  show Tx.Ensures (inlineRevisionFrozen id generation artifactSetId envelope) db _
  unfold inlineRevisionFrozen
  simp only [ensures_bind, ensures_requireApp, ensures_refuseIf]
  intro app happ hmode
  exact fun _ _ _ => .inr ⟨app, happ, by simpa using hmode⟩

theorem step_evidenceRecorded {id generationId : String} {evidenceVersion : Nat}
    {qualification : ArtifactQualification} {evidence : ArtifactEvidence} {authoritative : Bool} :
    step repoKey db (.recordArtifactEvidence id generationId artifactSetId evidenceVersion
        qualification evidence authoritative envelope) = db ∨
      ∃ app app', EvidenceRecorded db
        (step repoKey db (.recordArtifactEvidence id generationId artifactSetId
          evidenceVersion qualification evidence authoritative envelope)) id generationId
        artifactSetId qualification app app' :=
  commit_or ensures_evidenceRecorded

theorem step_expectationAccepted {id generationId : String} :
    step repoKey db (.acceptArtifactExpectation id generationId artifactSetId envelope) = db ∨
      ∃ app app', ExpectationAccepted db
        (step repoKey db (.acceptArtifactExpectation id generationId artifactSetId envelope))
        id generationId artifactSetId app app' :=
  commit_or ensures_expectationAccepted

/-- A call that leaves the pointer, the intent and the candidates of an application. -/
theorem CurrentCandidate.back (hptr : app'.rolloutCandidateId = app.rolloutCandidateId)
    (hintent : app'.intentRevisionId = app.intentRevisionId)
    (hcandidates : db'.rolloutCandidates = db.rolloutCandidates)
    (h : CurrentCandidate db' app' c) : CurrentCandidate db app c := by
  refine ⟨hptr.symm.trans h.pointer, ?_, h.intent.trans hintent⟩
  have hst := h.stored
  unfold getRolloutCandidate at hst ⊢
  rw [← hcandidates]
  exact hst

/-- A column a call does not write. -/
theorem column_kept (happ : db.getApplication id = some app)
    (happ' : (step repoKey db tr).getApplication id = some app') {c : AppColumn}
    (hc : c ∉ tr.appWrites) : c.get app' = c.get app := by
  obtain ⟨app'', happ'', hkept⟩ := @step_app repoKey _ tr _ _ happ
  rw [some.inj (happ'.symm.trans happ'')]
  exact hkept c (.inr fun hw => hc hw.2)

theorem candidates_kept (h : .rolloutCandidates ∉ tr.tableWrites) :
    (step repoKey db tr).rolloutCandidates = db.rolloutCandidates :=
  @step_agrees repoKey db tr (.table .rolloutCandidates) h

section

variable {id : String} {app' : Application} {c' : RolloutCandidate}
variable {envelope : EventEnvelope}

/-- A retarget of a row that fits, whatever mode it comes to. -/
theorem retarget_fits {mode : TargetMode} (hretargets : tr.retargets = some (id, mode))
    (hfits : ∀ app c, db.getApplication id = some app → app.targetMode = mode →
      CurrentCandidate db app c → c.Fits app)
    (happ' : (step repoKey db tr).getApplication id = some app')
    (hcur : CurrentCandidate (step repoKey db tr) app' c') :
    step repoKey db tr = db ∨ c'.Fits app' := by
  refine (@step_retargets repoKey _ _ _ _ hretargets).imp_right fun hmode => ?_
  obtain ⟨app, happ, hmode⟩ := hmode
  have hwr : ∀ c ∈ [AppColumn.accepted, .artifactSet, .intent, .rolloutCandidate],
      c ∉ tr.appWrites := by
    cases tr <;> cases hretargets <;> simp [appWrites]
  have hcandidates : .rolloutCandidates ∉ tr.tableWrites := by
    cases tr <;> cases hretargets <;> simp [tableWrites]
  refine Fits.of_columns (column_kept happ happ' (hwr .accepted (by decide)))
    (column_kept happ happ' (hwr .artifactSet (by decide)))
    (hfits app c' happ hmode (hcur.back ?_ ?_ (candidates_kept hcandidates)))
  · exact column_kept happ happ' (hwr .rolloutCandidate (by decide))
  · exact column_kept happ happ' (hwr .intent (by decide))

/-- A freeze leaves no Blueprint application behind. -/
theorem freeze_inline {generation : Generation} {artifactSetId : String}
    (happ' : (step repoKey db (.inlineRevisionFrozen id generation artifactSetId
      envelope)).getApplication id = some app') (hblue : app'.targetMode = .blueprint) :
    step repoKey db (.inlineRevisionFrozen id generation artifactSetId envelope) = db := by
  refine step_inlineRevisionFrozen.resolve_right ?_
  rintro ⟨app, happ, hmode⟩
  have hkept : app'.targetMode = app.targetMode :=
    column_kept (c := .mode) happ happ' (by simp [appWrites])
  rw [hkept, hmode] at hblue
  cases hblue

/-- A new intent is named by no candidate yet. -/
theorem revised_uncurrent (howned : CandidateOwned db) {intent : IntentRevision}
    (happ' : (step repoKey db (.intentRevised id intent envelope)).getApplication id = some app')
    (hcur : CurrentCandidate (step repoKey db (.intentRevised id intent envelope)) app'
      c') : step repoKey db (.intentRevised id intent envelope) = db := by
  refine step_intentRevised.resolve_right ?_
  rintro ⟨app, revised, hrevised⟩
  cases some.inj (happ'.symm.trans hrevised.after)
  have hcandidates : (step repoKey db (.intentRevised id intent envelope)).rolloutCandidates =
      db.rolloutCandidates := candidates_kept (by simp [tableWrites])
  have hst : db.getRolloutCandidate c'.id = some c' := by
    have hst := hcur.stored
    unfold getRolloutCandidate at hst ⊢
    rw [← hcandidates]
    exact hst
  have hthere := howned.intents c'.id c' hst
  rw [some.inj (hcur.intent.trans hrevised.intent), hrevised.fresh] at hthere
  cases hthere

/-- The candidate a call opened is bound to nothing. -/
theorem opened_fits {candidate : RolloutCandidate} (hblank : candidate.Unbound)
    (happ' : (step repoKey db (.rolloutCandidateOpened id candidate envelope)).getApplication
      id = some app') (hcur : CurrentCandidate
      (step repoKey db (.rolloutCandidateOpened id candidate envelope)) app' c') :
    step repoKey db (.rolloutCandidateOpened id candidate envelope) = db ∨ c'.Fits app' := by
  refine step_candidateOpened.imp_right ?_
  rintro ⟨app, opened, hopened⟩
  cases some.inj (happ'.symm.trans hopened.after)
  have hst := hcur.stored
  unfold getRolloutCandidate at hst
  rw [(insert?_eq_some hopened.candidates).2,
    if_pos (some.inj (hcur.pointer.symm.trans hopened.pointer))] at hst
  cases hst
  exact hblank.fits _

theorem step_authorized :
    step repoKey db (.rolloutAuthorized args) = db ∨
      ∃ app app' ingredients, Authorized db (step repoKey db (.rolloutAuthorized args)) args
        app app' ingredients :=
  commit_or ensures_authorized

/-- An authorization binds what it names. -/
theorem authorized_fits
    (happ' : (step repoKey db (.rolloutAuthorized args)).getApplication args.applicationId =
      some app')
    (hcur : CurrentCandidate (step repoKey db (.rolloutAuthorized args)) app' c') :
    step repoKey db (.rolloutAuthorized args) = db ∨ c'.Fits app' := by
  refine step_authorized.imp_right ?_
  rintro ⟨app, authorized, bound, hauthorized⟩
  cases some.inj (happ'.symm.trans hauthorized.after)
  have hbound := ingredientsOf hauthorized.ingredients
  have hptr : app'.rolloutCandidateId = app.rolloutCandidateId :=
    column_kept (c := .rolloutCandidate) hauthorized.before happ' (by simp [appWrites])
  have hacc : app'.acceptedGenerationId = app.acceptedGenerationId :=
    column_kept (c := .accepted) hauthorized.before happ' (by simp [appWrites])
  have hartifact : app'.artifactSetId = app.artifactSetId :=
    column_kept (c := .artifactSet) hauthorized.before happ' (by simp [appWrites])
  have hid : c'.id = bound.rolloutCandidateId := some.inj
    (hcur.pointer.symm.trans (hptr.trans hbound.pointer))
  have hst := hcur.stored
  rw [candidate_of_authorized hauthorized] at hst
  obtain ⟨c, hc, hc'⟩ := map_eq_some_iff.mp hst
  rw [if_pos ((show c.id = c'.id from key_of_find? hc).trans hid)] at hc'
  unfold RolloutCandidate.Fits
  rw [← hc', hacc, hartifact]
  exact ⟨.inr hbound.accepted.symm, .inr hbound.artifactSet.symm⟩

theorem accepted_fits {args : AppliedArgs} (howned : CandidateOwned db)
    (htr : tr = .applied args ∨ tr = .sourceAccepted args)
    (happ' : (step repoKey db tr).getApplication args.applicationId = some app')
    (hblue : app'.targetMode = .blueprint) (hcur : CurrentCandidate (step repoKey db tr) app' c') :
    step repoKey db tr = db ∨ c'.Fits app' := by
  have haccepts : step repoKey db tr = db ∨ ∃ app, Accepts db (step repoKey db tr) args app := by
    rcases htr with rfl | rfl
    · exact commit_or ensures_applied_accepts
    · exact commit_or ensures_sourceAccepted_accepts
  refine haccepts.imp_right ?_
  rintro ⟨app, h⟩
  cases some.inj (happ'.symm.trans h.after)
  exact h.fits howned hblue hcur

/-- A call that writes the expected artifact set only. -/
theorem artifact_fits (hfits : CandidateFits db)
    (hwr : ∀ c ∈ [AppColumn.mode, .accepted, .intent, .rolloutCandidate],
      c ∉ tr.appWrites) (htable : .rolloutCandidates ∉ tr.tableWrites)
    {app : Application} (happ : db.getApplication id = some app)
    (happ' : (step repoKey db tr).getApplication id = some app')
    (hblue : app'.targetMode = .blueprint) (hcur : CurrentCandidate (step repoKey db tr) app' c')
    (hmoves : app'.artifactSetId = app.artifactSetId ∨
      (app.targetMode = .blueprint → CurrentCandidate db app c' →
        c'.artifactSetId = none ∨ c'.artifactSetId = app'.artifactSetId)) : c'.Fits app' := by
  have hmode : app'.targetMode = app.targetMode :=
    column_kept (c := .mode) happ happ' (hwr _ (by simp))
  have hacc : app'.acceptedGenerationId = app.acceptedGenerationId :=
    column_kept (c := .accepted) happ happ' (hwr _ (by simp))
  have hintent : app'.intentRevisionId = app.intentRevisionId :=
    column_kept (c := .intent) happ happ' (hwr _ (by simp))
  have hptr : app'.rolloutCandidateId = app.rolloutCandidateId :=
    column_kept (c := .rolloutCandidate) happ happ' (hwr _ (by simp))
  have hback : CurrentCandidate db app c' :=
    hcur.back hptr hintent (candidates_kept htable)
  have hbefore := hfits id app c' happ (hmode ▸ hblue) hback
  rcases hmoves with hkept | hmoves
  · exact Fits.of_columns hacc hkept hbefore
  · refine ⟨?_, hmoves (hmode ▸ hblue) hback⟩
    rw [hacc]
    exact hbefore.1

/-- The binding of the application the call is about. -/
theorem candidateFits_own (howned : CandidateOwned db) (hfits : CandidateFits db)
    (hkeeps : tr.KeepsBinding db) (hat : tr.bindsAt = some id)
    (happ' : (step repoKey db tr).getApplication id = some app')
    (hblue : app'.targetMode = .blueprint)
    (hcur : CurrentCandidate (step repoKey db tr) app' c') : c'.Fits app' := by
  have hsame : step repoKey db tr = db → c'.Fits app' := by
    intro hrf
    rw [hrf] at happ' hcur
    exact hfits id app' c' happ' hblue hcur
  cases tr <;> cases hat
  case convertDirectToBlueprint blueprintId envelope =>
    exact (retarget_fits rfl hkeeps.2 happ' hcur).elim hsame fun h => h
  case convertBlueprintToDirect stackName envelope =>
    exact (retarget_fits rfl (hfits id) happ' hcur).elim hsame fun h => h
  case blueprintModeDemoted envelope =>
    exact (retarget_fits rfl (hfits id) happ' hcur).elim hsame fun h => h
  case inlineRevisionFrozen => exact hsame (freeze_inline happ' hblue)
  case intentRevised => exact hsame (revised_uncurrent howned happ' hcur)
  case rolloutCandidateOpened =>
    exact (opened_fits hkeeps.1 happ' hcur).elim hsame fun h => h
  case rolloutAuthorized =>
    exact (authorized_fits happ' hcur).elim hsame fun h => h
  case applied =>
    exact (accepted_fits howned (.inl rfl) happ' hblue hcur).elim hsame fun h => h
  case sourceAccepted =>
    exact (accepted_fits howned (.inr rfl) happ' hblue hcur).elim hsame fun h => h
  case recordArtifactEvidence =>
    rcases step_evidenceRecorded with hrf | ⟨app, recorded, hrecorded⟩
    · exact hsame hrf
    · cases some.inj (happ'.symm.trans hrecorded.after)
      refine artifact_fits hfits (by simp [appWrites])
        (by simp [tableWrites]) hrecorded.before happ' hblue hcur ?_
      refine hrecorded.artifactSet.imp_right fun hmoved hmode hback => .inl ?_
      exact hkeeps.2 app c' hrecorded.before hmode hback hmoved.1 hmoved.2.1
  case acceptArtifactExpectation =>
    rcases step_expectationAccepted with hrf | ⟨app, expected, hexp⟩
    · exact hsame hrf
    · cases some.inj (happ'.symm.trans hexp.after)
      refine artifact_fits hfits (by simp [appWrites, authorizationColumns])
        (by simp [tableWrites]) hexp.before happ' hblue hcur ?_
      refine .inr fun hmode hback => ?_
      rw [hexp.artifactSet]
      exact hkeeps.2 app c' hexp.before hmode hback hexp.accepted hexp.owned

end

/-- One call keeps the binding of the current candidate. -/
theorem candidateFits_step (howned : CandidateOwned db) (hfits : CandidateFits db)
    (hkeeps : tr.KeepsBinding db) : CandidateFits (step repoKey db tr) := by
  intro id app' c' happ' hblue hcur
  by_cases hat : tr.bindsAt = some id
  · exact candidateFits_own howned hfits hkeeps hat happ' hblue hcur
  · exact candidateFits_elsewhere howned hfits hkeeps.1 hat happ' hblue hcur

/-- Every part of an authorization is there and current. -/
structure IngredientsCurrent (db : Db) (app : Application) (c : RolloutCandidate)
    (bound : AuthorizationIngredients) : Prop where
  candidate : bound.rolloutCandidateId = c.id ∧ c.id ≠ ""
  accepted : app.acceptedGenerationId = some bound.acceptedGenerationId ∧
    bound.acceptedGenerationId ≠ ""
  generation : (db.getGeneration bound.acceptedGenerationId).any
    (fun g => g.applicationId = app.id) = true
  expected : app.artifactSetId = some bound.artifactSetId ∧ bound.artifactSetId ≠ ""
  artifacts : (db.getArtifactSet bound.artifactSetId).any
    (fun a => a.generationId = bound.acceptedGenerationId) = true
  intent : app.intentRevisionId = some bound.intentRevisionId ∧ bound.intentRevisionId ≠ ""
  required : decodeRequiredTargets c.requiredTargets = some bound.requiredNodeIds
  source : app.sourceAcceptanceRef = some bound.sourceAcceptanceRef ∧ bound.sourceAcceptanceRef ≠ ""
  acceptance : (db.resolveSourceAcceptance bound.sourceAcceptanceRef app.id
    bound.acceptedGenerationId).isSome = true
  placement : app.placementApprovalRef = some bound.placementApprovalRef ∧
    bound.placementApprovalRef ≠ ""
  approval : (db.resolvePlacementApproval bound.placementApprovalRef app.id
    bound.intentRevisionId bound.requiredNodeIds).isSome = true

/-- A candidate that fits, with everything else current, is authorizable. -/
theorem authorizationIngredients_of_fits {app : Application}
    {bound : AuthorizationIngredients} (hcur : CurrentCandidate db app c)
    (howner : c.applicationId = app.id) (hfits : c.Fits app)
    (h : IngredientsCurrent db app c bound) : db.authorizationIngredients app = some bound := by
  obtain ⟨hcand, hnamed⟩ := h.candidate
  obtain ⟨hacc, hacceptedNe⟩ := h.accepted
  obtain ⟨hexp, hexpectedNe⟩ := h.expected
  obtain ⟨hintent, hintentNe⟩ := h.intent
  obtain ⟨hsource, hsourceNe⟩ := h.source
  obtain ⟨hplacement, hplacementNe⟩ := h.placement
  obtain ⟨generation, hgeneration, hgenerationOk⟩ := (any_eq_true _ _).mp h.generation
  obtain ⟨artifacts, hartifacts, hartifactsOk⟩ := (any_eq_true _ _).mp h.artifacts
  obtain ⟨acceptance, hacceptance⟩ := isSome_iff_exists.mp h.acceptance
  obtain ⟨approval, happroval⟩ := isSome_iff_exists.mp h.approval
  have hnames : c.intentRevisionId = bound.intentRevisionId :=
    some.inj (hcur.intent.trans hintent)
  have hgenerationFits : c.acceptedGenerationId.all
      (fun g => g = bound.acceptedGenerationId) = true := by
    rcases hfits.1 with hnone | hsame
    · rw [hnone]
      rfl
    · rw [hsame, hacc]
      simp
  have hartifactFits : c.artifactSetId.all (fun a => a = bound.artifactSetId) = true := by
    rcases hfits.2 with hnone | hsame
    · rw [hnone]
      rfl
    · rw [hsame, hexp]
      simp
  have hnamedBy : ∀ {s : String}, s ≠ "" → (some s).filter (fun s => truthy (some s)) = some s :=
    fun hs => filter_eq_some_iff.mpr ⟨rfl, by simp [truthy, hs]⟩
  have hst : (db.getRolloutCandidate c.id).filter (fun c => c.applicationId = app.id &&
      (c.acceptedGenerationId.all fun g => g = bound.acceptedGenerationId) &&
      (c.artifactSetId.all fun a => a = bound.artifactSetId) &&
      c.intentRevisionId = bound.intentRevisionId) = some c := by
    refine filter_eq_some_iff.mpr ⟨hcur.stored, ?_⟩
    simp [howner, hgenerationFits, hartifactFits, hnames]
  unfold authorizationIngredients
  rw [hcur.pointer, hacc, hexp, hintent, hsource, hplacement, hnamedBy hnamed,
    hnamedBy hacceptedNe, hnamedBy hexpectedNe, hnamedBy hintentNe, hnamedBy hsourceNe,
    hnamedBy hplacementNe]
  simp only [bind_eq_bind, bind_some]
  rw [hst, filter_eq_some_iff.mpr ⟨hgeneration, hgenerationOk⟩,
    filter_eq_some_iff.mpr ⟨hartifacts, hartifactsOk⟩]
  simp only [bind_some]
  rw [h.required, hacceptance]
  simp only [bind_some]
  rw [happroval, ← hcand]
  rfl

/-- The current candidate stands in the way of no authorization. -/
structure Reauthorizes (db : Db) (app : Application) (c : RolloutCandidate) : Prop where
  fits : c.Fits app
  authorizes : ∀ bound, IngredientsCurrent db app c bound → db.authorizationIngredients app ≠ none

/-- After every run of calls that keep the binding, the current candidate of a
Blueprint application stands in the way of no authorization. -/
theorem candidate_reauthorizes (calls : List Transition)
    (hcalls : Runs.Along (step repoKey) (fun db tr => tr.KeepsBinding db) empty calls) :
    ∀ id app c, (runTransitions repoKey empty calls).getApplication id = some app →
      app.targetMode = .blueprint →
      CurrentCandidate (runTransitions repoKey empty calls) app c →
      Reauthorizes (runTransitions repoKey empty calls) app c := by
  intro id app c happ hblue hcur
  have hrun := Runs.run_along (P := fun db => CandidateOwned db ∧ CandidateFits db)
    (fun db tr h hkeeps => ⟨candidateOwned_step h.1 hkeeps.1, candidateFits_step h.1 h.2 hkeeps⟩)
    ⟨candidateOwned_empty, fun _ _ _ h => by cases h⟩ hcalls
  obtain ⟨howned, hfits⟩ := hrun
  have hfit : c.Fits app := hfits id app c happ hblue hcur
  obtain ⟨c₀, hc₀, howner⟩ := howned.pointers id app c.id happ hcur.pointer
  cases some.inj (hc₀.symm.trans hcur.stored)
  have hid : app.id = id := key_of_find? happ
  refine ⟨hfit, fun bound hbound => ?_⟩
  rw [authorizationIngredients_of_fits hcur (howner.trans hid.symm) hfit hbound]
  exact some_ne_none bound

/-- The candidate of a retargeted stack, authorized with the artifacts resolved
for its generation. -/
def rolloutStarted : List Transition :=
  retargeted ++ [.recordArtifactEvidence "app" "g1" "resolved" 2 .exact ⟨.exact, "digests"⟩ false
      (envelopeAt "resolve" 6),
    .rolloutCandidateOpened "app"
      ⟨"c1", "app", "i1", none, none, [1], .intentChange, 7⟩ (envelopeAt "open" 7),
    .placementApproved ⟨"app", "p1", "i1", [⟨1, .place⟩], [1], none, none,
      envelopeAt "place" 8, "r1", "c1", .operator, none, none, none⟩,
    .rolloutAuthorized ⟨"app", "a1", "r2", String.ofList (List.replicate 64 'a'), "preflight",
      none, envelopeAt "authorize" 9, none, .operator, none⟩]

/-- An application without a candidate has no current one. -/
theorem no_currentCandidate
    (h : (db.getApplication id).all (fun app => app.rolloutCandidateId = none) = true)
    {app : Application} (happ : db.getApplication id = some app) : ¬ CurrentCandidate db app c := by
  intro hcur
  rw [happ, all_some, decide_eq_true_eq, hcur.pointer] at h
  cases h

/-- An authorized candidate stands in the way of no later authorization. -/
theorem rolloutStarted_reauthorizes :
    ∃ app c, (runTransitions (fun url => some url) empty rolloutStarted).getApplication
        "app" = some app ∧
      CurrentCandidate (runTransitions (fun url => some url) empty rolloutStarted) app c ∧
      Reauthorizes (runTransitions (fun url => some url) empty rolloutStarted) app c := by
  have hcand : ((runTransitions (fun url => some url) empty
      rolloutStarted).getRolloutCandidate "c1").any (fun c =>
        c.intentRevisionId = "i1") = true := by
    decide +kernel
  have hrow : ((runTransitions (fun url => some url) empty
      rolloutStarted).getApplication "app").any (fun app =>
        app.targetMode = .blueprint && app.rolloutCandidateId = some "c1" &&
          app.intentRevisionId = some "i1") = true := by
    decide +kernel
  obtain ⟨c, hc, hnames⟩ := (any_eq_true _ _).mp hcand
  obtain ⟨app, happ, hcolumns⟩ := (any_eq_true _ _).mp hrow
  simp only [Bool.and_eq_true, decide_eq_true_eq] at hnames hcolumns
  obtain ⟨⟨hblue, hptr⟩, hintent⟩ := hcolumns
  have hid : c.id = "c1" := Table.key_of_find? hc
  have hcur : CurrentCandidate _ app c :=
    ⟨hptr.trans (congrArg some hid.symm), hid.symm ▸ hc, (congrArg some hnames).trans hintent.symm⟩
  refine ⟨app, c, happ, hcur, candidate_reauthorizes rolloutStarted ?_ "app" app c happ hblue hcur⟩
  have hunbound : RolloutCandidate.Unbound
      ⟨"c1", "app", "i1", none, none, [1], .intentChange, 7⟩ := ⟨rfl, rfl⟩
  refine ⟨⟨⟨rfl, rfl⟩, trivial⟩, ⟨trivial, trivial⟩, ⟨trivial, trivial⟩, ⟨trivial, trivial⟩,
    ⟨trivial, fun app c happ _ h => absurd h (no_currentCandidate ?_ happ)⟩,
    ⟨trivial, trivial⟩,
    ⟨trivial, fun app c happ _ h _ _ => absurd h (no_currentCandidate ?_ happ)⟩,
    ⟨hunbound, trivial⟩, ⟨trivial, trivial⟩, ⟨trivial, trivial⟩, trivial⟩
  · decide +kernel
  · decide +kernel

/-- Then an operator accepts newer artifacts of the generation. -/
def expectationMoved : List Transition :=
  rolloutStarted ++
    [.recordArtifactEvidence "app" "g1" "newer" 3 .exact ⟨.exact, "newer digests"⟩ false
      (envelopeAt "evidence" 10),
    .acceptArtifactExpectation "app" "g1" "newer" (envelopeAt "expect" 11)]

/-- Every part of the authorization is current, and the candidate, bound to the
artifacts resolved first, refuses it. -/
theorem accepted_expectation_strands_candidate :
    ¬ ∀ (calls : List Transition) (id : String) (app : Application) (c : RolloutCandidate),
      (runTransitions (fun url => some url) empty calls).getApplication id = some app →
      app.targetMode = .blueprint →
      CurrentCandidate (runTransitions (fun url => some url) empty calls) app c →
      Reauthorizes (runTransitions (fun url => some url) empty calls) app c := by
  intro h
  have hcand : ((runTransitions (fun url => some url) empty
      expectationMoved).getRolloutCandidate "c1").any (fun c =>
        c.intentRevisionId = "i1" && c.artifactSetId = some "resolved" &&
          c.requiredTargets = [1]) = true := by
    decide +kernel
  have hrow : ((runTransitions (fun url => some url) empty
      expectationMoved).getApplication "app").any (fun app =>
        app.targetMode = .blueprint && app.rolloutCandidateId = some "c1" &&
          app.artifactSetId = some "newer" && app.intentRevisionId = some "i1") = true := by
    decide +kernel
  obtain ⟨c, hc, hbound⟩ := (any_eq_true _ _).mp hcand
  obtain ⟨app, happ, hcolumns⟩ := (any_eq_true _ _).mp hrow
  simp only [Bool.and_eq_true, decide_eq_true_eq] at hbound hcolumns
  obtain ⟨⟨⟨hblue, hptr⟩, hexp⟩, hintent⟩ := hcolumns
  have hid : c.id = "c1" := Table.key_of_find? hc
  have hcur : CurrentCandidate _ app c :=
    ⟨hptr.trans (congrArg some hid.symm), hid.symm ▸ hc,
      (congrArg some hbound.1.1).trans hintent.symm⟩
  have hanswer := h expectationMoved "app" app c happ hblue hcur
  rcases hanswer.fits.2 with hnone | hsame
  · rw [hbound.1.2] at hnone
    cases hnone
  · rw [hbound.1.2, hexp] at hsame
    exact absurd hsame (by decide)

end Sencho.GitOps

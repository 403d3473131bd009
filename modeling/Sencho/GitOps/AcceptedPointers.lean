import Sencho.GitOps.Evidence
import Sencho.GitOps.RolloutCalls

/-!
# The accepted source

An application names the generation it accepted, the artifact set it expects of
it and the acceptance that authorized it.  The three move together: an
acceptance sets them, an Inline freeze mints its own generation, a revised
compose drops them, and new evidence moves the artifact set alone.
-/

namespace Sencho.GitOps

open Verified Option Tx Transition Table Db

variable {repoKey : String → Option String} {db db' : Db} {tr : Transition}
  {app app' : Application} {envelope : EventEnvelope}
variable {args : AppliedArgs} {artifactSetId id : String}

/-- The rows a call activates name no candidate. -/
def Transition.ActivatesUnoffered (tr : Transition) : Prop :=
  ∀ application, tr.inserts = some application → application.candidateGenerationId = none

/-- The guards of an acceptance, on the row it edits. -/
structure AcceptGuards (db : Db) (app : Application) (args : AppliedArgs) : Prop where
  candidate : app.candidateGenerationId = some args.generationId
  unblocked : app.candidatePlanBlocked = false
  policy : args.authority = .configuredPolicy → app.sourcePolicy = .automatic
  owned : ∃ g, db.getGeneration args.generationId = some g ∧ g.applicationId = app.id

theorem guards_requireAcceptableCandidate :
    Tx.Ensures (requireAcceptableCandidate app args) db fun _ _ =>
      AcceptGuards db app args := by
  unfold requireAcceptableCandidate
  rw [ensures_bind, ensures_refuseIf]
  intro hcand
  rw [ensures_bind, ensures_refuseIf]
  intro hunblocked
  rw [ensures_bind, ensures_refuseIf]
  intro hpolicy
  rw [ensures_bind, ensures_refuseIf]
  intro _
  rw [ensures_bind, ensures_requireOwnedGeneration]
  intro g hg
  have hauthority : args.authority = .configuredPolicy → app.sourcePolicy = .automatic := by
    intro hauthority
    simpa [hauthority] using hpolicy
  exact fun _ _ _ => ⟨by simpa using hcand, hunblocked, hauthority, g, hg⟩

theorem guards_applied : Tx.Ensures (applied args) db fun _ _ =>
      ∃ app, db.getApplication args.applicationId = some app ∧ AcceptGuards db app args := by
  refine ensures_mutateApp.mpr fun app happ => ?_
  unfold acceptanceTargets
  rw [ensures_bind, ensures_bind]
  exact guards_requireAcceptableCandidate.mono fun _ _ h _ _ _ _ _ _ => ⟨app, happ, h⟩

theorem guards_sourceAccepted : Tx.Ensures (sourceAccepted args) db fun _ _ =>
      ∃ app, db.getApplication args.applicationId = some app ∧
        truthyAt app.suspendedAt = false ∧ AcceptGuards db app args := by
  refine ensures_mutateApp.mpr fun app happ => ?_
  rw [ensures_bind, ensures_refuseIf]
  intro hlive
  rw [ensures_bind]
  exact guards_requireAcceptableCandidate.mono fun _ _ h _ _ _ => ⟨app, happ, hlive, h⟩

/-- The seed artifact set and the decision an acceptance records. -/
structure AcceptanceRecorded (db : Db) (args : AppliedArgs) : Prop where
  seed : ∃ a, db.getArtifactSet args.artifactSetId = some a ∧ a.generationId = args.generationId
  decision : ∃ a, db.resolveDecision args.sourceAcceptanceId args.applicationId
    .sourceAcceptance = some a ∧ a.generationId = some args.generationId

theorem AcceptanceRecorded.lasts (h : AcceptanceRecorded db args) (hlasts : Lasts db db') :
    AcceptanceRecorded db' args := by
  obtain ⟨⟨seed, hseed, hof⟩, a, hdecision, hnames⟩ := h
  obtain ⟨hst, happ, hkind, hauth, hwho⟩ := resolveDecision_iff.mp hdecision
  obtain ⟨a', hst', hsame⟩ := hlasts.approvals _ a hst
  refine ⟨⟨seed, hlasts.artifactSets _ seed hseed, hof⟩, a', ?_, hsame.generationId.trans hnames⟩
  refine resolveDecision_iff.mpr ⟨hst', hsame.applicationId.trans happ,
    hsame.kind.trans hkind, hsame.authoritative.trans hauth, ?_⟩
  rw [hsame.authority]
  exact hwho

/-- Two statements, of which the second alone is looked at. -/
theorem ensures_after {α β : Type} {p : Store α} {f : α → Store β} {Q : β → Db → Prop}
    (h : ∀ a db', Tx.Ensures (f a) db' Q) : Tx.Ensures (p >>= f) db Q :=
  ensures_bind.mpr fun a db' _ => h a db'

theorem recorded_insertAcceptanceRecords (hid : app.id = args.applicationId) :
    Tx.Ensures (insertAcceptanceRecords app args) db fun _ db' => AcceptanceRecorded db' args := by
  unfold insertAcceptanceRecords insertArtifactSet insertApproval
  simp only [ensures_bind, ensures_refuseIf, ensures_get, ensures_insertRow]
  intro _ _ _ sets hsets _ _ _ approvals happrovals
  refine ⟨⟨_, find?_inserted hsets, rfl⟩, _, resolveDecision_iff.mpr
    ⟨find?_inserted happrovals, hid, rfl, rfl, ?_⟩, rfl⟩
  cases args.authority with
  | operator => exact .inl rfl
  | configuredPolicy => exact .inr rfl

theorem keeps_rebindRolloutCandidate {gid : String} :
    Tx.Keeps Lasts (rebindRolloutCandidateOnAcceptance app gid) := by
  refine fun db => ensures_rebound.mono fun _ db' hmap => ?_
  exact .of_tables hmap.1.generations hmap.1.artifactSets hmap.1.approvals

/-- What an acceptance records is there when it is done. -/
theorem recorded_accepted (hid : app.id = args.applicationId) {f : Application → Store Application}
    (hf : ∀ app, Tx.Keeps Lasts (f app)) :
    Tx.Ensures (do
        let app ← invalidateAuthorizationOnSourceChange app args.envelope
        let app ← applySourceAcceptanceMutation app args
        f app) db fun _ db' => AcceptanceRecorded db' args := by
  rw [ensures_bind, ensures_authorizationDropped]
  unfold applySourceAcceptanceMutation
  rw [ensures_bind, ensures_bind]
  have hid' : (app.withoutAuthorization db).id = args.applicationId := by
    rw [withoutAuthorization_eq]
    exact hid
  refine (recorded_insertAcceptanceRecords hid').mono fun _ db₁ hrecorded => ?_
  rw [ensures_pure]
  exact (hf _ db₁).mono fun _ db' hlasts => hrecorded.lasts hlasts

theorem recorded_applied :
    Tx.Ensures (applied args) db fun _ db' => AcceptanceRecorded db' args := by
  refine ensures_mutateApp.mpr fun app happ => ensures_after fun targets db₁ => ?_
  refine (recorded_accepted (key_of_find? happ) fun accepted => ?_).mono fun _ db' h =>
    h.lasts (.of_tables rfl rfl rfl)
  refine keeps_bind lasts_statements.toQuasi keeps_rebindRolloutCandidate fun _ => ?_
  refine keeps_bind lasts_statements.toQuasi ?_ fun _ => keeps_pure lasts_statements.toQuasi
  exact keeps_forM lasts_statements.toQuasi fun _ => lasts_statements.target _

theorem recorded_sourceAccepted :
    Tx.Ensures (sourceAccepted args) db fun _ db' => AcceptanceRecorded db' args := by
  refine ensures_mutateApp.mpr fun app happ => ensures_after fun _ _ => ?_
  refine ensures_after fun _ _ => ensures_after fun _ db₁ => ?_
  refine (recorded_accepted (key_of_find? happ) fun accepted => ?_).mono fun _ db' h =>
    h.lasts (.of_tables rfl rfl rfl)
  exact keeps_bind lasts_statements.toQuasi keeps_rebindRolloutCandidate fun _ =>
    keeps_pure lasts_statements.toQuasi

/-- What a call does to the accepted generation, the artifact set expected of it
and the acceptance that authorized it. -/
inductive PointerMove (db db' : Db) (tr : Transition) (app app' : Application) : Prop where
  | kept (hacc : app'.acceptedGenerationId = app.acceptedGenerationId)
      (hartifact : app'.artifactSetId = app.artifactSetId)
      (hsource : app'.sourceAcceptanceRef = app.sourceAcceptanceRef)
  | accepted (args : AppliedArgs) (hguards : AcceptGuards db app args)
      (hrecorded : AcceptanceRecorded db' args) (hid : app.id = args.applicationId)
      (hacc : app'.acceptedGenerationId = some args.generationId)
      (hartifact : app'.artifactSetId = some args.artifactSetId)
      (hsource : app'.sourceAcceptanceRef = some args.sourceAcceptanceId)
  | cleared (intent : IntentRevision) (envelope : EventEnvelope)
      (htr : tr = .intentRevised app.id intent envelope)
      (hmode : app.targetMode = .inlineBlueprint) (hcompose : ComposeChanged db app intent)
      (hacc : app'.acceptedGenerationId = none) (hartifact : app'.artifactSetId = none)
  | frozen (g : Generation) (artifactSetId : String) (envelope : EventEnvelope)
      (htr : tr = .inlineRevisionFrozen app.id g artifactSetId envelope)
      (hmode : app.targetMode = .inlineBlueprint) (hminted : db.getGeneration g.id = none)
      (hst : db'.getGeneration g.id = some g) (howned : g.applicationId = app.id)
      (hseed : ∃ a, db'.getArtifactSet artifactSetId = some a ∧ a.generationId = g.id)
      (hacc : app'.acceptedGenerationId = some g.id)
      (hartifact : app'.artifactSetId = some artifactSetId)
  | evidence (gid artifactSetId : String) (hcur : app.acceptedGenerationId = some gid)
      (hset : ∃ a, db'.getArtifactSet artifactSetId = some a ∧ a.generationId = gid)
      (hacc : app'.acceptedGenerationId = app.acceptedGenerationId)
      (hartifact : app'.artifactSetId = some artifactSetId)
      (hsource : app'.sourceAcceptanceRef = app.sourceAcceptanceRef)

/-- A call that moved the pointers of one application. -/
def PointerMoved (db db' : Db) (tr : Transition) (id : String) : Prop :=
  ∃ app app', db.getApplication id = some app ∧ db'.getApplication id = some app' ∧
    PointerMove db db' tr app app'

theorem pointerMoved_of_accepts {p : Store Unit}
    (haccepts : Tx.Ensures p db fun _ db' => ∃ app, Accepts db db' args app)
    (hguards : Tx.Ensures p db fun _ _ => ∃ app,
      db.getApplication args.applicationId = some app ∧ AcceptGuards db app args)
    (hrecorded : Tx.Ensures p db fun _ db' => AcceptanceRecorded db' args) :
    Tx.Ensures p db fun _ db' => PointerMoved db db' tr args.applicationId := by
  refine ((haccepts.and hguards).and hrecorded).mono fun _ db' h => ?_
  obtain ⟨⟨⟨app, haccepts⟩, old, hold, hguard⟩, hrecord⟩ := h
  cases some.inj (hold.symm.trans haccepts.before)
  refine ⟨_, _, haccepts.before, haccepts.after, .accepted args hguard hrecord
    (key_of_find? haccepts.before) ?_ ?_ ?_⟩
  all_goals
    unfold Application.accepting
    rw [acceptedApplication_eq]
    rfl

theorem pointerMoved_intentRevised {intent : IntentRevision} :
    Tx.Ensures (intentRevised id intent envelope) db fun _ db' =>
      PointerMoved db db' (.intentRevised id intent envelope) id := by
  refine ensures_intentRevised.mono fun _ db' h => ?_
  obtain ⟨app, app', h⟩ := h
  refine ⟨app, app', h.before, h.after, ?_⟩
  rcases h.freeze with ⟨hacc, hartifact⟩ | ⟨hmode, hcompose, hacc, hartifact⟩
  · exact .kept hacc hartifact h.source
  · have hid : app.id = id := key_of_find? h.before
    exact .cleared intent envelope (by rw [hid]) hmode hcompose hacc hartifact

/-- Freezing leaves the applications as they are and the minted rows behind. -/
theorem ensures_freezeRevision {generation : Generation} :
    Tx.Ensures (freezeRevision app generation artifactSetId envelope) db fun app' db' =>
      app'.id = app.id ∧ db'.applications = db.applications ∧
        db.getGeneration generation.id = none ∧
        db'.getGeneration generation.id = some generation ∧
        generation.applicationId = app.id ∧
        (∃ a, db'.getArtifactSet artifactSetId = some a ∧ a.generationId = generation.id) ∧
        app'.acceptedGenerationId = some generation.id ∧
        app'.artifactSetId = some artifactSetId := by
  unfold freezeRevision insertGeneration insertArtifactSet
  simp only [ensures_bind, ensures_refuseIf, ensures_get, ensures_insertRow]
  intro howned _ _ generations hgens _ _ _ sets hsets
  have hminted := (insert?_eq_some hgens).1
  refine (ensures_forM (I := fun db' => db'.applications = db.applications ∧
    db'.generations = generations ∧ db'.artifactSets = sets) _ ?_ ⟨rfl, rfl, rfl⟩).mono
      fun _ db' h => ?_
  · intro t _ db₁ h
    unfold freezeTarget
    rw [ensures_ite, ensures_pure, ensures_bind, ensures_refuseIf]
    exact ⟨fun _ => h, fun _ _ => ensures_upsert.mpr fun _ => h⟩
  · obtain ⟨happs, hg, ha⟩ := h
    refine ensures_pure.mpr ⟨rfl, happs, hminted, ?_, by simpa using howned,
      ⟨seedArtifactSet artifactSetId generation.id envelope.at_, ?_, rfl⟩, rfl, rfl⟩
    · unfold getGeneration
      rw [hg]
      exact find?_inserted hgens
    · unfold getArtifactSet
      rw [ha]
      exact @find?_inserted _ _ _ _ _ _
        (seedArtifactSet artifactSetId generation.id envelope.at_) hsets

theorem pointerMoved_inlineRevisionFrozen {g : Generation} :
    Tx.Ensures (inlineRevisionFrozen id g artifactSetId envelope) db fun _ db' =>
      PointerMoved db db' (.inlineRevisionFrozen id g artifactSetId envelope) id := by
  unfold inlineRevisionFrozen
  rw [ensures_bind, ensures_requireApp]
  intro app happ
  have hid : app.id = id := key_of_find? happ
  rw [ensures_bind, ensures_refuseIf]
  intro hmode
  rw [ensures_ite, ensures_pure]
  refine ⟨fun _ => ⟨app, app, happ, happ, .kept rfl rfl rfl⟩, fun _ => ?_⟩
  refine ensures_mutateApp.mpr fun app₀ happ₀ => ?_
  cases some.inj (happ₀.symm.trans happ)
  rw [ensures_ite, ensures_pure]
  refine ⟨fun _ => ?_, fun _ => ?_⟩
  · exact ⟨app, _, happ, getApplication_writeApp_self hid happ, .kept rfl rfl rfl⟩
  · refine ensures_freezeRevision.mono fun app' db' h => ?_
    obtain ⟨hid', happs, hminted, hst, howned, hseed, hacc, hartifact⟩ := h
    have happ' : db'.getApplication id = some app := by
      unfold getApplication
      rw [happs]
      exact happ
    refine ⟨app, _, happ, getApplication_writeApp_self (hid'.trans hid) happ', ?_⟩
    refine .frozen g artifactSetId envelope (by rw [hid]) (by simpa using hmode) hminted hst
      howned hseed hacc hartifact

theorem pointerMoved_recordArtifactEvidence {gid : String} {version : Nat}
    {qualification : ArtifactQualification} {evidence : ArtifactEvidence} {authoritative : Bool} :
    Tx.Ensures (recordArtifactEvidence id gid artifactSetId version qualification evidence
      authoritative envelope) db fun _ db' => PointerMoved db db' tr id := by
  refine ensures_evidenceRecorded.mono fun _ db' h => ?_
  obtain ⟨app, app', h⟩ := h
  refine ⟨app, app', h.before, h.after, ?_⟩
  rcases h.artifactSet with hkept | ⟨hcur, -, hmoved⟩
  · exact .kept h.kept.1 hkept h.kept.2
  · exact .evidence gid artifactSetId hcur h.set h.kept.1 hmoved h.kept.2

theorem pointerMoved_acceptArtifactExpectation {gid : String} :
    Tx.Ensures (acceptArtifactExpectation id gid artifactSetId envelope) db fun _ db' =>
      PointerMoved db db' tr id := by
  refine ensures_expectationAccepted.mono fun _ db' h => ?_
  obtain ⟨app, app', h⟩ := h
  obtain ⟨a, ha, hof⟩ := (Option.any_eq_true _ _).mp h.owned
  rw [Bool.and_eq_true, decide_eq_true_eq] at hof
  have hset : db'.getArtifactSet artifactSetId = some a := by
    unfold getArtifactSet
    rw [h.sets]
    exact ha
  exact ⟨app, app', h.before, h.after,
    .evidence gid artifactSetId h.accepted ⟨a, hset, hof.1⟩ h.kept.1 h.artifactSet h.kept.2⟩

/-- The application whose pointers a call may move. -/
def Transition.pointsAt : Transition → Option String
  | .applied args | .sourceAccepted args => some args.applicationId
  | .intentRevised id _ _ | .inlineRevisionFrozen id _ _ _
  | .recordArtifactEvidence id _ _ _ _ _ _ _ | .acceptArtifactExpectation id _ _ _ => some id
  | _ => none

theorem perform_pointers (hat : tr.pointsAt = some id) :
    Tx.Ensures (tr.perform repoKey) db fun _ db' => PointerMoved db db' tr id := by
  cases tr <;> try cases hat
  case applied =>
    exact pointerMoved_of_accepts ensures_applied_accepts guards_applied recorded_applied
  case sourceAccepted =>
    refine pointerMoved_of_accepts ensures_sourceAccepted_accepts ?_ recorded_sourceAccepted
    exact guards_sourceAccepted.mono fun _ _ ⟨app, happ, _, h⟩ => ⟨app, happ, h⟩
  case intentRevised => exact pointerMoved_intentRevised
  case inlineRevisionFrozen => exact pointerMoved_inlineRevisionFrozen
  case recordArtifactEvidence => exact pointerMoved_recordArtifactEvidence
  case acceptArtifactExpectation => exact pointerMoved_acceptArtifactExpectation

theorem pointsAt_writes (hat : tr.pointsAt ≠ some id) {c : AppColumn}
    (hc : c ∈ [AppColumn.accepted, .artifactSet, .sourceAcceptance]) :
    tr.activates = true ∨ ¬ tr.writes (.app id c) := by
  cases hactivates : tr.activates with
  | true => exact .inl rfl
  | false =>
    refine .inr fun hw => ?_
    obtain ⟨howns, hmem⟩ := hw
    simp only [List.mem_cons, List.not_mem_nil, or_false] at hc
    cases tr <;> rcases hc with rfl | rfl | rfl <;>
      simp [activates, appWrites, authorizationColumns,
        acceptanceColumns, pointsAt, scope, Scope.ownsApp]
        at hactivates hmem hat howns
    all_goals exact hat howns.symm

/-- What a call does to the pointers of an application that is there. -/
theorem step_pointers (happ : db.getApplication id = some app)
    (happ' : (step repoKey db tr).getApplication id = some app') :
    PointerMove db (step repoKey db tr) tr app app' := by
  by_cases hat : tr.pointsAt = some id
  · rcases step_or (perform_pointers hat) with hrf | ⟨old, now, hold, hnow, hmove⟩
    · have happ₁ := happ'
      rw [hrf] at happ₁
      cases some.inj (happ.symm.trans happ₁)
      exact .kept rfl rfl rfl
    · cases some.inj (hold.symm.trans happ)
      cases some.inj (hnow.symm.trans happ')
      exact hmove
  · obtain ⟨now, hnow, hkept⟩ := @step_app repoKey _ tr _ _ happ
    cases some.inj (hnow.symm.trans happ')
    exact .kept (hkept .accepted (pointsAt_writes hat (by simp)))
      (hkept .artifactSet (pointsAt_writes hat (by simp)))
      (hkept .sourceAcceptance (pointsAt_writes hat (by simp)))

end Sencho.GitOps

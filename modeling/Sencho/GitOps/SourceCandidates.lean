import Sencho.GitOps.AcceptedPointers
import Sencho.GitOps.HoldSteps

/-!
# Source candidates

A candidate is checked when it is offered and dropped when what it was built
from changes, so the candidate an application holds is good for as long as it
holds it.  An acceptance takes the candidate of the row it edits; the only
generation an application accepts otherwise is the one an Inline freeze mints.
-/

namespace Sencho.GitOps

open Verified Option Tx Transition Db

variable {repoKey : String → Option String} {db db' : Db} {tr : Transition}
  {app app' : Application} {envelope : EventEnvelope}
variable {id : String} (calls : List Transition)

/-- A valid generation of an application, built from its configuration, whose
plan is not blocked. -/
structure GoodCandidate (db : Db) (id : String) (fingerprint : Option String) (gid : String) :
    Prop where
  generation : ∃ g, db.getGeneration gid = some g ∧ g.applicationId = id ∧
    g.validationOk = true ∧ g.planBlocked = false ∧
    some g.materializationFingerprint = fingerprint

theorem GoodCandidate.lasts {gid : String} {fingerprint : Option String}
    (h : GoodCandidate db id fingerprint gid) (hlasts : Lasts db db') :
    GoodCandidate db' id fingerprint gid := by
  obtain ⟨g, hg, hgood⟩ := h.generation
  exact ⟨g, hlasts.generations gid g hg, hgood⟩

/-- What a call does to the candidate of an application. -/
inductive OfferMove (db : Db) (app app' : Application) : Prop where
  | kept (hcand : app'.candidateGenerationId = app.candidateGenerationId)
      (hblocked : app'.candidatePlanBlocked = app.candidatePlanBlocked)
      (hfingerprint : app'.configured.fingerprint = app.configured.fingerprint)
  | dropped (hcand : app'.candidateGenerationId = none)
  | blocked (hblocked : app'.candidatePlanBlocked = true)
  | offered (gid : String) (hcand : app'.candidateGenerationId = some gid)
      (hgood : GoodCandidate db app.id app.configured.fingerprint gid)
      (hfingerprint : app'.configured.fingerprint = app.configured.fingerprint)

/-- A call that moved the candidate of one application. -/
def OfferMoved (db db' : Db) (id : String) : Prop :=
  ∃ app app', db.getApplication id = some app ∧ db'.getApplication id = some app' ∧
    OfferMove db app app'

/-- An edit of an application that moves its candidate. -/
theorem offerMoved_mutateApp {mutate : Application → Store Application}
    (h : ∀ app, db.getApplication id = some app → Tx.Ensures (mutate app) db fun app' db' =>
      app'.id = app.id ∧ db'.applications = db.applications ∧ OfferMove db app app') :
    Tx.Ensures (mutateApp id envelope mutate) db fun _ db' => OfferMoved db db' id := by
  refine ensures_mutateApp.mpr fun app happ => (h app happ).mono fun app' db' hedit => ?_
  obtain ⟨hid, happs, hmove⟩ := hedit
  have hst : db'.getApplication id = some app := by
    unfold getApplication
    rw [happs]
    exact happ
  refine ⟨app, _, happ, @Db.getApplication_writeApp_self _ _ app _
    (hid.trans (Table.key_of_find? happ)) hst, ?_⟩
  cases hmove with
  | kept hcand hblocked hfingerprint => exact .kept hcand hblocked hfingerprint
  | dropped hcand => exact .dropped hcand
  | blocked hblocked => exact .blocked hblocked
  | offered gid hcand hgood hfingerprint =>
    exact .offered gid hcand hgood hfingerprint

theorem moved_sourceConflictBlocker {gid : String} :
    Tx.Ensures (sourceConflictBlocker id gid envelope) db fun _ db' =>
      OfferMoved db db' id := by
  refine offerMoved_mutateApp fun app _ => ?_
  simp only [ensures_bind, ensures_requireOwnedGeneration, ensures_refuseIf]
  intro g _ _ _
  refine applications_forEachLive.mono fun _ db' happs => ?_
  exact ensures_pure.mpr ⟨rfl, happs, .blocked rfl⟩

theorem moved_dismissed :
    Tx.Ensures (dismissed id envelope) db fun _ db' => OfferMoved db db' id := by
  refine offerMoved_mutateApp fun app _ => ?_
  simp only [ensures_bind, ensures_refuseIf]
  intro _ _
  refine applications_forEachLive.mono fun _ db' happs => ?_
  exact ensures_pure.mpr ⟨rfl, happs, .dropped rfl⟩

theorem moved_configChanged {configured : SourceConfiguration} :
    Tx.Ensures (configChangedPendingCleared id configured envelope) db fun _ db' =>
      OfferMoved db db' id := by
  refine offerMoved_mutateApp fun app _ => ?_
  simp only [ensures_bind, ensures_refuseIf]
  intro _ _
  refine applications_forEachLive.mono fun _ db' happs => ?_
  rw [ensures_pure, Application.clearFailure_eq]
  exact ⟨rfl, happs, .dropped rfl⟩

theorem moved_candidateReady {gid : String} {reviewRequired : Bool} :
    Tx.Ensures (candidateReady id gid reviewRequired envelope) db fun _ db' =>
      OfferMoved db db' id := by
  refine offerMoved_mutateApp fun app _ => ?_
  simp only [ensures_bind, ensures_requireOwnedGeneration, ensures_refuseIf]
  intro g hg hvalid hfingerprint _
  refine applications_forEachLive.mono fun _ db' happs => ?_
  rw [ensures_pure, Application.clearFailure_eq]
  rw [Bool.or_eq_false_iff, Bool.not_eq_false'] at hvalid
  have hgood : GoodCandidate db app.id app.configured.fingerprint gid :=
    ⟨g, hg.1, hg.2, hvalid.1, hvalid.2, by simpa using hfingerprint⟩
  exact ⟨rfl, happs, .offered gid rfl hgood rfl⟩

theorem Accepts.offerMoved {args : AppliedArgs} (h : Accepts db db' args app) :
    OfferMoved db db' args.applicationId := by
  refine ⟨app, _, h.before, h.after, .dropped ?_⟩
  show (acceptedApplication (app.withoutAuthorization db) args).candidateGenerationId = none
  rw [acceptedApplication_eq]

/-- The application whose candidate a call may move. -/
def Transition.offersAt : Transition → Option String
  | .sourceConflictBlocker id _ _ | .dismissed id _ | .configChangedPendingCleared id _ _
  | .candidateReady id _ _ _ => some id
  | .applied args | .sourceAccepted args => some args.applicationId
  | _ => none

theorem perform_offer (hat : tr.offersAt = some id) :
    Tx.Ensures (tr.perform repoKey) db fun _ db' => OfferMoved db db' id := by
  cases tr <;> try cases hat
  case sourceConflictBlocker => exact moved_sourceConflictBlocker
  case dismissed => exact moved_dismissed
  case configChangedPendingCleared => exact moved_configChanged
  case candidateReady => exact moved_candidateReady
  case applied args =>
    exact ensures_applied_accepts.mono fun _ _ ⟨_, haccepts⟩ => haccepts.offerMoved
  case sourceAccepted args =>
    exact ensures_sourceAccepted_accepts.mono fun _ _ ⟨_, haccepts⟩ => haccepts.offerMoved

theorem offersAt_writes (hat : tr.offersAt ≠ some id) {c : AppColumn}
    (hc : c ∈ [AppColumn.candidate, .planBlocked, .fingerprint]) :
    tr.activates = true ∨ ¬ tr.writes (.app id c) := by
  cases hactivates : tr.activates with
  | true => exact .inl rfl
  | false =>
    refine .inr fun hw => ?_
    obtain ⟨howns, hmem⟩ := hw
    simp only [List.mem_cons, List.not_mem_nil, or_false] at hc
    cases tr <;> rcases hc with rfl | rfl | rfl <;>
      simp [activates, appWrites, authorizationColumns,
        acceptanceColumns, offersAt, scope, Scope.ownsApp]
        at hactivates hmem hat howns
    all_goals exact hat howns.symm

/-- What a call does to the candidate of an application that is there. -/
theorem step_offer (happ : db.getApplication id = some app)
    (happ' : (step repoKey db tr).getApplication id = some app') : OfferMove db app app' := by
  by_cases hat : tr.offersAt = some id
  · rcases step_or (perform_offer hat) with hrf | ⟨old, now, hold, hnow, hmove⟩
    · rw [hrf] at happ'
      cases some.inj (happ.symm.trans happ')
      exact .kept rfl rfl rfl
    · cases some.inj (hold.symm.trans happ)
      cases some.inj (hnow.symm.trans happ')
      exact hmove
  · obtain ⟨now, hnow, hkept⟩ := @step_app repoKey _ tr _ _ happ
    cases some.inj (hnow.symm.trans happ')
    exact .kept (hkept .candidate (offersAt_writes hat (by simp)))
      (hkept .planBlocked (offersAt_writes hat (by simp)))
      (hkept .fingerprint (offersAt_writes hat (by simp)))

/-- A candidate that is not blocked is good. -/
def CandidateChecked (db : Db) (app : Application) : Prop :=
  ∀ gid, app.candidateGenerationId = some gid → app.candidatePlanBlocked = false →
    GoodCandidate db app.id app.configured.fingerprint gid

theorem CandidateChecked.move (h : CandidateChecked db app) (hmove : OfferMove db app app')
    (hid : app'.id = app.id) (hlasts : Lasts db db') : CandidateChecked db' app' := by
  intro gid hgid hunblocked
  cases hmove with
  | kept hcand hblocked hfingerprint =>
    rw [hid, hfingerprint]
    exact (h gid (hcand ▸ hgid) (hblocked ▸ hunblocked)).lasts hlasts
  | dropped hcand =>
    rw [hcand] at hgid
    cases hgid
  | blocked hblocked =>
    rw [hblocked] at hunblocked
    cases hunblocked
  | offered offer hcand hgood hfingerprint =>
    cases some.inj (hcand.symm.trans hgid)
    rw [hid, hfingerprint]
    exact hgood.lasts hlasts

/-- The candidate a call leaves. -/
theorem candidateChecked_step (hunoffered : tr.ActivatesUnoffered)
    (h : ∀ app, db.getApplication id = some app → CandidateChecked db app)
    (happ' : (step repoKey db tr).getApplication id = some app') :
    CandidateChecked (step repoKey db tr) app' := by
  cases happ : db.getApplication id with
  | some app =>
    have hid : app'.id = app.id := (Table.key_of_find? happ').trans (Table.key_of_find? happ).symm
    exact (h app happ).move (step_offer happ happ') hid lasts_step
  | none =>
    obtain ⟨application, hinserts, rfl, hactivated⟩ := step_activated happ happ'
    obtain ⟨app, hnow, hkept, hstaged⟩ := hactivated.row
    cases some.inj (hnow.symm.trans happ')
    intro gid hgid _
    rcases hstaged with hcand | ⟨generation, hcand, hgeneration⟩
    · rw [hcand, hunoffered application hinserts] at hgid
      cases hgid
    · cases some.inj (hcand.symm.trans hgid)
      have hfingerprint := hkept .fingerprint (by decide)
      rw [Table.key_of_find? happ', show app'.configured.fingerprint = _ from hfingerprint]
      exact ⟨generation, hgeneration⟩

theorem candidateChecked_run (hunoffered : ∀ tr ∈ calls, tr.ActivatesUnoffered)
    (happ : (runTransitions repoKey empty calls).getApplication id = some app) :
    CandidateChecked (runTransitions repoKey empty calls) app := by
  refine Runs.run_stable (P := fun _ => True) (Q := fun db => ∀ id app,
    db.getApplication id = some app → CandidateChecked db app) (R := Transition.ActivatesUnoffered)
    (fun _ _ _ => trivial) (fun db tr _ h hunoffered id app' happ' => ?_) trivial
    (fun id app happ => ?_) hunoffered id app happ
  · exact candidateChecked_step hunoffered (h id) happ'
  · cases happ

/-- An acceptance on the policy's authority needs an automatic policy. -/
theorem policy_acceptance {a' : Approval} (hnew : db.getApproval id = none)
    (ha' : (step repoKey db tr).getApproval id = some a') (hkind : a'.kind = .sourceAcceptance)
    (hauthority : a'.authority = .configuredPolicy) :
    ∃ app, db.getApplication a'.applicationId = some app ∧ app.sourcePolicy = .automatic := by
  have hcarried : tr.acceptance = some (a'.applicationId, a'.authority) := by
    rcases accepted_step id a' ha' hkind with ⟨a, ha, -⟩ | hcarried
    · rw [hnew] at ha
      cases ha
    · exact hcarried
  have hguarded : ∀ args : AppliedArgs, args.applicationId = a'.applicationId →
      args.authority.approval = .configuredPolicy →
      (∃ app, db.getApplication args.applicationId = some app ∧ AcceptGuards db app args) →
      ∃ app, db.getApplication a'.applicationId = some app ∧ app.sourcePolicy = .automatic := by
    intro args hid hconfigured hguards
    obtain ⟨app, happ, hguard⟩ := hguards
    refine ⟨app, hid ▸ happ, hguard.policy ?_⟩
    cases hargs : args.authority with
    | operator =>
      rw [hargs] at hconfigured
      cases hconfigured
    | configuredPolicy => rfl
  have hgoal : (∃ app, db.getApplication a'.applicationId = some app ∧
      app.sourcePolicy = .automatic) ∨ step repoKey db tr = db := by
    rw [hauthority] at hcarried
    refine commit_of_ensures (P := fun db' => (∃ app,
      db.getApplication a'.applicationId = some app ∧ app.sourcePolicy = .automatic) ∨
        db' = db) ?_ (.inr rfl)
    cases tr <;> simp only [acceptance, reduceCtorEq, some.injEq, Prod.mk.injEq] at hcarried
    case applied args =>
      exact guards_applied.mono fun _ _ h => .inl (hguarded args hcarried.1 hcarried.2 h)
    case sourceAccepted args =>
      refine guards_sourceAccepted.mono fun _ _ h => ?_
      obtain ⟨app, happ, -, hguard⟩ := h
      exact .inl (hguarded args hcarried.1 hcarried.2 ⟨app, happ, hguard⟩)
  rcases hgoal with hgoal | hrf
  · exact hgoal
  · rw [hrf, hnew] at ha'
    cases ha'

/-- The application a call begins a fetch, an apply or an acceptance of. -/
def Transition.startsSource : Transition → Option String
  | .fetchStarted id _ | .applyStarted id _ _ => some id
  | .sourceAccepted args => some args.applicationId
  | _ => none

/-- Nothing begins on a suspended source. -/
theorem live_startsSource (hstarts : tr.startsSource = some id) :
    Tx.Ensures (tr.perform repoKey) db fun _ _ =>
      ∃ app, db.getApplication id = some app ∧ truthyAt app.suspendedAt = false := by
  have hfirst : ∀ {envelope : EventEnvelope} {mutate : Application → Store Application}
      {e : Refusal},
      Tx.Ensures (mutateApp id envelope fun app => do
          refuseIf (truthyAt app.suspendedAt) e
          mutate app) db fun _ _ =>
        ∃ app, db.getApplication id = some app ∧ truthyAt app.suspendedAt = false := by
    intro envelope mutate e
    refine ensures_mutateApp.mpr fun app happ => ?_
    rw [ensures_bind, ensures_refuseIf]
    exact fun hlive => fun _ _ _ => ⟨app, happ, hlive⟩
  cases tr <;> try cases hstarts
  case fetchStarted => exact hfirst
  case applyStarted => exact hfirst
  case sourceAccepted args =>
    exact guards_sourceAccepted.mono fun _ _ ⟨app, happ, hlive, _⟩ => ⟨app, happ, hlive⟩

/-- What a call does to the accepted generation. -/
inductive AcceptedMove (db : Db) (tr : Transition) (app app' : Application) : Prop where
  | kept (hacc : app'.acceptedGenerationId = app.acceptedGenerationId)
  | candidate (gid : String) (hcand : app.candidateGenerationId = some gid)
      (hunblocked : app.candidatePlanBlocked = false)
      (hacc : app'.acceptedGenerationId = some gid)
  | cleared (intent : IntentRevision) (envelope : EventEnvelope)
      (htr : tr = .intentRevised app.id intent envelope)
      (hmode : app.targetMode = .inlineBlueprint) (hcompose : ComposeChanged db app intent)
      (hacc : app'.acceptedGenerationId = none)
  | frozen (g : Generation) (artifactSetId : String) (envelope : EventEnvelope)
      (htr : tr = .inlineRevisionFrozen app.id g artifactSetId envelope)
      (hmode : app.targetMode = .inlineBlueprint) (hminted : db.getGeneration g.id = none)
      (hacc : app'.acceptedGenerationId = some g.id)

theorem PointerMove.acceptedMove (h : PointerMove db db' tr app app') :
    AcceptedMove db tr app app' := by
  cases h with
  | kept hacc => exact .kept hacc
  | accepted args hguards _ _ hacc =>
    exact .candidate _ hguards.candidate hguards.unblocked hacc
  | cleared intent envelope htr hmode hcompose hacc =>
    exact .cleared intent envelope htr hmode hcompose hacc
  | frozen g artifactSetId envelope htr hmode hminted _ _ _ hacc =>
    exact .frozen g artifactSetId envelope htr hmode hminted hacc
  | evidence _ _ _ _ hacc => exact .kept hacc

/-- What holds of the sources of a run of calls. -/
structure SourceGuarded (repoKey : String → Option String) (calls : List Transition) : Prop where
  candidate : ∀ id app, (runTransitions repoKey empty calls).getApplication id = some app →
    CandidateChecked (runTransitions repoKey empty calls) app
  accepted : ∀ before tr after id app app', calls = before ++ tr :: after →
    (runTransitions repoKey empty before).getApplication id = some app →
    (runTransitions repoKey empty (before ++ [tr])).getApplication id = some app' →
    AcceptedMove (runTransitions repoKey empty before) tr app app'
  policy : ∀ before tr after id a', calls = before ++ tr :: after →
    (runTransitions repoKey empty before).getApproval id = none →
    (runTransitions repoKey empty (before ++ [tr])).getApproval id = some a' →
    a'.kind = .sourceAcceptance → a'.authority = .configuredPolicy →
    ∃ app, (runTransitions repoKey empty before).getApplication a'.applicationId = some app ∧
      app.sourcePolicy = .automatic
  suspended : ∀ before tr after id app, calls = before ++ tr :: after → tr.startsSource = some id →
    (runTransitions repoKey empty before).getApplication id = some app →
    truthyAt app.suspendedAt = true →
    ¬ accepts (tr.perform repoKey) (runTransitions repoKey empty before)

theorem runTransitions_concat (tr : Transition) :
    runTransitions repoKey db (calls ++ [tr]) = step repoKey (runTransitions repoKey db calls) tr :=
  Runs.run_append ..

/-- Every run of calls whose activations insert rows without a candidate. -/
theorem source_guarded (hunoffered : ∀ tr ∈ calls, tr.ActivatesUnoffered) :
    SourceGuarded repoKey calls where
  candidate id app happ := candidateChecked_run calls hunoffered happ
  accepted before tr after id app app' _ happ happ' := by
    rw [runTransitions_concat] at happ'
    exact (step_pointers happ happ').acceptedMove
  policy before tr after id a' _ hnew ha' := by
    rw [runTransitions_concat] at ha'
    exact policy_acceptance hnew ha'
  suspended before tr after id app _ hstarts happ hsuspended := by
    rintro ⟨a, db', hrun⟩
    obtain ⟨app', happ', hlive⟩ := live_startsSource hstarts a db' hrun
    cases some.inj (happ.symm.trans happ')
    rw [hsuspended] at hlive
    cases hlive

/-- An Inline application nothing was fetched for. -/
def inlineApplication : List Transition :=
  [.activateInlineBlueprint (blankInlineApplication "app" 1 1)]

/-- The freeze of its revision. -/
def revisionFreeze : Transition :=
  .inlineRevisionFrozen "app" ⟨"g1", "app", none, "compose", true, false⟩ "artifacts"
    (envelopeAt "freeze" 2)

theorem revisionFreeze_unoffered : ∀ tr ∈ inlineApplication ++ [revisionFreeze],
    tr.ActivatesUnoffered := by
  intro tr htr
  simp only [inlineApplication, List.cons_append, List.nil_append, List.mem_cons,
    List.not_mem_nil, or_false] at htr
  rcases htr with rfl | rfl <;> rintro application ⟨⟩
  rfl

theorem revisionFreeze_guarded :
    SourceGuarded (fun url => some url) (inlineApplication ++ [revisionFreeze]) :=
  source_guarded _ revisionFreeze_unoffered

/-- The freeze accepts a generation that was never the candidate. -/
theorem freeze_accepts :
    ¬ ∀ (calls : List Transition) (tr : Transition) (id : String) (app app' : Application),
      (∀ tr' ∈ calls ++ [tr], tr'.ActivatesUnoffered) →
      (runTransitions (fun url => some url) empty calls).getApplication id = some app →
      (runTransitions (fun url => some url) empty (calls ++ [tr])).getApplication id = some app' →
      app'.acceptedGenerationId ≠ app.acceptedGenerationId →
      app'.acceptedGenerationId = app.candidateGenerationId ∧ app.candidatePlanBlocked = false := by
  intro hclaim
  have hbefore : ((runTransitions (fun url => some url) empty
      inlineApplication).getApplication "app").any (fun app =>
        app.candidateGenerationId = none ∧ app.acceptedGenerationId = none) = true := by
    decide +kernel
  have hafter : ((runTransitions (fun url => some url) empty
      (inlineApplication ++ [revisionFreeze])).getApplication "app").any (fun app =>
        app.acceptedGenerationId = some "g1") = true := by
    decide +kernel
  obtain ⟨app, happ, hrow⟩ := (any_eq_true _ _).mp hbefore
  obtain ⟨app', happ', hrow'⟩ := (any_eq_true _ _).mp hafter
  obtain ⟨hnone, hunaccepted⟩ := of_decide_eq_true hrow
  have hacc := of_decide_eq_true hrow'
  have hoffered := (hclaim inlineApplication revisionFreeze "app" app app'
    revisionFreeze_unoffered happ happ'
    (by rw [hacc, hunaccepted]; simp)).1
  rw [hacc, hnone] at hoffered
  cases hoffered

end Sencho.GitOps

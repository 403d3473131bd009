import Sencho.GitOps.TargetWrites
import Sencho.GitOps.Rules

/-!
# Reachable states

What holds of every database a run of calls can reach.  A target belongs to an
application that is there; a row, once written, stays; and a row that is new
after a call is the empty row of a first contact.
-/

namespace Sencho.GitOps

open Verified Option Tx Transition Table

variable {repoKey : String → Option String} {db : Db} {tr : Transition}

namespace Transition

/-- The columns of an existing target a call may change. -/
def edits (tr : Transition) (key : TargetKey) (c : TargetColumn) : Prop :=
  tr.places = false ∧ tr.writes (.target key c)

end Transition

theorem ensures_insertApplication {app : Application} :
    Tx.Ensures (insertApplication app) db fun _ db' =>
      db.getApplication app.id = none ∧ db'.getApplication app.id = some app ∧
        (∀ id, id ≠ app.id → db'.getApplication id = db.getApplication id) ∧
        db'.targets = db.targets := by
  unfold insertApplication
  simp only [ensures_bind, ensures_get, ensures_refuseIf, ensures_insertRow]
  intro _ table htable
  obtain ⟨hnew, hfind⟩ := insert?_eq_some htable
  refine ⟨hnew, ?_, fun id hid => ?_, trivial⟩
  · show table.find? app.id = some app
    rw [hfind, if_pos rfl]
  · show table.find? id = db.applications.find? id
    rw [hfind, if_neg hid]

/-- The application row a call inserts. -/
def Transition.inserts : Transition → Option Application
  | .activateDirect application _ _ | .activateInlineBlueprint application
  | .activateCreateFromGit application _ _ _ _ => some application
  | _ => none

/-- The columns an activation may stage a first candidate in. -/
def stagedColumns : List AppColumn := [.candidate, .planBlocked]

theorem find?_inserted {ρ κ : Type} [DecidableEq κ] {key : ρ → κ} {t t' : Table ρ κ key}
    {row : ρ} (h : t.insert? row = some t') : t'.find? (key row) = some row := by
  obtain ⟨-, hfind⟩ := insert?_eq_some h
  rw [hfind, if_pos rfl]

/-- An activation finds its id free, touches no other application, and may stage a first
candidate with the row it inserts. -/
structure Activated (db db' : Db) (application : Application) : Prop where
  free : db.getApplication application.id = none
  others : ∀ id, id ≠ application.id → db'.getApplication id = db.getApplication id
  row : ∃ app, db'.getApplication application.id = some app ∧
    (∀ c, c ∉ stagedColumns → c.get app = c.get application) ∧
    (app.candidateGenerationId = application.candidateGenerationId ∨ ∃ generation : Generation,
      app.candidateGenerationId = some generation.id ∧
      db'.generations.find? generation.id = some generation ∧
      generation.applicationId = application.id ∧ generation.validationOk = true ∧
      generation.planBlocked = false ∧
      some generation.materializationFingerprint = application.configured.fingerprint)

theorem ensures_activated {application : Application} (hinserts : tr.inserts = some application) :
    Tx.Ensures (tr.perform repoKey) db fun _ db' => Activated db db' application := by
  cases tr <;> cases hinserts
  case activateDirect nodeId envelope =>
    show Tx.Ensures (activateDirect application nodeId envelope) db _
    unfold activateDirect
    simp only [ensures_bind, ensures_get, ensures_refuseIf]
    intro _
    refine ensures_insertApplication.mono fun _ db' hinserted => ?_
    obtain ⟨hfree, hself, hothers, _⟩ := hinserted
    rw [ensures_upsert]
    exact fun _ => ⟨hfree, hothers, application, hself, fun _ _ => rfl, .inl rfl⟩
  case activateInlineBlueprint =>
    show Tx.Ensures (activateInlineBlueprint application) db _
    unfold activateInlineBlueprint
    simp only [ensures_bind, ensures_require, ensures_get, ensures_refuseIf]
    intro _ _ _
    refine ensures_insertApplication.mono fun _ db' hinserted => ?_
    obtain ⟨hfree, hself, hothers, _⟩ := hinserted
    exact ⟨hfree, hothers, application, hself, fun _ _ => rfl, .inl rfl⟩
  case activateCreateFromGit nodeId commitSha generation envelope =>
    show Tx.Ensures (activateCreateFromGit application nodeId commitSha generation envelope) db _
    unfold activateCreateFromGit
    simp only [ensures_bind, ensures_get, ensures_refuseIf]
    intro _ _ howned hfingerprint hvalid
    refine ensures_insertApplication.mono fun _ db' hinserted => ?_
    obtain ⟨hfree, hself, hothers, _⟩ := hinserted
    simp only [ensures_upsert, insertGeneration, ensures_insertRow, ensures_writeApplication]
    intro _ generations hgens _
    rw [Bool.or_eq_false_iff, Bool.not_eq_false'] at hvalid
    refine ⟨hfree, fun id hid => ?_, _, Db.getApplication_writeApp_self (by rfl) hself,
      fun c hc => ?_, .inr ⟨generation, rfl, ?_⟩⟩
    · rw [Db.getApplication_putTarget, Db.getApplication_writeApp_ne]
      · exact hothers id hid
      · exact hid
    · cases c <;> first | rfl | exact absurd (by decide) hc
    · exact ⟨find?_inserted hgens, by simpa using howned, hvalid.1, hvalid.2,
        by simpa using hfingerprint⟩

theorem exists_inserts (hactivates : tr.activates = true) : ∃ application : Application,
    tr.inserts = some application ∧ tr.scope = .application application.id := by
  cases tr <;> first | exact ⟨_, rfl, rfl⟩ | cases hactivates

variable {application : Application} {nodeId : Int} {id : String}

/-- An application row after a call: still there, with every column the call does
not write.  An activation changes no row that is there. -/
theorem step_app {app : Application} (happ : db.getApplication id = some app) :
    ∃ app', (step repoKey db tr).getApplication id = some app' ∧
      ∀ c, (tr.activates = true ∨ ¬ tr.writes (.app id c)) → c.get app' = c.get app := by
  have hagr := @step_agrees repoKey db tr
  by_cases howns : tr.activates = true ∧ tr.scope.ownsApp id
  · have hrf : step repoKey db tr = db := by
      refine commit_of_ensures (P := fun db' => db' = db) ?_ rfl
      obtain ⟨application, hinserts, hscope⟩ := exists_inserts howns.1
      have hid : id = application.id := by
        have hown := howns.2
        rw [hscope] at hown
        exact hown
      refine (ensures_activated hinserts).mono fun _ _ hactivated => ?_
      rw [hid, hactivated.free] at happ
      cases happ
    rw [hrf]
    exact ⟨app, happ, fun _ _ => rfl⟩
  · have hsome : ∃ c, ¬ tr.writes (.app id c) := by
      cases hact : tr.activates with
      | true => exact ⟨.mode, fun hw => howns ⟨hact, hw.1⟩⟩
      | false =>
        obtain ⟨c, hc⟩ := exists_kept_app hact
        exact ⟨c, fun hw => hc hw.2⟩
    obtain ⟨c, hc⟩ := hsome
    obtain ⟨app', happ', _⟩ := hagr.app hc happ
    refine ⟨app', happ', fun c' hc' => ?_⟩
    have hkept : ¬ tr.writes (.app id c') := by
      rcases hc' with hact | hc'
      · exact fun hw => howns ⟨hact, hw.1⟩
      · exact hc'
    obtain ⟨app'', happ'', hget⟩ := hagr.app hkept happ
    rw [some.inj (happ'.symm.trans happ'')]
    exact hget

/-- An application that was not there before a call is the one the call activates. -/
theorem step_activated {app' : Application} (hnone : db.getApplication id = none)
    (happ' : (step repoKey db tr).getApplication id = some app') :
    ∃ application, tr.inserts = some application ∧ id = application.id ∧
      Activated db (step repoKey db tr) application := by
  cases hinserts : tr.inserts with
  | none =>
    have hactivates : tr.activates = false := by
      cases tr <;> first | rfl | cases hinserts
    obtain ⟨c, hc⟩ := exists_kept_app hactivates
    have hread := @step_agrees repoKey db tr (.app id c) fun hw => hc hw.2
    simp [Column.read, hnone, happ'] at hread
  | some application =>
    rcases (step_or (ensures_activated hinserts)).symm with hactivated | hrf
    · refine ⟨application, rfl, ?_, hactivated⟩
      by_contra hid
      rw [hactivated.others id hid, hnone] at happ'
      cases happ'
    · rw [hrf, hnone] at happ'
      cases happ'

theorem step_inserted {app' : Application} (hnone : db.getApplication id = none)
    (happ' : (step repoKey db tr).getApplication id = some app') :
    ∃ application, tr.inserts = some application ∧
      ∀ c, c ∉ stagedColumns → c.get app' = c.get application := by
  obtain ⟨application, hinserts, rfl, hactivated⟩ := step_activated hnone happ'
  obtain ⟨app, happ, hkept, -⟩ := hactivated.row
  cases some.inj (happ.symm.trans happ')
  exact ⟨application, hinserts, hkept⟩

/-- Every target belongs to an application that is there. -/
def TargetsOwned (db : Db) : Prop :=
  ∀ key t, db.targets.find? key = some t → ∃ app, db.getApplication key.applicationId = some app

/-- A row nothing has happened on, with the candidate an activation staged. -/
def Target.IsNew (t : Target) : Prop :=
  ∃ applicationId nodeId now candidate,
    t = { emptyTargetRow applicationId nodeId now with candidateGenerationId := candidate }

/-- A call that inserts targets changes none that is there. -/
structure Placed (db db' : Db) : Prop where
  kept : ∀ key t, db.targets.find? key = some t → db'.targets.find? key = some t
  fresh : ∀ key t, db'.targets.find? key = some t → db.targets.find? key = none →
    t.IsNew ∧ ∃ app, db'.getApplication key.applicationId = some app

theorem Placed.refl (db : Db) : Placed db db where
  kept _ _ h := h
  fresh _ _ h hnone := absurd (h.symm.trans hnone) (some_ne_none _)

/-- Placing one new row under an application that is there. -/
theorem Placed.put {db' : Db} {row : Target}
    (hnew : row.IsNew) (hnone : db.targets.find? row.key = none)
    (happ : ∃ app, db'.getApplication row.applicationId = some app)
    (htargets : ∀ key, db'.targets.find? key = (db.targets.put row).find? key) :
    Placed db db' where
  kept := by
    intro key t ht
    have hne : key ≠ row.key := by
      rintro rfl
      exact some_ne_none t (ht.symm.trans hnone)
    rw [htargets, find?_put, if_neg hne]
    exact ht
  fresh := by
    intro key t ht hkey
    rw [htargets, find?_put] at ht
    split at ht
    · rename_i heq
      cases ht
      subst heq
      exact ⟨hnew, happ⟩
    · exact absurd (ht.symm.trans hkey) (some_ne_none t)

/-- An application that is not there has no targets. -/
theorem TargetsOwned.find?_none (h : TargetsOwned db) (happ : db.getApplication id = none) :
    db.targets.find? ⟨id, nodeId⟩ = none := by
  cases ht : db.targets.find? ⟨id, nodeId⟩ with
  | none => rfl
  | some t =>
    obtain ⟨app, hsome⟩ := h _ t ht
    exact absurd (hsome.symm.trans happ) (some_ne_none app)

theorem ensures_activateDirect_placed (howned : TargetsOwned db) {envelope : EventEnvelope} :
    Tx.Ensures (activateDirect application nodeId envelope) db fun _ db' =>
      Placed db db' := by
  unfold activateDirect
  simp only [ensures_bind, ensures_get, ensures_refuseIf]
  intro _
  refine ensures_insertApplication.mono fun _ db' hinsert => ?_
  obtain ⟨hfree, happ, -, htargets⟩ := hinsert
  rw [ensures_upsertTarget]
  intro _
  refine @Placed.put _ _ (emptyTargetRow application.id nodeId envelope.at_)
      ⟨_, _, _, none, rfl⟩ (howned.find?_none hfree) ⟨_, happ⟩ fun key => ?_
  rw [htargets]

theorem ensures_activateCreateFromGit_placed (howned : TargetsOwned db) {commitSha : String}
    {generation : Generation} {envelope : EventEnvelope} :
    Tx.Ensures (activateCreateFromGit application nodeId commitSha generation envelope) db
      fun _ db' => Placed db db' := by
  unfold activateCreateFromGit
  simp only [ensures_bind, ensures_get, ensures_refuseIf]
  intro _ _ _ _ _
  refine ensures_insertApplication.mono fun _ db' hinsert => ?_
  obtain ⟨hfree, happ, -, htargets⟩ := hinsert
  simp only [ensures_upsert, insertGeneration, ensures_insertRow, ensures_writeApplication]
  intro _ _ _ _
  refine @Placed.put _ _ { emptyTargetRow application.id nodeId envelope.at_ with
    candidateGenerationId := some generation.id } ⟨_, _, _, some generation.id, rfl⟩
      (howned.find?_none hfree) ?_ fun key => ?_
  · exact ⟨_, Db.getApplication_writeApp_self rfl happ⟩
  · show ((db'.targets.put (emptyTargetRow application.id nodeId envelope.at_)).put
      { emptyTargetRow application.id nodeId envelope.at_ with
        candidateGenerationId := some generation.id }).find? key = _
    rw [find?_put, find?_put, find?_put, htargets]
    split
    · rfl
    · rename_i hne
      exact if_neg hne

theorem ensures_placeTarget_placed {applicationId : String} {now : Int} :
    Tx.Ensures (placeTarget applicationId nodeId now) db fun _ db' => Placed db db' := by
  unfold placeTarget
  rw [ensures_bind, ensures_requireApp]
  intro app happ
  rw [ensures_bind, ensures_get, ensures_ite, ensures_pure]
  refine ⟨fun _ => Placed.refl db, fun habsent => ?_⟩
  rw [ensures_upsertTarget]
  intro _
  have hnone : db.targets.find? ⟨applicationId, nodeId⟩ = none := by
    simpa [Db.getTarget] using habsent
  exact @Placed.put _ _ (emptyTargetRow applicationId nodeId now) ⟨_, _, _, none, rfl⟩
      hnone ⟨app, happ⟩ fun _ => rfl

section

variable (howned : TargetsOwned db)
include howned

theorem step_placed (hplaces : tr.places = true) : Placed db (step repoKey db tr) := by
  refine commit_of_ensures (P := Placed db) ?_ (Placed.refl db)
  cases tr <;> try cases hplaces
  case activateDirect => exact ensures_activateDirect_placed howned
  case activateCreateFromGit => exact ensures_activateCreateFromGit_placed howned
  case placeTarget => exact ensures_placeTarget_placed

/-- A target row after a call: still there, with every column the call does not
edit. -/
theorem step_target {key : TargetKey} {t : Target} (ht : db.targets.find? key = some t) :
    ∃ t', (step repoKey db tr).targets.find? key = some t' ∧
      ∀ c, ¬ tr.edits key c → c.get t' = c.get t := by
  cases hplaces : tr.places with
  | true => exact ⟨t, (step_placed howned hplaces).kept key t ht, fun _ _ => rfl⟩
  | false =>
    have hagr := @step_agrees repoKey db tr
    obtain ⟨c, hc⟩ := exists_kept_target hplaces
    obtain ⟨t', ht', _⟩ := hagr.target (fun hw => hc hw.2) ht
    refine ⟨t', ht', fun c' hc' => ?_⟩
    obtain ⟨t'', ht'', hget⟩ := hagr.target (fun hw => hc' ⟨hplaces, hw⟩) ht
    rw [some.inj (ht'.symm.trans ht'')]
    exact hget

/-- Where a target row after a call comes from. -/
theorem step_target_cases {key : TargetKey} {t' : Target}
    (ht' : (step repoKey db tr).targets.find? key = some t') :
    (∃ t, db.targets.find? key = some t ∧ ∀ c, ¬ tr.edits key c → c.get t' = c.get t) ∨
    (db.targets.find? key = none ∧ t'.IsNew ∧
      ∃ app, (step repoKey db tr).getApplication key.applicationId = some app) := by
  cases ht : db.targets.find? key with
  | some t =>
    obtain ⟨now, hnow, hkept⟩ := @step_target repoKey _ tr howned _ _ ht
    rw [some.inj (hnow.symm.trans ht')] at hkept
    exact .inl ⟨t, rfl, hkept⟩
  | none =>
    cases hplaces : tr.places with
    | true => exact .inr ⟨rfl, (step_placed howned hplaces).fresh key t' ht' ht⟩
    | false =>
      obtain ⟨c, hc⟩ := exists_kept_target hplaces
      have hread := @step_agrees repoKey db tr (.target key c) fun hw => hc hw.2
      simp [Column.read, ht, ht'] at hread

theorem targetsOwned_step : TargetsOwned (step repoKey db tr) := by
  intro key t' ht'
  rcases step_target_cases howned ht' with ⟨t, ht, -⟩ | ⟨-, -, happ⟩
  · obtain ⟨app, happ⟩ := howned key t ht
    obtain ⟨app', happ', -⟩ := @step_app repoKey _ tr _ _ happ
    exact ⟨app', happ'⟩
  · exact happ

end

theorem targetsOwned_empty : TargetsOwned Db.empty := by
  intro key t ht
  cases ht

theorem targetsOwned_run (calls : List Transition) :
    TargetsOwned (runTransitions repoKey Db.empty calls) :=
  Runs.run_invariant (fun _ _ h => targetsOwned_step h) targetsOwned_empty calls

/-- An envelope without an actor. -/
def envelopeAt (operationId : String) (at_ : Int) : EventEnvelope :=
  ⟨operationId, none, "manual", at_⟩

/-- A linked stack with nothing fetched yet. -/
def linkedStack : Application :=
  buildDirectApplicationRow "app" "web"
    ⟨some "https://git.example/web", none, some "main", none, none, some false, none,
      some "fingerprint"⟩ .active .manual 1

end Sencho.GitOps

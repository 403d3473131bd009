import Sencho.GitOps.Settlements

/-!
# Rollout rules

What superseding a rollout generation leaves in the database, and the rules of
the helpers that withdraw an authorization or open a rollout.  They change the
rollout tables and hand the application row on; the caller writes it back.
-/

namespace Sencho.GitOps

open Verified Option Tx Db

variable {db : Db} {app : Application} {envelope : EventEnvelope}

namespace Db

/-- The database with a live generation marked and its history row written. -/
def markSuperseded (db : Db) (applicationId generationId : String)
    (envelope : EventEnvelope) : Db := { db with
  rolloutGenerations := db.rolloutGenerations.update (fun g => g.id = generationId)
    (fun g => { g with supersededAt := g.supersededAt.or (some envelope.at_) }) fun _ => rfl
  supersessions := (db.supersessions.insert?
    ⟨applicationId, envelope.operationId, generationId⟩).getD db.supersessions }

/-- The database after a generation was superseded, once. -/
def supersede (db : Db) (applicationId generationId : String) (envelope : EventEnvelope) :
    Db :=
  if (db.getRolloutGeneration generationId).any fun g => g.supersededAt.isNone then
    db.markSuperseded applicationId generationId envelope
  else db

/-- The database after the generation a pointer names was superseded. -/
def supersedeNamed (db : Db) (app : Application) (envelope : EventEnvelope) : Db :=
  match app.rolloutGenerationId.filter fun s => truthy (some s) with
  | none => db
  | some id => db.supersede app.id id envelope

/-- The generation a pointer names, when it is there. -/
def namedGeneration (db : Db) (app : Application) : Option RolloutGeneration :=
  (app.rolloutGenerationId.filter fun s => truthy (some s)).bind db.getRolloutGeneration

/-- The database after the generation a pointer names was superseded, when an
authorization opened it. -/
def supersedeAuthorized (db : Db) (app : Application) (envelope : EventEnvelope) : Db :=
  match (db.namedGeneration app).filter fun g => g.provenance = .rolloutAuthorization with
  | none => db
  | some live => db.supersede app.id live.id envelope

/-- Two databases that differ in the rollout generations and their history only. -/
structure SameBesideRollouts (db db' : Db) : Prop where
  applications : db'.applications = db.applications
  targets : db'.targets = db.targets
  candidates : db'.rolloutCandidates = db.rolloutCandidates
  generations : db'.generations = db.generations
  artifactSets : db'.artifactSets = db.artifactSets
  intents : db'.intentRevisions = db.intentRevisions

theorem SameBesideRollouts.refl : SameBesideRollouts db db := ⟨rfl, rfl, rfl, rfl, rfl, rfl⟩

theorem supersede_beside (applicationId generationId : String) :
    SameBesideRollouts db (db.supersede applicationId generationId envelope) := by
  unfold supersede
  split
  · exact ⟨rfl, rfl, rfl, rfl, rfl, rfl⟩
  · exact .refl

theorem supersedeNamed_beside : SameBesideRollouts db (db.supersedeNamed app envelope) := by
  unfold supersedeNamed
  split
  · exact .refl
  · exact supersede_beside _ _

theorem supersedeAuthorized_beside :
    SameBesideRollouts db (db.supersedeAuthorized app envelope) := by
  unfold supersedeAuthorized
  split
  · exact .refl
  · exact supersede_beside _ _

end Db

theorem ensures_recordSuperseded {applicationId generationId : String} {Q : Unit → Db → Prop} :
    Tx.Ensures (recordRolloutGenerationSuperseded applicationId generationId envelope) db Q ↔
      Q () (db.supersede applicationId generationId envelope) := by
  unfold recordRolloutGenerationSuperseded supersede
  rw [ensures_bind, ensures_get]
  cases hfind : db.getRolloutGeneration generationId with
  | none => simp
  | some g =>
    cases hmark : g.supersededAt with
    | none =>
      simp only [hmark, isSome_none, Bool.false_eq_true, if_false, any_some,
        isNone_none, if_true, ensures_bind]
      unfold markRolloutGenerationSuperseded updateRolloutGeneration insertSupersededHistory
      rw [ensures_modify, ensures_modify]
      rfl
    | some at_ => simp [hmark]

theorem ensures_supersedeNamed {Q : Unit → Db → Prop} :
    Tx.Ensures (supersedeNamedGeneration app envelope) db Q ↔
      Q () (db.supersedeNamed app envelope) := by
  unfold supersedeNamedGeneration supersedeNamed
  cases app.rolloutGenerationId.filter fun s => truthy (some s) with
  | none => exact ensures_pure
  | some id => exact ensures_recordSuperseded

theorem ensures_supersedeAuthorized {Q : Unit → Db → Prop} :
    Tx.Ensures (supersedeAuthorizedGeneration app envelope) db Q ↔
      Q () (db.supersedeAuthorized app envelope) := by
  unfold supersedeAuthorizedGeneration supersedeAuthorized namedGeneration
  rw [ensures_bind, ensures_get]
  cases hlive : (app.rolloutGenerationId.filter fun s => truthy (some s)).bind
      db.getRolloutGeneration with
  | none => simp
  | some live =>
    by_cases hprov : live.provenance = .rolloutAuthorization
    · have hkeep : (some live).filter (fun g => g.provenance = .rolloutAuthorization) =
          some live := by simp [hprov]
      rw [hkeep]
      simp only [hprov, if_true, ensures_recordSuperseded]
    · have hdrop : (some live).filter (fun g => g.provenance = .rolloutAuthorization) =
          none := by simp [hprov]
      rw [hdrop]
      simp only [hprov, if_false, ensures_pure]

/-- A pointer that is dropped when it names something. -/
def dropPointer (pointer : Option String) : Option String :=
  if truthy pointer then none else pointer

/-- The row a change of intent, candidate or placement hands on. -/
def Application.withoutPlacement (app : Application) : Application :=
  { app with
    placementApprovalRef := none
    rolloutAuthorizationRef := none
    preflightFingerprint := none
    rolloutGenerationId := dropPointer app.rolloutGenerationId }

variable {Q : Application → Db → Prop}

theorem ensures_placementDropped :
    Tx.Ensures (invalidatePlacementOnMaterialChange app envelope) db Q ↔
      Q app.withoutPlacement (db.supersedeNamed app envelope) := by
  unfold invalidatePlacementOnMaterialChange
  rw [ensures_bind, ensures_supersedeNamed, ensures_pure]
  rfl

/-- A system pause goes with the rollout it held, unless a roll back is
unfinished. -/
def Application.withoutSystemPause (app : Application) (db : Db) : Application :=
  if app.pause.at_.isSome && app.pause.origin = .system &&
      !(app.targetMode = .blueprint && (db.listTargets app.id).any fun t =>
        t.status = .active && t.healthStopReason = some .rollbackPending) then
    { app with pause := .none }
  else app

theorem Application.withoutSystemPause_eq (app : Application) (db : Db) :
    app.withoutSystemPause db = { app with pause := (app.withoutSystemPause db).pause } := by
  unfold withoutSystemPause
  split <;> rfl

/-- The row a change of generation or artifact identity hands on. -/
def Application.withoutAuthorization (app : Application) (db : Db) : Application :=
  if app.targetMode = .blueprint then
    { app.withoutSystemPause db with
      rolloutAuthorizationRef := none
      preflightFingerprint := none
      rolloutGenerationId :=
        if (db.namedGeneration app).any fun g => g.provenance = .rolloutAuthorization then
          none
        else app.rolloutGenerationId }
  else app.withoutSystemPause db

/-- The database a change of generation or artifact identity leaves. -/
def Db.withoutAuthorization (db : Db) (app : Application) (envelope : EventEnvelope) : Db :=
  if app.targetMode = .blueprint then db.supersedeAuthorized app envelope else db

theorem Db.withoutAuthorization_beside :
    Db.SameBesideRollouts db (db.withoutAuthorization app envelope) := by
  unfold withoutAuthorization
  split
  · exact supersedeAuthorized_beside
  · exact .refl

/-- The invalidation of a row whose pause is already settled. -/
def dropAuthorization (db : Db) (app : Application) (envelope : EventEnvelope) :
    Store Application :=
  if app.targetMode = .blueprint then
    match db.namedGeneration app with
    | some live =>
      if live.provenance = .rolloutAuthorization then do
        recordRolloutGenerationSuperseded app.id live.id envelope
        pure { app with
          rolloutAuthorizationRef := none
          preflightFingerprint := none
          rolloutGenerationId := none }
      else pure { app with rolloutAuthorizationRef := none, preflightFingerprint := none }
    | none => pure { app with rolloutAuthorizationRef := none, preflightFingerprint := none }
  else pure app

theorem invalidateAuthorization_eq : invalidateAuthorizationOnSourceChange app envelope = (do
        let db ← get
        dropAuthorization db (app.withoutSystemPause db) envelope) := rfl

theorem ensures_dropAuthorization : Tx.Ensures (dropAuthorization db app envelope) db Q ↔
      if app.targetMode = .blueprint then
        Q { app with
          rolloutAuthorizationRef := none
          preflightFingerprint := none
          rolloutGenerationId :=
            if (db.namedGeneration app).any fun g => g.provenance = .rolloutAuthorization then
              none
            else app.rolloutGenerationId } (db.supersedeAuthorized app envelope)
      else Q app db := by
  unfold dropAuthorization supersedeAuthorized
  by_cases hblue : app.targetMode = .blueprint
  · rw [if_pos hblue, if_pos hblue]
    cases hlive : db.namedGeneration app with
    | none => simp only [ensures_pure, any_none, filter_none, Bool.false_eq_true, if_false]
    | some live =>
      by_cases hprov : live.provenance = .rolloutAuthorization
      · have hkeep : (some live).filter (fun g => g.provenance = .rolloutAuthorization) =
            some live := by simp [hprov]
        rw [hkeep]
        simp only [hprov, if_true, ensures_bind, ensures_recordSuperseded,
          ensures_pure, any_some, decide_true]
      · have hdrop : (some live).filter (fun g => g.provenance = .rolloutAuthorization) =
            none := by simp [hprov]
        rw [hdrop]
        simp only [hprov, if_false, ensures_pure, any_some, decide_false, Bool.false_eq_true]
  · rw [if_neg hblue, if_neg hblue, ensures_pure]

theorem ensures_authorizationDropped :
    Tx.Ensures (invalidateAuthorizationOnSourceChange app envelope) db Q ↔
      Q (app.withoutAuthorization db) (db.withoutAuthorization app envelope) := by
  rw [invalidateAuthorization_eq, ensures_bind, ensures_get, ensures_dropAuthorization]
  unfold Application.withoutAuthorization withoutAuthorization supersedeAuthorized namedGeneration
  rw [app.withoutSystemPause_eq db]
  split <;> rfl

/-- A revision is of another compose than the one before it. -/
def ComposeChanged (db : Db) (app : Application) (intent : IntentRevision) : Prop :=
  ((app.intentRevisionId.bind db.getIntentRevision).all fun previous =>
    previous.composeContentSha256 ≠ intent.composeContentSha256) = true

/-- What a revised application and its rollouts are left with. -/
structure IntentRevised (db db' : Db) (id : String) (intent : IntentRevision)
    (envelope : EventEnvelope) (app app' : Application) : Prop where
  before : db.getApplication id = some app
  after : db'.getApplication id = some app'
  fresh : db.getIntentRevision intent.id = none
  intents : db.intentRevisions.insert? intent = some db'.intentRevisions
  freeze : app'.acceptedGenerationId = app.acceptedGenerationId ∧
      app'.artifactSetId = app.artifactSetId ∨
    app.targetMode = .inlineBlueprint ∧ ComposeChanged db app intent ∧
      app'.acceptedGenerationId = none ∧ app'.artifactSetId = none
  intent : app'.intentRevisionId = some intent.id
  pointer : app'.rolloutGenerationId = dropPointer app.rolloutGenerationId
  generations : db'.rolloutGenerations = (db.supersedeNamed app envelope).rolloutGenerations
  history : db'.supersessions = (db.supersedeNamed app envelope).supersessions
  source : app'.sourceAcceptanceRef = app.sourceAcceptanceRef

/-- The row and the database after an Inline freeze was dropped, or not. -/
theorem ensures_clearFreeze {composeChanged : Bool} :
    Tx.Ensures (clearFreezeOnComposeChange app composeChanged) db fun app' db' =>
      (app' = app ∨ app.targetMode = .inlineBlueprint ∧ composeChanged = true ∧ app' = { app with
        acceptedGenerationId := none
        artifactSetId := none
        latestArtifactSetId := none }) ∧
      db'.applications = db.applications ∧ db'.rolloutGenerations = db.rolloutGenerations ∧
      db'.supersessions = db.supersessions ∧ db'.intentRevisions = db.intentRevisions := by
  unfold clearFreezeOnComposeChange clearInlineFreezePointers
  rw [ensures_ite, ensures_pure]
  refine ⟨fun hinline => ?_, fun _ => ⟨.inl rfl, rfl, rfl, rfl, rfl⟩⟩
  rw [Bool.and_eq_true, decide_eq_true_eq] at hinline
  rw [ensures_bind, ensures_get, ensures_bind]
  refine (ensures_forM (I := fun db' => db'.applications = db.applications ∧
    db'.rolloutGenerations = db.rolloutGenerations ∧ db'.supersessions = db.supersessions ∧
    db'.intentRevisions = db.intentRevisions) _ ?_ ⟨rfl, rfl, rfl, rfl⟩).mono fun _ db' h => ?_
  · intro t _ db₁ h
    exact ensures_upsert.mpr fun _ => h
  · exact ensures_pure.mpr ⟨.inr ⟨hinline.1, hinline.2, rfl⟩, h⟩

/-- The part of the database superseding reads and writes. -/
theorem supersedeNamed_congr {db' : Db} {app' : Application}
    (hgens : db'.rolloutGenerations = db.rolloutGenerations)
    (hhistory : db'.supersessions = db.supersessions) (hid : app'.id = app.id)
    (hptr : app'.rolloutGenerationId = app.rolloutGenerationId) :
    (db'.supersedeNamed app' envelope).rolloutGenerations =
      (db.supersedeNamed app envelope).rolloutGenerations ∧
    (db'.supersedeNamed app' envelope).supersessions =
      (db.supersedeNamed app envelope).supersessions := by
  unfold supersedeNamed
  rw [hptr, hid]
  cases app.rolloutGenerationId.filter fun s => truthy (some s) with
  | none => exact ⟨hgens, hhistory⟩
  | some id =>
    have hget : db'.getRolloutGeneration id = db.getRolloutGeneration id := by
      unfold getRolloutGeneration
      rw [hgens]
    dsimp only
    unfold supersede
    rw [hget]
    by_cases hlive : ((db.getRolloutGeneration id).any fun g => g.supersededAt.isNone)
    · rw [if_pos hlive, if_pos hlive]
      simp only [markSuperseded, hgens, hhistory, and_self]
    · rw [if_neg hlive, if_neg hlive]
      exact ⟨hgens, hhistory⟩

theorem ensures_intentRevised {id : String} {intent : IntentRevision} :
    Tx.Ensures (intentRevised id intent envelope) db fun _ db' =>
      ∃ app app', IntentRevised db db' id intent envelope app app' := by
  refine ensures_mutateApp.mpr fun app happ => ?_
  have hid : app.id = id := Table.key_of_find? happ
  simp only [ensures_bind, ensures_refuseIf, ensures_get, insertIntentRevision, ensures_insertRow]
  intro _ _ table htable
  refine ensures_clearFreeze.mono fun cleared db₁ hcleared => ?_
  obtain ⟨hrow, happs, hgens, hhistory, hintents⟩ := hcleared
  rw [ensures_placementDropped]
  have hfields : cleared.id = id ∧ cleared.rolloutGenerationId = app.rolloutGenerationId ∧
      cleared.intentRevisionId = some intent.id ∧
      cleared.sourceAcceptanceRef = app.sourceAcceptanceRef ∧
      (cleared.acceptedGenerationId = app.acceptedGenerationId ∧
          cleared.artifactSetId = app.artifactSetId ∨
        app.targetMode = .inlineBlueprint ∧ ComposeChanged db app intent ∧
          cleared.acceptedGenerationId = none ∧ cleared.artifactSetId = none) := by
    rcases hrow with rfl | ⟨hmode, hchanged, rfl⟩
    · exact ⟨hid, rfl, rfl, rfl, .inl ⟨rfl, rfl⟩⟩
    · exact ⟨hid, rfl, rfl, rfl, .inr ⟨hmode, hchanged, rfl, rfl⟩⟩
  obtain ⟨hcid, hptr, hintent, hsource, hfreeze⟩ := hfields
  have hsame : _ ∧ _ := @supersedeNamed_congr db _ envelope _ _ hgens hhistory
      (hcid.trans hid.symm) hptr
  have hst : (db₁.supersedeNamed cleared envelope).getApplication id = some app := by
    show (db₁.supersedeNamed cleared envelope).applications.find? id = some app
    rw [supersedeNamed_beside.applications, happs]
    exact happ
  refine ⟨app, _, happ, getApplication_writeApp_self hcid hst,
    (Table.insert?_eq_some htable).1, ?_, hfreeze, hintent, ?_, hsame.1, hsame.2, hsource⟩
  · refine htable.trans (congrArg some ?_)
    exact (supersedeNamed_beside.intents.trans hintents).symm
  · show dropPointer cleared.rolloutGenerationId = _
    rw [hptr]

end Sencho.GitOps

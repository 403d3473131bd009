import Sencho.GitOps.Types
import Sencho.Verified.Table
import Sencho.Verified.Transaction
import Mathlib.Data.List.Sort
import Mathlib.Data.List.Dedup
import Mathlib.Data.String.Basic

/-!
# The GitOps store

The tables of the GitOps model and the statements the transitions issue on
them.  A read is a function of the database; a write is a transaction that
refuses what the store's own checks refuse and what the schema's constraints
refuse.
-/

namespace Sencho.GitOps

open Verified Tx

/-- The tables. -/
structure Db where
  applications : Table Application String Application.id
  targets : Table Target TargetKey Target.key
  generations : Table Generation String Generation.id
  artifactSets : Table ArtifactSet String ArtifactSet.id
  intentRevisions : Table IntentRevision String IntentRevision.id
  rolloutCandidates : Table RolloutCandidate String RolloutCandidate.id
  rolloutGenerations : Table RolloutGeneration String RolloutGeneration.id
  approvals : Table Approval String Approval.id
  supersessions : Table SupersededRecord (String × String) SupersededRecord.dedupe

def Db.empty : Db :=
  ⟨.empty, .empty, .empty, .empty, .empty, .empty, .empty, .empty, .empty⟩

/-- Why a call was refused: by a transition's guard, with the code some callers
branch on, or by the store. -/
inductive Refusal where
  | transition (message : String) (code : Option String)
  | store (message : String)

/-- A guard's refusal without a code. -/
def refusal (message : String) : Refusal := .transition message none

def Refusal.isTransition : Refusal → Bool
  | .transition _ _ => true
  | .store _ => false

abbrev Store := Tx Db Refusal

namespace Db

variable (db : Db)

def getApplication (id : String) : Option Application := db.applications.find? id

def getTarget (applicationId : String) (nodeId : Int) : Option Target :=
  db.targets.find? ⟨applicationId, nodeId⟩

def getGeneration (id : String) : Option Generation := db.generations.find? id

def getArtifactSet (id : String) : Option ArtifactSet := db.artifactSets.find? id

def getIntentRevision (id : String) : Option IntentRevision :=
  db.intentRevisions.find? id

def getRolloutCandidate (id : String) : Option RolloutCandidate :=
  db.rolloutCandidates.find? id

def getRolloutGeneration (id : String) : Option RolloutGeneration :=
  db.rolloutGenerations.find? id

def getApproval (id : String) : Option Approval := db.approvals.find? id

/-- The targets of an application in node order. -/
def listTargets (applicationId : String) : List Target :=
  (db.targets.rows.filter fun t => t.applicationId = applicationId).insertionSort
    fun a b => a.nodeId ≤ b.nodeId

/-- The live targets on a node, across all applications. -/
def listActiveTargetsForNode (nodeId : Int) : List Target :=
  (db.targets.rows.filter fun t => t.nodeId = nodeId && t.status = .active).insertionSort
    fun a b => a.applicationId ≤ b.applicationId

def getLiveDirectApplication (stackName : String) : Option Application :=
  db.applications.rows.find? fun a =>
    a.stackName = some stackName && a.targetMode = .direct && a.lifecycleStatus.live

def getLiveBlueprintApplication (blueprintId : Int) : Option Application :=
  db.applications.rows.find? fun a =>
    a.blueprintId = some blueprintId && a.targetMode ≠ .direct && a.lifecycleStatus.live

def listLiveBlueprintModeApplications : List Application :=
  db.applications.rows.filter fun a =>
    a.targetMode = .blueprint && a.lifecycleStatus.live

/-- The highest evidence version recorded for a generation, zero when none is. -/
def maxEvidenceVersion (generationId : String) : Nat :=
  ((db.artifactSets.rows.filter fun a => a.generationId = generationId).map
    ArtifactSet.evidenceVersion).foldr max 0

/-- The newest artifact evidence recorded for a generation. -/
def newestArtifactSetIdForGeneration (generationId : String) : Option String :=
  (db.artifactSets.rows.find? fun a => a.generationId = generationId &&
    a.evidenceVersion = db.maxEvidenceVersion generationId).map ArtifactSet.id

def hasPlacementApprovalFor (applicationId intentRevisionId rolloutCandidateId : String) :
    Bool :=
  db.approvals.any fun a =>
    a.applicationId = applicationId && a.kind = .placementApproval &&
      a.intentRevisionId = some intentRevisionId &&
      a.rolloutCandidateId = some rolloutCandidateId

/-- The newest rollout authorization opened for one accepted source.  Rows are
inserted at the head and never deleted, so the first row is the newest. -/
def latestRolloutAuthorizationForAcceptedGeneration
    (applicationId acceptedGenerationId : String) : Option RolloutGeneration :=
  db.rolloutGenerations.rows.find? fun g =>
    g.applicationId = applicationId && g.provenance = .rolloutAuthorization &&
      g.acceptedGenerationId = some acceptedGenerationId

end Db

/-- Node ids without repetition in ascending order. -/
def canonicalizeNodeIds (nodeIds : List Int) : List Int :=
  nodeIds.dedup.insertionSort fun a b => a ≤ b

/-- A required-target list is stored sorted and without repetition. -/
def decodeRequiredTargets (nodeIds : List Int) : Option (List Int) :=
  if canonicalizeNodeIds nodeIds = nodeIds then some nodeIds else none

/-- An approved effect names positive node ids in strictly increasing order. -/
def decodeApprovedTargetEffect (effect : List PlacementEffect) : Option (List PlacementEffect) :=
  if (effect.Pairwise fun a b => a.nodeId < b.nodeId) ∧ ∀ e ∈ effect, 0 < e.nodeId then
    some effect
  else none

/-- Sixty-four lower-case hexadecimal digits. -/
def isPreflightFingerprint (value : String) : Bool :=
  value.toList.length = 64 && value.toList.all fun c => ('0' ≤ c && c ≤ '9') || ('a' ≤ c && c ≤ 'f')

/-- A stored confirmation names no placement or a non-empty one. -/
def confirmationReadable (c : SourceConfirmation) : Bool :=
  c.placementApprovalRef ≠ some ""

/-- Replace the limitation of one code. -/
def encodeEvidenceLimitations (existing : List EvidenceLimitation) (code : String)
    (next : Option EvidenceLimitation) : List EvidenceLimitation :=
  (existing.filter fun l => l.code ≠ code) ++ next.toList

def policyContractVersion : Int := 1

def configuredSnapshotFor (app : Application) : PolicySnapshot :=
  ⟨policyContractVersion, app.sourcePolicy, app.placementPolicy, app.rolloutAuthorizationPolicy⟩

def policyValuesEqual (a b : PolicySnapshot) : Bool :=
  a.source = b.source && a.placement = b.placement &&
    a.rolloutAuthorization = b.rolloutAuthorization

/-- What a rollout authorization binds, without the preflight fingerprint. -/
structure AuthorizationIngredients where
  rolloutCandidateId : String
  acceptedGenerationId : String
  artifactSetId : String
  intentRevisionId : String
  requiredNodeIds : List Int
  sourceAcceptanceRef : String
  placementApprovalRef : String
  deriving DecidableEq

structure AuthorizationBinding where
  ingredients : AuthorizationIngredients
  preflightFingerprint : String
  deriving DecidableEq

/-- A non-contradiction check: a placed node is required, a removed one is not. -/
def placementEffectCompatible (effect : List PlacementEffect) (requiredNodeIds : List Int) : Bool :=
  effect.all fun e =>
    match e.outcome with
    | .place => requiredNodeIds.contains e.nodeId
    | .remove => !requiredNodeIds.contains e.nodeId

namespace Db

variable (db : Db)

/-- The checks every decomposed approval passes before its own. -/
def resolveDecision (id applicationId : String) (kind : ApprovalKind) : Option Approval :=
  (db.getApproval id).filter fun row =>
    row.applicationId = applicationId && row.kind = kind && row.authoritative &&
      (row.authority = .operator || row.authority = .configuredPolicy)

def resolveSourceAcceptance (id applicationId generationId : String) : Option Approval :=
  (db.resolveDecision id applicationId .sourceAcceptance).filter fun row =>
    match row.generationId with
    | none => false
    | some g => truthy (some g) && g = generationId &&
        (db.getGeneration g).any fun generation => generation.applicationId = applicationId

def resolvePlacementApproval (id applicationId intentRevisionId : String)
    (requiredNodeIds : List Int) : Option Approval :=
  (db.resolveDecision id applicationId .placementApproval).filter fun row =>
    truthy row.intentRevisionId && row.intentRevisionId = some intentRevisionId &&
      match row.blast with
      | none => false
      | some blast =>
        match decodeApprovedTargetEffect blast with
        | none => false
        | some effect => placementEffectCompatible effect requiredNodeIds

/-- The binding a rollout authorization row records, when every part is there. -/
def reconstructAuthorizationBinding (row : Approval) : Option AuthorizationBinding := do
  let candidate ← row.rolloutCandidateId.filter fun s => truthy (some s)
  let generation ← row.generationId.filter fun s => truthy (some s)
  let artifact ← row.artifactSetId.filter fun s => truthy (some s)
  let intent ← row.intentRevisionId.filter fun s => truthy (some s)
  let source ← row.sourceAcceptanceRef.filter fun s => truthy (some s)
  let placement ← row.placementApprovalRef.filter fun s => truthy (some s)
  let required ← row.requiredTargets.bind decodeRequiredTargets
  let fingerprint ← row.preflightFingerprint.filter isPreflightFingerprint
  pure ⟨⟨candidate, generation, artifact, intent, required, source, placement⟩, fingerprint⟩

def resolveRolloutAuthorization (id applicationId : String)
    (binding : AuthorizationBinding) : Option Approval :=
  (db.resolveDecision id applicationId .rolloutAuthorization).filter fun row =>
    match reconstructAuthorizationBinding row with
    | none => false
    | some reconstructed =>
      reconstructed = binding &&
        (db.resolveSourceAcceptance reconstructed.ingredients.sourceAcceptanceRef
          applicationId binding.ingredients.acceptedGenerationId).isSome &&
        (db.resolvePlacementApproval reconstructed.ingredients.placementApprovalRef
          applicationId binding.ingredients.intentRevisionId
          binding.ingredients.requiredNodeIds).isSome

/-- Everything a rollout authorization needs, when it is all current. -/
def authorizationIngredients (app : Application) : Option AuthorizationIngredients := do
  let candidateId ← app.rolloutCandidateId.filter fun s => truthy (some s)
  let acceptedId ← app.acceptedGenerationId.filter fun s => truthy (some s)
  let artifactId ← app.artifactSetId.filter fun s => truthy (some s)
  let intentId ← app.intentRevisionId.filter fun s => truthy (some s)
  let sourceRef ← app.sourceAcceptanceRef.filter fun s => truthy (some s)
  let placementRef ← app.placementApprovalRef.filter fun s => truthy (some s)
  let candidate ← (db.getRolloutCandidate candidateId).filter fun c =>
    c.applicationId = app.id && (c.acceptedGenerationId.all fun g => g = acceptedId) &&
      (c.artifactSetId.all fun a => a = artifactId) &&
      c.intentRevisionId = intentId
  let _ ← (db.getGeneration acceptedId).filter fun g => g.applicationId = app.id
  let _ ← (db.getArtifactSet artifactId).filter fun a => a.generationId = acceptedId
  let required ← decodeRequiredTargets candidate.requiredTargets
  let _ ← db.resolveSourceAcceptance sourceRef app.id acceptedId
  let _ ← db.resolvePlacementApproval placementRef app.id intentId required
  pure ⟨candidateId, acceptedId, artifactId, intentId, required, sourceRef, placementRef⟩

def currentAuthorizationBinding (app : Application) : Option AuthorizationBinding := do
  let fingerprint ← app.preflightFingerprint.filter isPreflightFingerprint
  let ingredients ← db.authorizationIngredients app
  pure ⟨ingredients, fingerprint⟩

end Db

variable (db : Db)

/-- An artifact pointer needs a desired generation and belongs to it. -/
def artifactPointerOk (artifactSetId desiredGenerationId : Option String) : Bool :=
  match artifactSetId.filter fun s => truthy (some s) with
  | none => true
  | some a =>
    match desiredGenerationId.filter fun s => truthy (some s) with
    | none => false
    | some g => (db.getArtifactSet a).any fun artifact => artifact.generationId = g

/-- What is missing of an artifact pointer. -/
def assertArtifactPointer (artifactSetId desiredGenerationId : Option String) : Option String :=
  if artifactPointerOk db artifactSetId desiredGenerationId then none
  else if truthy desiredGenerationId then
    some "target artifact pointer must belong to desired_generation_id"
  else some "artifact pointer requires desired_generation_id"

def ownedGenerationOk (applicationId : String) (generationId : Option String) : Bool :=
  match generationId.filter fun s => truthy (some s) with
  | none => true
  | some g => (db.getGeneration g).any fun generation =>
    generation.applicationId = applicationId

def lkgArtifactOk (lkg : LastKnownGood) : Bool :=
  match lkg.artifactSetId.filter fun s => truthy (some s) with
  | none => true
  | some a => (db.getArtifactSet a).any fun artifact =>
    some artifact.generationId = lkg.generationId

/-- The row constraints of the schema. -/
def lkgColumnsOk (lkg : LastKnownGood) : Bool :=
  (lkg.unavailableAt.isNone == lkg.unavailableReason.isNone) &&
    (lkg.unavailableAt.isNone || (lkg.generationId.isNone && lkg.artifactSetId.isNone))

/-- The checks in the order the store makes them, with the sentence of the first
that fails. -/
def assertTargetInvariants (row : Target) : Option String :=
  if !lkgArtifactOk db row.lkg then
    some "lkg_artifact_set_id must belong to lkg_generation_id"
  else if row.lkg.unavailableAt.isSome && row.lkg.generationId.isSome then
    some "lkg unavailability cannot coexist with an LKG generation"
  else if !artifactPointerOk db row.expectedArtifactSetId row.desiredGenerationId then
    assertArtifactPointer db row.expectedArtifactSetId row.desiredGenerationId
  else if !artifactPointerOk db row.latestArtifactSetId row.desiredGenerationId then
    assertArtifactPointer db row.latestArtifactSetId row.desiredGenerationId
  else if !ownedGenerationOk db row.applicationId row.desiredGenerationId then
    some "target desired generation must belong to the application"
  else if !ownedGenerationOk db row.applicationId row.candidateGenerationId then
    some "target candidate generation must belong to the application"
  else if !lkgColumnsOk row.lkg then some "CHECK constraint failed: gitops_target_current"
  else none

/-- Insert into a table that a taken key refuses. -/
def insertRow {ρ κ : Type} [DecidableEq κ] {key : ρ → κ}
    (table : Db → Table ρ κ key) (put : Db → Table ρ κ key → Db) (row : ρ) :
    Store Unit := do
  let db ← get
  let next ← require ((table db).insert? row) (.store "UNIQUE constraint failed")
  set (put db next)

/-- The identity columns each mode requires. -/
def modeColumnsOk (app : Application) : Bool :=
  match app.targetMode with
  | .direct => app.stackName.isSome && app.blueprintId.isNone
  | .inlineBlueprint =>
    app.blueprintId.isSome && app.stackName.isNone && app.configured.repoUrl.isNone
  | .blueprint =>
    app.blueprintId.isSome && app.stackName.isNone && app.configured.repoUrl.isSome

/-- No other live application holds the stack or the Blueprint. -/
def liveIdentityFree (app : Application) : Bool :=
  !app.lifecycleStatus.live || !db.applications.any fun other =>
    other.id ≠ app.id && other.lifecycleStatus.live && match app.targetMode with
      | .direct => other.targetMode = .direct && other.stackName = app.stackName
      | _ => other.targetMode ≠ .direct && other.blueprintId = app.blueprintId

def insertApplication (app : Application) : Store Unit := do
  let db ← get
  refuseIf (!modeColumnsOk app || !liveIdentityFree db app)
    (.store "constraint failed: gitops_applications")
  insertRow Db.applications (fun db t => { db with applications := t }) app

def insertGeneration (row : Generation) : Store Unit :=
  insertRow Db.generations (fun db t => { db with generations := t }) row

def insertArtifactSet (row : ArtifactSet) : Store Unit := do
  refuseIf (row.evidence.kind ≠ row.qualification)
    (.store "artifact qualification must match evidence_json.kind")
  refuseIf row.authoritative
    (.store "artifact rows must be non-authoritative until qualification is accepted")
  let db ← get
  refuseIf (db.artifactSets.any fun a =>
      a.generationId = row.generationId && a.evidenceVersion = row.evidenceVersion)
    (.store "UNIQUE constraint failed")
  insertRow Db.artifactSets (fun db t => { db with artifactSets := t }) row

def insertIntentRevision (row : IntentRevision) : Store Unit :=
  insertRow Db.intentRevisions (fun db t => { db with intentRevisions := t }) row

def insertRolloutCandidate (row : RolloutCandidate) : Store Unit := do
  refuseIf (decodeRequiredTargets row.requiredTargets).isNone
    (.store "required_targets_json.nodeIds must be sorted unique")
  insertRow Db.rolloutCandidates (fun db t => { db with rolloutCandidates := t }) row

def insertRolloutGeneration (row : RolloutGeneration) : Store Unit := do
  refuseIf (decodeRequiredTargets row.requiredTargets).isNone
    (.store "required_targets_json.nodeIds must be sorted unique")
  refuseIf (row.preflightFingerprint.any fun f => !isPreflightFingerprint f)
    (.store "preflight_fingerprint must be a 64-char hex digest")
  insertRow Db.rolloutGenerations (fun db t => { db with rolloutGenerations := t }) row

def insertApproval (row : Approval) : Store Unit := do
  refuseIf (row.requiredTargets.any fun ids => (decodeRequiredTargets ids).isNone)
    (.store "required_targets_json.nodeIds must be sorted unique")
  refuseIf (row.kind = .placementApproval &&
      row.blast.any fun effect => (decodeApprovedTargetEffect effect).isNone)
    (.store "blast_json must be strictly increasing by nodeId")
  refuseIf (row.sourceConfirmation.any fun c => !confirmationReadable c)
    (.store "source_confirmation_json is not a confirmation")
  insertRow Db.approvals (fun db t => { db with approvals := t }) row

/-- The columns a target-binding update alone may change stay as stored. -/
def keepIdentity (stored app : Application) : Application :=
  { app with
    id := stored.id
    targetMode := stored.targetMode
    stackName := stored.stackName
    configuredSourceStackName := stored.configuredSourceStackName
    blueprintId := stored.blueprintId
    createdAt := stored.createdAt }

@[simp] theorem keepIdentity_id (stored app : Application) :
    (keepIdentity stored app).id = stored.id := rfl

/-- Persist the mutable half of an application row. -/
def writeApplication (app : Application) : Store Unit :=
  modify fun db => { db with
    applications := db.applications.update (fun a => a.id = app.id)
      (fun stored => keepIdentity stored app) fun stored => keepIdentity_id stored app }

/-- The writer that changes the target mode.  It reports whether a row in the
expected mode was there to change. -/
def updateApplicationTargetBinding (id : String) (expectedMode : TargetMode)
    (next : Application → Application) (hnext : ∀ a, (next a).id = a.id) :
    Store Bool := do
  let db ← get
  let table := db.applications.update (fun a => a.id = id && a.targetMode = expectedMode) next hnext
  let changed := db.applications.any fun a => a.id = id && a.targetMode = expectedMode
  let ok := (table.find? id).all fun app =>
    modeColumnsOk app && liveIdentityFree { db with applications := table } app
  refuseIf (!ok) (.store "constraint failed: gitops_applications")
  set { db with applications := table }
  pure changed

/-- Write the next attempt number of an application. -/
def updateAttemptSeq (id : String) (seq : Nat) : Store Unit :=
  modify fun db => { db with
    applications := db.applications.update (fun a => a.id = id)
      (fun stored => { stored with attemptSeq := seq }) fun _ => rfl }

/-- Write a whole target row, new or not. -/
def upsertTarget (row : Target) : Store Unit := do
  let db ← get
  match assertTargetInvariants db row with
  | some message => throw (.store message)
  | none => set { db with targets := db.targets.put row }

def updateRolloutGeneration (id : String) (f : RolloutGeneration → RolloutGeneration)
    (hf : ∀ g, (f g).id = g.id) : Store Unit :=
  modify fun db => { db with
    rolloutGenerations := db.rolloutGenerations.update (fun g => g.id = id) f hf }

def markRolloutGenerationSuperseded (id : String) (supersededAt : Int) : Store Unit :=
  updateRolloutGeneration id
    (fun g => { g with supersededAt := g.supersededAt.or (some supersededAt) }) fun _ => rfl

def markRolloutGenerationWithdrawn (id : String) (withdrawnAt : Int) : Store Unit :=
  updateRolloutGeneration id
    (fun g => { g with withdrawnAt := g.withdrawnAt.or (some withdrawnAt) }) fun _ => rfl

/-- Append the history row of a superseded generation.  A row this operation has
already written stays the only one. -/
def insertSupersededHistory (record : SupersededRecord) : Store Unit :=
  modify fun db => { db with
    supersessions := (db.supersessions.insert? record).getD db.supersessions }

def updateIntentHealthPolicy (intentId : String) (policy : HealthRolloutPolicy) : Store Unit :=
  modify fun db => { db with
    intentRevisions := db.intentRevisions.update (fun i => i.id = intentId)
      (fun i => { i with healthPolicy := some policy }) fun _ => rfl }

def updateCandidateBinding (candidateId : String) (acceptedGenerationId : String)
    (artifactSetId : Option String) : Store Unit :=
  modify fun db => { db with
    rolloutCandidates := db.rolloutCandidates.update (fun c => c.id = candidateId)
      (fun c => { c with
        acceptedGenerationId := some acceptedGenerationId
        artifactSetId := artifactSetId }) fun _ => rfl }

/-- The first binding of a candidate.  A different binding refuses it. -/
def bindRolloutCandidateSource (candidateId acceptedGenerationId artifactSetId : String) :
    Store Unit := do
  let db ← get
  let candidate ← require (db.getRolloutCandidate candidateId)
    (.store "rollout candidate not found")
  refuseIf (candidate.acceptedGenerationId.any fun g => g ≠ acceptedGenerationId)
    (.store "rollout candidate already bound to a different generation")
  refuseIf (candidate.artifactSetId.any fun a => a ≠ artifactSetId)
    (.store "rollout candidate already bound to a different artifact set")
  updateCandidateBinding candidateId acceptedGenerationId (some artifactSetId)

/-- Move a candidate onto the generation an acceptance just recorded. -/
def rebindRolloutCandidateSource (applicationId candidateId acceptedGenerationId : String) :
    Store Unit := do
  let db ← get
  let candidate ← require (db.getRolloutCandidate candidateId)
    (.store "rollout candidate not found")
  refuseIf (candidate.applicationId ≠ applicationId)
    (.store "rollout candidate belongs to another application")
  if candidate.acceptedGenerationId = some acceptedGenerationId ∧
      candidate.artifactSetId = none then
    pure ()
  else updateCandidateBinding candidateId acceptedGenerationId none

/-- Replace the confirmation of the current source acceptance. -/
def writeSourceConfirmation (applicationId : String)
    (confirmation : Option SourceConfirmation) : Store Unit :=
  modify fun db =>
    match (db.getApplication applicationId).bind Application.sourceAcceptanceRef with
    | none => db
    | some ref => { db with
        approvals := db.approvals.update
          (fun a => truthy (some ref) && a.id = ref && a.kind = .sourceAcceptance)
          (fun a => { a with
            placementApprovalRef := confirmation.bind SourceConfirmation.placementApprovalRef
            sourceConfirmation := confirmation }) fun _ => rfl }

def recordConfirmedPlacement (applicationId : String) (placementApprovalRef : Option String) :
    Store Unit :=
  writeSourceConfirmation applicationId (some ⟨placementApprovalRef, true⟩)

def releaseConfirmedPlacement (applicationId : String) : Store Unit :=
  writeSourceConfirmation applicationId none

variable {db : Db}

@[simp] theorem ensures_insertRow {ρ κ : Type} [DecidableEq κ] {key : ρ → κ}
    {table : Db → Table ρ κ key} {put : Db → Table ρ κ key → Db} {row : ρ}
    {Q : Unit → Db → Prop} :
    Tx.Ensures (insertRow table put row) db Q ↔
      ∀ t, (table db).insert? row = some t → Q () (put db t) := by
  simp [insertRow]

@[simp] theorem ensures_upsertTarget {row : Target} {Q : Unit → Db → Prop} :
    Tx.Ensures (upsertTarget row) db Q ↔ (assertTargetInvariants db row = none →
        Q () { db with targets := db.targets.put row }) := by
  unfold upsertTarget
  rw [ensures_bind, ensures_get]
  cases assertTargetInvariants db row <;> simp

theorem mem_listTargets {applicationId : String} {t : Target} : t ∈ db.listTargets applicationId ↔
      db.targets.find? t.key = some t ∧ t.applicationId = applicationId := by
  simp [Db.listTargets, Table.find?_eq_some_iff]

theorem getApplication_writeApplication (app : Application) (id : String) :
    (db.applications.update (fun a => a.id = app.id) (fun stored => keepIdentity stored app)
      fun stored => keepIdentity_id stored app).find? id =
      (db.getApplication id).map fun stored =>
        if id = app.id then keepIdentity stored app else stored := by
  cases h : db.applications.find? id with
  | none => simp [Db.getApplication, h]
  | some stored =>
    have hid : stored.id = id := Table.key_of_find? h
    simp [Db.getApplication, h, hid]

end Sencho.GitOps

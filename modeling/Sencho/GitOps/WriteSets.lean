import Sencho.GitOps.Edits

/-!
# Write sets

Which columns each call may write, as lists over its name.  The lists are what a
call may write in some branch; a column that is not listed is not written in
any.  The rules below reduce the write set of a call to the columns its edit
keeps.
-/

namespace Sencho.GitOps

open Verified Tx

def AppColumn.all : List AppColumn :=
  [.lifecycle, .mode, .accepted, .artifactSet, .intent, .rolloutCandidate,
    .rolloutGeneration, .sourceAcceptance, .placementApproval, .rolloutAuthorization,
    .preflight, .active, .pause, .suspended, .authorizationPolicy, .failure, .recovery,
    .candidate, .planBlocked, .fingerprint, .policy]

theorem AppColumn.mem_all (c : AppColumn) : c ∈ AppColumn.all := by
  cases c <;> decide

def TargetColumn.all : List TargetColumn :=
  [.status, .intent, .applied, .healthy, .lastHealth, .pending, .attempts, .stopReason,
    .lkg, .rolloutGeneration, .rolloutAuthorization, .active, .recovery, .pause,
    .sourceAcceptance]

theorem TargetColumn.mem_all (c : TargetColumn) : c ∈ TargetColumn.all := by
  cases c <;> decide

/-- The columns a withdrawn authorization takes with it. -/
def authorizationColumns : List AppColumn :=
  [.rolloutAuthorization, .preflight, .rolloutGeneration, .pause]

/-- The columns a withdrawn placement takes with it. -/
def placementColumns : List AppColumn :=
  [.placementApproval, .rolloutAuthorization, .preflight, .rolloutGeneration]

/-- The columns of the application an acceptance writes. -/
def acceptanceColumns : List AppColumn :=
  [.lifecycle, .accepted, .artifactSet, .sourceAcceptance, .active, .failure, .candidate,
    .planBlocked]

/-- The tables an acceptance writes. -/
def acceptanceTables : List TableName :=
  [.artifactSets, .rolloutCandidates, .rolloutGenerations, .approvals, .supersessions]

/-- The rows a call is about. -/
inductive Scope where
  | application (id : String)
  | target (id : String) (nodeId : Int)
  | node (nodeId : Int)
  | nothing

/-- The scope of a call that names a node or the whole application. -/
def Scope.ofNode (id : String) : Option Int → Scope
  | none => .application id
  | some nodeId => .target id nodeId

def Scope.ownsApp : Scope → String → Prop
  | .application id, id' => id' = id
  | .target id _, id' => id' = id
  | .node _, _ => True
  | .nothing, _ => False

def Scope.ownsTarget : Scope → TargetKey → Prop
  | .application id, key => key.applicationId = id
  | .target id nodeId, key => key = ⟨id, nodeId⟩
  | .node nodeId, key => key.nodeId = nodeId
  | .nothing, _ => False

namespace Transition

def scope : Transition → Scope
  | .activateDirect application _ _ | .activateInlineBlueprint application
  | .activateCreateFromGit application _ _ _ _ => .application application.id
  | .createFailed applicationId _ _ | .convertDirectToBlueprint applicationId _ _
  | .convertBlueprintToDirect applicationId _ _ | .blueprintModeDemoted applicationId _
  | .fetched applicationId _ _ _ | .fetchStarted applicationId _
  | .fetchFailed applicationId _ _ | .fetchedInvalid applicationId _ _ _
  | .sourceConflictBlocker applicationId _ _ | .dismissed applicationId _
  | .configChangedPendingCleared applicationId _ _
  | .candidateReady applicationId _ _ _ | .sourceReviewBlocked applicationId _ _ _
  | .applyStarted applicationId _ _ | .applyFailed applicationId _ _
  | .recordArtifactEvidence applicationId _ _ _ _ _ _ _
  | .acceptArtifactExpectation applicationId _ _ _
  | .sourceRetryScheduled applicationId _ _ _ | .sourcePollScheduled applicationId _ _
  | .sourcePolicyChanged applicationId _ _ | .sourceSuspended applicationId _ _
  | .sourceUnsuspended applicationId _ | .applicationTombstoned applicationId _ _
  | .recordAttempt applicationId | .allocateReconcileAttempt applicationId
  | .recordPreflightEvaluation applicationId _ _
  | .placementPolicyRefused applicationId _ _
  | .setRegistryPreflightBlockedLimitation applicationId _ _
  | .setGitManagedArtifactLimitation applicationId _ _
  | .placementPolicyChanged applicationId _ _
  | .rolloutAuthorizationPolicyChanged applicationId _ _
  | .healthRolloutPolicySet applicationId _ _ | .intentRevised applicationId _ _
  | .rolloutCandidateOpened applicationId _ _ | .placementInvalidated applicationId _
  | .legacyCombinedAppended applicationId _ _ | .rolloutSuperseded applicationId _
  | .invalidateAuthorizationOnPreflightDrift applicationId _
  | .inlineRevisionFrozen applicationId _ _ _
  | .rollbackRefusalSettled applicationId _ _ _
  | .interruptActiveOperations applicationId _ => .application applicationId
  | .applied args | .sourceAccepted args | .placementApproved args
  | .rolloutAuthorized args => .application args.applicationId
  | .targetApplied nodeId args => .target args.applicationId nodeId
  | .rolloutPaused applicationId nodeId _ _ _ | .rolloutUnpaused applicationId nodeId _
  | .partiallyRolledOut applicationId nodeId _ _
  | .partialCleared applicationId nodeId _
  | .rollbackInProgress applicationId nodeId _ _ _
  | .rollbackPartialFailed applicationId nodeId _ _ _ => .ofNode applicationId nodeId
  | .deployStarted applicationId nodeId _ _ | .deployBound applicationId nodeId _ _
  | .deployUnbound applicationId nodeId _ _ | .deployFailed applicationId nodeId _ _
  | .recordObservedRuntimeArtifact applicationId nodeId _ _
  | .recordObservedInvocation applicationId nodeId _ _
  | .targetTombstoned applicationId nodeId _
  | .healthRunReleased applicationId nodeId _ _
  | .blueprintDeployFailed applicationId nodeId _ _
  | .blueprintWithdrawStarted applicationId nodeId _ _
  | .blueprintWithdrawn applicationId nodeId _ _
  | .blueprintWithdrawFailed applicationId nodeId _ _
  | .blueprintObservation applicationId nodeId _ _
  | .rollbackCompleted applicationId nodeId _ _
  | .recoveryStarted applicationId nodeId _ _ _
  | .recoverySucceeded applicationId nodeId _ _ _ _ _
  | .recoveryFailed applicationId nodeId _ _ _ | .placeTarget applicationId nodeId _ =>
    .target applicationId nodeId
  | .tombstoneNodeTargets nodeId _ => .node nodeId
  | .healthFinalized args | .blueprintDeployStarted args | .blueprintAckRecorded args =>
    .target args.applicationId args.nodeId
  | .stageGeneration _ => .nothing

/-- The columns of its applications a call may write. -/
def appWrites : Transition → List AppColumn
  | .activateDirect _ _ _ | .activateInlineBlueprint _
  | .activateCreateFromGit _ _ _ _ _ => AppColumn.all
  | .createFailed _ _ _ | .applicationTombstoned _ _ _ =>
    [.lifecycle, .active, .failure]
  | .convertDirectToBlueprint _ _ _ => [.mode]
  | .convertBlueprintToDirect _ _ _ => [.mode, .pause]
  | .blueprintModeDemoted _ _ =>
    [.mode, .placementApproval, .rolloutAuthorization, .preflight, .pause, .authorizationPolicy]
  | .fetched _ _ _ _ | .fetchFailed _ _ _ | .fetchedInvalid _ _ _ _
  | .applyFailed _ _ _ => [.active, .failure]
  | .fetchStarted _ _ | .applyStarted _ _ _ => [.active]
  | .configChangedPendingCleared _ _ _ =>
    [.failure, .candidate, .planBlocked, .fingerprint]
  | .candidateReady _ _ _ _ => [.failure, .candidate, .planBlocked]
  | .sourceConflictBlocker _ _ _ | .dismissed _ _ => [.candidate, .planBlocked]
  | .sourcePolicyChanged _ _ _ => [.policy]
  | .applied _ | .sourceAccepted _ => authorizationColumns ++ acceptanceColumns
  | .recordArtifactEvidence _ _ _ _ _ _ _ _ => [.artifactSet]
  | .acceptArtifactExpectation _ _ _ _ => .artifactSet :: authorizationColumns
  | .sourceSuspended _ _ _ => [.active, .suspended, .failure, .recovery]
  | .sourceUnsuspended _ _ => [.suspended]
  | .placementPolicyChanged _ _ _ => [.placementApproval, .rolloutAuthorization]
  | .rolloutAuthorizationPolicyChanged _ _ _ =>
    [.placementApproval, .rolloutAuthorization, .authorizationPolicy]
  | .rolloutPaused _ _ _ _ _ | .rolloutUnpaused _ _ _ | .healthFinalized _ => [.pause]
  | .intentRevised _ _ _ =>
    [.accepted, .artifactSet, .intent, .placementApproval, .rolloutAuthorization,
      .preflight, .rolloutGeneration]
  | .rolloutCandidateOpened _ _ _ =>
    [.rolloutCandidate, .placementApproval, .rolloutAuthorization, .preflight, .rolloutGeneration]
  | .placementInvalidated _ _ =>
    [.placementApproval, .rolloutAuthorization, .preflight, .rolloutGeneration]
  | .placementApproved _ =>
    [.rolloutGeneration, .placementApproval, .rolloutAuthorization]
  | .rolloutAuthorized _ | .invalidateAuthorizationOnPreflightDrift _ _ =>
    [.rolloutAuthorization, .preflight, .rolloutGeneration]
  | .rolloutSuperseded _ _ => [.rolloutAuthorization, .preflight]
  | .inlineRevisionFrozen _ _ _ _ => [.accepted, .artifactSet]
  | .deployBound _ _ _ _ | .deployUnbound _ _ _ _ | .deployFailed _ _ _ _
  | .targetTombstoned _ _ _ | .tombstoneNodeTargets _ _ | .blueprintDeployStarted _
  | .blueprintAckRecorded _ | .blueprintDeployFailed _ _ _ _
  | .blueprintWithdrawn _ _ _ _ | .blueprintWithdrawFailed _ _ _ _
  | .blueprintObservation _ _ _ _ | .rollbackPartialFailed _ _ _ _ _
  | .rollbackRefusalSettled _ _ _ _ | .rollbackCompleted _ _ _ _
  | .recoverySucceeded _ _ _ _ _ _ _ | .recoveryFailed _ _ _ _ _ =>
    [.recovery, .failure]
  | .rollbackInProgress _ _ _ _ _ | .recoveryStarted _ _ _ _ _ => [.recovery]
  | .interruptActiveOperations _ _ => [.active, .failure, .recovery]
  | _ => []

/-- The columns of its targets a call may write. -/
def targetWrites : Transition → List TargetColumn
  | .activateDirect _ _ _ | .activateCreateFromGit _ _ _ _ _ | .placeTarget _ _ _ =>
    TargetColumn.all
  | .createFailed _ _ _ | .targetTombstoned _ _ _ | .tombstoneNodeTargets _ _ =>
    [.status, .lkg, .active]
  | .applied _ | .targetApplied _ _ => [.applied, .sourceAcceptance]
  | .sourceSuspended _ _ _ | .deployBound _ _ _ _ | .deployUnbound _ _ _ _
  | .deployFailed _ _ _ _ | .blueprintWithdrawFailed _ _ _ _
  | .rollbackInProgress _ _ _ _ _ | .rollbackPartialFailed _ _ _ _ _
  | .rollbackRefusalSettled _ _ _ _ | .recoveryStarted _ _ _ _ _
  | .recoveryFailed _ _ _ _ _ | .interruptActiveOperations _ _ => [.active, .recovery]
  | .rolloutPaused _ _ _ _ _ => [.pause]
  | .rolloutUnpaused _ _ _ => [.stopReason, .pause]
  | .deployStarted _ _ _ _ | .blueprintWithdrawStarted _ _ _ _ => [.active]
  | .healthFinalized _ =>
    [.healthy, .lastHealth, .pending, .attempts, .stopReason, .lkg]
  | .healthRunReleased _ _ _ _ => [.pending]
  | .blueprintDeployStarted _ => [.status, .pending, .active, .recovery]
  | .blueprintAckRecorded _ =>
    [.intent, .applied, .attempts, .stopReason, .rolloutGeneration,
      .rolloutAuthorization, .active, .recovery, .sourceAcceptance]
  | .blueprintDeployFailed _ _ _ _ => [.pending, .active, .recovery]
  | .blueprintWithdrawn _ _ _ _ => [.status, .active]
  | .blueprintObservation _ _ _ _ => [.status, .recovery]
  | .rollbackCompleted _ _ _ _ =>
    [.applied, .healthy, .stopReason, .lkg, .active, .recovery, .sourceAcceptance]
  | .recoverySucceeded _ _ _ _ _ _ _ =>
    [.applied, .healthy, .lkg, .active, .recovery, .sourceAcceptance]
  | _ => []

/-- The tables a call may write. -/
def tableWrites : Transition → List TableName
  | .activateCreateFromGit _ _ _ _ _ | .stageGeneration _ => [.generations]
  | .applied _ | .sourceAccepted _ => acceptanceTables
  | .recordArtifactEvidence _ _ _ _ _ _ _ _ => [.artifactSets]
  | .acceptArtifactExpectation _ _ _ _ | .placementInvalidated _ _
  | .rolloutSuperseded _ _ | .invalidateAuthorizationOnPreflightDrift _ _ =>
    [.rolloutGenerations, .supersessions]
  | .healthRolloutPolicySet _ _ _ => [.intentRevisions]
  | .rolloutUnpaused _ _ _ | .legacyCombinedAppended _ _ _ => [.approvals]
  | .intentRevised _ _ _ => [.intentRevisions, .rolloutGenerations, .supersessions]
  | .rolloutCandidateOpened _ _ _ =>
    [.rolloutCandidates, .rolloutGenerations, .supersessions]
  | .placementApproved _ => [.rolloutGenerations, .approvals, .supersessions]
  | .rolloutAuthorized _ =>
    [.rolloutCandidates, .rolloutGenerations, .approvals, .supersessions]
  | .inlineRevisionFrozen _ _ _ _ => [.generations, .artifactSets]
  | _ => []

/-- The calls that insert an application. -/
def activates : Transition → Bool
  | .activateDirect .. | .activateInlineBlueprint .. | .activateCreateFromGit .. => true
  | _ => false

/-- The calls that insert a target. -/
def places : Transition → Bool
  | .activateDirect .. | .activateCreateFromGit .. | .placeTarget .. => true
  | _ => false

/-- The write set of a call. -/
def writes (t : Transition) : Column → Prop
  | .app id c => t.scope.ownsApp id ∧ c ∈ t.appWrites
  | .target key c => t.scope.ownsTarget key ∧ c ∈ t.targetWrites
  | .table n => n ∈ t.tableWrites

/-- A call writes nothing beside its write set. -/
def Confined (repoKey : String → Option String) (db : Db) (t : Transition) : Prop :=
  Writes t.writes (t.perform repoKey) db

end Transition

variable {repoKey : String → Option String} {db : Db} {tr : Transition}
variable {id : String}

namespace Transition

theorem exists_kept_app (h : tr.activates = false) : ∃ c, c ∉ tr.appWrites := by
  cases tr <;> first
    | (refine ⟨.suspended, ?_⟩
       simp [appWrites, authorizationColumns, acceptanceColumns]
       done)
    | (refine ⟨.mode, ?_⟩
       simp [appWrites]
       done)
    | cases h

theorem exists_kept_target (h : tr.places = false) : ∃ c, c ∉ tr.targetWrites := by
  cases tr <;> first
    | (refine ⟨.attempts, ?_⟩
       simp [targetWrites]
       done)
    | (refine ⟨.status, ?_⟩
       simp [targetWrites]
       done)
    | cases h

end Transition

/-- An application row changed in the listed columns only. -/
def AppKept (cols : List AppColumn) (a a' : Application) : Prop :=
  a'.id = a.id ∧ ∀ c, c ∉ cols → c.get a' = c.get a

/-- The columns of an application row, without the values of the listed ones. -/
def AppColumn.besides (cols : List AppColumn) (a : Application) :
    List ((c : AppColumn) × Option c.Value) :=
  AppColumn.all.map fun c => ⟨c, if c ∈ cols then none else some (c.get a)⟩

theorem AppKept.of {cols : List AppColumn} {a a' : Application} (hid : a'.id = a.id)
    (h : AppColumn.besides cols a' = AppColumn.besides cols a) : AppKept cols a a' := by
  refine ⟨hid, fun c hc => ?_⟩
  have hcell := List.map_inj_left.mp h c c.mem_all
  simpa [hc] using hcell

theorem AppKept.trans {cols : List AppColumn} {a a' a'' : Application}
    (h : AppKept cols a a') (h' : AppKept cols a' a'') : AppKept cols a a'' :=
  ⟨h'.1.trans h.1, fun c hc => (h'.2 c hc).trans (h.2 c hc)⟩

theorem AppKept.mono {cols cols' : List AppColumn} {a a' : Application}
    (h : AppKept cols a a') (hcols : cols ⊆ cols') : AppKept cols' a a' :=
  ⟨h.1, fun c hc => h.2 c fun hmem => hc (hcols hmem)⟩

theorem AppKept.same {a a' : Application} (h : AppKept tr.appWrites a a')
    (hown : tr.scope.ownsApp a.id) : AppSame tr.writes a a' :=
  ⟨h.1, fun c hc => h.2 c fun hmem => hc ⟨hown, hmem⟩⟩

/-- A target row changed in the listed columns only. -/
def TargetKept (cols : List TargetColumn) (t t' : Target) : Prop :=
  t'.key = t.key ∧ ∀ c, c ∉ cols → c.get t' = c.get t

/-- The columns of a target row, without the values of the listed ones. -/
def TargetColumn.besides (cols : List TargetColumn) (t : Target) :
    List ((c : TargetColumn) × Option c.Value) :=
  TargetColumn.all.map fun c => ⟨c, if c ∈ cols then none else some (c.get t)⟩

theorem TargetKept.of {cols : List TargetColumn} {t t' : Target} (hkey : t'.key = t.key)
    (h : TargetColumn.besides cols t' = TargetColumn.besides cols t) : TargetKept cols t t' := by
  refine ⟨hkey, fun c hc => ?_⟩
  have hcell := List.map_inj_left.mp h c c.mem_all
  simpa [hc] using hcell

theorem TargetKept.same {t t' : Target} (h : TargetKept tr.targetWrites t t')
    (hown : tr.scope.ownsTarget t.key) : TargetSame tr.writes t t' :=
  ⟨h.1, fun c hc => h.2 c fun hmem => hc ⟨hown, hmem⟩⟩

theorem writes_appEdit {envelope : EventEnvelope} {mutate : Application → Store Application}
    (hown : tr.scope.ownsApp id)
    (hmutate : ∀ app, app.id = id → Tx.Ensures (mutate app) db fun app' db' =>
      Agrees tr.writes db db' ∧ AppKept tr.appWrites app app') :
    Writes tr.writes (mutateApp id envelope mutate) db := by
  refine writes_mutateApp fun app happ => ?_
  have hid : app.id = id := Table.key_of_find? happ
  refine (hmutate app hid).mono fun app' db' h => ⟨h.1, h.2.same ?_⟩
  rw [hid]
  exact hown

theorem writes_targetEdit {β : Type} {nodeId : Int} {envelope : EventEnvelope} {stage : TargetStage}
    {mutate : Target → Application → Store (Target × β)} {keep : Bool}
    (hown : tr.scope.ownsTarget ⟨id, nodeId⟩) (hmutate : ∀ t app, tr.scope.ownsTarget t.key →
      Tx.Ensures (mutate t app) db fun r db' => Handed tr.writes db t r.1 db') :
    Writes tr.writes (mutateTarget id nodeId envelope stage mutate keep) db := by
  refine writes_mutateTarget fun t app ht _ => ?_
  have hkey : t.key = ⟨id, nodeId⟩ := Table.key_of_find? ht
  refine (hmutate t app ?_).mono fun r db' h => h.edited
  rw [hkey]
  exact hown

theorem Handed.of_kept {t t' : Target} (hown : tr.scope.ownsTarget t.key)
    (h : TargetKept tr.targetWrites t t') : Handed tr.writes db t t' db :=
  Handed.same (h.same hown)

/-- Write back an edit of a row loaded earlier in the same transaction. -/
theorem ensures_writeBack {db' : Db} {app app' : Application} (hown : tr.scope.ownsApp id)
    (hagr : Agrees tr.writes db db') (happ : db.getApplication id = some app)
    (hkept : AppKept tr.appWrites app app') :
    Tx.Ensures (writeApplication app') db' fun _ db'' => Agrees tr.writes db db'' := by
  have hid : app'.id = id := hkept.1.trans (Table.key_of_find? happ)
  have hwr : Writes tr.writes (writeApplication app') db' := by
    refine writes_writeApplication ?_
    intro stored hst c hc _
    rw [hid] at hst hc
    obtain ⟨now, hnow, hget⟩ := hagr.app hc happ
    have hsame : now = stored := Option.some.inj (hnow.symm.trans hst)
    subst hsame
    rw [hget]
    exact hkept.2 c fun hmem => hc ⟨hown, hmem⟩
  exact Tx.Ensures.mono hwr fun _ _ hwrite => hagr.trans hwrite

theorem writes_writeBack {app app' : Application} (hown : tr.scope.ownsApp id)
    (happ : db.getApplication id = some app) (hkept : AppKept tr.appWrites app app') :
    Writes tr.writes (writeApplication app') db :=
  ensures_writeBack hown (Frame.refl db) happ hkept

/-- Load an application and go on with the row. -/
theorem writes_requireApp_bind {α : Type} {f : Application → Store α}
    (hf : ∀ app, db.getApplication id = some app → Writes tr.writes (f app) db) :
    Writes tr.writes (requireApp id >>= f) db := by
  refine ensures_bind.mpr (ensures_requireApp.mpr ?_)
  intro app happ
  exact hf app happ

theorem writes_insertApplication {app : Application} (hown : tr.scope.ownsApp app.id)
    (hall : tr.appWrites = AppColumn.all) : Writes tr.writes (insertApplication app) db := by
  refine writes_bind writes_get fun _ _ _ => ?_
  refine writes_bind writes_refuseIf fun _ db' _ => ?_
  refine ensures_insertRow.mpr ?_
  intro table htable c hc
  obtain ⟨_, hfind⟩ := Table.insert?_eq_some htable
  cases c with
  | target key c => rfl
  | table n => cases n <;> rfl
  | app id c =>
    have hne : id ≠ app.id := by
      rintro rfl
      refine hc ⟨hown, ?_⟩
      rw [hall]
      exact c.mem_all
    show Option.map c.get (table.find? id) = _
    rw [hfind, if_neg hne]
    rfl

theorem writes_upsertWhole {row : Target} (hown : tr.scope.ownsTarget row.key)
    (hall : tr.targetWrites = TargetColumn.all) : Writes tr.writes (upsertTarget row) db := by
  have hwritten : ∀ c, tr.writes (.target row.key c) := by
    intro c
    refine ⟨hown, ?_⟩
    rw [hall]
    exact c.mem_all
  refine writes_upsertTarget ?_ fun _ => hwritten
  intro old hold
  have hkey : old.key = row.key := Table.key_of_find? hold
  refine ⟨hkey.symm, fun c hc => ?_⟩
  rw [hkey] at hc
  exact absurd (hwritten c) hc

theorem writes_insertGeneration {row : Generation} (hW : .generations ∈ tr.tableWrites) :
    Writes tr.writes (insertGeneration row) db := by
  refine writes_insertRow (fun _ _ => rfl) (fun _ _ => rfl) fun t n hn => ?_
  cases n <;> first | rfl | exact absurd hW hn

theorem writes_insertIntentRevision {row : IntentRevision}
    (hW : .intentRevisions ∈ tr.tableWrites) : Writes tr.writes (insertIntentRevision row) db := by
  refine writes_insertRow (fun _ _ => rfl) (fun _ _ => rfl) fun t n hn => ?_
  cases n <;> first | rfl | exact absurd hW hn

theorem writes_insertArtifactSet {row : ArtifactSet} (hW : .artifactSets ∈ tr.tableWrites) :
    Writes tr.writes (insertArtifactSet row) db := by
  refine writes_bind writes_refuseIf fun _ _ _ => ?_
  refine writes_bind writes_refuseIf fun _ _ _ => ?_
  refine writes_bind writes_get fun _ _ _ => ?_
  refine writes_bind writes_refuseIf fun _ _ _ => ?_
  refine writes_insertRow (fun _ _ => rfl) (fun _ _ => rfl) fun t n hn => ?_
  cases n <;> first | rfl | exact absurd hW hn

theorem writes_insertRolloutCandidate {row : RolloutCandidate}
    (hW : .rolloutCandidates ∈ tr.tableWrites) :
    Writes tr.writes (insertRolloutCandidate row) db := by
  refine writes_bind writes_refuseIf fun _ _ _ => ?_
  refine writes_insertRow (fun _ _ => rfl) (fun _ _ => rfl) fun t n hn => ?_
  cases n <;> first | rfl | exact absurd hW hn

theorem writes_insertRolloutGeneration {row : RolloutGeneration}
    (hW : .rolloutGenerations ∈ tr.tableWrites) :
    Writes tr.writes (insertRolloutGeneration row) db := by
  refine writes_bind writes_refuseIf fun _ _ _ => ?_
  refine writes_bind writes_refuseIf fun _ _ _ => ?_
  refine writes_insertRow (fun _ _ => rfl) (fun _ _ => rfl) fun t n hn => ?_
  cases n <;> first | rfl | exact absurd hW hn

theorem writes_insertApproval {row : Approval} (hW : .approvals ∈ tr.tableWrites) :
    Writes tr.writes (insertApproval row) db := by
  refine writes_bind writes_refuseIf fun _ _ _ => ?_
  refine writes_bind writes_refuseIf fun _ _ _ => ?_
  refine writes_bind writes_refuseIf fun _ _ _ => ?_
  refine writes_insertRow (fun _ _ => rfl) (fun _ _ => rfl) fun t n hn => ?_
  cases n <;> first | rfl | exact absurd hW hn

theorem writes_bindRolloutCandidateSource {generationId artifactSetId : String}
    (hW : .rolloutCandidates ∈ tr.tableWrites) :
    Writes tr.writes (bindRolloutCandidateSource id generationId artifactSetId) db := by
  refine writes_bind writes_get fun _ _ _ => ?_
  refine writes_bind writes_require fun _ _ _ => ?_
  refine writes_bind writes_refuseIf fun _ _ _ => ?_
  refine writes_bind writes_refuseIf fun _ _ _ => ?_
  exact writes_updateCandidateBinding hW

theorem writes_rebindRolloutCandidateSource {applicationId generationId : String}
    (hW : .rolloutCandidates ∈ tr.tableWrites) :
    Writes tr.writes (rebindRolloutCandidateSource applicationId id generationId) db := by
  refine writes_bind writes_get fun _ _ _ => ?_
  refine writes_bind writes_require fun _ _ _ => ?_
  refine writes_bind writes_refuseIf fun _ _ _ => ?_
  exact writes_ite (fun _ => writes_pure) fun _ => writes_updateCandidateBinding hW

end Sencho.GitOps

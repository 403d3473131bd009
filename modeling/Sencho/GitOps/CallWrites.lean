import Sencho.GitOps.WriteSets

/-!
# Write sets of the application calls

Activation, target mode, acceptance, artifact evidence, restarts and the
decisions a rollout goes through, each with the columns it writes.
-/

namespace Sencho.GitOps

open Verified Tx Transition Tx.Ensures

variable {repoKey : String → Option String} {db : Db} {tr : Transition}
variable {envelope : EventEnvelope}

theorem writes_activateDirect {application : Application} {nodeId : Int}
    (happ : tr.scope = .application application.id) (hall : tr.appWrites = AppColumn.all)
    (htall : tr.targetWrites = TargetColumn.all) :
    Writes tr.writes (activateDirect application nodeId envelope) db := by
  have hown : tr.scope.ownsApp application.id := by
    rw [happ]
    rfl
  have hownt : tr.scope.ownsTarget (emptyTargetRow application.id nodeId envelope.at_).key := by
    rw [happ]
    rfl
  refine writes_bind writes_get fun _ _ _ => ?_
  refine writes_bind writes_refuseIf fun _ _ _ => ?_
  refine writes_bind (writes_insertApplication hown hall) fun _ _ _ => ?_
  exact writes_upsertWhole hownt htall

theorem writes_activateCreateFromGit {application : Application} {nodeId : Int} {commitSha : String}
    {generation : Generation} (happ : tr.scope = .application application.id)
    (hall : tr.appWrites = AppColumn.all) (htall : tr.targetWrites = TargetColumn.all)
    (hgen : .generations ∈ tr.tableWrites) :
    Writes tr.writes (activateCreateFromGit application nodeId commitSha generation envelope)
      db := by
  have hown : tr.scope.ownsApp application.id := by
    rw [happ]
    rfl
  have hownt : tr.scope.ownsTarget ⟨application.id, nodeId⟩ := by
    rw [happ]
    rfl
  refine writes_bind writes_get fun _ _ _ => ?_
  refine writes_bind writes_refuseIf fun _ _ _ => ?_
  refine writes_bind writes_refuseIf fun _ _ _ => ?_
  refine writes_bind writes_refuseIf fun _ _ _ => ?_
  refine writes_bind writes_refuseIf fun _ _ _ => ?_
  refine writes_bind writes_refuseIf fun _ _ _ => ?_
  refine writes_bind (writes_insertApplication hown hall) fun _ _ _ => ?_
  refine writes_bind (writes_upsertWhole hownt htall) fun _ _ _ => ?_
  refine writes_bind (writes_insertGeneration hgen) fun _ _ _ => ?_
  refine writes_bind ?_ fun _ _ _ => ?_
  · refine writes_writeApplication fun stored _ c hc _ => absurd ⟨hown, ?_⟩ hc
    rw [hall]
    exact c.mem_all
  · exact writes_upsertWhole hownt htall

theorem writes_createFailed {id failureClass : String} :
    Confined repoKey db (.createFailed id failureClass envelope) := by
  refine writes_requireApp_bind fun app happ => ?_
  have hid : app.id = id := Table.key_of_find? happ
  rw [Writes, Tx.Writes, ensures_bind, ensures_refuseIf]
  intro _
  have hback : Writes (Transition.createFailed id failureClass envelope).writes
      (writeApplication { app.clearActive with
        failure := ⟨some .create, some failureClass, some envelope.at_⟩
        lifecycleStatus := .deleted
        latestOperationId := some envelope.operationId
        updatedAt := envelope.at_ }) db := by
    exact writes_writeBack rfl happ (.of rfl rfl)
  rw [ensures_bind]
  refine mono hback fun _ db' hwrite => ?_
  refine mono (writes_forM_upsert _ _ (fun t ht => (stored_of_list t ht).1) ?_)
    fun _ _ hloop => hwrite.trans hloop
  intro t ht
  exact TargetKept.same (.of rfl rfl) ((stored_of_list t ht).2.trans hid)

theorem writes_updateApplicationTargetBinding {id : String} {expectedMode : TargetMode}
    {next : Application → Application} {hnext : ∀ a, (next a).id = a.id}
    (hown : tr.scope.ownsApp id) (hmode : .mode ∈ tr.appWrites)
    (hkept : ∀ a, AppKept [.mode] a (next a)) :
    Writes tr.writes (updateApplicationTargetBinding id expectedMode next hnext) db := by
  unfold updateApplicationTargetBinding
  simp only [Writes, Tx.Writes, ensures_bind, ensures_get, ensures_refuseIf,
    ensures_set, ensures_pure]
  intro _ c hc
  cases c with
  | target key c => rfl
  | table n => cases n <;> rfl
  | app key c =>
    simp only [Column.read, Db.getApplication, Table.find?_update]
    cases ha : db.applications.find? key with
    | none => rfl
    | some a =>
      have hkey : a.id = key := Table.key_of_find? ha
      simp only [Option.map_some]
      split
      · rename_i hchanged
        have hid : key = id := by
          rw [← hkey]
          simp only [Bool.and_eq_true, decide_eq_true_eq] at hchanged
          exact hchanged.1
        refine congrArg some ((hkept a).2 c fun hc' => hc ⟨hid ▸ hown, ?_⟩)
        rw [List.mem_singleton.mp hc']
        exact hmode
      · rfl

/-- A retarget writes the mode and what its own hook writes. -/
theorem writes_commitTargetBinding {id : String} {expectedMode : TargetMode}
    {next : Application → Except Refusal TargetBinding} {matchesDestination : Application → Bool}
    {assertReady : Db → Application → Except Refusal Unit} {onRetarget : Application → Application}
    (hown : tr.scope.ownsApp id) (hmode : .mode ∈ tr.appWrites)
    (hhook : ∀ app, AppKept tr.appWrites app (onRetarget app)) :
    Writes tr.writes (commitTargetBinding id envelope expectedMode next matchesDestination
      assertReady onRetarget) db := by
  refine writes_requireApp_bind fun app happ => ?_
  have hid : app.id = id := Table.key_of_find? happ
  refine writes_ite (fun _ => writes_pure) fun _ => ?_
  refine writes_bind writes_refuseIf fun _ _ _ => ?_
  refine writes_bind writes_get fun _ _ _ => ?_
  refine writes_bind (ensures_liftM.mpr fun _ _ => Frame.refl _) fun _ _ _ => ?_
  refine writes_bind (ensures_liftM.mpr fun _ _ => Frame.refl _) fun binding _ _ => ?_
  refine writes_bind ?_ fun _ _ _ => ?_
  · rw [hid]
    exact writes_updateApplicationTargetBinding hown hmode fun a => .of rfl rfl
  · refine writes_bind writes_refuseIf fun _ _ _ => ?_
    refine writes_requireApp_bind fun updated hupdated => ?_
    rw [hid] at hupdated
    exact writes_writeBack hown hupdated (hhook updated)

section

variable (hg : .rolloutGenerations ∈ tr.tableWrites) (hs : .supersessions ∈ tr.tableWrites)

include hg hs

theorem ensures_invalidateAuthorization {app : Application} {envelope : EventEnvelope} :
    Tx.Ensures (invalidateAuthorizationOnSourceChange app envelope) db fun app' db' =>
      Agrees tr.writes db db' ∧ AppKept authorizationColumns app app' := by
  unfold invalidateAuthorizationOnSourceChange
  rw [ensures_bind, ensures_get]
  dsimp only
  split
  all_goals
    rw [ensures_ite, ensures_pure]
    refine ⟨fun _ => ?_, fun _ => ⟨Frame.refl db, .of rfl rfl⟩⟩
    split
    · rw [ensures_ite, ensures_pure, ensures_bind]
      refine ⟨fun _ => ?_, fun _ => ⟨Frame.refl db, .of rfl rfl⟩⟩
      refine mono (writes_recordRolloutGenerationSuperseded (W := tr.writes) hg hs)
          fun _ db' hwrite => ?_
      exact ensures_pure.mpr ⟨hwrite, .of rfl rfl⟩
    · exact ensures_pure.mpr ⟨Frame.refl db, .of rfl rfl⟩

end

theorem acceptedApplication_kept (app : Application) (args : AppliedArgs) :
    AppKept acceptanceColumns app (acceptedApplication app args) := by
  unfold acceptedApplication
  rw [Application.clearInterruption_eq, Application.clearFailure_eq]
  exact .of rfl rfl

variable {app : Application} {args : AppliedArgs} {envelope : EventEnvelope}

theorem writes_rebindOnAcceptance {generationId : String}
    (hW : .rolloutCandidates ∈ tr.tableWrites) :
    Writes tr.writes (rebindRolloutCandidateOnAcceptance app generationId) db := by
  refine writes_bind writes_get fun _ _ _ => ?_
  split
  · exact writes_pure
  · exact writes_ite (fun _ => writes_rebindRolloutCandidateSource hW) fun _ => writes_pure

/-- What an acceptance does to the application and the tables beside it. -/
theorem ensures_accept (hcols : authorizationColumns ++ acceptanceColumns ⊆ tr.appWrites)
    (htables : acceptanceTables ⊆ tr.tableWrites) {Q : Application → Db → Prop}
    {rest : Application → Store Application}
    (hrest : ∀ app' db', Agrees tr.writes db db' → AppKept tr.appWrites app app' →
      Tx.Ensures (rest app') db' Q) :
    Tx.Ensures (do
      let app ← invalidateAuthorizationOnSourceChange app args.envelope
      let app ← applySourceAcceptanceMutation app args
      rebindRolloutCandidateOnAcceptance app args.generationId
      rest app) db Q := by
  rw [ensures_bind]
  refine mono (@ensures_invalidateAuthorization _ tr (htables (by decide))
      (htables (by decide)) _ _) ?_
  rintro app1 db1 ⟨hagrees1, hkept1⟩
  unfold applySourceAcceptanceMutation insertAcceptanceRecords
  simp only [ensures_bind, bind_assoc, pure_bind]
  refine mono (@writes_insertArtifactSet _ tr _ (htables (by decide))) fun _ db2 hagrees2 => ?_
  refine mono (@writes_insertApproval _ tr _ (htables (by decide))) fun _ db3 hagrees3 => ?_
  refine mono (@writes_rebindOnAcceptance _ tr _ _ (htables (by decide))) fun _ db4 hagrees4 => ?_
  have hagr : Agrees tr.writes db db4 :=
    ((hagrees1.trans hagrees2).trans hagrees3).trans hagrees4
  refine hrest _ db4 hagr ?_
  have hauth := hkept1.mono fun c hc => hcols (List.mem_append_left _ hc)
  have hacc := (acceptedApplication_kept app1 args).mono fun c hc =>
    hcols (List.mem_append_right _ hc)
  exact hauth.trans hacc

/-- The targets an acceptance binds, as they are stored. -/
theorem ensures_acceptanceTargets {Q : List Target → Db → Prop} (h : ∀ targets, (∀ t ∈ targets,
      db.targets.find? t.key = some t ∧ t.applicationId = app.id) → Q targets db) :
    Tx.Ensures (acceptanceTargets app args) db Q := by
  unfold acceptanceTargets requireAcceptableCandidate
  simp only [ensures_bind, ensures_refuseIf, ensures_get, ensures_pure,
    ensures_requireOwnedGeneration]
  intros
  exact h _ stored_of_listed

theorem writes_applied : Confined repoKey db (.applied args) := by
  refine writes_appEdit rfl fun app hid => ?_
  rw [ensures_bind]
  refine ensures_acceptanceTargets fun targets htargets => ?_
  refine @ensures_accept _ (.applied args) _ _ (.refl _) (.refl _) _ _ ?_
  intro app' db' hagr hkept
  rw [ensures_bind]
  have hloop := @ensures_forM_listed _ _ _ targets (fun t =>
    upsertTarget (if app'.targetMode = .direct then t.applyAcceptance args else t))
      hagr fun t ht db'' hagr' =>
      ensures_upsert_listed hagr' (htargets t ht).1 (TargetKept.same ?_ ?_)
  · refine mono hloop fun _ db'' hagr'' => ?_
    exact ensures_pure.mpr ⟨hagr'', hkept⟩
  · split <;> exact .of rfl rfl
  · exact (htargets t ht).2.trans hid

theorem writes_sourceAccepted : Confined repoKey db (.sourceAccepted args) := by
  refine writes_appEdit rfl fun app _ => ?_
  rw [ensures_bind, ensures_refuseIf]
  intro _
  unfold requireAcceptableCandidate
  simp only [bind_assoc, ensures_bind, ensures_refuseIf, ensures_requireOwnedGeneration]
  intro _ _ _ _ _ _ _ _
  unfold requireCurrentConfirmation
  split
  · rw [ensures_throw]
    trivial
  · rw [ensures_pure]
    simp only [← ensures_bind]
    refine @ensures_accept _ (.sourceAccepted args) _ _ (.refl _) (.refl _) _ _ ?_
    intro app' db' hagr hkept
    exact ensures_pure.mpr ⟨hagr, hkept⟩

theorem writes_recordArtifactEvidence {id generationId artifactSetId : String}
    {evidenceVersion : Nat} {qualification : ArtifactQualification} {evidence : ArtifactEvidence}
    {authoritative : Bool} :
    Confined repoKey db (.recordArtifactEvidence id generationId artifactSetId evidenceVersion
      qualification evidence authoritative envelope) := by
  refine writes_appEdit rfl fun app _ => ?_
  simp only [ensures_bind, ensures_refuseIf, ensures_get, ensures_pure,
    ensures_requireOwnedGeneration]
  intro _ _ _ _ _
  refine mono (@writes_insertArtifactSet _ (.recordArtifactEvidence id
    generationId artifactSetId evidenceVersion qualification evidence authoritative envelope)
      _ (List.mem_singleton.mpr rfl)) fun _ db' hinsert => ?_
  refine mono (writes_forM_upsert _ _ (fun t ht => (stored_of_listed t ht).1) ?_)
    fun _ db'' hloop => ⟨hinsert.trans hloop, ?_⟩
  · exact fun t _ => ⟨rfl, fun c _ => by cases c <;> rfl⟩
  · split <;> exact .of rfl rfl

theorem writes_acceptArtifactExpectation {id generationId artifactSetId : String} :
    Confined repoKey db (.acceptArtifactExpectation id generationId artifactSetId envelope) := by
  refine writes_appEdit rfl fun app _ => ?_
  simp only [ensures_bind, ensures_refuseIf, ensures_get, ensures_require, ensures_pure]
  intro artifact _ _ _
  have hauth : Tx.Ensures (invalidateOnExpectationChange app artifactSetId envelope) db
      fun app' db' => Agrees (Transition.acceptArtifactExpectation id generationId
        artifactSetId envelope).writes db db' ∧ AppKept authorizationColumns app app' := by
    unfold invalidateOnExpectationChange
    rw [ensures_ite, ensures_pure]
    refine ⟨fun _ => ensures_invalidateAuthorization ?_ ?_, fun _ =>
      ⟨Frame.refl db, rfl, fun _ _ => rfl⟩⟩
    · simp [tableWrites]
    · simp [tableWrites]
  refine hauth.mono ?_
  rintro app' db' ⟨hagr, hkept⟩
  refine mono (writes_forM_upsert _ _ (fun t ht =>
    (stored_of_liveDirect t (List.mem_filter.mp ht).1).1) ?_)
    fun _ db'' hloop => ⟨hagr.trans hloop, ?_⟩
  · exact fun t _ => ⟨rfl, fun c _ => by cases c <;> rfl⟩
  · exact (hkept.mono fun c hc => List.mem_cons_of_mem _ hc).trans (.of rfl rfl)

theorem Application.interrupt_kept (app : Application) (at_ : Int) :
    AppKept [.active, .failure, .recovery] app (app.interrupt at_) := by
  unfold Application.interrupt
  cases applicationRecoveryInFlight app <;> exact .of rfl rfl

/-- The write set of a restart, in whichever call it runs. -/
theorem writes_interruptActiveOperations {id : String} (hscope : tr.scope = .application id)
    (hcols : [.active, .failure, .recovery] ⊆ tr.appWrites)
    (htargets : [.active, .recovery] ⊆ tr.targetWrites) :
    Writes tr.writes (interruptActiveOperations id envelope) db := by
  have hown : tr.scope.ownsApp id := by
    rw [hscope]
    rfl
  refine writes_requireApp_bind fun app happ => ?_
  refine writes_bind ?_ fun _ db' _ => ?_
  · refine writes_ite (fun _ => ?_) fun _ => writes_pure
    exact writes_writeBack hown happ ((app.interrupt_kept envelope.at_).mono hcols)
  · rw [Tx.Writes, ensures_bind, ensures_get]
    refine writes_forM_upsert _ _ (fun t ht => (stored_of_listed t ht).1) fun t ht => ?_
    have hownt : tr.scope.ownsTarget t.key := by
      rw [hscope]
      exact (stored_of_listed t ht).2
    rw [Target.interrupt_eq]
    refine TargetKept.same ⟨rfl, fun c hc => ?_⟩ hownt
    cases c <;> first | rfl | exact absurd (htargets (by simp)) hc

theorem writes_sourceSuspended {id reason : String} :
    Confined repoKey db (.sourceSuspended id reason envelope) := by
  refine writes_appEdit rfl fun app hid => ?_
  rw [ensures_bind, ensures_refuseIf]
  intro _
  unfold interruptForSuspension
  rw [ensures_bind, ensures_ite]
  simp only [ensures_pure, ensures_bind, ensures_requireApp]
  refine ⟨fun _ => ?_, fun _ => ⟨Frame.refl db, .of rfl rfl⟩⟩
  rw [hid]
  refine mono (@writes_interruptActiveOperations _
      (.sourceSuspended id reason envelope) _ _ rfl ?_ ?_) fun _ db' hwrite reloaded _ =>
      ⟨hwrite, .of rfl rfl⟩
  · simp [appWrites]
  · simp [targetWrites]

section

variable (hg : .rolloutGenerations ∈ tr.tableWrites) (hs : .supersessions ∈ tr.tableWrites)

include hg hs

theorem ensures_invalidatePlacement {app : Application} {envelope : EventEnvelope} :
    Tx.Ensures (invalidatePlacementOnMaterialChange app envelope) db fun app' db' =>
      Agrees tr.writes db db' ∧ AppKept placementColumns app app' := by
  unfold invalidatePlacementOnMaterialChange
  rw [ensures_bind]
  refine mono (writes_supersedeNamedGeneration (W := tr.writes) hg hs) fun _ db' hwrite => ?_
  rw [ensures_pure]
  exact ⟨hwrite, .of rfl rfl⟩

theorem writes_supersedeAuthorizedGeneration {app : Application} {envelope : EventEnvelope} :
    Writes tr.writes (supersedeAuthorizedGeneration app envelope) db := by
  refine writes_bind writes_get fun _ _ _ => ?_
  split
  · refine writes_ite (fun _ => ?_) fun _ => writes_pure
    exact writes_recordRolloutGenerationSuperseded (W := tr.writes) hg hs
  · exact writes_pure

end

variable {envelope : EventEnvelope} {id : String}

theorem writes_intentRevised {intent : IntentRevision} :
    Confined repoKey db (.intentRevised id intent envelope) := by
  refine writes_appEdit rfl fun app _ => ?_
  simp only [ensures_bind, ensures_refuseIf, ensures_get]
  intro _ _
  refine mono (@writes_insertIntentRevision _
      (.intentRevised id intent envelope) _ (by simp [tableWrites]))
    fun _ db1 hinsert => ?_
  have hfreeze : ∀ b, Tx.Ensures
      (clearFreezeOnComposeChange { app with intentRevisionId := some intent.id } b) db1
      fun app' db' => Agrees (Transition.intentRevised id intent envelope).writes db1 db' ∧
        AppKept (Transition.intentRevised id intent envelope).appWrites app app' := by
    intro b
    unfold clearFreezeOnComposeChange clearInlineFreezePointers
    rw [ensures_ite, ensures_pure, ensures_bind, ensures_get, ensures_bind]
    refine ⟨fun _ => ?_, fun _ => ⟨Frame.refl db1, .of rfl rfl⟩⟩
    refine mono (writes_forM_upsert
      (W := (Transition.intentRevised id intent envelope).writes) _ _
      (fun t ht => (stored_of_listed t ht).1) fun _ _ =>
        ⟨rfl, fun c _ => by cases c <;> rfl⟩) fun _ db2 hloop => ?_
    exact ensures_pure.mpr ⟨hloop, .of rfl rfl⟩
  refine (hfreeze _).mono ?_
  rintro app2 db2 ⟨hagrees2, hkept2⟩
  refine mono (@ensures_invalidatePlacement _
      (.intentRevised id intent envelope) (by simp [tableWrites])
      (by simp [tableWrites]) _ _) ?_
  rintro app3 db3 ⟨hagrees3, hkept3⟩
  refine ⟨(hinsert.trans hagrees2).trans hagrees3, hkept2.trans (hkept3.mono ?_)⟩
  simp [placementColumns, appWrites]

theorem writes_rolloutCandidateOpened {candidate : RolloutCandidate} :
    Confined repoKey db (.rolloutCandidateOpened id candidate envelope) := by
  refine writes_appEdit rfl fun app _ => ?_
  simp only [ensures_bind, ensures_refuseIf]
  intro _ _ _
  refine mono (@writes_insertRolloutCandidate _
      (.rolloutCandidateOpened id candidate envelope) _ (by simp [tableWrites]))
    fun _ db1 hinsert => ?_
  refine mono (@ensures_invalidatePlacement _
      (.rolloutCandidateOpened id candidate envelope) (by simp [tableWrites])
      (by simp [tableWrites]) _ _) ?_
  rintro app2 db2 ⟨hagrees2, hkept2⟩
  refine ⟨hinsert.trans hagrees2, AppKept.trans ?_ (hkept2.mono ?_)⟩
  · exact .of rfl rfl
  · simp [placementColumns, appWrites]

theorem writes_placementApproved {args : PlacementApprovedArgs} :
    Confined repoKey db (.placementApproved args) := by
  refine writes_appEdit rfl fun app _ => ?_
  unfold requirePlacementApprovable requireDecisionProvenance
  simp only [bind_assoc, ensures_bind, ensures_refuseIf, ensures_get, ensures_require, ensures_pure]
  intros
  refine mono (@writes_insertApproval _ (.placementApproved args) _
      (by simp [tableWrites])) fun _ db1 hagrees1 => ?_
  refine mono (writes_supersedeNamedGeneration
    (W := (Transition.placementApproved args).writes) ?_ ?_) fun _ db2 hagrees2 => ?_
  · simp [writes, tableWrites]
  · simp [writes, tableWrites]
  refine mono (@writes_insertRolloutGeneration _ (.placementApproved args) _
      (by simp [tableWrites])) fun _ db3 hagrees3 => ?_
  exact ⟨(hagrees1.trans hagrees2).trans hagrees3, .of rfl rfl⟩

theorem writes_rolloutAuthorized {args : RolloutAuthorizedArgs} :
    Confined repoKey db (.rolloutAuthorized args) := by
  refine writes_appEdit rfl fun app _ => ?_
  unfold requireRolloutAuthorizable requireDecisionProvenance
  simp only [bind_assoc, ensures_bind, ensures_refuseIf, ensures_get, ensures_require, ensures_pure]
  intros
  refine mono (@writes_bindRolloutCandidateSource _ (.rolloutAuthorized args) _
      _ _ (by simp [tableWrites])) fun _ db0 hagrees0 => ?_
  have hanswer : ∀ ref db', Writes (Transition.rolloutAuthorized args).writes
      (answerConfirmation args ref) db' := by
    intro ref db'
    unfold answerConfirmation
    split
    · refine writes_writeSourceConfirmation ?_
      simp [writes, tableWrites]
    · exact writes_pure
  refine mono (hanswer _ _) fun _ db1 hagrees1 => ?_
  refine mono (@writes_insertApproval _ (.rolloutAuthorized args) _
      (by simp [tableWrites])) fun _ db2 hagrees2 => ?_
  refine mono (writes_supersedeNamedGeneration
    (W := (Transition.rolloutAuthorized args).writes) ?_ ?_) fun _ db3 hagrees3 => ?_
  · simp [writes, tableWrites]
  · simp [writes, tableWrites]
  refine mono (@writes_insertRolloutGeneration _ (.rolloutAuthorized args) _
      (by simp [tableWrites])) fun _ db4 hagrees4 => ?_
  exact ⟨(((hagrees0.trans hagrees1).trans hagrees2).trans hagrees3).trans hagrees4, (.of rfl rfl)⟩

theorem writes_rolloutSuperseded : Confined repoKey db (.rolloutSuperseded id envelope) := by
  refine writes_appEdit rfl fun app _ => ?_
  simp only [ensures_bind, ensures_refuseIf, ensures_get, ensures_require, ensures_pure]
  intro _ target _
  have hg : (Transition.rolloutSuperseded id envelope).writes (.table .rolloutGenerations) := by
    simp [writes, tableWrites]
  have hs : (Transition.rolloutSuperseded id envelope).writes (.table .supersessions) := by
    simp [writes, tableWrites]
  refine mono (writes_updateRolloutGeneration hg) fun _ db1 hagrees1 => ?_
  refine mono (writes_updateRolloutGeneration hg) fun _ db2 hagrees2 => ?_
  refine mono (writes_insertSupersededHistory hs) fun _ db3 hagrees3 => ?_
  exact ⟨(hagrees1.trans hagrees2).trans hagrees3, .of rfl rfl⟩

theorem writes_invalidateOnDrift :
    Confined repoKey db (.invalidateAuthorizationOnPreflightDrift id envelope) := by
  refine writes_requireApp_bind fun app happ => ?_
  rw [Writes, Tx.Writes, ensures_bind, ensures_refuseIf]
  intro _
  rw [ensures_ite, ensures_pure, ensures_bind]
  refine ⟨fun _ => Frame.refl db, fun _ => ?_⟩
  refine mono (@writes_supersedeAuthorizedGeneration _
      (.invalidateAuthorizationOnPreflightDrift id envelope) ?_ ?_ _ _) fun _ db' hwrite => ?_
  · simp [tableWrites]
  · simp [tableWrites]
  · exact ensures_writeBack rfl hwrite happ (.of rfl rfl)

theorem writes_inlineRevisionFrozen {generation : Generation} {artifactSetId : String} :
    Confined repoKey db (.inlineRevisionFrozen id generation artifactSetId envelope) := by
  refine writes_requireApp_bind fun _ _ => ?_
  refine writes_bind writes_refuseIf fun _ db _ => ?_
  refine writes_ite (fun _ => writes_pure) fun _ => ?_
  refine writes_appEdit rfl fun app _ => ?_
  rw [ensures_ite, ensures_pure]
  refine ⟨fun _ => ⟨Frame.refl db, rfl, fun _ _ => rfl⟩, fun _ => ?_⟩
  unfold freezeRevision
  simp only [ensures_bind, ensures_refuseIf, ensures_get, ensures_pure]
  intro _ _ _
  refine mono (@writes_insertGeneration _
      (.inlineRevisionFrozen id generation artifactSetId envelope) _
      (by simp [tableWrites])) fun _ db1 hagrees1 => ?_
  refine mono (@writes_insertArtifactSet _
      (.inlineRevisionFrozen id generation artifactSetId envelope) _
      (by simp [tableWrites])) fun _ db2 hagrees2 => ?_
  have hloop := @ensures_forM_listed
      ((Transition.inlineRevisionFrozen id generation artifactSetId envelope).writes) _ _
      ((db2.listTargets app.id).filter fun t => t.status = .active)
      (freezeTarget generation.id artifactSetId) (Frame.refl db2)
    fun t ht db3 hagrees3 => ?_
  · refine mono hloop fun _ db3 hagrees3 => ?_
    exact ⟨(hagrees1.trans hagrees2).trans hagrees3, .of rfl rfl⟩
  · unfold freezeTarget
    rw [ensures_ite, ensures_pure, ensures_bind, ensures_refuseIf]
    refine ⟨fun _ => hagrees3, fun _ _ => ?_⟩
    refine ensures_upsert_listed hagrees3 (stored_of_listed t ht).1 ⟨rfl, fun c _ => ?_⟩
    cases c <;> rfl

theorem writes_rolloutUnpaused {nodeId : Option Int} :
    Confined repoKey db (.rolloutUnpaused id nodeId envelope) := by
  cases nodeId with
  | none =>
    refine writes_appEdit rfl fun app hid => ?_
    simp only [ensures_bind, ensures_refuseIf, ensures_get, ensures_pure]
    intro _
    refine mono (writes_writeSourceConfirmation
      (W := (Transition.rolloutUnpaused id none envelope).writes)
      (by simp [writes, tableWrites])) fun _ db1 hagrees1 => ?_
    have hloop := @ensures_forM_listed
        ((Transition.rolloutUnpaused id none envelope).writes) _ _ (db1.listTargets id)
        (resumeTarget app) (Frame.refl db1)
      fun t ht db2 hagrees2 => ?_
    · refine mono hloop fun _ db2 hagrees2 => ?_
      exact ⟨hagrees1.trans hagrees2, .of rfl rfl⟩
    · have hfence : ∀ reason, Tx.Ensures (upsertTarget { t with healthStopReason := reason })
          db2 fun _ db3 =>
            Agrees (Transition.rolloutUnpaused id none envelope).writes db1 db3 := by
        intro reason
        exact ensures_upsert_listed hagrees2 (stored_of_list t ht).1
          (TargetKept.same (.of rfl rfl) (stored_of_list t ht).2)
      unfold resumeTarget
      split
      · exact ensures_pure.mpr hagrees2
      · rw [ensures_ite, ensures_ite, ensures_pure]
        exact ⟨fun _ => hfence _, fun _ => ⟨fun _ => hfence _, fun _ => hagrees2⟩⟩
  | some nodeId =>
    refine writes_targetEdit rfl fun t _ hown => ?_
    simp only [ensures_bind, ensures_refuseIf, ensures_pure]
    intro _
    exact Handed.of_kept hown (.of rfl rfl)

end Sencho.GitOps

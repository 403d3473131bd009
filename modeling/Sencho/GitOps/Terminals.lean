import Sencho.GitOps.Acknowledgements

/-!
# Terminal events

A terminal event reports the end of one operation.  It may arrive late, when the
slot it settles already belongs to another operation.  Here is, for each
terminal, exactly when it leaves such a slot alone: by refusing, or, for a
repeated acknowledgement, by changing nothing of it.
-/

namespace Sencho.GitOps

open Verified Target Tx

variable {repoKey : String → Option String} {db : Db} {tr : Transition}

/-- The row whose operation a terminal settles. -/
inductive SlotOwner where
  | application (id : String)
  | target (key : TargetKey)

/-- The operation in flight on a row, with the health run a target awaits. -/
structure OperationSlot where
  operationId : Option String
  stage : Option (ApplicationActiveStage ⊕ TargetActiveStage)
  generationId : Option String
  pendingHealthRunId : Option String
  deriving DecidableEq

def Application.slot (app : Application) : OperationSlot :=
  ⟨app.active.operationId, app.active.stage.map .inl, app.active.generationId, none⟩

def Target.slot (t : Target) : OperationSlot :=
  ⟨t.active.operationId, t.active.stage.map .inr, t.active.generationId, t.pendingHealthRunId⟩

def SlotOwner.slot (db : Db) : SlotOwner → Option OperationSlot
  | .application id => (db.getApplication id).map Application.slot
  | .target key => (db.targets.find? key).map Target.slot

/-- The terminal events: the row each settles and the envelope it carries. -/
def Transition.terminal : Transition → Option (SlotOwner × EventEnvelope)
  | .fetched id _ _ envelope | .fetchedInvalid id _ _ envelope | .fetchFailed id _ envelope
  | .applyFailed id _ envelope => some (.application id, envelope)
  | .sourceAccepted args | .applied args =>
    some (.application args.applicationId, args.envelope)
  | .deployBound id nodeId _ envelope | .deployUnbound id nodeId _ envelope
  | .deployFailed id nodeId _ envelope | .blueprintDeployFailed id nodeId _ envelope
  | .blueprintWithdrawn id nodeId _ envelope
  | .blueprintWithdrawFailed id nodeId _ envelope => some (.target ⟨id, nodeId⟩, envelope)
  | .blueprintAckRecorded args =>
    some (.target ⟨args.applicationId, args.nodeId⟩, args.envelope)
  | _ => none

/-- The slot belongs to an operation that another request started. -/
structure OtherOperation (slot : OperationSlot) (envelope : EventEnvelope) : Prop where
  running : slot.stage.isSome = true
  other : ∃ operationId, slot.operationId = some operationId ∧ operationId ≠ envelope.operationId

/-- The guard each terminal has against another operation's slot: what a stale
terminal must find for the slot to be spared.  Three terminals have none. -/
def Transition.Spares (tr : Transition) (db : Db) : Prop :=
  match tr with
  | .fetched id _ _ envelope | .fetchedInvalid id _ _ envelope | .fetchFailed id _ envelope =>
    ∀ app, db.getApplication id = some app → requireMatchingFetch app envelope = false
  | .applyFailed id _ _ => ∀ app, db.getApplication id = some app →
      app.active.stage ≠ some .applyStarted ∧ app.interruption.stage ≠ some .applyStarted
  | .sourceAccepted args | .applied args =>
    ∀ app, db.getApplication args.applicationId = some app →
      app.active.stage = some .applyStarted ∧ truthy app.active.operationId = true
  | .deployBound id nodeId generationId envelope
  | .deployUnbound id nodeId generationId envelope =>
    ∀ t, db.targets.find? ⟨id, nodeId⟩ = some t →
      requireMatchingDeploy t generationId envelope = false
  | .blueprintAckRecorded args => ∀ app t, db.getApplication args.applicationId = some app →
      db.targets.find? ⟨args.applicationId, args.nodeId⟩ = some t →
        alreadyAckedForThisRollout t app args.intentRevisionId args.rolloutCandidateId = true ∨
        matchBlueprintRequest t .blueprintDeployStarted args.intentRevisionId ≠
          some args.rolloutCandidateId
  | .blueprintWithdrawn id nodeId intentRevisionId _ =>
    ∀ t, db.targets.find? ⟨id, nodeId⟩ = some t →
      matchBlueprintRequest t .blueprintWithdrawStarted intentRevisionId = none
  | _ => False

/-- What an accepted application terminal found and left. -/
structure ReleasesApp (db db' : Db) (id : String) (guard : Application → Prop) : Prop where
  guarded : ∃ app, db.getApplication id = some app ∧ guard app
  released : ∀ app', db'.getApplication id = some app' → app'.active = .none

variable {envelope : EventEnvelope}

theorem active_writeApp {id : String} {row app' : Application} (hid : row.id = id)
    (h : (db.writeApp (row.stamped envelope)).getApplication id = some app') :
    app'.active = row.active := by
  rw [Db.getApplication_writeApp] at h
  obtain ⟨stored, _, hrow⟩ := Option.map_eq_some_iff.mp h
  have hstamped : id = (row.stamped envelope).id := hid.symm
  rw [if_pos hstamped] at hrow
  rw [← hrow]
  rfl

theorem ensures_releasesApp {id : String}
    {mutate : Application → Store Application} {guard : Application → Prop}
    (h : ∀ app, db.getApplication id = some app → Tx.Ensures (mutate app) db fun row _ =>
        guard app ∧ row.id = app.id ∧ row.active = .none) :
    Tx.Ensures (mutateApp id envelope mutate) db fun _ db' =>
      ReleasesApp db db' id guard := by
  refine ensures_mutateApp.mpr fun app happ => ?_
  refine (h app happ).mono fun row db' hrow => ?_
  obtain ⟨hguard, hid, hactive⟩ := hrow
  refine ⟨⟨app, happ, hguard⟩, fun app' happ' => ?_⟩
  rw [active_writeApp (hid.trans (Table.key_of_find? happ)) happ', hactive]

theorem clearInterruption_released (app : Application) (stage : ApplicationActiveStage)
    (h : app.active = .none) : (app.clearInterruption stage).active = .none := by
  rw [Application.clearInterruption_eq]
  exact h

section

variable {id : String} {envelope : EventEnvelope}

theorem releases_fetched {commitSha : String} {resolvedRefKind : Option RefKind} :
    Tx.Ensures (fetched id commitSha resolvedRefKind envelope) db fun _ db' =>
      ReleasesApp db db' id fun app => requireMatchingFetch app envelope = true := by
  refine ensures_releasesApp fun app _ => ?_
  simp only [ensures_bind, ensures_refuseIf, ensures_pure]
  intro hmatch
  refine ⟨by simpa using hmatch, ?_, clearInterruption_released _ _ ?_⟩
  · rw [Application.clearInterruption_id, Application.clearFailure_id]
    rfl
  · rw [Application.clearFailure_eq]
    rfl

theorem releases_fetchedInvalid {commitSha : String} {resolvedRefKind : Option RefKind} :
    Tx.Ensures (fetchedInvalid id commitSha resolvedRefKind envelope) db fun _ db' =>
      ReleasesApp db db' id fun app => requireMatchingFetch app envelope = true := by
  refine ensures_releasesApp fun app _ => ?_
  simp only [ensures_bind, ensures_refuseIf, ensures_pure]
  intro hmatch
  exact ⟨by simpa using hmatch, Application.clearInterruption_id _ _,
    clearInterruption_released _ _ rfl⟩

theorem releases_fetchFailed {code : Option String} :
    Tx.Ensures (fetchFailed id code envelope) db fun _ db' =>
      ReleasesApp db db' id fun app => requireMatchingFetch app envelope = true := by
  refine ensures_releasesApp fun app _ => ?_
  simp only [ensures_bind, ensures_refuseIf, ensures_pure]
  intro hmatch
  exact ⟨by simpa using hmatch, Application.clearInterruption_id _ _,
    clearInterruption_released _ _ rfl⟩

theorem releases_applyFailed {failureClass : String} :
    Tx.Ensures (applyFailed id failureClass envelope) db fun _ db' =>
      ReleasesApp db db' id fun app => app.active.stage = some .applyStarted ∨
        app.interruption.stage = some .applyStarted := by
  refine ensures_releasesApp fun app _ => ?_
  simp only [ensures_bind, ensures_refuseIf, ensures_pure]
  intro hmatch
  refine ⟨?_, Application.clearInterruption_id _ _, clearInterruption_released _ _ rfl⟩
  simpa [Decidable.or_iff_not_imp_left] using hmatch

end

/-- The slot an acceptance may find: no live apply of another operation. -/
def AcceptsSlot (args : AppliedArgs) (app : Application) : Prop :=
  ¬ (app.active.stage = some .applyStarted ∧ truthy app.active.operationId = true ∧
    app.active.operationId ≠ some args.envelope.operationId)

variable {app : Application} {args : AppliedArgs} (t : Target)

theorem ensures_acceptableCandidate :
    Tx.Ensures (requireAcceptableCandidate app args) db fun _ db' =>
      db' = db ∧ AcceptsSlot args app := by
  unfold requireAcceptableCandidate requireOwnedGeneration
  simp only [ensures_bind, ensures_refuseIf, ensures_get, ensures_require]
  intro _ _ _ _ _ _ _ hslot
  refine ⟨trivial, fun hother => ?_⟩
  simp [hother.1, hother.2.1, hother.2.2] at hslot

theorem withoutAuthorization_id (app : Application) :
    (app.withoutAuthorization db).id = app.id := by
  unfold Application.withoutAuthorization
  rw [app.withoutSystemPause_eq db]
  split <;> rfl

theorem acceptedApplication_id (app : Application) (args : AppliedArgs) :
    (acceptedApplication app args).id = app.id := by
  unfold acceptedApplication
  rw [Application.clearInterruption_id, Application.clearFailure_id]
  rfl

theorem acceptedApplication_active (app : Application) (args : AppliedArgs) :
    (acceptedApplication app args).active = .none := by
  unfold acceptedApplication
  rw [Application.clearInterruption_eq, Application.clearFailure_eq]
  rfl

theorem ensures_trivial {α : Type} (p : Store α) : Tx.Ensures p db fun _ _ => True :=
  fun _ _ _ => trivial

/-- The row the two acceptances share, once their guards are past. -/
theorem ensures_accepted {rest : Application → Store Unit} : Tx.Ensures (do
        let app ← invalidateAuthorizationOnSourceChange app args.envelope
        let app ← applySourceAcceptanceMutation app args
        rebindRolloutCandidateOnAcceptance app args.generationId
        rest app
        pure app) db
      fun row _ => row.id = app.id ∧ row.active = .none := by
  rw [ensures_bind, ensures_authorizationDropped]
  unfold applySourceAcceptanceMutation
  simp only [ensures_bind, ensures_pure]
  refine (ensures_trivial _).mono fun _ _ _ => ?_
  refine (ensures_trivial _).mono fun _ _ _ => ?_
  refine (ensures_trivial _).mono fun _ _ _ => ?_
  refine ⟨?_, acceptedApplication_active _ _⟩
  rw [acceptedApplication_id, withoutAuthorization_id]

theorem releases_sourceAccepted : Tx.Ensures (sourceAccepted args) db fun _ db' =>
      ReleasesApp db db' args.applicationId (AcceptsSlot args) := by
  refine ensures_releasesApp fun app _ => ?_
  rw [ensures_bind, ensures_refuseIf]
  intro _
  rw [ensures_bind]
  refine ensures_acceptableCandidate.mono fun _ db' hslot => ?_
  rw [ensures_bind]
  refine (ensures_trivial _).mono fun _ db' _ => ?_
  have hrow := @ensures_accepted db' app args (fun _ => pure ())
  exact hrow.mono fun _ _ h => ⟨hslot.2, h⟩

theorem releases_applied : Tx.Ensures (applied args) db fun _ db' =>
      ReleasesApp db db' args.applicationId (AcceptsSlot args) := by
  refine ensures_releasesApp fun app _ => ?_
  unfold acceptanceTargets
  simp only [bind_assoc]
  rw [ensures_bind]
  refine ensures_acceptableCandidate.mono fun _ db' hslot => ?_
  rw [ensures_bind, ensures_get, ensures_bind, ensures_refuseIf]
  intro _
  exact ensures_accepted.mono fun _ _ h => ⟨hslot.2, h⟩

/-- A released slot names no operation, whether or not a restore takes it back. -/
theorem marked_operation {t : Target} {at_ : Int} (h : t.active = .none) :
    (t.markInFlightRestore at_).active.operationId = none := by
  rw [markInFlightRestore_eq]
  show (if targetRestoreInFlight t && t.active.stage.isNone then t.restoreMarkerAt at_
    else t.active).operationId = none
  split
  · rfl
  · rw [h]
    rfl

theorem retiredOnSuccess_active : t.retiredOnSuccess.active = t.active := by
  unfold retiredOnSuccess withoutClaim
  split
  · rw [clearFailure_eq]
  · rfl

theorem failed_operation (stage : TargetActiveStage) (failure : TargetFailure) (at_ : Int) :
    (t.failed stage failure at_).active.operationId = none := by
  refine marked_operation ?_
  rw [retiredNonMoving_active, clearInterruption_eq]
  rfl

theorem bindDeploy_active (generationId : String) : (t.bindDeploy generationId).active = .none := by
  unfold bindDeploy
  rw [clearInterruption_eq, clearInterruption_eq, clearFailure_eq]
  rfl

theorem releaseRequest_active (args : BlueprintAckArgs) :
    (t.releaseRequest args).active = .none := by
  unfold releaseRequest
  rw [clearInterruption_eq, noteRecoveryPoint_eq]
  rfl

theorem acknowledged_active (app : Application) (args : BlueprintAckArgs)
    (candidateId : Option String) : (t.acknowledged app args candidateId).active = .none := by
  unfold acknowledged
  rw [clearInterruption_eq, clearFailure_eq]
  exact releaseRequest_active t args

theorem withdraw_active : t.withdraw.active = .none := by
  unfold withdraw
  rw [clearInterruption_eq]
  rfl

theorem Target.Stamps.slot {row t : Target} (h : row.Stamps t) : t.slot = row.slot := by
  obtain ⟨_, _, rfl⟩ := h
  rfl

/-- A target terminal that goes through: a repeated acknowledgement keeps the
slot, every other releases it. -/
theorem Settles.releases {t row : Target} {hold : Hold} {owner : SlotOwner}
    (h : Settles db app t tr row hold) (hterm : tr.terminal = some (owner, envelope))
    (happ : db.getApplication t.key.applicationId = some app) (ht : db.targets.find? t.key = some t)
    (hat : tr.settlesAt = some t.key) :
    (row.slot = t.slot ∧ tr.Spares db) ∨ (row.active.operationId = none ∧ ¬ tr.Spares db) := by
  cases h with
  | @deployBound id nodeId generationId envelope hlive hmatch =>
    have hkey : (⟨id, nodeId⟩ : TargetKey) = t.key := Option.some.inj hat
    refine .inr ⟨marked_operation ?_, fun hspares => ?_⟩
    · rw [retiredOnSuccess_active, bindDeploy_active]
    · rw [hspares t (by rw [hkey]; exact ht)] at hmatch
      cases hmatch
  | @deployUnbound id nodeId generationId envelope hmatch =>
    have hkey : (⟨id, nodeId⟩ : TargetKey) = t.key := Option.some.inj hat
    refine .inr ⟨failed_operation _ _ _ _, fun hspares => ?_⟩
    rw [hspares t (by rw [hkey]; exact ht)] at hmatch
    cases hmatch
  | deployFailed | blueprintWithdrawFailed =>
    exact .inr ⟨failed_operation _ _ _ _, fun hspares => hspares⟩
  | @blueprintDeployFailed _ _ failureClass envelope =>
    exact .inr ⟨failed_operation t .blueprintDeployStarted
      ⟨some .blueprintDeploy, some failureClass, some envelope.at_⟩ envelope.at_,
      fun hspares => hspares⟩
  | @alreadyAcked args hacked =>
    have hkey : (⟨args.applicationId, args.nodeId⟩ : TargetKey) = t.key :=
      Option.some.inj hat
    refine .inl ⟨?_, fun app' t' happ' ht' => .inl ?_⟩
    · rw [noteRecoveryPoint_eq]
      rfl
    · rw [hkey] at ht'
      rw [show args.applicationId = t.key.applicationId from
        congrArg TargetKey.applicationId hkey] at happ'
      rw [← Option.some.inj (happ.symm.trans happ'), ← Option.some.inj (ht.symm.trans ht')]
      exact hacked
  | @supersededAck args hfirst hmatch hintent =>
    have hkey : (⟨args.applicationId, args.nodeId⟩ : TargetKey) = t.key :=
      Option.some.inj hat
    refine .inr ⟨marked_operation (releaseRequest_active t args), fun hspares => ?_⟩
    rcases hspares app t (by rw [show args.applicationId = t.key.applicationId from
      congrArg TargetKey.applicationId hkey]; exact happ) (by rw [hkey]; exact ht)
      with hacked | hno
    · rw [hfirst] at hacked
      cases hacked
    · exact hno hmatch
  | @acknowledged args hfirst hmatch hintent =>
    have hkey : (⟨args.applicationId, args.nodeId⟩ : TargetKey) = t.key :=
      Option.some.inj hat
    refine .inr ⟨marked_operation ?_, fun hspares => ?_⟩
    · rw [retiredOnSuccess_active, acknowledged_active]
    · rcases hspares app t (by rw [show args.applicationId = t.key.applicationId from
        congrArg TargetKey.applicationId hkey]; exact happ) (by rw [hkey]; exact ht)
        with hacked | hno
      · rw [hfirst] at hacked
        cases hacked
      · exact hno hmatch
  | @blueprintWithdrawn id nodeId intentRevisionId envelope candidateId hmatch =>
    have hkey : (⟨id, nodeId⟩ : TargetKey) = t.key := Option.some.inj hat
    refine .inr ⟨marked_operation (withdraw_active t), fun hspares => ?_⟩
    rw [hspares t (by rw [hkey]; exact ht)] at hmatch
    cases hmatch
  | deployStarted | targetTombstoned | blueprintDeployStarted | blueprintWithdrawStarted
  | observed | reviewed | rollbackInProgress | recoveryStarted | rollbackPartialFailed
  | recoveryFailed | rollbackCompleted | recoveryUnproven | recoverySucceeded => cases hterm

/-- What an application terminal finds when it goes through. -/
def Transition.appGuard (tr : Transition) (app : Application) : Prop :=
  match tr with
  | .fetched _ _ _ envelope | .fetchedInvalid _ _ _ envelope | .fetchFailed _ _ envelope =>
    requireMatchingFetch app envelope = true
  | .applyFailed _ _ _ =>
    app.active.stage = some .applyStarted ∨ app.interruption.stage = some .applyStarted
  | .sourceAccepted args | .applied args => AcceptsSlot args app
  | _ => True

section

variable {id : String} {envelope : EventEnvelope}
  (hterm : tr.terminal = some (.application id, envelope))
include hterm

theorem releases_application :
    Tx.Ensures (tr.perform repoKey) db fun _ db' => ReleasesApp db db' id tr.appGuard := by
  cases tr <;> try cases hterm
  case fetched => exact releases_fetched
  case fetchFailed => exact releases_fetchFailed
  case fetchedInvalid => exact releases_fetchedInvalid
  case applyFailed => exact releases_applyFailed
  case applied => exact releases_applied
  case sourceAccepted => exact releases_sourceAccepted

/-- The guard of an application terminal and what it spares exclude each other. -/
theorem appGuard_not_spares (happ : db.getApplication id = some app)
    (hother : OtherOperation app.slot envelope) (hguard : tr.appGuard app) : ¬ tr.Spares db := by
  intro hspares
  have haccept : ∀ args : AppliedArgs, args.envelope = envelope → AcceptsSlot args app →
      app.active.stage = some .applyStarted ∧ truthy app.active.operationId = true → False := by
    intro args henvelope hslot hlive
    obtain ⟨operationId, hop, hne⟩ := hother.other
    refine hslot ⟨hlive.1, hlive.2, fun heq => hne ?_⟩
    have hop' : app.active.operationId = some operationId := hop
    rw [← henvelope]
    exact Option.some.inj (hop'.symm.trans heq)
  cases tr <;> try cases hterm
  case fetched => exact absurd (hspares app happ) (by rw [hguard]; decide)
  case fetchFailed => exact absurd (hspares app happ) (by rw [hguard]; decide)
  case fetchedInvalid => exact absurd (hspares app happ) (by rw [hguard]; decide)
  case applyFailed =>
    obtain ⟨hactive, hinterrupted⟩ := hspares app happ
    exact hguard.elim hactive hinterrupted
  case applied args => exact haccept args rfl hguard (hspares app happ)
  case sourceAccepted args => exact haccept args rfl hguard (hspares app happ)

end

theorem settlesAt_of_terminal {key : TargetKey}
    (hterm : tr.terminal = some (.target key, envelope)) : tr.settlesAt = some key := by
  cases tr <;> try cases hterm
  all_goals rfl

/-- A terminal that goes through over another operation keeps its slot exactly
when its guard spares it. -/
theorem terminal_clears {owner : SlotOwner}
    {slot : OperationSlot} {db' : Db} (hterm : tr.terminal = some (owner, envelope))
    (hslot : owner.slot db = some slot) (hother : OtherOperation slot envelope)
    (hrun : tr.perform repoKey db = .ok ((), db')) :
    owner.slot db' = owner.slot db ↔ tr.Spares db := by
  rw [hslot]
  cases owner with
  | application id =>
    obtain ⟨app, happ, rfl⟩ := Option.map_eq_some_iff.mp hslot
    obtain ⟨⟨stored, hst, hguard⟩, hreleased⟩ :=
      @releases_application repoKey _ _ _ _ hterm () db' hrun
    have hsame : stored = app := Option.some.inj (hst.symm.trans happ)
    subst hsame
    refine iff_of_false (fun hkept => ?_) (appGuard_not_spares hterm happ hother hguard)
    obtain ⟨app', happ', heq⟩ := Option.map_eq_some_iff.mp hkept
    have hrunning := hother.running
    rw [← heq, Application.slot, hreleased app' happ'] at hrunning
    cases hrunning
  | target key =>
    obtain ⟨t, ht, rfl⟩ := Option.map_eq_some_iff.mp hslot
    have hkey : t.key = key := Table.key_of_find? ht
    subst hkey
    obtain ⟨app, told, row, hold, happ, htold, hsettles, hlanded⟩ :=
      @perform_settles repoKey _ _ _ (settlesAt_of_terminal hterm) () db' hrun
    have hsame : told = t := Option.some.inj (htold.symm.trans ht)
    subst hsame
    obtain ⟨t', ht', hstamps⟩ := hlanded.target
    have hread : SlotOwner.slot db' (.target told.key) = some row.slot := by
      show (db'.targets.find? told.key).map Target.slot = _
      rw [ht', Option.map_some, hstamps.slot]
    rw [hread, Option.some.injEq]
    rcases hsettles.releases hterm happ htold (settlesAt_of_terminal hterm) with
      ⟨hkept, hspares⟩ | ⟨hreleased, hspares⟩
    · exact iff_of_true hkept hspares
    · refine iff_of_false (fun hkept => ?_) hspares
      obtain ⟨operationId, hop, -⟩ := hother.other
      rw [← hkept] at hop
      exact Option.some_ne_none operationId (hop.symm.trans hreleased)

/-- A terminal of one operation, arriving when the slot belongs to another,
refuses or leaves the slot alone exactly when its guard spares it. -/
theorem stale_terminal_spares_iff {owner : SlotOwner}
    {slot : OperationSlot} (hterm : tr.terminal = some (owner, envelope))
    (hslot : owner.slot db = some slot) (hother : OtherOperation slot envelope) :
    (¬ accepts (tr.perform repoKey) db ∨ owner.slot (step repoKey db tr) = owner.slot db) ↔
      (¬ accepts (tr.perform repoKey) db ∨ tr.Spares db) := by
  by_cases haccepts : accepts (tr.perform repoKey) db
  · obtain ⟨_, db', hrun⟩ := haccepts
    have hstep : step repoKey db tr = db' := commit_of_ok hrun
    rw [hstep]
    exact or_congr_right (terminal_clears hterm hslot hother hrun)
  · exact iff_of_true (.inl haccepts) (.inl haccepts)

/-- A linked stack with its first generation applied. -/
def appliedStack : List Transition :=
  [.activateDirect linkedStack 1 (envelopeAt "link" 1), .stageGeneration (fetchedGeneration "g1"),
    .candidateReady "app" "g1" false (envelopeAt "offer" 2),
    .applied ⟨"app", "g1", "artifacts", "acceptance", .operator, envelopeAt "apply" 3, false, none⟩]

/-- A deploy, a restart, and the deploy that followed it. -/
def redeployed : List Transition :=
  appliedStack ++ [.deployStarted "app" 1 "g1" (envelopeAt "first" 4),
    .interruptActiveOperations "app" (envelopeAt "boot" 5),
    .deployStarted "app" 1 "g1" (envelopeAt "second" 6)]

/-- The slot of the deploy that followed the restart. -/
def secondDeploy : OperationSlot := ⟨some "second", some (.inr .deployStarted), some "g1", none⟩

/-- The failure of the first deploy takes the slot of the second. -/
theorem late_deployFailed_clears :
    ¬ ∀ (calls : List Transition) (tr : Transition) (owner : SlotOwner)
        (envelope : EventEnvelope) (slot : OperationSlot),
      tr.terminal = some (owner, envelope) →
      owner.slot (runTransitions (fun _ => none) Db.empty calls) = some slot →
      OtherOperation slot envelope →
      (¬ accepts (tr.perform fun _ => none) (runTransitions (fun _ => none) Db.empty calls) ∨
        owner.slot (step (fun _ => none) (runTransitions (fun _ => none) Db.empty calls) tr) =
          owner.slot (runTransitions (fun _ => none) Db.empty calls)) := by
  intro h
  have hslot : SlotOwner.slot (runTransitions (fun _ => none) Db.empty redeployed)
      (.target ⟨"app", 1⟩) = some secondDeploy := by
    decide +kernel
  rcases h redeployed (.deployFailed "app" 1 .preMutation (envelopeAt "first" 7))
      (.target ⟨"app", 1⟩) (envelopeAt "first" 7) secondDeploy rfl hslot
      ⟨rfl, "second", rfl, by decide⟩ with hrf | hkept
  · exact hrf ⟨(), _, ok_of_result (by decide +kernel)⟩
  · rw [hslot] at hkept
    exact absurd hkept (by decide +kernel)

/-- The late end of a deploy that no row remembers leaves the next one alone. -/
theorem stale_terminal_spares_secondDeploy :
    ¬ Tx.accepts ((Transition.deployUnbound "app" 1 "g1" (envelopeAt "first" 7)).perform
        fun _ => none) (runTransitions (fun _ => none) Db.empty (appliedStack ++
          [.deployStarted "app" 1 "g1" (envelopeAt "second" 6)])) ∨
      SlotOwner.slot (step (fun _ => none) (runTransitions (fun _ => none) Db.empty
          (appliedStack ++ [.deployStarted "app" 1 "g1" (envelopeAt "second" 6)]))
          (.deployUnbound "app" 1 "g1" (envelopeAt "first" 7))) (.target ⟨"app", 1⟩) =
        SlotOwner.slot (runTransitions (fun _ => none) Db.empty
          (appliedStack ++ [.deployStarted "app" 1 "g1" (envelopeAt "second" 6)]))
          (.target ⟨"app", 1⟩) := by
  refine (@stale_terminal_spares_iff _ _ _ _ _ secondDeploy rfl (by decide +kernel)
      ⟨rfl, "second", rfl, by decide⟩).mpr (.inr ?_)
  intro t ht
  have hnone : ((runTransitions (fun _ => none) Db.empty (appliedStack ++
      [.deployStarted "app" 1 "g1" (envelopeAt "second" 6)])).targets.find? ⟨"app", 1⟩).all
      (fun t => !requireMatchingDeploy t "g1" (envelopeAt "first" 7)) = true := by
    decide +kernel
  rw [ht] at hnone
  simpa using hnone

end Sencho.GitOps

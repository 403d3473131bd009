import Sencho.GitOps.Reachable

/-!
# Settlements

What each call on one target makes of the row and of its application's recovery
hold.  A call loads the row, edits it, and lets the application follow; here
both results are functions of what was loaded, so a property of the row or of
the hold is one case analysis over the calls.
-/

namespace Sencho.GitOps

open Verified Tx Target

variable {repoKey : String → Option String} {db : Db} {tr : Transition}

/-! ## The hold of an application -/

/-- The recovery state and the failure an application shows. -/
structure Hold where
  recovery : ApplicationRecovery
  failure : ApplicationFailure

def Application.hold (app : Application) : Hold := ⟨app.recovery, app.failure⟩

/-- A failure slot without a recovery failure. -/
def ApplicationFailure.cleared (f : ApplicationFailure) : ApplicationFailure :=
  if f.stage = some .recovery then .none else f

namespace Hold

/-- The hold once its last claimant is gone. -/
def cleared (h : Hold) : Hold :=
  if h.recovery.phase ≠ some .failed ∧ h.failure.stage ≠ some .recovery then h
  else ⟨⟨none, none⟩, h.failure.cleared⟩

/-- The hold derived from the live targets. -/
def derived (h : Hold) (live : List Target) (at_ : Int) : Hold :=
  if live.any targetRestoreInFlight then h
  else
    match live.find? recoveryClaimMoved with
    | some surviving =>
      ⟨⟨surviving.recovery.ref.or h.recovery.ref, some .failed⟩,
        ⟨some .recovery, some (((recoveryFailureClaimClass surviving).getD .partial_).name),
          some ((recoveryFailureClaimAt surviving).getD at_)⟩⟩
    | none =>
      if live.any fun row => row.recovery.phase = some .complete then
        ⟨⟨h.recovery.ref, some .complete⟩, h.failure.cleared⟩
      else ⟨⟨none, none⟩, h.failure.cleared⟩

end Hold

theorem clearFailure_recovery_hold (app : Application) :
    (app.clearFailure [.recovery]).hold = ⟨app.recovery, app.failure.cleared⟩ := by
  rw [Application.clearFailure_eq]
  unfold Application.hold ApplicationFailure.cleared
  cases app.failure.stage with
  | none => rfl
  | some stage => cases stage <;> rfl

theorem clearHold_hold (app : Application) : (clearHold app).hold = app.hold.cleared := by
  show Application.hold (if _ then _ else _) =
    if app.recovery.phase ≠ some .failed ∧ app.failure.stage ≠ some .recovery then _ else _
  split
  · rfl
  · exact clearFailure_recovery_hold _

/-- The live targets, with the rows a caller has edited in place of the stored. -/
def liveWith (db : Db) (id : String) (overrides : List Target) : List Target :=
  ((db.listTargets id).filter fun row =>
    row.status ≠ .tombstoned && !overrides.any fun o => o.nodeId = row.nodeId) ++
    overrides.filter fun row => row.status ≠ .tombstoned

theorem deriveApplicationRecovery_hold (app : Application) (at_ : Int) (overrides : List Target) :
    (deriveApplicationRecovery db app at_ overrides).hold =
      app.hold.derived (liveWith db app.id overrides) at_ := by
  unfold deriveApplicationRecovery Hold.derived
  show Application.hold (if (liveWith db app.id overrides).any targetRestoreInFlight then _
    else _) = _
  split
  · rfl
  · split
    · rename_i surviving hfind
      have hfind' : (liveWith db app.id overrides).find? recoveryClaimMoved =
        some surviving := hfind
      rw [hfind']
      rfl
    · rename_i hfind
      have hfind' : (liveWith db app.id overrides).find? recoveryClaimMoved = none := hfind
      rw [hfind']
      show Application.hold (if (liveWith db app.id overrides).any _ then _ else _) = _
      split
      · exact clearFailure_recovery_hold _
      · exact clearFailure_recovery_hold _

/-- Whether some other live target, or a restore on this one, still claims the
hold. -/
def claimsRemain (db : Db) (id : String) (nodeId : Int) : Bool :=
  (db.listTargets id).any fun row =>
    (row.nodeId ≠ nodeId || targetRestoreInFlight row) &&
      row.status ≠ .tombstoned && targetRecoveryFailureMoved row

/-- The hold after one target no longer claims it. -/
def Hold.released (h : Hold) (db : Db) (id : String) (nodeId : Int) : Hold :=
  if claimsRemain db id nodeId then h else h.cleared

/-! ## The row edits -/

namespace Target

/-- A row whose recovery slot is dropped. -/
def withoutClaim (t : Target) : Target :=
  { t with recovery := ⟨none, t.recovery.generationId, none, none, none⟩ }.clearFailure [.recovery]

/-- Whether a success retires the claim of the row. -/
def retiresOnSuccess (t : Target) : Bool :=
  !targetRestoreInFlight t &&
    !(recoveryFailureClaimClass t = none ∧ t.recovery.phase ≠ some .failed)

def retiredOnSuccess (t : Target) : Target :=
  if t.retiresOnSuccess then t.withoutClaim else t

def retiredNonMoving (t : Target) : Target :=
  if recoveryClaimRetirable t then t.withoutClaim else t

/-- A severed placement back in the fleet. -/
def revived (t : Target) : Target := { t with status := .active }.retiredNonMoving

/-- A deploy or withdrawal that did not succeed. -/
def failed (t : Target) (stage : TargetActiveStage) (failure : TargetFailure) (at_ : Int) :
    Target :=
  { (t.clearActive.clearInterruption stage).retiredNonMoving.markInFlightRestore at_ with
    failure := failure }

/-- The row a call writes, up to the stage and the time it stamps. -/
def Stamps (row t : Target) : Prop :=
  ∃ stage at_, t = { row with latestStage := stage, updatedAt := at_ }

theorem Stamps.active {row t : Target} (h : row.Stamps t) : t.active = row.active := by
  obtain ⟨_, _, rfl⟩ := h
  rfl

end Target

namespace Hold

/-- The hold after a success on a row. -/
def onSuccess (h : Hold) (db : Db) (id : String) (t : Target) : Hold :=
  if t.retiresOnSuccess then h.released db id t.nodeId else h

/-- The hold after a later failure on a row. -/
def onNonMoving (h : Hold) (db : Db) (id : String) (t : Target) : Hold :=
  if recoveryClaimRetirable t then h.released db id t.nodeId else h

/-- The hold after a row is brought back. -/
def onRevival (h : Hold) (db : Db) (id : String) (t : Target) (at_ : Int) : Hold :=
  if recoveryClaimMoved t.revived then
    (h.onNonMoving db id { t with status := .active }).derived (liveWith db id [t.revived]) at_
  else h.onNonMoving db id { t with status := .active }

end Hold

/-! ## The helpers -/

/-- A helper updated the owning application and no target. -/
structure Owned (db db' : Db) (id : String) (hold : Hold) : Prop where
  targets : db'.targets = db.targets
  owner : ∃ app, db'.getApplication id = some app ∧ app.hold = hold

variable {overrides : List Target}

section

variable {id : String} {app : Application} {envelope : EventEnvelope} {t : Target}
variable {db' : Db}

theorem Owned.self (happ : db.getApplication id = some app) : Owned db db id app.hold :=
  ⟨rfl, app, happ, rfl⟩

section

variable (h : db'.targets = db.targets)
include h

theorem listTargets_congr : db'.listTargets id = db.listTargets id := by
  unfold Db.listTargets
  rw [h]

theorem claimsRemain_congr {nodeId : Int} :
    claimsRemain db' id nodeId = claimsRemain db id nodeId := by
  unfold claimsRemain
  rw [listTargets_congr h]

theorem liveWith_congr : liveWith db' id overrides = liveWith db id overrides := by
  unfold liveWith
  rw [listTargets_congr h]

end

theorem ensures_hold {mutate : Db → Application → Application} {f : Hold → Hold}
    (happ : db.getApplication id = some app) (hid : (mutate db app).id = app.id)
    (hhold : (mutate db app).hold = f app.hold) :
    Tx.Ensures (withApplication id envelope mutate) db fun _ db' =>
      Owned db db' id (f app.hold) := by
  rw [ensures_withApplication_iff]
  intro stored hst
  have hsame : app = stored := Option.some.inj (happ.symm.trans hst)
  subst hsame
  refine ⟨rfl, _, Db.getApplication_writeApp_self (hid.trans (Table.key_of_find? happ)) happ, ?_⟩
  exact hhold

theorem ensures_released {nodeId : Int} (happ : db.getApplication id = some app) :
    Tx.Ensures (clearApplicationRecoveryWhenNoTargetFails id nodeId envelope) db
      fun _ db' => Owned db db' id (app.hold.released db id nodeId) := by
  unfold clearApplicationRecoveryWhenNoTargetFails
  show Tx.Ensures (if claimsRemain db id nodeId = true then _ else _) db _
  rw [ensures_ite, ensures_pure]
  unfold Hold.released
  refine ⟨fun hremain => ?_, fun hgone => ?_⟩
  · rw [if_pos hremain]
    exact Owned.self happ
  · rw [if_neg hgone]
    exact @ensures_hold _ _ _ _ (fun _ app => clearHold app) _ happ (by rw [clearHold_eq])
        (clearHold_hold app)

section

variable (happ : db.getApplication id = some app)
include happ

theorem ensures_derived :
    Tx.Ensures (withApplication id envelope fun db app =>
        deriveApplicationRecovery db app envelope.at_ overrides) db
      fun _ db' => Owned db db' id (app.hold.derived (liveWith db id overrides) envelope.at_) := by
  have hid : app.id = id := Table.key_of_find? happ
  refine ensures_hold (f := fun h => h.derived (liveWith db id overrides) envelope.at_) happ
    (by rw [deriveApplicationRecovery_eq]) ?_
  rw [deriveApplicationRecovery_hold, hid]

theorem ensures_withoutClaim : Tx.Ensures (clearRecoveryClaim t id envelope) db fun t' db' =>
      t' = t.withoutClaim ∧ Owned db db' id (app.hold.released db id t.nodeId) := by
  unfold clearRecoveryClaim
  rw [ensures_bind]
  refine (ensures_released happ).mono fun _ db' howned => ?_
  rw [ensures_pure]
  exact ⟨rfl, howned⟩

theorem ensures_onSuccess : Tx.Ensures (retireRecoveryClaimOnSuccess t id envelope) db fun t' db' =>
      t' = t.retiredOnSuccess ∧ Owned db db' id (app.hold.onSuccess db id t) := by
  unfold retireRecoveryClaimOnSuccess retiredOnSuccess Hold.onSuccess retiresOnSuccess
  cases hfl : targetRestoreInFlight t with
  | true => simpa using Owned.self happ
  | false =>
    by_cases hnone : recoveryFailureClaimClass t = none ∧ t.recovery.phase ≠ some .failed
    · simpa [hnone] using Owned.self happ
    · simpa [hnone] using ensures_withoutClaim happ

theorem ensures_onNonMoving :
    Tx.Ensures (retireNonMovingRecoveryClaim t id envelope) db fun t' db' =>
      t' = t.retiredNonMoving ∧ Owned db db' id (app.hold.onNonMoving db id t) := by
  unfold retireNonMovingRecoveryClaim retiredNonMoving Hold.onNonMoving
  cases recoveryClaimRetirable t with
  | true => simpa using ensures_withoutClaim happ
  | false => simpa using Owned.self happ

theorem ensures_revived : Tx.Ensures (reviveTarget t id envelope) db fun t' db' =>
      t' = t.revived ∧ Owned db db' id (app.hold.onRevival db id t envelope.at_) := by
  unfold reviveTarget
  rw [ensures_bind]
  refine (ensures_onNonMoving happ).mono fun t' db' hretired => ?_
  obtain ⟨ht', howned⟩ := hretired
  have hrevived : t' = t.revived := ht'
  subst hrevived
  unfold Hold.onRevival
  rw [ensures_ite, ensures_pure, ensures_bind]
  obtain ⟨now, hnow, hhold⟩ := howned.owner
  refine ⟨fun hmoved => ?_, fun hstill => ?_⟩
  · rw [if_pos hmoved]
    refine (ensures_derived hnow).mono fun _ db'' hderived => ?_
    rw [ensures_pure]
    rw [liveWith_congr howned.targets, hhold] at hderived
    exact ⟨rfl, hderived.targets.trans howned.targets, hderived.owner⟩
  · rw [if_neg hstill]
    exact ⟨rfl, howned⟩

theorem ensures_failed {stage : TargetActiveStage} {failure : TargetFailure} :
    Tx.Ensures (settleFailure t id stage failure envelope) db fun t' db' =>
      t' = t.failed stage failure envelope.at_ ∧ Owned db db' id
        (app.hold.onNonMoving db id (t.clearActive.clearInterruption stage)) := by
  unfold settleFailure
  rw [ensures_bind]
  refine (ensures_onNonMoving happ).mono fun t' db' hretired => ?_
  rw [ensures_pure, hretired.1]
  exact ⟨rfl, hretired.2⟩

end

end

/-! ## The calls -/

/-- The target a settling call is about. -/
def Transition.settlesAt : Transition → Option TargetKey
  | .deployStarted id nodeId _ _ | .deployBound id nodeId _ _ | .deployUnbound id nodeId _ _
  | .deployFailed id nodeId _ _ | .targetTombstoned id nodeId _
  | .blueprintDeployFailed id nodeId _ _ | .blueprintWithdrawStarted id nodeId _ _
  | .blueprintWithdrawn id nodeId _ _ | .blueprintWithdrawFailed id nodeId _ _
  | .blueprintObservation id nodeId _ _ | .rollbackInProgress id (some nodeId) _ _ _
  | .rollbackPartialFailed id (some nodeId) _ _ _ | .rollbackCompleted id nodeId _ _
  | .recoveryStarted id nodeId _ _ _ | .recoverySucceeded id nodeId _ _ _ _ _
  | .recoveryFailed id nodeId _ _ _ => some ⟨id, nodeId⟩
  | .blueprintDeployStarted args | .blueprintAckRecorded args =>
    some ⟨args.applicationId, args.nodeId⟩
  | _ => none

namespace Target

/-- The row of a deploy that starts. -/
def startDeploy (t : Target) (generationId : String) (envelope : EventEnvelope) : Target :=
  { t with
    active := { t.active with
      operationId := some envelope.operationId
      stage := some .deployStarted
      at_ := some envelope.at_
      generationId := some generationId } }.clearInterruption .deployStarted

/-- The row of a withdrawal that starts. -/
def startWithdraw (t : Target) (intentRevisionId : String) (envelope : EventEnvelope) :
    Target :=
  { t with
    active := { t.active with
      operationId := some envelope.operationId
      stage := some .blueprintWithdrawStarted
      at_ := some envelope.at_
      intentRevisionId := some intentRevisionId } }.clearInterruption .blueprintWithdrawStarted

/-- The row a Blueprint deploy opens on: a severed placement is brought back. -/
def reopened (t : Target) : Target := if t.status ≠ .active then t.revived else t

end Target

/-- What an accepted call makes of the row it loaded and of the hold of its
application. -/
inductive Settles (db : Db) (app : Application) (t : Target) :
    Transition → Target → Hold → Prop where
  | deployStarted {id nodeId generationId envelope} (hlive : t.status = .active)
      (hfree : t.active.stage = none ∨ t.active.operationId = some envelope.operationId) :
      Settles db app t (.deployStarted id nodeId generationId envelope)
        (t.startDeploy generationId envelope) app.hold
  | deployBound {id nodeId generationId envelope} (hlive : t.status = .active)
      (hmatch : requireMatchingDeploy t generationId envelope = true) :
      Settles db app t (.deployBound id nodeId generationId envelope)
        ((t.bindDeploy generationId).retiredOnSuccess.markInFlightRestore envelope.at_)
        (app.hold.onSuccess db app.id (t.bindDeploy generationId))
  | deployUnbound {id nodeId generationId envelope}
      (hmatch : requireMatchingDeploy t generationId envelope = true) :
      Settles db app t (.deployUnbound id nodeId generationId envelope)
        (t.failed .deployStarted ⟨some .deploy, some "unbound", some envelope.at_⟩ envelope.at_)
        (app.hold.onNonMoving db app.id (t.clearActive.clearInterruption .deployStarted))
  | deployFailed {id nodeId failureClass envelope} :
      Settles db app t (.deployFailed id nodeId failureClass envelope) (t.failed .deployStarted
          ⟨some .deploy, some failureClass.recovery.name, some envelope.at_⟩ envelope.at_)
        (app.hold.onNonMoving db app.id (t.clearActive.clearInterruption .deployStarted))
  | targetTombstoned {id nodeId envelope} : Settles db app t (.targetTombstoned id nodeId envelope)
        (t.tombstone.markInFlightRestore envelope.at_)
        (app.hold.released db app.id nodeId)
  | blueprintDeployStarted {args}
      (hfree : t.active.stage = none ∨ t.active.stage = some .blueprintDeployStarted ∨
        t.active.operationId = some args.envelope.operationId) :
      Settles db app t (.blueprintDeployStarted args) (t.reopened.openBlueprintDeploy args)
        (if t.status ≠ .active then app.hold.onRevival db app.id t args.envelope.at_
          else app.hold)
  | alreadyAcked {args} (hacked : alreadyAckedForThisRollout t app args.intentRevisionId
        args.rolloutCandidateId = true) :
      Settles db app t (.blueprintAckRecorded args)
        (t.noteRecoveryPoint args.recoveryGenerationId) app.hold
  | supersededAck {args} (hfirst : alreadyAckedForThisRollout t app args.intentRevisionId
        args.rolloutCandidateId = false)
      (hmatch : matchBlueprintRequest t .blueprintDeployStarted args.intentRevisionId =
        some args.rolloutCandidateId)
      (hintent : app.intentRevisionId ≠ some args.intentRevisionId) :
      Settles db app t (.blueprintAckRecorded args)
        ({ t.releaseRequest args with legacyAppliedRevision := args.legacyAppliedRevision
          }.markInFlightRestore args.envelope.at_) app.hold
  | acknowledged {args} (hfirst : alreadyAckedForThisRollout t app args.intentRevisionId
        args.rolloutCandidateId = false)
      (hmatch : matchBlueprintRequest t .blueprintDeployStarted args.intentRevisionId =
        some args.rolloutCandidateId)
      (hintent : app.intentRevisionId = some args.intentRevisionId) :
      Settles db app t (.blueprintAckRecorded args)
        ((t.acknowledged app args args.rolloutCandidateId).retiredOnSuccess.markInFlightRestore
          args.envelope.at_)
        ((app.hold.onSuccess db app.id
          (t.acknowledged app args args.rolloutCandidateId)).released db app.id args.nodeId)
  | blueprintDeployFailed {id nodeId failureClass envelope} :
      Settles db app t (.blueprintDeployFailed id nodeId failureClass envelope)
        { t.failed .blueprintDeployStarted
          ⟨some .blueprintDeploy, some failureClass, some envelope.at_⟩ envelope.at_ with
          pendingHealthRunId := none }
        (app.hold.onNonMoving db app.id (t.clearActive.clearInterruption .blueprintDeployStarted))
  | blueprintWithdrawStarted {id nodeId intentRevisionId envelope} (hlive : t.status = .active)
      (hfree : t.active.stage = none ∨ t.active.operationId = some envelope.operationId) :
      Settles db app t (.blueprintWithdrawStarted id nodeId intentRevisionId envelope)
        (t.startWithdraw intentRevisionId envelope) app.hold
  | blueprintWithdrawn {id nodeId intentRevisionId envelope candidateId}
      (hmatch : matchBlueprintRequest t .blueprintWithdrawStarted intentRevisionId =
        some candidateId) :
      Settles db app t (.blueprintWithdrawn id nodeId intentRevisionId envelope)
        (t.withdraw.markInFlightRestore envelope.at_)
        (app.hold.released db app.id nodeId)
  | blueprintWithdrawFailed {id nodeId failureClass envelope} :
      Settles db app t (.blueprintWithdrawFailed id nodeId failureClass envelope)
        (t.failed .blueprintWithdrawStarted
          ⟨some .blueprintWithdraw, some failureClass, some envelope.at_⟩ envelope.at_)
        (app.hold.onNonMoving db app.id (t.clearActive.clearInterruption .blueprintWithdrawStarted))
  | observed {id nodeId stage envelope} (hlive : t.status = .active) :
      Settles db app t (.blueprintObservation id nodeId stage envelope) t app.hold
  | reviewed {id nodeId envelope} (hsevered : t.status ≠ .active) :
      Settles db app t (.blueprintObservation id nodeId .stateReview envelope)
        { t.revived with interruption := .none }
        (app.hold.onRevival db app.id t envelope.at_)
  | rollbackInProgress {id nodeId recoveryRef recoveryGenerationId envelope}
      (hlive : t.status = .active) (hidle : targetRestoreInFlight t = false) :
      Settles db app t
        (.rollbackInProgress id (some nodeId) recoveryRef recoveryGenerationId envelope)
        { t with
          recovery := t.recovery.opened recoveryRef recoveryGenerationId
          active :=
            if t.active.stage.isNone then t.active.restoreMarker recoveryGenerationId envelope
            else t.active }
        ⟨⟨some recoveryRef, some .restoring⟩, app.failure⟩
  | recoveryStarted {id nodeId recoveryRef recoveryGenerationId envelope}
      (hlive : t.status = .active) (hidle : targetRestoreInFlight t = false) :
      Settles db app t (.recoveryStarted id nodeId recoveryRef recoveryGenerationId envelope)
        { t with
          recovery := t.recovery.opened recoveryRef recoveryGenerationId
          active := t.active.restoreMarker recoveryGenerationId envelope }
        ⟨⟨some recoveryRef, some .restoring⟩, app.failure⟩
  | rollbackPartialFailed {id nodeId recoveryRef failureClass envelope live}
      (hlive : ∀ r, r ∈ live ↔
        r ∈ liveWith db app.id [t.settleRollback recoveryRef failureClass envelope.at_]) :
      Settles db app t (.rollbackPartialFailed id (some nodeId) recoveryRef failureClass envelope)
        (t.settleRollback recoveryRef failureClass envelope.at_)
        (app.hold.derived live envelope.at_)
  | recoveryFailed {id nodeId recoveryRef failureClass envelope} :
      Settles db app t (.recoveryFailed id nodeId recoveryRef failureClass envelope)
        ((t.clearActive.clearInterruption .recoveryStarted).recordRecoveryFailure recoveryRef
          failureClass.recovery envelope.at_)
        ⟨⟨some recoveryRef, some .failed⟩,
          ⟨some .recovery, some failureClass.recovery.name, some envelope.at_⟩⟩
  | rollbackCompleted {id nodeId evidence envelope restored} :
      Settles db app t (.rollbackCompleted id nodeId evidence envelope)
        { (t.completeRollback evidence).bindRestored db id restored
          evidence.capturedArtifactSetId evidence.capturedSourceAcceptanceRef envelope.at_ with
          healthStopReason := some .rollbackCompleted }
        (app.hold.derived (liveWith db app.id [t.completeRollback evidence]) envelope.at_)
  | recoveryUnproven {id nodeId evidence recoveryGenerationId proven binding envelope} :
      Settles db app t
        (.recoverySucceeded id nodeId evidence recoveryGenerationId proven binding envelope)
        (t.completeRecovery.noteLimitation "recovery_unproven"
          (some (recoveryGenerationId.getD evidence.recoveryRef)))
        (app.hold.derived (liveWith db app.id [t.completeRecovery]) envelope.at_)
  | recoverySucceeded {id nodeId evidence recoveryGenerationId proven binding envelope
        restored db'} :
      Settles db app t
        (.recoverySucceeded id nodeId evidence recoveryGenerationId proven binding envelope)
        (((t.completeRecovery.noteLimitation "recovery_unproven" none).bindRecovered restored
          binding).bindRestored db' id restored evidence.capturedArtifactSetId
          evidence.capturedSourceAcceptanceRef envelope.at_)
        (app.hold.derived (liveWith db app.id [t.completeRecovery]) envelope.at_)

/-- The database after a call that settled one target. -/
structure Landed (db db' : Db) (key : TargetKey) (row : Target) (hold : Hold) : Prop where
  target : ∃ t, db'.targets.find? key = some t ∧ row.Stamps t
  others : ∀ key', key' ≠ key → db'.targets.find? key' = db.targets.find? key'
  owner : ∃ app, db'.getApplication key.applicationId = some app ∧ app.hold = hold

/-- A call settled one target. -/
def Settled (db db' : Db) (tr : Transition) (key : TargetKey) : Prop :=
  ∃ app t row hold, db.getApplication key.applicationId = some app ∧
    db.targets.find? key = some t ∧ Settles db app t tr row hold ∧ Landed db db' key row hold

/-- A call settles the target with this key whenever it is accepted. -/
def Lands (repoKey : String → Option String) (db : Db) (tr : Transition) (key : TargetKey) : Prop :=
  Tx.Ensures (tr.perform repoKey) db fun _ db' => Settled db db' tr key

/-! ## Every call settles its target -/

namespace Target

variable (t : Target)

@[simp] theorem withoutClaim_key : t.withoutClaim.key = t.key := by
  unfold withoutClaim
  rw [clearFailure_key]
  rfl

@[simp] theorem retiredOnSuccess_key : t.retiredOnSuccess.key = t.key := by
  unfold retiredOnSuccess
  split <;> simp

@[simp] theorem retiredNonMoving_key : t.retiredNonMoving.key = t.key := by
  unfold retiredNonMoving
  split <;> simp

@[simp] theorem revived_key : t.revived.key = t.key := by
  unfold revived
  rw [retiredNonMoving_key]
  rfl

@[simp] theorem failed_key (stage : TargetActiveStage) (failure : TargetFailure) (at_ : Int) :
    (t.failed stage failure at_).key = t.key := by
  show ((t.clearActive.clearInterruption stage).retiredNonMoving.markInFlightRestore at_).key =
    t.key
  simp

@[simp] theorem reopened_key : t.reopened.key = t.key := by
  unfold reopened
  split <;> simp

end Target

theorem Settles.key {app : Application} {t row : Target} {hold : Hold}
    (h : Settles db app t tr row hold) : row.key = t.key := by
  cases h with
  | deployStarted | blueprintWithdrawStarted => exact clearInterruption_key _ _
  | deployBound => simp [(t.bindDeploy_kept _).1]
  | deployUnbound | deployFailed | blueprintWithdrawFailed => exact t.failed_key _ _ _
  | @blueprintDeployFailed _ _ failureClass envelope =>
    exact t.failed_key .blueprintDeployStarted
      ⟨some .blueprintDeploy, some failureClass, some envelope.at_⟩ envelope.at_
  | targetTombstoned => simp [t.tombstone_kept.1]
  | blueprintDeployStarted => rw [(t.reopened.openBlueprintDeploy_kept _).1, t.reopened_key]
  | alreadyAcked => exact (t.noteRecoveryPoint_kept _).1
  | supersededAck =>
    rw [markInFlightRestore_key]
    exact (t.releaseRequest_kept _).1
  | acknowledged => simp [(t.acknowledged_kept _ _ _).1]
  | blueprintWithdrawn => simp [t.withdraw_kept.1]
  | observed => rfl
  | reviewed => exact t.revived_key
  | rollbackInProgress | recoveryStarted => rfl
  | rollbackPartialFailed => exact (t.settleRollback_kept _ _ _).1
  | recoveryFailed => exact clearInterruption_key _ _
  | @rollbackCompleted id _ evidence envelope restored =>
    have hbound := (t.completeRollback evidence).bindRestored_kept db id restored
      evidence.capturedArtifactSetId evidence.capturedSourceAcceptanceRef envelope.at_
    exact hbound.1.trans (t.completeRollback_kept evidence).1
  | recoveryUnproven => exact t.completeRecovery_kept.1
  | recoverySucceeded =>
    exact (bindRestored_kept _ _ _ _ _ _ _).1.trans t.completeRecovery_kept.1

section

variable {id : String} {nodeId : Int} {envelope : EventEnvelope} {stage : TargetStage}
variable {recoveryGenerationId : Option String} {generationId recoveryRef : String}

/-- A call on one target whose edit is known. -/
theorem ensures_settling {β : Type} {mutate : Target → Application → Store (Target × β)}
    (h : ∀ app t, app.id = id → t.nodeId = nodeId → db.getApplication app.id = some app →
      Tx.Ensures (mutate t app) db fun r db' =>
        ∃ hold, Settles db app t tr r.1 hold ∧ Owned db db' app.id hold) :
    Tx.Ensures (mutateTarget id nodeId envelope stage mutate false) db fun _ db' =>
      Settled db db' tr ⟨id, nodeId⟩ := by
  rw [ensures_mutateTarget]
  intro app t happ ht
  have hid : app.id = id := Table.key_of_find? happ
  have hkey : t.key = ⟨id, nodeId⟩ := Table.key_of_find? ht
  have hnode : t.nodeId = nodeId := congrArg TargetKey.nodeId hkey
  have happ' : db.getApplication app.id = some app := by
    rw [hid]
    exact happ
  refine (h app t hid hnode happ').mono fun r db' hr _ => ?_
  obtain ⟨hold, hsettles, howned⟩ := hr
  rw [hid] at howned
  have hrow : r.1.key = ⟨id, nodeId⟩ := hsettles.key.trans hkey
  have hstamps : r.1.Stamps (r.1.stamped stage false envelope) := ⟨_, _, rfl⟩
  refine ⟨app, t, r.1, hold, happ, ht, hsettles, ⟨_, ?_, hstamps⟩, ?_, howned.owner⟩
  · exact Db.find?_putTarget_self hrow
  · intro key' hne
    rw [Db.find?_putTarget_ne, howned.targets]
    intro heq
    exact hne (heq.trans hrow)

theorem settles_deployStarted :
    Lands repoKey db (.deployStarted id nodeId generationId envelope) ⟨id, nodeId⟩ := by
  refine ensures_settling fun app t _ _ happ => ?_
  simp only [ensures_bind, ensures_refuseIf, ensures_pure]
  intro hlive _ hfree
  refine ⟨app.hold, Settles.deployStarted (by simpa using hlive) ?_, Owned.self happ⟩
  simpa [Decidable.or_iff_not_imp_left, Option.ne_none_iff_isSome] using hfree

theorem settles_deployBound :
    Lands repoKey db (.deployBound id nodeId generationId envelope) ⟨id, nodeId⟩ := by
  refine ensures_settling fun app t hid _ happ => ?_
  subst hid
  simp only [ensures_bind, ensures_refuseIf, ensures_pure]
  intro hlive hmatch
  refine (ensures_onSuccess happ).mono fun t' db' h => ?_
  rw [h.1]
  exact ⟨_, Settles.deployBound (by simpa using hlive) (by simpa using hmatch), h.2⟩

theorem settles_deployUnbound :
    Lands repoKey db (.deployUnbound id nodeId generationId envelope) ⟨id, nodeId⟩ := by
  refine ensures_settling fun app t hid _ happ => ?_
  subst hid
  simp only [ensures_bind, ensures_refuseIf, ensures_pure]
  intro hmatch
  refine (ensures_failed happ).mono fun t' db' h => ?_
  rw [h.1]
  exact ⟨_, Settles.deployUnbound (by simpa using hmatch), h.2⟩

theorem settles_deployFailed {failureClass : MutationClass} :
    Lands repoKey db (.deployFailed id nodeId failureClass envelope) ⟨id, nodeId⟩ := by
  refine ensures_settling fun app t hid _ happ => ?_
  subst hid
  simp only [ensures_bind, ensures_pure]
  refine (ensures_failed happ).mono fun t' db' h => ?_
  rw [h.1]
  exact ⟨_, Settles.deployFailed, h.2⟩

theorem settles_targetTombstoned : Tx.Ensures (targetTombstoned id nodeId envelope) db fun _ db' =>
      Settled db db' (.targetTombstoned id nodeId envelope) ⟨id, nodeId⟩ := by
  refine ensures_settling fun app t hid _ happ => ?_
  subst hid
  simp only [ensures_bind, ensures_pure]
  exact (ensures_released happ).mono fun _ db' h => ⟨_, Settles.targetTombstoned, h⟩

/-- A request may open where none is, over itself, or over one of its own kind. -/
theorem request_free {t : Target} {operationId : String}
    (h : (t.active.stage.isSome && t.active.stage ≠ some .blueprintDeployStarted &&
      t.active.operationId ≠ some operationId) = false) :
    t.active.stage = none ∨ t.active.stage = some .blueprintDeployStarted ∨
      t.active.operationId = some operationId := by
  cases hstage : t.active.stage with
  | none => exact .inl rfl
  | some stage =>
    rw [hstage] at h
    simp only [Option.isSome_some, Bool.true_and, Bool.and_eq_false_iff,
      decide_eq_false_iff_not, not_not] at h
    exact .inr h

theorem retiredNonMoving_active (t : Target) : t.retiredNonMoving.active = t.active := by
  unfold retiredNonMoving withoutClaim
  split
  · rw [clearFailure_eq]
  · rfl

theorem settles_blueprintDeployStarted {args : BlueprintDeployStartedArgs} :
    Lands repoKey db (.blueprintDeployStarted args) ⟨args.applicationId, args.nodeId⟩ := by
  refine ensures_settling fun app t hid _ happ => ?_
  rw [← hid]
  unfold reviveIfSevered
  by_cases hlive : t.status = .active
  · simp only [hlive, ne_eq, not_true_eq_false, if_false, ensures_bind, ensures_pure,
      ensures_refuseIf]
    intro hfree
    have hsettles := @Settles.blueprintDeployStarted db app _ _ (request_free hfree)
    rw [reopened, if_neg (not_not.mpr hlive), if_neg (not_not.mpr hlive)] at hsettles
    exact ⟨_, hsettles, Owned.self happ⟩
  · simp only [hlive, ne_eq, not_false_eq_true, if_true, ensures_bind, ensures_pure,
      ensures_refuseIf]
    refine (ensures_revived happ).mono fun t' db' h => ?_
    intro hfree
    rw [h.1] at hfree ⊢
    have hactive : t.revived.active = t.active := retiredNonMoving_active _
    have hsettles := @Settles.blueprintDeployStarted db app t args
        (by rw [← hactive]; exact request_free hfree)
    rw [reopened, if_pos hlive, if_pos hlive] at hsettles
    exact ⟨_, hsettles, h.2⟩

theorem settles_blueprintAckRecorded {args : BlueprintAckArgs} :
    Tx.Ensures (blueprintAckRecorded args) db fun _ db' =>
      Settled db db' (.blueprintAckRecorded args) ⟨args.applicationId, args.nodeId⟩ := by
  refine ensures_settling fun app t hid hnode happ => ?_
  rw [ensures_ite, ensures_pure]
  refine ⟨fun hacked => ⟨_, Settles.alreadyAcked hacked, Owned.self happ⟩, fun hnot => ?_⟩
  have hfirst := Bool.eq_false_iff.mpr hnot
  simp only [ensures_bind, ensures_require, ensures_refuseIf]
  intro candidate hmatch hcand
  have hsame : args.rolloutCandidateId = candidate := by simpa using hcand
  subst hsame
  unfold acknowledge
  rw [ensures_ite, ensures_pure]
  refine ⟨fun hintent => ⟨_, Settles.supersededAck hfirst hmatch hintent, Owned.self happ⟩,
    fun hintent => ?_⟩
  rw [← hid]
  simp only [ensures_bind, ensures_pure]
  refine (ensures_onSuccess happ).mono fun t' db' h => ?_
  obtain ⟨now, hnow, hhold⟩ := h.2.owner
  refine (ensures_released hnow).mono fun _ db'' hreleased => ?_
  rw [h.1]
  refine ⟨_, Settles.acknowledged hfirst hmatch (not_not.mp hintent), ?_⟩
  rw [← hhold, ← hnode]
  refine ⟨hreleased.targets.trans h.2.targets, ?_⟩
  obtain ⟨owner, howner, hold⟩ := hreleased.owner
  refine ⟨owner, howner, hold.trans ?_⟩
  unfold Hold.released
  rw [claimsRemain_congr h.2.targets, hnode]

theorem settles_blueprintDeployFailed {failureClass : String} :
    Lands repoKey db (.blueprintDeployFailed id nodeId failureClass envelope) ⟨id, nodeId⟩ := by
  refine ensures_settling fun app t hid _ happ => ?_
  subst hid
  simp only [ensures_bind, ensures_pure]
  refine (ensures_failed happ).mono fun t' db' h => ?_
  rw [h.1]
  exact ⟨_, Settles.blueprintDeployFailed, h.2⟩

theorem settles_blueprintWithdrawStarted {intentRevisionId : String} :
    Lands repoKey db (.blueprintWithdrawStarted id nodeId intentRevisionId envelope)
      ⟨id, nodeId⟩ := by
  refine ensures_settling fun app t _ _ happ => ?_
  simp only [ensures_bind, ensures_refuseIf, ensures_pure]
  intro hlive hfree
  refine ⟨app.hold, Settles.blueprintWithdrawStarted (by simpa using hlive) ?_, Owned.self happ⟩
  simpa [Decidable.or_iff_not_imp_left, Option.ne_none_iff_isSome] using hfree

theorem settles_blueprintWithdrawn {intentRevisionId : String} :
    Lands repoKey db (.blueprintWithdrawn id nodeId intentRevisionId envelope) ⟨id, nodeId⟩ := by
  refine ensures_settling fun app t hid _ happ => ?_
  subst hid
  simp only [ensures_bind, ensures_require, ensures_pure]
  intro candidate hmatch
  exact (ensures_released happ).mono fun _ db' h =>
    ⟨_, Settles.blueprintWithdrawn hmatch, h⟩

theorem settles_blueprintWithdrawFailed {failureClass : String} :
    Lands repoKey db (.blueprintWithdrawFailed id nodeId failureClass envelope) ⟨id, nodeId⟩ := by
  refine ensures_settling fun app t hid _ happ => ?_
  subst hid
  simp only [ensures_bind, ensures_pure]
  refine (ensures_failed happ).mono fun t' db' h => ?_
  rw [h.1]
  exact ⟨_, Settles.blueprintWithdrawFailed, h.2⟩

theorem settles_blueprintObservation {stage : BlueprintObservationStage} :
    Lands repoKey db (.blueprintObservation id nodeId stage envelope) ⟨id, nodeId⟩ := by
  refine ensures_settling fun app t hid _ happ => ?_
  subst hid
  unfold reviveForReview
  simp only [ensures_bind, ensures_ite, ensures_refuseIf, ensures_pure]
  refine ⟨fun hlive => ⟨_, Settles.observed hlive, Owned.self happ⟩, fun hsevered hstage => ?_⟩
  have hreview : stage = .stateReview := by simpa using hstage
  subst hreview
  refine (ensures_revived happ).mono fun t' db' h => ?_
  rw [h.1]
  exact ⟨_, Settles.reviewed hsevered, h.2⟩

theorem ensures_opened {app : Application} (happ : db.getApplication id = some app) :
    Tx.Ensures (openApplicationRecovery id recoveryRef envelope) db fun _ db' =>
      Owned db db' id ⟨⟨some recoveryRef, some .restoring⟩, app.failure⟩ :=
  ensures_hold (f := fun h => ⟨⟨some recoveryRef, some .restoring⟩, h.failure⟩) happ rfl rfl

theorem settles_rollbackInProgress :
    Tx.Ensures (rollbackInProgress id (some nodeId) recoveryRef recoveryGenerationId envelope)
      db fun _ db' => Settled db db'
        (.rollbackInProgress id (some nodeId) recoveryRef recoveryGenerationId envelope)
        ⟨id, nodeId⟩ := by
  refine ensures_settling fun app t hid _ happ => ?_
  subst hid
  simp only [ensures_bind, ensures_refuseIf, ensures_pure]
  intro hlive hidle
  exact (ensures_opened happ).mono fun _ db' h =>
    ⟨_, Settles.rollbackInProgress (by simpa using hlive) hidle, h⟩

theorem settles_recoveryStarted :
    Tx.Ensures (recoveryStarted id nodeId recoveryRef recoveryGenerationId envelope)
      db fun _ db' => Settled db db'
        (.recoveryStarted id nodeId recoveryRef recoveryGenerationId envelope)
        ⟨id, nodeId⟩ := by
  refine ensures_settling fun app t hid _ happ => ?_
  subst hid
  simp only [ensures_bind, ensures_refuseIf, ensures_pure]
  intro hlive hidle
  exact (ensures_opened happ).mono fun _ db' h =>
    ⟨_, Settles.recoveryStarted (by simpa using hlive) hidle, h⟩

theorem settles_recoveryFailed {failureClass : MutationClass} :
    Lands repoKey db (.recoveryFailed id nodeId recoveryRef failureClass envelope)
      ⟨id, nodeId⟩ := by
  refine ensures_settling fun app t hid _ happ => ?_
  subst hid
  simp only [ensures_bind, ensures_pure]
  refine (ensures_hold (f := fun _ => ⟨⟨some recoveryRef, some .failed⟩,
    ⟨some .recovery, some failureClass.recovery.name, some envelope.at_⟩⟩) happ rfl rfl).mono
    fun _ db' h => ?_
  exact ⟨_, Settles.recoveryFailed, h⟩

theorem settles_rollbackCompleted {evidence : RestoreEvidence} :
    Lands repoKey db (.rollbackCompleted id nodeId evidence envelope) ⟨id, nodeId⟩ := by
  refine ensures_settling fun app t hid _ happ => ?_
  subst hid
  simp only [ensures_bind, ensures_require, ensures_get, ensures_refuseIf, ensures_pure]
  intro restored _ _
  exact (ensures_derived happ).mono fun _ db' h => ⟨_, Settles.rollbackCompleted, h⟩

theorem settles_recoverySucceeded {evidence : RestoreEvidence} {proven : Bool}
    {binding : GitOpsBinding} :
    Lands repoKey db (.recoverySucceeded id nodeId evidence recoveryGenerationId proven binding
      envelope) ⟨id, nodeId⟩ := by
  refine ensures_settling fun app t hid _ happ => ?_
  subst hid
  simp only [ensures_bind]
  refine (ensures_derived happ).mono fun _ db' h => ?_
  rw [ensures_get]
  split
  · exact ensures_pure.mpr ⟨_, Settles.recoveryUnproven, h⟩
  · exact ensures_pure.mpr ⟨_, Settles.recoverySucceeded, h⟩

theorem mem_liveWith {r : Target} : r ∈ liveWith db id overrides ↔
      (db.targets.find? r.key = some r ∧ r.applicationId = id ∧ r.status ≠ .tombstoned ∧
        ∀ o ∈ overrides, o.nodeId ≠ r.nodeId) ∨
      (r ∈ overrides ∧ r.status ≠ .tombstoned) := by
  unfold liveWith
  simp [mem_listTargets, and_assoc]

/-- Only the row under the key of an override can differ. -/
theorem mem_liveWith_putTarget {stored row r : Target} (hnode : stored.nodeId = row.nodeId) :
    r ∈ liveWith (db.putTarget stored) id [row] ↔ r ∈ liveWith db id [row] := by
  rw [mem_liveWith, mem_liveWith]
  refine or_congr_left (and_congr_left fun hr => ?_)
  have hne : r.key ≠ stored.key := by
    intro heq
    exact hr.2.2 row (by simp) (hnode.symm.trans (congrArg TargetKey.nodeId heq).symm)
  rw [Db.find?_putTarget_ne hne]

theorem settles_rollbackTargetFailed {failureClass : RollbackFailureClass} :
    Tx.Ensures (rollbackTargetFailed id nodeId recoveryRef failureClass envelope) db
      fun _ db' => Settled db db'
        (.rollbackPartialFailed id (some nodeId) recoveryRef failureClass envelope)
        ⟨id, nodeId⟩ := by
  unfold rollbackTargetFailed
  by_cases hpre : failureClass = .preMutation
  · subst hpre
    simp only [if_true, ensures_bind, ensures_pure]
    refine ensures_settling fun app t hid _ happ => ?_
    subst hid
    simp only [ensures_bind, ensures_pure]
    exact (ensures_derived happ).mono fun _ db' h =>
      ⟨_, Settles.rollbackPartialFailed fun _ => Iff.rfl, h⟩
  · simp only [hpre, if_false, ensures_bind]
    rw [ensures_mutateTarget]
    intro app t happ ht
    rw [ensures_pure]
    intro _
    have hid : app.id = id := Table.key_of_find? happ
    have hkey : t.key = ⟨id, nodeId⟩ := Table.key_of_find? ht
    have hrow := (t.settleRollback_kept recoveryRef failureClass envelope.at_).1.trans hkey
    have hst : (db.putTarget ((t.settleRollback recoveryRef failureClass
        envelope.at_).stamped .rollbackPartialFailed false envelope)).getApplication id =
        some app := happ
    refine Tx.Ensures.mono (ensures_derived hst) fun _ db' h => ?_
    have hstamps : (t.settleRollback recoveryRef failureClass envelope.at_).Stamps
      ((t.settleRollback recoveryRef failureClass envelope.at_).stamped
        .rollbackPartialFailed false envelope) := ⟨_, _, rfl⟩
    refine ⟨app, t, _, _, happ, ht, Settles.rollbackPartialFailed ?_, ⟨_, ?_, hstamps⟩, ?_, h.owner⟩
    · intro r
      rw [hid]
      exact mem_liveWith_putTarget rfl
    · rw [h.targets]
      exact Db.find?_putTarget_self hrow
    · intro key' hne
      rw [h.targets, Db.find?_putTarget_ne]
      intro heq
      exact hne (heq.trans hrow)

/-- An accepted call does to its target, and to no other, what `Settles` says. -/
theorem perform_settles {key : TargetKey} (h : tr.settlesAt = some key) :
    Lands repoKey db tr key := by
  cases tr <;> try cases h
  case deployStarted => exact settles_deployStarted
  case deployBound => exact settles_deployBound
  case deployUnbound => exact settles_deployUnbound
  case deployFailed => exact settles_deployFailed
  case targetTombstoned => exact settles_targetTombstoned
  case blueprintDeployStarted => exact settles_blueprintDeployStarted
  case blueprintAckRecorded => exact ensures_map.mpr settles_blueprintAckRecorded
  case blueprintDeployFailed => exact settles_blueprintDeployFailed
  case blueprintWithdrawStarted => exact settles_blueprintWithdrawStarted
  case blueprintWithdrawn => exact settles_blueprintWithdrawn
  case blueprintWithdrawFailed => exact settles_blueprintWithdrawFailed
  case blueprintObservation => exact settles_blueprintObservation
  case rollbackInProgress id nodeId _ _ _ =>
    cases nodeId with
    | none => cases h
    | some nodeId =>
      cases h
      exact settles_rollbackInProgress
  case rollbackPartialFailed id nodeId _ _ _ =>
    cases nodeId with
    | none => cases h
    | some nodeId =>
      cases h
      exact settles_rollbackTargetFailed
  case rollbackCompleted => exact settles_rollbackCompleted
  case recoveryStarted => exact settles_recoveryStarted
  case recoverySucceeded => exact settles_recoverySucceeded
  case recoveryFailed => exact settles_recoveryFailed

end

end Sencho.GitOps

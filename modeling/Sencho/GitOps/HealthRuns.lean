import Sencho.Verified.Events
import Sencho.GitOps.RolloutCalls
import Sencho.GitOps.RecoveryClaims

/-!
# Health runs

A gated rollout reserves a health run with every deploy and records its verdict
once: the target awaits the run until a verdict consumes it, and nothing awaits
it again.  A verdict for a run the target does not await is evidence only.  The
retry a policy allows is counted on the row, and the count is cleared only when
the target is acknowledged to another rollout generation.
-/

namespace Sencho.GitOps

open Verified List Option Tx Transition Target

variable {repoKey : String → Option String} {db db' : Db} {tr : Transition}
  {app : Application} {t t' : Target}

/-! ## One verdict -/

/-- What a verdict does to the row and hands back. -/
inductive VerdictMove (app : Application) (t : Target) (args : HealthFinalizedArgs) :
    Target → HealthOutcome → Prop where
  | stale (hrollout : args.rollout.isSome = true)
      (hstale : t.pendingHealthRunId ≠ some args.healthRunId) :
      VerdictMove app t args t ⟨none, false⟩
  | released {unattributable} (hrollout : args.rollout.isSome = true)
      (hpend : t.pendingHealthRunId = some args.healthRunId) :
      VerdictMove app t args { t with pendingHealthRunId := none } ⟨none, unattributable⟩
  | observed (hrollout : args.rollout = none) (db : Db) (attributable : Bool) :
      VerdictMove app t args (t.recordVerdict db args attributable) ⟨none, false⟩
  | decided {rollout} (hrollout : args.rollout = some rollout)
      (hpend : t.pendingHealthRunId = some args.healthRunId)
      (hcur : app.rolloutGenerationId = some rollout.rolloutGenerationId)
      (hacked : args.healthStatus = .unknown ∨
        t.rolloutGenerationId = some rollout.rolloutGenerationId) (db : Db) :
      VerdictMove app t args
        ((applyHealthGatedDecision t rollout.healthPolicy args.healthStatus).1.recordVerdict db
          args true)
        ⟨some (applyHealthGatedDecision t rollout.healthPolicy args.healthStatus).2, false⟩

/-- The targets are left as they are by a hold of the rollout. -/
theorem ensures_holdUnackedRollout {args : HealthFinalizedArgs} {decision : HealthPolicyDecision} :
    Tx.Ensures (holdUnackedRollout t app args decision) db fun _ db' =>
      db'.targets = db.targets := by
  unfold holdUnackedRollout
  rw [ensures_ite, ensures_pure]
  refine ⟨fun _ => ensures_attempt ?_ rfl, fun _ => rfl⟩
  unfold pauseApplication
  rw [ensures_mutateApp]
  intro stored _
  rw [ensures_bind, ensures_refuseIf]
  intro _
  exact ensures_pure.mpr rfl

/-- An attributable verdict of the application's rollout is about a target that
acked it, or decides nothing but a hold. -/
theorem acked_of_attributable {args : HealthFinalizedArgs} {rollout : HealthRolloutBinding}
    (hrollout : args.rollout = some rollout) (hattributable : healthAttributable t app args = true)
    (hcur : app.rolloutGenerationId = some rollout.rolloutGenerationId) :
    args.healthStatus = .unknown ∨ t.rolloutGenerationId = some rollout.rolloutGenerationId := by
  unfold healthAttributable at hattributable
  rw [Bool.and_eq_true] at hattributable
  by_cases hunacked : unackedAttempt t app args.rollout = true
  · have hstat := hattributable.2
    rw [if_pos hunacked] at hstat
    exact .inl (of_decide_eq_true hstat)
  · refine .inr ?_
    unfold unackedAttempt at hunacked
    rw [hrollout, any_some, hcur] at hunacked
    simpa using hunacked

theorem ensures_settleVerdict {args : HealthFinalizedArgs}
    (hawaited : args.rollout.isSome = true → t.pendingHealthRunId = some args.healthRunId)
    (hcur : ∀ rollout, args.rollout = some rollout →
      app.rolloutGenerationId = some rollout.rolloutGenerationId) :
    Tx.Ensures (settleVerdict t app args) db fun r db' =>
      VerdictMove app t args r.1 r.2 ∧ db'.targets = db.targets := by
  unfold settleVerdict
  rw [ensures_bind, ensures_get]
  cases hrollout : args.rollout with
  | none =>
    rw [ensures_pure]
    exact ⟨.observed hrollout db _, rfl⟩
  | some rollout =>
    have hpend := hawaited (by rw [hrollout]; rfl)
    rw [ensures_ite]
    refine ⟨fun hattributable => ?_, fun _ => ?_⟩
    · unfold decideGatedVerdict
      rw [ensures_bind]
      refine ensures_holdUnackedRollout.mono fun _ db₁ htargets => ?_
      rw [ensures_bind, ensures_get, ensures_pure]
      exact ⟨.decided hrollout hpend (hcur rollout hrollout)
        (acked_of_attributable hrollout hattributable (hcur rollout hrollout)) db₁,
        htargets⟩
    · rw [if_pos hpend, ensures_pure]
      exact ⟨.released (by rw [hrollout]; rfl) hpend, rfl⟩

/-- A recorded verdict. -/
def Judged (db db' : Db) (args : HealthFinalizedArgs) (outcome : HealthOutcome) : Prop :=
  ∃ app t row, db.getApplication args.applicationId = some app ∧
    db.targets.find? ⟨args.applicationId, args.nodeId⟩ = some t ∧
    VerdictMove app t args row outcome ∧
    (∃ t', db'.targets.find? ⟨args.applicationId, args.nodeId⟩ = some t' ∧ row.Stamps t') ∧
    ∀ key, key ≠ ⟨args.applicationId, args.nodeId⟩ → db'.targets.find? key = db.targets.find? key

theorem VerdictMove.key {args : HealthFinalizedArgs} {row : Target} {outcome : HealthOutcome}
    (h : VerdictMove app t args row outcome) : row.key = t.key := by
  cases h with
  | stale | released => rfl
  | observed _ db attributable => exact (t.recordVerdict_kept db args attributable).1
  | @decided rollout _ _ _ _ db =>
    have hdecided := applyHealthGatedDecision_kept t rollout.healthPolicy args.healthStatus
    have hrecorded := recordVerdict_kept
      (applyHealthGatedDecision t rollout.healthPolicy args.healthStatus).1 db args true
    exact hrecorded.1.trans hdecided.1

theorem ensures_healthFinalized {args : HealthFinalizedArgs} :
    Tx.Ensures (healthFinalized args) db fun outcome db' => Judged db db' args outcome := by
  refine ensures_mutateTarget.mpr fun app t happ ht => ?_
  have hkey : t.key = ⟨args.applicationId, args.nodeId⟩ := Table.key_of_find? ht
  have hdone : ∀ (r : Target × HealthOutcome) (db₁ : Db), VerdictMove app t args r.1 r.2 →
      db₁.targets = db.targets → Judged db (db₁.putTarget
        (r.1.stamped .healthFinalized false args.envelope)) args r.2 := by
    intro r db₁ hmove htargets
    have hrow : (r.1.stamped .healthFinalized false args.envelope).key =
        ⟨args.applicationId, args.nodeId⟩ := hmove.key.trans hkey
    refine ⟨app, t, r.1, happ, ht, hmove, ⟨_, Db.find?_putTarget_self hrow, _, _, rfl⟩, ?_⟩
    intro key hne
    rw [Db.find?_putTarget_ne, htargets]
    rw [hrow]
    exact hne
  rw [ensures_ite]
  refine ⟨fun hstale => ?_, fun hawaited => ?_⟩
  · rw [ensures_pure]
    intro _
    rw [Bool.and_eq_true, decide_eq_true_eq] at hstale
    exact hdone (t, ⟨none, false⟩) db (.stale hstale.1 hstale.2) rfl
  have hpend : args.rollout.isSome = true → t.pendingHealthRunId = some args.healthRunId := by
    intro hrollout
    rw [hrollout, Bool.true_and, decide_eq_true_eq, not_not] at hawaited
    exact hawaited
  have hreleases : ∀ unattributable, args.rollout.isSome = true → Judged db (db.putTarget
      ((t.releaseHealthRun args.healthRunId).stamped .healthFinalized false args.envelope))
      args ⟨none, unattributable⟩ := by
    intro unattributable hrollout
    unfold releaseHealthRun
    rw [if_pos (hpend hrollout)]
    exact hdone (_, ⟨none, unattributable⟩) db (.released hrollout (hpend hrollout)) rfl
  have hbound : ∀ p : HealthRolloutBinding → Bool, args.rollout.any p = true →
      args.rollout.isSome = true := by
    intro p hany
    obtain ⟨rollout, hrollout, -⟩ := (any_eq_true _ _).mp hany
    rw [hrollout]
    rfl
  rw [ensures_ite]
  refine ⟨fun hleft => ?_, fun _ => ?_⟩
  · rw [ensures_pure]
    rw [Bool.and_eq_true] at hleft
    exact fun _ => hreleases true (hbound _ hleft.1)
  rw [ensures_ite]
  refine ⟨fun hmoved => ?_, fun hcur => ?_⟩
  · rw [ensures_pure]
    exact fun _ => hreleases _ (hbound _ hmoved)
  · refine (ensures_settleVerdict hpend fun rollout hrollout => ?_).mono
      fun r db₁ h _ => hdone r db₁ h.1 h.2
    rw [hrollout, any_some, decide_eq_true_eq, not_not] at hcur
    exact hcur

/-- A verdict is recorded or refused. -/
theorem step_healthFinalized {args : HealthFinalizedArgs} :
    (∃ outcome, Judged db (step repoKey db (.healthFinalized args)) args outcome) ∨
      step repoKey db (.healthFinalized args) = db :=
  (step_or (t := .healthFinalized args) (P := fun db' => ∃ outcome, Judged db db' args outcome)
    (ensures_map.mpr (ensures_healthFinalized.mono fun outcome _ h => ⟨outcome, h⟩))).symm

/-! ## Every call -/

/-- The columns the health of a target is told by. -/
def healthColumns : List TargetColumn :=
  [.healthy, .lastHealth, .pending, .attempts, .rolloutGeneration]

/-- A row whose health changed in the listed columns only. -/
def HealthKept (cols : List TargetColumn) (t t' : Target) : Prop :=
  ∀ c ∈ healthColumns, c ∉ cols → c.get t' = c.get t

/-- What a call does to the health of a target. -/
inductive HealthMove (db : Db) (tr : Transition) (key : TargetKey) (t t' : Target) : Prop where
  | kept (h : HealthKept [] t t')
  | judged {args} {app : Application} {outcome row} (htr : tr = .healthFinalized args)
      (hkey : key = ⟨args.applicationId, args.nodeId⟩)
      (happ : db.getApplication key.applicationId = some app)
      (hmove : VerdictMove app t args row outcome) (hstamps : row.Stamps t')
  | forgotten (hpend : t'.pendingHealthRunId = none) (h : HealthKept [.pending] t t')
  | asked {args} (htr : tr = .blueprintDeployStarted args)
      (hkey : key = ⟨args.applicationId, args.nodeId⟩)
      (hpend : t'.pendingHealthRunId = args.pendingHealthRunId.getD t.pendingHealthRunId)
      (h : HealthKept [.pending] t t')
  | acked {app : Application} (happ : db.getApplication key.applicationId = some app)
      (hgeneration : t'.rolloutGenerationId = app.rolloutGenerationId)
      (hattempts : t'.healthAttempts =
        if t.rolloutGenerationId ≠ app.rolloutGenerationId then 0 else t.healthAttempts)
      (h : HealthKept [.rolloutGeneration, .attempts] t t')
  | restored (hhealthy : t'.healthyGenerationId = none) (h : HealthKept [.healthy] t t')

/-- Whether a call may write the health of its target. -/
def Transition.writesHealth : Transition → Bool
  | .healthFinalized _ | .healthRunReleased _ _ _ _ | .blueprintDeployStarted _
  | .blueprintAckRecorded _ | .blueprintDeployFailed _ _ _ _ | .rollbackCompleted _ _ _ _
  | .recoverySucceeded _ _ _ _ _ _ _ => true
  | _ => false

variable {key : TargetKey}

theorem healthKept_of_writes (howned : TargetsOwned db) (ht : db.targets.find? key = some t)
    (ht' : (step repoKey db tr).targets.find? key = some t') {cols : List TargetColumn}
    (hcols : ∀ c ∈ healthColumns, c ∉ cols → ¬ tr.edits key c) : HealthKept cols t t' := by
  obtain ⟨now, hnow, hkept⟩ := @step_target repoKey _ tr howned _ _ ht
  cases some.inj (ht'.symm.trans hnow)
  exact fun c hc hnot => hkept c (hcols c hc hnot)

theorem writesHealth_false (h : tr.writesHealth = false) {c : TargetColumn}
    (hc : c ∈ healthColumns) : ¬ tr.edits key c := by
  rintro ⟨hplaces, hwr⟩
  have hmem := hwr.2
  simp only [healthColumns, mem_cons, not_mem_nil, or_false] at hc
  cases tr <;> simp [writesHealth] at h <;> rcases hc with rfl | rfl | rfl | rfl | rfl <;>
    simp [targetWrites, places] at hmem hplaces

theorem withoutClaim_kept (t : Target) : TargetKept [.recovery] t t.withoutClaim := by
  unfold withoutClaim
  rw [clearFailure_eq]
  exact .of rfl rfl

theorem retiredOnSuccess_kept (t : Target) : TargetKept [.recovery] t t.retiredOnSuccess := by
  unfold retiredOnSuccess
  split
  · exact withoutClaim_kept t
  · exact .refl t

theorem reopened_kept (t : Target) : TargetKept [.status, .recovery] t t.reopened := by
  have hrevived : TargetKept [.status] t { t with status := .active } := by
    exact .of rfl rfl
  unfold reopened revived retiredNonMoving
  split
  · split
    · exact (hrevived.mono (by simp)).trans ((withoutClaim_kept _).mono (by simp))
    · exact hrevived.mono (by simp)
  · exact .refl t

/-- The rollout an acknowledgement binds, and the attempts it leaves. -/
theorem acknowledged_rollout (t : Target) (app : Application) (args : BlueprintAckArgs)
    (candidateId : Option String) (at_ : Int) :
    ((t.acknowledged app args candidateId).retiredOnSuccess.markInFlightRestore
      at_).rolloutGenerationId = app.rolloutGenerationId ∧
    ((t.acknowledged app args candidateId).retiredOnSuccess.markInFlightRestore
      at_).healthAttempts =
        if t.rolloutGenerationId ≠ app.rolloutGenerationId then 0 else t.healthAttempts := by
  have hreleased := t.releaseRequest_kept args
  have hgeneration : (t.releaseRequest args).rolloutGenerationId = t.rolloutGenerationId :=
    hreleased.2 .rolloutGeneration (by simp)
  have hattempts : (t.releaseRequest args).healthAttempts = t.healthAttempts :=
    hreleased.2 .attempts (by simp)
  have hretired := retiredOnSuccess_kept (t.acknowledged app args candidateId)
  rw [markInFlightRestore_eq]
  refine ⟨(hretired.2 .rolloutGeneration (by simp)).trans ?_,
    (hretired.2 .attempts (by simp)).trans ?_⟩
  · unfold acknowledged
    rw [clearInterruption_eq, clearFailure_eq]
    rfl
  · unfold acknowledged
    rw [clearInterruption_eq, clearFailure_eq, ← hgeneration, ← hattempts]
    rfl

/-- The run a deploy request leaves the row waiting for. -/
theorem openBlueprintDeploy_pending (t : Target) (args : BlueprintDeployStartedArgs) :
    (t.reopened.openBlueprintDeploy args).pendingHealthRunId =
      args.pendingHealthRunId.getD t.pendingHealthRunId := by
  have hreopened : t.reopened.pendingHealthRunId = t.pendingHealthRunId :=
    (reopened_kept t).2 .pending (by simp)
  unfold openBlueprintDeploy
  rw [clearInterruption_eq, ← hreopened]

theorem Target.Stamps.get_health {row t : Target} (h : row.Stamps t) {c : TargetColumn}
    (hc : c ∈ healthColumns) : c.get t = c.get row := by
  obtain ⟨_, _, rfl⟩ := h
  simp only [healthColumns, mem_cons, not_mem_nil, or_false] at hc
  rcases hc with rfl | rfl | rfl | rfl | rfl <;> rfl

/-- A restored row is not known to be healthy. -/
theorem bindRestored_healthy (t : Target) (db : Db) (id restored : String)
    (artifactSetId acceptanceRef : Option String) (at_ : Int) :
    (t.bindRestored db id restored artifactSetId acceptanceRef at_).healthyGenerationId =
      none := by
  unfold bindRestored restoreSourceAcceptance
  dsimp only
  rw [restoreLastKnownGood_eq]
  rfl

/-- What a settled call does to the health of its row. -/
theorem Settles.health {row : Target} {hold : Hold}
    (happ : db.getApplication key.applicationId = some app) (hat : tr.settlesAt = some key)
    (h : Settles db app t tr row hold) (hstamps : row.Stamps t')
    (hkept : ∀ cols, (∀ c ∈ healthColumns, c ∉ cols → c ∉ tr.targetWrites) →
      HealthKept cols t t') : HealthMove db tr key t t' := by
  have hnone : (∀ c ∈ healthColumns, c ∉ tr.targetWrites) → HealthMove db tr key t t' :=
    fun hwr => .kept (hkept [] fun c hc _ => hwr c hc)
  cases h with
  | blueprintDeployStarted =>
    refine .asked rfl (some.inj hat).symm ?_ (hkept [.pending] ?_)
    · exact (hstamps.get_health (c := .pending) (by simp [healthColumns])).trans
        (openBlueprintDeploy_pending t _)
    · simp [healthColumns, targetWrites]
  | alreadyAcked =>
    refine .kept fun c hc _ => (hstamps.get_health hc).trans ?_
    refine (t.noteRecoveryPoint_kept _).2 c fun hmem => ?_
    rw [mem_singleton.mp hmem] at hc
    simp [healthColumns] at hc
  | @supersededAck args =>
    refine .kept fun c hc _ => (hstamps.get_health hc).trans ?_
    rw [markInFlightRestore_eq]
    have hreleased := (t.releaseRequest_kept args).2 c fun hmem => ?_
    · rw [← hreleased]
      simp only [healthColumns, mem_cons, not_mem_nil, or_false] at hc
      rcases hc with rfl | rfl | rfl | rfl | rfl <;> rfl
    · simp only [healthColumns, mem_cons, not_mem_nil, or_false] at hc hmem
      rcases hc with rfl | rfl | rfl | rfl | rfl <;> simp at hmem
  | @acknowledged args =>
    obtain ⟨hgeneration, hattempts⟩ := acknowledged_rollout t app args args.rolloutCandidateId
      args.envelope.at_
    refine .acked happ ?_ ?_ (hkept [.rolloutGeneration, .attempts] ?_)
    · exact (hstamps.get_health (c := .rolloutGeneration) (by simp [healthColumns])).trans
        hgeneration
    · exact (hstamps.get_health (c := .attempts) (by simp [healthColumns])).trans hattempts
    · simp [healthColumns, targetWrites]
  | blueprintDeployFailed =>
    refine .forgotten ?_ (hkept [.pending] ?_)
    · exact hstamps.get_health (c := .pending) (by simp [healthColumns])
    · simp [healthColumns, targetWrites]
  | @rollbackCompleted id _ evidence envelope restored =>
    refine .restored ?_ (hkept [.healthy] ?_)
    · refine (hstamps.get_health (c := .healthy) (by simp [healthColumns])).trans ?_
      exact bindRestored_healthy (t.completeRollback evidence) db id restored
        evidence.capturedArtifactSetId evidence.capturedSourceAcceptanceRef envelope.at_
    · simp [healthColumns, targetWrites]
  | recoveryUnproven =>
    refine .kept fun c hc _ => (hstamps.get_health hc).trans ?_
    have hcompleted := t.completeRecovery_kept.2 c fun hmem => ?_
    · rw [← hcompleted]
      simp only [healthColumns, mem_cons, not_mem_nil, or_false] at hc
      rcases hc with rfl | rfl | rfl | rfl | rfl <;> rfl
    · simp only [healthColumns, mem_cons, not_mem_nil, or_false] at hc hmem
      rcases hc with rfl | rfl | rfl | rfl | rfl <;> simp at hmem
  | @recoverySucceeded id _ evidence _ _ _ envelope restored db' =>
    refine .restored ?_ (hkept [.healthy] ?_)
    · refine (hstamps.get_health (c := .healthy) (by simp [healthColumns])).trans ?_
      exact bindRestored_healthy _ db' id restored evidence.capturedArtifactSetId
        evidence.capturedSourceAcceptanceRef envelope.at_
    · simp [healthColumns, targetWrites]
  | _ => exact hnone (by simp [healthColumns, targetWrites])

/-- One target awaits no run. -/
def HealthRunDropped (db db' : Db) (key₀ : TargetKey) : Prop :=
  (∃ t', db'.targets.find? key₀ = some t' ∧ t'.pendingHealthRunId = none) ∧
    ∀ key, key ≠ key₀ → db'.targets.find? key = db.targets.find? key

theorem ensures_healthRunReleased {id : String} {nodeId : Int} {healthRunId : String}
    {envelope : EventEnvelope} :
    Tx.Ensures (healthRunReleased id nodeId healthRunId envelope) db fun _ db' =>
      HealthRunDropped db db' ⟨id, nodeId⟩ := by
  refine ensures_mutateTarget.mpr fun app t _ ht => ?_
  have hkey : t.key = ⟨id, nodeId⟩ := Table.key_of_find? ht
  rw [ensures_bind, ensures_refuseIf]
  intro _
  rw [ensures_pure]
  intro _
  have hrow : ({ t with pendingHealthRunId := none }.stamped .healthRunReleased false
      envelope).key = ⟨id, nodeId⟩ := hkey
  refine ⟨⟨_, Db.find?_putTarget_self hrow, rfl⟩, fun key hne => ?_⟩
  rw [Db.find?_putTarget_ne]
  rw [hrow]
  exact hne

/-- A call that is not about the target leaves its health alone. -/
theorem HealthMove.of_same (ht : db.targets.find? key = some t)
    (hsame : (step repoKey db tr).targets.find? key = db.targets.find? key)
    (ht' : (step repoKey db tr).targets.find? key = some t') : HealthMove db tr key t t' := by
  cases some.inj (ht'.symm.trans (hsame.trans ht))
  exact .kept fun _ _ _ => rfl

theorem step_settles_health (howned : TargetsOwned db) {key key₀ : TargetKey}
    (hat : tr.settlesAt = some key₀) (ht : db.targets.find? key = some t)
    (ht' : (step repoKey db tr).targets.find? key = some t') : HealthMove db tr key t t' := by
  rcases (step_or (perform_settles hat)).symm with
    ⟨app, told, row, hold, happ, htold, hsettles, hlanded⟩ | hrf
  · by_cases hkey : key = key₀
    · subst hkey
      obtain ⟨now, hnow, hstamps⟩ := hlanded.target
      cases some.inj (htold.symm.trans ht)
      cases some.inj (hnow.symm.trans ht')
      refine hsettles.health happ hat hstamps fun cols hcols => ?_
      refine healthKept_of_writes howned ht ht' fun c hc hnot hedits => ?_
      exact hcols c hc hnot hedits.2.2
    · exact .of_same ht (hlanded.others key hkey) ht'
  · exact .of_same ht (congrArg (fun d => d.targets.find? key) hrf) ht'

/-- Every call, as far as the health of a target goes. -/
theorem step_health (howned : TargetsOwned db) (ht : db.targets.find? key = some t)
    (ht' : (step repoKey db tr).targets.find? key = some t') : HealthMove db tr key t t' := by
  have hquiet : tr.writesHealth = false → HealthMove db tr key t t' := fun h =>
    .kept (healthKept_of_writes howned ht ht' fun c hc _ => writesHealth_false h hc)
  cases tr <;> try exact hquiet rfl
  case healthFinalized args =>
    rcases @step_healthFinalized repoKey db args with ⟨outcome, hjudged⟩ | hrf
    · obtain ⟨app, told, row, happ, htold, hmove, htarget, hothers⟩ := hjudged
      by_cases hkey : key = ⟨args.applicationId, args.nodeId⟩
      · obtain ⟨now, hnow, hstamps⟩ := htarget
        subst hkey
        cases some.inj (htold.symm.trans ht)
        cases some.inj (hnow.symm.trans ht')
        exact .judged rfl rfl happ hmove hstamps
      · exact .of_same ht (hothers key hkey) ht'
    · exact .of_same ht (congrArg (fun d => d.targets.find? key) hrf) ht'
  case healthRunReleased id nodeId healthRunId envelope =>
    have hcases : HealthRunDropped db
        (step repoKey db (.healthRunReleased id nodeId healthRunId envelope)) ⟨id, nodeId⟩ ∨ _ :=
      (commit_or ensures_healthRunReleased).symm
    rcases hcases with ⟨⟨now, hnow, hpend⟩, hothers⟩ | hrf
    · by_cases hkey : key = ⟨id, nodeId⟩
      · subst hkey
        cases some.inj (hnow.symm.trans ht')
        refine .forgotten hpend (healthKept_of_writes howned ht ht' fun c hc hnot hedits => ?_)
        have hwr := hedits.2.2
        simp only [targetWrites, mem_singleton] at hwr hnot
        exact hnot hwr
      · exact .of_same ht (hothers key hkey) ht'
    · exact .of_same ht (congrArg (fun d => d.targets.find? key) hrf) ht'
  all_goals exact step_settles_health howned rfl ht ht'

end Sencho.GitOps

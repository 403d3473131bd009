import Sencho.GitOps.CandidateBinding
import Sencho.GitOps.HealthRuns
import Sencho.GitOps.Terminals

/-!
# What health runs decide

The decisions a run of calls hands back.  A verdict of a rollout decides only
while the target awaits its run, and the decision is what it stops waiting for;
run ids are fresh, so nothing awaits the run again.  A retry leaves an attempt
on the row that only an acknowledgement to another rollout generation clears,
and an application never returns to a generation it left.
-/

namespace Sencho.GitOps

open Verified Option Transition Db Runs

variable {repoKey : String → Option String} {db db' : Db} {tr : Transition}
  {app : Application} {t t' : Target}
variable {past : List Transition} (policy : HealthRolloutPolicy) (verdict : HealthVerdict)

/-- A decision, with the verdict it was taken on. -/
structure HealthDecision where
  args : HealthFinalizedArgs
  decision : HealthPolicyDecision

def HealthDecision.key (d : HealthDecision) : TargetKey :=
  ⟨d.args.applicationId, d.args.nodeId⟩

/-- The decision a call hands back. -/
def Transition.decision (db : Db) : Transition → Option HealthDecision
  | .healthFinalized args =>
    match GitOps.healthFinalized args db with
    | .ok (outcome, _) => outcome.decision.map (⟨args, ·⟩)
    | .error _ => none
  | _ => none

/-- What a run of calls decides, in order. -/
def decisions (repoKey : String → Option String) (db : Db) (calls : List Transition) :
    List HealthDecision :=
  emitted (step repoKey) (fun db tr => tr.decision db) db calls

/-- The health run a call makes a target wait for. -/
def Transition.startsRun : Transition → Option String
  | .blueprintDeployStarted args => args.pendingHealthRunId.join
  | _ => none

/-- The rollout generation a call points an application at. -/
def Transition.namesRollout (tr : Transition) : Option String :=
  tr.opensGeneration.or (tr.inserts.bind Application.rolloutGenerationId)

/-- What a decision was taken on, and the row it leaves. -/
structure Decided (db db' : Db) (d : HealthDecision) (app : Application) (t : Target)
    (rollout : HealthRolloutBinding) : Prop where
  bound : d.args.rollout = some rollout
  owner : db.getApplication d.key.applicationId = some app
  before : db.targets.find? d.key = some t
  awaited : t.pendingHealthRunId = some d.args.healthRunId
  current : app.rolloutGenerationId = some rollout.rolloutGenerationId
  acked : d.args.healthStatus = .unknown ∨ t.rolloutGenerationId = some rollout.rolloutGenerationId
  decision : d.decision = (applyHealthGatedDecision t rollout.healthPolicy d.args.healthStatus).2
  after : ∃ b t', db'.targets.find? d.key = some t' ∧
    ((applyHealthGatedDecision t rollout.healthPolicy d.args.healthStatus).1.recordVerdict
      b d.args true).Stamps t'

/-- A decision is a verdict's, about a run of the application's rollout. -/
theorem decision_judged (repoKey : String → Option String) {d : HealthDecision}
    (h : tr.decision db = some d) :
    tr = .healthFinalized d.args ∧
      ∃ app t rollout, Decided db (step repoKey db tr) d app t rollout := by
  cases tr <;> try cases h
  case healthFinalized args =>
    cases hperform : healthFinalized args db with
    | error e =>
      simp [decision, hperform] at h
    | ok r =>
      obtain ⟨outcome, db'⟩ := r
      simp only [decision, hperform] at h
      obtain ⟨decision, hdecision, rfl⟩ := map_eq_some_iff.mp h
      have hstep : step repoKey db (.healthFinalized args) = db' := by
        show Tx.commit ((fun _ => ()) <$> healthFinalized args) db = db'
        unfold Tx.commit
        rw [show ((fun _ => ()) <$> healthFinalized args) db = .ok ((), db') by
          simp [StateT.map, Functor.map, hperform, bind, Except.bind, pure, Except.pure]]
      rw [hstep]
      obtain ⟨app, t, row, happ, ht, hmove, htarget, -⟩ :=
        ensures_healthFinalized outcome db' hperform
      cases hmove with
      | stale => cases hdecision
      | released => cases hdecision
      | observed => cases hdecision
      | @decided rollout hrollout hpend hcur hacked b =>
        cases hdecision
        obtain ⟨t', ht', hstamps⟩ := htarget
        exact ⟨rfl, app, t, rollout, hrollout, happ, ht, hpend, hcur, hacked, rfl,
          b, t', ht', hstamps⟩

/-- What the policy answers to an unknown verdict. -/
theorem decide_unknown (attempts : Nat) (recovery : Bool) :
    (decideHealthRolloutAction policy .unknown attempts recovery).action = .none ∨
      (decideHealthRolloutAction policy .unknown attempts recovery).action = .pause := by
  cases policy <;> simp [decideHealthRolloutAction]

/-- A retry is the answer to a failure nothing was retried for. -/
theorem decide_retry {policy : HealthRolloutPolicy} {verdict : HealthVerdict} {attempts : Nat}
    {recovery : Bool}
    (h : (decideHealthRolloutAction policy verdict attempts recovery).action = .retry) :
    verdict = .failed ∧ attempts < 1 := by
  cases policy <;> cases verdict <;> simp [decideHealthRolloutAction] at h ⊢
  case retryOnce.failed =>
    by_cases hattempts : attempts = 0
    · exact hattempts
    · rw [if_neg hattempts] at h
      cases h
  case rollback.failed => split at h <;> cases h

theorem applyHealthGatedDecision_decision : (applyHealthGatedDecision t policy verdict).2 =
      decideHealthRolloutAction policy verdict t.healthAttempts
        t.recovery.generationId.isSome := by
  unfold applyHealthGatedDecision
  dsimp only
  split <;> rfl

theorem applyHealthGatedDecision_pending :
    (applyHealthGatedDecision t policy verdict).1.pendingHealthRunId = none := by
  unfold applyHealthGatedDecision
  dsimp only
  split <;> rfl

theorem applyHealthGatedDecision_attempts :
    t.healthAttempts ≤ (applyHealthGatedDecision t policy verdict).1.healthAttempts ∧
      ((applyHealthGatedDecision t policy verdict).2.action = .retry →
        1 ≤ (applyHealthGatedDecision t policy verdict).1.healthAttempts) := by
  unfold applyHealthGatedDecision
  dsimp only
  split <;> rename_i haction <;> simp [haction]

variable {args : HealthFinalizedArgs}

theorem recordVerdict_keeps {attributable : Bool} :
    (t.recordVerdict db args attributable).pendingHealthRunId = t.pendingHealthRunId ∧
    (t.recordVerdict db args attributable).healthAttempts = t.healthAttempts ∧
    (t.recordVerdict db args attributable).rolloutGenerationId = t.rolloutGenerationId := by
  have hkept := (t.recordVerdict_kept db args attributable).2
  exact ⟨hkept .pending (by simp), hkept .attempts (by simp), hkept .rolloutGeneration (by simp)⟩

/-- Every awaited run was started by an earlier call, for one target. -/
structure AwaitsPast (db : Db) (past : List Transition) : Prop where
  owned : TargetsOwned db
  started : ∀ key t run, db.targets.find? key = some t → t.pendingHealthRunId = some run →
    ∃ old ∈ past, old.startsRun = some run
  unique : ∀ key key' t t' run, db.targets.find? key = some t →
    db.targets.find? key' = some t' → t.pendingHealthRunId = some run →
    t'.pendingHealthRunId = some run → key = key'

variable {key : TargetKey} (calls : List Transition)

/-- The run a row awaits after a call. -/
theorem HealthMove.pending (h : HealthMove db tr key t t') {run : String}
    (hpend : t'.pendingHealthRunId = some run) : t.pendingHealthRunId = some run ∨
      tr.startsRun = some run ∧
        ∃ args, tr = .blueprintDeployStarted args ∧ key = ⟨args.applicationId, args.nodeId⟩ := by
  have hsame : ∀ cols, .pending ∉ cols → HealthKept cols t t' →
      t.pendingHealthRunId = some run := by
    intro cols hcols hkept
    have hget : t'.pendingHealthRunId = t.pendingHealthRunId :=
      hkept .pending (by simp [healthColumns]) hcols
    exact hget.symm.trans hpend
  cases h with
  | kept h => exact .inl (hsame [] (by simp) h)
  | judged _ _ _ hmove hstamps =>
    have hrow := hstamps.get_health (c := .pending) (by simp [healthColumns])
    refine .inl ?_
    cases hmove with
    | stale => exact hrow.symm.trans hpend
    | released => exact absurd (hrow.symm.trans hpend) (by simp [TargetColumn.get])
    | observed => exact recordVerdict_keeps.1.symm.trans (hrow.symm.trans hpend)
    | decided =>
      have hnone := recordVerdict_keeps.1.symm.trans (hrow.symm.trans hpend)
      rw [applyHealthGatedDecision_pending] at hnone
      cases hnone
  | forgotten hnone => exact absurd (hnone.symm.trans hpend) (by simp)
  | @asked args htr hkey hasked =>
    rw [hpend] at hasked
    cases hargs : args.pendingHealthRunId with
    | none =>
      rw [hargs] at hasked
      exact .inl hasked.symm
    | some started =>
      rw [hargs] at hasked
      refine .inr ⟨?_, args, htr, hkey⟩
      rw [htr]
      show args.pendingHealthRunId.join = some run
      rw [hargs]
      exact hasked.symm
  | acked _ _ _ hkept => exact .inl (hsame _ (by simp) hkept)
  | restored _ hkept => exact .inl (hsame _ (by simp) hkept)

theorem Target.IsNew.health (h : t.IsNew) :
    t.pendingHealthRunId = none ∧ t.lastHealth.status = none := by
  obtain ⟨_, _, _, _, rfl⟩ := h
  exact ⟨rfl, rfl⟩

/-- The run a row awaits after a call, wherever the row comes from. -/
theorem pending_step (howned : TargetsOwned db)
    (ht' : (step repoKey db tr).targets.find? key = some t') {run : String}
    (hpend : t'.pendingHealthRunId = some run) :
    (∃ t, db.targets.find? key = some t ∧ t.pendingHealthRunId = some run) ∨
      tr.startsRun = some run ∧
        ∃ args, tr = .blueprintDeployStarted args ∧ key = ⟨args.applicationId, args.nodeId⟩ := by
  rcases step_target_cases howned ht' with ⟨t, ht, -⟩ | ⟨-, hnew, -⟩
  · exact ((step_health howned ht ht').pending hpend).imp_left fun h => ⟨t, ht, h⟩
  · exact absurd (hnew.health.1.symm.trans hpend) (by simp)

theorem awaitsPast_step (h : AwaitsPast db past) (hfr : Runs.FreshMark startsRun past tr) :
    AwaitsPast (step repoKey db tr) (tr :: past) where
  owned := targetsOwned_step h.owned
  started := by
    intro key t run ht hpend
    rcases pending_step h.owned ht hpend with ⟨old, hold, hawaits⟩ | ⟨hstarts, -⟩
    · obtain ⟨call, hcall, hstarted⟩ := h.started key old run hold hawaits
      exact ⟨call, List.mem_cons_of_mem _ hcall, hstarted⟩
    · exact ⟨tr, List.mem_cons_self .., hstarts⟩
  unique := by
    intro key key' t t' run ht ht' hpend hpend'
    have hnotold : ∀ key₀ t₀, db.targets.find? key₀ = some t₀ →
        t₀.pendingHealthRunId = some run → tr.startsRun ≠ some run := by
      intro key₀ t₀ ht₀ hawaits hstarts
      obtain ⟨call, hcall, hstarted⟩ := h.started key₀ t₀ run ht₀ hawaits
      exact hfr run hstarts call hcall hstarted
    rcases pending_step h.owned ht hpend with ⟨old, hold, hawaits⟩ | ⟨hstarts, args, htr, hkey⟩
    · rcases pending_step h.owned ht' hpend' with ⟨old', hold', hawaits'⟩ | ⟨hstarts, -⟩
      · exact h.unique key key' old old' run hold hold' hawaits hawaits'
      · exact absurd hstarts (hnotold key old hold hawaits)
    · rcases pending_step h.owned ht' hpend' with ⟨old', hold', hawaits'⟩ | ⟨-, args', htr', hkey'⟩
      · exact absurd hstarts (hnotold key' old' hold' hawaits')
      · cases htr.symm.trans htr'
        exact hkey.trans hkey'.symm

theorem awaitsPast_empty : AwaitsPast empty [] where
  owned := targetsOwned_empty
  started _ _ _ ht := nomatch ht
  unique _ _ _ _ _ ht := nomatch ht

/-- A started run nothing awaits. -/
structure RunSpent (run : String) (db : Db) (past : List Transition) : Prop where
  started : ∃ old ∈ past, old.startsRun = some run
  unawaited : ∀ key t, db.targets.find? key = some t → t.pendingHealthRunId ≠ some run

theorem runSpent_step {run : String} (howned : TargetsOwned db) (h : RunSpent run db past)
    (hfr : Runs.FreshMark startsRun past tr) :
    RunSpent run (step repoKey db tr) (tr :: past) where
  started := by
    obtain ⟨old, hold, hstarts⟩ := h.started
    exact ⟨old, List.mem_cons_of_mem _ hold, hstarts⟩
  unawaited := by
    intro key t ht hpend
    rcases pending_step howned ht hpend with ⟨old, hold, hawaits⟩ | ⟨hstarts, -⟩
    · exact h.unawaited key old hold hawaits
    · obtain ⟨call, hcall, hstarted⟩ := h.started
      exact hfr run hstarts call hcall hstarted

/-- A decided run is spent. -/
theorem runSpent_decided (repoKey : String → Option String) {past : List Transition}
    (h : AwaitsPast db past) {d : HealthDecision} (hd : tr.decision db = some d) :
    RunSpent d.args.healthRunId (step repoKey db tr) (tr :: past) := by
  obtain ⟨htr, app, t, rollout, hdecided⟩ := decision_judged repoKey hd
  obtain ⟨call, hcall, hstarted⟩ := h.started _ t _ hdecided.before hdecided.awaited
  refine ⟨⟨call, List.mem_cons_of_mem _ hcall, hstarted⟩, fun key t' ht' hpend => ?_⟩
  rcases pending_step h.owned ht' hpend with ⟨old, hold, hawaits⟩ | ⟨hstarts, -⟩
  · have hkey := h.unique key d.key old t _ hold hdecided.before hawaits hdecided.awaited
    subst hkey
    obtain ⟨b, now, hnow, hstamps⟩ := hdecided.after
    cases some.inj (hnow.symm.trans ht')
    have hrow := hstamps.get_health (c := .pending) (by simp [healthColumns])
    have hnone := recordVerdict_keeps.1.symm.trans (hrow.symm.trans hpend)
    rw [applyHealthGatedDecision_pending] at hnone
    cases hnone
  · rw [htr] at hstarts
    cases hstarts

/-- At most one decision for each health run. -/
theorem decided_once (hruns : (calls.filterMap startsRun).Nodup) (run : String) :
    ((decisions repoKey empty calls).filter fun d => d.args.healthRunId = run).length ≤ 1 := by
  have hfr : Runs.Along (withPast (step repoKey))
      (fun s a => Runs.FreshMark startsRun s.2 a) (empty, []) calls :=
    along_fresh hruns (by simp)
  unfold decisions
  rw [← emitted_withPast empty [] calls]
  refine emitted_le_one (P := fun s => AwaitsPast s.1 s.2)
    (Q := fun s => RunSpent run s.1 s.2) (fun s a hP hC => awaitsPast_step hP hC)
    (fun s a hP hQ hC => runSpent_step hP.owned hQ hC) ?_ ?_ awaitsPast_empty hfr
  · intro s a d hP hQ _ hd
    obtain ⟨-, app, t, rollout, hdecided⟩ := decision_judged repoKey hd
    refine decide_eq_false fun hrun => ?_
    exact hQ.unawaited d.key t hdecided.before (hrun ▸ hdecided.awaited)
  · intro s a d hP _ hd hrun
    have hspent := runSpent_decided repoKey hP hd
    rw [of_decide_eq_true hrun] at hspent
    exact hspent

/-- Every pointer was set by an earlier call. -/
structure NamesPast (db : Db) (past : List Transition) : Prop where
  owned : TargetsOwned db
  named : ∀ id app gid, db.getApplication id = some app → app.rolloutGenerationId = some gid →
    ∃ old ∈ past, old.namesRollout = some gid

/-- The pointer a move leaves. -/
theorem RolloutMove.pointer {pointer : Option String} (h : RolloutMove db db' tr app pointer)
    {gid : String} (hptr : pointer = some gid) :
    app.rolloutGenerationId = some gid ∨ tr.namesRollout = some gid := by
  have hdropped : dropPointer app.rolloutGenerationId = some gid →
      app.rolloutGenerationId = some gid := by
    unfold dropPointer
    intro hsome
    split at hsome
    · cases hsome
    · exact hsome
  cases h with
  | kept _ _ hkept | marked _ _ _ _ _ _ _ hkept => exact .inl (hkept.symm.trans hptr)
  | dropped _ _ _ hkept | drifted _ _ _ _ _ hkept =>
    exact .inl (hdropped (hkept.symm.trans hptr))
  | withdrawn _ _ _ hkept =>
    rw [hptr] at hkept
    split at hkept
    · cases hkept
    · exact .inl hkept.symm
  | opened _ g _ _ hopened hopens =>
    refine .inr ?_
    unfold namesRollout
    rw [hopens, some_or, ← hopened, hptr]

/-- The pointer of an application after a call. -/
theorem pointer_step {id : String} {app' : Application}
    (happ' : (step repoKey db tr).getApplication id = some app') {gid : String}
    (hptr : app'.rolloutGenerationId = some gid) :
    (∃ app, db.getApplication id = some app ∧ app.rolloutGenerationId = some gid) ∨
      tr.namesRollout = some gid := by
  cases happ : db.getApplication id with
  | none =>
    obtain ⟨application, hinserts, hcolumns⟩ := step_inserted happ happ'
    refine .inr ?_
    have hnamed : application.rolloutGenerationId = some gid :=
      (hcolumns .rolloutGeneration (by decide)).symm.trans hptr
    have hopens : tr.opensGeneration = none := by
      cases tr <;> first | rfl | cases hinserts
    unfold namesRollout
    rw [hopens, none_or, hinserts, bind_some, hnamed]
  | some app =>
    have hstays : ∀ now, (step repoKey db tr).getApplication id = some now →
        now.rolloutGenerationId = app.rolloutGenerationId →
        app.rolloutGenerationId = some gid := by
      intro now hnow hkept
      cases some.inj (hnow.symm.trans happ')
      exact hkept.symm.trans hptr
    cases hat : tr.rollsAt with
    | none =>
      obtain ⟨now, hnow, hkept⟩ := (@rolloutsKept_step repoKey db _ hat).pointers id app happ
      exact .inl ⟨app, rfl, hstays now hnow hkept⟩
    | some id₀ =>
      obtain ⟨hmoved, hothers⟩ := @step_rollouts repoKey db _ _ hat
      by_cases hid : id = id₀
      · subst hid
        rcases hmoved with hrf | ⟨app₀, now, happ₀, hnow, hmove⟩
        · exact .inl ⟨app, rfl, hstays app (by rw [hrf]; exact happ) rfl⟩
        · cases some.inj (happ₀.symm.trans happ)
          cases some.inj (hnow.symm.trans happ')
          exact (hmove.pointer hptr).imp_left fun h => ⟨app, rfl, h⟩
      · obtain ⟨now, hnow, hkept⟩ := hothers id app hid happ
        exact .inl ⟨app, rfl, hstays now hnow hkept⟩

theorem namesPast_step (h : NamesPast db past) : NamesPast (step repoKey db tr) (tr :: past) where
  owned := targetsOwned_step h.owned
  named := by
    intro id app gid happ hptr
    rcases pointer_step happ hptr with ⟨old, hold, hnamed⟩ | hnames
    · obtain ⟨call, hcall, hcalled⟩ := h.named id old gid hold hnamed
      exact ⟨call, List.mem_cons_of_mem _ hcall, hcalled⟩
    · exact ⟨tr, List.mem_cons_self .., hnames⟩

theorem namesPast_empty : NamesPast empty [] where
  owned := targetsOwned_empty
  named _ _ _ happ := nomatch happ

/-- A target that has used its retry for a rollout generation, or has left it for
good. -/
structure RetrySpent (key : TargetKey) (gid : String) (db : Db) (past : List Transition) :
    Prop where
  named : ∃ old ∈ past, old.namesRollout = some gid
  spent : ∃ app t, db.getApplication key.applicationId = some app ∧ db.targets.find? key = some t ∧
    (t.rolloutGenerationId = some gid → 1 ≤ t.healthAttempts) ∧
    (t.rolloutGenerationId ≠ some gid → app.rolloutGenerationId ≠ some gid)

/-- What a call may do to the attempts of a row. -/
theorem HealthMove.attempts (h : HealthMove db tr key t t') :
    t'.rolloutGenerationId = t.rolloutGenerationId ∧ t.healthAttempts ≤ t'.healthAttempts ∨
    ∃ app, db.getApplication key.applicationId = some app ∧
      t'.rolloutGenerationId = app.rolloutGenerationId ∧
      t.rolloutGenerationId ≠ app.rolloutGenerationId := by
  have hsame : ∀ cols, .rolloutGeneration ∉ cols → .attempts ∉ cols → HealthKept cols t t' →
      t'.rolloutGenerationId = t.rolloutGenerationId ∧ t.healthAttempts ≤ t'.healthAttempts := by
    intro cols hgeneration hattempts hkept
    have hkeptGeneration : t'.rolloutGenerationId = t.rolloutGenerationId :=
      hkept .rolloutGeneration (by simp [healthColumns]) hgeneration
    have hkeptAttempts : t'.healthAttempts = t.healthAttempts :=
      hkept .attempts (by simp [healthColumns]) hattempts
    exact ⟨hkeptGeneration, le_of_eq hkeptAttempts.symm⟩
  cases h with
  | kept h => exact .inl (hsame [] (by simp) (by simp) h)
  | @judged args _ _ row _ _ _ hmove hstamps =>
    have hgeneration : t'.rolloutGenerationId = row.rolloutGenerationId :=
      hstamps.get_health (c := .rolloutGeneration) (by simp [healthColumns])
    have hattempts : t'.healthAttempts = row.healthAttempts :=
      hstamps.get_health (c := .attempts) (by simp [healthColumns])
    refine .inl ?_
    rw [hgeneration, hattempts]
    cases hmove with
    | stale | released => exact ⟨rfl, le_refl _⟩
    | observed => exact ⟨recordVerdict_keeps.2.2, le_of_eq recordVerdict_keeps.2.1.symm⟩
    | @decided rollout =>
      have hdecided := applyHealthGatedDecision_kept t rollout.healthPolicy args.healthStatus
      refine ⟨recordVerdict_keeps.2.2.trans (hdecided.2 .rolloutGeneration (by simp)), ?_⟩
      rw [recordVerdict_keeps.2.1]
      exact (applyHealthGatedDecision_attempts rollout.healthPolicy args.healthStatus).1
  | forgotten _ hkept => exact .inl (hsame _ (by simp) (by simp) hkept)
  | asked _ _ _ hkept => exact .inl (hsame _ (by simp) (by simp) hkept)
  | @acked app happ hgeneration hattempts =>
    by_cases hleft : t.rolloutGenerationId ≠ app.rolloutGenerationId
    · exact .inr ⟨app, happ, hgeneration, hleft⟩
    · rw [if_neg hleft] at hattempts
      exact .inl ⟨hgeneration.trans (not_not.mp hleft).symm, le_of_eq hattempts.symm⟩
  | restored _ hkept => exact .inl (hsame _ (by simp) (by simp) hkept)

theorem retrySpent_step {gid : String} (howned : TargetsOwned db)
    (h : RetrySpent key gid db past) (hfr : Runs.FreshMark namesRollout past tr) :
    RetrySpent key gid (step repoKey db tr) (tr :: past) := by
  obtain ⟨old, hold, hnamed⟩ := h.named
  obtain ⟨app, t, happ, ht, hattempts, hleft⟩ := h.spent
  obtain ⟨app', happ', -⟩ := @step_app repoKey _ tr _ _ happ
  obtain ⟨t', ht', -⟩ := @step_target repoKey _ tr howned _ _ ht
  have hptr : app'.rolloutGenerationId = some gid → app.rolloutGenerationId = some gid := by
    intro hsome
    rcases pointer_step happ' hsome with ⟨before, hbefore, hpointed⟩ | hnames
    · cases some.inj (hbefore.symm.trans happ)
      exact hpointed
    · exact absurd hnamed (hfr gid hnames old hold)
  refine ⟨⟨old, List.mem_cons_of_mem _ hold, hnamed⟩, app', t', happ', ht', ?_⟩
  rcases (step_health howned ht ht').attempts with ⟨hsame, hle⟩ | ⟨app₀, happ₀, hbound, hmoved⟩
  · rw [hsame]
    exact ⟨fun hgid => (hattempts hgid).trans hle, fun hgid hsome => hleft hgid (hptr hsome)⟩
  · cases some.inj (happ₀.symm.trans happ)
    have hgone : app.rolloutGenerationId ≠ some gid := by
      by_cases hgid : t.rolloutGenerationId = some gid
      · exact fun hsome => hmoved (hgid.trans hsome.symm)
      · exact hleft hgid
    rw [hbound]
    exact ⟨fun hgid => absurd hgid hgone, fun _ hsome => hgone (hptr hsome)⟩

/-- Whether a decision retries a target for a rollout generation. -/
def HealthDecision.retries (key : TargetKey) (gid : String) (d : HealthDecision) : Bool :=
  d.key = key && d.args.rollout.any (fun r => r.rolloutGenerationId = gid) &&
    d.decision.action = .retry

/-- What a retry was decided on. -/
theorem Decided.retry {d : HealthDecision} {rollout : HealthRolloutBinding}
    {gid : String} (h : Decided db db' d app t rollout) (hretries : d.retries key gid = true) :
    d.key = key ∧ app.rolloutGenerationId = some gid ∧ t.rolloutGenerationId = some gid ∧
      t.healthAttempts < 1 ∧
      1 ≤ (applyHealthGatedDecision t rollout.healthPolicy
        d.args.healthStatus).1.healthAttempts := by
  unfold HealthDecision.retries at hretries
  rw [Bool.and_eq_true, Bool.and_eq_true, h.bound, any_some] at hretries
  obtain ⟨⟨hkey, hgid⟩, hretry⟩ := hretries
  have haction := of_decide_eq_true hretry
  rw [h.decision] at haction
  have hattempts := (applyHealthGatedDecision_attempts rollout.healthPolicy
    d.args.healthStatus).2 haction
  rw [applyHealthGatedDecision_decision] at haction
  obtain ⟨hfailed, hfirst⟩ := decide_retry haction
  have hgen : rollout.rolloutGenerationId = gid := of_decide_eq_true hgid
  rw [← hgen]
  refine ⟨of_decide_eq_true hkey, h.current, ?_, hfirst, hattempts⟩
  rcases h.acked with hunknown | hacked
  · rw [hfailed] at hunknown
    cases hunknown
  · exact hacked

/-- At most one retry for each target and rollout generation. -/
theorem retried_once (hrollouts : (calls.filterMap namesRollout).Nodup) (key : TargetKey)
    (gid : String) :
    ((decisions repoKey empty calls).filter fun d => d.retries key gid).length ≤ 1 := by
  have hfr : Runs.Along (withPast (step repoKey))
      (fun s a => Runs.FreshMark namesRollout s.2 a) (empty, []) calls :=
    along_fresh hrollouts (by simp)
  unfold decisions
  rw [← emitted_withPast empty [] calls]
  refine emitted_le_one (P := fun s => NamesPast s.1 s.2)
    (Q := fun s => RetrySpent key gid s.1 s.2) (fun s a hP _ => namesPast_step hP)
    (fun s a hP hQ hC => retrySpent_step hP.owned hQ hC) ?_ ?_ namesPast_empty hfr
  · intro s a d hP hQ _ hd
    obtain ⟨-, app, t, rollout, hdecided⟩ := decision_judged repoKey hd
    refine Bool.eq_false_iff.mpr fun hretries => ?_
    obtain ⟨hkey, -, hgid, hfirst, -⟩ := hdecided.retry hretries
    obtain ⟨app₀, t₀, -, ht₀, hattempts, -⟩ := hQ.spent
    have hbefore := hdecided.before
    rw [hkey] at hbefore
    cases some.inj (ht₀.symm.trans hbefore)
    have hused := hattempts hgid
    omega
  · intro s a d hP _ hd hretries
    obtain ⟨htr, app, t, rollout, hdecided⟩ := decision_judged repoKey hd
    obtain ⟨hkey, hcur, hgid, -, hattempts⟩ := hdecided.retry hretries
    have happ := hdecided.owner
    obtain ⟨b, t', ht', hstamps⟩ := hdecided.after
    rw [hkey] at happ ht'
    obtain ⟨old, hold, hnamed⟩ := hP.named _ app gid happ hcur
    obtain ⟨app', happ', -⟩ := @step_app repoKey _ a _ _ happ
    refine ⟨⟨old, List.mem_cons_of_mem _ hold, hnamed⟩, app', t', happ', ht', fun _ => ?_, ?_⟩
    · have hrow : t'.healthAttempts = _ :=
        hstamps.get_health (c := .attempts) (by simp [healthColumns])
      rw [hrow]
      exact le_of_le_of_eq hattempts recordVerdict_keeps.2.1.symm
    · intro hleft
      have hrow : t'.rolloutGenerationId = _ :=
        hstamps.get_health (c := .rolloutGeneration) (by simp [healthColumns])
      have hdecidedKept := (applyHealthGatedDecision_kept t rollout.healthPolicy
        d.args.healthStatus).2 .rolloutGeneration (by simp)
      refine absurd ?_ hleft
      exact hrow.trans (recordVerdict_keeps.2.2.trans (hdecidedKept.trans hgid))

/-- A row whose last verdict failed does not name that generation as healthy. -/
def Target.FailureHeeded (t : Target) : Prop :=
  t.lastHealth.status = some .failed →
    ∀ gid, t.lastHealth.generationId = some gid → t.healthyGenerationId ≠ some gid

/-- Recording a verdict keeps the row honest. -/
theorem recordVerdict_heeded {attributable : Bool}
    (h : t.FailureHeeded) : (t.recordVerdict db args attributable).FailureHeeded := by
  unfold Target.recordVerdict
  cases attributable with
  | false => simpa using h
  | true =>
    cases hstat : args.healthStatus with
    | passed =>
      intro hfailed
      simp at hfailed
    | failed =>
      intro _ gid hgid
      by_cases hmatch : t.healthyGenerationId = args.deployedGenerationId
      · simp [hmatch]
      · simp [hmatch] at hgid ⊢
        rw [← hgid]
        exact hmatch
    | unknown =>
      by_cases hnone : t.lastHealth.status = none
      · intro hfailed
        simp [hnone] at hfailed
      · simp only [hnone]
        simpa using h

theorem Target.FailureHeeded.of_same (h : t.FailureHeeded) (hlast : t'.lastHealth = t.lastHealth)
    (hhealthy : t'.healthyGenerationId = t.healthyGenerationId) : t'.FailureHeeded := by
  unfold Target.FailureHeeded
  rw [hlast, hhealthy]
  exact h

theorem HealthMove.heeded (h : HealthMove db tr key t t')
    (hheeded : t.FailureHeeded) : t'.FailureHeeded := by
  have hsame : ∀ cols, .lastHealth ∉ cols → .healthy ∉ cols → HealthKept cols t t' →
      t'.FailureHeeded := fun cols hlast hhealthy hkept =>
    hheeded.of_same (hkept .lastHealth (by simp [healthColumns]) hlast)
      (hkept .healthy (by simp [healthColumns]) hhealthy)
  cases h with
  | kept h => exact hsame [] (by simp) (by simp) h
  | @judged args _ _ row _ _ _ hmove hstamps =>
    have hrow : row.FailureHeeded := by
      cases hmove with
      | stale => exact hheeded
      | released => exact hheeded.of_same rfl rfl
      | observed => exact recordVerdict_heeded hheeded
      | @decided rollout =>
        have hdecided := (applyHealthGatedDecision_kept t rollout.healthPolicy args.healthStatus).2
        exact recordVerdict_heeded (hheeded.of_same (hdecided .lastHealth (by simp))
          (hdecided .healthy (by simp)))
    exact hrow.of_same (hstamps.get_health (c := .lastHealth) (by simp [healthColumns]))
      (hstamps.get_health (c := .healthy) (by simp [healthColumns]))
  | forgotten _ hkept => exact hsame _ (by simp) (by simp) hkept
  | asked _ _ _ hkept => exact hsame _ (by simp) (by simp) hkept
  | acked _ _ _ hkept => exact hsame _ (by simp) (by simp) hkept
  | restored hhealthy hkept =>
    intro _ gid _ hsome
    rw [hhealthy] at hsome
    cases hsome

/-- After every run, no row names a generation as healthy that its last verdict
failed. -/
theorem failureHeeded_run :
    ∀ key t, (runTransitions repoKey empty calls).targets.find? key = some t →
      t.FailureHeeded := by
  have hempty : TargetsOwned empty ∧ ∀ key t, empty.targets.find? key = some t →
      t.FailureHeeded := ⟨targetsOwned_empty, fun _ _ ht => nomatch ht⟩
  refine (run_invariant (P := fun db => TargetsOwned db ∧
    ∀ key t, db.targets.find? key = some t → t.FailureHeeded)
    (fun db tr h => ⟨targetsOwned_step h.1, fun key t' ht' => ?_⟩) hempty calls).2
  rcases step_target_cases h.1 ht' with ⟨t, ht, -⟩ | ⟨-, hnew, -⟩
  · exact (step_health h.1 ht ht').heeded (h.2 key t ht)
  · intro hfailed
    rw [hnew.health.2] at hfailed
    cases hfailed

/-- What a stale verdict leaves alone. -/
structure SameHealth (t t' : Target) : Prop where
  lastHealth : t'.lastHealth = t.lastHealth
  healthy : t'.healthyGenerationId = t.healthyGenerationId
  lkg : t'.lkg = t.lkg
  attempts : t'.healthAttempts = t.healthAttempts
  stopReason : t'.healthStopReason = t.healthStopReason

/-- A verdict for a run of a rollout the target does not await. -/
theorem stale_verdict (hrollout : args.rollout.isSome = true)
    (ht : db.targets.find? ⟨args.applicationId, args.nodeId⟩ = some t)
    (hstale : t.pendingHealthRunId ≠ some args.healthRunId)
    (ht' : (step repoKey db (.healthFinalized args)).targets.find?
      ⟨args.applicationId, args.nodeId⟩ = some t') : SameHealth t t' := by
  rcases @step_healthFinalized repoKey db args with ⟨outcome, hjudged⟩ | hrf
  · obtain ⟨app, told, row, -, htold, hmove, ⟨now, hnow, hstamps⟩, -⟩ := hjudged
    cases some.inj (htold.symm.trans ht)
    cases some.inj (hnow.symm.trans ht')
    obtain ⟨_, _, rfl⟩ := hstamps
    cases hmove with
    | stale => exact ⟨rfl, rfl, rfl, rfl, rfl⟩
    | released _ hpend => exact absurd hpend hstale
    | observed hnone =>
      rw [hnone] at hrollout
      cases hrollout
    | decided _ hpend => exact absurd hpend hstale
  · rw [hrf] at ht'
    cases some.inj (ht.symm.trans ht')
    exact ⟨rfl, rfl, rfl, rfl, rfl⟩

/-- An unknown verdict withdraws nothing. -/
theorem unknown_verdict (hunknown : args.healthStatus = .unknown)
    (ht : db.targets.find? ⟨args.applicationId, args.nodeId⟩ = some t)
    (ht' : (step repoKey db (.healthFinalized args)).targets.find?
      ⟨args.applicationId, args.nodeId⟩ = some t') :
    t'.healthyGenerationId = t.healthyGenerationId := by
  have hrecorded : ∀ (t : Target) (db : Db) (attributable : Bool),
      (t.recordVerdict db args attributable).healthyGenerationId = t.healthyGenerationId := by
    intro t db attributable
    unfold Target.recordVerdict
    rw [hunknown]
    cases attributable with
    | false => rfl
    | true =>
      by_cases hnone : t.lastHealth.status = none <;> simp [hnone]
  rcases @step_healthFinalized repoKey db args with ⟨outcome, hjudged⟩ | hrf
  · obtain ⟨app, told, row, -, htold, hmove, ⟨now, hnow, hstamps⟩, -⟩ := hjudged
    cases some.inj (htold.symm.trans ht)
    cases some.inj (hnow.symm.trans ht')
    obtain ⟨_, _, rfl⟩ := hstamps
    cases hmove with
    | stale | released => rfl
    | observed => exact hrecorded t _ _
    | @decided rollout =>
      refine (hrecorded _ _ true).trans ?_
      exact (applyHealthGatedDecision_kept t rollout.healthPolicy args.healthStatus).2
        .healthy (by simp)
  · rw [hrf] at ht'
    cases some.inj (ht.symm.trans ht')
    rfl

/-- The verdict a run of calls contains, with the row before and after it. -/
structure VerdictIn (repoKey : String → Option String) (calls : List Transition)
    (args : HealthFinalizedArgs) (t t' : Target) : Prop where
  run : ∃ before after, calls = before ++ .healthFinalized args :: after ∧
    (runTransitions repoKey empty before).targets.find? ⟨args.applicationId, args.nodeId⟩ = some t ∧
    (runTransitions repoKey empty (before ++ [.healthFinalized args])).targets.find?
      ⟨args.applicationId, args.nodeId⟩ = some t'

/-- What holds of the health runs of a run of calls. -/
structure HealthSettled (repoKey : String → Option String) (calls : List Transition) : Prop where
  once : ∀ run, ((decisions repoKey empty calls).filter
    fun d => d.args.healthRunId = run).length ≤ 1
  stale : ∀ args t t', VerdictIn repoKey calls args t t' → args.rollout.isSome = true →
    t.pendingHealthRunId ≠ some args.healthRunId → SameHealth t t'
  retried : ∀ key gid, ((decisions repoKey empty calls).filter
    fun d => d.retries key gid).length ≤ 1
  cautious : ∀ d ∈ decisions repoKey empty calls, d.args.healthStatus = .unknown →
    d.decision.action = .none ∨ d.decision.action = .pause
  promoted : ∀ args t t', VerdictIn repoKey calls args t t' → args.healthStatus = .unknown →
    t'.healthyGenerationId = t.healthyGenerationId
  heeded : ∀ key t, (runTransitions repoKey empty calls).targets.find? key = some t →
    t.FailureHeeded

/-- Every run of calls with fresh health runs and rollout generations. -/
theorem health_decided_once (hruns : (calls.filterMap startsRun).Nodup)
    (hrollouts : (calls.filterMap namesRollout).Nodup) :
    HealthSettled repoKey calls where
  once := decided_once calls hruns
  stale := by
    rintro args t t' ⟨before, after, -, ht, ht'⟩ hrollout hstale
    unfold runTransitions at ht'
    rw [run_append] at ht'
    exact stale_verdict hrollout ht hstale ht'
  retried := retried_once calls hrollouts
  cautious := by
    intro d hd hunknown
    obtain ⟨before, tr, after, -, hemitted⟩ := mem_emitted hd
    obtain ⟨-, app, t, rollout, hdecided⟩ := decision_judged repoKey hemitted
    rw [hdecided.decision, applyHealthGatedDecision_decision, hunknown]
    exact decide_unknown ..
  promoted := by
    rintro args t t' ⟨before, after, -, ht, ht'⟩ hunknown
    unfold runTransitions at ht'
    rw [run_append] at ht'
    exact unknown_verdict hunknown ht ht'
  heeded := failureHeeded_run calls

/-- A gated deploy that failed its health run and is retried. -/
def gatedDeploy : List Transition :=
  rolloutStarted ++ [.blueprintDeployStarted ⟨"app", 1, "i1", some "c1", some (some "run"),
      envelopeAt "deploy" 10⟩,
    .blueprintAckRecorded ⟨"app", 1, "i1", some "c1", none, none, envelopeAt "deploy" 11⟩,
    .healthFinalized ⟨"app", 1, "run", .failed, some "g1", .stack, some ⟨"r2", .retryOnce⟩,
      envelopeAt "verdict" 12⟩]

theorem gatedDeploy_settled : (decisions (fun url => some url) empty gatedDeploy).length = 1 ∧
      HealthSettled (fun url => some url) gatedDeploy :=
  ⟨by decide +kernel, health_decided_once gatedDeploy (by decide) (by decide)⟩

/-- A linked stack that runs what it applied. -/
def deployedStack : List Transition :=
  appliedStack ++ [.deployStarted "app" 1 "g1" (envelopeAt "deploy" 4),
    .deployBound "app" 1 "g1" (envelopeAt "deploy" 5)]

/-- The health check of a deploy no rollout made. -/
def plainVerdict : HealthFinalizedArgs :=
  ⟨"app", 1, "run", .passed, some "g1", .stack, none, envelopeAt "verdict" 6⟩

/-- A target awaits no run of a plain deploy, and its verdict is recorded. -/
theorem verdict_recorded :
    ¬ ∀ (calls : List Transition) (args : HealthFinalizedArgs) (t t' : Target),
      (calls.filterMap startsRun).Nodup →
      (calls.filterMap namesRollout).Nodup →
      VerdictIn (fun url => some url) calls args t t' →
      t.pendingHealthRunId ≠ some args.healthRunId → SameHealth t t' := by
  intro hclaim
  have hbefore : (((runTransitions (fun url => some url) empty deployedStack).targets.find?
      ⟨"app", 1⟩).any fun t => t.pendingHealthRunId = none ∧ t.lastHealth.status = none) = true := by
    decide +kernel
  have hafter : (((runTransitions (fun url => some url) empty
      (deployedStack ++ [.healthFinalized plainVerdict])).targets.find? ⟨"app", 1⟩).any
        fun t => t.lastHealth.status = some .passed) = true := by
    decide +kernel
  obtain ⟨t, ht, hrow⟩ := (any_eq_true _ _).mp hbefore
  obtain ⟨t', ht', hrow'⟩ := (any_eq_true _ _).mp hafter
  obtain ⟨hpend, hnone⟩ := of_decide_eq_true hrow
  have hsame := hclaim (deployedStack ++ [.healthFinalized plainVerdict]) plainVerdict t t'
    (by decide) (by decide) ⟨deployedStack, [], rfl, ht, ht'⟩ (by rw [hpend]; simp)
  have hpassed := of_decide_eq_true hrow'
  rw [hsame.lastHealth, hnone] at hpassed
  cases hpassed

end Sencho.GitOps

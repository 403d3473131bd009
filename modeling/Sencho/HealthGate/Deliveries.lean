import Sencho.HealthGate.RunVerdicts

/-!
# Verdicts over runs of calls

Every call, in any order, with the process ending and starting in between.  A verdict
that was written as the process ended is handed over by the next start.
-/

namespace Sencho.HealthGate

open Verified GitOps List Option Db

/-- The calls in which the process ends. -/
def HealthGateCall.crashes : HealthGateCall → Bool
  | .crash _ _ => true
  | _ => false

namespace HealthGateService

variable {s s' s₁ s₂ : HealthGateService}
variable {call : HealthGateCall} {run : HealthGateRun}

/-- A call takes no row whose verdict is owed, writes no reservation off once its gate has
started, starts no service that has gates, and makes no target wait for a run that was not
reserved for it. -/
def Spared (s : HealthGateService) (call : HealthGateCall) : Prop :=
  (∀ t run, s.insertion call = some (t, run) → t.Spares run) ∧ match call with
    | .abandonReservedRun runId nodeId stackName _ _ =>
      (s.getHealthGateRun nodeId stackName runId).isSome = true → ¬ s.observed runId
    | .start _ => s.active = []
    | .gitops _ (.blueprintDeployStarted args) =>
      ∀ r, args.pendingHealthRunId = some (some r) → r ≠ "" →
        ∃ run, s.runs.find? r = some run ∧ ReservedFor run ⟨args.applicationId, args.nodeId⟩
    | _ => True

theorem Accounted.outcome (hs : Accounted s) (ho : Outcome s call s') (hspared : Spared s call) :
    Sound s s' := by
  cases ho with
  | ends hends => exact hs.endings hends
  | inserts hends hwr hins hrest =>
    have hended := hs.endings hends
    have hwritten := hended.accounted.inserted hins (hspared.1 _ _ hwr)
    have hrested := Sound.quiet hwritten.accounted hrest
    exact (hended.trans hs hwritten).trans hs hrested
  | arms hends harmed =>
    have hended := hs.endings hends
    exact hended.trans hs (hended.accounted.armed harmed)
  | @abandons run nodeId stackName reason now hcall hget hstat heq =>
    obtain ⟨hrun, _⟩ := find?_of_getHealthGateRun hget
    subst hcall
    have hunobserved : ¬ s.observed run.id := hspared.2 (by rw [hget]; rfl)
    obtain ⟨v, _, hsound⟩ := hs.finalizePersistedRun hrun hstat hunobserved
      (run.id :: s.taken) (fun r hr => (mem_cons.mp hr).symm) reason now
    rw [heq]
    exact hsound

/-- The runs a previous process left observing have got their verdicts. -/
theorem Accounted.sweep (reason : String) (now : Int) (runs : List HealthGateRun)
    (hs : Accounted s) (hidle : s.active = []) (hnodup : (runs.map HealthGateRun.id).Nodup)
    (hruns : ∀ run ∈ runs, s.runs.find? run.id = some run ∧ run.status = .observing) :
    let s' := runs.foldl (fun s run => s.finalizePersistedRun run reason now) s
    Sound s s' ∧ s'.active = [] ∧
      ∀ r, s'.Observing r → s.Observing r ∧ r ∉ runs.map HealthGateRun.id := by
  induction runs generalizing s with
  | nil => exact ⟨.refl hs, hidle, fun r hr => ⟨hr, not_mem_nil⟩⟩
  | cons run runs ih =>
    obtain ⟨hnew, hrest⟩ := nodup_cons.mp hnodup
    obtain ⟨hrun, hstat⟩ := hruns run mem_cons_self
    have hunobserved : ¬ s.observed run.id := by
      unfold observed faces
      rw [hidle]
      exact not_mem_nil
    obtain ⟨v, hwritten, hsound⟩ := hs.finalizePersistedRun hrun hstat hunobserved s.taken
      (fun r hr => .inl hr) reason now
    have hidle' : (s.finalizePersistedRun run reason now).active = [] := by
      rw [(judging_finalizePersistedRun s run reason now).active]
      exact hidle
    obtain ⟨hsound', hactive, hobs⟩ := ih hsound.accounted hidle' hrest fun run' hrun' => by
        obtain ⟨hfind, hstat'⟩ := hruns run' (mem_cons_of_mem _ hrun')
        have hne : run'.id ≠ run.id := fun heq =>
          hnew (heq ▸ mem_map.mpr ⟨run', hrun', rfl⟩)
        exact ⟨(hwritten.others hne).trans hfind, hstat'⟩
    refine ⟨hsound.trans hs hsound', hactive, fun r hr => ?_⟩
    obtain ⟨hr', hothers⟩ := hobs r hr
    obtain ⟨hwas, hne⟩ := hwritten.observing_others.mp hr'
    exact ⟨hwas, not_mem_cons_of_ne_of_not_mem hne hothers⟩

theorem listObserving_ids (s : HealthGateService) :
    (s.listObservingHealthGateRuns.map HealthGateRun.id).Nodup :=
  ((filter_sublist (l := s.runs.rows)).map HealthGateRun.id).nodup s.runs.nodup

theorem mem_listObserving : run ∈ s.listObservingHealthGateRuns ↔
      s.runs.find? run.id = some run ∧ run.status = .observing := by
  unfold listObservingHealthGateRuns
  rw [mem_filter, Table.find?_eq_some_iff, decide_eq_true_eq]
  simp

/-- A reconciled target moves the revision state, and delivers what it delivers. -/
theorem reconcileTarget_moved (s : HealthGateService) (now : Int) (t : Target) :
    (s.reconcileTarget now t).runs = s.runs ∧ Moved s.gitops (s.reconcileTarget now t).gitops ∧
      s.delivered ⊆ (s.reconcileTarget now t).delivered := by
  unfold reconcileTarget
  cases t.pendingHealthRunId.filter fun id => id ≠ "" with
  | none => exact ⟨rfl, .inl rfl, .refl _⟩
  | some runId =>
    dsimp only
    cases (s.gitops.getApplication t.applicationId).filter fun app =>
        app.lifecycleStatus = .active with
    | none => exact ⟨rfl, .inl rfl, .refl _⟩
    | some app =>
      cases s.runs.find? runId with
      | none => exact ⟨rfl, moved_healthRunReleased _ _ _ _ _, .refl _⟩
      | some run =>
        dsimp only
        cases run.status with
        | observing => exact ⟨rfl, .inl rfl, .refl _⟩
        | ended v =>
          have hhanded := record_handed s run.nodeId run.stackName run.id v now
          obtain ⟨db, delivered, heq⟩ := recordGitOpsHealthVerdict_eq s run.nodeId
            run.stackName run.id v now
          refine ⟨?_, hhanded.moved, hhanded.delivered⟩
          dsimp only
          rw [heq]

/-- A target that waits for a run with a verdict is handed it. -/
theorem reconcileTarget_delivers {key : TargetKey} {v : HealthVerdict} {t t' : Target}
    (hrun : s.runs.find? run.id = some run) (hstat : run.status = .ended v)
    (hfor : ReservedFor run key) (hnamed : run.id ≠ "") (htkey : t.key = key)
    (hpend : t.pendingHealthRunId = some run.id) (ht' : s.gitops.targets.find? key = some t')
    (hlive : Live s.gitops key.applicationId) (now : Int) :
    (s.reconcileTarget now t).Delivered key run.id v := by
  have hdelivers := record_delivers hrun hfor ht' hlive v now
  obtain ⟨app, happ, hactive⟩ := hlive
  have hid : t.applicationId = key.applicationId := congrArg TargetKey.applicationId htkey
  have hwaits : t.pendingHealthRunId.filter (fun id => id ≠ "") = some run.id := by
    rw [hpend]
    simp [Option.filter, hnamed]
  have hfound : (s.gitops.getApplication t.applicationId).filter
      (fun app => app.lifecycleStatus = .active) = some app := by
    rw [hid, happ]
    simp [Option.filter, hactive]
  unfold reconcileTarget
  rw [hwaits]
  dsimp only
  rw [hfound]
  rw [hrun]
  dsimp only
  rw [hstat]
  exact hdelivers

/-- Reconciled targets, in any order. -/
theorem reconcile_moved (now : Int) (ts : List Target) (s : HealthGateService)
    (howned : TargetsOwned s.gitops) :
    let s' := ts.foldl (fun s t => s.reconcileTarget now t) s
    s'.runs = s.runs ∧ s'.verdicts = s.verdicts ∧ TargetsOwned s'.gitops ∧
      s.delivered ⊆ s'.delivered ∧ ∀ key r, Waiting s'.gitops key r → Waiting s.gitops key r := by
  induction ts generalizing s with
  | nil => exact ⟨rfl, rfl, howned, .refl _, fun _ _ h => h⟩
  | cons t ts ih =>
    obtain ⟨hruns, hmoved, hdelivered⟩ := reconcileTarget_moved s now t
    obtain ⟨hruns', hverdicts', howned', hdelivered', hwaiting⟩ := ih (s.reconcileTarget now t)
      (hmoved.owned howned)
    have hverdicts : (s.reconcileTarget now t).verdicts = s.verdicts := by
      obtain ⟨db, delivered, heq⟩ := reconcileTarget_eq s now t
      rw [heq]
    exact ⟨hruns'.trans hruns, hverdicts'.trans hverdicts, howned',
      List.Subset.trans hdelivered hdelivered',
      fun key r h => hmoved.waiting howned (hwaiting key r h)⟩

theorem reconcile_delivers (now : Int) {key : TargetKey} {v : HealthVerdict}
    (hstat : run.status = .ended v) (hfor : ReservedFor run key) (hnamed : run.id ≠ "")
    {t : Target} (htkey : t.key = key) (hpend : t.pendingHealthRunId = some run.id)
    (ts : List Target) (hmem : t ∈ ts) (s : HealthGateService) (howned : TargetsOwned s.gitops)
    (hrun : s.runs.find? run.id = some run) {t' : Target}
    (ht' : s.gitops.targets.find? key = some t') (hlive : Live s.gitops key.applicationId) :
    (ts.foldl (fun s t => s.reconcileTarget now t) s).Delivered key run.id v := by
  induction ts generalizing s t' with
  | nil => exact absurd hmem not_mem_nil
  | cons first ts ih =>
    obtain ⟨hruns, hmoved, _⟩ := reconcileTarget_moved s now first
    rcases mem_cons.mp hmem with heq | hlater
    · have hnow : (s.reconcileTarget now t).Delivered key run.id v :=
        reconcileTarget_delivers hrun hstat hfor hnamed htkey hpend ht' hlive now
      rw [heq] at hnow
      obtain ⟨_, _, _, hsub, _⟩ := reconcile_moved now ts (s.reconcileTarget now first)
        (hmoved.owned howned)
      exact hnow.mono hsub
    · obtain ⟨t'', ht''⟩ := hmoved.target howned ht'
      exact ih hlater (s.reconcileTarget now first) (hmoved.owned howned)
        (by rw [hruns]; exact hrun) ht'' (hmoved.live hlive)

/-- Every verdict a live target waits for has been handed over. -/
def PaidUp (s s' : HealthGateService) : Prop :=
  ∀ key r run v, s.runs.find? r = some run → run.status = .ended v → Awaits s.gitops key r →
    s'.Delivered key r v

theorem Accounted.reconcile (hs : Accounted s) (now : Int) :
    PaidUp s (s.reconcileVerdictsThatNeverArrived now) := by
  intro key r run v hrun hstat hawaits
  obtain ⟨⟨t, ht, hpend, hnamed⟩, hlive⟩ := hawaits
  have hid : run.id = r := Table.key_of_find? hrun
  have hfor := (hs.awaited key r ⟨t, ht, hpend, hnamed⟩).2 run hrun
  obtain ⟨hrow, hkey⟩ := (s.gitops.targets.find?_eq_some_iff key t).mp ht
  have hmem : t ∈ s.gitops.targets.rows.filter fun t => t.pendingHealthRunId.isSome :=
    mem_filter.mpr ⟨hrow, by rw [hpend]; rfl⟩
  subst hid
  exact reconcile_delivers now hstat hfor hnamed hkey hpend _ hmem s hs.owned hrun ht hlive

/-- A start leaves no run observing, and hands over every verdict a live target waits for. -/
theorem Accounted.start (hs : Accounted s) (hidle : s.active = []) (now : Int) :
    Kept s (s.start now) ∧ Accounted (s.start now) ∧ PaidUp s (s.start now) ∧
      ∀ r, ¬ (s.start now).Observing r := by
  let on : HealthGateService := { s with started := true }
  have hon : Sound s on := .same hs rfl rfl rfl rfl rfl rfl (.refl _)
  let swept := on.listObservingHealthGateRuns.foldl
    (fun s run => s.finalizePersistedRun run "Sencho restarted during observation" now) on
  obtain ⟨hswept, hactive, hobs⟩ := hon.accounted.sweep "Sencho restarted during observation"
    now on.listObservingHealthGateRuns hidle (listObserving_ids on)
    fun run hrun => mem_listObserving.mp hrun
  have hsound : Sound s swept := hon.trans hs hswept
  have hnone : ∀ r, ¬ swept.Observing r := by
    intro r hr
    obtain ⟨⟨run, hrun, hstat⟩, hnot⟩ := hobs r hr
    have hid : run.id = r := Table.key_of_find? hrun
    refine hnot (mem_map.mpr ⟨run, mem_listObserving.mpr ⟨?_, hstat⟩, hid⟩)
    rw [hid]
    exact hrun
  have hstart : s.start now = swept.reconcileVerdictsThatNeverArrived now := rfl
  rw [hstart]
  have hjudging := judging_reconcile swept now
  obtain ⟨hruns, hverdicts, howned, hdelivered, hwaiting⟩ := reconcile_moved now
    (swept.gitops.targets.rows.filter fun t => t.pendingHealthRunId.isSome) swept
    hsound.accounted.owned
  have hpaid := hsound.accounted.reconcile now
  generalize hdone : swept.reconcileVerdictsThatNeverArrived now = done at hjudging hpaid
  have hfold : (swept.gitops.targets.rows.filter fun t => t.pendingHealthRunId.isSome).foldl
      (fun s t => s.reconcileTarget now t) swept = done := hdone
  rw [hfold] at hruns hverdicts howned hdelivered hwaiting
  have hnone' : ∀ r, ¬ done.Observing r := by
    unfold Observing
    rw [hruns]
    exact hnone
  have hkept : Kept swept done := by
    refine ⟨fun r hr => absurd hr (hnone r), fun r run v hrun _ run' hrun' => ?_,
      fun key r hr => absurd hr (hnone r), fun key r run v hrun hstat hkey =>
        .inl (hpaid key r run v hrun hstat hkey), fun r _ hr => ?_, ?_, ?_, hdelivered⟩
    · rw [hruns, hrun] at hrun'
      exact (some.inj hrun').symm
    · rw [hruns]
      exact hr
    · rw [hjudging.drawn]
      exact .refl _
    · rw [hverdicts]
      exact .refl _
  refine ⟨hsound.kept.trans hs.tidy hkept, ?_, fun key r run v hrun hstat hkey => ?_, hnone'⟩
  · refine ⟨hsound.accounted.tidy.judging hjudging, howned, fun r hr => ?_, fun r hr => ?_,
      fun key r hr => ?_, ?_, fun r v hmem => ?_⟩
    · unfold observed faces at hr
      rw [hjudging.active, hactive] at hr
      exact absurd hr not_mem_nil
    · rw [hjudging.taken] at hr
      rw [hjudging.drawn]
      exact hsound.accounted.takenDrawn r hr
    · rw [hjudging.drawn, hruns]
      exact hsound.accounted.awaited key r (hwaiting key r hr)
    · rw [hverdicts]
      exact hsound.accounted.once
    · rw [hverdicts] at hmem
      rw [hjudging.drawn]
      exact ⟨(hsound.accounted.settled r v hmem).1, hnone' r⟩
  · rcases hsound.kept.owed key r run v hrun hstat hkey with htold | ⟨hrun', hkey'⟩
    · exact htold.mono hdelivered
    · exact hpaid key r run v hrun' hstat hkey'

theorem Accounted.stop (hs : Accounted s) (now : Int) : Sound s (s.stop now) := by
  have hoff : Sound s { s with started := false } :=
    .same hs rfl rfl rfl rfl rfl rfl (.refl _)
  have hended := hoff.accounted.endings (endings_endGates (fun _ => true)
    "shutdown during observation" now)
  have hforgotten : Sound (({ s with started := false } : HealthGateService).endGates
      (fun _ => true) "shutdown during observation" now) (s.stop now) :=
    .same hended.accounted rfl rfl rfl rfl rfl rfl (.refl _)
  exact (hoff.trans hs hended).trans hs hforgotten

/-- What a call does to the runs it finds: one that is observed stays so or has got its
verdict, which every live target that awaited it has been handed unless the process ended
in between; one with a verdict keeps it, and is there until the verdict is handed over. -/
structure Settles (s : HealthGateService) (call : HealthGateCall) (s' : HealthGateService) :
    Prop where
  fate : ∀ r, s.Observing r → s'.Observing r ∨ ∃ v : GateVerdict, (r, v) ∈ s'.verdicts ∧
    (∀ run', s'.runs.find? r = some run' → run'.status = .ended v.status) ∧
    ((∀ key, Awaits s.gitops key r → s'.Delivered key r v.status) ∨
      (call.crashes = true ∧ (s'.runs.find? r).isSome = true))
  final : ∀ r run v, s.runs.find? r = some run → run.status = .ended v →
    ∀ run', s'.runs.find? r = some run' → run' = run
  gone : ∀ r ∈ s.drawn, s.runs.find? r = none → s'.runs.find? r = none
  owed : ∀ key r run v, s.runs.find? r = some run → run.status = .ended v →
    Awaits s.gitops key r → s'.Delivered key r v ∨ s'.runs.find? r = some run
  paid : ∀ now, call = .start now → PaidUp s s'

theorem Kept.settles (h : Kept s s') (hpaid : ∀ now, call = .start now → PaidUp s s') :
    Settles s call s' where
  fate := fun r hr => by
    rcases h.fate r hr with hstill | ⟨v, hv, hrow, htold⟩
    · exact .inl hstill
    · exact .inr ⟨v, hv, hrow, .inl htold⟩
  final := h.final
  gone := h.gone
  owed := fun key r run v hrun hstat hkey =>
    (h.owed key r run v hrun hstat hkey).imp_right And.left
  paid := hpaid

/-- A call that leaves the rows. -/
theorem Settles.of_runs (hruns : s'.runs = s.runs) (hcall : ∀ now, call ≠ .start now) :
    Settles s call s' where
  fate := fun r hr => .inl (by
    unfold Observing
    rw [hruns]
    exact hr)
  final := fun r run v hrun _ run' hrun' => by
    rw [hruns, hrun] at hrun'
    exact (some.inj hrun').symm
  gone := fun r _ hnone => by
    rw [hruns]
    exact hnone
  owed := fun key r run v hrun _ _ => by
    rw [hruns]
    exact .inr hrun
  paid := fun now heq => absurd heq (hcall now)

theorem Accounted.crash (hs : Accounted s) : Accounted s.crash :=
  hs.of_same hs.tidy.crash rfl rfl rfl (.refl _)
    (fun _ hr => absurd hr not_mem_nil) hs.takenDrawn

/-- The process ends, also between the write of a verdict and its delivery. -/
theorem Accounted.crashWriting (hs : Accounted s) (writing : Option (String × GateVerdict))
    (now : Int) : Accounted (s.crashWriting writing now) ∧
      Settles s (.crash writing now) (s.crashWriting writing now) := by
  rcases crashWriting_eq s writing now with heq | ⟨r, v, run, hrun, hstat, heq⟩
  · rw [heq]
    refine ⟨hs.crash, .of_runs ?_ fun _ hcall => ?_⟩
    · rfl
    · cases hcall
  · rw [heq]
    have hwritten : VerdictWritten s (s.finalizeHealthGateRun r v now).crash r v :=
      ⟨⟨run, hrun, hstat⟩, ⟨now, rfl⟩, rfl, rfl, fun _ hr => .inl hr,
        fun _ hr => absurd hr not_mem_nil, (hs.tidy.finalizeHealthGateRun r v now).crash,
        .inl ⟨rfl, rfl⟩⟩
    have hrow : ((s.finalizeHealthGateRun r v now).crash.runs.find? r).isSome = true := by
      have hfind := find?_runsWith s r v now r
      unfold runsWith at hfind
      show ((s.finalizeHealthGateRun r v now).runs.find? r).isSome = true
      rw [hfind, hrun]
      rfl
    refine ⟨hwritten.accounted hs, ?_, ?_, ?_, ?_, nofun⟩
    · intro r' hr'
      by_cases hne : r' = r
      · subst hne
        exact .inr ⟨v, mem_cons_self, fun run' hrun' => (hwritten.row hrun').1, .inr ⟨rfl, hrow⟩⟩
      · exact .inl (hwritten.observing_others.mpr ⟨hr', hne⟩)
    · intro r' run₀ v' hrun₀ hstat₀ run' hrun'
      rw [hwritten.others (hwritten.ended_ne hrun₀ hstat₀), hrun₀] at hrun'
      exact (some.inj hrun').symm
    · intro r' _ hnone
      have hne : r' ≠ r := by
        rintro rfl
        rw [hrun] at hnone
        cases hnone
      rw [hwritten.others hne]
      exact hnone
    · intro key r' run₀ v' hrun₀ hstat₀ _
      rw [hwritten.others (hwritten.ended_ne hrun₀ hstat₀)]
      exact .inr hrun₀

/-- A transition of the revision state. -/
theorem Accounted.gitops (hs : Accounted s) (repoKey : String → Option String) (tr : Transition)
    (hspared : Spared s (.gitops repoKey tr)) :
    Accounted { s with gitops := GitOps.step repoKey s.gitops tr } where
  tidy := hs.tidy.of_fewer (.refl _) (.refl _) (runsFrom_of_eq rfl)
  owned := targetsOwned_step hs.owned
  watched := hs.watched
  takenDrawn := hs.takenDrawn
  awaited := fun key r hwaiting => by
    obtain ⟨t', ht', hpend, hnamed⟩ := hwaiting
    rcases pending_step hs.owned ht' hpend with ⟨t, ht, hold⟩ | ⟨hstarts, args, htr, hkey⟩
    · exact hs.awaited key r ⟨t, ht, hold, hnamed⟩
    · subst htr
      have hasked : args.pendingHealthRunId = some (some r) := join_eq_some_iff.mp hstarts
      obtain ⟨run, hrun, hfor⟩ := hspared.2 r hasked hnamed
      rw [← hkey] at hfor
      refine ⟨hs.tidy.runDrawn r run hrun, fun run' hrun' => ?_⟩
      rw [show s.runs.find? r = some run' from hrun'] at hrun
      rw [some.inj hrun]
      exact hfor
  once := hs.once
  settled := hs.settled

theorem endings_started (h : Endings s s') : s'.started = s.started := by
  induction h with
  | refl => rfl
  | tail _ hstep ih =>
    cases hstep with
    | quiet hq => exact hq.started.trans ih
    | ended runId v now => exact (endGate_keeps _ runId v now).1.trans ih

theorem outcome_started (h : Outcome s call s') : s'.started = s.started := by
  cases h with
  | ends hends => exact endings_started hends
  | inserts hends _ hins hrest =>
    exact (hrest.started.trans hins.started).trans (endings_started hends)
  | @arms t _ _ hends harmed =>
    have hkept : s'.started = t.started := by rw [harmed.eq]
    exact hkept.trans (endings_started hends)
  | @abandons run _ _ reason now _ _ _ heq =>
    obtain ⟨db, delivered, hfinal⟩ := finalizePersistedRun_eq
      { s with taken := run.id :: s.taken } run reason now
    rw [heq, hfinal]

/-- What the state is known to be between calls. -/
def Settled (s : HealthGateService) : Prop :=
  Accounted s ∧ (s.started = true → Claimed s)

theorem Settled.perform (h : Settled s) (hspared : Spared s call)
    (hfr : ∀ id, call.draws = some id → id ∉ s.drawn) :
    Settled (s.perform call) ∧ Settles s call (s.perform call) := by
  obtain ⟨hs, hclaimed⟩ := h
  cases hcall : call.ordinary with
  | true =>
    have houtcome := perform_outcome hs.tidy hcall hfr
    have hsound := hs.outcome houtcome hspared
    refine ⟨⟨hsound.accounted, fun hstarted => hsound.claimed (hclaimed ?_)⟩,
      hsound.kept.settles fun now heq => ?_⟩
    · rw [← outcome_started houtcome]
      exact hstarted
    · rw [heq] at hcall
      cases hcall
  | false =>
    cases call with
    | stop now =>
      have hsound := hs.stop now
      exact ⟨⟨hsound.accounted, fun hstarted =>
        hsound.claimed (hclaimed (by
          have hoff : (s.stop now).started = false := (endGates_keeps _ _ _ _).1
          rw [show s.perform (.stop now) = s.stop now from rfl, hoff] at hstarted
          cases hstarted))⟩, hsound.kept.settles fun _ heq => by cases heq⟩
    | start now =>
      obtain ⟨hkept, haccounted, hpaid, hnone⟩ := hs.start hspared.2 now
      exact ⟨⟨haccounted, fun _ r run hrun hstat => absurd ⟨run, hrun, hstat⟩ (hnone r)⟩,
        hkept.settles fun _ _ => hpaid⟩
    | crash writing now =>
      obtain ⟨haccounted, hsettles⟩ := hs.crashWriting writing now
      refine ⟨⟨haccounted, fun hstarted => ?_⟩, hsettles⟩
      have hoff : (s.crashWriting writing now).started = false := by
        rcases crashWriting_eq s writing now with heq | ⟨_, _, _, _, _, heq⟩
        · rw [heq]
          rfl
        · rw [heq]
          rfl
      rw [show s.perform (.crash writing now) = s.crashWriting writing now from rfl, hoff]
        at hstarted
      cases hstarted
    | gitops repoKey tr =>
      refine ⟨⟨hs.gitops repoKey tr hspared, hclaimed⟩, .of_runs ?_ fun _ hcall => ?_⟩
      · rfl
      · cases hcall
    | _ => cases hcall

theorem Settled.step (h : Settled s) (hspared : Spared s call) :
    Settled (s.step call) ∧ Settles s call (s.step call) := by
  unfold HealthGateService.step
  by_cases hdrawn : (call.draws.any fun id => id ∈ s.drawn) = true
  · rw [if_pos hdrawn]
    refine ⟨h, .of_runs rfl fun now heq => ?_⟩
    rw [heq] at hdrawn
    cases hdrawn
  · rw [if_neg hdrawn]
    exact h.perform hspared (fresh_of_not_any hdrawn)

theorem Settled.init : Settled (init empty) :=
  ⟨.init, fun hstarted => by cases hstarted⟩

/-- Over every run of spared calls, every call keeps the runs it finds, a run gets at most
one verdict, and while the service is started every observing row has a gate or an owner
who has yet to arm or abandon it. -/
theorem health_runs_kept (calls : List HealthGateCall)
    (h : Runs.Along step Spared (init empty) calls) :
    (∀ pre call post, calls = pre ++ call :: post →
      Settles (runCalls (init empty) pre) call (runCalls (init empty) (pre ++ [call]))) ∧
    ((runCalls (init empty) calls).verdicts.map Prod.fst).Nodup ∧
    ((runCalls (init empty) calls).started = true → Claimed (runCalls (init empty) calls)) := by
  have hsett : ∀ calls, Runs.Along step Spared (init empty) calls →
      Settled (runCalls (init empty) calls) := fun calls hcalls =>
    Runs.run_along (P := Settled) (fun s call hs hspared => (hs.step hspared).1) .init hcalls
  obtain ⟨haccounted, hclaimed⟩ := hsett calls h
  refine ⟨fun pre call post heq => ?_, haccounted.once, hclaimed⟩
  rw [heq] at h
  obtain ⟨hpre, hcall⟩ := Runs.along_append.mp h
  have hnext : runCalls (init empty) (pre ++ [call]) =
      (runCalls (init empty) pre).step call := foldl_append
  rw [hnext]
  exact ((hsett pre hpre).step hcall.1).2

/-- A check that a call is spared, which counts every waiting target as one that still waits. -/
def sparedNow (s : HealthGateService) (call : HealthGateCall) : Bool :=
  ((s.insertion call).all fun written => (written.2 :: written.1.runs.rows).all fun r =>
      !written.1.prunes written.2 r || (decide (r.status ≠ .observing) &&
        written.1.gitops.targets.rows.all fun t => t.pendingHealthRunId ≠ some r.id)) &&
    match call with
    | .abandonReservedRun runId _ _ _ _ => !(s.faces.map Prod.fst).contains runId
    | .start _ => s.active.isEmpty
    | .gitops _ (.blueprintDeployStarted args) => args.pendingHealthRunId.join.all fun r =>
      (s.runs.find? r).any fun run => run.applicationId.filter (fun id => id ≠ "") =
        some args.applicationId && decide (run.nodeId = args.nodeId)
    | _ => true

theorem spared_of_sparedNow (h : s.sparedNow call = true) : Spared s call := by
  unfold sparedNow at h
  obtain ⟨hwritten, hcall⟩ := Bool.and_eq_true_iff.mp h
  refine ⟨fun t run hinsertion r hr hprunes howed => ?_, ?_⟩
  · rw [hinsertion] at hwritten
    have hrow := all_eq_true.mp hwritten r hr
    simp only [hprunes, Bool.not_true, Bool.false_or, Bool.and_eq_true, decide_eq_true_eq] at hrow
    rcases howed with hobs | ⟨key, v, ⟨⟨target, htarget, hpend, _⟩, _⟩, _⟩
    · exact hrow.1 hobs
    · have hnot := all_eq_true.mp hrow.2 target (((Table.find?_eq_some_iff _ _ _).mp htarget).1)
      exact absurd hpend (of_decide_eq_true hnot)
  · cases call with
    | abandonReservedRun runId =>
      have hnot : runId ∉ s.faces.map Prod.fst := by simpa using hcall
      exact fun _ => hnot
    | start => exact isEmpty_iff.mp hcall
    | gitops _ tr =>
      cases tr with
      | blueprintDeployStarted args =>
        intro r hpend _
        simp only [hpend, join_some, all_some] at hcall
        obtain ⟨run, hrun, hfor⟩ := (any_eq_true _ _).mp hcall
        simp only [Bool.and_eq_true, decide_eq_true_eq] at hfor
        exact ⟨run, hrun, hfor⟩
      | _ => trivial
    | _ => trivial

/-- The update of one service, up to its gate. -/
def serviceGate (serviceName id : String) (now : Int) : List HealthGateCall :=
  [.prepare id 1 "web" serviceName .serviceUpdate 1 ⟨true, 60⟩ now,
    .snapshot id (some []) 0, .beginPrepared id none ("run " ++ id) ⟨true, 60⟩ now]

/-- Two services are updated five times each; a rollout of the stack waits for a verdict that is
written as the process ends.  The reservation and the next update each prune a run. -/
def observedRecovery : List HealthGateCall :=
  rolloutStarted.map (.gitops fun url => some url) ++
    .start 0 :: serviceGate "a" "a1" 1 ++ serviceGate "b" "b1" 2 ++ serviceGate "a" "a2" 3 ++
    serviceGate "b" "b2" 4 ++ serviceGate "a" "a3" 5 ++ serviceGate "b" "b3" 6 ++
    serviceGate "a" "a4" 7 ++ serviceGate "b" "b4" 8 ++ serviceGate "a" "a5" 9 ++
    serviceGate "b" "b5" 10 ++
    [.reserveRolloutRun ⟨"app", "i1", "r2", "g1", some "resolved", .retryOnce, 1, "web", none⟩
      "rollout" ⟨true, 60⟩ 11,
    .gitops (fun url => some url) (.blueprintDeployStarted ⟨"app", 1, "i1", some "c1",
      some (some "rollout"), envelopeAt "deploy" 12⟩),
    .armRolloutRun "rollout" 1 "web" 13] ++ serviceGate "a" "a6" 14 ++
    [.crash (some ("rollout", ⟨.failed, none, [], none⟩)) 15, .start 16]

theorem observedRecovery_spared : Runs.Along step Spared (init empty) observedRecovery := by
  have hnow : Runs.Along step (fun s call => s.sparedNow call = true) (init empty)
      observedRecovery := by
    decide +kernel
  exact Runs.Along.mono hnow fun _ _ => spared_of_sparedNow

/-- Each run has one verdict, and the start after the crash hands over the rollout's. -/
theorem observedRecovery_kept :
    (runCalls (init empty) observedRecovery).delivered.map (·.healthRunId) = ["rollout"] ∧
      ((runCalls (init empty) observedRecovery).verdicts.map Prod.fst).length = 12 ∧
      ((runCalls (init empty) observedRecovery).verdicts.map Prod.fst).Nodup :=
  ⟨by decide +kernel, by decide +kernel,
    (health_runs_kept observedRecovery observedRecovery_spared).2.1⟩

/-- Ten services of one stack are observed. -/
def tenServices : List HealthGateCall :=
  .start 0 :: serviceGate "a" "a" 1 ++ serviceGate "b" "b" 2 ++ serviceGate "c" "c" 3 ++
    serviceGate "d" "d" 4 ++ serviceGate "e" "e" 5 ++ serviceGate "f" "f" 6 ++
    serviceGate "g" "g" 7 ++ serviceGate "h" "h" 8 ++
    serviceGate "i" "i" 9 ++ serviceGate "j" "j" 10 ++
    [.prepare "k" 1 "web" "k" .serviceUpdate 1 ⟨true, 60⟩ 11, .snapshot "k" (some []) 0]

/-- The gate of an eleventh service deletes the run of the first. -/
theorem eleventhService_forgets :
    ¬ ∀ (calls : List HealthGateCall) (call : HealthGateCall) (r : String),
      (runCalls (init empty) calls).Observing r →
        (runCalls (init empty) (calls ++ [call])).runs.find? r = none →
          ∃ v, (r, v) ∈ (runCalls (init empty) (calls ++ [call])).verdicts := by
  intro hclaim
  have hrow : ((runCalls (init empty) tenServices).runs.find? "run a").map
      (fun run => run.status) = some .observing := by
    decide +kernel
  have hgone : (((runCalls (init empty) (tenServices ++
      [.beginPrepared "k" none "run k" ⟨true, 60⟩ 11])).runs.find? "run a").map
        fun run => run.id) = none := by
    decide +kernel
  have hnone : ((runCalls (init empty) (tenServices ++
      [.beginPrepared "k" none "run k" ⟨true, 60⟩ 11])).verdicts.map Prod.fst) = [] := by
    decide +kernel
  obtain ⟨run, hrun, hstat⟩ := map_eq_some_iff.mp hrow
  obtain ⟨v, hv⟩ := hclaim tenServices (.beginPrepared "k" none "run k" ⟨true, 60⟩ 11) "run a"
    ⟨run, hrun, hstat⟩ (map_eq_none_iff.mp hgone)
  have hmem := mem_map_of_mem (f := Prod.fst) hv
  rw [hnone] at hmem
  exact not_mem_nil hmem

end HealthGateService

end Sencho.HealthGate

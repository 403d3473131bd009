import Sencho.GitOps.HealthDecisions
import Sencho.HealthGate.Survival

/-!
# Health runs and their verdicts

A run is written as observing, gets one verdict, and keeps it.  Whatever writes the
verdict hands it to the revision state, for the target that awaits the run.

Two things can take a run from its owner: the prune that bounds the history of a stack,
which ranks rows by their start alone, and a second verdict.  A change that does
neither keeps every run.
-/

namespace Sencho.HealthGate

open Verified GitOps List Option Transition HealthGateService

/-- A live application. -/
def Live (db : Db) (id : String) : Prop :=
  ∃ app, db.getApplication id = some app ∧ app.lifecycleStatus = .active

/-- A target waits for the verdict of a run. -/
def Waiting (db : Db) (key : TargetKey) (r : String) : Prop :=
  ∃ t, db.targets.find? key = some t ∧ t.pendingHealthRunId = some r ∧ r ≠ ""

/-- A target of a live application waits for the verdict of a run. -/
def Awaits (db : Db) (key : TargetKey) (r : String) : Prop :=
  Waiting db key r ∧ Live db key.applicationId

variable {db : Db} {key : TargetKey} {r : String}

/-- A call that retires no application leaves the live ones live. -/
theorem Live.step {tr : Transition} {repoKey : String → Option String} {id : String}
    (h : Live db id) (hwr : ¬ tr.writes (.app id .lifecycle)) :
    Live (step repoKey db tr) id := by
  obtain ⟨app, happ, hactive⟩ := h
  obtain ⟨app', happ', hkept⟩ := @step_app repoKey db tr id app happ
  have hlifecycle : app'.lifecycleStatus = app.lifecycleStatus := hkept .lifecycle (.inr hwr)
  exact ⟨app', happ', hlifecycle.trans hactive⟩

/-- A verdict takes no other run from a row. -/
theorem verdictMove_pending {app : Application} {t row : Target} {args : HealthFinalizedArgs}
    {outcome : HealthOutcome} (h : VerdictMove app t args row outcome)
    (hne : r ≠ args.healthRunId) (hpend : t.pendingHealthRunId = some r) :
    row.pendingHealthRunId = some r := by
  have hother : t.pendingHealthRunId ≠ some args.healthRunId := by
    rw [hpend]
    exact fun heq => hne (some.inj heq)
  cases h with
  | stale => exact hpend
  | released _ hawaited => exact absurd hawaited hother
  | observed => exact recordVerdict_keeps.1.trans hpend
  | decided _ hawaited => exact absurd hawaited hother

/-- A verdict leaves the targets that await other runs. -/
theorem awaits_healthFinalized {args : HealthFinalizedArgs} {repoKey : String → Option String}
    (hne : r ≠ args.healthRunId) (h : Awaits db key r) :
    Awaits (step repoKey db (.healthFinalized args)) key r := by
  obtain ⟨⟨t, ht, hpend, hnamed⟩, hlive⟩ := h
  have hlive' : Live (step repoKey db (.healthFinalized args)) key.applicationId :=
    hlive.step (by simp [writes, appWrites])
  refine ⟨?_, hlive'⟩
  rcases @step_healthFinalized repoKey db args with ⟨outcome, hjudged⟩ | hrf
  · obtain ⟨app, told, row, _, htold, hmove, ⟨t', ht', hstamps⟩, hothers⟩ := hjudged
    by_cases hkey : key = ⟨args.applicationId, args.nodeId⟩
    · subst hkey
      cases some.inj (htold.symm.trans ht)
      have hrow := verdictMove_pending hmove hne hpend
      have hpend' : t'.pendingHealthRunId = row.pendingHealthRunId :=
        hstamps.get_health (c := .pending) (by simp [healthColumns])
      exact ⟨t', ht', hpend'.trans hrow, hnamed⟩
    · exact ⟨t, (hothers key hkey).trans ht, hpend, hnamed⟩
  · rw [hrf]
    exact ⟨t, ht, hpend, hnamed⟩

/-- The revision state has moved, and no target waits for a new run. -/
def Moved (db db' : Db) : Prop :=
  db' = db ∨ ∃ tr : Transition, tr.startsRun = none ∧ (∀ id, ¬ tr.writes (.app id .lifecycle)) ∧
    db' = step (fun _ => none) db tr

section

variable {db' : Db} (h : Moved db db')
include h

theorem Moved.owned (howned : TargetsOwned db) : TargetsOwned db' := by
  rcases h with rfl | ⟨tr, _, _, rfl⟩
  · exact howned
  · exact targetsOwned_step howned

theorem Moved.live {id : String} (hlive : Live db id) : Live db' id := by
  rcases h with rfl | ⟨tr, _, hwr, rfl⟩
  · exact hlive
  · exact hlive.step (hwr id)

theorem Moved.target (howned : TargetsOwned db) {t : Target} (ht : db.targets.find? key = some t) :
    ∃ t', db'.targets.find? key = some t' := by
  rcases h with rfl | ⟨tr, _, _, rfl⟩
  · exact ⟨t, ht⟩
  · obtain ⟨t', ht', _⟩ := step_target howned ht
    exact ⟨t', ht'⟩

theorem Moved.waiting (howned : TargetsOwned db) (hwaiting : Waiting db' key r) :
    Waiting db key r := by
  rcases h with rfl | ⟨tr, hstarts, _, rfl⟩
  · exact hwaiting
  · obtain ⟨t', ht', hpend, hnamed⟩ := hwaiting
    rcases pending_step howned ht' hpend with ⟨t, ht, hold⟩ | ⟨hnew, _⟩
    · exact ⟨t, ht, hold, hnamed⟩
    · rw [hstarts] at hnew
      cases hnew

end

theorem moved_healthFinalized (db : Db) (args : HealthFinalizedArgs) :
    Moved db (step (fun _ => none) db (.healthFinalized args)) :=
  .inr ⟨.healthFinalized args, rfl, fun id => by simp [writes, appWrites], rfl⟩

theorem moved_healthRunReleased (db : Db) (applicationId : String) (nodeId : Int)
    (healthRunId : String) (envelope : EventEnvelope) :
    Moved db (step (fun _ => none) db
      (.healthRunReleased applicationId nodeId healthRunId envelope)) :=
  .inr ⟨.healthRunReleased applicationId nodeId healthRunId envelope, rfl,
    fun id => by simp [writes, appWrites], rfl⟩

namespace HealthGateService

variable {s s' s₁ s₂ : HealthGateService}
variable {key : TargetKey}

/-- The verdict of a run has been handed over for a target. -/
def Delivered (s : HealthGateService) (key : TargetKey) (r : String) (v : HealthVerdict) :
    Prop :=
  ∃ args ∈ s.delivered, args.healthRunId = r ∧ args.healthStatus = v ∧
    args.applicationId = key.applicationId ∧ args.nodeId = key.nodeId

theorem Delivered.mono {v : HealthVerdict} (h : s.Delivered key r v)
    (hsub : s.delivered ⊆ s'.delivered) : s'.Delivered key r v := by
  obtain ⟨args, hargs, hrest⟩ := h
  exact ⟨args, hsub hargs, hrest⟩

/-- The application and the node a run was reserved for. -/
def ReservedFor (run : HealthGateRun) (key : TargetKey) : Prop :=
  run.applicationId.filter (fun id => id ≠ "") = some key.applicationId ∧ run.nodeId = key.nodeId

/-- What a delivery does to the revision state. -/
def Handed (s s' : HealthGateService) (r : String) : Prop :=
  (s'.gitops = s.gitops ∧ s'.delivered = s.delivered) ∨
    ∃ args, args.healthRunId = r ∧ s'.delivered = args :: s.delivered ∧
      s'.gitops = GitOps.step (fun _ => none) s.gitops (.healthFinalized args)

section

variable {r : String} (h : Handed s s' r)
include h

theorem Handed.moved : Moved s.gitops s'.gitops := by
  rcases h with ⟨heq, _⟩ | ⟨args, _, _, heq⟩
  · exact .inl heq
  · rw [heq]
    exact moved_healthFinalized s.gitops args

theorem Handed.awaits {r' : String} (hne : r' ≠ r) (hawaits : Awaits s.gitops key r') :
    Awaits s'.gitops key r' := by
  rcases h with ⟨heq, _⟩ | ⟨args, hid, _, heq⟩
  · rw [heq]
    exact hawaits
  · rw [heq]
    exact awaits_healthFinalized (by rw [hid]; exact hne) hawaits

theorem Handed.delivered : s.delivered ⊆ s'.delivered := by
  rcases h with ⟨_, heq⟩ | ⟨args, _, heq, _⟩
  · rw [heq]
    exact .refl _
  · rw [heq]
    exact subset_cons_self _ _

end

/-- A delivery either moves nothing, or is one verdict of the run. -/
theorem record_handed (s : HealthGateService) (nodeId : Int) (stackName runId : String)
    (status : HealthVerdict) (now : Int) :
    Handed s (s.recordGitOpsHealthVerdict nodeId stackName runId status now) runId := by
  unfold recordGitOpsHealthVerdict
  cases hget : s.getHealthGateRun nodeId stackName runId with
  | none => exact .inl ⟨rfl, rfl⟩
  | some run =>
    obtain ⟨_, hid, _⟩ := find?_of_getHealthGateRun hget
    dsimp only
    cases (s.runApplication run).filter fun app => app.lifecycleStatus = .active with
    | none => exact .inl ⟨rfl, rfl⟩
    | some app =>
      dsimp only
      cases s.gitops.getTarget app.id nodeId with
      | none => exact .inl ⟨rfl, rfl⟩
      | some t => exact .inr ⟨verdictArgs app run status now, hid, rfl, rfl⟩

/-- A verdict of a run that was reserved for a live target reaches it. -/
theorem record_delivers {run : HealthGateRun} {t : Target} (hrun : s.runs.find? run.id = some run)
    (hfor : ReservedFor run key) (ht : s.gitops.targets.find? key = some t)
    (hlive : Live s.gitops key.applicationId) (status : HealthVerdict) (now : Int) :
    (s.recordGitOpsHealthVerdict run.nodeId run.stackName run.id status now).Delivered key run.id
      status := by
  obtain ⟨app, happ, hactive⟩ := hlive
  obtain ⟨happlication, hnode⟩ := hfor
  have hget : s.getHealthGateRun run.nodeId run.stackName run.id = some run := by
    unfold getHealthGateRun
    rw [hrun]
    simp
  have hresolved : (s.runApplication run).filter (fun app => app.lifecycleStatus = .active) =
      some app := by
    unfold runApplication
    rw [happlication]
    dsimp only
    rw [happ]
    simp [hactive]
  have hid : app.id = key.applicationId := Table.key_of_find? happ
  have htarget : s.gitops.getTarget app.id run.nodeId = some t := by
    rw [hid, hnode]
    exact ht
  unfold recordGitOpsHealthVerdict
  rw [hget]
  dsimp only
  rw [hresolved]
  dsimp only
  rw [htarget]
  exact ⟨_, mem_cons_self, rfl, rfl, hid, hnode⟩

/-- A run has a verdict, which every target that awaited it has been handed and which its
row, where it is still there, shows. -/
def Judged (s s' : HealthGateService) (r : String) : Prop :=
  ∃ v : GateVerdict, (r, v) ∈ s'.verdicts ∧
    (∀ run', s'.runs.find? r = some run' → run'.status = .ended v.status) ∧
    ∀ key, Awaits s.gitops key r → s'.Delivered key r v.status

/-- A run is still observed by its row. -/
def Observing (s : HealthGateService) (r : String) : Prop :=
  ∃ run, s.runs.find? r = some run ∧ run.status = .observing

/-- What a change of the service keeps of its runs. -/
structure Kept (s s' : HealthGateService) : Prop where
  fate : ∀ r, s.Observing r → s'.Observing r ∨ Judged s s' r
  final : ∀ r run v, s.runs.find? r = some run → run.status = .ended v →
    ∀ run', s'.runs.find? r = some run' → run' = run
  waits : ∀ key r, s.Observing r → s'.Observing r → Awaits s.gitops key r → Awaits s'.gitops key r
  owed : ∀ key r run v, s.runs.find? r = some run → run.status = .ended v → Awaits s.gitops key r →
    s'.Delivered key r v ∨ (s'.runs.find? r = some run ∧ Awaits s'.gitops key r)
  gone : ∀ r ∈ s.drawn, s.runs.find? r = none → s'.runs.find? r = none
  drawn : s.drawn ⊆ s'.drawn
  verdicts : s.verdicts ⊆ s'.verdicts
  delivered : s.delivered ⊆ s'.delivered

theorem Observing.drawn (h : s.Observing r) (htidy : Tidy s) : r ∈ s.drawn := by
  obtain ⟨run, hrun, _⟩ := h
  exact htidy.runDrawn r run hrun

/-- Rows that were there, or were deleted, are not written again with another verdict. -/
theorem Kept.ended (h : Kept s s₁) (h' : Kept s₁ s₂) (hdrawn : r ∈ s.drawn) {v : HealthVerdict}
    (hrow : ∀ run, s₁.runs.find? r = some run → run.status = .ended v) {run₂ : HealthGateRun}
    (hrun₂ : s₂.runs.find? r = some run₂) : s₁.runs.find? r = some run₂ := by
  cases hrun₁ : s₁.runs.find? r with
  | none =>
    have hnone := h'.gone r (h.drawn hdrawn) hrun₁
    rw [hnone] at hrun₂
    cases hrun₂
  | some run₁ =>
    have hsame := h'.final r run₁ v hrun₁ (hrow run₁ hrun₁) run₂ hrun₂
    rw [hsame]

theorem Kept.trans (htidy : Tidy s) (h : Kept s s₁) (h' : Kept s₁ s₂) : Kept s s₂ where
  fate := fun r hobs => by
    have hdrawn := hobs.drawn htidy
    rcases h.fate r hobs with hstill | ⟨v, hv, hrow, htold⟩
    · rcases h'.fate r hstill with hstill' | ⟨v, hv, hrow, htold⟩
      · exact .inl hstill'
      · exact .inr ⟨v, hv, hrow, fun key hkey =>
          htold key (h.waits key r hobs hstill hkey)⟩
    · refine .inr ⟨v, h'.verdicts hv, fun run₂ hrun₂ => ?_, fun key hkey =>
        (htold key hkey).mono h'.delivered⟩
      exact hrow run₂ (h.ended h' hdrawn hrow hrun₂)
  final := fun r run v hrun hstat run₂ hrun₂ => by
    have hrow : ∀ run₁, s₁.runs.find? r = some run₁ → run₁.status = .ended v := by
      intro run₁ hrun₁
      rw [h.final r run v hrun hstat run₁ hrun₁]
      exact hstat
    exact h.final r run v hrun hstat run₂ (h.ended h' (htidy.runDrawn r run hrun) hrow hrun₂)
  waits := fun key r hobs hobs₂ hkey => by
    rcases h.fate r hobs with hstill | ⟨v, _, hrow, _⟩
    · exact h'.waits key r hstill hobs₂ (h.waits key r hobs hstill hkey)
    · obtain ⟨run₂, hrun₂, hstat₂⟩ := hobs₂
      have hended := hrow run₂ (h.ended h' (hobs.drawn htidy) hrow hrun₂)
      rw [hended] at hstat₂
      cases hstat₂
  owed := fun key r run v hrun hstat hkey => by
    rcases h.owed key r run v hrun hstat hkey with htold | ⟨hrun₁, hkey₁⟩
    · exact .inl (htold.mono h'.delivered)
    · exact h'.owed key r run v hrun₁ hstat hkey₁
  gone := fun r hr hnone => h'.gone r (h.drawn hr) (h.gone r hr hnone)
  drawn := List.Subset.trans h.drawn h'.drawn
  verdicts := List.Subset.trans h.verdicts h'.verdicts
  delivered := List.Subset.trans h.delivered h'.delivered

/-- A change that writes neither runs nor the revision state. -/
theorem Kept.of_same (hruns : s'.runs = s.runs) (hgitops : s'.gitops = s.gitops)
    (hdrawn : s.drawn ⊆ s'.drawn) (hverdicts : s'.verdicts = s.verdicts)
    (hdelivered : s'.delivered = s.delivered) : Kept s s' where
  fate := fun r hobs => by
    unfold Observing at hobs ⊢
    rw [hruns]
    exact .inl hobs
  final := fun r run v hrun _ run' hrun' => by
    rw [hruns, hrun] at hrun'
    exact (some.inj hrun').symm
  waits := fun key r _ _ hkey => by
    rw [hgitops]
    exact hkey
  owed := fun key r run v hrun _ hkey => by
    rw [hruns, hgitops]
    exact .inr ⟨hrun, hkey⟩
  gone := fun r _ hnone => by
    rw [hruns]
    exact hnone
  drawn := hdrawn
  verdicts := by
    rw [hverdicts]
    exact .refl _
  delivered := by
    rw [hdelivered]
    exact .refl _

/-- Gates observe rows that wait for their verdict, targets wait for runs that were reserved
for them, and a run has got at most one verdict. -/
structure Accounted (s : HealthGateService) : Prop where
  tidy : Tidy s
  owned : TargetsOwned s.gitops
  watched : ∀ r, s.observed r → s.Observing r
  takenDrawn : ∀ r ∈ s.taken, r ∈ s.drawn
  awaited : ∀ key r, Waiting s.gitops key r →
    r ∈ s.drawn ∧ ∀ run, s.runs.find? r = some run → ReservedFor run key
  once : (s.verdicts.map Prod.fst).Nodup
  settled : ∀ r v, (r, v) ∈ s.verdicts → r ∈ s.drawn ∧ ¬ s.Observing r

/-- Every observing row has a gate, or an owner who has yet to arm or abandon it. -/
def Claimed (s : HealthGateService) : Prop :=
  ∀ r run, s.runs.find? r = some run → run.status = .observing →
    s.observed r ∨ (run.reserved ∧ r ∉ s.taken)

theorem Accounted.init : Accounted (init Db.empty) where
  tidy := .init Db.empty
  owned := targetsOwned_empty
  watched := fun r hr => absurd hr not_mem_nil
  takenDrawn := fun r hr => absurd hr not_mem_nil
  awaited := fun key r hwaiting => by
    obtain ⟨t, ht, _⟩ := hwaiting
    cases ht
  once := nodup_nil
  settled := fun r v hmem => absurd hmem not_mem_nil

/-- A change that leaves the runs and the revision state, and observes no other run. -/
theorem Accounted.of_same (h : Accounted s) (htidy : Tidy s') (hruns : s'.runs = s.runs)
    (hgitops : s'.gitops = s.gitops) (hverdicts : s'.verdicts = s.verdicts)
    (hdrawn : s.drawn ⊆ s'.drawn) (hwatched : ∀ r, s'.observed r → s.Observing r)
    (htaken : ∀ r ∈ s'.taken, r ∈ s.drawn) : Accounted s' where
  tidy := htidy
  owned := by
    rw [hgitops]
    exact h.owned
  watched := fun r hr => by
    unfold Observing
    rw [hruns]
    exact hwatched r hr
  takenDrawn := fun r hr => hdrawn (htaken r hr)
  awaited := fun key r hwaiting => by
    rw [hgitops] at hwaiting
    rw [hruns]
    obtain ⟨hmem, hfor⟩ := h.awaited key r hwaiting
    exact ⟨hdrawn hmem, hfor⟩
  once := by
    rw [hverdicts]
    exact h.once
  settled := fun r v hmem => by
    rw [hverdicts] at hmem
    obtain ⟨hdrawn', hended⟩ := h.settled r v hmem
    refine ⟨hdrawn hdrawn', ?_⟩
    unfold Observing
    rw [hruns]
    exact hended

/-- An observing run has got its verdict, and is observed no longer. -/
structure VerdictWritten (s s' : HealthGateService) (r : String) (v : GateVerdict) : Prop where
  observing : s.Observing r
  runs : ∃ now, s'.runs = s.runsWith r v now
  verdicts : s'.verdicts = (r, v) :: s.verdicts
  drawn : s'.drawn = s.drawn
  taken : ∀ r' ∈ s'.taken, r' ∈ s.taken ∨ r' = r
  observed : ∀ r', s'.observed r' → s.observed r' ∧ r' ≠ r
  tidy : Tidy s'
  handed : Handed s s' r

section VerdictWritten

variable {r r' : String} {v : GateVerdict}

section

variable (h : VerdictWritten s s' r v)
include h

namespace VerdictWritten

theorem others (hne : r' ≠ r) : s'.runs.find? r' = s.runs.find? r' := by
  obtain ⟨now, hruns⟩ := h.runs
  rw [hruns, find?_runsWith]
  cases hrun : s.runs.find? r' with
  | none => rfl
  | some run =>
    have hid : run.id = r' := Table.key_of_find? hrun
    rw [map_some, if_neg (by rw [hid]; exact hne)]

theorem row {run' : HealthGateRun} (hrun' : s'.runs.find? r = some run') :
    run'.status = .ended v.status ∧
      ∃ run, s.runs.find? r = some run ∧ run'.applicationId = run.applicationId ∧
        run'.nodeId = run.nodeId := by
  obtain ⟨now, hruns⟩ := h.runs
  rw [hruns, find?_runsWith] at hrun'
  obtain ⟨run, hrun, heq⟩ := map_eq_some_iff.mp hrun'
  have hid : run.id = r := Table.key_of_find? hrun
  rw [if_pos hid] at heq
  rw [← heq]
  exact ⟨rfl, run, hrun, rfl, rfl⟩

theorem observing_others : s'.Observing r' ↔ s.Observing r' ∧ r' ≠ r := by
  unfold Observing
  constructor
  · rintro ⟨run', hrun', hstat⟩
    have hne : r' ≠ r := by
      rintro rfl
      rw [(h.row hrun').1] at hstat
      cases hstat
    rw [h.others hne] at hrun'
    exact ⟨⟨run', hrun', hstat⟩, hne⟩
  · rintro ⟨hobs, hne⟩
    rw [h.others hne]
    exact hobs

theorem ended_ne {run : HealthGateRun} {v' : HealthVerdict}
    (hrun : s.runs.find? r' = some run) (hstat : run.status = .ended v') : r' ≠ r := by
  rintro rfl
  obtain ⟨run₀, hrun₀, hobs⟩ := h.observing
  rw [hrun] at hrun₀
  cases hrun₀
  rw [hstat] at hobs
  cases hobs

/-- A verdict is written once, and handed to every target that awaits it. -/
theorem kept (htold : ∀ key, Awaits s.gitops key r → s'.Delivered key r v.status) :
    Kept s s' where
  fate := fun r' hobs => by
    by_cases hr : r' = r
    · subst hr
      refine .inr ⟨v, ?_, fun run' hrun' => (h.row hrun').1, htold⟩
      rw [h.verdicts]
      exact mem_cons_self
    · exact .inl (h.observing_others.mpr ⟨hobs, hr⟩)
  final := fun r' run v' hrun hstat run' hrun' => by
    rw [h.others (h.ended_ne hrun hstat), hrun] at hrun'
    exact (some.inj hrun').symm
  waits := fun key r' _ hstill hkey =>
    h.handed.awaits (h.observing_others.mp hstill).2 hkey
  owed := fun key r' run v' hrun hstat hkey => by
    have hne := h.ended_ne hrun hstat
    rw [h.others hne]
    exact .inr ⟨hrun, h.handed.awaits hne hkey⟩
  gone := fun r' _ hnone => by
    have hne : r' ≠ r := by
      rintro rfl
      obtain ⟨run₀, hrun₀, _⟩ := h.observing
      rw [hnone] at hrun₀
      cases hrun₀
    rw [h.others hne]
    exact hnone
  drawn := by
    rw [h.drawn]
    exact .refl _
  verdicts := by
    rw [h.verdicts]
    exact subset_cons_self _ _
  delivered := h.handed.delivered

theorem accounted (hs : Accounted s) : Accounted s' where
  tidy := h.tidy
  owned := h.handed.moved.owned hs.owned
  watched := fun r' hr' => by
    obtain ⟨hwas, hne⟩ := h.observed r' hr'
    exact h.observing_others.mpr ⟨hs.watched r' hwas, hne⟩
  takenDrawn := fun r' hr' => by
    rw [h.drawn]
    rcases h.taken r' hr' with hold | rfl
    · exact hs.takenDrawn r' hold
    · exact h.observing.drawn hs.tidy
  awaited := fun key r' hwaiting => by
    obtain ⟨hdrawn, hfor⟩ := hs.awaited key r' (h.handed.moved.waiting hs.owned hwaiting)
    rw [h.drawn]
    refine ⟨hdrawn, fun run' hrun' => ?_⟩
    by_cases hr : r' = r
    · subst hr
      obtain ⟨_, run, hrun, happlication, hnode⟩ := h.row hrun'
      obtain ⟨hforApplication, hforNode⟩ := hfor run hrun
      unfold ReservedFor
      rw [happlication, hnode]
      exact ⟨hforApplication, hforNode⟩
    · rw [h.others hr] at hrun'
      exact hfor run' hrun'
  once := by
    rw [h.verdicts]
    refine nodup_cons.mpr ⟨fun hmem => ?_, hs.once⟩
    obtain ⟨⟨r', v'⟩, hold, heq⟩ := mem_map.mp hmem
    subst heq
    exact (hs.settled r' v' hold).2 h.observing
  settled := fun r' v' hmem => by
    rw [h.verdicts] at hmem
    rw [h.drawn]
    rcases mem_cons.mp hmem with heq | hold
    · cases heq
      exact ⟨h.observing.drawn hs.tidy, fun hstill => (h.observing_others.mp hstill).2 rfl⟩
    · obtain ⟨hdrawn, hended⟩ := hs.settled r' v' hold
      exact ⟨hdrawn, fun hstill => hended (h.observing_others.mp hstill).1⟩

theorem claimed (hs : Claimed s)
    (hobserved : ∀ r', s.observed r' → r' ≠ r → s'.observed r') : Claimed s' := by
  intro r' run' hrun' hstat
  obtain ⟨_, hne⟩ := h.observing_others.mp ⟨run', hrun', hstat⟩
  rw [h.others hne] at hrun'
  rcases hs r' run' hrun' hstat with hgate | ⟨hreserved, hfree⟩
  · exact .inl (hobserved r' hgate hne)
  · refine .inr ⟨hreserved, fun htaken => ?_⟩
    rcases h.taken r' htaken with hold | heq
    · exact hfree hold
    · exact hne heq

end VerdictWritten

end

end VerdictWritten

/-- A verdict written under some gates and reservations, and handed over. -/
theorem verdictWritten_record {closed : HealthGateService} {run : HealthGateRun}
    (v : GateVerdict) (now : Int) (hrun : s.runs.find? run.id = some run)
    (hstat : run.status = .observing) (hruns : closed.runs = s.runs)
    (hgitops : closed.gitops = s.gitops) (hdelivered : closed.delivered = s.delivered)
    (hverdicts : closed.verdicts = s.verdicts) (hdrawn : closed.drawn = s.drawn)
    (htaken : ∀ r ∈ closed.taken, r ∈ s.taken ∨ r = run.id)
    (hobserved : ∀ r, closed.observed r → s.observed r ∧ r ≠ run.id) (htidy : Tidy closed) :
    let s' := (closed.finalizeHealthGateRun run.id v now).recordGitOpsHealthVerdict run.nodeId
      run.stackName run.id v.status now
    VerdictWritten s s' run.id v ∧ ∀ key, Awaits s.gitops key run.id → ReservedFor run key →
        s'.Delivered key run.id v.status := by
  intro s'
  have hwritten : (closed.finalizeHealthGateRun run.id v now).runs = s.runsWith run.id v now := by
    unfold runsWith finalizeHealthGateRun
    rw [hruns]
  obtain ⟨db, delivered, heq⟩ := recordGitOpsHealthVerdict_eq
    (closed.finalizeHealthGateRun run.id v now) run.nodeId run.stackName run.id v.status now
  have hhanded := record_handed (closed.finalizeHealthGateRun run.id v now) run.nodeId
    run.stackName run.id v.status now
  refine ⟨⟨⟨run, hrun, hstat⟩, ⟨now, ?_⟩, ?_, ?_, ?_, ?_, ?_, ?_⟩, fun key hawaits hfor => ?_⟩
  · show runs (recordGitOpsHealthVerdict _ _ _ _ _ _) = _
    rw [heq]
    exact hwritten
  · show verdicts (recordGitOpsHealthVerdict _ _ _ _ _ _) = _
    rw [heq, ← hverdicts]
    rfl
  · show drawn (recordGitOpsHealthVerdict _ _ _ _ _ _) = _
    rw [heq]
    exact hdrawn
  · intro r' hr'
    change r' ∈ taken (recordGitOpsHealthVerdict _ _ _ _ _ _) at hr'
    rw [heq] at hr'
    exact htaken r' hr'
  · intro r' hr'
    change observed (recordGitOpsHealthVerdict _ _ _ _ _ _) r' at hr'
    rw [heq] at hr'
    exact hobserved r' hr'
  · show Tidy (recordGitOpsHealthVerdict _ _ _ _ _ _)
    have hfinal := htidy.finalizeHealthGateRun run.id v now
    rw [heq]
    exact hfinal.of_fewer (.refl _) (.refl _) (runsFrom_of_eq rfl)
  · unfold Handed at hhanded ⊢
    rw [← hgitops, ← hdelivered]
    exact hhanded
  · obtain ⟨⟨t, ht, _⟩, hlive⟩ := hawaits
    have hfound : (closed.finalizeHealthGateRun run.id v now).runs.find?
        (run.finalized v now).id = some (run.finalized v now) := by
      rw [hwritten, find?_runsWith, HealthGateRun.finalized_id, hrun, map_some, if_pos rfl]
    rw [← hgitops] at ht hlive
    exact record_delivers hfound hfor ht hlive v.status now

/-- A change of an accounted state that keeps its runs and their accounts. -/
structure Sound (s s' : HealthGateService) : Prop where
  kept : Kept s s'
  accounted : Accounted s'
  claimed : Claimed s → Claimed s'

/-- A change of nothing that runs are told by. -/
theorem Sound.same (hs : Accounted s) (hfaces : s'.faces = s.faces) (hruns : s'.runs = s.runs)
    (hgitops : s'.gitops = s.gitops) (hverdicts : s'.verdicts = s.verdicts)
    (hdelivered : s'.delivered = s.delivered) (htaken : s'.taken = s.taken)
    (hdrawn : s.drawn ⊆ s'.drawn) : Sound s s' := by
  have htidy : Tidy s' :=
    hs.tidy.of_fewer (by rw [hfaces]) hdrawn (runsFrom_of_eq hruns)
  refine ⟨.of_same hruns hgitops hdrawn hverdicts hdelivered,
    hs.of_same htidy hruns hgitops hverdicts hdrawn (fun r hr => ?_) fun r hr => ?_,
    fun hclaimed r run hrun hstat => ?_⟩
  · unfold observed at hr
    rw [hfaces] at hr
    exact hs.watched r hr
  · rw [htaken] at hr
    exact hs.takenDrawn r hr
  · rw [hruns] at hrun
    unfold observed
    rw [hfaces, htaken]
    exact hclaimed r run hrun hstat

theorem Sound.refl (h : Accounted s) : Sound s s :=
  .same h rfl rfl rfl rfl rfl rfl (.refl _)

section

variable (hs : Accounted s)
include hs

theorem Sound.trans (h : Sound s s₁) (h' : Sound s₁ s₂) : Sound s s₂ :=
  ⟨h.kept.trans hs.tidy h'.kept, h'.accounted, fun hclaimed => h'.claimed (h.claimed hclaimed)⟩

theorem Sound.quiet (h : Quiet s s') : Sound s s' :=
  .same hs h.faces h.runs h.gitops h.verdicts h.delivered h.taken h.drawn

theorem Accounted.endGate (runId : String) (v : GateVerdict) (now : Int) :
    Sound s (s.endGate runId v now) := by
  cases hfind : s.active.find? fun g => g.runId = runId with
  | none =>
    rw [endGate_of_not_active hfind]
    exact .refl hs
  | some g =>
    obtain ⟨hg, hid⟩ := mem_key_of_find? hfind
    subst hid
    obtain ⟨run, hrun, hstat⟩ := hs.watched g.runId (observed_of_active hg)
    have hrunId : run.id = g.runId := Table.key_of_find? hrun
    have hkey : run.key = g.key := hs.tidy.agrees _ _ _ (mem_faces_of_active hg) hrun
    have hnode : run.nodeId = g.nodeId := congrArg GateKey.nodeId hkey
    have hstack : run.stackName = g.stackName := congrArg GateKey.stackName hkey
    let closed : HealthGateService :=
      { s with
        active := s.active.filter fun g' => g'.runId ≠ g.runId
        suppressedServices := s.released g }
    have hend : s.endGate g.runId v now =
        (closed.finalizeHealthGateRun run.id v now).recordGitOpsHealthVerdict run.nodeId
          run.stackName run.id v.status now := by
      unfold HealthGateService.endGate
      rw [hfind, hrunId, hnode, hstack]
      dsimp only [closed]
      unfold released
      cases g.suppressKey with
      | none => rfl
      | some key => rfl
    have hobserved : ∀ r, closed.observed r → s.observed r ∧ r ≠ run.id := by
      intro r hr
      unfold observed at hr ⊢
      obtain ⟨face, hface, rfl⟩ := mem_map.mp hr
      have hmem : face ∈ s.faces.filter fun face => face.1 ≠ g.runId := by
        rw [← faces_filter]
        exact hface
      obtain ⟨hold, hne⟩ := mem_filter.mp hmem
      rw [hrunId]
      exact ⟨mem_map.mpr ⟨face, hold, rfl⟩, by simpa using hne⟩
    have htidy : Tidy closed := by
      refine hs.tidy.of_fewer ?_ (.refl _) (runsFrom_of_eq rfl)
      have hgates : closed.active.Sublist s.active := filter_sublist
      exact hgates.map fun g' => (g'.runId, g'.key)
    obtain ⟨hwritten, htold⟩ := @verdictWritten_record s closed run v now
      (by rw [hrunId]; exact hrun) hstat rfl rfl rfl rfl rfl (fun r hr => .inl hr) hobserved
      htidy
    rw [← hend] at hwritten htold
    refine ⟨hwritten.kept fun key hkey' => ?_, hwritten.accounted hs, fun hclaimed =>
      hwritten.claimed hclaimed fun r hr hne => ?_⟩
    · have hwaiting := hkey'.1
      rw [hrunId] at hwaiting
      exact htold key hkey' ((hs.awaited key g.runId hwaiting).2 run hrun)
    · rw [hrunId] at hne
      exact observed_endGate v now hne hr

theorem Accounted.endings (h : Endings s s') : Sound s s' := by
  induction h with
  | refl => exact .refl hs
  | tail _ hstep ih =>
    have hnext := ih.accounted
    cases hstep with
    | quiet hq => exact ih.trans hs (.quiet hnext hq)
    | ended runId v now => exact ih.trans hs (hnext.endGate runId v now)

end

/-- A run is observed, or some target waits for its verdict and has not been handed it. -/
def Owed (s : HealthGateService) (run : HealthGateRun) : Prop :=
  run.status = .observing ∨
    ∃ key v, Awaits s.gitops key run.id ∧ run.status = .ended v ∧ ¬ s.Delivered key run.id v

/-- The prune after an insert takes no run whose verdict is still owed. -/
def Spares (s : HealthGateService) (run : HealthGateRun) : Prop :=
  ∀ r ∈ run :: s.runs.rows, s.prunes run r = true → ¬ s.Owed r

variable {gate : Option ActiveGate}

section

variable {run : HealthGateRun} (h : Inserted s s' run gate)
include h

namespace Inserted

theorem old (hr : r ∈ s.drawn) :
    s'.runs.find? r = (s.runs.find? r).filter fun r => !s.prunes run r := by
  have hne : r ≠ run.id := fun heq => h.fresh (heq ▸ hr)
  rw [h.runs r, if_neg hne]

theorem old_some (hr : r ∈ s.drawn) {run' : HealthGateRun}
    (hrun' : s'.runs.find? r = some run') : s.runs.find? r = some run' := by
  rw [h.old hr] at hrun'
  exact (filter_eq_some_iff.mp hrun').1

theorem owed (hspares : s.Spares run) (hr : r ∈ s.drawn)
    {run' : HealthGateRun} (hrun' : s.runs.find? r = some run') (howed : s.Owed run') :
    s'.runs.find? r = some run' := by
  have hmem : run' ∈ s.runs.rows := ((s.runs.find?_eq_some_iff r run').mp hrun').1
  have hstays : s.prunes run run' = false := by
    cases hprunes : s.prunes run run' with
    | false => rfl
    | true => exact absurd howed (hspares run' (mem_cons_of_mem _ hmem) hprunes)
  rw [h.old hr, hrun', filter_some, hstays]
  rfl

theorem observing (hspares : s.Spares run) (hr : r ∈ s.drawn)
    (hobs : s.Observing r) : s'.Observing r := by
  obtain ⟨run', hrun', hstat⟩ := hobs
  exact ⟨run', h.owed hspares hr hrun' (.inl hstat), hstat⟩

theorem kept (hs : Accounted s) (hspares : s.Spares run) : Kept s s' where
  fate := fun r hobs =>
    .inl (h.observing hspares (hobs.drawn hs.tidy) hobs)
  final := fun r run₀ v hrun _ run' hrun' => by
    have hold := h.old_some (hs.tidy.runDrawn r run₀ hrun) hrun'
    rw [hrun] at hold
    exact (some.inj hold).symm
  waits := fun key r _ _ hkey => by
    rw [h.gitops]
    exact hkey
  owed := fun key r run' v hrun' hstat hkey => by
    have hid : run'.id = r := Table.key_of_find? hrun'
    by_cases htold : s.Delivered key r v
    · exact .inl (htold.mono (by rw [h.delivered]; exact .refl _))
    · have howed : s.Owed run' := .inr ⟨key, v, by rw [hid]; exact hkey, hstat, by
        rw [hid]
        exact htold⟩
      rw [h.gitops]
      exact .inr ⟨h.owed hspares (hs.tidy.runDrawn r run' hrun') hrun' howed, hkey⟩
  gone := fun r hr hnone => by
    rw [h.old hr, hnone]
    rfl
  drawn := by
    rw [h.drawn]
    exact subset_cons_self _ _
  verdicts := by
    rw [h.verdicts]
    exact .refl _
  delivered := by
    rw [h.delivered]
    exact .refl _

/-- The run just written, where it is observed. -/
theorem found (hspares : s.Spares run) (hstat : run.status = .observing) :
    s'.runs.find? run.id = some run := by
  have hstays : s.prunes run run = false := by
    cases hprunes : s.prunes run run with
    | false => rfl
    | true => exact absurd (.inl hstat) (hspares run mem_cons_self hprunes)
  rw [h.runs run.id, if_pos rfl, filter_some, hstays]
  rfl

theorem observed (r : String) : s'.observed r ↔ s.observed r ∨ (r = run.id ∧ gate.isSome) := by
  unfold HealthGateService.observed
  rw [h.faces, map_append, mem_append]
  refine or_congr_right ?_
  cases gate with
  | none => simp
  | some g =>
    have hid := (h.gate_eq g rfl).1
    simp [hid]

theorem accounted (hs : Accounted s) (hspares : s.Spares run) : Accounted s' where
  tidy := hs.tidy.inserted h
  owned := by
    rw [h.gitops]
    exact hs.owned
  watched := fun r hr => by
    rcases (h.observed r).mp hr with hold | ⟨rfl, hgate⟩
    · have hobs := hs.watched r hold
      exact h.observing hspares (hobs.drawn hs.tidy) hobs
    · obtain ⟨g, hg⟩ := isSome_iff_exists.mp hgate
      have hstat := (h.gate_eq g hg).2.2.1
      exact ⟨run, h.found hspares hstat, hstat⟩
  takenDrawn := fun r hr => by
    rw [h.taken] at hr
    rw [h.drawn]
    exact mem_cons_of_mem _ (hs.takenDrawn r hr)
  awaited := fun key r hwaiting => by
    rw [h.gitops] at hwaiting
    obtain ⟨hdrawn, hfor⟩ := hs.awaited key r hwaiting
    rw [h.drawn]
    exact ⟨mem_cons_of_mem _ hdrawn, fun run' hrun' => hfor run' (h.old_some hdrawn hrun')⟩
  once := by
    rw [h.verdicts]
    exact hs.once
  settled := fun r v hmem => by
    rw [h.verdicts] at hmem
    obtain ⟨hdrawn, hended⟩ := hs.settled r v hmem
    rw [h.drawn]
    refine ⟨mem_cons_of_mem _ hdrawn, fun hstill => hended ?_⟩
    obtain ⟨run', hrun', hstat⟩ := hstill
    exact ⟨run', h.old_some hdrawn hrun', hstat⟩

theorem claimed (hs : Accounted s) (hclaimed : Claimed s) : Claimed s' := by
  intro r run' hrun' hstat
  rw [h.taken]
  by_cases hr : r = run.id
  · subst hr
    rw [h.runs run.id, if_pos rfl] at hrun'
    obtain ⟨heq, _⟩ := filter_eq_some_iff.mp hrun'
    cases heq
    cases hgate : gate with
    | some g => exact .inl ((h.observed run.id).mpr (.inr ⟨rfl, by rw [hgate]; rfl⟩))
    | none =>
      rcases h.unobserved hgate with hended | hreserved
      · exact absurd hstat hended
      · exact .inr ⟨hreserved, fun htaken => h.fresh (hs.takenDrawn _ htaken)⟩
  · rw [h.runs r, if_neg hr] at hrun'
    obtain ⟨hold, _⟩ := filter_eq_some_iff.mp hrun'
    rcases hclaimed r run' hold hstat with hgate | hreserved
    · exact .inl ((h.observed r).mpr (.inl hgate))
    · exact .inr hreserved

end Inserted

end

theorem Accounted.inserted {run : HealthGateRun} (hs : Accounted s) (h : Inserted s s' run gate)
    (hspares : s.Spares run) : Sound s s' :=
  ⟨h.kept hs hspares, h.accounted hs hspares, h.claimed hs⟩

theorem Armed.observed {run : HealthGateRun} {g : ActiveGate} (h : Armed s s' run g)
    (r : String) : s'.observed r ↔ s.observed r ∨ r = run.id := by
  obtain ⟨hid, _⟩ := h.gate_eq
  have hfaces : s'.faces = s.faces ++ [(g.runId, g.key)] := by
    rw [h.eq]
    simp [faces]
  unfold HealthGateService.observed
  rw [hfaces, map_append, mem_append]
  simp [hid]

theorem Accounted.armed {run : HealthGateRun} {g : ActiveGate} (hs : Accounted s)
    (h : Armed s s' run g) : Sound s s' := by
  have hruns : s'.runs = s.runs := by rw [h.eq]
  have hgitops : s'.gitops = s.gitops := by rw [h.eq]
  have hverdicts : s'.verdicts = s.verdicts := by rw [h.eq]
  have hdelivered : s'.delivered = s.delivered := by rw [h.eq]
  have hdrawn : s'.drawn = s.drawn := by rw [h.eq]
  have htaken : s'.taken = run.id :: s.taken := by rw [h.eq]
  have hsub : s.drawn ⊆ s'.drawn := by
    rw [hdrawn]
    exact .refl _
  refine ⟨.of_same hruns hgitops hsub hverdicts hdelivered,
    hs.of_same (hs.tidy.armed h) hruns hgitops hverdicts hsub (fun r hr => ?_) fun r hr => ?_,
    fun hclaimed r run' hrun' hstat => ?_⟩
  · rcases (h.observed r).mp hr with hold | rfl
    · exact hs.watched r hold
    · exact ⟨run, h.found, h.observing⟩
  · rw [htaken] at hr
    rcases mem_cons.mp hr with rfl | hold
    · exact hs.tidy.runDrawn _ _ h.found
    · exact hs.takenDrawn r hold
  · rw [hruns] at hrun'
    by_cases hr : r = run.id
    · exact .inl ((h.observed r).mpr (.inr hr))
    · rcases hclaimed r run' hrun' hstat with hgate | ⟨hreserved, hfree⟩
      · exact .inl ((h.observed r).mpr (.inl hgate))
      · refine .inr ⟨hreserved, ?_⟩
        rw [htaken]
        exact not_mem_cons_of_ne_of_not_mem hr hfree

/-- A verdict for a run without a gate. -/
theorem Accounted.finalizePersistedRun (hs : Accounted s) {run : HealthGateRun}
    (hrun : s.runs.find? run.id = some run) (hstat : run.status = .observing)
    (hunobserved : ¬ s.observed run.id) (taken : List String)
    (htaken : ∀ r ∈ taken, r ∈ s.taken ∨ r = run.id) (reason : String) (now : Int) :
    ∃ v, VerdictWritten s ({ s with taken := taken }.finalizePersistedRun run reason now) run.id v ∧
      Sound s ({ s with taken := taken }.finalizePersistedRun run reason now) := by
  have htidy : Tidy { s with taken := taken } :=
    hs.tidy.of_fewer (.refl _) (.refl _) (runsFrom_of_eq rfl)
  have hobserved : ∀ r, ({ s with taken := taken } : HealthGateService).observed r →
      s.observed r ∧ r ≠ run.id := by
    intro r hr
    refine ⟨hr, ?_⟩
    rintro rfl
    exact hunobserved hr
  obtain ⟨hwritten, htold⟩ := @verdictWritten_record s { s with taken := taken } run
    ⟨.unknown, some reason, run.containers, none⟩ now hrun hstat rfl rfl rfl rfl rfl htaken
    hobserved htidy
  obtain ⟨db, delivered, heq⟩ := finalizePersistedRun_eq { s with taken := taken } run reason now
  refine ⟨_, hwritten, hwritten.kept fun key hkey =>
    htold key hkey ((hs.awaited key run.id hkey.1).2 run hrun), hwritten.accounted hs,
    fun hclaimed => hwritten.claimed hclaimed fun r hr _ => ?_⟩
  have hsame : ({ s with taken := taken }.finalizePersistedRun run reason now).observed r := by
    rw [heq]
    exact hr
  exact hsame

end HealthGateService

end Sencho.HealthGate

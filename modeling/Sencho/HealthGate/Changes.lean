import Mathlib.Logic.Relation
import Sencho.HealthGate.Calls

/-!
# What a call changes

Gates end one at a time, whichever call ends them; a call then writes at most one new
run, and opens at most one new gate.  Every call but a start, a stop, a crash and a
transition of the revision state is such a sequence.
-/

namespace Sencho.HealthGate

open Verified GitOps List Option Table

/-- What a run is about. -/
def HealthGateRun.key (run : HealthGateRun) : GateKey :=
  ⟨run.nodeId, run.stackName, run.targetScope, run.serviceName⟩

/-- The service whose Auto-Heal suppression a gate with a key owns. -/
def GateKey.suppressKey (key : GateKey) : Option SuppressKey :=
  match key.scope, key.serviceName.filter fun name => name ≠ "" with
  | .service, some serviceName => some ⟨key.nodeId, key.stackName, serviceName⟩
  | _, _ => none

theorem ActiveGate.suppressKey_eq (g : ActiveGate) : g.suppressKey = g.key.suppressKey := rfl

/-- A run is claimed for an owner that will arm or abandon it. -/
def HealthGateRun.reserved (run : HealthGateRun) : Prop :=
  run.trigger = .recovery ∨ run.trigger = .rollout

/-- The calls that neither start nor end the process, nor move the revision state. -/
def HealthGateCall.ordinary : HealthGateCall → Bool
  | .stop _ | .start _ | .crash _ _ | .gitops _ _ => false
  | _ => true

variable {opened : HealthGateService × Bool}

namespace HealthGateService

variable {s s' s₁ s₂ : HealthGateService}
variable {g gate : ActiveGate} {settings : GateSettings} {call : HealthGateCall}
  {run : HealthGateRun} {nodeId : Int} {actor : Option String} {runId stackName : String}
  (token : String) (named : List String)

/-- The runs that are observed, each with what its gate is about. -/
def faces (s : HealthGateService) : List (String × GateKey) :=
  s.active.map fun g => (g.runId, g.key)

/-- The suppressions once a gate has given up its own. -/
def released (s : HealthGateService) (g : ActiveGate) : SuppressKey → Nat :=
  match g.suppressKey with
  | none => s.suppressedServices
  | some key => (s.clearSuppress key).suppressedServices

/-- The prepare tokens that may still begin, each with its service. -/
def tokens (s : HealthGateService) : List (String × SuppressKey) :=
  (s.preparing.map fun p => (p.token, ⟨p.nodeId, p.stackName, p.serviceName⟩)) ++
    s.prepared.map fun p => (p.token, ⟨p.nodeId, p.stackName, p.serviceName⟩)

theorem mem_faces {r : String} {key : GateKey} :
    (r, key) ∈ s.faces ↔ ∃ g ∈ s.active, g.runId = r ∧ g.key = key := by
  simp [faces]

theorem mem_faces_of_active (h : g ∈ s.active) : (g.runId, g.key) ∈ s.faces :=
  mem_faces.mpr ⟨g, h, rfl, rfl⟩

/-! ## Writes -/

/-- A delivery writes the revision state and the record of deliveries only. -/
theorem recordGitOpsHealthVerdict_eq (s : HealthGateService) (nodeId : Int)
    (stackName runId : String) (status : HealthVerdict) (now : Int) :
    ∃ db delivered, s.recordGitOpsHealthVerdict nodeId stackName runId status now =
      { s with gitops := db, delivered := delivered } := by
  unfold recordGitOpsHealthVerdict
  cases s.getHealthGateRun nodeId stackName runId with
  | none => exact ⟨s.gitops, s.delivered, rfl⟩
  | some run =>
    dsimp only
    cases (s.runApplication run).filter fun app => app.lifecycleStatus = .active with
    | none => exact ⟨s.gitops, s.delivered, rfl⟩
    | some app =>
      dsimp only
      cases s.gitops.getTarget app.id nodeId with
      | none => exact ⟨s.gitops, s.delivered, rfl⟩
      | some t => exact ⟨_, _, rfl⟩

/-- The runs with a verdict written. -/
def runsWith (s : HealthGateService) (id : String) (v : GateVerdict) (endedAt : Int) :
    Table HealthGateRun String HealthGateRun.id :=
  (s.finalizeHealthGateRun id v endedAt).runs

theorem find?_runsWith (s : HealthGateService) (id : String) (v : GateVerdict) (endedAt : Int)
    (r : String) :
    (s.runsWith id v endedAt).find? r =
      (s.runs.find? r).map fun run => if run.id = id then run.finalized v endedAt else run := by
  have hread := find?_update s.runs (fun run => run.id = id)
    (fun run => run.finalized v endedAt) (fun run => run.finalized_id v endedAt) r
  simp only [decide_eq_true_eq] at hread
  exact hread

theorem finalizePersistedRun_eq (s : HealthGateService) (run : HealthGateRun) (reason : String)
    (now : Int) :
    ∃ db delivered, s.finalizePersistedRun run reason now = { s with
        runs := s.runsWith run.id ⟨.unknown, some reason, run.containers, none⟩ now
        verdicts := (run.id, ⟨.unknown, some reason, run.containers, none⟩) :: s.verdicts
        gitops := db
        delivered := delivered } := by
  obtain ⟨db, delivered, h⟩ := recordGitOpsHealthVerdict_eq
    (s.finalizeHealthGateRun run.id ⟨.unknown, some reason, run.containers, none⟩ now)
    run.nodeId run.stackName run.id .unknown now
  exact ⟨db, delivered, h⟩

/-- What the end of a gate writes. -/
theorem endGate_of_active (h : s.active.find? (fun g => g.runId = runId) = some g) (v : GateVerdict)
    (now : Int) :
    ∃ db delivered, s.endGate runId v now = { s with
        active := s.active.filter fun g => g.runId ≠ runId
        verdicts := (runId, v) :: s.verdicts
        suppressedServices := s.released g
        runs := s.runsWith runId v now
        gitops := db
        delivered := delivered } := by
  let closed : HealthGateService :=
    { s with
      active := s.active.filter fun g => g.runId ≠ runId
      suppressedServices := s.released g }
  obtain ⟨db, delivered, hrecord⟩ := recordGitOpsHealthVerdict_eq
    (closed.finalizeHealthGateRun runId v now) g.nodeId g.stackName runId v.status now
  refine ⟨db, delivered, Eq.trans ?_ hrecord⟩
  unfold endGate
  rw [h]
  dsimp only [closed]
  unfold released
  cases g.suppressKey with
  | none | some key => rfl

theorem endGate_of_not_active (h : s.active.find? (fun g => g.runId = runId) = none)
    (v : GateVerdict) (now : Int) : s.endGate runId v now = s := by
  unfold endGate
  rw [h]

/-! ## Changes -/

/-- Nothing about gates, runs, suppressions or deliveries has changed. -/
structure Quiet (s s' : HealthGateService) : Prop where
  faces : s'.faces = s.faces
  runs : s'.runs = s.runs
  suppressed : s'.suppressedServices = s.suppressedServices
  started : s'.started = s.started
  gitops : s'.gitops = s.gitops
  delivered : s'.delivered = s.delivered
  taken : s'.taken = s.taken
  verdicts : s'.verdicts = s.verdicts
  drawn : s.drawn ⊆ s'.drawn
  tokens : ∀ x ∈ s'.tokens, x ∈ s.tokens ∨ (x.1 ∉ s.drawn ∧ x.1 ∈ s'.drawn)

/-- Tokens that were prepared stay about what they were about. -/
theorem tokens_of_prepared (hpreparing : s'.preparing = s.preparing)
    (hprepared : ∀ p ∈ s'.prepared, ∃ q ∈ s.prepared,
      (q.token, (⟨q.nodeId, q.stackName, q.serviceName⟩ : SuppressKey)) =
        (p.token, ⟨p.nodeId, p.stackName, p.serviceName⟩)) :
    ∀ x ∈ s'.tokens, x ∈ s.tokens ∨ (x.1 ∉ s.drawn ∧ x.1 ∈ s'.drawn) := by
  intro x hx
  unfold tokens at hx ⊢
  rw [hpreparing] at hx
  rcases mem_append.mp hx with hold | hnew
  · exact .inl (mem_append_left _ hold)
  · obtain ⟨p, hp, rfl⟩ := mem_map.mp hnew
    obtain ⟨q, hq, heq⟩ := hprepared p hp
    exact .inl (mem_append_right _ (mem_map.mpr ⟨q, hq, heq⟩))

theorem Quiet.refl (s : HealthGateService) : Quiet s s :=
  ⟨rfl, rfl, rfl, rfl, rfl, rfl, rfl, rfl, .refl _, fun _ h => .inl h⟩

/-- A change that opens nothing: a quiet one, or the end of a gate. -/
inductive Ending (s : HealthGateService) : HealthGateService → Prop where
  | quiet {t : HealthGateService} (h : Quiet s t) : Ending s t
  | ended (runId v now) : Ending s (s.endGate runId v now)

/-- Changes that open nothing. -/
def Endings : HealthGateService → HealthGateService → Prop := Relation.ReflTransGen Ending

theorem Endings.trans (h : Endings s s₁) (h' : Endings s₁ s₂) : Endings s s₂ :=
  Relation.ReflTransGen.trans h h'

theorem Quiet.endings (h : Quiet s s') : Endings s s' := .single (.quiet h)

theorem endings_endGate (runId : String) (v : GateVerdict) (now : Int) :
    Endings s (s.endGate runId v now) := .single (.ended runId v now)

theorem endings_foldl {α : Type} {f : HealthGateService → α → HealthGateService}
    (hf : ∀ s a, Endings s (f s a)) (as : List α) (s : HealthGateService) :
    Endings s (as.foldl f s) :=
  foldlRecOn as f .refl fun t ht a _ => ht.trans (hf t a)

theorem endings_endGates (p : ActiveGate → Bool) (reason : String) (now : Int) :
    Endings s (s.endGates p reason now) :=
  endings_foldl (fun _ _ => endings_endGate _ _ _) _ _

/-! ## Gates and runs -/

/-- No run is observed twice, what is drawn stays drawn, and a gate is about what its
run says. -/
structure Tidy (s : HealthGateService) : Prop where
  distinct : (s.faces.map Prod.fst).Nodup
  gateDrawn : ∀ r key, (r, key) ∈ s.faces → r ∈ s.drawn
  runDrawn : ∀ r run, s.runs.find? r = some run → r ∈ s.drawn
  agrees : ∀ r key run, (r, key) ∈ s.faces → s.runs.find? r = some run → run.key = key
  unnamed : ∀ r run, s.runs.find? r = some run → run.key.scope = .stack → run.key.serviceName = none

theorem Tidy.init (gitops : Db) : Tidy (init gitops) where
  distinct := nodup_nil
  gateDrawn := fun _ _ h => absurd h not_mem_nil
  runDrawn := fun _ _ h => by simp [HealthGateService.init] at h
  agrees := fun _ _ _ h => absurd h not_mem_nil
  unnamed := fun _ _ h => by simp [HealthGateService.init] at h

theorem Tidy.active_nodup (h : Tidy s) : (s.active.map fun g => g.runId).Nodup := by
  have hdistinct := h.distinct
  unfold faces at hdistinct
  rw [List.map_map] at hdistinct
  exact hdistinct

/-- The gate that observes a run. -/
theorem Tidy.find?_active (h : Tidy s) (hg : g ∈ s.active) :
    s.active.find? (fun g' => g'.runId = g.runId) = some g :=
  (find?_key_iff h.active_nodup).mpr ⟨hg, rfl⟩

/-- Every run of a state comes, under its key, from another. -/
def RunsFrom (s s' : HealthGateService) : Prop :=
  ∀ r run', s'.runs.find? r = some run' → ∃ run, s.runs.find? r = some run ∧ run'.key = run.key

theorem runsFrom_of_eq (h : s'.runs = s.runs) : RunsFrom s s' := by
  intro r run' hrun
  rw [h] at hrun
  exact ⟨run', hrun, rfl⟩

theorem runsFrom_runsWith {id : String} {v : GateVerdict} {endedAt : Int}
    (h : s'.runs = s.runsWith id v endedAt) : RunsFrom s s' := by
  intro r run' hrun
  rw [h, find?_runsWith, map_eq_some_iff] at hrun
  obtain ⟨run, hrun, rfl⟩ := hrun
  refine ⟨run, hrun, ?_⟩
  by_cases hid : run.id = id
  · rw [if_pos hid]
    rfl
  · rw [if_neg hid]

/-- Gates that remain, over runs that remain. -/
theorem Tidy.of_fewer (h : Tidy s) (hfaces : s'.faces.Sublist s.faces)
    (hdrawn : s.drawn ⊆ s'.drawn) (hruns : RunsFrom s s') : Tidy s' where
  distinct := (hfaces.map Prod.fst).nodup h.distinct
  gateDrawn := fun r key hmem => hdrawn (h.gateDrawn r key (hfaces.subset hmem))
  runDrawn := fun r run' hrun => by
    obtain ⟨run, hfind, _⟩ := hruns r run' hrun
    exact hdrawn (h.runDrawn r run hfind)
  agrees := fun r key run' hmem hrun => by
    obtain ⟨run, hfind, hkey⟩ := hruns r run' hrun
    exact hkey.trans (h.agrees r key run (hfaces.subset hmem) hfind)
  unnamed := fun r run' hrun hscope => by
    obtain ⟨run, hfind, hkey⟩ := hruns r run' hrun
    rw [hkey] at hscope ⊢
    exact h.unnamed r run hfind hscope

theorem Tidy.quiet (h : Tidy s) (hq : Quiet s s') : Tidy s' :=
  h.of_fewer (by rw [hq.faces]) hq.drawn (runsFrom_of_eq hq.runs)

/-- The runs observed once a gate has ended. -/
theorem faces_filter (s : HealthGateService) (runId : String) :
    (s.active.filter fun g => g.runId ≠ runId).map (fun g => (g.runId, g.key)) =
      s.faces.filter fun face => face.1 ≠ runId := by
  unfold faces
  rw [List.filter_map]
  rfl

theorem faces_endGate (s : HealthGateService) (runId : String) (v : GateVerdict) (now : Int) :
    (s.endGate runId v now).faces = s.faces.filter fun face => face.1 ≠ runId := by
  cases hfind : s.active.find? fun g => g.runId = runId with
  | none =>
    rw [endGate_of_not_active hfind, ← faces_filter]
    have hnone : ∀ g ∈ s.active, decide (g.runId ≠ runId) = true := by
      intro g hg
      have := find?_eq_none.mp hfind g hg
      simpa using this
    rw [filter_eq_self.mpr hnone]
    rfl
  | some g =>
    obtain ⟨db, delivered, hend⟩ := endGate_of_active hfind v now
    rw [hend]
    exact faces_filter s runId

theorem Tidy.endGate (h : Tidy s) (runId : String) (v : GateVerdict) (now : Int) :
    Tidy (s.endGate runId v now) := by
  cases hfind : s.active.find? fun g => g.runId = runId with
  | none =>
    rw [endGate_of_not_active hfind]
    exact h
  | some g =>
    have hfaces := faces_endGate s runId v now
    obtain ⟨db, delivered, hend⟩ := endGate_of_active hfind v now
    refine h.of_fewer ?_ ?_ ?_
    · rw [hfaces]
      exact filter_sublist
    · rw [hend]
      exact .refl _
    · rw [hend]
      exact runsFrom_runsWith rfl

theorem Tidy.ending (h : Tidy s) (he : Ending s s') : Tidy s' := by
  cases he with
  | quiet hq => exact h.quiet hq
  | ended runId v now => exact h.endGate runId v now

theorem Tidy.endings (h : Tidy s) (he : Endings s s') : Tidy s' := by
  induction he with
  | refl => exact h
  | tail _ hstep ih => exact ih.ending hstep

/-- A gate written back under its own key. -/
theorem quiet_setGate (gate : ActiveGate) (h : s.active.find? (fun g => g.runId = runId) = some g)
    (htidy : Tidy s) (hrun : gate.runId = g.runId) (hkey : gate.key = g.key) :
    Quiet s (s.setGate gate) := by
  have hmem : g ∈ s.active := mem_of_find?_eq_some h
  have hfaces : (s.setGate gate).faces = s.faces := by
    unfold setGate faces
    rw [List.map_map]
    refine map_congr_left fun g' hg' => ?_
    by_cases hsame : g'.runId = gate.runId
    · have heq : g' = g :=
        inj_on_of_nodup_map htidy.active_nodup hg' hmem (hsame.trans hrun)
      subst heq
      simp [hrun, hkey]
    · simp [hsame]
  exact ⟨hfaces, rfl, rfl, rfl, rfl, rfl, rfl, rfl, .refl _, fun _ h => .inl h⟩

/-! ## New runs and gates -/

/-- Whether writing a run prunes a row. -/
def prunes (s : HealthGateService) (run r : HealthGateRun) : Bool :=
  sameStack r run &&
    ((run :: s.runs.rows).filter fun r' => sameStack r' run && newer r' r).length ≥ 10

theorem insertHealthGateRun_eq (h : s.insertHealthGateRun run = some s') :
    s.runs.find? run.id = none ∧ (∀ r, s'.runs.find? r =
        (if r = run.id then some run else s.runs.find? r).filter fun r => !s.prunes run r) ∧
      s' = { s with runs := s'.runs } := by
  obtain ⟨runs, hinsert, rfl⟩ := map_eq_some_iff.mp h
  obtain ⟨hnew, hfind⟩ := insert?_eq_some hinsert
  have hrows : runs.rows = run :: s.runs.rows := by
    unfold insert? at hinsert
    split at hinsert
    · cases hinsert
    · cases hinsert
      rfl
  refine ⟨hnew, fun r => ?_, rfl⟩
  rw [find?_delete, hfind r]
  unfold prunes
  rw [hrows]

/-- What a gate is opened into. -/
theorem openGate_eq (h : s.openGate run gate = some opened) :
    ∃ runs gates, (∀ g ∈ gates, g = gate) ∧
      (s.active.length < maxConcurrentGates → gates = [gate]) ∧
      opened.1 = { s with runs := runs, active := s.active ++ gates } := by
  unfold openGate at h
  split at h
  · rename_i hcap
    obtain ⟨t, hinsert, rfl⟩ := map_eq_some_iff.mp h
    obtain ⟨_, _, heq⟩ := insertHealthGateRun_eq hinsert
    refine ⟨t.runs, [], by simp, fun hroom => absurd hcap (Nat.not_le_of_lt hroom), ?_⟩
    rw [heq, append_nil]
  · obtain ⟨t, hinsert, rfl⟩ := map_eq_some_iff.mp h
    obtain ⟨_, _, heq⟩ := insertHealthGateRun_eq hinsert
    refine ⟨t.runs, [gate], by simp, fun _ => rfl, ?_⟩
    rw [heq]

theorem openGate_drawn (h : s.openGate run gate = some opened) : opened.1.drawn = s.drawn := by
  obtain ⟨_, _, _, _, heq⟩ := openGate_eq h
  rw [heq]

/-- The state in which a call writes a run, and the run it writes there. -/
def insertion (s : HealthGateService) : HealthGateCall → Option (HealthGateService × HealthGateRun)
  | .beginStack nodeId stackName trigger actor generation runId settings now =>
    if !s.started || !settings.enabled then none
    else
      let s := s.endGates (onStack nodeId stackName) supersededReason now
      let run := stackRun runId nodeId stackName trigger settings.windowSeconds now actor generation
      some (s, if s.active.length ≥ maxConcurrentGates then run.overCap else run)
  | .reserveRecoveryRun recoveryRef nodeId stackName generation actor runId settings now =>
    if !settings.enabled ∨ (s.recoveryRuns recoveryRef).isSome then none
    else some (s, stackRun runId nodeId stackName .recovery settings.windowSeconds now actor
      (some generation))
  | .reserveRolloutRun args runId settings now =>
    if !settings.enabled ∨ (s.findRolloutReservation args).isSome then none
    else some (s, args.run runId settings now)
  | .beginPrepared token actor runId settings now =>
    match (s.sweepExpiredPrepared now).prepared.find? fun p => p.token = token with
    | none => none
    | some p =>
      if !s.started || !settings.enabled then none
      else
        let s := (s.consumeToken token now).endGates
          (onService p.nodeId p.stackName p.serviceName) supersededReason now
        let run := p.run runId now actor
        some (s, if s.active.length ≥ maxConcurrentGates then run.overCap else run)
  | _ => none

/-- A run has been written, with a gate or without. -/
structure Inserted (s s' : HealthGateService) (run : HealthGateRun)
    (gate : Option ActiveGate) : Prop where
  fresh : run.id ∉ s.drawn
  gate_eq : ∀ g ∈ gate, g.runId = run.id ∧ g.key = run.key ∧ run.status = .observing ∧
    s.started = true
  unnamed : run.key.scope = .stack → run.key.serviceName = none
  unobserved : gate = none → run.status ≠ .observing ∨ run.reserved
  faces : s'.faces = s.faces ++ gate.toList.map fun g => (g.runId, g.key)
  runs : ∀ r, s'.runs.find? r =
    (if r = run.id then some run else s.runs.find? r).filter fun r => !s.prunes run r
  suppressed : s'.suppressedServices = s.suppressedServices
  started : s'.started = s.started
  gitops : s'.gitops = s.gitops
  delivered : s'.delivered = s.delivered
  taken : s'.taken = s.taken
  verdicts : s'.verdicts = s.verdicts
  drawn : s'.drawn = run.id :: s.drawn
  tokens : s'.tokens = s.tokens

theorem insertHealthGateRun_inserted (run : HealthGateRun) (hfr : run.id ∉ s.drawn)
    (hrun : run.status ≠ .observing ∨ run.reserved)
    (hscoped : run.key.scope = .stack → run.key.serviceName = none)
    (h : (s.draw run.id).insertHealthGateRun run = some s') : Inserted s s' run none := by
  obtain ⟨_, hfind, heq⟩ := insertHealthGateRun_eq h
  refine ⟨hfr, fun g hg => absurd hg (by simp), hscoped, fun _ => hrun, ?_, hfind, ?_, ?_,
    ?_, ?_, ?_, ?_, ?_, ?_⟩
  · rw [heq]
    simp [faces, draw]
  all_goals rw [heq]; rfl

theorem openGate_inserted {observed : Bool} (hfr : run.id ∉ s.drawn) (hid : gate.runId = run.id)
    (hkey : gate.key = run.key) (hstat : run.status = .observing) (hstarted : s.started = true)
    (hscoped : run.key.scope = .stack → run.key.serviceName = none)
    (h : (s.draw run.id).openGate run gate = some (s', observed)) :
    (s.active.length ≥ maxConcurrentGates ∧ observed = false ∧ Inserted s s' run.overCap none) ∨
      (s.active.length < maxConcurrentGates ∧ observed = true ∧ Inserted s s' run (some gate)) := by
  unfold openGate at h
  by_cases hcap : s.active.length ≥ maxConcurrentGates
  · have hcap' : (s.draw run.id).active.length ≥ maxConcurrentGates := hcap
    rw [if_pos hcap'] at h
    obtain ⟨s'', hinsert, hpair⟩ := map_eq_some_iff.mp h
    cases hpair
    refine .inl ⟨hcap, rfl, insertHealthGateRun_inserted _ hfr (.inl ?_) hscoped hinsert⟩
    simp [HealthGateRun.overCap]
  · have hcap' : ¬ (s.draw run.id).active.length ≥ maxConcurrentGates := hcap
    rw [if_neg hcap'] at h
    obtain ⟨s'', hinsert, hpair⟩ := map_eq_some_iff.mp h
    cases hpair
    obtain ⟨_, hfind, heq⟩ := insertHealthGateRun_eq hinsert
    refine .inr ⟨Nat.lt_of_not_le hcap, rfl, hfr, ?_, hscoped,
      fun hnone => absurd hnone (by simp), ?_, hfind, ?_, ?_, ?_, ?_, ?_, ?_, ?_, ?_⟩
    · intro g hg
      cases hg
      exact ⟨hid, hkey, hstat, hstarted⟩
    · rw [heq]
      simp [faces, draw]
    all_goals rw [heq]; rfl

/-- A fresh run is never refused. -/
theorem insertHealthGateRun_isSome (htidy : Tidy s) (hfr : run.id ∉ s.drawn) :
    ((s.draw run.id).insertHealthGateRun run).isSome = true := by
  have hnone : s.runs.find? run.id = none := by
    cases hfind : s.runs.find? run.id with
    | none => rfl
    | some run' => exact absurd (htidy.runDrawn _ _ hfind) hfr
  have hkey : run.id ∉ s.runs.rows.map HealthGateRun.id :=
    (find?_eq_none_iff _ _).mp hnone
  unfold insertHealthGateRun
  unfold insert?
  have hdraw : (s.draw run.id).runs = s.runs := rfl
  rw [hdraw, dif_neg hkey]
  rfl

/-- A reserved run has got its gate. -/
structure Armed (s s' : HealthGateService) (run : HealthGateRun) (g : ActiveGate) : Prop where
  started : s.started = true
  found : s.runs.find? run.id = some run
  observing : run.status = .observing
  gate_eq : g.runId = run.id ∧ g.key = run.key
  stackWide : run.targetScope = .stack
  fresh : run.id ∉ s.faces.map Prod.fst
  eq : s' = { s with active := s.active ++ [g], taken := run.id :: s.taken }

/-- What a call other than a start, a stop, a crash or a transition does. -/
inductive Outcome (s : HealthGateService) (call : HealthGateCall) (s' : HealthGateService) :
    Prop where
  | ends (h : Endings s s')
  | inserts {t u : HealthGateService} {run : HealthGateRun} {gate : Option ActiveGate}
      (hends : Endings s t) (hwr : s.insertion call = some (t, run))
      (h : Inserted t u run gate) (hrest : Quiet u s')
  | arms {t : HealthGateService} {run : HealthGateRun} {gate : ActiveGate}
      (hends : Endings s t) (h : Armed t s' run gate)
  | abandons {run : HealthGateRun} {nodeId : Int} {stackName reason : String} {now : Int}
      (hcall : call = .abandonReservedRun run.id nodeId stackName reason now)
      (hget : s.getHealthGateRun nodeId stackName run.id = some run)
      (hstat : run.status = .observing)
      (h : s' = { s with taken := run.id :: s.taken }.finalizePersistedRun run reason now)

theorem Quiet.trans (h : Quiet s s₁) (h' : Quiet s₁ s₂) : Quiet s s₂ :=
  ⟨h'.faces.trans h.faces, h'.runs.trans h.runs, h'.suppressed.trans h.suppressed,
    h'.started.trans h.started, h'.gitops.trans h.gitops, h'.delivered.trans h.delivered,
    h'.taken.trans h.taken, h'.verdicts.trans h.verdicts,
    List.Subset.trans h.drawn h'.drawn, fun x hx => by
      rcases h'.tokens x hx with hold | ⟨hnew, hdrawn⟩
      · rcases h.tokens x hold with hold | ⟨hnew, hdrawn⟩
        · exact .inl hold
        · exact .inr ⟨hnew, h'.drawn hdrawn⟩
      · exact .inr ⟨fun hmem => hnew (h.drawn hmem), hdrawn⟩⟩

theorem endGate_keeps (s : HealthGateService) (runId : String) (v : GateVerdict) (now : Int) :
    (s.endGate runId v now).started = s.started ∧ (s.endGate runId v now).drawn = s.drawn ∧
      (s.endGate runId v now).taken = s.taken := by
  cases hfind : s.active.find? fun g => g.runId = runId with
  | none =>
    rw [endGate_of_not_active hfind]
    exact ⟨rfl, rfl, rfl⟩
  | some g =>
    obtain ⟨db, delivered, hend⟩ := endGate_of_active hfind v now
    rw [hend]
    exact ⟨rfl, rfl, rfl⟩

theorem endGates_keeps (s : HealthGateService) (p : ActiveGate → Bool) (reason : String)
    (now : Int) :
    (s.endGates p reason now).started = s.started ∧ (s.endGates p reason now).drawn = s.drawn ∧
      (s.endGates p reason now).taken = s.taken := by
  refine foldlRecOn (motive := fun t : HealthGateService =>
    t.started = s.started ∧ t.drawn = s.drawn ∧ t.taken = s.taken) _ _ ⟨rfl, rfl, rfl⟩
    fun t ht g _ => ?_
  obtain ⟨hstarted, hdrawn, htaken⟩ := endGate_keeps t g.runId _ now
  exact ⟨hstarted.trans ht.1, hdrawn.trans ht.2.1, htaken.trans ht.2.2⟩

/-! ## Calls -/

theorem quiet_consumeToken (now : Int) : Quiet s (s.consumeToken token now) :=
  ⟨rfl, rfl, rfl, rfl, rfl, rfl, rfl, rfl, .refl _, tokens_of_prepared rfl fun p hp =>
      ⟨p, (mem_filter.mp (mem_filter.mp hp).1).1, rfl⟩⟩

theorem endings_pollRead (htidy : Tidy s) (runId : String) (read : StackHealthFactsOutcome)
    (now : Int) : Endings s (s.pollRead runId read now) := by
  unfold pollRead
  cases hfind : s.active.find? fun g => g.runId = runId with
  | none => exact .refl
  | some gate =>
    dsimp only
    by_cases hpoll : (s.polls.any fun p => p.1 = runId) = true
    · rw [if_pos hpoll]
      exact .refl
    · rw [if_neg hpoll]
      cases read with
      | ok containers =>
        have hset := quiet_setGate { gate with consecutivePollErrors := 0 } hfind htidy rfl rfl
        have hst : Quiet (s.setGate { gate with consecutivePollErrors := 0 })
            { s.setGate { gate with consecutivePollErrors := 0 } with
              polls := s.polls ++ [(runId, containers.map StackContainerFact.observed)] } :=
          ⟨rfl, rfl, rfl, rfl, rfl, rfl, rfl, rfl, .refl _, fun _ h => .inl h⟩
        exact (hset.trans hst).endings
      | unsupported => exact endings_endGate _ _ _
      | unavailable node =>
        have hset := quiet_setGate
          { gate with consecutivePollErrors := gate.consecutivePollErrors + 1 } hfind
          htidy rfl rfl
        dsimp only
        split
        · exact hset.endings.trans (endings_endGate _ _ _)
        · exact hset.endings

theorem seen_pollCycle {gate' : ActiveGate} {observed : List ObservedContainer} {now : Int}
    (h : pollCycle gate observed now = .ok gate') : Seen gate gate' := by
  unfold pollCycle at h
  cases hscope : gate.targetScope with
  | stack =>
    rw [hscope] at h
    exact Seen.runPollCycle h
  | service =>
    rw [hscope] at h
    exact Seen.runServicePollCycle h

/-- A poll that goes on writes its gate back. -/
theorem quiet_pollSettled (htidy : Tidy s) {gate' : ActiveGate}
    {declared : Option (String → Option (Option String))} {observed : List ObservedContainer}
    {now : Int} (hfind : s.active.find? (fun g => g.runId = runId) = some gate)
    (hcycle : pollCycle (gate.readDeclaredRestart declared) observed now = .ok gate') :
    Quiet s (({ s with polls := s.polls.filter fun p => p.1 ≠ runId } :
      HealthGateService).setGate gate') := by
  have hsett : Quiet s { s with polls := s.polls.filter fun p => p.1 ≠ runId } :=
    ⟨rfl, rfl, rfl, rfl, rfl, rfl, rfl, rfl, .refl _, fun _ h => .inl h⟩
  have hseen := seen_pollCycle hcycle
  have hread : (gate.readDeclaredRestart declared).runId = gate.runId ∧
      (gate.readDeclaredRestart declared).key = gate.key := by
    unfold ActiveGate.readDeclaredRestart
    split <;> exact ⟨rfl, rfl⟩
  have hset := quiet_setGate (s := { s with polls := s.polls.filter fun p => p.1 ≠ runId }) gate'
    hfind (htidy.quiet hsett) (hseen.runId.trans hread.1) (hseen.key.trans hread.2)
  exact hsett.trans hset

theorem endings_pollSettle (htidy : Tidy s) (runId : String)
    (declared : Option (String → Option (Option String))) (now : Int) :
    Endings s (s.pollSettle runId declared now) := by
  unfold pollSettle
  cases hpoll : s.polls.find? fun p => p.1 = runId with
  | none => exact .refl
  | some poll =>
    have hsett : Quiet s { s with polls := s.polls.filter fun p => p.1 ≠ runId } :=
      ⟨rfl, rfl, rfl, rfl, rfl, rfl, rfl, rfl, .refl _, fun _ h => .inl h⟩
    cases hfind : s.active.find? fun g => g.runId = runId with
    | none => exact hsett.endings
    | some gate =>
      dsimp only
      cases hcycle : pollCycle (gate.readDeclaredRestart declared) poll.2 now with
      | ok gate' => exact (quiet_pollSettled htidy hfind hcycle).endings
      | error v => exact hsett.endings.trans (endings_endGate _ _ _)

/-- A call that ends with the opening of a gate. -/
theorem outcome_openGate {ready : HealthGateService}
    (hends : Endings s ready) (hfr : run.id ∉ ready.drawn) (hid : gate.runId = run.id)
    (hkey : gate.key = run.key) (hstat : run.status = .observing)
    (hstarted : ready.started = true)
    (hscoped : run.key.scope = .stack → run.key.serviceName = none) (hwr : s.insertion call =
      some (ready, if ready.active.length ≥ maxConcurrentGates then run.overCap else run))
    (hopen : (ready.draw run.id).openGate run gate = some opened) : Outcome s call opened.1 := by
  rcases openGate_inserted hfr hid hkey hstat hstarted hscoped hopen with
    ⟨hcap, _, hins⟩ | ⟨hcap, _, hins⟩
  · rw [if_pos hcap] at hwr
    exact .inserts hends hwr hins (.refl _)
  · rw [if_neg (Nat.not_le_of_lt hcap)] at hwr
    exact .inserts hends hwr hins (.refl _)

theorem quiet_draw (id : String) : Quiet s (s.draw id) :=
  ⟨rfl, rfl, rfl, rfl, rfl, rfl, rfl, rfl, subset_cons_self _ _, fun _ h => .inl h⟩

/-- The state in which a token opens its gate. -/
def ready (s : HealthGateService) (token : String) (p : PreparedGate) (runId : String)
    (now : Int) : HealthGateService :=
  ((s.consumeToken token now).endGates (onService p.nodeId p.stackName p.serviceName)
    supersededReason now).draw runId

/-- The token a begin finds. -/
def tokenAt (s : HealthGateService) (token : String) (now : Int) : Option PreparedGate :=
  (s.sweepExpiredPrepared now).prepared.find? fun p => p.token = token

/-- Whether a begin reports that a container operation dropped its token. -/
def droppedAt (s : HealthGateService) (token : String) (now : Int) : Bool :=
  (s.sweepExpiredPrepared now).droppedPrepared.any fun p => p.1 = token

/-- A begin, by whether it finds its token and may observe. -/
theorem beginPrepared_eq (s : HealthGateService) (token : String) (actor : Option String)
    (runId : String) (settings : GateSettings) (now : Int) :
    s.beginPrepared token actor runId settings now = match s.tokenAt token now with
      | none => (s.consumeToken token now, ⟨none, false, s.droppedAt token now⟩)
      | some p =>
        if !s.started || !settings.enabled then
          (s.consumeToken token now, ⟨none, false, s.droppedAt token now⟩)
        else
          match (s.ready token p runId now).openGate (p.run runId now actor) (p.gate runId now) with
          | none => (s.ready token p runId now, ⟨none, false, s.droppedAt token now⟩)
          | some opened => (opened.1, ⟨some runId, opened.2, s.droppedAt token now⟩) := rfl

theorem started_of_on {b e : Bool} (h : ¬ (!b || !e) = true) : b = true := by
  cases b with
  | true => rfl
  | false => exact absurd rfl h

section

variable (hfr : runId ∉ s.drawn)
variable {now : Int}
include hfr

theorem outcome_beginStack {trigger : RunTrigger} {generation : Option String} :
    Outcome s (.beginStack nodeId stackName trigger actor generation runId settings now)
      (s.beginStack nodeId stackName trigger actor generation runId settings now).1 := by
  unfold beginStack
  by_cases hoff : (!s.started || !settings.enabled) = true
  · rw [if_pos hoff]
    exact .ends .refl
  · rw [if_neg hoff]
    have hwr : s.insertion
        (.beginStack nodeId stackName trigger actor generation runId settings now) = _ := if_neg hoff
    obtain ⟨hstarted, hdrawn, _⟩ := endGates_keeps s (onStack nodeId stackName) supersededReason now
    have hends : Endings s (s.endGates (onStack nodeId stackName) supersededReason now) :=
      endings_endGates _ _ _
    dsimp only
    cases hopen : ((s.endGates (onStack nodeId stackName) supersededReason now).draw runId).openGate
        (stackRun runId nodeId stackName trigger settings.windowSeconds now actor generation)
        (freshGate runId nodeId stackName settings.windowSeconds now trigger) with
    | none => exact .ends (hends.trans (quiet_draw runId).endings)
    | some opened =>
      exact outcome_openGate hends (by rw [hdrawn]; exact hfr) rfl rfl rfl
        (hstarted.trans (started_of_on hoff)) (fun _ => rfl) hwr hopen

variable (now actor) in
/-- What a begin leaves of the service before it opens the gate of its token. -/
theorem ready_ends (token : String) (p : PreparedGate)
    (hon : ¬ (!s.started || !settings.enabled) = true) :
    let ended := (s.consumeToken token now).endGates
      (onService p.nodeId p.stackName p.serviceName) supersededReason now
    Endings s ended ∧ (p.run runId now actor).id ∉ ended.drawn ∧ ended.started = true := by
  obtain ⟨hstarted, hdrawn, _⟩ := endGates_keeps (s.consumeToken token now)
    (onService p.nodeId p.stackName p.serviceName) supersededReason now
  refine ⟨(quiet_consumeToken token now).endings.trans (endings_endGates _ _ _), ?_,
    hstarted.trans (started_of_on hon)⟩
  rw [hdrawn]
  exact hfr

/-- A begin that opens no gate says so; another opens the gate of its token. -/
theorem beginPrepared_begun {token : String} :
    (Endings s (s.beginPrepared token actor runId settings now).1 ∧
      (s.beginPrepared token actor runId settings now).2.observing = false) ∨
    ∃ p opened, s.tokenAt token now = some p ∧ (¬ (!s.started || !settings.enabled) = true) ∧
      (s.ready token p runId now).openGate (p.run runId now actor) (p.gate runId now) =
        some opened ∧
      (s.beginPrepared token actor runId settings now).1 = opened.1 ∧
      (s.beginPrepared token actor runId settings now).2.observing = opened.2 := by
  have hconsumed : Endings s (s.consumeToken token now) := (quiet_consumeToken token now).endings
  rw [beginPrepared_eq]
  cases hfind : s.tokenAt token now with
  | none => exact .inl ⟨hconsumed, rfl⟩
  | some p =>
    dsimp only
    by_cases hoff : (!s.started || !settings.enabled) = true
    · rw [if_pos hoff]
      exact .inl ⟨hconsumed, rfl⟩
    · rw [if_neg hoff]
      cases hopen : (s.ready token p runId now).openGate (p.run runId now actor)
          (p.gate runId now) with
      | none =>
        have hends := (ready_ends actor hfr now token p hoff).1
        exact .inl ⟨hends.trans (quiet_draw runId).endings, rfl⟩
      | some opened => exact .inr ⟨p, opened, rfl, hoff, hopen, rfl, rfl⟩

theorem outcome_beginPrepared {token : String} :
    Outcome s (.beginPrepared token actor runId settings now)
      (s.beginPrepared token actor runId settings now).1 := by
  rcases @beginPrepared_begun _ settings actor _ hfr now token with
    ⟨hends, _⟩ | ⟨p, opened, hfind, hon, hopen, heq, _⟩
  · exact .ends hends
  · rw [heq]
    obtain ⟨hends, hdrawn, hstarted⟩ := ready_ends actor hfr now token p hon
    refine outcome_openGate hends hdrawn rfl rfl rfl hstarted (fun hscope => by cases hscope)
      ?_ hopen
    unfold tokenAt at hfind
    simp only [insertion, hfind]
    exact if_neg hon

/-- A begin that says it observes has opened the gate of its token; another has opened
none. -/
theorem beginPrepared_cases {token : String} {s' : HealthGateService} {result : BeginPreparedResult}
    (h : s.beginPrepared token actor runId settings now = (s', result)) :
    (result.observing = false ∧ (Endings s s' ∨ ∃ t run, Endings s t ∧ Inserted t s' run none)) ∨
    (result.observing = true ∧
      ∃ (t : HealthGateService) (p : PreparedGate) (run : HealthGateRun) (gate : ActiveGate),
        Endings s t ∧ Inserted t s' run (some gate) ∧ run.id = runId ∧
        run.key = ⟨p.nodeId, p.stackName, .service, some p.serviceName⟩ ∧
        (token, (⟨p.nodeId, p.stackName, p.serviceName⟩ : SuppressKey)) ∈ s.tokens) := by
  have hbegun := @beginPrepared_begun _ settings actor _ hfr now token
  rw [h] at hbegun
  rcases hbegun with ⟨hends, hnot⟩ | ⟨p, opened, hfind, hon, hopen, rfl, hresult⟩
  · exact .inl ⟨hnot, .inl hends⟩
  · obtain ⟨hends, hdrawn, hstarted⟩ := ready_ends actor hfr now token p hon
    rcases openGate_inserted hdrawn rfl rfl rfl hstarted (fun hscope => by cases hscope)
        hopen with ⟨_, hnot, hins⟩ | ⟨_, hyes, hins⟩
    · exact .inl ⟨hresult.trans hnot, .inr ⟨_, _, hends, hins⟩⟩
    · refine .inr ⟨hresult.trans hyes, _, p, _, _, hends, hins, rfl, rfl, mem_append_right _ ?_⟩
      have htoken : p.token = token := by simpa using find?_some hfind
      refine mem_map.mpr ⟨p, (mem_filter.mp (mem_of_find?_eq_some hfind)).1, ?_⟩
      rw [htoken]

theorem outcome_reserveRecoveryRun {recoveryRef : String} {generation : String} :
    Outcome s (.reserveRecoveryRun recoveryRef nodeId stackName generation actor runId settings now)
      (s.reserveRecoveryRun recoveryRef nodeId stackName generation actor runId settings
        now).1 := by
  unfold reserveRecoveryRun
  by_cases hoff : (!settings.enabled) = true
  · rw [if_pos hoff]
    exact .ends .refl
  · rw [if_neg hoff]
    cases hlinked : s.recoveryRuns recoveryRef with
    | some linked => exact .ends .refl
    | none =>
      cases hinsert : (s.draw runId).insertHealthGateRun (stackRun runId nodeId stackName
          .recovery settings.windowSeconds now actor (some generation)) with
      | none => exact .ends .refl
      | some written =>
        have hwr : s.insertion (.reserveRecoveryRun recoveryRef nodeId stackName
            generation actor runId settings now) = _ :=
          if_neg (by simp [hoff, hlinked])
        have hins := insertHealthGateRun_inserted (s := s) (stackRun runId nodeId
          stackName .recovery settings.windowSeconds now actor (some generation)) hfr
          (.inr (.inl rfl)) (fun _ => rfl) hinsert
        exact .inserts .refl hwr hins
          ⟨rfl, rfl, rfl, rfl, rfl, rfl, rfl, rfl, .refl _, fun _ h => .inl h⟩

theorem outcome_reserveRolloutRun {args : RolloutReservation} :
    Outcome s (.reserveRolloutRun args runId settings now)
      (s.reserveRolloutRun args runId settings now).1 := by
  unfold reserveRolloutRun
  by_cases hoff : (!settings.enabled) = true
  · rw [if_pos hoff]
    exact .ends .refl
  · rw [if_neg hoff]
    cases hexisting : s.findRolloutReservation args with
    | some existing => exact .ends .refl
    | none =>
      cases hinsert : (s.draw runId).insertHealthGateRun (args.run runId settings now) with
      | none => exact .ends .refl
      | some written =>
        have hwr : s.insertion (.reserveRolloutRun args runId settings now) = _ :=
          if_neg (by simp [hoff, hexisting])
        have hins := insertHealthGateRun_inserted (s := s)
          (args.run runId settings now) hfr (.inr (.inr rfl)) (fun _ => rfl) hinsert
        exact .inserts .refl hwr hins (.refl _)

end

theorem find?_of_getHealthGateRun (h : s.getHealthGateRun nodeId stackName runId = some run) :
    s.runs.find? run.id = some run ∧ run.id = runId ∧ run.nodeId = nodeId ∧
      run.stackName = stackName := by
  obtain ⟨hfind, hstack⟩ := filter_eq_some_iff.mp h
  have hid : run.id = runId := key_of_find? hfind
  simp only [Bool.and_eq_true, decide_eq_true_eq] at hstack
  rw [hid]
  exact ⟨hfind, rfl, hstack.1, hstack.2⟩

/-- The gates left after some have ended were there before. -/
theorem faces_endGates_subset (s : HealthGateService) (p : ActiveGate → Bool) (reason : String)
    (now : Int) : (s.endGates p reason now).faces.Sublist s.faces := by
  refine foldlRecOn (motive := fun t : HealthGateService => t.faces.Sublist s.faces) _ _
    (.refl _) fun t ht g _ => ?_
  rw [faces_endGate]
  exact filter_sublist.trans ht

/-- The end of other gates leaves a run as it is. -/
theorem find?_endGate_of_ne (s : HealthGateService) {r : String} (v : GateVerdict) (now : Int)
    (hne : r ≠ runId) : (s.endGate runId v now).runs.find? r = s.runs.find? r := by
  cases hfind : s.active.find? fun g => g.runId = runId with
  | none => rw [endGate_of_not_active hfind]
  | some g =>
    obtain ⟨db, delivered, hend⟩ := endGate_of_active hfind v now
    rw [hend]
    rw [find?_runsWith]
    cases hrun : s.runs.find? r with
    | none => rfl
    | some run =>
      have hid : run.id = r := key_of_find? hrun
      rw [map_some, if_neg (by rw [hid]; exact hne)]

theorem find?_endGates (s : HealthGateService) (p : ActiveGate → Bool) (reason : String)
    (now : Int) {r : String} (hr : ∀ g ∈ s.active, p g = true → g.runId ≠ r) :
    (s.endGates p reason now).runs.find? r = s.runs.find? r := by
  refine foldlRecOn (motive := fun t : HealthGateService => t.runs.find? r = s.runs.find? r) _ _ rfl
    fun t ht g hg => ?_
  obtain ⟨hmem, hp⟩ := mem_filter.mp hg
  exact (find?_endGate_of_ne t _ now (hr g hmem hp).symm).trans ht

theorem outcome_armReservedStackRun (htidy : Tidy s) {expected : RunTrigger} {now : Int} :
    Outcome s call (afterArm (s.armReservedStackRun runId nodeId stackName expected now)) := by
  unfold armReservedStackRun
  by_cases hoff : (!s.started) = true
  · rw [if_pos hoff]
    exact .ends .refl
  · rw [if_neg hoff]
    cases hget : s.getHealthGateRun nodeId stackName runId with
    | none => exact .ends .refl
    | some run =>
      dsimp only
      by_cases hkind : run.status ≠ .observing ∨ run.trigger ≠ expected ∨ run.targetScope ≠ .stack
      · rw [if_pos hkind]
        exact .ends .refl
      · rw [if_neg hkind]
        obtain ⟨hstat, htrigger, hscope⟩ :
            run.status = .observing ∧ run.trigger = expected ∧ run.targetScope = .stack := by
          simpa [not_or] using hkind
        obtain ⟨hfind, hid, hnode, hstack⟩ := find?_of_getHealthGateRun hget
        split
        · exact .ends .refl
        · rename_i hinactive
          have hkey : run.key = ⟨nodeId, stackName, .stack, none⟩ := by
            have hname : run.serviceName = none := htidy.unnamed _ _ hfind hscope
            unfold HealthGateRun.key
            rw [hname, hnode, hstack, hscope]
          have hunseen : run.id ∉ s.faces.map Prod.fst := by
            intro hmem
            obtain ⟨⟨r, key⟩, hface, hr⟩ := mem_map.mp hmem
            subst hr
            have hagr := htidy.agrees _ _ _ hface hfind
            obtain ⟨g, hg, hgid, hgkey⟩ := mem_faces.mp hface
            refine hinactive (any_eq_true.mpr ⟨g, hg, ?_⟩)
            simp [hgkey, ← hagr, hkey, hgid, hid]
          have hfew := faces_endGates_subset s (onStack nodeId stackName) supersededReason now
          have hkept := find?_endGates s (onStack nodeId stackName) supersededReason now
            (r := run.id) fun g hg _ heq => hunseen (by
              rw [← heq]
              exact mem_map.mpr ⟨_, mem_faces_of_active hg, rfl⟩)
          have hends : Endings s (s.endGates (onStack nodeId stackName) supersededReason now) :=
            endings_endGates _ _ _
          obtain ⟨hstarted, _, _⟩ := endGates_keeps s (onStack nodeId stackName)
            supersededReason now
          split
          · exact .ends hends
          · have harmed : Armed (s.endGates (onStack nodeId stackName) supersededReason now)
                { s.endGates (onStack nodeId stackName) supersededReason now with
                  active := (s.endGates (onStack nodeId stackName) supersededReason
                    now).active ++ [freshGate runId nodeId stackName run.windowSeconds now expected]
                  taken := runId :: (s.endGates (onStack nodeId stackName) supersededReason
                    now).taken }
                run (freshGate runId nodeId stackName run.windowSeconds now expected) := by
              refine ⟨?_, ?_, hstat, ⟨hid.symm, hkey.symm⟩, hscope, ?_, ?_⟩
              · rw [hstarted]
                simpa using hoff
              · rw [hkept]
                exact hfind
              · intro hmem
                exact hunseen ((hfew.map Prod.fst).subset hmem)
              · rw [hid]
            exact .arms hends harmed

theorem foldl_dropPrepared (s : HealthGateService) (ps : List PreparedGate) :
    ps.foldl dropPreparedForContainerOp s = { s with
        prepared := s.prepared.filter fun p => p.token ∉ ps.map PreparedGate.token
        droppedPrepared := s.droppedPrepared ++ ps.map fun p => (p.token, p.expiresAt) } := by
  induction ps generalizing s with
  | nil => simp
  | cons p ps ih =>
    rw [foldl_cons, ih]
    simp [dropPreparedForContainerOp, List.filter_filter, Bool.and_comm]

/-- What is left when the tokens that meet a condition are dropped. -/
theorem dropTokens_eq (s : HealthGateService) (q : PreparedGate → Bool) :
    s.dropTokens q = { s with
        prepared := s.prepared.filter fun p =>
          p.token ∉ (s.prepared.filter q).map PreparedGate.token
        droppedPrepared := s.droppedPrepared ++
          (s.prepared.filter q).map fun p => (p.token, p.expiresAt) } :=
  foldl_dropPrepared s _

theorem endings_dropTokens (q : PreparedGate → Bool) : Endings s (s.dropTokens q) :=
  endings_foldl (f := dropPreparedForContainerOp) (fun _ _ => Quiet.endings
    ⟨rfl, rfl, rfl, rfl, rfl, rfl, rfl, rfl, .refl _,
      tokens_of_prepared rfl fun p hp => ⟨p, (mem_filter.mp hp).1, rfl⟩⟩) _ _

/-- The gates of a stack, detached from some services. -/
theorem quiet_detach (s : HealthGateService) (p : ActiveGate → Bool) (named : List String) :
    Quiet s { s with
      active := s.active.map fun g => if p g then named.foldl ActiveGate.detach g else g } := by
  refine ⟨?_, rfl, rfl, rfl, rfl, rfl, rfl, rfl, .refl _, fun _ h => .inl h⟩
  unfold faces
  rw [List.map_map]
  refine map_congr_left fun g _ => ?_
  dsimp only [Function.comp_apply]
  split
  · obtain ⟨_, _, _, _, _, _, heq⟩ := g.detachAll_eq named
    rw [heq]
    rfl
  · rfl

/-- The tokens of a stack, detached from some services. -/
theorem quiet_detachPrepared (s : HealthGateService) (q : PreparedGate → Bool)
    (named : List String) :
    Quiet s { s with
      prepared := s.prepared.map fun p =>
        if q p then named.foldl PreparedGate.detach p else p } := by
  refine ⟨rfl, rfl, rfl, rfl, rfl, rfl, rfl, rfl, .refl _, tokens_of_prepared rfl fun p hp => ?_⟩
  obtain ⟨q', hq', rfl⟩ := mem_map.mp hp
  refine ⟨q', hq', ?_⟩
  split
  · obtain ⟨_, _, heq⟩ := q'.detachAll_eq named
    rw [heq]
  · rfl

theorem endings_supersedeServices (nodeId : Int) (stackName reason : String)
    (named : List String) (now : Int) :
    Endings s (s.supersedeServices nodeId stackName reason named now) := by
  have hended : Endings s (s.endGates (endedByOp nodeId stackName named) reason now) :=
    endings_endGates _ _ _
  have hdetached := quiet_detach (s.endGates (endedByOp nodeId stackName named) reason now)
    (onStack nodeId stackName) named
  exact (hended.trans hdetached.endings).trans ((endings_dropTokens _).trans
    (quiet_detachPrepared _ _ named).endings)

theorem endings_supersedeForContainerOp (nodeId : Int) (stackName reason : String)
    (serviceNames : List String) (now : Int) :
    Endings s (s.supersedeForContainerOp nodeId stackName reason serviceNames now).1 := by
  unfold supersedeForContainerOp
  dsimp only
  split
  · exact (endings_endGates _ _ _).trans (endings_dropTokens _)
  · exact endings_supersedeServices _ _ _ _ _

theorem outcome_abandonReservedRun {reason : String} {now : Int} :
    Outcome s (.abandonReservedRun runId nodeId stackName reason now)
      (s.abandonReservedRun runId nodeId stackName reason now) := by
  unfold abandonReservedRun
  cases hget : s.getHealthGateRun nodeId stackName runId with
  | none => exact .ends .refl
  | some run =>
    obtain ⟨_, rfl, _⟩ := find?_of_getHealthGateRun hget
    dsimp only
    by_cases hstat : run.status = .observing
    · rw [if_pos hstat]
      exact .abandons rfl hget hstat rfl
    · rw [if_neg hstat]
      exact .ends .refl

theorem quiet_startPrepare {token : String} {serviceName : String} {trigger : RunTrigger}
    {expectedReplicas : Nat} {now : Int} (hfr : token ∉ s.drawn) :
    Quiet s (s.startPrepare token nodeId stackName serviceName trigger expectedReplicas settings
      now) := by
  refine ⟨rfl, rfl, rfl, rfl, rfl, rfl, rfl, rfl, subset_cons_self _ _, fun x hx => ?_⟩
  rcases mem_append.mp hx with hpreparing | hprepared
  · obtain ⟨p, hp, rfl⟩ := mem_map.mp hpreparing
    rcases mem_append.mp hp with hold | hnew
    · exact .inl (mem_append_left _ (mem_map.mpr ⟨p, hold, rfl⟩))
    · rw [mem_singleton.mp hnew]
      exact .inr ⟨hfr, mem_cons_self⟩
  · obtain ⟨p, hp, rfl⟩ := mem_map.mp hprepared
    exact .inl (mem_append_right _ (mem_map.mpr ⟨p, (mem_filter.mp hp).1, rfl⟩))

theorem quiet_endPrepare (snapshot : Option (List StackContainerFact)) (composeTimeoutMs : Int) :
    Quiet s (s.endPrepare token snapshot composeTimeoutMs).1 := by
  unfold endPrepare
  cases hfind : s.preparing.find? fun p => p.token = token with
  | none => exact .refl s
  | some p =>
    have hp : p ∈ s.preparing := mem_of_find?_eq_some hfind
    refine ⟨rfl, rfl, rfl, rfl, rfl, rfl, rfl, rfl, .refl _, fun x hx => .inl ?_⟩
    rcases mem_append.mp hx with hpreparing | hprepared
    · obtain ⟨q, hq, rfl⟩ := mem_map.mp hpreparing
      exact mem_append_left _ (mem_map.mpr ⟨q, (mem_filter.mp hq).1, rfl⟩)
    · obtain ⟨q, hq, rfl⟩ := mem_map.mp hprepared
      rcases mem_append.mp hq with hold | hnew
      · exact mem_append_right _ (mem_map.mpr ⟨q, hold, rfl⟩)
      · rw [mem_singleton.mp hnew]
        exact mem_append_left _ (mem_map.mpr ⟨p, hp, rfl⟩)

theorem quiet_attachExpectedImage (imageId : String) (now : Int) :
    Quiet s (s.attachExpectedImage token imageId now) := by
  refine ⟨rfl, rfl, rfl, rfl, rfl, rfl, rfl, rfl, .refl _, tokens_of_prepared rfl fun p hp => ?_⟩
  obtain ⟨q, hq, rfl⟩ := mem_map.mp hp
  refine ⟨q, (mem_filter.mp hq).1, ?_⟩
  split <;> rfl

/-- A call as a sequence of changes. -/
theorem perform_outcome (htidy : Tidy s) (hcall : call.ordinary = true)
    (hfr : ∀ id, call.draws = some id → id ∉ s.drawn) : Outcome s call (s.perform call) := by
  cases call with
  | beginStack => exact outcome_beginStack (hfr _ rfl)
  | reserveRecoveryRun => exact outcome_reserveRecoveryRun (hfr _ rfl)
  | reserveRolloutRun => exact outcome_reserveRolloutRun (hfr _ rfl)
  | armReservedRun | armRolloutRun => exact outcome_armReservedStackRun htidy
  | abandonReservedRun => exact outcome_abandonReservedRun
  | prepare =>
    exact .ends (quiet_startPrepare (hfr _ rfl)).endings
  | snapshot token snapshot composeTimeoutMs =>
    exact .ends (quiet_endPrepare token snapshot composeTimeoutMs).endings
  | attachExpectedImage =>
    exact .ends (quiet_attachExpectedImage _ _ _).endings
  | beginPrepared => exact outcome_beginPrepared (hfr _ rfl)
  | pollRead => exact .ends (endings_pollRead htidy _ _ _)
  | pollSettle => exact .ends (endings_pollSettle htidy _ _ _)
  | supersedeForContainerOp => exact .ends (endings_supersedeForContainerOp _ _ _ _ _)
  | stop | start | crash | gitops => cases hcall

/-! ## Every call -/

theorem Tidy.inserted (h : Tidy s) {gate : Option ActiveGate} (hins : Inserted s s' run gate) :
    Tidy s' := by
  have hrows : ∀ r run', s'.runs.find? r = some run' →
      (r = run.id ∧ run' = run) ∨ (r ≠ run.id ∧ s.runs.find? r = some run') := by
    intro r run' hrun
    rw [hins.runs r] at hrun
    have hkept := (filter_eq_some_iff.mp hrun).1
    by_cases hr : r = run.id
    · rw [if_pos hr] at hkept
      cases hkept
      exact .inl ⟨hr, rfl⟩
    · rw [if_neg hr] at hkept
      exact .inr ⟨hr, hkept⟩
  have hnew : run.id ∉ s.faces.map Prod.fst := by
    intro hmem
    obtain ⟨⟨r, key⟩, hface, hr⟩ := mem_map.mp hmem
    subst hr
    exact hins.fresh (h.gateDrawn _ _ hface)
  have hfaces : ∀ r key, (r, key) ∈ s'.faces →
      (r, key) ∈ s.faces ∨ (r = run.id ∧ key = run.key) := by
    intro r key hmem
    rw [hins.faces, mem_append] at hmem
    rcases hmem with hold | hadded
    · exact .inl hold
    · obtain ⟨g, hg, hface⟩ := mem_map.mp hadded
      obtain ⟨hid, hkey, _⟩ := hins.gate_eq g (by simpa using hg)
      rw [hid, hkey] at hface
      cases hface
      exact .inr ⟨rfl, rfl⟩
  refine ⟨?_, ?_, ?_, ?_, ?_⟩
  · rw [hins.faces, map_append]
    refine nodup_append'.mpr ⟨h.distinct, ?_, ?_⟩
    · cases gate with
      | none | some g => simp
    · cases gate with
      | none => simp
      | some g =>
        have hid := (hins.gate_eq g rfl).1
        simpa [hid] using hnew
  · intro r key hmem
    rw [hins.drawn]
    rcases hfaces r key hmem with hold | ⟨rfl, _⟩
    · exact mem_cons_of_mem _ (h.gateDrawn r key hold)
    · exact mem_cons_self
  · intro r run' hrun
    rw [hins.drawn]
    rcases hrows r run' hrun with ⟨rfl, _⟩ | ⟨_, hold⟩
    · exact mem_cons_self
    · exact mem_cons_of_mem _ (h.runDrawn r run' hold)
  · intro r key run' hmem hrun
    rcases hfaces r key hmem with hface | ⟨hr, hkey⟩
    · rcases hrows r run' hrun with ⟨rfl, _⟩ | ⟨_, hold⟩
      · exact absurd (h.gateDrawn _ _ hface) hins.fresh
      · exact h.agrees r key run' hface hold
    · rcases hrows r run' hrun with ⟨_, rfl⟩ | ⟨hne, _⟩
      · exact hkey.symm
      · exact absurd hr hne
  · intro r run' hrun
    rcases hrows r run' hrun with ⟨_, rfl⟩ | ⟨_, hold⟩
    · exact hins.unnamed
    · exact h.unnamed r run' hold

theorem Tidy.armed (h : Tidy s) (harmed : Armed s s' run g) : Tidy s' := by
  obtain ⟨hid, hkey⟩ := harmed.gate_eq
  have hfaces : s'.faces = s.faces ++ [(run.id, run.key)] := by
    rw [harmed.eq]
    simp [faces, hid, hkey]
  have hruns : s'.runs = s.runs := by rw [harmed.eq]
  have hdrawn : s'.drawn = s.drawn := by rw [harmed.eq]
  refine ⟨?_, ?_, ?_, ?_, ?_⟩
  · rw [hfaces, map_append]
    refine nodup_append'.mpr ⟨h.distinct, by simp, ?_⟩
    simpa using harmed.fresh
  · intro r key hmem
    rw [hfaces, mem_append, mem_singleton] at hmem
    rw [hdrawn]
    rcases hmem with hold | hnew
    · exact h.gateDrawn r key hold
    · cases hnew
      exact h.runDrawn _ _ harmed.found
  · intro r run' hrun
    rw [hruns] at hrun
    rw [hdrawn]
    exact h.runDrawn r run' hrun
  · intro r key run' hmem hrun
    rw [hfaces, mem_append, mem_singleton] at hmem
    rw [hruns] at hrun
    rcases hmem with hold | hnew
    · exact h.agrees r key run' hold hrun
    · cases hnew
      cases some.inj (hrun.symm.trans harmed.found)
      rfl
  · intro r run' hrun
    rw [hruns] at hrun
    exact h.unnamed r run' hrun

theorem Tidy.finalizePersistedRun (h : Tidy s) (run : HealthGateRun) (reason : String)
    (now : Int) : Tidy (s.finalizePersistedRun run reason now) := by
  obtain ⟨db, delivered, heq⟩ := finalizePersistedRun_eq s run reason now
  rw [heq]
  exact h.of_fewer (.refl _) (.refl _) (runsFrom_runsWith rfl)

theorem Tidy.outcome (h : Tidy s) (ho : Outcome s call s') : Tidy s' := by
  cases ho with
  | ends hends => exact h.endings hends
  | inserts hends hwr hins hrest => exact ((h.endings hends).inserted hins).quiet hrest
  | arms hends harmed => exact (h.endings hends).armed harmed
  | @abandons run _ _ reason now hcall hget hstat heq =>
    rw [heq]
    have hclaimed : Tidy { s with taken := run.id :: s.taken } :=
      h.of_fewer (.refl _) (.refl _) (runsFrom_of_eq rfl)
    exact hclaimed.finalizePersistedRun run reason now

/-- Gates and suppressions as they were, over runs that may have got a verdict. -/
structure Judging (s s' : HealthGateService) : Prop where
  active : s'.active = s.active
  suppressed : s'.suppressedServices = s.suppressedServices
  drawn : s'.drawn = s.drawn
  taken : s'.taken = s.taken
  started : s'.started = s.started
  runs : RunsFrom s s'

theorem Judging.refl (s : HealthGateService) : Judging s s :=
  ⟨rfl, rfl, rfl, rfl, rfl, runsFrom_of_eq rfl⟩

theorem Judging.trans (h : Judging s s₁) (h' : Judging s₁ s₂) : Judging s s₂ where
  active := h'.active.trans h.active
  suppressed := h'.suppressed.trans h.suppressed
  drawn := h'.drawn.trans h.drawn
  taken := h'.taken.trans h.taken
  started := h'.started.trans h.started
  runs := fun r run' hrun => by
    obtain ⟨run₁, hrun₁, hkey₁⟩ := h'.runs r run' hrun
    obtain ⟨run, hfind, hkey⟩ := h.runs r run₁ hrun₁
    exact ⟨run, hfind, hkey₁.trans hkey⟩

theorem judging_foldl {α : Type} {f : HealthGateService → α → HealthGateService}
    (hf : ∀ s a, Judging s (f s a)) (as : List α) (s : HealthGateService) :
    Judging s (as.foldl f s) :=
  foldlRecOn as f (.refl s) fun t ht a _ => ht.trans (hf t a)

theorem judging_finalizePersistedRun (s : HealthGateService) (run : HealthGateRun)
    (reason : String) (now : Int) : Judging s (s.finalizePersistedRun run reason now) := by
  obtain ⟨db, delivered, heq⟩ := finalizePersistedRun_eq s run reason now
  rw [heq]
  exact ⟨rfl, rfl, rfl, rfl, rfl, runsFrom_runsWith rfl⟩

/-- A reconciled target writes the revision state and the record of deliveries only. -/
theorem reconcileTarget_eq (s : HealthGateService) (now : Int) (t : Target) :
    ∃ db delivered, s.reconcileTarget now t = { s with gitops := db, delivered := delivered } := by
  unfold reconcileTarget
  cases t.pendingHealthRunId.filter fun id => id ≠ "" with
  | none => exact ⟨s.gitops, s.delivered, rfl⟩
  | some runId =>
    dsimp only
    cases (s.gitops.getApplication t.applicationId).filter fun app =>
        app.lifecycleStatus = .active with
    | none => exact ⟨s.gitops, s.delivered, rfl⟩
    | some app =>
      cases s.runs.find? runId with
      | none => exact ⟨_, s.delivered, rfl⟩
      | some run =>
        dsimp only
        cases run.status with
        | observing => exact ⟨s.gitops, s.delivered, rfl⟩
        | ended v => exact recordGitOpsHealthVerdict_eq s run.nodeId run.stackName run.id v now

theorem judging_reconcile (s : HealthGateService) (now : Int) :
    Judging s (s.reconcileVerdictsThatNeverArrived now) := by
  refine judging_foldl (f := fun s t => s.reconcileTarget now t) (fun s t => ?_) _ s
  obtain ⟨db, delivered, heq⟩ := reconcileTarget_eq s now t
  rw [heq]
  exact ⟨rfl, rfl, rfl, rfl, rfl, runsFrom_of_eq rfl⟩

theorem judging_start (s : HealthGateService) (now : Int) :
    Judging { s with started := true } (s.start now) := by
  exact (judging_foldl (fun s run => judging_finalizePersistedRun s run
    "Sencho restarted during observation" now) _ _).trans (judging_reconcile _ now)

theorem Tidy.judging (h : Tidy s) (hj : Judging s s') : Tidy s' := by
  refine h.of_fewer ?_ ?_ hj.runs
  · unfold faces
    rw [hj.active]
  · rw [hj.drawn]
    exact .refl _

theorem crashWriting_eq (s : HealthGateService) (writing : Option (String × GateVerdict))
    (now : Int) :
    s.crashWriting writing now = s.crash ∨
      ∃ runId v run, s.runs.find? runId = some run ∧ run.status = .observing ∧
        s.crashWriting writing now = (s.finalizeHealthGateRun runId v now).crash := by
  unfold crashWriting
  cases writing with
  | none => exact .inl rfl
  | some w =>
    dsimp only
    cases hrun : s.runs.find? w.1 with
    | none => exact .inl rfl
    | some run =>
      dsimp only
      by_cases hstat : run.status = .observing
      · rw [if_pos hstat]
        exact .inr ⟨w.1, w.2, run, hrun, hstat, rfl⟩
      · rw [if_neg hstat]
        exact .inl rfl

theorem Tidy.crash (h : Tidy s) : Tidy s.crash :=
  h.of_fewer (nil_sublist _) (.refl _) (runsFrom_of_eq rfl)

theorem Tidy.finalizeHealthGateRun (h : Tidy s) (runId : String) (v : GateVerdict) (now : Int) :
    Tidy (s.finalizeHealthGateRun runId v now) :=
  h.of_fewer (.refl _) (.refl _) (runsFrom_runsWith rfl)

theorem Tidy.perform (h : Tidy s) (call : HealthGateCall)
    (hfr : ∀ id, call.draws = some id → id ∉ s.drawn) : Tidy (s.perform call) := by
  cases hcall : call.ordinary with
  | true => exact h.outcome (perform_outcome h hcall hfr)
  | false =>
    cases call with
    | stop now =>
      have hoff : Tidy { s with started := false } :=
        h.of_fewer (.refl _) (.refl _) (runsFrom_of_eq rfl)
      have hended : Tidy (({ s with started := false } : HealthGateService).endGates
          (fun _ => true) "shutdown during observation" now) :=
        hoff.endings (endings_endGates _ _ _)
      exact hended.of_fewer (.refl _) (.refl _) (runsFrom_of_eq rfl)
    | start now =>
      have hon : Tidy { s with started := true } :=
        h.of_fewer (.refl _) (.refl _) (runsFrom_of_eq rfl)
      exact hon.judging (judging_start s now)
    | crash writing now =>
      dsimp only [HealthGateService.perform]
      rcases crashWriting_eq s writing now with heq | ⟨runId, v, run, _, _, heq⟩
      · rw [heq]
        exact h.crash
      · rw [heq]
        exact (h.finalizeHealthGateRun runId v now).crash
    | gitops repoKey tr =>
      exact h.of_fewer (.refl _) (.refl _) (runsFrom_of_eq rfl)
    | _ => cases hcall

theorem fresh_of_not_any (h : ¬ (call.draws.any fun id => id ∈ s.drawn) = true) :
    ∀ id, call.draws = some id → id ∉ s.drawn := by
  intro id hid hmem
  rw [hid] at h
  simp [hmem] at h

theorem Tidy.step (h : Tidy s) (call : HealthGateCall) : Tidy (s.step call) := by
  unfold HealthGateService.step
  by_cases hdrawn : (call.draws.any fun id => id ∈ s.drawn) = true
  · rw [if_pos hdrawn]
    exact h
  · rw [if_neg hdrawn]
    exact h.perform call (fresh_of_not_any hdrawn)

/-- In every run no run is observed by two gates, and a gate is about what its run says. -/
theorem gates_tidy (gitops : GitOps.Db) (calls : List HealthGateCall) :
    Tidy (runCalls (init gitops) calls) :=
  Runs.run_invariant (fun _ call h => h.step call) (Tidy.init gitops) calls

end HealthGateService

end Sencho.HealthGate

import Sencho.HealthGate.ServiceOperations
import Sencho.HealthGate.Survival

/-!
# Who keeps Auto-Heal muted

The count of a service's suppressions is the number of operations on it that have not
handed their duty to a gate, and of its gates that are still active.  Where no gate
ends under an operation in progress, that is the number of operations in progress and
of gates that outlived theirs.
-/

namespace Sencho.HealthGate

open Verified GitOps List HealthGateService StackUpdateOrchestrator

namespace StackUpdateOrchestrator

variable {o : StackUpdateOrchestrator} {s s' : HealthGateService} {ops : List ServiceOperation}
variable {g : ActiveGate} {settings : GateSettings} {run : HealthGateRun} {runId : String}

/-! ## The count -/

/-- Whether an operation holds one count: it has begun no gate, or its gate is active. -/
def holds (s : HealthGateService) (op : ServiceOperation) : Bool :=
  match op.run with
  | none => true
  | some runId => runId ∈ s.faces.map Prod.fst

/-- An operation on a service that holds one count. -/
def holdsKey (s : HealthGateService) (key : SuppressKey) (op : ServiceOperation) : Bool :=
  op.key = key && holds s op

/-- Operations and gates agree on who keeps what muted. -/
structure Muted (ops : List ServiceOperation) (s : HealthGateService) : Prop where
  tidy : s.Tidy
  counted : ∀ key, s.suppressedServices key = ops.countP (holdsKey s key)
  ids : (ops.map ServiceOperation.id).Nodup
  runs : ∀ op ∈ ops, ∀ op' ∈ ops, ∀ r, op.run = some r → op'.run = some r → op = op'
  drawn : ∀ op ∈ ops, ∀ r, op.run = some r → r ∈ s.drawn
  owned : ∀ r key k, (r, key) ∈ s.faces → key.suppressKey = some k →
    ∃ op ∈ ops, op.run = some r ∧ op.key = k
  mine : ∀ op ∈ ops, ∀ r key, op.run = some r → (r, key) ∈ s.faces → key.suppressKey = some op.key
  rows : ∀ op ∈ ops, ∀ r run, op.run = some r → s.runs.find? r = some run →
    run.targetScope = .service
  tokenDrawn : ∀ x ∈ s.tokens, x.1 ∈ s.drawn
  token : ∀ op ∈ ops, ∀ t, op.token = some t → t ∈ s.drawn ∧ op.key.serviceName ≠ "" ∧
    ∀ key, (t, key) ∈ s.tokens → key = op.key

section

variable (h : Muted ops s)
include h

theorem Muted.nodup : ops.Nodup := h.ids.of_map _

/-- A change that keeps the gates and the suppressions. -/
theorem Muted.of_same (htidy : s'.Tidy) (hfaces : s'.faces = s.faces)
    (hsup : s'.suppressedServices = s.suppressedServices) (hdrawn : s.drawn ⊆ s'.drawn)
    (hruns : HealthGateService.RunsFrom s s')
    (htokens : ∀ x ∈ s'.tokens, x ∈ s.tokens ∨ (x.1 ∉ s.drawn ∧ x.1 ∈ s'.drawn)) :
    Muted ops s' where
  tidy := htidy
  counted := fun key => by
    have hholds : holdsKey s' key = holdsKey s key := by
      funext op
      unfold holdsKey holds
      rw [hfaces]
    rw [hsup, hholds]
    exact h.counted key
  ids := h.ids
  runs := h.runs
  drawn := fun op hop r hr => hdrawn (h.drawn op hop r hr)
  owned := fun r key k hface hkey => by
    rw [hfaces] at hface
    exact h.owned r key k hface hkey
  mine := fun op hop r key hr hface => by
    rw [hfaces] at hface
    exact h.mine op hop r key hr hface
  rows := fun op hop r run' hr hrun => by
    obtain ⟨run, hfind, hkey⟩ := hruns r run' hrun
    have hscope := h.rows op hop r run hr hfind
    exact (congrArg GateKey.scope hkey).trans hscope
  tokenDrawn := fun x hx => by
    rcases htokens x hx with hold | ⟨_, hnew⟩
    · exact hdrawn (h.tokenDrawn x hold)
    · exact hnew
  token := fun op hop t ht => by
    obtain ⟨htdrawn, hname, hkey⟩ := h.token op hop t ht
    refine ⟨hdrawn htdrawn, hname, fun key hmem => ?_⟩
    rcases htokens (t, key) hmem with hold | ⟨hnew, _⟩
    · exact hkey key hold
    · exact absurd htdrawn hnew

theorem Muted.quiet (hq : HealthGateService.Quiet s s') : Muted ops s' :=
  h.of_same (h.tidy.quiet hq) hq.faces hq.suppressed hq.drawn (runsFrom_of_eq hq.runs) hq.tokens

theorem Muted.judging (hj : HealthGateService.Judging s s') (htokens : s'.tokens = s.tokens) :
    Muted ops s' := by
  refine h.of_same (h.tidy.judging hj) ?_ hj.suppressed ?_ hj.runs ?_
  · unfold faces
    rw [hj.active]
  · rw [hj.drawn]
    exact .refl _
  · intro x hx
    rw [htokens] at hx
    exact .inl hx

end

/-! ## The end of a gate -/

theorem mem_filter_faces {r : String} {faces : List (String × GateKey)} :
    r ∈ (faces.filter fun face => face.1 ≠ runId).map Prod.fst ↔
      r ∈ faces.map Prod.fst ∧ r ≠ runId := by
  constructor
  · intro hmem
    obtain ⟨face, hface, rfl⟩ := mem_map.mp hmem
    obtain ⟨hin, hne⟩ := mem_filter.mp hface
    exact ⟨mem_map.mpr ⟨face, hin, rfl⟩, by simpa using hne⟩
  · rintro ⟨hmem, hne⟩
    obtain ⟨face, hface, rfl⟩ := mem_map.mp hmem
    exact mem_map.mpr ⟨face, mem_filter.mpr ⟨hface, by simpa using hne⟩, rfl⟩

/-- An operation whose gate is another one holds what it held. -/
theorem holds_of_ne (hfaces : s'.faces = s.faces.filter fun face => face.1 ≠ runId)
    {op : ServiceOperation} (hne : op.run ≠ some runId) : holds s' op = holds s op := by
  unfold holds
  cases hrun : op.run with
  | none => rfl
  | some r =>
    have hr : r ≠ runId := fun h => hne (by rw [hrun, h])
    rw [hfaces]
    simp only [mem_filter_faces, hr, ne_eq, not_false_iff, and_true]

theorem released_of_none (h : g.suppressKey = none) : s.released g = s.suppressedServices := by
  unfold released
  rw [h]

theorem released_of_some {k : SuppressKey} (h : g.suppressKey = some k) (key : SuppressKey) :
    s.released g key = if key = k then s.suppressedServices k - 1 else s.suppressedServices key := by
  unfold released
  rw [h]
  unfold clearSuppress
  dsimp only
  rw [Function.update_apply]
  split
  · split <;> omega
  · rfl

section

variable (h : Muted ops s)
include h

/-- The end of a gate that owned a count takes it from the operation that began it. -/
theorem Muted.counted_ended (hg : g ∈ s.active)
    (hfaces : s'.faces = s.faces.filter fun face => face.1 ≠ g.runId) (key : SuppressKey) :
    s.released g key = ops.countP (holdsKey s' key) := by
  have hface := mem_faces_of_active hg
  have hsame : ∀ op, op.run ≠ some g.runId → ∀ key, holdsKey s' key op = holdsKey s key op := by
    intro op hne key
    unfold holdsKey
    rw [holds_of_ne hfaces hne]
  cases hkey : g.suppressKey with
  | none =>
    have hnobody : ∀ op ∈ ops, op.run ≠ some g.runId := by
      intro op hop hrun
      have hmine := h.mine op hop _ _ hrun hface
      rw [← ActiveGate.suppressKey_eq, hkey] at hmine
      cases hmine
    rw [released_of_none hkey, h.counted key]
    exact countP_congr fun op hop => by rw [hsame op (hnobody op hop) key]
  | some k =>
    obtain ⟨op, hop, hrun, hopkey⟩ := h.owned _ _ k hface hkey
    have hothers : ∀ op' ∈ ops, op' ≠ op → op'.run ≠ some g.runId :=
      fun op' hop' hne hrun' => hne (h.runs op' hop' op hop _ hrun' hrun)
    rw [released_of_some hkey]
    by_cases hk : key = k
    · have hheld : holdsKey s key op = true := by
        unfold holdsKey holds
        rw [hrun, hopkey, hk]
        simp only [decide_true, Bool.true_and, decide_eq_true_eq]
        exact mem_map.mpr ⟨_, hface, rfl⟩
      have hlost : holdsKey s' key op = false := by
        unfold holdsKey holds
        rw [hrun, hfaces]
        simp only [mem_filter_faces, ne_eq, not_true, and_false, decide_false, Bool.and_false]
      have hcount := countP_lose h.nodup hop hheld hlost fun op' hop' hne =>
        (hsame op' (hothers op' hop' hne) key).symm
      have hcounted := h.counted key
      rw [if_pos hk]
      rw [hk] at hcount hcounted ⊢
      omega
    · rw [if_neg hk, h.counted key]
      refine countP_congr fun op' hop' => ?_
      by_cases hsame' : op' = op
      · subst hsame'
        have hother : op'.key ≠ key := fun h => hk (h.symm.trans hopkey)
        simp [holdsKey, hother]
      · rw [hsame op' (hothers op' hop' hsame') key]

theorem Muted.endGate (runId : String) (v : GateVerdict) (now : Int) :
    Muted ops (s.endGate runId v now) := by
  cases hfind : s.active.find? fun g => g.runId = runId with
  | none =>
    rw [endGate_of_not_active hfind]
    exact h
  | some g =>
    obtain ⟨hg, hid⟩ := mem_key_of_find? hfind
    have hfaces := faces_endGate s runId v now
    have htidy := h.tidy.endGate runId v now
    obtain ⟨db, delivered, hend⟩ := endGate_of_active hfind v now
    have hsup : (s.endGate runId v now).suppressedServices = s.released g := by rw [hend]
    have hdrawn : (s.endGate runId v now).drawn = s.drawn := by rw [hend]
    have htokens : (s.endGate runId v now).tokens = s.tokens := by rw [hend]; rfl
    have hruns : HealthGateService.RunsFrom s (s.endGate runId v now) := by
      rw [hend]
      exact runsFrom_runsWith rfl
    have hfewer : ∀ face ∈ (s.endGate runId v now).faces, face ∈ s.faces := by
      rw [hfaces]
      exact fun face hface => (mem_filter.mp hface).1
    refine ⟨htidy, fun key => ?_, h.ids, h.runs, ?_, ?_, ?_, ?_, ?_, ?_⟩
    · rw [hsup]
      refine h.counted_ended hg ?_ key
      rw [hfaces, hid]
    · rw [hdrawn]
      exact h.drawn
    · exact fun r key k hface hkey => h.owned r key k (hfewer _ hface) hkey
    · exact fun op hop r key hr hface => h.mine op hop r key hr (hfewer _ hface)
    · intro op hop r run' hr hrun
      obtain ⟨run, hfind', hkey⟩ := hruns r run' hrun
      exact (congrArg GateKey.scope hkey).trans (h.rows op hop r run hr hfind')
    · rw [htokens, hdrawn]
      exact h.tokenDrawn
    · rw [htokens, hdrawn]
      exact h.token

theorem Muted.endings (he : HealthGateService.Endings s s') : Muted ops s' := by
  induction he with
  | refl => exact h
  | tail _ hstep ih =>
    cases hstep with
    | quiet hq => exact ih.quiet hq
    | ended runId v now => exact ih.endGate runId v now

/-! ## New gates -/

/-- A new gate that no operation began changes nobody's hold. -/
theorem Muted.counted_added {added : List (String × GateKey)} (hfaces : s'.faces = s.faces ++ added)
    (hnobody : ∀ op ∈ ops, ∀ face ∈ added, op.run ≠ some face.1)
    (hsup : s'.suppressedServices = s.suppressedServices) (key : SuppressKey) :
    s'.suppressedServices key = ops.countP (holdsKey s' key) := by
  rw [hsup, h.counted key]
  refine countP_congr fun op hop => ?_
  unfold holdsKey holds
  cases hrun : op.run with
  | none => rfl
  | some r =>
    have hnew : r ∉ added.map Prod.fst := by
      intro hmem
      obtain ⟨face, hface, rfl⟩ := mem_map.mp hmem
      exact hnobody op hop face hface hrun
    simp only [hfaces, map_append, mem_append, hnew, or_false]

theorem Muted.inserted {gate : Option ActiveGate} (hins : HealthGateService.Inserted s s' run gate)
    (hscope : ∀ g ∈ gate, g.key.suppressKey = none) : Muted ops s' := by
  have hnobody : ∀ op ∈ ops, op.run ≠ some run.id :=
    fun op hop hrun => hins.fresh (h.drawn op hop _ hrun)
  have hadded : ∀ face ∈ gate.toList.map (fun g => (g.runId, g.key)),
      face.1 = run.id ∧ face.2.suppressKey = none := by
    intro face hface
    obtain ⟨g, hg, rfl⟩ := mem_map.mp hface
    have hmem : g ∈ gate := by simpa using hg
    exact ⟨(hins.gate_eq g hmem).1, hscope g hmem⟩
  have hrows : ∀ r run', s'.runs.find? r = some run' → r ≠ run.id → s.runs.find? r = some run' := by
    intro r run' hrun hne
    rw [hins.runs r, if_neg hne] at hrun
    exact (Option.filter_eq_some_iff.mp hrun).1
  have hdrawn : s.drawn ⊆ s'.drawn := by
    rw [hins.drawn]
    exact subset_cons_self _ _
  refine ⟨h.tidy.inserted hins, ?_, h.ids, h.runs, ?_, ?_, ?_, ?_, ?_, ?_⟩
  · refine h.counted_added hins.faces (fun op hop face hface => ?_) hins.suppressed
    rw [(hadded face hface).1]
    exact hnobody op hop
  · exact fun op hop r hr => hdrawn (h.drawn op hop r hr)
  · intro r key k hface hkey
    rw [hins.faces, mem_append] at hface
    rcases hface with hold | hnew
    · exact h.owned r key k hold hkey
    · rw [(hadded _ hnew).2] at hkey
      cases hkey
  · intro op hop r key hr hface
    rw [hins.faces, mem_append] at hface
    rcases hface with hold | hnew
    · exact h.mine op hop r key hr hold
    · have hid : r = run.id := (hadded _ hnew).1
      exact absurd (hid ▸ hr) (hnobody op hop)
  · intro op hop r run' hr hrun
    have hne : r ≠ run.id := fun hid => hnobody op hop (hid ▸ hr)
    exact h.rows op hop r run' hr (hrows r run' hrun hne)
  · intro x hx
    rw [hins.tokens] at hx
    exact hdrawn (h.tokenDrawn x hx)
  · intro op hop t ht
    obtain ⟨htdrawn, hname, hkey⟩ := h.token op hop t ht
    refine ⟨hdrawn htdrawn, hname, fun key hmem => ?_⟩
    rw [hins.tokens] at hmem
    exact hkey key hmem

theorem Muted.armed (harmed : HealthGateService.Armed s s' run g) : Muted ops s' := by
  obtain ⟨hid, hkey⟩ := harmed.gate_eq
  have hnobody : ∀ op ∈ ops, op.run ≠ some run.id := by
    intro op hop hrun
    have hscope := h.rows op hop _ run hrun harmed.found
    rw [harmed.stackWide] at hscope
    cases hscope
  have hnokey : run.key.suppressKey = none := by
    unfold GateKey.suppressKey HealthGateRun.key
    rw [harmed.stackWide]
  have hfaces : s'.faces = s.faces ++ [(run.id, run.key)] := by
    rw [harmed.eq]
    simp [faces, hid, hkey]
  have hdrawn : s'.drawn = s.drawn := by rw [harmed.eq]
  have htokens : s'.tokens = s.tokens := by rw [harmed.eq]; rfl
  have hruns : s'.runs = s.runs := by rw [harmed.eq]
  refine ⟨h.tidy.armed harmed, ?_, h.ids, h.runs, ?_, ?_, ?_, ?_, ?_, ?_⟩
  · refine h.counted_added hfaces (fun op hop face hface => ?_) (by rw [harmed.eq])
    rw [mem_singleton.mp hface]
    exact hnobody op hop
  · rw [hdrawn]
    exact h.drawn
  · intro r key k hface hk
    rw [hfaces, mem_append, mem_singleton] at hface
    rcases hface with hold | hnew
    · exact h.owned r key k hold hk
    · cases hnew
      rw [hnokey] at hk
      cases hk
  · intro op hop r key hr hface
    rw [hfaces, mem_append, mem_singleton] at hface
    rcases hface with hold | hnew
    · exact h.mine op hop r key hr hold
    · cases hnew
      exact absurd hr (hnobody op hop)
  · intro op hop r run' hr hrun
    rw [hruns] at hrun
    exact h.rows op hop r run' hr hrun
  · rw [htokens, hdrawn]
    exact h.tokenDrawn
  · rw [htokens, hdrawn]
    exact h.token

end

/-! ## Calls -/

/-- Only a prepared gate is about one service. -/
theorem insertion_stackWide {call : HealthGateCall} {t : HealthGateService}
    (hcall : byOperation call = false) (h : s.insertion call = some (t, run)) :
    run.key.suppressKey = none := by
  have hstack : run.key.scope = .stack := by
    cases call with
    | beginStack =>
      unfold insertion at h
      dsimp only at h
      split at h
      · cases h
      · cases h
        split <;> rfl
    | reserveRecoveryRun | reserveRolloutRun =>
      unfold insertion at h
      dsimp only at h
      split at h
      · cases h
      · cases h
        rfl
    | beginPrepared => cases hcall
    | _ => cases h
  unfold GateKey.suppressKey
  rw [hstack]

theorem Muted.outcome (h : Muted ops s) {call : HealthGateCall} (hcall : byOperation call = false)
    (ho : HealthGateService.Outcome s call s') : Muted ops s' := by
  cases ho with
  | ends hends => exact h.endings hends
  | @inserts t u run gate hends hwr hins hrest =>
    have hnone := insertion_stackWide hcall hwr
    have hinserted := (h.endings hends).inserted hins fun g hg => by
      rw [(hins.gate_eq g hg).2.1]
      exact hnone
    exact hinserted.quiet hrest
  | arms hends harmed => exact (h.endings hends).armed harmed
  | @abandons run _ _ reason now hcall hget hstat heq =>
    obtain ⟨db, delivered, hfinal⟩ := finalizePersistedRun_eq
      { s with taken := run.id :: s.taken } run reason now
    rw [heq, hfinal]
    have hruns : HealthGateService.RunsFrom s { s with
          taken := run.id :: s.taken
          runs := s.runsWith run.id ⟨.unknown, some reason, run.containers, none⟩ now
          verdicts := (run.id, ⟨.unknown, some reason, run.containers, none⟩) :: s.verdicts
          gitops := db
          delivered := delivered } := runsFrom_runsWith rfl
    exact h.of_same (h.tidy.of_fewer (.refl _) (.refl _) hruns) rfl rfl
      (.refl _) hruns fun _ hx => .inl hx

theorem Muted.flagged (h : Muted ops s) (started : Bool) :
    Muted ops { s with started := started } :=
  h.of_same (h.tidy.of_fewer (.refl _) (.refl _)
    (runsFrom_of_eq rfl)) rfl rfl (.refl _)
    (runsFrom_of_eq rfl) fun _ hx => .inl hx

theorem tokens_start (s : HealthGateService) (now : Int) : (s.start now).tokens = s.tokens := by
  refine foldlRecOn (motive := fun t : HealthGateService => t.tokens = s.tokens) _ _ ?_
    fun t ht target _ => ?_
  · refine foldlRecOn (motive := fun t : HealthGateService => t.tokens = s.tokens) _ _ rfl
      fun t ht run _ => ?_
    obtain ⟨db, delivered, heq⟩ := finalizePersistedRun_eq t run
      "Sencho restarted during observation" now
    rw [heq]
    exact ht
  · obtain ⟨db, delivered, heq⟩ := reconcileTarget_eq t now target
    rw [heq]
    exact ht

section

variable (h : Muted ops s)
include h

/-- A process that ended keeps no count. -/
theorem Muted.crash : Muted [] s.crash where
  tidy := h.tidy.crash
  counted := fun _ => rfl
  ids := nodup_nil
  runs := fun _ hop => absurd hop not_mem_nil
  drawn := fun _ hop => absurd hop not_mem_nil
  owned := fun _ _ _ hface => absurd hface not_mem_nil
  mine := fun _ hop => absurd hop not_mem_nil
  rows := fun _ hop => absurd hop not_mem_nil
  tokenDrawn := fun _ hx => absurd hx not_mem_nil
  token := fun _ hop => absurd hop not_mem_nil

theorem Muted.written (runId : String) (v : GateVerdict) (now : Int) :
    Muted ops (s.finalizeHealthGateRun runId v now) :=
  h.of_same (h.tidy.finalizeHealthGateRun runId v now) rfl rfl (.refl _)
    (runsFrom_runsWith rfl) fun _ hx => .inl hx

/-- A call no operation makes. -/
theorem Muted.call {call : HealthGateCall} (hcall : byOperation call = false) :
    Muted (survivors call ops) (s.step call) := by
  unfold HealthGateService.step
  by_cases hdrawn : (call.draws.any fun id => id ∈ s.drawn) = true
  · rw [if_pos hdrawn]
    cases call with
    | crash writing now => simp [HealthGateCall.draws] at hdrawn
    | _ => exact h
  · rw [if_neg hdrawn]
    have hfr := fresh_of_not_any hdrawn
    cases hordinary : call.ordinary with
    | true =>
      have hmuted := h.outcome hcall (perform_outcome h.tidy hordinary hfr)
      cases call with
      | crash => cases hordinary
      | _ => exact hmuted
    | false =>
      cases call with
      | stop now =>
        have hended := (h.flagged false).endings
          (endings_endGates (fun _ => true) "shutdown during observation" now)
        refine hended.of_same (hended.tidy.of_fewer (.refl _) (.refl _)
          (runsFrom_of_eq rfl)) rfl rfl (.refl _)
          (runsFrom_of_eq rfl) fun x hx => .inl ?_
        rcases mem_append.mp hx with hpreparing | hprepared
        · exact mem_append_left _ hpreparing
        · exact absurd hprepared not_mem_nil
      | start now =>
        exact (h.flagged true).judging (judging_start s now) (tokens_start s now)
      | crash writing now =>
        have hcrash := crashWriting_eq s writing now
        dsimp only [perform, survivors]
        rcases hcrash with heq | ⟨runId, v, run, _, _, heq⟩
        · rw [heq]
          exact h.crash
        · rw [heq]
          exact (h.written runId v now).crash
      | gitops repoKey tr =>
        exact h.of_same (h.tidy.of_fewer (.refl _) (.refl _)
          (runsFrom_of_eq rfl)) rfl rfl (.refl _)
          (runsFrom_of_eq rfl) fun _ hx => .inl hx
      | _ => cases hordinary

/-! ## Operations -/

/-- A rewrite of operations that keeps who holds what. -/
theorem Muted.rewritten {f : ServiceOperation → ServiceOperation} (hid : ∀ op, (f op).id = op.id)
    (hkey : ∀ op, (f op).key = op.key) (hrun : ∀ op ∈ ops, (f op).run = op.run)
    (htoken : ∀ op ∈ ops, ∀ t, (f op).token = some t → op.token = some t ∨
      (t ∈ s.drawn ∧ op.key.serviceName ≠ "" ∧ ∀ key, (t, key) ∈ s.tokens → key = op.key)) :
    Muted (ops.map f) s where
  tidy := h.tidy
  counted := fun key => by
    rw [countP_map, h.counted key]
    refine countP_congr fun op hop => ?_
    simp only [Function.comp_apply, holdsKey, holds, hkey, hrun op hop]
  ids := by
    rw [map_map]
    have hids : ServiceOperation.id ∘ f = ServiceOperation.id := funext hid
    rw [hids]
    exact h.ids
  runs := fun op hop op' hop' r hr hr' => by
    obtain ⟨old, hold, rfl⟩ := mem_map.mp hop
    obtain ⟨old', hold', rfl⟩ := mem_map.mp hop'
    rw [hrun old hold] at hr
    rw [hrun old' hold'] at hr'
    rw [h.runs old hold old' hold' r hr hr']
  drawn := fun op hop r hr => by
    obtain ⟨old, hold, rfl⟩ := mem_map.mp hop
    rw [hrun old hold] at hr
    exact h.drawn old hold r hr
  owned := fun r key k hface hk => by
    obtain ⟨op, hop, hr, hopkey⟩ := h.owned r key k hface hk
    exact ⟨f op, mem_map_of_mem hop, (hrun op hop).trans hr, (hkey op).trans hopkey⟩
  mine := fun op hop r key hr hface => by
    obtain ⟨old, hold, rfl⟩ := mem_map.mp hop
    rw [hrun old hold] at hr
    rw [hkey]
    exact h.mine old hold r key hr hface
  rows := fun op hop r run hr hfind => by
    obtain ⟨old, hold, rfl⟩ := mem_map.mp hop
    rw [hrun old hold] at hr
    exact h.rows old hold r run hr hfind
  tokenDrawn := h.tokenDrawn
  token := fun op hop t ht => by
    obtain ⟨old, hold, rfl⟩ := mem_map.mp hop
    rw [hkey]
    rcases htoken old hold t ht with hsame | hnew
    · exact h.token old hold t hsame
    · exact hnew

/-- Fewer operations, where the ones that leave hold nothing. -/
theorem Muted.without (id : String) {sup : SuppressKey → Nat}
    (hcounted : ∀ key, sup key = (ops.filter fun op => op.id ≠ id).countP (holdsKey s key))
    (hfree : ∀ op ∈ ops, op.id = id → op.run = none) :
    Muted (ops.filter fun op => op.id ≠ id) { s with suppressedServices := sup } where
  tidy := h.tidy.of_fewer (.refl _) (.refl _) (runsFrom_of_eq rfl)
  counted := hcounted
  ids := (filter_sublist.map _).nodup h.ids
  runs := fun op hop op' hop' =>
    h.runs op (mem_filter.mp hop).1 op' (mem_filter.mp hop').1
  drawn := fun op hop => h.drawn op (mem_filter.mp hop).1
  owned := fun r key k hface hk => by
    obtain ⟨op, hop, hr, hopkey⟩ := h.owned r key k hface hk
    refine ⟨op, mem_filter.mpr ⟨hop, ?_⟩, hr, hopkey⟩
    rw [decide_eq_true_eq]
    intro hid
    rw [hfree op hop hid] at hr
    cases hr
  mine := fun op hop => h.mine op (mem_filter.mp hop).1
  rows := fun op hop => h.rows op (mem_filter.mp hop).1
  tokenDrawn := h.tokenDrawn
  token := fun op hop => h.token op (mem_filter.mp hop).1

theorem eq_of_id {op op' : ServiceOperation} (hop : op ∈ ops) (hop' : op' ∈ ops)
    (hid : op'.id = op.id) : op' = op :=
  inj_on_of_nodup_map h.ids hop' hop hid

end

variable {now : Int} {op : ServiceOperation} {id : String}

theorem inProgress_eq (h : o.inProgress id = some op) :
    op ∈ o.operations ∧ op.id = id ∧ ∀ runId, op.phase ≠ .done runId := by
  obtain ⟨hfind, hph⟩ := Option.filter_eq_some_iff.mp h
  refine ⟨mem_of_find?_eq_some hfind, by simpa using find?_some hfind, ?_⟩
  intro runId hdone
  rw [hdone] at hph
  cases hph

/-- An operation mutes its service. -/
theorem Muted.muted (h : Muted ops s) (restore : Bool) (key : SuppressKey)
    (hnew : ∀ op ∈ ops, op.id ≠ id) :
    Muted (ops ++ [⟨id, restore, key, none, .running, false, false⟩]) (s.suppress key) := by
  have hcases : ∀ op ∈ ops ++ [(⟨id, restore, key, none, .running, false, false⟩ :
      ServiceOperation)], op ∈ ops ∨ (op.run = none ∧ op.token = none) := by
    intro op hop
    rcases mem_append.mp hop with hold | hadded
    · exact .inl hold
    · rw [mem_singleton.mp hadded]
      exact .inr ⟨rfl, rfl⟩
  refine ⟨h.tidy.of_fewer (.refl _) (.refl _)
    (runsFrom_of_eq rfl), fun key' => ?_, ?_, ?_, ?_, ?_, ?_, ?_, h.tokenDrawn,
    ?_⟩
  · have hsame : holdsKey (s.suppress key) key' = holdsKey s key' := rfl
    rw [hsame, countP_append, countP_singleton, ← h.counted key']
    unfold suppress
    dsimp only
    rw [Function.update_apply]
    by_cases hk : key' = key
    · subst hk
      simp [holdsKey, holds, ServiceOperation.run]
    · simp [holdsKey, Ne.symm hk, hk]
  · rw [map_append]
    refine nodup_append'.mpr ⟨h.ids, by simp, ?_⟩
    intro id' hmem hmem'
    obtain ⟨op, hop, rfl⟩ := mem_map.mp hmem
    simp only [map_cons, map_nil, mem_singleton] at hmem'
    exact hnew op hop hmem'
  · intro op hop op' hop' r hr hr'
    rcases hcases op hop with hold | ⟨hnone, _⟩
    · rcases hcases op' hop' with hold' | ⟨hnone', _⟩
      · exact h.runs op hold op' hold' r hr hr'
      · rw [hnone'] at hr'
        cases hr'
    · rw [hnone] at hr
      cases hr
  · intro op hop r hr
    rcases hcases op hop with hold | ⟨hnone, _⟩
    · exact h.drawn op hold r hr
    · rw [hnone] at hr
      cases hr
  · intro r key' k hface hk
    obtain ⟨op, hop, hr, hopkey⟩ := h.owned r key' k hface hk
    exact ⟨op, mem_append_left _ hop, hr, hopkey⟩
  · intro op hop r key' hr hface
    rcases hcases op hop with hold | ⟨hnone, _⟩
    · exact h.mine op hold r key' hr hface
    · rw [hnone] at hr
      cases hr
  · intro op hop r run hr hfind
    rcases hcases op hop with hold | ⟨hnone, _⟩
    · exact h.rows op hold r run hr hfind
    · rw [hnone] at hr
      cases hr
  · intro op hop t ht
    rcases hcases op hop with hold | ⟨_, hnone⟩
    · exact h.token op hold t ht
    · rw [hnone] at ht
      cases ht

/-- An operation that has no gate ends: its cleanup unmutes. -/
theorem Muted.finished (h : Muted ops s) (hop : op ∈ ops) (hrun : op.run = none) :
    Muted (ops.filter fun op' => op'.id ≠ op.id) (s.clearSuppress op.key) := by
  have hheld : holdsKey s op.key op = true := by
    unfold holdsKey holds
    rw [hrun]
    simp
  have hcounted : ∀ key, (s.clearSuppress op.key).suppressedServices key =
      (ops.filter fun op' => op'.id ≠ op.id).countP (holdsKey s key) := by
    intro key
    rw [countP_filter]
    unfold clearSuppress
    dsimp only
    rw [Function.update_apply]
    by_cases hk : key = op.key
    · rw [if_pos hk, hk]
      have hlose := countP_lose (q := fun op' => holdsKey s op.key op' && decide (op'.id ≠ op.id))
        h.nodup hop hheld (by simp) fun op' hop' hne => by
          have hid : op'.id ≠ op.id := fun hid => hne (eq_of_id h hop hop' hid)
          simp [hid]
      have hcount := h.counted op.key
      split <;> omega
    · rw [if_neg hk, h.counted key]
      refine countP_congr fun op' hop' => ?_
      by_cases hid : op'.id = op.id
      · rw [eq_of_id h hop hop' hid]
        simp [holdsKey, Ne.symm hk]
      · simp [hid]
  exact h.without op.id hcounted fun op' hop' hid => by rw [eq_of_id h hop hop' hid, hrun]

/-- The rewrite of one operation by a gate that has begun for it. -/
def begun (id runId : String) (op : ServiceOperation) : ServiceOperation :=
  if op.id = id then { op with phase := .observing runId, consumed := true } else op

theorem begun_run {x : ServiceOperation} (hx : x.id = op.id) :
    (begun op.id runId x).run = some runId := by
  unfold begun
  rw [if_pos hx]
  rfl

theorem begun_of_ne {x : ServiceOperation} (hx : x.id ≠ op.id) : begun op.id runId x = x := by
  unfold begun
  rw [if_neg hx]

theorem begun_key (id runId : String) (op : ServiceOperation) :
    (begun id runId op).key = op.key ∧ (begun id runId op).id = op.id ∧
      (begun id runId op).token = op.token := by
  unfold begun
  split <;> exact ⟨rfl, rfl, rfl⟩

/-- A gate has begun for an operation, which passes its count on to it. -/
theorem Muted.begun (h : Muted ops s) (hop : op ∈ ops) (hrun : op.run = none) {gate : ActiveGate}
    (hins : HealthGateService.Inserted s s' run (some gate))
    (hkey : run.key.suppressKey = some op.key) : Muted (ops.map (begun op.id run.id)) s' := by
  obtain ⟨hid, hgate, _⟩ := hins.gate_eq gate rfl
  have hfaces : s'.faces = s.faces ++ [(run.id, run.key)] := by
    rw [hins.faces]
    simp [hid, hgate]
  have hdrawn : s.drawn ⊆ s'.drawn := by
    rw [hins.drawn]
    exact subset_cons_self _ _
  have hnobody : ∀ x ∈ ops, x.run ≠ some run.id :=
    fun x hx hr => hins.fresh (h.drawn x hx _ hr)
  have hmapped : ∀ x ∈ ops.map (StackUpdateOrchestrator.begun op.id run.id),
      (x.run = some run.id ∧ x = StackUpdateOrchestrator.begun op.id run.id op) ∨
        (x ∈ ops ∧ x ≠ op) := by
    intro x hx
    obtain ⟨y, hy, rfl⟩ := mem_map.mp hx
    by_cases hyid : y.id = op.id
    · have hyop := eq_of_id h hop hy hyid
      subst hyop
      exact .inl ⟨begun_run rfl, rfl⟩
    · rw [begun_of_ne hyid]
      exact .inr ⟨hy, fun heq => hyid (congrArg ServiceOperation.id heq)⟩
  have hscope : run.targetScope = .service := by
    cases hstack : run.targetScope with
    | service => rfl
    | stack =>
      unfold GateKey.suppressKey HealthGateRun.key at hkey
      rw [hstack] at hkey
      cases hkey
  refine ⟨h.tidy.inserted hins, fun key => ?_, ?_, ?_, ?_, ?_, ?_, ?_, ?_, ?_⟩
  · rw [hins.suppressed, countP_map, h.counted key]
    refine countP_congr fun x hx => ?_
    dsimp only [Function.comp_apply]
    unfold holdsKey holds
    rw [(begun_key op.id run.id x).1]
    by_cases hxid : x.id = op.id
    · rw [begun_run hxid, eq_of_id h hop hx hxid, hrun, hfaces]
      simp
    · rw [begun_of_ne hxid]
      cases hxrun : x.run with
      | none => rfl
      | some r =>
        have hne : r ≠ run.id := fun heq => hnobody x hx (heq ▸ hxrun)
        simp only [hfaces, map_append, mem_append, map_cons, map_nil, mem_singleton, hne, or_false]
  · rw [map_map]
    have hids : ServiceOperation.id ∘ StackUpdateOrchestrator.begun op.id run.id =
        ServiceOperation.id := funext fun x => (begun_key op.id run.id x).2.1
    rw [hids]
    exact h.ids
  · intro x hx y hy r hxr hyr
    rcases hmapped x hx with ⟨hnew, heq⟩ | ⟨hold, _⟩
    · rcases hmapped y hy with ⟨_, heq'⟩ | ⟨hold', _⟩
      · rw [heq, heq']
      · rw [hnew] at hxr
        exact absurd (hyr.trans hxr.symm) (hnobody y hold')
    · rcases hmapped y hy with ⟨hnew', _⟩ | ⟨hold', _⟩
      · rw [hnew'] at hyr
        exact absurd (hxr.trans hyr.symm) (hnobody x hold)
      · exact h.runs x hold y hold' r hxr hyr
  · intro x hx r hr
    rcases hmapped x hx with ⟨hnew, _⟩ | ⟨hold, _⟩
    · rw [hnew] at hr
      cases hr
      rw [hins.drawn]
      exact mem_cons_self
    · exact hdrawn (h.drawn x hold r hr)
  · intro r key k hface hk
    rw [hfaces, mem_append, mem_singleton] at hface
    rcases hface with hold | hnew
    · obtain ⟨x, hx, hxr, hxkey⟩ := h.owned r key k hold hk
      have hxid : x.id ≠ op.id := fun hxid => by
        rw [eq_of_id h hop hx hxid, hrun] at hxr
        cases hxr
      exact ⟨x, mem_map.mpr ⟨x, hx, begun_of_ne hxid⟩, hxr, hxkey⟩
    · cases hnew
      rw [hkey] at hk
      cases hk
      exact ⟨_, mem_map_of_mem hop, begun_run rfl, (begun_key op.id run.id op).1⟩
  · intro x hx r key hr hface
    rw [hfaces, mem_append, mem_singleton] at hface
    rcases hmapped x hx with ⟨hnew, heq⟩ | ⟨hold, _⟩
    · rw [hnew] at hr
      cases hr
      rcases hface with hface | hface
      · exact absurd (h.tidy.gateDrawn _ _ hface) hins.fresh
      · cases hface
        rw [hkey, heq, (begun_key op.id run.id op).1]
    · rcases hface with hface | hface
      · exact h.mine x hold r key hr hface
      · cases hface
        exact absurd hr (hnobody x hold)
  · intro x hx r run' hr hfind
    rw [hins.runs r] at hfind
    have hkept := (Option.filter_eq_some_iff.mp hfind).1
    rcases hmapped x hx with ⟨hnew, _⟩ | ⟨hold, _⟩
    · rw [hnew] at hr
      cases hr
      rw [if_pos rfl] at hkept
      cases hkept
      exact hscope
    · have hne : r ≠ run.id := fun heq => hnobody x hold (heq ▸ hr)
      rw [if_neg hne] at hkept
      exact h.rows x hold r run' hr hkept
  · intro x hx
    rw [hins.tokens] at hx
    exact hdrawn (h.tokenDrawn x hx)
  · intro x hx t ht
    obtain ⟨y, hy, rfl⟩ := mem_map.mp hx
    obtain ⟨hykey, _, hytoken⟩ := begun_key op.id run.id y
    rw [hytoken] at ht
    obtain ⟨htdrawn, hname, htkey⟩ := h.token y hy t ht
    rw [hykey]
    refine ⟨hdrawn htdrawn, hname, fun key hmem => ?_⟩
    rw [hins.tokens] at hmem
    exact htkey key hmem

theorem startPrepare_tokens {token : String} {nodeId : Int} {stackName serviceName : String}
    {trigger : RunTrigger} {expectedReplicas : Nat} (hdrawn : ∀ x ∈ s.tokens, x.1 ∈ s.drawn)
    (hfr : token ∉ s.drawn) {key : SuppressKey}
    (hmem : (token, key) ∈ (s.startPrepare token nodeId stackName serviceName trigger
      expectedReplicas settings now).tokens) : key = ⟨nodeId, stackName, serviceName⟩ := by
  have hold : ∀ key, (token, key) ∉ s.tokens := fun key h => hfr (hdrawn _ h)
  rcases mem_append.mp hmem with hpreparing | hprepared
  · obtain ⟨p, hp, heq⟩ := mem_map.mp hpreparing
    rcases mem_append.mp hp with hp | hp
    · exact absurd (mem_append_left _ (mem_map.mpr ⟨p, hp, heq⟩)) (hold key)
    · rw [mem_singleton.mp hp] at heq
      exact (Prod.mk.inj heq).2.symm
  · obtain ⟨p, hp, heq⟩ := mem_map.mp hprepared
    exact absurd (mem_append_right _ (mem_map.mpr ⟨p, (mem_filter.mp hp).1, heq⟩)) (hold key)

theorem Muted.prepared (h : Muted o.operations o.service) {token : String} {trigger : RunTrigger}
    {expectedReplicas : Nat} :
    Muted (o.step (.prepare id token trigger expectedReplicas settings now)).operations
      (o.step (.prepare id token trigger expectedReplicas settings now)).service := by
  dsimp only [step]
  cases hfind : o.inProgress id with
  | none => exact h
  | some op =>
    dsimp only
    split
    · exact h
    · rename_i hok
      obtain ⟨hrunning, hnone, hname, hfr⟩ : op.phase = .running ∧ op.token = none ∧
          op.key.serviceName ≠ "" ∧ token ∉ o.service.drawn := by
        simpa [not_or] using hok
      obtain ⟨hop, hid, _⟩ := inProgress_eq hfind
      have hstep : o.service.step (.prepare token op.key.nodeId op.key.stackName
          op.key.serviceName trigger expectedReplicas settings now) =
          o.service.startPrepare token op.key.nodeId op.key.stackName op.key.serviceName
            trigger expectedReplicas settings now := by
        unfold HealthGateService.step
        rw [if_neg (by simpa [HealthGateCall.draws] using hfr)]
        rfl
      rw [hstep]
      have hprepared : Muted o.operations (o.service.startPrepare token op.key.nodeId
          op.key.stackName op.key.serviceName trigger expectedReplicas settings now) :=
        h.quiet (quiet_startPrepare hfr)
      refine hprepared.rewritten (fun x => ?_) (fun x => ?_) (fun x _ => ?_) fun x hx t ht => ?_
      · split <;> rfl
      · split <;> rfl
      · split <;> rfl
      · by_cases hxid : x.id = id
        · rw [if_pos hxid] at ht
          cases ht
          have hxop : x = op := eq_of_id h hop hx (hxid.trans hid.symm)
          subst hxop
          exact .inr ⟨mem_cons_self, hname, fun key hmem =>
            startPrepare_tokens h.tokenDrawn hfr hmem⟩
        · rw [if_neg hxid] at ht
          exact .inl ht

theorem Muted.observed (h : Muted o.operations o.service) {actor : Option String} :
    Muted (o.step (.observe id actor runId settings now)).operations
      (o.step (.observe id actor runId settings now)).service := by
  dsimp only [step]
  by_cases hfr : runId ∈ o.service.drawn
  · rw [if_pos hfr]
    exact h
  · rw [if_neg hfr]
    cases hfind : (o.inProgress id).filter fun op => op.phase = .running with
    | none => exact h
    | some op =>
      obtain ⟨hprogress, hrunning⟩ := Option.filter_eq_some_iff.mp hfind
      obtain ⟨hop, hid, _⟩ := inProgress_eq hprogress
      have hph : op.phase = .running := by simpa using hrunning
      have hnone : op.run = none := by
        unfold ServiceOperation.run
        rw [hph]
      dsimp only
      cases htoken : op.token with
      | none => exact h
      | some token =>
        dsimp only [observe]
        obtain ⟨_, hname, hkeys⟩ := h.token op hop token htoken
        generalize hbegin : o.service.beginPrepared token actor runId settings now = begun
        obtain ⟨after, result⟩ := begun
        rcases beginPrepared_cases hfr hbegin with ⟨hnot, hstill⟩ |
          ⟨hyes, t, p, run, gate, hends, hins, hrunId, hrunkey, hmem⟩
        · have hmuted : Muted o.operations after := by
            rcases hstill with hends | ⟨t, run, hends, hins⟩
            · exact h.endings hends
            · exact (h.endings hends).inserted hins fun g hg => absurd hg (by simp)
          rw [hnot]
          refine hmuted.rewritten (fun x => ?_) (fun x => ?_) (fun x hx => ?_)
            fun x _ t ht => .inl ?_
          · split <;> rfl
          · split <;> rfl
          · by_cases hxid : x.id = op.id
            · rw [if_pos hxid, eq_of_id h hop hx hxid, hnone]
              rfl
            · rw [if_neg hxid]
          · split at ht <;> exact ht
        · have hopkey := hkeys _ hmem
          have hsup : run.key.suppressKey = some op.key := by
            have hpname : p.serviceName ≠ "" := by
              rw [← hopkey] at hname
              exact hname
            rw [hrunkey, ← hopkey]
            simp [GateKey.suppressKey, Option.filter, hpname]
          have hbegun := (h.endings hends).begun hop hnone hins hsup
          rw [hrunId] at hbegun
          rw [hyes]
          exact hbegun

/-! ## Every run -/

/-- A step spares the operations in progress: it ends no gate of theirs, and no cleanup
throws before it unmutes. -/
def Spares (o : StackUpdateOrchestrator) : OrchestratorStep → Prop
  | .finish id cleanupThrows =>
    ∀ op, o.inProgress id = some op → (returnsSnapshot op && cleanupThrows) = false
  | .observe id actor runId settings now =>
    ∀ op, o.inProgress id = some op → ∀ token, op.token = some token →
      ∀ op' ∈ o.operations, ∀ g ∈ o.service.active, op'.phase = .observing g.runId →
        o.service.ends g (.beginPrepared token actor runId settings now) = false
  | .gate call =>
    ∀ op ∈ o.operations, ∀ g ∈ o.service.active, op.phase = .observing g.runId →
      o.service.ends g call = false
  | _ => True

theorem Muted.step (h : Muted o.operations o.service) {e : OrchestratorStep}
    (hspares : Spares o e) :
    Muted (o.step e).operations (o.step e).service := by
  cases e with
  | mute id restore key =>
    dsimp only [StackUpdateOrchestrator.step]
    split
    · exact h
    · rename_i hnew
      refine h.muted restore key fun op hop hid => hnew ?_
      exact any_eq_true.mpr ⟨op, hop, by simpa using hid⟩
  | prepare => exact h.prepared
  | claim id =>
    refine h.rewritten (fun x => ?_) (fun x => ?_) (fun x _ => ?_) fun x _ t ht => .inl ?_
    · split <;> rfl
    · split <;> rfl
    · split <;> rfl
    · split at ht <;> exact ht
  | observe => exact h.observed
  | skipObservation id =>
    dsimp only [StackUpdateOrchestrator.step]
    cases hfind : (o.inProgress id).filter fun op => op.phase = .running with
    | none => exact h
    | some op =>
      obtain ⟨hprogress, hrunning⟩ := Option.filter_eq_some_iff.mp hfind
      obtain ⟨hop, _, _⟩ := inProgress_eq hprogress
      have hph : op.phase = .running := by simpa using hrunning
      refine h.rewritten (fun x => ?_) (fun x => ?_) (fun x hx => ?_) fun x _ t ht => .inl ?_
      · split <;> rfl
      · split <;> rfl
      · by_cases hxid : x.id = op.id
        · rw [if_pos hxid, eq_of_id h hop hx hxid]
          unfold ServiceOperation.run
          rw [hph]
        · rw [if_neg hxid]
      · split at ht <;> exact ht
  | finish id cleanupThrows =>
    dsimp only [StackUpdateOrchestrator.step]
    cases hprogress : o.inProgress id with
    | none => exact h
    | some op =>
      obtain ⟨hop, _, hundone⟩ := inProgress_eq hprogress
      dsimp only [finish]
      rw [hspares op hprogress]
      simp only [Bool.false_eq_true, if_false]
      cases hph : op.phase with
      | running =>
        exact h.finished hop (by unfold ServiceOperation.run; rw [hph])
      | unobserved =>
        exact h.finished hop (by unfold ServiceOperation.run; rw [hph])
      | observing runId =>
        refine h.rewritten (fun x => ?_) (fun x => ?_) (fun x hx => ?_) fun x _ t ht => .inl ?_
        · split <;> rfl
        · split <;> rfl
        · by_cases hxid : x.id = op.id
          · rw [if_pos hxid, eq_of_id h hop hx hxid]
            unfold ServiceOperation.run
            rw [hph]
          · rw [if_neg hxid]
        · split at ht <;> exact ht
      | done runId => exact absurd hph (hundone runId)
  | gate call =>
    dsimp only [StackUpdateOrchestrator.step]
    cases hcall : byOperation call with
    | true => exact h
    | false => exact h.call hcall

/-- Every operation in progress that has a gate has an active one. -/
def Live (o : StackUpdateOrchestrator) : Prop :=
  ∀ op ∈ o.operations, ∀ r, op.phase = .observing r → o.service.observed r

/-- The gates of the operations of a state survive a call that ends none of them. -/
theorem Live.survive (htidy : o.service.Tidy) (hlive : Live o) {call : HealthGateCall}
    (hcrash : ∀ writing now, call ≠ .crash writing now)
    (hfr : ∀ id, call.draws = some id → id ∉ o.service.drawn)
    (hends : ∀ op ∈ o.operations, ∀ g ∈ o.service.active, op.phase = .observing g.runId →
      o.service.ends g call = false) :
    ∀ op ∈ o.operations, ∀ r, op.phase = .observing r → (o.service.perform call).observed r := by
  intro op hop r hr
  obtain ⟨⟨r', key⟩, hface, heq⟩ := mem_map.mp (hlive op hop r hr)
  obtain ⟨g, hg, hgid, _⟩ := mem_faces.mp hface
  have hid : g.runId = r := hgid.trans heq
  have hspared := hends op hop g hg (by rw [hid]; exact hr)
  rw [← hid]
  exact observed_perform htidy hg hcrash hfr hspared

/-- Operations whose gates were active before, over the gates of that state. -/
theorem Live.of_phases (hlive : Live o) {o' : StackUpdateOrchestrator}
    (hfaces : o'.service.faces = o.service.faces)
    (hphases : ∀ op ∈ o'.operations, ∀ r, op.phase = .observing r →
      ∃ old ∈ o.operations, old.phase = .observing r) : Live o' := by
  intro op hop r hr
  obtain ⟨old, hold, hph⟩ := hphases op hop r hr
  unfold observed
  rw [hfaces]
  exact hlive old hold r hph

/-- A rewrite that starts no observation. -/
theorem phases_rewritten {f : ServiceOperation → ServiceOperation}
    (hf : ∀ op r, (f op).phase = .observing r → op.phase = .observing r) :
    ∀ op ∈ o.setOperation id f, ∀ r, op.phase = .observing r →
      ∃ old ∈ o.operations, old.phase = .observing r := by
  intro op hop r hr
  obtain ⟨old, hold, rfl⟩ := mem_map.mp hop
  refine ⟨old, hold, ?_⟩
  by_cases hid : old.id = id
  · rw [if_pos hid] at hr
    exact hf old r hr
  · rw [if_neg hid] at hr
    exact hr

section

variable (hmuted : Muted o.operations o.service) (hlive : Live o)
include hmuted hlive

theorem Live.observe {id : String} {actor : Option String} {now : Int}
    (hspares : Spares o (.observe id actor runId settings now)) :
    Live (o.step (.observe id actor runId settings now)) := by
  dsimp only [step]
  by_cases hfr : runId ∈ o.service.drawn
  · rw [if_pos hfr]
    exact hlive
  · rw [if_neg hfr]
    cases hfind : (o.inProgress id).filter fun op => op.phase = .running with
    | none => exact hlive
    | some op =>
      obtain ⟨hprogress, hrunning⟩ := Option.filter_eq_some_iff.mp hfind
      dsimp only
      cases htoken : op.token with
      | none => exact hlive
      | some token =>
        dsimp only [observe]
        have hsurvive : ∀ x ∈ o.operations, ∀ r, x.phase = .observing r →
            (o.service.beginPrepared token actor runId settings now).1.observed r :=
          hlive.survive hmuted.tidy (fun _ _ heq => by cases heq)
            (fun id hid => by cases hid; exact hfr)
            fun x hx g hg hph => hspares op hprogress token htoken x hx g hg hph
        have hbegun : (o.service.beginPrepared token actor runId settings now).2.observing = true →
            (o.service.beginPrepared token actor runId settings now).1.observed runId := by
          intro hobs
          generalize hbegin : o.service.beginPrepared token actor runId settings now = begun
            at hobs ⊢
          obtain ⟨after, result⟩ := begun
          rcases beginPrepared_cases hfr hbegin with
            ⟨hnot, _⟩ | ⟨_, t, p, run, gate, _, hins, hrunId, _, _⟩
          · rw [hnot] at hobs
            cases hobs
          · obtain ⟨hid, _⟩ := hins.gate_eq gate rfl
            unfold observed
            rw [hins.faces, map_append, mem_append]
            refine .inr ?_
            simp [hid, hrunId]
        intro x hx r hr
        obtain ⟨old, hold, rfl⟩ := mem_map.mp hx
        by_cases hid : old.id = op.id
        · rw [if_pos hid] at hr
          cases hobs : (o.service.beginPrepared token actor runId settings
              now).2.observing with
          | true =>
            rw [hobs, if_pos rfl] at hr
            cases hr
            exact hbegun hobs
          | false =>
            rw [hobs] at hr
            cases hr
        · rw [if_neg hid] at hr
          exact hsurvive old hold r hr

theorem Live.step {e : OrchestratorStep} (hspares : Spares o e) : Live (o.step e) := by
  cases e with
  | mute id restore key =>
    dsimp only [StackUpdateOrchestrator.step]
    split
    · exact hlive
    · refine hlive.of_phases rfl fun op hop r hr => ?_
      rcases mem_append.mp hop with hold | hnew
      · exact ⟨op, hold, hr⟩
      · rw [mem_singleton.mp hnew] at hr
        cases hr
  | prepare id token trigger expectedReplicas settings now =>
    dsimp only [StackUpdateOrchestrator.step]
    cases hfind : o.inProgress id with
    | none => exact hlive
    | some op =>
      dsimp only
      split
      · exact hlive
      · rename_i hok
        have hfr : token ∉ o.service.drawn := by
          intro hmem
          exact hok (.inr (.inr (.inr hmem)))
        refine hlive.of_phases ?_ (phases_rewritten fun op r hr => hr)
        unfold HealthGateService.step
        rw [if_neg (by simpa [HealthGateCall.draws] using hfr)]
        rfl
  | claim id => exact hlive.of_phases rfl (phases_rewritten fun op r hr => hr)
  | observe => exact hlive.observe hmuted hspares
  | skipObservation id =>
    dsimp only [StackUpdateOrchestrator.step]
    cases (o.inProgress id).filter fun op => op.phase = .running with
    | none => exact hlive
    | some op => exact hlive.of_phases rfl (phases_rewritten fun op r hr => by cases hr)
  | finish id cleanupThrows =>
    dsimp only [StackUpdateOrchestrator.step]
    cases o.inProgress id with
    | none => exact hlive
    | some op =>
      have hfewer : ∀ op' ∈ o.operations.filter (fun op' => op'.id ≠ op.id), ∀ r,
          op'.phase = .observing r → ∃ old ∈ o.operations, old.phase = .observing r :=
        fun op' hop' r hr => ⟨op', (mem_filter.mp hop').1, hr⟩
      dsimp only [finish]
      split
      · exact hlive.of_phases rfl hfewer
      · split
        · exact hlive.of_phases rfl (phases_rewritten fun op r hr => by cases hr)
        · exact hlive.of_phases rfl hfewer
  | gate call =>
    dsimp only [StackUpdateOrchestrator.step]
    cases hcall : byOperation call with
    | true => exact hlive
    | false =>
      simp only [Bool.false_eq_true, if_false]
      cases hcrash : survivors call o.operations with
      | nil => exact fun op hop => absurd hop not_mem_nil
      | cons first rest =>
        have hnot : ∀ writing now, call ≠ .crash writing now := by
          rintro writing now rfl
          cases hcrash
        have hsame : survivors call o.operations = o.operations := by
          cases call with
          | crash writing now => exact absurd rfl (hnot writing now)
          | _ => rfl
        rw [← hcrash, hsame]
        unfold HealthGateService.step
        by_cases hdrawn : (call.draws.any fun id => id ∈ o.service.drawn) = true
        · rw [if_pos hdrawn]
          exact hlive
        · rw [if_neg hdrawn]
          exact hlive.survive hmuted.tidy hnot (fresh_of_not_any hdrawn) hspares

end

/-- Where every operation in progress has its gate, the counts are the owners. -/
theorem owners_eq (hlive : Live o) (key : SuppressKey) :
    o.owners key = o.operations.countP (holdsKey o.service key) := by
  unfold owners
  rw [← countP_eq_length_filter]
  refine countP_congr fun op hop => ?_
  have hsame : keepsMuted o.service op = holds o.service op := by
    unfold keepsMuted holds ServiceOperation.run
    cases hph : op.phase with
    | running | unobserved => rfl
    | observing r =>
      have hactive : r ∈ o.service.faces.map Prod.fst := hlive op hop r hph
      exact (decide_eq_true hactive).symm
    | done r =>
      rw [Bool.eq_iff_iff, any_eq_true, decide_eq_true_eq]
      simp [faces]
  unfold holdsKey
  rw [hsame]

theorem Muted.init (gitops : Db) : Muted (init gitops).operations (init gitops).service where
  tidy := .init gitops
  counted := fun _ => rfl
  ids := nodup_nil
  runs := fun _ hop => absurd hop not_mem_nil
  drawn := fun _ hop => absurd hop not_mem_nil
  owned := fun _ _ _ hface => absurd hface not_mem_nil
  mine := fun _ hop => absurd hop not_mem_nil
  rows := fun _ hop => absurd hop not_mem_nil
  tokenDrawn := fun _ hx => absurd hx not_mem_nil
  token := fun _ hop => absurd hop not_mem_nil

/-- Every step of a run spares the operations in progress. -/
def Sparing (gitops : Db) (steps : List OrchestratorStep) : Prop :=
  Runs.Along step Spares (init gitops) steps

/-- A service is muted by exactly its operations in progress and the gates that outlived
theirs. -/
theorem suppression_counts_owners (gitops : Db) (steps : List OrchestratorStep)
    (h : Sparing gitops steps) (key : SuppressKey) :
    ((init gitops).run steps).service.suppressedServices key =
        ((init gitops).run steps).owners key ∧
      (((init gitops).run steps).service.isSuppressed key = true ↔
        ∃ op ∈ ((init gitops).run steps).operations,
          op.key = key ∧ keepsMuted ((init gitops).run steps).service op = true) ∧
      ∀ g ∈ ((init gitops).run steps).service.active, g.suppressKey = some key →
        ((init gitops).run steps).service.isSuppressed key = true := by
  obtain ⟨hmuted, hlive⟩ : Muted ((init gitops).run steps).operations
      ((init gitops).run steps).service ∧ Live ((init gitops).run steps) :=
    Runs.run_along (P := fun o => Muted o.operations o.service ∧ Live o)
      (fun o e ⟨hmuted, hlive⟩ hspares => ⟨hmuted.step hspares, hlive.step hmuted hspares⟩)
      ⟨.init gitops, fun op hop => absurd hop not_mem_nil⟩ h
  generalize (init gitops).run steps = o at hmuted hlive ⊢
  have howners := owners_eq hlive key
  have hcounted := hmuted.counted key
  refine ⟨by rw [hcounted, howners], ?_, fun g hg hkey => ?_⟩
  · unfold isSuppressed
    rw [hcounted, ← howners, decide_eq_true_eq]
    unfold owners
    rw [gt_iff_lt, length_pos_iff_exists_mem]
    simp
  · obtain ⟨op, hop, hrun, hopkey⟩ := hmuted.owned _ _ key (mem_faces_of_active hg) hkey
    unfold isSuppressed
    rw [hcounted, decide_eq_true_eq, gt_iff_lt, countP_pos_iff]
    refine ⟨op, hop, ?_⟩
    unfold holdsKey holds
    rw [hrun, hopkey]
    simp only [decide_true, Bool.true_and, decide_eq_true_eq]
    exact mem_map.mpr ⟨_, mem_faces_of_active hg, rfl⟩

/-! ## An update whose gate is ended under it -/

def apiKey : SuppressKey := ⟨1, "web", "api"⟩

def minuteSettings : GateSettings := ⟨true, 60⟩

/-- An update of one service, up to its gate. -/
def updateSteps : List OrchestratorStep :=
  [.gate (.start 0), .mute "update" false apiKey,
    .prepare "update" "token" .serviceUpdate 1 minuteSettings 1,
    .gate (.snapshot "token" (some []) 0),
    .observe "update" none "run" minuteSettings 2]

/-- The operator restarts the service before the update has ended. -/
def restartUnderUpdate : List OrchestratorStep :=
  updateSteps ++ [.gate (.supersedeForContainerOp 1 "web" "restart" ["api"] 3)]

/-- The service is not muted any more, and its update is still in progress. -/
theorem restartUnderUpdate_unmutes :
    ¬ ∀ (gitops : Db) (steps : List OrchestratorStep) (key : SuppressKey),
      ((init gitops).run steps).service.suppressedServices key =
        ((init gitops).run steps).owners key := by
  intro hclaim
  have hcount := hclaim Db.empty restartUnderUpdate apiKey
  have hnone : ((init Db.empty).run restartUnderUpdate).service.suppressedServices apiKey = 0 := by
    decide +kernel
  have howner : ((init Db.empty).run restartUnderUpdate).owners apiKey = 1 := by
    decide +kernel
  rw [hnone, howner] at hcount
  cases hcount

theorem updateSteps_sparing : Sparing Db.empty (updateSteps ++ [.finish "update" false]) := by
  have hidle : ∀ op ∈ (init Db.empty).operations, False := fun op hop => absurd hop not_mem_nil
  refine ⟨fun op hop => (hidle op hop).elim, trivial, trivial, ?_, ?_, ?_, trivial⟩
  · intro op _ g hg
    exact absurd (length_pos_of_mem hg) (by decide +kernel)
  · intro op _ token _ op' _ g hg
    exact absurd (length_pos_of_mem hg) (by decide +kernel)
  · intro op _
    exact Bool.and_false _

/-- After an update has ended, its gate keeps the service muted. -/
theorem updateSteps_counted :
    ((init Db.empty).run (updateSteps ++ [.finish "update" false])).service.suppressedServices
        apiKey = 1 ∧
      ((init Db.empty).run (updateSteps ++ [.finish "update" false])).owners apiKey = 1 := by
  have hone : ((init Db.empty).run (updateSteps ++ [.finish "update" false])).owners apiKey = 1 := by
    decide +kernel
  have hcount := (suppression_counts_owners Db.empty _ updateSteps_sparing apiKey).1
  exact ⟨hcount.trans hone, hone⟩

end StackUpdateOrchestrator

end Sencho.HealthGate

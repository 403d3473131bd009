import Sencho.HealthGate.Changes

/-!
# Gates that survive a call

Which gates a call ends can be told before it runs: from the stack and the service it
is about, from what its poll has read, or from the time it takes.
-/

namespace Sencho.HealthGate

open Verified GitOps List

namespace HealthGateService

variable {s s' : HealthGateService}
variable {g : ActiveGate} {nodeId now : Int} {r runId stackName : String}

/-- Whether an arm comes as far as ending the gates of its stack. -/
def armReaches (s : HealthGateService) (runId : String) (nodeId : Int) (stackName : String)
    (expected : RunTrigger) : Bool :=
  s.started && match s.getHealthGateRun nodeId stackName runId with
    | none => false
    | some run =>
      run.status = .observing && run.trigger = expected && run.targetScope = .stack &&
        !s.active.any fun g => g.key = ⟨nodeId, stackName, .stack, none⟩ && g.runId = runId

/-- Whether a call other than a crash ends a gate. -/
def ends (s : HealthGateService) (g : ActiveGate) : HealthGateCall → Bool
  | .beginStack nodeId stackName _ _ _ _ settings _ =>
    s.started && settings.enabled && onStack nodeId stackName g
  | .armReservedRun runId nodeId stackName _ =>
    s.armReaches runId nodeId stackName .recovery && onStack nodeId stackName g
  | .armRolloutRun runId nodeId stackName _ =>
    s.armReaches runId nodeId stackName .rollout && onStack nodeId stackName g
  | .beginPrepared token _ _ settings now =>
    match (s.sweepExpiredPrepared now).prepared.find? fun p => p.token = token with
    | none => false
    | some p =>
      s.started && settings.enabled && onService p.nodeId p.stackName p.serviceName g
  | .pollRead runId read _ =>
    g.runId = runId && !(s.polls.any fun p => p.1 = runId) && match read with
      | .ok _ => false
      | .unsupported => true
      | .unavailable _ => g.consecutivePollErrors + 1 ≥ 3
  | .pollSettle runId declared now =>
    g.runId = runId && match s.polls.find? fun p => p.1 = runId with
      | none => false
      | some poll =>
        match pollCycle (g.readDeclaredRestart declared) poll.2 now with
        | .ok _ => false
        | .error _ => true
  | .supersedeForContainerOp nodeId stackName _ serviceNames _ =>
    let named := serviceNames.filter fun name => name ≠ ""
    if named = [] then onStack nodeId stackName g else endedByOp nodeId stackName named g
  | .stop _ => true
  | _ => false

/-- A run that is observed. -/
def observed (s : HealthGateService) (r : String) : Prop := r ∈ s.faces.map Prod.fst

theorem observed_of_active (h : g ∈ s.active) : s.observed g.runId :=
  mem_map.mpr ⟨_, mem_faces_of_active h, rfl⟩

theorem Quiet.observed (h : Quiet s s') (hr : s.observed r) : s'.observed r := by
  unfold HealthGateService.observed
  rw [h.faces]
  exact hr

theorem observed_endGate (v : GateVerdict) (now : Int) (hne : r ≠ runId) (h : s.observed r) :
    (s.endGate runId v now).observed r := by
  obtain ⟨face, hface, rfl⟩ := mem_map.mp h
  unfold observed
  rw [faces_endGate]
  exact mem_map.mpr ⟨face, mem_filter.mpr ⟨hface, by simpa using hne⟩, rfl⟩

theorem observed_endGates (htidy : Tidy s) (hg : g ∈ s.active) {p : ActiveGate → Bool}
    (hp : p g = false) (reason : String) (now : Int) :
    (s.endGates p reason now).observed g.runId := by
  have hothers : ∀ g' ∈ s.active.filter p, g'.runId ≠ g.runId := by
    intro g' hg' hid
    obtain ⟨hmem, hpg'⟩ := mem_filter.mp hg'
    have heq : g' = g := inj_on_of_nodup_map htidy.active_nodup hmem hg hid
    rw [heq, hp] at hpg'
    cases hpg'
  refine foldlRecOn (motive := fun t : HealthGateService => t.observed g.runId) _ _
    (observed_of_active hg) fun t ht g' hg' => ?_
  exact observed_endGate _ now (hothers g' hg').symm ht

theorem observed_inserted {run : HealthGateRun} (h : s.insertHealthGateRun run = some s')
    (hr : s.observed r) : s'.observed r := by
  obtain ⟨_, _, heq⟩ := insertHealthGateRun_eq h
  rw [heq]
  exact hr

theorem observed_openGate {run : HealthGateRun} {gate : ActiveGate} {opened : Bool}
    (h : s.openGate run gate = some (s', opened)) (hr : s.observed r) : s'.observed r := by
  obtain ⟨_, _, _, _, heq⟩ := openGate_eq h
  rw [show s' = _ from heq]
  unfold observed faces at hr ⊢
  rw [map_append, map_append]
  exact mem_append_left _ hr

section

variable (htidy : Tidy s) (hg : g ∈ s.active)
include htidy hg

theorem observed_armReservedStackRun {expected : RunTrigger}
    (h : (s.armReaches runId nodeId stackName expected && onStack nodeId stackName g) = false) :
    (afterArm (s.armReservedStackRun runId nodeId stackName expected now)).observed g.runId := by
  have hactive := observed_of_active hg
  unfold armReservedStackRun
  by_cases hoff : (!s.started) = true
  · rw [if_pos hoff]
    exact hactive
  · rw [if_neg hoff]
    cases hget : s.getHealthGateRun nodeId stackName runId with
    | none => exact hactive
    | some run =>
      dsimp only
      by_cases hkind : run.status ≠ .observing ∨ run.trigger ≠ expected ∨ run.targetScope ≠ .stack
      · rw [if_pos hkind]
        exact hactive
      · rw [if_neg hkind]
        obtain ⟨hstat, htrigger, hscope⟩ :
            run.status = .observing ∧ run.trigger = expected ∧ run.targetScope = .stack := by
          simpa [not_or] using hkind
        split
        · exact hactive
        · rename_i hinactive
          have hreaches : s.armReaches runId nodeId stackName expected = true := by
            unfold armReaches
            rw [hget]
            simp only [Bool.not_eq_true, Bool.not_eq_false'] at hoff hinactive
            simp only [hoff, hstat, htrigger, hscope, hinactive, decide_true, Bool.true_and,
              Bool.not_false]
          rw [hreaches, Bool.true_and] at h
          have hstill := observed_endGates htidy hg h supersededReason now
          split
          · exact hstill
          · unfold afterArm observed faces
            rw [map_append, map_append]
            exact mem_append_left _ hstill

theorem observed_pollRead {read : StackHealthFactsOutcome}
    (h : s.ends g (.pollRead runId read now) = false) :
    (s.pollRead runId read now).observed g.runId := by
  have hactive := observed_of_active hg
  unfold pollRead
  cases hfind : s.active.find? fun g => g.runId = runId with
  | none => exact hactive
  | some gate =>
    dsimp only
    by_cases hpoll : (s.polls.any fun p => p.1 = runId) = true
    · rw [if_pos hpoll]
      exact hactive
    · rw [if_neg hpoll]
      have hsame : g.runId = runId → gate = g := by
        intro hid
        have hfind' := htidy.find?_active hg
        rw [hid, hfind] at hfind'
        exact Option.some.inj hfind'
      have hset : ∀ n, (s.setGate { gate with consecutivePollErrors := n }).observed g.runId :=
        fun n => (quiet_setGate { gate with consecutivePollErrors := n } hfind htidy rfl
          rfl).observed hactive
      cases read with
      | ok containers => exact hset 0
      | unsupported =>
        have hne : g.runId ≠ runId := by
          intro hid
          simp [ends, hid, hpoll] at h
        exact observed_endGate _ now hne hactive
      | unavailable node =>
        dsimp only
        by_cases hthird : gate.consecutivePollErrors + 1 ≥ 3
        · rw [if_pos hthird]
          have hne : g.runId ≠ runId := by
            intro hid
            rw [hsame hid] at hthird
            simp [ends, hid, hpoll, hthird] at h
          exact observed_endGate _ now hne (hset _)
        · rw [if_neg hthird]
          exact hset _

theorem observed_pollSettle {declared : Option (String → Option (Option String))}
    (h : s.ends g (.pollSettle runId declared now) = false) :
    (s.pollSettle runId declared now).observed g.runId := by
  have hactive := observed_of_active hg
  unfold pollSettle
  cases hpoll : s.polls.find? fun p => p.1 = runId with
  | none => exact hactive
  | some poll =>
    cases hfind : s.active.find? fun g => g.runId = runId with
    | none => exact hactive
    | some gate =>
      dsimp only
      cases hcycle : pollCycle (gate.readDeclaredRestart declared) poll.2 now with
      | ok gate' =>
        have hsett : Quiet s { s with polls := s.polls.filter fun p => p.1 ≠ runId } :=
          ⟨rfl, rfl, rfl, rfl, rfl, rfl, rfl, rfl, .refl _, fun _ h => .inl h⟩
        have hface := quiet_pollSettled htidy hfind hcycle
        exact hface.observed hactive
      | error v =>
        have hne : g.runId ≠ runId := by
          intro hid
          have hfind' := htidy.find?_active hg
          rw [hid, hfind] at hfind'
          cases hfind'
          simp [ends, hid, hpoll, hcycle] at h
        have hsett : ({ s with polls := s.polls.filter fun p => p.1 ≠ runId } :
            HealthGateService).observed g.runId := hactive
        exact observed_endGate v now hne hsett

theorem observed_supersedeForContainerOp {reason : String} {serviceNames : List String}
    (h : s.ends g (.supersedeForContainerOp nodeId stackName reason serviceNames now) = false) :
    (s.supersedeForContainerOp nodeId stackName reason serviceNames now).1.observed g.runId := by
  unfold supersedeForContainerOp
  dsimp only [ends] at h ⊢
  split
  · rename_i hnamed
    rw [if_pos hnamed] at h
    have hstill := observed_endGates htidy hg h reason now
    unfold supersedeStack
    rw [dropTokens_eq]
    exact hstill
  · rename_i hnamed
    rw [if_neg hnamed] at h
    have hstill := observed_endGates htidy hg h reason now
    have hdetached := (quiet_detach (s.endGates (endedByOp nodeId stackName
      (serviceNames.filter fun name => name ≠ "")) reason now) (onStack nodeId stackName)
      (serviceNames.filter fun name => name ≠ "")).observed hstill
    unfold supersedeServices
    dsimp only
    rw [dropTokens_eq]
    exact hdetached

theorem observed_beginPrepared {token : String} {actor : Option String} {settings : GateSettings}
    (h : s.ends g (.beginPrepared token actor runId settings now) = false) :
    (s.beginPrepared token actor runId settings now).1.observed g.runId := by
  have hconsumed : (s.consumeToken token now).observed g.runId := observed_of_active hg
  unfold beginPrepared
  dsimp only [ends] at h ⊢
  cases hfind : (s.sweepExpiredPrepared now).prepared.find? fun p => p.token = token with
  | none => exact hconsumed
  | some p =>
    rw [hfind] at h
    dsimp only at h ⊢
    by_cases hoff : (!s.started || !settings.enabled) = true
    · rw [if_pos hoff]
      exact hconsumed
    · rw [if_neg hoff]
      have hon : (s.started && settings.enabled) = true := by
        simpa using hoff
      rw [hon, Bool.true_and] at h
      have hstill := observed_endGates (htidy.quiet (quiet_consumeToken token now)) hg h
        supersededReason now
      cases hopen : (((s.consumeToken token now).endGates
          (onService p.nodeId p.stackName p.serviceName) supersededReason now).draw
          runId).openGate (p.run runId now actor) (p.gate runId now) with
      | none => exact hstill
      | some opened => exact observed_openGate hopen hstill

theorem observed_beginStack {trigger : RunTrigger} {actor generation : Option String}
    {settings : GateSettings}
    (h : s.ends g (.beginStack nodeId stackName trigger actor generation runId settings now) =
      false) :
    (s.beginStack nodeId stackName trigger actor generation runId settings now).1.observed
      g.runId := by
  unfold beginStack
  dsimp only [ends] at h ⊢
  by_cases hoff : (!s.started || !settings.enabled) = true
  · rw [if_pos hoff]
    exact observed_of_active hg
  · rw [if_neg hoff]
    have hon : (s.started && settings.enabled) = true := by
      simpa using hoff
    rw [hon, Bool.true_and] at h
    have hstill := observed_endGates htidy hg h supersededReason now
    cases hopen : ((s.endGates (onStack nodeId stackName) supersededReason now).draw runId).openGate
        (stackRun runId nodeId stackName trigger settings.windowSeconds now actor generation)
        (freshGate runId nodeId stackName settings.windowSeconds now trigger) with
    | none => exact hstill
    | some opened => exact observed_openGate hopen hstill

/-- A gate a call does not end is still active after it. -/
theorem observed_perform {call : HealthGateCall} (hcrash : ∀ writing now, call ≠ .crash writing now)
    (hfr : ∀ id, call.draws = some id → id ∉ s.drawn) (h : s.ends g call = false) :
    (s.perform call).observed g.runId := by
  have hactive := observed_of_active hg
  cases call with
  | beginStack => exact observed_beginStack htidy hg h
  | reserveRecoveryRun recoveryRef nodeId stackName generation actor runId settings now =>
    dsimp only [perform]
    unfold reserveRecoveryRun
    split
    · exact hactive
    · cases s.recoveryRuns recoveryRef with
      | some linked => exact hactive
      | none =>
        cases hinsert : (s.draw runId).insertHealthGateRun (stackRun runId nodeId stackName
            .recovery settings.windowSeconds now actor (some generation)) with
        | none => exact hactive
        | some t =>
          have ht : t.observed g.runId := observed_inserted hinsert hactive
          exact ht
  | reserveRolloutRun args runId settings now =>
    dsimp only [perform]
    unfold reserveRolloutRun
    split
    · exact hactive
    · cases s.findRolloutReservation args with
      | some existing => exact hactive
      | none =>
        cases hinsert : (s.draw runId).insertHealthGateRun (args.run runId settings now) with
        | none => exact hactive
        | some t =>
          have ht : t.observed g.runId := observed_inserted hinsert hactive
          exact ht
  | armReservedRun | armRolloutRun => exact observed_armReservedStackRun htidy hg h
  | abandonReservedRun runId nodeId stackName reason now =>
    dsimp only [perform]
    unfold abandonReservedRun
    cases s.getHealthGateRun nodeId stackName runId with
    | none => exact hactive
    | some run =>
      dsimp only
      split
      · obtain ⟨db, delivered, heq⟩ := finalizePersistedRun_eq
          { s with taken := runId :: s.taken } run reason now
        rw [heq]
        exact hactive
      · exact hactive
  | prepare => exact (quiet_startPrepare (hfr _ rfl)).observed hactive
  | snapshot => exact (quiet_endPrepare _ _ _).observed hactive
  | attachExpectedImage => exact (quiet_attachExpectedImage _ _ _).observed hactive
  | beginPrepared => exact observed_beginPrepared htidy hg h
  | pollRead => exact observed_pollRead htidy hg h
  | pollSettle => exact observed_pollSettle htidy hg h
  | supersedeForContainerOp => exact observed_supersedeForContainerOp htidy hg h
  | stop => cases h
  | start now =>
    have hstarted := judging_start s now
    unfold observed faces
    dsimp only [perform]
    rw [hstarted.active]
    exact hactive
  | crash writing now => exact absurd rfl (hcrash writing now)
  | gitops => exact hactive

end

end HealthGateService

end Sencho.HealthGate

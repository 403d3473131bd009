import Sencho.GitOps.RowChecks
import Sencho.HealthGate.Deliveries

/-!
# The revision state beside the health gates

The gates write into the revision state only through its transitions, so that what the
transitions keep holds of it in every run of the gates.
-/

namespace Sencho.HealthGate

open Verified GitOps Relation

/-- The revision state has gone through transitions. -/
def Went : Db → Db → Prop :=
  ReflTransGen fun db db' => ∃ repoKey tr, db' = GitOps.step repoKey db tr

theorem Moved.went {db db' : Db} (h : Moved db db') : Went db db' := by
  rcases h with rfl | ⟨tr, -, -, rfl⟩
  · exact .refl
  · exact .single ⟨_, tr, rfl⟩

/-- What holds of an empty revision state and is kept by transitions holds after them. -/
theorem Went.keeps {P : Db → Prop} {db db' : Db} (h : Went db db') (hP : P db)
    (hstep : ∀ repoKey db tr, P db → P (GitOps.step repoKey db tr)) : P db' := by
  induction h with
  | refl => exact hP
  | tail _ hlast ih =>
    obtain ⟨repoKey, tr, rfl⟩ := hlast
    exact hstep repoKey _ tr ih

namespace HealthGateService

variable {s s' : HealthGateService} {call : HealthGateCall}

theorem went_record {t : HealthGateService} (ht : t.gitops = s.gitops) (nodeId : Int)
    (stackName runId : String) (status : HealthVerdict) (now : Int) :
    Went s.gitops (t.recordGitOpsHealthVerdict nodeId stackName runId status now).gitops :=
  ht ▸ (record_handed t nodeId stackName runId status now).moved.went

theorem went_finalizePersistedRun {t : HealthGateService} (ht : t.gitops = s.gitops)
    (run : HealthGateRun) (reason : String) (now : Int) :
    Went s.gitops (t.finalizePersistedRun run reason now).gitops := by
  unfold finalizePersistedRun
  refine went_record ?_ ..
  exact ht

theorem went_foldl {α : Type} {f : HealthGateService → α → HealthGateService}
    (hf : ∀ s a, Went s.gitops (f s a).gitops) (as : List α) (s : HealthGateService) :
    Went s.gitops (as.foldl f s).gitops := by
  induction as generalizing s with
  | nil => exact .refl
  | cons a as ih => exact (hf s a).trans (ih (f s a))

theorem went_endGate (runId : String) (v : GateVerdict) (now : Int) :
    Went s.gitops (s.endGate runId v now).gitops := by
  unfold endGate
  cases s.active.find? fun g => g.runId = runId with
  | none => exact .refl
  | some gate =>
    refine went_record ?_ ..
    cases gate.suppressKey <;> rfl

theorem Endings.went (h : Endings s s') : Went s.gitops s'.gitops := by
  induction h with
  | refl => exact .refl
  | tail _ hlast ih =>
    cases hlast with
    | quiet hquiet =>
      rw [hquiet.gitops]
      exact ih
    | ended runId v now => exact ih.trans (went_endGate runId v now)

theorem Outcome.went (h : Outcome s call s') : Went s.gitops s'.gitops := by
  cases h with
  | ends hends => exact hends.went
  | inserts hends _ hinserted hrest =>
    rw [hrest.gitops, hinserted.gitops]
    exact hends.went
  | arms hends harmed =>
    rw [harmed.eq]
    exact hends.went
  | abandons hcall hget hstat heq =>
    rw [heq]
    refine went_finalizePersistedRun ?_ ..
    rfl

theorem went_start (now : Int) : Went s.gitops (s.start now).gitops := by
  have hswept := went_foldl (f := fun s run =>
    s.finalizePersistedRun run "Sencho restarted during observation" now)
    (fun s run => went_finalizePersistedRun rfl ..) s.listObservingHealthGateRuns
    { s with started := true }
  exact hswept.trans (went_foldl (fun s t => (reconcileTarget_moved s now t).2.1.went) _ _)

/-- A call moves the revision state through its transitions. -/
theorem went_step (htidy : Tidy s) : Went s.gitops (s.step call).gitops := by
  unfold HealthGateService.step
  split
  · exact .refl
  · rename_i hdrawn
    cases hcall : call.ordinary with
    | true => exact (perform_outcome htidy hcall (fresh_of_not_any hdrawn)).went
    | false =>
      cases call with
      | stop now =>
        have hended : Endings { s with started := false } _ :=
          endings_endGates (fun _ => true) "shutdown during observation" now
        exact hended.went
      | start now => exact went_start now
      | crash writing now =>
        dsimp only [HealthGateService.perform]
        rcases crashWriting_eq s writing now with heq | ⟨runId, v, run, _, _, heq⟩
        · rw [heq]
          exact .refl
        · rw [heq]
          exact .refl
      | gitops repoKey tr => exact .single ⟨repoKey, tr, rfl⟩
      | _ => cases hcall

/-- Beside health gates, whatever they and the other writers do, the revision state is one that
transitions reach: its targets belong to applications and pass the checks of the store. -/
theorem revision_state_kept (calls : List HealthGateCall) :
    Went Db.empty (runCalls (init Db.empty) calls).gitops ∧
      TargetsOwned (runCalls (init Db.empty) calls).gitops ∧
      RowsPass (runCalls (init Db.empty) calls).gitops := by
  have hrun : Tidy (runCalls (init Db.empty) calls) ∧
      Went Db.empty (runCalls (init Db.empty) calls).gitops :=
    Runs.run_invariant (P := fun s => Tidy s ∧ Went Db.empty s.gitops)
      (fun s call h => ⟨h.1.step call, h.2.trans (went_step h.1)⟩) ⟨.init Db.empty, .refl⟩ calls
  refine ⟨hrun.2, ?_, ?_⟩
  · exact hrun.2.keeps targetsOwned_empty fun _ _ _ h => targetsOwned_step h
  · exact hrun.2.keeps rowsPass_empty fun _ _ tr h => rowsPass_step h tr

end HealthGateService

end Sencho.HealthGate

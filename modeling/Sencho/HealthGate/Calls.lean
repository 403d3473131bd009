import Sencho.HealthGate.Service

/-!
# Calls of the health gate service

Every entry point as a value, and what it does to the service.  A prepare and a poll
are two calls each: one up to the read they wait for, one from there on.  The process
can end between any two calls, or between the write of a verdict and its delivery.
-/

namespace Sencho.HealthGate

open Verified GitOps

inductive HealthGateCall where
  | beginStack (nodeId : Int) (stackName : String) (trigger : RunTrigger)
      (actor deployedGenerationId : Option String) (runId : String) (settings : GateSettings)
      (now : Int)
  | reserveRecoveryRun (recoveryRef : String) (nodeId : Int) (stackName : String)
      (deployedGenerationId : String) (actor : Option String) (runId : String)
      (settings : GateSettings) (now : Int)
  | reserveRolloutRun (args : RolloutReservation) (runId : String) (settings : GateSettings)
      (now : Int)
  | armReservedRun (runId : String) (nodeId : Int) (stackName : String) (now : Int)
  | armRolloutRun (runId : String) (nodeId : Int) (stackName : String) (now : Int)
  | abandonReservedRun (runId : String) (nodeId : Int) (stackName reason : String) (now : Int)
  | prepare (token : String) (nodeId : Int) (stackName serviceName : String)
      (trigger : RunTrigger) (expectedReplicas : Nat) (settings : GateSettings) (now : Int)
  | snapshot (token : String) (snapshot : Option (List StackContainerFact))
      (composeTimeoutMs : Int)
  | attachExpectedImage (token imageId : String) (now : Int)
  | beginPrepared (token : String) (actor : Option String) (runId : String)
      (settings : GateSettings) (now : Int)
  | pollRead (runId : String) (read : StackHealthFactsOutcome) (now : Int)
  | pollSettle (runId : String) (declared : Option (String → Option (Option String)))
      (now : Int)
  | supersedeForContainerOp (nodeId : Int) (stackName reason : String)
      (serviceNames : List String) (now : Int)
  | stop (now : Int)
  | start (now : Int)
  | crash (writing : Option (String × GateVerdict)) (now : Int)
  | gitops (repoKey : String → Option String) (tr : Transition)

/-- The identifier a call draws. -/
def HealthGateCall.draws : HealthGateCall → Option String
  | .beginStack _ _ _ _ _ id _ _ | .reserveRecoveryRun _ _ _ _ _ id _ _
  | .reserveRolloutRun _ id _ _ | .prepare id _ _ _ _ _ _ _
  | .beginPrepared _ _ id _ _ => some id
  | _ => none

namespace HealthGateService

/-- The state an arm leaves, also where it throws. -/
def afterArm (result : Except (String × HealthGateService) HealthGateService) :
    HealthGateService :=
  match result with
  | .ok s => s
  | .error (_, s) => s

/-- The process ends, with the verdict of a run written and not handed over. -/
def crashWriting (s : HealthGateService) (writing : Option (String × GateVerdict))
    (now : Int) : HealthGateService :=
  match writing with
  | none => s.crash
  | some (runId, v) =>
    match s.runs.find? runId with
    | none => s.crash
    | some run =>
      if run.status = .observing then (s.finalizeHealthGateRun runId v now).crash
      else s.crash

/-- What a call does. -/
def perform (s : HealthGateService) : HealthGateCall → HealthGateService
  | .beginStack nodeId stackName trigger actor generation runId settings now =>
    (s.beginStack nodeId stackName trigger actor generation runId settings now).1
  | .reserveRecoveryRun recoveryRef nodeId stackName generation actor runId settings now =>
    (s.reserveRecoveryRun recoveryRef nodeId stackName generation actor runId settings now).1
  | .reserveRolloutRun args runId settings now =>
    (s.reserveRolloutRun args runId settings now).1
  | .armReservedRun runId nodeId stackName now =>
    afterArm (s.armReservedStackRun runId nodeId stackName .recovery now)
  | .armRolloutRun runId nodeId stackName now =>
    afterArm (s.armReservedStackRun runId nodeId stackName .rollout now)
  | .abandonReservedRun runId nodeId stackName reason now =>
    s.abandonReservedRun runId nodeId stackName reason now
  | .prepare token nodeId stackName serviceName trigger expectedReplicas settings now =>
    s.startPrepare token nodeId stackName serviceName trigger expectedReplicas settings now
  | .snapshot token snapshot composeTimeoutMs => (s.endPrepare token snapshot composeTimeoutMs).1
  | .attachExpectedImage token imageId now => s.attachExpectedImage token imageId now
  | .beginPrepared token actor runId settings now =>
    (s.beginPrepared token actor runId settings now).1
  | .pollRead runId read now => s.pollRead runId read now
  | .pollSettle runId declared now => s.pollSettle runId declared now
  | .supersedeForContainerOp nodeId stackName reason serviceNames now =>
    (s.supersedeForContainerOp nodeId stackName reason serviceNames now).1
  | .stop now => s.stop now
  | .start now => s.start now
  | .crash writing now => s.crashWriting writing now
  | .gitops repoKey tr => { s with gitops := GitOps.step repoKey s.gitops tr }

/-- A call that would draw an identifier again does not happen. -/
def step (s : HealthGateService) (call : HealthGateCall) : HealthGateService :=
  if call.draws.any fun id => id ∈ s.drawn then s else s.perform call

def runCalls (s : HealthGateService) (calls : List HealthGateCall) : HealthGateService :=
  calls.foldl step s

/-- A service that has recorded nothing, over some revision state. -/
def init (gitops : Db) : HealthGateService where
  runs := .empty
  active := []
  prepared := []
  droppedPrepared := []
  preparing := []
  polls := []
  started := false
  suppressedServices := fun _ => 0
  recoveryRuns := fun _ => none
  gitops := gitops
  verdicts := []
  delivered := []
  drawn := []
  taken := []

end HealthGateService

end Sencho.HealthGate

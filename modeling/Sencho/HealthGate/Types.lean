import Mathlib.Data.Finset.Insert
import Mathlib.Data.Finset.Erase
import Sencho.GitOps.TargetTransitions

/-!
# Health gates: data

A health run is a durable row with the verdict of one observation.  While a run
observes, a gate in memory carries what the polls have seen: the containers it
expects, and how each has behaved since the last poll.
-/

namespace Sencho.HealthGate

open Verified GitOps

/-- What a node reports of one container of a stack. -/
structure StackContainerFact where
  id : String
  name : String
  service : Option String
  state : String
  health : Option String
  restartCount : Nat
  startedAt : Option String
  imageId : String
  exitCode : Option Int
  restartPolicy : Option String
  deriving DecidableEq

/-- A container with the restarts tallied since the baseline. -/
structure ObservedContainer extends StackContainerFact where
  restarts : Nat

def StackContainerFact.observed (fact : StackContainerFact) : ObservedContainer := ⟨fact, 0⟩

/-- A read of the containers of a stack: facts, a node that serves none, or a
failure on the node or on its Docker. -/
inductive StackHealthFactsOutcome where
  | ok (containers : List StackContainerFact)
  | unsupported
  | unavailable (node : Bool)

/-- Write an entry of a map keyed by container name: in place, or at the end. -/
def setNamed (cs : List ObservedContainer) (c : ObservedContainer) : List ObservedContainer :=
  if cs.any (fun d => d.name = c.name) then
    cs.map fun d => if d.name = c.name then c else d
  else cs ++ [c]

/-- A map keyed by container name, from a list in which a later entry wins. -/
def lookupName (cs : List ObservedContainer) (name : String) : Option ObservedContainer :=
  cs.reverse.find? fun c => c.name = name

inductive RunTrigger where
  | update
  | deploy
  | serviceUpdate
  | serviceRestore
  | recovery
  | rollout
  deriving DecidableEq

def RunTrigger.column : RunTrigger → String
  | .update => "update"
  | .deploy => "deploy"
  | .serviceUpdate => "service_update"
  | .serviceRestore => "service_restore"
  | .recovery => "recovery"
  | .rollout => "rollout"

inductive RunStatus where
  | observing
  | ended (verdict : HealthVerdict)
  deriving DecidableEq

inductive GateRole where
  | primary
  | collateral
  deriving DecidableEq

/-- The end state of one container, for display. -/
structure HealthGateContainer where
  name : String
  state : String
  health : Option String
  restarts : Nat
  service : Option String
  role : Option GateRole

structure HealthGateRun where
  id : String
  nodeId : Int
  stackName : String
  trigger : RunTrigger
  status : RunStatus
  reason : Option String
  windowSeconds : Int
  containers : List HealthGateContainer
  startedAt : Int
  endedAt : Option Int
  createdBy : Option String
  targetScope : HealthScope
  serviceName : Option String
  failureSource : Option GateRole
  deployedGenerationId : Option String
  applicationId : Option String
  intentRevisionId : Option String
  rolloutGenerationId : Option String
  artifactSetId : Option String
  healthPolicy : Option HealthRolloutPolicy

/-- What an observation concluded. -/
structure GateVerdict where
  status : HealthVerdict
  reason : Option String
  containers : List HealthGateContainer
  failureSource : Option GateRole

/-- An observation in progress. -/
structure ActiveGate where
  runId : String
  nodeId : Int
  stackName : String
  windowSeconds : Int
  startedAt : Int
  expected : Option (List ObservedContainer)
  consecutivePollErrors : Nat
  missingLastPoll : Finset String
  restartingLastPoll : Finset String
  targetScope : HealthScope
  trigger : RunTrigger
  serviceName : Option String
  expectedImageId : Option String
  expectedReplicas : Nat
  collateralEligibleNames : Finset String
  collateralBaselineByName : List ObservedContainer
  roleByName : String → Option GateRole
  declaredRestartByService : Option (String → Option (Option String))
  declaredRestartRead : Bool

/-- The key of a gate: one for each stack, and one for each service of a stack. -/
structure GateKey where
  nodeId : Int
  stackName : String
  scope : HealthScope
  serviceName : Option String
  deriving DecidableEq

def ActiveGate.key (g : ActiveGate) : GateKey :=
  ⟨g.nodeId, g.stackName, g.targetScope, g.serviceName⟩

/-- A snapshot taken before a service is mutated, until the gate begins. -/
structure PreparedGate where
  token : String
  nodeId : Int
  stackName : String
  serviceName : String
  trigger : RunTrigger
  windowSeconds : Int
  expiresAt : Int
  expectedReplicas : Nat
  expectedImageId : Option String
  collateralEligibleNames : Finset String
  primaryBaseline : List StackContainerFact
  collateralBaseline : List StackContainerFact

/-- A prepare whose snapshot has not come back yet. -/
structure Preparing where
  token : String
  nodeId : Int
  stackName : String
  serviceName : String
  trigger : RunTrigger
  windowSeconds : Int
  startedAt : Int
  expectedReplicas : Nat

/-- The settings a begin reads. -/
structure GateSettings where
  enabled : Bool
  windowSeconds : Int

def maxConcurrentGates : Nat := 25

def emptyGraceMs : Int := 15000

end Sencho.HealthGate

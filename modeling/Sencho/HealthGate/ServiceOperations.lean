import Sencho.HealthGate.Changes
import Sencho.Verified.Counts

/-!
# Service updates and restores

The update orchestrator mutes Auto-Heal for a service while it recreates its
containers, and hands the duty to unmute to the health gate it begins.  An operation
can end at any of its steps; its cleanup unmutes unless a gate has taken over.
-/

namespace Sencho.HealthGate

open Verified GitOps

/-- How far an operation has come: before it asks for a gate, refused one, with a gate,
or ended with one. -/
inductive OperationPhase where
  | running
  | unobserved
  | observing (runId : String)
  | done (runId : String)
  deriving DecidableEq

/-- A service update, or a restore, between its mute and the end of its duty. -/
structure ServiceOperation where
  id : String
  restore : Bool
  key : SuppressKey
  token : Option String
  phase : OperationPhase
  claimed : Bool
  consumed : Bool
  deriving DecidableEq

/-- The run of the gate an operation began. -/
def ServiceOperation.run (op : ServiceOperation) : Option String :=
  match op.phase with
  | .observing runId | .done runId => some runId
  | .running | .unobserved => none

structure StackUpdateOrchestrator where
  service : HealthGateService
  operations : List ServiceOperation

/-- The steps of operations, and everything else that happens to the gates.  The calls
that prepare and begin a service gate are made by operations only. -/
inductive OrchestratorStep where
  | mute (id : String) (restore : Bool) (key : SuppressKey)
  | prepare (id token : String) (trigger : RunTrigger) (expectedReplicas : Nat)
      (settings : GateSettings) (now : Int)
  | claim (id : String)
  | observe (id : String) (actor : Option String) (runId : String) (settings : GateSettings)
      (now : Int)
  | skipObservation (id : String)
  | finish (id : String) (cleanupThrows : Bool)
  | gate (call : HealthGateCall)

namespace StackUpdateOrchestrator

variable (o : StackUpdateOrchestrator)

/-- Change one operation. -/
def setOperation (id : String) (f : ServiceOperation → ServiceOperation) : List ServiceOperation :=
  o.operations.map fun op => if op.id = id then f op else op

/-- The operation with an id, while it is in progress. -/
def inProgress (id : String) : Option ServiceOperation :=
  (o.operations.find? fun op => op.id = id).filter fun op =>
    match op.phase with
    | .done _ => false
    | _ => true

/-- A restore that gives its recovery snapshot back before it unmutes. -/
def returnsSnapshot (op : ServiceOperation) : Bool :=
  op.restore && op.claimed && !op.consumed

/-- The end of an operation.  A restore first returns a snapshot it has not consumed; where
that throws, nothing after it runs. -/
def finish (op : ServiceOperation) (cleanupThrows : Bool) : StackUpdateOrchestrator :=
  if returnsSnapshot op && cleanupThrows then
    { o with operations := o.operations.filter fun op' => op'.id ≠ op.id }
  else
    match op.phase with
    | .observing runId =>
      { o with operations := o.setOperation op.id fun op => { op with phase := .done runId } }
    | _ =>
      { service := o.service.clearSuppress op.key
        operations := o.operations.filter fun op' => op'.id ≠ op.id }

/-- A gate is asked for.  A restore has consumed its snapshot by then. -/
def observe (op : ServiceOperation) (token : String) (actor : Option String) (runId : String)
    (settings : GateSettings) (now : Int) : StackUpdateOrchestrator :=
  let begun := o.service.beginPrepared token actor runId settings now
  { service := begun.1
    operations := o.setOperation op.id fun op =>
      { op with
        phase := if begun.2.observing then .observing runId else .unobserved
        consumed := true } }

/-- The calls that operations make, in the course of their own steps. -/
def byOperation : HealthGateCall → Bool
  | .prepare .. | .beginPrepared .. => true
  | _ => false

/-- The process ended: operations end with it. -/
def survivors (call : HealthGateCall) (operations : List ServiceOperation) :
    List ServiceOperation :=
  match call with
  | .crash _ _ => []
  | _ => operations

def step (o : StackUpdateOrchestrator) : OrchestratorStep → StackUpdateOrchestrator
  | .mute id restore key =>
    if o.operations.any fun op => op.id = id then o
    else
      { service := o.service.suppress key
        operations := o.operations ++ [⟨id, restore, key, none, .running, false, false⟩] }
  | .prepare id token trigger expectedReplicas settings now =>
    match o.inProgress id with
    | none => o
    | some op =>
      if op.phase ≠ .running ∨ op.token.isSome ∨ op.key.serviceName = "" ∨
          token ∈ o.service.drawn then o
      else
        { service := o.service.step (.prepare token op.key.nodeId op.key.stackName
            op.key.serviceName trigger expectedReplicas settings now)
          operations := o.setOperation id fun op => { op with token := some token } }
  | .claim id =>
    { o with operations := o.setOperation id fun op => { op with claimed := true } }
  | .observe id actor runId settings now =>
    if runId ∈ o.service.drawn then o
    else
      match (o.inProgress id).filter fun op => op.phase = .running with
      | none => o
      | some op =>
        match op.token with
        | none => o
        | some token => o.observe op token actor runId settings now
  | .skipObservation id =>
    match (o.inProgress id).filter fun op => op.phase = .running with
    | none => o
    | some op =>
      { o with
        operations := o.setOperation op.id fun op =>
          { op with phase := .unobserved, consumed := true } }
  | .finish id cleanupThrows =>
    match o.inProgress id with
    | none => o
    | some op => o.finish op cleanupThrows
  | .gate call =>
    if byOperation call then o
    else
      { service := o.service.step call
        operations := survivors call o.operations }

def run (steps : List OrchestratorStep) : StackUpdateOrchestrator :=
  steps.foldl step o

/-- Nothing has happened yet, over some revision state. -/
def init (gitops : Db) : StackUpdateOrchestrator := ⟨.init gitops, []⟩

/-- Whether an operation keeps its service muted: it is in progress, or it ended with a
gate that is still active. -/
def keepsMuted (s : HealthGateService) (op : ServiceOperation) : Bool :=
  match op.phase with
  | .done runId => s.active.any fun g => g.runId = runId
  | _ => true

/-- The operations that keep a service muted. -/
def owners (key : SuppressKey) : Nat :=
  (o.operations.filter fun op => op.key = key && keepsMuted o.service op).length

end StackUpdateOrchestrator

end Sencho.HealthGate

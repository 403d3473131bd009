import Mathlib.Data.Finset.Filter
import Mathlib.Data.Finset.SDiff
import Mathlib.Data.List.Basic
import Sencho.GitOps.Transitions
import Sencho.HealthGate.Polls

/-!
# The health gate service

Gates observe what a deploy, an update, a recovery or a rollout has put up.  A run
is written before its gate exists; a reservation is a run without a gate, until
its owner arms or abandons it.  Every way a gate ends goes through one function,
which releases the service's Auto-Heal suppression, writes the verdict and hands
it to the revision state.

Identifiers are drawn at random: a call carries the one it would draw, and an
identifier drawn before is never drawn again.
-/

namespace Sencho.HealthGate

open Verified GitOps

/-- A service of a stack on a node. -/
structure SuppressKey where
  nodeId : Int
  stackName : String
  serviceName : String
  deriving DecidableEq

/-- The service whose Auto-Heal suppression a gate owns. -/
def ActiveGate.suppressKey (g : ActiveGate) : Option SuppressKey :=
  match g.targetScope, g.serviceName.filter fun name => name ≠ "" with
  | .service, some serviceName => some ⟨g.nodeId, g.stackName, serviceName⟩
  | _, _ => none

/-- A run with its verdict. -/
def HealthGateRun.finalized (run : HealthGateRun) (v : GateVerdict) (endedAt : Int) :
    HealthGateRun :=
  { run with
    status := .ended v.status
    reason := v.reason
    endedAt := some endedAt
    containers := v.containers
    failureSource := v.failureSource }

@[simp] theorem HealthGateRun.finalized_id (run : HealthGateRun) (v : GateVerdict)
    (endedAt : Int) : (run.finalized v endedAt).id = run.id := rfl

/-- The rollout a run was reserved for. -/
def HealthGateRun.rollout (run : HealthGateRun) : Option HealthRolloutBinding :=
  match run.rolloutGenerationId.filter (fun id => id ≠ ""), run.healthPolicy with
  | some generation, some policy => some ⟨generation, policy⟩
  | _, _ => none

variable (p : PreparedGate) (runId : String)

/-- A gate that has seen nothing yet. -/
def freshGate (nodeId : Int) (stackName : String) (windowSeconds now : Int) (trigger : RunTrigger) :
    ActiveGate where
  runId := runId
  nodeId := nodeId
  stackName := stackName
  windowSeconds := windowSeconds
  startedAt := now
  expected := none
  consecutivePollErrors := 0
  missingLastPoll := ∅
  restartingLastPoll := ∅
  targetScope := .stack
  trigger := trigger
  serviceName := none
  expectedImageId := none
  expectedReplicas := 0
  collateralEligibleNames := ∅
  collateralBaselineByName := []
  roleByName := fun _ => none
  declaredRestartByService := none
  declaredRestartRead := false

/-- A run that observes a stack. -/
def stackRun (nodeId : Int) (stackName : String) (trigger : RunTrigger) (windowSeconds now : Int)
    (createdBy deployedGenerationId : Option String) :
    HealthGateRun where
  id := runId
  nodeId := nodeId
  stackName := stackName
  trigger := trigger
  status := .observing
  reason := none
  windowSeconds := windowSeconds
  containers := []
  startedAt := now
  endedAt := none
  createdBy := createdBy
  targetScope := .stack
  serviceName := none
  failureSource := none
  deployedGenerationId := deployedGenerationId
  applicationId := none
  intentRevisionId := none
  rolloutGenerationId := none
  artifactSetId := none
  healthPolicy := none

/-- A run past the cap on concurrent observations. -/
def HealthGateRun.overCap (run : HealthGateRun) : HealthGateRun :=
  { run with
    status := .ended .unknown
    reason := some "too many concurrent observations"
    endedAt := some run.startedAt }

def isRegressionEligibleSibling (baseline : StackContainerFact) : Bool :=
  baseline.state = "running" &&
    (baseline.health = none || baseline.health = some "healthy")

def prepareTtlMs (composeTimeoutMs : Int) : Int := max composeTimeoutMs 1800000 + 300000

/-- The token of a prepare, from the snapshot it took. -/
def Preparing.prepared (p : Preparing) (snapshot : Option (List StackContainerFact))
    (composeTimeoutMs : Int) : PreparedGate :=
  let baselines := snapshot.getD []
  let collateral := baselines.filter fun b => b.service ≠ some p.serviceName
  { token := p.token
    nodeId := p.nodeId
    stackName := p.stackName
    serviceName := p.serviceName
    trigger := p.trigger
    windowSeconds := p.windowSeconds
    expiresAt := p.startedAt + prepareTtlMs composeTimeoutMs
    expectedReplicas := p.expectedReplicas
    expectedImageId := none
    collateralEligibleNames :=
      ((collateral.filter isRegressionEligibleSibling).map fun b => b.name).toFinset
    primaryBaseline := baselines.filter fun b => b.service = some p.serviceName
    collateralBaseline := collateral }

/-- The run of a prepared gate. -/
def PreparedGate.run (now : Int) (actor : Option String) : HealthGateRun :=
  { stackRun runId p.nodeId p.stackName p.trigger p.windowSeconds now actor none with
    targetScope := .service
    serviceName := some p.serviceName }

/-- The baselines of the siblings that are still eligible. -/
def PreparedGate.baselines : List ObservedContainer :=
  ((p.collateralBaseline.filter fun b => b.name ∈ p.collateralEligibleNames).map
    StackContainerFact.observed).foldl setNamed []

/-- The gate a token begins. -/
def PreparedGate.gate (now : Int) : ActiveGate :=
  { freshGate runId p.nodeId p.stackName p.windowSeconds now p.trigger with
    targetScope := .service
    serviceName := some p.serviceName
    expectedImageId := p.expectedImageId
    expectedReplicas := p.expectedReplicas
    collateralEligibleNames := p.collateralEligibleNames
    collateralBaselineByName := p.baselines }

/-- What a rollout reserves a run for. -/
structure RolloutReservation where
  applicationId : String
  intentRevisionId : String
  rolloutGenerationId : String
  acceptedGenerationId : String
  artifactSetId : Option String
  healthPolicy : HealthRolloutPolicy
  nodeId : Int
  stackName : String
  actor : Option String

/-- The run of a reservation. -/
def RolloutReservation.run (args : RolloutReservation) (runId : String) (settings : GateSettings)
    (now : Int) : HealthGateRun :=
  { stackRun runId args.nodeId args.stackName .rollout settings.windowSeconds now args.actor
      (some args.acceptedGenerationId) with
    applicationId := some args.applicationId
    intentRevisionId := some args.intentRevisionId
    rolloutGenerationId := some args.rolloutGenerationId
    artifactSetId := args.artifactSetId
    healthPolicy := some args.healthPolicy }

/-- The containers of another service that a gate observes or would observe: those it
prepared with, and those it expects in a role other than primary. -/
def ActiveGate.namesOf (gate : ActiveGate) (serviceName : String) : List String :=
  ((gate.collateralBaselineByName.filter fun b =>
      b.name ∈ gate.collateralEligibleNames && b.service = some serviceName) ++
    (gate.expected.getD []).filter fun b =>
      b.service = some serviceName && gate.roleByName b.name ≠ some .primary).map fun b => b.name

/-- Drop the containers of one service from a sibling gate. -/
def ActiveGate.detach (gate : ActiveGate) (serviceName : String) : ActiveGate :=
  let names := gate.namesOf serviceName
  { gate with
    collateralEligibleNames := gate.collateralEligibleNames \ names.toFinset
    collateralBaselineByName := gate.collateralBaselineByName.filter fun b => b.name ∉ names
    roleByName := fun name => if name ∈ names then none else gate.roleByName name
    missingLastPoll := gate.missingLastPoll \ names.toFinset
    restartingLastPoll := gate.restartingLastPoll \ names.toFinset
    expected := gate.expected.map fun expected => expected.filter fun b => b.name ∉ names }

/-- What the detach of some services leaves of a gate. -/
theorem ActiveGate.detachAll_eq (services : List String) (gate : ActiveGate) :
    ∃ eligible baselines roles missing restarting expected,
      services.foldl ActiveGate.detach gate = { gate with
        collateralEligibleNames := eligible
        collateralBaselineByName := baselines
        roleByName := roles
        missingLastPoll := missing
        restartingLastPoll := restarting
        expected := expected } := by
  induction services generalizing gate with
  | nil => exact ⟨_, _, _, _, _, _, rfl⟩
  | cons service services ih => exact ih (gate.detach service)

/-- The same detach on a token that has not begun yet. -/
def PreparedGate.detach (serviceName : String) : PreparedGate :=
  { p with
    collateralEligibleNames := p.collateralEligibleNames.filter fun name =>
      !p.collateralBaseline.any fun b => b.name = name && b.service = some serviceName
    collateralBaseline := p.collateralBaseline.filter fun b => b.service ≠ some serviceName }

theorem PreparedGate.detachAll_eq (services : List String) (p : PreparedGate) :
    ∃ eligible baseline, services.foldl PreparedGate.detach p =
      { p with collateralEligibleNames := eligible, collateralBaseline := baseline } := by
  induction services generalizing p with
  | nil => exact ⟨_, _, rfl⟩
  | cons service services ih => exact ih (p.detach service)

/-- The declared restart intent, read once for each gate. -/
def ActiveGate.readDeclaredRestart (gate : ActiveGate)
    (declared : Option (String → Option (Option String))) : ActiveGate :=
  if gate.declaredRestartRead then gate
  else { gate with declaredRestartRead := true, declaredRestartByService := declared }

/-- Everything a health gate reads and writes.  Beside it stand, the latest first: the
verdicts written, the calls to the revision state, the identifiers drawn, and
the reservations their owners armed or abandoned. -/
structure HealthGateService where
  runs : Table HealthGateRun String HealthGateRun.id
  active : List ActiveGate
  prepared : List PreparedGate
  droppedPrepared : List (String × Int)
  preparing : List Preparing
  polls : List (String × List ObservedContainer)
  started : Bool
  suppressedServices : SuppressKey → Nat
  recoveryRuns : String → Option String
  gitops : Db
  verdicts : List (String × GateVerdict)
  delivered : List HealthFinalizedArgs
  drawn : List String
  taken : List String

namespace HealthGateService

variable (s : HealthGateService) (runId : String) (nodeId : Int) (stackName : String)

def suppress (key : SuppressKey) : HealthGateService :=
  { s with
    suppressedServices :=
      Function.update s.suppressedServices key (s.suppressedServices key + 1) }

/-- Release one owner; the last one lets Auto-Heal resume. -/
def clearSuppress (key : SuppressKey) : HealthGateService :=
  { s with
    suppressedServices := Function.update s.suppressedServices key
        (if s.suppressedServices key ≤ 1 then 0 else s.suppressedServices key - 1) }

def isSuppressed (key : SuppressKey) : Bool :=
  s.suppressedServices key > 0

/-- Whether a run ranks before another: started later, or under a greater id. -/
def newer (a b : HealthGateRun) : Bool :=
  a.startedAt > b.startedAt || (a.startedAt = b.startedAt && b.id < a.id)

/-- The rows of the stack of a run. -/
def sameStack (a b : HealthGateRun) : Bool :=
  a.nodeId = b.nodeId && a.stackName = b.stackName

/-- Write a run and keep the ten most recent of its stack.  A taken id refuses it. -/
def insertHealthGateRun (run : HealthGateRun) : Option HealthGateService :=
  (s.runs.insert? run).map fun runs =>
    { s with
      runs := runs.delete fun r => sameStack r run &&
        (runs.rows.filter fun r' => sameStack r' run && newer r' r).length ≥ 10 }

def finalizeHealthGateRun (id : String) (v : GateVerdict) (endedAt : Int) : HealthGateService :=
  { s with
    runs := s.runs.update (fun r => r.id = id) (fun r => r.finalized v endedAt)
      fun r => r.finalized_id v endedAt
    verdicts := (id, v) :: s.verdicts }

def getHealthGateRun (id : String) : Option HealthGateRun :=
  (s.runs.find? id).filter fun r => r.nodeId = nodeId && r.stackName = stackName

def listObservingHealthGateRuns : List HealthGateRun :=
  s.runs.rows.filter fun r => r.status = .observing

/-- The application a run is about: the one it names, or the live Direct one. -/
def runApplication (run : HealthGateRun) : Option Application :=
  match run.applicationId.filter fun id => id ≠ "" with
  | some id => s.gitops.getApplication id
  | none => s.gitops.getLiveDirectApplication run.stackName

/-- The call a verdict is handed over with. -/
def verdictArgs (app : Application) (run : HealthGateRun) (status : HealthVerdict) (now : Int) :
    HealthFinalizedArgs where
  applicationId := app.id
  nodeId := run.nodeId
  healthRunId := run.id
  healthStatus := status
  deployedGenerationId := run.deployedGenerationId
  targetScope := run.targetScope
  rollout := run.rollout
  envelope := ⟨run.id, some "system:health-gate", "health", now⟩

/-- Hand a verdict to the revision state.  A refusal there changes nothing. -/
def recordGitOpsHealthVerdict (runId : String) (status : HealthVerdict) (now : Int) :
    HealthGateService :=
  match s.getHealthGateRun nodeId stackName runId with
  | none => s
  | some run =>
    match (s.runApplication run).filter fun app => app.lifecycleStatus = .active with
    | none => s
    | some app =>
      match s.gitops.getTarget app.id nodeId with
      | none => s
      | some _ =>
        let args := verdictArgs app run status now
        { s with
          gitops := GitOps.step (fun _ => none) s.gitops (.healthFinalized args)
          delivered := args :: s.delivered }

/-- An unknown verdict for a run this process is not observing. -/
def finalizePersistedRun (run : HealthGateRun) (reason : String) (now : Int) : HealthGateService :=
  (s.finalizeHealthGateRun run.id ⟨.unknown, some reason, run.containers, none⟩
    now).recordGitOpsHealthVerdict run.nodeId run.stackName run.id .unknown now

/-- End a gate with a verdict: release the suppression it owns, write the verdict and
hand it over.  A gate that has ended stays as it is. -/
def endGate (v : GateVerdict) (now : Int) : HealthGateService :=
  match s.active.find? fun g => g.runId = runId with
  | none => s
  | some gate =>
    let closed := { s with active := s.active.filter fun g => g.runId ≠ runId }
    let released := (gate.suppressKey.map closed.clearSuppress).getD closed
    (released.finalizeHealthGateRun runId v now).recordGitOpsHealthVerdict gate.nodeId
      gate.stackName runId v.status now

/-- End every gate that meets a condition, as unknown. -/
def endGates (p : ActiveGate → Bool) (reason : String) (now : Int) : HealthGateService :=
  (s.active.filter p).foldl (fun s g => s.endGate g.runId ⟨.unknown, some reason, [], none⟩ now) s

def supersededReason : String := "superseded by a newer operation"

/-- The gates a newer stack operation replaces. -/
def onStack (g : ActiveGate) : Bool :=
  g.nodeId = nodeId && g.stackName = stackName

/-- The gates a newer service operation replaces: the stack's own and the service's. -/
def onService (serviceName : String) (g : ActiveGate) : Bool :=
  onStack nodeId stackName g &&
    !(g.targetScope = .service && g.serviceName ≠ some serviceName)

/-- Draw an identifier. -/
def draw (id : String) : HealthGateService :=
  { s with drawn := id :: s.drawn }

/-- Write a run and start its gate, unless too many gates observe already.  The result
says whether the run is observed; a refused insert gives none. -/
def openGate (run : HealthGateRun) (gate : ActiveGate) : Option (HealthGateService × Bool) :=
  if s.active.length ≥ maxConcurrentGates then
    (s.insertHealthGateRun run.overCap).map fun s => (s, false)
  else
    (s.insertHealthGateRun run).map fun s => ({ s with active := s.active ++ [gate] }, true)

/-- Observe a stack after a deploy or an update.  The result is the run, or none where
nothing was recorded. -/
def beginStack (trigger : RunTrigger) (actor deployedGenerationId : Option String) (runId : String)
    (settings : GateSettings) (now : Int) : HealthGateService × Option String :=
  if !s.started || !settings.enabled then (s, none)
  else
    let s := (s.endGates (onStack nodeId stackName) supersededReason now).draw runId
    match s.openGate
        (stackRun runId nodeId stackName trigger settings.windowSeconds now actor
          deployedGenerationId)
        (freshGate runId nodeId stackName settings.windowSeconds now trigger) with
    | none => (s, none)
    | some opened => (opened.1, some runId)

inductive ReservationOutcome where
  | reserved
  | replayed
  | disabled

/-- Claim a run for a recovery, once for each recovery generation. -/
def reserveRecoveryRun (recoveryRef : String) (nodeId : Int)
    (stackName deployedGenerationId : String) (actor : Option String) (runId : String)
    (settings : GateSettings) (now : Int) :
    HealthGateService × ReservationOutcome × Option String :=
  if !settings.enabled then (s, .disabled, none)
  else
    match s.recoveryRuns recoveryRef with
    | some linked => (s, .replayed, some linked)
    | none =>
      match (s.draw runId).insertHealthGateRun (stackRun runId nodeId stackName .recovery
          settings.windowSeconds now actor (some deployedGenerationId)) with
      | none => (s, .disabled, none)
      | some s =>
        ({ s with recoveryRuns := Function.update s.recoveryRuns recoveryRef (some runId) },
          .reserved, some runId)

/-- An unconsumed run of the same rollout. -/
def findRolloutReservation (args : RolloutReservation) : Option HealthGateRun :=
  s.listObservingHealthGateRuns.find? fun run =>
    run.nodeId = args.nodeId && run.stackName = args.stackName && run.trigger = .rollout &&
      run.rolloutGenerationId = some args.rolloutGenerationId

/-- Claim a run for a rollout target, or find the one it already holds. -/
def reserveRolloutRun (args : RolloutReservation) (runId : String) (settings : GateSettings)
    (now : Int) : HealthGateService × ReservationOutcome × Option String :=
  if !settings.enabled then (s, .disabled, none)
  else
    match s.findRolloutReservation args with
    | some existing => (s, .replayed, some existing.id)
    | none =>
      match (s.draw runId).insertHealthGateRun (args.run runId settings now) with
      | none => (s, .disabled, none)
      | some s => (s, .reserved, some runId)

/-- Observe a reserved run.  The result says whether the run is observed; the error is
what the call throws, and the state it throws in. -/
def armReservedStackRun (expectedTrigger : RunTrigger) (now : Int) :
    Except (String × HealthGateService) HealthGateService :=
  if !s.started then .error ("health gate service is not started", s)
  else
    match s.getHealthGateRun nodeId stackName runId with
    | none => .error ("reserved health run " ++ runId ++ " was not found", s)
    | some run =>
      if run.status ≠ .observing ∨ run.trigger ≠ expectedTrigger ∨ run.targetScope ≠ .stack then
        .error ("health run " ++ runId ++ " is not a reserved stack " ++ expectedTrigger.column ++
          " observation", s)
      else if s.active.any fun g =>
          g.key = ⟨nodeId, stackName, .stack, none⟩ && g.runId = runId then
        .ok s
      else
        let s := s.endGates (onStack nodeId stackName) supersededReason now
        if s.active.length ≥ maxConcurrentGates then
          .error ("too many concurrent observations", s)
        else
          .ok { s with
            active := s.active ++ [freshGate runId nodeId stackName run.windowSeconds now
              expectedTrigger]
            taken := runId :: s.taken }

/-- Write off a reservation that could not be armed. -/
def abandonReservedRun (reason : String) (now : Int) : HealthGateService :=
  match s.getHealthGateRun nodeId stackName runId with
  | none => s
  | some run =>
    if run.status = .observing then
      { s with taken := runId :: s.taken }.finalizePersistedRun run reason now
    else s

/-- Drop the tokens whose time is up. -/
def sweepExpiredPrepared (now : Int) : HealthGateService :=
  { s with
    prepared := s.prepared.filter fun p => now < p.expiresAt
    droppedPrepared := s.droppedPrepared.filter fun p => now < p.2 }

/-- Start a prepare: everything before its snapshot. -/
def startPrepare (token : String) (nodeId : Int) (stackName serviceName : String)
    (trigger : RunTrigger) (expectedReplicas : Nat) (settings : GateSettings) (now : Int) :
    HealthGateService :=
  let s := (s.sweepExpiredPrepared now).draw token
  { s with
    preparing := s.preparing ++ [⟨token, nodeId, stackName, serviceName, trigger,
      settings.windowSeconds, now, expectedReplicas⟩] }

structure PrepareResult where
  prepareToken : String
  expiresAt : Int
  snapshotOk : Bool

/-- The snapshot of a prepare comes back, or fails. -/
def endPrepare (token : String) (snapshot : Option (List StackContainerFact))
    (composeTimeoutMs : Int) : HealthGateService × Option PrepareResult :=
  match s.preparing.find? fun p => p.token = token with
  | none => (s, none)
  | some p =>
    let prepared := p.prepared snapshot composeTimeoutMs
    ({ s with
        preparing := s.preparing.filter fun p => p.token ≠ token
        prepared := s.prepared ++ [prepared] },
      some ⟨token, prepared.expiresAt, snapshot.isSome⟩)

/-- Record the image every replica must converge on. -/
def attachExpectedImage (token imageId : String) (now : Int) : HealthGateService :=
  let s := s.sweepExpiredPrepared now
  { s with
    prepared := s.prepared.map fun p =>
      if p.token = token then { p with expectedImageId := some imageId } else p }

structure BeginPreparedResult where
  runId : Option String
  observing : Bool
  droppedByContainerOp : Bool

/-- Take a token out of the service, whether it is still good or was dropped. -/
def consumeToken (token : String) (now : Int) : HealthGateService :=
  let s := s.sweepExpiredPrepared now
  { s with
    prepared := s.prepared.filter fun p => p.token ≠ token
    droppedPrepared := s.droppedPrepared.filter fun p => p.1 ≠ token }

/-- Begin observing a prepared service gate.  The token is consumed either way. -/
def beginPrepared (token : String) (actor : Option String) (runId : String)
    (settings : GateSettings) (now : Int) : HealthGateService × BeginPreparedResult :=
  let swept := s.sweepExpiredPrepared now
  let dropped := swept.droppedPrepared.any fun p => p.1 = token
  let consumed := s.consumeToken token now
  match swept.prepared.find? fun p => p.token = token with
  | none => (consumed, ⟨none, false, dropped⟩)
  | some p =>
    if !s.started || !settings.enabled then (consumed, ⟨none, false, dropped⟩)
    else
      let ready := (consumed.endGates (onService p.nodeId p.stackName p.serviceName)
        supersededReason now).draw runId
      match ready.openGate (p.run runId now actor) (p.gate runId now) with
      | none => (ready, ⟨none, false, dropped⟩)
      | some opened => (opened.1, ⟨some runId, opened.2, dropped⟩)

/-- Drop a token a container operation has overtaken; its begin reports it. -/
def dropPreparedForContainerOp (p : PreparedGate) : HealthGateService :=
  { s with
    prepared := s.prepared.filter fun q => q.token ≠ p.token
    droppedPrepared := s.droppedPrepared ++ [(p.token, p.expiresAt)] }

/-- Drop the tokens that meet a condition. -/
def dropTokens (q : PreparedGate → Bool) : HealthGateService :=
  (s.prepared.filter q).foldl dropPreparedForContainerOp s

def tokenOnStack (p : PreparedGate) : Bool :=
  p.nodeId = nodeId && p.stackName = stackName

/-- The gates an operation on some services ends: the stack's, and the services' own. -/
def endedByOp (named : List String) (g : ActiveGate) : Bool :=
  onStack nodeId stackName g &&
    (g.targetScope = .stack || (g.serviceName.getD "") ∈ named)

/-- An operation on a whole stack: its gates end and its tokens are dropped. -/
def supersedeStack (reason : String) (now : Int) : HealthGateService :=
  (s.endGates (onStack nodeId stackName) reason now).dropTokens (tokenOnStack nodeId stackName)

/-- An operation on some services: what observes them ends, what observes their siblings
stops looking at them. -/
def supersedeServices (reason : String) (named : List String) (now : Int) : HealthGateService :=
  let ended := s.endGates (endedByOp nodeId stackName named) reason now
  let detached := { ended with
    active := ended.active.map fun g =>
      if onStack nodeId stackName g then named.foldl ActiveGate.detach g else g }
  let dropped := detached.dropTokens fun p =>
    tokenOnStack nodeId stackName p && p.serviceName ∈ named
  { dropped with
    prepared := dropped.prepared.map fun p =>
      if tokenOnStack nodeId stackName p then named.foldl PreparedGate.detach p else p }

/-- Apply a deliberate container operation to the gates and the tokens of a stack,
before the operation runs.  The result counts the gates it ended. -/
def supersedeForContainerOp (reason : String) (serviceNames : List String) (now : Int) :
    HealthGateService × Nat :=
  let named := serviceNames.filter fun name => name ≠ ""
  let s' := if named = [] then s.supersedeStack nodeId stackName reason now
    else s.supersedeServices nodeId stackName reason named now
  (s', s.active.length - s'.active.length)

/-- Write a gate back. -/
def setGate (gate : ActiveGate) : HealthGateService :=
  { s with active := s.active.map fun g => if g.runId = gate.runId then gate else g }

def unsupportedReason : String :=
  "The target node does not report the runtime facts a health verdict needs."

/-- The reason of three unreadable polls. -/
def unreadableReason (node : Bool) : String :=
  if node then "The target node could not be read during observation."
  else "Docker became unreachable during observation"

/-- The read of a poll comes back. -/
def pollRead (read : StackHealthFactsOutcome) (now : Int) : HealthGateService :=
  match s.active.find? fun g => g.runId = runId with
  | none => s
  | some gate =>
    if s.polls.any fun p => p.1 = runId then s
    else
      match read with
      | .ok containers =>
        { s.setGate { gate with consecutivePollErrors := 0 } with
          polls := s.polls ++ [(runId, containers.map StackContainerFact.observed)] }
      | .unsupported => s.endGate runId ⟨.unknown, some unsupportedReason, [], none⟩ now
      | .unavailable node =>
        let counted := s.setGate
          { gate with consecutivePollErrors := gate.consecutivePollErrors + 1 }
        if gate.consecutivePollErrors + 1 ≥ 3 then
          counted.endGate runId ⟨.unknown, some (unreadableReason node), [], none⟩ now
        else counted

/-- One poll of a gate of either scope. -/
def pollCycle (gate : ActiveGate) (observed : List ObservedContainer) (now : Int) :
    Except GateVerdict ActiveGate :=
  match gate.targetScope with
  | .stack => runPollCycle gate observed now
  | .service => runServicePollCycle gate observed now

/-- A poll goes on with the evidence it read. -/
def pollSettle (declared : Option (String → Option (Option String))) (now : Int) :
    HealthGateService :=
  match s.polls.find? fun p => p.1 = runId with
  | none => s
  | some poll =>
    let settled := { s with polls := s.polls.filter fun p => p.1 ≠ runId }
    match s.active.find? fun g => g.runId = runId with
    | none => settled
    | some gate =>
      match pollCycle (gate.readDeclaredRestart declared) poll.2 now with
      | .ok gate => settled.setGate gate
      | .error v => settled.endGate runId v now

/-- Replay a verdict a target still waits for, or release a run that is gone. -/
def reconcileTarget (now : Int) (target : Target) : HealthGateService :=
  match target.pendingHealthRunId.filter fun id => id ≠ "" with
  | none => s
  | some runId =>
    match (s.gitops.getApplication target.applicationId).filter fun app =>
        app.lifecycleStatus = .active with
    | none => s
    | some app =>
      match s.runs.find? runId with
      | none =>
        { s with
          gitops := GitOps.step (fun _ => none) s.gitops
            (.healthRunReleased app.id target.nodeId runId
              ⟨"health-rollout-reconcile-" ++ runId, some "system:health-gate",
                "startup_reconcile", now⟩) }
      | some run =>
        match run.status with
        | .observing => s
        | .ended v => s.recordGitOpsHealthVerdict run.nodeId run.stackName run.id v now

def reconcileVerdictsThatNeverArrived (now : Int) : HealthGateService :=
  (s.gitops.targets.rows.filter fun t => t.pendingHealthRunId.isSome).foldl
    (fun s t => s.reconcileTarget now t) s

/-- Settle the runs a previous process left observing, then accept work. -/
def start (now : Int) : HealthGateService :=
  let swept := s.listObservingHealthGateRuns.foldl
    (fun s run => s.finalizePersistedRun run "Sencho restarted during observation" now)
    { s with started := true }
  swept.reconcileVerdictsThatNeverArrived now

/-- End every gate as unknown and forget the tokens. -/
def stop (now : Int) : HealthGateService :=
  let ended := { s with started := false }.endGates (fun _ => true)
    "shutdown during observation" now
  { ended with prepared := [] }

/-- The process ends.  What it kept in memory is gone. -/
def crash : HealthGateService :=
  { s with
    active := []
    prepared := []
    droppedPrepared := []
    preparing := []
    polls := []
    started := false
    suppressedServices := fun _ => 0 }

end HealthGateService

end Sencho.HealthGate

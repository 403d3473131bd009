import Sencho.Blueprints.Approval

/-!
# The plan of a blueprint

The reconciler decides from the selector, the nodes and the deployment rows what each node
needs, and the projection turns the decision into one row for a node.  A row in flight or
under a guard comes before the decision, and the status of a row answers where the decision
says nothing.
-/

namespace Sencho.Blueprints

open Verified CodeUnits

structure Node where
  id : Int
  cordoned : Bool
  deriving DecidableEq

inductive DeploymentStatus where
  | pending
  | pendingStateReview
  | deploying
  | active
  | drifted
  | correcting
  | repairHeld
  | failed
  | withdrawing
  | withdrawn
  | evictBlocked
  | nameConflict
  deriving DecidableEq

structure BlueprintDeployment where
  nodeId : Int
  status : DeploymentStatus
  appliedRevision : Option Int
  lastDeployedAt : Option Int
  driftSummary : Option Text
  lastError : Option Text

/-- The deployment rows of a blueprint, one for a node. -/
abbrev Deployments := Table BlueprintDeployment Int BlueprintDeployment.nodeId

/-- What a tick reads: the GitOps store, the nodes with their labels, the deployment rows of
the blueprint, and what each node answers when it is asked for a stack of that name that
somebody else owns.  No answer is a probe that throws. -/
structure Fleet where
  gitops : GitOps.Db
  nodes : List Node
  labels : Int → List Text
  deployments : Deployments
  hasNameConflict : Int → Option Bool

variable (fleet : Fleet)

def Fleet.getDeployment (nodeId : Int) : Option BlueprintDeployment :=
  fleet.deployments.find? nodeId

/-- The rows in the order of their nodes. -/
def Fleet.listDeployments : List BlueprintDeployment :=
  fleet.deployments.rows.insertionSort fun a b => a.nodeId ≤ b.nodeId

def Fleet.node? (nodeId : Int) : Option Node :=
  fleet.nodes.find? fun n => n.id = nodeId

section Decision

variable (fleet : Fleet) (blueprint : Blueprint)

def matchSelector : Selector → List Node
  | .nodes ids => fleet.nodes.filter fun n => ids.contains n.id
  | .labels any all =>
    let allRequired := all.filter fun s => 0 < s.length
    let anyRequired := any.filter fun s => 0 < s.length
    if allRequired.isEmpty && anyRequired.isEmpty then []
    else
      fleet.nodes.filter fun node =>
        let nodeLabels := fleet.labels node.id
        (allRequired.isEmpty || allRequired.all nodeLabels.contains) &&
          (anyRequired.isEmpty || anyRequired.any nodeLabels.contains)

/-- The desired nodes.  A pin comes before the selector. -/
def listDesiredNodes : List Node :=
  match blueprint.pinnedNodeId with
  | some pinned => (fleet.node? pinned).toList
  | none => matchSelector fleet blueprint.selector

def desires (nodeId : Int) : Bool :=
  (listDesiredNodes fleet blueprint).any fun n => n.id = nodeId

/-- The targets the model has severed. -/
def severedNodes : List Int :=
  match fleet.gitops.getLiveBlueprintApplication blueprint.id with
  | none => []
  | some app => ((fleet.gitops.listTargets app.id).filter fun t => t.status = .tombstoned).map
      GitOps.Target.nodeId

/-- A workload that is not known to be stateless waits for an operator. -/
def needsReview : Bool :=
  blueprint.classification = .stateful || blueprint.classification = .unknown

inductive DecisionSlot where
  | deploy
  | withdraw
  | check
  | stateReview
  | evictBlocked
  deriving DecidableEq

def placementSlot : DecisionSlot := if needsReview blueprint then .stateReview else .deploy

/-- What the decision says of a desired node. -/
def desiredSlot (node : Node) : Option DecisionSlot :=
  let severed := (severedNodes fleet blueprint).contains node.id
  match fleet.getDeployment node.id with
  | none =>
    if severed then none
    else if node.cordoned && blueprint.pinnedNodeId ≠ some node.id then none
    else some (placementSlot blueprint)
  | some dep =>
    match dep.status with
    | .deploying | .correcting | .withdrawing | .pendingStateReview | .evictBlocked
    | .nameConflict => none
    | status =>
      let current := dep.appliedRevision = some blueprint.revision
      if (status = .active || status = .drifted || status = .repairHeld) && current then
        some .check
      else if !current then
        if severed then none else some (placementSlot blueprint)
      else if status = .failed || status = .pending then
        if severed then none else some .deploy
      else none

/-- What the decision says of a deployment on a node that is no longer desired. -/
def leavingSlot (dep : BlueprintDeployment) : Option DecisionSlot :=
  match dep.status with
  | .withdrawn | .deploying | .correcting | .withdrawing | .nameConflict => none
  | status =>
    if status = .pendingStateReview && dep.lastDeployedAt.isNone then none
    else if needsReview blueprint then
      if status ≠ .evictBlocked then some .evictBlocked else none
    else some .withdraw

structure ReconcileDecision where
  deploy : List Node
  withdraw : List Node
  check : List Node
  stateReview : List Node
  evictBlocked : List Node
  severedNodeIds : List Int

def computeDecision : ReconcileDecision :=
  let desired := fun slot => (listDesiredNodes fleet blueprint).filter fun n =>
    desiredSlot fleet blueprint n = some slot
  let leaving := fun slot => (fleet.listDeployments.filter fun d =>
    !desires fleet blueprint d.nodeId && leavingSlot blueprint d = some slot).filterMap fun d =>
      fleet.node? d.nodeId
  { deploy := desired .deploy
    withdraw := leaving .withdraw
    check := desired .check
    stateReview := desired .stateReview
    evictBlocked := leaving .evictBlocked
    severedNodeIds := severedNodes fleet blueprint }

end Decision

structure RawAction where
  node : Node
  action : PreviewAction
  deriving DecidableEq

/-- The rows so far, and the nodes that have their row. -/
structure Projection where
  out : List RawAction
  seen : List Int

def Projection.push (p : Projection) (node : Node) (action : PreviewAction) : Projection :=
  { out := p.out ++ [⟨node, action⟩], seen := node.id :: p.seen }

/-- Push a row for a node that has none. -/
def Projection.pushUnseen (p : Projection) (node : Node) (action : PreviewAction) : Projection :=
  if p.seen.contains node.id then p else p.push node action

def driftCheckAction (mode : DriftMode) : PreviewAction :=
  match mode with
  | .enforce => .checkEnforce
  | .observe | .suggest => .checkObserve

section Projection

variable (fleet : Fleet) (blueprint : Blueprint)

/-- The row a deployment in flight or under a guard has whatever the decision says. -/
def precedenceAction (dep : BlueprintDeployment) (desired : Bool) : Option PreviewAction :=
  match dep.status with
  | .nameConflict => some .blockedNameConflict
  | .deploying => some .inFlightDeploy
  | .correcting => some .inFlightCorrect
  | .withdrawing => some .inFlightWithdraw
  | .pendingStateReview =>
    if !desired && dep.lastDeployedAt.isNone then some .clearStaleGuard else none
  | .evictBlocked => if desired then some .clearReversedEvict else none
  | _ => none

/-- The row the status of a deployment gives where the decision gives none. -/
def fallbackAction (dep : BlueprintDeployment) (desired : Bool) : Option PreviewAction :=
  if desired then
    match dep.status with
    | .pendingStateReview => some .awaitStateReview
    | .drifted | .active | .repairHeld => some (driftCheckAction blueprint.driftMode)
    | .failed | .pending => some .update
    | .withdrawn => some .create
    | _ => none
  else
    match dep.status with
    | .withdrawn => none
    | .pendingStateReview | .evictBlocked => some .awaitEvictConfirm
    | _ => if needsReview blueprint then some .awaitEvictConfirm else some .remove

def projectPrecedence (p : Projection) : Projection :=
  fleet.listDeployments.foldl (fun p dep =>
    match fleet.node? dep.nodeId with
    | none => p
    | some node =>
      match precedenceAction dep (desires fleet blueprint dep.nodeId) with
      | none => p
      | some action => p.push node action) p

/-- A severed node the selector wants again is named, and given no authority. -/
def projectSevered (severed : List Int) (p : Projection) : Projection :=
  severed.foldl (fun p nodeId =>
    if !desires fleet blueprint nodeId || p.out.any (fun row => row.node.id = nodeId) then p
    else
      match fleet.node? nodeId with
      | none => p
      | some node => p.push node .skipWithdrawn) p

def projectDecided (nodes : List Node) (action : Node → PreviewAction) (p : Projection) :
    Projection :=
  nodes.foldl (fun p node => p.pushUnseen node (action node)) p

def projectCordoned (p : Projection) : Projection :=
  (listDesiredNodes fleet blueprint).foldl (fun p node =>
    if (fleet.getDeployment node.id).isNone && node.cordoned &&
        blueprint.pinnedNodeId ≠ some node.id then
      p.pushUnseen node .skipCordoned
    else p) p

def projectFallback (p : Projection) : Projection :=
  fleet.listDeployments.foldl (fun p dep =>
    match fleet.node? dep.nodeId with
    | none => p
    | some node =>
      match fallbackAction blueprint dep (desires fleet blueprint dep.nodeId) with
      | none => p
      | some action => p.pushUnseen node action) p

def projectActions (decision : ReconcileDecision) : List RawAction :=
  let p : Projection := ⟨[], decision.severedNodeIds⟩
  let p := projectPrecedence fleet blueprint p
  let p := projectSevered fleet blueprint decision.severedNodeIds p
  let p := projectDecided decision.deploy
    (fun n => if (fleet.getDeployment n.id).isNone then .create else .update) p
  let p := projectDecided decision.withdraw (fun _ => .remove) p
  let p := projectDecided decision.check (fun _ => driftCheckAction blueprint.driftMode) p
  let p := projectDecided decision.stateReview (fun _ => .awaitStateReview) p
  let p := projectDecided decision.evictBlocked (fun _ => .awaitEvictConfirm) p
  let p := projectCordoned fleet blueprint p
  (projectFallback fleet blueprint p).out

/-- A placement is blocked where another stack has the name, or where nothing can be said. -/
def applyCreateNameConflictBlockers (raw : List RawAction) : List RawAction :=
  raw.map fun row =>
    if row.action = .create && fleet.hasNameConflict row.node.id ≠ some false then
      { row with action := .blockedNameConflict }
    else row

/-- The changes of the preview. -/
def changes : List RawAction :=
  applyCreateNameConflictBlockers fleet
    (projectActions fleet blueprint (computeDecision fleet blueprint))

def executorActions : List ConfirmableActionRef :=
  ((changes fleet blueprint).filter fun c => isExecutorAction c.action).map fun c =>
    ⟨c.node.id, c.action⟩

end Projection

/-- Every action of the plan is one that may be executed. -/
theorem isExecutor_of_plan {fleet : Fleet} {blueprint : Blueprint} {ref : ConfirmableActionRef}
    (hmem : ref ∈ executorActions fleet blueprint) : isExecutorAction ref.action = true := by
  obtain ⟨row, hrow, rfl⟩ := List.mem_map.mp hmem
  exact (List.mem_filter.mp hrow).2

end Sencho.Blueprints

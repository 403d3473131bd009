import Sencho.Blueprints.Deploys
import Sencho.Blueprints.Projections

/-!
# Ticks over one blueprint

A run of ticks over a blueprint whose intent, nodes and labels do not change.  Each tick reads
the rows the one before it left, plans, and executes what is authorized; the store, the approval
and what the nodes answer may be anything.
-/

namespace Sencho.Blueprints

open Verified CodeUnits

/-- What a tick meets: the store, the approval columns, the probes, and the nodes' answers. -/
structure TickInputs where
  gitops : GitOps.Db
  approvalStatus : ApprovalStatus
  approvedIntentFingerprint : Option Text
  approvedBlastJson : Option Text
  hasNameConflict : Int → Option Bool
  answers : Int → NodeAnswers

section Ticks

variable (h : Host) (blueprint : Blueprint) (nodes : List Node) (labels : Int → List Text)

/-- The row a tick reads. -/
def tickRow (i : TickInputs) : Blueprint :=
  { blueprint with
    approvalStatus := i.approvalStatus
    approvedIntentFingerprint := i.approvedIntentFingerprint
    approvedBlastJson := i.approvedBlastJson }

def tickFleet (l : Ledger) (i : TickInputs) : Fleet :=
  ⟨i.gitops, nodes, labels, l.deployments, i.hasNameConflict⟩

/-- The actions in order.  A node that is gone is skipped. -/
def executeAuthorizedActions (row : Blueprint) (answers : Int → NodeAnswers)
    (actions : List ConfirmableActionRef) (l : Ledger) : Ledger :=
  actions.foldl (fun l ref =>
    if (nodes.find? fun n => n.id = ref.nodeId).isNone then l
    else executeOneAction row ref.nodeId (answers ref.nodeId) l ref.action) l

def tickActions (l : Ledger) (i : TickInputs) : List ConfirmableActionRef :=
  (reconcileBlueprint h (tickFleet nodes labels l i) (tickRow blueprint i)).actions

def runTick (l : Ledger) (i : TickInputs) : Ledger :=
  executeAuthorizedActions nodes (tickRow blueprint i) i.answers
    (tickActions h blueprint nodes labels l i) l

def runTicks (l : Ledger) (inputs : List TickInputs) : Ledger :=
  inputs.foldl (runTick h blueprint nodes labels) l

end Ticks

def Event.nodeId : Event → Int
  | .checked nodeId _ => nodeId
  | .deployToNode nodeId => nodeId
  | .reapply nodeId _ => nodeId
  | .alert nodeId _ => nodeId

def Event.isChecked : Event → Bool
  | .checked _ _ => true
  | _ => false

/-- A deploy that pulls by tag. -/
def Event.unpinned : Event → Bool
  | .deployToNode _ => true
  | .reapply _ pinned => !pinned
  | _ => false

/-- Whether what was checked leaves a digest repair owed. -/
def owedAfter (result : DriftCheckResult) (before : Bool) : Bool :=
  match result with
  | .matched => false
  | .drifted _ .digest _ => true
  | _ => before

/-- A digest drift was reported on the node, and no check has found it matched since. -/
def owed (n : Int) : List Event → Bool
  | [] => false
  | .checked m result :: trace =>
    if m = n then owedAfter result (owed n trace) else owed n trace
  | _ :: trace => owed n trace

/-- The latest event is a deploy without pins to the node, which is owed a digest repair. -/
def tagsWhileOwed (n : Int) : List Event → Bool
  | [] => false
  | event :: trace => event.nodeId = n && event.unpinned && owed n trace

/-- No deploy without pins was issued to the node while a digest repair was owed. -/
def PinnedOnly (n : Int) (trace : List Event) : Prop :=
  ∀ past ∈ trace.tails, tagsWhileOwed n past = false

instance PinnedOnly.decidable (n : Int) (trace : List Event) : Decidable (PinnedOnly n trace) :=
  inferInstanceAs (Decidable (∀ past ∈ trace.tails, _))

theorem pinnedOnly_nil (n : Int) : PinnedOnly n [] := by
  intro past hpast
  rw [List.mem_singleton.mp hpast]
  rfl

theorem pinnedOnly_cons {n : Int} {event : Event} {trace : List Event}
    (hfirst : event.nodeId = n → event.unpinned = true → owed n trace = false)
    (h : PinnedOnly n trace) : PinnedOnly n (event :: trace) := by
  intro past hpast
  rcases List.mem_cons.mp hpast with rfl | hpast
  · rw [tagsWhileOwed, Bool.and_eq_false_iff, Bool.and_eq_false_iff, decide_eq_false_iff_not]
    by_cases hnode : event.nodeId = n
    · cases hunpinned : event.unpinned with
      | false => exact .inl (.inr rfl)
      | true => exact .inr (hfirst hnode hunpinned)
    · exact .inl (.inl hnode)
  · exact h past hpast

/-- The cause a tick in Enforce repairs, when nothing holds the repair. -/
def repairs (blueprint : Blueprint) (a : NodeAnswers) : Option DriftCause :=
  match a.check with
  | .drifted _ cause block =>
    if (effectiveRepairBlock blueprint a block).isNone then some cause else none
  | _ => none

/-- A deploy that takes the lock and ends failed. -/
def deployFails (a : DeployAnswers) : Bool :=
  a.lockFree &&
    match a.hasNameConflict with
    | .error _ => true
    | .ok true => false
    | .ok false =>
      match a.apply with
      | .error (.other _) => true
      | .error (.nameConflict _) => false
      | .ok () =>
        match a.freeze with
        | .error _ => true
        | .ok () => false

/-- A digest repair that reaches its deploy, which fails. -/
def digestDeployFails (a : RepairAnswers) : Bool :=
  a.first.recordable && a.first.binding.isOk && a.platform.isOk && a.pins &&
    a.again.recordable && a.again.binding.isOk && a.content.isOk && deployFails a.deploy

/-- On every node a tick checks: a digest repair does not fail once its deploy has begun, and
while one is owed no other drift is repaired. -/
def Steady (h : Host) (blueprint : Blueprint) (nodes : List Node) (labels : Int → List Text)
    (l : Ledger) (i : TickInputs) : Prop :=
  ∀ ref ∈ tickActions h blueprint nodes labels l i, isCheck ref.action = true →
    (repairs blueprint (i.answers ref.nodeId) = some .digest →
      digestDeployFails (i.answers ref.nodeId).repair = false) ∧
    (owed ref.nodeId l.trace = true →
      repairs blueprint (i.answers ref.nodeId) = none ∨
        repairs blueprint (i.answers ref.nodeId) = some .digest)

instance Steady.decidable (h : Host) (blueprint : Blueprint) (nodes : List Node)
    (labels : Int → List Text) (l : Ledger) (i : TickInputs) :
    Decidable (Steady h blueprint nodes labels l i) :=
  inferInstanceAs (Decidable (∀ ref ∈ tickActions h blueprint nodes labels l i, _))

/-- A run whose every tick is steady. -/
def SteadyRun (h : Host) (blueprint : Blueprint) (nodes : List Node) (labels : Int → List Text) :
    Ledger → List TickInputs → Prop
  | _, [] => True
  | l, i :: inputs =>
    Steady h blueprint nodes labels l i ∧
      SteadyRun h blueprint nodes labels (runTick h blueprint nodes labels l i) inputs

end Sencho.Blueprints

import Sencho.FleetSync.Service
import Sencho.Verified.Runs

/-!
# One control and one remote

The control's tables, its process, the requests that may still arrive at the remote, and the
remote.  A push is numbered and remembers the control state its rows were read from; the
pushes applied, and whether the latest push of a resource has been answered or given up on,
are kept beside the state.

The process waits for one push at a time.  Its request may arrive after the process gave up
on it, and after the process is gone.
-/

namespace Sencho.FleetSync

open Verified

/-- What stays the same: how the control reaches the remote, the name it gives itself, and
how the remote validates rows. -/
structure Fleet (Row : Type) where
  apiUrl : String
  fingerprint : String
  validate : FleetResource → Row → Option String

/-- A push to the remote, and the control state it carries. -/
structure Push (Row : Type) where
  id : Nat
  resource : FleetResource
  payload : FleetSyncPayload Row
  state : Nat

/-- What the control keeps across restarts.  It names itself once it has an instance id. -/
structure Control (Row : Type) where
  fleetRole : FleetRole
  instanceId : Bool
  rows : FleetResource → List Row
  status : FleetResource → Option FleetSyncStatus

/-- What the process of the control keeps: the counter, the push it waits for with what the
remote has answered, and the pushes chained behind it. -/
structure Process (Row : Type) where
  lastPushedAt : Int
  running : Option (Push Row × Option SyncAnswer)
  chained : List (Push Row)

structure SyncState (Row : Type) where
  control : Control Row
  process : Process Row
  requests : List (Push Row)
  replica : Replica Row
  writes : FleetResource → Nat
  nextId : Nat
  latest : FleetResource → Option (Push Row)
  settled : FleetResource → Bool
  applied : FleetResource → List (Push Row)

inductive SyncEvent (Row : Type) where
  | write (resource : FleetResource) (rows : List Row)
  | identify
  | pushResource (resource : FleetResource) (now : Int)
  | retryOne (resource : FleetResource) (evaluatedAt now : Int)
  | start
  | deliver (id : Nat) (fails : Option (Nat × String))
  | lose (id : Nat)
  | answered (now : Int)
  | timeout (now : Int)
  | restart

/-- One value of a resource changed. -/
def setAt {α : Type} (f : FleetResource → α) (resource : FleetResource) (a : α) :
    FleetResource → α :=
  fun r => if r = resource then a else f r

@[simp] theorem setAt_self {α : Type} (f : FleetResource → α) (r : FleetResource) (a : α) :
    setAt f r a r = a := if_pos rfl

theorem setAt_ne {α : Type} {f : FleetResource → α} {r r' : FleetResource} {a : α}
    (h : r' ≠ r) : setAt f r a r' = f r' := if_neg h

namespace Process

def fresh {Row : Type} : Process Row := ⟨0, none, []⟩

end Process

namespace SyncState

section Steps

variable {Row : Type} (fleet : Fleet Row)
variable (s : SyncState Row)

/-- The name the control gives itself. -/
def controlIdentity : String :=
  if s.control.instanceId then fleet.fingerprint else ""

/-- The push the control makes of a resource now. -/
def newPush (resource : FleetResource) (now : Int) : Push Row where
  id := s.nextId
  resource := resource
  payload :=
    { rows := loadResource (s.control.rows resource)
      pushedAt := nextPushedAt now s.process.lastPushedAt
      targetIdentity := fleet.apiUrl
      controlIdentity := s.controlIdentity fleet }
  state := s.writes resource

/-- Stamp a push and chain it behind the others. -/
def enqueuePushToNode (push : Push Row) : SyncState Row :=
  { s with
    process :=
      { s.process with
        lastPushedAt := push.payload.pushedAt
        chained := s.process.chained ++ [push] }
    nextId := s.nextId + 1
    latest := setAt s.latest push.resource (some push)
    settled := setAt s.settled push.resource false }

/-- Push a resource to the remote.  A replica pushes nothing. -/
def pushResource (resource : FleetResource) (now : Int) : SyncState Row :=
  match s.control.fleetRole with
  | .replica => s
  | .control => s.enqueuePushToNode (s.newPush fleet resource now)

/-- Whether the retry service sends a resource again. -/
def retries (resource : FleetResource) (evaluatedAt : Int) : Bool :=
  s.control.fleetRole = .control &&
    (getFailedSyncTarget evaluatedAt retryMaxAgeMs (s.control.status resource)).isSome

/-- Begin the next push.  A sticky failure skips it. -/
def executePushToNode : SyncState Row :=
  match s.process.running, s.process.chained with
  | none, push :: chained =>
    match getFleetSyncStickyCode (s.control.status push.resource) with
    | some _ => { s with process := { s.process with chained := chained } }
    | none =>
      { s with
        process := { s.process with running := some (push, none), chained := chained }
        requests := push :: s.requests }
  | _, _ => s

/-- An answer reaches the process that waits for it. -/
def Process.answer (process : Process Row) (id : Nat) (answer : SyncAnswer) : Process Row :=
  match process.running with
  | some (push, none) =>
    if push.id = id then { process with running := some (push, some answer) } else process
  | _ => process

/-- A request arrives at the remote, which may also fail on its own. -/
def deliver (push : Push Row) (fails : Option (Nat × String)) : SyncState Row :=
  let requests := s.requests.filter fun r => r.id ≠ push.id
  match fails with
  | some (status, error) =>
    { s with
      requests := requests
      process := Process.answer s.process push.id (.failed status error) }
  | none =>
    let received := receiveSync fleet.validate s.replica push.resource push.payload
    let arrived :=
      { s with
        requests := requests
        replica := received.1
        process := Process.answer s.process push.id received.2 }
    match received.2 with
    | .success _ =>
      { arrived with
        applied := setAt s.applied push.resource (push :: s.applied push.resource) }
    | _ => arrived

/-- The process records what became of the push it waited for, and waits no longer. -/
def settle (push : Push Row) (now : Int) (answer : Option SyncAnswer) : SyncState Row :=
  { s with
    control :=
      { s.control with
        status := setAt s.control.status push.resource
          (recordAnswer now answer (s.control.status push.resource)) }
    process := { s.process with running := none }
    settled := setAt s.settled push.resource
      (s.settled push.resource ||
        (s.latest push.resource).any fun latest => latest.id = push.id) }

/-- Everything that can happen. -/
def step : SyncEvent Row → SyncState Row
  | .write resource rows =>
    { s with
      control := { s.control with rows := setAt s.control.rows resource rows }
      writes := setAt s.writes resource (s.writes resource + 1) }
  | .identify => { s with control := { s.control with instanceId := true } }
  | .pushResource resource now => s.pushResource fleet resource now
  | .retryOne resource evaluatedAt now =>
    if s.retries resource evaluatedAt then s.pushResource fleet resource now else s
  | .start => s.executePushToNode
  | .deliver id fails =>
    match s.requests.find? fun r => r.id = id with
    | some push => s.deliver fleet push fails
    | none => s
  | .lose id => { s with requests := s.requests.filter fun r => r.id ≠ id }
  | .answered now =>
    match s.process.running with
    | some (push, some answer) => s.settle push now (some answer)
    | _ => s
  | .timeout now =>
    match s.process.running with
    | some (push, _) => s.settle push now none
    | none => s
  | .restart => { s with process := .fresh }

end Steps

/-- A control and a remote that have not met. -/
structure Unsynced {Row : Type} (s : SyncState Row) : Prop where
  process : s.process = .fresh
  status : ∀ r, s.control.status r = none
  requests : s.requests = []
  anchor : s.replica.fleetControlIdentity.filter (fun cached => cached ≠ "") = none
  receivedPushedAt : ∀ r, s.replica.receivedPushedAt r = none
  latest : ∀ r, s.latest r = none
  settled : ∀ r, s.settled r = false
  applied : ∀ r, s.applied r = []

/-- The control states applied never go back.  The latest is the first. -/
def NeverRegresses {Row : Type} (s : SyncState Row) : Prop :=
  ∀ r, (s.applied r).Pairwise fun later earlier => earlier.state ≤ later.state

/-- A push that is the latest of its resource, answered or given up on, is what the remote
holds, or its failure is on record. -/
def NeverLoses {Row : Type} (s : SyncState Row) : Prop :=
  ∀ r push, s.latest r = some push → s.settled r = true →
    s.replica.replicated r = push.payload.rows ∨
      (s.control.status r).any FleetSyncStatus.unresolved = true

end SyncState

end Sencho.FleetSync

import Sencho.Recovery.IntentProtocol

/-!
# The restore fence and the starts it has to catch

This module embeds the two sides that meet on the fence column of an intent: the
starts of single containers, which check the fences and register themselves, and
a staged overwrite, which writes its fence, waits for the starts in flight and
then stops the containers of its volume.

The host runs one synchronous stretch of code at a time, so a step of the system
is what one call does up to its next `await`: the check of a start and its
registration are one step, the answer of an inspection is another.  Every
`await` may be answered at any later step or never, with any of its answers, and
steps of different calls interleave freely.  A step whose call is not waiting
for it changes nothing.

What a container mounts is fixed when the daemon creates it, and the daemon does
not give an id again once its container is gone; `mounts` is that assignment.
-/

namespace Sencho.Recovery

open Verified

/-- The fence states that keep workloads from starting. -/
def RestoreFenceState.isLive : RestoreFenceState → Bool
  | .held | .releaseFailed => true
  | .none | .released => false

/-- The volumes a live overwrite holds. -/
def liveFencedVolumeNames (t : IntentTable) : List String :=
  t.rows.filterMap fun row =>
    if row.targetMode = .stagedOverwrite && row.fenceState.isLive then row.targetVolume
    else none

/-- The volume that refuses a start.  An empty name refuses nothing. -/
def fenceHit (fenced names : List String) : Option String :=
  (names.find? fun name => fenced.contains name).filter fun hit => hit ≠ ""

/-- A mount as the daemon reports it. -/
structure Mount where
  type : Option String
  name : Option String

/-- The named volumes among the mounts of a container. -/
def volumeNames (mounts : List Mount) : List String :=
  mounts.filterMap fun m => if m.type = some "volume" then m.name else none

/-- A start that was issued, with the volumes its container mounted then. -/
structure IssuedStart where
  number : Nat
  mounted : List String

/-- A start pending this long is a hung daemon call. -/
def hungStartAfterMs : Int := 10 * 60000

/-- What `waitForStartsInFlight` does up to its first `await`: refuse because of
a hung start, or wait for the starts that are in flight now. -/
inductive Drain where
  | refused
  | waiting (pending : List Nat)
  deriving DecidableEq

def waitForStartsInFlight (startsInFlight : List (Nat × Int)) (now : Int) : Drain :=
  if startsInFlight.any fun start => now - start.2 ≥ hungStartAfterMs then .refused
  else .waiting (startsInFlight.map (·.1))

/-- The result of a wait, if it has one yet.  The cap may run out at any time
while a start is pending. -/
def Drain.result (answered : List Nat) (capped : Bool) : Drain → Option Bool
  | .refused => some false
  | .waiting [] => some true
  | .waiting pending =>
    if capped then some false
    else if pending.all answered.contains then some true
    else none

/-- The calls `applyRestoreFence` makes of one container. -/
inductive FenceCall where
  | update (containerId : String)
  | stop (containerId : String)
  deriving DecidableEq

/-- Where a fence application waits: for the starts in flight, for the list of
containers that mount the volume, for the starts again after its own write, or
for the next call of a container. -/
inductive ApplicationStage where
  | draining (drain : Drain)
  | listing
  | applying (drain : Drain)
  | stopping (calls : List FenceCall)
  | ended
  deriving DecidableEq

structure Application where
  intentId : String
  members : List String
  stage : ApplicationStage

/-- A release on its way through the members of its fence. -/
structure Release where
  intentId : String
  members : List String
  failed : Bool

structure FenceSystem where
  intents : IntentTable
  /-- Containers that no longer exist. -/
  gone : List String
  issued : List IssuedStart
  answered : List Nat
  /-- The starts registered in the process, with the time each began. -/
  startsInFlight : List (Nat × Int)
  /-- The containers whose start waits for an inspection. -/
  inspections : List String
  applications : List Application
  releases : List Release

def FenceSystem.empty : FenceSystem := ⟨.empty, [], [], [], [], [], [], []⟩

/-- How the daemon answers an inspection. -/
inductive Inspection where
  | found
  | notFound
  | failed

/-- How the daemon answers the calls that release one container. -/
inductive ReleaseAnswer where
  | released
  | notFound
  | failed
  deriving DecidableEq

inductive FenceAction where
  | startUnderFence (names : List String) (throws : Bool) (now : Int)
  | startContainerUnderFence (containerId : String) (throws : Bool) (now : Int)
  | inspected (i : Nat) (answer : Inspection) (throws : Bool) (now : Int)
  | answered (number : Nat)
  | forgotten (number : Nat)
  | removed (containerId : String)
  | store (call : IntentCall)
  | fenceWorkloads (intentId : String) (members : List String) (now : Int)
  | drained (i : Nat) (capped : Bool) (now : Int)
  | listed (i : Nat) (current : Option (List String)) (now : Int)
  | applyDrained (i : Nat) (capped : Bool)
  | fenceCall (i : Nat) (ok : Bool)
  | releaseRestoreFence (intentId : String) (members : List String)
  | releasedMember (i : Nat) (answer : ReleaseAnswer)
  | releaseEnded (i : Nat) (now : Int)

namespace FenceSystem

section

variable (mounts : String → List Mount)
variable (s : FenceSystem)

/-- The volumes the container of an id mounts, if there is one. -/
def mountedBy (containerId : String) : List String :=
  if s.gone.contains containerId then [] else volumeNames (mounts containerId)

/-- Issue a start and register it.  A start that throws at once was not made. -/
def issue (mounted : List String) (throws : Bool) (now : Int) : FenceSystem :=
  if throws then s
  else
    { s with
      issued := s.issued ++ [⟨s.issued.length, mounted⟩]
      startsInFlight := s.startsInFlight ++ [(s.issued.length, now)] }

/-- Check the fences, and issue and register the start in the same step. -/
def startUnderFence (names mounted : List String) (throws : Bool) (now : Int) : FenceSystem :=
  match fenceHit (liveFencedVolumeNames s.intents) names with
  | some _ => s
  | none => s.issue mounted throws now

/-- A container start: without any live fence it is issued at once, else its
mounts are read first. -/
def startContainerUnderFence (containerId : String) (throws : Bool) (now : Int) : FenceSystem :=
  if (liveFencedVolumeNames s.intents).length = 0 then
    s.startUnderFence [] (s.mountedBy mounts containerId) throws now
  else { s with inspections := s.inspections ++ [containerId] }

/-- The rest of a container start, after its inspection was answered.  Only a
container that is gone is not found. -/
def inspected (i : Nat) (answer : Inspection) (throws : Bool) (now : Int) : FenceSystem :=
  match s.inspections[i]? with
  | none => s
  | some containerId =>
    let s' := { s with inspections := s.inspections.eraseIdx i }
    match answer with
    | .failed => s'
    | .notFound =>
      if s.gone.contains containerId then
        s'.startUnderFence [] (s.mountedBy mounts containerId) throws now
      else s
    | .found =>
      s'.startUnderFence (volumeNames (mounts containerId))
        (s.mountedBy mounts containerId) throws now

end

/-- The fence column of an intent.  An intent that is not there is not written. -/
def setFenceState (s : FenceSystem) (intentId : String) (state : RestoreFenceState)
    (now : Int) : FenceSystem :=
  { s with intents := intentStep s.intents (.setFenceState intentId state now) }

variable (s : FenceSystem)

def setStage (i : Nat) (app : Application) (stage : ApplicationStage) : FenceSystem :=
  { s with applications := s.applications.set i { app with stage } }

/-- `fenceWorkloads` up to its first wait: it enters the phase, writes the fence
and looks at the starts in flight.  A refused phase ends it before the fence. -/
def fenceWorkloads (intentId : String) (members : List String) (now : Int) : FenceSystem :=
  match callIntents s.intents (.advance ⟨[], []⟩ intentId .fenced .empty now) with
  | .error _ => s
  | .ok intents =>
    let s' := { s with intents }.setFenceState intentId .held now
    { s' with
      applications := s.applications ++ [⟨intentId, members,
          .draining (waitForStartsInFlight s.startsInFlight now)⟩] }

/-- The wait of `fenceWorkloads` ended. -/
def drained (i : Nat) (app : Application) (drain : Drain) (capped : Bool) (now : Int) :
    FenceSystem :=
  match drain.result s.answered capped with
  | none => s
  | some false => (s.setFenceState app.intentId .none now).setStage i app .ended
  | some true => s.setStage i app .listing

/-- The containers were listed.  Another set of containers takes the fence back;
the same set goes on to `applyRestoreFence`, up to its wait. -/
def listed (i : Nat) (app : Application) (current : Option (List String)) (now : Int) :
    FenceSystem :=
  match current with
  | none => s.setStage i app .ended
  | some current =>
    if current.length ≠ app.members.length || current.any fun id => !app.members.contains id then
      (s.setFenceState app.intentId .none now).setStage i app .ended
    else
      (s.setFenceState app.intentId .held now).setStage i app
        (.applying (waitForStartsInFlight s.startsInFlight now))

/-- The wait of `applyRestoreFence` ended.  A start that did not answer refuses
the fence. -/
def applyDrained (i : Nat) (app : Application) (drain : Drain) (capped : Bool) : FenceSystem :=
  match drain.result s.answered capped with
  | none => s
  | some false => s.setStage i app .ended
  | some true =>
    s.setStage i app (.stopping (app.members.flatMap fun id => [.update id, .stop id]))

/-- A call of a container is issued and answered.  A stop of a container that
was stopped already counts as answered. -/
def fenceCall (i : Nat) (app : Application) (ok : Bool) :
    List FenceCall → FenceSystem
  | [] => s
  | _ :: calls => s.setStage i app (if ok then .stopping calls else .ended)

/-- One member of a release; a member whose container is gone is released. -/
def releasedMember (i : Nat) (answer : ReleaseAnswer) : FenceSystem :=
  match s.releases[i]? with
  | some ⟨intentId, _ :: members, failed⟩ =>
    { s with
      releases := s.releases.set i ⟨intentId, members, failed || answer == .failed⟩ }
  | _ => s

/-- The end of a release writes the fence column once. -/
def releaseEnded (i : Nat) (now : Int) : FenceSystem :=
  match s.releases[i]? with
  | some ⟨intentId, [], failed⟩ =>
    { s.setFenceState intentId (if failed then .releaseFailed else .released) now with
      releases := s.releases.eraseIdx i }
  | _ => s

end FenceSystem

/-- The calls of the intent store that do not write the fence column. -/
def IntentCall.keepsFence : IntentCall → Bool
  | .setFenceState _ _ _ => false
  | _ => true

/-- One synchronous stretch of the process. -/
def fenceStep (mounts : String → List Mount) (s : FenceSystem) : FenceAction → FenceSystem
  | .startUnderFence names throws now => s.startUnderFence names names throws now
  | .startContainerUnderFence containerId throws now =>
    s.startContainerUnderFence mounts containerId throws now
  | .inspected i answer throws now => s.inspected mounts i answer throws now
  | .answered number =>
    if (s.issued.map (·.number)).contains number then
      { s with answered := number :: s.answered }
    else s
  | .forgotten number =>
    if s.answered.contains number then
      { s with startsInFlight := s.startsInFlight.filter (·.1 ≠ number) }
    else s
  | .removed containerId => { s with gone := containerId :: s.gone }
  | .store call =>
    if call.keepsFence then { s with intents := intentStep s.intents call } else s
  | .fenceWorkloads intentId members now => s.fenceWorkloads intentId members now
  | .drained i capped now =>
    match s.applications[i]? with
    | some app =>
      match app.stage with
      | .draining drain => s.drained i app drain capped now
      | _ => s
    | none => s
  | .listed i current now =>
    match s.applications[i]? with
    | some app =>
      match app.stage with
      | .listing => s.listed i app current now
      | _ => s
    | none => s
  | .applyDrained i capped =>
    match s.applications[i]? with
    | some app =>
      match app.stage with
      | .applying drain => s.applyDrained i app drain capped
      | _ => s
    | none => s
  | .fenceCall i ok =>
    match s.applications[i]? with
    | some app =>
      match app.stage with
      | .stopping calls => s.fenceCall i app ok calls
      | _ => s
    | none => s
  | .releaseRestoreFence intentId members =>
    { s with releases := s.releases ++ [⟨intentId, members, false⟩] }
  | .releasedMember i answer => s.releasedMember i answer
  | .releaseEnded i now => s.releaseEnded i now

def fenceRun (mounts : String → List Mount) (acts : List FenceAction) : FenceSystem :=
  Runs.run (fenceStep mounts) .empty acts

variable (s : FenceSystem)

/-- The fence of an intent is held. -/
def FenceSystem.Held (intentId : String) : Prop :=
  ∃ row, s.intents.find? intentId = some row ∧ row.fenceState = .held

/-- The fence of an intent keeps the workloads of a volume down. -/
def FenceSystem.Fences (intentId volume : String) : Prop :=
  ∃ row, s.intents.find? intentId = some row ∧ row.targetVolume = some volume ∧
    row.fenceState.isLive = true

/-- The action issues a container call of the fence application of an intent. -/
def FenceSystem.IssuesFenceCall (a : FenceAction) (intentId : String) : Prop :=
  ∃ i ok app call calls, a = .fenceCall i ok ∧ s.applications[i]? = some app ∧
    app.stage = .stopping (call :: calls) ∧ app.intentId = intentId

end Sencho.Recovery

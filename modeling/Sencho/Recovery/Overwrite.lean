import Sencho.Recovery.Fence
import Sencho.Recovery.Swap

/-!
# Settling a staged overwrite

This module embeds what a staged overwrite does to settle: the helper steps on
the volume, the release of its fence, the rollback it shares with the live
pipeline, the reconciliation at boot and the operator's two answers.

The durable state of one overwrite is its intent, the members of its fence and
the volume with the swap journal in it.
Every program is interruptible: a row write, a released member and one helper
step is one durable effect, and the process can die between any two of them.
The helper runs in a container of its own, so a helper step has its own budget:
the helper can be cut anywhere, and its answer can be lost, whether the process
dies or not.  The answers of the helper and of the daemon are parameters.

`log` is not durable: it records, in order, what was done to the fenced
containers and which helper steps were issued with data still to move.  The
staging volume appears through the answer to its removal.  Holds on recovery
points, the operation's own record and log lines are left out.
-/

namespace Sencho.Recovery

open Verified.Interrupt Prog

structure RestartPolicy where
  name : Option String
  maximumRetryCount : Option Nat
  deriving DecidableEq

structure FenceMember where
  containerId : String
  restartPolicy : RestartPolicy
  wasRunning : Bool
  releasedAt : Option Int

inductive SwapAction where
  | prepare
  | commit
  | status
  | rollback
  | cleanup
  deriving DecidableEq

inductive OverwriteEvent where
  | policyRestored (containerId : String) (policy : RestartPolicy)
  | started (containerId : String)
  | markedReleased (containerId : String)
  | issued (action : SwapAction) (movesData : Bool)
  deriving DecidableEq

/-- Something was done to a fenced container to bring it back. -/
def OverwriteEvent.releases : OverwriteEvent → Bool
  | .policyRestored _ _ | .started _ | .markedReleased _ => true
  | .issued _ _ => false

/-- A helper step was issued that moves entries or applies root metadata. -/
def OverwriteEvent.movesData : OverwriteEvent → Bool
  | .issued _ movesData => movesData
  | _ => false

structure Overwrite (id : IntentId) (C : Type) where
  intent : IntentRow
  members : List FenceMember
  volume : Volume id C
  log : List OverwriteEvent

variable {id : IntentId} {C : Type}

abbrev OverwriteM (id : IntentId) (C : Type) := Prog (Overwrite id C) ErrorClass

/-- Evidence that sets the outcome class only. -/
def outcomeOnly (c : Option ErrorClass) : IntentAdvanceFields :=
  { IntentAdvanceFields.empty with outcomeClass := some c }

/-- The transition table and the check on overwrite phases admit a move. -/
def mayAdvance (row : IntentRow) (phase : RestoreIntentPhase) : Bool :=
  (allowedTransitions row.phase).contains phase &&
    (row.targetMode = .stagedOverwrite || !restoreOverwritePhases.contains phase)

namespace Overwrite

def setIntent (f : IntentRow → IntentRow) (s : Overwrite id C) : Overwrite id C :=
  { s with intent := f s.intent }

def record (event : OverwriteEvent) (s : Overwrite id C) : Overwrite id C :=
  { s with log := s.log ++ [event] }

end Overwrite

def advanceIntent (phase : RestoreIntentPhase) (extra : IntentAdvanceFields)
    (now : Int) : OverwriteM id C Unit := do
  let s ← read
  if mayAdvance s.intent phase then
    write (·.setIntent fun row => extra.apply now { row with phase })
  else fail .invalidRequest

def updateIntent (extra : IntentAdvanceFields) (now : Int) : OverwriteM id C Unit :=
  write (·.setIntent (extra.apply now))

def setFenceState (state : RestoreFenceState) (now : Int) : OverwriteM id C Unit :=
  write (·.setIntent ({ · with fenceState := state, updatedAt := now }))

/-- Park the intent, or refresh the class of one that is parked. -/
def markUnknown (intent : IntentRow) (c : ErrorClass) (now : Int) : OverwriteM id C Unit :=
  if intent.phase = .completionUnknown then updateIntent (outcomeOnly (some c)) now
  else advanceIntent .completionUnknown (outcomeOnly (some c)) now

/-- The staging volume is still on disk: keep the phase and say why. -/
def keepForCleanup (now : Int) : OverwriteM id C Unit :=
  updateIntent (outcomeOnly (some .cleanupFailed)) now

/-- A settled intent stops reporting a fence that has been released since. -/
def clearFenceOutcome (intent : IntentRow) (now : Int) : OverwriteM id C Unit :=
  guardedBy (intent.outcomeClass = some .fenceUnavailable) (updateIntent (outcomeOnly none) now)

inductive SwapRunError where
  | interrupted
  | nodeError
  | capabilityUnavailable
  deriving DecidableEq

/-- `ok` when the helper exited 0 and answered a status. -/
structure SwapRunResult where
  ok : Bool
  report : Option SwapReport
  errorClass : Option SwapRunError

/-- How a helper that ran is heard of: it exited, or it was aborted or killed
after or before it printed its report. -/
inductive Delivery where
  | exited
  | aborted (printed : Bool)
  | killed (printed : Bool)

/-- One run of the helper: it could not be started, or it ran with a budget of
its own, deleting in some order when it deletes. -/
inductive HelperRun (C : Type) where
  | unavailable (errorClass : SwapRunError)
  | ran (budget : Budget) (delivery : Delivery) (order : List (Removal C))
      (cleanup : CleanupOrder C)

/-- The program of a helper step. -/
def swapProgram (action : SwapAction) (order : List (Removal C))
    (cleanup : CleanupOrder C) : SwapM id C SwapReport :=
  match action with
  | .prepare => swapPrepare
  | .commit => swapCommit
  | .status => swapStatus
  | .rollback => swapRollback order
  | .cleanup => swapCleanup cleanup

/-- The volume after a helper run. -/
def HelperRun.volume (run : HelperRun C) (action : SwapAction) (v : Volume id C) : Volume id C :=
  match run with
  | .unavailable _ => v
  | .ran budget _ order cleanup => (swapProgram action order cleanup).after budget v

/-- The report a run printed.  A refusal prints an error and no status. -/
def printedReport : Outcome SwapError SwapReport → Option SwapReport
  | .done report => some report
  | .failed _ | .cut => none

/-- What the caller gets of a helper run. -/
def HelperRun.result (run : HelperRun C) (action : SwapAction) (v : Volume id C) :
    SwapRunResult :=
  match run with
  | .unavailable e => ⟨false, none, some e⟩
  | .ran budget delivery order cleanup =>
    let report := printedReport ((swapProgram action order cleanup).outcome budget v)
    match delivery with
    | .exited => ⟨report.isSome, report, none⟩
    | .aborted printed => ⟨false, if printed then report else none, some .interrupted⟩
    | .killed printed => ⟨false, if printed then report else none, some .nodeError⟩

/-- Whether a step still has entries to move or root metadata to apply. -/
def movesData (action : SwapAction) (v : Volume id C) : Bool :=
  match action, v.journal with
  | .commit, some (.plan plan) => plan.status ≠ .swapped
  | .rollback, some (.plan plan) =>
    plan.status ≠ .swapped &&
      (plan.incoming.any (fun n => v.has .root n && !v.has (.work .incoming) n) ||
        plan.originals.any fun n => v.has (.work .original) n)
  | _, _ => false

/-- One swap step against the volume. -/
def runSwapStep (action : SwapAction) (run : HelperRun C) : OverwriteM id C SwapRunResult := do
  let s ← read
  write fun s =>
    { s with volume := run.volume action s.volume }.record
      (.issued action (movesData action s.volume))
  pure (run.result action s.volume)

def SwapRunResult.status (r : SwapRunResult) : Option SwapStatus :=
  r.report.map (·.status)

/-- A rollback or a clean-up: a failed run that left no journal has done its
work, so the status read after it is the answer. -/
def runClosingSwapStep (action : SwapAction) (run statusRun : HelperRun C) :
    OverwriteM id C SwapRunResult := do
  let result ← runSwapStep action run
  if result.ok then pure result
  else do
    let after ← runSwapStep .status statusRun
    if after.ok && after.status = some .absent then pure after else pure result

/-- How the daemon answers a call.  A failed call may have taken effect. -/
inductive DockerAnswer where
  | ok
  | notModified
  | notFound
  | failed (applied : Bool)

structure MemberAnswer where
  update : DockerAnswer
  start : DockerAnswer

inductive VolumeRemoval where
  | removed
  | missing
  | notOurs
  | inUse
  | failed

/-- The helper calls of one entry point, each made at most once. -/
inductive HelperSite where
  | prepare
  | commit
  | status
  | commitAgain
  | statusAgain
  | rollback
  | rollbackStatus
  | cleanup
  | cleanupStatus

/-- What the world answers one entry point.  Boot may release a fence twice. -/
structure Answers (C : Type) where
  now : Int
  helper : HelperSite → HelperRun C
  release : String → MemberAnswer
  releaseLeftover : String → MemberAnswer
  staging : VolumeRemoval

def markMemberReleased (containerId : String) (now : Int) : OverwriteM id C Unit :=
  write fun s =>
    { s with
      members := s.members.map fun m : FenceMember =>
        if m.containerId = containerId then { m with releasedAt := some now } else m
      }.record (.markedReleased containerId)

/-- Start a member that was running; whether that failed. -/
def startMember (answer : DockerAnswer) (m : FenceMember) (now : Int) : OverwriteM id C Bool :=
  match answer with
  | .ok => do
    write (·.record (.started m.containerId))
    markMemberReleased m.containerId now
    pure false
  | .notModified | .notFound => do
    markMemberReleased m.containerId now
    pure false
  | .failed applied => do
    guardedBy applied (write (·.record (.started m.containerId)))
    pure true

/-- Release one member; whether that failed.  A member that was released and a
container that is gone need nothing. -/
def releaseMember (answers : String → MemberAnswer) (restart : Bool) (now : Int)
    (m : FenceMember) : OverwriteM id C Bool :=
  if m.releasedAt.isSome then pure false
  else
    match (answers m.containerId).update with
    | .ok => do
      write (·.record (.policyRestored m.containerId m.restartPolicy))
      if restart && m.wasRunning then
        startMember (answers m.containerId).start m now
      else do
        markMemberReleased m.containerId now
        pure false
    | .notFound => do
      markMemberReleased m.containerId now
      pure false
    | .notModified => pure true
    | .failed applied => do
      guardedBy applied (write (·.record (.policyRestored m.containerId m.restartPolicy)))
      pure true

def releaseMembers (answers : String → MemberAnswer) (restart : Bool) (now : Int) :
    List FenceMember → OverwriteM id C Bool
  | [] => pure false
  | m :: ms => do
    let failed ← releaseMember answers restart now m
    let rest ← releaseMembers answers restart now ms
    pure (failed || rest)

/-- Restore every recorded policy, then write the fence state once. -/
def releaseRestoreFence (answers : String → MemberAnswer) (restart : Bool) (now : Int)
    (members : List FenceMember) : OverwriteM id C Bool := do
  let failed ← releaseMembers answers restart now members
  setFenceState (if failed then .releaseFailed else .released) now
  pure !failed

def releaseFence (answers : String → MemberAnswer) (restart : Bool) (now : Int) :
    OverwriteM id C Bool := do
  let s ← read
  if s.intent.fenceState = .none || s.intent.fenceState = .released then pure true
  else if s.members.isEmpty then do
    setFenceState .released now
    pure true
  else releaseRestoreFence answers restart now s.members

/-- The fence was released, or its release failed part way. -/
def workloadsMayRunNow (state : RestoreFenceState) : Bool :=
  state = .released || state = .releaseFailed

/-- Remove the staging volume and report whether it is gone. -/
def stagingVolumeGone (removal : VolumeRemoval) : OverwriteM id C Bool := do
  let s ← read
  match s.intent.stagingVolume, removal with
  | none, _ => pure true
  | some _, .removed | some _, .missing | some _, .notOurs => pure true
  | some _, .inUse | some _, .failed => pure false

def preFencePhases : List RestoreIntentPhase := [.recorded, .staging, .stagedVerified]

def fencedPhases : List RestoreIntentPhase := [.fenced, .protecting, .materializing]

inductive RollbackOutcome where
  | rolledBack
  | unknown
  | cleanupPending
  deriving DecidableEq

variable (env : Answers C)

/-- The end of a rollback: staging volume, fence, and the intent.  A phase that
has settled already is left alone. -/
def finishRollback (intent : IntentRow) : OverwriteM id C RollbackOutcome := do
  let gone ← stagingVolumeGone env.staging
  let released ← releaseFence env.release true env.now
  if gone || !preFencePhases.contains intent.phase then do
    let s ← read
    guardedBy (mayAdvance s.intent .rolledBack) (advanceIntent .rolledBack
        (outcomeOnly (if released then none else some .fenceUnavailable)) env.now)
    pure (if released then .rolledBack else .unknown)
  else do
    keepForCleanup env.now
    pure (if released then .cleanupPending else .unknown)

/-- The rollback the live pipeline runs. -/
def rollbackIntent : OverwriteM id C RollbackOutcome := do
  let s ← read
  if s.intent.targetVolume.isNone then pure .unknown
  else if s.intent.phase = .materializing || s.intent.phase = .swapping ||
      s.intent.phase = .swapped then do
    let swap ← runClosingSwapStep .rollback (env.helper .rollback) (env.helper .rollbackStatus)
    if swap.ok then finishRollback env s.intent
    else do
      advanceIntent .completionUnknown (outcomeOnly (some .identityUnknown)) env.now
      pure .unknown
  else finishRollback env s.intent

inductive Reconciled where
  | rolledBack
  | committed
  | unknown

/-- Settle an intent whose data is proven. -/
def settleProven (committed : Bool) (released : Bool) (now : Int) : OverwriteM id C Reconciled := do
  advanceIntent (if committed then .committed else .rolledBack)
    (outcomeOnly (if released then none else some .fenceUnavailable)) now
  pure (if committed then .committed else .rolledBack)

/-- Staging volume, fence and settlement of an intent that never swapped. -/
def settleUnswapped : OverwriteM id C Reconciled := do
  let gone ← stagingVolumeGone env.staging
  let released ← releaseFence env.release true env.now
  if gone then settleProven false released env.now
  else do
    keepForCleanup env.now
    pure .unknown

/-- Phases in which nothing was renamed yet.  With workloads possibly running
the journal is only read. -/
def reconcileFenced (intent : IntentRow) : OverwriteM id C Reconciled := do
  let s ← read
  if workloadsMayRunNow s.intent.fenceState then do
    let status ← runSwapStep .status (env.helper .status)
    match status.status with
    | none => pure .unknown
    | some .absent => settleUnswapped env
    | some _ => do
      markUnknown intent .identityUnknown env.now
      pure .unknown
  else do
    let rollback ← runClosingSwapStep .rollback (env.helper .rollback) (env.helper .rollbackStatus)
    if rollback.ok then settleUnswapped env
    else do
      markUnknown intent .identityUnknown env.now
      pure .unknown

/-- Only the fence is left of a committed swap: keep the phase for a retry. -/
def keepForRelease (intent : IntentRow) (now : Int) : OverwriteM id C Unit := do
  let s ← read
  if s.intent.phase = .swapped then
    updateIntent (outcomeOnly (some .fenceUnavailable)) now
  else markUnknown intent .fenceUnavailable now

/-- The clean-up, the release and the settlement of a committed swap. -/
def finishCommitted (intent : IntentRow) : OverwriteM id C Reconciled := do
  let cleaned ← runClosingSwapStep .cleanup (env.helper .cleanup) (env.helper .cleanupStatus)
  if cleaned.ok then do
    let released ← releaseFence env.release true env.now
    if released then do
      advanceIntent .committed (outcomeOnly none) env.now
      pure .committed
    else do
      keepForRelease intent env.now
      pure .unknown
  else do
    updateIntent (outcomeOnly (some .cleanupFailed)) env.now
    pure .unknown

/-- Finish the commit, unless workloads may run: then the journal has its
marker and a commit would change nothing. -/
def commitUnderFence (workloadsMayRun : Bool) : OverwriteM id C Bool :=
  if workloadsMayRun then pure true
  else do
    let commit ← runSwapStep .commit (env.helper .commit)
    pure commit.ok

/-- Roll forward: the commit, the phase, and the rest of a committed swap. -/
def rollForward (intent : IntentRow) (workloadsMayRun : Bool) :
    OverwriteM id C Reconciled := do
  let ok ← commitUnderFence env workloadsMayRun
  if ok then do
    guardedBy (intent.phase = .swapping) (advanceIntent .swapped .empty env.now)
    finishCommitted env intent
  else do
    markUnknown intent .integrityMismatch env.now
    pure .unknown

/-- The journal says the swap did not commit. -/
def rollBackward (intent : IntentRow) (workloadsMayRun : Bool) : OverwriteM id C Reconciled :=
  if workloadsMayRun then pure .unknown
  else do
    let rollback ← runClosingSwapStep .rollback (env.helper .rollback) (env.helper .rollbackStatus)
    if rollback.ok then do
      let released ← releaseFence env.release true env.now
      settleProven false released env.now
    else do
      markUnknown intent .identityUnknown env.now
      pure .unknown

/-- The journal decides once the swap may have run. -/
def reconcileSwap (intent : IntentRow) : OverwriteM id C Reconciled := do
  let status ← runSwapStep .status (env.helper .status)
  let s ← read
  match status.status with
  | some .absent =>
    if intent.phase = .swapped then do
      let released ← releaseFence env.release true env.now
      settleProven true released env.now
    else do
      markUnknown intent .identityUnknown env.now
      pure .unknown
  | none | some .inconsistent =>
    if intent.phase = .swapped then pure .unknown
    else do
      markUnknown intent .identityUnknown env.now
      pure .unknown
  | some .swapped => rollForward env intent (workloadsMayRunNow s.intent.fenceState)
  | some .metadataPending =>
    if workloadsMayRunNow s.intent.fenceState then pure .unknown
    else rollForward env intent (workloadsMayRunNow s.intent.fenceState)
  | some _ => rollBackward env intent (workloadsMayRunNow s.intent.fenceState)

/-- One intent.  Settled is settled. -/
def reconcileOverwriteIntent (intent : IntentRow) : OverwriteM id C Reconciled :=
  if intent.targetMode ≠ .stagedOverwrite then pure .unknown
  else if intent.phase = .committed then pure .committed
  else if intent.phase = .rolledBack then pure .rolledBack
  else if intent.targetVolume.isNone then do
    markUnknown intent .identityUnknown env.now
    pure .unknown
  else if preFencePhases.contains intent.phase then settleUnswapped env
  else if fencedPhases.contains intent.phase then reconcileFenced env intent
  else reconcileSwap env intent

/-- The first pass of boot visits an intent that is open. -/
def reconcileUnsettled : OverwriteM id C Unit := do
  let s ← read
  if s.intent.phase.isSettled then pure ()
  else do
    let _ ← reconcileOverwriteIntent env s.intent
    pure ()

/-- The second pass releases the fence a settled intent still holds. -/
def releaseLeftoverFence : OverwriteM id C Unit := do
  let s ← read
  if s.intent.fenceState.isLive &&
      (s.intent.phase = .committed || s.intent.phase = .rolledBack) then do
    let released ← releaseFence env.releaseLeftover true env.now
    guardedBy released (clearFenceOutcome s.intent env.now)
  else pure ()

def reconcileOverwriteIntentsAtStartup : OverwriteM id C Unit := do
  reconcileUnsettled env
  releaseLeftoverFence env

inductive Resolved where
  | rolledBack
  | committed
  | unknown
  | fenceReleased

def Reconciled.resolved : Reconciled → Resolved
  | .rolledBack => .rolledBack
  | .committed => .committed
  | .unknown => .unknown

/-- A retry of a settled intent can only release the fence it still holds. -/
def retryRelease (intent : IntentRow) : OverwriteM id C Unit :=
  if intent.fenceState.isLive then do
    let released ← releaseFence env.release true env.now
    if released then clearFenceOutcome intent env.now else fail .fenceUnavailable
  else pure ()

/-- `retry`: reconcile again. -/
def retryOverwrite : OverwriteM id C Resolved := do
  let s ← read
  if s.intent.targetMode ≠ .stagedOverwrite then fail .invalidRequest
  else if s.intent.phase = .committed || s.intent.phase = .rolledBack then do
    retryRelease env s.intent
    pure (if s.intent.phase = .committed then .committed else .rolledBack)
  else do
    let reconciled ← reconcileOverwriteIntent env s.intent
    pure reconciled.resolved

/-- The status `release_fence` reads, when there is a volume to read it from. -/
def statusOfTarget (intent : IntentRow) : OverwriteM id C (Option SwapStatus) :=
  if intent.targetVolume.isSome then do
    let result ← runSwapStep .status (env.helper .status)
    pure result.status
  else pure none

/-- The journal does not prove the commit: the phase stays, or is parked. -/
def keepReleased (intent : IntentRow) (now : Int) : OverwriteM id C Unit :=
  if intent.phase = .swapped then
    updateIntent (outcomeOnly (some (intent.outcomeClass.getD .cleanupFailed))) now
  else if intent.phase ≠ .completionUnknown then
    advanceIntent .completionUnknown (outcomeOnly intent.outcomeClass) now
  else
    updateIntent { IntentAdvanceFields.empty with
      outcomeClass := intent.outcomeClass.map some } now

/-- What `release_fence` does once the fence is released: only a journal that
proves the commit settles the intent. -/
def acceptVolume (intent : IntentRow) : OverwriteM id C Resolved := do
  let status ← statusOfTarget env intent
  if status = some .swapped && intent.phase = .swapped && intent.targetVolume.isSome then do
    let cleaned ← runClosingSwapStep .cleanup (env.helper .cleanup) (env.helper .cleanupStatus)
    if cleaned.ok then do
      advanceIntent .committed (outcomeOnly none) env.now
      pure .committed
    else do
      updateIntent (outcomeOnly (some .cleanupFailed)) env.now
      pure .fenceReleased
  else do
    keepReleased intent env.now
    pure .fenceReleased

/-- `release_fence`: accept the volume as it is and start nothing. -/
def releaseOverwriteFence : OverwriteM id C Resolved := do
  let s ← read
  if s.intent.targetMode ≠ .stagedOverwrite then fail .invalidRequest
  else if s.intent.phase = .committed || s.intent.phase = .rolledBack then
    fail .invalidRequest
  else if s.intent.fenceState = .none && (preFencePhases.contains s.intent.phase ||
      fencedPhases.contains s.intent.phase) then
    fail .invalidRequest
  else if s.intent.fenceState = .released then fail .invalidRequest
  else do
    let released ← releaseFence env.release false env.now
    if released then acceptVolume env s.intent else fail .fenceUnavailable

end Sencho.Recovery

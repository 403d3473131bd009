import Mathlib.Data.String.Basic

/-!
# Recovery records

The value types of the recovery store: the states of an operation, the status
of a point, the failure classes with their fixed sentences, and the endings an
operation can be given.
-/

namespace Sencho.Recovery

inductive ErrorClass where
  | invalidRequest
  | permissionDenied
  | capabilityUnavailable
  | updateRequired
  | schemaUnsupported
  | identityUnknown
  | lockHeld
  | lockStale
  | repositoryUnavailable
  | repositoryKeyUnavailable
  | sourceUnreadable
  | integrityMismatch
  | attributesNotRestored
  | interrupted
  | transportUnreachable
  | nodeRefused
  | nodeError
  | internal
  | preconditionFailed
  | dependentsChanged
  | fenceUnavailable
  | preRestoreFailed
  | insufficientSpace
  | cleanupFailed
  | notCancellable
  deriving DecidableEq

/-- The fixed sentence of a failure class. -/
def errorDetailFor : ErrorClass → String
  | .invalidRequest => "The request is not valid for this storage."
  | .permissionDenied => "You do not have permission for this recovery action."
  | .capabilityUnavailable => "Volume protection is not available on this node."
  | .updateRequired => "This node needs an update before it can protect volumes."
  | .schemaUnsupported =>
    "This build cannot read the recovery records on this node."
  | .identityUnknown => "The storage identity could not be established."
  | .lockHeld => "Another recovery operation is running on this node."
  | .lockStale => "An interrupted operation still holds a lock this request " ++
      "needs and must be reviewed."
  | .repositoryUnavailable => "The recovery repository is not reachable."
  | .repositoryKeyUnavailable => "The recovery repository key is not available."
  | .sourceUnreadable => "Some data could not be read."
  | .integrityMismatch => "The recovery point failed its integrity check."
  | .attributesNotRestored => "The files were restored, but some file " ++
      "attributes could not be applied."
  | .interrupted => "The operation was interrupted before it reported a result."
  | .transportUnreachable => "The node could not be reached."
  | .nodeRefused => "The node refused the request."
  | .nodeError => "The node, or the recovery helper running on it, failed to " ++
      "complete the request."
  | .internal => "The recovery operation failed."
  | .preconditionFailed => "The volume or its dependents changed since this " ++
      "overwrite was confirmed. Ask for a new preview and confirm again."
  | .dependentsChanged => "A container or stack started using the volume after " ++
      "this overwrite was admitted, so it was stopped before any live data moved."
  | .fenceUnavailable => "The workloads using this volume could not be stopped " ++
      "safely, so nothing was changed."
  | .preRestoreFailed => "The point taken before the overwrite was not " ++
      "complete, so nothing in the volume was changed."
  | .insufficientSpace => "There is not enough free space to restore this point " ++
      "next to the existing data."
  | .cleanupFailed => "The restored data is in place, but the temporary restore " ++
      "directory could not be removed. The workloads stay stopped until this is " ++
      "resolved."
  | .notCancellable => "This operation can no longer be cancelled."

inductive OperationKind where
  | createPoint
  | verifyPoint
  | restore
  | repositoryInit
  deriving DecidableEq

inductive OperationState where
  | queued
  | running
  | succeeded
  | partial_
  | failed
  | cancelled
  | completionUnknown
  deriving DecidableEq

/-- The states an operation can end in. -/
def isTerminal : OperationState → Bool
  | .queued | .running => false
  | .succeeded | .partial_ | .failed | .cancelled | .completionUnknown => true

/-- How a request reached the node that executes it. -/
inductive Transport where
  | local_
  | nodeProxy
  | pilotTunnel
  deriving DecidableEq

/-- How an operation ends, with the class each ending requires. -/
inductive OperationFinish where
  | succeeded
  | cancelled
  | partial_ (errorClass : ErrorClass)
  | failed (errorClass : ErrorClass)
  | completionUnknown
  deriving DecidableEq

namespace OperationFinish

def state : OperationFinish → OperationState
  | .succeeded => .succeeded
  | .cancelled => .cancelled
  | .partial_ _ => .partial_
  | .failed _ => .failed
  | .completionUnknown => .completionUnknown

/-- The class `finish` records with an ending. -/
def errorClass : OperationFinish → Option ErrorClass
  | .succeeded | .cancelled => none
  | .partial_ c | .failed c => some c
  | .completionUnknown => some .interrupted

/-- These endings need the operation's points finalized first. -/
def pointsFinalizedFirst : OperationFinish → Bool
  | .succeeded | .partial_ _ => true
  | .cancelled | .failed _ | .completionUnknown => false

@[simp] theorem isTerminal_state (o : OperationFinish) :
    isTerminal o.state = true := by
  cases o <;> rfl

end OperationFinish

inductive LockScope where
  | storage
  | repository
  deriving DecidableEq

inductive PointStatus where
  | pending
  | succeeded
  | partial_
  | failed
  | completionUnknown
  deriving DecidableEq

inductive Consistency where
  | crashConsistentLive
  | crashConsistentStopped
  | unknown

inductive PointTrigger where
  | manual
  | policy
  | preChange
  | preRestore

inductive ExclusionReason where
  | policyExcluded
  | permissionDenied
  | unreadable
  | vanished
  | unsupportedType
  deriving DecidableEq

structure PointExclusion where
  path : String
  reason : ExclusionReason

/-- What the engine counted while capturing a point. -/
structure CaptureSummary where
  fileCount : Nat
  byteCount : Nat
  skippedCount : Nat

structure CaptureEvidence where
  snapshotId : String
  capture : CaptureSummary
  exclusions : List PointExclusion
  consistency : Consistency

/-- A root point covers the whole root; a path point names its path. -/
inductive PointScope where
  | root
  | path (pathScope : String)

end Sencho.Recovery

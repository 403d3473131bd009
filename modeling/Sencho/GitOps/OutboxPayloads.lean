import Sencho.Verified.Json

/-!
# What the outbox announces

A transition of the history that an operator is told of writes one outbox row, whose payload is a
settled attempt or an event.  The payload is JSON with a version of its own.  A payload that can be
read becomes a notification with a key, by which a repeated notification is recognised, or is
passed over because it carries no news.

The numbers of JSON, the label of an application and the default node are parameters.
-/

namespace Sencho.GitOps.Outbox

open Verified CodeUnits Json

inductive NotifiableGitOpsStage where
  | sourceAccepted
  | placementApproved
  | rolloutAuthorized
  | rolloutPaused
  | rolloutUnpaused
  | rolloutGenerationSuperseded
  | rollbackInProgress
  | rollbackCompleted
  | rollbackPartialFailed
  | blueprintStateReview
  | healthRolloutPolicySet
  | placementPolicyChanged
  | rolloutAuthorizationPolicyChanged
  deriving DecidableEq

namespace NotifiableGitOpsStage

def all : List NotifiableGitOpsStage :=
  [sourceAccepted, placementApproved, rolloutAuthorized, rolloutPaused, rolloutUnpaused,
    rolloutGenerationSuperseded, rollbackInProgress, rollbackCompleted, rollbackPartialFailed,
    blueprintStateReview, healthRolloutPolicySet, placementPolicyChanged,
    rolloutAuthorizationPolicyChanged]

def name : NotifiableGitOpsStage → Text
  | sourceAccepted => text "source_accepted"
  | placementApproved => text "placement_approved"
  | rolloutAuthorized => text "rollout_authorized"
  | rolloutPaused => text "rollout_paused"
  | rolloutUnpaused => text "rollout_unpaused"
  | rolloutGenerationSuperseded => text "rollout_generation_superseded"
  | rollbackInProgress => text "rollback_in_progress"
  | rollbackCompleted => text "rollback_completed"
  | rollbackPartialFailed => text "rollback_partial_failed"
  | blueprintStateReview => text "blueprint_state_review"
  | healthRolloutPolicySet => text "health_rollout_policy_set"
  | placementPolicyChanged => text "placement_policy_changed"
  | rolloutAuthorizationPolicyChanged => text "rollout_authorization_policy_changed"

/-- `isNotifiableGitOpsStage`, with the stage it finds. -/
def ofName? (t : Text) : Option NotifiableGitOpsStage := all.find? fun s => s.name = t

end NotifiableGitOpsStage

/-- The stages of the history.  Most of them announce nothing. -/
inductive GitOpsHistoryStage where
  | sourceReconcileSettled
  | notifiable (stage : NotifiableGitOpsStage)
  | silent (name : Text)
  deriving DecidableEq

inductive GitOpsTargetMode where
  | direct
  | inlineBlueprint
  | blueprint
  deriving DecidableEq

variable {ν : Type}

variable (N : Numbers ν) (fields : List (Text × Json ν))

/-- The string under a key, if it is one. -/
def stringField (key : String) : Option Text :=
  match get? fields (text key) with
  | some (.str t) => some t
  | _ => none

def noNewsSettledOutcomes : List Text :=
  [text "unknown", text "no_source_change", text "candidate_already_fetched", text "suspended",
    text "superseded", text "retry_scheduled"]

def settledOutcomeCarriesNews (outcome : Text) : Bool := !noNewsSettledOutcomes.contains outcome

inductive GitOpsOutboxPlan where
  | settled
  | event (stage : NotifiableGitOpsStage)

/-- The outcome that a transition recorded, or `unknown`. -/
def settledOutcome (after : List (Text × Json ν)) : Text :=
  (stringField after "outcome").getD (text "unknown")

def gitOpsOutboxPlan (stage : GitOpsHistoryStage) (targetMode : GitOpsTargetMode)
    (after : List (Text × Json ν)) : Option GitOpsOutboxPlan :=
  match stage with
  | .sourceReconcileSettled =>
    if settledOutcomeCarriesNews (settledOutcome after) then some .settled else none
  | .silent _ => none
  | .notifiable stage =>
    if stage = .sourceAccepted ∧ targetMode = .direct then none else some (.event stage)

inductive GitOpsCandidateState where
  | awaitingReview
  | blocked
  | held
  deriving DecidableEq

def GitOpsCandidateState.name : GitOpsCandidateState → Text
  | awaitingReview => text "awaiting_review"
  | blocked => text "blocked"
  | held => text "held"

def GitOpsCandidateState.ofName? (t : Text) : Option GitOpsCandidateState :=
  [awaitingReview, blocked, held].find? fun s => s.name = t

/-- The columns of an application that a transition reads. -/
structure GitOpsApplicationRow where
  id : Text
  targetMode : GitOpsTargetMode
  stackName : Option Text
  candidateGenerationId : Option Text
  candidatePlanBlocked : Bool
  reviewBlockReason : Option Text

/-- An id that is there and not empty. -/
def truthy (id : Option Text) : Option Text := id.filter fun t => t ≠ []

def gitOpsCandidateState (app : GitOpsApplicationRow) : Option GitOpsCandidateState :=
  match truthy app.candidateGenerationId with
  | none => none
  | some _ =>
    if app.candidatePlanBlocked then some .blocked
    else if app.reviewBlockReason.isSome then some .held
    else some .awaitingReview

structure GitOpsCandidateIdentity where
  applicationId : Text
  generationId : Text
  state : GitOpsCandidateState

def gitOpsAttemptNotificationKey (operationId : Text) : Option GitOpsCandidateIdentity → Text
  | some c =>
    text "gitops:candidate:" ++ c.applicationId ++ text ":" ++ c.generationId ++ text ":" ++
      c.state.name
  | none => text "gitops:attempt:" ++ operationId

def gitOpsEventNotificationDedupeKey (historyId : Text) : Text := text "gitops:event:" ++ historyId

structure SettledAttemptPayload (ν : Type) where
  settledHistoryId : Text
  applicationId : Text
  operationId : Text
  stackName : Option Text
  nodeId : Option ν
  outcome : Text
  nextAction : Text
  reason : Option Text
  trigger : Text
  actor : Option Text
  at_ : ν
  candidateGenerationId : Option Text
  candidateState : Option GitOpsCandidateState

structure GitOpsEventPayload (ν : Type) where
  historyId : Text
  applicationId : Text
  operationId : Text
  stage : NotifiableGitOpsStage
  stackName : Option Text
  nodeId : Option ν
  actor : Option Text
  reason : Option Text
  at_ : ν

def settledAttemptPayloadVersion : Int := 1

def gitOpsEventPayloadVersion : Int := 2

def orNull {α : Type} (f : α → Json ν) : Option α → Json ν
  | none => .null
  | some a => f a

def encodeSettledAttemptPayload (p : SettledAttemptPayload ν) : Text :=
  stringify N 0 (.obj
    [(text "version", .num (N.ofInt settledAttemptPayloadVersion)),
      (text "settledHistoryId", .str p.settledHistoryId),
      (text "applicationId", .str p.applicationId),
      (text "operationId", .str p.operationId),
      (text "stackName", orNull .str p.stackName),
      (text "nodeId", orNull .num p.nodeId),
      (text "outcome", .str p.outcome),
      (text "nextAction", .str p.nextAction),
      (text "reason", orNull .str p.reason),
      (text "trigger", .str p.trigger),
      (text "actor", orNull .str p.actor),
      (text "at", .num p.at_),
      (text "candidateGenerationId", orNull .str p.candidateGenerationId),
      (text "candidateState", orNull (fun s => .str s.name) p.candidateState)])

def encodeGitOpsEventPayload (p : GitOpsEventPayload ν) : Text :=
  stringify N 0 (.obj
    [(text "version", .num (N.ofInt gitOpsEventPayloadVersion)),
      (text "historyId", .str p.historyId),
      (text "applicationId", .str p.applicationId),
      (text "operationId", .str p.operationId),
      (text "stage", .str p.stage.name),
      (text "stackName", orNull .str p.stackName),
      (text "nodeId", orNull .num p.nodeId),
      (text "actor", orNull .str p.actor),
      (text "reason", orNull .str p.reason),
      (text "at", .num p.at_)])

def isVersion (version : Int) : Bool :=
  match get? fields (text "version") with
  | some (.num x) => N.safeInt x = some version
  | _ => false

def nonEmptyString (key : String) : Option Text :=
  truthy (stringField fields key)

def numberField (key : String) : Option ν :=
  match get? fields (text key) with
  | some (.num x) => some x
  | _ => none

/-- A string or null.  A key that is missing is neither. -/
def nullableString (key : String) : Option (Option Text) :=
  match get? fields (text key) with
  | some .null => some none
  | some (.str t) => some (some t)
  | _ => none

def nullableNumber (key : String) : Option (Option ν) :=
  match get? fields (text key) with
  | some .null => some none
  | some (.num x) => some (some x)
  | _ => none

/-- A string, null or nothing. -/
def optionalString (key : String) : Option (Option Text) :=
  match get? fields (text key) with
  | none => some none
  | some .null => some none
  | some (.str t) => some (some t)
  | some _ => none

/-- The name of a candidate state, null or nothing. -/
def optionalState : Option (Option GitOpsCandidateState) :=
  match get? fields (text "candidateState") with
  | none => some none
  | some .null => some none
  | some (.str t) => (GitOpsCandidateState.ofName? t).map some
  | some _ => none

def settledAttemptFields : Option (SettledAttemptPayload ν) := do
  let settledHistoryId ← nonEmptyString fields "settledHistoryId"
  let applicationId ← nonEmptyString fields "applicationId"
  let operationId ← nonEmptyString fields "operationId"
  let outcome ← nonEmptyString fields "outcome"
  let nextAction ← nonEmptyString fields "nextAction"
  let trigger ← nonEmptyString fields "trigger"
  let at_ ← numberField fields "at"
  let stackName ← nullableString fields "stackName"
  let nodeId ← nullableNumber fields "nodeId"
  let reason ← nullableString fields "reason"
  let actor ← nullableString fields "actor"
  let candidateGenerationId ← optionalString fields "candidateGenerationId"
  let candidateState ← optionalState fields
  return {
    settledHistoryId, applicationId, operationId, stackName, nodeId, outcome, nextAction, reason,
    trigger, actor, at_, candidateGenerationId, candidateState }

def gitOpsEventFields : Option (GitOpsEventPayload ν) := do
  let historyId ← nonEmptyString fields "historyId"
  let applicationId ← nonEmptyString fields "applicationId"
  let operationId ← nonEmptyString fields "operationId"
  let stage ← (stringField fields "stage").bind NotifiableGitOpsStage.ofName?
  let at_ ← numberField fields "at"
  let stackName ← nullableString fields "stackName"
  let nodeId ← nullableNumber fields "nodeId"
  let actor ← nullableString fields "actor"
  let reason ← nullableString fields "reason"
  return { historyId, applicationId, operationId, stage, stackName, nodeId, actor, reason, at_ }

/-- The shape that both decoders have: the version of the row, the JSON, the version in it and its
fields.  What cannot be read is named by its kind. -/
def decodePayload {α : Type} (N : Numbers ν) (kind : String) (expected : Int)
    (read : List (Text × Json ν) → Option α) (raw : Text) (version : Int) : Except Text α :=
  if version ≠ expected then
    .error (text kind ++ text "_payload_version_unsupported:" ++ N.print (N.ofInt version))
  else
    match parse N raw with
    | none => .error (text kind ++ text "_payload_unparseable")
    | some (.obj fields) =>
      if isVersion N fields expected then
        match read fields with
        | some p => .ok p
        | none => .error (text kind ++ text "_payload_invalid")
      else .error (text kind ++ text "_payload_invalid")
    | some _ => .error (text kind ++ text "_payload_invalid")

def decodeSettledAttemptPayload (raw : Text) (version : Int) :
    Except Text (SettledAttemptPayload ν) :=
  decodePayload N "settled_attempt" settledAttemptPayloadVersion settledAttemptFields raw version

def decodeGitOpsEventPayload (raw : Text) (version : Int) : Except Text (GitOpsEventPayload ν) :=
  decodePayload N "gitops_event" gitOpsEventPayloadVersion gitOpsEventFields raw version

inductive Level where
  | info
  | warning
  | error

/-- The categories that the outbox uses.  Every notifiable stage has one of its own. -/
inductive NotificationCategory where
  | gitPullReady
  | gitPlanBlocked
  | gitPullFailed
  | gitOps (stage : NotifiableGitOpsStage)

/-- A row of the notification history.  `source` is not a column: it is the outbox row that a
drain announced with it. -/
structure NotificationHistory (ν : Type) where
  nodeId : ν
  level : Level
  category : NotificationCategory
  message : Text
  timestamp : ν
  stackName : Option Text
  actor : Option Text
  operationId : Option Text
  dedupeKey : Option Text
  source : Option Text

/-- What the fanout reads besides the payload: the stack an application may show with its label,
and the default node. -/
structure Env (ν : Type) where
  numbers : Numbers ν
  notificationLabel : Text → Option Text → Option Text × Text
  defaultNodeId : ν

inductive SettledNotificationFamily where
  | ready
  | blocked
  | failed
  deriving DecidableEq

def settledNotificationFamily (outcome : Text) : SettledNotificationFamily :=
  if outcome = text "blocked" then .blocked
  else if outcome = text "failed_previous_intact" ∨ outcome = text "recovery_required" ∨
      outcome = text "unknown" then .failed
  else .ready

def SettledNotificationFamily.category : SettledNotificationFamily → NotificationCategory
  | ready => .gitPullReady
  | blocked => .gitPlanBlocked
  | failed => .gitPullFailed

def SettledNotificationFamily.level : SettledNotificationFamily → Level
  | ready => .info
  | blocked => .warning
  | failed => .error

namespace NotifiableGitOpsStage

def level : NotifiableGitOpsStage → Level
  | rolloutPaused => .warning
  | rolloutGenerationSuperseded => .warning
  | rollbackInProgress => .warning
  | rollbackPartialFailed => .error
  | blueprintStateReview => .warning
  | _ => .info

def phrase : NotifiableGitOpsStage → Text
  | sourceAccepted => text "source accepted"
  | placementApproved => text "placement approved"
  | rolloutAuthorized => text "rollout authorized"
  | rolloutPaused => text "rollout paused"
  | rolloutUnpaused => text "rollout resumed"
  | rolloutGenerationSuperseded => text "rollout superseded"
  | rollbackInProgress => text "rollback started"
  | rollbackCompleted => text "rollback completed"
  | rollbackPartialFailed => text "rollback partially failed"
  | blueprintStateReview => text "stateful deploy awaiting confirmation"
  | healthRolloutPolicySet => text "health rollout policy changed"
  | placementPolicyChanged => text "placement policy changed"
  | rolloutAuthorizationPolicyChanged => text "rollout authorization policy changed"

end NotifiableGitOpsStage

/-- `GitOps <what> for <label>: <reason>`. -/
def notificationMessage (what label : Text) (reason : Option Text) : Text :=
  text "GitOps " ++ what ++ text " for " ++ label ++
    match truthy reason with
    | some reason => text ": " ++ reason
    | none => []

/-- The candidate that an attempt is keyed to: one whose state and the family of the outcome
agree. -/
def announcedCandidate (p : SettledAttemptPayload ν) : Option GitOpsCandidateIdentity :=
  match truthy p.candidateGenerationId, p.candidateState with
  | some generationId, some state =>
    if (if settledNotificationFamily p.outcome = .ready then
        state = .awaitingReview ∨ state = .held
      else state = .blocked) then
      some ⟨p.applicationId, generationId, state⟩
    else none
  | _, _ => none

/-- The notification of a settled attempt, unless it carries no news. -/
def fanoutSettledNotification (env : Env ν) (p : SettledAttemptPayload ν) :
    Option (NotificationHistory ν) :=
  if settledOutcomeCarriesNews p.outcome then
    let shown := env.notificationLabel p.applicationId p.stackName
    let family := settledNotificationFamily p.outcome
    some {
      nodeId := p.nodeId.getD env.defaultNodeId
      level := family.level
      category := family.category
      message := notificationMessage p.outcome shown.2 p.reason
      timestamp := p.at_
      stackName := shown.1
      actor := p.actor
      operationId := some p.operationId
      dedupeKey := some (gitOpsAttemptNotificationKey p.operationId (announcedCandidate p))
      source := none }
  else none

/-- The notification of an event. -/
def fanoutGitOpsEvent (env : Env ν) (p : GitOpsEventPayload ν) : Option (NotificationHistory ν) :=
  let shown := env.notificationLabel p.applicationId p.stackName
  some {
    nodeId := p.nodeId.getD env.defaultNodeId
    level := p.stage.level
    category := .gitOps p.stage
    message := notificationMessage p.stage.phrase shown.2 p.reason
    timestamp := p.at_
    stackName := shown.1
    actor := p.actor
    operationId := some p.operationId
    dedupeKey := some (gitOpsEventNotificationDedupeKey p.historyId)
    source := none }

end Sencho.GitOps.Outbox

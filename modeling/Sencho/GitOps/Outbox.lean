import Sencho.GitOps.OutboxPayloads
import Sencho.Verified.Runs
import Sencho.Verified.Table
import Mathlib.Data.List.Perm.Basic

/-!
# The notification outbox

A transaction that appends to the history writes the outbox row of a notifiable transition with the
history row, and queues the row for the live drain.  The live drain and the repair at startup read
an outbox row, announce it and mark it drained, in that order.  A fanout may throw before or after
its notification is written, the mark may not be written, and the process may stop at any of these
points.
-/

namespace Sencho.GitOps.Outbox

open Verified CodeUnits Runs

variable {ν : Type}

/-- The columns of the history that an append is recognised by. -/
structure HistoryRow where
  id : Text
  applicationId : Text
  operationId : Text
  stage : GitOpsHistoryStage
  dedupeTarget : Text

structure OutboxRow where
  settledHistoryId : Text
  payloadJson : Text
  payloadVersion : Int
  createdAt : Int
  updatedAt : Int
  drainedAt : Option Int

structure Db (ν : Type) where
  history : Table HistoryRow Text HistoryRow.id
  outbox : Table OutboxRow Text OutboxRow.settledHistoryId
  notifications : List (NotificationHistory ν)

def Db.empty : Db ν := ⟨.empty, .empty, []⟩

/-- `addNotificationHistory`.  A key that is there already refuses the row without an error. -/
def Db.addNotificationHistory (db : Db ν) (row : NotificationHistory ν) : Db ν :=
  if row.dedupeKey.isSome ∧ row.dedupeKey ∈ db.notifications.map NotificationHistory.dedupeKey then
    db
  else { db with notifications := row :: db.notifications }

/-- What a transition appends.  `id` is the UUID that the append draws. -/
structure HistoryInsert (ν : Type) where
  id : Text
  application : GitOpsApplicationRow
  nodeId : Option ν
  dedupeTarget : Text
  operationId : Text
  stage : GitOpsHistoryStage
  trigger : Text
  actor : Option Text
  after : List (Text × Json ν)
  generationId : Option Text
  at_ : Int

/-- What the live drain is told of a row. -/
structure PendingRow (ν : Type) where
  id : Text
  stage : GitOpsHistoryStage
  targetMode : GitOpsTargetMode
  after : List (Text × Json ν)

def insertOutboxRow (db : Db ν) (historyId payloadJson : Text) (payloadVersion at_ : Int) : Db ν :=
  match db.outbox.insert? ⟨historyId, payloadJson, payloadVersion, at_, at_, none⟩ with
  | some outbox => { db with outbox := outbox }
  | none => db

variable (env : Env ν) (N : Numbers ν)

def settledPayload (row : HistoryInsert ν) : SettledAttemptPayload ν where
  settledHistoryId := row.id
  applicationId := row.application.id
  operationId := row.operationId
  stackName := row.application.stackName
  nodeId := row.nodeId
  outcome := settledOutcome row.after
  nextAction := (stringField row.after "nextAction").getD (text "none")
  reason := stringField row.after "reason"
  trigger := row.trigger
  actor := row.actor
  at_ := N.ofInt row.at_
  candidateGenerationId := row.generationId.or row.application.candidateGenerationId
  candidateState := gitOpsCandidateState row.application

def eventPayload (row : HistoryInsert ν) (stage : NotifiableGitOpsStage) :
    GitOpsEventPayload ν where
  historyId := row.id
  applicationId := row.application.id
  operationId := row.operationId
  stage := stage
  stackName := row.application.stackName
  nodeId := row.nodeId
  actor := row.actor
  reason := truthy (stringField row.after "pauseReason")
  at_ := N.ofInt row.at_

/-- The outbox row of an inserted history row. -/
def insertPlanned (db : Db ν) (row : HistoryInsert ν) : Db ν :=
  match gitOpsOutboxPlan row.stage row.application.targetMode row.after with
  | some .settled =>
    insertOutboxRow db row.id (encodeSettledAttemptPayload N (settledPayload N row))
      settledAttemptPayloadVersion row.at_
  | some (.event stage) =>
    insertOutboxRow db row.id (encodeGitOpsEventPayload N (eventPayload N row stage))
      gitOpsEventPayloadVersion row.at_
  | none => db

/-- A replay of an operation inserts nothing.  An id that is taken throws. -/
def insertHistory (db : Db ν) (row : HistoryInsert ν) : Option (Db ν × Option (PendingRow ν)) :=
  if db.history.any fun r =>
      r.applicationId = row.application.id ∧ r.operationId = row.operationId ∧
        r.stage = row.stage ∧ r.dedupeTarget = row.dedupeTarget then
    some (db, none)
  else
    (db.history.insert? ⟨row.id, row.application.id, row.operationId, row.stage,
      row.dedupeTarget⟩).map fun history =>
        (insertPlanned N { db with history := history } row,
          some ⟨row.id, row.stage, row.application.targetMode, row.after⟩)

/-- The appends of one transaction.  The queue is not part of the database: what was queued before
an append throws stays queued. -/
def appendAll (N : Numbers ν) :
    List (HistoryInsert ν) → Db ν → List (PendingRow ν) → Option (Db ν) × List (PendingRow ν)
  | [], db, pending => (some db, pending)
  | row :: rows, db, pending =>
    match insertHistory N db row with
    | none => (none, pending)
    | some (db', queued) => appendAll N rows db' (pending ++ queued.toList)

/-- How far the work on a row gets.  The notification may be written or not when a fanout throws
or the process stops. -/
inductive Progress where
  | completes (now : Int)
  | fanoutThrows (inserted : Bool)
  | markThrows
  | crashes (inserted : Bool)

/-- Whether a notification is written on the way. -/
def Progress.notifies : Progress → Bool
  | completes _ => true
  | fanoutThrows inserted => inserted
  | markThrows => true
  | crashes inserted => inserted

def Progress.isCrash : Progress → Bool
  | crashes _ => true
  | _ => false

def markDrained (db : Db ν) (historyId : Text) (now : Int) : Db ν :=
  let undrained := fun r : OutboxRow => r.settledHistoryId = historyId && r.drainedAt.isNone
  let mark := fun r : OutboxRow => { r with drainedAt := some now, updatedAt := now }
  { db with outbox := db.outbox.update undrained mark fun _ => rfl }

/-- Write what a fanout announces, if it announces anything. -/
def notify (db : Db ν) (historyId : Text) : Option (NotificationHistory ν) → Db ν
  | none => db
  | some row => db.addNotificationHistory { row with source := some historyId }

def drainDecodedRow {α : Type} (db : Db ν) (historyId : Text) (decoded : Except Text α)
    (fanout : α → Option (NotificationHistory ν)) (progress : Progress) : Db ν :=
  match decoded with
  | .error _ => db
  | .ok payload =>
    let announced := if progress.notifies then notify db historyId (fanout payload) else db
    match progress with
    | .completes now => markDrained announced historyId now
    | _ => announced

def drainGitOpsOutboxRow (db : Db ν) (historyId : Text) (progress : Progress) : Db ν :=
  match db.outbox.find? historyId with
  | none => db
  | some row =>
    if row.drainedAt.isSome then db
    else if row.payloadVersion = gitOpsEventPayloadVersion then
      drainDecodedRow db historyId
        (decodeGitOpsEventPayload env.numbers row.payloadJson row.payloadVersion)
        (fanoutGitOpsEvent env) progress
    else if row.payloadVersion = settledAttemptPayloadVersion then
      drainDecodedRow db historyId
        (decodeSettledAttemptPayload env.numbers row.payloadJson row.payloadVersion)
        (fanoutSettledNotification env) progress
    else db

/-- The undrained rows, the oldest first. -/
def listUndrained (db : Db ν) : List OutboxRow :=
  (db.outbox.rows.filter fun r => r.drainedAt.isNone).mergeSort fun a b =>
    a.createdAt < b.createdAt || (a.createdAt = b.createdAt &&
      JsString.unitsLe ((Utf8.encode a.settledHistoryId).map UInt8.toNat)
        ((Utf8.encode b.settledHistoryId).map UInt8.toNat))

/-- Work through the rows until the process stops. -/
def drainAll (env : Env ν) (progress : Text → Progress) : List OutboxRow → Db ν → Db ν × Bool
  | [], db => (db, false)
  | row :: rows, db =>
    let drained := drainGitOpsOutboxRow env db row.settledHistoryId
      (progress row.settledHistoryId)
    if (progress row.settledHistoryId).isCrash then (drained, true)
    else drainAll env progress rows drained

def repairGitOpsOutbox (progress : Text → Progress) (db : Db ν) : Db ν × Bool :=
  drainAll env progress (listUndrained db) db

structure World (ν : Type) where
  db : Db ν
  pending : List (PendingRow ν)

def World.empty : World ν := ⟨.empty, []⟩

inductive Event (ν : Type) where
  | append (rows : List (HistoryInsert ν)) (commits : Bool)
  | otherBuild (history : HistoryRow) (payloadJson : Text) (payloadVersion at_ : Int)
  | otherWriter (row : NotificationHistory ν)
  | drain (survived : Bool) (progress : Progress)
  | repair (progress : Text → Progress)
  | crash

namespace World

variable (env : Env ν) (w : World ν)

/-- A transaction of appends.  If it does not commit, the database is what it was before. -/
def append (rows : List (HistoryInsert ν)) (commits : Bool) : World ν :=
  let appended := appendAll env.numbers rows w.db w.pending
  { db := if commits then appended.1.getD w.db else w.db
    pending := appended.2 }

/-- A row that another build of the program committed, with a payload of its own. -/
def otherBuild (history : HistoryRow) (payloadJson : Text) (payloadVersion at_ : Int) : World ν :=
  match w.db.history.insert? history with
  | none => w
  | some rows =>
    let inserted : Db ν := { w.db with history := rows }
    { w with db := insertOutboxRow inserted history.id payloadJson payloadVersion at_ }

/-- The live drain takes the next row of its queue.  It passes over one that is not in the history,
or of which that cannot be told. -/
def drain (survived : Bool) (progress : Progress) : World ν :=
  match w.pending with
  | [] => w
  | row :: rows =>
    let db :=
      if survived && (w.db.history.find? row.id).isSome &&
          (gitOpsOutboxPlan row.stage row.targetMode row.after).isSome then
        drainGitOpsOutboxRow env w.db row.id progress
      else w.db
    { db := db, pending := if progress.isCrash then [] else rows }

def repair (progress : Text → Progress) : World ν :=
  let repaired := repairGitOpsOutbox env progress w.db
  { db := repaired.1, pending := if repaired.2 then [] else w.pending }

end World

def step (w : World ν) : Event ν → World ν
  | .append rows commits => w.append env rows commits
  | .otherBuild history payloadJson payloadVersion at_ =>
    w.otherBuild history payloadJson payloadVersion at_
  | .otherWriter row =>
    { w with db := w.db.addNotificationHistory { row with source := none } }
  | .drain survived progress => w.drain env survived progress
  | .repair progress => w.repair env progress
  | .crash => { w with pending := [] }

/-- What a row announces: an error if its payload or version cannot be read, and nothing if it
carries no news. -/
def announcement (row : OutboxRow) : Except Text (Option (NotificationHistory ν)) :=
  if row.payloadVersion = gitOpsEventPayloadVersion then
    (decodeGitOpsEventPayload env.numbers row.payloadJson row.payloadVersion).map
      (fanoutGitOpsEvent env)
  else if row.payloadVersion = settledAttemptPayloadVersion then
    (decodeSettledAttemptPayload env.numbers row.payloadJson row.payloadVersion).map
      (fanoutSettledNotification env)
  else .error []

/-- Every row that carries news is announced exactly once and drained, and every row that cannot be
read is not drained. -/
structure Delivered (env : Env ν) (db : Db ν) : Prop where
  once : ∀ r ∈ db.outbox.rows, ∀ n, announcement env r = .ok (some n) → ∀ key,
    n.dedupeKey = some key →
      ((db.notifications.map NotificationHistory.dedupeKey).filter
        (fun k => k = some key)).length = 1
  drained : ∀ r ∈ db.outbox.rows, ∀ n, announcement env r = .ok (some n) →
    r.drainedAt.isSome = true
  unread : ∀ r ∈ db.outbox.rows, ∀ e, announcement env r = .error e → r.drainedAt = none

/-- Every notification of the outbox stems from a row that was committed. -/
def FromHistory (db : Db ν) : Prop :=
  ∀ n ∈ db.notifications, ∀ id, n.source = some id → (db.history.find? id).isSome = true

end Sencho.GitOps.Outbox

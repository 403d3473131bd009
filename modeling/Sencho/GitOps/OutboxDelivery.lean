import Sencho.GitOps.Outbox
import Sencho.Verified.Decimals

/-!
# Exactly-once delivery

A notification is written before its row is marked, so that a row that is marked has its key in the
notification history, and a row that was announced but not marked is announced again, which its key
refuses.  A repair tries every row that is not marked.
-/

namespace Sencho.GitOps.Outbox

open Verified List Table World NotificationHistory CodeUnits Runs

variable {ν : Type} {env : Env ν} {db : Db ν}
variable {a : Option (NotificationHistory ν)} {r : OutboxRow} {w : World ν}

/-- The work on a row that can be read. -/
def drainAnnounced (db : Db ν) (historyId : Text) (announced : Option (NotificationHistory ν))
    (progress : Progress) : Db ν :=
  drainDecodedRow db historyId (.ok announced) id progress

theorem drain_decoded {α : Type} (decoded : Except Text α)
    (fanout : α → Option (NotificationHistory ν)) (historyId : Text) (progress : Progress) :
    drainDecodedRow db historyId decoded fanout progress =
      drainDecodedRow db historyId (decoded.map fanout) id progress := by
  cases decoded with
  | error e | ok payload => rfl

variable {historyId : Text}

theorem drain_eq {r : OutboxRow} (hr : db.outbox.find? historyId = some r)
    (hundrained : r.drainedAt = none) (progress : Progress) :
    drainGitOpsOutboxRow env db historyId progress =
      drainDecodedRow db historyId (announcement env r) id progress := by
  unfold drainGitOpsOutboxRow announcement
  rw [hr]
  dsimp only
  rw [hundrained, if_neg (by simp)]
  by_cases hevent : r.payloadVersion = gitOpsEventPayloadVersion
  · rw [if_pos hevent, if_pos hevent]
    exact drain_decoded _ _ historyId progress
  · rw [if_neg hevent, if_neg hevent]
    by_cases hsett : r.payloadVersion = settledAttemptPayloadVersion
    · rw [if_pos hsett, if_pos hsett]
      exact drain_decoded _ _ historyId progress
    · rw [if_neg hsett, if_neg hsett]
      rfl

/-- A row that is not there or drained is left alone. -/
theorem drain_skips (h : ∀ r, db.outbox.find? historyId = some r → r.drainedAt.isSome = true)
    (progress : Progress) : drainGitOpsOutboxRow env db historyId progress = db := by
  unfold drainGitOpsOutboxRow
  cases hr : db.outbox.find? historyId with
  | none => rfl
  | some r =>
    dsimp only
    rw [if_pos (h r hr)]

section

variable {historyId : Text} (hr : db.outbox.find? historyId = some r)
  (hundrained : r.drainedAt = none)
include hr hundrained

/-- A row that cannot be read is left alone. -/
theorem drain_error {e : Text} (he : announcement env r = .error e) (progress : Progress) :
    drainGitOpsOutboxRow env db historyId progress = db := by
  rw [drain_eq hr hundrained, he]
  rfl

theorem drain_ok (ha : announcement env r = .ok a) (progress : Progress) :
    drainGitOpsOutboxRow env db historyId progress = drainAnnounced db historyId a progress := by
  rw [drain_eq hr hundrained, ha]
  rfl

end

/-- Keys are held once, a row that is drained can be read and has its key among the notifications,
and what is announced and what may be announced was committed. -/
structure Sound (env : Env ν) (db : Db ν) : Prop where
  keys : ∀ key, ((db.notifications.map dedupeKey).filter (fun k => k = some key)).length ≤ 1
  drained : ∀ r ∈ db.outbox.rows, r.drainedAt.isSome = true → ∃ a, announcement env r = .ok a ∧
    ∀ n key, a = some n → n.dedupeKey = some key → some key ∈ db.notifications.map dedupeKey
  source : FromHistory db
  rows : ∀ r ∈ db.outbox.rows, (db.history.find? r.settledHistoryId).isSome = true

theorem sound_empty : Sound env Db.empty := by
  constructor
  · intro key
    exact Nat.zero_le 1
  · intro r hr
    cases hr
  · intro n hn
    cases hn
  · intro r hr
    cases hr

/-- The keys that are there stay there. -/
theorem mem_keys_add {row : NotificationHistory ν} {k : Option Text}
    (h : k ∈ db.notifications.map dedupeKey) :
    k ∈ (db.addNotificationHistory row).notifications.map dedupeKey := by
  unfold Db.addNotificationHistory
  by_cases hheld : row.dedupeKey.isSome ∧ row.dedupeKey ∈ db.notifications.map dedupeKey
  · rw [if_pos hheld]
    exact h
  · rw [if_neg hheld]
    exact mem_cons_of_mem _ h

/-- The key of a notification is there after it was written or refused. -/
theorem key_mem_add (db : Db ν) (row : NotificationHistory ν) : row.dedupeKey ∈
      (db.addNotificationHistory row).notifications.map dedupeKey := by
  unfold Db.addNotificationHistory
  by_cases hheld : row.dedupeKey.isSome ∧ row.dedupeKey ∈ db.notifications.map dedupeKey
  · rw [if_pos hheld]
    exact hheld.2
  · rw [if_neg hheld]
    exact mem_cons_self

theorem tables_add (db : Db ν) (row : NotificationHistory ν) :
    (db.addNotificationHistory row).outbox = db.outbox ∧
      (db.addNotificationHistory row).history = db.history := by
  unfold Db.addNotificationHistory
  by_cases hheld : row.dedupeKey.isSome ∧ row.dedupeKey ∈ db.notifications.map dedupeKey
  · rw [if_pos hheld]
    exact ⟨rfl, rfl⟩
  · rw [if_neg hheld]
    exact ⟨rfl, rfl⟩

theorem Sound.add (h : Sound env db) {row : NotificationHistory ν}
    (hsource : ∀ id, row.source = some id → (db.history.find? id).isSome = true) :
    Sound env (db.addNotificationHistory row) := by
  have htables := tables_add db row
  constructor
  · intro key
    unfold Db.addNotificationHistory
    by_cases hheld : row.dedupeKey.isSome ∧ row.dedupeKey ∈ db.notifications.map dedupeKey
    · rw [if_pos hheld]
      exact h.keys key
    · rw [if_neg hheld]
      show ((row.dedupeKey :: db.notifications.map dedupeKey).filter
        (fun k => k = some key)).length ≤ 1
      by_cases hkey : row.dedupeKey = some key
      · have hnew : some key ∉ db.notifications.map dedupeKey := by
          intro hmem
          exact hheld ⟨by rw [hkey]; rfl, by rw [hkey]; exact hmem⟩
        have hnone : (db.notifications.map dedupeKey).filter (fun k => k = some key) = [] := by
          apply filter_eq_nil_iff.mpr
          intro k hk hsame
          exact hnew (of_decide_eq_true hsame ▸ hk)
        rw [filter_cons_of_pos (by simpa using hkey), hnone]
        exact Nat.le_refl 1
      · rw [filter_cons_of_neg (by simpa using hkey)]
        exact h.keys key
  · intro r hr hdrained
    rw [htables.1] at hr
    rcases h.drained r hr hdrained with ⟨a, ha, hkeys⟩
    exact ⟨a, ha, fun n key hn hkey => mem_keys_add (hkeys n key hn hkey)⟩
  · intro n hn id hid
    rw [htables.2]
    unfold Db.addNotificationHistory at hn
    by_cases hheld : row.dedupeKey.isSome ∧ row.dedupeKey ∈ db.notifications.map dedupeKey
    · rw [if_pos hheld] at hn
      exact h.source n hn id hid
    · rw [if_neg hheld] at hn
      rcases mem_cons.mp hn with rfl | hn
      · exact hsource id hid
      · exact h.source n hn id hid
  · intro r hr
    rw [htables.1] at hr
    rw [htables.2]
    exact h.rows r hr

theorem Sound.notify (h : Sound env db)
    (hid : (db.history.find? historyId).isSome = true) (a : Option (NotificationHistory ν)) :
    Sound env (notify db historyId a) := by
  cases a with
  | none => exact h
  | some row =>
    apply h.add
    intro id hsame
    cases hsame
    exact hid

/-- Marking a row whose key is among the notifications. -/
theorem Sound.mark (h : Sound env db) (hr : db.outbox.find? historyId = some r)
    (ha : announcement env r = .ok a) (hkeys : ∀ n key, a = some n → n.dedupeKey = some key →
      some key ∈ db.notifications.map dedupeKey) (now : Int) :
    Sound env (markDrained db historyId now) := by
  constructor
  · exact h.keys
  · intro r' hr' hdrained
    rcases mem_map.mp hr' with ⟨r₀, hr₀, rfl⟩
    by_cases hmarked : (r₀.settledHistoryId = historyId && r₀.drainedAt.isNone) = true
    · simp only [hmarked, if_true]
      have hid : r₀.settledHistoryId = historyId := by
        have hboth := Bool.and_eq_true_iff.mp hmarked
        exact of_decide_eq_true hboth.1
      have hfound := (find?_eq_some_iff db.outbox historyId r₀).mpr ⟨hr₀, hid⟩
      rw [hr] at hfound
      cases hfound
      exact ⟨a, ha, hkeys⟩
    · simp only [hmarked] at hdrained ⊢
      exact h.drained r₀ hr₀ hdrained
  · exact h.source
  · intro r' hr'
    rcases mem_map.mp hr' with ⟨r₀, hr₀, rfl⟩
    by_cases hmarked : (r₀.settledHistoryId = historyId && r₀.drainedAt.isNone) = true
    · simp only [hmarked, if_true]
      exact h.rows r₀ hr₀
    · simp only [hmarked]
      exact h.rows r₀ hr₀

theorem notify_outbox (db : Db ν) (historyId : Text) (a : Option (NotificationHistory ν)) :
    (notify db historyId a).outbox = db.outbox := by
  cases a with
  | none => rfl
  | some row => exact (tables_add db _).1

theorem notify_key (db : Db ν) (historyId : Text) {n : NotificationHistory ν} {key : Text}
    (hn : a = some n) (hkey : n.dedupeKey = some key) :
    some key ∈ (notify db historyId a).notifications.map dedupeKey := by
  rw [hn, ← hkey]
  exact key_mem_add db { n with source := some historyId }

theorem Sound.drainAnnounced (h : Sound env db) {r : OutboxRow}
    {a : Option (NotificationHistory ν)} (hr : db.outbox.find? historyId = some r)
    (ha : announcement env r = .ok a) (progress : Progress) :
    Sound env (drainAnnounced db historyId a progress) := by
  have hmem := (find?_eq_some_iff _ _ _).mp hr
  have hid : (db.history.find? historyId).isSome = true := by
    rw [← hmem.2]
    exact h.rows r hmem.1
  have hnotified := h.notify hid a
  cases progress with
  | completes now =>
    show Sound env (markDrained (Outbox.notify db historyId a) historyId now)
    have hfound : (Outbox.notify db historyId a).outbox.find? historyId = some r := by
      rw [notify_outbox]
      exact hr
    exact hnotified.mark hfound ha (fun n key hn hkey => notify_key db historyId hn hkey) now
  | fanoutThrows inserted | crashes inserted =>
    cases inserted with
    | true => exact hnotified
    | false => exact h
  | markThrows => exact hnotified

theorem Sound.drain (h : Sound env db) (historyId : Text) (progress : Progress) :
    Sound env (drainGitOpsOutboxRow env db historyId progress) := by
  cases hr : db.outbox.find? historyId with
  | none =>
    rw [drain_skips (fun r hr' => by rw [hr] at hr'; cases hr')]
    exact h
  | some r =>
    cases hdrained : r.drainedAt with
    | some at_ =>
      have hskip : ∀ r', db.outbox.find? historyId = some r' → r'.drainedAt.isSome = true := by
        intro r' hr'
        rw [hr] at hr'
        cases hr'
        rw [hdrained]
        rfl
      rw [drain_skips hskip]
      exact h
    | none =>
      cases ha : announcement env r with
      | error e =>
        rw [drain_error hr hdrained ha]
        exact h
      | ok a =>
        rw [drain_ok hr hdrained ha]
        exact h.drainAnnounced hr ha progress

theorem Sound.drainAll (progress : Text → Progress) (rows : List OutboxRow) {db : Db ν}
    (h : Sound env db) : Sound env (drainAll env progress rows db).1 := by
  induction rows generalizing db with
  | nil => exact h
  | cons row rows ih =>
    have hdrained := h.drain row.settledHistoryId (progress row.settledHistoryId)
    unfold Outbox.drainAll
    by_cases hcrash : (progress row.settledHistoryId).isCrash = true
    · rw [if_pos hcrash]
      exact hdrained
    · rw [if_neg hcrash]
      exact ih hdrained

theorem Sound.insertOutboxRow (h : Sound env db)
    (hid : (db.history.find? historyId).isSome = true) (payloadJson : Text)
    (payloadVersion at_ : Int) :
    Sound env (insertOutboxRow db historyId payloadJson payloadVersion at_) := by
  unfold Outbox.insertOutboxRow
  cases hinsert : db.outbox.insert? ⟨historyId, payloadJson, payloadVersion, at_, at_, none⟩ with
  | none => exact h
  | some outbox =>
    have hrows : ∀ {r : OutboxRow}, r ∈ outbox.rows →
        r = ⟨historyId, payloadJson, payloadVersion, at_, at_, none⟩ ∨ r ∈ db.outbox.rows := by
      intro r hr
      have hfound := (find?_eq_some_iff outbox r.settledHistoryId r).mpr ⟨hr, rfl⟩
      rw [(insert?_eq_some hinsert).2] at hfound
      by_cases hnew : r.settledHistoryId = historyId
      · rw [if_pos hnew] at hfound
        exact .inl (Option.some.inj hfound).symm
      · rw [if_neg hnew] at hfound
        exact .inr ((find?_eq_some_iff _ _ _).mp hfound).1
    constructor
    · exact h.keys
    · intro r hr hdrained
      rcases hrows hr with rfl | hr
      · cases hdrained
      · exact h.drained r hr hdrained
    · exact h.source
    · intro r hr
      rcases hrows hr with rfl | hr
      · exact hid
      · exact h.rows r hr

/-- A row that was inserted is found, and so are those before it. -/
theorem find?_insert_isSome {t t' : Table HistoryRow Text HistoryRow.id} {row : HistoryRow}
    (h : t.insert? row = some t') :
    (t'.find? row.id).isSome = true ∧
      ∀ id, (t.find? id).isSome = true → (t'.find? id).isSome = true := by
  have hfind := (insert?_eq_some h).2
  constructor
  · rw [hfind, if_pos rfl]
    rfl
  · intro id hid
    rw [hfind]
    by_cases hsame : id = row.id
    · rw [if_pos hsame]
      rfl
    · rw [if_neg hsame]
      exact hid

theorem Sound.insertRow (h : Sound env db) {row : HistoryRow}
    {history : Table HistoryRow Text HistoryRow.id}
    (hinsert : db.history.insert? row = some history) :
    Sound env { db with history := history } := by
  have hkept := (find?_insert_isSome hinsert).2
  constructor
  · exact h.keys
  · exact h.drained
  · intro n hn id hid
    exact hkept id (h.source n hn id hid)
  · intro r hr
    exact hkept r.settledHistoryId (h.rows r hr)

theorem Sound.insertPlanned (h : Sound env db) (N : Numbers ν) {row : HistoryInsert ν}
    (hid : (db.history.find? row.id).isSome = true) : Sound env (insertPlanned N db row) := by
  unfold Outbox.insertPlanned
  cases gitOpsOutboxPlan row.stage row.application.targetMode row.after with
  | none => exact h
  | some plan =>
    cases plan with
    | settled => exact h.insertOutboxRow hid _ _ _
    | event stage => exact h.insertOutboxRow hid _ _ _

theorem Sound.insertHistory (h : Sound env db) {N : Numbers ν} {row : HistoryInsert ν}
    {db' : Db ν} {queued : Option (PendingRow ν)}
    (hinsert : insertHistory N db row = some (db', queued)) : Sound env db' := by
  unfold Outbox.insertHistory at hinsert
  by_cases hreplay : (db.history.any fun r =>
      r.applicationId = row.application.id ∧ r.operationId = row.operationId ∧
        r.stage = row.stage ∧ r.dedupeTarget = row.dedupeTarget) = true
  · rw [if_pos hreplay] at hinsert
    cases hinsert
    exact h
  · rw [if_neg hreplay] at hinsert
    rcases Option.map_eq_some_iff.mp hinsert with ⟨history, hrow, heq⟩
    cases heq
    exact (h.insertRow hrow).insertPlanned N (find?_insert_isSome hrow).1

theorem Sound.appendAll (N : Numbers ν) (rows : List (HistoryInsert ν)) {db db' : Db ν}
    {pending : List (PendingRow ν)} (h : Sound env db)
    (happend : (appendAll N rows db pending).1 = some db') : Sound env db' := by
  induction rows generalizing db pending with
  | nil =>
    cases happend
    exact h
  | cons row rows ih =>
    unfold Outbox.appendAll at happend
    cases hinsert : Outbox.insertHistory N db row with
    | none =>
      rw [hinsert] at happend
      cases happend
    | some result =>
      rcases result with ⟨inserted, queued⟩
      rw [hinsert] at happend
      exact ih (h.insertHistory hinsert) happend

theorem Sound.append (h : Sound env w.db) (rows : List (HistoryInsert ν)) (commits : Bool) :
    Sound env (w.append env rows commits).db := by
  cases commits with
  | false => exact h
  | true =>
    show Sound env ((Outbox.appendAll env.numbers rows w.db w.pending).1.getD w.db)
    cases happend : (Outbox.appendAll env.numbers rows w.db w.pending).1 with
    | none => exact h
    | some db' => exact Sound.appendAll env.numbers rows h happend

theorem sound_step (w : World ν) (e : Event ν) (h : Sound env w.db) :
    Sound env (step env w e).db := by
  cases e with
  | append rows commits => exact h.append rows commits
  | otherBuild history payloadJson payloadVersion at_ =>
    show Sound env (w.otherBuild history payloadJson payloadVersion at_).db
    unfold otherBuild
    cases hinsert : w.db.history.insert? history with
    | none => exact h
    | some rows =>
      exact (h.insertRow hinsert).insertOutboxRow (find?_insert_isSome hinsert).1 _ _ _
  | otherWriter row =>
    apply h.add
    intro id hid
    cases hid
  | drain survived progress =>
    show Sound env (w.drain env survived progress).db
    unfold drain
    cases w.pending with
    | nil => exact h
    | cons row rows =>
      dsimp only
      split
      · exact h.drain row.id progress
      · exact h
  | repair progress => exact Sound.drainAll progress _ h
  | crash => exact h

theorem sound_run (events : List (Event ν)) : Sound env (run (step env) empty events).db :=
  run_invariant (fun w e h => sound_step w e h) sound_empty events

/-- A row that is not drained cannot be read. -/
def Tried (env : Env ν) (db : Db ν) (id : Text) : Prop :=
  ∀ r, db.outbox.find? id = some r → r.drainedAt = none → ∃ e, announcement env r = .error e

theorem find?_markDrained (db : Db ν) (historyId id : Text) (now : Int) :
    (markDrained db historyId now).outbox.find? id = (db.outbox.find? id).map fun r =>
        if (r.settledHistoryId = historyId && r.drainedAt.isNone) = true then
          { r with drainedAt := some now, updatedAt := now }
        else r := by
  have hkey : ∀ r : OutboxRow, ({ r with drainedAt := some now, updatedAt := now } :
      OutboxRow).settledHistoryId = r.settledHistoryId := fun _ => rfl
  exact find?_update db.outbox _ _ hkey id

/-- A row that is not drained after a drain was the same before. -/
theorem find?_drain {historyId id : Text} {progress : Progress} {r : OutboxRow}
    (hr : (drainGitOpsOutboxRow env db historyId progress).outbox.find? id = some r)
    (hundrained : r.drainedAt = none) : db.outbox.find? id = some r := by
  have hmark : ∀ {d : Db ν} {now : Int}, d.outbox = db.outbox →
      (markDrained d historyId now).outbox.find? id = some r → db.outbox.find? id = some r := by
    intro d now hsame hfound
    rw [find?_markDrained, hsame] at hfound
    rcases Option.map_eq_some_iff.mp hfound with ⟨r₀, hr₀, heq⟩
    by_cases hmarked : (r₀.settledHistoryId = historyId && r₀.drainedAt.isNone) = true
    · rw [if_pos hmarked] at heq
      rw [← heq] at hundrained
      cases hundrained
    · rw [if_neg hmarked] at heq
      rw [← heq]
      exact hr₀
  cases hfound : db.outbox.find? historyId with
  | none =>
    rw [drain_skips (fun r' hr' => by rw [hfound] at hr'; cases hr')] at hr
    exact hr
  | some r' =>
    cases hdrained : r'.drainedAt with
    | some at_ =>
      have hskip : ∀ r'', db.outbox.find? historyId = some r'' → r''.drainedAt.isSome = true := by
        intro r'' hr''
        rw [hfound] at hr''
        cases hr''
        rw [hdrained]
        rfl
      rw [drain_skips hskip] at hr
      exact hr
    | none =>
      cases ha : announcement env r' with
      | error e =>
        rw [drain_error hfound hdrained ha] at hr
        exact hr
      | ok a =>
        rw [drain_ok hfound hdrained ha] at hr
        have hnotify := notify_outbox db historyId a
        cases progress with
        | completes now => exact hmark hnotify hr
        | fanoutThrows inserted =>
          cases inserted with
          | true => exact hnotify ▸ hr
          | false => exact hr
        | markThrows => exact hnotify ▸ hr
        | crashes inserted =>
          cases inserted with
          | true => exact hnotify ▸ hr
          | false => exact hr

theorem Tried.drain {id : Text} (h : Tried env db id) (historyId : Text) (progress : Progress) :
    Tried env (drainGitOpsOutboxRow env db historyId progress) id := by
  intro r hr hundrained
  exact h r (find?_drain hr hundrained) hundrained

/-- A drain that completes leaves the row drained or unread. -/
theorem tried_of_completes (db : Db ν) (id : Text) (now : Int) :
    Tried env (drainGitOpsOutboxRow env db id (.completes now)) id := by
  intro r hr hundrained
  have hbefore := find?_drain hr hundrained
  cases ha : announcement env r with
  | error e => exact ⟨e, rfl⟩
  | ok a =>
    rw [drain_ok hbefore hundrained ha] at hr
    change (markDrained (notify db id a) id now).outbox.find? id = some r at hr
    rw [find?_markDrained, notify_outbox, hbefore, Option.map_some] at hr
    have hid : r.settledHistoryId = id := key_of_find? hbefore
    rw [if_pos (by simp [hid, hundrained])] at hr
    rw [← Option.some.inj hr] at hundrained
    cases hundrained

theorem tried_drainAll (clock : Text → Int) (rows : List OutboxRow) {db : Db ν} {id : Text}
    (h : Tried env db id ∨ id ∈ rows.map OutboxRow.settledHistoryId) :
    Tried env (drainAll env (fun id => .completes (clock id)) rows db).1 id := by
  induction rows generalizing db with
  | nil =>
    rcases h with h | h
    · exact h
    · cases h
  | cons row rows ih =>
    apply ih
    rcases h with h | h
    · exact .inl (h.drain _ _)
    · rcases mem_cons.mp h with rfl | h
      · exact .inl (tried_of_completes db _ _)
      · exact .inr h

/-- A repair in which nothing fails leaves no row that it could have drained. -/
theorem tried_repair (db : Db ν) (clock : Text → Int) (id : Text) :
    Tried env (repairGitOpsOutbox env (fun id => .completes (clock id)) db).1 id := by
  apply tried_drainAll
  by_cases hlisted : id ∈ (listUndrained db).map OutboxRow.settledHistoryId
  · exact .inr hlisted
  · left
    intro r hr hundrained
    have hmem := (find?_eq_some_iff _ _ _).mp hr
    have hin : r ∈ listUndrained db := by
      unfold listUndrained
      rw [mem_mergeSort]
      exact mem_filter.mpr ⟨hmem.1, by rw [hundrained]; rfl⟩
    exact absurd (hmem.2 ▸ mem_map_of_mem hin) hlisted

/-- A row that was tried is left alone. -/
theorem Tried.drain_eq {id : Text} (h : Tried env db id) (progress : Progress) :
    drainGitOpsOutboxRow env db id progress = db := by
  cases hr : db.outbox.find? id with
  | none => exact drain_skips (fun r hr' => by rw [hr] at hr'; cases hr') progress
  | some r =>
    cases hdrained : r.drainedAt with
    | some at_ =>
      apply drain_skips
      intro r' hr'
      rw [hr] at hr'
      cases hr'
      rw [hdrained]
      rfl
    | none =>
      rcases h r hr hdrained with ⟨e, he⟩
      exact drain_error hr hdrained he progress

theorem drainAll_tried (h : ∀ id, Tried env db id) (progress : Text → Progress)
    (rows : List OutboxRow) : (drainAll env progress rows db).1 = db := by
  induction rows with
  | nil => rfl
  | cons row rows ih =>
    unfold drainAll
    rw [(h row.settledHistoryId).drain_eq]
    by_cases hcrash : (progress row.settledHistoryId).isCrash = true
    · rw [if_pos hcrash]
    · rw [if_neg hcrash]
      exact ih

/-- The drains, the repairs and the crashes. -/
def Event.retries : Event ν → Bool
  | .drain _ _ => true
  | .repair _ => true
  | .crash => true
  | _ => false

theorem step_tried (h : ∀ id, Tried env w.db id) {e : Event ν} (he : e.retries = true) :
    (step env w e).db = w.db := by
  cases e with
  | drain survived progress =>
    show (w.drain env survived progress).db = w.db
    unfold drain
    cases w.pending with
    | nil => rfl
    | cons row rows =>
      dsimp only
      rw [(h row.id).drain_eq, ite_self]
  | repair progress => exact drainAll_tried h progress _
  | crash => rfl
  | append rows commits | otherBuild history payloadJson payloadVersion at_ | otherWriter row =>
    cases he

theorem run_tried (h : ∀ id, Tried env w.db id) {events : List (Event ν)}
    (hretries : ∀ e ∈ events, e.retries = true) : (run (step env) w events).db = w.db := by
  induction events generalizing w with
  | nil => rfl
  | cons e events ih =>
    have hstep := step_tried h (hretries e mem_cons_self)
    rw [run_cons, ih]
    · exact hstep
    · rw [hstep]
      exact h
    · exact fun d hd => hretries d (mem_cons_of_mem e hd)

/-- Where every row was tried, what can be read was delivered. -/
theorem Sound.delivered (h : Sound env db) (htried : ∀ id, Tried env db id) : Delivered env db := by
  have hdrained : ∀ r ∈ db.outbox.rows, ∀ a, announcement env r = .ok a →
      r.drainedAt.isSome = true := by
    intro r hr a ha
    cases hat : r.drainedAt with
    | some at_ => rfl
    | none =>
      have hfound := (find?_eq_some_iff db.outbox r.settledHistoryId r).mpr ⟨hr, rfl⟩
      rcases htried r.settledHistoryId r hfound hat with ⟨e, he⟩
      rw [ha] at he
      cases he
  constructor
  · intro r hr n hn key hkey
    rcases h.drained r hr (hdrained r hr _ hn) with ⟨a, ha, hkeys⟩
    rw [hn] at ha
    cases ha
    have hmem := hkeys n key rfl hkey
    have hpos : 0 < ((db.notifications.map dedupeKey).filter (fun k => k = some key)).length :=
      length_pos_of_mem (mem_filter.mpr ⟨hmem, by simp⟩)
    have hle := h.keys key
    omega
  · intro r hr n hn
    exact hdrained r hr _ hn
  · intro r hr e he
    cases hat : r.drainedAt with
    | none => rfl
    | some at_ =>
      rcases h.drained r hr (by rw [hat]; rfl) with ⟨a, ha, _⟩
      rw [he] at ha
      cases ha

/-- In every run, what is announced was committed.  A repair in which nothing fails leaves every
row that carries news announced once and drained, and every row that cannot be read undrained, and
no later drain, repair or crash changes anything. -/
theorem repair_delivers (env : Env ν) (events more : List (Event ν)) (clock : Text → Int)
    (hmore : ∀ e ∈ more, e.retries = true) :
    FromHistory (run (step env) empty events).db ∧ Delivered env
        (step env (run (step env) empty events) (.repair fun id => .completes (clock id))).db ∧
      (run (step env) (step env (run (step env) empty events)
          (.repair fun id => .completes (clock id))) more).db =
        (step env (run (step env) empty events) (.repair fun id => .completes (clock id))).db := by
  have hbefore : Sound env (run (step env) empty events).db := sound_run events
  have htried : ∀ id, Tried env (step env (run (step env) empty events)
      (.repair fun id => .completes (clock id))).db id := tried_repair _ clock
  refine ⟨hbefore.source, ?_, run_tried htried hmore⟩
  exact (sound_step _ _ hbefore).delivered htried

/-- An append that is rolled back, one that commits, and a drain that stops between its
notification and the mark. -/
def interrupted : List (Event Int) :=
  let paused : HistoryInsert Int :=
    ⟨text "h", ⟨text "app", .blueprint, none, none, false, none⟩, none, [], text "op",
      .notifiable .rolloutPaused, [], none, [], none, 0⟩
  [.append [{ paused with id := text "lost" }] false, .append [paused] true,
    .drain true (.crashes true)]

/-- An instance whose numbers are the integers. -/
def plainEnv : Env Int := ⟨Decimals.integers, fun id stackName => (stackName, id), 0⟩

theorem interrupted_delivered : FromHistory (run (step plainEnv) empty interrupted).db ∧
      Delivered plainEnv (step plainEnv (run (step plainEnv) empty interrupted)
          (.repair fun _ => .completes 1)).db ∧
      (run (step plainEnv) (step plainEnv (run (step plainEnv) empty interrupted)
          (.repair fun _ => .completes 1)) [.drain true (.completes 2), .crash]).db =
        (step plainEnv (run (step plainEnv) empty interrupted)
          (.repair fun _ => .completes 1)).db :=
  repair_delivers plainEnv interrupted [.drain true (.completes 2), .crash] (fun _ => 1)
    (by simp [Event.retries])

/-- At every moment of every run, crashes included, no notification is there twice, and what a
drained row announces is there once. -/
theorem announced_once (env : Env ν) (events : List (Event ν)) :
    (∀ key, (((run (step env) empty events).db.notifications.map
        dedupeKey).filter (fun k => k = some key)).length ≤ 1) ∧
    ∀ r ∈ (run (step env) empty events).db.outbox.rows, r.drainedAt.isSome = true →
      ∃ a, announcement env r = .ok a ∧ ∀ n key, a = some n → n.dedupeKey = some key →
        (((run (step env) empty events).db.notifications.map
          dedupeKey).filter (fun k => k = some key)).length = 1 := by
  have h : Sound env (run (step env) empty events).db := sound_run events
  refine ⟨h.keys, fun r hr hdrained => ?_⟩
  obtain ⟨a, ha, hthere⟩ := h.drained r hr hdrained
  refine ⟨a, ha, fun n key hn hkey => ?_⟩
  have hmem : some key ∈ ((run (step env) empty events).db.notifications.map
      dedupeKey).filter (fun k => k = some key) :=
    mem_filter.mpr ⟨hthere n key hn hkey, decide_eq_true rfl⟩
  exact Nat.le_antisymm (h.keys key) (length_pos_of_mem hmem)

end Sencho.GitOps.Outbox

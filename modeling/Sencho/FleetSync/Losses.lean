import Sencho.FleetSync.Order

/-!
# Regress and loss

Where no clock reading falls behind, the rows on the remote never go back and no push is
lost silently.  Two readings matter.  A push must be stamped past what the remote has
applied and past the requests that may still arrive: a process that restarts forgets its
last stamp, and a clock that stepped back then stamps new rows below old ones.  And the
failure of the latest push, where the remote does not hold it, must be recorded later than
the last success: otherwise the record does not count as a failure.
-/

namespace Sencho.FleetSync

open Verified List Runs FleetSyncStatus

variable {answer : Option SyncAnswer}

namespace SyncState

variable {Row : Type} {fleet : Fleet Row} {s s' : SyncState Row}

/-- The remote applied a push, and nothing of its resource since. -/
def Held (s : SyncState Row) (push : Push Row) : Prop :=
  (s.applied push.resource).head? = some push

/-- A failure recorded now is later than the last success, where the failure is that of the
latest push and the remote does not hold it. -/
def FailureSeen (s : SyncState Row) (push : Push Row) (now : Int) : Prop :=
  ∀ latest, s.latest push.resource = some latest → latest.id = push.id → ¬ s.Held latest →
    ∀ row success, s.control.status push.resource = some row →
      row.last_success_at = some success → success < now

/-- No clock reading of a step falls behind what it must follow. -/
def Timely (s : SyncState Row) : SyncEvent Row → Prop
  | .pushResource resource now => s.control.fleetRole = .control → s.ClockAhead resource now
  | .retryOne resource evaluatedAt now =>
    s.retries resource evaluatedAt = true → s.ClockAhead resource now
  | .answered now => ∀ push status error,
      s.process.running = some (push, some (.failed status error)) → s.FailureSeen push now
  | .timeout now => ∀ push answer, s.process.running = some (push, answer) → s.FailureSeen push now
  | _ => True

/-- What the record, and the answer the process has, say of the latest pushes. -/
structure Recorded (s : SyncState Row) : Prop where
  free : ∀ r row, s.control.status r = some row → row.sticky_error_code = none
  succeeded : ∀ p n, s.process.running = some (p, some (.success n)) →
    s.latest p.resource = some p → s.Held p
  accepted : ∀ p refusal, s.process.running = some (p, some (.refused refusal)) →
    s.latest p.resource ≠ some p ∧ ∃ previous incoming, refusal = .staleSyncPush previous incoming
  quiet : ∀ r, s.settled r = true → (∀ q ∈ s.process.chained, q.resource ≠ r) ∧
      ∀ q ∈ s.process.running.map Prod.fst, q.resource ≠ r
  settled : ∀ r p, s.latest r = some p → s.settled r = true →
    s.Held p ∨ (s.control.status r).any unresolved = true

/-- Everything that holds between two steps. -/
structure Synced (fleet : Fleet Row) (s : SyncState Row) : Prop where
  chained : Chained s
  ordered : Ordered fleet s
  recorded : Recorded s

/-- The latest push stays held when another is applied. -/
theorem Ordered.held_arrive (h : Ordered fleet s) {p push : Push Row} (hpush : s.Pending push)
    (hlatest : s.latest p.resource = some p) (hheld : s.Held p)
    (hpast : ∀ previous, s.replica.receivedPushedAt push.resource = some previous →
      previous ≤ push.payload.pushedAt)
    (happlied : s'.applied = setAt s.applied push.resource (push :: s.applied push.resource)) :
    s'.Held p := by
  show (s'.applied p.resource).head? = some p
  rw [happlied]
  by_cases hres : p.resource = push.resource
  · rw [hres, setAt_self]
    have hmark := (h.applied p.resource p hheld).1
    rw [hres] at hmark
    have hle := hpast _ hmark
    rcases (h.latest p.resource p hlatest).2.2.2 push hpush hres.symm with rfl | ⟨_, hlt⟩
    · rfl
    · omega
  · rw [setAt_ne hres]
    exact hheld

/-- What the process keeps of an answer. -/
theorem answer_cases (process : Process Row) (id : Nat) (answer : SyncAnswer) :
    (Process.answer process id answer = process) ∨
    ∃ push, process.running = some (push, none) ∧ push.id = id ∧ Process.answer process id answer =
        { process with running := some (push, some answer) } := by
  unfold Process.answer
  cases hrunning : process.running with
  | none => exact .inl rfl
  | some running =>
    obtain ⟨push, found⟩ := running
    cases found with
    | some old => exact .inl rfl
    | none =>
      dsimp only
      by_cases hid : push.id = id
      · rw [if_pos hid]
        exact .inr ⟨push, rfl, hid, rfl⟩
      · rw [if_neg hid]
        exact .inl rfl

theorem answer_frame (process : Process Row) (id : Nat) (answer : SyncAnswer) :
    (Process.answer process id answer).running.map Prod.fst = process.running.map Prod.fst ∧
      (Process.answer process id answer).chained = process.chained ∧
      (Process.answer process id answer).lastPushedAt = process.lastPushedAt := by
  rcases answer_cases process id answer with hsame | ⟨push, hrunning, _, hset⟩
  · rw [hsame]
    exact ⟨rfl, rfl, rfl⟩
  · rw [hset, hrunning]
    exact ⟨rfl, rfl, rfl⟩

/-- The process keeps what it has chained, and waits for nothing new. -/
theorem Chained.frame (h : Chained s)
    (hrunning : ∀ p ∈ s'.process.running.map Prod.fst, p ∈ s.process.running.map Prod.fst)
    (hchained : s'.process.chained = s.process.chained)
    (hcounter : s'.process.lastPushedAt = s.process.lastPushedAt)
    (hlatest : s'.latest = s.latest) : Chained s' where
  counter := by
    rw [hcounter]
    exact h.counter
  stamped := fun q hq => by
    rw [hchained] at hq
    rw [hcounter]
    exact h.stamped q (hq.imp_left (hrunning q))
  numbered := by
    rw [hchained]
    exact h.numbered
  behind := fun p hp => by
    rw [hchained]
    exact h.behind p (hrunning p hp)
  upto := by
    rw [hchained, hlatest]
    exact h.upto

theorem Chained.push (h : Chained s) (hordered : Ordered fleet s) (r : FleetResource)
    (now : Int) : Chained (s.enqueuePushToNode (s.newPush fleet r now)) := by
  have hstamp : (s.newPush fleet r now).payload.pushedAt =
      max now (s.process.lastPushedAt + 1) := nextPushedAt_eq _ _
  have hcounter := h.counter
  constructor
  case counter =>
    show 0 ≤ (s.newPush fleet r now).payload.pushedAt
    omega
  case stamped =>
    intro q hq
    show q.payload.pushedAt ≤ (s.newPush fleet r now).payload.pushedAt
    rcases hq with hrunning | hchained
    · have hle := h.stamped q (.inl hrunning)
      omega
    · rcases mem_append.mp hchained with hold | hnew
      · have hle := h.stamped q (.inr hold)
        omega
      · exact Int.le_of_eq (by rw [mem_singleton.mp hnew])
  case numbered =>
    refine pairwise_append.mpr ⟨h.numbered, pairwise_singleton _ _, ?_⟩
    intro q hq new hnew
    rw [mem_singleton.mp hnew]
    exact (hordered.known q (.inr (.inr hq))).1
  case behind =>
    intro p hp q hq
    rcases mem_append.mp hq with hold | hnew
    · exact h.behind p hp q hold
    · rw [mem_singleton.mp hnew]
      exact (hordered.known p (.inr (.inl hp))).1
  case upto =>
    intro q hq
    show ∃ p ∈ s.process.chained ++ [s.newPush fleet r now],
      setAt s.latest r (some (s.newPush fleet r now)) q.resource = some p ∧ q.id ≤ p.id
    by_cases hres : q.resource = r
    · refine ⟨s.newPush fleet r now, by simp, ?_, ?_⟩
      · rw [hres, setAt_self]
      · rcases mem_append.mp hq with hold | hnew
        · exact Nat.le_of_lt (hordered.known q (.inr (.inr hold))).1
        · exact Nat.le_of_eq (by rw [mem_singleton.mp hnew])
    · rcases mem_append.mp hq with hold | hnew
      · obtain ⟨p, hp, hlatest, hid⟩ := h.upto q hold
        refine ⟨p, mem_append_left _ hp, ?_, hid⟩
        rw [setAt_ne hres]
        exact hlatest
      · rw [mem_singleton.mp hnew] at hres
        exact absurd rfl hres

theorem Recorded.push (h : Recorded s) (hordered : Ordered fleet s) (r : FleetResource)
    (now : Int) : Recorded (s.enqueuePushToNode (s.newPush fleet r now)) := by
  have hold : ∀ p, p ∈ s.process.running.map Prod.fst →
      setAt s.latest r (some (s.newPush fleet r now)) p.resource = some p →
        s.latest p.resource = some p := by
    intro p hp hlatest
    by_cases hres : p.resource = r
    · rw [hres, setAt_self] at hlatest
      have hid : s.nextId = p.id := congrArg Push.id (Option.some.inj hlatest)
      have hknown := (hordered.known p (.inr (.inl hp))).1
      omega
    · rw [setAt_ne hres] at hlatest
      exact hlatest
  have hsett : ∀ r', setAt s.settled r false r' = true → r' ≠ r ∧ s.settled r' = true := by
    intro r' hr'
    by_cases hres : r' = r
    · rw [hres, setAt_self] at hr'
      cases hr'
    · rw [setAt_ne hres] at hr'
      exact ⟨hres, hr'⟩
  constructor
  case free => exact h.free
  case succeeded =>
    intro p n hrunning hlatest
    refine h.succeeded p n hrunning (hold p ?_ hlatest)
    rw [show s.process.running = _ from hrunning]
    rfl
  case accepted =>
    intro p refusal hrunning
    obtain ⟨hnot, hrefusal⟩ := h.accepted p refusal hrunning
    refine ⟨fun hlatest => hnot (hold p ?_ hlatest), hrefusal⟩
    rw [show s.process.running = _ from hrunning]
    rfl
  case quiet =>
    intro r' hr'
    obtain ⟨hne, hwas⟩ := hsett r' hr'
    obtain ⟨hchained, hrunning⟩ := h.quiet r' hwas
    refine ⟨fun q hq => ?_, hrunning⟩
    rcases mem_append.mp hq with hq' | hnew
    · exact hchained q hq'
    · rw [mem_singleton.mp hnew]
      exact hne.symm
  case settled =>
    intro r' p hlatest hr'
    obtain ⟨hne, hwas⟩ := hsett r' hr'
    have hlatest' : setAt s.latest r (some (s.newPush fleet r now)) r' = some p := hlatest
    rw [setAt_ne hne] at hlatest'
    exact h.settled r' p hlatest' hwas

/-- A push whose stamp overtakes the others. -/
theorem Synced.push (h : Synced fleet s) {r : FleetResource} {now : Int}
    (hahead : s.control.fleetRole = .control → s.ClockAhead r now) :
    Synced fleet (s.pushResource fleet r now) := by
  unfold pushResource
  cases hrole : s.control.fleetRole with
  | replica => exact h
  | control =>
    exact ⟨h.chained.push h.ordered r now, h.ordered.push h.chained (hahead hrole),
      h.recorded.push h.ordered r now⟩

/-- The next push begins. -/
theorem Synced.start (h : Synced fleet s) : Synced fleet s.executePushToNode := by
  unfold executePushToNode
  cases hrunning : s.process.running with
  | some running => exact h
  | none =>
    cases hchained : s.process.chained with
    | nil => exact h
    | cons push rest =>
      dsimp only
      have hfree : getFleetSyncStickyCode (s.control.status push.resource) = none := by
        cases hstat : s.control.status push.resource with
        | none => rfl
        | some row => exact h.recorded.free push.resource row hstat
      rw [hfree]
      have hnumbered := h.chained.numbered
      rw [hchained] at hnumbered
      have hmem : ∀ q ∈ rest, q ∈ s.process.chained := by
        intro q hq
        rw [hchained]
        exact mem_cons_of_mem push hq
      have hhead : push ∈ s.process.chained := by
        rw [hchained]
        exact mem_cons_self
      refine ⟨?_, ?_, ?_⟩
      · constructor
        case counter => exact h.chained.counter
        case stamped =>
          intro q hq
          rcases hq with hself | hrest
          · rw [← Option.mem_some.mp hself]
            exact h.chained.stamped push (.inr hhead)
          · exact h.chained.stamped q (.inr (hmem q hrest))
        case numbered => exact (pairwise_cons.mp hnumbered).2
        case behind =>
          intro p hp q hq
          rw [← Option.mem_some.mp hp]
          exact (pairwise_cons.mp hnumbered).1 q hq
        case upto =>
          intro q hq
          obtain ⟨p, hp, hlatest, hid⟩ := h.chained.upto q (hmem q hq)
          rw [hchained] at hp
          rcases mem_cons.mp hp with rfl | hrest
          · have hlt := (pairwise_cons.mp hnumbered).1 q hq
            omega
          · exact ⟨p, hrest, hlatest, hid⟩
      · refine h.ordered.frame (fun q hq => ?_) rfl rfl rfl rfl fun _ => .refl
        rcases hq with hrequest | hself | hrest
        · rcases mem_cons.mp hrequest with rfl | hold
          · exact .inr (.inr hhead)
          · exact .inl hold
        · rw [← Option.mem_some.mp hself]
          exact .inr (.inr hhead)
        · exact .inr (.inr (hmem q hrest))
      · constructor
        case free => exact h.recorded.free
        case succeeded =>
          intro p n hanswer
          cases hanswer
        case accepted =>
          intro p refusal hanswer
          cases hanswer
        case quiet =>
          intro r hr
          have hquiet := (h.recorded.quiet r hr).1
          refine ⟨fun q hq => hquiet q (hmem q hq), fun q hq => ?_⟩
          rw [← Option.mem_some.mp hq]
          exact hquiet push hhead
        case settled => exact h.recorded.settled

theorem pending_arrived {push q : Push Row} {process : Process Row}
    (hrunning : process.running.map Prod.fst = s.process.running.map Prod.fst)
    (hchained : process.chained = s.process.chained)
    (hrequests : s'.requests = s.requests.filter fun r => r.id ≠ push.id)
    (hprocess : s'.process = process) (hq : s'.Pending q) : s.Pending q := by
  unfold Pending at hq
  rw [hprocess, hrunning, hchained, hrequests] at hq
  exact hq.imp_left fun hmem => (mem_filter.mp hmem).1

section

variable {push : Push Row} (h : Synced fleet s) (hpush : s.Pending push)
include h hpush

/-- The process takes an answer to a push.  A success says that the remote holds the push if it
is the latest, and a refusal only that it is no longer the latest. -/
theorem Synced.recorded_answer (answer : SyncAnswer)
    (hheld : ∀ p, s.latest p.resource = some p → s.Held p → s'.Held p)
    (hsucceeded : ∀ n, answer = .success n → s'.Held push)
    (hrf : ∀ refusal, answer = .refused refusal → s.latest push.resource ≠ some push ∧
      ∃ previous incoming, refusal = .staleSyncPush previous incoming)
    (hcontrol : s'.control = s.control)
    (hprocess : s'.process = Process.answer s.process push.id answer)
    (hlatest : s'.latest = s.latest) (hsett : s'.settled = s.settled) : Recorded s' := by
  obtain ⟨hrunning, hchained, _⟩ := answer_frame s.process push.id answer
  have hanswered : ∀ p found, s'.process.running = some (p, some found) →
      s.process.running = some (p, some found) ∨ p = push ∧ found = answer := by
    intro p found hfound
    rw [hprocess] at hfound
    rcases answer_cases s.process push.id answer with hsame | ⟨q, hq, hid, hset⟩
    · rw [hsame] at hfound
      exact .inl hfound
    · rw [hset] at hfound
      cases hfound
      have hpend : s.Pending p := .inr (.inl (by rw [hq]; rfl))
      exact .inr ⟨h.ordered.unique p push hpend hpush hid, rfl⟩
  constructor
  case free =>
    rw [hcontrol]
    exact h.recorded.free
  case succeeded =>
    intro p n hanswer hp
    rw [hlatest] at hp
    rcases hanswered p _ hanswer with hold | ⟨rfl, hsuccess⟩
    · exact hheld p hp (h.recorded.succeeded p n hold hp)
    · exact hsucceeded n hsuccess.symm
  case accepted =>
    intro p refusal hanswer
    rw [hlatest]
    rcases hanswered p _ hanswer with hold | ⟨rfl, hrefusal⟩
    · exact h.recorded.accepted p refusal hold
    · exact hrf refusal hrefusal.symm
  case quiet =>
    intro r hr
    rw [hsett] at hr
    rw [hprocess, hchained, hrunning]
    exact h.recorded.quiet r hr
  case settled =>
    intro r p hp hr
    rw [hlatest] at hp
    rw [hsett] at hr
    rw [hcontrol]
    have hres := (h.ordered.latest r p hp).1
    refine (h.recorded.settled r p hp hr).imp_left (hheld p ?_)
    rw [hres]
    exact hp

/-- A request that the remote does not apply. -/
theorem Synced.unapplied (answer : SyncAnswer) (hfailed : ∀ n, answer ≠ .success n)
    (hrf : ∀ refusal, answer = .refused refusal → s.latest push.resource ≠ some push ∧
      ∃ previous incoming, refusal = .staleSyncPush previous incoming) :
    Synced fleet { s with
      requests := s.requests.filter fun r => r.id ≠ push.id
      process := Process.answer s.process push.id answer } := by
  obtain ⟨hrunning, hchained, hcounter⟩ := answer_frame s.process push.id answer
  refine ⟨h.chained.frame (fun _ hp => hrunning ▸ hp) hchained hcounter rfl, ?_, ?_⟩
  · exact h.ordered.frame (fun q hq => pending_arrived hrunning hchained rfl rfl hq)
      rfl rfl rfl rfl fun _ => .refl
  · exact h.recorded_answer hpush answer (fun _ _ hp => hp)
      (fun n hn => absurd hn (hfailed n)) hrf rfl rfl rfl rfl

/-- A request that the remote applies. -/
theorem Synced.applies (n : Nat) {replica : Replica Row}
    (hreplica : Applies s.replica replica push.resource push.payload) :
    Synced fleet { s with
      requests := s.requests.filter fun r => r.id ≠ push.id
      replica := replica
      process := Process.answer s.process push.id (.success n)
      applied := setAt s.applied push.resource (push :: s.applied push.resource) } := by
  obtain ⟨hrunning, hchained, hcounter⟩ := answer_frame s.process push.id (.success n)
  refine ⟨h.chained.frame (fun _ hp => hrunning ▸ hp) hchained hcounter rfl, ?_, ?_⟩
  · exact h.ordered.arrive hpush (fun q hq => pending_arrived hrunning hchained rfl rfl hq)
      hreplica rfl rfl rfl rfl
  · refine h.recorded_answer hpush (.success n)
      (fun p hp hheld => h.ordered.held_arrive hpush hp hheld hreplica.past rfl)
      (fun m _ => ?_) (fun refusal hr => by cases hr) rfl rfl rfl rfl
    show (setAt s.applied push.resource _ push.resource).head? = _
    rw [setAt_self]
    rfl

/-- A request arrives. -/
theorem Synced.deliver (fails : Option (Nat × String)) :
    Synced fleet (s.deliver fleet push fails) := by
  unfold SyncState.deliver
  cases fails with
  | some failure =>
    exact h.unapplied hpush _ (fun n hn => by cases hn) (fun refusal hr => by cases hr)
  | none =>
    rcases receiveSync_cases fleet.validate s.replica push.resource
        (h.ordered.positive push hpush) with ⟨replica, n, hrecv, happlies⟩ |
        ⟨refusal, hrecv, hwhy⟩ | ⟨status, error, hrecv⟩
    · rw [hrecv]
      exact h.applies hpush n happlies
    · rw [hrecv]
      refine h.unapplied hpush _ (fun n hn => by cases hn) (fun found hfound => ?_)
      cases hfound
      rcases hwhy with ⟨cached, hcached, hset, hnamed, hne⟩ | ⟨previous, hstale, hprevious, hlt⟩
      · have hours := (h.ordered.anchor cached hcached).resolve_left hset
        have htheirs := (h.ordered.named push hpush).resolve_left hnamed
        exact absurd (hours.trans htheirs.symm) hne
      · refine ⟨fun hlatest => ?_, previous, _, hstale⟩
        have hle := (h.ordered.latest push.resource push hlatest).2.2.1 previous hprevious
        omega
    · rw [hrecv]
      exact h.unapplied hpush _ (fun n hn => by cases hn) (fun refusal hr => by cases hr)

end

/-- A failure recorded later than the last success is unresolved. -/
theorem unresolved_of_failure {now : Int} {status : Option FleetSyncStatus}
    (hfree : ∀ row, status = some row → row.sticky_error_code = none)
    (hseen : ∀ row success, status = some row → row.last_success_at = some success →
      success < now) : (recordFleetSyncFailure now status).unresolved = true := by
  cases status with
  | none => rfl
  | some row =>
    have hsticky := hfree row rfl
    unfold recordFleetSyncFailure unresolved
    rw [hsticky]
    cases hsuccess : row.last_success_at with
    | none => rfl
    | some success =>
      have hlt := hseen row success rfl hsuccess
      simp [hlt]

theorem recordAnswer_free {now : Int} {status : Option FleetSyncStatus} {row : FleetSyncStatus}
    (hanchored : ∀ expected got, answer ≠ some (.refused (.controlIdentityMismatch expected got)))
    (hfree : ∀ row, status = some row → row.sticky_error_code = none)
    (hrow : recordAnswer now answer status = some row) : row.sticky_error_code = none := by
  have hfailure : (recordFleetSyncFailure now status).sticky_error_code = none := by
    cases status with
    | none => rfl
    | some row => exact hfree row rfl
  cases answer with
  | none =>
    cases hrow
    exact hfailure
  | some answer =>
    cases answer with
    | success n =>
      cases hrow
      cases status with
      | none => rfl
      | some row => rfl
    | failed code error =>
      cases hrow
      exact hfailure
    | refused refusal =>
      cases refusal with
      | staleSyncPush previous incoming => exact hfree row hrow
      | controlIdentityMismatch expected got => exact absurd rfl (hanchored expected got)

section

variable {push : Push Row} {found : Option SyncAnswer} (h : Synced fleet s)
  (hrunning : s.process.running = some (push, found))
include h hrunning

/-- The process records what became of a push.  That of the latest is on record. -/
theorem Synced.settle {now : Int} (hanchored : ∀ expected got,
      answer ≠ some (.refused (.controlIdentityMismatch expected got)))
    (hrecord : s.latest push.resource = some push →
      s.Held push ∨ (recordAnswer now answer (s.control.status push.resource)).any
        unresolved = true) : Synced fleet (s.settle push now answer) := by
  have hmem : push ∈ s.process.running.map Prod.fst := by
    rw [hrunning]
    rfl
  have hpend : s.Pending push := .inr (.inl hmem)
  have hsett : ∀ r, (s.settle push now answer).settled r = true → s.settled r = true ∨
      (r = push.resource ∧ s.latest push.resource = some push) := by
    intro r hr
    have hr' : setAt s.settled push.resource (s.settled push.resource ||
        (s.latest push.resource).any fun latest => latest.id = push.id) r = true := hr
    by_cases hres : r = push.resource
    · rw [hres, setAt_self, Bool.or_eq_true] at hr'
      rcases hr' with hwas | hlatest
      · rw [hres]
        exact .inl hwas
      · refine .inr ⟨hres, ?_⟩
        cases hfound : s.latest push.resource with
        | none =>
          rw [hfound] at hlatest
          cases hlatest
        | some latest =>
          rw [hfound] at hlatest
          have hid : latest.id = push.id := of_decide_eq_true hlatest
          rcases (h.ordered.latest _ _ hfound).2.2.2 push hpend rfl with hsame | ⟨hne, _⟩
          · rw [hsame]
          · exact absurd hid.symm hne
    · rw [setAt_ne hres] at hr'
      exact .inl hr'
  refine ⟨h.chained.frame (fun _ hp => by cases hp) rfl rfl rfl, ?_, ?_⟩
  · refine h.ordered.frame (fun q hq => ?_) rfl rfl rfl rfl fun _ => .refl
    rcases hq with hrequest | hself | hrest
    · exact .inl hrequest
    · exact absurd hself (by simp [SyncState.settle])
    · exact .inr (.inr hrest)
  · constructor
    case free =>
      intro r row hrow
      have hrow' : setAt s.control.status push.resource
          (recordAnswer now answer (s.control.status push.resource)) r = some row := hrow
      by_cases hres : r = push.resource
      · rw [hres, setAt_self] at hrow'
        exact recordAnswer_free hanchored (h.recorded.free push.resource) hrow'
      · rw [setAt_ne hres] at hrow'
        exact h.recorded.free r row hrow'
    case succeeded =>
      intro p n hanswer
      cases hanswer
    case accepted =>
      intro p refusal hanswer
      cases hanswer
    case quiet =>
      intro r hr
      refine ⟨fun q hq hqr => ?_, fun q hq => absurd hq (by simp [SyncState.settle])⟩
      rcases hsett r hr with hwas | ⟨hres, hlatest⟩
      · exact (h.recorded.quiet r hwas).1 q hq hqr
      · obtain ⟨p, hp, hfound, _⟩ := h.chained.upto q hq
        rw [hqr, hres, hlatest] at hfound
        cases hfound
        have hlt := h.chained.behind push hmem push hp
        exact absurd hlt (Nat.lt_irrefl _)
    case settled =>
      intro r p hp hr
      show s.Held p ∨ (setAt s.control.status push.resource
        (recordAnswer now answer (s.control.status push.resource)) r).any
          unresolved = true
      rcases hsett r hr with hwas | ⟨hres, hlatest⟩
      · have hne : r ≠ push.resource :=
          fun heq => (h.recorded.quiet r hwas).2 push hmem heq.symm
        rw [setAt_ne hne]
        exact h.recorded.settled r p hp hwas
      · have hp' : s.latest r = some p := hp
        rw [hres, hlatest] at hp'
        cases hp'
        rw [hres, setAt_self]
        exact hrecord hlatest

/-- A push that failed, recorded in time. -/
theorem Synced.failed {now : Int}
    (hanswer : ∀ status, recordAnswer now answer status = some (recordFleetSyncFailure now status))
    (hanchored : ∀ expected got, answer ≠ some (.refused (.controlIdentityMismatch expected got)))
    (hseen : s.FailureSeen push now) : Synced fleet (s.settle push now answer) := by
  refine h.settle hrunning hanchored fun hlatest => ?_
  by_cases hheld : s.Held push
  · exact .inl hheld
  · rw [hanswer]
    exact .inr (unresolved_of_failure (h.recorded.free push.resource)
      (hseen push hlatest rfl hheld))

end

/-- The control restarts: its process forgets its last stamp and the pushes it chained. -/
theorem Synced.restart (h : Synced fleet s) : Synced fleet { s with process := .fresh } := by
  have hrunning : ∀ q : Push Row, q ∉ (Process.fresh : Process Row).running.map Prod.fst := by
    simp [Process.fresh]
  have hchained : ∀ q : Push Row, q ∉ (Process.fresh : Process Row).chained :=
    fun q => not_mem_nil
  refine ⟨?_, ?_, ?_⟩
  · constructor
    case counter => exact Int.le_refl _
    case stamped =>
      intro q hq
      exact absurd hq (not_or.mpr ⟨hrunning q, hchained q⟩)
    case numbered => exact List.Pairwise.nil
    case behind => exact fun p hp => absurd hp (hrunning p)
    case upto => exact fun q hq => absurd hq (hchained q)
  · refine h.ordered.frame (fun q hq => ?_) rfl rfl rfl rfl fun _ => .refl
    rcases hq with hrequest | hq
    · exact .inl hrequest
    · exact absurd hq (not_or.mpr ⟨hrunning q, hchained q⟩)
  · constructor
    case free => exact h.recorded.free
    case succeeded =>
      intro p n hanswer
      cases hanswer
    case accepted =>
      intro p refusal hanswer
      cases hanswer
    case quiet =>
      exact fun r _ => ⟨fun q hq => absurd hq (hchained q), fun q hq => absurd hq (hrunning q)⟩
    case settled => exact h.recorded.settled

/-- What every timely step keeps. -/
theorem Synced.step (h : Synced fleet s) {event : SyncEvent Row} (htimely : s.Timely event) :
    Synced fleet (s.step fleet event) := by
  cases event with
  | write r rows =>
    refine ⟨h.chained.frame (fun _ hp => hp) rfl rfl rfl, ?_, ?_⟩
    · refine h.ordered.frame (fun q hq => hq) rfl rfl rfl rfl fun r' => ?_
      show s.writes r' ≤ setAt s.writes r (s.writes r + 1) r'
      by_cases hr : r' = r
      · rw [hr, setAt_self]
        exact Nat.le_succ _
      · exact Nat.le_of_eq (setAt_ne hr).symm
    · exact ⟨h.recorded.free, h.recorded.succeeded, h.recorded.accepted, h.recorded.quiet,
        h.recorded.settled⟩
  | identify =>
    exact ⟨h.chained.frame (fun _ hp => hp) rfl rfl rfl,
      h.ordered.frame (fun q hq => hq) rfl rfl rfl rfl fun _ => .refl,
      ⟨h.recorded.free, h.recorded.succeeded, h.recorded.accepted, h.recorded.quiet,
        h.recorded.settled⟩⟩
  | pushResource r now => exact h.push htimely
  | retryOne r evaluatedAt now =>
    unfold SyncState.step
    dsimp only
    by_cases hretries : s.retries r evaluatedAt = true
    · rw [if_pos hretries]
      exact h.push fun _ => htimely hretries
    · rw [if_neg hretries]
      exact h
  | start => exact h.start
  | deliver id fails =>
    unfold SyncState.step
    dsimp only
    cases hfound : s.requests.find? fun r => r.id = id with
    | none => exact h
    | some push => exact h.deliver (.inl (mem_of_find?_eq_some hfound)) fails
  | lose id =>
    refine ⟨h.chained.frame (fun _ hp => hp) rfl rfl rfl, ?_, ?_⟩
    · exact h.ordered.frame (fun q hq => hq.imp_left fun hmem => (mem_filter.mp hmem).1)
        rfl rfl rfl rfl fun _ => .refl
    · exact ⟨h.recorded.free, h.recorded.succeeded, h.recorded.accepted, h.recorded.quiet,
        h.recorded.settled⟩
  | answered now =>
    unfold SyncState.step
    cases hrunning : s.process.running with
    | none => exact h
    | some running =>
      obtain ⟨push, found⟩ := running
      cases found with
      | none => exact h
      | some answer =>
        cases answer with
        | success n =>
          exact h.settle hrunning (fun _ _ hanswer => by cases hanswer)
            fun hlatest => .inl (h.recorded.succeeded push n hrunning hlatest)
        | refused refusal =>
          obtain ⟨hnot, previous, incoming, rfl⟩ :=
            h.recorded.accepted push refusal hrunning
          exact h.settle hrunning (fun _ _ hanswer => by cases hanswer)
            fun hlatest => absurd hlatest hnot
        | failed status error =>
          exact h.failed hrunning (fun _ => rfl) (fun _ _ hanswer => by cases hanswer)
            (htimely push status error hrunning)
  | timeout now =>
    unfold SyncState.step
    cases hrunning : s.process.running with
    | none => exact h
    | some running =>
      obtain ⟨push, found⟩ := running
      exact h.failed hrunning (fun _ => rfl) (fun _ _ hanswer => by cases hanswer)
        (htimely push found hrunning)
  | restart => exact h.restart

theorem Unsynced.synced (h : Unsynced s) : Synced fleet s := by
  have hpend : ∀ q, ¬ s.Pending q := by
    intro q hq
    unfold Pending at hq
    rw [h.requests, h.process] at hq
    simp [Process.fresh] at hq
  have happlied : ∀ r, (s.applied r).head? = none := by
    intro r
    rw [h.applied r]
    rfl
  refine ⟨?_, ?_, ?_⟩
  · constructor
    case counter =>
      rw [h.process]
      exact Int.le_refl _
    case stamped =>
      intro q hq
      exact absurd (.inr hq) (hpend q)
    case numbered =>
      rw [h.process]
      exact List.Pairwise.nil
    case behind =>
      intro p hp
      exact absurd (.inr (.inl hp)) (hpend p)
    case upto =>
      intro q hq
      exact absurd (.inr (.inr hq)) (hpend q)
  · constructor
    case positive => exact fun q hq => absurd hq (hpend q)
    case known => exact fun q hq => absurd hq (hpend q)
    case unique => exact fun p q hp => absurd hp (hpend p)
    case named => exact fun q hq => absurd hq (hpend q)
    case anchor =>
      intro cached hcached
      have hfilter := h.anchor
      rw [hcached, Option.filter_eq_none_iff] at hfilter
      have hempty := hfilter cached rfl
      exact .inl (by simpa using hempty)
    case follows => exact fun p q hp => absurd hp (hpend p)
    case latest =>
      intro r p hp
      rw [h.latest r] at hp
      cases hp
    case unapplied => exact fun r _ => h.receivedPushedAt r
    case applied =>
      intro r p hp
      rw [happlied r] at hp
      cases hp
    case regress =>
      intro r
      rw [h.applied r]
      exact List.Pairwise.nil
  · constructor
    case free =>
      intro r row hrow
      rw [h.status r] at hrow
      cases hrow
    case succeeded =>
      intro p n hanswer
      rw [h.process] at hanswer
      cases hanswer
    case accepted =>
      intro p refusal hanswer
      rw [h.process] at hanswer
      cases hanswer
    case quiet =>
      intro r hr
      rw [h.settled r] at hr
      cases hr
    case settled =>
      intro r p hp
      rw [h.latest r] at hp
      cases hp

/-- Whatever the requests, the restarts and the clock do, where every stamp overtakes what the
remote has applied and may still receive, and every failure that matters is recorded later
than the last success, the rows applied never go back and no push is lost silently. -/
theorem never_regresses_nor_loses (hs : Unsynced s) {events : List (SyncEvent Row)}
    (htimely : Runs.Along (step fleet) Timely s events) :
    NeverRegresses (run (step fleet) s events) ∧ NeverLoses (run (step fleet) s events) := by
  have h : Synced fleet (run (step fleet) s events) :=
    run_along (P := Synced fleet) (fun _ _ h htimely => h.step htimely) hs.synced htimely
  refine ⟨h.ordered.regress, fun r p hlatest hsett => ?_⟩
  have hres := (h.ordered.latest r p hlatest).1
  refine (h.recorded.settled r p hlatest hsett).imp_left fun hheld => ?_
  rw [← hres]
  exact (h.ordered.applied p.resource p hheld).2.1

/-- A failure on record is sent again by every pass of the retry service within a day of it. -/
theorem NeverLoses.retried (h : NeverLoses s) (hrole : s.control.fleetRole = .control)
    {r : FleetResource} {push : Push Row} (hlatest : s.latest r = some push)
    (hsett : s.settled r = true) : s.replica.replicated r = push.payload.rows ∨
      ∃ failure, (s.control.status r).bind last_failure_at = some failure ∧
        ∀ evaluatedAt, evaluatedAt < failure + retryMaxAgeMs → s.retries r evaluatedAt = true := by
  refine (h r push hlatest hsett).imp_right fun hrecorded => ?_
  obtain ⟨row, hrow, hunresolved⟩ := (Option.any_eq_true _ _).mp hrecorded
  cases hfailure : row.last_failure_at with
  | none =>
    unfold unresolved at hunresolved
    rw [hfailure] at hunresolved
    cases hunresolved
  | some failure =>
    refine ⟨failure, by rw [hrow]; exact hfailure, fun evaluatedAt hage => ?_⟩
    have hyoung : failure > evaluatedAt - retryMaxAgeMs := by omega
    simp [retries, getFailedSyncTarget, hrole, hrow, hunresolved, hfailure, hyoung]

def oneFleet : Fleet Nat where
  apiUrl := "https://replica"
  fingerprint := "control"
  validate := fun _ _ => none

/-- A control with one policy. -/
def onePolicy : SyncState Nat where
  control :=
    { fleetRole := .control
      instanceId := true
      rows := fun r => if r = .scan_policies then [1] else []
      status := fun _ => none }
  process := .fresh
  requests := []
  replica := ⟨.control, none, none, fun _ => none, fun _ => []⟩
  writes := fun _ => 0
  nextId := 0
  latest := fun _ => none
  settled := fun _ => false
  applied := fun _ => []

theorem unsynced_onePolicy : Unsynced onePolicy :=
  ⟨rfl, fun _ => rfl, rfl, rfl, fun _ => rfl, fun _ => rfl, fun _ => rfl, fun _ => rfl⟩

/-- A push that is answered. -/
def pushed (id : Nat) (stampedAt answeredAt : Int) : List (SyncEvent Nat) :=
  [.pushResource .scan_policies stampedAt, .start, .deliver id none, .answered answeredAt]

/-- A change after a restart, stamped below what the remote has applied. -/
def restartedBelow : List (SyncEvent Nat) :=
  pushed 0 100 101 ++ [.write .scan_policies [1, 2], .restart] ++ pushed 1 50 51

/-- A change after a restart, overtaken by a request the control gave up on. -/
def overtaken : List (SyncEvent Nat) :=
  [.pushResource .scan_policies 100, .start, .timeout 115, .restart,
    .write .scan_policies [1, 2]] ++ pushed 1 50 51 ++ [.deliver 0 none]

/-- A change whose failure is recorded before the last success. -/
def failedBefore : List (SyncEvent Nat) :=
  pushed 0 100 101 ++ [.write .scan_policies [1, 2], .pushResource .scan_policies 60, .start,
    .lose 1, .timeout 75]

/-- A change that is pushed after a restart, and one whose push is lost. -/
def retried : List (SyncEvent Nat) :=
  pushed 0 100 101 ++ [.write .scan_policies [1, 2], .restart] ++ pushed 1 150 151 ++
    [.write .scan_policies [1, 2, 3], .pushResource .scan_policies 200, .start, .lose 2,
      .timeout 215]

theorem retried_timely : Runs.Along (step oneFleet) Timely onePolicy retried := by
  refine ⟨fun _ => ⟨fun _ hprevious => ?_, fun _ hmem => absurd hmem not_mem_nil⟩, trivial, trivial,
    fun _ _ _ hrunning => ?_, trivial, trivial,
    fun _ => ⟨fun _ hprevious => ?_, fun _ hmem => absurd hmem not_mem_nil⟩, trivial, trivial,
    fun _ _ _ hrunning => ?_, trivial,
    fun _ => ⟨fun _ hprevious => ?_, fun _ hmem => absurd hmem not_mem_nil⟩, trivial, trivial,
    fun push answer hrunning latest _ _ _ row success hrow hsuccess => ?_, trivial⟩
  · cases hprevious
  · cases hrunning
  · cases hprevious
    decide
  · cases hrunning
  · cases hprevious
    decide
  · cases hrunning
    cases hrow
    cases hsuccess
    decide

/-- The lost push is on record, and the retry service sends it again for a day. -/
theorem pushed_synced : NeverRegresses (run (step oneFleet) onePolicy retried) ∧
      NeverLoses (run (step oneFleet) onePolicy retried) ∧
      (run (step oneFleet) onePolicy retried).retries .scan_policies 86400214 = true :=
  have hsynced := never_regresses_nor_loses unsynced_onePolicy retried_timely
  ⟨hsynced.1, hsynced.2, by decide⟩

/-- After a restart with a clock that stepped back a change is refused as stale and nothing is
recorded, or an older request undoes it; and a failure recorded with such a clock is not one. -/
theorem clockBack_breaks : ¬ NeverLoses (run (step oneFleet) onePolicy restartedBelow) ∧
      ¬ NeverRegresses (run (step oneFleet) onePolicy overtaken) ∧
      ¬ NeverLoses (run (step oneFleet) onePolicy failedBefore) := by
  refine ⟨fun h => ?_, fun h => ?_, fun h => ?_⟩
  · rcases h .scan_policies _ rfl rfl with hheld | hrecorded
    · exact absurd hheld (by decide)
    · exact absurd hrecorded (by decide)
  · exact absurd ((pairwise_cons.mp (h .scan_policies)).1 _ mem_cons_self) (by decide)
  · rcases h .scan_policies _ rfl rfl with hheld | hrecorded
    · exact absurd hheld (by decide)
    · exact absurd hrecorded (by decide)

end SyncState

end Sencho.FleetSync

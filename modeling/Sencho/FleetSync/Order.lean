import Sencho.FleetSync.Pushes

/-!
# The order of the pushes

Where every push is stamped past what the remote has applied and past every request that
may still arrive, stamps follow the control's states: of two pushes of a resource that may
still arrive, the one with the later stamp carries the later state, and so does one whose
stamp the remote accepts.
-/

namespace Sencho.FleetSync

open Verified

namespace SyncState

variable {Row : Type} {fleet : Fleet Row} {s s' : SyncState Row}
variable {r : FleetResource} {replica : Replica Row} {identity : String} {refusal : SyncRefusal}
variable {replica' : Replica Row}

/-- The pushes whose request may still arrive. -/
def Pending (s : SyncState Row) (push : Push Row) : Prop :=
  push ∈ s.requests ∨ push ∈ s.process.running.map Prod.fst ∨ push ∈ s.process.chained

/-- What is stamped now is past what the remote has applied of a resource, and past every
request of it that may still arrive. -/
def ClockAhead (s : SyncState Row) (resource : FleetResource) (now : Int) : Prop :=
  (∀ previous, s.replica.receivedPushedAt resource = some previous →
    previous ≤ max now (s.process.lastPushedAt + 1)) ∧
  ∀ push ∈ s.requests, push.resource = resource →
    push.payload.pushedAt < max now (s.process.lastPushedAt + 1)

theorem nextPushedAt_eq (now lastPushedAt : Int) :
    nextPushedAt now lastPushedAt = max now (lastPushedAt + 1) := by
  unfold nextPushedAt
  split <;> omega

/-- The pushes of the process: stamped up to its counter, and in the order of their numbers
up to the latest of each resource. -/
structure Chained (s : SyncState Row) : Prop where
  counter : 0 ≤ s.process.lastPushedAt
  stamped : ∀ q, q ∈ s.process.running.map Prod.fst ∨ q ∈ s.process.chained →
    q.payload.pushedAt ≤ s.process.lastPushedAt
  numbered : s.process.chained.Pairwise fun p q => p.id < q.id
  behind : ∀ p ∈ s.process.running.map Prod.fst, ∀ q ∈ s.process.chained, p.id < q.id
  upto : ∀ q ∈ s.process.chained, ∃ p ∈ s.process.chained,
    s.latest q.resource = some p ∧ q.id ≤ p.id

/-- Stamps follow states. -/
structure Ordered (fleet : Fleet Row) (s : SyncState Row) : Prop where
  positive : ∀ q, s.Pending q → 0 < q.payload.pushedAt
  known : ∀ q, s.Pending q → q.id < s.nextId ∧ q.state ≤ s.writes q.resource
  unique : ∀ p q, s.Pending p → s.Pending q → p.id = q.id → p = q
  named : ∀ q, s.Pending q →
    q.payload.controlIdentity = "" ∨ q.payload.controlIdentity = fleet.fingerprint
  anchor : ∀ cached, s.replica.fleetControlIdentity = some cached →
    cached = "" ∨ cached = fleet.fingerprint
  follows : ∀ p q, s.Pending p → s.Pending q → p.resource = q.resource →
    p.payload.pushedAt ≤ q.payload.pushedAt → p.state ≤ q.state
  latest : ∀ r p, s.latest r = some p → p.resource = r ∧ p.id < s.nextId ∧
    (∀ previous, s.replica.receivedPushedAt r = some previous → previous ≤ p.payload.pushedAt) ∧
    ∀ q, s.Pending q → q.resource = r →
      q = p ∨ (q.id ≠ p.id ∧ q.payload.pushedAt < p.payload.pushedAt)
  unapplied : ∀ r, (s.applied r).head? = none → s.replica.receivedPushedAt r = none
  applied : ∀ r p, (s.applied r).head? = some p →
    s.replica.receivedPushedAt r = some p.payload.pushedAt ∧
    s.replica.replicated r = p.payload.rows ∧ p.state ≤ s.writes r ∧
    ∀ q, s.Pending q → q.resource = r → p.payload.pushedAt ≤ q.payload.pushedAt →
      p.state ≤ q.state
  regress : s.NeverRegresses

/-- A step that stamps nothing and applies nothing. -/
theorem Ordered.frame (h : Ordered fleet s) (hpend : ∀ q, s'.Pending q → s.Pending q)
    (hreplica : s'.replica = s.replica) (happlied : s'.applied = s.applied)
    (hlatest : s'.latest = s.latest) (hnext : s'.nextId = s.nextId)
    (hwr : ∀ r, s.writes r ≤ s'.writes r) : Ordered fleet s' where
  positive := fun q hq => h.positive q (hpend q hq)
  known := fun q hq => by
    have hknown := h.known q (hpend q hq)
    rw [hnext]
    exact ⟨hknown.1, Nat.le_trans hknown.2 (hwr _)⟩
  unique := fun p q hp hq => h.unique p q (hpend p hp) (hpend q hq)
  named := fun q hq => h.named q (hpend q hq)
  anchor := by
    rw [hreplica]
    exact h.anchor
  follows := fun p q hp hq => h.follows p q (hpend p hp) (hpend q hq)
  latest := fun r p hp => by
    rw [hlatest] at hp
    obtain ⟨hr, hid, hprevious, hothers⟩ := h.latest r p hp
    rw [hreplica, hnext]
    exact ⟨hr, hid, hprevious, fun q hq => hothers q (hpend q hq)⟩
  unapplied := by
    rw [happlied, hreplica]
    exact h.unapplied
  applied := fun r p hp => by
    rw [happlied] at hp
    obtain ⟨hmark, hrows, hstate, hothers⟩ := h.applied r p hp
    rw [hreplica]
    exact ⟨hmark, hrows, Nat.le_trans hstate (hwr r), fun q hq => hothers q (hpend q hq)⟩
  regress := by
    unfold NeverRegresses
    rw [happlied]
    exact h.regress

/-- A new push is stamped past everything of its resource that may still arrive. -/
theorem newPush_ahead (h : Chained s) {now : Int} (hahead : s.ClockAhead r now) {q : Push Row}
    (hq : s.Pending q) (hr : q.resource = r) :
    q.payload.pushedAt < (s.newPush fleet r now).payload.pushedAt := by
  show q.payload.pushedAt < nextPushedAt now s.process.lastPushedAt
  rw [nextPushedAt_eq]
  rcases hq with hrequest | hown
  · exact hahead.2 q hrequest hr
  · have hle := h.stamped q hown
    omega

theorem pending_enqueue {push q : Push Row}
    (hq : (s.enqueuePushToNode push).Pending q) : s.Pending q ∨ q = push := by
  rcases hq with hrequest | hrunning | hchained
  · exact .inl (.inl hrequest)
  · exact .inl (.inr (.inl hrunning))
  · rcases List.mem_append.mp hchained with hold | hnew
    · exact .inl (.inr (.inr hold))
    · exact .inr (List.mem_singleton.mp hnew)

/-- A push that the clock lets overtake the others. -/
theorem Ordered.push (h : Ordered fleet s) (hchained : Chained s) {now : Int}
    (hahead : s.ClockAhead r now) : Ordered fleet (s.enqueuePushToNode (s.newPush fleet r now)) := by
  have hstamp : (s.newPush fleet r now).payload.pushedAt =
      max now (s.process.lastPushedAt + 1) := nextPushedAt_eq _ _
  have hpast : ∀ q, s.Pending q → q.resource = r →
      q.payload.pushedAt < (s.newPush fleet r now).payload.pushedAt :=
    fun q hq hr => newPush_ahead hchained hahead hq hr
  have hcounter := hchained.counter
  constructor
  case positive =>
    intro q hq
    rcases pending_enqueue hq with hold | rfl
    · exact h.positive q hold
    · omega
  case known =>
    intro q hq
    show q.id < s.nextId + 1 ∧ q.state ≤ s.writes q.resource
    rcases pending_enqueue hq with hold | rfl
    · have hknown := h.known q hold
      exact ⟨by omega, hknown.2⟩
    · exact ⟨Nat.lt_succ_self _, .refl⟩
  case unique =>
    intro p q hp hq hid
    rcases pending_enqueue hp with hp' | rfl
    · rcases pending_enqueue hq with hq' | rfl
      · exact h.unique p q hp' hq' hid
      · have hknown := (h.known p hp').1
        have hnew : p.id = s.nextId := hid
        omega
    · rcases pending_enqueue hq with hq' | rfl
      · have hknown := (h.known q hq').1
        have hnew : s.nextId = q.id := hid
        omega
      · rfl
  case named =>
    intro q hq
    rcases pending_enqueue hq with hold | rfl
    · exact h.named q hold
    · show s.controlIdentity fleet = "" ∨ s.controlIdentity fleet = fleet.fingerprint
      unfold controlIdentity
      cases s.control.instanceId with
      | true => exact .inr rfl
      | false => exact .inl rfl
  case anchor => exact h.anchor
  case follows =>
    intro p q hp hq hr hle
    rcases pending_enqueue hp with hp' | rfl
    · rcases pending_enqueue hq with hq' | rfl
      · exact h.follows p q hp' hq' hr hle
      · have hknown := (h.known p hp').2
        rw [hr] at hknown
        exact hknown
    · rcases pending_enqueue hq with hq' | rfl
      · have hlt := hpast q hq' hr.symm
        omega
      · exact .refl
  case latest =>
    intro r' p hp
    by_cases hr' : r' = r
    · have hself : setAt s.latest r (some (s.newPush fleet r now)) r' = some p := hp
      rw [hr', setAt_self] at hself
      cases hself
      refine ⟨hr'.symm, Nat.lt_succ_self _, fun previous hprevious => ?_, fun q hq hqr => ?_⟩
      · rw [hstamp]
        rw [hr'] at hprevious
        exact hahead.1 previous hprevious
      · rcases pending_enqueue hq with hold | hnew
        · refine .inr ⟨?_, hpast q hold (hqr.trans hr')⟩
          have hknown := (h.known q hold).1
          exact Nat.ne_of_lt hknown
        · exact .inl hnew
    · have hother : setAt s.latest r (some (s.newPush fleet r now)) r' = some p := hp
      rw [setAt_ne hr'] at hother
      obtain ⟨hpr, hid, hprevious, hothers⟩ := h.latest r' p hother
      refine ⟨hpr, Nat.lt_succ_of_lt hid, hprevious, fun q hq hqr => ?_⟩
      rcases pending_enqueue hq with hold | rfl
      · exact hothers q hold hqr
      · exact absurd hqr.symm hr'
  case unapplied => exact h.unapplied
  case applied =>
    intro r' p hp
    obtain ⟨hmark, hrows, hstate, hothers⟩ := h.applied r' p hp
    refine ⟨hmark, hrows, hstate, fun q hq hqr hle => ?_⟩
    rcases pending_enqueue hq with hold | rfl
    · exact hothers q hold hqr hle
    · have hqr' : r = r' := hqr
      show p.state ≤ s.writes r
      rw [hqr']
      exact hstate
  case regress => exact h.regress

theorem anchor_ok (h : replica.anchor identity = .ok replica') :
    replica'.receivedPushedAt = replica.receivedPushedAt ∧
      replica'.replicated = replica.replicated ∧
      (replica'.fleetControlIdentity = replica.fleetControlIdentity ∨
        replica'.fleetControlIdentity = some identity) := by
  unfold Replica.anchor at h
  by_cases hempty : identity = ""
  · rw [if_pos hempty] at h
    cases h
    exact ⟨rfl, rfl, .inl rfl⟩
  · rw [if_neg hempty] at h
    cases hcached : replica.fleetControlIdentity.filter fun cached => cached ≠ "" with
    | none =>
      rw [hcached] at h
      cases h
      exact ⟨rfl, rfl, .inr rfl⟩
    | some cached =>
      rw [hcached] at h
      dsimp only at h
      by_cases hsame : cached = identity
      · rw [if_pos hsame] at h
        cases h
        exact ⟨rfl, rfl, .inl rfl⟩
      · rw [if_neg hsame] at h
        cases h

/-- A remote that refuses a control belongs to another. -/
theorem anchor_error (h : replica.anchor identity = .error refusal) :
    ∃ cached, replica.fleetControlIdentity = some cached ∧ cached ≠ "" ∧ identity ≠ "" ∧
      cached ≠ identity := by
  unfold Replica.anchor at h
  by_cases hempty : identity = ""
  · rw [if_pos hempty] at h
    cases h
  · rw [if_neg hempty] at h
    cases hcached : replica.fleetControlIdentity.filter fun cached => cached ≠ "" with
    | none =>
      rw [hcached] at h
      cases h
    | some cached =>
      rw [hcached] at h
      dsimp only at h
      have hfilter := Option.filter_eq_some_iff.mp hcached
      by_cases hsame : cached = identity
      · rw [if_pos hsame] at h
        cases h
      · exact ⟨cached, hfilter.1, of_decide_eq_true hfilter.2, hempty, hsame⟩

/-- What a stamp that is applied finds and leaves. -/
theorem watermark_ok {pushedAt : Int} (h : replica.watermark r (some pushedAt) = .ok replica') :
    (∀ previous, replica.receivedPushedAt r = some previous → previous ≤ pushedAt) ∧
      replica' = { replica with
        receivedPushedAt := setAt replica.receivedPushedAt r (some pushedAt) } := by
  unfold Replica.watermark at h
  cases hprevious : replica.receivedPushedAt r with
  | none =>
    rw [hprevious] at h
    cases h
    exact ⟨fun _ hfound => absurd hfound (by simp), rfl⟩
  | some previous =>
    rw [hprevious] at h
    dsimp only at h
    by_cases hstale : pushedAt < previous
    · rw [if_pos hstale] at h
      cases h
    · rw [if_neg hstale] at h
      cases h
      refine ⟨fun found hfound => ?_, rfl⟩
      cases hfound
      omega

/-- What a stamp that is refused finds. -/
theorem watermark_error {pushedAt : Option Int}
    (h : replica.watermark r pushedAt = .error refusal) :
    ∃ incoming previous, pushedAt = some incoming ∧ refusal = .staleSyncPush previous incoming ∧
      replica.receivedPushedAt r = some previous ∧ incoming < previous := by
  unfold Replica.watermark at h
  cases pushedAt with
  | none => cases h
  | some incoming =>
    cases hprevious : replica.receivedPushedAt r with
    | none =>
      rw [hprevious] at h
      cases h
    | some previous =>
      rw [hprevious] at h
      dsimp only at h
      by_cases hstale : incoming < previous
      · rw [if_pos hstale] at h
        cases h
        exact ⟨incoming, previous, rfl, rfl, rfl, hstale⟩
      · rw [if_neg hstale] at h
        cases h

/-- What a push does to the remote that applies it. -/
structure Applies (replica replica' : Replica Row) (r : FleetResource)
    (payload : FleetSyncPayload Row) : Prop where
  past : ∀ previous, replica.receivedPushedAt r = some previous → previous ≤ payload.pushedAt
  mark : replica'.receivedPushedAt = setAt replica.receivedPushedAt r (some payload.pushedAt)
  rows : replica'.replicated = setAt replica.replicated r payload.rows
  anchor : replica'.fleetControlIdentity = replica.fleetControlIdentity ∨
    replica'.fleetControlIdentity = some payload.controlIdentity

theorem applyIncomingSync_ok {payload : FleetSyncPayload Row}
    (h : applyIncomingSync replica r payload.rows payload.targetIdentity (some payload.pushedAt)
      payload.controlIdentity = .ok replica') : Applies replica replica' r payload := by
  unfold applyIncomingSync at h
  cases hanchor : replica.anchor payload.controlIdentity with
  | error refusal =>
    rw [hanchor] at h
    cases h
  | ok anchored =>
    rw [hanchor] at h
    obtain ⟨hmark, hrows, hidentity⟩ := anchor_ok hanchor
    cases hwatermark : anchored.watermark r (some payload.pushedAt) with
    | error refusal =>
      simp only [bind, Except.bind, hwatermark] at h
      cases h
    | ok moved =>
      simp only [bind, Except.bind, hwatermark] at h
      cases h
      obtain ⟨hpast, rfl⟩ := watermark_ok hwatermark
      rw [hmark] at hpast
      refine ⟨hpast, ?_, ?_, hidentity⟩
      · show setAt anchored.receivedPushedAt r _ = _
        rw [hmark]
      · show setAt anchored.replicated r _ = _
        rw [hrows]

/-- Why a push is not applied: the remote belongs to another, or has a later stamp. -/
theorem applyIncomingSync_error {rows : List Row} {target : String} {pushedAt : Option Int}
    (h : applyIncomingSync replica r rows target pushedAt identity = .error refusal) :
    (∃ cached, replica.fleetControlIdentity = some cached ∧ cached ≠ "" ∧ identity ≠ "" ∧
      cached ≠ identity) ∨
    ∃ incoming previous, pushedAt = some incoming ∧ refusal = .staleSyncPush previous incoming ∧
      replica.receivedPushedAt r = some previous ∧ incoming < previous := by
  unfold applyIncomingSync at h
  cases hanchor : replica.anchor identity with
  | error refusal' => exact .inl (anchor_error hanchor)
  | ok anchored =>
    rw [hanchor] at h
    obtain ⟨hmark, _, _⟩ := anchor_ok hanchor
    cases hwatermark : anchored.watermark r pushedAt with
    | error refusal' =>
      simp only [bind, Except.bind, hwatermark] at h
      cases h
      obtain ⟨incoming, previous, hin, hrefusal, hprevious, hlt⟩ := watermark_error hwatermark
      rw [hmark] at hprevious
      exact .inr ⟨incoming, previous, hin, hrefusal, hprevious, hlt⟩
    | ok moved =>
      simp only [bind, Except.bind, hwatermark] at h
      cases h

/-- A push with a positive stamp is applied, or leaves the remote as it was. -/
theorem receiveSync_cases (validate : FleetResource → Row → Option String)
    (replica : Replica Row) (r : FleetResource) {payload : FleetSyncPayload Row}
    (hpositive : 0 < payload.pushedAt) :
    (∃ replica' n, receiveSync validate replica r payload = (replica', .success n) ∧
      Applies replica replica' r payload) ∨
    (∃ refusal, receiveSync validate replica r payload = (replica, .refused refusal) ∧
      ((∃ cached, replica.fleetControlIdentity = some cached ∧ cached ≠ "" ∧
        payload.controlIdentity ≠ "" ∧ cached ≠ payload.controlIdentity) ∨
      ∃ previous, refusal = .staleSyncPush previous payload.pushedAt ∧
        replica.receivedPushedAt r = some previous ∧ payload.pushedAt < previous)) ∨
    ∃ status error, receiveSync validate replica r payload = (replica, .failed status error) := by
  unfold receiveSync
  by_cases hsize : payload.rows.length > maxSyncRows
  · rw [if_pos hsize]
    exact .inr (.inr ⟨_, _, rfl⟩)
  · rw [if_neg hsize]
    cases firstInvalid (validate r) 0 payload.rows with
    | some invalid => exact .inr (.inr ⟨_, _, rfl⟩)
    | none =>
      rw [if_pos hpositive]
      cases happly : applyIncomingSync replica r payload.rows payload.targetIdentity
          (some payload.pushedAt) payload.controlIdentity with
      | ok replica' => exact .inl ⟨replica', _, rfl, applyIncomingSync_ok happly⟩
      | error refusal =>
        refine .inr (.inl ⟨refusal, rfl, ?_⟩)
        rcases applyIncomingSync_error happly with hanchor | hstale
        · exact .inl hanchor
        · obtain ⟨incoming, previous, hin, hrefusal, hprevious, hlt⟩ := hstale
          cases hin
          exact .inr ⟨previous, hrefusal, hprevious, hlt⟩

/-- A push applied in the order of the stamps. -/
theorem Ordered.arrive (h : Ordered fleet s) {push : Push Row} (hpush : s.Pending push)
    (hpend : ∀ q, s'.Pending q → s.Pending q)
    (hreplica : Applies s.replica s'.replica push.resource push.payload)
    (happlied : s'.applied = setAt s.applied push.resource (push :: s.applied push.resource))
    (hlatest : s'.latest = s.latest) (hnext : s'.nextId = s.nextId)
    (hwr : s'.writes = s.writes) : Ordered fleet s' where
  positive := fun q hq => h.positive q (hpend q hq)
  known := fun q hq => by
    rw [hnext, hwr]
    exact h.known q (hpend q hq)
  unique := fun p q hp hq => h.unique p q (hpend p hp) (hpend q hq)
  named := fun q hq => h.named q (hpend q hq)
  anchor := fun cached hcached => by
    rcases hreplica.anchor with hsame | hset
    · rw [hsame] at hcached
      exact h.anchor cached hcached
    · rw [hset] at hcached
      cases hcached
      exact h.named push hpush
  follows := fun p q hp hq => h.follows p q (hpend p hp) (hpend q hq)
  latest := fun r p hp => by
    rw [hlatest] at hp
    obtain ⟨hr, hid, hprevious, hothers⟩ := h.latest r p hp
    rw [hnext]
    refine ⟨hr, hid, fun previous hmark => ?_, fun q hq => hothers q (hpend q hq)⟩
    rw [hreplica.mark] at hmark
    by_cases hres : r = push.resource
    · rw [hres, setAt_self] at hmark
      cases hmark
      rcases hothers push hpush hres.symm with rfl | ⟨_, hlt⟩
      · exact Int.le_refl _
      · exact Int.le_of_lt hlt
    · rw [setAt_ne hres] at hmark
      exact hprevious previous hmark
  unapplied := fun r hnone => by
    rw [happlied] at hnone
    rw [hreplica.mark]
    by_cases hres : r = push.resource
    · rw [hres, setAt_self] at hnone
      cases hnone
    · rw [setAt_ne hres] at hnone ⊢
      exact h.unapplied r hnone
  applied := fun r p hp => by
    rw [happlied] at hp
    rw [hreplica.mark, hreplica.rows, hwr]
    by_cases hres : r = push.resource
    · rw [hres, setAt_self] at hp
      cases hp
      rw [hres, setAt_self, setAt_self]
      exact ⟨rfl, rfl, (h.known _ hpush).2, fun q hq hqr =>
        h.follows _ q hpush (hpend q hq) hqr.symm⟩
    · rw [setAt_ne hres] at hp
      rw [setAt_ne hres, setAt_ne hres]
      obtain ⟨hmark, hrows, hstate, hothers⟩ := h.applied r p hp
      exact ⟨hmark, hrows, hstate, fun q hq => hothers q (hpend q hq)⟩
  regress := by
    intro r
    rw [happlied]
    by_cases hres : r = push.resource
    · rw [hres, setAt_self]
      refine List.pairwise_cons.mpr ⟨?_, h.regress push.resource⟩
      have hlast : ∀ p, (s.applied push.resource).head? = some p → p.state ≤ push.state := by
        intro p hp
        obtain ⟨hmark, _, _, hothers⟩ := h.applied push.resource p hp
        exact hothers push hpush rfl (hreplica.past _ hmark)
      intro earlier hearlier
      have hall := h.regress push.resource
      cases hlist : s.applied push.resource with
      | nil =>
        rw [hlist] at hearlier
        cases hearlier
      | cons p rest =>
        rw [hlist] at hearlier hall hlast
        have hp := hlast p rfl
        rcases List.mem_cons.mp hearlier with rfl | hrest
        · exact hp
        · exact Nat.le_trans ((List.pairwise_cons.mp hall).1 earlier hrest) hp
    · rw [setAt_ne hres]
      exact h.regress r

end SyncState

end Sencho.FleetSync

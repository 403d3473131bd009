import Sencho.Verified.Runs
import Sencho.Verified.Table
import Mathlib.Data.List.Induction

/-!
# Stream ids of a tunnel

Each end of a tunnel numbers the streams it opens.  The primary starts at 1 and the agent at
`agentReverseIdBase`, and both start over after `0x7fffffff`.  An id is taken without a look at
the streams that are still there.  The model keeps the streams at both ends, the opens in flight
between them, and with each stream the number of streams its end had opened before it.
-/

namespace Sencho.Streams

open Verified List Runs

def maxStreamId : Nat := 0x7fffffff

def agentReverseIdBase : Nat := 0x40000001

def maxStreamsPerTunnel : Nat := 1024

structure StreamIdAllocator where
  start : Nat
  next : Nat

namespace StreamIdAllocator

def new (start : Nat) : StreamIdAllocator := ⟨start, start⟩

/-- The id is `next`.  After the last id the allocator starts over. -/
def allocate (a : StreamIdAllocator) : StreamIdAllocator :=
  { a with next := if maxStreamId ≤ a.next then a.start else a.next + 1 }

end StreamIdAllocator

inductive Opener where
  | primary
  | agent

/-- A stream, with the number of streams its end opened before it. -/
structure Stream where
  id : Nat
  opener : Opener
  ordinal : Nat

/-- A map from ids to streams. -/
abbrev StreamMap : Type := Table Stream Nat Stream.id

def StreamMap.remove (m : StreamMap) (id : Nat) : StreamMap := m.delete fun s => s.id = id

/-- What the primary opens. -/
inductive ForwardKind where
  | tcp
  | http
  | ws

/-- Both ends of a tunnel.  `opens` and `reverseOpens` are the opens in flight, and `upgrades` the
WebSocket clients of the agent that have not connected. -/
structure Tunnel where
  streamIds : StreamIdAllocator
  streams : StreamMap
  reverseStreamIds : StreamIdAllocator
  reverseTcpStreams : StreamMap
  tcpStreams : StreamMap
  httpStreams : StreamMap
  wsStreams : StreamMap
  opens : List (ForwardKind × Stream)
  upgrades : List Stream
  reverseOpens : List Stream
  forward : Nat
  reverse : Nat

def Tunnel.new : Tunnel where
  streamIds := .new 1
  streams := .empty
  reverseStreamIds := .new agentReverseIdBase
  reverseTcpStreams := .empty
  tcpStreams := .empty
  httpStreams := .empty
  wsStreams := .empty
  opens := []
  upgrades := []
  reverseOpens := []
  forward := 0
  reverse := 0

inductive Event where
  | openForward (kind : ForwardKind)
  | arrive (n : Nat)
  | upgraded (n : Nat)
  | openReverse
  | arriveReverse (n : Nat)
  | close (id : Nat)
  | closeTcp (id : Nat)
  | closeHttp (id : Nat)
  | closeWs (id : Nat)
  | closeReverse (id : Nat)

namespace Tunnel

variable (w : Tunnel)

/-- The streams the agent counts. -/
def streamCount : Nat :=
  w.httpStreams.rows.length + w.wsStreams.rows.length + w.tcpStreams.rows.length +
    w.reverseTcpStreams.rows.length

/-- The stream an event opens, if it opens one. -/
def opening : Event → Option Stream
  | .openForward _ =>
    if maxStreamsPerTunnel ≤ w.streams.rows.length then none
    else some ⟨w.streamIds.next, .primary, w.forward⟩
  | .openReverse =>
    if maxStreamsPerTunnel ≤ w.streamCount then none
    else some ⟨w.reverseStreamIds.next, .agent, w.reverse⟩
  | _ => none

/-- The primary takes an id, stores its state under it and sends the open. -/
def openForward (kind : ForwardKind) : Tunnel :=
  match w.opening (.openForward kind) with
  | none => w
  | some s =>
    { w with
      streamIds := w.streamIds.allocate
      streams := w.streams.put s
      opens := w.opens ++ [(kind, s)]
      forward := w.forward + 1 }

/-- An open arrives at the agent, which stores a stream unless it has too many.  A WebSocket is
stored when its client has connected. -/
def arrive (n : Nat) : Tunnel :=
  match w.opens[n]? with
  | none => w
  | some (kind, s) =>
    if maxStreamsPerTunnel ≤ w.streamCount then { w with opens := w.opens.eraseIdx n }
    else match kind with
      | .tcp => { w with opens := w.opens.eraseIdx n, tcpStreams := w.tcpStreams.put s }
      | .http => { w with opens := w.opens.eraseIdx n, httpStreams := w.httpStreams.put s }
      | .ws => { w with opens := w.opens.eraseIdx n, upgrades := w.upgrades ++ [s] }

def upgraded (n : Nat) : Tunnel :=
  match w.upgrades[n]? with
  | none => w
  | some s => { w with upgrades := w.upgrades.eraseIdx n, wsStreams := w.wsStreams.put s }

/-- The agent takes an id for a stream of its own. -/
def openReverseStream : Tunnel :=
  match w.opening .openReverse with
  | none => w
  | some s =>
    { w with
      reverseStreamIds := w.reverseStreamIds.allocate
      reverseTcpStreams := w.reverseTcpStreams.put s
      reverseOpens := w.reverseOpens ++ [s]
      reverse := w.reverse + 1 }

/-- The primary refuses an id of its own half, an id it holds, and one stream too many. -/
def handleTcpOpenReverse (n : Nat) : Tunnel :=
  match w.reverseOpens[n]? with
  | none => w
  | some s =>
    if s.id < agentReverseIdBase ∨ (w.streams.find? s.id).isSome = true ∨
        maxStreamsPerTunnel ≤ w.streams.rows.length then
      { w with reverseOpens := w.reverseOpens.eraseIdx n }
    else { w with reverseOpens := w.reverseOpens.eraseIdx n, streams := w.streams.put s }

/-- The streams that one of the ends holds. -/
def live : List Stream :=
  w.streams.rows ++ w.reverseTcpStreams.rows ++ w.tcpStreams.rows ++ w.httpStreams.rows ++
    w.wsStreams.rows

/-- The streams an end holds or is going to hold. -/
def known : List Stream :=
  w.live ++ w.opens.map Prod.snd ++ w.upgrades ++ w.reverseOpens

end Tunnel

def step (w : Tunnel) : Event → Tunnel
  | .openForward kind => w.openForward kind
  | .arrive n => w.arrive n
  | .upgraded n => w.upgraded n
  | .openReverse => w.openReverseStream
  | .arriveReverse n => w.handleTcpOpenReverse n
  | .close id => { w with streams := w.streams.remove id }
  | .closeTcp id => { w with tcpStreams := w.tcpStreams.remove id }
  | .closeHttp id => { w with httpStreams := w.httpStreams.remove id }
  | .closeWs id => { w with wsStreams := w.wsStreams.remove id }
  | .closeReverse id => { w with reverseTcpStreams := w.reverseTcpStreams.remove id }

/-- A stream that is opened now has an id that no live stream has, in the half of its end. -/
def Apart (w : Tunnel) (e : Event) : Prop :=
  ∀ s, w.opening e = some s → (∀ r ∈ w.live, r.id ≠ s.id) ∧
    (s.opener = .primary → s.id < agentReverseIdBase) ∧
    (s.opener = .agent → agentReverseIdBase ≤ s.id)

/-- The ids of the agent's half. -/
def reverseIds : Nat := 0x3fffffff

/-- The primary has opened fewer streams than there are ids below the agent's half, and no stream
of the agent is alive that was opened a whole number of rounds before. -/
def InTime (w : Tunnel) (e : Event) : Prop :=
  ∀ s, w.opening e = some s → (s.opener = .primary → s.ordinal < 0x40000000) ∧
    (s.opener = .agent → ∀ r ∈ w.live, r.opener = .agent → (s.ordinal - r.ordinal) % reverseIds ≠ 0)

/-- The id of the stream with a number. -/
def idOf : Opener → Nat → Nat
  | .primary, n => 1 + n % maxStreamId
  | .agent, n => agentReverseIdBase + n % reverseIds

def Tunnel.count (w : Tunnel) : Opener → Nat
  | .primary => w.forward
  | .agent => w.reverse

/-- Every stream has the id of its number, and the next ids are those of the counts. -/
structure Numbered (w : Tunnel) : Prop where
  start : w.streamIds.start = 1
  reverseStart : w.reverseStreamIds.start = agentReverseIdBase
  next : w.streamIds.next = idOf .primary w.forward
  reverseNext : w.reverseStreamIds.next = idOf .agent w.reverse
  streams : ∀ s ∈ w.known, s.id = idOf s.opener s.ordinal ∧ s.ordinal < w.count s.opener

variable {e : Event} {s : Stream} (n : Nat) {w : Tunnel}

theorem idOf_primary : idOf .primary n = 1 + n % 0x7fffffff := rfl

theorem idOf_agent : idOf .agent n = 0x40000001 + n % 0x3fffffff := rfl

theorem idOf_primary_succ : idOf .primary (n + 1) =
      if maxStreamId ≤ idOf .primary n then 1 else idOf .primary n + 1 := by
  rw [idOf_primary, idOf_primary]
  by_cases hlast : maxStreamId ≤ 1 + n % 0x7fffffff
  · rw [if_pos hlast]
    unfold maxStreamId at hlast
    omega
  · rw [if_neg hlast]
    unfold maxStreamId at hlast
    omega

theorem idOf_agent_succ : idOf .agent (n + 1) =
      if maxStreamId ≤ idOf .agent n then agentReverseIdBase else idOf .agent n + 1 := by
  rw [idOf_agent, idOf_agent]
  by_cases hlast : maxStreamId ≤ 0x40000001 + n % 0x3fffffff
  · rw [if_pos hlast]
    unfold maxStreamId at hlast
    unfold agentReverseIdBase
    omega
  · rw [if_neg hlast]
    unfold maxStreamId at hlast
    omega

/-- The primary's ids stay below the agent's half for its first `0x40000000` streams of a round. -/
theorem idOf_primary_lt_iff {n : Nat} (hn : n ≤ 0x40000000) :
    idOf .primary n < agentReverseIdBase ↔ n < 0x40000000 := by
  rw [idOf_primary]
  unfold agentReverseIdBase
  omega

/-- Two ids of the agent are equal when a whole number of rounds lies between them. -/
theorem idOf_agent_eq_iff {m n : Nat} (h : m ≤ n) :
    idOf .agent m = idOf .agent n ↔ (n - m) % reverseIds = 0 := by
  rw [idOf_agent, idOf_agent]
  unfold reverseIds
  omega

theorem opening_cases (h : w.opening e = some s) :
    (∃ kind, e = .openForward kind ∧ s = ⟨w.streamIds.next, .primary, w.forward⟩) ∨
      (e = .openReverse ∧ s = ⟨w.reverseStreamIds.next, .agent, w.reverse⟩) := by
  cases e with
  | openForward kind =>
    left
    unfold Tunnel.opening at h
    by_cases hfull : maxStreamsPerTunnel ≤ w.streams.rows.length
    · rw [if_pos hfull] at h
      cases h
    · rw [if_neg hfull] at h
      exact ⟨kind, rfl, (Option.some.inj h).symm⟩
  | openReverse =>
    right
    unfold Tunnel.opening at h
    by_cases hfull : maxStreamsPerTunnel ≤ w.streamCount
    · rw [if_pos hfull] at h
      cases h
    · rw [if_neg hfull] at h
      exact ⟨rfl, (Option.some.inj h).symm⟩
  | _ => cases h

/-- The rows of a map after a write are the new one and earlier ones. -/
theorem mem_put {m : StreamMap} {r : Stream} (h : r ∈ (m.put s).rows) : r = s ∨ r ∈ m.rows := by
  rcases mem_cons.mp h with rfl | h
  · exact .inl rfl
  · exact .inr (mem_filter.mp h).1

theorem mem_remove {m : StreamMap} {id : Nat} {r : Stream} (h : r ∈ (m.remove id).rows) :
    r ∈ m.rows :=
  (mem_filter.mp h).1

theorem mem_known :
    s ∈ w.known ↔ s ∈ w.streams.rows ∨ s ∈ w.reverseTcpStreams.rows ∨ s ∈ w.tcpStreams.rows ∨
      s ∈ w.httpStreams.rows ∨ s ∈ w.wsStreams.rows ∨ s ∈ w.opens.map Prod.snd ∨
      s ∈ w.upgrades ∨ s ∈ w.reverseOpens := by
  unfold Tunnel.known Tunnel.live
  simp only [mem_append, or_assoc]

/-- A stream that is known after an event was known before, or the event opened it. -/
theorem known_step (h : s ∈ (step w e).known) : s ∈ w.known ∨ w.opening e = some s := by
  cases e with
  | openForward kind =>
    change s ∈ (w.openForward kind).known at h
    unfold Tunnel.openForward at h
    cases hs : w.opening (.openForward kind) with
    | none =>
      rw [hs] at h
      exact .inl h
    | some s' =>
      rw [hs] at h
      rw [mem_known] at h ⊢
      simp only [map_append, mem_append, map_cons, map_nil, mem_singleton] at h
      rcases h with h | h | h | h | h | (h | h) | h | h
      · rcases mem_put h with rfl | h
        · exact .inr rfl
        · exact .inl (.inl h)
      all_goals grind
  | openReverse =>
    change s ∈ w.openReverseStream.known at h
    unfold Tunnel.openReverseStream at h
    cases hs : w.opening .openReverse with
    | none =>
      rw [hs] at h
      exact .inl h
    | some s' =>
      rw [hs] at h
      rw [mem_known] at h ⊢
      rcases h with h | h | h | h | h | h | h | h
      · exact .inl (.inl h)
      · rcases mem_put h with rfl | h
        · exact .inr rfl
        · exact .inl (.inr (.inl h))
      all_goals grind
  | arrive n =>
    left
    change s ∈ (w.arrive n).known at h
    unfold Tunnel.arrive at h
    cases hn : w.opens[n]? with
    | none =>
      rw [hn] at h
      exact h
    | some o =>
      have hmem : o.2 ∈ w.opens.map Prod.snd :=
        mem_map_of_mem (mem_of_getElem? hn)
      have hrest : ∀ {r : Stream}, r ∈ (w.opens.eraseIdx n).map Prod.snd →
          r ∈ w.opens.map Prod.snd := by
        intro r hr
        rcases mem_map.mp hr with ⟨o', ho', rfl⟩
        exact mem_map_of_mem ((eraseIdx_sublist w.opens n).subset ho')
      rcases o with ⟨kind, s'⟩
      by_cases hfull : maxStreamsPerTunnel ≤ w.streamCount
      · simp only [if_pos hfull] at h
        rw [mem_known] at h ⊢
        grind
      · simp only [if_neg hfull] at h
        rw [mem_known] at ⊢
        cases kind with
        | tcp =>
          rw [mem_known] at h
          grind [mem_put]
        | http =>
          rw [mem_known] at h
          grind [mem_put]
        | ws =>
          rw [mem_known] at h
          grind
  | upgraded n =>
    left
    change s ∈ (w.upgraded n).known at h
    unfold Tunnel.upgraded at h
    cases hn : w.upgrades[n]? with
    | none =>
      rw [hn] at h
      exact h
    | some s' =>
      have hrest := (eraseIdx_sublist w.upgrades n).subset
      rw [mem_known] at h ⊢
      grind [mem_put]
  | arriveReverse n =>
    left
    change s ∈ (w.handleTcpOpenReverse n).known at h
    unfold Tunnel.handleTcpOpenReverse at h
    cases hn : w.reverseOpens[n]? with
    | none =>
      rw [hn] at h
      exact h
    | some s' =>
      rw [hn] at h
      have hrest := (eraseIdx_sublist w.reverseOpens n).subset
      by_cases hrf : s'.id < agentReverseIdBase ∨ (w.streams.find? s'.id).isSome = true ∨
          maxStreamsPerTunnel ≤ w.streams.rows.length
      · simp only [if_pos hrf] at h
        rw [mem_known] at h ⊢
        grind
      · simp only [if_neg hrf] at h
        rw [mem_known] at h ⊢
        grind [mem_put]
  | close id =>
    left
    rw [mem_known] at h ⊢
    exact h.imp_left mem_remove
  | closeReverse id =>
    left
    rw [mem_known] at h ⊢
    exact h.imp_right fun h => h.imp_left mem_remove
  | closeTcp id =>
    left
    rw [mem_known] at h ⊢
    exact h.imp_right fun h => h.imp_right fun h => h.imp_left mem_remove
  | closeHttp id =>
    left
    rw [mem_known] at h ⊢
    exact h.imp_right fun h => h.imp_right fun h => h.imp_right fun h => h.imp_left mem_remove
  | closeWs id =>
    left
    rw [mem_known] at h ⊢
    exact h.imp_right fun h => h.imp_right fun h => h.imp_right fun h => h.imp_right fun h =>
      h.imp_left mem_remove

/-- An event that opens nothing leaves the allocators and the counts alone. -/
theorem counters_none (h : w.opening e = none) :
    (step w e).streamIds = w.streamIds ∧ (step w e).reverseStreamIds = w.reverseStreamIds ∧
      (step w e).forward = w.forward ∧ (step w e).reverse = w.reverse := by
  cases e with
  | openForward kind =>
    have hsame : step w (.openForward kind) = w := by
      show w.openForward kind = w
      unfold Tunnel.openForward
      rw [h]
    rw [hsame]
    exact ⟨rfl, rfl, rfl, rfl⟩
  | openReverse =>
    have hsame : step w .openReverse = w := by
      show w.openReverseStream = w
      unfold Tunnel.openReverseStream
      rw [h]
    rw [hsame]
    exact ⟨rfl, rfl, rfl, rfl⟩
  | arrive n =>
    show (w.arrive n).streamIds = _ ∧ (w.arrive n).reverseStreamIds = _ ∧
      (w.arrive n).forward = _ ∧ (w.arrive n).reverse = _
    unfold Tunnel.arrive
    cases w.opens[n]? with
    | none => exact ⟨rfl, rfl, rfl, rfl⟩
    | some o =>
      rcases o with ⟨kind, s⟩
      by_cases hfull : maxStreamsPerTunnel ≤ w.streamCount
      · simp [hfull]
      · cases kind with
        | tcp => simp [hfull]
        | http => simp [hfull]
        | ws => simp [hfull]
  | upgraded n =>
    show (w.upgraded n).streamIds = _ ∧ (w.upgraded n).reverseStreamIds = _ ∧
      (w.upgraded n).forward = _ ∧ (w.upgraded n).reverse = _
    unfold Tunnel.upgraded
    cases w.upgrades[n]? with
    | none => exact ⟨rfl, rfl, rfl, rfl⟩
    | some s => exact ⟨rfl, rfl, rfl, rfl⟩
  | arriveReverse n =>
    show (w.handleTcpOpenReverse n).streamIds = _ ∧
      (w.handleTcpOpenReverse n).reverseStreamIds = _ ∧
      (w.handleTcpOpenReverse n).forward = _ ∧ (w.handleTcpOpenReverse n).reverse = _
    unfold Tunnel.handleTcpOpenReverse
    cases w.reverseOpens[n]? with
    | none => exact ⟨rfl, rfl, rfl, rfl⟩
    | some s =>
      by_cases hrf : s.id < agentReverseIdBase ∨ (w.streams.find? s.id).isSome = true ∨
          maxStreamsPerTunnel ≤ w.streams.rows.length
      · simp [hrf]
      · simp [hrf]
  | close id | closeTcp id | closeHttp id | closeWs id | closeReverse id =>
    exact ⟨rfl, rfl, rfl, rfl⟩

theorem step_openForward {kind : ForwardKind} (h : w.opening (.openForward kind) = some s) :
    step w (.openForward kind) = { w with
        streamIds := w.streamIds.allocate
        streams := w.streams.put s
        opens := w.opens ++ [(kind, s)]
        forward := w.forward + 1 } := by
  show w.openForward kind = _
  unfold Tunnel.openForward
  rw [h]

theorem step_openReverse (h : w.opening .openReverse = some s) : step w .openReverse =
      { w with
        reverseStreamIds := w.reverseStreamIds.allocate
        reverseTcpStreams := w.reverseTcpStreams.put s
        reverseOpens := w.reverseOpens ++ [s]
        reverse := w.reverse + 1 } := by
  show w.openReverseStream = _
  unfold Tunnel.openReverseStream
  rw [h]

theorem numbered_new : Numbered Tunnel.new := by
  constructor
  · rfl
  · rfl
  · rfl
  · rfl
  · intro s hs
    rw [mem_known] at hs
    simp [Tunnel.new, Table.empty] at hs

/-- A stream that an event opens has the next number of its end. -/
theorem Numbered.opening (h : Numbered w) (hs : w.opening e = some s) :
    s.id = idOf s.opener s.ordinal ∧ s.ordinal = w.count s.opener := by
  rcases opening_cases hs with ⟨_, _, rfl⟩ | ⟨_, rfl⟩
  · exact ⟨h.next, rfl⟩
  · exact ⟨h.reverseNext, rfl⟩

theorem numbered_step (w : Tunnel) (e : Event) (h : Numbered w) : Numbered (step w e) := by
  cases hs : w.opening e with
  | none =>
    have hcounters := counters_none hs
    constructor
    · rw [hcounters.1]
      exact h.start
    · rw [hcounters.2.1]
      exact h.reverseStart
    · rw [hcounters.1, hcounters.2.2.1]
      exact h.next
    · rw [hcounters.2.1, hcounters.2.2.2]
      exact h.reverseNext
    · intro r hr
      have hcount : ∀ o, (step w e).count o = w.count o := by
        intro o
        cases o with
        | primary => exact hcounters.2.2.1
        | agent => exact hcounters.2.2.2
      rcases known_step hr with hr | hr
      · rw [hcount]
        exact h.streams r hr
      · rw [hs] at hr
        cases hr
  | some s =>
    have hnew := h.opening hs
    have hold : ∀ {r : Stream}, r ∈ (step w e).known → r.id = idOf r.opener r.ordinal ∧
        (r.ordinal < w.count r.opener ∨ r = s) := by
      intro r hr
      rcases known_step hr with hr | hr
      · have hknown := h.streams r hr
        exact ⟨hknown.1, .inl hknown.2⟩
      · rw [hs] at hr
        cases hr
        exact ⟨hnew.1, .inr rfl⟩
    rcases opening_cases hs with ⟨kind, rfl, rfl⟩ | ⟨rfl, rfl⟩
    · have hstep := step_openForward hs
      rw [hstep] at hold ⊢
      constructor
      · exact h.start
      · exact h.reverseStart
      · show (if maxStreamId ≤ w.streamIds.next then w.streamIds.start
          else w.streamIds.next + 1) = idOf .primary (w.forward + 1)
        rw [idOf_primary_succ, h.next, h.start]
      · exact h.reverseNext
      · intro r hr
        rcases hold hr with ⟨hid, hlt | rfl⟩
        · refine ⟨hid, ?_⟩
          cases hr : r.opener with
          | primary =>
            rw [hr] at hlt
            exact Nat.lt_succ_of_lt hlt
          | agent =>
            rw [hr] at hlt
            exact hlt
        · exact ⟨hid, Nat.lt_succ_self w.forward⟩
    · have hstep := step_openReverse hs
      rw [hstep] at hold ⊢
      constructor
      · exact h.start
      · exact h.reverseStart
      · exact h.next
      · show (if maxStreamId ≤ w.reverseStreamIds.next then w.reverseStreamIds.start
          else w.reverseStreamIds.next + 1) = idOf .agent (w.reverse + 1)
        rw [idOf_agent_succ, h.reverseNext, h.reverseStart]
      · intro r hr
        rcases hold hr with ⟨hid, hlt | rfl⟩
        · refine ⟨hid, ?_⟩
          cases hr : r.opener with
          | primary =>
            rw [hr] at hlt
            exact hlt
          | agent =>
            rw [hr] at hlt
            exact Nat.lt_succ_of_lt hlt
        · exact ⟨hid, Nat.lt_succ_self w.reverse⟩

theorem numbered_run (events : List Event) : Numbered (run step Tunnel.new events) :=
  run_invariant numbered_step numbered_new events

/-- The primary's count after an event. -/
theorem forward_step (w : Tunnel) (e : Event) : (step w e).forward = w.forward ∨
      ((step w e).forward = w.forward + 1 ∧
        w.opening e = some ⟨w.streamIds.next, .primary, w.forward⟩) := by
  cases hs : w.opening e with
  | none => exact .inl (counters_none hs).2.2.1
  | some s =>
    rcases opening_cases hs with ⟨kind, rfl, rfl⟩ | ⟨rfl, rfl⟩
    · right
      rw [step_openForward hs]
      exact ⟨rfl, rfl⟩
    · left
      rw [step_openReverse hs]

/-- The primary's count stays low in a run whose opens by the primary all find it low. -/
theorem forward_run {events : List Event} (hopen : ∀ pre e post, events = pre ++ e :: post → ∀ s,
      (run step Tunnel.new pre).opening e = some s → s.opener = .primary →
        (run step Tunnel.new pre).forward ≤ 0x40000000 → s.ordinal < 0x40000000) :
    (run step Tunnel.new events).forward ≤ 0x40000000 := by
  induction events using reverseRecOn with
  | nil => exact Nat.zero_le 0x40000000
  | append_singleton events e ih =>
    have hbefore : (run step Tunnel.new events).forward ≤ 0x40000000 := by
      apply ih
      intro pre d post heq
      apply hopen pre d (post ++ [e])
      rw [heq]
      simp
    rw [run_append]
    show (step (run step Tunnel.new events) e).forward ≤ 0x40000000
    rcases forward_step (run step Tunnel.new events) e with hsame | ⟨hnext, hs⟩
    · rw [hsame]
      exact hbefore
    · rw [hnext]
      exact hopen events e [] rfl _ hs rfl hbefore

/-- An open that is in time finds an id of its own. -/
theorem apart_of_inTime (h : Numbered w) (hlow : w.forward ≤ 0x40000000)
    (he : InTime w e) : Apart w e := by
  intro s hs
  have htime := he s hs
  have hnew := h.opening hs
  have hlive : ∀ {r : Stream}, r ∈ w.live → r ∈ w.known := by
    intro r hr
    exact mem_append_left _ (mem_append_left _ (mem_append_left _ hr))
  have hbelow : ∀ {n : Nat}, n < 0x40000000 → idOf .primary n < agentReverseIdBase := by
    intro n hn
    exact (idOf_primary_lt_iff (Nat.le_of_lt hn)).mpr hn
  have habove : ∀ n : Nat, agentReverseIdBase ≤ idOf .agent n :=
    fun n => Nat.le_add_right agentReverseIdBase _
  rcases hnew with ⟨hid, hord⟩
  cases ho : s.opener with
  | primary =>
    rw [ho] at hid hord
    have hsmall : s.ordinal < 0x40000000 := htime.1 ho
    refine ⟨?_, fun _ => hid ▸ hbelow hsmall, fun hagent => nomatch hagent⟩
    intro r hr hsame
    rcases h.streams r (hlive hr) with ⟨hrid, hrlt⟩
    cases hro : r.opener with
    | primary =>
      rw [hro] at hrid hrlt
      rw [hrid, hid, idOf_primary, idOf_primary] at hsame
      omega
    | agent =>
      rw [hro] at hrid
      have hup := habove r.ordinal
      have hdown := hbelow hsmall
      omega
  | agent =>
    rw [ho] at hid hord
    refine ⟨?_, (fun hprimary => nomatch hprimary), fun _ => hid ▸ habove s.ordinal⟩
    intro r hr hsame
    rcases h.streams r (hlive hr) with ⟨hrid, hrlt⟩
    cases hro : r.opener with
    | primary =>
      rw [hro] at hrid hrlt
      have hlt : r.ordinal < w.forward := hrlt
      have hup := habove s.ordinal
      have hdown : idOf .primary r.ordinal < agentReverseIdBase := hbelow (by omega)
      omega
    | agent =>
      rw [hro] at hrid hrlt
      have hle : r.ordinal ≤ s.ordinal := Nat.le_of_lt (hord ▸ hrlt)
      rw [hrid, hid] at hsame
      exact htime.2 ho r hr hro ((idOf_agent_eq_iff hle).mp hsame)

theorem inTime_of_apart (h : Numbered w) (hlow : w.forward ≤ 0x40000000)
    (he : Apart w e) : InTime w e := by
  intro s hs
  rcases he s hs with ⟨hother, hprimary, _⟩
  rcases h.opening hs with ⟨hid, hord⟩
  constructor
  · intro ho
    rw [ho] at hid hord
    have hbelow := hprimary ho
    rw [hid] at hbelow
    exact (idOf_primary_lt_iff (hord ▸ hlow)).mp hbelow
  · intro ho r hr hro hround
    have hknown := h.streams r (mem_append_left _ (mem_append_left _ (mem_append_left _ hr)))
    rw [hro] at hknown
    rw [ho] at hid hord
    have hle : r.ordinal ≤ s.ordinal := Nat.le_of_lt (hord ▸ hknown.2)
    apply hother r hr
    rw [hknown.1, hid]
    exact (idOf_agent_eq_iff hle).mpr hround

/-- The ids of a run never collide and stay in their halves exactly when the primary opens at most
`0x40000000` streams and no stream of the agent is alive when the agent opens another a whole number
of rounds of `0x3fffffff` ids later. -/
theorem apart_iff (events : List Event) :
    (∀ pre e post, events = pre ++ e :: post → Apart (run step Tunnel.new pre) e) ↔
      ∀ pre e post, events = pre ++ e :: post → InTime (run step Tunnel.new pre) e := by
  have hinitial : ∀ {pre post before after : List Event} {e d : Event},
      events = pre ++ e :: post → pre = before ++ d :: after →
        events = before ++ d :: (after ++ e :: post) := by
    intro pre post before after e d heq hpre
    rw [heq, hpre, append_assoc]
    rfl
  constructor
  · intro hapart pre e post heq
    apply inTime_of_apart (numbered_run pre)
    · apply forward_run
      intro before d after hpre s hs ho hlow
      have hd := hapart before d _ (hinitial heq hpre)
      exact (inTime_of_apart (numbered_run before) hlow hd s hs).1 ho
    · exact hapart pre e post heq
  · intro htime pre e post heq
    apply apart_of_inTime (numbered_run pre)
    · apply forward_run
      intro before d after hpre s hs ho _
      exact (htime before d _ (hinitial heq hpre) s hs).1 ho
    · exact htime pre e post heq

/-- The primary opens streams one after the other, and each is closed before the next. -/
def oneByOne : Nat → List Event
  | 0 => []
  | n + 1 => oneByOne n ++ [.openForward .tcp, .close (idOf .primary n)]

theorem run_oneByOne : (run step Tunnel.new (oneByOne n)).streams.rows = [] ∧
      (run step Tunnel.new (oneByOne n)).forward = n := by
  induction n with
  | zero => exact ⟨rfl, rfl⟩
  | succ n ih =>
    rcases ih with ⟨hrows, hcount⟩
    have hnumbered := numbered_run (oneByOne n)
    generalize hw : run step Tunnel.new (oneByOne n) = w at hrows hcount hnumbered
    have hopens : w.opening (.openForward .tcp) = some ⟨w.streamIds.next, .primary, w.forward⟩ := by
      unfold Tunnel.opening
      rw [hrows]
      rfl
    have hrun : run step Tunnel.new (oneByOne (n + 1)) =
        step (step w (.openForward .tcp)) (.close (idOf .primary n)) := by
      show run step Tunnel.new (oneByOne n ++ _) = _
      rw [run_append, hw]
      rfl
    rw [hrun, step_openForward hopens]
    constructor
    · apply eq_nil_iff_forall_not_mem.mpr
      intro r hr
      have hkept := mem_filter.mp hr
      rcases mem_put hkept.1 with rfl | hold
      · have hother : w.streamIds.next ≠ idOf .primary n := by simpa using hkept.2
        exact hother (hcount ▸ hnumbered.next)
      · rw [hrows] at hold
        cases hold
    · exact congrArg (· + 1) hcount

/-- The id of the next stream, if it is one that the primary may use. -/
theorem idOf_of_apart {n : Nat}
    (h : ∀ pre e post, oneByOne n ++ [.openForward .tcp] = pre ++ e :: post →
      Apart (run step Tunnel.new pre) e) : idOf .primary n < agentReverseIdBase := by
  have hlast := h (oneByOne n) (.openForward .tcp) [] rfl
  have hrun := run_oneByOne n
  have hnumbered := numbered_run (oneByOne n)
  generalize run step Tunnel.new (oneByOne n) = w at hlast hrun hnumbered
  have hopens : w.opening (.openForward .tcp) = some ⟨w.streamIds.next, .primary, w.forward⟩ := by
    unfold Tunnel.opening
    rw [hrun.1]
    rfl
  have hbelow : w.streamIds.next < agentReverseIdBase := (hlast _ hopens).2.1 rfl
  rw [hnumbered.next, hrun.2] at hbelow
  exact hbelow

/-- After `0x40000000` streams of the primary the next one has the first id of the agent. -/
theorem primary_leaves_its_half :
    ¬ ∀ pre e post, oneByOne 0x40000000 ++ [.openForward .tcp] = pre ++ e :: post →
      Apart (run step Tunnel.new pre) e := by
  intro h
  have hbelow := idOf_of_apart h
  exact absurd hbelow (by decide)

/-- The number of ids of an end. -/
def Opener.round : Opener → Nat
  | .primary => maxStreamId
  | .agent => reverseIds

/-- However often the counters wrap, the ids stay in their range and the agent's in its half.  Two
streams of one end have one id exactly whole rounds apart, and one of each end only where the
primary has come past its half. -/
theorem ids_recur (events : List Event) :
    (∀ s ∈ (run step Tunnel.new events).known, 1 ≤ s.id ∧ s.id ≤ maxStreamId ∧
      (s.opener = .agent → agentReverseIdBase ≤ s.id)) ∧
    ∀ r ∈ (run step Tunnel.new events).known, ∀ s ∈ (run step Tunnel.new events).known,
      (r.opener = s.opener →
        (r.id = s.id ↔ r.ordinal % r.opener.round = s.ordinal % r.opener.round)) ∧
      (r.opener = .primary → s.opener = .agent → r.id = s.id →
        0x40000000 ≤ r.ordinal % maxStreamId) := by
  have hnumbered := (numbered_run events).streams
  have hrange : ∀ s ∈ (run step Tunnel.new events).known, 1 ≤ s.id ∧ s.id ≤ maxStreamId ∧
      (s.opener = .agent → agentReverseIdBase ≤ s.id) := by
    intro s hs
    have hid := (hnumbered s hs).1
    unfold maxStreamId agentReverseIdBase
    cases hopener : s.opener with
    | primary =>
      rw [hopener, idOf_primary] at hid
      exact ⟨by omega, by omega, nofun⟩
    | agent =>
      rw [hopener, idOf_agent] at hid
      exact ⟨by omega, by omega, fun _ => by omega⟩
  refine ⟨hrange, fun r hr s hs => ?_⟩
  have hid := (hnumbered r hr).1
  have hid' := (hnumbered s hs).1
  constructor
  · intro hsame
    rw [hid, hid', ← hsame]
    cases r.opener with
    | primary => exact Nat.add_left_cancel_iff
    | agent => exact Nat.add_left_cancel_iff
  · intro hprimary hagent heq
    have hle := (hrange s hs).2.2 hagent
    rw [← heq, hid, hprimary] at hle
    have hround : 0x40000001 ≤ 1 + r.ordinal % maxStreamId := hle
    omega

end Sencho.Streams

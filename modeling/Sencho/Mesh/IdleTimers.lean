import Sencho.Mesh.Bridge
import Sencho.Verified.Breaks

/-!
# Idle timers

Timers live on the state of a stream and fire by the id of the stream.  A stored state has one
armed timer, set to its last refresh, and no other timer is armed.  A step loses that exactly when
it takes a state out of the map without clearing its timer: a relay that takes the place of its
reservation, a dial that fails before it connects, a target that fails, or an open on an id that is
still in use.
-/

namespace Sencho.Mesh

open Verified Option Function PilotTunnelBridge OrderedMap Runs
open Streams

variable {s r : Nat} {b' : PilotTunnelBridge}

namespace PilotTunnelBridge

variable (b : PilotTunnelBridge)

/-- The timer of a state and the time of its last refresh. -/
def timing (r : Nat) : Option (Option Nat × Nat) :=
  (b.objects r).map fun o => (o.idleTimer, o.refreshedAt)

/-- Every stored state has one armed timer, set to its last refresh, and every armed timer is the
one of the state that is stored under its id. -/
structure OneTimer (b : PilotTunnelBridge) : Prop where
  stored : ∀ s r, b.streams.get? s = some r → ∃ t refreshedAt,
    b.timing r = some (some t, refreshedAt) ∧
      b.timers t = some ⟨s, refreshedAt + streamIdleTimeoutMs⟩
  armed : ∀ t armed, b.timers t = some armed → ∃ r refreshedAt,
    b.streams.get? armed.stream = some r ∧ b.timing r = some (some t, refreshedAt)

/-- Names of objects and timers are below the next name. -/
structure Named (b : PilotTunnelBridge) : Prop where
  timer : ∀ t armed, b.timers t = some armed → t < b.fresh
  object : ∀ r timing, b.timing r = some timing → r < b.fresh ∧ ∀ t, timing.1 = some t → t < b.fresh

/-- A timer that fires on a stored state finds it idle for the whole timeout. -/
def EvictsIdle : Prop :=
  ∀ t armed r o, b.timers t = some armed → armed.due ≤ b.now →
    b.streams.get? armed.stream = some r → b.objects r = some o →
    o.refreshedAt + streamIdleTimeoutMs ≤ b.now

/-- One timer each evicts on time. -/
theorem OneTimer.evicts_idle {b : PilotTunnelBridge} (h : OneTimer b) : EvictsIdle b := by
  intro t armed r o hArmed hdue hget hobject
  obtain ⟨r', refreshedAt, hget', htiming⟩ := h.armed t armed hArmed
  have hr : r' = r := by
    rw [hget'] at hget
    exact some.inj hget
  rw [hr] at htiming
  obtain ⟨t', refreshedAt', htiming', hArmed'⟩ := h.stored armed.stream r hget
  rw [htiming'] at htiming
  have hpair := some.inj htiming
  have ht : t' = t := some.inj (congrArg Prod.fst hpair)
  rw [ht, hArmed] at hArmed'
  have harmed : armed.due = refreshedAt' + streamIdleTimeoutMs :=
    congrArg IdleTimer.due (some.inj hArmed')
  have hrefreshed : o.refreshedAt = refreshedAt' := by
    unfold timing at htiming'
    rw [hobject] at htiming'
    exact congrArg Prod.snd (some.inj htiming')
  omega

/-- Two bridges with the same streams and timers. -/
structure SameTimers (b b' : PilotTunnelBridge) : Prop where
  streams : b'.streams = b.streams
  timers : b'.timers = b.timers
  timing : ∀ r, b'.timing r = b.timing r
  fresh : b.fresh ≤ b'.fresh

/-- Nothing changes. -/
theorem SameTimers.refl (b : PilotTunnelBridge) : SameTimers b b :=
  ⟨rfl, rfl, fun _ => rfl, .refl⟩

section

variable {b b' : PilotTunnelBridge} (h : SameTimers b b')
include h

theorem SameTimers.trans {b'' : PilotTunnelBridge} (h' : SameTimers b' b'') : SameTimers b b'' where
  streams := h'.streams.trans h.streams
  timers := h'.timers.trans h.timers
  timing := fun r => (h'.timing r).trans (h.timing r)
  fresh := Nat.le_trans h.fresh h'.fresh

/-- Same timers, still one each. -/
theorem SameTimers.oneTimer (ho : OneTimer b) : OneTimer b' := by
  constructor
  · intro s r hget
    rw [h.streams] at hget
    simp only [h.timing, h.timers]
    exact ho.stored s r hget
  · intro t armed hArmed
    rw [h.timers] at hArmed
    simp only [h.timing, h.streams]
    exact ho.armed t armed hArmed

theorem SameTimers.named (hn : Named b) : Named b' := by
  constructor
  · intro t armed hArmed
    rw [h.timers] at hArmed
    exact Nat.lt_of_lt_of_le (hn.timer t armed hArmed) h.fresh
  · intro r timing htiming
    rw [h.timing] at htiming
    obtain ⟨hr, ht⟩ := hn.object r timing htiming
    exact ⟨Nat.lt_of_lt_of_le hr h.fresh, fun t hsome => Nat.lt_of_lt_of_le (ht t hsome) h.fresh⟩

end

theorem sameTimers_setState (r : Nat) (state : StreamState) :
    SameTimers b (b.setState r state) := by
  refine ⟨rfl, rfl, ?_, .refl⟩
  intro r'
  unfold timing setState modifyAt
  by_cases hr : r' = r
  · subst hr
    dsimp only
    rw [update_self, map_map]
    rfl
  · dsimp only
    rw [update_of_ne hr]

section Frame

variable (b : PilotTunnelBridge)
variable (k r : Nat)

theorem sameTimers_send (frame : Frame) : SameTimers b (b.send frame) :=
  ⟨rfl, rfl, fun _ => rfl, .refl⟩

theorem sameTimers_emit (event : HandleEvent) : SameTimers b (b.emit r event) :=
  ⟨rfl, rfl, fun _ => rfl, .refl⟩

theorem sameTimers_setStage (n : Nat) (stage : Stage) : SameTimers b (b.setStage n stage) :=
  ⟨rfl, rfl, fun _ => rfl, .refl⟩

theorem sameTimers_setSocket (socket : LocalSocket) : SameTimers b (b.setSocket k socket) :=
  ⟨rfl, rfl, fun _ => rfl, .refl⟩

theorem sameTimers_setTarget (target : RelayTarget) : SameTimers b (b.setTarget k target) :=
  ⟨rfl, rfl, fun _ => rfl, .refl⟩

theorem sameTimers_destroySocket : SameTimers b (b.destroySocket k) :=
  ⟨rfl, rfl, fun _ => rfl, .refl⟩

theorem sameTimers_destroyTarget : SameTimers b (b.destroyTarget k) :=
  ⟨rfl, rfl, fun _ => rfl, .refl⟩

theorem sameTimers_receive (opening : Nat) (p : Payload) : SameTimers b (b.receive opening p) :=
  ⟨rfl, rfl, fun _ => rfl, .refl⟩

theorem sameTimers_writeLocal (ps : List Payload) : SameTimers b (b.writeLocal r ps) :=
  ⟨rfl, rfl, fun _ => rfl, .refl⟩

theorem sameTimers_writeTarget (ps : List Payload) : SameTimers b (b.writeTarget k ps) :=
  ⟨rfl, rfl, fun _ => rfl, .refl⟩

theorem sameTimers_push (buffer : Nat) (p : Payload) : SameTimers b (b.push buffer p) :=
  ⟨rfl, rfl, fun _ => rfl, .refl⟩

theorem sameTimers_newBuffer : SameTimers b b.newBuffer :=
  ⟨rfl, rfl, fun _ => rfl, Nat.le_succ _⟩

theorem sameTimers_newSocket (socket : LocalSocket) : SameTimers b (b.newSocket socket) :=
  ⟨rfl, rfl, fun _ => rfl, Nat.le_succ _⟩

theorem sameTimers_newTarget (target : RelayTarget) : SameTimers b (b.newTarget target) :=
  ⟨rfl, rfl, fun _ => rfl, Nat.le_succ _⟩

theorem sameTimers_newDispatch (d : Dispatch) : SameTimers b (b.newDispatch d) :=
  ⟨rfl, rfl, fun _ => rfl, Nat.le_succ _⟩

theorem sameTimers_clearReceived (opening : Nat) : SameTimers b (b.clearReceived opening) :=
  ⟨rfl, rfl, fun _ => rfl, .refl⟩

theorem sameTimers_resetPending (state : Nat → StreamState) :
    SameTimers b (b.resetPending r state) :=
  (sameTimers_newBuffer b).trans (sameTimers_setState _ r _)

theorem sameTimers_teardownState (state : StreamState) :
    SameTimers b (b.teardownState r state) := by
  cases state with
  | http | ws => exact SameTimers.refl b
  | tcp accepted =>
    cases accepted with
    | true => exact sameTimers_emit b r .close
    | false => exact (sameTimers_emit b r .error).trans (sameTimers_emit _ r .close)
  | reverseLocal socket =>
    cases socket with
    | none => exact SameTimers.refl b
    | some k => exact sameTimers_destroySocket b k
  | reverseRelay k => exact sameTimers_destroyTarget b k

theorem sameTimers_teardownStream : SameTimers b (b.teardownStream r) := by
  unfold teardownStream
  cases b.objects r with
  | none => exact SameTimers.refl b
  | some o => exact sameTimers_teardownState b r o.state

theorem sameTimers_flushLocal (state : Nat) : SameTimers b (b.flushLocal state) := by
  unfold flushLocal
  split
  · split
    · exact SameTimers.refl b
    · exact (sameTimers_writeLocal b state _).trans (sameTimers_resetPending _ state _)
  · exact SameTimers.refl b

theorem sameTimers_openRelay (s : Nat) : SameTimers b (b.openRelay s) := by
  unfold openRelay
  split
  · split
    · exact (sameTimers_setState b _ _).trans (sameTimers_send _ _)
    · exact ((sameTimers_writeTarget b _ _).trans (sameTimers_resetPending _ _ _)).trans
        (sameTimers_send _ _)
  · exact SameTimers.refl b

end Frame

/-- The timing after a change. -/
theorem timing_modify (b' : PilotTunnelBridge) (t : Option Nat) (time : Nat → Nat) {r : Nat}
    {f : StreamObject → StreamObject} (hobjects : b'.objects = modifyAt b.objects r f)
    (hf : ∀ o, (f o).idleTimer = t ∧ (f o).refreshedAt = time o.refreshedAt) (r' : Nat) :
    b'.timing r' =
      if r' = r then (b.timing r).map fun timing => (t, time timing.2) else b.timing r' := by
  unfold timing
  rw [hobjects]
  unfold modifyAt
  by_cases hr : r' = r
  · rw [if_pos hr, hr, update_self, map_map, map_map]
    congr 1
    funext o
    exact Prod.ext (hf o).1 (hf o).2
  · rw [if_neg hr, update_of_ne hr]

theorem clearTimeout_of_timing {b : PilotTunnelBridge} {r t refreshedAt : Nat}
    (h : b.timing r = some (some t, refreshedAt)) : b.clearTimeout r = update b.timers t none := by
  obtain ⟨o, hobject, hpair⟩ := map_eq_some_iff.mp h
  have ht : o.idleTimer = some t := congrArg Prod.fst hpair
  unfold clearTimeout
  rw [hobject, bind_some, ht]
  rfl

/-- Clearing disarms timers only. -/
theorem clearTimeout_some {b : PilotTunnelBridge} {r t : Nat} {armed : IdleTimer}
    (h : b.clearTimeout r t = some armed) : b.timers t = some armed := by
  unfold clearTimeout at h
  cases hidle : (b.objects r).bind (·.idleTimer) with
  | none =>
    rw [hidle] at h
    exact h
  | some t' =>
    rw [hidle] at h
    change update b.timers t' none t = some armed at h
    by_cases ht : t = t'
    · rw [ht, update_self] at h
      exact nomatch h
    · rw [update_of_ne ht] at h
      exact h

section Kept

variable {b : PilotTunnelBridge}
variable {b' : PilotTunnelBridge}

/-- One timer belongs to one stored state. -/
theorem OneTimer.stream_eq (ho : OneTimer b) {s s' r : Nat} (h : b.streams.get? s = some r)
    (h' : b.streams.get? s' = some r) : s = s' := by
  obtain ⟨t, refreshedAt, htiming, hArmed⟩ := ho.stored s r h
  obtain ⟨t', refreshedAt', htiming', hArmed'⟩ := ho.stored s' r h'
  rw [htiming] at htiming'
  have ht : t = t' := some.inj (congrArg Prod.fst (some.inj htiming'))
  rw [← ht, hArmed] at hArmed'
  exact congrArg IdleTimer.stream (some.inj hArmed')

/-- Names stay fresh. -/
theorem Named.refresh (hn : Named b) (s r : Nat) : Named (b.refreshIdleTimer s r) := by
  have htiming := timing_modify b (b.refreshIdleTimer s r) (some b.fresh) (fun _ => b.now) rfl
    (fun _ => ⟨rfl, rfl⟩)
  constructor
  · intro t armed hArmed
    change update (b.clearTimeout r) b.fresh _ t = some armed at hArmed
    change t < b.fresh + 1
    by_cases ht : t = b.fresh
    · omega
    · rw [update_of_ne ht] at hArmed
      have := hn.timer t armed (clearTimeout_some hArmed)
      omega
  · intro r' timing hsome
    change r' < b.fresh + 1 ∧ ∀ t, timing.1 = some t → t < b.fresh + 1
    rw [htiming] at hsome
    by_cases hr : r' = r
    · rw [if_pos hr] at hsome
      obtain ⟨old, hold, hnew⟩ := map_eq_some_iff.mp hsome
      have hbound := (hn.object r old hold).1
      refine ⟨by omega, ?_⟩
      intro t ht
      rw [← hnew] at ht
      have := some.inj ht
      omega
    · rw [if_neg hr] at hsome
      obtain ⟨hbound, htimer⟩ := hn.object r' timing hsome
      exact ⟨by omega, fun t ht => Nat.lt_succ_of_lt (htimer t ht)⟩

/-- The new timer is the only one. -/
theorem OneTimer.refresh (ho : OneTimer b) (hn : Named b)
    (hget : b.streams.get? s = some r) : OneTimer (b.refreshIdleTimer s r) := by
  obtain ⟨t, refreshedAt, hrTiming, hrArmed⟩ := ho.stored s r hget
  have htiming := timing_modify b (b.refreshIdleTimer s r) (some b.fresh) (fun _ => b.now) rfl
    (fun _ => ⟨rfl, rfl⟩)
  have htimers : (b.refreshIdleTimer s r).timers =
      update (update b.timers t none) b.fresh (some ⟨s, b.now + streamIdleTimeoutMs⟩) := by
    unfold refreshIdleTimer
    rw [clearTimeout_of_timing hrTiming]
  have hnew : (b.refreshIdleTimer s r).timing r = some (some b.fresh, b.now) := by
    rw [htiming, if_pos rfl, hrTiming]
    rfl
  constructor
  · intro s' r' hget'
    change b.streams.get? s' = some r' at hget'
    by_cases hr : r' = r
    · have hs : s' = s := ho.stream_eq (hr ▸ hget') hget
      refine ⟨b.fresh, b.now, hr ▸ hnew, ?_⟩
      rw [htimers, update_self, hs]
    · obtain ⟨t', refreshedAt', htiming', hArmed'⟩ := ho.stored s' r' hget'
      have ht : t' ≠ t := by
        intro ht
        rw [ht, hrArmed] at hArmed'
        have hs : s = s' := congrArg IdleTimer.stream (some.inj hArmed')
        rw [← hs, hget] at hget'
        exact hr (some.inj hget').symm
      have htFresh' : t' ≠ b.fresh := Nat.ne_of_lt (hn.timer t' _ hArmed')
      refine ⟨t', refreshedAt', ?_, ?_⟩
      · rw [htiming, if_neg hr]
        exact htiming'
      · rw [htimers, update_of_ne htFresh', update_of_ne ht]
        exact hArmed'
  · intro t' armed hArmed'
    rw [htimers] at hArmed'
    by_cases htFresh' : t' = b.fresh
    · rw [htFresh', update_self] at hArmed'
      rw [← some.inj hArmed', htFresh']
      exact ⟨r, b.now, hget, hnew⟩
    · rw [update_of_ne htFresh'] at hArmed'
      have ht : t' ≠ t := by
        intro ht
        rw [ht, update_self] at hArmed'
        exact nomatch hArmed'
      rw [update_of_ne ht] at hArmed'
      obtain ⟨r', refreshedAt', hget', htiming'⟩ := ho.armed t' armed hArmed'
      have hr : r' ≠ r := by
        intro hr
        rw [hr, hrTiming] at htiming'
        exact ht (some.inj (congrArg Prod.fst (some.inj htiming'))).symm
      exact ⟨r', refreshedAt', hget', by rw [htiming, if_neg hr]; exact htiming'⟩

theorem Named.clear (hn : Named b) (r : Nat) : Named (b.clearIdleTimer r) := by
  have htiming := timing_modify b (b.clearIdleTimer r) none id rfl (fun _ => ⟨rfl, rfl⟩)
  constructor
  · intro t armed hArmed
    exact hn.timer t armed (clearTimeout_some hArmed)
  · intro r' timing hsome
    rw [htiming] at hsome
    by_cases hr : r' = r
    · rw [if_pos hr] at hsome
      obtain ⟨old, hold, hnew⟩ := map_eq_some_iff.mp hsome
      refine ⟨hr ▸ (hn.object r old hold).1, ?_⟩
      intro t ht
      rw [← hnew] at ht
      exact nomatch ht
    · rw [if_neg hr] at hsome
      exact hn.object r' timing hsome

theorem Named.delete (hn : Named b) (s : Nat) : Named (b.deleteStream s) := ⟨hn.timer, hn.object⟩

theorem Named.remove (hn : Named b) (s : Nat) : Named (b.removeStream s) := by
  unfold removeStream
  cases b.streams.get? s with
  | none => exact hn
  | some r => exact (hn.clear r).delete s

/-- Taking a state out of the map is safe once its timer is no longer armed. -/
theorem OneTimer.without (ho : OneTimer b) {s r t refreshedAt : Nat}
    (hget : b.streams.get? s = some r) (htiming : b.timing r = some (some t, refreshedAt))
    (hstreams : b'.streams = b.streams.erase s) (htimers : b'.timers = update b.timers t none)
    (hsame : ∀ r', r' ≠ r → b'.timing r' = b.timing r') : OneTimer b' := by
  constructor
  · intro s' r' hget'
    rw [hstreams, get?_erase] at hget'
    by_cases hs : s' = s
    · rw [if_pos hs] at hget'
      exact nomatch hget'
    · rw [if_neg hs] at hget'
      have hr : r' ≠ r := fun hr => hs (ho.stream_eq (hr ▸ hget') hget)
      obtain ⟨t', refreshedAt', htiming', hArmed'⟩ := ho.stored s' r' hget'
      obtain ⟨t₀, refreshedAt₀, htiming₀, hArmed₀⟩ := ho.stored s r hget
      have ht₀ : t₀ = t := by
        rw [htiming] at htiming₀
        exact (some.inj (congrArg Prod.fst (some.inj htiming₀))).symm
      have ht : t' ≠ t := by
        intro ht
        rw [ht, ← ht₀, hArmed₀] at hArmed'
        exact hs (congrArg IdleTimer.stream (some.inj hArmed')).symm
      refine ⟨t', refreshedAt', ?_, ?_⟩
      · rw [hsame r' hr]
        exact htiming'
      · rw [htimers, update_of_ne ht]
        exact hArmed'
  · intro t' armed hArmed'
    rw [htimers] at hArmed'
    have ht : t' ≠ t := by
      intro ht
      rw [ht, update_self] at hArmed'
      exact nomatch hArmed'
    rw [update_of_ne ht] at hArmed'
    obtain ⟨r', refreshedAt', hget', htiming'⟩ := ho.armed t' armed hArmed'
    have hr : r' ≠ r := by
      intro hr
      rw [hr, htiming] at htiming'
      exact ht (some.inj (congrArg Prod.fst (some.inj htiming'))).symm
    have hs : armed.stream ≠ s := by
      intro hs
      rw [hs, hget] at hget'
      exact hr (some.inj hget').symm
    refine ⟨r', refreshedAt', ?_, ?_⟩
    · rw [hstreams, get?_erase, if_neg hs]
      exact hget'
    · rw [hsame r' hr]
      exact htiming'

/-- No timer outlives its stream. -/
theorem OneTimer.remove (ho : OneTimer b) (s : Nat) : OneTimer (b.removeStream s) := by
  unfold removeStream
  cases hget : b.streams.get? s with
  | none => exact ho
  | some r =>
    obtain ⟨t, refreshedAt, htiming, _⟩ := ho.stored s r hget
    have hclear := timing_modify b ((b.clearIdleTimer r).deleteStream s) none id rfl
      (fun _ => ⟨rfl, rfl⟩)
    apply ho.without hget htiming rfl (clearTimeout_of_timing htiming)
    intro r' hr
    rw [hclear, if_neg hr]

theorem timing_store (b : PilotTunnelBridge) (s : Nat) (state : StreamState) (opening r : Nat) :
    (b.storeStream s state opening).timing r =
      if r = b.fresh then some (some (b.fresh + 1), b.now) else b.timing r := by
  unfold timing storeStream refreshIdleTimer modifyAt
  dsimp only
  by_cases hr : r = b.fresh
  · rw [if_pos hr, hr, update_self, update_self]
    rfl
  · rw [if_neg hr, update_of_ne hr, update_of_ne hr]

theorem timers_store (b : PilotTunnelBridge) (s : Nat) (state : StreamState) (opening : Nat) :
    (b.storeStream s state opening).timers =
      update b.timers (b.fresh + 1) (some ⟨s, b.now + streamIdleTimeoutMs⟩) := by
  unfold storeStream refreshIdleTimer clearTimeout
  dsimp only
  rw [update_self]
  rfl

theorem Named.store (hn : Named b) (s : Nat) (state : StreamState) (opening : Nat) :
    Named (b.storeStream s state opening) := by
  constructor
  · intro t armed hArmed
    change t < b.fresh + 1 + 1
    rw [timers_store] at hArmed
    by_cases ht : t = b.fresh + 1
    · omega
    · rw [update_of_ne ht] at hArmed
      have := hn.timer t armed hArmed
      omega
  · intro r timing hsome
    change r < b.fresh + 1 + 1 ∧ ∀ t, timing.1 = some t → t < b.fresh + 1 + 1
    rw [timing_store] at hsome
    by_cases hr : r = b.fresh
    · rw [if_pos hr] at hsome
      refine ⟨by omega, ?_⟩
      intro t ht
      rw [← some.inj hsome] at ht
      have := some.inj ht
      omega
    · rw [if_neg hr] at hsome
      obtain ⟨hbound, htimer⟩ := hn.object r timing hsome
      exact ⟨by omega, fun t ht => Nat.lt_of_lt_of_le (htimer t ht) (by omega)⟩

/-- A new stream has one timer. -/
theorem OneTimer.store (ho : OneTimer b) (hn : Named b) {s : Nat}
    (hfree : b.streams.get? s = none) (state : StreamState) (opening : Nat) :
    OneTimer (b.storeStream s state opening) := by
  have hstreams : (b.storeStream s state opening).streams = b.streams.set s b.fresh := rfl
  constructor
  · intro s' r hget
    rw [hstreams, get?_set] at hget
    by_cases hs : s' = s
    · rw [if_pos hs] at hget
      have hr : b.fresh = r := some.inj hget
      refine ⟨b.fresh + 1, b.now, ?_, ?_⟩
      · rw [timing_store, if_pos hr.symm]
      · rw [timers_store, update_self, hs]
    · rw [if_neg hs] at hget
      obtain ⟨t, refreshedAt, htiming, hArmed⟩ := ho.stored s' r hget
      have hr : r ≠ b.fresh := Nat.ne_of_lt (hn.object r _ htiming).1
      have ht : t ≠ b.fresh + 1 := by
        have := hn.timer t _ hArmed
        omega
      refine ⟨t, refreshedAt, ?_, ?_⟩
      · rw [timing_store, if_neg hr]
        exact htiming
      · rw [timers_store, update_of_ne ht]
        exact hArmed
  · intro t armed hArmed
    rw [timers_store] at hArmed
    by_cases ht : t = b.fresh + 1
    · rw [ht, update_self] at hArmed
      rw [← some.inj hArmed, ht]
      refine ⟨b.fresh, b.now, ?_, ?_⟩
      · rw [hstreams, get?_set, if_pos rfl]
      · rw [timing_store, if_pos rfl]
    · rw [update_of_ne ht] at hArmed
      obtain ⟨r, refreshedAt, hget, htiming⟩ := ho.armed t armed hArmed
      have hs : armed.stream ≠ s := by
        intro hs
        rw [hs, hfree] at hget
        exact nomatch hget
      have hr : r ≠ b.fresh := Nat.ne_of_lt (hn.object r _ htiming).1
      refine ⟨r, refreshedAt, ?_, ?_⟩
      · rw [hstreams, get?_set, if_neg hs]
        exact hget
      · rw [timing_store, if_neg hr]
        exact htiming

/-- A fired timer ends its stream. -/
theorem OneTimer.idle (ho : OneTimer b) {t : Nat} {armed : IdleTimer}
    (hArmed : b.timers t = some armed) :
    OneTimer ({ b with timers := update b.timers t none }.onStreamIdle armed.stream) := by
  obtain ⟨r, refreshedAt, hget, htiming⟩ := ho.armed t armed hArmed
  obtain ⟨o, hobject, _⟩ := map_eq_some_iff.mp htiming
  have hst : { b with timers := update b.timers t none }.stored armed.stream = some (r, o) := by
    unfold PilotTunnelBridge.stored
    rw [hget, bind_some, hobject]
    rfl
  unfold onStreamIdle
  rw [hst]
  apply (sameTimers_send _ _).oneTimer
  have hdown := sameTimers_teardownState { b with timers := update b.timers t none } r o.state
  apply ho.without hget htiming
  · change (teardownState _ r o.state).streams.erase armed.stream = _
    rw [hdown.streams]
  · change (teardownState _ r o.state).timers = _
    rw [hdown.timers]
  · exact fun r' _ => hdown.timing r'

theorem Named.idle (hn : Named b) (t s : Nat) :
    Named ({ b with timers := update b.timers t none }.onStreamIdle s) := by
  have hfired : Named { b with timers := update b.timers t none } := by
    constructor
    · intro t' armed hArmed
      change update b.timers t none t' = some armed at hArmed
      by_cases ht : t' = t
      · rw [ht, update_self] at hArmed
        exact nomatch hArmed
      · rw [update_of_ne ht] at hArmed
        exact hn.timer t' armed hArmed
    · exact hn.object
  unfold onStreamIdle
  cases { b with timers := update b.timers t none }.stored s with
  | none => exact hfired
  | some entry =>
    apply (sameTimers_send _ _).named
    exact ((sameTimers_teardownState _ entry.1 entry.2.state).named hfired).delete s

/-- The body of the loop over the streams of a bridge that closes. -/
def closeEntry (b : PilotTunnelBridge) (e : Nat × Nat) : PilotTunnelBridge :=
  (b.clearIdleTimer e.2).teardownStream e.2

theorem Named.closeEntries (hn : Named b) (entries : List (Nat × Nat)) :
    Named (entries.foldl closeEntry b) :=
  List.foldlRecOn entries closeEntry hn fun _ ht e _ =>
    (sameTimers_teardownStream _ e.2).named (ht.clear e.2)

/-- The loop leaves no timer of the states it has seen. -/
theorem closeEntries_timers (entries : List (Nat × Nat))
    (h : ∀ t armed, b.timers t = some armed → ∃ e ∈ entries, ∃ refreshedAt,
      b.timing e.2 = some (some t, refreshedAt)) :
    ∀ t, (entries.foldl closeEntry b).timers t = none := by
  induction entries generalizing b with
  | nil =>
    intro t
    cases hArmed : b.timers t with
    | none => exact hArmed
    | some armed =>
      obtain ⟨e, he, _⟩ := h t armed hArmed
      exact nomatch he
  | cons e entries ih =>
    apply ih
    intro t armed hArmed
    have hdown := sameTimers_teardownStream (b.clearIdleTimer e.2) e.2
    have hclear := timing_modify b (b.clearIdleTimer e.2) none id rfl (fun _ => ⟨rfl, rfl⟩)
    unfold closeEntry at hArmed ⊢
    rw [hdown.timers] at hArmed
    obtain ⟨e', he', refreshedAt, htiming⟩ := h t armed (clearTimeout_some hArmed)
    have hne : e'.2 ≠ e.2 := by
      intro heq
      rw [heq] at htiming
      change b.clearTimeout e.2 t = some armed at hArmed
      rw [clearTimeout_of_timing htiming, update_self] at hArmed
      exact nomatch hArmed
    have hmem : e' ∈ entries := by
      rcases List.mem_cons.mp he' with rfl | hmem
      · exact absurd rfl hne
      · exact hmem
    refine ⟨e', hmem, refreshedAt, ?_⟩
    rw [hdown.timing, hclear, if_neg hne]
    exact htiming

theorem Named.close (hn : Named b) : Named b.close := by
  unfold PilotTunnelBridge.close
  by_cases hclosed : b.closed = true
  · rw [if_pos hclosed]
    exact hn
  · rw [if_neg hclosed]
    have hstart : Named { b with closed := true } := ⟨hn.timer, hn.object⟩
    exact ⟨(hstart.closeEntries b.streams.entries).timer,
      (hstart.closeEntries b.streams.entries).object⟩

/-- Closing disarms every timer. -/
theorem OneTimer.close (ho : OneTimer b) : OneTimer b.close := by
  unfold PilotTunnelBridge.close
  by_cases hclosed : b.closed = true
  · rw [if_pos hclosed]
    exact ho
  · rw [if_neg hclosed]
    have hnone := closeEntries_timers (b := { b with closed := true }) b.streams.entries (by
      intro t armed hArmed
      obtain ⟨r, refreshedAt, hget, htiming⟩ := ho.armed t armed hArmed
      exact ⟨(armed.stream, r), (get?_eq_some_iff _ _ _).mp hget, refreshedAt, htiming⟩)
    constructor
    · intro s r hget
      exact nomatch hget
    · intro t armed hArmed
      exact nomatch (hnone t).symm.trans hArmed

/-- A timer that stays armed for a stream that is gone, or whose state was replaced. -/
theorem leaked {t : Nat} {armed : IdleTimer} (hArmed : b'.timers t = some armed)
    (hother : ∀ r refreshedAt, b'.streams.get? armed.stream = some r →
      b'.timing r ≠ some (some t, refreshedAt)) : ¬ OneTimer b' := by
  intro ho
  obtain ⟨r, refreshedAt, hget, htiming⟩ := ho.armed t armed hArmed
  exact hother r refreshedAt hget htiming

/-- A bare delete leaves a timer. -/
theorem delete_leaks (ho : OneTimer b) {s : Nat} (hst : b.streams.get? s ≠ none)
    (hsame : SameTimers (b.deleteStream s) b') : ¬ OneTimer b' := by
  obtain ⟨r, hget⟩ := ne_none_iff_exists'.mp hst
  obtain ⟨t, refreshedAt, _, hArmed⟩ := ho.stored s r hget
  apply @leaked _ t ⟨s, refreshedAt + streamIdleTimeoutMs⟩
  · rw [hsame.timers]
    exact hArmed
  · intro r' _ hget'
    rw [hsame.streams] at hget'
    change (b.streams.erase s).get? s = some r' at hget'
    rw [get?_erase, if_pos rfl] at hget'
    exact nomatch hget'

/-- A replaced state leaves a timer. -/
theorem store_leaks (ho : OneTimer b) (hn : Named b) {s : Nat} (hst : b.streams.get? s ≠ none)
    {state : StreamState} {opening : Nat} (hsame : SameTimers (b.storeStream s state opening) b') :
    ¬ OneTimer b' := by
  obtain ⟨r, hget⟩ := ne_none_iff_exists'.mp hst
  obtain ⟨t, refreshedAt, _, hArmed⟩ := ho.stored s r hget
  have ht : t < b.fresh := hn.timer t _ hArmed
  apply @leaked _ t ⟨s, refreshedAt + streamIdleTimeoutMs⟩
  · rw [hsame.timers, timers_store, update_of_ne (by omega)]
    exact hArmed
  · intro r' refreshedAt' hget' htiming'
    rw [hsame.streams] at hget'
    change (b.streams.set s b.fresh).get? s = some r' at hget'
    rw [get?_set, if_pos rfl] at hget'
    rw [hsame.timing, timing_store, if_pos (some.inj hget').symm] at htiming'
    have hfst := some.inj (congrArg Prod.fst (some.inj htiming'))
    omega

end Kept

/-- A state that bridges no stream of an agent. -/
def Forward : StreamState → Prop
  | .reverseLocal .. | .reverseRelay .. => False
  | _ => True

/-- A relation between bridges that the small steps of the handlers keep. -/
structure Carried (R : PilotTunnelBridge → PilotTunnelBridge → Prop) : Prop where
  refl : ∀ b, R b b
  trans : ∀ {b b' b''}, R b b' → R b' b'' → R b b''
  sends : ∀ b frame, R b (b.send frame)
  emits : ∀ b r event, R b (b.emit r event)
  stages : ∀ b n stage, R b (b.setStage n stage)
  removes : ∀ b s, R b (b.removeStream s)
  tearsDown : ∀ b r, R b (b.teardownStream r)
  destroysSocket : ∀ b k, R b (b.destroySocket k)
  destroysTarget : ∀ b k, R b (b.destroyTarget k)
  refreshes : ∀ {b s r}, b.streams.get? s = some r → R b (b.refreshIdleTimer s r)
  setsForward : ∀ {b r o state}, b.objects r = some o → Forward o.state → Forward state →
    R b (b.setState r state)
  endsSocket : ∀ {b k socket}, b.sockets k = some socket → ∀ closeEmitted,
    R b (b.setSocket k { socket with ended := true, closeEmitted })
  losesTarget : ∀ {b k target}, b.targets k = some target →
    R b (b.setTarget k { target with gone := true })

section Carried

variable {R : PilotTunnelBridge → PilotTunnelBridge → Prop} (hR : Carried R)
variable {b : PilotTunnelBridge}

theorem get?_of_stored {o : StreamObject} (h : b.stored s = some (r, o)) :
    b.streams.get? s = some r ∧ b.objects r = some o := by
  obtain ⟨r', hget, hmap⟩ := bind_eq_some_iff.mp h
  obtain ⟨o', hobject, hpair⟩ := map_eq_some_iff.mp hmap
  have hr : r' = r := congrArg Prod.fst hpair
  have ho : o' = o := congrArg Prod.snd hpair
  rw [← hr, ← ho]
  exact ⟨hget, hobject⟩

theorem get?_of_reservationOf (h : b.reservationOf s = some r) : b.streams.get? s = some r := by
  obtain ⟨entry, hst, hstate⟩ := bind_eq_some_iff.mp h
  have hr : entry.1 = r := by
    split at hstate
    · exact some.inj hstate
    · exact nomatch hstate
  rw [← hr]
  exact (get?_of_stored (r := entry.1) (o := entry.2) hst).1

theorem get?_of_relayOf {s : Nat} {entry : Nat × StreamObject} (h : b.relayOf s = some entry) :
    b.streams.get? s = some entry.1 := by
  obtain ⟨entry', hst, hstate⟩ := bind_eq_some_iff.mp h
  have hent : entry' = entry := by
    split at hstate
    · exact some.inj hstate
    · exact nomatch hstate
  rw [← hent]
  exact (get?_of_stored (r := entry'.1) (o := entry'.2) hst).1

include hR

theorem Carried.send (h : R b b') (frame : Frame) : R b (b'.send frame) :=
  hR.trans h (hR.sends b' frame)

theorem Carried.emit (h : R b b') (r : Nat) (event : HandleEvent) :
    R b (b'.emit r event) := hR.trans h (hR.emits b' r event)

/-- A message of a stored stream refreshes its timer. -/
theorem Carried.passes (hget : b.streams.get? s = some r) (frame : Frame) :
    R b ((b.send frame).refreshIdleTimer s r) :=
  hR.trans (hR.sends b frame) (hR.refreshes (b := b.send frame) hget)

section

variable (b : PilotTunnelBridge)

theorem Carried.refuse (s reservation : Nat) : R b (b.refuse s reservation) := by
  unfold PilotTunnelBridge.refuse
  split
  · exact hR.send (hR.removes b s) _
  · exact hR.sends b _

theorem Carried.closeTcpStream (s : Nat) : R b (b.closeTcpStream s) := by
  unfold PilotTunnelBridge.closeTcpStream
  split
  · exact hR.send (hR.removes b s) _
  · exact hR.refl b

theorem Carried.writeTcpData (s : Nat) (bytes : List UInt8) : R b (b.writeTcpData s bytes) := by
  unfold PilotTunnelBridge.writeTcpData
  split
  · rename_i hst
    split
    · exact hR.passes (get?_of_stored hst).1 _
    · exact hR.refl b
  · exact hR.refl b

theorem Carried.loopbackEvent (s : Nat) (event : LoopbackEvent) :
    R b (b.loopbackEvent s event) := by
  cases hget : b.streams.get? s with
  | none =>
    cases event <;> simp only [PilotTunnelBridge.loopbackEvent, hget]
    case clientText | clientBinary => exact hR.sends b _
    all_goals exact hR.refl b
  | some r =>
    cases event <;> simp only [PilotTunnelBridge.loopbackEvent, hget]
    case reqData => exact hR.passes hget _
    case reqEnd => exact hR.sends b _
    case reqError | upgradeError => exact hR.trans (hR.tearsDown b r) (hR.removes _ s)
    case reqAborted | resClose =>
      exact hR.trans (hR.send (hR.sends b _) _) (hR.removes _ s)
    case upgradeClose | clientClose => exact hR.trans (hR.sends b _) (hR.removes _ s)
    case clientText | clientBinary => exact hR.send (hR.refreshes hget) _
    case clientError => exact hR.removes b s

theorem Carried.imported (n : Nat) (imported : Imported) : R b (step b (.imported n imported)) := by
  simp only [step]
  unfold dispatchEvent
  cases b.dispatches n with
  | none => exact hR.refl b
  | some d =>
    dsimp only
    unfold onImported
    split
    · cases imported with
      | failed => exact hR.trans (hR.stages b n _) (hR.refuse _ d.stream d.reservation)
      | localNode | otherNode =>
        unfold resumeImport
        cases b.reservationOf d.stream <;> exact hR.stages b n _
    · exact hR.refl b

theorem Carried.teardownSocket (k s : Nat) : R b (b.teardownSocket k s) := by
  unfold PilotTunnelBridge.teardownSocket
  split
  · exact hR.send (hR.trans (hR.removes b s) (hR.destroysSocket _ k)) _
  · exact hR.refl b

theorem Carried.socketData (socket : LocalSocket) (bytes : List UInt8) :
    R b (b.socketData socket bytes) := by
  unfold PilotTunnelBridge.socketData
  split
  · cases hreservation : b.reservationOf socket.stream with
    | none => exact hR.refl b
    | some r => exact hR.passes (get?_of_reservationOf hreservation) _
  · exact hR.refl b

end

theorem Carried.socketClose {k : Nat} {socket : LocalSocket} (hsocket : b.sockets k = some socket) :
    R b (b.socketClose k socket) := by
  unfold PilotTunnelBridge.socketClose
  split
  · exact hR.trans (hR.endsSocket hsocket true) (hR.teardownSocket _ k _)
  · exact hR.refl b

theorem Carried.targetData (b : PilotTunnelBridge) (target : RelayTarget) (bytes : List UInt8) :
    R b (b.targetData target bytes) := by
  unfold PilotTunnelBridge.targetData
  split
  · exact hR.refl b
  · cases hrelay : b.relayOf target.stream with
    | none => exact hR.refl b
    | some entry => exact hR.passes (get?_of_relayOf hrelay) _

theorem Carried.targetClose {k : Nat} {target : RelayTarget} (htarget : b.targets k = some target) :
    R b (b.targetClose k target) := by
  unfold PilotTunnelBridge.targetClose
  split
  · exact hR.refl b
  · dsimp only
    split
    · exact hR.send (hR.trans (hR.losesTarget htarget) (hR.removes _ _)) _
    · exact hR.losesTarget htarget

/-- A frame of a request or a WebSocket stores a new state of its stream. -/
theorem Carried.stores {o : StreamObject} {state : StreamState}
    (hst : b.stored s = some (r, o)) (hbefore : Forward o.state) (hafter : Forward state) :
    R b ((b.setState r state).refreshIdleTimer s r) :=
  hR.trans (hR.setsForward (get?_of_stored hst).2 hbefore hafter)
    (hR.refreshes (b := b.setState r state) (get?_of_stored hst).1)

theorem Carried.handleJsonFrame (frame : JsonFrame)
    (hreverse : ∀ s, frame = .tcpOpenReverse s → R b (b.handleTcpOpenReverse s)) :
    R b (b.handleJsonFrame frame) := by
  unfold PilotTunnelBridge.handleJsonFrame
  cases frame with
  | httpRes s =>
    dsimp only
    split
    · next hst => exact hR.stores hst trivial trivial
    · exact hR.refl b
  | httpResEnd s | wsReject s | wsClose s =>
    dsimp only
    split
    · exact hR.removes b s
    · exact hR.refl b
  | httpErr s =>
    dsimp only
    split
    · exact hR.refl b
    · exact hR.removes b s
    · exact hR.trans (hR.tearsDown b _) (hR.removes _ s)
  | wsAccept s upgraded =>
    dsimp only
    split
    · next hst =>
        split
        · exact hR.stores hst trivial trivial
        · exact hR.refl b
    · exact hR.refl b
  | wsMsgText s =>
    dsimp only
    split
    · exact hR.refreshes (get?_of_stored ‹_›).1
    · exact hR.refl b
  | tcpOpenAck s ok =>
    dsimp only
    split
    · next hst =>
        split
        · apply hR.emit
          exact hR.stores hst trivial trivial
        · exact hR.emit (hR.emit (hR.removes b s) _ _) _ _
    · exact hR.refl b
  | tcpOpenReverse s => exact hreverse s rfl
  | tcpClose s =>
    dsimp only
    split
    · exact hR.emit (hR.removes b s) _ _
    · rename_i socket _ _ _ _ _ _
      cases socket with
      | none => exact hR.removes b s
      | some k => exact hR.trans (hR.removes b s) (hR.destroysSocket _ k)
    · exact hR.trans (hR.removes b s) (hR.destroysTarget _ _)
    · exact hR.refl b
  | other => exact hR.refl b

theorem Carried.handleBinaryFrame (frame : BinaryFrame) (hdata : ∀ s r o bytes,
      frame = .tcpData s bytes → b.stored s = some (r, o) → R b (b.handleTcpData s r o bytes)) :
    R b (b.handleBinaryFrame frame) := by
  unfold PilotTunnelBridge.handleBinaryFrame
  cases frame with
  | httpResBody s =>
    dsimp only
    split
    · next hst => exact hR.stores hst trivial trivial
    · exact hR.refl b
  | wsMessageBinary s =>
    dsimp only
    split
    · exact hR.refreshes (get?_of_stored ‹_›).1
    · exact hR.refl b
  | tcpData s bytes =>
    dsimp only
    cases hst : b.stored s with
    | none => exact hR.refl b
    | some entry => exact hdata s entry.1 entry.2 bytes rfl hst
  | other => exact hR.refl b

end Carried

/-- A handler that keeps names and timers in order. -/
structure Tidy (b b' : PilotTunnelBridge) : Prop where
  named : Named b → Named b'
  oneTimer : Named b → OneTimer b → OneTimer b'

theorem Tidy.refl : Tidy b b := ⟨id, fun _ ho => ho⟩

theorem Tidy.trans {b b' b'' : PilotTunnelBridge} (h : Tidy b b') (h' : Tidy b' b'') :
    Tidy b b'' where
  named := fun hn => h'.named (h.named hn)
  oneTimer := fun hn ho => h'.oneTimer (h.named hn) (h.oneTimer hn ho)

theorem SameTimers.tidy {b b' : PilotTunnelBridge} (h : SameTimers b b') : Tidy b b' :=
  ⟨h.named, fun _ => h.oneTimer⟩

theorem tidy_remove (s : Nat) : Tidy b (b.removeStream s) :=
  ⟨fun hn => hn.remove s, fun _ ho => ho.remove s⟩

theorem tidy_refresh {b : PilotTunnelBridge} (hget : b.streams.get? s = some r) :
    Tidy b (b.refreshIdleTimer s r) :=
  ⟨fun hn => hn.refresh s r, fun hn ho => ho.refresh hn hget⟩

theorem tidy_store {b : PilotTunnelBridge} {s : Nat} (hfree : b.streams.get? s = none)
    (state : StreamState) (opening : Nat) : Tidy b (b.storeStream s state opening) :=
  ⟨fun hn => hn.store s state opening, fun hn ho => ho.store hn hfree state opening⟩

section

variable {b b' : PilotTunnelBridge} (h : Tidy b b')
include h

/-- Where names and timers are in order after a handler, a message may follow. -/
theorem Tidy.send (frame : Frame) :
    Tidy b (b'.send frame) := h.trans (sameTimers_send b' frame).tidy

theorem Tidy.emit (r : Nat) (event : HandleEvent) :
    Tidy b (b'.emit r event) := h.trans (sameTimers_emit b' r event).tidy

end

/-- Tidy calls compose. -/
theorem carried_tidy : Carried Tidy where
  refl := Tidy.refl
  trans := Tidy.trans
  sends := fun b frame => (sameTimers_send b frame).tidy
  emits := fun b r event => (sameTimers_emit b r event).tidy
  stages := fun b n stage => (sameTimers_setStage b n stage).tidy
  removes := tidy_remove
  tearsDown := fun b r => (sameTimers_teardownStream b r).tidy
  destroysSocket := fun b k => (sameTimers_destroySocket b k).tidy
  destroysTarget := fun b k => (sameTimers_destroyTarget b k).tidy
  refreshes := tidy_refresh
  setsForward := fun {b r _ state} _ _ _ => (sameTimers_setState b r state).tidy
  endsSocket := fun {b k _} _ _ => (sameTimers_setSocket b k _).tidy
  losesTarget := fun {b k _} _ => (sameTimers_setTarget b k _).tidy

section Handlers

variable {b : PilotTunnelBridge}

theorem tidy_dropStream (b : PilotTunnelBridge) (s : Nat) : Tidy b (b.dropStream s) :=
  (tidy_remove b s).send _

theorem tidy_openForward (b : PilotTunnelBridge) (state : StreamState) (frame : Nat → Frame)
    (hfree : b.streams.get? b.streamIds.next = none) : Tidy b (b.openForward state frame) := by
  have hallocate : SameTimers b { b with streamIds := b.streamIds.allocate } :=
    ⟨rfl, rfl, fun _ => rfl, .refl⟩
  exact (hallocate.tidy.trans
    (tidy_store (b := { b with streamIds := b.streamIds.allocate }) hfree state b.fresh)).send _

theorem tidy_handleTcpOpenReverse (b : PilotTunnelBridge) (s : Nat) :
    Tidy b (b.handleTcpOpenReverse s) := by
  unfold handleTcpOpenReverse
  split
  · exact (Tidy.refl b).send _
  split
  · exact (Tidy.refl b).send _
  · rename_i _ hfree
    have hget : b.streams.get? s = none := by
      cases hget : b.streams.get? s with
      | none => rfl
      | some r => exact absurd (by rw [hget]; rfl) hfree
    have hstore := (sameTimers_newBuffer b).tidy.trans
      (tidy_store (b := b.newBuffer) hget (.reverseLocal none b.fresh 0) b.newBuffer.fresh)
    exact (hstore.trans (sameTimers_clearReceived _ _).tidy).trans (sameTimers_newDispatch _ _).tidy

theorem tidy_resumeResolve (b : PilotTunnelBridge) (n : Nat) (d : Dispatch) (state : Nat)
    (resolved : Resolved) : Tidy b (b.resumeResolve n d state resolved) := by
  have hstage := (sameTimers_setStage b n .settled).tidy
  cases resolved with
  | failed => exact hstage.trans (carried_tidy.refuse _ d.stream d.reservation)
  | notFound => exact hstage.trans (carried_tidy.refuse _ d.stream state)
  | address =>
    unfold resumeResolve
    dsimp only
    split
    · split
      · exact hstage.trans ((sameTimers_newSocket _ _).trans (sameTimers_setState _ state _)).tidy
      · exact hstage
    · exact hstage

theorem tidy_handleTcpData (hget : b.streams.get? s = some r) (o : StreamObject)
    (bytes : List UInt8) : Tidy b (b.handleTcpData s r o bytes) := by
  have hrecv : ∀ p, Tidy b ((b.receive o.opening p).refreshIdleTimer s r) := fun p =>
    (sameTimers_receive b o.opening p).tidy.trans (tidy_refresh (b := b.receive o.opening p) hget)
  unfold handleTcpData
  split
  · exact (tidy_refresh hget).emit r .data
  · split
    · exact (hrecv _).trans (sameTimers_writeLocal _ r _).tidy
    · split
      · exact (hrecv _).trans (tidy_dropStream _ s)
      · exact (hrecv _).trans ((sameTimers_push _ _ _).trans (sameTimers_setState _ r _)).tidy
  · split
    · exact (hrecv _).trans (sameTimers_writeTarget _ _ _).tidy
    · split
      · exact (hrecv _).trans (tidy_dropStream _ s)
      · exact (hrecv _).trans ((sameTimers_push _ _ _).trans (sameTimers_setState _ r _)).tidy
  · exact Tidy.refl b

theorem tidy_binaryFrame (b : PilotTunnelBridge) (frame : BinaryFrame) :
    Tidy b (b.binaryFrame frame) := by
  have hframe : Tidy b (b.handleBinaryFrame frame) := by
    apply carried_tidy.handleBinaryFrame
    intro s r o bytes _ hst
    exact tidy_handleTcpData (get?_of_stored hst).1 o bytes
  exact hframe.trans (SameTimers.tidy ⟨rfl, rfl, fun _ => rfl, .refl⟩)

theorem tidy_socketConnect (b : PilotTunnelBridge) (k : Nat) (socket : LocalSocket) :
    Tidy b (b.socketConnect k socket) := by
  unfold socketConnect
  split
  · exact Tidy.refl b
  · exact ((sameTimers_setSocket b k _).trans (sameTimers_flushLocal _ _)).tidy.send _

theorem tidy_targetOpen (b : PilotTunnelBridge) (k : Nat) (target : RelayTarget) :
    Tidy b (b.targetOpen k target) := by
  unfold targetOpen
  split
  · exact Tidy.refl b
  · exact ((sameTimers_setTarget b k _).trans (sameTimers_openRelay _ _)).tidy

/-- A timer that fires is tidy. -/
theorem tidy_timeout (b : PilotTunnelBridge) (t : Nat) : Tidy b (b.timeout t) := by
  unfold timeout
  cases hArmed : b.timers t with
  | none => exact Tidy.refl b
  | some armed =>
    dsimp only
    by_cases hdue : armed.due ≤ b.now
    · rw [if_pos hdue]
      exact ⟨fun hn => hn.idle t armed.stream, fun _ ho => ho.idle hArmed⟩
    · rw [if_neg hdue]
      exact Tidy.refl b

end Handlers

/-- The steps that take a state out of the map and leave its timer armed. -/
def Leaks : BridgeEvent → Prop
  | .openTcpStream | .loopbackRequest | .loopbackUpgrade =>
    (b.isOpen && !b.full) = true ∧ b.streams.get? b.streamIds.next ≠ none
  | .ensured n .stream => ∃ d reservation socket pendingData pendingBytes,
      b.dispatches n = some d ∧ d.stage = .ensuringBridge reservation ∧
      b.streams.get? d.stream = some reservation ∧
      b.stateOf reservation = some (.reverseLocal socket pendingData pendingBytes)
  | .socket k .error => ∃ socket, b.sockets k = some socket ∧ socket.ended = false ∧
      socket.connected = false ∧ b.streams.get? socket.stream ≠ none
  | .target k .failed => ∃ target, b.targets k = some target ∧ target.gone = false ∧
      b.streams.get? target.stream ≠ none
  | _ => False

section Leaking

variable {b : PilotTunnelBridge}

/-- A step either keeps the timers in order or leaks one. -/
structure Outcome (b b' : PilotTunnelBridge) (leaks : Prop) : Prop where
  tidy : ¬ leaks → Tidy b b'
  named : Named b → Named b'
  lost : leaks → Named b → OneTimer b → ¬ OneTimer b'

theorem Outcome.of_tidy {leaks : Prop} (h : Tidy b b') (hno : ¬ leaks) :
    Outcome b b' leaks := ⟨fun _ => h, h.named, fun hleaks => absurd hleaks hno⟩

theorem outcome_openForward (state : StreamState) (frame : Nat → Frame) :
    Outcome b (if b.isOpen && !b.full then b.openForward state frame else b)
      ((b.isOpen && !b.full) = true ∧ b.streams.get? b.streamIds.next ≠ none) := by
  by_cases hopen : (b.isOpen && !b.full) = true
  · rw [if_pos hopen]
    have hallocate : SameTimers b { b with streamIds := b.streamIds.allocate } :=
      ⟨rfl, rfl, fun _ => rfl, .refl⟩
    refine ⟨?_, ?_, ?_⟩
    · intro hno
      apply tidy_openForward
      by_contra hst
      exact hno ⟨hopen, hst⟩
    · intro hn
      exact (sameTimers_send _ _).named ((hallocate.named hn).store _ state b.fresh)
    · intro hleaks hn ho
      exact store_leaks (hallocate.oneTimer ho) (hallocate.named hn) hleaks.2 (sameTimers_send _ _)
  · rw [if_neg hopen]
    exact Outcome.of_tidy (Tidy.refl b) fun hleaks => hopen hleaks.1

theorem outcome_socketError {k : Nat} {socket : LocalSocket} (hsocket : b.sockets k = some socket) :
    Outcome b (b.socketError k socket) (Leaks b (.socket k .error)) := by
  have hiff : Leaks b (.socket k .error) ↔ socket.ended = false ∧ socket.connected = false ∧
      b.streams.get? socket.stream ≠ none := by
    constructor
    · rintro ⟨socket', hsocket', hrest⟩
      rw [hsocket] at hsocket'
      rw [some.inj hsocket']
      exact hrest
    · intro hrest
      exact ⟨socket, hsocket, hrest⟩
  rw [hiff]
  unfold socketError
  have hset := sameTimers_setSocket b k { socket with ended := true }
  by_cases hended : socket.ended = true
  · rw [if_pos hended]
    apply Outcome.of_tidy (Tidy.refl b)
    rintro ⟨hlive, _⟩
    rw [hended] at hlive
    exact nomatch hlive
  rw [if_neg hended]
  by_cases hconnected : socket.connected = true
  · rw [if_pos hconnected]
    apply Outcome.of_tidy (hset.tidy.trans (carried_tidy.teardownSocket _ k _))
    rintro ⟨_, hdialing, _⟩
    rw [hconnected] at hdialing
    exact nomatch hdialing
  rw [if_neg hconnected]
  change Outcome b (if (b.streams.get? socket.stream).isSome then _ else _) _
  cases hget : b.streams.get? socket.stream with
  | none => exact Outcome.of_tidy hset.tidy fun hleaks => hleaks.2.2 rfl
  | some r =>
    have hst : b.streams.get? socket.stream ≠ none := by
      rw [hget]
      exact nofun
    refine ⟨?_, ?_, ?_⟩
    · intro hno
      exact absurd ⟨Bool.eq_false_iff.mpr hended, Bool.eq_false_iff.mpr hconnected, nofun⟩ hno
    · exact fun hn => (sameTimers_send _ _).named ((hset.named hn).delete _)
    · exact fun _ _ ho => delete_leaks (hset.oneTimer ho) hst (sameTimers_send _ _)

theorem outcome_targetFailed {k : Nat} {target : RelayTarget}
    (htarget : b.targets k = some target) :
    Outcome b (b.targetFailed k target) (Leaks b (.target k .failed)) := by
  have hiff : Leaks b (.target k .failed) ↔ target.gone = false ∧
      b.streams.get? target.stream ≠ none := by
    constructor
    · rintro ⟨target', htarget', hrest⟩
      rw [htarget] at htarget'
      rw [some.inj htarget']
      exact hrest
    · intro hrest
      exact ⟨target, htarget, hrest⟩
  rw [hiff]
  unfold targetFailed
  have hset := sameTimers_setTarget b k { target with gone := true }
  by_cases hgone : target.gone = true
  · rw [if_pos hgone]
    apply Outcome.of_tidy (Tidy.refl b)
    rintro ⟨hlive, _⟩
    rw [hgone] at hlive
    exact nomatch hlive
  rw [if_neg hgone]
  change Outcome b (if (b.streams.get? target.stream).isSome then _ else _) _
  cases hget : b.streams.get? target.stream with
  | none => exact Outcome.of_tidy hset.tidy fun hleaks => hleaks.2 rfl
  | some r =>
    have hst : b.streams.get? target.stream ≠ none := by
      rw [hget]
      exact nofun
    refine ⟨?_, ?_, ?_⟩
    · intro hno
      exact absurd ⟨Bool.eq_false_iff.mpr hgone, nofun⟩ hno
    · exact fun hn => (sameTimers_send _ _).named ((hset.named hn).delete _)
    · exact fun _ _ ho => delete_leaks (hset.oneTimer ho) hst (sameTimers_send _ _)

theorem outcome_ensured {n : Nat} {d : Dispatch} (hd : b.dispatches n = some d)
    (ensured : Ensured) :
    Outcome b (b.onEnsured n ensured d) (Leaks b (.ensured n ensured)) := by
  unfold onEnsured
  cases hstage : d.stage with
  | importing | resolving | settled =>
    apply Outcome.of_tidy (Tidy.refl b)
    cases ensured with
    | stream =>
      rintro ⟨d', _, _, _, _, hd', hstage', _⟩
      rw [hd] at hd'
      rw [← some.inj hd', hstage] at hstage'
      cases hstage'
    | noStream | noBridge | failed => exact fun hleaks => hleaks
  | ensuringBridge reservation =>
    have hset := sameTimers_setStage b n .settled
    cases ensured with
    | failed =>
      exact Outcome.of_tidy (hset.tidy.trans (carried_tidy.refuse _ d.stream d.reservation)) id
    | noBridge =>
      exact Outcome.of_tidy (hset.tidy.trans (carried_tidy.refuse _ d.stream reservation)) fun h => h
    | noStream =>
      apply Outcome.of_tidy _ fun h => h
      unfold resumeEnsureBridge
      dsimp only
      split
      · exact hset.tidy.trans (carried_tidy.refuse _ d.stream reservation)
      · exact hset.tidy
    | stream =>
      have hiff : Leaks b (.ensured n .stream) ↔ ∃ socket pendingData pendingBytes,
          b.streams.get? d.stream = some reservation ∧
          b.stateOf reservation = some (.reverseLocal socket pendingData pendingBytes) := by
        constructor
        · rintro ⟨d', reservation', socket, p, pb, hd', hstage', hget, hstate⟩
          rw [hd] at hd'
          rw [← some.inj hd'] at hstage' hget
          rw [hstage] at hstage'
          cases hstage'
          exact ⟨socket, p, pb, hget, hstate⟩
        · rintro ⟨socket, p, pb, hget, hstate⟩
          exact ⟨d, reservation, socket, p, pb, hd, hstage, hget, hstate⟩
      rw [hiff]
      unfold resumeEnsureBridge
      dsimp only
      have hstreams : (b.setStage n .settled).streams = b.streams := rfl
      have hobjects : (b.setStage n .settled).objects = b.objects := rfl
      by_cases hget : b.streams.get? d.stream = some reservation
      · rw [hstreams, hobjects, if_pos hget]
        split
        · rename_i socket pendingData pendingBytes _ _ opening hobject
          have hnew := hset.trans (sameTimers_newTarget _ ⟨d.stream, false, false, []⟩)
          have hleaks : ∃ socket pendingData pendingBytes,
              b.streams.get? d.stream = some reservation ∧
              b.stateOf reservation = some (.reverseLocal socket pendingData pendingBytes) := by
            refine ⟨socket, pendingData, pendingBytes, hget, ?_⟩
            unfold stateOf
            rw [hobject]
            rfl
          refine ⟨fun hno => absurd hleaks hno, fun hn => (hnew.named hn).store _ _ _, ?_⟩
          intro _ hn ho
          apply store_leaks (hnew.oneTimer ho) (hnew.named hn) _ (SameTimers.refl _)
          change b.streams.get? d.stream ≠ none
          rw [hget]
          exact some_ne_none reservation
        · rename_i hother
          apply Outcome.of_tidy hset.tidy
          rintro ⟨socket, p, pb, _, hstate⟩
          obtain ⟨o, hobject, ho⟩ := map_eq_some_iff.mp hstate
          obtain ⟨state, idleTimer, refreshedAt, opening⟩ := o
          change state = _ at ho
          rw [ho] at hobject
          exact hother _ _ _ _ _ _ hobject
      · rw [hstreams, if_neg hget]
        exact Outcome.of_tidy hset.tidy fun hleaks => by
          obtain ⟨_, _, _, hst, _⟩ := hleaks
          exact hget hst

/-- An event is tidy, or leaks. -/
theorem outcome_step (b : PilotTunnelBridge) (e : BridgeEvent) :
    Outcome b (step b e) (Leaks b e) := by
  cases e with
  | elapse ms | wsClosing =>
    exact Outcome.of_tidy (SameTimers.tidy ⟨rfl, rfl, fun _ => rfl, .refl⟩) id
  | timeout t => exact Outcome.of_tidy (tidy_timeout b t) id
  | close => exact Outcome.of_tidy ⟨fun hn => hn.close, fun _ ho => ho.close⟩ id
  | openTcpStream | loopbackRequest | loopbackUpgrade => exact outcome_openForward _ _
  | loopback s event => exact Outcome.of_tidy (carried_tidy.loopbackEvent b s event) id
  | writeTcpData s bytes => exact Outcome.of_tidy (carried_tidy.writeTcpData b s bytes) id
  | closeTcpStream s => exact Outcome.of_tidy (carried_tidy.closeTcpStream b s) id
  | json frame =>
    apply Outcome.of_tidy _ id
    unfold step
    dsimp only
    split
    · exact Tidy.refl b
    · exact carried_tidy.handleJsonFrame frame fun s _ => tidy_handleTcpOpenReverse b s
  | binary frame =>
    apply Outcome.of_tidy _ id
    unfold step
    dsimp only
    split
    · exact Tidy.refl b
    · exact tidy_binaryFrame b frame
  | malformed =>
    apply Outcome.of_tidy _ id
    unfold step
    dsimp only
    split
    · exact Tidy.refl b
    · exact ⟨fun hn => hn.close, fun _ ho => ho.close⟩
  | imported n imported => exact Outcome.of_tidy (carried_tidy.imported b n imported) id
  | resolved n resolved =>
    apply Outcome.of_tidy _ id
    unfold step dispatchEvent onResolved
    dsimp only
    cases b.dispatches n with
    | none => exact Tidy.refl b
    | some d =>
      dsimp only
      split
      · exact tidy_resumeResolve b n d _ resolved
      · exact Tidy.refl b
  | ensured n ensured =>
    unfold step dispatchEvent
    dsimp only
    cases hd : b.dispatches n with
    | none =>
      apply Outcome.of_tidy (Tidy.refl b)
      cases ensured with
      | stream =>
        rintro ⟨d, _, _, _, _, hd', _⟩
        rw [hd] at hd'
        exact nomatch hd'
      | noStream | noBridge | failed => exact id
    | some d => exact outcome_ensured hd ensured
  | socket k event =>
    unfold step socketEvent
    dsimp only
    cases hsocket : b.sockets k with
    | none =>
      apply Outcome.of_tidy (Tidy.refl b)
      cases event with
      | error =>
        rintro ⟨socket, hsocket', _⟩
        rw [hsocket] at hsocket'
        exact nomatch hsocket'
      | connect | data | close => exact id
    | some socket =>
      cases event with
      | error => exact outcome_socketError hsocket
      | connect => exact Outcome.of_tidy (tidy_socketConnect b k socket) id
      | data bytes => exact Outcome.of_tidy (carried_tidy.socketData b socket bytes) id
      | close => exact Outcome.of_tidy (carried_tidy.socketClose hsocket) id
  | target k event =>
    unfold step targetEvent
    dsimp only
    cases htarget : b.targets k with
    | none =>
      apply Outcome.of_tidy (Tidy.refl b)
      cases event with
      | failed =>
        rintro ⟨target, htarget', _⟩
        rw [htarget] at htarget'
        exact nomatch htarget'
      | «open» | data | close => exact id
    | some target =>
      cases event with
      | failed => exact outcome_targetFailed htarget
      | «open» => exact Outcome.of_tidy (tidy_targetOpen b k target) id
      | data bytes => exact Outcome.of_tidy (carried_tidy.targetData b target bytes) id
      | close => exact Outcome.of_tidy (carried_tidy.targetClose htarget) id

end Leaking

theorem named_new : Named new := ⟨nofun, nofun⟩

/-- A new bridge has no timer. -/
theorem oneTimer_new : OneTimer new :=
  ⟨nofun, nofun⟩

/-- Names and timers are in order. -/
structure Kept (b : PilotTunnelBridge) : Prop where
  named : Named b
  oneTimer : OneTimer b

/-- Without a leak the invariant stays. -/
theorem kept_step (e : BridgeEvent) (h : Kept b) (hno : ¬ Leaks b e) : Kept (step b e) := by
  have htidy := (outcome_step b e).tidy hno
  exact ⟨htidy.named h.named, htidy.oneTimer h.named h.oneTimer⟩

theorem kept_new : Kept new := ⟨named_new, oneTimer_new⟩

/-- The invariant evicts idle streams. -/
theorem evictsIdle_of_kept (h : Kept b) : OneTimer b ∧ EvictsIdle b :=
  ⟨h.oneTimer, h.oneTimer.evicts_idle⟩

/-- A leak breaks it. -/
theorem not_kept_of_leaks (e : BridgeEvent) (h : Kept b) (hleaks : Leaks b e) :
    ¬ (OneTimer (step b e) ∧ EvictsIdle (step b e)) :=
  fun hkept => (outcome_step b e).lost hleaks h.named h.oneTimer hkept.1

/-- In every run the stored states have one armed timer each, and idle evictions remove idle streams
only, exactly when no step of the run leaks a timer. -/
theorem oneTimer_iff (events : List BridgeEvent) :
    (∀ pre post, events = pre ++ post → OneTimer (run step new pre) ∧
      EvictsIdle (run step new pre)) ↔
      ∀ pre e post, events = pre ++ e :: post → ¬ Leaks (run step new pre) e :=
  good_iff kept_new evictsIdle_of_kept kept_step not_kept_of_leaks events

/-- A relay is set up at once, bytes come after five minutes, and five more pass. -/
def busyRelay : List BridgeEvent :=
  [.json (.tcpOpenReverse 0x40000001), .imported 3 .otherNode, .ensured 3 .stream,
    .target 4 .open, .elapse 300000, .binary (.tcpData 0x40000001 [1]), .elapse 300000]

/-- The timer of the reservation fires on the relay, which had bytes five minutes ago. -/
theorem busyRelay_evicted : ∃ t armed r o, (run step new busyRelay).timers t = some armed ∧
      armed.due ≤ (run step new busyRelay).now ∧
      (run step new busyRelay).streams.get? armed.stream = some r ∧
      (run step new busyRelay).objects r = some o ∧
      (run step new busyRelay).now < o.refreshedAt + streamIdleTimeoutMs ∧
      (step (run step new busyRelay) (.timeout t)).streams.get? armed.stream =
        none :=
  ⟨2, ⟨0x40000001, 600000⟩, 5, ⟨.reverseRelay 4 true 0 0, some 7, 300000, 1⟩, by decide +kernel⟩

end PilotTunnelBridge

end Sencho.Mesh

import Sencho.Mesh.IdleTimers
import Sencho.Mesh.ReverseFlow

/-!
# The bytes of a bridge

The flow of a bridge is what the bytes of its reverse streams go through.  Whatever happens to a
bridge is a chain of moves of its flow, and all but the handlers of bytes, of reverse opens and of
connects and opens leave the bytes alone.
-/

namespace Sencho.Mesh

open Verified Option Function
open Streams

/-- What a flow sees of a reservation. -/
def StreamState.localView (opening : Nat) : StreamState → Option LocalView
  | .reverseLocal socket pendingData pendingBytes =>
    some ⟨socket, pendingData, pendingBytes, opening⟩
  | _ => none

/-- What a flow sees of a relay. -/
def StreamState.relayView (opening : Nat) : StreamState → Option RelayView
  | .reverseRelay target targetOpen pendingData pendingBytes =>
    some ⟨target, targetOpen, pendingData, pendingBytes, opening⟩
  | _ => none

namespace PilotTunnelBridge

variable (b : PilotTunnelBridge)

/-- The reservation of that name. -/
def localAt (r : Nat) : Option LocalView :=
  (b.objects r).bind fun o => o.state.localView o.opening

/-- The relay of that name. -/
def relayAt (r : Nat) : Option RelayView :=
  (b.objects r).bind fun o => o.state.relayView o.opening

/-- What the bytes of the reverse streams of a bridge go through. -/
def flow : Flow where
  streams := b.streams.get?
  locals := b.localAt
  relays := b.relayAt
  buffers := b.buffers
  sockets := fun k => (b.sockets k).map fun socket => (socket.state, socket.connected)
  targets := fun k => (b.targets k).map (·.writes)
  received := b.received
  localWrites := b.localWrites
  arrivals := b.arrivals
  fresh := b.fresh

/-! ## What the helpers do to the flow -/

section Helpers

variable (b : PilotTunnelBridge)

@[simp] theorem flow_send (frame : Frame) : (b.send frame).flow = b.flow := rfl

/-- What is seen of a changed heap. -/
theorem view_update {α β : Type} (heap : Nat → Option α) (k : Nat) (x : Option α)
    (view : Option α → β) :
    (fun n => view (update heap k x n)) = update (fun n => view (heap n)) k (view x) :=
  comp_update view heap k x

/-- What does not see the change of an entry sees the same heap. -/
theorem view_update_self {α β : Type} (heap : Nat → Option α) (k : Nat) (x : Option α)
    (view : Option α → β) (h : view x = view (heap k)) :
    (fun n => view (update heap k x n)) = fun n => view (heap n) := by
  rw [view_update, h]
  exact update_eq_self k _

/-- A change of objects that keeps their states and opens. -/
theorem flow_modifyObject {b' : PilotTunnelBridge} (r : Nat) (g : StreamObject → StreamObject)
    (hstate : ∀ o, (g o).state = o.state) (hopn : ∀ o, (g o).opening = o.opening)
    (hobjects : b'.objects = modifyAt b.objects r g)
    (hrest : { b' with objects := b.objects }.flow = b.flow) : b'.flow = b.flow := by
  have hview : ∀ {α : Type} (view : Nat → StreamState → Option α),
      (fun x => (b'.objects x).bind fun o => view o.opening o.state) =
        fun x => (b.objects x).bind fun o => view o.opening o.state := by
    intro α view
    rw [hobjects]
    apply view_update_self b.objects r _ (·.bind fun o => view o.opening o.state)
    cases b.objects r with
    | none => rfl
    | some o =>
      change view (g o).opening (g o).state = _
      rw [hstate, hopn]
      rfl
  have hlocals : b'.localAt = b.localAt := hview StreamState.localView
  have hrelays : b'.relayAt = b.relayAt := hview StreamState.relayView
  have hsame : b'.flow = { { b' with objects := b.objects }.flow with
      locals := b'.localAt, relays := b'.relayAt } := rfl
  rw [hsame, hrest, hlocals, hrelays]
  rfl

/-- A timer takes a name. -/
theorem flow_refresh (s r : Nat) :
    (b.refreshIdleTimer s r).flow = { b.flow with fresh := b.fresh + 1 } :=
  flow_modifyObject { b with fresh := b.fresh + 1 } r
    (fun o => { o with idleTimer := some b.fresh, refreshedAt := b.now }) (fun _ => rfl)
    (fun _ => rfl) rfl rfl

@[simp] theorem flow_clear (r : Nat) : (b.clearIdleTimer r).flow = b.flow :=
  flow_modifyObject b r (fun o => { o with idleTimer := none }) (fun _ => rfl) (fun _ => rfl) rfl
    rfl

/-- The id is freed. -/
theorem flow_delete (s : Nat) :
    (b.deleteStream s).flow = { b.flow with streams := update b.streams.get? s none } := by
  have hget : (b.streams.erase s).get? = update b.streams.get? s none := by
    funext x
    rw [OrderedMap.get?_erase, update_apply]
  change { b.flow with streams := (b.streams.erase s).get? } = _
  rw [hget]

@[simp] theorem flow_destroySocket (k : Nat) : (b.destroySocket k).flow = b.flow := by
  have hsockets := view_update_self b.sockets k
    ((b.sockets k).map fun socket => { socket with ended := true })
    (·.map fun socket => (socket.state, socket.connected)) (by cases b.sockets k <;> rfl)
  exact congrArg (fun sockets => { b.flow with sockets := sockets }) hsockets

@[simp] theorem flow_destroyTarget (k : Nat) : (b.destroyTarget k).flow = b.flow := by
  have htargets := view_update_self b.targets k
    ((b.targets k).map fun target => { target with gone := true })
    (·.map fun target => target.writes) (by cases b.targets k <;> rfl)
  exact congrArg (fun targets => { b.flow with targets := targets }) htargets

theorem flow_setSocket {k : Nat} {socket socket' : LocalSocket}
    (hsocket : b.sockets k = some socket) (hstate : socket'.state = socket.state)
    (hconnected : socket'.connected = socket.connected) :
    (b.setSocket k socket').flow = b.flow := by
  have hsockets := view_update_self b.sockets k (some socket')
    (·.map fun socket => (socket.state, socket.connected)) (by simp [hsocket, hstate, hconnected])
  exact congrArg (fun sockets => { b.flow with sockets := sockets }) hsockets

theorem flow_setTarget {k : Nat} {target target' : RelayTarget}
    (htarget : b.targets k = some target) (hwr : target'.writes = target.writes) :
    (b.setTarget k target').flow = b.flow := by
  have htargets := view_update_self b.targets k (some target')
    (·.map fun target => target.writes) (by simp [htarget, hwr])
  exact congrArg (fun targets => { b.flow with targets := targets }) htargets

theorem flow_setState {r : Nat} {o : StreamObject} (hobject : b.objects r = some o)
    (state : StreamState) :
    (b.setState r state).flow = { b.flow with
      locals := update b.localAt r (state.localView o.opening)
      relays := update b.relayAt r (state.relayView o.opening) } := by
  have hview : ∀ {α : Type} (view : Nat → StreamState → Option α),
      (fun x => ((b.setState r state).objects x).bind fun o => view o.opening o.state) =
        update (fun x => (b.objects x).bind fun o => view o.opening o.state) r
          (view o.opening state) := by
    intro α view
    change (fun x => (modifyAt b.objects r _ x).bind _) = _
    unfold modifyAt
    rw [hobject]
    exact view_update b.objects r _ (·.bind fun o => view o.opening o.state)
  have hlocals : (b.setState r state).localAt = update b.localAt r (state.localView o.opening) :=
    hview StreamState.localView
  have hrelays : (b.setState r state).relayAt = update b.relayAt r (state.relayView o.opening) :=
    hview StreamState.relayView
  change { b.flow with
    locals := (b.setState r state).localAt, relays := (b.setState r state).relayAt } = _
  rw [hlocals, hrelays]

/-- A state is stored. -/
theorem flow_storeStream (s : Nat) (state : StreamState) (opening : Nat) :
    (b.storeStream s state opening).flow = { b.flow with
      streams := update b.streams.get? s (some b.fresh)
      locals := update b.localAt b.fresh (state.localView opening)
      relays := update b.relayAt b.fresh (state.relayView opening)
      fresh := b.fresh + 2 } := by
  have hview : ∀ {α : Type} (view : Nat → StreamState → Option α),
      (fun x => (update b.objects b.fresh (some ⟨state, none, b.now, opening⟩) x).bind
          fun o => view o.opening o.state) =
        update (fun x => (b.objects x).bind fun o => view o.opening o.state) b.fresh
          (view opening state) :=
    fun view => view_update b.objects b.fresh _ (·.bind fun o => view o.opening o.state)
  have hget : (b.streams.set s b.fresh).get? = update b.streams.get? s (some b.fresh) := by
    funext x
    rw [OrderedMap.get?_set, update_apply]
  unfold storeStream
  rw [flow_refresh]
  exact Flow.ext hget (hview StreamState.localView) (hview StreamState.relayView) rfl rfl rfl rfl
    rfl rfl rfl

end Helpers

/-! ## Handlers that leave the bytes alone -/

/-- The bytes are as before. -/
def Quiet (b' : PilotTunnelBridge) : Prop := Flow.Calm b.flow b'.flow

/-- Nothing happens. -/
theorem Quiet.refl (b : PilotTunnelBridge) : Quiet b b := Flow.Calm.refl b.flow

theorem Quiet.trans {b b' b'' : PilotTunnelBridge} (h : Quiet b b') (h' : Quiet b' b'') :
    Quiet b b'' := Flow.Calm.trans h h'

/-- An equal flow is quiet. -/
theorem quiet_of_eq {b b' : PilotTunnelBridge} (h : b'.flow = b.flow) : Quiet b b' := by
  unfold Quiet
  rw [h]
  exact Flow.Calm.refl b.flow

section

variable {b b' : PilotTunnelBridge} (h : Quiet b b')
include h

theorem Quiet.send (frame : Frame) : Quiet b (b'.send frame) := h

theorem Quiet.emit (r : Nat) (event : HandleEvent) : Quiet b (b'.emit r event) := h

end

section Handlers

variable (b : PilotTunnelBridge)
variable {k : Nat} {state : StreamState} (s : Nat)

theorem quiet_refresh (r : Nat) : Quiet b (b.refreshIdleTimer s r) := by
  unfold Quiet
  rw [flow_refresh]
  exact Flow.calm_names b.flow (Nat.le_succ _)

theorem quiet_delete : Quiet b (b.deleteStream s) := by
  unfold Quiet
  rw [flow_delete]
  exact Flow.calm_drop b.flow s

theorem quiet_remove : Quiet b (b.removeStream s) := by
  unfold removeStream
  cases b.streams.get? s with
  | none => exact Quiet.refl b
  | some r => exact (quiet_of_eq (flow_clear b r)).trans (quiet_delete _ s)

theorem quiet_teardownState (r : Nat) (state : StreamState) :
    Quiet b (b.teardownState r state) := by
  cases state with
  | tcp accepted => cases accepted <;> exact Quiet.refl b
  | reverseLocal socket _ _ =>
    cases socket with
    | none => exact Quiet.refl b
    | some k => exact quiet_of_eq (flow_destroySocket b k)
  | reverseRelay k _ _ _ => exact quiet_of_eq (flow_destroyTarget b k)
  | http | ws => exact Quiet.refl b

theorem quiet_teardownStream (r : Nat) : Quiet b (b.teardownStream r) := by
  unfold teardownStream
  cases b.objects r with
  | none => exact Quiet.refl b
  | some o => exact quiet_teardownState b r o.state

/-- A forward state has no view. -/
theorem views_forward {state : StreamState} (h : Forward state) (opening : Nat) :
    state.localView opening = none ∧ state.relayView opening = none := by
  cases state with
  | http | ws | tcp => exact ⟨rfl, rfl⟩
  | reverseLocal | reverseRelay => exact h.elim

theorem flow_setForward {r : Nat} {o : StreamObject} (hobject : b.objects r = some o)
    (hbefore : Forward o.state) (hafter : Forward state) : (b.setState r state).flow = b.flow := by
  have hlocal : b.localAt r = none := by
    unfold localAt
    rw [hobject]
    exact (views_forward hbefore _).1
  have hrelay : b.relayAt r = none := by
    unfold relayAt
    rw [hobject]
    exact (views_forward hbefore _).2
  have hlocals : update b.localAt r none = b.localAt := by
    rw [← hlocal, update_eq_self]
  have hrelays : update b.relayAt r none = b.relayAt := by
    rw [← hrelay, update_eq_self]
  rw [flow_setState b hobject, (views_forward hafter _).1, (views_forward hafter _).2]
  exact Flow.ext rfl hlocals hrelays rfl rfl rfl rfl rfl rfl rfl

/-- Quiet calls compose. -/
theorem carried_quiet : Carried Quiet where
  refl := Quiet.refl
  trans := Quiet.trans
  sends := fun b _ => Quiet.refl b
  emits := fun b _ _ => Quiet.refl b
  stages := fun b _ _ => Quiet.refl b
  removes := quiet_remove
  tearsDown := quiet_teardownStream
  destroysSocket := fun b k => quiet_of_eq (flow_destroySocket b k)
  destroysTarget := fun b k => quiet_of_eq (flow_destroyTarget b k)
  refreshes := fun {b s r} _ => quiet_refresh b s r
  setsForward := fun {b _ _ _} hobject hbefore hafter =>
    quiet_of_eq (flow_setForward b hobject hbefore hafter)
  endsSocket := fun {b _ socket} hsocket closeEmitted => quiet_of_eq (flow_setSocket b hsocket
    (show ({ socket with ended := true, closeEmitted } : LocalSocket).state = socket.state from rfl)
    rfl)
  losesTarget := fun {b _ target} htarget => quiet_of_eq (flow_setTarget b htarget
    (show ({ target with gone := true } : RelayTarget).writes = target.writes from rfl))

/-- An idle stream moves no byte. -/
theorem quiet_timeout (t : Nat) : Quiet b (b.timeout t) := by
  unfold PilotTunnelBridge.timeout
  cases b.timers t with
  | none => exact Quiet.refl b
  | some armed =>
    dsimp only
    split
    · unfold onStreamIdle
      split
      · exact Quiet.refl b
      · exact Quiet.send (Quiet.trans
          (quiet_teardownState { b with timers := update b.timers t none } _ _)
          (quiet_delete _ _)) _
    · exact Quiet.refl b

theorem quiet_closeEntries (entries : List (Nat × Nat)) : Quiet b (entries.foldl closeEntry b) :=
  List.foldlRecOn entries closeEntry (Quiet.refl b) fun t ht e _ =>
    ht.trans ((quiet_of_eq (flow_clear t e.2)).trans (quiet_teardownStream _ e.2))

/-- Closing moves no byte. -/
theorem quiet_close : Quiet b b.close := by
  unfold close
  split
  · exact Quiet.refl b
  · have hclosed : Quiet b { b with closed := true } := Quiet.refl b
    have hall := hclosed.trans (quiet_closeEntries { b with closed := true } b.streams.entries)
    exact hall.trans ⟨nofun, rfl, rfl, rfl, rfl, rfl, rfl, rfl, .refl, .refl⟩

theorem quiet_socketError {socket : LocalSocket} (hsocket : b.sockets k = some socket) :
    Quiet b (b.socketError k socket) := by
  have hset : Quiet b (b.setSocket k { socket with ended := true }) :=
    carried_quiet.endsSocket hsocket socket.closeEmitted
  unfold socketError
  split
  · exact Quiet.refl b
  · dsimp only
    split
    · exact hset.trans (carried_quiet.teardownSocket _ k _)
    · split
      · exact (hset.trans (quiet_delete _ _)).send _
      · exact hset

theorem quiet_targetFailed {target : RelayTarget} (htarget : b.targets k = some target) :
    Quiet b (b.targetFailed k target) := by
  have hset := carried_quiet.losesTarget htarget
  unfold targetFailed
  split
  · exact Quiet.refl b
  · dsimp only
    split
    · exact (hset.trans (quiet_delete _ _)).send _
    · exact hset

theorem quiet_openForward {b : PilotTunnelBridge} (hw : b.flow.Wired)
    (hstate : Forward state) (frame : Nat → Frame) :
    Quiet b (if b.isOpen && !b.full then b.openForward state frame else b) := by
  by_cases hopen : (b.isOpen && !b.full) = true
  swap
  · rw [if_neg hopen]
    exact Quiet.refl b
  rw [if_pos hopen]
  have hlocal : b.localAt b.fresh = none := by
    cases hv : b.localAt b.fresh with
    | none => rfl
    | some v => exact absurd (hw.local_named b.fresh v hv).1 (Nat.lt_irrefl b.fresh)
  have hrelay : b.relayAt b.fresh = none := by
    cases hv : b.relayAt b.fresh with
    | none => rfl
    | some v => exact absurd (hw.relay_named b.fresh v hv).1 (Nat.lt_irrefl b.fresh)
  have hstore := flow_storeStream { b with streamIds := b.streamIds.allocate } b.streamIds.next state
    b.fresh
  unfold openForward Quiet
  rw [flow_send, hstore, (views_forward hstate b.fresh).1, (views_forward hstate b.fresh).2]
  constructor
  · intro s r hget
    change update b.streams.get? b.streamIds.next (some b.fresh) s = some r at hget
    by_cases hs : s = b.streamIds.next
    · rw [hs, update_self] at hget
      rw [← some.inj hget]
      exact .inr ⟨show b.fresh < b.fresh + 2 by omega, hlocal, hrelay⟩
    · rw [update_of_ne hs] at hget
      exact .inl hget
  · change update b.localAt b.fresh none = b.localAt
    rw [← hlocal, update_eq_self]
  · change update b.relayAt b.fresh none = b.relayAt
    rw [← hrelay, update_eq_self]
  · rfl
  · rfl
  · rfl
  · rfl
  · rfl
  · exact .refl
  · exact Nat.le_add_right _ _

end Handlers

/-! ## Handlers that move bytes -/

/-- A frame for a stream whose local socket is there while bytes are held. -/
def Overtakes : BridgeEvent → Prop
  | .binary (.tcpData s _) => b.closed = false ∧ ∃ r v, b.streams.get? s = some r ∧
      b.localAt r = some v ∧ v.socket ≠ none ∧ b.buffers v.buffer ≠ []
  | _ => False

/-- A relay that takes the place of a state after bytes went to its local socket. -/
def Steals : BridgeEvent → Prop
  | .ensured n .stream => ∃ d r v, b.dispatches n = some d ∧ d.stage = .ensuringBridge r ∧
      b.streams.get? d.stream = some r ∧ b.localAt r = some v ∧ b.localWrites r ≠ []
  | _ => False

section Moves

variable {b : PilotTunnelBridge} {overtakes steals : Prop}
variable {isOpen : Bool} {buffer k r : Nat} {socket : Option Nat} {o : StreamObject}

/-- Quiet is a move of the flow. -/
theorem Quiet.moves {b' : PilotTunnelBridge} (h : Quiet b b') :
    Flow.Moves overtakes steals b.flow b'.flow := Flow.Calm.moves h

section

variable (hobject : b.objects r = some o)
include hobject

theorem localAt_of_object {bytes : Nat} (hstate : o.state = .reverseLocal socket buffer bytes) :
    b.localAt r = some ⟨socket, buffer, bytes, o.opening⟩ ∧ b.relayAt r = none := by
  unfold localAt relayAt
  rw [hobject]
  change o.state.localView o.opening = _ ∧ o.state.relayView o.opening = _
  rw [hstate]
  exact ⟨rfl, rfl⟩

theorem relayAt_of_object {target bytes : Nat}
    (hstate : o.state = .reverseRelay target isOpen buffer bytes) :
    b.relayAt r = some ⟨target, isOpen, buffer, bytes, o.opening⟩ ∧ b.localAt r = none := by
  unfold localAt relayAt
  rw [hobject]
  change o.state.relayView o.opening = _ ∧ o.state.localView o.opening = _
  rw [hstate]
  exact ⟨rfl, rfl⟩

/-- A local state that stays one. -/
theorem flow_setLocal {bytes : Nat} (hstate : o.state = .reverseLocal socket buffer bytes)
    (socket' : Option Nat) (buffer' bytes' : Nat) :
    (b.setState r (.reverseLocal socket' buffer' bytes')).flow = { b.flow with
      locals := update b.localAt r (some ⟨socket', buffer', bytes', o.opening⟩) } := by
  have hrelays : update b.relayAt r none = b.relayAt := by
    rw [← (localAt_of_object hobject hstate).2, update_eq_self]
  rw [flow_setState b hobject]
  exact Flow.ext rfl rfl hrelays rfl rfl rfl rfl rfl rfl rfl

/-- A relay that stays one. -/
theorem flow_setRelay {target bytes : Nat}
    (hstate : o.state = .reverseRelay target isOpen buffer bytes) (isOpen' : Bool)
    (buffer' bytes' : Nat) :
    (b.setState r (.reverseRelay target isOpen' buffer' bytes')).flow = { b.flow with
      relays := update b.relayAt r (some ⟨target, isOpen', buffer', bytes', o.opening⟩) } := by
  have hlocals : update b.localAt r none = b.localAt := by
    rw [← (relayAt_of_object hobject hstate).2, update_eq_self]
  rw [flow_setState b hobject]
  exact Flow.ext rfl hlocals rfl rfl rfl rfl rfl rfl rfl rfl

end

/-- The flow reserves. -/
theorem moves_handleTcpOpenReverse (s : Nat) :
    Flow.Moves overtakes steals b.flow (b.handleTcpOpenReverse s).flow := by
  unfold handleTcpOpenReverse
  split
  · exact ((Quiet.refl b).send _).moves
  split
  · exact ((Quiet.refl b).send _).moves
  · rename_i _ hfree
    have hget : b.streams.get? s = none := by
      cases hget : b.streams.get? s with
      | none => rfl
      | some r => exact absurd (by rw [hget]; rfl) hfree
    have hstore := flow_storeStream b.newBuffer s (.reverseLocal none b.fresh 0) (b.fresh + 1)
    have hreserve : Flow.Move overtakes steals b.flow _ := Flow.Move.reserve s hget
    apply hreserve.moves.trans
    have hafter : (((b.newBuffer.storeStream s (.reverseLocal none b.fresh 0)
        (b.fresh + 1)).clearReceived (b.fresh + 1)).newDispatch ⟨s, b.fresh + 1, .importing⟩).flow =
        { (b.newBuffer.storeStream s (.reverseLocal none b.fresh 0) (b.fresh + 1)).flow with
          received := update b.received (b.fresh + 1) [], fresh := b.fresh + 4 } := rfl
    change Flow.Moves _ _ _ (((b.newBuffer.storeStream s (.reverseLocal none b.fresh 0)
        (b.fresh + 1)).clearReceived (b.fresh + 1)).newDispatch ⟨s, b.fresh + 1, .importing⟩).flow
    rw [hafter, hstore]
    exact (Flow.calm_names _ (show b.fresh + 3 ≤ b.fresh + 4 by omega)).moves

/-- The state behind a view. -/
theorem object_of_localAt {v : LocalView} (hv : b.localAt r = some v) :
    ∃ o, b.objects r = some o ∧ o.state = .reverseLocal v.socket v.buffer v.bytes ∧
      o.opening = v.opening := by
  obtain ⟨o, hobject, hview⟩ := bind_eq_some_iff.mp hv
  cases hstate : o.state with
  | reverseLocal socket buffer bytes =>
    rw [hstate] at hview
    rw [← some.inj hview]
    exact ⟨o, hobject, hstate, rfl⟩
  | http | ws | tcp | reverseRelay =>
    rw [hstate] at hview
    exact nomatch hview

/-- The flow dials. -/
theorem moves_resumeResolve (n : Nat) (d : Dispatch) (state : Nat) (resolved : Resolved) :
    Flow.Moves overtakes steals b.flow (b.resumeResolve n d state resolved).flow := by
  have hstage : Quiet b (b.setStage n .settled) := Quiet.refl b
  cases resolved with
  | failed => exact (hstage.trans (carried_quiet.refuse _ d.stream d.reservation)).moves
  | notFound => exact (hstage.trans (carried_quiet.refuse _ d.stream state)).moves
  | address =>
    unfold resumeResolve
    dsimp only
    split
    · split
      · rename_i socket buffer bytes hstate
        obtain ⟨o, hobject, ho⟩ := map_eq_some_iff.mp hstate
        have hlocal := (localAt_of_object (b := b) hobject ho).1
        have hsockets : (fun x => (update b.sockets b.fresh
            (some ⟨d.stream, state, false, false, false⟩) x).map
              fun socket => (socket.state, socket.connected)) =
            update b.flow.sockets b.fresh (some (state, false)) :=
          view_update b.sockets b.fresh _ (·.map fun socket => (socket.state, socket.connected))
        have hdial : Flow.Move overtakes steals b.flow _ := Flow.Move.dial state _ hlocal
        apply Flow.Move.moves
        rw [flow_setLocal (b := (b.setStage n .settled).newSocket
          ⟨d.stream, state, false, false, false⟩) hobject ho]
        convert hdial using 1
        exact Flow.ext rfl rfl rfl rfl hsockets rfl rfl rfl rfl rfl
      · exact hstage.moves
    · exact hstage.moves

theorem map_newTarget (target : RelayTarget) :
    (fun x => (update b.targets b.fresh (some target) x).map (·.writes)) =
      update b.flow.targets b.fresh (some target.writes) :=
  view_update b.targets b.fresh _ (·.map (·.writes))

/-- A relay takes the place of a stored reservation. -/
theorem flow_swap {n : Nat} {d : Dispatch} {reservation : Nat} {v : LocalView}
    (hget : b.streams.get? d.stream = some reservation) (hv : b.localAt reservation = some v) :
    (b.resumeEnsureBridge n d reservation .stream).flow = b.flow.swapped d.stream v := by
  obtain ⟨o, hobject, hstate, hopn⟩ := object_of_localAt hv
  have hsame : b.resumeEnsureBridge n d reservation .stream =
      ((b.setStage n .settled).newTarget ⟨d.stream, false, false, []⟩).storeStream d.stream
        (.reverseRelay b.fresh false v.buffer v.bytes) v.opening := by
    obtain ⟨state, timer, time, opening⟩ := o
    dsimp only at hstate hopn
    rw [hstate, hopn] at hobject
    unfold resumeEnsureBridge
    dsimp only
    rw [if_pos (show (b.setStage n .settled).streams.get? d.stream = some reservation from hget),
      show (b.setStage n .settled).objects reservation = _ from hobject]
    rfl
  rw [hsame, flow_storeStream]
  exact Flow.ext rfl rfl rfl rfl rfl (map_newTarget (b := b) ⟨d.stream, false, false, []⟩) rfl rfl
    rfl rfl

/-- The flow swaps. -/
theorem moves_resumeEnsureBridge {n : Nat} {d : Dispatch} (hd : b.dispatches n = some d)
    {reservation : Nat} (hstage : d.stage = .ensuringBridge reservation) (ensured : Ensured) :
    Flow.Moves overtakes (Steals b (.ensured n ensured)) b.flow
      (b.resumeEnsureBridge n d reservation ensured).flow := by
  have hsett : Quiet b (b.setStage n .settled) := Quiet.refl b
  cases ensured with
  | failed => exact (hsett.trans (carried_quiet.refuse _ d.stream d.reservation)).moves
  | noBridge => exact (hsett.trans (carried_quiet.refuse _ d.stream reservation)).moves
  | noStream =>
    unfold resumeEnsureBridge
    dsimp only
    split
    · exact (hsett.trans (carried_quiet.refuse _ d.stream reservation)).moves
    · exact hsett.moves
  | stream =>
    by_cases hget : b.streams.get? d.stream = some reservation
    · cases hv : b.localAt reservation with
      | some v =>
        rw [flow_swap hget hv]
        exact (Flow.Move.swap (f := b.flow) d.stream reservation v hget hv
          (fun hwr => ⟨d, reservation, v, hd, hstage, hget, hv, hwr⟩)).moves
      | none =>
        unfold resumeEnsureBridge
        dsimp only
        split
        · split
          · rename_i hobject
            exact absurd ((localAt_of_object (b := b) hobject rfl).1.symm.trans hv) (some_ne_none _)
          · exact hsett.moves
        · exact hsett.moves
    · unfold resumeEnsureBridge
      dsimp only
      rw [if_neg (show ¬ (b.setStage n .settled).streams.get? d.stream = some reservation from hget)]
      exact hsett.moves

theorem flow_writeTarget {target : RelayTarget} (htarget : b.targets k = some target)
    (ps : List Payload) :
    (b.writeTarget k ps).flow = { b.flow with
      targets := update b.flow.targets k (some (target.writes ++ ps)) } := by
  have htargets : (fun x => (modifyAt b.targets k
      (fun target => { target with writes := target.writes ++ ps }) x).map (·.writes)) =
      update b.flow.targets k (some (target.writes ++ ps)) := by
    unfold modifyAt
    rw [htarget]
    exact view_update b.targets k _ (·.map (·.writes))
  exact Flow.ext rfl rfl rfl rfl rfl htargets rfl rfl rfl rfl

theorem target_of_flow {ws : List Payload} (hws : b.flow.targets k = some ws) :
    ∃ target, b.targets k = some target ∧ target.writes = ws :=
  map_eq_some_iff.mp hws

/-- The stored relay of an open target flushes what it holds. -/
theorem moves_openRelay (hw : b.flow.Wired) (s : Nat) :
    Flow.Moves overtakes steals b.flow (b.openRelay s).flow := by
  unfold openRelay
  split
  · rename_i r target isOpen buffer bytes timer time opening hrelay
    have hobject : b.objects r =
        some ⟨.reverseRelay target isOpen buffer bytes, timer, time, opening⟩ := by
      obtain ⟨entry, hst, hstate⟩ := bind_eq_some_iff.mp hrelay
      have hent : entry = (r, ⟨.reverseRelay target isOpen buffer bytes, timer, time, opening⟩) := by
        split at hstate
        · exact some.inj hstate
        · exact nomatch hstate
      rw [hent] at hst
      exact (get?_of_stored hst).2
    have hview := (relayAt_of_object hobject rfl).1
    rw [flow_send]
    split
    · rename_i hheld
      apply Flow.Move.moves
      rw [flow_setRelay hobject rfl]
      exact Flow.Move.relayOpen (f := b.flow) r _ hview hheld
    · obtain ⟨ws, hws⟩ := hw.target_there r _ hview
      obtain ⟨t, ht, hwr⟩ := target_of_flow hws
      have hflush : Flow.Move overtakes steals b.flow _ := Flow.Move.relayFlush r _ ws hview hws
      apply Flow.Move.moves
      unfold resetPending
      rw [flow_setRelay (b := (b.writeTarget target (b.buffers buffer)).newBuffer) hobject rfl]
      convert hflush using 1
      have hwritten := congrArg Flow.targets (flow_writeTarget ht (b.buffers buffer))
      rw [hwr] at hwritten
      exact Flow.ext rfl rfl rfl rfl rfl hwritten rfl rfl rfl rfl
  · exact Flow.Moves.refl _

/-- The relay is flushed. -/
theorem moves_targetOpen (hw : b.flow.Wired) {target : RelayTarget}
    (htarget : b.targets k = some target) :
    Flow.Moves overtakes steals b.flow (b.targetOpen k target).flow := by
  unfold targetOpen
  split
  · exact Flow.Moves.refl _
  · have hset : (b.setTarget k { target with opened := true }).flow = b.flow :=
      flow_setTarget b htarget rfl
    have hopen : Flow.Moves overtakes steals _ _ :=
      moves_openRelay (b := b.setTarget k { target with opened := true }) (by rw [hset]; exact hw)
        target.stream
    rw [hset] at hopen
    exact hopen

theorem flow_connect (socket : LocalSocket) :
    (b.setSocket k { socket with connected := true }).flow = { b.flow with
      sockets := update b.flow.sockets k (some (socket.state, true)) } := by
  have hsockets : (fun x => (update b.sockets k (some { socket with connected := true }) x).map
      fun socket => (socket.state, socket.connected)) =
      update b.flow.sockets k (some (socket.state, true)) :=
    view_update b.sockets k _ (·.map fun socket => (socket.state, socket.connected))
  exact Flow.ext rfl rfl rfl rfl hsockets rfl rfl rfl rfl rfl

/-- A socket that connects flushes what its state holds. -/
theorem moves_socketConnect (hw : b.flow.Wired) {socket : LocalSocket}
    (hsocket : b.sockets k = some socket) :
    Flow.Moves overtakes steals b.flow (b.socketConnect k socket).flow := by
  have hk : b.flow.sockets k = some (socket.state, socket.connected) := by
    change (b.sockets k).map _ = _
    rw [hsocket]
    rfl
  obtain ⟨v, hv, _⟩ := hw.dialed k _ _ hk
  obtain ⟨o, hobject, hstate, hopn⟩ := object_of_localAt hv
  have hstateOf : (b.setSocket k { socket with connected := true }).stateOf socket.state =
      some (.reverseLocal v.socket v.buffer v.bytes) := by
    change (b.objects socket.state).map _ = _
    rw [hobject]
    exact congrArg some hstate
  unfold socketConnect
  split
  · exact Flow.Moves.refl _
  · rw [flow_send]
    unfold flushLocal
    rw [hstateOf]
    dsimp only
    apply Flow.Move.moves
    split
    · rename_i hheld
      rw [flow_connect]
      exact Flow.Move.connect (f := b.flow) k _ _ v hk hv hheld
    · have hflush : Flow.Move overtakes steals b.flow _ := Flow.Move.flush k _ _ v hk hv
      have hset := flow_setLocal (b := ((b.setSocket k { socket with connected := true }).writeLocal
        socket.state (b.buffers v.buffer)).newBuffer) hobject hstate v.socket b.fresh 0
      have hconnect := congrArg Flow.sockets (flow_connect (b := b) (k := k) socket)
      convert hflush using 1
      apply hset.trans
      rw [hopn]
      exact Flow.ext rfl rfl rfl rfl hconnect rfl rfl rfl rfl rfl

theorem quiet_counted (b : PilotTunnelBridge) : Quiet b { b with arrivals := b.arrivals + 1 } :=
  ⟨fun _ _ h => .inl h, rfl, rfl, rfl, rfl, rfl, rfl, rfl, Nat.le_succ _, .refl⟩

theorem flow_remove (s : Nat) (hget : b.streams.get? s = some r) :
    (b.removeStream s).flow = { b.flow with streams := update b.streams.get? s none } := by
  unfold removeStream
  rw [hget]
  rw [flow_delete, flow_clear]
  rfl

/-- The frame, before its bytes go anywhere. -/
theorem flow_received (s r opening : Nat) (p : Payload) :
    ((b.receive opening p).refreshIdleTimer s r).flow =
      { b.flow.receive opening p with fresh := b.fresh + 1 } := flow_refresh _ s r

/-- The payloads are written. -/
theorem flow_write (r : Nat) (ps : List Payload) : (b.writeLocal r ps).flow = { b.flow with
      localWrites := update b.flow.localWrites r (b.flow.localWrites r ++ ps) } := rfl

theorem flow_drop {s : Nat} (hget : b.flow.streams s = some r) :
    (b.dropStream s).flow = { b.flow with streams := update b.flow.streams s none } :=
  flow_remove s hget

/-- A held frame of a local state. -/
theorem flow_hold (hobject : b.objects r = some o) {held : Nat}
    (hstate : o.state = .reverseLocal socket buffer held) (p : Payload) (held' : Nat) :
    ((b.push buffer p).setState r (.reverseLocal socket buffer held')).flow = { b.flow with
      buffers := update b.flow.buffers buffer (b.flow.buffers buffer ++ [p])
      locals := update b.flow.locals r (some ⟨socket, buffer, held', o.opening⟩) } := by
  rw [flow_setLocal (b := b.push buffer p) hobject hstate]
  rfl

/-- A held frame of a relay. -/
theorem flow_relayHold (hobject : b.objects r = some o) {target held : Nat}
    (hstate : o.state = .reverseRelay target isOpen buffer held) (p : Payload) (held' : Nat) :
    ((b.push buffer p).setState r (.reverseRelay target isOpen buffer held')).flow = { b.flow with
      buffers := update b.flow.buffers buffer (b.flow.buffers buffer ++ [p])
      relays := update b.flow.relays r (some ⟨target, isOpen, buffer, held', o.opening⟩) } := by
  rw [flow_setRelay (b := b.push buffer p) hobject hstate]
  rfl

/-- A frame of bytes for a state whose local socket is there. -/
theorem flow_dialed {s held : Nat} (hstate : o.state = .reverseLocal (some k) buffer held)
    (bytes : List UInt8) :
    (b.handleTcpData s r o bytes).flow = { b.flow.receive o.opening ⟨b.arrivals, bytes⟩ with
      localWrites := update b.localWrites r (b.localWrites r ++ [⟨b.arrivals, bytes⟩])
      fresh := b.fresh + 1 } := by
  unfold handleTcpData
  rw [hstate]
  rw [flow_write, flow_received]
  rfl

/-- A frame of bytes for a stored state. -/
theorem moves_handleTcpData (hw : b.flow.Wired) {s : Nat} (hget : b.streams.get? s = some r)
    (hobject : b.objects r = some o) (bytes : List UInt8)
    (hovertakes : ∀ v, b.localAt r = some v → v.socket ≠ none → b.buffers v.buffer ≠ [] →
      overtakes) :
    Flow.Moves overtakes steals b.flow
      { (b.handleTcpData s r o bytes).flow with arrivals := b.arrivals + 1 } := by
  have hmoves : ∀ f : Flow, Flow.Move overtakes steals b.flow f →
      Flow.Moves overtakes steals b.flow { f with fresh := f.fresh + 1 } :=
    fun f hf => hf.moves.trans (Flow.calm_names f (Nat.le_succ _)).moves
  have hrecv := flow_received (b := b) s r o.opening ⟨b.arrivals, bytes⟩
  have hobject' : ((b.receive o.opening ⟨b.arrivals, bytes⟩).refreshIdleTimer s r).objects r =
      some { o with idleTimer := some b.fresh, refreshedAt := b.now } := by
    change modifyAt b.objects r _ r = _
    unfold modifyAt
    rw [update_self, hobject]
    rfl
  unfold handleTcpData
  cases hstate : o.state with
  | http | ws => exact (quiet_counted b).moves
  | tcp => exact (((quiet_refresh b s r).emit r .data).trans (quiet_counted _)).moves
  | reverseLocal socket buffer held =>
    have hview := (localAt_of_object hobject hstate).1
    dsimp only
    generalize (b.receive o.opening ⟨b.arrivals, bytes⟩).refreshIdleTimer s r = b₁ at *
    have hget' : b₁.flow.streams s = some r := by
      rw [hrecv]
      exact hget
    cases socket with
    | some k =>
      rw [flow_write, hrecv]
      exact hmoves _ (Flow.Move.write (f := b.flow) s r _ ⟨b.arrivals, bytes⟩ hget hview rfl
        (hovertakes _ hview (some_ne_none k)))
    | none =>
      dsimp only
      split
      · rw [flow_drop hget', hrecv]
        exact hmoves _ (Flow.Move.overflow (f := b.flow) s r _ ⟨b.arrivals, bytes⟩ hget hview rfl)
      · rename_i hcap
        rw [flow_hold hobject' hstate, hrecv]
        exact hmoves _ (Flow.Move.hold (f := b.flow) s r _ ⟨b.arrivals, bytes⟩ hget hview rfl
          rfl (Nat.le_of_not_lt hcap))
  | reverseRelay target isOpen buffer held =>
    have hview := (relayAt_of_object hobject hstate).1
    obtain ⟨ws, hws⟩ := hw.target_there r _ hview
    have hws' : ((b.receive o.opening ⟨b.arrivals, bytes⟩).refreshIdleTimer s r).flow.targets
        target = some ws := hws
    dsimp only
    generalize (b.receive o.opening ⟨b.arrivals, bytes⟩).refreshIdleTimer s r = b₁ at *
    have hget' : b₁.flow.streams s = some r := by
      rw [hrecv]
      exact hget
    obtain ⟨t, ht, hwr⟩ := target_of_flow hws'
    split
    · rename_i hopen
      rw [flow_writeTarget ht, hrecv, hwr]
      exact hmoves _ (Flow.Move.relayWrite (f := b.flow) s r _ ws ⟨b.arrivals, bytes⟩ hget hview
        rfl hopen hws)
    split
    · rw [flow_drop hget', hrecv]
      exact hmoves _ (Flow.Move.relayOverflow (f := b.flow) s r _ ⟨b.arrivals, bytes⟩ hget hview
        rfl)
    · rename_i hopen hcap
      rw [flow_relayHold hobject' hstate, hrecv]
      exact hmoves _ (Flow.Move.relayHold (f := b.flow) s r _ ⟨b.arrivals, bytes⟩ hget hview rfl
        (Bool.eq_false_iff.mpr hopen) (Nat.le_of_not_lt hcap))

theorem arrivals_drop (b : PilotTunnelBridge) (s : Nat) :
    (b.dropStream s).arrivals = b.arrivals := by
  unfold dropStream removeStream
  cases b.streams.get? s <;> rfl

/-- A frame is counted once. -/
theorem arrivals_handleTcpData (s r : Nat) (o : StreamObject) (bytes : List UInt8) :
    (b.handleTcpData s r o bytes).arrivals = b.arrivals := by
  unfold handleTcpData
  cases o.state with
  | http | ws | tcp => rfl
  | reverseLocal socket buffer held =>
    cases socket with
    | some k => rfl
    | none =>
      dsimp only
      split
      · exact arrivals_drop _ s
      · rfl
  | reverseRelay target isOpen buffer held =>
    dsimp only
    split
    · rfl
    split
    · exact arrivals_drop _ s
    · rfl

/-- Bytes are written, held or dropped. -/
theorem moves_binaryFrame (hw : b.flow.Wired) (hclosed : b.closed = false) (frame : BinaryFrame) :
    Flow.Moves (Overtakes b (.binary frame)) steals b.flow (b.binaryFrame frame).flow := by
  cases frame with
  | tcpData s bytes =>
    unfold binaryFrame handleBinaryFrame
    dsimp only
    cases hst : b.stored s with
    | none => exact (quiet_counted b).moves
    | some entry =>
      obtain ⟨hget, hobject⟩ := get?_of_stored hst
      rw [arrivals_handleTcpData]
      exact moves_handleTcpData hw hget hobject bytes
        (fun v hv hsocket hheld => ⟨hclosed, entry.1, v, hget, hv, hsocket, hheld⟩)
  | httpResBody | wsMessageBinary | other =>
    refine ((carried_quiet.handleBinaryFrame _ ?_).trans (quiet_counted _)).moves
    rintro _ _ _ _ ⟨⟩

/-- Whatever happens to a bridge is a chain of moves of its flow. -/
theorem moves_step (hw : b.flow.Wired) (e : BridgeEvent) :
    Flow.Moves (Overtakes b e) (Steals b e) b.flow (step b e).flow := by
  cases e with
  | elapse ms | wsClosing => exact Flow.Moves.refl _
  | timeout timer => exact (quiet_timeout b timer).moves
  | close => exact (quiet_close b).moves
  | openTcpStream | loopbackRequest | loopbackUpgrade =>
    apply Quiet.moves
    apply quiet_openForward hw
    trivial
  | loopback s event => exact (carried_quiet.loopbackEvent b s event).moves
  | writeTcpData s bytes => exact (carried_quiet.writeTcpData b s bytes).moves
  | closeTcpStream s => exact (carried_quiet.closeTcpStream b s).moves
  | json frame =>
    simp only [step]
    split
    · exact Flow.Moves.refl _
    · by_cases hreverse : ∃ s, frame = .tcpOpenReverse s
      · obtain ⟨s, hs⟩ := hreverse
        rw [hs]
        exact moves_handleTcpOpenReverse s
      · apply Quiet.moves
        exact carried_quiet.handleJsonFrame frame fun s hs => absurd ⟨s, hs⟩ hreverse
  | binary frame =>
    simp only [step]
    split
    · exact Flow.Moves.refl _
    · rename_i hclosed
      exact moves_binaryFrame hw (Bool.eq_false_iff.mpr hclosed) frame
  | malformed =>
    simp only [step]
    split
    · exact Flow.Moves.refl _
    · exact (quiet_close b).moves
  | imported n imported => exact (carried_quiet.imported b n imported).moves
  | resolved n resolved =>
    simp only [step]
    unfold dispatchEvent
    cases b.dispatches n with
    | none => exact Flow.Moves.refl _
    | some d =>
      dsimp only
      unfold onResolved
      split
      · exact moves_resumeResolve n d _ resolved
      · exact Flow.Moves.refl _
  | ensured n ensured =>
    simp only [step]
    unfold dispatchEvent
    cases hd : b.dispatches n with
    | none => exact Flow.Moves.refl _
    | some d =>
      dsimp only
      unfold onEnsured
      split
      · exact moves_resumeEnsureBridge hd ‹_› ensured
      · exact Flow.Moves.refl _
  | socket k event =>
    simp only [step]
    unfold socketEvent
    cases hsocket : b.sockets k with
    | none => exact Flow.Moves.refl _
    | some socket =>
      cases event with
      | connect => exact moves_socketConnect hw hsocket
      | data bytes => exact (carried_quiet.socketData b socket bytes).moves
      | error => exact (quiet_socketError b hsocket).moves
      | close => exact (carried_quiet.socketClose hsocket).moves
  | target k event =>
    simp only [step]
    unfold targetEvent
    cases htarget : b.targets k with
    | none => exact Flow.Moves.refl _
    | some target =>
      cases event with
      | «open» => exact moves_targetOpen hw htarget
      | data bytes => exact (carried_quiet.targetData b target bytes).moves
      | failed => exact (quiet_targetFailed b htarget).moves
      | close => exact (carried_quiet.targetClose htarget).moves

end Moves

/-! ## What every step keeps -/

/-- The flow of a bridge is wired, and what it received came in earlier frames. -/
structure Laid (b : PilotTunnelBridge) : Prop where
  wired : b.flow.Wired
  tagged : b.flow.Tagged

/-- A new bridge is laid out. -/
theorem laid_new : Laid PilotTunnelBridge.new :=
  ⟨⟨nofun, nofun, nofun, nofun, nofun, nofun, nofun, nofun, nofun, nofun, nofun, nofun, nofun⟩,
   ⟨nofun, fun _ _ => ⟨rfl, rfl⟩⟩⟩

theorem Laid.moves {b b' : PilotTunnelBridge} {overtakes steals : Prop} (h : Laid b)
    (hm : Flow.Moves overtakes steals b.flow b'.flow) : Laid b' := by
  have hboth : b'.flow.Wired ∧ b'.flow.Tagged :=
    hm.keep (fun f => f.Wired ∧ f.Tagged)
      (fun f f' hf hmove => ⟨hf.1.move hmove, hf.2.move hf.1 hmove⟩) ⟨h.wired, h.tagged⟩
  exact ⟨hboth.1, hboth.2⟩

/-- Every event keeps the layout. -/
theorem Laid.step {b : PilotTunnelBridge} (h : Laid b) (e : BridgeEvent) : Laid (step b e) :=
  h.moves (moves_step h.wired e)

end PilotTunnelBridge

end Sencho.Mesh

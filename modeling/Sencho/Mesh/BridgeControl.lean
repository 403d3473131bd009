import Sencho.Mesh.BridgeEnds

/-!
# The control of a bridge

The part of a bridge that the life of its TCP streams turns on, and what each helper of the bridge
does to it.
-/

namespace Sencho.Mesh

open Verified Option Function
open Verified.Release
open Streams

namespace PilotTunnelBridge

/-! ## The control of a bridge -/

/-- The kind of the state of a name. -/
def kindOf (b : PilotTunnelBridge) (r : Nat) : Option HeldKind :=
  (b.objects r).bind fun o => o.state.kind

/-- The ids of requests and WebSockets. -/
def others (b : PilotTunnelBridge) (s : Nat) : Prop := b.streams.get? s ≠ none ∧ b.held s = none

/-- What is still to report. -/
def tasks (b : PilotTunnelBridge) : Task → Prop
  | .dispatch n d => b.dispatches n = some d ∧ d.stage ≠ .settled
  | .socket k s => ∃ socket, b.sockets k = some socket ∧ socket.stream = s ∧ socket.spent = false
  | .target k s => ∃ target, b.targets k = some target ∧ target.stream = s ∧ target.gone = false

/-- What the control moves see. -/
def control (b : PilotTunnelBridge) : Control :=
  ⟨b.held, b.others, b.tasks, b.closed, b.wsOpen, b.sent, b.emitted⟩

end PilotTunnelBridge

namespace Control

section Operations

variable (c : Control)

/-! ## What the helpers do to a control -/

/-- Free an id. -/
def drop (s : Nat) : Control :=
  { c with held := update c.held s none, others := fun s' => s' ≠ s ∧ c.others s' }

/-- Store an entry. -/
def store (s : Nat) (entry : Option (Nat × HeldKind)) : Control :=
  { c with
    held := update c.held s entry
    others := fun s' => if s' = s then entry = none else c.others s' }

/-- Send, if open. -/
def send (frame : Frame) : Control :=
  { c with sent := if c.wsOpen then c.sent ++ [frame] else c.sent }

/-- Tell an owner. -/
def emit (r : Nat) (event : HandleEvent) : Control :=
  { c with emitted := c.emitted ++ [(r, event)] }

/-- Other tasks remain. -/
def work (tasks : Task → Prop) : Control := { c with tasks := tasks }

end Operations

end Control

namespace PilotTunnelBridge

section Helpers

variable (b : PilotTunnelBridge)
variable {d : Dispatch} {socket : LocalSocket} {k : Nat} {b' : PilotTunnelBridge} {x : Task}
  (s r : Nat)

theorem held_eq :
    b.held s = (b.streams.get? s).bind fun r => (b.kindOf r).map fun kind => (r, kind) := by
  unfold held stored kindOf
  cases b.streams.get? s with
  | none => rfl
  | some r =>
    cases hobject : b.objects r with
    | none =>
      simp only [bind_some, hobject]
      rfl
    | some o =>
      simp only [bind_some, hobject]
      rfl

section

variable {b : PilotTunnelBridge} (hstreams : b'.streams = b.streams)
  (hkinds : ∀ r, b'.kindOf r = b.kindOf r)
include hstreams hkinds

/-- Streams and kinds decide what is held. -/
theorem held_congr : b'.held = b.held := by
  funext s
  rw [held_eq, held_eq, hstreams]
  simp only [hkinds]

/-- A change that leaves the streams, the kinds of their states and the tasks. -/
theorem control_congr (htasks : b'.tasks = b.tasks) (hclosed : b'.closed = b.closed)
    (hwsOpen : b'.wsOpen = b.wsOpen) (hsent : b'.sent = b.sent)
    (hemitted : b'.emitted = b.emitted) :
    b'.control = b.control := by
  have hheld := held_congr hstreams hkinds
  have hothers : b'.others = b.others := by
    funext s
    unfold others
    rw [hstreams, hheld]
  unfold control
  rw [hheld, hothers, htasks, hclosed, hwsOpen, hsent, hemitted]

end

theorem kindOf_modify {b : PilotTunnelBridge} {r : Nat} {f : StreamObject → StreamObject}
    (hobjects : b'.objects = modifyAt b.objects r f)
    (hf : ∀ o, b.objects r = some o → (f o).state.kind = o.state.kind) (r' : Nat) :
    b'.kindOf r' = b.kindOf r' := by
  unfold kindOf
  rw [hobjects]
  unfold modifyAt
  by_cases hr : r' = r
  · rw [hr, update_self]
    cases hobject : b.objects r with
    | none => rfl
    | some o => exact hf o hobject
  · rw [update_of_ne hr]

@[simp] theorem control_send (frame : Frame) : (b.send frame).control = b.control.send frame := rfl

@[simp] theorem control_emit (event : HandleEvent) :
    (b.emit r event).control = b.control.emit r event := rfl

@[simp] theorem control_refreshIdleTimer : (b.refreshIdleTimer s r).control = b.control :=
  control_congr rfl (kindOf_modify rfl fun _ _ => rfl) rfl rfl rfl rfl rfl

@[simp] theorem control_clearIdleTimer : (b.clearIdleTimer r).control = b.control :=
  control_congr rfl (kindOf_modify rfl fun _ _ => rfl) rfl rfl rfl rfl rfl

/-- The kind stays. -/
theorem control_setState {r : Nat} {state : StreamState} (hkind : b.kindOf r = state.kind) :
    (b.setState r state).control = b.control := by
  refine control_congr rfl (kindOf_modify rfl fun o ho => ?_) rfl rfl rfl rfl rfl
  unfold kindOf at hkind
  rw [ho, bind_some] at hkind
  exact hkind.symm

@[simp] theorem kindOf_refreshIdleTimer (r' : Nat) :
    (b.refreshIdleTimer s r).kindOf r' = b.kindOf r' :=
  kindOf_modify (b := b) (r := r)
    (f := fun o => { o with idleTimer := some b.fresh, refreshedAt := b.now }) rfl
    (fun _ _ => rfl) r'

theorem control_resetPending {r : Nat} {state : Nat → StreamState}
    (hkind : b.kindOf r = (state b.fresh).kind) : (b.resetPending r state).control = b.control :=
  control_setState b.newBuffer hkind

@[simp] theorem control_receive (opening : Nat) (p : Payload) :
    (b.receive opening p).control = b.control := rfl

@[simp] theorem control_push (buffer : Nat) (p : Payload) :
    (b.push buffer p).control = b.control := rfl

@[simp] theorem control_writeLocal (ps : List Payload) :
    (b.writeLocal r ps).control = b.control := rfl

theorem tasks_targets {b : PilotTunnelBridge} (hdispatches : b'.dispatches = b.dispatches)
    (hsockets : b'.sockets = b.sockets)
    (htargets : ∀ k s, (∃ target, b'.targets k = some target ∧ target.stream = s ∧
      target.gone = false) ↔ b.tasks (.target k s)) : b'.tasks = b.tasks := by
  funext x
  cases x with
  | dispatch n d =>
    change (b'.dispatches n = some d ∧ _) = _
    rw [hdispatches]
    rfl
  | socket k s =>
    change (∃ socket, b'.sockets k = some socket ∧ _) = _
    rw [hsockets]
    rfl
  | target k s => exact propext (htargets k s)

@[simp] theorem control_writeTarget (k : Nat) (ps : List Payload) :
    (b.writeTarget k ps).control = b.control := by
  refine control_congr rfl (fun _ => rfl) (tasks_targets rfl rfl fun k' s => ?_) rfl rfl rfl rfl
  change (∃ target, modifyAt b.targets k _ k' = some target ∧ _) ↔
    ∃ target, b.targets k' = some target ∧ _
  unfold modifyAt
  by_cases hk : k' = k
  · rw [hk, update_self]
    cases b.targets k with
    | none | some target => simp
  · rw [update_of_ne hk]

/-! ### Tasks -/

/-- Only that dispatch changes. -/
theorem tasks_setStage {n : Nat} (hd : b.dispatches n = some d) {stage : Stage}
    (hx : (b.setStage n stage).tasks x) :
    (b.tasks x ∧ x ≠ .dispatch n d) ∨
      x = .dispatch n { d with stage := stage } ∧ stage ≠ .settled := by
  cases x with
  | socket k s | target k s => exact .inl ⟨hx, nofun⟩
  | dispatch n' d' =>
    obtain ⟨hsome, hstage⟩ := hx
    rcases update_cases hsome with ⟨hn, hnew⟩ | ⟨hn, hold⟩
    · rw [hd] at hnew
      have hd' : { d with stage := stage } = d' := some.inj hnew
      rw [hn, ← hd']
      rw [← hd'] at hstage
      exact .inr ⟨rfl, hstage⟩
    · refine .inl ⟨⟨hold, hstage⟩, fun hsame => hn ?_⟩
      injection hsame

/-- A settled dispatch reports no more. -/
theorem tasks_settle {n : Nat} (hd : b.dispatches n = some d)
    (hx : (b.setStage n .settled).tasks x) :
    b.tasks x ∧ x ≠ .dispatch n d := by
  rcases tasks_setStage b hd hx with hold | ⟨_, hno⟩
  · exact hold
  · exact absurd rfl hno

theorem control_destroySocket (k : Nat) :
    (b.destroySocket k).control = b.control.work (b.destroySocket k).tasks := rfl

theorem tasks_setSocket {socket' : LocalSocket} (hsocket : b.sockets k = some socket)
    (hstream : socket'.stream = socket.stream)
    (hspent : socket'.spent = false → socket.spent = false) (hx : (b.setSocket k socket').tasks x) :
    b.tasks x := by
  cases x with
  | dispatch n d | target k' s => exact hx
  | socket k' s =>
    obtain ⟨socket'', hsome, hs, hleft⟩ := hx
    rcases update_cases hsome with ⟨hk, hnew⟩ | ⟨_, hold⟩
    · rw [← some.inj hnew] at hs hleft
      rw [hk]
      exact ⟨socket, hsocket, hstream.symm.trans hs, hspent hleft⟩
    · exact ⟨socket'', hold, hs, hleft⟩

theorem spent_of_ended (h : { socket with ended := true }.spent = false) :
    socket.spent = false := by
  unfold LocalSocket.spent at h ⊢
  cases hended : socket.ended with
  | false => rfl
  | true => exact h

/-- No task is added. -/
theorem tasks_destroySocket (hx : (b.destroySocket k).tasks x) : b.tasks x := by
  cases x with
  | dispatch n d | target k' s => exact hx
  | socket k' s =>
    obtain ⟨socket', hsome, hs, hleft⟩ := hx
    rcases update_cases hsome with ⟨hk, hnew⟩ | ⟨_, hold⟩
    · obtain ⟨socket, hsocket, hended⟩ := map_eq_some_iff.mp hnew
      rw [← hended] at hs hleft
      rw [hk]
      exact ⟨socket, hsocket, hs, spent_of_ended hleft⟩
    · exact ⟨socket', hold, hs, hleft⟩

/-- The tasks without a target. -/
def withoutTarget (k : Nat) (x : Task) : Prop := b.tasks x ∧ ∀ s, x ≠ .target k s

theorem tasks_goneTarget (hdispatches : b'.dispatches = b.dispatches)
    (hsockets : b'.sockets = b.sockets)
    (hgone : ∀ target, b'.targets k = some target → target.gone = true)
    (hothers : ∀ k', k' ≠ k → b'.targets k' = b.targets k') : b'.tasks = b.withoutTarget k := by
  funext x
  unfold withoutTarget
  cases x with
  | dispatch n d =>
    change (b'.dispatches n = some d ∧ _) = _
    rw [hdispatches]
    simp [tasks]
  | socket k' s =>
    change (∃ socket, b'.sockets k' = some socket ∧ _) = _
    rw [hsockets]
    simp [tasks]
  | target k' s =>
    by_cases hk : k' = k
    · have hno : ¬ b'.tasks (.target k s) := by
        rintro ⟨target, htarget, _, hleft⟩
        rw [hgone target htarget] at hleft
        exact nomatch hleft
      rw [hk]
      simp [hno]
    · change (∃ target, b'.targets k' = some target ∧ _) = _
      rw [hothers k' hk]
      simp [tasks, hk]

/-- The target reports no more. -/
theorem control_destroyTarget (k : Nat) :
    (b.destroyTarget k).control = b.control.work (b.withoutTarget k) := by
  have htasks : (b.destroyTarget k).tasks = b.withoutTarget k := by
    refine tasks_goneTarget b rfl rfl ?_ fun k' hk => update_of_ne hk _ _
    intro target htarget
    change modifyAt b.targets k _ k = some target at htarget
    unfold modifyAt at htarget
    rw [update_self] at htarget
    obtain ⟨_, _, hnew⟩ := map_eq_some_iff.mp htarget
    rw [← hnew]
  change (⟨_, _, _, _, _, _, _⟩ : Control) = _
  rw [htasks]
  rfl

theorem control_goneTarget (target : RelayTarget) :
    (b.setTarget k { target with gone := true }).control = b.control.work (b.withoutTarget k) := by
  have htasks : (b.setTarget k { target with gone := true }).tasks = b.withoutTarget k := by
    refine tasks_goneTarget b rfl rfl ?_ fun k' hk => update_of_ne hk _ _
    intro target' htarget
    rw [← some.inj ((update_self k _ b.targets).symm.trans htarget)]
  change (⟨_, _, _, _, _, _, _⟩ : Control) = _
  rw [htasks]
  rfl

/-- A target that opens stays what it is. -/
theorem control_setTarget {target target' : RelayTarget} (htarget : b.targets k = some target)
    (hstream : target'.stream = target.stream) (hgone : target'.gone = target.gone) :
    (b.setTarget k target').control = b.control := by
  refine control_congr rfl (fun _ => rfl) (tasks_targets rfl rfl fun k' s => ?_) rfl rfl rfl rfl
  change (∃ target'', update b.targets k _ k' = some target'' ∧ _) ↔
    ∃ target'', b.targets k' = some target'' ∧ _
  by_cases hk : k' = k
  · rw [hk, update_self, htarget]
    simp [hstream, hgone]
  · rw [update_of_ne hk]

theorem tasks_newSocket (hx : (b.newSocket socket).tasks x) :
    b.tasks x ∨ x = .socket b.fresh socket.stream := by
  cases x with
  | dispatch n d | target k' s => exact .inl hx
  | socket k' s =>
    obtain ⟨socket', hsome, hs, hleft⟩ := hx
    rcases update_cases hsome with ⟨hk, hnew⟩ | ⟨_, hold⟩
    · rw [hk, ← hs, ← some.inj hnew]
      exact .inr rfl
    · exact .inl ⟨socket', hold, hs, hleft⟩

theorem tasks_newTarget {target : RelayTarget} (hx : (b.newTarget target).tasks x) :
    b.tasks x ∨ x = .target b.fresh target.stream := by
  cases x with
  | dispatch n d | socket k' s => exact .inl hx
  | target k' s =>
    obtain ⟨target', hsome, hs, hleft⟩ := hx
    rcases update_cases hsome with ⟨hk, hnew⟩ | ⟨_, hold⟩
    · rw [hk, ← hs, ← some.inj hnew]
      exact .inr rfl
    · exact .inl ⟨target', hold, hs, hleft⟩

theorem tasks_newDispatch (hx : (b.newDispatch d).tasks x) :
    b.tasks x ∨ x = .dispatch b.fresh d := by
  cases x with
  | socket k s | target k s => exact .inl hx
  | dispatch n d' =>
    obtain ⟨hsome, hstage⟩ := hx
    rcases update_cases hsome with ⟨hn, hnew⟩ | ⟨_, hold⟩
    · rw [hn, some.inj hnew]
      exact .inr rfl
    · exact .inl ⟨hold, hstage⟩

/-! ### Streams that go -/

theorem held_update : (b.deleteStream s).held = update b.held s none := by
  funext s'
  rw [held_eq]
  change ((b.streams.erase s).get? s').bind _ = _
  rw [OrderedMap.get?_erase]
  by_cases hs : s' = s
  · rw [if_pos hs, hs, update_self]
    rfl
  · rw [if_neg hs, update_of_ne hs, held_eq]
    rfl

/-- The id is dropped. -/
@[simp] theorem control_deleteStream : (b.deleteStream s).control = b.control.drop s := by
  have hothers : (b.deleteStream s).others = fun s' => s' ≠ s ∧ b.others s' := by
    funext s'
    unfold others
    rw [held_update]
    change ((b.streams.erase s).get? s' ≠ none ∧ _) = _
    rw [OrderedMap.get?_erase]
    by_cases hs : s' = s
    · simp [hs]
    · simp [hs]
  unfold control Control.drop
  rw [held_update, hothers]
  rfl

/-- Timers are not seen. -/
@[simp] theorem control_removeStream : (b.removeStream s).control = b.control.drop s := by
  unfold removeStream
  cases hget : b.streams.get? s with
  | some r => simp
  | none =>
    have hheld : b.held s = none := by
      rw [held_eq, hget]
      rfl
    have hupdate : update b.held s none = b.held := by
      rw [← hheld]
      exact update_eq_self s b.held
    have hothers : (fun s' => s' ≠ s ∧ b.others s') = b.others := by
      funext s'
      unfold others
      by_cases hs : s' = s
      · simp [hs, hget]
      · simp [hs]
    change b.control = { b.control with
      held := update b.held s none, others := fun s' => s' ≠ s ∧ b.others s' }
    rw [hupdate, hothers]
    rfl

/-- The new name has the new kind. -/
theorem kindOf_store (state : StreamState) (opening r : Nat) :
    (b.storeStream s state opening).kindOf r =
      if r = b.fresh then state.kind else b.kindOf r := by
  unfold storeStream
  rw [kindOf_refreshIdleTimer]
  unfold kindOf
  dsimp only
  by_cases hr : r = b.fresh
  · rw [if_pos hr, hr, update_self]
    rfl
  · rw [if_neg hr, update_of_ne hr]

/-- A new state is stored, under a name that no stored state has. -/
theorem control_storeStream (hnamed : ∀ s r, b.streams.get? s = some r → r < b.fresh) (s : Nat)
    (state : StreamState) (opening : Nat) :
    (b.storeStream s state opening).control =
      b.control.store s (state.kind.map fun kind => (b.fresh, kind)) := by
  have hget : ∀ s', (b.storeStream s state opening).streams.get? s' =
      if s' = s then some b.fresh else b.streams.get? s' := fun s' => OrderedMap.get?_set _ _ _ _
  have hheld : (b.storeStream s state opening).held =
      update b.held s (state.kind.map fun kind => (b.fresh, kind)) := by
    funext s'
    rw [held_eq, hget]
    by_cases hs : s' = s
    · rw [if_pos hs, hs, update_self, bind_some, kindOf_store, if_pos rfl]
    · rw [if_neg hs, update_of_ne hs, held_eq]
      cases hst : b.streams.get? s' with
      | none => rfl
      | some r =>
        have hne : r ≠ b.fresh := Nat.ne_of_lt (hnamed s' r hst)
        rw [bind_some, bind_some, kindOf_store, if_neg hne]
  have hothers : (b.storeStream s state opening).others = fun s' =>
      if s' = s then (state.kind.map fun kind => (b.fresh, kind)) = none else b.others s' := by
    funext s'
    unfold others
    rw [hheld, hget]
    by_cases hs : s' = s
    · simp [hs]
    · simp [hs]
  change (⟨_, _, _, _, _, _, _⟩ : Control) = _
  rw [hheld, hothers]
  rfl

end Helpers

end PilotTunnelBridge

end Sencho.Mesh

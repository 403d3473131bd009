import Sencho.Mesh.BridgeMoves
import Sencho.Mesh.SwitchboardMoves

/-!
# Both ends of a stream are released

At each id one end of a tunnel opens and the other accepts, so each step of an end is a step of a
link.  In a run that drops no half and leaves the other, a stream that one end still holds after the
other dropped it is being closed by a frame on its way.
-/

namespace Sencho.Mesh

open Verified List Option TcpStreamSwitchboard PilotTunnelBridge Runs Tunnel
open Verified.Release
open Streams

/-- Something is left to act for an id. -/
def PilotTunnelBridge.Works (b : PilotTunnelBridge) (s : Nat) : Prop := ∃ x, b.tasks x ∧ x.id = s

/-- An open is left that can refuse its id. -/
def TcpStreamSwitchboard.Waits (w : TcpStreamSwitchboard) (s : Nat) : Prop :=
  ∃ e resolving, w.board.pending e = some (s, resolving)

namespace Tunnel

/-- What a step says of the halves that it drops: an end that drops a stream sends a closing frame,
or was handed one, an end that is handed one holds the stream no longer, and the owner of a stream
of the primary is told unless it closed it. -/
structure Announced (t : Tunnel) (e : TunnelEvent) : Prop where
  bridge_drops : ∀ s, t.bridge.held s ≠ none → (t.step e).bridge.held s = none →
    (∃ frame ∈ (t.step e).bridge.sent.drop t.bridge.sent.length,
      frame.tells = some (s, .closes)) ∨
    e = .hand ∧ ∃ frame, t.switchboard.sent[t.returned]? = some frame ∧
      frame.tells = some (s, .closes)
  switchboard_drops : ∀ s, t.switchboard.board.stored s ≠ none →
    (t.step e).switchboard.board.stored s = none →
    (∃ frame ∈ (t.step e).switchboard.sent.drop t.switchboard.sent.length,
      frame.tells = some (s, .closes)) ∨
    (∃ extra, e = .deliver extra) ∧ ∃ frame, t.bridge.sent[t.delivered]? = some frame ∧
      frame.tells = some (s, .closes)
  bridge_told : ∀ s frame, e = .hand → t.switchboard.sent[t.returned]? = some frame →
    frame.tells = some (s, .closes) → (t.step e).bridge.held s = none
  switchboard_told : ∀ s frame extra, e = .deliver extra → t.bridge.sent[t.delivered]? = some frame →
    frame.tells = some (s, .closes) → (t.step e).switchboard.board.stored s = none
  owner_told : ∀ s r, t.bridge.held s = some (r, .tcp) → (t.step e).bridge.held s = none →
    e = .primary (.closeTcpStream s) ∨
    (r, .close) ∈ (t.step e).bridge.emitted.drop t.bridge.emitted.length

/-- Every id is a link whose opener is the bridge below the base of the agent and the switchboard
above it, and no open is on its way to an end with something left to do for its id. -/
structure Linked (t : Tunnel) : Prop where
  bridge : t.bridge.Tending
  switchboard : t.switchboard.Sorting
  delivered : t.delivered ≤ t.bridge.sent.length
  returned : t.returned ≤ t.switchboard.sent.length
  low : ∀ s, s < agentReverseIdBase → Coherent ⟨t.bridge.control.holds s,
    t.switchboard.board.holds s, t.toAgent s, t.toPrimary s⟩
  high : ∀ s, agentReverseIdBase ≤ s → Coherent ⟨t.switchboard.board.holds s,
    t.bridge.control.holds s, t.toPrimary s, t.toAgent s⟩
  tasks : ∀ x, t.bridge.tasks x → .opens ∉ t.toPrimary x.id
  pending : ∀ e s resolving, t.switchboard.board.pending e = some (s, resolving) →
    .opens ∉ t.toAgent s
  bridge_acks : ∀ s, .tcpOpenAck s false ∈ t.bridge.sent → agentReverseIdBase ≤ s
  switchboard_acks : ∀ s, .tcpOpenAck s false ∈ t.switchboard.sent → s < agentReverseIdBase

variable {t : Tunnel} {s : Nat}

theorem drop_append {α : Type} {sent frames : List α} {n : Nat} (hn : n ≤ sent.length)
    (tell : α → Option Notice) :
    ((sent ++ frames).drop n).filterMap tell =
      (sent.drop n).filterMap tell ++ frames.filterMap tell := by
  rw [drop_append_of_le_length hn, filterMap_append]

theorem drop_next {α : Type} {sent : List α} {n : Nat} {frame : α} (h : sent[n]? = some frame)
    (tell : α → Option Notice) :
    (sent.drop n).filterMap tell = (tell frame).toList ++ (sent.drop (n + 1)).filterMap tell := by
  obtain ⟨hn, hframe⟩ := List.getElem?_eq_some_iff.mp h
  rw [drop_eq_getElem_cons hn, hframe, filterMap_cons]
  cases tell frame with
  | none | some n => rfl

theorem exists_next_iff {α : Type} {sent : List α} {n : Nat} {frame : α} {p : α → Prop}
    (h : sent[n]? = some frame) : (∃ next, sent[n]? = some next ∧ p next) ↔ p frame := by
  rw [h]
  simp

theorem arrives_tells (frame : SwitchboardFrame) : frame.arrives.tells = frame.tells := by
  cases frame with
  | tcpOpenAck s ok => cases ok with
    | true => rfl
    | false => rfl
  | tcpOpenReverse | tcpClose | tcpData => rfl

theorem arrives_tells' (frame : Frame) (extra : Nat) : (frame.arrives extra).tells = frame.tells := by
  cases frame with
  | tcpOpenAck s ok => cases ok with
    | true => rfl
    | false => rfl
  | tcpOpen | tcpClose | tcpData => rfl
  | httpReq | httpReqBody | httpReqEnd | httpCancel | httpErr | wsOpen | wsMsgText
  | wsMessageBinary | wsClose => rfl

/-- An open that arrives at the bridge is for an id of the agent. -/
theorem Linked.opens_high (h : Linked t) (hopens : .opens ∈ t.toPrimary s) :
    agentReverseIdBase ≤ s := by
  by_contra hlow
  exact (h.low s (Nat.lt_of_not_le hlow)).opens_not_mem_back hopens

/-- An open that arrives at the switchboard is for an id of the primary. -/
theorem Linked.opens_low (h : Linked t) (hopens : .opens ∈ t.toAgent s) :
    s < agentReverseIdBase := by
  by_contra hhigh
  exact (h.high s (Nat.le_of_not_lt hhigh)).opens_not_mem_back hopens

/-- The two ends meet. -/
theorem Linked.meets (h : Linked t) : Meets (· < agentReverseIdBase) t.bridge.held t.bridge.Works
    t.switchboard.board.stored t.switchboard.Waits t.toAgent t.toPrimary where
  own := h.low
  other := fun s hs => h.high s (Nat.le_of_not_lt hs)
  idle := by
    rintro s ⟨x, hx, hid⟩
    rw [← hid]
    exact h.tasks x hx
  idle₂ := fun s ⟨e, resolving, hpend⟩ => h.pending e s resolving hpend

theorem linked_of_meets (bridge : t.bridge.Tending) (switchboard : t.switchboard.Sorting)
    (delivered : t.delivered ≤ t.bridge.sent.length)
    (returned : t.returned ≤ t.switchboard.sent.length)
    (hmeets : Meets (· < agentReverseIdBase) t.bridge.held t.bridge.Works
      t.switchboard.board.stored t.switchboard.Waits t.toAgent t.toPrimary)
    (bridge_acks : ∀ s, .tcpOpenAck s false ∈ t.bridge.sent → agentReverseIdBase ≤ s)
    (switchboard_acks : ∀ s, .tcpOpenAck s false ∈ t.switchboard.sent → s < agentReverseIdBase) :
    Linked t where
  bridge := bridge
  switchboard := switchboard
  delivered := delivered
  returned := returned
  low := hmeets.own
  high := fun s hs => hmeets.other s (Nat.not_lt.mpr hs)
  tasks := fun x hx => hmeets.idle x.id ⟨x, hx, rfl⟩
  pending := fun e s resolving hpend => hmeets.idle₂ s ⟨e, resolving, hpend⟩
  bridge_acks := bridge_acks
  switchboard_acks := switchboard_acks

/-- At rest nothing is stored. -/
theorem stored_of_rest (hat : Rest t s) : t.switchboard.board.stored s = none := by
  unfold Board.stored
  split
  · exact hat.forward
  · exact hat.reverse

/-- No task of the bridge is left for an id at rest. -/
theorem not_works_of_rest (hat : Rest t s) : ¬ t.bridge.Works s := by
  rintro ⟨x, hx, hid⟩
  cases x with
  | dispatch k d => exact hx.2 (hat.dispatches k d hx.1 hid)
  | socket k s' =>
    obtain ⟨socket, hsocket, hs, hleft⟩ := hx
    rw [hat.sockets k socket hsocket (hs.trans hid)] at hleft
    exact nomatch hleft
  | target k s' =>
    obtain ⟨target, htarget, hs, hleft⟩ := hx
    rw [hat.targets k target htarget (hs.trans hid)] at hleft
    exact nomatch hleft

/-- No open of the switchboard is left for an id at rest. -/
theorem not_waits_of_rest (hat : Rest t s) : ¬ t.switchboard.Waits s := by
  rintro ⟨e, resolving, hpend⟩
  obtain ⟨entry, hent, hleft⟩ := bind_eq_some_iff.mp hpend
  cases hopen : entry.pending with
  | true =>
    rw [hopen, if_pos rfl] at hleft
    injection hleft with hpair
    injection hpair with hs
    rw [hat.entries e entry hent hs] at hopen
    exact nomatch hopen
  | false =>
    rw [hopen] at hleft
    exact nomatch hleft

/-- The tunnel after a step of its bridge, with the frames returned to it so far. -/
def bridgeStep (t : Tunnel) (e : BridgeEvent) (n : Nat) : Tunnel :=
  { t with bridge := Mesh.step t.bridge e, returned := n }

section Bridge

variable {e : BridgeEvent} {n : Nat} {frames : List Frame}

/-- What a step of the bridge is handed is what is next on its way. -/
def Handed (t : Tunnel) (e : BridgeEvent) (n : Nat) : Prop :=
  ∀ s, t.toPrimary s = (noticeFor s e.tells).toList ++ (t.bridgeStep e n).toPrimary s

theorem toAgent_bridgeStep (h : Linked t)
    (hm : Control.Move (t.bridge.cause e) t.bridge.control (Mesh.step t.bridge e).control frames)
    (s : Nat) : (t.bridgeStep e n).toAgent s = t.toAgent s ++ Control.noticesFor s frames := by
  change (((Mesh.step t.bridge e).sent).drop t.delivered).filterMap _ = _
  have hsent : (Mesh.step t.bridge e).sent = t.bridge.sent ++ frames := hm.up.2.2
  rw [hsent]
  exact drop_append h.delivered _

/-- A move of the bridge keeps every id linked. -/
theorem Linked.bridge_move (h : Linked t) (hn : n ≤ t.switchboard.sent.length)
    (hhanded : Handed t e n)
    (hm : Control.Move (t.bridge.cause e) t.bridge.control (Mesh.step t.bridge e).control frames)
    (hrest : ∀ s, (t.bridge.cause e).opening s → Rest t s) : Linked (t.bridgeStep e n) := by
  have hmeets := h.meets
  rw [show t.toPrimary = fun s => (heard s e.tells).toList ++ (t.bridgeStep e n).toPrimary s from
    funext hhanded] at hmeets
  have hsent : (Mesh.step t.bridge e).sent = t.bridge.sent ++ frames := hm.up.2.2
  have hfree : ∀ s, e.tells = some (s, .opens) → ∀ x, t.bridge.tasks x → x.id ≠ s := by
    intro s hopens x hx hid
    refine hmeets.idle s ⟨x, hx, hid⟩ ?_
    rw [hopens, heard, bind_some, if_pos rfl]
    exact mem_cons_self ..
  have hstep := hmeets.step (t.bridgeStep e n).bridge.Works
    (fun s => hm.acts h.bridge.tended s) ?_ ?_
  · refine linked_of_meets (h.bridge.step hm hfree) h.switchboard ?_ hn ?_ ?_ h.switchboard_acks
    · change t.delivered ≤ (Mesh.step t.bridge e).sent.length
      rw [hsent, length_append]
      exact Nat.le_add_right_of_le h.delivered
    · rw [show (t.bridgeStep e n).toAgent =
        fun s => t.toAgent s ++ said s (frames.filterMap Frame.tells) from
        funext fun s => (toAgent_bridgeStep h hm s).trans (by rw [Control.noticesFor_eq])]
      exact hstep
    · intro s hack
      change _ ∈ (Mesh.step t.bridge e).sent at hack
      rw [hsent] at hack
      rcases mem_append.mp hack with hold | hnew
      · exact h.bridge_acks s hold
      · exact hm.addressed h.bridge.tended hnew
  · rintro s ⟨x, hx, hid⟩
    rcases hm.task_cases hx with ⟨y, hy, hsame⟩ | hopens
    · exact .inl ⟨y, hy, hsame.trans hid⟩
    · rw [hid] at hopens
      rw [show e.tells = _ from hopens, heard, bind_some, if_pos rfl]
      exact .inr rfl
  · intro s hopn
    have hat := hrest s hopn
    have hback := (hhanded s).symm.trans hat.toPrimary
    exact ⟨stored_of_rest hat, hat.toAgent, (append_eq_nil_iff.mp hback).2, not_waits_of_rest hat⟩

end Bridge

/-- The tunnel after a step of its switchboard, with the frames delivered to it so far. -/
def switchboardStep (t : Tunnel) (e : SwitchboardEvent) (n : Nat) : Tunnel :=
  { t with switchboard := t.switchboard.step e, delivered := n }

section Switchboard

variable {e : SwitchboardEvent} {n : Nat} {frames : List SwitchboardFrame}

/-- What a step of the switchboard is handed is what is next on its way. -/
def Delivered (t : Tunnel) (e : SwitchboardEvent) (n : Nat) : Prop :=
  ∀ s, t.toAgent s = (noticeFor s e.tells).toList ++ (t.switchboardStep e n).toAgent s

theorem toPrimary_switchboardStep (h : Linked t)
    (hm : Board.Move (t.switchboard.cause e) t.switchboard.board (t.switchboard.step e).board frames)
    (s : Nat) :
    (t.switchboardStep e n).toPrimary s = t.toPrimary s ++ Board.noticesFor s frames := by
  change (((t.switchboard.step e).sent).drop t.returned).filterMap _ = _
  have hsent : (t.switchboard.step e).sent = t.switchboard.sent ++ frames := hm.keeps.sent
  rw [hsent]
  exact drop_append h.returned _

/-- A move of the switchboard keeps every id linked. -/
theorem Linked.switchboard_move (h : Linked t) (hn : n ≤ t.bridge.sent.length)
    (hdelivered : Delivered t e n)
    (hm : Board.Move (t.switchboard.cause e) t.switchboard.board (t.switchboard.step e).board frames)
    (hrest : ∀ s, (t.switchboard.cause e).opening s → Rest t s) :
    Linked (t.switchboardStep e n) := by
  have hmeets := h.meets.symm
  rw [show t.toAgent = fun s => (heard s e.tells).toList ++ (t.switchboardStep e n).toAgent s from
    funext hdelivered] at hmeets
  have hsent : (t.switchboard.step e).sent = t.switchboard.sent ++ frames := hm.keeps.sent
  have hfree : ∀ s, e.tells = some (s, .opens) → ∀ e' resolving,
      t.switchboard.board.pending e' ≠ some (s, resolving) := by
    intro s hopens e' resolving hpend
    refine hmeets.idle s ⟨e', resolving, hpend⟩ ?_
    rw [hopens, heard, bind_some, if_pos rfl]
    exact mem_cons_self ..
  have hstep := hmeets.step (t.switchboardStep e n).switchboard.Waits
    (fun s => hm.acts h.switchboard.sorted s) ?_ ?_
  · refine linked_of_meets h.bridge (h.switchboard.step hm hfree) hn ?_ ?_ h.bridge_acks ?_
    · change t.returned ≤ (t.switchboard.step e).sent.length
      rw [hsent, length_append]
      exact Nat.le_add_right_of_le h.returned
    · rw [show (t.switchboardStep e n).toPrimary =
          fun s => t.toPrimary s ++ said s (frames.filterMap SwitchboardFrame.tells)
        from funext fun s => (toPrimary_switchboardStep h hm s).trans (by rw [Board.noticesFor_eq])]
      exact meets_of_symm hstep
    · intro s hack
      change _ ∈ (t.switchboard.step e).sent at hack
      rw [hsent] at hack
      rcases mem_append.mp hack with hold | hnew
      · exact h.switchboard_acks s hold
      · exact hm.addressed h.switchboard.sorted hnew
  · rintro s ⟨e', resolving, hpend⟩
    rcases hm.pending_cases hpend with ⟨resolving', hold⟩ | hopens
    · exact .inl ⟨e', resolving', hold⟩
    · rw [show e.tells = _ from hopens, heard, bind_some, if_pos rfl]
      exact .inr rfl
  · intro s hopn
    have hat := hrest s hopn
    have hback := (hdelivered s).symm.trans hat.toAgent
    exact ⟨hat.bridge, hat.toPrimary, (append_eq_nil_iff.mp hback).2, not_works_of_rest hat⟩

end Switchboard

/-- The move that a step of the tunnel makes at one of its ends, if it does anything. -/
inductive Steps (t : Tunnel) : TunnelEvent → Tunnel → Prop
  | idle {e : TunnelEvent} (hdeaf : ∀ extra, e = .deliver extra → t.bridge.sent[t.delivered]? = none)
      (hmute : e = .hand → t.switchboard.sent[t.returned]? = none) : Steps t e t
  | bridge {e : TunnelEvent} {e' : BridgeEvent} {n : Nat} {frames : List Frame}
      (hn : n ≤ t.switchboard.sent.length) (hhanded : Handed t e' n)
      (hm : Control.Move (t.bridge.cause e') t.bridge.control (Mesh.step t.bridge e').control frames)
      (hrest : ∀ s, (t.bridge.cause e').opening s → Rest t s)
      (hdeaf : ∀ extra, e ≠ .deliver extra)
      (htold : ∀ told, e'.tells = some told ↔ e = .hand ∧
        ∃ frame, t.switchboard.sent[t.returned]? = some frame ∧ frame.tells = some told)
      (howned : ∀ s, e' = .closeTcpStream s → e = .primary (.closeTcpStream s)) :
      Steps t e (t.bridgeStep e' n)
  | switchboard {e : TunnelEvent} {e' : SwitchboardEvent} {n : Nat} {frames : List SwitchboardFrame}
      (hn : n ≤ t.bridge.sent.length) (hdelivered : Delivered t e' n)
      (hm : Board.Move (t.switchboard.cause e') t.switchboard.board
        (t.switchboard.step e').board frames)
      (hrest : ∀ s, (t.switchboard.cause e').opening s → Rest t s) (hmute : e ≠ .hand)
      (htold : ∀ told, e'.tells = some told ↔ (∃ extra, e = .deliver extra) ∧
        ∃ frame, t.bridge.sent[t.delivered]? = some frame ∧ frame.tells = some told) :
      Steps t e (t.switchboardStep e' n)

/-- An own event brings no notice. -/
theorem own_tells {e : BridgeEvent} (hown : e.isOwn = true) : e.tells = none := by
  cases e with
  | json frame =>
    cases frame with
    | tcpOpenAck | tcpOpenReverse | tcpClose => exact nomatch hown
    | httpRes | httpResEnd | httpErr | wsAccept | wsReject | wsMsgText | wsClose | other => rfl
  | elapse | timeout | wsClosing | close | openTcpStream | loopbackRequest | loopbackUpgrade
  | loopback | writeTcpData | closeTcpStream | binary | malformed | imported | resolved | ensured
  | socket | target => rfl

theorem own_ordinary {e : BridgeEvent} (hown : e.isOwn = true) :
    PilotTunnelBridge.Ordinary e where
  wsClosing := fun he => by rw [he] at hown; exact nomatch hown
  close := fun he => by rw [he] at hown; exact nomatch hown
  malformed := fun he => by rw [he] at hown; exact nomatch hown
  opens := fun s he => by rw [he] at hown; exact nomatch hown
  acks := fun s he => by rw [he] at hown; exact nomatch hown

section

variable {e : SwitchboardEvent} (hown : e.isOwn = true)
include hown

theorem own_tells' : e.tells = none := by
  cases e with
  | json frame => exact nomatch hown
  | elapse | timeout | wsClosing | cleanup | tcpData | dial | openReverseStream | handle => rfl

theorem own_ordinary' :
    TcpStreamSwitchboard.Ordinary e where
  wsClosing := fun he => by rw [he] at hown; exact nomatch hown
  cleanup := fun he => by rw [he] at hown; exact nomatch hown
  opens := fun s extra he => by rw [he] at hown; exact nomatch hown
  acks := fun s he => by rw [he] at hown; exact nomatch hown

end

section

variable (h : Linked t)
include h

/-- The bridge acts. -/
theorem steps_primary {e : BridgeEvent} (hown : e.isOwn = true) (hslips : ¬ Slips t (.primary e)) :
    Steps t (.primary e) (t.step (.primary e)) := by
  have hstays : ¬ t.bridge.Strands e := fun hstrands => hslips ⟨hown, .inl hstrands⟩
  obtain ⟨frames, hm⟩ := move_step h.bridge (own_ordinary hown) hstays
  have hstep : t.step (.primary e) = t.bridgeStep e t.returned := if_pos hown
  rw [hstep]
  refine .bridge h.returned ?_ hm ?_ nofun ?_ ?_
  · intro s
    rw [own_tells hown]
    rfl
  · intro s hopn
    obtain ⟨he, hfull, hs⟩ := hopn
    by_contra hrest
    rw [hs] at hrest
    exact hslips ⟨hown, .inr ⟨he, hfull, hrest⟩⟩
  · intro told
    rw [own_tells hown]
    constructor
    · intro hno
      exact nomatch hno
    · intro hno
      exact nomatch hno.1
  · intro s he
    rw [he]

/-- A frame reaches the bridge. -/
theorem steps_hand {frame : SwitchboardFrame}
    (hframe : t.switchboard.sent[t.returned]? = some frame) (hslips : ¬ Slips t .hand) :
    Steps t .hand (t.step .hand) := by
  have hlt : t.returned < t.switchboard.sent.length :=
    (List.getElem?_eq_some_iff.mp hframe).1
  have hmem : frame ∈ t.switchboard.sent := mem_of_getElem? hframe
  have hhanded : Handed t frame.arrives (t.returned + 1) := by
    intro s
    rw [arrives_tells]
    exact drop_next hframe _
  have hstays : ¬ t.bridge.Strands frame.arrives :=
    fun hstrands => hslips ⟨frame, hframe, hstrands⟩
  have hordinary : PilotTunnelBridge.Ordinary frame.arrives := by
    cases frame with
    | tcpOpenAck s ok =>
      refine ⟨nofun, nofun, nofun, nofun, fun s' hsame => ?_⟩
      injection hsame with hsame
      injection hsame with hs hok
      rw [hs, hok] at hmem
      exact h.switchboard_acks s' hmem
    | tcpOpenReverse s =>
      refine ⟨nofun, nofun, nofun, fun s' hsame => ?_, nofun⟩
      injection hsame with hsame
      injection hsame with hs
      refine h.opens_high ?_
      have hnotice : noticeFor s' (SwitchboardFrame.tcpOpenReverse s).arrives.tells =
          some .opens := by
        rw [hs]
        exact noticeFor_self s' .opens
      rw [hhanded s', hnotice]
      exact mem_cons_self ..
    | tcpClose | tcpData =>
      exact ⟨nofun, nofun, nofun, nofun, nofun⟩
  obtain ⟨frames, hm⟩ := move_step h.bridge hordinary hstays
  have hstep : t.step .hand = t.bridgeStep frame.arrives (t.returned + 1) := by
    unfold step
    rw [hframe]
    rfl
  rw [hstep]
  refine .bridge hlt hhanded hm ?_ nofun ?_ ?_
  · intro s hopn
    cases frame with
    | tcpOpenAck | tcpOpenReverse | tcpClose | tcpData => exact nomatch hopn.1
  · intro told
    rw [arrives_tells]
    refine (Iff.trans (and_iff_right rfl) ?_).symm
    exact exists_next_iff hframe
  · intro s he
    cases frame with
    | tcpOpenAck | tcpOpenReverse | tcpClose | tcpData => exact nomatch he

/-- The switchboard acts. -/
theorem steps_agent {e : SwitchboardEvent} (hown : e.isOwn = true) (hslips : ¬ Slips t (.agent e)) :
    Steps t (.agent e) (t.step (.agent e)) := by
  have hopens : ∀ extra, e = .openReverseStream extra →
      t.switchboard.totalStreamCount extra < maxStreamsPerTunnel →
      agentReverseIdBase ≤ t.switchboard.reverseStreamIds.next ∧
        Rest t t.switchboard.reverseStreamIds.next := by
    intro extra he hcount
    by_contra hrest
    rw [he] at hslips
    exact hslips ⟨hcount, hrest⟩
  obtain ⟨frames, hm⟩ := move_step h.switchboard (own_ordinary' hown)
    fun extra he hcount => (hopens extra he hcount).imp_right Rest.reverse
  have hstep : t.step (.agent e) = t.switchboardStep e t.delivered := if_pos hown
  rw [hstep]
  refine .switchboard h.delivered ?_ hm ?_ nofun ?_
  · intro s
    rw [own_tells' hown]
    rfl
  · intro s hopn
    obtain ⟨extra, he, hcount, hs⟩ := hopn
    rw [hs]
    exact (hopens extra he hcount).2
  · intro told
    rw [own_tells' hown]
    constructor
    · intro hno
      exact nomatch hno
    · rintro ⟨⟨_, hno⟩, _⟩
      exact nomatch hno

/-- A frame reaches the switchboard. -/
theorem steps_deliver {frame : Frame} (extra : Nat)
    (hframe : t.bridge.sent[t.delivered]? = some frame) :
    Steps t (.deliver extra) (t.step (.deliver extra)) := by
  have hlt : t.delivered < t.bridge.sent.length := (List.getElem?_eq_some_iff.mp hframe).1
  have hmem : frame ∈ t.bridge.sent := mem_of_getElem? hframe
  have hdelivered : Delivered t (frame.arrives extra) (t.delivered + 1) := by
    intro s
    rw [arrives_tells']
    exact drop_next hframe _
  have hordinary : TcpStreamSwitchboard.Ordinary (frame.arrives extra) := by
    cases frame with
    | tcpOpenAck s ok =>
      refine ⟨nofun, nofun, nofun, fun s' hsame => ?_⟩
      injection hsame with hsame
      injection hsame with hs hok
      rw [hs, hok] at hmem
      exact h.bridge_acks s' hmem
    | tcpOpen s =>
      refine ⟨nofun, nofun, fun s' extra' hsame => ?_, nofun⟩
      injection hsame with hsame
      injection hsame with hs _
      refine h.opens_low ?_
      have hnotice : noticeFor s' ((Frame.tcpOpen s).arrives extra).tells = some .opens := by
        rw [hs]
        exact noticeFor_self s' .opens
      rw [hdelivered s', hnotice]
      exact mem_cons_self ..
    | tcpClose | tcpData =>
      exact ⟨nofun, nofun, nofun, nofun⟩
    | httpReq | httpReqBody | httpReqEnd | httpCancel | httpErr | wsOpen | wsMsgText
    | wsMessageBinary | wsClose =>
      exact ⟨nofun, nofun, nofun, nofun⟩
  have hnever : ∀ extra', frame.arrives extra ≠ .openReverseStream extra' := by
    intro extra'
    cases frame with
    | tcpOpenAck | tcpOpen | tcpClose | tcpData => exact nofun
    | httpReq | httpReqBody | httpReqEnd | httpCancel | httpErr | wsOpen | wsMsgText
    | wsMessageBinary | wsClose => exact nofun
  obtain ⟨frames, hm⟩ := move_step h.switchboard hordinary
    fun extra' he => absurd he (hnever extra')
  have hstep : t.step (.deliver extra) = t.switchboardStep (frame.arrives extra)
      (t.delivered + 1) := by
    unfold step
    rw [hframe]
    rfl
  rw [hstep]
  refine .switchboard hlt hdelivered hm ?_ nofun ?_
  · rintro s ⟨extra', he, _⟩
    exact absurd he (hnever extra')
  · intro told
    rw [arrives_tells']
    refine (Iff.trans (and_iff_right ⟨extra, rfl⟩) ?_).symm
    exact exists_next_iff hframe

/-- Every step that does not slip is a move of one end. -/
theorem steps_step {e : TunnelEvent} (hslips : ¬ Slips t e) : Steps t e (t.step e) := by
  cases e with
  | primary e =>
    cases hown : e.isOwn with
    | true => exact steps_primary h hown hslips
    | false =>
      rw [show t.step (.primary e) = t from if_neg (by rw [hown]; exact Bool.false_ne_true)]
      exact .idle nofun nofun
  | agent e =>
    cases hown : e.isOwn with
    | true => exact steps_agent h hown hslips
    | false =>
      rw [show t.step (.agent e) = t from if_neg (by rw [hown]; exact Bool.false_ne_true)]
      exact .idle nofun nofun
  | deliver extra =>
    cases hframe : t.bridge.sent[t.delivered]? with
    | some frame => exact steps_deliver h extra hframe
    | none =>
      have hstep : t.step (.deliver extra) = t := by
        unfold step
        rw [hframe]
      rw [hstep]
      exact .idle (fun _ _ => hframe) nofun
  | hand =>
    cases hframe : t.switchboard.sent[t.returned]? with
    | some frame => exact steps_hand h hframe hslips
    | none =>
      have hstep : t.step .hand = t := by
        unfold step
        rw [hframe]
      rw [hstep]
      exact .idle nofun fun _ => hframe

namespace Linked

/-- A step that does not slip keeps every id linked. -/
theorem step {e : TunnelEvent} (hslips : ¬ Slips t e) : Linked (t.step e) := by
  have hsteps := steps_step h hslips
  generalize t.step e = t' at hsteps
  cases hsteps with
  | idle _ _ => exact h
  | bridge hn hhanded hm hrest _ _ _ => exact h.bridge_move hn hhanded hm hrest
  | switchboard hn hdelivered hm hrest _ _ => exact h.switchboard_move hn hdelivered hm hrest

/-- Low ids are forward. -/
theorem holdsTcp_low (hlow : s < agentReverseIdBase) :
    t.bridge.holdsTcp s = t.bridge.control.holds s := by
  rw [Bool.eq_iff_iff, holdsTcp_iff]
  unfold Control.holds
  rw [isSome_iff_exists]
  constructor
  · rintro ⟨r, hheld⟩
    exact ⟨_, hheld⟩
  · rintro ⟨⟨r, kind⟩, hheld⟩
    have htcp : kind = .tcp := h.bridge.tended.is_tcp hlow hheld
    rw [htcp] at hheld
    exact ⟨r, hheld⟩

theorem holdsTcp_high (hhigh : agentReverseIdBase ≤ s) : t.bridge.holdsTcp s = false := by
  by_contra hno
  obtain ⟨r, hheld⟩ := (holdsTcp_iff _ _).mp (Bool.not_eq_false _ |>.mp hno)
  exact h.bridge.tended.not_tcp hhigh hheld rfl

/-- High ids are reverse. -/
theorem holdsReverse_high (hhigh : agentReverseIdBase ≤ s) :
    t.bridge.holdsReverse s = t.bridge.control.holds s := by
  rw [Bool.eq_iff_iff, holdsReverse_iff]
  unfold Control.holds
  rw [isSome_iff_exists]
  constructor
  · rintro ⟨r, kind, hheld, _⟩
    exact ⟨_, hheld⟩
  · rintro ⟨⟨r, kind⟩, hheld⟩
    exact ⟨r, kind, hheld, h.bridge.tended.not_tcp hhigh hheld⟩

theorem holdsReverse_low (hlow : s < agentReverseIdBase) : t.bridge.holdsReverse s = false := by
  by_contra hno
  obtain ⟨r, kind, hheld, hkind⟩ :=
    (holdsReverse_iff _ _).mp (Bool.not_eq_false _ |>.mp hno)
  exact hkind (h.bridge.tended.is_tcp hlow hheld)

theorem has_low (hlow : s < agentReverseIdBase) :
    t.switchboard.tcpStreams.has s = t.switchboard.board.holds s ∧
      t.switchboard.reverseTcpStreams.has s = false := by
  rw [has_eq, has_eq]
  unfold Board.holds
  rw [Board.stored_low hlow]
  refine ⟨rfl, ?_⟩
  cases hget : t.switchboard.reverseTcpStreams.get? s with
  | none => rfl
  | some k =>
    have hhigh := h.switchboard.sorted.high s (by
      change t.switchboard.reverseTcpStreams.get? s ≠ none
      rw [hget]
      exact some_ne_none k)
    omega

theorem has_high (hhigh : agentReverseIdBase ≤ s) :
    t.switchboard.reverseTcpStreams.has s = t.switchboard.board.holds s ∧
      t.switchboard.tcpStreams.has s = false := by
  rw [has_eq, has_eq]
  unfold Board.holds
  rw [Board.stored_high hhigh]
  refine ⟨rfl, ?_⟩
  cases hget : t.switchboard.tcpStreams.get? s with
  | none => rfl
  | some e =>
    have hlow := h.switchboard.sorted.low s (by
      change t.switchboard.tcpStreams.get? s ≠ none
      rw [hget]
      exact some_ne_none e)
    omega

/-- With every id linked the halves come and go together. -/
theorem released : Released t where
  agent_told := by
    intro s hhas hheld
    by_cases hlow : s < agentReverseIdBase
    · have hlink := h.low s hlow
      rw [← h.holdsTcp_low hlow, ← (h.has_low hlow).1, hhas, hheld] at hlink
      exact hlink.acceptor_told
    · rw [(h.has_high (Nat.le_of_not_lt hlow)).2] at hhas
      exact nomatch hhas
  primary_told := by
    intro s hheld hhas
    by_cases hlow : s < agentReverseIdBase
    · have hlink := h.low s hlow
      rw [← h.holdsTcp_low hlow, ← (h.has_low hlow).1, hhas, hheld] at hlink
      exact hlink.opener_told
    · rw [h.holdsTcp_high (Nat.le_of_not_lt hlow)] at hheld
      exact nomatch hheld
  primary_told_reverse := by
    intro s hheld hhas
    by_cases hlow : s < agentReverseIdBase
    · rw [h.holdsReverse_low hlow] at hheld
      exact nomatch hheld
    · have hhigh := Nat.le_of_not_lt hlow
      have hlink := h.high s hhigh
      rw [← h.holdsReverse_high hhigh, ← (h.has_high hhigh).1, hhas, hheld] at hlink
      exact hlink.acceptor_told
  agent_told_reverse := by
    intro s hhas hheld
    by_cases hlow : s < agentReverseIdBase
    · rw [(h.has_low hlow).2] at hhas
      exact nomatch hhas
    · have hhigh := Nat.le_of_not_lt hlow
      have hlink := h.high s hhigh
      rw [← h.holdsReverse_high hhigh, ← (h.has_high hhigh).1, hhas, hheld] at hlink
      exact hlink.opener_told
  relay_target := fun s r k hheld => h.bridge.tended.relayed s r k hheld
  target_relay := fun k target htarget hgone =>
    h.bridge.tended.targeted k target.stream ⟨target, htarget, rfl, hgone⟩
  settled := by
    intro hdelivered hreturned s
    have hout : t.toAgent s = [] := by
      unfold toAgent
      rw [hdelivered, drop_length]
      rfl
    have hback : t.toPrimary s = [] := by
      unfold toPrimary
      rw [hreturned, drop_length]
      rfl
    by_cases hlow : s < agentReverseIdBase
    · have hlink := h.low s hlow
      rw [hout, hback] at hlink
      have hsame := hlink.agree
      rw [h.holdsTcp_low hlow, h.holdsReverse_low hlow, (h.has_low hlow).1, (h.has_low hlow).2]
      exact ⟨hsame, rfl⟩
    · have hhigh := Nat.le_of_not_lt hlow
      have hlink := h.high s hhigh
      rw [hout, hback] at hlink
      have hsame := hlink.agree
      rw [h.holdsTcp_high hhigh, h.holdsReverse_high hhigh, (h.has_high hhigh).1,
        (h.has_high hhigh).2]
      exact ⟨rfl, hsame.symm⟩

end Linked

end

theorem tells_of_notice {told : Option (Nat × Notice)} {n : Notice}
    (h : noticeFor s told = some n) : told = some (s, n) := by
  obtain ⟨⟨s', n'⟩, htold, hsome⟩ := bind_eq_some_iff.mp h
  by_cases hs : s' = s
  · rw [if_pos hs] at hsome
    have hn : n' = n := some.inj hsome
    rw [htold, hs, hn]
  · rw [if_neg hs] at hsome
    exact nomatch hsome

/-- Where a notice stands among frames. -/
theorem frame_of_notice {α : Type} {tell : α → Option (Nat × Notice)} {frames : List α} {n : Notice}
    (h : n ∈ said s (frames.filterMap tell)) : ∃ frame ∈ frames, tell frame = some (s, n) := by
  obtain ⟨about, habout, hnotice⟩ := mem_filterMap.mp h
  obtain ⟨frame, hframe, htell⟩ := mem_filterMap.mp habout
  exact ⟨frame, hframe, htell.trans (tells_of_notice hnotice)⟩

theorem drop_length_append {α : Type} (xs ys : List α) : (xs ++ ys).drop xs.length = ys :=
  drop_left

/-- Every step that does not slip announces what it drops. -/
theorem Linked.announced (h : Linked t) {e : TunnelEvent} (hslips : ¬ Slips t e) :
    Announced t e := by
  have hsteps := steps_step h hslips
  constructor
  · intro s hheld hgone
    generalize t.step e = t' at hsteps hgone
    cases hsteps with
    | idle _ _ | switchboard => exact absurd hgone hheld
    | @bridge e' n frames _ _ hm _ _ htold _ =>
      have hsent : (t.bridgeStep e' n).bridge.sent = t.bridge.sent ++ frames := hm.up.2.2
      obtain ⟨entry, hent⟩ := ne_none_iff_exists'.mp hheld
      have hact := hm.acts h.bridge.tended s
      rw [show t.bridge.control.held s = some entry from hent,
        show (Mesh.step t.bridge e').control.held s = none from hgone] at hact
      rcases hact.dropped with hcloses | hnotice
      · rw [hsent, drop_length_append]
        exact .inl (frame_of_notice hcloses)
      · exact .inr ((htold _).mp (tells_of_notice hnotice))
  · intro s hst hgone
    generalize t.step e = t' at hsteps hgone
    cases hsteps with
    | idle _ _ | bridge => exact absurd hgone hst
    | @switchboard e' n frames _ _ hm _ _ htold =>
      have hsent : (t.switchboardStep e' n).switchboard.sent = t.switchboard.sent ++ frames :=
        hm.keeps.sent
      obtain ⟨entry, hent⟩ := ne_none_iff_exists'.mp hst
      have hact := hm.acts h.switchboard.sorted s
      rw [hent, show (t.switchboard.step e').board.stored s = none from hgone] at hact
      rcases hact.dropped with hcloses | hnotice
      · rw [hsent, drop_length_append]
        exact .inl (frame_of_notice hcloses)
      · exact .inr ((htold _).mp (tells_of_notice hnotice))
  · intro s frame he hframe htells
    generalize t.step e = t' at hsteps ⊢
    cases hsteps with
    | idle _ hmute => exact absurd (hframe.symm.trans (hmute he)) (some_ne_none _)
    | switchboard _ _ _ _ hmute _ => exact absurd he hmute
    | @bridge e' n frames _ _ hm _ _ htold _ =>
      have hnotice : noticeFor s (t.bridge.cause e').arriving = some .closes := by
        rw [show (t.bridge.cause e').arriving = some (s, .closes) from
          (htold _).mpr ⟨he, frame, hframe, htells⟩, noticeFor_self]
      have hact := hm.acts h.bridge.tended s
      rw [show heard s (t.bridge.cause e').arriving = _ from hnotice] at hact
      exact hact.closed
  · intro s frame extra he hframe htells
    generalize t.step e = t' at hsteps ⊢
    cases hsteps with
    | idle hdeaf _ => exact absurd (hframe.symm.trans (hdeaf extra he)) (some_ne_none _)
    | bridge _ _ _ _ hdeaf _ _ => exact absurd he (hdeaf extra)
    | @switchboard e' n frames _ _ hm _ _ htold =>
      have hnotice : noticeFor s (t.switchboard.cause e').arriving = some .closes := by
        rw [show (t.switchboard.cause e').arriving = some (s, .closes) from
          (htold _).mpr ⟨⟨extra, he⟩, frame, hframe, htells⟩, noticeFor_self]
      have hact := hm.acts h.switchboard.sorted s
      rw [show heard s (t.switchboard.cause e').arriving = _ from hnotice] at hact
      exact hact.closed
  · intro s r hheld hgone
    generalize t.step e = t' at hsteps hgone ⊢
    cases hsteps with
    | idle _ _ | switchboard => exact absurd (hheld.symm.trans hgone) (some_ne_none _)
    | @bridge e' n frames _ _ hm _ _ _ howned =>
      rcases hm.tells hheld hgone with ⟨events, hemitted, hclose⟩ | hown
      · have hall : (t.bridgeStep e' n).bridge.emitted = t.bridge.emitted ++ events := hemitted
        rw [hall, drop_length_append]
        exact .inr hclose
      · exact .inl (howned s hown)

/-- A new tunnel is linked. -/
theorem linked_new : Linked new where
  bridge := tending_new
  switchboard := sorting_new
  delivered := Nat.le_refl 0
  returned := Nat.le_refl 0
  low := by
    intro s hlow
    unfold Board.holds
    rw [Board.stored_low hlow]
    exact Release.coherent_rest
  high := by
    intro s hhigh
    unfold Board.holds
    rw [Board.stored_high hhigh]
    exact Release.coherent_rest
  tasks := nofun
  pending := nofun
  bridge_acks := nofun
  switchboard_acks := nofun

/-- In every run that drops no half and leaves the other, both ends of every stream are released
together, and each step announces what it drops. -/
theorem released_together (events : List TunnelEvent)
    (hclean : ∀ pre e post, events = pre ++ e :: post → ¬ Slips (run step new pre) e) :
    (∀ pre post, events = pre ++ post → Released (run step new pre)) ∧
      ∀ pre e post, events = pre ++ e :: post → Announced (run step new pre) e := by
  have hlinked : ∀ pre post, events = pre ++ post → Linked (run step new pre) :=
    inv_of_clean linked_new (fun _ _ h hno => h.step hno) hclean
  exact ⟨fun pre post heq => (hlinked pre post heq).released,
    fun pre e post heq => (hlinked pre (e :: post) heq).announced (hclean pre e post heq)⟩

theorem rest_new (s : Nat) : Rest new s :=
  ⟨rfl, rfl, rfl, rfl, rfl, nofun, nofun, nofun, nofun⟩

/-- A reverse open that fails at once. -/
def failedOpen : List TunnelEvent :=
  [.agent (.openReverseStream 0), .hand, .primary (.imported 3 .failed), .deliver 0]

/-- The refusal of a failed open releases the handle at the agent. -/
theorem released_together_failedOpen :
    ((∀ pre post, failedOpen = pre ++ post → Released (run step new pre)) ∧
      ∀ pre e post, failedOpen = pre ++ e :: post → Announced (run step new pre) e) ∧
    (run step new failedOpen).switchboard.reverseTcpStreams.has agentReverseIdBase =
      false := by
  have hfirst : ¬ Slips new (.agent (.openReverseStream 0)) :=
    fun hno => hno.2 ⟨.refl, rest_new _⟩
  have hsent : (run step new [.agent (.openReverseStream 0)]).switchboard.sent[
      (run step new [.agent (.openReverseStream 0)]).returned]? =
        some (.tcpOpenReverse agentReverseIdBase) := by decide +kernel
  have hsecond : ¬ Slips (run step new [.agent (.openReverseStream 0)]) .hand := by
    rintro ⟨frame, hframe, hstrands⟩
    rw [← some.inj hframe] at hstrands
    exact hstrands
  have hthird : ∀ t, ¬ Slips t (.primary (.imported 3 .failed)) := by
    rintro t ⟨_, hno | ⟨hno, _⟩⟩
    · exact hno
    · exact nomatch hno
  exact ⟨released_together failedOpen (clean_of_along
    ⟨hfirst, hsecond, hthird _, fun hno => hno, trivial⟩), by decide +kernel⟩

/-- A reverse stream is accepted and stays idle until its timer fires. -/
def idleHalf : List TunnelEvent :=
  [.agent (.openReverseStream 0), .hand, .primary (.imported 3 .localNode),
    .primary (.resolved 3 .address), .primary (.socket 4 .connect), .deliver 0,
    .primary (.elapse 600000), .primary (.timeout 2), .deliver 0]

/-- The bridge has dropped the stream and every frame has arrived, and the agent still holds it. -/
theorem idle_half_left :
    (run step new idleHalf).delivered = (run step new idleHalf).bridge.sent.length ∧
    (run step new idleHalf).returned =
      (run step new idleHalf).switchboard.sent.length ∧
    (run step new idleHalf).bridge.holdsReverse agentReverseIdBase = false ∧
    (run step new idleHalf).switchboard.reverseTcpStreams.has agentReverseIdBase = true := by
  decide +kernel

end Tunnel

end Sencho.Mesh

import Sencho.Mesh.Switchboard
import Sencho.Verified.Release

/-!
# A tunnel

A tunnel is a bridge and a switchboard with the frames in flight between them.  Frames arrive in
order and none is lost, so what is in flight is the end of what an end has sent.  The tunnel stays
up: closing it takes both ends down at once.
-/

namespace Sencho.Mesh

open Verified
open Verified.Release
open Streams

/-- What a frame of the bridge says of a stream.  A refusal closes it. -/
def Frame.tells : Frame → Option (Nat × Notice)
  | .tcpOpen s => some (s, .opens)
  | .tcpClose s => some (s, .closes)
  | .tcpOpenAck s false => some (s, .closes)
  | _ => none

/-- What a frame of the switchboard says of a stream. -/
def SwitchboardFrame.tells : SwitchboardFrame → Option (Nat × Notice)
  | .tcpOpenReverse s => some (s, .opens)
  | .tcpClose s => some (s, .closes)
  | .tcpOpenAck s false => some (s, .closes)
  | _ => none

/-- What is said of one stream. -/
def noticeFor (s : Nat) (told : Option (Nat × Notice)) : Option Notice :=
  told.bind fun about => if about.1 = s then some about.2 else none

/-- A notice is for its own id. -/
theorem noticeFor_self (s : Nat) (n : Notice) : noticeFor s (some (s, n)) = some n := by
  simp [noticeFor]

/-- A frame of the bridge, as the switchboard is handed it.  Frames of requests and of WebSockets
go to other parts of the agent. -/
def Frame.arrives (extra : Nat) : Frame → SwitchboardEvent
  | .tcpOpen s => .json (.tcpOpen s extra)
  | .tcpOpenAck s ok => .json (.tcpOpenAck s ok)
  | .tcpClose s => .json (.tcpClose s)
  | .tcpData s bytes => .tcpData s bytes
  | _ => .json .other

/-- A frame of the switchboard, as the bridge is handed it. -/
def SwitchboardFrame.arrives : SwitchboardFrame → BridgeEvent
  | .tcpOpenAck s ok => .json (.tcpOpenAck s ok)
  | .tcpOpenReverse s => .json (.tcpOpenReverse s)
  | .tcpClose s => .json (.tcpClose s)
  | .tcpData s bytes => .binary (.tcpData s bytes)

/-- What happens at a bridge without a frame of the switchboard, while the tunnel is up.  The other
frames of the agent belong to requests and WebSockets. -/
def BridgeEvent.isOwn : BridgeEvent → Bool
  | .wsClosing | .close | .malformed => false
  | .json (.tcpOpenAck _ _) | .json (.tcpOpenReverse _) | .json (.tcpClose _) => false
  | .binary (.tcpData _ _) => false
  | _ => true

/-- What happens at a switchboard without a frame of the bridge, while the tunnel is up. -/
def SwitchboardEvent.isOwn : SwitchboardEvent → Bool
  | .wsClosing | .cleanup | .json _ | .tcpData _ _ => false
  | _ => true

/-- `delivered` and `returned` count the frames of the bridge and of the switchboard that have
arrived. -/
structure Tunnel where
  bridge : PilotTunnelBridge
  switchboard : TcpStreamSwitchboard
  delivered : Nat
  returned : Nat

/-- Both ends fresh, nothing in flight. -/
def Tunnel.new : Tunnel := ⟨.new, .new, 0, 0⟩

/-- An end acts, or a frame arrives. -/
inductive TunnelEvent where
  | primary (e : BridgeEvent)
  | agent (e : SwitchboardEvent)
  | deliver (extra : Nat)
  | hand

namespace Tunnel

variable (t : Tunnel)

/-- One event of the tunnel. -/
def step : TunnelEvent → Tunnel
  | .primary e => if e.isOwn then { t with bridge := Mesh.step t.bridge e } else t
  | .agent e => if e.isOwn then { t with switchboard := t.switchboard.step e } else t
  | .deliver extra =>
    match t.bridge.sent[t.delivered]? with
    | none => t
    | some frame =>
      { t with
        switchboard := t.switchboard.step (frame.arrives extra)
        delivered := t.delivered + 1 }
  | .hand =>
    match t.switchboard.sent[t.returned]? with
    | none => t
    | some frame =>
      { t with bridge := Mesh.step t.bridge frame.arrives, returned := t.returned + 1 }

/-- The notices of a stream in flight to the agent. -/
def toAgent (s : Nat) : List Notice :=
  (t.bridge.sent.drop t.delivered).filterMap fun frame => noticeFor s frame.tells

/-- The notices of a stream in flight to the primary. -/
def toPrimary (s : Nat) : List Notice :=
  (t.switchboard.sent.drop t.returned).filterMap fun frame => noticeFor s frame.tells

end Tunnel

/-- A stored state of a TCP stream. -/
inductive HeldKind where
  | tcp
  | reverseLocal
  | reverseRelay (target : Nat)
  deriving DecidableEq

/-- What kind of stream a state is. -/
def StreamState.kind : StreamState → Option HeldKind
  | .tcp _ => some .tcp
  | .reverseLocal _ _ _ => some .reverseLocal
  | .reverseRelay target _ _ _ => some (.reverseRelay target)
  | _ => none

namespace PilotTunnelBridge

/-- The TCP stream that is stored under an id. -/
def held (b : PilotTunnelBridge) (s : Nat) : Option (Nat × HeldKind) :=
  (b.stored s).bind fun entry => entry.2.state.kind.map fun kind => (entry.1, kind)

/-- A forward stream is stored. -/
def holdsTcp (b : PilotTunnelBridge) (s : Nat) : Bool :=
  (b.held s).any fun entry => entry.2 = .tcp

/-- A reverse stream is stored. -/
def holdsReverse (b : PilotTunnelBridge) (s : Nat) : Bool :=
  (b.held s).any fun entry => entry.2 ≠ .tcp

end PilotTunnelBridge

/-- A socket that no event comes from any more. -/
def LocalSocket.spent (socket : LocalSocket) : Bool :=
  socket.ended && (!socket.connected || socket.closeEmitted)

/-- An open that can still refuse its stream. -/
def ForwardTcpStream.pending (entry : ForwardTcpStream) : Bool :=
  entry.stage = .resolving || (entry.stage = .dialed && !entry.ended)

/-- An end that holds a stream the other end does not hold is being told, relays and their targets
come and go together, and once nothing is in flight both ends hold the same streams. -/
structure Released (t : Tunnel) : Prop where
  agent_told : ∀ s, t.switchboard.tcpStreams.has s = true → t.bridge.holdsTcp s = false →
    .closes ∈ t.toAgent s
  primary_told : ∀ s, t.bridge.holdsTcp s = true → t.switchboard.tcpStreams.has s = false →
    .opens ∈ t.toAgent s ∨ .closes ∈ t.toPrimary s
  primary_told_reverse : ∀ s, t.bridge.holdsReverse s = true →
    t.switchboard.reverseTcpStreams.has s = false → .closes ∈ t.toPrimary s
  agent_told_reverse : ∀ s, t.switchboard.reverseTcpStreams.has s = true →
    t.bridge.holdsReverse s = false → .opens ∈ t.toPrimary s ∨ .closes ∈ t.toAgent s
  relay_target : ∀ s r k, t.bridge.held s = some (r, .reverseRelay k) →
    ∃ target, t.bridge.targets k = some target ∧ target.stream = s ∧ target.gone = false
  target_relay : ∀ k target, t.bridge.targets k = some target → target.gone = false →
    ∃ r, t.bridge.held target.stream = some (r, .reverseRelay k)
  settled : t.delivered = t.bridge.sent.length → t.returned = t.switchboard.sent.length →
    ∀ s, t.bridge.holdsTcp s = t.switchboard.tcpStreams.has s ∧
      t.bridge.holdsReverse s = t.switchboard.reverseTcpStreams.has s

/-- Nothing is left of an earlier stream with this id. -/
structure Rest (t : Tunnel) (s : Nat) : Prop where
  bridge : t.bridge.held s = none
  forward : t.switchboard.tcpStreams.get? s = none
  reverse : t.switchboard.reverseTcpStreams.get? s = none
  toAgent : t.toAgent s = []
  toPrimary : t.toPrimary s = []
  dispatches : ∀ n d, t.bridge.dispatches n = some d → d.stream = s → d.stage = .settled
  sockets : ∀ k socket, t.bridge.sockets k = some socket → socket.stream = s → socket.spent = true
  targets : ∀ k target, t.bridge.targets k = some target → target.stream = s → target.gone = true
  entries : ∀ e entry, t.switchboard.entries e = some entry → entry.stream = s →
    entry.pending = false

/-- The steps of a bridge that drop a half and leave the other: an idle reverse stream, for which it
sends an error that the switchboard ignores, and a relay whose buffer overflows, whose target stays.
The others act on an id that has been taken over by another stream. -/
def PilotTunnelBridge.Strands (b : PilotTunnelBridge) : BridgeEvent → Prop
  | .timeout timer => ∃ armed, b.timers timer = some armed ∧ armed.due ≤ b.now ∧
      b.holdsReverse armed.stream = true
  | .binary (.tcpData s bytes) => ∃ r target pendingData pendingBytes idleTimer refreshedAt opening,
      b.stored s = some (r, ⟨.reverseRelay target false pendingData pendingBytes, idleTimer,
        refreshedAt, opening⟩) ∧ streamPendingDataMaxBytes < pendingBytes + bytes.length
  | .openTcpStream | .loopbackRequest | .loopbackUpgrade => b.full = false ∧
      ¬ (b.streamIds.next < agentReverseIdBase ∧ b.held b.streamIds.next = none)
  | .loopback s _ | .json (.httpErr s) => b.held s ≠ none
  | .closeTcpStream s => b.streams.get? s ≠ none ∧ b.holdsTcp s = false
  | _ => False

/-- The steps of a tunnel that drop a half and leave the other, or open an id while something is
left of an earlier stream. -/
def Slips (t : Tunnel) : TunnelEvent → Prop
  | .primary e => e.isOwn = true ∧ (t.bridge.Strands e ∨
      e = .openTcpStream ∧ t.bridge.full = false ∧ ¬ Rest t t.bridge.streamIds.next)
  | .hand => ∃ frame, t.switchboard.sent[t.returned]? = some frame ∧
      t.bridge.Strands frame.arrives
  | .agent (.openReverseStream extra) =>
    t.switchboard.totalStreamCount extra < maxStreamsPerTunnel ∧
    ¬ (agentReverseIdBase ≤ t.switchboard.reverseStreamIds.next ∧
      Rest t t.switchboard.reverseStreamIds.next)
  | _ => False

end Sencho.Mesh

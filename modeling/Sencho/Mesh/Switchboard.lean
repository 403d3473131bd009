import Sencho.Mesh.Bridge

/-!
# The agent's end of a tunnel

The switchboard accepts the streams the primary opens, resolves a target for each and dials it, and
opens streams of its own through handles.  An accepted stream is an entry with the socket that its
open dials, and the handlers of that socket go on with the entry whatever the map holds by then.
-/

namespace Sencho.Mesh

open Verified
open Streams
open Function (update)

/-- How far the open of an entry has come. -/
inductive OpenStage where
  | resolving
  | dialed
  | settled
  deriving DecidableEq

/-- A stream of the primary.  `writes` is what was written to its socket and `received` the bytes
that came for it. -/
structure ForwardTcpStream where
  stream : Nat
  stage : OpenStage
  accepted : Bool
  pendingData : List Payload
  pendingBytes : Nat
  connected : Bool
  ended : Bool
  closeEmitted : Bool
  received : List Payload
  writes : List Payload

/-- Whether the socket has been created. -/
def ForwardTcpStream.socket (entry : ForwardTcpStream) : Bool := entry.stage = .dialed

/-- A handle of a stream that the switchboard opened, with what it told its owner. -/
structure ReverseTcpStreamHandle where
  stream : Nat
  closed : Bool
  emitted : List HandleEvent

/-- A frame the switchboard sends. -/
inductive SwitchboardFrame where
  | tcpOpenAck (s : Nat) (ok : Bool)
  | tcpOpenReverse (s : Nat)
  | tcpClose (s : Nat)
  | tcpData (s : Nat) (bytes : List UInt8)
  deriving DecidableEq

/-- A text frame that a switchboard is handed.  `extra` counts the streams outside of the mesh. -/
inductive SwitchboardJson where
  | tcpOpen (s extra : Nat)
  | tcpOpenAck (s : Nat) (ok : Bool)
  | tcpClose (s : Nat)
  | other

/-- The agent's end of the tunnel. -/
structure TcpStreamSwitchboard where
  now : Nat
  wsOpen : Bool
  fresh : Nat
  tcpStreams : OrderedMap Nat Nat
  reverseTcpStreams : OrderedMap Nat Nat
  reverseStreamIds : StreamIdAllocator
  idleTimers : Nat → Option Nat
  entries : Nat → Option ForwardTcpStream
  handles : Nat → Option ReverseTcpStreamHandle
  arrivals : Nat
  sent : List SwitchboardFrame

/-- A switchboard as constructed. -/
def TcpStreamSwitchboard.new : TcpStreamSwitchboard where
  now := 0
  wsOpen := true
  fresh := 0
  tcpStreams := .empty
  reverseTcpStreams := .empty
  reverseStreamIds := .new agentReverseIdBase
  idleTimers := fun _ => none
  entries := fun _ => none
  handles := fun _ => none
  arrivals := 0
  sent := []

namespace TcpStreamSwitchboard

variable (w : TcpStreamSwitchboard)

/-- Change an entry in place. -/
def modifyEntry (e : Nat) (f : ForwardTcpStream → ForwardTcpStream) : TcpStreamSwitchboard :=
  { w with entries := update w.entries e ((w.entries e).map f) }

/-- Change a handle in place. -/
def modifyHandle (k : Nat) (f : ReverseTcpStreamHandle → ReverseTcpStreamHandle) :
    TcpStreamSwitchboard :=
  { w with handles := update w.handles k ((w.handles k).map f) }

/-- A closed socket sends nothing. -/
def send (frame : SwitchboardFrame) : TcpStreamSwitchboard :=
  { w with sent := if w.wsOpen then w.sent ++ [frame] else w.sent }

/-- The timer of an id starts anew. -/
def refreshIdleTimer (s : Nat) : TcpStreamSwitchboard :=
  { w with idleTimers := update w.idleTimers s (some (w.now + streamIdleTimeoutMs)) }

/-- The timer of an id stops. -/
def clearIdleTimer (s : Nat) : TcpStreamSwitchboard :=
  { w with idleTimers := update w.idleTimers s none }

/-- The id leaves the forward map. -/
def deleteForward (s : Nat) : TcpStreamSwitchboard :=
  { w with tcpStreams := w.tcpStreams.erase s }

/-- The id leaves the reverse map. -/
def deleteReverse (s : Nat) : TcpStreamSwitchboard :=
  { w with reverseTcpStreams := w.reverseTcpStreams.erase s }

/-- Drop a stream of the primary and stop its timer. -/
def dropForward (s : Nat) : TcpStreamSwitchboard := (w.deleteForward s).clearIdleTimer s

/-- Delete and disarm. -/
def dropReverse (s : Nat) : TcpStreamSwitchboard := (w.deleteReverse s).clearIdleTimer s

/-- `socket.destroy()`, where the entry has a socket. -/
def destroySocket (e : Nat) : TcpStreamSwitchboard :=
  w.modifyEntry e fun entry => { entry with ended := entry.ended || entry.socket }

/-- Both maps and the caller's own. -/
def totalStreamCount (extra : Nat) : Nat := w.tcpStreams.size + w.reverseTcpStreams.size + extra

/-- The handle reports an error. -/
def dispatchError (k : Nat) : TcpStreamSwitchboard :=
  w.modifyHandle k fun handle => { handle with emitted := handle.emitted ++ [.error] }

/-- The handle reports its close. -/
def dispatchClose (k : Nat) : TcpStreamSwitchboard :=
  w.modifyHandle k fun handle =>
    if handle.closed then handle
    else { handle with closed := true, emitted := handle.emitted ++ [.close] }

/-- The timer of an id fired. -/
def onStreamIdle (s : Nat) : TcpStreamSwitchboard :=
  let w := w.clearIdleTimer s
  match w.tcpStreams.get? s with
  | some e => ((w.destroySocket e).deleteForward s).send (.tcpClose s)
  | none =>
    match w.reverseTcpStreams.get? s with
    | some k => (((w.deleteReverse s).dispatchError k).dispatchClose k).send (.tcpClose s)
    | none => w

/-- The timer of an id fires once it is due. -/
def timeout (s : Nat) : TcpStreamSwitchboard :=
  match w.idleTimers s with
  | none => w
  | some due => if due ≤ w.now then w.onStreamIdle s else w

/-- An entry that resolves. -/
def newEntry (s : Nat) : TcpStreamSwitchboard :=
  { w with
    tcpStreams := w.tcpStreams.set s w.fresh
    entries := update w.entries w.fresh
      (some ⟨s, .resolving, false, [], 0, false, false, false, [], []⟩)
    fresh := w.fresh + 1 }

/-- Reserve the slot and wait for the target. -/
def onTcpOpen (s extra : Nat) : TcpStreamSwitchboard :=
  if maxStreamsPerTunnel ≤ w.totalStreamCount extra then w.send (.tcpOpenAck s false)
  else (w.newEntry s).refreshIdleTimer s

/-- The target of an entry is resolved, or there is none. -/
def resolve (e : Nat) (entry : ForwardTcpStream) (ok : Bool) : TcpStreamSwitchboard :=
  let stored := w.tcpStreams.get? entry.stream = some e
  let w := w.modifyEntry e fun entry => { entry with stage := .settled }
  if ok then
    if stored then w.modifyEntry e fun entry => { entry with stage := .dialed } else w
  else (if stored then w.dropForward entry.stream else w).send (.tcpOpenAck entry.stream false)

/-- What a dial reports. -/
inductive DialEvent where
  | resolved (ok : Bool)
  | connect
  | data (bytes : List UInt8)
  | timeout
  | error
  | close

/-- Flush the pending data and acknowledge. -/
def socketConnect (e : Nat) (entry : ForwardTcpStream) : TcpStreamSwitchboard :=
  ((w.modifyEntry e fun entry =>
    { entry with
      accepted := true
      connected := true
      writes := entry.writes ++ entry.pendingData
      pendingData := []
      pendingBytes := if entry.pendingData = [] then entry.pendingBytes else 0 }).send
    (.tcpOpenAck entry.stream true)).refreshIdleTimer entry.stream

/-- Pass bytes to the primary. -/
def socketData (entry : ForwardTcpStream) (bytes : List UInt8) : TcpStreamSwitchboard :=
  (w.send (.tcpData entry.stream bytes)).refreshIdleTimer entry.stream

/-- The dial timed out. -/
def socketTimeout (e : Nat) (entry : ForwardTcpStream) : TcpStreamSwitchboard :=
  if entry.accepted then w
  else ((w.modifyEntry e fun entry => { entry with accepted := true, ended := true }).send
    (.tcpOpenAck entry.stream false)).dropForward entry.stream

/-- Drop the stream that is stored under an id, if there is one, and tell the peer. -/
def dropStored (s : Nat) : TcpStreamSwitchboard :=
  if w.tcpStreams.has s then (w.dropForward s).send (.tcpClose s) else w

/-- A failed dial or a broken socket. -/
def socketError (e : Nat) (entry : ForwardTcpStream) : TcpStreamSwitchboard :=
  if entry.accepted then
    (w.modifyEntry e fun entry => { entry with ended := true }).dropStored entry.stream
  else ((w.modifyEntry e fun entry => { entry with accepted := true, ended := true }).send
    (.tcpOpenAck entry.stream false)).dropForward entry.stream

/-- The socket of an entry closed. -/
def socketClose (e : Nat) (entry : ForwardTcpStream) : TcpStreamSwitchboard :=
  (w.modifyEntry e fun entry => { entry with ended := true, closeEmitted := true }).dropStored
    entry.stream

/-- What happens to the open of an entry or to its socket. -/
def dialEvent (e : Nat) (event : DialEvent) : TcpStreamSwitchboard :=
  match w.entries e with
  | none => w
  | some entry =>
    match event with
    | .resolved ok => if entry.stage = .resolving then w.resolve e entry ok else w
    | .connect =>
      if entry.socket && !entry.connected && !entry.ended then w.socketConnect e entry else w
    | .data bytes => if entry.connected && !entry.ended then w.socketData entry bytes else w
    | .timeout => if entry.socket && !entry.connected && !entry.ended then w.socketTimeout e entry
        else w
    | .error => if entry.socket && !entry.ended then w.socketError e entry else w
    | .close =>
      if entry.socket && (entry.connected || entry.ended) && !entry.closeEmitted then
        w.socketClose e entry
      else w

/-- The primary closes an id. -/
def onTcpClose (s : Nat) : TcpStreamSwitchboard :=
  if agentReverseIdBase ≤ s then
    match w.reverseTcpStreams.get? s with
    | none => w
    | some k => (w.dropReverse s).dispatchClose k
  else
    match w.tcpStreams.get? s with
    | none => w
    | some e => (w.dropForward s).destroySocket e

/-- A reverse open is answered. -/
def onTcpOpenAckReverse (s : Nat) (ok : Bool) : TcpStreamSwitchboard :=
  match w.reverseTcpStreams.get? s with
  | none => w
  | some k =>
    if ok then
      (w.modifyHandle k fun handle => { handle with emitted := handle.emitted ++ [.opened] }
        ).refreshIdleTimer s
    else ((w.dropReverse s).dispatchError k).dispatchClose k

def newHandle : TcpStreamSwitchboard :=
  let s := w.reverseStreamIds.next
  { w with
    reverseStreamIds := w.reverseStreamIds.allocate
    reverseTcpStreams := w.reverseTcpStreams.set s w.fresh
    handles := update w.handles w.fresh (some ⟨s, false, []⟩)
    fresh := w.fresh + 1 }

/-- Open towards the primary. -/
def openReverseStream (extra : Nat) : TcpStreamSwitchboard :=
  if !w.wsOpen || maxStreamsPerTunnel ≤ w.totalStreamCount extra then w
  else
    let s := w.reverseStreamIds.next
    (w.newHandle.refreshIdleTimer s).send (.tcpOpenReverse s)

/-- What an owner asks of a handle. -/
inductive HandleCall where
  | write (bytes : List UInt8)
  | «end»

/-- The owner of a handle writes or ends. -/
def handleCall (k : Nat) (call : HandleCall) : TcpStreamSwitchboard :=
  match w.handles k with
  | none => w
  | some handle =>
    if handle.closed then w
    else
      match call with
      | .write bytes =>
        if w.wsOpen then (w.send (.tcpData handle.stream bytes)).refreshIdleTimer handle.stream
        else w
      | .end =>
        let w := w.modifyHandle k fun handle => { handle with closed := true }
        if w.reverseTcpStreams.has handle.stream then
          (w.dropReverse handle.stream).send (.tcpClose handle.stream)
        else w

/-- A text frame arrives. -/
def handleJsonFrame (frame : SwitchboardJson) : TcpStreamSwitchboard :=
  match frame with
  | .tcpOpen s extra => w.onTcpOpen s extra
  | .tcpOpenAck s ok => if s < agentReverseIdBase then w else w.onTcpOpenAckReverse s ok
  | .tcpClose s => w.onTcpClose s
  | .other => w

/-- Bytes for the entry that is stored under an id. -/
def receiveForward (e s : Nat) (entry : ForwardTcpStream) (p : Payload) : TcpStreamSwitchboard :=
  if entry.socket then
    (w.modifyEntry e fun entry => { entry with writes := entry.writes ++ [p] }).refreshIdleTimer s
  else if streamPendingDataMaxBytes < entry.pendingBytes + p.bytes.length then
    (w.dropForward s).send (.tcpClose s)
  else
    (w.modifyEntry e fun entry =>
      { entry with
        pendingData := entry.pendingData ++ [p]
        pendingBytes := entry.pendingBytes + p.bytes.length }).refreshIdleTimer s

/-- The bytes that come for the stored stream of an id. -/
def receive (s : Nat) (p : Payload) : TcpStreamSwitchboard :=
  match w.tcpStreams.get? s with
  | none => w
  | some e => w.modifyEntry e fun entry => { entry with received := entry.received ++ [p] }

/-- Bytes for a stored id. -/
def handleTcpData (s : Nat) (p : Payload) : TcpStreamSwitchboard :=
  if agentReverseIdBase ≤ s then
    match w.reverseTcpStreams.get? s with
    | none => w
    | some k =>
      (w.modifyHandle k fun handle => { handle with emitted := handle.emitted ++ [.data] }
        ).refreshIdleTimer s
  else
    match w.tcpStreams.get? s with
    | none => w
    | some e =>
      match w.entries e with
      | none => w
      | some entry => w.receiveForward e s entry p

/-- After a frame the next one has the next number. -/
def counted : TcpStreamSwitchboard := { w with arrivals := w.arrivals + 1 }

/-- A binary frame, counted. -/
def binaryFrame (s : Nat) (bytes : List UInt8) : TcpStreamSwitchboard :=
  ((w.receive s ⟨w.arrivals, bytes⟩).handleTcpData s ⟨w.arrivals, bytes⟩).counted

/-- Tear down all streams. -/
def cleanup : TcpStreamSwitchboard :=
  let w := w.tcpStreams.values.foldl destroySocket w
  let w := w.reverseTcpStreams.values.foldl (fun w k => (w.dispatchError k).dispatchClose k) w
  { w with
    tcpStreams := .empty
    reverseTcpStreams := .empty
    reverseStreamIds := .new agentReverseIdBase
    idleTimers := fun _ => none }

end TcpStreamSwitchboard

/-- Whatever can happen to a switchboard. -/
inductive SwitchboardEvent where
  | elapse (ms : Nat)
  | timeout (s : Nat)
  | wsClosing
  | cleanup
  | json (frame : SwitchboardJson)
  | tcpData (s : Nat) (bytes : List UInt8)
  | dial (e : Nat) (event : TcpStreamSwitchboard.DialEvent)
  | openReverseStream (extra : Nat)
  | handle (k : Nat) (call : TcpStreamSwitchboard.HandleCall)

namespace TcpStreamSwitchboard

/-- One event. -/
def step (w : TcpStreamSwitchboard) : SwitchboardEvent → TcpStreamSwitchboard
  | .elapse ms => { w with now := w.now + ms }
  | .timeout s => w.timeout s
  | .wsClosing => { w with wsOpen := false }
  | .cleanup => w.cleanup
  | .json frame => w.handleJsonFrame frame
  | .tcpData s bytes => w.binaryFrame s bytes
  | .dial e event => w.dialEvent e event
  | .openReverseStream extra => w.openReverseStream extra
  | .handle k call => w.handleCall k call

end TcpStreamSwitchboard

end Sencho.Mesh

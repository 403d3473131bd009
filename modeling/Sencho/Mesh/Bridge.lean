import Mathlib.Logic.Function.Basic
import Sencho.Streams.StreamIds
import Sencho.Verified.OrderedMap

/-!
# The primary's end of a tunnel

A bridge keeps a state for each stream.  The states, the buffers, the idle timers, the local
sockets, the target streams of relays and the dispatches of reverse opens are objects of a heap,
because handlers hold on to the object they were made with while the map of the streams goes on
under the same id.  A buffer of received bytes is an object too, and carries the number of the
frame it came in.
-/

namespace Sencho.Mesh

open Verified
open Streams

/-- A quiet stream lives this long. -/
def streamIdleTimeoutMs : Nat := 10 * 60 * 1000

/-- The cap on pending data. -/
def streamPendingDataMaxBytes : Nat := 1024 * 1024

/-- A buffer of received bytes, with the number of frames received before it. -/
structure Payload where
  arrival : Nat
  bytes : List UInt8
  deriving DecidableEq

/-- The state of a stream.  `socket`, `target` and `pendingData` name objects. -/
inductive StreamState where
  | http (headersWritten : Bool)
  | ws (rawSocket clientWs : Bool)
  | tcp (accepted : Bool)
  | reverseLocal (socket : Option Nat) (pendingData pendingBytes : Nat)
  | reverseRelay (target : Nat) (targetOpen : Bool) (pendingData pendingBytes : Nat)
  deriving DecidableEq

/-- A stored state, with its timer.  `refreshedAt` is when the timer was last refreshed, and
`opening` names the open that the bytes of the stream are received for. -/
structure StreamObject where
  state : StreamState
  idleTimer : Option Nat
  refreshedAt : Nat
  opening : Nat
  deriving DecidableEq

/-- An armed timer. -/
structure IdleTimer where
  stream : Nat
  due : Nat
  deriving DecidableEq

/-- A local socket, and the stream and the state its handlers were made with. -/
structure LocalSocket where
  stream : Nat
  state : Nat
  connected : Bool
  ended : Bool
  closeEmitted : Bool

/-- The target stream of a relay, on the bridge of another node. -/
structure RelayTarget where
  stream : Nat
  opened : Bool
  gone : Bool
  writes : List Payload

/-- How far a reverse open has come. -/
inductive Stage where
  | importing
  | resolving (state : Nat)
  | ensuringBridge (reservation : Nat)
  | settled
  deriving DecidableEq

/-- A reverse open in progress. -/
structure Dispatch where
  stream : Nat
  reservation : Nat
  stage : Stage

/-- The codes of an `http_err`. -/
inductive HttpErrCode where
  | tunnelDown
  | timeout

/-- A frame the bridge sends, without the contents that no end of a stream turns on. -/
inductive Frame where
  | httpReq (s : Nat)
  | httpReqBody (s : Nat)
  | httpReqEnd (s : Nat)
  | httpCancel (s : Nat)
  | httpErr (s : Nat) (code : HttpErrCode)
  | wsOpen (s : Nat)
  | wsMsgText (s : Nat)
  | wsMessageBinary (s : Nat)
  | wsClose (s : Nat) (code : Nat)
  | tcpOpen (s : Nat)
  | tcpOpenAck (s : Nat) (ok : Bool)
  | tcpClose (s : Nat)
  | tcpData (s : Nat) (bytes : List UInt8)

/-- A text frame of the agent.  `upgraded` says whether the upgrade that it accepts goes through. -/
inductive JsonFrame where
  | httpRes (s : Nat)
  | httpResEnd (s : Nat)
  | httpErr (s : Nat)
  | wsAccept (s : Nat) (upgraded : Bool)
  | wsReject (s : Nat)
  | wsMsgText (s : Nat)
  | wsClose (s : Nat)
  | tcpOpenAck (s : Nat) (ok : Bool)
  | tcpOpenReverse (s : Nat)
  | tcpClose (s : Nat)
  | other

/-- A binary frame of the agent. -/
inductive BinaryFrame where
  | httpResBody (s : Nat)
  | wsMessageBinary (s : Nat)
  | tcpData (s : Nat) (bytes : List UInt8)
  | other

/-- What a stream handle tells its owner. -/
inductive HandleEvent where
  | opened
  | data
  | error
  | close

/-- `fresh` is the next name of an object, `received` the bytes of an open, `localWrites` what was
written to a local socket for a state, and `sent` and `emitted` what left the bridge. -/
structure PilotTunnelBridge where
  now : Nat
  closed : Bool
  wsOpen : Bool
  streamIds : StreamIdAllocator
  streams : OrderedMap Nat Nat
  fresh : Nat
  objects : Nat → Option StreamObject
  timers : Nat → Option IdleTimer
  buffers : Nat → List Payload
  sockets : Nat → Option LocalSocket
  targets : Nat → Option RelayTarget
  dispatches : Nat → Option Dispatch
  arrivals : Nat
  received : Nat → List Payload
  localWrites : Nat → List Payload
  sent : List Frame
  emitted : List (Nat × HandleEvent)

/-- A bridge as constructed. -/
def PilotTunnelBridge.new : PilotTunnelBridge where
  now := 0
  closed := false
  wsOpen := true
  streamIds := .new 1
  streams := .empty
  fresh := 0
  objects := fun _ => none
  timers := fun _ => none
  buffers := fun _ => []
  sockets := fun _ => none
  targets := fun _ => none
  dispatches := fun _ => none
  arrivals := 0
  received := fun _ => []
  localWrites := fun _ => []
  sent := []
  emitted := []

open Function (update)

namespace PilotTunnelBridge

variable (b : PilotTunnelBridge)

/-- Change what a heap holds under a name. -/
def modifyAt {α : Type} (heap : Nat → Option α) (name : Nat) (f : α → α) : Nat → Option α :=
  update heap name ((heap name).map f)

/-- Change a state in place. -/
def setState (r : Nat) (state : StreamState) : PilotTunnelBridge :=
  { b with objects := modifyAt b.objects r fun o => { o with state := state } }

def setSocket (k : Nat) (socket : LocalSocket) : PilotTunnelBridge :=
  { b with sockets := update b.sockets k (some socket) }

def setTarget (k : Nat) (target : RelayTarget) : PilotTunnelBridge :=
  { b with targets := update b.targets k (some target) }

/-- Move a dispatch on. -/
def setStage (n : Nat) (stage : Stage) : PilotTunnelBridge :=
  { b with dispatches := modifyAt b.dispatches n fun d => { d with stage := stage } }

/-- The state of that name. -/
def stateOf (r : Nat) : Option StreamState := (b.objects r).map StreamObject.state

/-! A new object takes the next name. -/

def newBuffer : PilotTunnelBridge :=
  { b with buffers := update b.buffers b.fresh [], fresh := b.fresh + 1 }

def newSocket (socket : LocalSocket) : PilotTunnelBridge :=
  { b with sockets := update b.sockets b.fresh (some socket), fresh := b.fresh + 1 }

def newTarget (target : RelayTarget) : PilotTunnelBridge :=
  { b with targets := update b.targets b.fresh (some target), fresh := b.fresh + 1 }

def newDispatch (d : Dispatch) : PilotTunnelBridge :=
  { b with dispatches := update b.dispatches b.fresh (some d), fresh := b.fresh + 1 }

/-- The stored state of a stream, and its name. -/
def stored (s : Nat) : Option (Nat × StreamObject) :=
  (b.streams.get? s).bind fun r => (b.objects r).map fun o => (r, o)

/-- A closed socket sends nothing. -/
def send (frame : Frame) : PilotTunnelBridge :=
  { b with sent := if b.wsOpen then b.sent ++ [frame] else b.sent }

/-- Tell the owner of a handle. -/
def emit (r : Nat) (event : HandleEvent) : PilotTunnelBridge :=
  { b with emitted := b.emitted ++ [(r, event)] }

/-- The bridge takes new streams. -/
def isOpen : Bool := !b.closed && b.wsOpen

/-- The timers without the one of a state. -/
def clearTimeout (r : Nat) : Nat → Option IdleTimer :=
  ((b.objects r).bind (·.idleTimer)).elim b.timers fun t => update b.timers t none

/-- Arm a new timer for a state. -/
def refreshIdleTimer (s r : Nat) : PilotTunnelBridge :=
  { b with
    timers := update (b.clearTimeout r) b.fresh (some ⟨s, b.now + streamIdleTimeoutMs⟩)
    objects := modifyAt b.objects r fun o =>
      { o with idleTimer := some b.fresh, refreshedAt := b.now }
    fresh := b.fresh + 1 }

/-- Disarm the timer of a state. -/
def clearIdleTimer (r : Nat) : PilotTunnelBridge :=
  { b with
    timers := b.clearTimeout r
    objects := modifyAt b.objects r fun o => { o with idleTimer := none } }

/-- `streams.delete`. -/
def deleteStream (s : Nat) : PilotTunnelBridge := { b with streams := b.streams.erase s }

/-- Clear the timer and delete. -/
def removeStream (s : Nat) : PilotTunnelBridge :=
  match b.streams.get? s with
  | none => b
  | some r => (b.clearIdleTimer r).deleteStream s

/-- The socket reports no more. -/
def destroySocket (k : Nat) : PilotTunnelBridge :=
  { b with sockets := modifyAt b.sockets k fun socket => { socket with ended := true } }

/-- The target reports no more. -/
def destroyTarget (k : Nat) : PilotTunnelBridge :=
  { b with targets := modifyAt b.targets k fun target => { target with gone := true } }

/-- End the local side of a state. -/
def teardownState (r : Nat) : StreamState → PilotTunnelBridge
  | .tcp accepted => (if accepted then b else b.emit r .error).emit r .close
  | .reverseLocal (some k) _ _ => b.destroySocket k
  | .reverseRelay k _ _ _ => b.destroyTarget k
  | _ => b

/-- Tear down what a name holds. -/
def teardownStream (r : Nat) : PilotTunnelBridge :=
  match b.objects r with
  | none => b
  | some o => b.teardownState r o.state

/-- What the agent is told. -/
def idleFrame (s : Nat) : StreamState → Frame
  | .tcp _ => .tcpClose s
  | .ws _ _ => .wsClose s 1001
  | _ => .httpErr s .timeout

/-- Tear down the loopback side and tell the agent. -/
def onStreamIdle (s : Nat) : PilotTunnelBridge :=
  match b.stored s with
  | none => b
  | some (r, o) => ((b.teardownState r o.state).deleteStream s).send (idleFrame s o.state)

/-- Close the bridge and everything on it. -/
def close : PilotTunnelBridge :=
  if b.closed then b
  else
    let b := b.streams.entries.foldl (fun b e => (b.clearIdleTimer e.2).teardownStream e.2)
      { b with closed := true }
    { b with streams := .empty, wsOpen := false }

/-- Store a new state under an id and start its timer.  The state is named by `fresh`. -/
def storeStream (s : Nat) (state : StreamState) (opening : Nat) : PilotTunnelBridge :=
  let r := b.fresh
  let b := { b with
    streams := b.streams.set s r
    objects := update b.objects r (some ⟨state, none, b.now, opening⟩)
    fresh := b.fresh + 1 }
  b.refreshIdleTimer s r

/-- Take an id, store the state and send the open. -/
def openForward (state : StreamState) (frame : Nat → Frame) : PilotTunnelBridge :=
  let s := b.streamIds.next
  let b := { b with streamIds := b.streamIds.allocate }
  (b.storeStream s state b.fresh).send (frame s)

/-- The tunnel is at its cap. -/
def full : Bool := maxStreamsPerTunnel ≤ b.streams.size

/-- Open towards the agent. -/
def openTcpStream : PilotTunnelBridge :=
  if b.isOpen && !b.full then b.openForward (.tcp false) .tcpOpen else b

def handleLoopbackRequest : PilotTunnelBridge :=
  if b.isOpen && !b.full then b.openForward (.http false) .httpReq else b

def handleLoopbackUpgrade : PilotTunnelBridge :=
  if b.isOpen && !b.full then b.openForward (.ws true false) .wsOpen else b

/-- A write through a handle. -/
def writeTcpData (s : Nat) (bytes : List UInt8) : PilotTunnelBridge :=
  match b.stored s with
  | some (r, ⟨.tcp _, _, _, _⟩) =>
    if b.isOpen then (b.send (.tcpData s bytes)).refreshIdleTimer s r else b
  | _ => b

/-- The owner closes its handle. -/
def closeTcpStream (s : Nat) : PilotTunnelBridge :=
  if (b.streams.get? s).isSome then (b.removeStream s).send (.tcpClose s) else b

/-- What the loopback side reports. -/
inductive LoopbackEvent where
  | reqData
  | reqEnd
  | reqError
  | reqAborted
  | resClose
  | upgradeError
  | upgradeClose
  | clientText
  | clientBinary
  | clientClose (code : Nat)
  | clientError

/-- A listener of a request, an upgrade or its client.  They act by id. -/
def loopbackEvent (s : Nat) (event : LoopbackEvent) : PilotTunnelBridge :=
  match event with
  | .clientText => (match b.streams.get? s with
      | none => b
      | some r => b.refreshIdleTimer s r).send (.wsMsgText s)
  | .clientBinary => (match b.streams.get? s with
      | none => b
      | some r => b.refreshIdleTimer s r).send (.wsMessageBinary s)
  | _ =>
    match b.streams.get? s with
    | none => b
    | some r =>
      match event with
      | .reqData => (b.send (.httpReqBody s)).refreshIdleTimer s r
      | .reqEnd => b.send (.httpReqEnd s)
      | .reqError | .upgradeError => (b.teardownStream r).removeStream s
      | .reqAborted | .resClose =>
        ((b.send (.httpCancel s)).send (.httpErr s .tunnelDown)).removeStream s
      | .upgradeClose => (b.send (.wsClose s 1006)).removeStream s
      | .clientClose code => (b.send (.wsClose s code)).removeStream s
      | .clientError => b.removeStream s
      | .clientText | .clientBinary => b

/-- No bytes have been received for an open. -/
def clearReceived (opening : Nat) : PilotTunnelBridge :=
  { b with received := update b.received opening [] }

/-- Reserve the id and start the dispatch, which waits for its first import. -/
def handleTcpOpenReverse (s : Nat) : PilotTunnelBridge :=
  if s < agentReverseIdBase then b.send (.tcpOpenAck s false)
  else if (b.streams.get? s).isSome || b.full then b.send (.tcpOpenAck s false)
  else
    let pendingData := b.fresh
    let b := b.newBuffer
    let reservation := b.fresh
    ((b.storeStream s (.reverseLocal none pendingData 0) reservation).clearReceived
      reservation).newDispatch ⟨s, reservation, .importing⟩

/-- The dispatch threw. -/
def dispatchFailed (d : Dispatch) : PilotTunnelBridge :=
  (if b.streams.get? d.stream = some d.reservation then b.removeStream d.stream else b).send
    (.tcpOpenAck d.stream false)

/-- What an import of the dispatch brings: the target's node, or a failure. -/
inductive Imported where
  | localNode
  | otherNode
  | failed

/-- The stored state that a dispatch goes on with. -/
def reservationOf (s : Nat) : Option Nat :=
  (b.stored s).bind fun entry =>
    match entry.2.state with
    | .reverseLocal _ _ _ => some entry.1
    | _ => none

/-- The start of `acceptReverseLocal` or `acceptReverseRelay`. -/
def resumeImport (n : Nat) (d : Dispatch) (imported : Imported) : PilotTunnelBridge :=
  match imported with
  | .failed => (b.setStage n .settled).dispatchFailed d
  | .localNode =>
    match b.reservationOf d.stream with
    | none => b.setStage n .settled
    | some state => b.setStage n (.resolving state)
  | .otherNode =>
    match b.reservationOf d.stream with
    | none => b.setStage n .settled
    | some reservation => b.setStage n (.ensuringBridge reservation)

/-- What the resolution of the container brings. -/
inductive Resolved where
  | address
  | notFound
  | failed

/-- Drop a reservation that is still stored, and refuse the open. -/
def refuse (s reservation : Nat) : PilotTunnelBridge :=
  (if b.streams.get? s = some reservation then b.removeStream s else b).send (.tcpOpenAck s false)

/-- Dial, once resolved. -/
def resumeResolve (n : Nat) (d : Dispatch) (state : Nat) (resolved : Resolved) :
    PilotTunnelBridge :=
  let b := b.setStage n .settled
  match resolved with
  | .failed => b.dispatchFailed d
  | .notFound => b.refuse d.stream state
  | .address =>
    if b.streams.get? d.stream = some state then
      match b.stateOf state with
      | some (.reverseLocal _ pendingData pendingBytes) =>
        (b.newSocket ⟨d.stream, state, false, false, false⟩).setState state
          (.reverseLocal (some b.fresh) pendingData pendingBytes)
      | _ => b
    else b

/-- What the bridge of the target's node gives. -/
inductive Ensured where
  | stream
  | noStream
  | noBridge
  | failed

/-- Swap in the relay. -/
def resumeEnsureBridge (n : Nat) (d : Dispatch) (reservation : Nat) (ensured : Ensured) :
    PilotTunnelBridge :=
  let b := b.setStage n .settled
  match ensured with
  | .failed => b.dispatchFailed d
  | .noBridge => b.refuse d.stream reservation
  | .noStream =>
    if b.streams.get? d.stream = some reservation then b.refuse d.stream reservation else b
  | .stream =>
    if b.streams.get? d.stream = some reservation then
      match b.objects reservation with
      | some ⟨.reverseLocal _ pendingData pendingBytes, _, _, opening⟩ =>
        (b.newTarget ⟨d.stream, false, false, []⟩).storeStream d.stream
          (.reverseRelay b.fresh false pendingData pendingBytes) opening
      | _ => b
    else b

/-- A frame of bytes for an open. -/
def receive (opening : Nat) (p : Payload) : PilotTunnelBridge :=
  { b with received := update b.received opening (b.received opening ++ [p]) }

/-- Write to the local socket. -/
def writeLocal (state : Nat) (payloads : List Payload) : PilotTunnelBridge :=
  { b with localWrites := update b.localWrites state (b.localWrites state ++ payloads) }

/-- Write to the target. -/
def writeTarget (k : Nat) (payloads : List Payload) : PilotTunnelBridge :=
  { b with
    targets := modifyAt b.targets k fun target =>
      { target with writes := target.writes ++ payloads } }

/-- Hold bytes back. -/
def push (buffer : Nat) (p : Payload) : PilotTunnelBridge :=
  { b with buffers := update b.buffers buffer (b.buffers buffer ++ [p]) }

/-- A new empty buffer in the place of the pending data of a state. -/
def resetPending (r : Nat) (state : Nat → StreamState) : PilotTunnelBridge :=
  b.newBuffer.setState r (state b.fresh)

/-- Over the cap the stream is dropped and the peer told. -/
def dropStream (s : Nat) : PilotTunnelBridge := (b.removeStream s).send (.tcpClose s)

/-- Bytes for a stored stream. -/
def handleTcpData (s r : Nat) (o : StreamObject) (bytes : List UInt8) : PilotTunnelBridge :=
  let p : Payload := ⟨b.arrivals, bytes⟩
  match o.state with
  | .tcp _ => (b.refreshIdleTimer s r).emit r .data
  | .reverseLocal socket pendingData pendingBytes =>
    let b := (b.receive o.opening p).refreshIdleTimer s r
    match socket with
    | some _ => b.writeLocal r [p]
    | none =>
      if streamPendingDataMaxBytes < pendingBytes + bytes.length then b.dropStream s
      else (b.push pendingData p).setState r
        (.reverseLocal none pendingData (pendingBytes + bytes.length))
  | .reverseRelay target targetOpen pendingData pendingBytes =>
    let b := (b.receive o.opening p).refreshIdleTimer s r
    if targetOpen then b.writeTarget target [p]
    else if streamPendingDataMaxBytes < pendingBytes + bytes.length then b.dropStream s
    else (b.push pendingData p).setState r
      (.reverseRelay target targetOpen pendingData (pendingBytes + bytes.length))
  | _ => b

/-- A text frame arrives. -/
def handleJsonFrame (frame : JsonFrame) : PilotTunnelBridge :=
  match frame with
  | .httpRes s =>
    match b.stored s with
    | some (r, ⟨.http _, _, _, _⟩) => (b.setState r (.http true)).refreshIdleTimer s r
    | _ => b
  | .httpResEnd s =>
    match b.stored s with
    | some (_, ⟨.http _, _, _, _⟩) => b.removeStream s
    | _ => b
  | .httpErr s =>
    match b.stored s with
    | none => b
    | some (_, ⟨.http false, _, _, _⟩) => b.removeStream s
    | some (r, _) => (b.teardownStream r).removeStream s
  | .wsAccept s upgraded =>
    match b.stored s with
    | some (r, ⟨.ws true _, _, _, _⟩) =>
      if upgraded then (b.setState r (.ws false true)).refreshIdleTimer s r else b
    | _ => b
  | .wsReject s =>
    match b.stored s with
    | some (_, ⟨.ws true _, _, _, _⟩) => b.removeStream s
    | _ => b
  | .wsMsgText s =>
    match b.stored s with
    | some (r, ⟨.ws _ true, _, _, _⟩) => b.refreshIdleTimer s r
    | _ => b
  | .wsClose s =>
    match b.stored s with
    | some (_, ⟨.ws _ _, _, _, _⟩) => b.removeStream s
    | _ => b
  | .tcpOpenAck s ok =>
    match b.stored s with
    | some (r, ⟨.tcp _, _, _, _⟩) =>
      if ok then ((b.setState r (.tcp true)).refreshIdleTimer s r).emit r .opened
      else ((b.removeStream s).emit r .error).emit r .close
    | _ => b
  | .tcpOpenReverse s => b.handleTcpOpenReverse s
  | .tcpClose s =>
    match b.stored s with
    | some (r, ⟨.tcp _, _, _, _⟩) => (b.removeStream s).emit r .close
    | some (_, ⟨.reverseLocal socket _ _, _, _, _⟩) =>
      socket.elim (b.removeStream s) (b.removeStream s).destroySocket
    | some (_, ⟨.reverseRelay target _ _ _, _, _, _⟩) =>
      (b.removeStream s).destroyTarget target
    | _ => b
  | .other => b

/-- A binary frame arrives. -/
def handleBinaryFrame (frame : BinaryFrame) : PilotTunnelBridge :=
  match frame with
  | .httpResBody s =>
    match b.stored s with
    | some (r, ⟨.http _, _, _, _⟩) => (b.setState r (.http true)).refreshIdleTimer s r
    | _ => b
  | .wsMessageBinary s =>
    match b.stored s with
    | some (r, ⟨.ws _ true, _, _, _⟩) => b.refreshIdleTimer s r
    | _ => b
  | .tcpData s bytes =>
    match b.stored s with
    | none => b
    | some (r, o) => b.handleTcpData s r o bytes
  | .other => b

/-- What a local socket reports. -/
inductive SocketEvent where
  | connect
  | data (bytes : List UInt8)
  | error
  | close

/-- Remove the stream of a socket, destroy the socket and tell the peer. -/
def teardownSocket (k s : Nat) : PilotTunnelBridge :=
  if (b.streams.get? s).isSome then ((b.removeStream s).destroySocket k).send (.tcpClose s) else b

/-- Flush the pending data of the socket's state. -/
def flushLocal (state : Nat) : PilotTunnelBridge :=
  match b.stateOf state with
  | some (.reverseLocal socket pendingData _) =>
    if b.buffers pendingData = [] then b
    else (b.writeLocal state (b.buffers pendingData)).resetPending state
      fun buffer => .reverseLocal socket buffer 0
  | _ => b

/-- Flush, then acknowledge. -/
def socketConnect (k : Nat) (socket : LocalSocket) : PilotTunnelBridge :=
  if socket.connected || socket.ended then b
  else ((b.setSocket k { socket with connected := true }).flushLocal socket.state).send
    (.tcpOpenAck socket.stream true)

/-- Pass bytes to the peer. -/
def socketData (socket : LocalSocket) (bytes : List UInt8) : PilotTunnelBridge :=
  if socket.connected && !socket.ended then
    match b.reservationOf socket.stream with
    | none => b
    | some r => (b.send (.tcpData socket.stream bytes)).refreshIdleTimer socket.stream r
  else b

/-- A failed dial or a broken socket. -/
def socketError (k : Nat) (socket : LocalSocket) : PilotTunnelBridge :=
  if socket.ended then b
  else
    let b := b.setSocket k { socket with ended := true }
    if socket.connected then b.teardownSocket k socket.stream
    else if (b.streams.get? socket.stream).isSome then
      (b.deleteStream socket.stream).send (.tcpOpenAck socket.stream false)
    else b

/-- A connected socket closed. -/
def socketClose (k : Nat) (socket : LocalSocket) : PilotTunnelBridge :=
  if socket.connected && !socket.closeEmitted then
    (b.setSocket k { socket with ended := true, closeEmitted := true }).teardownSocket k
      socket.stream
  else b

/-- A listener of a local socket. -/
def socketEvent (k : Nat) (event : SocketEvent) : PilotTunnelBridge :=
  match b.sockets k with
  | none => b
  | some socket =>
    match event with
    | .connect => b.socketConnect k socket
    | .data bytes => b.socketData socket bytes
    | .error => b.socketError k socket
    | .close => b.socketClose k socket

/-- What a target reports. -/
inductive TargetEvent where
  | open
  | data (bytes : List UInt8)
  | failed
  | close

/-- The stored relay of a stream. -/
def relayOf (s : Nat) : Option (Nat × StreamObject) :=
  (b.stored s).bind fun entry =>
    match entry.2.state with
    | .reverseRelay _ _ _ _ => some entry
    | _ => none

/-- Flush the pending data of the stored relay, open it and acknowledge. -/
def openRelay (s : Nat) : PilotTunnelBridge :=
  match b.relayOf s with
  | some (r, ⟨.reverseRelay target _ pendingData pendingBytes, _, _, _⟩) =>
    (if b.buffers pendingData = [] then
      b.setState r (.reverseRelay target true pendingData pendingBytes)
    else (b.writeTarget target (b.buffers pendingData)).resetPending r
      fun buffer => .reverseRelay target true buffer 0).send (.tcpOpenAck s true)
  | _ => b

/-- The target accepted. -/
def targetOpen (k : Nat) (target : RelayTarget) : PilotTunnelBridge :=
  if target.gone || target.opened then b
  else (b.setTarget k { target with opened := true }).openRelay target.stream

/-- Pass the target's bytes on. -/
def targetData (target : RelayTarget) (bytes : List UInt8) : PilotTunnelBridge :=
  if target.gone then b
  else
    match b.relayOf target.stream with
    | none => b
    | some (r, _) => (b.send (.tcpData target.stream bytes)).refreshIdleTimer target.stream r

/-- The target reports an error, and then its close finds the stream gone. -/
def targetFailed (k : Nat) (target : RelayTarget) : PilotTunnelBridge :=
  if target.gone then b
  else
    let b := b.setTarget k { target with gone := true }
    if (b.streams.get? target.stream).isSome then
      (b.deleteStream target.stream).send (.tcpOpenAck target.stream false)
    else b

/-- The target closed. -/
def targetClose (k : Nat) (target : RelayTarget) : PilotTunnelBridge :=
  if target.gone then b
  else
    let b := b.setTarget k { target with gone := true }
    if (b.streams.get? target.stream).isSome then
      (b.removeStream target.stream).send (.tcpClose target.stream)
    else b

/-- A listener of a target. -/
def targetEvent (k : Nat) (event : TargetEvent) : PilotTunnelBridge :=
  match b.targets k with
  | none => b
  | some target =>
    match event with
    | .open => b.targetOpen k target
    | .data bytes => b.targetData target bytes
    | .failed => b.targetFailed k target
    | .close => b.targetClose k target

end PilotTunnelBridge

/-- Whatever can happen to a bridge.  A dispatch goes on when what it waits for is there. -/
inductive BridgeEvent where
  | elapse (ms : Nat)
  | timeout (timer : Nat)
  | wsClosing
  | close
  | openTcpStream
  | loopbackRequest
  | loopbackUpgrade
  | loopback (s : Nat) (event : PilotTunnelBridge.LoopbackEvent)
  | writeTcpData (s : Nat) (bytes : List UInt8)
  | closeTcpStream (s : Nat)
  | json (frame : JsonFrame)
  | binary (frame : BinaryFrame)
  | malformed
  | imported (dispatch : Nat) (imported : PilotTunnelBridge.Imported)
  | resolved (dispatch : Nat) (resolved : PilotTunnelBridge.Resolved)
  | ensured (dispatch : Nat) (ensured : PilotTunnelBridge.Ensured)
  | socket (k : Nat) (event : PilotTunnelBridge.SocketEvent)
  | target (k : Nat) (event : PilotTunnelBridge.TargetEvent)

namespace PilotTunnelBridge

variable (b : PilotTunnelBridge)

/-- An armed timer that is due fires. -/
def timeout (timer : Nat) : PilotTunnelBridge :=
  match b.timers timer with
  | none => b
  | some armed =>
    if armed.due ≤ b.now then
      { b with timers := update b.timers timer none }.onStreamIdle armed.stream
    else b

/-- A binary frame, after the frames received so far are counted. -/
def binaryFrame (frame : BinaryFrame) : PilotTunnelBridge :=
  let b := b.handleBinaryFrame frame
  { b with arrivals := b.arrivals + 1 }

/-- A dispatch is resumed. -/
def dispatchEvent (n : Nat) (resume : PilotTunnelBridge → Dispatch → PilotTunnelBridge) :
    PilotTunnelBridge :=
  match b.dispatches n with
  | none => b
  | some d => resume b d

def onImported (n : Nat) (imported : Imported) (d : Dispatch) : PilotTunnelBridge :=
  if d.stage = .importing then b.resumeImport n d imported else b

def onResolved (n : Nat) (resolved : Resolved) (d : Dispatch) : PilotTunnelBridge :=
  match d.stage with
  | .resolving state => b.resumeResolve n d state resolved
  | _ => b

def onEnsured (n : Nat) (ensured : Ensured) (d : Dispatch) : PilotTunnelBridge :=
  match d.stage with
  | .ensuringBridge reservation => b.resumeEnsureBridge n d reservation ensured
  | _ => b

end PilotTunnelBridge

/-- One event. -/
def step (b : PilotTunnelBridge) : BridgeEvent → PilotTunnelBridge
  | .elapse ms => { b with now := b.now + ms }
  | .timeout timer => b.timeout timer
  | .wsClosing => { b with wsOpen := false }
  | .close => b.close
  | .openTcpStream => b.openTcpStream
  | .loopbackRequest => b.handleLoopbackRequest
  | .loopbackUpgrade => b.handleLoopbackUpgrade
  | .loopback s event => b.loopbackEvent s event
  | .writeTcpData s bytes => b.writeTcpData s bytes
  | .closeTcpStream s => b.closeTcpStream s
  | .json frame => if b.closed then b else b.handleJsonFrame frame
  | .binary frame => if b.closed then b else b.binaryFrame frame
  | .malformed => if b.closed then b else b.close
  | .imported n imported => b.dispatchEvent n fun b d => b.onImported n imported d
  | .resolved n resolved => b.dispatchEvent n fun b d => b.onResolved n resolved d
  | .ensured n ensured => b.dispatchEvent n fun b d => b.onEnsured n ensured d
  | .socket k event => b.socketEvent k event
  | .target k event => b.targetEvent k event

end Sencho.Mesh

import Mathlib.Data.List.AList

/-!
# The pilot tunnel manager

Bridges to remote nodes, at most one registered for each node.  A pilot agent dials in and
its tunnel is registered once the bridge's loopback server listens; a proxy-mode bridge is
dialed and started by the dialer, and registered afterwards.  A bridge closes once, from
either side, and its close handler clears the maps only for a bridge that is still in them.

A registration and a dial are two calls each: one up to the start they wait for, one from
there on.  A bridge may close at any time, also while it starts.
-/

namespace Sencho.PilotTunnel

def pilotTunnelHardLimit : Nat := 256

inductive BridgeKind where
  | pilot
  | proxy
  deriving DecidableEq

/-- A bridge: its node, whether it has closed, and the handler the manager attached. -/
structure PilotTunnelBridge where
  nodeId : Int
  closed : Bool
  onClosed : Option BridgeKind

/-- What a bridge's start is awaited by. -/
inductive Awaiting where
  | registerTunnel (tunnelConfidential : Bool)
  | dial

inductive TunnelEvent where
  | tunnelUp (nodeId : Int)
  | tunnelDown (nodeId : Int)
  | proxyBridgeUp (nodeId : Int)
  | proxyBridgeDown (nodeId : Int)

/-- The registry.  Bridges are known by their place among those created; beside the maps
stand the starts that are awaited, the events emitted, the latest first, and how each pilot
tunnel was accepted. -/
structure PilotTunnelManager where
  bridges : AList fun _ : Int => Nat
  bridgeKinds : AList fun _ : Int => BridgeKind
  tunnelConfidential : AList fun _ : Int => Bool
  created : List PilotTunnelBridge
  awaiting : List (Nat × Awaiting)
  emitted : List TunnelEvent
  accepted : List (Nat × Bool)

namespace PilotTunnelManager

def init : PilotTunnelManager where
  bridges := ∅
  bridgeKinds := ∅
  tunnelConfidential := ∅
  created := []
  awaiting := []
  emitted := []
  accepted := []

variable (s : PilotTunnelManager) (nodeId : Int) (bridge : Nat)

def size : Nat := s.bridges.keys.length

def getBridge : Option Nat := s.bridges.lookup nodeId

def hasActiveTunnel : Bool := (s.getBridge nodeId).isSome

def isTunnelConfidential : Bool :=
  s.tunnelConfidential.lookup nodeId = some true

def emit (event : TunnelEvent) : PilotTunnelManager :=
  { s with emitted := event :: s.emitted }

/-- Take a node out of the maps. -/
def release : PilotTunnelManager :=
  { s with bridges := s.bridges.erase nodeId, bridgeKinds := s.bridgeKinds.erase nodeId }

/-- Take a node out of the maps, and forget how its tunnel was accepted. -/
def releasePilot : PilotTunnelManager :=
  { s.release nodeId with tunnelConfidential := s.tunnelConfidential.erase nodeId }

/-- The close handlers: they clear the maps where the bridge is still registered. -/
def handleClosed (nodeId : Int) (kind : BridgeKind) : PilotTunnelManager :=
  if s.getBridge nodeId = some bridge then
    match kind with
    | .pilot => (s.releasePilot nodeId).emit (.tunnelDown nodeId)
    | .proxy => (s.release nodeId).emit (.proxyBridgeDown nodeId)
  else s

/-- Close a bridge.  A bridge that has closed stays as it is. -/
def close : PilotTunnelManager :=
  match s.created[bridge]? with
  | none => s
  | some b =>
    if b.closed then s
    else
      let marked := { s with created := s.created.set bridge { b with closed := true } }
      match b.onClosed with
      | none => marked
      | some kind => marked.handleClosed bridge b.nodeId kind

/-- A new bridge, whose start is awaited. -/
def create (onClosed : Option BridgeKind) (awaiting : Awaiting) : PilotTunnelManager :=
  { s with
    created := s.created ++ [⟨nodeId, false, onClosed⟩]
    awaiting := s.awaiting ++ [(s.created.length, awaiting)] }

def capacityError : String := "pilot tunnel cap (256) reached"

/-- Close a node's bridge and take it out, before another replaces it. -/
def closeReplaced : PilotTunnelManager :=
  match s.getBridge nodeId with
  | none => s
  | some existing => (s.close existing).releasePilot nodeId

/-- Accept a pilot tunnel, up to the start of its bridge. -/
def registerTunnel (s : PilotTunnelManager) (nodeId : Int) (tunnelConfidential : Bool) :
    PilotTunnelManager × Except String Nat :=
  let freed := s.closeReplaced nodeId
  if freed.size ≥ pilotTunnelHardLimit then (freed, .error capacityError)
  else
    ({ freed.create nodeId (some .pilot) (.registerTunnel tunnelConfidential) with
        accepted := (freed.created.length, tunnelConfidential) :: freed.accepted },
      .ok freed.created.length)

/-- The start of a bridge is no longer awaited. -/
def resume : PilotTunnelManager :=
  { s with awaiting := s.awaiting.filter fun a => a.1 ≠ bridge }

/-- A bridge is put into the maps. -/
def register (kind : BridgeKind) : PilotTunnelManager :=
  { s with
    bridges := s.bridges.insert nodeId bridge
    bridgeKinds := s.bridgeKinds.insert nodeId kind }

/-- A pilot tunnel's bridge has started. -/
def tunnelStarted (tunnelConfidential : Bool) : PilotTunnelManager :=
  { s.register nodeId bridge .pilot with
    tunnelConfidential := s.tunnelConfidential.insert nodeId tunnelConfidential }.emit
      (.tunnelUp nodeId)

/-- Why a proxy bridge is refused where a bridge is registered. -/
def formatBridgeConflict (existingKind : Option BridgeKind) : String :=
  if existingKind = some .proxy then
    "proxy bridge already registered for node " ++ toString nodeId ++ "; concurrent dial refused"
  else "pilot tunnel already registered for node " ++ toString nodeId ++ "; proxy bridge refused"

/-- Attach a close handler. -/
def onceClosed (kind : BridgeKind) : PilotTunnelManager :=
  { s with created := s.created.modify bridge fun b => { b with onClosed := some kind } }

/-- Register a bridge the dialer has started. -/
def registerProxyBridge : Except String PilotTunnelManager :=
  if (s.getBridge nodeId).isSome then
    .error (formatBridgeConflict nodeId (s.bridgeKinds.lookup nodeId))
  else if s.size ≥ pilotTunnelHardLimit then .error capacityError
  else .ok (((s.onceClosed bridge .proxy).register nodeId bridge .proxy).emit
    (.proxyBridgeUp nodeId))

/-- A dialed bridge has started: it is registered, or closed where the dialer has stopped or
the manager refuses it. -/
def dialStarted (stopped : Bool) : PilotTunnelManager :=
  if stopped then s.close bridge
  else
    match s.registerProxyBridge nodeId bridge with
    | .ok s => s
    | .error _ => s.close bridge

/-- The start of a bridge ends.  Where it fails, the dialer closes its bridge, and a
registration leaves its own to the socket. -/
def bridgeStarted (ok stopped : Bool) : PilotTunnelManager :=
  match s.awaiting.find? fun a => a.1 = bridge, s.created[bridge]? with
  | some (_, .registerTunnel tunnelConfidential), some b =>
    if ok then (s.resume bridge).tunnelStarted b.nodeId bridge tunnelConfidential
    else s.resume bridge
  | some (_, .dial), some b =>
    if ok then (s.resume bridge).dialStarted b.nodeId bridge stopped
    else (s.resume bridge).close bridge
  | _, _ => s

/-- Force-close a node's bridge. -/
def closeTunnel : PilotTunnelManager :=
  match s.getBridge nodeId with
  | none => s
  | some bridge =>
    let released := s.release nodeId
    let told := match s.bridgeKinds.lookup nodeId with
      | some .pilot => released.emit (.tunnelDown nodeId)
      | some .proxy => released.emit (.proxyBridgeDown nodeId)
      | none => released
    told.close bridge

end PilotTunnelManager

/-- The calls, and what the bridges' sockets and loopback servers do. -/
inductive TunnelCall where
  | registerTunnel (nodeId : Int) (tunnelConfidential : Bool)
  | dial (nodeId : Int)
  | bridgeStarted (bridge : Nat) (ok stopped : Bool)
  | closeTunnel (nodeId : Int)
  | bridgeClosed (bridge : Nat)

namespace PilotTunnelManager

def step (s : PilotTunnelManager) : TunnelCall → PilotTunnelManager
  | .registerTunnel nodeId tunnelConfidential => (s.registerTunnel nodeId tunnelConfidential).1
  | .dial nodeId => s.create nodeId none .dial
  | .bridgeStarted bridge ok stopped => s.bridgeStarted bridge ok stopped
  | .closeTunnel nodeId => s.closeTunnel nodeId
  | .bridgeClosed bridge => s.close bridge

def runCalls (s : PilotTunnelManager) (calls : List TunnelCall) : PilotTunnelManager :=
  calls.foldl step s

end PilotTunnelManager

end Sencho.PilotTunnel

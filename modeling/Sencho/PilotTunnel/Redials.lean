import Mathlib.Algebra.Group.Nat.Defs
import Sencho.Verified.Breaks

/-!
# Redials of dropped proxy bridges

A proxy bridge that closes on its own arms a timer, and the timer dials the node again.  A dial that
fails only records its failure: nothing closes, so no further timer is armed, and the node is left
alone until somebody asks for its bridge.
-/

namespace Sencho.PilotTunnel

open Verified Function Option Runs

inductive BridgeDownReason where
  | idle
  | remoteClosed
  | networkError
  | protocolError
  | authFailed
  deriving DecidableEq

def classifyCloseCode : Option Nat → BridgeDownReason
  | some 1006 => .networkError
  | some 1007 | some 1008 | some 1009 => .protocolError
  | _ => .remoteClosed

def failureCacheTtlMs : Nat := 60000

/-- Where a dial waits.  A settled one has returned and is still to leave the map. -/
inductive DialPhase where
  | resolving
  | opening
  | starting
  | settled
  deriving DecidableEq

/-- What the maps of the dialer hold for a node, and whether it has a target with a token.  For the
statements, `dropped` is set since its bridge went down while it had a target. -/
structure Peer where
  target : Bool
  bridge : Option Nat
  opened : Nat
  inflight : Option DialPhase
  idleSince : Option Nat
  recentFailure : Option Nat
  redialAttempts : Nat
  redialTimer : Option Nat
  dropped : Bool

namespace Peer

variable (p : Peer) (now : Nat)

/-- A failure that has expired is forgotten; the one that is left is the answer. -/
def getRecentFailure : Peer :=
  match p.recentFailure with
  | some ts => if now - ts > failureCacheTtlMs then { p with recentFailure := none } else p
  | none => p

def recordFailure : Peer := { p with recentFailure := some now }

/-- A dial that returns without a bridge. -/
def failDial : Peer := { p.recordFailure now with inflight := some .settled }

/-- A dial up to its first await; `configured` is whether its headers and certificate load and may
go to the target. -/
def dial (configured : Bool) : Peer :=
  if p.target && configured then { p with inflight := some .resolving } else p.failDial now

def ensureBridge (configured : Bool) : Peer :=
  if p.bridge.isSome then { p with idleSince := some now }
  else
    let p := p.getRecentFailure now
    if p.recentFailure.isSome || p.inflight.isSome then p else p.dial now configured

/-- What a dial awaits comes to an end; a bridge that has started goes to the manager. -/
def dialStep (failed : Bool) : Peer :=
  match p.inflight with
  | some .resolving => if failed then p.failDial now else { p with inflight := some .opening }
  | some .opening => if failed then p.failDial now else { p with inflight := some .starting }
  | some .starting =>
    if failed then p.failDial now
    else
      { p with
        bridge := some p.opened
        opened := p.opened + 1
        idleSince := some now
        recentFailure := none
        redialAttempts := 0
        inflight := some .settled }
  | some .settled | none => p

def finishDial : Peer :=
  if p.inflight = some .settled then { p with inflight := none } else p

def scheduleReactiveRedial (jitter : Nat) : Peer :=
  let attempt := p.redialAttempts + 1
  if attempt > 8 then { p with redialAttempts := 0 }
  else
    { p with
      redialAttempts := attempt
      redialTimer := some (now + min (5000 * 2 ^ (attempt - 1)) 300000 + jitter) }

def tearDownBridge (reason : BridgeDownReason) (jitter : Nat) : Peer :=
  if p.bridge = none then p
  else
    let p := { p with bridge := none, idleSince := none }
    if reason = .idle || reason = .authFailed then p
    else { p with dropped := p.target }.scheduleReactiveRedial now jitter

/-- A bridge closes on its own. -/
def closed (bridge : Nat) (code : Option Nat) (jitter : Nat) : Peer :=
  if p.bridge = some bridge then p.tearDownBridge now (classifyCloseCode code) jitter else p

def closeBridge : Peer :=
  if p.bridge = none then p else { p with bridge := none, idleSince := none }

def checkIdle (idleTtlMs streams : Nat) : Peer :=
  if p.bridge = none then p
  else if streams > 0 then { p with idleSince := some now }
  else if now - p.idleSince.getD now ≥ idleTtlMs then p.tearDownBridge now .idle 0
  else p

/-- A redial timer that is due fires. -/
def redial (configured : Bool) : Peer :=
  if p.redialTimer.any (· ≤ now) then { p with redialTimer := none }.ensureBridge now configured
  else p

def setTarget (target : Bool) : Peer := { p with target, dropped := p.dropped && target }

inductive Event where
  | setTarget (target : Bool)
  | getRecentFailure
  | ensureBridge (configured : Bool)
  | dialStep (failed : Bool)
  | finishDial
  | closed (bridge : Nat) (code : Option Nat) (jitter : Nat)
  | closeBridge
  | checkIdle (idleTtlMs streams : Nat)
  | redial (configured : Bool)

def step : Event → Peer
  | .setTarget target => p.setTarget target
  | .getRecentFailure => p.getRecentFailure now
  | .ensureBridge configured => p.ensureBridge now configured
  | .dialStep failed => p.dialStep now failed
  | .finishDial => p.finishDial
  | .closed bridge code jitter => p.closed now bridge code jitter
  | .closeBridge => p.closeBridge
  | .checkIdle idleTtlMs streams => p.checkIdle now idleTtlMs streams
  | .redial configured => p.redial now configured

/-- A failure is cached that has not expired. -/
def Cached : Prop := ∃ ts, p.recentFailure = some ts ∧ now - ts ≤ failureCacheTtlMs

/-- A dial settles without a bridge, a timer fires while a failure is cached, or a bridge that came
back is closed on purpose. -/
def Strands : Event → Prop
  | .finishDial => p.inflight = some .settled ∧ p.bridge = none ∧ p.redialTimer = none
  | .redial _ => p.inflight = none ∧ p.bridge = none ∧ p.redialTimer.any (· ≤ now) = true ∧
      p.Cached now
  | .closeBridge => p.inflight = none ∧ p.bridge ≠ none ∧ p.redialTimer = none
  | .checkIdle idleTtlMs streams => p.inflight = none ∧ p.bridge ≠ none ∧ p.redialTimer = none ∧
      streams = 0 ∧ idleTtlMs ≤ now - p.idleSince.getD now
  | _ => False

/-- Something dials the node or holds its bridge. -/
def Dialed : Prop := p.bridge ≠ none ∨ p.inflight ≠ none ∨ p.redialTimer ≠ none

variable {p : Peer} {now : Nat}

/-- A dropped node is dialed, and its first redial is the last. -/
structure Tended (p : Peer) : Prop where
  dialed : p.dropped = true → p.Dialed
  fresh : p.bridge ≠ none → p.redialAttempts = 0
  few : p.redialAttempts ≤ 1

theorem classifyCloseCode_redials (code : Option Nat) :
    (classifyCloseCode code = .idle || classifyCloseCode code = .authFailed) = false := by
  unfold classifyCloseCode
  split <;> rfl

/-- A bridge that closes on its own arms the first of eight redials. -/
theorem Tended.closed (h : Tended p) (bridge : Nat) (code : Option Nat) (jitter : Nat) :
    Tended (p.closed now bridge code jitter) := by
  unfold Peer.closed
  split
  · next hbridge =>
      have hattempts : p.redialAttempts = 0 := h.fresh (by rw [hbridge]; exact some_ne_none bridge)
      unfold tearDownBridge scheduleReactiveRedial
      simp only [hbridge, reduceCtorEq, Bool.false_eq_true, if_false, classifyCloseCode_redials,
        hattempts]
      exact ⟨fun _ => .inr (.inr (some_ne_none _)), fun hno => absurd rfl hno, Nat.le_refl 1⟩
  · exact h

theorem Tended.redial (h : Tended p) (configured : Bool)
    (hno : p.dropped = true → ¬ p.Strands now (.redial configured)) :
    Tended (p.redial now configured) := by
  obtain ⟨hdialed, hfr, hfew⟩ := h
  unfold Peer.redial ensureBridge dial failDial recordFailure getRecentFailure
  constructor
  · intro hdropped
    have hcached := hno
    unfold Strands Cached at hcached
    unfold Dialed at hdialed ⊢
    grind
  · grind
  · grind

/-- A step that does not strand a dropped node leaves something that dials it. -/
theorem tended_step (h : Tended p) (e : Event) (hno : p.dropped = true → ¬ p.Strands now e) :
    Tended (p.step now e) := by
  have hdialed := h.dialed
  have hfr := h.fresh
  have hfew := h.few
  unfold Dialed at hdialed
  cases e with
  | closed bridge code jitter => exact h.closed bridge code jitter
  | redial configured => exact h.redial configured hno
  | setTarget target =>
    exact ⟨fun hdropped => hdialed (Bool.and_eq_true_iff.mp hdropped).1, hfr, hfew⟩
  | getRecentFailure | ensureBridge | dialStep =>
    simp only [step, Peer.ensureBridge, dial, Peer.dialStep, failDial, recordFailure,
      Peer.getRecentFailure]
    constructor <;> grind [Dialed]
  | finishDial | closeBridge | checkIdle =>
    unfold Strands at hno
    simp only [step, Peer.finishDial, Peer.closeBridge, Peer.checkIdle, tearDownBridge]
    constructor <;> grind [Dialed]

theorem stranded_step (hdropped : p.dropped = true) {e : Event} (hs : p.Strands now e) :
    (p.step now e).dropped = true ∧ ¬ (p.step now e).Dialed ∧
      (p.step now e).redialAttempts = p.redialAttempts := by
  cases e with
  | finishDial | closeBridge | checkIdle | redial =>
    unfold Strands at hs
    simp only [step, Peer.finishDial, Peer.closeBridge, Peer.checkIdle, tearDownBridge, Peer.redial,
      Peer.ensureBridge, dial, failDial, recordFailure, Peer.getRecentFailure]
    grind [Dialed, Cached]
  | setTarget | getRecentFailure | ensureBridge | dialStep | closed => exact hs.elim

end Peer

/-- A dialer that is not stopped. -/
structure MeshProxyTunnelDialer where
  now : Nat
  peers : Int → Peer

namespace MeshProxyTunnelDialer

inductive Event where
  | elapse (ms : Nat)
  | peer (nodeId : Int) (event : Peer.Event)
  | runIdleCheck (streams : Int → Nat)

variable (idleTtlMs : Nat) (d : MeshProxyTunnelDialer)

/-- The sweep looks at every node, and is off without a time to live. -/
def runIdleCheck (streams : Int → Nat) : MeshProxyTunnelDialer :=
  if idleTtlMs = 0 then d
  else { d with peers := fun n => (d.peers n).step d.now (.checkIdle idleTtlMs (streams n)) }

def step : Event → MeshProxyTunnelDialer
  | .elapse ms => { d with now := d.now + ms }
  | .peer n event => { d with peers := update d.peers n ((d.peers n).step d.now event) }
  | .runIdleCheck streams => d.runIdleCheck idleTtlMs streams

def init : MeshProxyTunnelDialer := ⟨0, fun _ => ⟨false, none, 0, none, none, none, 0, none, false⟩⟩

/-- A dropped node with a target has a bridge, a dial, a timer or its eight redials. -/
def Redialed : Prop :=
  ∀ n, (d.peers n).dropped = true → (d.peers n).Dialed ∨ 8 ≤ (d.peers n).redialAttempts

/-- A step strands a dropped node. -/
def Strands : Event → Prop
  | .elapse _ => False
  | .peer n event => (d.peers n).dropped = true ∧ (d.peers n).Strands d.now event
  | .runIdleCheck streams => idleTtlMs ≠ 0 ∧ ∃ n, (d.peers n).dropped = true ∧
      (d.peers n).Strands d.now (.checkIdle idleTtlMs (streams n))

def Tended : Prop := ∀ n, (d.peers n).Tended

variable {idleTtlMs d}

theorem tended_init : Tended init :=
  fun _ => ⟨nofun, fun _ => rfl, Nat.zero_le 1⟩

theorem tended_step (d : MeshProxyTunnelDialer) (e : Event) (h : Tended d)
    (hno : ¬ Strands idleTtlMs d e) : Tended (step idleTtlMs d e) := by
  intro n
  cases e with
  | elapse ms => exact h n
  | peer m event =>
    change (update d.peers m _ n).Tended
    by_cases hn : n = m
    · rw [hn, update_self]
      exact Peer.tended_step (h m) event fun hdropped hs => hno ⟨hdropped, hs⟩
    · rw [update_of_ne hn]
      exact h n
  | runIdleCheck streams =>
    change ((d.runIdleCheck idleTtlMs streams).peers n).Tended
    unfold runIdleCheck
    split
    · exact h n
    · next httl =>
        exact Peer.tended_step (h n) _ fun hdropped hs => hno ⟨httl, n, hdropped, hs⟩

theorem not_redialed (h : Tended d) {n : Int} {e : Peer.Event}
    (hs : (d.peers n).dropped = true ∧ (d.peers n).Strands d.now e) {d' : MeshProxyTunnelDialer}
    (hpeer : d'.peers n = (d.peers n).step d.now e) : ¬ Redialed d' := by
  intro hr
  obtain ⟨hdropped, hstranded, hattempts⟩ := Peer.stranded_step hs.1 hs.2
  have hfew := (h n).few
  rw [← hpeer] at hdropped hstranded hattempts
  have height := (hr n hdropped).resolve_left hstranded
  omega

theorem not_redialed_step (d : MeshProxyTunnelDialer) (e : Event) (h : Tended d)
    (hs : Strands idleTtlMs d e) : ¬ Redialed (step idleTtlMs d e) := by
  cases e with
  | elapse ms => exact hs.elim
  | peer n event => exact not_redialed h hs (update_self n _ d.peers)
  | runIdleCheck streams =>
    obtain ⟨httl, n, hn⟩ := hs
    apply not_redialed h hn
    change (d.runIdleCheck idleTtlMs streams).peers n = _
    unfold runIdleCheck
    rw [if_neg httl]

/-- Every dropped node is redialed throughout a run exactly when no step strands one. -/
theorem redialed_iff (idleTtlMs : Nat) (events : List Event) :
    (∀ pre post, events = pre ++ post → Redialed (run (step idleTtlMs) init pre)) ↔
      ∀ pre e post, events = pre ++ e :: post →
        ¬ Strands idleTtlMs (run (step idleTtlMs) init pre) e :=
  good_iff tended_init (fun _ h n hdropped => .inl ((h n).dialed hdropped)) tended_step
    not_redialed_step events

/-- The network drops the bridge of a node, and the redial of its timer is refused. -/
def failedRedial : List Event :=
  [.setTarget true, .ensureBridge true, .dialStep false, .dialStep false, .dialStep false,
    .finishDial, .closed 0 (some 1006) 0].map (.peer 7) ++
  .elapse 5000 :: [.redial true, .dialStep true, .finishDial].map (.peer 7)

/-- One redial was made, and nothing dials the node any more. -/
theorem failedRedial_stranded : ¬ Redialed (run (step 0) init failedRedial) := by
  intro h
  have hno := h 7 rfl
  revert hno
  unfold Peer.Dialed
  decide

end MeshProxyTunnelDialer

end Sencho.PilotTunnel

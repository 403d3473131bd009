import Mathlib.Logic.Relation
import Sencho.Mesh.Bridge

/-!
# The flow of reverse bytes

A reverse open reserves its id with a local state whose buffer holds what comes before the dial.  A
relay takes the buffer of its reservation over, so two states share it, and the handlers of a local
socket go on with the state they were made with.  The flow of a bridge is the part of it that bytes
go through, and its moves are what a step can do to it.
-/

namespace Sencho.Mesh

open Function

/-- The local state of a reverse stream. -/
structure LocalView where
  socket : Option Nat
  buffer : Nat
  bytes : Nat
  opening : Nat

/-- The relay of a reverse stream. -/
structure RelayView where
  target : Nat
  isOpen : Bool
  buffer : Nat
  bytes : Nat
  opening : Nat

/-- What the bytes of reverse streams go through.  A socket has the state its handlers write for
and whether it has connected, and a target has what was written to it. -/
@[ext]
structure Flow where
  streams : Nat → Option Nat
  locals : Nat → Option LocalView
  relays : Nat → Option RelayView
  buffers : Nat → List Payload
  sockets : Nat → Option (Nat × Bool)
  targets : Nat → Option (List Payload)
  received : Nat → List Payload
  localWrites : Nat → List Payload
  arrivals : Nat
  fresh : Nat

/-- The bytes of a row of buffers. -/
def totalBytes : List Payload → Nat
  | [] => 0
  | p :: ps => p.bytes.length + totalBytes ps

@[simp] theorem totalBytes_concat (ps : List Payload) (p : Payload) :
    totalBytes (ps ++ [p]) = totalBytes ps + p.bytes.length := by
  induction ps with
  | nil => exact Nat.add_comm _ _
  | cons q ps ih =>
    change q.bytes.length + totalBytes (ps ++ [p]) = q.bytes.length + totalBytes ps + _
    omega

/-- What a changed heap holds under a name. -/
theorem update_cases {α : Type} {heap : Nat → Option α} {n m : Nat} {x : Option α} {y : α}
    (h : update heap n x m = some y) : (m = n ∧ x = some y) ∨ (m ≠ n ∧ heap m = some y) := by
  by_cases hm : m = n
  · rw [hm, update_self] at h
    exact .inl ⟨hm, h⟩
  · rw [update_of_ne hm] at h
    exact .inr ⟨hm, h⟩

namespace Flow

variable {f f' : Flow}

/-- A state that is stored under some id. -/
def Stored (f : Flow) (r : Nat) : Prop := ∃ s, f.streams s = some r

/-- A state one of whose sockets has connected. -/
def Connected (f : Flow) (r : Nat) : Prop := ∃ k, f.sockets k = some (r, true)

/-! ## Moves -/

/-- A step that moves no bytes.  Streams may be dropped, and states that hold no bytes be stored. -/
structure Calm (f f' : Flow) : Prop where
  streams : ∀ s r, f'.streams s = some r → f.streams s = some r ∨
    (r < f'.fresh ∧ f.locals r = none ∧ f.relays r = none)
  locals : f'.locals = f.locals
  relays : f'.relays = f.relays
  buffers : f'.buffers = f.buffers
  sockets : f'.sockets = f.sockets
  targets : f'.targets = f.targets
  received : f'.received = f.received
  localWrites : f'.localWrites = f.localWrites
  arrivals : f.arrivals ≤ f'.arrivals
  fresh : f.fresh ≤ f'.fresh

/-- Nothing happens. -/
theorem Calm.refl (f : Flow) : Calm f f :=
  ⟨fun _ _ h => .inl h, rfl, rfl, rfl, rfl, rfl, rfl, rfl, .refl, .refl⟩

theorem Calm.trans {f'' : Flow} (h : Calm f f') (h' : Calm f' f'') : Calm f f'' where
  streams := by
    intro s r hget
    rcases h'.streams s r hget with hold | ⟨hlt, hlocal, hrelay⟩
    · rcases h.streams s r hold with hold | ⟨hlt, hlocal, hrelay⟩
      · exact .inl hold
      · exact .inr ⟨Nat.lt_of_lt_of_le hlt h'.fresh, hlocal, hrelay⟩
    · rw [h.locals] at hlocal
      rw [h.relays] at hrelay
      exact .inr ⟨hlt, hlocal, hrelay⟩
  locals := h'.locals.trans h.locals
  relays := h'.relays.trans h.relays
  buffers := h'.buffers.trans h.buffers
  sockets := h'.sockets.trans h.sockets
  targets := h'.targets.trans h.targets
  received := h'.received.trans h.received
  localWrites := h'.localWrites.trans h.localWrites
  arrivals := Nat.le_trans h.arrivals h'.arrivals
  fresh := Nat.le_trans h.fresh h'.fresh

/-- Dropping a stream moves no bytes. -/
theorem calm_drop (f : Flow) (s : Nat) : Calm f { f with streams := update f.streams s none } where
  streams := by
    intro s' r hget
    apply Or.inl
    change update f.streams s none s' = some r at hget
    by_cases hs : s' = s
    · rw [hs, update_self] at hget
      exact nomatch hget
    · rw [update_of_ne hs] at hget
      exact hget
  locals := rfl
  relays := rfl
  buffers := rfl
  sockets := rfl
  targets := rfl
  received := rfl
  localWrites := rfl
  arrivals := .refl
  fresh := .refl

/-- Taking names moves no bytes. -/
theorem calm_names (f : Flow) {n : Nat} (hn : f.fresh ≤ n) : Calm f { f with fresh := n } :=
  ⟨fun _ _ h => .inl h, rfl, rfl, rfl, rfl, rfl, rfl, rfl, .refl, hn⟩

/-- A frame of bytes for an open. -/
def receive (f : Flow) (opening : Nat) (p : Payload) : Flow :=
  { f with received := update f.received opening (f.received opening ++ [p]) }

/-! What a move makes of a flow. -/

/-- An id is reserved. -/
def reserved (f : Flow) (s : Nat) : Flow :=
  { f with
    streams := update f.streams s (some (f.fresh + 1))
    locals := update f.locals (f.fresh + 1) (some ⟨none, f.fresh, 0, f.fresh + 1⟩)
    relays := update f.relays (f.fresh + 1) none
    buffers := update f.buffers f.fresh []
    received := update f.received (f.fresh + 1) []
    fresh := f.fresh + 3 }

/-- A socket dials. -/
def connecting (f : Flow) (r : Nat) (v : LocalView) : Flow :=
  { f with
    locals := update f.locals r (some { v with socket := some f.fresh })
    sockets := update f.sockets f.fresh (some (r, false))
    fresh := f.fresh + 1 }

/-- The held bytes are written. -/
def flushed (f : Flow) (k r : Nat) (v : LocalView) : Flow :=
  { f with
    sockets := update f.sockets k (some (r, true))
    localWrites := update f.localWrites r (f.localWrites r ++ f.buffers v.buffer)
    locals := update f.locals r (some { v with buffer := f.fresh, bytes := 0 })
    buffers := update f.buffers f.fresh []
    fresh := f.fresh + 1 }

/-- A relay takes the place. -/
def swapped (f : Flow) (s : Nat) (v : LocalView) : Flow :=
  { f with
    streams := update f.streams s (some (f.fresh + 1))
    locals := update f.locals (f.fresh + 1) none
    relays := update f.relays (f.fresh + 1) (some ⟨f.fresh, false, v.buffer, v.bytes, v.opening⟩)
    targets := update f.targets f.fresh (some [])
    fresh := f.fresh + 3 }

/-- The cap is passed. -/
def overflowed (f : Flow) (s opening : Nat) (p : Payload) : Flow :=
  { f.receive opening p with streams := update f.streams s none, arrivals := f.arrivals + 1 }

/-- The relay holds bytes back. -/
def relayHeld (f : Flow) (r : Nat) (v : RelayView) (p : Payload) : Flow :=
  { f.receive v.opening p with
    buffers := update f.buffers v.buffer (f.buffers v.buffer ++ [p])
    relays := update f.relays r (some { v with bytes := v.bytes + p.bytes.length })
    arrivals := f.arrivals + 1 }

/-- What a step can do to a flow.  `overtakes` follows from a write past held bytes, and `steals`
from a relay that takes the place of a state whose bytes went to a local socket. -/
inductive Move (overtakes steals : Prop) (f : Flow) : Flow → Prop
  | calm {f' : Flow} (h : Calm f f') : Move overtakes steals f f'
  | reserve (s : Nat) (hfree : f.streams s = none) : Move overtakes steals f { f with
          streams := update f.streams s (some (f.fresh + 1))
          locals := update f.locals (f.fresh + 1) (some ⟨none, f.fresh, 0, f.fresh + 1⟩)
          relays := update f.relays (f.fresh + 1) none
          buffers := update f.buffers f.fresh []
          received := update f.received (f.fresh + 1) []
          fresh := f.fresh + 3 }
  | dial (r : Nat) (v : LocalView) (hv : f.locals r = some v) : Move overtakes steals f { f with
          locals := update f.locals r (some { v with socket := some f.fresh })
          sockets := update f.sockets f.fresh (some (r, false))
          fresh := f.fresh + 1 }
  | connect (k r : Nat) (c : Bool) (v : LocalView) (hk : f.sockets k = some (r, c))
      (hv : f.locals r = some v) (hheld : f.buffers v.buffer = []) :
      Move overtakes steals f { f with sockets := update f.sockets k (some (r, true)) }
  | flush (k r : Nat) (c : Bool) (v : LocalView) (hk : f.sockets k = some (r, c))
      (hv : f.locals r = some v) :
      Move overtakes steals f { f with
          sockets := update f.sockets k (some (r, true))
          localWrites := update f.localWrites r (f.localWrites r ++ f.buffers v.buffer)
          locals := update f.locals r (some { v with buffer := f.fresh, bytes := 0 })
          buffers := update f.buffers f.fresh []
          fresh := f.fresh + 1 }
  | write (s r : Nat) (v : LocalView) (p : Payload) (hget : f.streams s = some r)
      (hv : f.locals r = some v) (hp : p.arrival = f.arrivals)
      (hovertakes : f.buffers v.buffer ≠ [] → overtakes) :
      Move overtakes steals f { f.receive v.opening p with
          localWrites := update f.localWrites r (f.localWrites r ++ [p])
          arrivals := f.arrivals + 1 }
  | hold (s r : Nat) (v : LocalView) (p : Payload) (hget : f.streams s = some r)
      (hv : f.locals r = some v) (hp : p.arrival = f.arrivals) (hsocket : v.socket = none)
      (hcap : v.bytes + p.bytes.length ≤ streamPendingDataMaxBytes) :
      Move overtakes steals f { f.receive v.opening p with
          buffers := update f.buffers v.buffer (f.buffers v.buffer ++ [p])
          locals := update f.locals r (some { v with bytes := v.bytes + p.bytes.length })
          arrivals := f.arrivals + 1 }
  | overflow (s r : Nat) (v : LocalView) (p : Payload) (hget : f.streams s = some r)
      (hv : f.locals r = some v) (hp : p.arrival = f.arrivals) :
      Move overtakes steals f { f.receive v.opening p with
          streams := update f.streams s none
          arrivals := f.arrivals + 1 }
  | swap (s r : Nat) (v : LocalView) (hget : f.streams s = some r) (hv : f.locals r = some v)
      (hsteals : f.localWrites r ≠ [] → steals) :
      Move overtakes steals f { f with
          streams := update f.streams s (some (f.fresh + 1))
          locals := update f.locals (f.fresh + 1) none
          relays := update f.relays (f.fresh + 1)
            (some ⟨f.fresh, false, v.buffer, v.bytes, v.opening⟩)
          targets := update f.targets f.fresh (some [])
          fresh := f.fresh + 3 }
  | relayWrite (s r : Nat) (v : RelayView) (ws : List Payload) (p : Payload)
      (hget : f.streams s = some r) (hv : f.relays r = some v) (hp : p.arrival = f.arrivals)
      (hopen : v.isOpen = true) (hws : f.targets v.target = some ws) :
      Move overtakes steals f { f.receive v.opening p with
          targets := update f.targets v.target (some (ws ++ [p]))
          arrivals := f.arrivals + 1 }
  | relayHold (s r : Nat) (v : RelayView) (p : Payload) (hget : f.streams s = some r)
      (hv : f.relays r = some v) (hp : p.arrival = f.arrivals) (hopen : v.isOpen = false)
      (hcap : v.bytes + p.bytes.length ≤ streamPendingDataMaxBytes) :
      Move overtakes steals f { f.receive v.opening p with
          buffers := update f.buffers v.buffer (f.buffers v.buffer ++ [p])
          relays := update f.relays r (some { v with bytes := v.bytes + p.bytes.length })
          arrivals := f.arrivals + 1 }
  | relayOverflow (s r : Nat) (v : RelayView) (p : Payload) (hget : f.streams s = some r)
      (hv : f.relays r = some v) (hp : p.arrival = f.arrivals) :
      Move overtakes steals f { f.receive v.opening p with
          streams := update f.streams s none
          arrivals := f.arrivals + 1 }
  | relayOpen (r : Nat) (v : RelayView) (hv : f.relays r = some v)
      (hheld : f.buffers v.buffer = []) :
      Move overtakes steals f
        { f with relays := update f.relays r (some { v with isOpen := true }) }
  | relayFlush (r : Nat) (v : RelayView) (ws : List Payload) (hv : f.relays r = some v)
      (hws : f.targets v.target = some ws) :
      Move overtakes steals f { f with
          targets := update f.targets v.target (some (ws ++ f.buffers v.buffer))
          relays := update f.relays r
            (some { v with isOpen := true, buffer := f.fresh, bytes := 0 })
          buffers := update f.buffers f.fresh []
          fresh := f.fresh + 1 }

/-- A chain of moves. -/
def Moves (overtakes steals : Prop) : Flow → Flow → Prop :=
  Relation.ReflTransGen (Move overtakes steals)

variable {overtakes steals : Prop}

theorem Calm.moves (h : Calm f f') : Moves overtakes steals f f' :=
  Relation.ReflTransGen.single (Move.calm h)

theorem Move.moves (h : Move overtakes steals f f') : Moves overtakes steals f f' :=
  Relation.ReflTransGen.single h

theorem Moves.refl (f : Flow) : Moves overtakes steals f f := Relation.ReflTransGen.refl

theorem Moves.trans {f'' : Flow} (h : Moves overtakes steals f f')
    (h' : Moves overtakes steals f' f'') : Moves overtakes steals f f'' :=
  Relation.ReflTransGen.trans h h'

/-- What every move keeps, a chain of moves keeps. -/
theorem Moves.keep (h : Moves overtakes steals f f') (Inv : Flow → Prop)
    (hmove : ∀ f f', Inv f → Move overtakes steals f f' → Inv f') (hf : Inv f) : Inv f' := by
  induction h with
  | refl => exact hf
  | tail _ hlast ih => exact hmove _ _ ih hlast

/-! ## Wiring -/

/-- How states, buffers, sockets and targets hang together. -/
structure Wired (f : Flow) : Prop where
  stored_named : ∀ s r, f.streams s = some r → r < f.fresh
  local_named : ∀ r v, f.locals r = some v → r < f.fresh ∧ v.buffer < f.fresh ∧ v.opening = r
  relay_named : ∀ r v, f.relays r = some v → r < f.fresh ∧ v.buffer < f.fresh ∧ v.target < f.fresh
  relay_opening : ∀ r v, f.relays r = some v → ∃ l, f.locals v.opening = some l
  relay_unique : ∀ r r' v v', f.relays r = some v → f.relays r' = some v' →
    v.opening = v'.opening → r = r'
  target_unique : ∀ r r' v v', f.relays r = some v → f.relays r' = some v' →
    v.target = v'.target → r = r'
  target_there : ∀ r v, f.relays r = some v → ∃ ws, f.targets v.target = some ws
  superseded : ∀ r v s, f.relays r = some v → f.streams s ≠ some v.opening
  local_buffer : ∀ r r' v v', f.locals r = some v → f.locals r' = some v' →
    v.buffer = v'.buffer → r = r'
  relay_buffer : ∀ r r' v v', f.relays r = some v → f.relays r' = some v' →
    v.buffer = v'.buffer → r = r'
  shared_buffer : ∀ r r' v v', f.locals r = some v → f.relays r' = some v' →
    v.buffer = v'.buffer → v'.opening = r
  stored_once : ∀ s s' r, f.streams s = some r → f.streams s' = some r →
    ((∃ v, f.locals r = some v) ∨ ∃ v, f.relays r = some v) → s = s'
  dialed : ∀ k r c, f.sockets k = some (r, c) → ∃ v, f.locals r = some v ∧ v.socket ≠ none

/-- A step after which the same states share the same buffers and targets. -/
structure Keeps (f f' : Flow) : Prop where
  streams : ∀ s r, f'.streams s = some r → f.streams s = some r ∨
    (r < f'.fresh ∧ f.locals r = none ∧ f.relays r = none)
  locals : ∀ r v', f'.locals r = some v' → ∃ v, f.locals r = some v ∧
    v'.buffer = v.buffer ∧ v'.opening = v.opening
  locals_there : ∀ r v, f.locals r = some v → ∃ v', f'.locals r = some v' ∧ v'.socket = v.socket
  relays : ∀ r v', f'.relays r = some v' → ∃ v, f.relays r = some v ∧
    v'.target = v.target ∧ v'.buffer = v.buffer ∧ v'.opening = v.opening
  sockets : ∀ k r c, f'.sockets k = some (r, c) → ∃ c', f.sockets k = some (r, c')
  targets : ∀ k ws, f.targets k = some ws → ∃ ws', f'.targets k = some ws'
  fresh : f.fresh ≤ f'.fresh

theorem Keeps.stored (h : Keeps f f') {s r : Nat} (hget : f'.streams s = some r)
    (hreverse : (∃ v, f.locals r = some v) ∨ ∃ v, f.relays r = some v) : f.streams s = some r := by
  rcases h.streams s r hget with hold | ⟨_, hlocal, hrelay⟩
  · exact hold
  · rw [hlocal, hrelay] at hreverse
    rcases hreverse with ⟨_, hnone⟩ | ⟨_, hnone⟩ <;> exact nomatch hnone

/-- What is kept stays wired. -/
theorem Keeps.wired (h : Keeps f f') (hw : Wired f) : Wired f' where
  stored_named := by
    intro s r hget
    rcases h.streams s r hget with hold | ⟨hlt, _, _⟩
    · exact Nat.lt_of_lt_of_le (hw.stored_named s r hold) h.fresh
    · exact hlt
  local_named := by
    intro r v' hv'
    obtain ⟨v, hv, hbuffer, hopn⟩ := h.locals r v' hv'
    have hnamed := hw.local_named r v hv
    have hfr := h.fresh
    rw [hbuffer, hopn]
    exact ⟨by omega, by omega, hnamed.2.2⟩
  relay_named := by
    intro r v' hv'
    obtain ⟨v, hv, htarget, hbuffer, _⟩ := h.relays r v' hv'
    have hnamed := hw.relay_named r v hv
    have hfr := h.fresh
    exact ⟨by omega, by omega, by omega⟩
  relay_opening := by
    intro r v' hv'
    obtain ⟨v, hv, _, _, hopn⟩ := h.relays r v' hv'
    rw [hopn]
    obtain ⟨l, hl⟩ := hw.relay_opening r v hv
    obtain ⟨l', hl', _⟩ := h.locals_there _ l hl
    exact ⟨l', hl'⟩
  relay_unique := by
    intro r₁ r₂ v₁' v₂' hv₁' hv₂' heq
    obtain ⟨v₁, hv₁, _, _, hopn₁⟩ := h.relays r₁ v₁' hv₁'
    obtain ⟨v₂, hv₂, _, _, hopn₂⟩ := h.relays r₂ v₂' hv₂'
    exact hw.relay_unique r₁ r₂ v₁ v₂ hv₁ hv₂ (by rw [← hopn₁, ← hopn₂, heq])
  target_unique := by
    intro r₁ r₂ v₁' v₂' hv₁' hv₂' heq
    obtain ⟨v₁, hv₁, htarget₁, _, _⟩ := h.relays r₁ v₁' hv₁'
    obtain ⟨v₂, hv₂, htarget₂, _, _⟩ := h.relays r₂ v₂' hv₂'
    exact hw.target_unique r₁ r₂ v₁ v₂ hv₁ hv₂ (by rw [← htarget₁, ← htarget₂, heq])
  target_there := by
    intro r v' hv'
    obtain ⟨v, hv, htarget, _, _⟩ := h.relays r v' hv'
    obtain ⟨ws, hws⟩ := hw.target_there r v hv
    rw [htarget]
    exact h.targets _ ws hws
  superseded := by
    intro r v' s hv' hget
    obtain ⟨v, hv, _, _, hopn⟩ := h.relays r v' hv'
    rw [hopn] at hget
    exact hw.superseded r v s hv (h.stored hget (.inl (hw.relay_opening r v hv)))
  local_buffer := by
    intro r₁ r₂ v₁' v₂' hv₁' hv₂' heq
    obtain ⟨v₁, hv₁, hbuffer₁, _⟩ := h.locals r₁ v₁' hv₁'
    obtain ⟨v₂, hv₂, hbuffer₂, _⟩ := h.locals r₂ v₂' hv₂'
    exact hw.local_buffer r₁ r₂ v₁ v₂ hv₁ hv₂ (by rw [← hbuffer₁, ← hbuffer₂, heq])
  relay_buffer := by
    intro r₁ r₂ v₁' v₂' hv₁' hv₂' heq
    obtain ⟨v₁, hv₁, _, hbuffer₁, _⟩ := h.relays r₁ v₁' hv₁'
    obtain ⟨v₂, hv₂, _, hbuffer₂, _⟩ := h.relays r₂ v₂' hv₂'
    exact hw.relay_buffer r₁ r₂ v₁ v₂ hv₁ hv₂ (by rw [← hbuffer₁, ← hbuffer₂, heq])
  shared_buffer := by
    intro r₁ r₂ v₁' v₂' hv₁' hv₂' heq
    obtain ⟨v₁, hv₁, hbuffer₁, _⟩ := h.locals r₁ v₁' hv₁'
    obtain ⟨v₂, hv₂, _, hbuffer₂, hopn₂⟩ := h.relays r₂ v₂' hv₂'
    rw [hopn₂]
    exact hw.shared_buffer r₁ r₂ v₁ v₂ hv₁ hv₂ (by rw [← hbuffer₁, ← hbuffer₂, heq])
  stored_once := by
    intro s s' r hget hget' hreverse'
    have hreverse : (∃ v, f.locals r = some v) ∨ ∃ v, f.relays r = some v := by
      rcases hreverse' with ⟨v', hv'⟩ | ⟨v', hv'⟩
      · obtain ⟨v, hv, _⟩ := h.locals r v' hv'
        exact .inl ⟨v, hv⟩
      · obtain ⟨v, hv, _⟩ := h.relays r v' hv'
        exact .inr ⟨v, hv⟩
    exact hw.stored_once s s' r (h.stored hget hreverse) (h.stored hget' hreverse) hreverse
  dialed := by
    intro k r c hk
    obtain ⟨c', hk'⟩ := h.sockets k r c hk
    obtain ⟨v, hv, hsocket⟩ := hw.dialed k r c' hk'
    obtain ⟨v', hv', hsame⟩ := h.locals_there r v hv
    rw [← hsame] at hsocket
    exact ⟨v', hv', hsocket⟩

theorem Calm.keeps (h : Calm f f') : Keeps f f' where
  streams := h.streams
  locals := fun r v' hv' => ⟨v', by rw [← h.locals]; exact hv', rfl, rfl⟩
  locals_there := fun r v hv => ⟨v, by rw [h.locals]; exact hv, rfl⟩
  relays := fun r v' hv' => ⟨v', by rw [← h.relays]; exact hv', rfl, rfl, rfl⟩
  sockets := fun k r c hk => ⟨c, by rw [← h.sockets]; exact hk⟩
  targets := fun k ws hws => ⟨ws, by rw [h.targets]; exact hws⟩
  fresh := h.fresh

/-! A new object has a name that nothing has yet, so it shares nothing. -/

section

variable (hw : Wired f)
variable {v : LocalView} {r : Nat}
include hw

/-- A reservation is wired. -/
theorem Wired.reserve (s : Nat) : Wired (f.reserved s) := by
  have hlocal := hw.local_named
  have hrelay := hw.relay_named
  have hnamed := hw.stored_named
  constructor <;> simp only [reserved, update_apply]
  · grind
  · grind
  · grind
  · have hopn := hw.relay_opening
    grind
  · have hunique := hw.relay_unique
    grind
  · have hunique := hw.target_unique
    grind
  · have hthere := hw.target_there
    grind
  · have hsuperseded := hw.superseded
    have hopn := hw.relay_opening
    grind
  · have hbuffer := hw.local_buffer
    grind
  · have hbuffer := hw.relay_buffer
    grind
  · have hbuffer := hw.shared_buffer
    grind
  · have honce := hw.stored_once
    grind
  · have hdialed := hw.dialed
    grind

/-- A dial is wired. -/
theorem Wired.dial (hv : f.locals r = some v) : Wired (f.connecting r v) := by
  constructor <;> simp only [connecting, update_apply]
  · have hnamed := hw.stored_named
    grind
  · have hnamed := hw.local_named
    grind
  · have hnamed := hw.relay_named
    grind
  · have hopn := hw.relay_opening
    grind
  · exact hw.relay_unique
  · exact hw.target_unique
  · exact hw.target_there
  · exact hw.superseded
  · have hbuffer := hw.local_buffer
    grind
  · exact hw.relay_buffer
  · have hbuffer := hw.shared_buffer
    grind
  · have honce := hw.stored_once
    grind
  · have hdialed := hw.dialed
    grind

/-- A flush stays wired. -/
theorem Wired.flush {k : Nat} {c : Bool} (hk : f.sockets k = some (r, c))
    (hv : f.locals r = some v) :
    Wired (f.flushed k r v) := by
  constructor <;> simp only [flushed, update_apply]
  · have hnamed := hw.stored_named
    grind
  · have hnamed := hw.local_named
    grind
  · have hnamed := hw.relay_named
    grind
  · have hopn := hw.relay_opening
    grind
  · exact hw.relay_unique
  · exact hw.target_unique
  · exact hw.target_there
  · exact hw.superseded
  · have hbuffer := hw.local_buffer
    have hnamed := hw.local_named
    grind
  · exact hw.relay_buffer
  · have hbuffer := hw.shared_buffer
    have hnamed := hw.relay_named
    grind
  · have honce := hw.stored_once
    grind
  · have hdialed := hw.dialed
    grind

/-- A relay takes the place and the buffer of a stored state, so no other relay has them. -/
theorem Wired.swap {s : Nat} (hget : f.streams s = some r) (hv : f.locals r = some v) :
    Wired (f.swapped s v) := by
  have hlocal := hw.local_named
  have hrelay := hw.relay_named
  have halone : ∀ r' v', f.relays r' = some v' → v'.opening ≠ r := by
    intro r' v' hv' heq
    exact hw.superseded r' v' s hv' (heq ▸ hget)
  constructor <;> simp only [swapped, update_apply]
  · have hnamed := hw.stored_named
    grind
  · grind
  · grind
  · have hopn := hw.relay_opening
    grind
  · have hunique := hw.relay_unique
    grind
  · have hunique := hw.target_unique
    grind
  · intro r' v' hv'
    by_cases ht : v'.target = f.fresh
    · exact ⟨[], if_pos ht⟩
    · have hthere := hw.target_there r' v'
      grind
  · have hsuperseded := hw.superseded
    have honce := hw.stored_once
    have hopn := hw.relay_opening
    grind
  · have hbuffer := hw.local_buffer
    grind
  · have hbuffer := hw.relay_buffer
    have hshared := hw.shared_buffer
    grind
  · have hshared := hw.shared_buffer
    have hbuffer := hw.local_buffer
    grind
  · have honce := hw.stored_once
    have hnamed := hw.stored_named
    grind
  · have hdialed := hw.dialed
    grind

theorem Wired.relayFlush {v : RelayView} (ws : List Payload) (hv : f.relays r = some v) :
    Wired { f with
      targets := update f.targets v.target (some ws)
      relays := update f.relays r (some { v with isOpen := true, buffer := f.fresh, bytes := 0 })
      buffers := update f.buffers f.fresh []
      fresh := f.fresh + 1 } := by
  constructor <;> simp only [update_apply]
  · have hnamed := hw.stored_named
    grind
  · have hnamed := hw.local_named
    grind
  · have hnamed := hw.relay_named
    grind
  · have hopn := hw.relay_opening
    grind
  · have hunique := hw.relay_unique
    grind
  · have hunique := hw.target_unique
    grind
  · have hthere := hw.target_there
    grind
  · have hsuperseded := hw.superseded
    grind
  · exact hw.local_buffer
  · have hbuffer := hw.relay_buffer
    have hnamed := hw.relay_named
    grind
  · have hshared := hw.shared_buffer
    have hnamed := hw.local_named
    grind
  · have honce := hw.stored_once
    grind
  · exact hw.dialed

/-- Every move keeps a flow wired. -/
theorem Wired.move (h : Move overtakes steals f f') : Wired f' := by
  cases h with
  | calm h => exact h.keeps.wired hw
  | reserve s hfree => exact hw.reserve s
  | dial r v hv => exact hw.dial hv
  | flush k r c v hk hv => exact hw.flush hk hv
  | swap s r v hget hv => exact hw.swap hget hv
  | relayFlush r v ws hv hws => exact hw.relayFlush _ hv
  | connect k r c v hk hv hheld | relayOpen r v hv hheld =>
    apply Keeps.wired _ hw
    constructor <;> simp only [update_apply] <;> grind
  | write s r v p hget hv hp hovertakes =>
    apply Keeps.wired _ hw
    constructor <;> simp only [receive] <;> grind
  | hold s r v p hget hv hp hsocket hcap | overflow s r v p hget hv hp
  | relayWrite s r v ws p hget hv hp hopen hws | relayHold s r v p hget hv hp hopen hcap
  | relayOverflow s r v p hget hv hp =>
    apply Keeps.wired _ hw
    constructor <;> simp only [receive, update_apply] <;> grind

end

/-! ## Arrivals -/

/-- What was received came in earlier frames, and nothing came for what has no name yet. -/
structure Tagged (f : Flow) : Prop where
  tagged : ∀ n, ∀ p ∈ f.received n, p.arrival < f.arrivals
  blank : ∀ n, f.fresh ≤ n → f.received n = [] ∧ f.localWrites n = []

/-- A frame of bytes that takes the next number. -/
theorem Tagged.receive (ht : Tagged f) {opening : Nat} (hnamed : opening < f.fresh) {p : Payload}
    (hp : p.arrival = f.arrivals) (hrecv : f'.received = (f.receive opening p).received)
    (hwr : ∀ n, f.fresh ≤ n → f'.localWrites n = f.localWrites n)
    (harrivals : f'.arrivals = f.arrivals + 1) (hfr : f'.fresh = f.fresh) : Tagged f' := by
  constructor
  · intro n q hq
    rw [hrecv] at hq
    change q ∈ update f.received opening (f.received opening ++ [p]) n at hq
    by_cases hn : n = opening
    · rw [hn, update_self] at hq
      rcases List.mem_append.mp hq with hold | hnew
      · have hlt := ht.tagged opening q hold
        omega
      · rw [List.mem_singleton.mp hnew]
        omega
    · rw [update_of_ne hn] at hq
      have hlt := ht.tagged n q hq
      omega
  · intro n hn
    rw [hfr] at hn
    have hne : n ≠ opening := by omega
    rw [hrecv, hwr n hn]
    change update f.received opening (f.received opening ++ [p]) n = [] ∧ _
    rw [update_of_ne hne]
    exact ht.blank n hn

/-- Every move keeps the tags. -/
theorem Tagged.move (ht : Tagged f) (hw : Wired f)
    (h : Move overtakes steals f f') : Tagged f' := by
  have hlocal : ∀ r v, f.locals r = some v → v.opening < f.fresh := by
    intro r v hv
    have hnamed := hw.local_named r v hv
    omega
  have hrelay : ∀ r v, f.relays r = some v → v.opening < f.fresh := by
    intro r v hv
    obtain ⟨l, hl⟩ := hw.relay_opening r v hv
    exact (hw.local_named _ l hl).1
  have htagged := ht.tagged
  have hblank := ht.blank
  cases h with
  | calm h =>
    constructor
    · intro n p hp
      rw [h.received] at hp
      exact Nat.lt_of_lt_of_le (ht.tagged n p hp) h.arrivals
    · intro n hn
      rw [h.received, h.localWrites]
      exact ht.blank n (Nat.le_trans h.fresh hn)
  | reserve s hfree => constructor <;> simp only [update_apply] <;> grind
  | dial r v hv => constructor <;> grind
  | connect k r c v hk hv hheld => exact ⟨ht.tagged, ht.blank⟩
  | flush k r c v hk hv =>
    have hnamed := hw.local_named r v hv
    constructor <;> simp only [update_apply] <;> grind
  | swap s r v hget hv => constructor <;> grind
  | relayOpen r v hv hheld => exact ⟨ht.tagged, ht.blank⟩
  | relayFlush r v ws hv hws => constructor <;> grind
  | write s r v p hget hv hp hovertakes =>
    have hnamed := hw.local_named r v hv
    have hwr : ∀ n, f.fresh ≤ n →
        update f.localWrites r (f.localWrites r ++ [p]) n = f.localWrites n :=
      fun n hn => update_of_ne (by omega) _ _
    exact ht.receive (hlocal r v hv) hp rfl hwr rfl rfl
  | hold s r v p hget hv hp hsocket hcap | overflow s r v p hget hv hp =>
    exact ht.receive (hlocal r v hv) hp rfl (fun _ _ => rfl) rfl rfl
  | relayWrite s r v ws p hget hv hp hopen hws | relayHold s r v p hget hv hp hopen hcap
  | relayOverflow s r v p hget hv hp =>
    exact ht.receive (hrelay r v hv) hp rfl (fun _ _ => rfl) rfl rfl

end Flow

end Sencho.Mesh

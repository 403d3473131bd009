import Sencho.Mesh.BridgeBytes
import Sencho.Mesh.SwitchboardOrder

/-!
# The bytes of a local dial

The bytes of a reverse stream are held until the bridge has dialed the container, and are written
to the socket from then on, while what is held is flushed when the socket connects.  A relay goes
on with the buffer of its reservation, so what the reservation holds may still grow after the relay
has taken its place.
-/

namespace Sencho.Mesh

open Verified Option Function PilotTunnelBridge Handover Runs
open Streams

namespace Flow

variable {f f' : Flow} {overtakes steals : Prop}
variable {v : LocalView} {r s : Nat}

/-- A stored relay that is not open holds its bytes in a buffer. -/
def Feeds (f : Flow) (buffer : Nat) : Prop :=
  ∃ r v, f.Stored r ∧ f.relays r = some v ∧ v.isOpen = false ∧ v.buffer = buffer

/-- What local states hold is still to be written, and nothing is held once one is connected. -/
def LocalQueued (f : Flow) : Prop :=
  ∀ r v, f.locals r = some v → Queued (f.Stored r ∨ f.Feeds v.buffer) (f.Stored r ∧ f.Connected r)
    (f.localWrites r) (f.buffers v.buffer) (f.received r)

theorem stored_of_drop (hstreams : f'.streams = update f.streams s none) (hst : f'.Stored r) :
    f.Stored r := by
  obtain ⟨s', hget⟩ := hst
  rw [hstreams] at hget
  rcases update_cases hget with ⟨_, hnone⟩ | ⟨_, hold⟩
  · exact nomatch hnone
  · exact ⟨s', hold⟩

theorem stored_of_put {n : Nat} (hstreams : f'.streams = update f.streams s (some n)) (hr : r ≠ n)
    (hst : f'.Stored r) : f.Stored r := by
  obtain ⟨s', hget⟩ := hst
  rw [hstreams] at hget
  rcases update_cases hget with ⟨_, hnew⟩ | ⟨_, hold⟩
  · exact absurd (some.inj hnew).symm hr
  · exact ⟨s', hold⟩

/-- A dropped state of a reverse stream was stored once, so it is not stored any more. -/
theorem Wired.not_stored (hw : Wired f) (hget : f.streams s = some r)
    (hreverse : (∃ v, f.locals r = some v) ∨ ∃ v, f.relays r = some v)
    (hstreams : f'.streams = update f.streams s none) : ¬ f'.Stored r := by
  rintro ⟨s', hget'⟩
  rw [hstreams] at hget'
  rcases update_cases hget' with ⟨_, hnone⟩ | ⟨hs, hold⟩
  · exact nomatch hnone
  · exact hs (hw.stored_once s' s r hold hget hreverse)

/-- A relay in whose place a local state is stored does not share its buffer. -/
theorem Wired.not_feeds (hw : Wired f) (hget : f.streams s = some r) (hv : f.locals r = some v)
    {r' : Nat} {v' : RelayView} (hv' : f.relays r' = some v') : v'.buffer ≠ v.buffer := by
  intro hbuffer
  have hopn := hw.shared_buffer r r' v v' hv hv' hbuffer.symm
  exact hw.superseded r' v' s hv' (by rw [hopn]; exact hget)

/-- A state with the same bytes, which is stored, fed or connected only if it was. -/
theorem LocalQueued.other (h : LocalQueued f) (hv : f.locals r = some v)
    (hst : f'.Stored r → f.Stored r) (hfeeds : f'.Feeds v.buffer → f.Feeds v.buffer)
    (hconnected : f'.Connected r → f.Connected r) (hwr : f'.localWrites r = f.localWrites r)
    (hbuffer : f'.buffers v.buffer = f.buffers v.buffer) (hrecv : f'.received r = f.received r) :
    Queued (f'.Stored r ∨ f'.Feeds v.buffer) (f'.Stored r ∧ f'.Connected r) (f'.localWrites r)
      (f'.buffers v.buffer) (f'.received r) := by
  rw [hwr, hbuffer, hrecv]
  exact (h r v hv).mono (Or.imp hst hfeeds) (And.imp hst hconnected)

/-- A relay feeds a buffer only if it did. -/
theorem feeds_of {buffer : Nat} (hrelay : ∀ r v, f'.Stored r → f'.relays r = some v →
    v.isOpen = false → v.buffer = buffer →
      f.Stored r ∧ ∃ v', f.relays r = some v' ∧ v'.isOpen = false ∧ v'.buffer = buffer)
    (hfeeds : f'.Feeds buffer) : f.Feeds buffer := by
  obtain ⟨r, v, hst, hv, hopen, hbuffer⟩ := hfeeds
  obtain ⟨hst', v', hv', hopen', hbuffer'⟩ := hrelay r v hst hv hopen hbuffer
  exact ⟨r, v', hst', hv', hopen', hbuffer'⟩

section

variable (h : LocalQueued f)
include h

theorem LocalQueued.calm (hm : Calm f f') : LocalQueued f' := by
  have hkeeps := hm.keeps
  intro r v hv
  rw [hm.locals] at hv
  apply h.other hv
  · rintro ⟨s, hget⟩
    exact ⟨s, hkeeps.stored hget (.inl ⟨v, hv⟩)⟩
  · apply feeds_of
    rintro r' v' ⟨s, hget⟩ hv' hopen hbuffer
    rw [hm.relays] at hv'
    exact ⟨⟨s, hkeeps.stored hget (.inr ⟨v', hv'⟩)⟩, v', hv', hopen, hbuffer⟩
  · rintro ⟨k, hk⟩
    rw [hm.sockets] at hk
    exact ⟨k, hk⟩
  · rw [hm.localWrites]
  · rw [hm.buffers]
  · rw [hm.received]

theorem LocalQueued.reserve (hw : Wired f) (ht : Tagged f) (s : Nat) :
    LocalQueued (f.reserved s) := by
  intro r v hv
  rcases update_cases hv with ⟨hr, hnew⟩ | ⟨hr, hold⟩
  · have hwr := (ht.blank (f.fresh + 1) (Nat.le_succ _)).2
    rw [hr, ← some.inj hnew]
    dsimp only [reserved]
    rw [update_self, update_self, hwr]
    exact queued_nil
  · have hnamed := hw.local_named r v hold
    apply h.other hold
    · exact stored_of_put rfl hr
    · apply feeds_of
      intro r' v' hst hv' hopen hbuffer
      rcases update_cases hv' with ⟨_, hnone⟩ | ⟨hr', hold'⟩
      · exact nomatch hnone
      · exact ⟨stored_of_put rfl hr' hst, v', hold', hopen, hbuffer⟩
    · exact id
    · rfl
    · exact update_of_ne (by omega) _ _
    · exact update_of_ne hr _ _

theorem LocalQueued.dial (hv : f.locals r = some v) : LocalQueued (f.connecting r v) := by
  intro r' v' hv'
  have hconnected : Connected (f.connecting r v) r' → f.Connected r' := by
    rintro ⟨k, hk⟩
    rcases update_cases hk with ⟨_, hnew⟩ | ⟨_, hold⟩
    · exact absurd (congrArg Prod.snd (some.inj hnew)) Bool.false_ne_true
    · exact ⟨k, hold⟩
  have hother : ∃ v₀, f.locals r' = some v₀ ∧ v'.buffer = v₀.buffer := by
    rcases update_cases hv' with ⟨hr, hnew⟩ | ⟨_, hold⟩
    · rw [hr, ← some.inj hnew]
      exact ⟨v, hv, rfl⟩
    · exact ⟨v', hold, rfl⟩
  obtain ⟨v₀, hv₀, hbuffer⟩ := hother
  rw [hbuffer]
  apply h.other hv₀
  · exact id
  · exact id
  · exact hconnected
  · rfl
  · rfl
  · rfl

end

/-- Another state is connected only if it was. -/
theorem connected_of_connect {k r' : Nat} (hr : r' ≠ r)
    (hsockets : f'.sockets = update f.sockets k (some (r, true))) (hconnected : f'.Connected r') :
    f.Connected r' := by
  obtain ⟨k', hk'⟩ := hconnected
  rw [hsockets] at hk'
  rcases update_cases hk' with ⟨_, hnew⟩ | ⟨_, hold⟩
  · exact absurd (congrArg Prod.fst (some.inj hnew)).symm hr
  · exact ⟨k', hold⟩

theorem LocalQueued.connect (h : LocalQueued f) {k : Nat} (hv : f.locals r = some v)
    (hheld : f.buffers v.buffer = []) :
    LocalQueued { f with sockets := update f.sockets k (some (r, true)) } := by
  intro r' v' hv'
  by_cases hr : r' = r
  · have hsame : v' = v := by
      rw [hr] at hv'
      exact some.inj (hv'.symm.trans hv)
    have hq := h r' v' hv'
    exact ⟨hq.none_lost, fun _ => by rw [hsame]; exact hheld, hq.initial⟩
  · apply h.other hv'
    · exact id
    · exact id
    · exact connected_of_connect hr rfl
    · rfl
    · rfl
    · rfl

section

variable (h : LocalQueued f) (hw : Wired f)
variable (p : Payload)
include h hw

theorem LocalQueued.flush {k : Nat} (hv : f.locals r = some v) : LocalQueued (f.flushed k r v) := by
  intro r' v' hv'
  rcases update_cases hv' with ⟨hr, hnew⟩ | ⟨hr, hold⟩
  · rw [hr, ← some.inj hnew]
    dsimp only [flushed]
    rw [update_self, update_self]
    apply Queued.flush ((h r v hv).mono _ id)
    rintro (hst | ⟨r₂, v₂, _, hv₂, _, hbuffer⟩)
    · exact .inl hst
    · have hnamed := hw.relay_named r₂ v₂ hv₂
      exact absurd hbuffer (by omega)
  · have hnamed := hw.local_named r' v' hold
    apply h.other hold
    · exact id
    · exact id
    · exact connected_of_connect hr rfl
    · exact update_of_ne hr _ _
    · exact update_of_ne (by omega) _ _
    · rfl

section

variable (hget : f.streams s = some r) (hv : f.locals r = some v)
include hget hv

theorem LocalQueued.write (hheld : f.buffers v.buffer = []) :
    LocalQueued { f.receive v.opening p with
      localWrites := update f.localWrites r (f.localWrites r ++ [p])
      arrivals := f.arrivals + 1 } := by
  have hopn := (hw.local_named r v hv).2.2
  intro r' v' hv'
  by_cases hr : r' = r
  · have hsame : v' = v := by
      rw [hr] at hv'
      exact some.inj (hv'.symm.trans hv)
    have hq := (h r v hv).pass (.inl ⟨s, hget⟩) hheld p
    unfold receive
    dsimp only
    rw [hr, hsame, hopn, update_self, update_self]
    exact hq
  · apply h.other hv'
    · exact id
    · exact id
    · exact id
    · exact update_of_ne hr _ _
    · rfl
    · exact update_of_ne (by rw [hopn]; exact hr) _ _

theorem LocalQueued.hold (hsocket : v.socket = none) :
    LocalQueued { f.receive v.opening p with
      buffers := update f.buffers v.buffer (f.buffers v.buffer ++ [p])
      locals := update f.locals r (some { v with bytes := v.bytes + p.bytes.length })
      arrivals := f.arrivals + 1 } := by
  have hopn := (hw.local_named r v hv).2.2
  have hclosed : ¬ (f.Stored r ∧ f.Connected r) := by
    rintro ⟨_, k, hk⟩
    obtain ⟨v', hv', hdialed⟩ := hw.dialed k r true hk
    rw [hv] at hv'
    rw [← some.inj hv'] at hdialed
    exact hdialed hsocket
  intro r' v' hv'
  rcases update_cases hv' with ⟨hr, hnew⟩ | ⟨hr, hold⟩
  · have hq := (h r v hv).hold (.inl ⟨s, hget⟩) hclosed p
    unfold receive
    rw [hr, ← some.inj hnew, hopn]
    dsimp only
    rw [update_self, update_self]
    exact hq
  · have hbuffer : v'.buffer ≠ v.buffer := fun heq =>
      hr (hw.local_buffer r' r v' v hold hv heq)
    apply h.other hold
    · exact id
    · exact id
    · exact id
    · rfl
    · exact update_of_ne hbuffer _ _
    · exact update_of_ne (by rw [hopn]; exact hr) _ _

theorem LocalQueued.overflow : LocalQueued (f.overflowed s v.opening p) := by
  have hopn := (hw.local_named r v hv).2.2
  have hgone : ¬ Stored (f.overflowed s v.opening p) r := hw.not_stored hget (.inl ⟨v, hv⟩) rfl
  intro r' v' hv'
  by_cases hr : r' = r
  · have hsame : v' = v := by
      rw [hr] at hv'
      exact some.inj (hv'.symm.trans hv)
    rw [hr, hsame]
    unfold overflowed receive
    dsimp only
    rw [hopn, update_self]
    have hq := (h r v hv).mono id (fun hno : False => hno.elim)
    apply (hq.miss _ p).mono id (fun hs => hgone hs.1)
    rintro (hst | ⟨r₂, v₂, _, hv₂, _, hbuffer⟩)
    · exact hgone hst
    · exact hw.not_feeds hget hv hv₂ hbuffer
  · apply h.other hv'
    · exact stored_of_drop rfl
    · apply feeds_of
      intro r₂ v₂ hst hv₂ hopen hbuffer
      exact ⟨stored_of_drop rfl hst, v₂, hv₂, hopen, hbuffer⟩
    · exact id
    · rfl
    · rfl
    · exact update_of_ne (by rw [hopn]; exact hr) _ _

/-! A relay feeds the buffer of the state whose place it took, while it is not open. -/

theorem LocalQueued.swap : LocalQueued (f.swapped s v) := by
  intro r' v' hv'
  rcases update_cases hv' with ⟨_, hnone⟩ | ⟨hr', hold⟩
  · exact nomatch hnone
  apply (h r' v' hold).mono
  · rintro (hst | ⟨r₂, v₂, hst, hv₂, hopen, hbuffer⟩)
    · exact .inl (stored_of_put rfl hr' hst)
    · rcases update_cases hv₂ with ⟨_, hnew⟩ | ⟨hr₂, hold₂⟩
      · rw [← some.inj hnew] at hbuffer
        rw [hw.local_buffer r' r v' v hold hv hbuffer.symm]
        exact .inl ⟨s, hget⟩
      · exact .inr ⟨r₂, v₂, stored_of_put rfl hr₂ hst, hold₂, hopen, hbuffer⟩
  · rintro ⟨hst, hconnected⟩
    exact ⟨stored_of_put rfl hr' hst, hconnected⟩

end

/-- A frame for a relay that its reservation does not get. -/
theorem LocalQueued.relayMiss {v : RelayView} (hv : f.relays r = some v) {l : LocalView}
    (hl : f.locals v.opening = some l) (p : Payload)
    (hst : f'.Stored v.opening → f.Stored v.opening) (hfeeds : ¬ f'.Feeds l.buffer)
    (hwr : f'.localWrites v.opening = f.localWrites v.opening)
    (hbuffer : f'.buffers l.buffer = f.buffers l.buffer)
    (hrecv : f'.received v.opening = f.received v.opening ++ [p]) :
    Queued (f'.Stored v.opening ∨ f'.Feeds l.buffer)
      (f'.Stored v.opening ∧ f'.Connected v.opening) (f'.localWrites v.opening)
      (f'.buffers l.buffer) (f'.received v.opening) := by
  have hgone : ¬ f'.Stored v.opening := by
    intro hs
    obtain ⟨s, hget⟩ := hst hs
    exact hw.superseded r v s hv hget
  have hq := (h v.opening l hl).mono id (fun hno : False => hno.elim)
  rw [hwr, hbuffer, hrecv]
  exact (hq.miss (fun hlive => hlive.elim hgone hfeeds) p).mono id (fun hs => hgone hs.1)

theorem LocalQueued.relayWrite {v : RelayView} (ws : List Payload) (p : Payload)
    (hv : f.relays r = some v) (hopen : v.isOpen = true) :
    LocalQueued { f.receive v.opening p with
      targets := update f.targets v.target (some ws)
      arrivals := f.arrivals + 1 } := by
  intro r' v' hv'
  by_cases hr : r' = v.opening
  · rw [hr] at hv' ⊢
    apply h.relayMiss hw hv hv' p
    · exact id
    · rintro ⟨r₂, v₂, _, hv₂, hclosed, hbuffer⟩
      have hopn := hw.shared_buffer _ r₂ v' v₂ hv' hv₂ hbuffer.symm
      rw [hw.relay_unique r₂ r v₂ v hv₂ hv hopn] at hv₂
      rw [some.inj (hv.symm.trans hv₂), hclosed] at hopen
      exact nomatch hopen
    · rfl
    · rfl
    · exact update_self _ _ _
  · apply h.other hv'
    · exact id
    · exact id
    · exact id
    · rfl
    · rfl
    · exact update_of_ne hr _ _

section

variable {v : RelayView} (hget : f.streams s = some r) (hv : f.relays r = some v)
include hget hv

theorem LocalQueued.relayOverflow : LocalQueued (f.overflowed s v.opening p) := by
  have hgone : ¬ Stored (f.overflowed s v.opening p) r := hw.not_stored hget (.inr ⟨v, hv⟩) rfl
  intro r' v' hv'
  by_cases hr : r' = v.opening
  · rw [hr] at hv' ⊢
    apply h.relayMiss hw hv hv' p
    · exact stored_of_drop rfl
    · rintro ⟨r₂, v₂, hst, hv₂, _, hbuffer⟩
      have hopn := hw.shared_buffer _ r₂ v' v₂ hv' hv₂ hbuffer.symm
      rw [hw.relay_unique r₂ r v₂ v hv₂ hv hopn] at hst
      exact hgone hst
    · rfl
    · rfl
    · exact update_self _ _ _
  · apply h.other hv'
    · exact stored_of_drop rfl
    · apply feeds_of
      intro r₂ v₂ hst hv₂ hopen hbuffer
      exact ⟨stored_of_drop rfl hst, v₂, hv₂, hopen, hbuffer⟩
    · exact id
    · rfl
    · rfl
    · exact update_of_ne hr _ _

theorem LocalQueued.relayHold (hopen : v.isOpen = false) : LocalQueued (f.relayHeld r v p) := by
  have hfeeds : ∀ buffer, Feeds (f.relayHeld r v p) buffer → f.Feeds buffer := by
    intro buffer
    apply feeds_of
    intro r₂ v₂ hst hv₂ hopen₂ hbuffer
    rcases update_cases hv₂ with ⟨hr₂, hnew⟩ | ⟨_, hold⟩
    · rw [← some.inj hnew] at hbuffer
      rw [hr₂] at hst ⊢
      exact ⟨hst, v, hv, hopen, hbuffer⟩
    · exact ⟨hst, v₂, hold, hopen₂, hbuffer⟩
  intro r' v' hv'
  by_cases hr : r' = v.opening
  · rw [hr] at hv' ⊢
    by_cases hbuffer : v'.buffer = v.buffer
    · have hlive : f.Stored v.opening ∨ f.Feeds v'.buffer :=
        .inr ⟨r, v, ⟨s, hget⟩, hv, hopen, hbuffer.symm⟩
      have hclosed : ¬ (f.Stored v.opening ∧ f.Connected v.opening) := by
        rintro ⟨⟨s', hget'⟩, _⟩
        exact hw.superseded r v s' hv hget'
      have hq := ((h v.opening v' hv').hold hlive hclosed p).mono (Or.imp id (hfeeds v'.buffer)) id
      rw [hbuffer] at hq ⊢
      unfold relayHeld receive
      dsimp only
      rw [update_self, update_self]
      exact hq
    · apply h.relayMiss hw hv hv' p
      · exact id
      · intro hf
        obtain ⟨r₂, v₂, _, hv₂, _, hbuffer₂⟩ := hfeeds _ hf
        have hopn := hw.shared_buffer _ r₂ v' v₂ hv' hv₂ hbuffer₂.symm
        rw [hw.relay_unique r₂ r v₂ v hv₂ hv hopn] at hv₂
        rw [some.inj (hv.symm.trans hv₂)] at hbuffer
        exact hbuffer hbuffer₂.symm
      · rfl
      · exact update_of_ne hbuffer _ _
      · exact update_self _ _ _
  · have hbuffer : v'.buffer ≠ v.buffer := fun heq =>
      hr (hw.shared_buffer r' r v' v hv' hv heq).symm
    apply h.other hv'
    · exact id
    · exact hfeeds _
    · exact id
    · rfl
    · exact update_of_ne hbuffer _ _
    · exact update_of_ne hr _ _

end

end

theorem LocalQueued.relayOpen (h : LocalQueued f) {v : RelayView} (hopen : v.isOpen = true)
    (hrelays : f'.relays = update f.relays r (some v)) (hstreams : f'.streams = f.streams)
    (hlocals : f'.locals = f.locals) (hsockets : f'.sockets = f.sockets)
    (hwr : f'.localWrites = f.localWrites)
    (hbuffers : ∀ r l, f.locals r = some l → f'.buffers l.buffer = f.buffers l.buffer)
    (hrecv : f'.received = f.received) : LocalQueued f' := by
  have hst : ∀ x, f'.Stored x → f.Stored x := by
    rintro x ⟨s, hget⟩
    rw [hstreams] at hget
    exact ⟨s, hget⟩
  intro r' l hl
  rw [hlocals] at hl
  apply h.other hl
  · exact hst r'
  · apply feeds_of
    intro r₂ v₂ hst₂ hv₂ hclosed hbuffer
    rw [hrelays] at hv₂
    rcases update_cases hv₂ with ⟨_, hnew⟩ | ⟨_, hold⟩
    · rw [← some.inj hnew, hopen] at hclosed
      exact nomatch hclosed
    · exact ⟨hst r₂ hst₂, v₂, hold, hclosed, hbuffer⟩
  · rintro ⟨k, hk⟩
    rw [hsockets] at hk
    exact ⟨k, hk⟩
  · rw [hwr]
  · exact hbuffers r' l hl
  · rw [hrecv]

/-- Every move that does not overtake keeps what is queued. -/
theorem LocalQueued.move (h : LocalQueued f) (hw : Wired f) (ht : Tagged f)
    (hm : Move overtakes steals f f') (hno : ¬ overtakes) : LocalQueued f' := by
  cases hm with
  | calm hm => exact h.calm hm
  | reserve s hfree => exact h.reserve hw ht s
  | dial r v hv => exact h.dial hv
  | connect k r c v hk hv hheld => exact h.connect hv hheld
  | flush k r c v hk hv => exact h.flush hw hv
  | write s r v p hget hv hp hovertakes =>
    have hheld : f.buffers v.buffer = [] := by
      by_contra hne
      exact hno (hovertakes hne)
    exact h.write hw p hget hv hheld
  | hold s r v p hget hv hp hsocket hcap => exact h.hold hw p hget hv hsocket
  | overflow s r v p hget hv hp => exact h.overflow hw p hget hv
  | swap s r v hget hv hsteals => exact h.swap hw hget hv
  | relayWrite s r v ws p hget hv hp hopen hws => exact h.relayWrite hw _ p hv hopen
  | relayHold s r v p hget hv hp hopen hcap => exact h.relayHold hw p hget hv hopen
  | relayOverflow s r v p hget hv hp => exact h.relayOverflow hw p hget hv
  | relayOpen r v hv hheld =>
    exact h.relayOpen (v := { v with isOpen := true }) rfl rfl rfl rfl rfl rfl
      (fun _ _ _ => rfl) rfl
  | relayFlush r v ws hv hws =>
    have hbuffers : ∀ r' l, f.locals r' = some l →
        update f.buffers f.fresh [] l.buffer = f.buffers l.buffer := by
      intro r' l hl
      have hnamed := hw.local_named r' l hl
      exact update_of_ne (by omega) _ _
    exact h.relayOpen (v := { v with isOpen := true, buffer := f.fresh, bytes := 0 }) rfl rfl rfl
      rfl rfl rfl hbuffers rfl

end Flow

namespace PilotTunnelBridge

/-- The bytes of every local state are written in the order they came. -/
def LocalOrdered (b : PilotTunnelBridge) : Prop :=
  ∀ r v, b.localAt r = some v → InOrder (b.flow.Stored r) (b.flow.Connected r) (b.localWrites r)
    (b.buffers v.buffer) (b.received r)

/-- What a step that does not overtake keeps. -/
structure LocalSound (b : PilotTunnelBridge) : Prop where
  laid : Laid b
  queued : b.flow.LocalQueued

variable {b : PilotTunnelBridge}

/-- Local bytes are in order. -/
theorem LocalSound.ordered (h : LocalSound b) : LocalOrdered b := by
  intro r v hv
  have hq := (h.queued r v hv).inOrder
  exact ⟨fun hl => hq.none_lost (.inl hl), fun hl hc => hq.none_held (.inl hl) ⟨hl, hc⟩, hq.initial⟩

/-- Short of an overtake, order stays. -/
theorem LocalSound.step (h : LocalSound b) (e : BridgeEvent) (hno : ¬ Overtakes b e) :
    LocalSound (step b e) := by
  have hall := (moves_step h.laid.wired e).keep (fun f => (f.Wired ∧ f.Tagged) ∧ f.LocalQueued)
    (fun f f' hf hm => ⟨⟨hf.1.1.move hm, hf.1.2.move hf.1.1 hm⟩,
      hf.2.move hf.1.1 hf.1.2 hm hno⟩) ⟨⟨h.laid.wired, h.laid.tagged⟩, h.queued⟩
  exact ⟨⟨hall.1.1, hall.1.2⟩, hall.2⟩

/-- A frame that overtakes is written before what is held. -/
theorem not_localOrdered_of_overtakes (h : LocalSound b) {e : BridgeEvent} (hbad : Overtakes b e) :
    ¬ LocalOrdered (Mesh.step b e) := by
  cases e with
  | binary frame =>
    cases frame with
    | tcpData s bytes =>
      obtain ⟨hclosed, r, v, hget, hv, hsocket, hheld⟩ := hbad
      obtain ⟨o, hobject, hstate, hopn⟩ := object_of_localAt hv
      obtain ⟨k, hk⟩ := ne_none_iff_exists'.mp hsocket
      rw [hk] at hstate
      have hr := (h.laid.wired.local_named r v hv).2.2
      have hst : b.stored s = some (r, o) := by
        unfold stored
        rw [hget]
        change (b.objects r).map _ = _
        rw [hobject]
        rfl
      have hframe := flow_dialed (b := b) (s := s) (r := r) hstate bytes
      have hstep : (Mesh.step b (.binary (.tcpData s bytes))).flow =
          { (b.handleTcpData s r o bytes).flow with
            arrivals := (b.handleTcpData s r o bytes).arrivals + 1 } := by
        simp only [Mesh.step, hclosed, Bool.false_eq_true, if_false, binaryFrame,
          handleBinaryFrame, hst]
        rfl
      rw [hframe, hopn, hr] at hstep
      intro hordered
      have horder := hordered r v (by
        rw [show (Mesh.step b (.binary (.tcpData s bytes))).localAt = b.localAt from
          congrArg Flow.locals hstep]
        exact hv)
      have hwr : (Mesh.step b (.binary (.tcpData s bytes))).localWrites r =
          b.localWrites r ++ [⟨b.arrivals, bytes⟩] :=
        (congrFun (congrArg Flow.localWrites hstep) r).trans (update_self _ _ _)
      have hrecv : (Mesh.step b (.binary (.tcpData s bytes))).received r =
          b.received r ++ [⟨b.arrivals, bytes⟩] :=
        (congrFun (congrArg Flow.received hstep) r).trans (update_self _ _ _)
      rw [hwr, hrecv] at horder
      have hlost := (h.queued r v hv).none_lost (.inl ⟨s, hget⟩)
      apply not_inOrder_of_overtaken hlost hheld _ horder
      intro hmem
      exact absurd (h.laid.tagged.tagged r _ hmem) (Nat.lt_irrefl _)
    | httpResBody | wsMessageBinary | other => exact hbad.elim
  | _ => exact hbad.elim

/-- Nothing was received. -/
theorem localSound_new : LocalSound new :=
  ⟨laid_new, nofun⟩

/-- In every run of a bridge the bytes of local states are written in order exactly when no frame
overtakes. -/
theorem localOrdered_iff (events : List BridgeEvent) :
    (∀ pre post, events = pre ++ post → LocalOrdered (run Mesh.step .new pre)) ↔
      ∀ pre e post, events = pre ++ e :: post → ¬ Overtakes (run Mesh.step .new pre) e :=
  good_iff localSound_new (fun _ h => h.ordered) (fun _ e h hno => h.step e hno)
    (fun _ _ h hbad => not_localOrdered_of_overtakes h hbad) events

end PilotTunnelBridge

/-! ## Both ends -/

/-- A switchboard delivers the bytes of the streams it accepts in order, and a bridge those of the
reverse streams it dials, exactly when no frame comes between the creation of a socket and its
connect while earlier bytes are held (nor, at the switchboard, for an id of the agent's half). -/
theorem delivered_in_order_iff (accepted : List SwitchboardEvent) (reversed : List BridgeEvent) :
    ((∀ pre post, accepted = pre ++ post →
        TcpStreamSwitchboard.Ordered (run TcpStreamSwitchboard.step .new pre)) ↔
      ∀ pre e post, accepted = pre ++ e :: post →
        ¬ TcpStreamSwitchboard.Overtakes (run TcpStreamSwitchboard.step .new pre) e) ∧
    ((∀ pre post, reversed = pre ++ post → PilotTunnelBridge.LocalOrdered (run step .new pre)) ↔
      ∀ pre e post, reversed = pre ++ e :: post →
        ¬ PilotTunnelBridge.Overtakes (run step .new pre) e) :=
  ⟨TcpStreamSwitchboard.ordered_iff accepted, localOrdered_iff reversed⟩

/-- Two frames around the creation of the socket, and then its connect. -/
def crossedOpen : List SwitchboardEvent :=
  [.json (.tcpOpen 1 0), .tcpData 1 [65], .dial 0 (.resolved true), .tcpData 1 [66], .dial 0 .connect]

/-- The same at a bridge. -/
def crossedReverse : List BridgeEvent :=
  [.json (.tcpOpenReverse agentReverseIdBase), .binary (.tcpData agentReverseIdBase [65]),
    .imported 3 .localNode, .resolved 3 .address, .binary (.tcpData agentReverseIdBase [66]),
    .socket 5 .connect]

/-- The second frame is written first, at both ends. -/
theorem crossed_frames_overtake :
    (((run TcpStreamSwitchboard.step .new crossedOpen).entries 0).map fun entry =>
      (entry.writes, entry.received)) = some ([⟨1, [66]⟩, ⟨0, [65]⟩], [⟨0, [65]⟩, ⟨1, [66]⟩]) ∧
    ((run step .new crossedReverse).localWrites 1, (run step .new crossedReverse).received 1) =
      ([⟨1, [66]⟩, ⟨0, [65]⟩], [⟨0, [65]⟩, ⟨1, [66]⟩]) ∧
    ¬ (∀ pre post, crossedOpen = pre ++ post →
      TcpStreamSwitchboard.Ordered (run TcpStreamSwitchboard.step .new pre)) ∧
    ¬ ∀ pre post, crossedReverse = pre ++ post →
      PilotTunnelBridge.LocalOrdered (run step .new pre) := by
  have hopen : (((run TcpStreamSwitchboard.step .new crossedOpen).entries 0).map fun entry =>
      (entry.writes, entry.received)) =
      some ([⟨1, [66]⟩, ⟨0, [65]⟩], [⟨0, [65]⟩, ⟨1, [66]⟩]) := by decide +kernel
  have hreverse : ((run step .new crossedReverse).localWrites 1,
      (run step .new crossedReverse).received 1) =
      ([⟨1, [66]⟩, ⟨0, [65]⟩], [⟨0, [65]⟩, ⟨1, [66]⟩]) := by decide +kernel
  have hcrossed : ¬ ([⟨1, [66]⟩, ⟨0, [65]⟩] : List Payload) <+: [⟨0, [65]⟩, ⟨1, [66]⟩] := by decide
  refine ⟨hopen, hreverse, ?_, ?_⟩
  · intro hall
    obtain ⟨entry, hent, hpair⟩ := map_eq_some_iff.mp hopen
    have horder := (hall crossedOpen [] (List.append_nil _).symm 0 entry hent).initial
    rw [(Prod.mk.inj hpair).1, (Prod.mk.inj hpair).2] at horder
    exact hcrossed horder
  · intro hall
    have hlocal : ((run step .new crossedReverse).localAt 1).isSome = true := by decide +kernel
    obtain ⟨v, hv⟩ := isSome_iff_exists.mp hlocal
    have horder := (hall crossedReverse [] (List.append_nil _).symm 1 v hv).initial
    exact hcrossed horder

end Sencho.Mesh

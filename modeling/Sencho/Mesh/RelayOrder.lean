import Sencho.Mesh.LocalOrder

/-!
# The bytes of a relay

A relay goes on with the buffer of its reservation and flushes it when its target opens.  What a
reservation holds is all that came for it, as long as nothing went to a local socket of its own; a
dispatch of an earlier open of the id may have dialed one.
-/

namespace Sencho.Mesh

open Verified List Option Function Handover Runs
open Streams

namespace Flow

variable {f f' : Flow} {overtakes steals : Prop}
variable {ws : List Payload} {bytes r : Nat} {v : RelayView}

/-! ## What stored states hold -/

/-- Every frame was written or is held, and the held bytes are counted. -/
structure Counted (written held arrived : List Payload) (bytes : Nat) : Prop where
  count : written.length + held.length = arrived.length
  unwritten : written = [] → held = arrived
  bytes_eq : bytes = totalBytes held
  capped : bytes ≤ streamPendingDataMaxBytes

theorem counted_nil : Counted [] [] [] 0 := ⟨rfl, fun _ => rfl, rfl, Nat.zero_le _⟩

section

variable {written held arrived : List Payload} (h : Counted written held arrived bytes)
include h

theorem Counted.write (p : Payload) : Counted (written ++ [p]) held (arrived ++ [p]) bytes where
  count := by
    have hcount := h.count
    rw [length_append, length_append]
    omega
  unwritten := fun hnil => absurd hnil (append_ne_nil_of_right_ne_nil _ (cons_ne_nil p []))
  bytes_eq := h.bytes_eq
  capped := h.capped

theorem Counted.hold {p : Payload} (hcap : bytes + p.bytes.length ≤ streamPendingDataMaxBytes) :
    Counted written (held ++ [p]) (arrived ++ [p]) (bytes + p.bytes.length) where
  count := by
    have hcount := h.count
    rw [length_append, length_append]
    omega
  unwritten := fun hnil => by rw [h.unwritten hnil]
  bytes_eq := by rw [totalBytes_concat, h.bytes_eq]
  capped := hcap

theorem Counted.flush : Counted (written ++ held) [] arrived 0 where
  count := by
    have hcount := h.count
    rw [length_append, length_nil]
    omega
  unwritten := by
    intro hnil
    obtain ⟨hwritten, hheld⟩ := append_eq_nil_iff.mp hnil
    rw [← h.unwritten hwritten, hheld]
  bytes_eq := rfl
  capped := Nat.zero_le _

end

/-- Reservations hold what came. -/
def LocalHeld (f : Flow) : Prop :=
  ∀ r v, f.locals r = some v → f.Stored r →
    Counted (f.localWrites r) (f.buffers v.buffer) (f.received r) v.bytes

/-- Relays hold what came. -/
def RelayHeld (f : Flow) : Prop :=
  ∀ r v, f.relays r = some v → f.Stored r →
    v.bytes = totalBytes (f.buffers v.buffer) ∧ v.bytes ≤ streamPendingDataMaxBytes

/-- A stored state with the same bytes. -/
theorem LocalHeld.other (h : LocalHeld f) {v : LocalView} (hv : f.locals r = some v)
    (hst : f.Stored r) (hwr : f'.localWrites r = f.localWrites r)
    (hbuffer : f'.buffers v.buffer = f.buffers v.buffer) (hrecv : f'.received r = f.received r) :
    Counted (f'.localWrites r) (f'.buffers v.buffer) (f'.received r) v.bytes := by
  rw [hwr, hbuffer, hrecv]
  exact h r v hv hst

/-- A frame of a relay leaves the stored local states alone. -/
theorem LocalHeld.relayed (h : LocalHeld f) (hw : Wired f) (hv : f.relays r = some v)
    (hst : ∀ x, f'.Stored x → f.Stored x) (hlocals : f'.locals = f.locals)
    (hwr : f'.localWrites = f.localWrites)
    (hbuffers : ∀ x, x ≠ v.buffer → f'.buffers x = f.buffers x)
    (hrecv : ∀ x, x ≠ v.opening → f'.received x = f.received x) : LocalHeld f' := by
  intro x l hl hs
  rw [hlocals] at hl
  have hopn : x ≠ v.opening := by
    rintro rfl
    obtain ⟨s, hget⟩ := hst _ hs
    exact hw.superseded r v s hv hget
  apply h.other hl (hst x hs)
  · rw [hwr]
  · apply hbuffers
    intro hbuffer
    exact hopn (hw.shared_buffer x r l v hl hv hbuffer).symm
  · exact hrecv x hopn

theorem LocalHeld.move (h : LocalHeld f) (hw : Wired f) (ht : Tagged f)
    (hm : Move overtakes steals f f') : LocalHeld f' := by
  cases hm with
  | calm hm =>
    intro r' v' hv' hs'
    rw [hm.locals] at hv'
    obtain ⟨s, hget⟩ := hs'
    apply h.other hv' ⟨s, hm.keeps.stored hget (.inl ⟨v', hv'⟩)⟩
    · rw [hm.localWrites]
    · rw [hm.buffers]
    · rw [hm.received]
  | reserve s hfree =>
    intro r' v' hv' hs'
    rcases update_cases hv' with ⟨hr, hnew⟩ | ⟨hr, hold⟩
    · rw [hr, ← some.inj hnew]
      dsimp only
      rw [update_self, update_self, (ht.blank (f.fresh + 1) (Nat.le_succ _)).2]
      exact counted_nil
    · have hnamed := hw.local_named r' v' hold
      apply h.other hold (stored_of_put rfl hr hs')
      · rfl
      · exact update_of_ne (by omega) _ _
      · exact update_of_ne hr _ _
  | dial r v hv =>
    intro r' v' hv' hs'
    rcases update_cases hv' with ⟨hr, hnew⟩ | ⟨_, hold⟩
    · rw [hr] at hs' ⊢
      rw [← some.inj hnew]
      exact h r v hv hs'
    · exact h r' v' hold hs'
  | connect k r c v hk hv hheld | relayOpen r v hv hheld =>
    intro r' v' hv' hs'
    exact h r' v' hv' hs'
  | flush k r c v hk hv =>
    intro r' v' hv' hs'
    rcases update_cases hv' with ⟨hr, hnew⟩ | ⟨hr, hold⟩
    · rw [hr] at hs' ⊢
      rw [← some.inj hnew]
      dsimp only
      rw [update_self, update_self]
      exact (h r v hv hs').flush
    · have hnamed := hw.local_named r' v' hold
      apply h.other hold hs'
      · exact update_of_ne hr _ _
      · exact update_of_ne (by omega) _ _
      · rfl
  | write s r v p hget hv hp hovertakes =>
    intro r' v' hv' hs'
    have hopn := (hw.local_named r v hv).2.2
    by_cases hr : r' = r
    · rw [hr] at hv' ⊢
      have hsame : v' = v := some.inj (hv'.symm.trans hv)
      unfold receive
      dsimp only
      rw [hsame, hopn, update_self, update_self]
      exact (h r v hv ⟨s, hget⟩).write p
    · apply h.other hv' hs'
      · exact update_of_ne hr _ _
      · rfl
      · exact update_of_ne (by rw [hopn]; exact hr) _ _
  | hold s r v p hget hv hp hsocket hcap =>
    intro r' v' hv' hs'
    have hopn := (hw.local_named r v hv).2.2
    rcases update_cases hv' with ⟨hr, hnew⟩ | ⟨hr, hold⟩
    · rw [hr, ← some.inj hnew]
      unfold receive
      rw [hopn]
      dsimp only
      rw [update_self, update_self]
      exact (h r v hv ⟨s, hget⟩).hold hcap
    · apply h.other hold hs'
      · rfl
      · exact update_of_ne (fun heq => hr (hw.local_buffer r' r v' v hold hv heq)) _ _
      · exact update_of_ne (by rw [hopn]; exact hr) _ _
  | overflow s r v p hget hv hp =>
    intro r' v' hv' hs'
    have hopn := (hw.local_named r v hv).2.2
    have hr : r' ≠ r := by
      rintro rfl
      exact hw.not_stored hget (.inl ⟨v, hv⟩) rfl hs'
    apply h.other hv' (stored_of_drop rfl hs')
    · rfl
    · rfl
    · exact update_of_ne (by rw [hopn]; exact hr) _ _
  | swap s r v hget hv hsteals =>
    intro r' v' hv' hs'
    rcases update_cases hv' with ⟨_, hnone⟩ | ⟨hr, hold⟩
    · exact nomatch hnone
    · exact h r' v' hold (stored_of_put rfl hr hs')
  | relayWrite s r v ws p hget hv hp hopen hws =>
    apply h.relayed hw hv
    · exact fun _ hs' => hs'
    · rfl
    · rfl
    · exact fun _ _ => rfl
    · exact fun x hx => update_of_ne hx _ _
  | relayHold s r v p hget hv hp hopen hcap =>
    apply h.relayed hw hv
    · exact fun _ hs' => hs'
    · rfl
    · rfl
    · exact fun x hx => update_of_ne hx _ _
    · exact fun x hx => update_of_ne hx _ _
  | relayOverflow s r v p hget hv hp =>
    apply h.relayed hw hv
    · exact fun _ hs' => stored_of_drop rfl hs'
    · rfl
    · rfl
    · exact fun _ _ => rfl
    · exact fun x hx => update_of_ne hx _ _
  | relayFlush r v ws hv hws =>
    intro r' v' hv' hs'
    have hnamed := hw.local_named r' v' hv'
    apply h.other hv' hs'
    · rfl
    · exact update_of_ne (by omega) _ _
    · rfl

/-- A stored relay with the same bytes. -/
theorem RelayHeld.other (h : RelayHeld f) (hv : f.relays r = some v) (hst : f.Stored r)
    (hbuffer : f'.buffers v.buffer = f.buffers v.buffer) :
    v.bytes = totalBytes (f'.buffers v.buffer) ∧ v.bytes ≤ streamPendingDataMaxBytes := by
  rw [hbuffer]
  exact h r v hv hst

theorem RelayHeld.move (h : RelayHeld f) (hl : LocalHeld f) (hw : Wired f)
    (hm : Move overtakes steals f f') : RelayHeld f' := by
  intro r' v' hv' hs'
  cases hm with
  | calm hm =>
    rw [hm.relays] at hv'
    obtain ⟨s, hget⟩ := hs'
    rw [hm.buffers]
    exact h r' v' hv' ⟨s, hm.keeps.stored hget (.inr ⟨v', hv'⟩)⟩
  | reserve s hfree =>
    rcases update_cases hv' with ⟨_, hnone⟩ | ⟨hr, hold⟩
    · exact nomatch hnone
    · have hnamed := hw.relay_named r' v' hold
      apply h.other hold (stored_of_put rfl hr hs')
      exact update_of_ne (by omega) _ _
  | dial r v hv | connect k r c v hk hv hheld => exact h r' v' hv' hs'
  | flush k r c v hk hv =>
    have hnamed := hw.relay_named r' v' hv'
    apply h.other hv' hs'
    exact update_of_ne (by omega) _ _
  | write s r v p hget hv hp hovertakes => exact h r' v' hv' hs'
  | hold s r v p hget hv hp hsocket hcap =>
    apply h.other hv' hs'
    exact update_of_ne (hw.not_feeds hget hv hv') _ _
  | overflow s r v p hget hv hp | relayOverflow s r v p hget hv hp =>
    exact h r' v' hv' (stored_of_drop rfl hs')
  | swap s r v hget hv hsteals =>
    rcases update_cases hv' with ⟨_, hnew⟩ | ⟨hr, hold⟩
    · have hcounted := hl r v hv ⟨s, hget⟩
      rw [← some.inj hnew]
      exact ⟨hcounted.bytes_eq, hcounted.capped⟩
    · exact h r' v' hold (stored_of_put rfl hr hs')
  | relayWrite s r v ws p hget hv hp hopen hws => exact h r' v' hv' hs'
  | relayHold s r v p hget hv hp hopen hcap =>
    rcases update_cases hv' with ⟨hr, hnew⟩ | ⟨hr, hold⟩
    · rw [← some.inj hnew]
      dsimp only
      rw [update_self, totalBytes_concat, ← (h r v hv ⟨s, hget⟩).1]
      exact ⟨rfl, hcap⟩
    · apply h.other hold hs'
      exact update_of_ne (fun heq => hr (hw.relay_buffer r' r v' v hold hv heq)) _ _
  | relayOpen r v hv hheld =>
    rcases update_cases hv' with ⟨hr, hnew⟩ | ⟨_, hold⟩
    · rw [hr] at hs'
      rw [← some.inj hnew]
      exact h r v hv hs'
    · exact h r' v' hold hs'
  | relayFlush r v ws hv hws =>
    rcases update_cases hv' with ⟨_, hnew⟩ | ⟨_, hold⟩
    · rw [← some.inj hnew]
      dsimp only
      rw [update_self]
      exact ⟨rfl, Nat.zero_le _⟩
    · have hnamed := hw.relay_named r' v' hold
      apply h.other hold hs'
      exact update_of_ne (by omega) _ _

/-! ## What relays write -/

/-- What relays hold is still to be written, and nothing is held once one is open. -/
def RelayQueued (f : Flow) : Prop :=
  ∀ r v ws, f.relays r = some v → f.targets v.target = some ws →
    Queued (f.Stored r) (v.isOpen = true) ws (f.buffers v.buffer) (f.received v.opening)

section

variable (h : RelayQueued f)
include h

/-- A relay with the same bytes, which is stored only if it was. -/
theorem RelayQueued.other (hv : f.relays r = some v) (hws : f.targets v.target = some ws)
    (hst : f'.Stored r → f.Stored r) (hbuffer : f'.buffers v.buffer = f.buffers v.buffer)
    (hrecv : f'.received v.opening = f.received v.opening) :
    Queued (f'.Stored r) (v.isOpen = true) ws (f'.buffers v.buffer) (f'.received v.opening) := by
  rw [hbuffer, hrecv]
  exact (h r v ws hv hws).mono hst id

/-- A frame of a stored local state is no relay's. -/
theorem RelayQueued.local (hw : Wired f) {s : Nat} {v : LocalView} (hget : f.streams s = some r)
    (hv : f.locals r = some v) (hst : ∀ x, f'.Stored x → f.Stored x)
    (hrelays : f'.relays = f.relays) (htargets : f'.targets = f.targets)
    (hbuffers : ∀ x, x ≠ v.buffer → f'.buffers x = f.buffers x)
    (hrecv : ∀ x, x ≠ v.opening → f'.received x = f.received x) : RelayQueued f' := by
  intro r' v' ws' hv' hws'
  rw [hrelays] at hv'
  rw [htargets] at hws'
  apply h.other hv' hws' (hst r')
  · exact hbuffers _ (hw.not_feeds hget hv hv')
  · apply hrecv
    intro hopn
    rw [(hw.local_named r v hv).2.2] at hopn
    exact hw.superseded r' v' s hv' (by rw [hopn]; exact hget)

theorem RelayQueued.calm (hm : Calm f f') : RelayQueued f' := by
  intro r v ws hv hws
  rw [hm.relays] at hv
  rw [hm.targets] at hws
  apply h.other hv hws
  · rintro ⟨s, hget⟩
    exact ⟨s, hm.keeps.stored hget (.inr ⟨v, hv⟩)⟩
  · rw [hm.buffers]
  · rw [hm.received]

theorem RelayQueued.reserve (hw : Wired f) (s : Nat) : RelayQueued (f.reserved s) := by
  intro r v ws hv hws
  rcases update_cases hv with ⟨_, hnone⟩ | ⟨hr, hold⟩
  · exact nomatch hnone
  have hnamed := hw.relay_named r v hold
  obtain ⟨l, hl⟩ := hw.relay_opening r v hold
  have hopn := (hw.local_named _ l hl).1
  apply h.other hold hws
  · exact stored_of_put rfl hr
  · exact update_of_ne (by omega) _ _
  · exact update_of_ne (by omega) _ _

/-- A relay starts with all that came for its reservation, if nothing of it was written. -/
theorem RelayQueued.swap (hl : LocalHeld f) (hw : Wired f) {s : Nat} {v : LocalView}
    (hget : f.streams s = some r) (hv : f.locals r = some v) (hwr : f.localWrites r = []) :
    RelayQueued (f.swapped s v) := by
  have hopn := (hw.local_named r v hv).2.2
  have hheld := (hl r v hv ⟨s, hget⟩).unwritten hwr
  intro r' v' ws' hv' hws'
  rcases update_cases hv' with ⟨_, hnew⟩ | ⟨hr, hold⟩
  · rw [← some.inj hnew] at hws' ⊢
    rcases update_cases hws' with ⟨_, hnil⟩ | ⟨hne, _⟩
    · rw [← some.inj hnil]
      unfold swapped
      rw [hopn, hheld]
      exact ⟨fun _ => rfl, fun hopen => (nomatch hopen), prefix_refl _⟩
    · exact absurd rfl hne
  · have hnamed := hw.relay_named r' v' hold
    rcases update_cases hws' with ⟨htarget, _⟩ | ⟨_, hws⟩
    · exact absurd htarget (by omega)
    · apply h.other hold hws
      · exact stored_of_put rfl hr
      · rfl
      · rfl

theorem RelayQueued.relayWrite (hw : Wired f) {s : Nat} (p : Payload) (hget : f.streams s = some r)
    (hv : f.relays r = some v) (hopen : v.isOpen = true) (hws : f.targets v.target = some ws) :
    RelayQueued { f.receive v.opening p with
      targets := update f.targets v.target (some (ws ++ [p]))
      arrivals := f.arrivals + 1 } := by
  have hq := h r v ws hv hws
  intro r' v' ws' hv' hws'
  rcases update_cases hws' with ⟨htarget, hnew⟩ | ⟨htarget, hold⟩
  · have hr := hw.target_unique r' r v' v hv' hv htarget
    rw [hr] at hv' ⊢
    rw [← some.inj (hv.symm.trans hv'), ← some.inj hnew]
    unfold receive
    dsimp only
    rw [update_self]
    exact hq.pass ⟨s, hget⟩ (hq.none_held hopen) p
  · have hopn : v'.opening ≠ v.opening := by
      intro heq
      have hr := hw.relay_unique r' r v' v hv' hv heq
      rw [hr] at hv'
      exact htarget (congrArg RelayView.target (some.inj (hv'.symm.trans hv)))
    apply h.other hv' hold
    · exact id
    · rfl
    · exact update_of_ne hopn _ _

theorem RelayQueued.relayHold (hw : Wired f) {s : Nat} (p : Payload) (hget : f.streams s = some r)
    (hv : f.relays r = some v) (hopen : v.isOpen = false) : RelayQueued (f.relayHeld r v p) := by
  intro r' v' ws' hv' hws'
  rcases update_cases hv' with ⟨hr, hnew⟩ | ⟨hr, hold⟩
  · rw [← some.inj hnew] at hws' ⊢
    rw [hr]
    unfold relayHeld receive
    dsimp only
    rw [update_self, update_self]
    exact (h r v ws' hv hws').hold ⟨s, hget⟩ (by rw [hopen]; exact Bool.false_ne_true) p
  · apply h.other hold hws'
    · exact id
    · exact update_of_ne (fun heq => hr (hw.relay_buffer r' r v' v hold hv heq)) _ _
    · exact update_of_ne (fun heq => hr (hw.relay_unique r' r v' v hold hv heq)) _ _

theorem RelayQueued.relayOverflow (hw : Wired f) {s : Nat} (p : Payload)
    (hget : f.streams s = some r) (hv : f.relays r = some v) :
    RelayQueued (f.overflowed s v.opening p) := by
  have hgone : ¬ Stored (f.overflowed s v.opening p) r := hw.not_stored hget (.inr ⟨v, hv⟩) rfl
  intro r' v' ws' hv' hws'
  by_cases hr : r' = r
  · rw [hr] at hv' ⊢
    have hsame : v' = v := some.inj (hv'.symm.trans hv)
    rw [hsame] at hws' ⊢
    unfold overflowed receive
    dsimp only
    rw [update_self]
    exact (h r v ws' hv hws').miss hgone p
  · apply h.other hv' hws'
    · exact stored_of_drop rfl
    · rfl
    · exact update_of_ne (fun heq => hr (hw.relay_unique r' r v' v hv' hv heq)) _ _

theorem RelayQueued.relayOpen (hv : f.relays r = some v) (hheld : f.buffers v.buffer = []) :
    RelayQueued { f with relays := update f.relays r (some { v with isOpen := true }) } := by
  intro r' v' ws' hv' hws'
  rcases update_cases hv' with ⟨hr, hnew⟩ | ⟨_, hold⟩
  · rw [← some.inj hnew] at hws' ⊢
    rw [hr]
    have hq := h r v ws' hv hws'
    exact ⟨hq.none_lost, fun _ => hheld, hq.initial⟩
  · exact h r' v' ws' hold hws'

theorem RelayQueued.relayFlush (hw : Wired f) (hv : f.relays r = some v)
    (hws : f.targets v.target = some ws) :
    RelayQueued { f with
      targets := update f.targets v.target (some (ws ++ f.buffers v.buffer))
      relays := update f.relays r (some { v with isOpen := true, buffer := f.fresh, bytes := 0 })
      buffers := update f.buffers f.fresh []
      fresh := f.fresh + 1 } := by
  intro r' v' ws' hv' hws'
  rcases update_cases hv' with ⟨hr, hnew⟩ | ⟨hr, hold⟩
  · rw [← some.inj hnew] at hws' ⊢
    rcases update_cases hws' with ⟨_, hwritten⟩ | ⟨hne, _⟩
    · rw [hr, ← some.inj hwritten]
      dsimp only
      rw [update_self]
      exact (h r v ws hv hws).flush
    · exact absurd rfl hne
  · have hnamed := hw.relay_named r' v' hold
    rcases update_cases hws' with ⟨htarget, _⟩ | ⟨_, hws''⟩
    · exact absurd (hw.target_unique r' r v' v hold hv htarget) hr
    · apply h.other hold hws''
      · exact id
      · exact update_of_ne (by omega) _ _
      · rfl

/-- Every move that does not steal keeps what relays have queued. -/
theorem RelayQueued.move (hl : LocalHeld f) (hw : Wired f) (hm : Move overtakes steals f f')
    (hno : ¬ steals) : RelayQueued f' := by
  cases hm with
  | calm hm => exact h.calm hm
  | reserve s hfree => exact h.reserve hw s
  | dial r v hv | connect k r c v hk hv hheld => exact h
  | flush k r c v hk hv =>
    intro r' v' ws' hv' hws'
    have hnamed := hw.relay_named r' v' hv'
    apply h.other hv' hws'
    · exact id
    · exact update_of_ne (by omega) _ _
    · rfl
  | write s r v p hget hv hp hovertakes =>
    apply h.local hw hget hv
    · exact fun _ hs => hs
    · rfl
    · rfl
    · exact fun _ _ => rfl
    · exact fun x hx => update_of_ne hx _ _
  | hold s r v p hget hv hp hsocket hcap =>
    apply h.local hw hget hv
    · exact fun _ hs => hs
    · rfl
    · rfl
    · exact fun x hx => update_of_ne hx _ _
    · exact fun x hx => update_of_ne hx _ _
  | overflow s r v p hget hv hp =>
    apply h.local hw hget hv
    · exact fun _ hs => stored_of_drop rfl hs
    · rfl
    · rfl
    · exact fun _ _ => rfl
    · exact fun x hx => update_of_ne hx _ _
  | swap s r v hget hv hsteals =>
    have hwr : f.localWrites r = [] := by
      by_contra hne
      exact hno (hsteals hne)
    exact h.swap hl hw hget hv hwr
  | relayWrite s r v ws p hget hv hp hopen hws => exact h.relayWrite hw p hget hv hopen hws
  | relayHold s r v p hget hv hp hopen hcap => exact h.relayHold hw p hget hv hopen
  | relayOverflow s r v p hget hv hp => exact h.relayOverflow hw p hget hv
  | relayOpen r v hv hheld => exact h.relayOpen hv hheld
  | relayFlush r v ws hv hws => exact h.relayFlush hw hv hws

end

end Flow

namespace PilotTunnelBridge

/-- The bytes of every relay are written to its target in the order they came. -/
def RelayOrdered (b : PilotTunnelBridge) : Prop :=
  ∀ r v target, b.relayAt r = some v → b.targets v.target = some target →
    InOrder (b.flow.Stored r) (v.isOpen = true) target.writes (b.buffers v.buffer)
      (b.received v.opening)

/-- What is held for a stored reservation or relay stays under the cap. -/
def Capped (b : PilotTunnelBridge) : Prop :=
  ∀ s r, b.streams.get? s = some r →
    (∀ v, b.localAt r = some v → totalBytes (b.buffers v.buffer) ≤ streamPendingDataMaxBytes) ∧
    ∀ v, b.relayAt r = some v → totalBytes (b.buffers v.buffer) ≤ streamPendingDataMaxBytes

/-- What every step keeps. -/
structure Held (f : Flow) : Prop where
  wired : f.Wired
  tagged : f.Tagged
  locals : f.LocalHeld
  relays : f.RelayHeld

theorem Held.move {f f' : Flow} {overtakes steals : Prop} (h : Held f)
    (hm : Flow.Move overtakes steals f f') : Held f' :=
  ⟨h.wired.move hm, h.tagged.move h.wired hm, h.locals.move h.wired h.tagged hm,
    h.relays.move h.locals h.wired hm⟩

/-- What a step that does not steal keeps. -/
structure RelaySound (b : PilotTunnelBridge) : Prop where
  held : Held b.flow
  queued : b.flow.RelayQueued

variable {b : PilotTunnelBridge}

/-- Relayed bytes are in order. -/
theorem RelaySound.ordered (h : RelaySound b) : RelayOrdered b := by
  intro r v target hv htarget
  have hws : b.flow.targets v.target = some target.writes := by
    change (b.targets v.target).map _ = _
    rw [htarget]
    rfl
  exact (h.queued r v target.writes hv hws).inOrder

/-- What is held is within the cap. -/
theorem Held.capped (h : Held b.flow) : Capped b := by
  intro s r hget
  constructor
  · intro v hv
    have hcounted := h.locals r v hv ⟨s, hget⟩
    exact hcounted.bytes_eq ▸ hcounted.capped
  · intro v hv
    have hheld := h.relays r v hv ⟨s, hget⟩
    exact hheld.1 ▸ hheld.2

/-- Short of a theft, order stays. -/
theorem RelaySound.step (h : RelaySound b) (e : BridgeEvent) (hno : ¬ Steals b e) :
    RelaySound (Mesh.step b e) := by
  have hall := (moves_step h.held.wired e).keep (fun f => Held f ∧ f.RelayQueued)
    (fun f f' hf hm => ⟨hf.1.move hm, hf.2.move hf.1.locals hf.1.wired hm hno⟩)
    ⟨h.held, h.queued⟩
  exact ⟨hall.1, hall.2⟩

/-- A relay that steals lacks what went to the local socket. -/
theorem not_relayOrdered_of_steals (h : RelaySound b) {e : BridgeEvent} (hbad : Steals b e) :
    ¬ RelayOrdered (Mesh.step b e) := by
  cases e with
  | ensured n ensured =>
    cases ensured with
    | stream =>
      obtain ⟨d, r, v, hd, hstage, hget, hv, hwr⟩ := hbad
      have hswap := flow_swap (n := n) hget hv
      have hstep : Mesh.step b (.ensured n .stream) = b.resumeEnsureBridge n d r .stream := by
        simp only [Mesh.step, dispatchEvent, hd, onEnsured, hstage]
      rw [← hstep] at hswap
      intro hordered
      have hrelay : (Mesh.step b (.ensured n .stream)).relayAt (b.fresh + 1) =
          some ⟨b.fresh, false, v.buffer, v.bytes, v.opening⟩ :=
        (congrFun (congrArg Flow.relays hswap) _).trans (update_self _ _ _)
      have htargets : (Mesh.step b (.ensured n .stream)).flow.targets b.fresh = some [] :=
        (congrFun (congrArg Flow.targets hswap) _).trans (update_self _ _ _)
      obtain ⟨target, htarget, hnil⟩ := target_of_flow htargets
      have hst : (Mesh.step b (.ensured n .stream)).flow.Stored (b.fresh + 1) :=
        ⟨d.stream, (congrFun (congrArg Flow.streams hswap) _).trans (update_self _ _ _)⟩
      have hbuffers : (Mesh.step b (.ensured n .stream)).buffers = b.buffers :=
        congrArg Flow.buffers hswap
      have hrecv : (Mesh.step b (.ensured n .stream)).received = b.received :=
        congrArg Flow.received hswap
      have hlost := (hordered _ _ target hrelay htarget).none_lost hst
      have hcount := (h.held.locals r v hv ⟨d.stream, hget⟩).count
      have hopn := (h.held.wired.local_named r v hv).2.2
      dsimp only at hlost
      rw [hnil, nil_append, hbuffers, hrecv, hopn] at hlost
      change (b.localWrites r).length + (b.buffers v.buffer).length =
        (b.received r).length at hcount
      rw [hlost] at hcount
      exact hwr (length_eq_zero_iff.mp (by omega))
    | noStream | noBridge | failed => exact hbad.elim
  | _ => exact hbad.elim

/-- Nothing was received. -/
theorem relaySound_new : RelaySound PilotTunnelBridge.new :=
  ⟨⟨laid_new.wired, laid_new.tagged, nofun, nofun⟩, nofun⟩

/-- In every run of a bridge the bytes of each relay are written to its target in order, and what
is held stays under the cap, exactly when no relay takes the place of a state that was dialed and
written to. -/
theorem relayed_in_order_iff (events : List BridgeEvent) : (∀ pre post, events = pre ++ post →
        RelayOrdered (run Mesh.step .new pre) ∧ Capped (run Mesh.step .new pre)) ↔
      ∀ pre e post, events = pre ++ e :: post → ¬ Steals (run Mesh.step .new pre) e :=
  good_iff relaySound_new (fun b h => (⟨h.ordered, h.held.capped⟩ : RelayOrdered b ∧ Capped b))
    (fun _ e h hno => h.step e hno)
    (fun _ _ h hbad hgood => not_relayOrdered_of_steals h hbad hgood.1) events

/-- An id that is closed and opened again for another node before its first dispatch goes on. -/
def reopened : List BridgeEvent :=
  [.json (.tcpOpenReverse agentReverseIdBase), .json (.tcpClose agentReverseIdBase),
    .json (.tcpOpenReverse agentReverseIdBase), .imported 3 .localNode, .imported 7 .otherNode,
    .resolved 3 .address, .binary (.tcpData agentReverseIdBase [65]), .ensured 7 .stream,
    .binary (.tcpData agentReverseIdBase [66]), .target 10 .open]

/-- The relay writes the second frame only. -/
theorem reopened_loses : (((run Mesh.step .new reopened).targets 10).map (·.writes),
      (run Mesh.step .new reopened).received 5, (run Mesh.step .new reopened).localWrites 5) =
      (some [⟨1, [66]⟩], [⟨0, [65]⟩, ⟨1, [66]⟩], [⟨0, [65]⟩]) ∧
    ¬ ∀ pre post, reopened = pre ++ post →
      RelayOrdered (run Mesh.step .new pre) ∧ Capped (run Mesh.step .new pre) := by
  have hrun : (((run Mesh.step .new reopened).targets 10).map (·.writes),
      (run Mesh.step .new reopened).received 5, (run Mesh.step .new reopened).localWrites 5) =
      (some [⟨1, [66]⟩], [⟨0, [65]⟩, ⟨1, [66]⟩], [⟨0, [65]⟩]) := by decide +kernel
  have hrelay : ((run Mesh.step .new reopened).relayAt 11).map (fun v => (v.target, v.opening)) =
      some (10, 5) := by decide +kernel
  have hlost : ¬ ([⟨1, [66]⟩] : List Payload) <+: [⟨0, [65]⟩, ⟨1, [66]⟩] := by decide
  refine ⟨hrun, ?_⟩
  intro hall
  obtain ⟨v, hv, hpair⟩ := map_eq_some_iff.mp hrelay
  obtain ⟨htarget, hopn⟩ := Prod.mk.inj hpair
  obtain ⟨hwr, hrest⟩ := Prod.mk.inj hrun
  obtain ⟨target, htarget', hwritten⟩ := map_eq_some_iff.mp hwr
  have horder := ((hall reopened [] (append_nil _).symm).1 11 v target hv
    (by rw [htarget]; exact htarget')).initial
  rw [hwritten, hopn, (Prod.mk.inj hrest).1] at horder
  exact hlost horder

/-- Whatever the frames, the sockets and the dispatches do, what is held stays under the cap. -/
theorem held_capped (events : List BridgeEvent) : Capped (run Mesh.step .new events) := by
  have hheld : Held (run Mesh.step .new events).flow :=
    run_invariant (P := fun b : PilotTunnelBridge => Held b.flow)
      (fun _ e h => (moves_step h.wired e).keep Held (fun _ _ hf hm => hf.move hm) h)
      relaySound_new.held events
  exact hheld.capped

end PilotTunnelBridge

end Sencho.Mesh

import Sencho.Mesh.Switchboard
import Sencho.Verified.Handover
import Sencho.Verified.Breaks

/-!
# The bytes of an accepted stream

The bytes that come for a stream of the primary are held until its socket is there, and written to
the socket from then on.  What is held is flushed when the socket connects, which is later.
-/

namespace Sencho.Mesh

open Verified Option Function TcpStreamSwitchboard OrderedMap Handover Runs
open Streams

namespace TcpStreamSwitchboard

/-- An entry that is stored under some id. -/
def Live (w : TcpStreamSwitchboard) (e : Nat) : Prop := ∃ s, w.tcpStreams.get? s = some e

/-- The bytes of every stream of the primary are written in the order they came. -/
def Ordered (w : TcpStreamSwitchboard) : Prop :=
  ∀ e entry, w.entries e = some entry →
    InOrder (w.Live e) (entry.connected = true) entry.writes entry.pendingData entry.received

/-- A frame for a stored stream that has a socket while bytes are held, or whose id is in the half
of the agent. -/
def Overtakes (w : TcpStreamSwitchboard) : SwitchboardEvent → Prop
  | .tcpData s _ => ∃ e entry, w.tcpStreams.get? s = some e ∧ w.entries e = some entry ∧
      (agentReverseIdBase ≤ s ∨ (entry.socket = true ∧ entry.pendingData ≠ []))
  | _ => False

/-! ## What every step keeps -/

/-- What holds of one entry. -/
structure EntryOk (w : TcpStreamSwitchboard) (e : Nat) (entry : ForwardTcpStream) : Prop where
  queued : Queued (w.Live e) (entry.connected = true) entry.writes entry.pendingData entry.received
  tagged : ∀ p ∈ entry.received, p.arrival < w.arrivals
  dialed : entry.connected = true → entry.socket = true

/-- Every stored entry is in order. -/
structure Sound (w : TcpStreamSwitchboard) : Prop where
  entry : ∀ e entry, w.entries e = some entry → EntryOk w e entry
  stored : ∀ s e, w.tcpStreams.get? s = some e →
    ∃ entry, w.entries e = some entry ∧ entry.stream = s
  named : ∀ e entry, w.entries e = some entry → e < w.fresh

/-- A step that at most drops streams. -/
structure Drops (w w' : TcpStreamSwitchboard) : Prop where
  streams : ∀ s e, w'.tcpStreams.get? s = some e → w.tcpStreams.get? s = some e
  entries : w'.entries = w.entries
  arrivals : w.arrivals ≤ w'.arrivals
  fresh : w.fresh ≤ w'.fresh

theorem Drops.refl (w : TcpStreamSwitchboard) : Drops w w :=
  ⟨fun _ _ h => h, rfl, .refl, .refl⟩

section

variable {w w' : TcpStreamSwitchboard} (h : Drops w w')
include h

theorem Drops.trans {w'' : TcpStreamSwitchboard} (h' : Drops w' w'') :
    Drops w w'' where
  streams := fun s e hget => h.streams s e (h'.streams s e hget)
  entries := h'.entries.trans h.entries
  arrivals := Nat.le_trans h.arrivals h'.arrivals
  fresh := Nat.le_trans h.fresh h'.fresh

theorem Drops.live {e : Nat} (hlive : w'.Live e) : w.Live e := by
  obtain ⟨s, hget⟩ := hlive
  exact ⟨s, h.streams s e hget⟩

/-- Dropping keeps the order. -/
theorem Drops.sound (hs : Sound w) : Sound w' := by
  constructor
  · intro e entry hent
    rw [h.entries] at hent
    have hok := hs.entry e entry hent
    exact ⟨hok.queued.mono h.live id, fun p hp => Nat.lt_of_lt_of_le (hok.tagged p hp) h.arrivals,
      hok.dialed⟩
  · intro s e hget
    rw [h.entries]
    exact hs.stored s e (h.streams s e hget)
  · intro e entry hent
    rw [h.entries] at hent
    exact Nat.lt_of_lt_of_le (hs.named e entry hent) h.fresh

end

section Frame

variable (w : TcpStreamSwitchboard)
variable (k s : Nat)

theorem drops_send (frame : SwitchboardFrame) : Drops w (w.send frame) :=
  ⟨fun _ _ h => h, rfl, .refl, .refl⟩

theorem drops_refresh : Drops w (w.refreshIdleTimer s) :=
  ⟨fun _ _ h => h, rfl, .refl, .refl⟩

theorem drops_clear : Drops w (w.clearIdleTimer s) :=
  ⟨fun _ _ h => h, rfl, .refl, .refl⟩

theorem drops_handle (f : ReverseTcpStreamHandle → ReverseTcpStreamHandle) :
    Drops w (w.modifyHandle k f) :=
  ⟨fun _ _ h => h, rfl, .refl, .refl⟩

theorem drops_deleteForward : Drops w (w.deleteForward s) := by
  refine ⟨?_, rfl, .refl, .refl⟩
  intro s' e hget
  change (w.tcpStreams.erase s).get? s' = some e at hget
  rw [get?_erase] at hget
  by_cases hs : s' = s
  · rw [if_pos hs] at hget
    exact nomatch hget
  · rw [if_neg hs] at hget
    exact hget

theorem drops_dropForward : Drops w (w.dropForward s) :=
  (drops_deleteForward w s).trans (drops_clear _ s)

theorem drops_dropReverse : Drops w (w.dropReverse s) :=
  ⟨fun _ _ h => h, rfl, .refl, .refl⟩

theorem drops_dispatchError : Drops w (w.dispatchError k) := drops_handle w k _

theorem drops_dispatchClose : Drops w (w.dispatchClose k) := drops_handle w k _

theorem drops_dropStored : Drops w (w.dropStored s) := by
  unfold dropStored
  split
  · exact (drops_dropForward w s).trans (drops_send _ _)
  · exact Drops.refl w

end Frame

section Entries

variable {w : TcpStreamSwitchboard}
variable {entry : ForwardTcpStream} {e : Nat}

section

variable (hs : Sound w)
include hs

/-- A change of an entry after which it is as it should be. -/
theorem Sound.modify {f : ForwardTcpStream → ForwardTcpStream}
    (hf : ∀ entry, w.entries e = some entry → EntryOk w e entry →
      (f entry).stream = entry.stream ∧ EntryOk w e (f entry)) : Sound (w.modifyEntry e f) := by
  have hentries : (w.modifyEntry e f).entries = update w.entries e ((w.entries e).map f) := rfl
  constructor
  · intro e' entry' hent
    rw [hentries] at hent
    by_cases he : e' = e
    · rw [he, update_self] at hent
      obtain ⟨entry, hold, hnew⟩ := map_eq_some_iff.mp hent
      have hok := (hf entry hold (hs.entry e entry hold)).2
      rw [hnew] at hok
      rw [he]
      exact ⟨hok.queued, hok.tagged, hok.dialed⟩
    · rw [update_of_ne he] at hent
      have hok := hs.entry e' entry' hent
      exact ⟨hok.queued, hok.tagged, hok.dialed⟩
  · intro s e' hget
    obtain ⟨entry, hent, hstream⟩ := hs.stored s e' hget
    rw [hentries]
    by_cases he : e' = e
    · refine ⟨f entry, ?_, ?_⟩
      · rw [he, update_self, ← he, hent]
        rfl
      · rw [he] at hent
        rw [(hf entry hent (hs.entry e entry hent)).1, hstream]
    · exact ⟨entry, by rw [update_of_ne he]; exact hent, hstream⟩
  · intro e' entry' hent
    rw [hentries] at hent
    by_cases he : e' = e
    · rw [he, update_self] at hent
      obtain ⟨entry, hold, _⟩ := map_eq_some_iff.mp hent
      rw [he]
      exact hs.named e entry hold
    · rw [update_of_ne he] at hent
      exact hs.named e' entry' hent

/-- A change of an entry that leaves its bytes alone. -/
theorem Sound.modify_same {f : ForwardTcpStream → ForwardTcpStream}
    (hf : ∀ entry, (f entry).stream = entry.stream ∧ (f entry).connected = entry.connected ∧
      (f entry).writes = entry.writes ∧ (f entry).pendingData = entry.pendingData ∧
      (f entry).received = entry.received)
    (hsocket : ∀ entry, w.entries e = some entry → entry.connected = true →
      (f entry).socket = true) : Sound (w.modifyEntry e f) := by
  apply hs.modify
  intro entry hent hok
  obtain ⟨hstream, hconnected, hwr, hpend, hrecv⟩ := hf entry
  refine ⟨hstream, ?_, ?_, ?_⟩
  · rw [hconnected, hwr, hpend, hrecv]
    exact hok.queued
  · rw [hrecv]
    exact hok.tagged
  · rw [hconnected]
    exact hsocket entry hent

theorem Sound.destroySocket (e : Nat) : Sound (w.destroySocket e) :=
  hs.modify_same (fun _ => ⟨rfl, rfl, rfl, rfl, rfl⟩) fun entry hent hconnected =>
    (hs.entry e entry hent).dialed hconnected

/-- A new entry received nothing. -/
theorem Sound.newEntry (s : Nat) : Sound (w.newEntry s) := by
  have hstreams : (w.newEntry s).tcpStreams = w.tcpStreams.set s w.fresh := rfl
  have hentries : (w.newEntry s).entries = update w.entries w.fresh
      (some ⟨s, .resolving, false, [], 0, false, false, false, [], []⟩) := rfl
  have hlive : ∀ e entry, w.entries e = some entry → (w.newEntry s).Live e → w.Live e := by
    rintro e entry hent ⟨s', hget⟩
    rw [hstreams, get?_set] at hget
    by_cases hs' : s' = s
    · rw [if_pos hs'] at hget
      have hlt := hs.named e entry hent
      rw [← some.inj hget] at hlt
      exact absurd hlt (Nat.lt_irrefl _)
    · rw [if_neg hs'] at hget
      exact ⟨s', hget⟩
  constructor
  · intro e entry hent
    rw [hentries] at hent
    by_cases he : e = w.fresh
    · rw [he, update_self] at hent
      rw [← some.inj hent]
      exact ⟨queued_nil, fun _ hp => (nomatch hp), fun hconnected => (nomatch hconnected)⟩
    · rw [update_of_ne he] at hent
      have hok := hs.entry e entry hent
      exact ⟨hok.queued.mono (hlive e entry hent) id, hok.tagged, hok.dialed⟩
  · intro s' e hget
    rw [hstreams, get?_set] at hget
    rw [hentries]
    by_cases hs' : s' = s
    · rw [if_pos hs'] at hget
      refine ⟨⟨s, .resolving, false, [], 0, false, false, false, [], []⟩, ?_, hs'.symm⟩
      rw [← some.inj hget, update_self]
    · rw [if_neg hs'] at hget
      obtain ⟨entry, hent, hstream⟩ := hs.stored s' e hget
      have he : e ≠ w.fresh := Nat.ne_of_lt (hs.named e entry hent)
      exact ⟨entry, by rw [update_of_ne he]; exact hent, hstream⟩
  · intro e entry hent
    change e < w.fresh + 1
    rw [hentries] at hent
    by_cases he : e = w.fresh
    · omega
    · rw [update_of_ne he] at hent
      have := hs.named e entry hent
      omega

/-- The handlers of a dial. -/
theorem Sound.dialEvent (e : Nat) (event : DialEvent) : Sound (w.dialEvent e event) := by
  unfold TcpStreamSwitchboard.dialEvent
  cases hent : w.entries e with
  | none => exact hs
  | some entry =>
    have hconnected : entry.connected = true → entry.socket = true :=
      (hs.entry e entry hent).dialed
    cases event with
    | resolved ok =>
      dsimp only
      split
      · rename_i hresolving
        have hclosed : ∀ entry', w.entries e = some entry' → entry'.connected = true → False := by
          intro entry' hent' hconnected'
          rw [hent] at hent'
          rw [← some.inj hent'] at hconnected'
          have hsocket := hconnected hconnected'
          unfold ForwardTcpStream.socket at hsocket
          rw [hresolving] at hsocket
          exact nomatch hsocket
        have hsett : Sound (w.modifyEntry e fun entry => { entry with stage := .settled }) :=
          hs.modify_same (fun _ => ⟨rfl, rfl, rfl, rfl, rfl⟩)
            fun entry' hent' hc => (hclosed entry' hent' hc).elim
        unfold resolve
        dsimp only
        split
        · split
          · exact hsett.modify_same (fun _ => ⟨rfl, rfl, rfl, rfl, rfl⟩) fun _ _ _ => rfl
          · exact hsett
        · apply (drops_send _ _).sound
          split
          · exact (drops_dropForward _ _).sound hsett
          · exact hsett
      · exact hs
    | connect =>
      dsimp only
      split
      · rename_i hguard
        have hsocket : entry.socket = true := by
          simp only [Bool.and_eq_true] at hguard
          exact hguard.1.1
        apply (drops_refresh _ _).sound
        apply (drops_send _ _).sound
        apply hs.modify
        intro entry' hent' hok
        rw [hent] at hent'
        have heq : entry' = entry := (some.inj hent').symm
        exact ⟨rfl, hok.queued.flush, hok.tagged, fun _ => heq ▸ hsocket⟩
      · exact hs
    | data bytes =>
      dsimp only
      split
      · exact ((drops_send _ _).trans (drops_refresh _ _)).sound hs
      · exact hs
    | timeout =>
      dsimp only
      split
      · unfold socketTimeout
        split
        · exact hs
        · apply ((drops_send _ _).trans (drops_dropForward _ _)).sound
          exact hs.modify_same (fun _ => ⟨rfl, rfl, rfl, rfl, rfl⟩) fun entry' hent' hc =>
            (hs.entry e entry' hent').dialed hc
      · exact hs
    | error =>
      dsimp only
      split
      · unfold socketError
        split
        · apply (drops_dropStored _ _).sound
          exact hs.modify_same (fun _ => ⟨rfl, rfl, rfl, rfl, rfl⟩) fun entry' hent' hc =>
            (hs.entry e entry' hent').dialed hc
        · apply ((drops_send _ _).trans (drops_dropForward _ _)).sound
          exact hs.modify_same (fun _ => ⟨rfl, rfl, rfl, rfl, rfl⟩) fun entry' hent' hc =>
            (hs.entry e entry' hent').dialed hc
      · exact hs
    | close =>
      dsimp only
      split
      · apply (drops_dropStored _ _).sound
        exact hs.modify_same (fun _ => ⟨rfl, rfl, rfl, rfl, rfl⟩) fun entry' hent' hc =>
          (hs.entry e entry' hent').dialed hc
      · exact hs

/-! ## Bytes -/

/-- A stored entry is stored under its own id only. -/
theorem Sound.stream_of_live {s : Nat} (hget : w.tcpStreams.get? s = some e)
    (hent : w.entries e = some entry) : entry.stream = s := by
  obtain ⟨entry', hent', hstream⟩ := hs.stored s e hget
  rw [hent] at hent'
  rw [some.inj hent', hstream]

end

/-- The bytes of the next frame are fresh. -/
theorem fresh_payload (hok : EntryOk w e entry) (bytes : List UInt8) :
    (⟨w.arrivals, bytes⟩ : Payload) ∉ entry.received :=
  fun hmem => absurd (hok.tagged _ hmem) (Nat.lt_irrefl _)

/-- Two changes are one. -/
theorem modifyEntry_modifyEntry (w : TcpStreamSwitchboard) (e : Nat)
    (f g : ForwardTcpStream → ForwardTcpStream) :
    (w.modifyEntry e g).modifyEntry e f = w.modifyEntry e (f ∘ g) := by
  unfold modifyEntry
  dsimp only
  rw [update_self, update_idem, map_map]

theorem entries_modifyEntry (hent : w.entries e = some entry)
    (f : ForwardTcpStream → ForwardTcpStream) : (w.modifyEntry e f).entries e = some (f entry) := by
  unfold modifyEntry
  dsimp only
  rw [update_self, hent]
  rfl

theorem drops_counted (w : TcpStreamSwitchboard) : Drops w w.counted :=
  ⟨fun _ _ h => h, rfl, Nat.le_succ _, .refl⟩

theorem receive_stored {s : Nat} (hget : w.tcpStreams.get? s = some e) (p : Payload) :
    w.receive s p = w.modifyEntry e fun entry => { entry with received := entry.received ++ [p] } := by
  unfold receive
  rw [hget]

theorem handleTcpData_stored {s : Nat} (p : Payload) (hget : w.tcpStreams.get? s = some e)
    (hent : w.entries e = some entry) (hs : ¬ agentReverseIdBase ≤ s) :
    w.handleTcpData s p = w.receiveForward e s entry p := by
  unfold handleTcpData
  rw [if_neg hs, hget]
  dsimp only
  rw [hent]

/-- A frame for a stored stream, as a change of its entry. -/
theorem binaryFrame_stored {s : Nat} (bytes : List UInt8) (hget : w.tcpStreams.get? s = some e)
    (hent : w.entries e = some entry) (hs : ¬ agentReverseIdBase ≤ s) {p : Payload}
    (hp : p = ⟨w.arrivals, bytes⟩) :
    w.binaryFrame s bytes =
      if entry.socket then
        (w.counted.modifyEntry e fun entry =>
          { entry with received := entry.received ++ [p], writes := entry.writes ++ [p] }
          ).refreshIdleTimer s
      else if streamPendingDataMaxBytes < entry.pendingBytes + bytes.length then
        ((w.counted.dropForward s).modifyEntry e fun entry =>
          { entry with received := entry.received ++ [p] }).send (.tcpClose s)
      else
        (w.counted.modifyEntry e fun entry =>
          { entry with
            received := entry.received ++ [p]
            pendingData := entry.pendingData ++ [p]
            pendingBytes := entry.pendingBytes + bytes.length }).refreshIdleTimer s := by
  have hbytes : p.bytes = bytes := by rw [hp]
  unfold binaryFrame
  rw [← hp, receive_stored hget]
  have hent' := entries_modifyEntry hent fun entry =>
    { entry with received := entry.received ++ [p] }
  rw [handleTcpData_stored p (by exact hget) hent' hs]
  unfold receiveForward
  have hsocket : ({ entry with received := entry.received ++ [p] } : ForwardTcpStream).socket =
      entry.socket := rfl
  rw [hsocket, hbytes]
  by_cases hsock : entry.socket = true
  · rw [if_pos hsock, if_pos hsock, modifyEntry_modifyEntry]
    rfl
  · rw [if_neg hsock, if_neg hsock]
    by_cases hfull : streamPendingDataMaxBytes < entry.pendingBytes + bytes.length
    · rw [if_pos hfull, if_pos hfull]
      rfl
    · rw [if_neg hfull, if_neg hfull, modifyEntry_modifyEntry]
      rfl

theorem drops_reverseData (s : Nat) (p : Payload) (hs : w.tcpStreams.get? s = none) :
    Drops w (w.handleTcpData s p) := by
  unfold handleTcpData
  split
  · split
    · exact Drops.refl w
    · exact (drops_handle w _ _).trans (drops_refresh _ _)
  · rw [hs]
    exact Drops.refl w

/-- Short of an overtake, order stays. -/
theorem Sound.binaryFrame (hs : Sound w) (s : Nat) (bytes : List UInt8)
    (hno : ¬ Overtakes w (.tcpData s bytes)) : Sound (w.binaryFrame s bytes) := by
  cases hget : w.tcpStreams.get? s with
  | none =>
    have hreceive : w.receive s ⟨w.arrivals, bytes⟩ = w := by
      unfold receive
      rw [hget]
    unfold TcpStreamSwitchboard.binaryFrame
    rw [hreceive]
    have hdrops := drops_reverseData s ⟨w.arrivals, bytes⟩ hget
    exact (hdrops.trans (drops_counted _)).sound hs
  | some e =>
    obtain ⟨entry, hent, hstream⟩ := hs.stored s e hget
    have hlow : ¬ agentReverseIdBase ≤ s := fun hle =>
      hno ⟨e, entry, hget, hent, .inl hle⟩
    have hcounted : Sound w.counted := (drops_counted w).sound hs
    have hlive : w.counted.Live e := ⟨s, hget⟩
    rw [binaryFrame_stored bytes hget hent hlow rfl]
    by_cases hsocket : entry.socket = true
    · rw [if_pos hsocket]
      apply (drops_refresh _ s).sound
      apply hcounted.modify
      intro entry' hent' hok
      rw [show w.counted.entries e = w.entries e from rfl, hent] at hent'
      have heq : entry = entry' := some.inj hent'
      have hnone : entry'.pendingData = [] := by
        by_contra hheld
        exact hno ⟨e, entry, hget, hent, .inr ⟨hsocket, heq ▸ hheld⟩⟩
      refine ⟨rfl, hok.queued.pass hlive hnone _, ?_, hok.dialed⟩
      intro p hp
      rcases List.mem_append.mp hp with hold | hnew
      · exact hok.tagged p hold
      · rw [List.mem_singleton.mp hnew]
        exact Nat.lt_succ_self _
    · rw [if_neg hsocket]
      by_cases hfull : streamPendingDataMaxBytes < entry.pendingBytes + bytes.length
      · rw [if_pos hfull]
        apply (drops_send _ _).sound
        have hdropped : Sound (w.counted.dropForward s) := (drops_dropForward _ s).sound hcounted
        apply hdropped.modify
        intro entry' hent' hok
        have hgone : ¬ (w.counted.dropForward s).Live e := by
          rintro ⟨s', hget'⟩
          change (w.tcpStreams.erase s).get? s' = some e at hget'
          rw [get?_erase] at hget'
          by_cases hs' : s' = s
          · rw [if_pos hs'] at hget'
            exact nomatch hget'
          · rw [if_neg hs'] at hget'
            exact hs' ((hs.stream_of_live hget' hent).symm.trans hstream)
        refine ⟨rfl, hok.queued.miss hgone _, ?_, hok.dialed⟩
        intro p hp
        rcases List.mem_append.mp hp with hold | hnew
        · exact hok.tagged p hold
        · rw [List.mem_singleton.mp hnew]
          exact Nat.lt_succ_self _
      · rw [if_neg hfull]
        apply (drops_refresh _ s).sound
        apply hcounted.modify
        intro entry' hent' hok
        rw [show w.counted.entries e = w.entries e from rfl, hent] at hent'
        have heq : entry = entry' := some.inj hent'
        have hdialing : ¬ entry'.connected = true := fun hconnected =>
          hsocket (heq ▸ hok.dialed hconnected)
        refine ⟨rfl, hok.queued.hold hlive hdialing _, ?_, hok.dialed⟩
        intro p hp
        rcases List.mem_append.mp hp with hold | hnew
        · exact hok.tagged p hold
        · rw [List.mem_singleton.mp hnew]
          exact Nat.lt_succ_self _

/-! ## Steps -/

theorem Sound.destroyAll (hs : Sound w) (names : List Nat) :
    Sound (names.foldl TcpStreamSwitchboard.destroySocket w) :=
  List.foldlRecOn names _ hs fun _ ht e _ => ht.destroySocket e

theorem drops_closeAll (names : List Nat) :
    Drops w (names.foldl (fun w k => (w.dispatchError k).dispatchClose k) w) :=
  List.foldlRecOn names _ (Drops.refl w) fun t ht k _ =>
    ht.trans ((drops_dispatchError t k).trans (drops_dispatchClose _ k))

section

variable (hs : Sound w)
include hs

/-- Clean-up keeps the order. -/
theorem Sound.cleanup : Sound w.cleanup := by
  have hdestroyed := hs.destroyAll w.tcpStreams.values
  have hclosed := drops_closeAll (w := w.tcpStreams.values.foldl TcpStreamSwitchboard.destroySocket w)
    (w.tcpStreams.values.foldl TcpStreamSwitchboard.destroySocket w).reverseTcpStreams.values
  apply (hclosed.trans ?_).sound hdestroyed
  exact ⟨fun _ _ hget => (nomatch hget), rfl, .refl, .refl⟩

/-- A timer keeps the order. -/
theorem Sound.onStreamIdle (s : Nat) : Sound (w.onStreamIdle s) := by
  have hcleared : Sound (w.clearIdleTimer s) := (drops_clear w s).sound hs
  unfold TcpStreamSwitchboard.onStreamIdle
  dsimp only
  split
  · exact ((drops_deleteForward _ s).trans (drops_send _ _)).sound (hcleared.destroySocket _)
  · split
    · rename_i k _
      have hdeleted : Drops (w.clearIdleTimer s) ((w.clearIdleTimer s).deleteReverse s) :=
        ⟨fun _ _ h => h, rfl, .refl, .refl⟩
      exact (((hdeleted.trans (drops_dispatchError _ k)).trans (drops_dispatchClose _ k)).trans
        (drops_send _ _)).sound hcleared
    · exact hcleared

/-- A text frame keeps the order. -/
theorem Sound.handleJsonFrame (frame : SwitchboardJson) : Sound (w.handleJsonFrame frame) := by
  cases frame with
  | tcpOpen s extra =>
    change Sound (w.onTcpOpen s extra)
    unfold onTcpOpen
    split
    · exact (drops_send w _).sound hs
    · exact (drops_refresh _ s).sound (hs.newEntry s)
  | tcpOpenAck s ok =>
    unfold TcpStreamSwitchboard.handleJsonFrame onTcpOpenAckReverse
    dsimp only
    split
    · exact hs
    · split
      · exact hs
      · split
        · exact ((drops_handle w _ _).trans (drops_refresh _ s)).sound hs
        · exact (((drops_dropReverse w s).trans (drops_dispatchError _ _)).trans
            (drops_dispatchClose _ _)).sound hs
  | tcpClose s =>
    change Sound (w.onTcpClose s)
    unfold onTcpClose
    split
    · split
      · exact hs
      · exact ((drops_dropReverse w s).trans (drops_dispatchClose _ _)).sound hs
    · split
      · exact hs
      · exact ((drops_dropForward w s).sound hs).destroySocket _
  | other => exact hs

/-- An owner's call keeps the order. -/
theorem Sound.handleCall (k : Nat) (call : HandleCall) : Sound (w.handleCall k call) := by
  unfold TcpStreamSwitchboard.handleCall
  cases w.handles k with
  | none => exact hs
  | some handle =>
    dsimp only
    split
    · exact hs
    · cases call with
      | write bytes =>
        dsimp only
        split
        · exact ((drops_send w _).trans (drops_refresh _ _)).sound hs
        · exact hs
      | «end» =>
        dsimp only
        split
        · exact (((drops_handle w k _).trans (drops_dropReverse _ _)).trans
            (drops_send _ _)).sound hs
        · exact (drops_handle w k _).sound hs

/-- One event keeps the order. -/
theorem sound_step (event : SwitchboardEvent) (hno : ¬ Overtakes w event) :
    Sound (step w event) := by
  cases event with
  | elapse ms =>
    have hsame : Drops w (step w (.elapse ms)) :=
      ⟨fun _ _ h => h, rfl, .refl, .refl⟩
    exact hsame.sound hs
  | wsClosing =>
    have hsame : Drops w (step w .wsClosing) :=
      ⟨fun _ _ h => h, rfl, .refl, .refl⟩
    exact hsame.sound hs
  | cleanup => exact hs.cleanup
  | json frame => exact hs.handleJsonFrame frame
  | tcpData s bytes => exact hs.binaryFrame s bytes hno
  | dial e event => exact hs.dialEvent e event
  | handle k call => exact hs.handleCall k call
  | timeout s =>
    unfold step timeout
    dsimp only
    split
    · exact hs
    · split
      · exact hs.onStreamIdle s
      · exact hs
  | openReverseStream extra =>
    unfold step openReverseStream
    dsimp only
    split
    · exact hs
    · have hnew : Drops w w.newHandle := ⟨fun _ _ h => h, rfl, .refl, Nat.le_succ _⟩
      exact ((hnew.trans (drops_refresh _ _)).trans (drops_send _ _)).sound hs

/-- A frame that overtakes breaks the order at once. -/
theorem not_ordered_of_overtakes {event : SwitchboardEvent} (hbad : Overtakes w event) :
    ¬ Ordered (step w event) := by
  cases event with
  | tcpData s bytes =>
    obtain ⟨e, entry, hget, hent, hwhy⟩ := hbad
    have hok := hs.entry e entry hent
    have hlost := hok.queued.none_lost ⟨s, hget⟩
    intro hordered
    by_cases hhigh : agentReverseIdBase ≤ s
    · have hframe : (w.binaryFrame s bytes).entries e =
          some { entry with received := entry.received ++ [⟨w.arrivals, bytes⟩] } ∧
          (w.binaryFrame s bytes).tcpStreams = w.tcpStreams := by
        unfold binaryFrame
        rw [receive_stored hget]
        unfold handleTcpData
        rw [if_pos hhigh]
        split
        · exact ⟨entries_modifyEntry hent _, rfl⟩
        · exact ⟨entries_modifyEntry hent _, rfl⟩
      have horder := hordered e _ hframe.1
      apply not_inOrder_of_lost _ hlost horder
      exact ⟨s, by rw [show step w (.tcpData s bytes) = w.binaryFrame s bytes from rfl, hframe.2];
                   exact hget⟩
    · obtain ⟨hsocket, hheld⟩ := hwhy.resolve_left hhigh
      have hframe := binaryFrame_stored bytes hget hent hhigh rfl
      rw [if_pos hsocket] at hframe
      have hent' : (step w (.tcpData s bytes)).entries e = some { entry with
          received := entry.received ++ [⟨w.arrivals, bytes⟩]
          writes := entry.writes ++ [⟨w.arrivals, bytes⟩] } := by
        change (w.binaryFrame s bytes).entries e = _
        rw [hframe]
        exact entries_modifyEntry hent _
      exact not_inOrder_of_overtaken hlost hheld (fresh_payload hok bytes) (hordered e _ hent')
  | elapse | timeout | wsClosing | cleanup | json | dial | openReverseStream | handle =>
    exact hbad.elim

end

end Entries

/-- A new switchboard is in order. -/
theorem sound_new : Sound new :=
  ⟨nofun, nofun, nofun⟩

/-- Sound entries are in order. -/
theorem Sound.ordered {w : TcpStreamSwitchboard} (hs : Sound w) : Ordered w :=
  fun e entry hent => (hs.entry e entry hent).queued.inOrder

/-- In every run of a switchboard the bytes of each stream are written in order exactly when no
frame overtakes. -/
theorem ordered_iff (events : List SwitchboardEvent) :
    (∀ pre post, events = pre ++ post → Ordered (run step new pre)) ↔
      ∀ pre e post, events = pre ++ e :: post →
        ¬ Overtakes (run step new pre) e :=
  good_iff sound_new (fun _ hs => hs.ordered) (fun _ e hs hno => sound_step hs e hno)
    (fun _ _ hs hbad => not_ordered_of_overtakes hs hbad) events

end TcpStreamSwitchboard

end Sencho.Mesh

import Sencho.Mesh.SwitchboardEnds
import Sencho.Mesh.SwitchboardOrder

/-!
# The moves of a switchboard

Each step of a switchboard is a move of its board.
-/

namespace Sencho.Mesh

open Verified Option Function
open Verified.Release
open Streams

/-- What a frame that arrives says of a stream. -/
def SwitchboardEvent.tells : SwitchboardEvent → Option (Nat × Notice)
  | .json (.tcpOpen s _) => some (s, .opens)
  | .json (.tcpOpenAck s ok) => if ok then none else some (s, .closes)
  | .json (.tcpClose s) => some (s, .closes)
  | _ => none

namespace Board

section Operations

variable (d : Board)

/-! ## What the helpers do to a board -/

/-- Send, if open. -/
def send (frame : SwitchboardFrame) : Board :=
  { d with sent := if d.wsOpen then d.sent ++ [frame] else d.sent }

/-- Free a forward id. -/
def dropForward (s : Nat) : Board := { d with forward := update d.forward s none }

/-- Free a reverse id. -/
def dropReverse (s : Nat) : Board := { d with reverse := update d.reverse s none }

/-- Other dials remain. -/
def work (pending : Nat → Option (Nat × Bool)) : Board := { d with pending := pending }

end Operations

variable {d d' : Board} {cause : Cause} {frames : List SwitchboardFrame} {s e : Nat}
  {p : Nat → Option (Nat × Bool)}

theorem stored_low (hlow : s < agentReverseIdBase) : d.stored s = d.forward s := if_pos hlow

theorem stored_high (hhigh : agentReverseIdBase ≤ s) : d.stored s = d.reverse s :=
  if_neg (Nat.not_lt.mpr hhigh)

theorem stored_dropForward (hlow : s < agentReverseIdBase) :
    (d.dropForward s).stored = update d.stored s none := by
  funext s'
  by_cases hs : s' = s
  · rw [hs, update_self, stored_low hlow]
    exact update_self ..
  · rw [update_of_ne hs]
    unfold stored dropForward
    dsimp only
    rw [update_of_ne hs]

theorem stored_dropReverse (hhigh : agentReverseIdBase ≤ s) :
    (d.dropReverse s).stored = update d.stored s none := by
  funext s'
  by_cases hs : s' = s
  · rw [hs, update_self, stored_high hhigh]
    exact update_self ..
  · rw [update_of_ne hs]
    unfold stored dropReverse
    dsimp only
    rw [update_of_ne hs]

/-! ## Rules for moves -/

/-- Nothing fades. -/
theorem fades_refl (d : Board) : Fades d d := fun _ _ resolving h => ⟨resolving, h, fun hr => hr⟩

/-- A notice that arrives closes a stream that is not held. -/
def Deaf (cause : Cause) (d : Board) : Prop :=
  ∀ s n, cause.arriving = some (s, n) → n = .closes ∧ d.stored s = none

/-- Without a notice there is none to miss. -/
theorem deaf_of_none (h : cause.arriving = none) : Deaf cause d := by
  intro s n hsome
  rw [h] at hsome
  exact nomatch hsome

theorem deaf_of_free (h : cause.arriving = some (s, .closes)) (hfree : d.stored s = none) :
    Deaf cause d := by
  intro s' n hsome
  rw [h] at hsome
  injection hsome with hpair
  injection hpair with hs hn
  rw [← hs, ← hn]
  exact ⟨rfl, hfree⟩

section

variable (hdeaf : Deaf cause d)
include hdeaf

/-- A step that leaves every stream as it is. -/
theorem move_work (hfades : Fades d (d.work p)) : Move cause d (d.work p) [] :=
  .quiet hdeaf rfl hfades ⟨rfl, fun _ hs => .inl hs, fun _ hs => .inl hs,
    (List.append_nil _).symm⟩ nofun

/-- Nothing happens. -/
theorem move_rest : Move cause d d [] :=
  move_work (p := d.pending) hdeaf (fades_refl d)

/-- A frame that tells no end. -/
theorem move_says (hopen : d.wsOpen = true) (hfades : Fades d (d.work p)) {f : SwitchboardFrame}
    (hf : f.tells = none) : Move cause d ((d.work p).send f) [f] := by
  refine .quiet hdeaf rfl hfades ⟨rfl, fun _ hs => .inl hs, fun _ hs => .inl hs,
    if_pos hopen⟩ fun f' hf' => ?_
  rw [List.mem_singleton.mp hf']
  exact hf

end

theorem keeps_drop {forward reverse : Nat → Option Nat} (hforward : ∀ s, forward s ≠ none →
    d.forward s ≠ none) (hreverse : ∀ s, reverse s ≠ none → d.reverse s ≠ none)
    (hsent : d'.sent = d.sent ++ frames) (hwsOpen : d'.wsOpen = d.wsOpen)
    (hf : d'.forward = forward) (hr : d'.reverse = reverse) : Keeps d d' frames := by
  refine ⟨hwsOpen, ?_, ?_, hsent⟩
  · intro s hs
    rw [hf] at hs
    exact .inl (hforward s hs)
  · intro s hs
    rw [hr] at hs
    exact .inl (hreverse s hs)

theorem ne_none_of_update {heap : Nat → Option Nat} {s s' : Nat}
    (h : update heap s none s' ≠ none) : heap s' ≠ none := by
  by_cases hs : s' = s
  · rw [hs, update_self] at h
    exact absurd rfl h
  · rw [update_of_ne hs] at h
    exact h

section

variable (h : Sorted d) (harr : cause.arriving = none) (hopen : d.wsOpen = true)
include h harr hopen

/-- A stream of the primary is dropped and the primary told. -/
theorem ends_forward (hent : d.forward s = some e) (hfades : Fades d (d.work p))
    {f : SwitchboardFrame} (hf : f = .tcpClose s ∨ f = .tcpOpenAck s false) :
    Move cause d (((d.work p).dropForward s).send f) [f] := by
  have hlow : s < agentReverseIdBase := h.low s (by rw [hent]; exact some_ne_none e)
  have hclosing : Closing s f := hf.imp_right fun hack => ⟨hack, hlow⟩
  refine .ends harr ((stored_low hlow).trans hent) (stored_dropForward (d := d.work p) hlow)
    hfades ?_ hclosing
  exact keeps_drop (fun _ => ne_none_of_update) (fun _ hs => hs) (if_pos hopen) rfl rfl rfl

/-- A stream of the switchboard is dropped and the primary told. -/
theorem ends_reverse (hent : d.reverse s = some e) :
    Move cause d ((d.dropReverse s).send (.tcpClose s)) [.tcpClose s] := by
  have hhigh : agentReverseIdBase ≤ s := h.high s (by rw [hent]; exact some_ne_none e)
  refine .ends harr ((stored_high hhigh).trans hent) (stored_dropReverse hhigh)
    (fades_refl d) ?_ (.inl rfl)
  exact keeps_drop (fun _ hs => hs) (fun _ => ne_none_of_update) (if_pos hopen) rfl rfl rfl

end

section

variable (h : Sorted d) (harr : cause.arriving = some (s, .closes))
include h harr

/-- Silent when the primary closed it. -/
theorem drops_forward (hent : d.forward s = some e) (hfades : Fades d (d.work p)) :
    Move cause d ((d.work p).dropForward s) [] := by
  have hlow : s < agentReverseIdBase := h.low s (by rw [hent]; exact some_ne_none e)
  refine .drops harr ((stored_low hlow).trans hent) (stored_dropForward (d := d.work p) hlow)
    hfades ?_
  exact keeps_drop (fun _ => ne_none_of_update) (fun _ hs => hs)
    (List.append_nil _).symm rfl rfl rfl

theorem drops_reverse (hent : d.reverse s = some e) : Move cause d (d.dropReverse s) [] := by
  have hhigh : agentReverseIdBase ≤ s := h.high s (by rw [hent]; exact some_ne_none e)
  refine .drops harr ((stored_high hhigh).trans hent) (stored_dropReverse hhigh) (fades_refl d) ?_
  exact keeps_drop (fun _ hs => hs) (fun _ => ne_none_of_update)
    (List.append_nil _).symm rfl rfl rfl

end

/-- An open refuses its stream, which may be gone. -/
theorem move_refuse (h : Sorted d) (harr : cause.arriving = none) (hopen : d.wsOpen = true)
    {resolving : Bool} (htask : d.pending e = some (s, resolving)) (hfades : Fades d (d.work p)) :
    Move cause d (((d.work p).dropForward s).send (.tcpOpenAck s false)) [.tcpOpenAck s false] := by
  have hlow : s < agentReverseIdBase := h.pending_low e s resolving htask
  cases hent : d.forward s with
  | some e' => exact ends_forward h harr hopen hent hfades (.inr rfl)
  | none =>
    have hsame : (d.work p).dropForward s = d.work p := by
      unfold dropForward
      have hupdate : update (d.work p).forward s none = (d.work p).forward := by
        rw [← hent]
        exact update_eq_self s d.forward
      rw [hupdate]
    rw [hsame]
    exact .strays harr htask ((stored_low hlow).trans hent) rfl hfades
      ⟨rfl, fun _ hs => .inl hs, fun _ hs => .inl hs, if_pos hopen⟩

end Board

namespace TcpStreamSwitchboard

open Board (Move Sorted Fades Deaf Cause)

/-- What a step is for. -/
def cause (w : TcpStreamSwitchboard) (e : SwitchboardEvent) : Cause :=
  ⟨fun s => ∃ extra, e = .openReverseStream extra ∧
    w.totalStreamCount extra < maxStreamsPerTunnel ∧ s = w.reverseStreamIds.next, e.tells⟩

/-- The opens that can still refuse a stream. -/
def pendingOf (w : TcpStreamSwitchboard) (e : Nat) : Option (Nat × Bool) :=
  (w.entries e).bind fun entry =>
    if entry.pending then some (entry.stream, entry.stage = .resolving) else none

/-- What the board moves see. -/
def board (w : TcpStreamSwitchboard) : Board :=
  ⟨w.tcpStreams.get?, w.reverseTcpStreams.get?, w.pendingOf, w.wsOpen, w.sent⟩

section Helpers

variable (w : TcpStreamSwitchboard)

@[simp] theorem board_send (frame : SwitchboardFrame) :
    (w.send frame).board = w.board.send frame := rfl

@[simp] theorem board_refreshIdleTimer (s : Nat) : (w.refreshIdleTimer s).board = w.board := rfl

@[simp] theorem board_modifyHandle (k : Nat) (f : ReverseTcpStreamHandle → ReverseTcpStreamHandle) :
    (w.modifyHandle k f).board = w.board := rfl

@[simp] theorem board_dispatchError (k : Nat) : (w.dispatchError k).board = w.board := rfl

@[simp] theorem board_dispatchClose (k : Nat) : (w.dispatchClose k).board = w.board := rfl

@[simp] theorem board_modifyEntry (e : Nat) (f : ForwardTcpStream → ForwardTcpStream) :
    (w.modifyEntry e f).board = w.board.work (w.modifyEntry e f).pendingOf := rfl

theorem get?_erase_eq (m : OrderedMap Nat Nat) (s : Nat) :
    (m.erase s).get? = update m.get? s none := by
  funext x
  rw [OrderedMap.get?_erase, update_apply]

@[simp] theorem board_deleteForward (s : Nat) :
    (w.deleteForward s).board = w.board.dropForward s := by
  change { w.board with forward := (w.tcpStreams.erase s).get? } = _
  rw [get?_erase_eq]
  rfl

@[simp] theorem board_deleteReverse (s : Nat) :
    (w.deleteReverse s).board = w.board.dropReverse s := by
  change { w.board with reverse := (w.reverseTcpStreams.erase s).get? } = _
  rw [get?_erase_eq]
  rfl

@[simp] theorem board_dropForward (s : Nat) : (w.dropForward s).board = w.board.dropForward s :=
  board_deleteForward w s

@[simp] theorem board_dropReverse (s : Nat) : (w.dropReverse s).board = w.board.dropReverse s :=
  board_deleteReverse w s

theorem has_eq (m : OrderedMap Nat Nat) (s : Nat) : m.has s = (m.get? s).isSome := by
  rw [Bool.eq_iff_iff, OrderedMap.has_iff, isSome_iff_exists]

/-- A dial that still reports. -/
theorem pending_of_entry {e : Nat} {entry : ForwardTcpStream} (hent : w.entries e = some entry)
    (hpend : entry.pending = true) :
    w.board.pending e = some (entry.stream, decide (entry.stage = .resolving)) := by
  change w.pendingOf e = _
  unfold pendingOf
  rw [hent, bind_some, if_pos hpend]

/-- A change of an entry that brings no open back. -/
theorem fades_modify (e : Nat) {f : ForwardTcpStream → ForwardTcpStream}
    (hf : ∀ entry, w.entries e = some entry → (f entry).pending = true →
      (f entry).stream = entry.stream ∧ entry.pending = true ∧
        ((f entry).stage = .resolving → entry.stage = .resolving)) :
    Fades w.board (w.board.work (w.modifyEntry e f).pendingOf) := by
  intro e' s resolving hsome
  change (w.modifyEntry e f).pendingOf e' = _ at hsome
  unfold pendingOf modifyEntry at hsome
  dsimp only at hsome
  by_cases he : e' = e
  · rw [he, update_self] at hsome
    cases hent : w.entries e with
    | none =>
      rw [hent] at hsome
      exact nomatch hsome
    | some entry =>
      rw [hent, map_some, bind_some] at hsome
      by_cases hpend : (f entry).pending = true
      · obtain ⟨hstream, hold, hstage⟩ := hf entry hent hpend
        rw [if_pos hpend] at hsome
        injection hsome with hpair
        injection hpair with hs hr
        refine ⟨decide (entry.stage = .resolving), ?_, ?_⟩
        · rw [he, pending_of_entry w hent hold, ← hstream, hs]
        · intro hresolving
          rw [hresolving] at hr
          exact decide_eq_true (hstage (of_decide_eq_true hr))
      · rw [if_neg hpend] at hsome
        exact nomatch hsome
  · rw [update_of_ne he] at hsome
    exact ⟨resolving, hsome, fun hr => hr⟩

/-- A change of an entry that its open does not turn on. -/
theorem board_modify_same (e : Nat) {f : ForwardTcpStream → ForwardTcpStream}
    (hf : ∀ entry, (f entry).ended = entry.ended ∧ (f entry).stream = entry.stream ∧
      (f entry).stage = entry.stage) : (w.modifyEntry e f).board = w.board := by
  have hpend : (w.modifyEntry e f).pendingOf = w.pendingOf := by
    funext e'
    unfold pendingOf modifyEntry
    dsimp only
    by_cases he : e' = e
    · rw [he, update_self]
      cases w.entries e with
      | none => rfl
      | some entry =>
        obtain ⟨hended, hstream, hstage⟩ := hf entry
        have hsame : (f entry).pending = entry.pending := by
          unfold ForwardTcpStream.pending
          rw [hended, hstage]
        rw [map_some, bind_some, bind_some, hsame, hstream, hstage]
    · rw [update_of_ne he]
  rw [board_modifyEntry, hpend]
  rfl

theorem fades_destroySocket (e : Nat) :
    Fades w.board (w.board.work (w.destroySocket e).pendingOf) := by
  refine fades_modify w e fun entry _ hpend => ⟨rfl, ?_, fun hstage => hstage⟩
  unfold ForwardTcpStream.pending at hpend ⊢
  cases hstage : entry.stage with
  | resolving => rfl
  | dialed => simp [ForwardTcpStream.socket, hstage] at hpend
  | settled => simp [hstage] at hpend

end Helpers

/-! ## Steps -/

/-- A switchboard that is up, with a sorted board. -/
structure Sorting (w : TcpStreamSwitchboard) : Prop where
  sorted : w.board.Sorted
  wsOpen : w.wsOpen = true

section Moves

open Board

variable {w : TcpStreamSwitchboard} {cause : Cause} {s e : Nat} {entry : ForwardTcpStream}

section

variable (h : Sorting w)
include h

/-- An idle id is freed and told. -/
theorem move_onStreamIdle (harr : cause.arriving = none) (s : Nat) :
    ∃ frames, Move cause w.board (w.onStreamIdle s).board frames := by
  unfold onStreamIdle
  dsimp only
  cases hforward : w.tcpStreams.get? s with
  | some e =>
    rw [show (w.clearIdleTimer s).tcpStreams.get? s = some e from hforward]
    rw [board_send, board_deleteForward]
    exact ⟨_, ends_forward h.sorted harr h.wsOpen hforward (fades_destroySocket w e) (.inl rfl)⟩
  | none =>
    rw [show (w.clearIdleTimer s).tcpStreams.get? s = none from hforward]
    cases hreverse : w.reverseTcpStreams.get? s with
    | some k =>
      rw [show (w.clearIdleTimer s).reverseTcpStreams.get? s = some k from hreverse]
      rw [board_send, board_dispatchClose, board_dispatchError, board_deleteReverse]
      exact ⟨_, ends_reverse h.sorted harr h.wsOpen hreverse⟩
    | none =>
      rw [show (w.clearIdleTimer s).reverseTcpStreams.get? s = none from hreverse]
      exact ⟨_, move_rest (deaf_of_none harr)⟩

theorem move_timeout (harr : cause.arriving = none) (s : Nat) :
    ∃ frames, Move cause w.board (w.timeout s).board frames := by
  unfold timeout
  split
  · exact ⟨_, move_rest (deaf_of_none harr)⟩
  · split
    · exact move_onStreamIdle h harr s
    · exact ⟨_, move_rest (deaf_of_none harr)⟩

/-! ### Streams of the primary -/

/-- A free id is taken, or refused. -/
theorem move_onTcpOpen (hlow : s < agentReverseIdBase) (extra : Nat)
    (harr : cause.arriving = some (s, .opens)) :
    ∃ frames, Move cause w.board (w.onTcpOpen s extra).board frames := by
  unfold onTcpOpen
  split
  · exact ⟨_, .refuses harr hlow rfl (fades_refl _)
      ⟨rfl, fun _ hs => .inl hs, fun _ hs => .inl hs, if_pos h.wsOpen⟩⟩
  · rw [board_refreshIdleTimer]
    have hget : (w.newEntry s).board.forward = update w.board.forward s (some w.fresh) := by
      funext s'
      change (w.tcpStreams.set s w.fresh).get? s' = _
      rw [OrderedMap.get?_set, update_apply]
      rfl
    have hst : (w.newEntry s).board.stored = update w.board.stored s (some w.fresh) := by
      funext s'
      by_cases hs : s' = s
      · rw [hs, update_self, stored_low hlow, hget, update_self]
      · rw [update_of_ne hs]
        unfold stored
        rw [hget, update_of_ne hs]
        rfl
    refine ⟨_, .accepts harr hlow hst ?_ ⟨rfl, ?_, fun _ hs => .inl hs,
      (List.append_nil _).symm⟩⟩
    · intro e s' resolving hsome
      change ((w.newEntry s).entries e).bind _ = _ at hsome
      by_cases he : e = w.fresh
      · have hent : (w.newEntry s).entries e =
            some ⟨s, .resolving, false, [], 0, false, false, false, [], []⟩ := by
          rw [he]
          exact update_self ..
        rw [hent, bind_some] at hsome
        injection hsome with hpair
        injection hpair with hs
        exact .inl ⟨he, hs.symm⟩
      · have hent : (w.newEntry s).entries e = w.entries e := update_of_ne he _ _
        rw [hent] at hsome
        exact .inr hsome
    · intro s' hs
      rw [hget] at hs
      by_cases hsame : s' = s
      · rw [hsame]
        exact .inr hlow
      · rw [update_of_ne hsame] at hs
        exact .inl hs

/-- The target of an open that is being resolved is there, or not. -/
theorem move_resolve (harr : cause.arriving = none) (hent : w.entries e = some entry)
    (hstage : entry.stage = .resolving) (ok : Bool) :
    ∃ frames, Move cause w.board (w.resolve e entry ok).board frames := by
  have hpend : entry.pending = true := by
    unfold ForwardTcpStream.pending
    simp [hstage]
  have htask : w.board.pending e = some (entry.stream, true) := by
    rw [pending_of_entry w hent hpend, decide_eq_true hstage]
  have hsettle : Fades w.board (w.board.work
      (w.modifyEntry e fun entry => { entry with stage := .settled }).pendingOf) := by
    refine fades_modify w e fun entry' _ hleft => ?_
    exact absurd hleft (by simp [ForwardTcpStream.pending])
  unfold resolve
  cases ok with
  | true =>
    rw [if_pos rfl]
    split
    · rw [modifyEntry_modifyEntry, board_modifyEntry]
      refine ⟨_, move_work (deaf_of_none harr) (fades_modify w e fun entry' hsame hleft => ?_)⟩
      rw [hent] at hsame
      rw [← some.inj hsame]
      exact ⟨rfl, hpend, fun hno => by cases hno⟩
    · exact ⟨_, move_work (deaf_of_none harr) hsettle⟩
  | false =>
    rw [if_neg Bool.false_ne_true, board_send]
    split
    · rw [board_dropForward]
      exact ⟨_, move_refuse h.sorted harr h.wsOpen htask hsettle⟩
    · next hst =>
        have hlow := h.sorted.pending_low e entry.stream true htask
        have hnone : w.board.stored entry.stream = none := by
          cases hsome : w.board.stored entry.stream with
          | none => rfl
          | some e' =>
            have he : e' = e := h.sorted.own e e' entry.stream htask hsome
            rw [stored_low hlow, he] at hsome
            exact absurd hsome hst
        exact ⟨_, .strays harr htask hnone rfl hsettle
          ⟨rfl, fun _ hs => .inl hs, fun _ hs => .inl hs, if_pos h.wsOpen⟩⟩

theorem move_dropStored (harr : cause.arriving = none) {f : ForwardTcpStream → ForwardTcpStream}
    (hfades : Fades w.board (w.board.work (w.modifyEntry e f).pendingOf)) (s : Nat) :
    ∃ frames, Move cause w.board ((w.modifyEntry e f).dropStored s).board frames := by
  unfold dropStored
  rw [show (w.modifyEntry e f).tcpStreams = w.tcpStreams from rfl, has_eq]
  cases hget : w.tcpStreams.get? s with
  | some e' =>
    rw [if_pos (by rfl), board_send, board_dropForward, board_modifyEntry]
    exact ⟨_, ends_forward h.sorted harr h.wsOpen hget hfades (.inl rfl)⟩
  | none =>
    exact ⟨_, move_work (deaf_of_none harr) hfades⟩

end

/-- An entry whose socket has been created and has not ended is pending. -/
theorem pending_of_socket (hsocket : entry.socket = true) (hended : entry.ended = false) :
    entry.pending = true := by
  have hstage : entry.stage = .dialed := of_decide_eq_true hsocket
  unfold ForwardTcpStream.pending
  simp [hstage, hended]

/-- A dial that fails refuses its stream. -/
theorem move_dialFails (h : Sorting w) (harr : cause.arriving = none)
    (hent : w.entries e = some entry) (hsocket : entry.socket = true)
    (hended : entry.ended = false) :
    ∃ frames, Move cause w.board (((w.modifyEntry e fun entry =>
      { entry with accepted := true, ended := true }).send
        (.tcpOpenAck entry.stream false)).dropForward entry.stream).board frames := by
  have htask := pending_of_entry w hent (pending_of_socket hsocket hended)
  rw [board_dropForward, board_send, board_modifyEntry]
  refine ⟨_, move_refuse h.sorted harr h.wsOpen htask (fades_modify w e fun entry' _ hleft => ?_)⟩
  refine ⟨rfl, ?_, fun hstage => hstage⟩
  unfold ForwardTcpStream.pending at hleft ⊢
  cases hstage : entry'.stage with
  | resolving => rfl
  | dialed | settled => simp [hstage] at hleft

theorem fades_ended (w : TcpStreamSwitchboard) (e : Nat) {f : ForwardTcpStream → ForwardTcpStream}
    (hf : ∀ entry, (f entry).ended = true ∧ (f entry).stream = entry.stream ∧
      (f entry).stage = entry.stage) :
    Fades w.board (w.board.work (w.modifyEntry e f).pendingOf) := by
  refine fades_modify w e fun entry' _ hleft => ⟨(hf entry').2.1, ?_, fun hstage =>
    (hf entry').2.2 ▸ hstage⟩
  unfold ForwardTcpStream.pending at hleft ⊢
  rw [(hf entry').1, (hf entry').2.2] at hleft
  cases hstage : entry'.stage with
  | resolving => rfl
  | dialed | settled => simp [hstage] at hleft

/-- A dial frees and tells, or goes on. -/
theorem move_dialEvent (h : Sorting w) (harr : cause.arriving = none) (e : Nat)
    (event : DialEvent) : ∃ frames, Move cause w.board (w.dialEvent e event).board frames := by
  have hrest : Move cause w.board w.board [] := move_rest (deaf_of_none harr)
  unfold dialEvent
  cases hent : w.entries e with
  | none => exact ⟨_, hrest⟩
  | some entry =>
    cases event with
    | resolved ok =>
      dsimp only
      split
      · next hstage => exact move_resolve h harr hent hstage ok
      · exact ⟨_, hrest⟩
    | connect =>
      dsimp only
      split
      · unfold socketConnect
        rw [board_refreshIdleTimer, board_send, board_modify_same]
        · exact ⟨_, move_says (deaf_of_none harr) h.wsOpen (fades_refl _) rfl⟩
        · exact fun _ => ⟨rfl, rfl, rfl⟩
      · exact ⟨_, hrest⟩
    | data bytes =>
      dsimp only
      split
      · unfold socketData
        exact ⟨_, move_says (deaf_of_none harr) h.wsOpen (fades_refl _) rfl⟩
      · exact ⟨_, hrest⟩
    | timeout =>
      dsimp only
      split
      · next hgate =>
          rw [Bool.and_eq_true, Bool.and_eq_true] at hgate
          have hended : entry.ended = false := by simpa using hgate.2
          unfold socketTimeout
          split
          · exact ⟨_, hrest⟩
          · exact move_dialFails h harr hent hgate.1.1 hended
      · exact ⟨_, hrest⟩
    | error =>
      dsimp only
      split
      · next hgate =>
          rw [Bool.and_eq_true] at hgate
          have hended : entry.ended = false := by simpa using hgate.2
          unfold socketError
          split
          · refine move_dropStored h harr ?_ entry.stream
            exact fades_ended w e fun _ => ⟨rfl, rfl, rfl⟩
          · exact move_dialFails h harr hent hgate.1 hended
      · exact ⟨_, hrest⟩
    | close =>
      dsimp only
      split
      · refine move_dropStored h harr ?_ entry.stream
        exact fades_ended w e fun _ => ⟨rfl, rfl, rfl⟩
      · exact ⟨_, hrest⟩

/-- The id is freed. -/
theorem move_onTcpClose (h : Sorting w) (harr : cause.arriving = some (s, .closes)) :
    ∃ frames, Move cause w.board (w.onTcpClose s).board frames := by
  unfold onTcpClose
  split
  · next hhigh =>
      cases hreverse : w.reverseTcpStreams.get? s with
      | none =>
        have hfree : w.board.stored s = none := (stored_high hhigh).trans hreverse
        exact ⟨_, move_rest (deaf_of_free harr hfree)⟩
      | some k =>
        rw [board_dispatchClose, board_dropReverse]
        exact ⟨_, drops_reverse h.sorted harr hreverse⟩
  · next hhigh =>
      have hlow : s < agentReverseIdBase := Nat.lt_of_not_le hhigh
      cases hforward : w.tcpStreams.get? s with
      | none =>
        have hfree : w.board.stored s = none := (stored_low hlow).trans hforward
        exact ⟨_, move_rest (deaf_of_free harr hfree)⟩
      | some e =>
        have hcontrol : ((w.dropForward s).destroySocket e).board =
            (w.board.work (w.destroySocket e).pendingOf).dropForward s := by
          change (w.dropForward s).board.work (w.destroySocket e).pendingOf = _
          rw [board_dropForward]
          rfl
        rw [hcontrol]
        exact ⟨_, drops_forward h.sorted harr hforward (fades_destroySocket w e)⟩

/-! ### Streams of the switchboard -/

/-- A refusal frees the id. -/
theorem move_onTcpOpenAckReverse (h : Sorting w) (hhigh : agentReverseIdBase ≤ s) (ok : Bool)
    (harr : cause.arriving = if ok then none else some (s, .closes)) :
    ∃ frames, Move cause w.board (w.onTcpOpenAckReverse s ok).board frames := by
  unfold onTcpOpenAckReverse
  cases hreverse : w.reverseTcpStreams.get? s with
  | none =>
    cases ok with
    | true => exact ⟨_, move_rest (deaf_of_none harr)⟩
    | false =>
      have hfree : w.board.stored s = none := (stored_high hhigh).trans hreverse
      exact ⟨_, move_rest (deaf_of_free harr hfree)⟩
  | some k =>
    dsimp only
    cases ok with
    | true =>
      exact ⟨_, move_rest (deaf_of_none harr)⟩
    | false =>
      rw [if_neg Bool.false_ne_true, board_dispatchClose, board_dispatchError, board_dropReverse]
      exact ⟨_, drops_reverse h.sorted harr hreverse⟩

section

variable (h : Sorting w) (harr : cause.arriving = none)
include h harr

/-- A fresh id is opened. -/
theorem move_openReverseStream (extra : Nat)
    (hopn : w.totalStreamCount extra < maxStreamsPerTunnel →
      cause.opening w.reverseStreamIds.next ∧ agentReverseIdBase ≤ w.reverseStreamIds.next ∧
        w.reverseTcpStreams.get? w.reverseStreamIds.next = none) :
    ∃ frames, Move cause w.board (w.openReverseStream extra).board frames := by
  unfold openReverseStream
  split
  · exact ⟨_, move_rest (deaf_of_none harr)⟩
  · next hgate =>
      have hcount : w.totalStreamCount extra < maxStreamsPerTunnel := by
        rw [Bool.or_eq_true, not_or] at hgate
        exact Nat.lt_of_not_le fun hle => hgate.2 (decide_eq_true hle)
      obtain ⟨hopens, hhigh, hfree⟩ := hopn hcount
      have hget : w.newHandle.board.reverse =
          update w.board.reverse w.reverseStreamIds.next (some w.fresh) := by
        funext s'
        change (w.reverseTcpStreams.set w.reverseStreamIds.next w.fresh).get? s' = _
        rw [OrderedMap.get?_set, update_apply]
        rfl
      have hst : w.newHandle.board.stored =
          update w.board.stored w.reverseStreamIds.next (some w.fresh) := by
        funext s'
        by_cases hs : s' = w.reverseStreamIds.next
        · rw [hs, update_self, stored_high hhigh, hget, update_self]
        · rw [update_of_ne hs]
          unfold stored
          rw [hget, update_of_ne hs]
          rfl
      refine ⟨_, .opens harr hopens hhigh ((stored_high hhigh).trans hfree) hst
        (fades_refl _) ⟨rfl, fun _ hs => .inl hs, ?_, if_pos h.wsOpen⟩⟩
      intro s' hs
      change w.newHandle.board.reverse s' ≠ none at hs
      rw [hget] at hs
      by_cases hsame : s' = w.reverseStreamIds.next
      · rw [hsame]
        exact .inr hhigh
      · rw [update_of_ne hsame] at hs
        exact .inl hs

/-- An owner's close is told. -/
theorem move_handleCall (k : Nat) (call : HandleCall) :
    ∃ frames, Move cause w.board (w.handleCall k call).board frames := by
  have hrest : Move cause w.board w.board [] := move_rest (deaf_of_none harr)
  unfold handleCall
  cases w.handles k with
  | none => exact ⟨_, hrest⟩
  | some handle =>
    dsimp only
    split
    · exact ⟨_, hrest⟩
    · cases call with
      | write bytes =>
        dsimp only
        split
        · rw [board_refreshIdleTimer, board_send]
          exact ⟨_, move_says (deaf_of_none harr) h.wsOpen (fades_refl _) rfl⟩
        · exact ⟨_, hrest⟩
      | «end» =>
        rw [show ∀ f, (w.modifyHandle k f).reverseTcpStreams = w.reverseTcpStreams from
          fun _ => rfl, has_eq]
        cases hreverse : w.reverseTcpStreams.get? handle.stream with
        | none =>
          exact ⟨_, hrest⟩
        | some k' =>
          rw [if_pos (by rfl), board_send, board_dropReverse, board_modifyHandle]
          exact ⟨_, ends_reverse h.sorted harr h.wsOpen hreverse⟩

/-! ### Bytes of the primary -/

theorem move_receiveForward (hforward : w.tcpStreams.get? s = some e) (entry : ForwardTcpStream)
    (p : Payload) : ∃ frames, Move cause w.board (w.receiveForward e s entry p).board frames := by
  unfold receiveForward
  split
  · rw [board_refreshIdleTimer, board_modify_same]
    · exact ⟨_, move_rest (deaf_of_none harr)⟩
    · exact fun _ => ⟨rfl, rfl, rfl⟩
  · split
    · rw [board_send, board_dropForward]
      exact ⟨_, ends_forward h.sorted harr h.wsOpen hforward (fades_refl _) (.inl rfl)⟩
    · rw [board_refreshIdleTimer, board_modify_same]
      · exact ⟨_, move_rest (deaf_of_none harr)⟩
      · exact fun _ => ⟨rfl, rfl, rfl⟩

/-- Bytes free nothing. -/
theorem move_handleTcpData (s : Nat) (p : Payload) :
    ∃ frames, Move cause w.board (w.handleTcpData s p).board frames := by
  have hrest : Move cause w.board w.board [] := move_rest (deaf_of_none harr)
  unfold handleTcpData
  split
  · split
    · exact ⟨_, hrest⟩
    · rw [board_refreshIdleTimer, board_modifyHandle]
      exact ⟨_, hrest⟩
  · split
    · exact ⟨_, hrest⟩
    · next hforward =>
        split
        · exact ⟨_, hrest⟩
        · exact move_receiveForward h harr hforward _ p

end

theorem board_receive (w : TcpStreamSwitchboard) (s : Nat) (p : Payload) :
    (w.receive s p).board = w.board := by
  unfold receive
  cases w.tcpStreams.get? s with
  | none => rfl
  | some e => exact board_modify_same w e fun _ => ⟨rfl, rfl, rfl⟩

/-- A binary frame is a move. -/
theorem move_binaryFrame (h : Sorting w) (harr : cause.arriving = none) (s : Nat)
    (bytes : List UInt8) : ∃ frames, Move cause w.board (w.binaryFrame s bytes).board frames := by
  have hboard := board_receive w s ⟨w.arrivals, bytes⟩
  have hrecv : Sorting (w.receive s ⟨w.arrivals, bytes⟩) :=
    ⟨by rw [hboard]; exact h.sorted, (congrArg Board.wsOpen hboard).trans h.wsOpen⟩
  obtain ⟨frames, hmove⟩ := move_handleTcpData hrecv harr s ⟨w.arrivals, bytes⟩
  rw [hboard] at hmove
  exact ⟨frames, hmove⟩

/-! ### Every step -/

/-- The events that leave a switchboard up, handed what a bridge can send. -/
structure Ordinary (e : SwitchboardEvent) : Prop where
  wsClosing : e ≠ .wsClosing
  cleanup : e ≠ .cleanup
  opens : ∀ s extra, e = .json (.tcpOpen s extra) → s < agentReverseIdBase
  acks : ∀ s, e = .json (.tcpOpenAck s false) → agentReverseIdBase ≤ s

/-- A step of an open switchboard is a move, when it only opens a free id of its half. -/
theorem move_step (h : Sorting w) {e : SwitchboardEvent} (hordinary : Ordinary e)
    (hopens : ∀ extra, e = .openReverseStream extra → w.totalStreamCount extra < maxStreamsPerTunnel →
      agentReverseIdBase ≤ w.reverseStreamIds.next ∧
        w.reverseTcpStreams.get? w.reverseStreamIds.next = none) :
    ∃ frames, Move (w.cause e) w.board (w.step e).board frames := by
  have hrest : ∀ {e'}, (w.cause e').arriving = none → Move (w.cause e') w.board w.board [] :=
    fun hnone => move_rest (deaf_of_none hnone)
  cases e with
  | elapse ms => exact ⟨_, hrest rfl⟩
  | timeout s => exact move_timeout h rfl s
  | wsClosing => exact absurd rfl hordinary.wsClosing
  | cleanup => exact absurd rfl hordinary.cleanup
  | json frame =>
    cases frame with
    | tcpOpen s extra => exact move_onTcpOpen h (hordinary.opens s extra rfl) extra rfl
    | tcpOpenAck s ok =>
      change ∃ frames, Move _ _
        (if s < agentReverseIdBase then w else w.onTcpOpenAckReverse s ok).board frames
      split
      · next hlow =>
          cases ok with
          | true => exact ⟨_, hrest rfl⟩
          | false =>
            have hhigh := hordinary.acks s rfl
            omega
      · next hhigh => exact move_onTcpOpenAckReverse h (Nat.le_of_not_lt hhigh) ok rfl
    | tcpClose s => exact move_onTcpClose h rfl
    | other => exact ⟨_, hrest rfl⟩
  | tcpData s bytes => exact move_binaryFrame h rfl s bytes
  | dial e event => exact move_dialEvent h rfl e event
  | openReverseStream extra =>
    refine move_openReverseStream h rfl extra fun hcount => ?_
    obtain ⟨hhigh, hfree⟩ := hopens extra rfl hcount
    exact ⟨⟨extra, rfl, hcount, rfl⟩, hhigh, hfree⟩
  | handle k call => exact move_handleCall h rfl k call

/-- A move keeps an open switchboard sorted. -/
theorem Sorting.step (h : Sorting w) {e : SwitchboardEvent} {frames : List SwitchboardFrame}
    (hm : Move (w.cause e) w.board (w.step e).board frames)
    (hfree : ∀ s, e.tells = some (s, .opens) → ∀ e resolving,
      w.board.pending e ≠ some (s, resolving)) : Sorting (w.step e) :=
  ⟨h.sorted.move hm hfree, hm.keeps.wsOpen.trans h.wsOpen⟩

/-- A new switchboard is sorted. -/
theorem sorting_new : Sorting TcpStreamSwitchboard.new :=
  ⟨⟨fun _ hs => absurd rfl hs, fun _ hs => absurd rfl hs, nofun, nofun⟩, rfl⟩

end Moves

end TcpStreamSwitchboard

end Sencho.Mesh

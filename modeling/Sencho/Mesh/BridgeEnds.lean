import Sencho.Mesh.BridgeBytes
import Sencho.Mesh.Tunnel

/-!
# The ends at the bridge

What a step of a bridge does to the TCP streams it holds, to what can still act for them, and to
the notices it sends.  Dispatches, local sockets and targets act by the id of their stream, so the
invariant says that an id has at most one of them, which belongs to the stored state of the id.
-/

namespace Sencho.Mesh

open Verified Function
open Verified.Release
open Streams

/-- A dispatch that goes on, a socket with events to come or a target that is not gone. -/
inductive Task where
  | dispatch (n : Nat) (d : Dispatch)
  | socket (k stream : Nat)
  | target (k stream : Nat)

/-- The id a task acts on. -/
def Task.id : Task → Nat
  | .dispatch _ d => d.stream
  | .socket _ s => s
  | .target _ s => s

/-- The TCP streams of a bridge, the ids that it stores something else under, what can still act for
a stream, and what left the bridge. -/
structure Control where
  held : Nat → Option (Nat × HeldKind)
  others : Nat → Prop
  tasks : Task → Prop
  closed : Bool
  wsOpen : Bool
  sent : List Frame
  emitted : List (Nat × HandleEvent)

namespace Control

/-- An id is held. -/
def holds (c : Control) (s : Nat) : Bool := (c.held s).isSome

/-- What the frames say of a stream. -/
def noticesFor (s : Nat) (frames : List Frame) : List Notice :=
  frames.filterMap fun frame => noticeFor s frame.tells

/-- What a step is for: the stream whose owner closes it, the stream that is opened, and the notice
that arrived. -/
structure Cause where
  owned : Nat → Prop
  opening : Nat → Prop
  arriving : Option (Nat × Notice)

variable {c c' : Control} {cause : Cause} {frames : List Frame}

/-- The parts that a step leaves alone, and the frames it sends. -/
structure Keeps (c c' : Control) (frames : List Frame) (spared : Nat → Prop) : Prop where
  closed : c'.closed = c.closed
  wsOpen : c'.wsOpen = c.wsOpen
  others : ∀ s, agentReverseIdBase ≤ s → c'.others s → c.others s
  targets : ∀ k s, spared s → c.tasks (.target k s) → c'.tasks (.target k s)
  sent : c'.sent = c.sent ++ frames

/-- The owner of a state is told that it is closed. -/
def Tells (c c' : Control) (r : Nat) : Prop :=
  ∃ events, c'.emitted = c.emitted ++ events ∧ (r, .close) ∈ events

/-- A stream is dropped, with its target. -/
structure Drops (c c' : Control) (s : Nat) (entry : Nat × HeldKind) : Prop where
  entry : c.held s = some entry
  held : c'.held = update c.held s none
  others : ¬ c'.others s
  tasks : ∀ x, c'.tasks x → c.tasks x
  gone : ∀ k, ¬ c'.tasks (.target k s)

/-- A frame that closes a stream.  Only streams of the agent are refused. -/
def Closing (s : Nat) (f : Frame) : Prop :=
  f = .tcpClose s ∨ f = .tcpOpenAck s false ∧ agentReverseIdBase ≤ s

theorem Closing.tells {s : Nat} {f : Frame} (h : Closing s f) : f.tells = some (s, .closes) := by
  rcases h with hclose | ⟨hack, _⟩
  · rw [hclose]
    rfl
  · rw [hack]
    rfl

/-- What a step of a bridge does to its TCP streams. -/
inductive Move (cause : Cause) (c c' : Control) : List Frame → Prop
  | quiet {frames : List Frame}
      (hdeaf : ∀ s n, cause.arriving = some (s, n) → n = .closes ∧ c.held s = none)
      (hheld : c'.held = c.held) (htasks : ∀ x, c'.tasks x → c.tasks x)
      (hkeeps : Keeps c c' frames fun _ => True) (hsilent : ∀ f ∈ frames, f.tells = none) :
      Move cause c c' frames
  | ends {s : Nat} {entry : Nat × HeldKind} {f : Frame} (harr : cause.arriving = none)
      (hdrops : Drops c c' s entry) (hkeeps : Keeps c c' [f] (· ≠ s)) (hcloses : Closing s f)
      (htold : entry.2 = .tcp → Tells c c' entry.1 ∨ cause.owned s) : Move cause c c' [f]
  | drops {s : Nat} {entry : Nat × HeldKind} (harr : cause.arriving = some (s, .closes))
      (hdrops : Drops c c' s entry) (hkeeps : Keeps c c' [] (· ≠ s))
      (htold : entry.2 = .tcp → Tells c c' entry.1) : Move cause c c' []
  | opens {s r : Nat} (harr : cause.arriving = none) (hopn : cause.opening s)
      (hlow : s < agentReverseIdBase) (hent : c.held s = none)
      (hheld : c'.held = update c.held s (some (r, .tcp))) (htasks : ∀ x, c'.tasks x → c.tasks x)
      (hkeeps : Keeps c c' [.tcpOpen s] fun _ => True) : Move cause c c' [.tcpOpen s]
  | accepts {s r n : Nat} (harr : cause.arriving = some (s, .opens))
      (hhigh : agentReverseIdBase ≤ s) (hent : c.held s = none)
      (hheld : c'.held = update c.held s (some (r, .reverseLocal)))
      (htasks : ∀ x, c'.tasks x → c.tasks x ∨ x = .dispatch n ⟨s, r, .importing⟩)
      (hkeeps : Keeps c c' [] fun _ => True) : Move cause c c' []
  | refuses {s : Nat} (harr : cause.arriving = some (s, .opens))
      (hhigh : agentReverseIdBase ≤ s) (hheld : c'.held = c.held)
      (htasks : ∀ x, c'.tasks x → c.tasks x)
      (hkeeps : Keeps c c' [.tcpOpenAck s false] fun _ => True) :
      Move cause c c' [.tcpOpenAck s false]
  | strays {n : Nat} {d : Dispatch} (harr : cause.arriving = none)
      (htask : c.tasks (.dispatch n d)) (hent : c.held d.stream = none)
      (hheld : c'.held = c.held) (htasks : ∀ x, c'.tasks x → c.tasks x)
      (hkeeps : Keeps c c' [.tcpOpenAck d.stream false] fun _ => True) :
      Move cause c c' [.tcpOpenAck d.stream false]
  | goesOn {n : Nat} {d : Dispatch} {y : Task} {r : Nat} (harr : cause.arriving = none)
      (htask : c.tasks (.dispatch n d)) (hent : c.held d.stream = some (r, .reverseLocal))
      (hheld : c'.held = c.held) (hid : y.id = d.stream) (hkind : ∀ k s, y ≠ .target k s)
      (hcaptured : ∀ n' d', y = .dispatch n' d' → d'.reservation = d.reservation ∧
        ∀ r', d'.stage = .resolving r' ∨ d'.stage = .ensuringBridge r' → r' = r)
      (htasks : ∀ x, c'.tasks x → (c.tasks x ∧ x ≠ .dispatch n d) ∨ x = y)
      (hkeeps : Keeps c c' [] fun _ => True) : Move cause c c' []
  | swaps {n : Nat} {d : Dispatch} {r r' k : Nat} (harr : cause.arriving = none)
      (htask : c.tasks (.dispatch n d)) (hent : c.held d.stream = some (r, .reverseLocal))
      (hheld : c'.held = update c.held d.stream (some (r', .reverseRelay k)))
      (htasks : ∀ x, c'.tasks x → (c.tasks x ∧ x ≠ .dispatch n d) ∨ x = .target k d.stream)
      (hnew : c'.tasks (.target k d.stream)) (hkeeps : Keeps c c' [] fun _ => True) :
      Move cause c c' []

/-! ## Tasks -/

/-- An id has at most one task, which belongs to what is stored, and relays and their targets come
and go together. -/
structure Tended (c : Control) : Prop where
  alone : ∀ x y, c.tasks x → c.tasks y → x.id = y.id → x = y
  own : ∀ n d r kind, c.tasks (.dispatch n d) → c.held d.stream = some (r, kind) →
    r = d.reservation
  captured : ∀ n d r, c.tasks (.dispatch n d) →
    d.stage = .resolving r ∨ d.stage = .ensuringBridge r → r = d.reservation
  targeted : ∀ k s, c.tasks (.target k s) → ∃ r, c.held s = some (r, .reverseRelay k)
  relayed : ∀ s r k, c.held s = some (r, .reverseRelay k) → c.tasks (.target k s)
  high : ∀ x, c.tasks x → agentReverseIdBase ≤ x.id
  halves : ∀ s r kind, c.held s = some (r, kind) → (kind = .tcp ↔ s < agentReverseIdBase)
  others : ∀ s, agentReverseIdBase ≤ s → ¬ c.others s

section

variable (h : Tended c)
include h

namespace Tended

/-- Nothing told, nothing freed. -/
theorem quiet (hheld : c'.held = c.held) (htasks : ∀ x, c'.tasks x → c.tasks x)
    (hkeeps : Keeps c c' frames fun _ => True) :
    Tended c' where
  alone := fun x y hx hy => h.alone x y (htasks x hx) (htasks y hy)
  own := fun n d r kind htask hent =>
    h.own n d r kind (htasks _ htask) (by rw [← hheld]; exact hent)
  captured := fun n d r htask => h.captured n d r (htasks _ htask)
  targeted := fun k s htask => by
    rw [hheld]
    exact h.targeted k s (htasks _ htask)
  relayed := fun s r k hent =>
    hkeeps.targets k s trivial (h.relayed s r k (by rw [← hheld]; exact hent))
  high := fun x hx => h.high x (htasks x hx)
  halves := fun s r kind hent => h.halves s r kind (by rw [← hheld]; exact hent)
  others := fun s hs hother => h.others s hs (hkeeps.others s hs hother)

/-- The id is freed and told. -/
theorem drop {s : Nat} {entry : Nat × HeldKind} (hdrops : Drops c c' s entry)
    (hkeeps : Keeps c c' frames (· ≠ s)) : Tended c' where
  alone := fun x y hx hy => h.alone x y (hdrops.tasks x hx) (hdrops.tasks y hy)
  own := by
    intro n d r kind htask hent
    rw [hdrops.held] at hent
    rcases update_cases hent with ⟨_, hnone⟩ | ⟨_, hold⟩
    · exact nomatch hnone
    · exact h.own n d r kind (hdrops.tasks _ htask) hold
  captured := fun n d r htask => h.captured n d r (hdrops.tasks _ htask)
  targeted := by
    intro k s' htask
    by_cases hs : s' = s
    · rw [hs] at htask
      exact absurd htask (hdrops.gone k)
    · rw [hdrops.held, update_of_ne hs]
      exact h.targeted k s' (hdrops.tasks _ htask)
  relayed := by
    intro s' r k hent
    rw [hdrops.held] at hent
    rcases update_cases hent with ⟨_, hnone⟩ | ⟨hs, hold⟩
    · exact nomatch hnone
    · exact hkeeps.targets k s' hs (h.relayed s' r k hold)
  high := fun x hx => h.high x (hdrops.tasks x hx)
  halves := by
    intro s' r kind hent
    rw [hdrops.held] at hent
    rcases update_cases hent with ⟨_, hnone⟩ | ⟨_, hold⟩
    · exact nomatch hnone
    · exact h.halves s' r kind hold
  others := fun s' hs hother => h.others s' hs (hkeeps.others s' hs hother)

/-- An id without tasks gets a stored state that is no relay. -/
theorem take {s r : Nat} {kind : HeldKind} (hrelay : ∀ k, kind ≠ .reverseRelay k)
    (hkind : kind = .tcp ↔ s < agentReverseIdBase) (hfree : ∀ x, c.tasks x → x.id ≠ s)
    (hheld : c'.held = update c.held s (some (r, kind))) (htasks : ∀ x, c'.tasks x → c.tasks x)
    (hkeeps : Keeps c c' frames fun _ => True) : Tended c' where
  alone := fun x y hx hy => h.alone x y (htasks x hx) (htasks y hy)
  own := by
    intro n d r' kind' htask hent
    have hne : d.stream ≠ s := hfree _ (htasks _ htask)
    rw [hheld, update_of_ne hne] at hent
    exact h.own n d r' kind' (htasks _ htask) hent
  captured := fun n d r' htask => h.captured n d r' (htasks _ htask)
  targeted := by
    intro k s' htask
    have hne : s' ≠ s := hfree _ (htasks _ htask)
    rw [hheld, update_of_ne hne]
    exact h.targeted k s' (htasks _ htask)
  relayed := by
    intro s' r' k hent
    rw [hheld] at hent
    rcases update_cases hent with ⟨_, hnew⟩ | ⟨_, hold⟩
    · exact absurd (congrArg Prod.snd (Option.some.inj hnew)) (hrelay k)
    · exact hkeeps.targets k s' trivial (h.relayed s' r' k hold)
  high := fun x hx => h.high x (htasks x hx)
  halves := by
    intro s' r' kind' hent
    rw [hheld] at hent
    rcases update_cases hent with ⟨hs, hnew⟩ | ⟨_, hold⟩
    · have hkinds : kind = kind' := congrArg Prod.snd (Option.some.inj hnew)
      rw [← hkinds, hs]
      exact hkind
    · exact h.halves s' r' kind' hold
  others := fun s' hs hother => h.others s' hs (hkeeps.others s' hs hother)

/-- The only task of a stored reservation is replaced by another. -/
theorem replace {x₀ : Task} (hheld : c'.held = c.held) (hkind : ∀ k s, x₀ ≠ .target k s)
    (hhigh : agentReverseIdBase ≤ x₀.id)
    (howns : ∀ n d, x₀ = .dispatch n d → (∀ r kind, c.held d.stream = some (r, kind) →
      r = d.reservation) ∧
      ∀ r, d.stage = .resolving r ∨ d.stage = .ensuringBridge r → r = d.reservation)
    (htasks : ∀ x, c'.tasks x → (c.tasks x ∧ x.id ≠ x₀.id) ∨ x = x₀)
    (hkeeps : Keeps c c' frames fun _ => True) : Tended c' where
  alone := by
    intro x y hx hy hid
    rcases htasks x hx with ⟨hxold, hxid⟩ | hxnew
    · rcases htasks y hy with ⟨hyold, _⟩ | hynew
      · exact h.alone x y hxold hyold hid
      · rw [hynew] at hid
        exact absurd hid hxid
    · rcases htasks y hy with ⟨_, hyid⟩ | hynew
      · rw [hxnew] at hid
        exact absurd hid.symm hyid
      · rw [hxnew, hynew]
  own := by
    intro n d r kind htask hent
    rw [hheld] at hent
    rcases htasks _ htask with ⟨hold, _⟩ | hnew
    · exact h.own n d r kind hold hent
    · exact (howns n d hnew.symm).1 r kind hent
  captured := by
    intro n d r htask hstage
    rcases htasks _ htask with ⟨hold, _⟩ | hnew
    · exact h.captured n d r hold hstage
    · exact (howns n d hnew.symm).2 r hstage
  targeted := by
    intro k s htask
    rw [hheld]
    rcases htasks _ htask with ⟨hold, _⟩ | hnew
    · exact h.targeted k s hold
    · exact absurd hnew.symm (hkind k s)
  relayed := by
    intro s r k hent
    rw [hheld] at hent
    exact hkeeps.targets k s trivial (h.relayed s r k hent)
  high := by
    intro x hx
    rcases htasks x hx with ⟨hold, _⟩ | hnew
    · exact h.high x hold
    · rw [hnew]
      exact hhigh
  halves := fun s r kind hent => h.halves s r kind (by rw [← hheld]; exact hent)
  others := fun s hs hother => h.others s hs (hkeeps.others s hs hother)

/-- A free id is reserved. -/
theorem accept {s r n : Nat} (hhigh : agentReverseIdBase ≤ s) (hfree : ∀ x, c.tasks x → x.id ≠ s)
    (hheld : c'.held = update c.held s (some (r, .reverseLocal)))
    (htasks : ∀ x, c'.tasks x → c.tasks x ∨ x = .dispatch n ⟨s, r, .importing⟩)
    (hkeeps : Keeps c c' frames fun _ => True) : Tended c' := by
  have htaken : Tended { c' with tasks := c.tasks } := by
    have hkind : HeldKind.reverseLocal = .tcp ↔ s < agentReverseIdBase := by
      constructor
      · intro hno
        exact nomatch hno
      · intro hlow
        omega
    have hrelay : ∀ k, HeldKind.reverseLocal ≠ .reverseRelay k := by
      intro k hno
      cases hno
    exact h.take hrelay hkind hfree hheld (fun _ hx => hx)
      ⟨hkeeps.closed, hkeeps.wsOpen, hkeeps.others, fun _ _ _ hx => hx, hkeeps.sent⟩
  have hkind : ∀ k s', Task.dispatch n ⟨s, r, .importing⟩ ≠ .target k s' := by
    intro k s' hno
    cases hno
  refine htaken.replace rfl hkind hhigh ?_ ?_
    ⟨rfl, rfl, fun _ _ hother => hother, hkeeps.targets, (List.append_nil _).symm⟩
  · intro n' d hd
    injection hd with hn hd
    subst hd
    constructor
    · intro r' kind hent
      rw [hheld, update_self] at hent
      exact (congrArg Prod.fst (Option.some.inj hent)).symm
    · intro r' hstage
      rcases hstage with hno | hno
      · exact nomatch hno
      · exact nomatch hno
  · intro x hx
    rcases htasks x hx with hold | hnew
    · exact .inl ⟨hold, hfree x hold⟩
    · exact .inr hnew

/-- A dispatch goes on. -/
theorem goOn {n : Nat} {d : Dispatch} {x₀ : Task} {r : Nat} (htask : c.tasks (.dispatch n d))
    (hent : c.held d.stream = some (r, .reverseLocal)) (hheld : c'.held = c.held)
    (hid : x₀.id = d.stream) (hkind : ∀ k s, x₀ ≠ .target k s)
    (hcaptured : ∀ n' d', x₀ = .dispatch n' d' → d'.reservation = d.reservation ∧
      ∀ r', d'.stage = .resolving r' ∨ d'.stage = .ensuringBridge r' → r' = r)
    (htasks : ∀ x, c'.tasks x → (c.tasks x ∧ x ≠ .dispatch n d) ∨ x = x₀)
    (hkeeps : Keeps c c' frames fun _ => True) : Tended c' := by
  have hr : r = d.reservation := h.own n d r .reverseLocal htask hent
  refine h.replace hheld hkind ?_ ?_ ?_ hkeeps
  · rw [hid]
    exact h.high _ htask
  · intro n' d' hd
    obtain ⟨hreservation, hstages⟩ := hcaptured n' d' hd
    have hstream : d'.stream = d.stream := by
      rw [hd] at hid
      exact hid
    constructor
    · intro r' kind hst
      rw [hstream] at hst
      rw [hreservation]
      exact h.own n d r' kind htask hst
    · intro r' hstage
      rw [hstages r' hstage, hreservation]
      exact hr
  · intro x hx
    rcases htasks x hx with ⟨hold, hne⟩ | hnew
    · refine .inl ⟨hold, fun hsame => hne ?_⟩
      rw [hid] at hsame
      exact h.alone x _ hold htask hsame
    · exact .inr hnew

/-- A relay takes the place of a reservation, and its target that of the dispatch. -/
theorem swap {n : Nat} {d : Dispatch} {r' k : Nat} (htask : c.tasks (.dispatch n d))
    (hheld : c'.held = update c.held d.stream (some (r', .reverseRelay k)))
    (htasks : ∀ x, c'.tasks x → (c.tasks x ∧ x ≠ .dispatch n d) ∨ x = .target k d.stream)
    (hnew : c'.tasks (.target k d.stream)) (hkeeps : Keeps c c' frames fun _ => True) :
    Tended c' := by
  have halone : ∀ x, c'.tasks x → x.id = d.stream → x = .target k d.stream := by
    intro x hx hid
    rcases htasks x hx with ⟨hold, hne⟩ | hsame
    · exact absurd (h.alone x _ hold htask hid) hne
    · exact hsame
  have hother : ∀ x, c'.tasks x → x.id ≠ d.stream → c.tasks x := by
    intro x hx hid
    rcases htasks x hx with ⟨hold, _⟩ | hsame
    · exact hold
    · rw [hsame] at hid
      exact absurd rfl hid
  constructor
  · intro x y hx hy hid
    by_cases hs : x.id = d.stream
    · have hs' : y.id = d.stream := by
        rw [← hid]
        exact hs
      rw [halone x hx hs, halone y hy hs']
    · have hs' : y.id ≠ d.stream := by
        rw [← hid]
        exact hs
      exact h.alone x y (hother x hx hs) (hother y hy hs') hid
  · intro n' d' r₁ kind hx hst
    by_cases hs : d'.stream = d.stream
    · exact nomatch halone _ hx hs
    · rw [hheld, update_of_ne hs] at hst
      exact h.own n' d' r₁ kind (hother _ hx hs) hst
  · intro n' d' r₁ hx hstage
    by_cases hs : d'.stream = d.stream
    · exact nomatch halone _ hx hs
    · exact h.captured n' d' r₁ (hother _ hx hs) hstage
  · intro k' s hx
    by_cases hs : s = d.stream
    · have hk : k' = k := by
        have hsame := halone _ hx hs
        injection hsame
      rw [hheld, hs, hk, update_self]
      exact ⟨r', rfl⟩
    · rw [hheld, update_of_ne hs]
      exact h.targeted k' s (hother _ hx hs)
  · intro s r₁ k' hst
    rw [hheld] at hst
    rcases update_cases hst with ⟨hs, hsame⟩ | ⟨_, hold⟩
    · injection hsame with hsame
      injection hsame with _ hkinds
      injection hkinds with hk
      rw [hs, ← hk]
      exact hnew
    · exact hkeeps.targets k' s trivial (h.relayed s r₁ k' hold)
  · intro x hx
    by_cases hs : x.id = d.stream
    · rw [hs]
      exact h.high _ htask
    · exact h.high x (hother x hx hs)
  · intro s r₁ kind hst
    rw [hheld] at hst
    rcases update_cases hst with ⟨hs, hsame⟩ | ⟨_, hold⟩
    · injection hsame with hsame
      injection hsame with _ hkinds
      have hhigh : agentReverseIdBase ≤ d.stream := h.high _ htask
      rw [hs, ← hkinds]
      constructor
      · intro hno
        exact nomatch hno
      · intro hlow
        omega
    · exact h.halves s r₁ kind hold
  · exact fun s hs hno => h.others s hs (hkeeps.others s hs hno)

/-- Every move keeps the tasks tended, when an open only arrives for an id without tasks. -/
theorem move (hm : Move cause c c' frames)
    (hfree : ∀ s, cause.arriving = some (s, .opens) → ∀ x, c.tasks x → x.id ≠ s) : Tended c' := by
  cases hm with
  | quiet _ hheld htasks hkeeps _ => exact h.quiet hheld htasks hkeeps
  | ends _ hdrops hkeeps _ _ | drops _ hdrops hkeeps _ => exact h.drop hdrops hkeeps
  | @opens s r _ _ hlow _ hheld htasks hkeeps =>
    have hidle : ∀ x, c.tasks x → x.id ≠ s := by
      intro x hx
      have hhigh := h.high x hx
      omega
    have hrelay : ∀ k, HeldKind.tcp ≠ .reverseRelay k := by
      intro k hno
      cases hno
    exact h.take hrelay ⟨fun _ => hlow, fun _ => rfl⟩ hidle hheld htasks hkeeps
  | accepts harr hhigh _ hheld htasks hkeeps =>
    exact h.accept hhigh (hfree _ harr) hheld htasks hkeeps
  | refuses _ _ hheld htasks hkeeps => exact h.quiet hheld htasks hkeeps
  | strays _ _ _ hheld htasks hkeeps => exact h.quiet hheld htasks hkeeps
  | goesOn _ htask hent hheld hid hkind hcaptured htasks hkeeps =>
    exact h.goOn htask hent hheld hid hkind hcaptured htasks hkeeps
  | swaps _ htask _ hheld htasks hnew hkeeps =>
    exact h.swap htask hheld htasks hnew hkeeps

end Tended

end

/-! ## Each stream -/

theorem noticesFor_eq (s : Nat) (frames : List Frame) :
    noticesFor s frames = said s (frames.filterMap Frame.tells) :=
  (List.filterMap_filterMap ..).symm

section

variable (hm : Move cause c c' frames)
include hm

/-- A move does at each stream what an end that opens the ids of the primary can do. -/
theorem Move.acts (h : Tended c) (s : Nat) :
    Acts (s < agentReverseIdBase) (cause.opening s) (∃ x, c.tasks x ∧ x.id = s) (c.held s)
      (c'.held s) (heard s cause.arriving) (said s (frames.filterMap Frame.tells)) := by
  have hat : ∀ {s' entry} (arriving : Option Notice) (sent : List Notice),
      c'.held = update c.held s' entry →
      Acts (s' < agentReverseIdBase) (cause.opening s') (∃ x, c.tasks x ∧ x.id = s') (c.held s')
        entry arriving sent →
      Acts (s < agentReverseIdBase) (cause.opening s) (∃ x, c.tasks x ∧ x.id = s) (c.held s)
        (c'.held s) (heard s (arriving.map fun n => (s', n)))
        (said s (sent.map fun n => (s', n))) := by
    intro s' entry arriving sent hheld hacts
    refine acts_only (· < agentReverseIdBase) (fun s => ∃ x, c.tasks x ∧ x.id = s) ?_
      (fun s'' hs => by rw [hheld, update_of_ne hs]) s
    rw [hheld, update_self]
    exact hacts
  have hsame : ∀ s', c'.held = c.held → c'.held = update c.held s' (c.held s') := by
    intro s' hheld
    rw [hheld, update_eq_self]
  cases hm with
  | quiet hdeaf hheld _ _ hsilent =>
    rw [List.filterMap_eq_nil_iff.mpr hsilent]
    exact acts_quiet hdeaf hheld s
  | ends harr hdrops _ hcloses _ =>
    rw [harr, List.filterMap_cons_some hcloses.tells]
    refine hat none [.closes] hdrops.held ?_
    rw [hdrops.entry]
    exact .ends
  | drops harr hdrops _ _ =>
    rw [harr]
    exact hat (some .closes) [] hdrops.held .told
  | opens harr hopn hlow hent hheld _ _ =>
    rw [harr]
    refine hat none [.opens] hheld ?_
    rw [hent]
    exact .opens hlow hopn
  | accepts harr hhigh _ hheld _ _ =>
    rw [harr]
    exact hat (some .opens) [] hheld (.accepts (Nat.not_lt.mpr hhigh))
  | @refuses s' harr hhigh hheld _ _ =>
    rw [harr]
    exact hat (some .opens) [.closes] (hsame s' hheld) (.refuses (Nat.not_lt.mpr hhigh))
  | @strays n d harr htask hent hheld _ _ =>
    rw [harr]
    refine hat none [.closes] (hsame d.stream hheld) ?_
    rw [hent]
    exact .strays (Nat.not_lt.mpr (h.high _ htask)) ⟨_, htask, rfl⟩
  | @goesOn n d y r harr _ _ hheld _ _ _ _ _ =>
    rw [harr]
    exact hat none [] (hsame d.stream hheld) .stays
  | swaps harr _ hent hheld _ _ _ =>
    rw [harr]
    refine hat none [] hheld ?_
    rw [hent]
    exact .changes

/-- A task is new only for an open that arrived. -/
theorem Move.task_cases {x : Task} (hx : c'.tasks x) :
    (∃ y, c.tasks y ∧ y.id = x.id) ∨ cause.arriving = some (x.id, .opens) := by
  cases hm with
  | quiet _ _ htasks _ _ | opens _ _ _ _ _ htasks _ | refuses _ _ _ htasks _
  | strays _ _ _ _ htasks _ => exact .inl ⟨x, htasks x hx, rfl⟩
  | ends _ hdrops _ _ _ | drops _ hdrops _ _ => exact .inl ⟨x, hdrops.tasks x hx, rfl⟩
  | accepts harr _ _ _ htasks _ =>
    rcases htasks x hx with hold | hnew
    · exact .inl ⟨x, hold, rfl⟩
    · rw [hnew]
      exact .inr harr
  | goesOn _ htask _ _ hid _ _ htasks _ =>
    rcases htasks x hx with ⟨hold, _⟩ | hnew
    · exact .inl ⟨x, hold, rfl⟩
    · rw [hnew]
      exact .inl ⟨_, htask, hid.symm⟩
  | swaps _ htask _ _ htasks _ _ =>
    rcases htasks x hx with ⟨hold, _⟩ | hnew
    · exact .inl ⟨x, hold, rfl⟩
    · rw [hnew]
      exact .inl ⟨_, htask, rfl⟩

/-- Only streams of the agent are refused. -/
theorem Move.addressed (h : Tended c) {s : Nat} (hack : .tcpOpenAck s false ∈ frames) :
    agentReverseIdBase ≤ s := by
  cases hm with
  | quiet _ _ _ _ hsilent => exact absurd (hsilent _ hack) (Option.some_ne_none _)
  | ends _ _ _ hcloses _ =>
    have hf := List.mem_singleton.mp hack
    rcases hcloses with hclose | ⟨hrefuse, hhigh⟩
    · rw [hclose] at hf
      exact nomatch hf
    · rw [hrefuse] at hf
      injection hf with hs
      rw [hs]
      exact hhigh
  | opens _ _ _ _ _ _ _ => exact nomatch List.mem_singleton.mp hack
  | refuses _ hhigh _ _ _ =>
    have hf := List.mem_singleton.mp hack
    injection hf with hs
    rw [hs]
    exact hhigh
  | strays _ htask _ _ _ _ =>
    have hf := List.mem_singleton.mp hack
    injection hf with hs
    rw [hs]
    exact h.high _ htask
  | drops _ _ _ _ | accepts _ _ _ _ _ _ | goesOn _ _ _ _ _ _ _ _ _ | swaps _ _ _ _ _ _ _ =>
    exact nomatch hack

/-- What every move keeps of the bridge itself. -/
theorem Move.up : c'.closed = c.closed ∧ c'.wsOpen = c.wsOpen ∧ c'.sent = c.sent ++ frames := by
  cases hm with
  | quiet _ _ _ hkeeps _ | ends _ _ hkeeps _ _ | drops _ _ hkeeps _ | opens _ _ _ _ _ _ hkeeps
  | accepts _ _ _ _ _ hkeeps | refuses _ _ _ _ hkeeps | strays _ _ _ _ _ hkeeps
  | goesOn _ _ _ _ _ _ _ _ hkeeps | swaps _ _ _ _ _ _ hkeeps =>
    exact ⟨hkeeps.closed, hkeeps.wsOpen, hkeeps.sent⟩

/-- The owner of a stream that the primary opened is told that it is gone, unless it closed it. -/
theorem Move.tells {s r : Nat} (hheld : c.held s = some (r, .tcp)) (hgone : c'.held s = none) :
    Tells c c' r ∨ cause.owned s := by
  have hkept : ∀ {s' entry}, c'.held = update c.held s' (some entry) → False := by
    intro s' entry hupdate
    rw [hupdate] at hgone
    by_cases hs : s = s'
    · rw [hs, update_self] at hgone
      exact nomatch hgone
    · rw [update_of_ne hs, hheld] at hgone
      exact nomatch hgone
  have hsame : c'.held = c.held → False := by
    intro hsame
    rw [hsame, hheld] at hgone
    exact nomatch hgone
  have hdropped : ∀ {s' entry}, Drops c c' s' entry → s' = s ∧ entry = (r, HeldKind.tcp) := by
    intro s' entry hdrops
    by_cases hs : s = s'
    · refine ⟨hs.symm, ?_⟩
      have hent := hdrops.entry
      rw [← hs, hheld] at hent
      exact (Option.some.inj hent).symm
    · rw [hdrops.held, update_of_ne hs, hheld] at hgone
      exact nomatch hgone
  cases hm with
  | quiet _ hold _ _ _ => exact absurd hold hsame
  | ends _ hdrops _ _ htold =>
    obtain ⟨hs, hent⟩ := hdropped hdrops
    rw [hs, hent] at htold
    exact htold rfl
  | drops _ hdrops _ htold =>
    obtain ⟨_, hent⟩ := hdropped hdrops
    rw [hent] at htold
    exact .inl (htold rfl)
  | opens _ _ _ _ hold _ _ | accepts _ _ _ hold _ _ => exact absurd hold hkept
  | refuses _ _ hold _ _ | strays _ _ _ hold _ _ | goesOn _ _ _ hold _ _ _ _ _ =>
    exact absurd hold hsame
  | swaps _ _ _ hold _ _ _ => exact absurd hold hkept

end

end Control

end Sencho.Mesh

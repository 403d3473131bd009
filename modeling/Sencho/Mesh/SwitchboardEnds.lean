import Sencho.Mesh.Tunnel
import Sencho.Mesh.ReverseFlow

/-!
# The ends at the switchboard

What a step of a switchboard does to the streams it stores, to the opens that can still refuse a
stream, and to the notices it sends.
-/

namespace Sencho.Mesh

open Verified
open Verified.Release
open Streams
open Function (update)

/-- The streams of a switchboard, and the opens that can still refuse a stream, with their stream
and whether its target is still being resolved. -/
@[ext]
structure Board where
  forward : Nat → Option Nat
  reverse : Nat → Option Nat
  pending : Nat → Option (Nat × Bool)
  wsOpen : Bool
  sent : List SwitchboardFrame

namespace Board

/-- What is stored under an id, in the map of its half. -/
def stored (d : Board) (s : Nat) : Option Nat :=
  if s < agentReverseIdBase then d.forward s else d.reverse s

/-- An id is stored. -/
def holds (d : Board) (s : Nat) : Bool := (d.stored s).isSome

/-- What the frames say of a stream. -/
def noticesFor (s : Nat) (frames : List SwitchboardFrame) : List Notice :=
  frames.filterMap fun frame => noticeFor s frame.tells

/-- What a step is for: the stream that is opened, and the notice that arrived. -/
structure Cause where
  opening : Nat → Prop
  arriving : Option (Nat × Notice)

variable {d d' : Board} {cause : Cause} {frames : List SwitchboardFrame} {s : Nat}

/-- No open is new, and none goes back to resolving. -/
def Fades (d d' : Board) : Prop :=
  ∀ e s resolving, d'.pending e = some (s, resolving) →
    ∃ resolving', d.pending e = some (s, resolving') ∧ (resolving = true → resolving' = true)

/-- The parts that a step leaves alone, and the frames it sends. -/
structure Keeps (d d' : Board) (frames : List SwitchboardFrame) : Prop where
  wsOpen : d'.wsOpen = d.wsOpen
  forward : ∀ s, d'.forward s ≠ none → d.forward s ≠ none ∨ s < agentReverseIdBase
  reverse : ∀ s, d'.reverse s ≠ none → d.reverse s ≠ none ∨ agentReverseIdBase ≤ s
  sent : d'.sent = d.sent ++ frames

/-- A frame that closes a stream.  Only streams of the primary are refused. -/
def Closing (s : Nat) (f : SwitchboardFrame) : Prop :=
  f = .tcpClose s ∨ f = .tcpOpenAck s false ∧ s < agentReverseIdBase

theorem Closing.tells {f : SwitchboardFrame} (h : Closing s f) : f.tells = some (s, .closes) := by
  rcases h with hclose | ⟨hack, _⟩
  · rw [hclose]
    rfl
  · rw [hack]
    rfl

/-- What a step of a switchboard does to its streams. -/
inductive Move (cause : Cause) (d d' : Board) : List SwitchboardFrame → Prop
  | quiet {frames : List SwitchboardFrame}
      (hdeaf : ∀ s n, cause.arriving = some (s, n) → n = .closes ∧ d.stored s = none)
      (hst : d'.stored = d.stored) (hfades : Fades d d')
      (hkeeps : Keeps d d' frames) (hsilent : ∀ f ∈ frames, f.tells = none) :
      Move cause d d' frames
  | ends {s e : Nat} {f : SwitchboardFrame} (harr : cause.arriving = none)
      (hent : d.stored s = some e) (hst : d'.stored = update d.stored s none)
      (hfades : Fades d d') (hkeeps : Keeps d d' [f]) (hcloses : Closing s f) :
      Move cause d d' [f]
  | drops {s e : Nat} (harr : cause.arriving = some (s, .closes))
      (hent : d.stored s = some e) (hst : d'.stored = update d.stored s none)
      (hfades : Fades d d') (hkeeps : Keeps d d' []) : Move cause d d' []
  | opens {s k : Nat} (harr : cause.arriving = none) (hopn : cause.opening s)
      (hhigh : agentReverseIdBase ≤ s) (hent : d.stored s = none)
      (hst : d'.stored = update d.stored s (some k)) (hfades : Fades d d')
      (hkeeps : Keeps d d' [.tcpOpenReverse s]) : Move cause d d' [.tcpOpenReverse s]
  | accepts {s e : Nat} (harr : cause.arriving = some (s, .opens))
      (hlow : s < agentReverseIdBase) (hst : d'.stored = update d.stored s (some e))
      (hpend : ∀ e' s' resolving, d'.pending e' = some (s', resolving) →
        e' = e ∧ s' = s ∨ d.pending e' = some (s', resolving))
      (hkeeps : Keeps d d' []) : Move cause d d' []
  | refuses {s : Nat} (harr : cause.arriving = some (s, .opens))
      (hlow : s < agentReverseIdBase) (hst : d'.stored = d.stored)
      (hfades : Fades d d') (hkeeps : Keeps d d' [.tcpOpenAck s false]) :
      Move cause d d' [.tcpOpenAck s false]
  | strays {s e : Nat} {resolving : Bool} (harr : cause.arriving = none)
      (htask : d.pending e = some (s, resolving)) (hent : d.stored s = none)
      (hst : d'.stored = d.stored) (hfades : Fades d d')
      (hkeeps : Keeps d d' [.tcpOpenAck s false]) : Move cause d d' [.tcpOpenAck s false]

/-- Both maps keep to their half of the ids, and an open that is being resolved belongs to what is
stored under its id. -/
structure Sorted (d : Board) : Prop where
  low : ∀ s, d.forward s ≠ none → s < agentReverseIdBase
  high : ∀ s, d.reverse s ≠ none → agentReverseIdBase ≤ s
  pending_low : ∀ e s resolving, d.pending e = some (s, resolving) → s < agentReverseIdBase
  own : ∀ e e' s, d.pending e = some (s, true) → d.stored s = some e' → e' = e

/-- A step that only drops. -/
theorem Sorted.keep (h : Sorted d) (hfades : Fades d d') (hkeeps : Keeps d d' frames)
    (hst : ∀ s e, s < agentReverseIdBase → d'.stored s = some e → d.stored s = some e) :
    Sorted d' where
  low := by
    intro s hs
    rcases hkeeps.forward s hs with hold | hlow
    · exact h.low s hold
    · exact hlow
  high := by
    intro s hs
    rcases hkeeps.reverse s hs with hold | hhigh
    · exact h.high s hold
    · exact hhigh
  pending_low := by
    intro e s resolving hpend
    obtain ⟨resolving', hold, _⟩ := hfades e s resolving hpend
    exact h.pending_low e s resolving' hold
  own := by
    intro e e' s hpend hent
    obtain ⟨resolving', hold, hstays⟩ := hfades e s true hpend
    rw [hstays rfl] at hold
    exact h.own e e' s hold (hst s e' (h.pending_low e s true hold) hent)

/-- Every move keeps a board sorted, when an open only arrives for an id without opens. -/
theorem Sorted.move (h : Sorted d) (hm : Move cause d d' frames)
    (hfree : ∀ s, cause.arriving = some (s, .opens) → ∀ e resolving,
      d.pending e ≠ some (s, resolving)) : Sorted d' := by
  cases hm with
  | quiet _ hst hfades hkeeps _ | refuses _ _ hst hfades hkeeps
  | strays _ _ _ hst hfades hkeeps =>
    exact h.keep hfades hkeeps fun s e _ hent => by rw [← hst]; exact hent
  | ends _ _ hst hfades hkeeps _ | drops _ _ hst hfades hkeeps =>
    refine h.keep hfades hkeeps fun s e _ hent => ?_
    rw [hst] at hent
    rcases update_cases hent with ⟨_, hnone⟩ | ⟨_, hold⟩
    · exact nomatch hnone
    · exact hold
  | opens _ _ hhigh _ hst hfades hkeeps =>
    refine h.keep hfades hkeeps fun s e hlow hent => ?_
    rw [hst] at hent
    rcases update_cases hent with ⟨hs, _⟩ | ⟨_, hold⟩
    · omega
    · exact hold
  | @accepts s e harr hlow hst hpend hkeeps =>
    constructor
    · intro s' hs
      rcases hkeeps.forward s' hs with hold | hnew
      · exact h.low s' hold
      · exact hnew
    · intro s' hs
      rcases hkeeps.reverse s' hs with hold | hnew
      · exact h.high s' hold
      · exact hnew
    · intro e' s' resolving hsome
      rcases hpend e' s' resolving hsome with ⟨_, hs⟩ | hold
      · rw [hs]
        exact hlow
      · exact h.pending_low e' s' resolving hold
    · intro e₁ e₂ s' hsome hent
      rw [hst] at hent
      rcases hpend e₁ s' true hsome with ⟨he, hs⟩ | hold
      · rw [hs, Function.update_self] at hent
        rw [he]
        exact (Option.some.inj hent).symm
      · rcases update_cases hent with ⟨hs, _⟩ | ⟨_, hsame⟩
        · rw [hs] at hold
          exact absurd hold (hfree s harr e₁ true)
        · exact h.own e₁ e₂ s' hold hsame

theorem noticesFor_eq (s : Nat) (frames : List SwitchboardFrame) :
    noticesFor s frames = said s (frames.filterMap SwitchboardFrame.tells) :=
  (List.filterMap_filterMap ..).symm

section

variable (hm : Move cause d d' frames)
include hm

/-- A move does at each stream what an end that opens the ids of the agent can do. -/
theorem Move.acts (h : Sorted d) (s : Nat) :
    Acts (¬ s < agentReverseIdBase) (cause.opening s)
      (∃ e resolving, d.pending e = some (s, resolving)) (d.stored s) (d'.stored s)
      (heard s cause.arriving) (said s (frames.filterMap SwitchboardFrame.tells)) := by
  have hat : ∀ {s' entry} (arriving : Option Notice) (sent : List Notice),
      d'.stored = update d.stored s' entry →
      Acts (¬ s' < agentReverseIdBase) (cause.opening s')
        (∃ e resolving, d.pending e = some (s', resolving)) (d.stored s') entry arriving sent →
      Acts (¬ s < agentReverseIdBase) (cause.opening s)
        (∃ e resolving, d.pending e = some (s, resolving)) (d.stored s) (d'.stored s)
        (heard s (arriving.map fun n => (s', n))) (said s (sent.map fun n => (s', n))) := by
    intro s' entry arriving sent hst hacts
    refine acts_only (fun s => ¬ s < agentReverseIdBase)
      (fun s => ∃ e resolving, d.pending e = some (s, resolving)) ?_
      (fun s'' hs => by rw [hst, Function.update_of_ne hs]) s
    rw [hst, Function.update_self]
    exact hacts
  have hsame : ∀ s', d'.stored = d.stored → d'.stored = update d.stored s' (d.stored s') := by
    intro s' hst
    rw [hst, Function.update_eq_self]
  cases hm with
  | quiet hdeaf hst _ _ hsilent =>
    rw [List.filterMap_eq_nil_iff.mpr hsilent]
    exact acts_quiet hdeaf hst s
  | ends harr hent hst _ _ hcloses =>
    rw [harr, List.filterMap_cons_some hcloses.tells]
    refine hat none [.closes] hst ?_
    rw [hent]
    exact .ends
  | drops harr _ hst _ _ =>
    rw [harr]
    exact hat (some .closes) [] hst .told
  | opens harr hopn hhigh hent hst _ _ =>
    rw [harr]
    refine hat none [.opens] hst ?_
    rw [hent]
    exact .opens (Nat.not_lt.mpr hhigh) hopn
  | accepts harr hlow hst _ _ =>
    rw [harr]
    exact hat (some .opens) [] hst (.accepts (not_not_intro hlow))
  | @refuses s' harr hlow hst _ _ =>
    rw [harr]
    exact hat (some .opens) [.closes] (hsame s' hst) (.refuses (not_not_intro hlow))
  | @strays s' e resolving harr htask hent hst _ _ =>
    rw [harr]
    refine hat none [.closes] (hsame s' hst) ?_
    rw [hent]
    exact .strays (not_not_intro (h.pending_low _ _ _ htask)) ⟨_, _, htask⟩

/-- An open is new only for an open that arrived. -/
theorem Move.pending_cases {e : Nat} {resolving : Bool}
    (hsome : d'.pending e = some (s, resolving)) :
    (∃ resolving', d.pending e = some (s, resolving')) ∨ cause.arriving = some (s, .opens) := by
  have hold : Fades d d' → ∃ resolving', d.pending e = some (s, resolving') := by
    intro hfades
    obtain ⟨resolving', hsame, _⟩ := hfades e s resolving hsome
    exact ⟨resolving', hsame⟩
  cases hm with
  | quiet _ _ hfades _ _ | ends _ _ _ hfades _ _ | drops _ _ _ hfades _
  | opens _ _ _ _ _ hfades _ | refuses _ _ _ hfades _ | strays _ _ _ _ hfades _ =>
    exact .inl (hold hfades)
  | accepts harr _ _ hpend _ =>
    rcases hpend e s resolving hsome with ⟨_, hs⟩ | hsame
    · rw [hs]
      exact .inr harr
    · exact .inl ⟨resolving, hsame⟩

/-- Only streams of the primary are refused. -/
theorem Move.addressed (h : Sorted d) (hack : .tcpOpenAck s false ∈ frames) :
    s < agentReverseIdBase := by
  cases hm with
  | quiet _ _ _ _ hsilent => exact absurd (hsilent _ hack) (Option.some_ne_none _)
  | ends _ _ _ _ _ hcloses =>
    have hf := List.mem_singleton.mp hack
    rcases hcloses with hclose | ⟨hrefuse, hlow⟩
    · rw [hclose] at hf
      exact nomatch hf
    · rw [hrefuse] at hf
      injection hf with hs
      rw [hs]
      exact hlow
  | opens _ _ _ _ _ _ _ => exact nomatch List.mem_singleton.mp hack
  | refuses _ hlow _ _ _ =>
    have hf := List.mem_singleton.mp hack
    injection hf with hs
    rw [hs]
    exact hlow
  | strays _ htask _ _ _ _ =>
    have hf := List.mem_singleton.mp hack
    injection hf with hs
    rw [hs]
    exact h.pending_low _ _ _ htask
  | drops _ _ _ _ _ | accepts _ _ _ _ _ => exact nomatch hack

/-- What every move keeps of the switchboard itself. -/
theorem Move.keeps : Keeps d d' frames := by
  cases hm with
  | quiet _ _ _ hkeeps _ | ends _ _ _ _ hkeeps _ | drops _ _ _ _ hkeeps
  | opens _ _ _ _ _ _ hkeeps | accepts _ _ _ _ hkeeps | refuses _ _ _ _ hkeeps
  | strays _ _ _ _ _ hkeeps => exact hkeeps

end

end Board

end Sencho.Mesh

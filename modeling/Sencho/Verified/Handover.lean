import Mathlib.Data.List.Infix

/-!
# Handing a stream over

Items arrive one by one for a sink.  Until the sink is open they are held, and then they are
written as they come.  The rules here say what becomes of the order of the items when one is held,
written past what is held, or flushed.
-/

namespace Sencho.Verified.Handover

open List

variable {α : Type} {live live' open_ open' : Prop} {written held arrived : List α}

/-- While the stream is live nothing is lost, and nothing is held once the sink is open.  What was
written is a prefix of what arrived, also after the stream is gone. -/
structure InOrder (live open_ : Prop) (written held arrived : List α) : Prop where
  none_lost : live → written ++ held = arrived
  none_held : live → open_ → held = []
  initial : written <+: arrived

/-- The order, with what is held still to be written when the stream is gone. -/
structure Queued (live open_ : Prop) (written held arrived : List α) : Prop where
  none_lost : live → written ++ held = arrived
  none_held : open_ → held = []
  initial : written ++ held <+: arrived

section

variable (h : Queued live open_ written held arrived)
include h

theorem Queued.inOrder :
    InOrder live open_ written held arrived where
  none_lost := h.none_lost
  none_held := fun _ hopen => h.none_held hopen
  initial := (prefix_append written held).trans h.initial

theorem Queued.mono (hlive : live' → live) (hopen : open' → open_) :
    Queued live' open' written held arrived where
  none_lost := fun hl => h.none_lost (hlive hl)
  none_held := fun ho => h.none_held (hopen ho)
  initial := h.initial

/-- An item arrives and is held. -/
theorem Queued.hold (hlive : live) (hclosed : ¬ open_) (a : α) :
    Queued live open_ written (held ++ [a]) (arrived ++ [a]) := by
  have heq : written ++ (held ++ [a]) = arrived ++ [a] := by
    rw [← append_assoc, h.none_lost hlive]
  exact ⟨fun _ => heq, fun ho => absurd ho hclosed, heq ▸ prefix_refl _⟩

/-- An item arrives and is written, while nothing is held. -/
theorem Queued.pass (hlive : live) (hnone : held = []) (a : α) :
    Queued live open_ (written ++ [a]) held (arrived ++ [a]) := by
  have heq : written ++ [a] ++ held = arrived ++ [a] := by
    rw [hnone, append_nil, ← h.none_lost hlive, hnone, append_nil]
  exact ⟨fun _ => heq, fun _ => hnone, heq ▸ prefix_refl _⟩

/-- An item arrives for a stream that is gone. -/
theorem Queued.miss (hgone : ¬ live') (a : α) : Queued live' open_ written held (arrived ++ [a]) :=
  ⟨fun hl => absurd hl hgone, h.none_held, h.initial.trans (prefix_append arrived [a])⟩

/-- What is held is written. -/
theorem Queued.flush :
    Queued live open' (written ++ held) [] arrived where
  none_lost := fun hl => by rw [append_nil]; exact h.none_lost hl
  none_held := fun _ => rfl
  initial := by rw [append_nil]; exact h.initial

end

/-- Nothing has come yet. -/
theorem queued_nil : Queued live open_ ([] : List α) [] [] :=
  ⟨fun _ => rfl, fun _ => rfl, prefix_refl _⟩

/-- A fresh item that is written while others are held. -/
theorem not_inOrder_of_overtaken {a : α} (hlost : written ++ held = arrived) (hheld : held ≠ [])
    (hfr : a ∉ arrived) {held' : List α} :
    ¬ InOrder live open_ (written ++ [a]) held' (arrived ++ [a]) := by
  intro h
  cases held with
  | nil => exact hheld rfl
  | cons b held =>
    have hpre := h.initial
    rw [← hlost, append_assoc, prefix_append_right_inj, cons_append, cons_prefix_cons] at hpre
    apply hfr
    rw [← hlost, hpre.1]
    simp

/-- An item that arrives for a live stream and is neither held nor written. -/
theorem not_inOrder_of_lost {a : α} (hlive : live) (hlost : written ++ held = arrived) :
    ¬ InOrder live open_ written held (arrived ++ [a]) := by
  intro h
  have heq := h.none_lost hlive
  rw [hlost] at heq
  have hlength := congrArg List.length heq
  rw [length_append, length_singleton] at hlength
  omega

end Sencho.Verified.Handover

import Mathlib.Logic.Basic
import Mathlib.Tactic.ByCases

/-!
# Interruptible programs

A process that mutates durable state can die between any two of its durable
effects.  This module supplies a small embedding of such programs: a `Prog`
reads its state freely, performs durable effects one at a time, and may be
given a *budget*, the number of effects it performs before it is cut off.
An absent budget is a run that nobody interrupts.

`wp` is the weakest precondition of a program with three conclusions: one for
a normal return, one for a reported error, and one for the state a cut leaves
behind.  Proving a property as the third conclusion proves it for every
interruption point at once.

## Main results

* `wp_bind`, `wp_write`, `wp_read`, `wp_recover`, `wp_each` — the rules a proof applies by
  name.
* `after_of_wp` — a property proved for all three conclusions holds of the
  durable state after a run with any budget.
* `of_wp_done`, `of_wp_failed`, `of_wp_cut` — what is proved for a return, an
  error or a cut holds of a run that ended so.
* `after_bind` — the cases of a run of two programs in sequence.
* `done_of_wp` — a program whose error conclusion is empty returns when
  nobody interrupts it.
-/

namespace Sencho.Verified.Interrupt

/-- How one run of an interruptible program ended. -/
inductive Outcome (ε α : Type) where
  | done (a : α)
  | failed (e : ε)
  | cut
  deriving DecidableEq

/-- The number of durable effects a run may still perform.  `none` is a run
that is never interrupted. -/
abbrev Budget := Option Nat

/-- An interruptible program over durable state `σ` with errors `ε`.  The law
says that only a budget can cut a run off. -/
structure Prog (σ ε α : Type) where
  run : Budget → σ → Outcome ε α × Budget × σ
  uncut : ∀ s, (run none s).1 ≠ .cut ∧ (run none s).2.1 = none

variable {σ ε α β : Type}

namespace Prog

/-- Return a value without an effect. -/
protected def pure (a : α) : Prog σ ε α where
  run b s := (.done a, b, s)
  uncut _ := ⟨by simp, rfl⟩

/-- Report an error.  Effects already performed stay. -/
def fail (e : ε) : Prog σ ε α where
  run b s := (.failed e, b, s)
  uncut _ := ⟨by simp, rfl⟩

/-- Look at the durable state. -/
def read : Prog σ ε σ where
  run b s := (.done s, b, s)
  uncut _ := ⟨by simp, rfl⟩

/-- One durable effect.  It happens completely or, when the budget is used
up, not at all. -/
def write (f : σ → σ) : Prog σ ε Unit where
  run
    | none, s => (.done (), none, f s)
    | some 0, s => (.cut, some 0, s)
    | some (n + 1), s => (.done (), some n, f s)
  uncut _ := ⟨by simp, rfl⟩

/-- Continue with the value a program returned. -/
def bindRun (r : Outcome ε α × Budget × σ) (f : α → Prog σ ε β) :
    Outcome ε β × Budget × σ :=
  match r with
  | (.done a, b, s) => (f a).run b s
  | (.failed e, b, s) => (.failed e, b, s)
  | (.cut, b, s) => (.cut, b, s)

/-- Sequential composition. -/
protected def bind (p : Prog σ ε α) (f : α → Prog σ ε β) : Prog σ ε β where
  run b s := bindRun (p.run b s) f
  uncut s := by
    obtain ⟨hcut, hbud⟩ := p.uncut s
    generalize p.run none s = r at hcut hbud
    obtain ⟨o, b, s'⟩ := r
    subst hbud
    cases o with
    | done a => exact (f a).uncut s'
    | failed e => exact ⟨by simp [bindRun], rfl⟩
    | cut => exact absurd rfl hcut

instance : Monad (Prog σ ε) where
  pure := Prog.pure
  bind := Prog.bind

/-- What a run returned, or what an error stands for. -/
def recoverRun (f : ε → α) (r : Outcome ε α × Budget × σ) : Outcome ε α × Budget × σ :=
  match r with
  | (.failed e, b, s) => (.done (f e), b, s)
  | r => r

/-- Catch an error.  Effects already performed stay. -/
def recover (p : Prog σ ε α) (f : ε → α) : Prog σ ε α where
  run b s := recoverRun f (p.run b s)
  uncut s := by
    obtain ⟨hcut, hbud⟩ := p.uncut s
    generalize p.run none s = r at hcut hbud
    obtain ⟨o, b, s'⟩ := r
    cases o with
    | done a => exact ⟨hcut, hbud⟩
    | failed e => exact ⟨by simp [recoverRun], hbud⟩
    | cut => exact absurd rfl hcut

/-- Run a program for each element, and collect what they return. -/
def each (as : List α) (f : α → Prog σ ε β) : Prog σ ε (List β) :=
  match as with
  | [] => pure []
  | a :: as => do
    let b ← f a
    let bs ← each as f
    return b :: bs

/-- Run an effect only under a condition. -/
def guardedBy (c : Bool) (p : Prog σ ε Unit) : Prog σ ε Unit :=
  if c then p else Prog.pure ()

/-- The durable state one run leaves. -/
def after (p : Prog σ ε α) (b : Budget) (s : σ) : σ := (p.run b s).2.2

/-- How one run ended. -/
def outcome (p : Prog σ ε α) (b : Budget) (s : σ) : Outcome ε α := (p.run b s).1

end Prog

open Prog

/-- The conclusion one finished run has to meet. -/
def Concludes (Q : α → σ → Prop) (E : ε → σ → Prop) (C : σ → Prop)
    (r : Outcome ε α × Budget × σ) : Prop :=
  match r with
  | (.done a, _, s) => Q a s
  | (.failed e, _, s) => E e s
  | (.cut, _, s) => C s

/-- Weakest precondition over every budget: `Q` after a return, `E` after an
error, `C` after a cut. -/
def wp (p : Prog σ ε α) (Q : α → σ → Prop) (E : ε → σ → Prop) (C : σ → Prop)
    (s : σ) : Prop :=
  ∀ b, Concludes Q E C (p.run b s)

section Rules

variable {Q : α → σ → Prop} {E : ε → σ → Prop} {C : σ → Prop} {s : σ}
variable {p : Prog σ ε α}

theorem wp_pure {a : α} (h : Q a s) : wp (pure a) Q E C s := fun _ => h

theorem wp_fail {e : ε} (h : E e s) :
    wp (fail e : Prog σ ε α) Q E C s := fun _ => h

theorem wp_read {Q : σ → σ → Prop} (h : Q s s) : wp read Q E C s := fun _ => h

theorem wp_write {Q : Unit → σ → Prop} {f : σ → σ} (hcut : C s)
    (h : Q () (f s)) : wp (write f) Q E C s := by
  intro b
  match b with
  | none => exact h
  | some 0 => exact hcut
  | some (n + 1) => exact h

theorem wp_bind {f : α → Prog σ ε β} {Q : β → σ → Prop}
    (h : wp p (fun a s' => wp (f a) Q E C s') E C s) : wp (p >>= f) Q E C s := by
  intro b
  have hp := h b
  change Concludes Q E C (bindRun (p.run b s) f)
  generalize p.run b s = r at hp
  obtain ⟨o, b', s'⟩ := r
  cases o with
  | done a => exact hp b'
  | failed e | cut => exact hp

/-- Reading is transparent: the rest of the program runs on the same state. -/
theorem wp_read_bind {f : σ → Prog σ ε β} {Q : β → σ → Prop}
    (h : wp (f s) Q E C s) : wp (read >>= f) Q E C s :=
  wp_bind (wp_read h)

/-- An effect followed by the rest of the program. -/
theorem wp_write_bind {g : σ → σ} {f : Unit → Prog σ ε β} {Q : β → σ → Prop}
    (hcut : C s) (h : wp (f ()) Q E C (g s)) : wp (write g >>= f) Q E C s :=
  wp_bind (wp_write hcut h)

/-- Conclusions may be weakened. -/
theorem wp_mono {Q' : α → σ → Prop} {E' : ε → σ → Prop} {C' : σ → Prop} (h : wp p Q E C s)
    (hQ : ∀ a t, Q a t → Q' a t) (hE : ∀ e t, E e t → E' e t) (hC : ∀ t, C t → C' t) :
    wp p Q' E' C' s := by
  intro b
  have hb := h b
  generalize p.run b s = r at hb
  obtain ⟨o, b', t⟩ := r
  cases o with
  | done a => exact hQ a t hb
  | failed e => exact hE e t hb
  | cut => exact hC t hb

theorem wp_imp {Q' : α → σ → Prop} (h : wp p Q E C s) (hQ : ∀ a t, Q a t → Q' a t) :
    wp p Q' E C s := wp_mono h hQ (fun _ _ he => he) fun _ hc => hc

theorem wp_true : wp p (fun _ _ => True) (fun _ _ => True) (fun _ => True) s := by
  intro b
  generalize p.run b s = r
  obtain ⟨o, b', t⟩ := r
  cases o <;> trivial

/-- What an error stands for has to meet the conclusion of a return. -/
theorem wp_recover {f : ε → α} {E' : ε → σ → Prop} (h : wp p Q (fun e t => Q (f e) t) C s) :
    wp (p.recover f) Q E' C s := by
  intro b
  have hb := h b
  change Concludes Q E' C (recoverRun f (p.run b s))
  generalize p.run b s = r at hb
  obtain ⟨o, b', t⟩ := r
  cases o with
  | done a | failed e | cut => exact hb

/-- An invariant of every turn of a loop. -/
theorem wp_each {I : σ → Prop} {as : List α} {f : α → Prog σ ε β}
    (hf : ∀ a ∈ as, ∀ t, I t → wp (f a) (fun _ => I) (fun _ => I) I t) (hs : I s) :
    wp (each as f) (fun _ => I) (fun _ => I) I s := by
  induction as generalizing s with
  | nil => exact wp_pure hs
  | cons a as ih =>
    refine wp_bind (wp_mono (hf a List.mem_cons_self s hs) (fun _ t ht => ?_)
      (fun _ _ h => h) fun _ h => h)
    exact wp_bind (wp_mono (ih (fun a ha => hf a (List.mem_cons_of_mem _ ha)) ht)
      (fun _ _ h => wp_pure h) (fun _ _ h => h) fun _ h => h)

/-- A conditional effect: both branches keep the cut condition. -/
theorem wp_guardedBy {c : Bool} {p : Prog σ ε Unit} {Q : Unit → σ → Prop}
    (hyes : c = true → wp p Q E C s) (hno : c = false → Q () s) : wp (guardedBy c p) Q E C s := by
  cases c with
  | true => exact hyes rfl
  | false => exact wp_pure (hno rfl)

end Rules

variable {b : Budget} {p : Prog σ ε α}

/-- A property proved for a return, an error and a cut holds of the durable
state after a run with any budget. -/
theorem after_of_wp {I : σ → Prop} {s : σ} (h : wp p (fun _ => I) (fun _ => I) I s) (b : Budget) :
    I (p.after b s) := by
  have hb := h b
  unfold after
  generalize p.run b s = r at hb
  obtain ⟨o, b', t⟩ := r
  cases o with
  | done a | failed e | cut => exact hb

section

variable {Q : α → σ → Prop} {E : ε → σ → Prop} {C : σ → Prop} {s : σ} (h : wp p Q E C s)
include h

/-- What a proved return says about a run that returned. -/
theorem of_wp_done {a : α} (hrun : p.outcome b s = .done a) : Q a (p.after b s) := by
  have hb := h b
  unfold outcome at hrun
  unfold after
  generalize p.run b s = r at hb hrun
  obtain ⟨o, b', t⟩ := r
  subst hrun
  exact hb

/-- What a proved error says about a run that failed. -/
theorem of_wp_failed {e : ε} (hrun : p.outcome b s = .failed e) : E e (p.after b s) := by
  have hb := h b
  unfold outcome at hrun
  unfold after
  generalize p.run b s = r at hb hrun
  obtain ⟨o, b', t⟩ := r
  subst hrun
  exact hb

/-- What a proved cut says about a run that was cut. -/
theorem of_wp_cut (hrun : p.outcome b s = .cut) : C (p.after b s) := by
  have hb := h b
  unfold outcome at hrun
  unfold after
  generalize p.run b s = r at hb hrun
  obtain ⟨o, b', t⟩ := r
  subst hrun
  exact hb

end

/-- A run of two programs in sequence: the first one was cut, it failed, or the
second one ran on from where it returned. -/
theorem after_bind {f : α → Prog σ ε β} {I : σ → Prop} {s : σ}
    (hcut : p.outcome b s = .cut → I (p.after b s))
    (herr : ∀ e, p.outcome b s = .failed e → I (p.after b s))
    (hdone : ∀ a, p.outcome b s = .done a → ∀ b', I ((f a).after b' (p.after b s))) :
    I ((p >>= f).after b s) := by
  change I (bindRun (p.run b s) f).2.2
  unfold outcome after at hcut herr hdone
  generalize p.run b s = r at hcut herr hdone
  obtain ⟨o, b', t⟩ := r
  cases o with
  | done a => exact hdone a rfl b'
  | failed e => exact herr e rfl
  | cut => exact hcut rfl

/-- A program that reports no error returns when nobody interrupts it. -/
theorem done_of_wp {Q : α → σ → Prop} {C : σ → Prop} {s : σ} (h : wp p Q (fun _ _ => False) C s) :
    ∃ a, p.outcome none s = .done a ∧ Q a (p.after none s) := by
  have hb := h none
  obtain ⟨hcut, -⟩ := p.uncut s
  unfold outcome after
  generalize p.run none s = r at hb hcut
  obtain ⟨o, b', t⟩ := r
  cases o with
  | done a => exact ⟨a, rfl, hb⟩
  | failed e => exact hb.elim
  | cut => exact absurd rfl hcut

end Sencho.Verified.Interrupt

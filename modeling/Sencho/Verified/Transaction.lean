import Mathlib.Logic.Basic
import Mathlib.Tactic.TypeStar

/-!
# Transactions

A transaction reads and writes a store and may refuse.  It is a state
transformer over exceptions, so a refusal carries no store: the caller keeps
the one it had.  `Ensures` is the partial-correctness judgement of one
transaction from one store; its rules read a `do` block from the first
statement to the last.
-/

namespace Sencho.Verified

/-- A transaction on a store `σ` that may refuse with an `ε`. -/
abbrev Tx (σ ε α : Type) := StateT σ (Except ε) α

namespace Tx

variable {σ ε α β : Type}

/-- Every result of the transaction, with the store it leaves, meets `Q`. -/
def Ensures (p : Tx σ ε α) (s : σ) (Q : α → σ → Prop) : Prop :=
  ∀ a s', p s = .ok (a, s') → Q a s'

/-- The store after a transaction: a refusal rolls it back. -/
def commit (p : Tx σ ε α) (s : σ) : σ :=
  match p s with
  | .ok (_, s') => s'
  | .error _ => s

/-- Whether the transaction goes through. -/
def accepts (p : Tx σ ε α) (s : σ) : Prop := ∃ a s', p s = .ok (a, s')

/-- Refuse when a condition holds. -/
def refuseIf (c : Bool) (e : ε) : Tx σ ε Unit := if c then throw e else pure ()

/-- The value of a read that must find something. -/
def require (o : Option α) (e : ε) : Tx σ ε α :=
  match o with
  | some a => pure a
  | none => throw e

/-- Run a transaction inside another and drop the refusals `c` selects. -/
def attempt (p : Tx σ ε Unit) (c : ε → Bool) : Tx σ ε Unit := fun s =>
  match p s with
  | .ok r => .ok r
  | .error e => if c e then .ok ((), s) else .error e

variable {s : σ} {Q : α → σ → Prop}
variable {p : Tx σ ε α} {a : α}

@[simp] theorem ensures_pure : Ensures (pure a : Tx σ ε α) s Q ↔ Q a s := by
  constructor
  · intro h
    exact h a s rfl
  · intro h a' s' heq
    cases heq
    exact h

@[simp] theorem ensures_throw {e : ε} :
    Ensures (throw e : Tx σ ε α) s Q ↔ True := by
  refine iff_true_intro ?_
  intro a s' heq
  cases heq

@[simp] theorem ensures_get {Q : σ → σ → Prop} :
    Ensures (get : Tx σ ε σ) s Q ↔ Q s s := by
  constructor
  · intro h
    exact h s s rfl
  · intro h a' s' heq
    cases heq
    exact h

@[simp] theorem ensures_modify {f : σ → σ} {Q : PUnit → σ → Prop} :
    Ensures (modify f : Tx σ ε PUnit) s Q ↔ Q ⟨⟩ (f s) := by
  constructor
  · intro h
    exact h ⟨⟩ (f s) rfl
  · intro h a' s' heq
    cases heq
    exact h

@[simp] theorem ensures_set {s' : σ} {Q : PUnit → σ → Prop} :
    Ensures (set s' : Tx σ ε PUnit) s Q ↔ Q ⟨⟩ s' := by
  constructor
  · intro h
    exact h ⟨⟩ s' rfl
  · intro h a' s'' heq
    cases heq
    exact h

@[simp] theorem ensures_bind {f : α → Tx σ ε β} {Q : β → σ → Prop} :
    Ensures (p >>= f) s Q ↔ Ensures p s fun a s' => Ensures (f a) s' Q := by
  constructor
  · intro h a s' hp b s'' hf
    refine h b s'' ?_
    show (p s >>= fun r => f r.1 r.2) = .ok (b, s'')
    rw [hp]
    exact hf
  · intro h b s'' hpf
    have hrun : (p s >>= fun r => f r.1 r.2) = .ok (b, s'') := hpf
    cases hp : p s with
    | error e =>
      rw [hp] at hrun
      cases hrun
    | ok r =>
      rw [hp] at hrun
      exact h r.1 r.2 hp b s'' hrun

@[simp] theorem ensures_map {f : α → β} {Q : β → σ → Prop} :
    Ensures (f <$> p) s Q ↔ Ensures p s fun a s' => Q (f a) s' := by
  have hmap : f <$> p = p >>= fun a => pure (f a) :=
    (bind_pure_comp f p).symm
  rw [hmap, ensures_bind]
  simp only [ensures_pure]

@[simp] theorem ensures_liftM {e : Except ε α} :
    Ensures (liftM e : Tx σ ε α) s Q ↔ ∀ a, e = .ok a → Q a s := by
  cases e with
  | error e =>
    refine ⟨?_, ?_⟩
    · intro _ a heq
      cases heq
    · intro _ a s' heq
      cases heq
  | ok a =>
    refine ⟨?_, ?_⟩
    · intro h a' heq
      cases heq
      exact h a s rfl
    · intro h a' s' heq
      cases heq
      exact h a rfl

@[simp] theorem ensures_ite {c : Prop} [Decidable c] {q : Tx σ ε α} :
    Ensures (if c then p else q) s Q ↔
      (c → Ensures p s Q) ∧ (¬ c → Ensures q s Q) := by
  by_cases hc : c <;> simp [hc]

@[simp] theorem ensures_refuseIf {c : Bool} {e : ε} {Q : Unit → σ → Prop} :
    Ensures (refuseIf c e : Tx σ ε Unit) s Q ↔ (c = false → Q () s) := by
  unfold refuseIf
  cases c <;> simp

@[simp] theorem ensures_require {o : Option α} {e : ε} :
    Ensures (require o e : Tx σ ε α) s Q ↔ ∀ a, o = some a → Q a s := by
  cases o <;> simp [require]

theorem ensures_attempt {p : Tx σ ε Unit} {c : ε → Bool}
    {Q : Unit → σ → Prop} (hp : Ensures p s Q) (hs : Q () s) : Ensures (attempt p c) s Q := by
  intro a s' heq
  unfold attempt at heq
  split at heq
  · rename_i r hr
    cases heq
    exact hp _ _ hr
  · split at heq
    · cases heq
      exact hs
    · cases heq

theorem Ensures.mono {Q R : α → σ → Prop} (h : Ensures p s Q) (hQR : ∀ a s', Q a s' → R a s') :
    Ensures p s R :=
  fun a s' heq => hQR a s' (h a s' heq)

theorem Ensures.and {Q R : α → σ → Prop} (hQ : Ensures p s Q) (hR : Ensures p s R) :
    Ensures p s fun a s' => Q a s' ∧ R a s' :=
  fun a s' heq => ⟨hQ a s' heq, hR a s' heq⟩

/-- A loop over a list keeps what every turn keeps. -/
theorem ensures_forM {I : σ → Prop} {body : β → Tx σ ε PUnit} (xs : List β)
    (hbody : ∀ x ∈ xs, ∀ s, I s → Ensures (body x) s fun _ => I) (hs : I s) :
    Ensures (xs.forM body) s fun _ => I := by
  induction xs generalizing s with
  | nil => exact ensures_pure.mpr hs
  | cons x xs ih =>
    have hfirst := hbody x (by simp) s hs
    refine ensures_bind.mpr (hfirst.mono ?_)
    intro _ s' hs'
    exact ih (fun y hy => hbody y (by simp [hy])) hs'

/-- A loop that does something lasting about every element of its list. -/
theorem ensures_forM_each {I : σ → Prop} {J : β → σ → Prop} {body : β → Tx σ ε PUnit}
    (xs : List β) (hbody : ∀ x ∈ xs, ∀ s, I s → Ensures (body x) s fun _ s' =>
      I s' ∧ J x s' ∧ ∀ y, J y s → J y s') (hs : I s) :
    Ensures (xs.forM body) s fun _ s' => I s' ∧ (∀ x ∈ xs, J x s') ∧ ∀ y, J y s → J y s' := by
  induction xs generalizing s with
  | nil => exact ensures_pure.mpr ⟨hs, fun _ hx => absurd hx (List.not_mem_nil), fun _ h => h⟩
  | cons x xs ih =>
    refine ensures_bind.mpr ((hbody x (by simp) s hs).mono fun _ s₁ hfirst => ?_)
    obtain ⟨hI, hdone, hkept⟩ := hfirst
    refine (ih (fun y hy => hbody y (by simp [hy])) hI).mono fun _ s' hrest => ?_
    obtain ⟨hI', hall, hstill⟩ := hrest
    refine ⟨hI', fun y hy => ?_, fun y hy => hstill y (hkept y hy)⟩
    rcases List.mem_cons.mp hy with rfl | hin
    · exact hstill y hdone
    · exact hall y hin

theorem commit_of_ensures {P : σ → Prop} (h : Ensures p s fun _ => P) (hs : P s) :
    P (commit p s) := by
  unfold commit
  split
  · rename_i s' heq
    exact h _ _ heq
  · exact hs

theorem commit_or {P : σ → Prop} (h : Ensures p s fun _ => P) : commit p s = s ∨ P (commit p s) :=
  commit_of_ensures (P := fun s' => s' = s ∨ P s') (h.mono fun _ _ h => .inr h) (.inl rfl)

theorem commit_of_ok {s' : σ} (h : p s = .ok (a, s')) : commit p s = s' := by
  simp [commit, h]

/-- The store a transaction leaves is the one it commits. -/
theorem ensures_committed : Ensures p s fun _ s' => s' = commit p s := by
  intro a s' h
  exact (commit_of_ok h).symm

/-- An attempt that drops every refusal leaves the store the transaction commits. -/
theorem ensures_attempt_committed {p : Tx σ ε Unit} :
    Ensures (attempt p fun _ => true) s fun _ s' => s' = commit p s := by
  intro a s' h
  unfold attempt at h
  unfold commit
  cases hp : p s with
  | ok r | error e =>
    rw [hp] at h
    cases h
    rfl

/-- A transaction goes on from the result of its first statement. -/
theorem bind_of_ok {f : α → Tx σ ε β} {s' : σ} (h : p s = .ok (a, s')) : (p >>= f) s = f a s' := by
  show (p s >>= fun r => f r.1 r.2) = f a s'
  rw [h]
  rfl

/-- A transaction known to give a result gives it with the store it commits. -/
theorem ok_of_result (h : (p s).toOption.map Prod.fst = some a) : p s = .ok (a, commit p s) := by
  unfold commit
  cases hrun : p s with
  | error e =>
    rw [hrun] at h
    cases h
  | ok r =>
    rw [hrun] at h
    have hr : r.1 = a := Option.some.inj h
    subst hr
    rfl

end Tx

end Sencho.Verified

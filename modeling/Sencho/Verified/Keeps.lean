import Sencho.Verified.Transaction

/-!
# Relations a transaction keeps

A transaction keeps a relation when the store it starts from stands in the
relation to every store it leaves.  For a reflexive and transitive relation
this is closed under everything transactions are put together from.
-/

namespace Sencho.Verified.Tx

variable {σ ε α β : Type}

/-- A reflexive and transitive relation on stores. -/
structure Quasi (R : σ → σ → Prop) : Prop where
  refl : ∀ s, R s s
  trans : ∀ {s s' s''}, R s s' → R s' s'' → R s s''

/-- The transaction keeps the relation. -/
def Keeps (R : σ → σ → Prop) (p : Tx σ ε α) : Prop := ∀ s, Ensures p s fun _ s' => R s s'

variable {R : σ → σ → Prop}
variable {p : Tx σ ε α} {e : ε}

theorem keeps_pure (hR : Quasi R) {a : α} : Keeps R (pure a : Tx σ ε α) :=
  fun s => ensures_pure.mpr (hR.refl s)

theorem keeps_throw : Keeps R (throw e : Tx σ ε α) :=
  fun _ => ensures_throw.mpr trivial

theorem keeps_get (hR : Quasi R) : Keeps R (get : Tx σ ε σ) :=
  fun s => ensures_get.mpr (hR.refl s)

theorem keeps_modify {f : σ → σ} (h : ∀ s, R s (f s)) : Keeps R (modify f : Tx σ ε PUnit) :=
  fun s => ensures_modify.mpr (h s)

theorem keeps_bind (hR : Quasi R) {f : α → Tx σ ε β} (hp : Keeps R p) (hf : ∀ a, Keeps R (f a)) :
    Keeps R (p >>= f) := by
  intro s
  refine ensures_bind.mpr ((hp s).mono fun a s' hfirst => ?_)
  exact (hf a s').mono fun _ _ hrest => hR.trans hfirst hrest

theorem keeps_map {f : α → β} (hp : Keeps R p) : Keeps R (f <$> p) :=
  fun s => ensures_map.mpr (hp s)

theorem keeps_refuseIf (hR : Quasi R) {c : Bool} : Keeps R (refuseIf c e : Tx σ ε Unit) :=
  fun s => ensures_refuseIf.mpr fun _ => hR.refl s

theorem keeps_require (hR : Quasi R) {o : Option α} : Keeps R (require o e : Tx σ ε α) :=
  fun s => ensures_require.mpr fun _ _ => hR.refl s

theorem keeps_liftM (hR : Quasi R) {e : Except ε α} : Keeps R (liftM e : Tx σ ε α) :=
  fun s => ensures_liftM.mpr fun _ _ => hR.refl s

theorem keeps_attempt (hR : Quasi R) {p : Tx σ ε Unit} {c : ε → Bool} (hp : Keeps R p) :
    Keeps R (attempt p c) :=
  fun s => ensures_attempt (hp s) (hR.refl s)

theorem keeps_ite {c : Prop} [Decidable c] {q : Tx σ ε α} (hp : Keeps R p) (hq : Keeps R q) :
    Keeps R (if c then p else q) := by
  by_cases hc : c
  · rw [if_pos hc]
    exact hp
  · rw [if_neg hc]
    exact hq

theorem keeps_forM (hR : Quasi R) {xs : List α} {body : α → Tx σ ε PUnit}
    (h : ∀ x, Keeps R (body x)) : Keeps R (xs.forM body) := by
  intro s
  refine ensures_forM (I := fun s' => R s s') xs (fun x _ s' hs' => ?_) (hR.refl s)
  exact (h x s').mono fun _ _ hbody => hR.trans hs' hbody

/-- A committed or refused transaction keeps the relation. -/
theorem Keeps.commit (hR : Quasi R) (hp : Keeps R p) (s : σ) : R s (commit p s) :=
  commit_of_ensures (P := fun s' => R s s') (hp s) (hR.refl s)

end Sencho.Verified.Tx

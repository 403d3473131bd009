/-!
# Savepoints

A connection to a transactional store holds the current rows and, for every
transaction that is open, the rows as they were when it began.  Code on a
connection reads and writes rows and may throw; a throw leaves what was written
before it.  `transaction` runs code in a transaction, which is a savepoint when
one is open already: a body that returns keeps its writes, a body that throws
gets the saved rows back.

`Computes` relates code on a connection to a function on rows that either
refuses or gives the rows after it; `Leads` relates the rows before and after.
The rules of both follow the shape of the code.

## Main results

* `Computes.bind`, `Computes.statement`, `Computes.transaction` — the function
  a piece of code computes, from those of its parts.
* `Computes.atomic` — a transaction around code that computes a function is that
  function, and its refusal leaves the connection as it was.
* `Leads.bind`, `Leads.transaction`, `Leads.undone` — the same for a relation.
-/

namespace Sencho.Verified.Savepoints

/-- The rows of a store, and the rows saved by the transactions that are open,
the innermost first. -/
structure Connection (σ : Type) where
  rows : σ
  saved : List σ

/-- Code on a connection: what it returns or throws, and the connection after
it. -/
def Code (σ ε α : Type) := Connection σ → Except ε α × Connection σ

namespace Code

variable {σ τ ε δ α β : Type}

def throw (e : ε) : Code σ ε α := fun c => (.error e, c)

/-- One statement: it writes rows and answers, or it is refused. -/
def statement (f : σ → Except ε (α × σ)) : Code σ ε α := fun c =>
  match f c.rows with
  | .ok (a, s) => (.ok a, ⟨s, c.saved⟩)
  | .error e => (.error e, c)

/-- A statement that only reads. -/
def select (f : σ → α) : Code σ ε α := fun c => (.ok (f c.rows), c)

instance instMonadCode : Monad (Code σ ε) where
  pure a := fun c => (.ok a, c)
  bind p q := fun c =>
    match p c with
    | (.ok a, c') => q a c'
    | (.error e, c') => (.error e, c')

/-- Run code in a transaction. -/
def transaction (p : Code σ ε α) : Code σ ε α := fun c =>
  match p ⟨c.rows, c.rows :: c.saved⟩ with
  | (.ok a, c') => (.ok a, ⟨c'.rows, c'.saved.tail⟩)
  | (.error e, c') => (.error e, ⟨c'.saved.headD c'.rows, c'.saved.tail⟩)

/-- Run code of another store, which reads every row, on the rows it can write.
Its transactions nest in those that are open, and it ends none that it did not
begin. -/
def zoom (get : σ → τ) (put : τ → σ → σ) (thrown : δ → ε) (p : σ → Code τ δ α) :
    Code σ ε α := fun c =>
  match p c.rows ⟨get c.rows, []⟩ with
  | (.ok a, c') => (.ok a, ⟨put c'.rows c.rows, c.saved⟩)
  | (.error x, c') => (.error (thrown x), ⟨put c'.rows c.rows, c.saved⟩)

end Code

open Code

variable {σ τ ε δ α β : Type}

/-- How code ends that computes a function: it returns with the rows the
function gives, or it throws with rows of its own making.  The transactions
that were open are open. -/
inductive Ends (saved : List σ) :
    Except ε (α × σ) → Except ε α × Connection σ → Prop where
  | returned (a : α) (s : σ) : Ends saved (.ok (a, s)) (.ok a, ⟨s, saved⟩)
  | threw (e : ε) (s : σ) : Ends saved (.error e) (.error e, ⟨s, saved⟩)

/-- The code computes the function on rows. -/
def Computes (p : Code σ ε α) (f : σ → Except ε (α × σ)) : Prop :=
  ∀ c, Ends c.saved (f c.rows) (p c)

section Rules

variable {p : Code σ ε α} {f g : σ → Except ε (α × σ)}

theorem Computes.congr (h : Computes p f) (hfg : ∀ s, f s = g s) : Computes p g := by
  intro c
  rw [← hfg c.rows]
  exact h c

theorem Computes.pure (a : α) : Computes (Pure.pure a : Code σ ε α) fun s => .ok (a, s) :=
  fun c => .returned a c.rows

theorem Computes.throw (e : ε) : Computes (throw e : Code σ ε α) fun _ => .error e :=
  fun c => .threw e c.rows

theorem Computes.select (f : σ → α) : Computes (select f : Code σ ε α) fun s => .ok (f s, s) :=
  fun c => .returned (f c.rows) c.rows

theorem Computes.statement (f : σ → Except ε (α × σ)) : Computes (statement f) f := by
  intro c
  simp only [Code.statement]
  cases f c.rows with
  | ok res => exact .returned res.1 res.2
  | error e => exact .threw e c.rows

theorem Computes.bind {q : α → Code σ ε β} {k : α → σ → Except ε (β × σ)}
    (hp : Computes p f) (hq : ∀ a, Computes (q a) (k a)) :
    Computes (p >>= q) fun s => f s >>= fun r => k r.1 r.2 := by
  intro c
  have hends := hp c
  simp only [Bind.bind, Except.bind]
  generalize f c.rows = r at hends
  generalize p c = out at hends
  cases hends with
  | returned a s => exact hq a ⟨s, c.saved⟩
  | threw e s => exact .threw e s

/-- What code of another store leaves when it returns. -/
def zoomed (get : σ → τ) (put : τ → σ → σ) (thrown : δ → ε) (p : σ → Code τ δ α)
    (s : σ) : Except ε (α × σ) :=
  match p s ⟨get s, []⟩ with
  | (.ok a, c') => .ok (a, put c'.rows s)
  | (.error x, _) => .error (thrown x)

theorem Computes.zoom (get : σ → τ) (put : τ → σ → σ) (thrown : δ → ε) (p : σ → Code τ δ α) :
    Computes (zoom get put thrown p) (zoomed get put thrown p) := by
  intro c
  simp only [Code.zoom, zoomed]
  cases hp : p c.rows ⟨get c.rows, []⟩ with
  | mk r c' =>
    cases r with
    | ok a => exact .returned a _
    | error x => exact .threw (thrown x) _

/-- All of the function or nothing: the code returns what the function gives, on
the rows it gives, and a refusal leaves the connection as it was. -/
def Atomic (p : Code σ ε α) (f : σ → Except ε (α × σ)) : Prop :=
  ∀ c, p c = statement f c

/-- A transaction around code is all of what the code computes, or nothing. -/
theorem Computes.atomic (h : Computes p f) : Atomic (transaction p) f := by
  intro c
  have hends := h ⟨c.rows, c.rows :: c.saved⟩
  simp only [transaction, Code.statement]
  generalize f c.rows = r at hends
  generalize p ⟨c.rows, c.rows :: c.saved⟩ = out at hends
  cases hends with
  | returned a s | threw e s => rfl

theorem Computes.transaction (h : Computes p f) : Computes (transaction p) f := by
  intro c
  rw [h.atomic c]
  exact Computes.statement f c

end Rules

section Leaves

variable {p : Code σ ε α} {f : σ → Except ε (α × σ)} {c : Connection σ}

/-- Atomic code that throws leaves the connection as it was. -/
theorem Atomic.refused (h : Atomic p f) {e : ε} (hrun : (p c).1 = .error e) : (p c).2 = c := by
  rw [h c, statement] at hrun ⊢
  cases hf : f c.rows with
  | ok res =>
    rw [hf] at hrun
    cases hrun
  | error e' => rfl

/-- Atomic code that returns leaves what the function gives. -/
theorem Atomic.accepted (h : Atomic p f) {a : α} (hrun : (p c).1 = .ok a) :
    f c.rows = .ok (a, (p c).2.rows) ∧ (p c).2.saved = c.saved := by
  rw [h c, statement] at hrun ⊢
  cases hf : f c.rows with
  | ok res =>
    rw [hf] at hrun
    cases hrun
    exact ⟨rfl, rfl⟩
  | error e =>
    rw [hf] at hrun
    cases hrun

/-- What the function gives, the code returns. -/
theorem Atomic.returns (h : Atomic p f) {a : α} {s : σ} (hf : f c.rows = .ok (a, s)) :
    p c = (.ok a, ⟨s, c.saved⟩) := by
  rw [h c, statement, hf]

/-- What the function refuses, the code refuses, and nothing changes. -/
theorem Atomic.refuses (h : Atomic p f) {e : ε} (hf : f c.rows = .error e) :
    p c = (.error e, c) := by
  rw [h c, statement, hf]

end Leaves

/-- Whenever the code returns, the rows before, its answer and the rows after are
related.  The transactions that were open are open, however it ends. -/
def Leads (p : Code σ ε α) (Q : σ → α → σ → Prop) : Prop :=
  ∀ c, (p c).2.saved = c.saved ∧ ∀ a, (p c).1 = .ok a → Q c.rows a (p c).2.rows

namespace Leads

variable {p : Code σ ε α} {P Q : σ → α → σ → Prop}

theorem mono (h : Leads p P) (hPQ : ∀ s a s', P s a s' → Q s a s') : Leads p Q :=
  fun c => ⟨(h c).1, fun a hrun => hPQ _ _ _ ((h c).2 a hrun)⟩

theorem pure {a : α} (h : ∀ s, Q s a s) : Leads (Pure.pure a : Code σ ε α) Q := by
  intro c
  refine ⟨rfl, fun b hrun => ?_⟩
  cases hrun
  exact h c.rows

theorem throw {e : ε} : Leads (throw e : Code σ ε α) Q :=
  fun c => ⟨rfl, fun a hrun => by cases hrun⟩

theorem select {f : σ → α} (h : ∀ s, Q s (f s) s) : Leads (select f : Code σ ε α) Q := by
  intro c
  refine ⟨rfl, fun b hrun => ?_⟩
  cases hrun
  exact h c.rows

theorem statement {f : σ → Except ε (α × σ)} (h : ∀ s a s', f s = .ok (a, s') → Q s a s') :
    Leads (statement f) Q := by
  intro c
  unfold Code.statement
  cases hf : f c.rows with
  | ok r =>
    refine ⟨rfl, fun a hrun => ?_⟩
    cases hrun
    exact h c.rows r.1 r.2 hf
  | error e => exact ⟨rfl, fun a hrun => by cases hrun⟩

/-- One piece of code after another: the rows between them are there. -/
theorem bind {q : α → Code σ ε β} {R : α → σ → β → σ → Prop} {S : σ → β → σ → Prop}
    (hp : Leads p P) (hq : ∀ a, Leads (q a) (R a))
    (h : ∀ s a s' b s'', P s a s' → R a s' b s'' → S s b s'') : Leads (p >>= q) S := by
  intro c
  obtain ⟨hsaved, hrun⟩ := hp c
  simp only [Bind.bind]
  cases hout : p c with
  | mk result c' =>
    rw [hout] at hsaved hrun
    cases result with
    | error e => exact ⟨hsaved, fun b hb => by cases hb⟩
    | ok a =>
      obtain ⟨hsaved', hrun'⟩ := hq a c'
      refine ⟨hsaved'.trans hsaved, fun b hb => ?_⟩
      exact h c.rows a c'.rows b _ (hrun a rfl) (hrun' b hb)

theorem ite {cond : Prop} [Decidable cond] {q : Code σ ε α} (hp : cond → Leads p Q)
    (hq : ¬ cond → Leads q Q) : Leads (if cond then p else q) Q := by
  by_cases hc : cond
  · rw [if_pos hc]
    exact hp hc
  · rw [if_neg hc]
    exact hq hc

theorem transaction (h : Leads p Q) : Leads (transaction p) Q := by
  intro c
  obtain ⟨hsaved, hrun⟩ := h ⟨c.rows, c.rows :: c.saved⟩
  unfold Code.transaction
  cases hout : p ⟨c.rows, c.rows :: c.saved⟩ with
  | mk result c' =>
    rw [hout] at hsaved hrun
    cases result with
    | error e => exact ⟨congrArg List.tail hsaved, fun b hb => by cases hb⟩
    | ok a => exact ⟨congrArg List.tail hsaved, hrun⟩

/-- A transaction that throws leaves the connection as it was. -/
theorem undone (h : Leads p Q) {c : Connection σ} {e : ε}
    (hrun : (Code.transaction p c).1 = .error e) : (Code.transaction p c).2 = c := by
  obtain ⟨hsaved, -⟩ := h ⟨c.rows, c.rows :: c.saved⟩
  unfold Code.transaction at hrun ⊢
  cases hout : p ⟨c.rows, c.rows :: c.saved⟩ with
  | mk result c' =>
    rw [hout] at hsaved hrun
    cases result with
    | ok a => cases hrun
    | error e' =>
      show Connection.mk (c'.saved.headD c'.rows) c'.saved.tail = c
      rw [hsaved]
      rfl

end Leads

end Sencho.Verified.Savepoints

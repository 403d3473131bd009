import Mathlib.Data.List.Nodup
import Sencho.Verified.Runs

/-!
# What a run emits

A step may emit an event.  An event that, once emitted, leaves a state no step
emits it from again is emitted at most once by every run.  Such a state often
depends on what the run has already been given, so the rule is also stated for
a state that keeps the inputs so far.
-/

namespace Sencho.Verified.Runs

open List

variable {σ α ε : Type}

/-- What the steps of a run emit, in order. -/
def emitted (step : σ → α → σ) (emit : σ → α → Option ε) : σ → List α → List ε
  | _, [] => []
  | s, a :: as => (emit s a).toList ++ emitted step emit (step s a) as

variable {step : σ → α → σ} {emit : σ → α → Option ε}

/-- Every event was emitted by some step of the run. -/
theorem mem_emitted {e : ε} {s : σ} {as : List α} (h : e ∈ emitted step emit s as) :
    ∃ pre a post, as = pre ++ a :: post ∧ emit (run step s pre) a = some e := by
  induction as generalizing s with
  | nil => cases h
  | cons a as ih =>
    rcases mem_append.mp h with hfirst | hrest
    · exact ⟨[], a, as, rfl, Option.mem_toList.mp hfirst⟩
    · obtain ⟨pre, b, post, rfl, hb⟩ := ih hrest
      exact ⟨a :: pre, b, post, rfl, hb⟩

section

variable {p : ε → Bool} {P Q : σ → Prop} {C : σ → α → Prop} {s : σ}
  (hP : ∀ s a, P s → C s a → P (step s a)) (hQ : ∀ s a, P s → Q s → C s a → Q (step s a))
  (hnone : ∀ s a e, P s → Q s → C s a → emit s a = some e → p e = false)
include hP hQ hnone

/-- After a state from which the event is never emitted, it is not. -/
theorem emitted_none (hp : P s) (hq : Q s) {as : List α} (has : Along step C s as) :
    (emitted step emit s as).filter p = [] := by
  induction as generalizing s with
  | nil => rfl
  | cons a as ih =>
    have hrest := ih (hP s a hp has.1) (hQ s a hp hq has.1) has.2
    unfold emitted
    rw [filter_append, hrest, append_nil]
    cases hemit : emit s a with
    | none => rfl
    | some e =>
      rw [Option.toList_some, filter_cons_of_neg]
      · rfl
      · rw [hnone s a e hp hq has.1 hemit]
        exact Bool.false_ne_true

/-- An event that leaves a state no step emits it from again. -/
theorem emitted_le_one
    (hfirst : ∀ s a e, P s → C s a → emit s a = some e → p e = true → Q (step s a)) (hp : P s)
    {as : List α} (has : Along step C s as) : ((emitted step emit s as).filter p).length ≤ 1 := by
  induction as generalizing s with
  | nil => exact Nat.zero_le 1
  | cons a as ih =>
    unfold emitted
    rw [filter_append, length_append]
    cases hemit : emit s a with
    | none =>
      rw [Option.toList_none, filter_nil, length_nil, Nat.zero_add]
      exact ih (hP s a hp has.1) has.2
    | some e =>
      cases hpe : p e with
      | false =>
        rw [Option.toList_some, filter_cons_of_neg (by simp [hpe]), filter_nil,
          length_nil, Nat.zero_add]
        exact ih (hP s a hp has.1) has.2
      | true =>
        rw [emitted_none hP hQ hnone (hP s a hp has.1) (hfirst s a e hp has.1 hemit hpe) has.2]
        simp [hpe]

end

/-- A step that also keeps its input. -/
def withPast (step : σ → α → σ) (s : σ × List α) (a : α) : σ × List α :=
  (step s.1 a, a :: s.2)

theorem emitted_withPast (s : σ) (past as : List α) :
    emitted (withPast step) (fun s a => emit s.1 a) (s, past) as = emitted step emit s as := by
  induction as generalizing s past with
  | nil => rfl
  | cons a as ih =>
    unfold emitted
    rw [show withPast step (s, past) a = (step s a, a :: past) from rfl, ih]

/-- An input whose mark no earlier input carries. -/
def FreshMark {β : Type} (mark : α → Option β) (past : List α) (a : α) : Prop :=
  ∀ b, mark a = some b → ∀ old ∈ past, mark old ≠ some b

/-- Inputs whose marks are all different are fresh one after the other. -/
theorem along_fresh {β : Type} {mark : α → Option β} {s : σ} {past as : List α}
    (hnodup : (as.filterMap mark).Nodup)
    (hpast : ∀ old ∈ past, ∀ b, mark old = some b → b ∉ as.filterMap mark) :
    Along (withPast step) (fun s a => FreshMark mark s.2 a) (s, past) as := by
  induction as generalizing s past with
  | nil => trivial
  | cons a as ih =>
    refine ⟨fun b hb old hold hmark => ?_, ?_⟩
    · refine hpast old hold b hmark (mem_filterMap.mpr ⟨a, mem_cons_self .., hb⟩)
    · refine ih ?_ fun old hold b hmark hmem => ?_
      · cases hmark : mark a with
        | none => rwa [filterMap_cons_none hmark] at hnodup
        | some b =>
          rw [filterMap_cons_some hmark] at hnodup
          exact (nodup_cons.mp hnodup).2
      · rcases mem_cons.mp hold with rfl | hold
        · rw [filterMap_cons_some hmark] at hnodup
          exact (nodup_cons.mp hnodup).1 hmem
        · refine hpast old hold b hmark ?_
          obtain ⟨a', ha', hb⟩ := mem_filterMap.mp hmem
          exact mem_filterMap.mpr ⟨a', mem_cons_of_mem _ ha', hb⟩

end Sencho.Verified.Runs

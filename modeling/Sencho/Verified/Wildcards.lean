import Sencho.Verified.CodeUnits

/-!
# Patterns of units and runs

The regular expressions that programs write for wildcards are rows of pieces: a unit of a class,
or a run of units of a class.  A test walks the text once for each end a run can have.
-/

namespace Sencho.Verified.Wildcards

/-- A unit of a class, or any run of such units. -/
inductive Piece where
  | one (p : UInt16 → Bool)
  | run (p : UInt16 → Bool)

/-- The texts a row of pieces matches as a whole. -/
inductive Matches : List Piece → Text → Prop
  | nil : Matches [] []
  | one {p c ps t} (hc : p c = true) (h : Matches ps t) : Matches (.one p :: ps) (c :: t)
  | run {p ps t} (r : Text) (hr : ∀ c ∈ r, p c = true) (h : Matches ps t) :
    Matches (.run p :: ps) (r ++ t)

/-- What may follow a run at the start of a text. -/
def afterRun (p : UInt16 → Bool) : Text → List Text
  | [] => [[]]
  | c :: cs => (c :: cs) :: if p c then afterRun p cs else []

/-- Whether a row of pieces matches a text from its start to its end. -/
def test : List Piece → Text → Bool
  | [], t => t.isEmpty
  | .one _ :: _, [] => false
  | .one p :: ps, c :: cs => p c && test ps cs
  | .run p :: ps, t => (afterRun p t).any (test ps)

theorem mem_afterRun {p : UInt16 → Bool} {t u : Text} :
    u ∈ afterRun p t ↔ ∃ r, (∀ c ∈ r, p c = true) ∧ t = r ++ u := by
  induction t with
  | nil =>
    rw [afterRun, List.mem_singleton]
    constructor
    · rintro rfl
      exact ⟨[], by simp, rfl⟩
    · rintro ⟨r, _, h⟩
      exact (List.append_eq_nil_iff.mp h.symm).2
  | cons c cs ih =>
    rw [afterRun, List.mem_cons]
    constructor
    · rintro (rfl | hrest)
      · exact ⟨[], by simp, rfl⟩
      · by_cases hc : p c = true
        · rw [if_pos hc] at hrest
          obtain ⟨r, hr, rfl⟩ := ih.mp hrest
          exact ⟨c :: r, List.forall_mem_cons.mpr ⟨hc, hr⟩, rfl⟩
        · rw [if_neg hc] at hrest
          exact absurd hrest List.not_mem_nil
    · rintro ⟨r, hr, h⟩
      cases r with
      | nil => exact .inl h.symm
      | cons d r =>
        obtain ⟨rfl, rfl⟩ := List.cons.inj h
        obtain ⟨hd, hr⟩ := List.forall_mem_cons.mp hr
        rw [if_pos hd]
        exact .inr (ih.mpr ⟨r, hr, rfl⟩)

theorem test_iff {ps : List Piece} {t : Text} : test ps t = true ↔ Matches ps t := by
  induction ps generalizing t with
  | nil =>
    rw [test, List.isEmpty_iff]
    exact ⟨fun h => h ▸ .nil, fun h => by cases h; rfl⟩
  | cons piece ps ih =>
    cases piece with
    | one p =>
      cases t with
      | nil => constructor <;> intro h <;> cases h
      | cons c cs =>
        rw [test, Bool.and_eq_true, ih]
        exact ⟨fun h => .one h.1 h.2, fun h => by cases h with | one hc h => exact ⟨hc, h⟩⟩
    | run p =>
      simp only [test, List.any_eq_true, mem_afterRun, ih]
      constructor
      · rintro ⟨u, ⟨r, hr, rfl⟩, h⟩
        exact .run r hr h
      · intro h
        cases h with
        | run r hr h => exact ⟨_, ⟨r, hr, rfl⟩, h⟩

end Sencho.Verified.Wildcards

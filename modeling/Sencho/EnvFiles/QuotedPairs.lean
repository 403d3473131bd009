import Sencho.EnvFiles.WrittenFiles

/-!
# Undoing the quotes of a push

A push writes a backslash and a double quote with a backslash before them, in one pass.  It
reads them back in five passes, and the first three also take a doubled backslash apart where
a letter `n`, `r` or `t` follows it.  So a value comes back exactly where no backslash of it
stands before one of these letters.
-/

namespace Sencho.EnvFiles

open Verified CodeUnits List

/-- A backslash stands right before a unit. -/
def hasPair (x : UInt16) : Text → Bool
  | a :: b :: rest => (a = unit '\\' && b = x) || hasPair x (b :: rest)
  | _ => false

theorem hasPair_cons (x c : UInt16) (t : Text) :
    hasPair x (c :: t) = ((c = unit '\\' && t.head? = some x) || hasPair x t) := by
  cases t with
  | nil | cons d t => simp [hasPair]

section Pass

variable {x out : UInt16}

/-- A pass without a pair to take is the identity. -/
theorem pass_of_not_hasPair {t : Text} (h : hasPair x t = false) :
    replaceAll (backslashPair x out) 0 t = t := by
  refine replaceAll_of_none fun c cs hsuffix => ?_
  cases cs with
  | nil => rfl
  | cons d cs =>
    refine if_neg fun hpair => ?_
    have hhas : hasPair x t = true := by
      obtain ⟨before, rfl⟩ := hsuffix
      clear h
      induction before with
      | nil => simp [hasPair, hpair.1, hpair.2]
      | cons b before ih =>
        rw [cons_append, hasPair_cons, ih, Bool.or_true]
    rw [h] at hhas
    cases hhas

theorem pass_cons (c d : UInt16) (t : Text) : replaceAll (backslashPair x out) 0 (c :: d :: t) =
      if c = unit '\\' ∧ d = x then out :: replaceAll (backslashPair x out) 0 t
      else c :: replaceAll (backslashPair x out) 0 (d :: t) := by
  by_cases hpair : c = unit '\\' ∧ d = x
  · have htaken : backslashPair x out (c :: d :: t) = some ([out], 2) := if_pos hpair
    rw [if_pos hpair, replaceAll, htaken]
    rfl
  · have hkept : backslashPair x out (c :: d :: t) = none := if_neg hpair
    rw [if_neg hpair, replaceAll, hkept]

/-- A pass keeps how often a unit occurs that it does not write for another one. -/
theorem count_pass {y : UInt16} (hy : y ≠ unit '\\') (hout : y = out ↔ y = x) (t : Text) :
    (replaceAll (backslashPair x out) 0 t).count y = t.count y := by
  have hboth : (replaceAll (backslashPair x out) 0 t).count y = t.count y ∧
      (replaceAll (backslashPair x out) 0 t.tail).count y = t.tail.count y := by
    induction t with
    | nil => exact ⟨rfl, rfl⟩
    | cons c t ih =>
      refine ⟨?_, ih.1⟩
      cases t with
      | nil => rfl
      | cons d t =>
        rw [pass_cons]
        by_cases hpair : c = unit '\\' ∧ d = x
        · have hsame : (out == y) = (x == y) := by
            rw [Bool.eq_iff_iff, beq_iff_eq, beq_iff_eq]
            exact ⟨fun h => (hout.mp h.symm).symm, fun h => (hout.mpr h.symm).symm⟩
          have htail := ih.2
          rw [tail_cons] at htail
          rw [if_pos hpair, hpair.1, hpair.2, count_cons_of_ne (Ne.symm hy),
            count_cons, count_cons, htail, hsame]
        · rw [if_neg hpair, count_cons, ih.1, ← count_cons]
  exact hboth.1

/-- A pass with a pair to take writes its unit once more. -/
theorem count_pass_lt (hback : out ≠ unit '\\') (hx : out ≠ x) {t : Text}
    (hpair : hasPair x t = true) :
    t.count out < (replaceAll (backslashPair x out) 0 t).count out := by
  have hall : t.count out ≤ (replaceAll (backslashPair x out) 0 t).count out ∧
      t.tail.count out ≤ (replaceAll (backslashPair x out) 0 t.tail).count out ∧
      (hasPair x t = true → t.count out < (replaceAll (backslashPair x out) 0 t).count out) := by
    clear hpair
    induction t with
    | nil => exact ⟨Nat.le.refl, Nat.le.refl, nofun⟩
    | cons c t ih =>
      obtain ⟨hle, htail, hlt⟩ := ih
      cases t with
      | nil => exact ⟨Nat.le.refl, Nat.le.refl, nofun⟩
      | cons d t =>
        rw [pass_cons]
        by_cases hpair : c = unit '\\' ∧ d = x
        · have hold : (c :: d :: t).count out = t.count out := by
            rw [hpair.1, hpair.2, count_cons_of_ne (Ne.symm hback), count_cons_of_ne (Ne.symm hx)]
          rw [if_pos hpair, count_cons_self, hold]
          rw [tail_cons] at htail
          exact ⟨by omega, hle, fun _ => by omega⟩
        · rw [if_neg hpair, count_cons (l := d :: t),
            count_cons (l := replaceAll (backslashPair x out) 0 (d :: t))]
          refine ⟨by omega, hle, fun h => ?_⟩
          have hlater : hasPair x (d :: t) = true := by
            rw [hasPair, Bool.or_eq_true, Bool.and_eq_true, decide_eq_true_eq,
              decide_eq_true_eq] at h
            exact h.resolve_left hpair
          have := hlt hlater
          omega
  exact hall.2.2 hpair

end Pass

/-- What a push writes for a value between quotes. -/
abbrev escaped (v : Text) : Text := v.flatMap escapeUnit

theorem escapeUnit_back : escapeUnit (unit '\\') = [unit '\\', unit '\\'] := by decide

theorem escapeUnit_quote : escapeUnit (unit '"') = [unit '\\', unit '"'] := by decide

theorem escapeUnit_other {c : UInt16} (hback : c ≠ unit '\\') (hquote : c ≠ unit '"') :
    escapeUnit c = [c] := by
  unfold escapeUnit
  rw [decide_eq_false hback, decide_eq_false hquote]
  rfl

theorem escaped_cons (c : UInt16) (v : Text) : escaped (c :: v) = escapeUnit c ++ escaped v :=
  flatMap_cons

/-- A written value starts with a unit of its own only where that needs no backslash. -/
theorem head_escaped {x : UInt16} (hback : x ≠ unit '\\') (v : Text) :
    (escaped v).head? = some x ↔ v.head? = some x ∧ x ≠ unit '"' := by
  cases v with
  | nil => simp
  | cons c v =>
    rw [escaped_cons]
    by_cases hc : c = unit '\\'
    · rw [hc, escapeUnit_back]
      simp [Ne.symm hback]
    by_cases hq : c = unit '"'
    · rw [hq, escapeUnit_quote]
      simp only [cons_append, head?_cons, Option.some.injEq]
      exact ⟨fun h => absurd h.symm hback, fun h => absurd h.1.symm h.2⟩
    · rw [escapeUnit_other hc hq]
      simp only [cons_append, head?_cons, Option.some.injEq]
      exact ⟨fun h => ⟨h, fun hx => hq (h.trans hx)⟩, fun h => h.1⟩

theorem hasPair_escaped {x : UInt16} (hback : x ≠ unit '\\') (hquote : x ≠ unit '"')
    (v : Text) : hasPair x (escaped v) = hasPair x v := by
  induction v with
  | nil => rfl
  | cons c v ih =>
    rw [escaped_cons, hasPair_cons]
    by_cases hc : c = unit '\\'
    · have hhead : decide ((escaped v).head? = some x) = decide (v.head? = some x) := by
        rw [decide_eq_decide, head_escaped hback]
        exact and_iff_left hquote
      rw [hc, escapeUnit_back]
      show hasPair x (unit '\\' :: unit '\\' :: escaped v) = _
      rw [hasPair_cons, hasPair_cons, ih, hhead, head?_cons]
      simp [Ne.symm hback]
    by_cases hq : c = unit '"'
    · rw [hq, escapeUnit_quote]
      show hasPair x (unit '\\' :: unit '"' :: escaped v) = _
      rw [hasPair_cons, hasPair_cons, ih, head?_cons]
      have hdiffer : (unit '"' : UInt16) ≠ unit '\\' := by decide
      simp [Ne.symm hquote, hdiffer]
    · rw [escapeUnit_other hc hq]
      show hasPair x (c :: escaped v) = _
      rw [hasPair_cons, ih]
      simp [hc]

theorem count_escaped {y : UInt16} (hy : y ≠ unit '\\') (v : Text) :
    (escaped v).count y = v.count y := by
  induction v with
  | nil => rfl
  | cons c v ih =>
    rw [escaped_cons, count_append, ih, count_cons]
    by_cases hc : c = unit '\\'
    · rw [hc, escapeUnit_back]
      simp [Ne.symm hy]
    by_cases hq : c = unit '"'
    · rw [hq, escapeUnit_quote, count_cons_of_ne (Ne.symm hy), count_singleton]
      omega
    · rw [escapeUnit_other hc hq, count_singleton]
      omega

/-- The pass for double quotes leaves every backslash of the value doubled. -/
theorem pass_quote_escaped (v : Text) :
    replaceAll (backslashPair (unit '"') (unit '"')) 0 (escaped v) = v.flatMap doubled := by
  induction v with
  | nil => rfl
  | cons c v ih =>
    rw [escaped_cons, flatMap_cons]
    by_cases hc : c = unit '\\'
    · have hdouble : doubled (unit '\\') = [unit '\\', unit '\\'] := by decide
      have hsecond : backslashPair (unit '"') (unit '"') (unit '\\' :: escaped v) = none := by
        cases hv : escaped v with
        | nil => rfl
        | cons d rest =>
          refine if_neg fun h => ?_
          have hhead : (escaped v).head? = some (unit '"') := by rw [hv, h.2]; rfl
          exact ((head_escaped (by decide) v).mp hhead).2 rfl
      rw [hc, escapeUnit_back, hdouble]
      show replaceAll (backslashPair (unit '"') (unit '"')) 0
        (unit '\\' :: unit '\\' :: escaped v) = _
      show unit '\\' :: replaceAll (backslashPair (unit '"') (unit '"')) 0
        (unit '\\' :: escaped v) = _
      rw [replaceAll, hsecond]
      show unit '\\' :: unit '\\' ::
        replaceAll (backslashPair (unit '"') (unit '"')) 0 (escaped v) = _
      rw [ih]
      rfl
    have hdouble : doubled c = [c] := if_neg hc
    by_cases hq : c = unit '"'
    · rw [hq, escapeUnit_quote]
      show replaceAll (backslashPair (unit '"') (unit '"')) 0
        (unit '\\' :: unit '"' :: escaped v) = _
      show unit '"' :: replaceAll (backslashPair (unit '"') (unit '"')) 0 (escaped v) = _
      rw [ih]
      rfl
    · rw [escapeUnit_other hc hq, hdouble]
      show replaceAll (backslashPair (unit '"') (unit '"')) 0 (c :: escaped v) = _
      have hnone : backslashPair (unit '"') (unit '"') (c :: escaped v) = none := by
        cases escaped v with
        | nil => rfl
        | cons d rest => exact if_neg fun h => hc h.1
      rw [replaceAll, hnone]
      show c :: replaceAll (backslashPair (unit '"') (unit '"')) 0 (escaped v) = _
      rw [ih]
      rfl

theorem pass_back_doubled (v : Text) :
    replaceAll (backslashPair (unit '\\') (unit '\\')) 0 (v.flatMap doubled) = v := by
  refine replaceAll_flatMap (fun c rest => ?_) v
  by_cases hback : c = unit '\\'
  · refine .inl ⟨unit '\\', [unit '\\'], ?_, ?_⟩
    · rw [hback]
      decide
    · rw [hback]
      rfl
  · refine .inr ⟨if_neg hback, ?_⟩
    cases rest with
    | nil => rfl
    | cons d rest => exact if_neg fun h => hback h.1

/-- A pass for a letter that no backslash stands before leaves what was written. -/
theorem pass_escaped {x out : UInt16} (hback : x ≠ unit '\\') (hquote : x ≠ unit '"')
    {v : Text} (h : hasPair x v = false) :
    replaceAll (backslashPair x out) 0 (escaped v) = escaped v := by
  refine pass_of_not_hasPair ?_
  rw [hasPair_escaped hback hquote, h]

/-- A pass for a letter that a backslash stands before writes its unit once more. -/
theorem count_pass_escaped {x : UInt16} (out : UInt16) (hback : x ≠ unit '\\') (hquote : x ≠ unit '"')
    (hout : out ≠ unit '\\') (hx : out ≠ x) {v : Text} (h : hasPair x v = true) :
    v.count out < (replaceAll (backslashPair x out) 0 (escaped v)).count out := by
  have hpair : hasPair x (escaped v) = true := by rw [hasPair_escaped hback hquote, h]
  have hgain := count_pass_lt hout hx hpair
  rwa [count_escaped hout] at hgain

/-- No backslash of a value stands before a letter that the reader takes with it. -/
def PairFree (v : Text) : Prop :=
  hasPair (unit 'n') v = false ∧ hasPair (unit 'r') v = false ∧ hasPair (unit 't') v = false

theorem unescapeQuoted_escaped {v : Text} (h : PairFree v) : unescapeQuoted (escaped v) = v := by
  obtain ⟨hn, hr, ht⟩ := h
  unfold unescapeQuoted
  dsimp only
  rw [pass_escaped (by decide) (by decide) hn, pass_escaped (by decide) (by decide) hr,
    pass_escaped (by decide) (by decide) ht, pass_quote_escaped, pass_back_doubled]

/-- The last two passes keep how often any other unit occurs. -/
theorem count_last_passes {y : UInt16} (hback : y ≠ unit '\\') (t : Text) :
    (replaceAll (backslashPair (unit '\\') (unit '\\')) 0
      (replaceAll (backslashPair (unit '"') (unit '"')) 0 t)).count y = t.count y := by
  rw [count_pass hback Iff.rfl, count_pass hback Iff.rfl]

/-- No pass gains or loses a double quote. -/
theorem count_quote_unescapeQuoted (inner : Text) :
    (unescapeQuoted inner).count (unit '"') = inner.count (unit '"') := by
  unfold unescapeQuoted
  rw [count_last_passes (by decide), count_pass (by decide) (by decide),
    count_pass (by decide) (by decide), count_pass (by decide) (by decide)]

/-- A value between quotes comes back exactly where it has no such pair. -/
theorem unescapeQuoted_eq_iff (v : Text) : unescapeQuoted (escaped v) = v ↔ PairFree v := by
  refine ⟨fun heq => ?_, unescapeQuoted_escaped⟩
  unfold unescapeQuoted at heq
  dsimp only at heq
  have hn : hasPair (unit 'n') v = false := by
    by_contra hpair
    have hgain := count_pass_escaped (unit '\n') (by decide) (by decide) (by decide)
      (by decide) (Bool.of_not_eq_false hpair)
    have hcount := congrArg (count (unit '\n')) heq
    rw [count_last_passes (by decide), count_pass (by decide) (by decide),
      count_pass (by decide) (by decide)] at hcount
    omega
  rw [pass_escaped (by decide) (by decide) hn] at heq
  have hr : hasPair (unit 'r') v = false := by
    by_contra hpair
    have hgain := count_pass_escaped (unit '\r') (by decide) (by decide) (by decide)
      (by decide) (Bool.of_not_eq_false hpair)
    have hcount := congrArg (count (unit '\r')) heq
    rw [count_last_passes (by decide), count_pass (by decide) (by decide)] at hcount
    omega
  rw [pass_escaped (by decide) (by decide) hr] at heq
  refine ⟨hn, hr, ?_⟩
  by_contra hpair
  have hgain := count_pass_escaped (unit '\t') (by decide) (by decide) (by decide)
    (by decide) (Bool.of_not_eq_false hpair)
  have hcount := congrArg (count (unit '\t')) heq
  rw [count_last_passes (by decide)] at hcount
  omega

end Sencho.EnvFiles

import Sencho.Verified.Utf8

/-!
# Bytes coerced to UTF-8

A byte string that need not be UTF-8 is made UTF-8 one byte at a time: a whole encoding of a code
point stays, and a byte that begins none becomes the replacement character.  `coerce` is that
walk and `Valid` says that a string has nothing to replace.

* `coerce_eq_iff`, `coerce_coerce`: what is UTF-8 stays, and a coercion is.
* `coerce_eq_of_ascii`: a coercion to ASCII is no coercion.
-/

namespace Sencho.Verified.Utf8

open List

/-- The next bytes continue a code point, the first of them between the bounds. -/
def continues : Nat → Nat → Nat → Bytes → Bool
  | 0, _, _, _ => true
  | _ + 1, _, _, [] => false
  | k + 1, lower, upper, b :: bs =>
    lower ≤ b.toNat && b.toNat ≤ upper && continues k 0x80 0xbf bs

/-- How many bytes follow the first one of a whole code point. -/
def following (b : UInt8) (bs : Bytes) : Option Nat :=
  let p := (first b.toNat).2
  if b < 0x80 then some 0
  else if 0 < p.needed && continues p.needed p.lower p.upper bs then some p.needed
  else none

/-- The bytes that are left, of which the first few are the rest of a code point. -/
def coerceFrom : Nat → Bytes → Bytes
  | _, [] => []
  | k + 1, b :: bs => b :: coerceFrom k bs
  | 0, b :: bs =>
    match following b bs with
    | some k => b :: coerceFrom k bs
    | none => 0xef :: 0xbf :: 0xbd :: coerceFrom 0 bs

/-- The bytes with a replacement character for each that is not part of a code point. -/
def coerce (bs : Bytes) : Bytes := coerceFrom 0 bs

/-- Nothing of the bytes that are left has to be replaced. -/
def validFrom : Nat → Bytes → Bool
  | _, [] => true
  | k + 1, _ :: bs => validFrom k bs
  | 0, b :: bs =>
    match following b bs with
    | some k => validFrom k bs
    | none => false

/-- The bytes are UTF-8. -/
def Valid (bs : Bytes) : Prop := validFrom 0 bs = true

instance (bs : Bytes) : Decidable (Valid bs) := inferInstanceAs (Decidable (_ = true))

/-- The rest of a code point is left as it is. -/
theorem continues_coerceFrom (k lower upper : Nat) (bs : Bytes) :
    continues k lower upper (coerceFrom k bs) = continues k lower upper bs := by
  induction bs generalizing k lower upper with
  | nil => cases k <;> rfl
  | cons b bs ih =>
    cases k with
    | zero => rfl
    | succ k => simp only [coerceFrom, continues, ih]

variable {bs : Bytes}

theorem following_coerceFrom {b : UInt8} {k : Nat} (h : following b bs = some k) :
    following b (coerceFrom k bs) = some k := by
  unfold following at h ⊢
  split
  · rename_i hlow
    rwa [if_pos hlow] at h
  · rename_i hlow
    rw [if_neg hlow] at h
    split at h
    · rename_i hp
      obtain rfl := Option.some.inj h
      dsimp only
      rw [continues_coerceFrom, if_pos hp]
    · cases h

theorem validFrom_coerceFrom (k : Nat) (bs : Bytes) : validFrom k (coerceFrom k bs) = true := by
  induction bs generalizing k with
  | nil => cases k <;> rfl
  | cons b bs ih =>
    cases k with
    | succ k => exact ih k
    | zero =>
      unfold coerceFrom
      cases h : following b bs with
      | some k =>
        simp only [validFrom, following_coerceFrom h]
        exact ih k
      | none => exact ih 0

theorem length_le_coerceFrom (k : Nat) (bs : Bytes) : bs.length ≤ (coerceFrom k bs).length := by
  induction bs generalizing k with
  | nil => exact Nat.zero_le _
  | cons b bs ih =>
    cases k with
    | succ k => exact Nat.succ_le_succ (ih k)
    | zero =>
      unfold coerceFrom
      cases following b bs with
      | some k => exact Nat.succ_le_succ (ih k)
      | none =>
        have hrest := ih 0
        simp only [length_cons]
        omega

theorem coerceFrom_eq_iff (k : Nat) (bs : Bytes) :
    coerceFrom k bs = bs ↔ validFrom k bs = true := by
  induction bs generalizing k with
  | nil => cases k <;> exact ⟨fun _ => rfl, fun _ => rfl⟩
  | cons b bs ih =>
    cases k with
    | succ k =>
      unfold coerceFrom validFrom
      rw [cons_inj_right]
      exact ih k
    | zero =>
      unfold coerceFrom validFrom
      cases following b bs with
      | some k =>
        dsimp only
        rw [cons_inj_right]
        exact ih k
      | none =>
        refine ⟨fun heq => ?_, fun h => absurd h Bool.false_ne_true⟩
        have hrest := length_le_coerceFrom 0 bs
        have hlength := congrArg length heq
        simp only [length_cons] at hlength
        omega

theorem coerce_eq_iff : coerce bs = bs ↔ Valid bs := coerceFrom_eq_iff 0 bs

theorem valid_coerce (bs : Bytes) : Valid (coerce bs) := validFrom_coerceFrom 0 bs

@[simp] theorem coerce_coerce (bs : Bytes) : coerce (coerce bs) = coerce bs :=
  coerce_eq_iff.mpr (valid_coerce bs)

/-- Only bytes of ASCII. -/
def IsAscii (bs : Bytes) : Prop := ∀ b ∈ bs, b < 0x80

theorem following_ascii {b : UInt8} (h : b < 0x80) : following b bs = some 0 :=
  if_pos h

theorem valid_of_ascii (h : IsAscii bs) : Valid bs := by
  unfold Valid
  induction bs with
  | nil => rfl
  | cons b bs ih =>
    rw [validFrom, following_ascii (h b mem_cons_self)]
    exact ih fun c hc => h c (mem_cons_of_mem b hc)

/-- A replacement is not ASCII, so a coercion that is has replaced nothing. -/
theorem coerceFrom_eq_of_ascii {k : Nat} (h : IsAscii (coerceFrom k bs)) :
    coerceFrom k bs = bs := by
  induction bs generalizing k with
  | nil => cases k <;> rfl
  | cons b bs ih =>
    cases k with
    | succ k =>
      unfold coerceFrom at h ⊢
      rw [ih fun c hc => h c (mem_cons_of_mem b hc)]
    | zero =>
      unfold coerceFrom at h ⊢
      cases hf : following b bs with
      | some k =>
        rw [hf] at h
        exact congrArg (b :: ·) (ih fun c hc => h c (mem_cons_of_mem b hc))
      | none =>
        rw [hf] at h
        exact absurd (h 0xef mem_cons_self) (by decide)

theorem coerce_eq_of_ascii (h : IsAscii (coerce bs)) : coerce bs = bs :=
  coerceFrom_eq_of_ascii h

end Sencho.Verified.Utf8

import Mathlib.Tactic.SplitIfs
import Sencho.Verified.CodeUnits

/-!
# Texts as bytes

A text becomes bytes in UTF-8.  An unpaired surrogate has no bytes of its own and is written
as the replacement character; a byte that does not continue what was begun is read as that
character, and begins anew.
-/

namespace Sencho.Verified

open List

/-- The bytes of a buffer. -/
abbrev Bytes := List UInt8

namespace Utf8

def isHigh (c : UInt16) : Bool := 0xd800 ≤ c.toNat && c.toNat ≤ 0xdbff

def isLow (c : UInt16) : Bool := 0xdc00 ≤ c.toNat && c.toNat ≤ 0xdfff

def isSurrogate (c : UInt16) : Bool := 0xd800 ≤ c.toNat && c.toNat ≤ 0xdfff

def replacement : Nat := 0xfffd

/-- The code point of a unit that is not half of a pair. -/
def point (c : UInt16) : Nat := if isSurrogate c then replacement else c.toNat

/-- The code point of a pair. -/
def pairPoint (hi lo : UInt16) : Nat :=
  0x10000 + (hi.toNat - 0xd800) * 0x400 + (lo.toNat - 0xdc00)

/-- The code points of a text. -/
def points : Text → List Nat
  | [] => []
  | [c] => [point c]
  | c :: d :: ds =>
    if isHigh c && isLow d then pairPoint c d :: points ds
    else point c :: points (d :: ds)

/-- The units of a code point. -/
def units (n : Nat) : Text :=
  if n < 0x10000 then [n.toUInt16]
  else [(0xd800 + (n - 0x10000) / 0x400).toUInt16, (0xdc00 + (n - 0x10000) % 0x400).toUInt16]

/-- The bytes of a code point. -/
def encodePoint (n : Nat) : Bytes :=
  if n < 0x80 then [n.toUInt8]
  else if n < 0x800 then [(0xc0 + n / 0x40).toUInt8, (0x80 + n % 0x40).toUInt8]
  else if n < 0x10000 then
    [(0xe0 + n / 0x1000).toUInt8, (0x80 + n / 0x40 % 0x40).toUInt8, (0x80 + n % 0x40).toUInt8]
  else
    [(0xf0 + n / 0x40000).toUInt8, (0x80 + n / 0x1000 % 0x40).toUInt8,
      (0x80 + n / 0x40 % 0x40).toUInt8, (0x80 + n % 0x40).toUInt8]

/-- `Buffer.from` of a text. -/
def encode (t : Text) : Bytes := (points t).flatMap encodePoint

/-- Where a decoder stands: how many bytes are still to come, between which bounds the next
one is, and what the bytes so far say. -/
structure Pending where
  needed : Nat
  lower : Nat
  upper : Nat
  bits : Nat

def idle : Pending := ⟨0, 0x80, 0xbf, 0⟩

/-- A byte that begins a code point. -/
def first (b : Nat) : List Nat × Pending :=
  if b < 0x80 then ([b], idle)
  else if b < 0xc2 then ([replacement], idle)
  else if b < 0xe0 then ([], ⟨1, 0x80, 0xbf, b - 0xc0⟩)
  else if b < 0xf0 then
    ([], ⟨2, if b = 0xe0 then 0xa0 else 0x80, if b = 0xed then 0x9f else 0xbf, b - 0xe0⟩)
  else if b < 0xf5 then
    ([], ⟨3, if b = 0xf0 then 0x90 else 0x80, if b = 0xf4 then 0x8f else 0xbf, b - 0xf0⟩)
  else ([replacement], idle)

/-- One byte. -/
def next (s : Pending) (b : Nat) : List Nat × Pending :=
  if s.needed = 0 then first b
  else if s.lower ≤ b ∧ b ≤ s.upper then
    let bits := s.bits * 0x40 + (b - 0x80)
    if s.needed = 1 then ([bits], idle) else ([], ⟨s.needed - 1, 0x80, 0xbf, bits⟩)
  else
    let r := first b
    (replacement :: r.1, r.2)

/-- The code points of the bytes that are left. -/
def decodeFrom (s : Pending) : Bytes → List Nat
  | [] => if s.needed = 0 then [] else [replacement]
  | b :: bs => (next s b.toNat).1 ++ decodeFrom (next s b.toNat).2 bs

/-- `Buffer.toString` of some bytes. -/
def decode (bs : Bytes) : Text := (decodeFrom idle bs).flatMap units

/-- A text without unpaired surrogates. -/
inductive WellFormed : Text → Prop where
  | nil : WellFormed []
  | unit {c : UInt16} {t : Text} : isSurrogate c = false → WellFormed t → WellFormed (c :: t)
  | pair {hi lo : UInt16} {t : Text} : isHigh hi = true → isLow lo = true → WellFormed t →
      WellFormed (hi :: lo :: t)

theorem WellFormed.append {s t : Text} (hs : WellFormed s) (ht : WellFormed t) :
    WellFormed (s ++ t) := by
  induction hs with
  | nil => exact ht
  | unit hc _ ih => exact .unit hc ih
  | pair hhi hlo _ ih => exact .pair hhi hlo ih

/-- A text of units outside the surrogates is well formed. -/
theorem WellFormed.of_all {t : Text} (h : ∀ c ∈ t, isSurrogate c = false) : WellFormed t := by
  induction t with
  | nil => exact .nil
  | cons c t ih =>
    exact .unit (h c mem_cons_self) (ih fun d hd => h d (mem_cons_of_mem c hd))

/-- The same, from the test of each unit. -/
theorem WellFormed.of_plain {t : Text} (h : (t.all fun c => !isSurrogate c) = true) :
    WellFormed t := by
  apply WellFormed.of_all
  intro c hc
  simpa using List.all_eq_true.mp h c hc

theorem isSurrogate_of_isHigh {c : UInt16} (h : isHigh c = true) : isSurrogate c = true := by
  simp only [isHigh, isSurrogate, Bool.and_eq_true, decide_eq_true_eq] at h ⊢
  omega

theorem isSurrogate_of_isLow {c : UInt16} (h : isLow c = true) : isSurrogate c = true := by
  simp only [isLow, isSurrogate, Bool.and_eq_true, decide_eq_true_eq] at h ⊢
  omega

theorem points_unit {c : UInt16} (h : isSurrogate c = false) (t : Text) :
    points (c :: t) = c.toNat :: points t := by
  have hpoint : point c = c.toNat := by
    unfold point
    rw [if_neg (by rw [h]; exact Bool.false_ne_true)]
  have hhigh : isHigh c = false := by
    cases hc : isHigh c with
    | false => rfl
    | true =>
      rw [isSurrogate_of_isHigh hc] at h
      cases h
  cases t with
  | nil => rw [points.eq_2, hpoint, points.eq_1]
  | cons d ds => rw [points, hhigh, Bool.false_and, if_neg Bool.false_ne_true, hpoint]

theorem points_pair {hi lo : UInt16} (hhi : isHigh hi = true) (hlo : isLow lo = true) (t : Text) :
    points (hi :: lo :: t) = pairPoint hi lo :: points t := by
  rw [points, hhi, hlo, Bool.true_and, if_pos rfl]

/-- A code point that is not a surrogate. -/
def Scalar (n : Nat) : Prop := n < 0xd800 ∨ (0xe000 ≤ n ∧ n < 0x110000)

theorem decodeFrom_cons (s : Pending) {n : Nat} (h : n < 0x100) (rest : Bytes) :
    decodeFrom s (n.toUInt8 :: rest) = (next s n).1 ++ decodeFrom (next s n).2 rest := by
  have hn : n.toUInt8.toNat = n := by
    show n % 0x100 = n
    omega
  rw [decodeFrom, hn]

section

variable {lower upper k : Nat} (hlower : lower ≤ 0x80 + k) (hupper : 0x80 + k ≤ upper)
include hlower hupper

/-- A byte that ends a code point. -/
theorem next_last {bits : Nat} :
    next ⟨1, lower, upper, bits⟩ (0x80 + k) = ([bits * 0x40 + k], idle) := by
  unfold next
  rw [if_neg Nat.one_ne_zero, if_pos ⟨hlower, hupper⟩, if_pos rfl, Nat.add_sub_cancel_left]

/-- A byte that continues a code point. -/
theorem next_more {needed bits : Nat} :
    next ⟨needed + 2, lower, upper, bits⟩ (0x80 + k) =
      ([], ⟨needed + 1, 0x80, 0xbf, bits * 0x40 + k⟩) := by
  unfold next
  have hmore : ¬ needed + 2 = 1 := by omega
  rw [if_neg (Nat.succ_ne_zero _), if_pos ⟨hlower, hupper⟩, if_neg hmore, Nat.add_sub_cancel_left]
  rfl

end

theorem next_idle (b : Nat) : next idle b = first b := rfl

theorem first_two {k : Nat} (hlower : 2 ≤ k) (hupper : k < 0x20) :
    first (0xc0 + k) = ([], ⟨1, 0x80, 0xbf, k⟩) := by
  unfold first
  rw [if_neg (by omega), if_neg (by omega), if_pos (by omega), Nat.add_sub_cancel_left]

theorem first_three {k : Nat} (h : k < 0x10) :
    first (0xe0 + k) =
      ([], ⟨2, if k = 0 then 0xa0 else 0x80, if k = 0xd then 0x9f else 0xbf, k⟩) := by
  unfold first
  rw [if_neg (by omega), if_neg (by omega), if_neg (by omega), if_pos (by omega),
    Nat.add_sub_cancel_left]
  simp only [show 0xe0 + k = 0xe0 ↔ k = 0 by omega, show 0xe0 + k = 0xed ↔ k = 0xd by omega]

theorem first_four {k : Nat} (h : k < 5) :
    first (0xf0 + k) =
      ([], ⟨3, if k = 0 then 0x90 else 0x80, if k = 4 then 0x8f else 0xbf, k⟩) := by
  unfold first
  rw [if_neg (by omega), if_neg (by omega), if_neg (by omega), if_neg (by omega),
    if_pos (by omega), Nat.add_sub_cancel_left]
  simp only [show 0xf0 + k = 0xf0 ↔ k = 0 by omega, show 0xf0 + k = 0xf4 ↔ k = 4 by omega]

/-- One code point is read back. -/
theorem decodeFrom_encodePoint {n : Nat} (h : Scalar n) (rest : Bytes) :
    decodeFrom idle (encodePoint n ++ rest) = n :: decodeFrom idle rest := by
  unfold Scalar at h
  unfold encodePoint
  split_ifs with h₁ h₂ h₃
  · have hone : first n = ([n], idle) := by
      unfold first
      rw [if_pos h₁]
    rw [singleton_append, decodeFrom_cons _ (by omega), next_idle, hone]
    rfl
  · simp only [cons_append, nil_append]
    rw [decodeFrom_cons _ (by omega), next_idle, first_two (by omega) (by omega),
      decodeFrom_cons _ (by omega), next_last (by omega) (by omega)]
    show [_] ++ _ = _
    rw [singleton_append]
    congr 1
    omega
  · have hlower : (if n / 0x1000 = 0 then 0xa0 else 0x80) ≤ 0x80 + n / 0x40 % 0x40 := by
      split_ifs <;> omega
    have hupper : 0x80 + n / 0x40 % 0x40 ≤ if n / 0x1000 = 0xd then 0x9f else 0xbf := by
      split_ifs <;> omega
    simp only [cons_append, nil_append]
    rw [decodeFrom_cons _ (by omega), next_idle, first_three (by omega),
      decodeFrom_cons _ (by omega), next_more hlower hupper,
      decodeFrom_cons _ (by omega), next_last (by omega) (by omega)]
    show [_] ++ _ = _
    rw [singleton_append]
    congr 1
    omega
  · have hlower : (if n / 0x40000 = 0 then 0x90 else 0x80) ≤ 0x80 + n / 0x1000 % 0x40 := by
      split_ifs <;> omega
    have hupper : 0x80 + n / 0x1000 % 0x40 ≤ if n / 0x40000 = 4 then 0x8f else 0xbf := by
      split_ifs <;> omega
    simp only [cons_append, nil_append]
    rw [decodeFrom_cons _ (by omega), next_idle, first_four (by omega),
      decodeFrom_cons _ (by omega), next_more hlower hupper,
      decodeFrom_cons _ (by omega), next_more (by omega) (by omega),
      decodeFrom_cons _ (by omega), next_last (by omega) (by omega)]
    show [_] ++ _ = _
    rw [singleton_append]
    congr 1
    omega

theorem decodeFrom_encode {ns : List Nat} (h : ∀ n ∈ ns, Scalar n) :
    decodeFrom idle (ns.flatMap encodePoint) = ns := by
  induction ns with
  | nil => rfl
  | cons n ns ih =>
    rw [flatMap_cons, decodeFrom_encodePoint (h n mem_cons_self),
      ih fun m hm => h m (mem_cons_of_mem n hm)]

section

variable {t : Text} (h : WellFormed t)
include h

theorem WellFormed.scalar : ∀ n ∈ points t, Scalar n := by
  induction h with
  | nil => exact fun n hn => absurd hn not_mem_nil
  | @unit c t hc _ ih =>
    intro n hn
    rw [points_unit hc] at hn
    rcases mem_cons.mp hn with rfl | hn
    · have hlt := c.toNat_lt
      simp only [isSurrogate, Bool.and_eq_false_iff, decide_eq_false_iff_not] at hc
      unfold Scalar
      omega
    · exact ih n hn
  | @pair hi lo t hhi hlo _ ih =>
    intro n hn
    rw [points_pair hhi hlo] at hn
    rcases mem_cons.mp hn with heq | hn
    · simp only [isHigh, isLow, Bool.and_eq_true, decide_eq_true_eq] at hhi hlo
      rw [heq]
      unfold Scalar pairPoint
      omega
    · exact ih n hn

theorem WellFormed.units : (points t).flatMap units = t := by
  induction h with
  | nil => rfl
  | @unit c t hc _ ih =>
    have hunits : Utf8.units c.toNat = [c] := by
      unfold Utf8.units
      rw [if_pos (by have := c.toNat_lt; omega)]
      simp
    rw [points_unit hc, flatMap_cons, hunits, ih, singleton_append]
  | @pair hi lo t hhi hlo _ ih =>
    have hbounds := And.intro hhi hlo
    simp only [isHigh, isLow, Bool.and_eq_true, decide_eq_true_eq] at hbounds
    have hhigh : 0xd800 + (pairPoint hi lo - 0x10000) / 0x400 = hi.toNat := by
      unfold pairPoint
      omega
    have hlow : 0xdc00 + (pairPoint hi lo - 0x10000) % 0x400 = lo.toNat := by
      unfold pairPoint
      omega
    have hunits : Utf8.units (pairPoint hi lo) = [hi, lo] := by
      have hlarge : ¬ pairPoint hi lo < 0x10000 := by
        unfold pairPoint
        omega
      unfold Utf8.units
      rw [if_neg hlarge, hhigh, hlow]
      show [UInt16.ofNat hi.toNat, UInt16.ofNat lo.toNat] = _
      rw [UInt16.ofNat_toNat, UInt16.ofNat_toNat]
    rw [points_pair hhi hlo, flatMap_cons, hunits, ih]
    rfl

/-- A text without unpaired surrogates is read back. -/
theorem decode_encode : decode (encode t) = t := by
  unfold decode encode
  rw [decodeFrom_encode h.scalar, h.units]

end

theorem encodePoint_pos (n : Nat) : 0 < (encodePoint n).length := by
  unfold encodePoint
  split_ifs <;> simp

/-- A text that is not empty has bytes. -/
theorem encode_pos {t : Text} (h : t ≠ []) : 0 < (encode t).length := by
  have hcons : ∃ n ns, points t = n :: ns := by
    cases t with
    | nil => exact absurd rfl h
    | cons c cs =>
      cases cs with
      | nil => exact ⟨_, _, rfl⟩
      | cons d ds =>
        rw [points]
        split
        · exact ⟨_, _, rfl⟩
        · exact ⟨_, _, rfl⟩
  obtain ⟨n, ns, hpoints⟩ := hcons
  have hfirst := encodePoint_pos n
  unfold encode
  rw [hpoints, flatMap_cons, length_append]
  omega

end Utf8

end Sencho.Verified

import Mathlib.Data.Nat.Digits.Lemmas
import Sencho.Verified.Json

/-!
# Decimal numerals

How an integer is written in a text, and the number a run of digits stands for.
-/

namespace Sencho.Verified.Decimals

open CodeUnits Json List

def digit (n : Nat) : UInt16 := (0x30 + n).toUInt16

def digitValue (c : UInt16) : Nat := c.toNat - 0x30

/-- A number in digits. -/
def decimal (n : Nat) : Text :=
  if n = 0 then [digit 0] else ((Nat.digits 10 n).map digit).reverse

def decimalInt : Int → Text
  | .ofNat n => decimal n
  | .negSucc n => unit '-' :: decimal (n + 1)

/-- The number that digits stand for. -/
def value (t : Text) : Nat := t.foldl (fun n c => n * 10 + digitValue c) 0

theorem digitValue_digit {n : Nat} (h : n < 10) : digitValue (digit n) = n := by
  have hall : ∀ n : Fin 10, digitValue (digit n) = n.val := by decide
  exact hall ⟨n, h⟩

theorem isDigit_digit {n : Nat} (h : n < 10) : isDigit (digit n) = true := by
  have hall : ∀ n : Fin 10, isDigit (digit n) = true := by decide
  exact hall ⟨n, h⟩

theorem value_digits {ds : List Nat} (h : ∀ d ∈ ds, d < 10) :
    value (ds.map digit).reverse = Nat.ofDigits 10 ds := by
  unfold value
  rw [foldl_reverse]
  induction ds with
  | nil => rfl
  | cons d ds ih =>
    rw [map_cons, foldr_cons, ih fun e he => h e (mem_cons_of_mem d he),
      digitValue_digit (h d mem_cons_self), Nat.ofDigits_cons]
    omega

/-- A number that was written is read back. -/
theorem value_decimal (n : Nat) : value (decimal n) = n := by
  unfold decimal
  by_cases hn : n = 0
  · rw [if_pos hn, hn]
    rfl
  · rw [if_neg hn, value_digits fun d hd => Nat.digits_lt_base (by decide) hd, Nat.ofDigits_digits]

theorem decimal_digits (n : Nat) : ∀ c ∈ decimal n, isDigit c = true := by
  unfold decimal
  intro c hc
  by_cases hn : n = 0
  · rw [if_pos hn] at hc
    rw [mem_singleton.mp hc]
    decide
  · rw [if_neg hn, mem_reverse, mem_map] at hc
    obtain ⟨d, hd, rfl⟩ := hc
    exact isDigit_digit (Nat.digits_lt_base (by decide) hd)

/-- A number that is not zero begins with another digit. -/
theorem decimal_cons {n : Nat} (h : n ≠ 0) :
    ∃ c cs, decimal n = c :: cs ∧ isDigit c = true ∧ c ≠ unit '0' := by
  have hne : Nat.digits 10 n ≠ [] := Nat.digits_ne_nil_iff_ne_zero.mpr h
  have hlast := Nat.getLast_digit_ne_zero 10 h
  have hlt : (Nat.digits 10 n).getLast hne < 10 :=
    Nat.digits_lt_base (by decide) (getLast_mem hne)
  have hdecimal : decimal n = digit ((Nat.digits 10 n).getLast hne) ::
      ((Nat.digits 10 n).dropLast.map digit).reverse := by
    unfold decimal
    rw [if_neg h]
    conv_lhs => rw [← dropLast_append_getLast hne]
    rw [map_append, reverse_append]
    rfl
  refine ⟨_, _, hdecimal, isDigit_digit hlt, fun hzero => hlast ?_⟩
  have hvalue := digitValue_digit hlt
  rw [hzero] at hvalue
  rw [← hvalue]
  rfl

def readInt : Text → Int
  | [] => 0
  | c :: t => if c = unit '-' then -(value t : Int) else value (c :: t)

/-- The integers, of which those between the bounds are told apart. -/
def integers : Numbers Int where
  read := readInt
  print := decimalInt
  finite := fun _ => true
  ofInt := fun n => n
  safeInt := fun n => if n.natAbs ≤ 9007199254740991 then some n else none

theorem isUnsigned_decimal (n : Nat) : isUnsigned (decimal n) = true := by
  by_cases hn : n = 0
  · rw [hn]
    decide
  · obtain ⟨c, cs, heq, hdigit, hzero⟩ := decimal_cons hn
    have hrest : cs.dropWhile isDigit = [] := by
      have hall : ∀ d ∈ cs, isDigit d = true := by
        intro d hd
        refine decimal_digits n d ?_
        rw [heq]
        exact mem_cons_of_mem c hd
      have hdrop : (cs ++ []).dropWhile isDigit = ([] : Text).dropWhile isDigit :=
        dropWhile_append_of_pos hall
      rw [append_nil] at hdrop
      exact hdrop
    rw [heq, isUnsigned, if_neg hzero, hdigit, hrest]
    rfl

theorem isNumberUnit_of_isDigit {c : UInt16} (h : isDigit c = true) : isNumberUnit c = true := by
  unfold isNumberUnit
  rw [h]
  rfl

theorem isLiteral_decimalInt (n : Int) : isLiteral (decimalInt n) = true := by
  have hunits : ∀ n, (decimal n).all isNumberUnit = true := fun n =>
    all_eq_true.mpr fun c hc => isNumberUnit_of_isDigit (decimal_digits n c hc)
  have hminus : isDigit (unit '-') = false := by decide
  cases n with
  | ofNat n =>
    show isLiteral (decimal n) = true
    have hunsigned := isUnsigned_decimal n
    have hall := hunits n
    have hdigits := decimal_digits n
    cases hdecimal : decimal n with
    | nil =>
      rw [hdecimal] at hunsigned
      cases hunsigned
    | cons c cs =>
      rw [hdecimal] at hunsigned hall hdigits
      have hne : c ≠ unit '-' := by
        rintro rfl
        rw [hdigits _ mem_cons_self] at hminus
        cases hminus
      unfold isLiteral
      dsimp only
      rw [hall, if_neg hne, hunsigned]
      rfl
  | negSucc n =>
    show isLiteral (unit '-' :: decimal (n + 1)) = true
    unfold isLiteral
    dsimp only
    rw [all_cons, hunits, if_pos rfl, isUnsigned_decimal]
    decide

theorem readInt_decimalInt (n : Int) : readInt (decimalInt n) = n := by
  cases n with
  | ofNat n =>
    show readInt (decimal n) = _
    have hvalue := value_decimal n
    have hdigits := decimal_digits n
    cases hdecimal : decimal n with
    | nil =>
      rw [hdecimal] at hvalue
      rw [← hvalue]
      rfl
    | cons c cs =>
      rw [hdecimal] at hvalue hdigits
      have hne : c ≠ unit '-' := by
        rintro rfl
        exact absurd (hdigits _ mem_cons_self) (by decide)
      rw [readInt, if_neg hne, hvalue]
      rfl
  | negSucc n =>
    show readInt (unit '-' :: decimal (n + 1)) = _
    rw [readInt, if_pos rfl, value_decimal]
    rfl

/-- The integers are numbers that JSON can hold. -/
theorem integers_lawful : Lawful integers where
  literal := fun n _ => isLiteral_decimalInt n
  read_print := fun n _ => readInt_decimalInt n
  finite_ofInt := fun _ => rfl
  finite_of_safeInt := fun _ _ _ => rfl

end Sencho.Verified.Decimals

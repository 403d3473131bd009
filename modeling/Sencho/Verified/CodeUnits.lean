import Mathlib.Data.List.Basic
import Sencho.Verified.JsString

/-!
# Texts as lists of code units

A JavaScript string is a list of sixteen-bit units, paired or not.  Programs that walk a
string by index, cut it, trim it and replace what a pattern matches are functions on such
lists; a global replace is a walk that skips what it has replaced.
-/

namespace Sencho.Verified

open List

/-- A text as a JavaScript host holds it. -/
abbrev Text := List UInt16

instance : LawfulBEq Text := inferInstanceAs (LawfulBEq (List UInt16))

namespace CodeUnits

/-- The units of a string. -/
def text (s : String) : Text := (JsString.units s).map fun n => n.toUInt16

/-- The unit of a character of the basic plane. -/
def unit (c : Char) : UInt16 := c.toNat.toUInt16

/-- The class `\s`: white space and line terminators. -/
def isSpace (c : UInt16) : Bool :=
  (0x09 ≤ c && c ≤ 0x0d) || c = 0x20 || c = 0xa0 || c = 0x1680 || (0x2000 ≤ c && c ≤ 0x200a) ||
    c = 0x2028 || c = 0x2029 || c = 0x202f || c = 0x205f || c = 0x3000 || c = 0xfeff

/-- The units before the last that a class does not hold. -/
def trimEnd (p : UInt16 → Bool) (t : Text) : Text := (t.reverse.dropWhile p).reverse

def trim (t : Text) : Text := trimEnd isSpace (t.dropWhile isSpace)

/-- `split` on a line break, `\r\n` or `\n`. -/
def splitLines (t : Text) : List Text :=
  let lines := t.splitOn (unit '\n')
  lines.dropLast.map (fun line => if line.getLast? = some (unit '\r') then line.dropLast else line) ++
    lines.getLast?.toList

/-- The text without a prefix. -/
def afterPrefix : Text → Text → Option Text
  | [], t => some t
  | _ :: _, [] => none
  | c :: cs, d :: ds => if c = d then afterPrefix cs ds else none

theorem afterPrefix_eq {p t r : Text} (h : afterPrefix p t = some r) : t = p ++ r := by
  induction p generalizing t with
  | nil => exact Option.some.inj h
  | cons c p ih =>
    cases t with
    | nil => cases h
    | cons d t =>
      unfold afterPrefix at h
      split at h
      · rename_i hcd
        rw [ih h, hcd]
        rfl
      · cases h

/-- `replace` with a global pattern: at each place a match gives what stands for it and its
length, and the walk skips the rest of the match. -/
def replaceAll (pattern : Text → Option (Text × Nat)) : Nat → Text → Text
  | _, [] => []
  | skip + 1, _ :: cs => replaceAll pattern skip cs
  | 0, c :: cs =>
    match pattern (c :: cs) with
    | some (out, length) => out ++ replaceAll pattern (length - 1) cs
    | none => c :: replaceAll pattern 0 cs

/-- The same where what stands for a match may fail. -/
def replaceAllM {ε : Type} (pattern : Text → Option (Except ε Text × Nat)) :
    Nat → Text → Except ε Text
  | _, [] => .ok []
  | skip + 1, _ :: cs => replaceAllM pattern skip cs
  | 0, c :: cs =>
    match pattern (c :: cs) with
    | some (out, length) => do
      let out ← out
      let rest ← replaceAllM pattern (length - 1) cs
      return out ++ rest
    | none => do
      let rest ← replaceAllM pattern 0 cs
      return c :: rest

variable {pattern : Text → Option (Text × Nat)} {p : UInt16 → Bool}

theorem trimEnd_append_of (t : Text) {c : UInt16} (h : p c = false) :
    trimEnd p (t ++ [c]) = t ++ [c] := by
  unfold trimEnd
  rw [reverse_append, reverse_singleton, singleton_append,
    dropWhile_cons_of_neg (by rw [h]; exact Bool.false_ne_true)]
  simp

/-- A text that ends outside a class is not trimmed. -/
theorem trimEnd_of_all {t : Text} (h : ∀ c ∈ t, p c = false) : trimEnd p t = t := by
  rcases eq_nil_or_concat t with rfl | ⟨t', c, rfl⟩
  · rfl
  · rw [concat_eq_append] at h ⊢
    exact trimEnd_append_of t' (h c (mem_append_right _ mem_cons_self))

/-- Two classes that agree on a text trim it alike. -/
theorem trimEnd_congr {q : UInt16 → Bool} {t : Text} (h : ∀ c ∈ t, p c = q c) :
    trimEnd p t = trimEnd q t := by
  unfold trimEnd
  have hreverse : ∀ c ∈ t.reverse, p c = q c := fun c hc => h c (mem_reverse.mp hc)
  generalize t.reverse = r at hreverse
  refine congrArg List.reverse ?_
  induction r with
  | nil => rfl
  | cons c cs ih =>
    rw [dropWhile_cons, dropWhile_cons, hreverse c mem_cons_self,
      ih fun d hd => hreverse d (mem_cons_of_mem _ hd)]

theorem replaceAll_of_none {t : Text} (h : ∀ c cs, (c :: cs) <:+ t → pattern (c :: cs) = none) :
    replaceAll pattern 0 t = t := by
  induction t with
  | nil => rfl
  | cons c cs ih =>
    rw [replaceAll, h c cs (suffix_refl _), ih fun d ds hd => h d ds (hd.trans (suffix_cons c cs))]

theorem replaceAllM_of_none {ε : Type} {pattern : Text → Option (Except ε Text × Nat)} {t : Text}
    (h : ∀ c cs, (c :: cs) <:+ t → pattern (c :: cs) = none) : replaceAllM pattern 0 t = .ok t := by
  induction t with
  | nil => rfl
  | cons c cs ih =>
    rw [replaceAllM, h c cs (suffix_refl _)]
    rw [ih fun d ds hd => h d ds (hd.trans (suffix_cons c cs))]
    rfl

/-- A replace that rewrites what was written for each unit. -/
theorem replaceAll_written {w r : UInt16 → Text} (h : ∀ c rest, (∃ d ds, w c = d :: ds ∧
      pattern (d :: (ds ++ rest)) = some (r c, ds.length + 1)) ∨
        (w c = [c] ∧ r c = [c] ∧ pattern (c :: rest) = none)) (t : Text) :
    replaceAll pattern 0 (t.flatMap w) = t.flatMap r := by
  have hskip : ∀ l rest : Text, replaceAll pattern l.length (l ++ rest) =
      replaceAll pattern 0 rest := by
    intro l
    induction l with
    | nil => exact fun _ => rfl
    | cons c l ih => exact fun rest => ih rest
  induction t with
  | nil => rfl
  | cons c t ih =>
    rw [flatMap_cons, flatMap_cons]
    rcases h c (t.flatMap w) with ⟨d, ds, hw, hpattern⟩ | ⟨hw, hr, hpattern⟩
    · rw [hw, cons_append, replaceAll, hpattern]
      dsimp only
      rw [Nat.add_sub_cancel, hskip, ih]
    · rw [hw, hr, singleton_append, replaceAll, hpattern]
      rw [ih]
      rfl

/-- A replace that undoes what was written for each unit. -/
theorem replaceAll_flatMap {write : UInt16 → Text} (h : ∀ c rest, (∃ d ds, write c = d :: ds ∧
      pattern (d :: (ds ++ rest)) = some ([c], ds.length + 1)) ∨
        (write c = [c] ∧ pattern (c :: rest) = none)) (t : Text) :
    replaceAll pattern 0 (t.flatMap write) = t := by
  rw [replaceAll_written (r := fun c => [c]) fun c rest =>
    (h c rest).imp_right fun hplain => ⟨hplain.1, rfl, hplain.2⟩, flatMap_singleton']

/-- The same where what stands for a match may fail, and does not. -/
theorem replaceAllM_flatMap {ε : Type} {pattern : Text → Option (Except ε Text × Nat)}
    {w : UInt16 → Text} (h : ∀ c rest, (∃ d ds, w c = d :: ds ∧
      pattern (d :: (ds ++ rest)) = some (.ok [c], ds.length + 1)) ∨
        (w c = [c] ∧ pattern (c :: rest) = none)) (t : Text) :
    replaceAllM pattern 0 (t.flatMap w) = .ok t := by
  have hskip : ∀ l rest : Text, replaceAllM pattern l.length (l ++ rest) =
      replaceAllM pattern 0 rest := by
    intro l
    induction l with
    | nil => exact fun _ => rfl
    | cons c l ih => exact fun rest => ih rest
  induction t with
  | nil => rfl
  | cons c t ih =>
    rw [flatMap_cons]
    rcases h c (t.flatMap w) with ⟨d, ds, hw, hpattern⟩ | ⟨hw, hpattern⟩
    · rw [hw, cons_append, replaceAllM, hpattern]
      dsimp only
      rw [Nat.add_sub_cancel, hskip, ih]
      rfl
    · rw [hw, singleton_append, replaceAllM, hpattern]
      rw [ih]
      rfl

end CodeUnits

end Sencho.Verified

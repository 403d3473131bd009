import Mathlib.Data.List.TakeWhile
import Sencho.EnvFiles.QuotedPairs

/-!
# Reading a serialized map

`parseEnv` gives back a map that `serializeEnv` wrote exactly where it keeps every entry: no
key is `__proto__`, no value holds a line feed, and no backslash of a value stands before a
letter that the reader takes with it.

A value with a line feed is lost for good: the first line it is cut into has a double quote
less than the value, and what the other lines assign has no line feed.
-/

namespace Sencho.EnvFiles

open Verified CodeUnits List AList

/-- A line without the carriage return of its break. -/
def stripReturn (line : Text) : Text :=
  if line.getLast? = some (unit '\r') then line.dropLast else line

theorem splitLines_of_notMem {t : Text} (h : unit '\n' ∉ t) : splitLines t = [t] := by
  unfold splitLines
  rw [splitOn_eq_singleton h]
  rfl

/-- The first line of a text, and the lines after its break. -/
theorem splitLines_append {a : Text} (h : unit '\n' ∉ a) (b : Text) :
    splitLines (a ++ unit '\n' :: b) = stripReturn a :: splitLines b := by
  unfold splitLines
  rw [splitOn_append_cons_self_of_not_mem h]
  have hne : b.splitOn (unit '\n') ≠ [] := splitOn_ne_nil _ _
  dsimp only
  rw [dropLast_cons_of_ne_nil hne, map_cons, getLast?_cons_of_ne_nil hne]
  rfl

variable {out : SecretKv} {k line : Text} (t v : Text)

/-- A text is one line, or a line, its break and more text. -/
theorem line_cases : unit '\n' ∉ t ∨ ∃ a b, unit '\n' ∉ a ∧ t = a ++ unit '\n' :: b := by
  induction t with
  | nil => exact .inl not_mem_nil
  | cons c t ih =>
    by_cases hc : c = unit '\n'
    · exact .inr ⟨[], t, not_mem_nil, by rw [hc]; rfl⟩
    · rcases ih with hnone | ⟨a, b, ha, hsplit⟩
      · refine .inl fun hmem => ?_
        rcases mem_cons.mp hmem with heq | hrest
        · exact hc heq.symm
        · exact hnone hrest
      · refine .inr ⟨c :: a, b, fun hmem => ?_, by rw [hsplit]; rfl⟩
        rcases mem_cons.mp hmem with heq | hrest
        · exact hc heq.symm
        · exact ha hrest

theorem stripReturn_part (line : Text) : stripReturn line <:+: line := by
  unfold stripReturn
  split
  · exact ( dropLast_prefix line).isInfix
  · exact infix_refl line

/-- Every line is a piece of the text without a break in it. -/
theorem line_of_mem_splitLines {t : Text} (h : line ∈ splitLines t) :
    line <:+: t ∧ unit '\n' ∉ line := by
  have hsize : ∀ n (t : Text), t.length ≤ n → line ∈ splitLines t →
      line <:+: t ∧ unit '\n' ∉ line := by
    intro n
    induction n with
    | zero =>
      intro t ht hline
      have hnil : t = [] := length_eq_zero_iff.mp (Nat.le_zero.mp ht)
      rw [hnil, splitLines_of_notMem not_mem_nil, mem_singleton] at hline
      rw [hline, hnil]
      exact ⟨infix_refl [], not_mem_nil⟩
    | succ n ih =>
      intro t ht hline
      rcases line_cases t with hnone | ⟨a, b, ha, rfl⟩
      · rw [splitLines_of_notMem hnone, mem_singleton] at hline
        rw [hline]
        exact ⟨infix_refl t, hnone⟩
      · rw [splitLines_append ha] at hline
        rcases mem_cons.mp hline with rfl | hrest
        · exact ⟨(stripReturn_part a).trans (prefix_append a _).isInfix,
            fun hmem => ha ((stripReturn_part a).subset hmem)⟩
        · have hshort : b.length ≤ n := by
            rw [length_append, length_cons] at ht
            omega
          obtain ⟨hpart, hline⟩ := ih b hshort hrest
          exact ⟨hpart.trans ((suffix_cons _ b).trans (suffix_append a _)).isInfix, hline⟩
  exact hsize t.length t (.refl) h

/-- The lines of one text after another are lines of the one or of the other, where
the first does not end in a carriage return. -/
theorem mem_splitLines_append {a : Text} (h : a.getLast? ≠ some (unit '\r')) (b : Text)
    (hline : line ∈ splitLines (a ++ unit '\n' :: b)) :
    line ∈ splitLines a ∨ line ∈ splitLines b := by
  have hsize : ∀ n (a : Text), a.length ≤ n → a.getLast? ≠ some (unit '\r') →
      line ∈ splitLines (a ++ unit '\n' :: b) → line ∈ splitLines a ∨ line ∈ splitLines b := by
    intro n
    induction n with
    | zero =>
      intro a ha _ hline
      have hnil : a = [] := length_eq_zero_iff.mp (Nat.le_zero.mp ha)
      rw [hnil, splitLines_append not_mem_nil] at hline
      rw [hnil, splitLines_of_notMem not_mem_nil]
      exact (mem_cons.mp hline).imp (fun h => mem_singleton.mpr h) id
    | succ n ih =>
      intro a ha hlast hline
      rcases line_cases a with hnone | ⟨first, rest, hfirst, rfl⟩
      · rw [splitLines_append hnone] at hline
        have hkept : stripReturn a = a := if_neg hlast
        rw [hkept] at hline
        rw [splitLines_of_notMem hnone]
        exact (mem_cons.mp hline).imp (fun h => mem_singleton.mpr h) id
      · rw [append_assoc, cons_append, splitLines_append hfirst] at hline
        rw [splitLines_append hfirst]
        rcases mem_cons.mp hline with rfl | hlater
        · exact .inl mem_cons_self
        · have hshort : rest.length ≤ n := by
            rw [length_append, length_cons] at ha
            omega
          have hlast' : rest.getLast? ≠ some (unit '\r') := by
            intro hreturn
            refine hlast ?_
            rw [getLast?_append, getLast?_cons]
            rw [hreturn]
            rfl
          exact (ih rest hshort hlast' hlater).imp (mem_cons_of_mem _) id
  exact hsize a.length a (.refl) h hline

/-- The key and the value one line assigns. -/
def assignment (rawLine : Text) : Option (Text × Text) :=
  let line := trim rawLine
  if line = [] ∨ line.head? = some (unit '#') ∨ unit '=' ∉ line then none
  else
    let key := trim (line.takeWhile fun c => c ≠ unit '=')
    let rawValue := (line.dropWhile fun c => c ≠ unit '=').tail
    if isEnvKey key then some (key, parseValue rawValue) else none

theorem parseLine_eq (out : SecretKv) (rawLine : Text) : parseLine out rawLine =
      (assignment rawLine).elim out fun e => setProperty out e.1 e.2 := by
  unfold parseLine assignment
  dsimp only
  split
  · rfl
  · split
    · rfl
    · rfl

theorem trim_part : trim t <:+: t := by
  have hstart' : ((t.dropWhile isSpace).reverse.dropWhile isSpace).reverse <+:
      t.dropWhile isSpace := by
    rw [← reverse_suffix, reverse_reverse]
    exact dropWhile_suffix _
  exact hstart'.isInfix.trans (dropWhile_suffix _).isInfix

theorem beforeSpacedComment_start : beforeSpacedComment t <+: t := by
  induction t with
  | nil => exact prefix_refl []
  | cons c cs ih =>
    rw [beforeSpacedComment]
    split
    · exact nil_prefix
    · exact prefix_cons_inj c |>.mpr ih

/-- A value is what stands between double quotes, unescaped, or a piece of its text. -/
theorem parseValue_cases (rawValue : Text) :
    (∃ inner, rawValue = unit '"' :: (inner ++ [unit '"']) ∧
      parseValue rawValue = unescapeQuoted inner) ∨ parseValue rawValue <:+: rawValue := by
  have hbare : trim (beforeSpacedComment rawValue) <:+: rawValue :=
    (trim_part _).trans (beforeSpacedComment_start rawValue).isInfix
  cases rawValue with
  | nil => exact .inr hbare
  | cons first rest =>
    rcases eq_nil_or_concat rest with rfl | ⟨inner, last, rfl⟩
    · exact .inr hbare
    · have hlast : (first :: (inner ++ [last])).getLast? = some last := by
        rw [← cons_append, getLast?_append]
        rfl
      have hinner : (first :: (inner ++ [last])).tail.dropLast = inner := by
        rw [tail_cons, dropLast_concat]
      rw [concat_eq_append] at hbare ⊢
      unfold parseValue
      rw [hlast, hinner, head?_cons]
      dsimp only
      split
      · next h =>
          refine .inl ⟨inner, ?_, rfl⟩
          rw [h.2.1, h.2.2]
      · split
        · exact .inr ⟨[first], [last], rfl⟩
        · exact .inr hbare

variable {key value : Text}

theorem assignment_spec (h : assignment line = some (key, value)) :
    ∃ before rawValue, trim line = before ++ unit '=' :: rawValue ∧
      value = parseValue rawValue := by
  unfold assignment at h
  dsimp only at h
  split at h
  · cases h
  · next hshape =>
      split at h
      · have hequals : unit '=' ∈ trim line := by
          by_contra hnone
          exact hshape (.inr (.inr hnone))
        have hsplit := takeWhile_append_dropWhile
          (p := fun c => decide (c ≠ unit '=')) (l := trim line)
        cases hdrop : (trim line).dropWhile fun c => decide (c ≠ unit '=') with
        | nil =>
          have hall := dropWhile_eq_nil_iff.mp hdrop (unit '=') hequals
          simp at hall
        | cons c rest =>
          have hc : c = unit '=' := by
            have hhead := head?_dropWhile_not (fun c => decide (c ≠ unit '=')) (trim line)
            rw [hdrop] at hhead
            simpa using hhead
          rw [hdrop] at hsplit h
          cases h
          exact ⟨_, rest, by rw [← hc]; exact hsplit.symm, rfl⟩
      · cases h

/-- A line without a line feed, where a double quote right after an equals sign ends it, does
not assign one. -/
theorem lf_notMem_assignment (hline : unit '\n' ∉ line)
    (hopen : ∀ x y, line = x ++ unit '=' :: unit '"' :: y → y = [])
    (h : assignment line = some (key, value)) : unit '\n' ∉ value := by
  obtain ⟨before, rawValue, htrim, rfl⟩ := assignment_spec h
  obtain ⟨s, t, hsplit⟩ := trim_part line
  rw [htrim] at hsplit
  rcases parseValue_cases rawValue with ⟨inner, hraw, -⟩ | hpart
  · have hrest := hopen (s ++ before) (inner ++ [unit '"'] ++ t) (by
      rw [← hsplit, hraw]
      simp)
    simp at hrest
  · intro hmem
    refine hline ?_
    rw [← hsplit]
    have hraw := hpart.subset hmem
    simp [hraw]

theorem trimEnd_keep {p : UInt16 → Bool} (a : Text) {c : UInt16} (b : Text) (h : p c = false) :
    trimEnd p (a ++ c :: b) = a ++ c :: trimEnd p b := by
  unfold trimEnd
  have hreverse : (a ++ c :: b).reverse = b.reverse ++ c :: a.reverse := by simp
  rw [hreverse, dropWhile_append_of_neg _ _ h]
  simp

/-- What a written line assigns: its key, and what is made of the rest of it. -/
theorem assignment_written (hk : isEnvKey k = true) (raw : Text) :
    assignment (k ++ unit '=' :: raw) = some (k, parseValue (trimEnd isSpace raw)) := by
  obtain ⟨c, cs, hcons, hstart, hall⟩ := isEnvKey_cons hk
  have hplain : ∀ d ∈ k, isSpace d = false ∧ d ≠ unit '=' := by
    intro d hd
    have hrange := isNameRest_range (hall d hd)
    refine ⟨?_, isNameRest_ne (hall d hd) (by decide)⟩
    simp only [isSpace, Bool.or_eq_false_iff, Bool.and_eq_false_iff, decide_eq_false_iff_not,
      UInt16.le_iff_toNat_le, UInt16.ext_iff]
    simp
    omega
  have htrim : trim (k ++ unit '=' :: raw) = k ++ unit '=' :: trimEnd isSpace raw := by
    have hfirst : (k ++ unit '=' :: raw).dropWhile isSpace = k ++ unit '=' :: raw := by
      rw [hcons, cons_append, dropWhile_cons_of_neg]
      rw [(hplain c (by rw [hcons]; exact mem_cons_self)).1]
      exact Bool.false_ne_true
    unfold trim
    rw [hfirst, trimEnd_keep k raw (by decide)]
  have hkey : (k ++ unit '=' :: trimEnd isSpace raw).takeWhile (fun c => c ≠ unit '=') = k := by
    rw [takeWhile_append_of_pos fun d hd => decide_eq_true (hplain d hd).2,
      takeWhile_cons_of_neg (by simp), append_nil]
  have hrest : ((k ++ unit '=' :: trimEnd isSpace raw).dropWhile fun c => c ≠ unit '=').tail =
      trimEnd isSpace raw := by
    rw [dropWhile_append_of_pos fun d hd => decide_eq_true (hplain d hd).2,
      dropWhile_cons_of_neg (by simp)]
    rfl
  have hktrim : trim k = k := by
    have hhead : k.dropWhile isSpace = k := by
      rw [hcons, dropWhile_cons_of_neg]
      rw [(hplain c (by rw [hcons]; exact mem_cons_self)).1]
      exact Bool.false_ne_true
    unfold trim
    rw [hhead]
    exact trimEnd_of_all fun d hd => (hplain d hd).1
  have hshape : ¬ (k ++ unit '=' :: trimEnd isSpace raw = [] ∨
      (k ++ unit '=' :: trimEnd isSpace raw).head? = some (unit '#') ∨
      unit '=' ∉ k ++ unit '=' :: trimEnd isSpace raw) := by
    rintro (hnil | hhash | hnone)
    · rw [hcons] at hnil
      cases hnil
    · rw [hcons, cons_append, head?_cons, Option.some.injEq] at hhash
      rw [hhash] at hstart
      exact absurd hstart (by decide)
    · exact hnone (mem_append_right _ mem_cons_self)
  unfold assignment
  rw [htrim, if_neg hshape, hkey, hrest, hktrim, if_pos hk]

/-- A line feed stays a line feed between quotes, and is never written otherwise. -/
theorem lf_mem_escaped {v : Text} : unit '\n' ∈ escaped v ↔ unit '\n' ∈ v := by
  rw [← count_pos_iff, ← count_pos_iff, count_escaped (by decide)]

theorem escaped_append (w : Text) : escaped (v ++ w) = escaped v ++ escaped w :=
  flatMap_append

/-- Between quotes no double quote stands right after an equals sign. -/
theorem escaped_no_opening (x y : Text) : escaped v ≠ x ++ unit '=' :: unit '"' :: y := by
  induction v generalizing x with
  | nil => exact fun h => by simp [escaped] at h
  | cons c v ih =>
    rw [escaped_cons]
    by_cases hc : c = unit '\\'
    · rw [hc, escapeUnit_back]
      rcases x with _ | ⟨a, _ | ⟨b, x⟩⟩
      · exact fun h => absurd (cons.inj h).1 (by decide)
      · exact fun h => absurd (cons.inj (cons.inj h).2).1 (by decide)
      · exact fun h => ih x (cons.inj (cons.inj h).2).2
    by_cases hq : c = unit '"'
    · rw [hq, escapeUnit_quote]
      rcases x with _ | ⟨a, _ | ⟨b, x⟩⟩
      · exact fun h => absurd (cons.inj h).1 (by decide)
      · exact fun h => absurd (cons.inj (cons.inj h).2).1 (by decide)
      · exact fun h => ih x (cons.inj (cons.inj h).2).2
    · rw [escapeUnit_other hc hq]
      rcases x with _ | ⟨a, x⟩
      · intro h
        have hrest : escaped v = unit '"' :: y := (List.cons.inj h).2
        have hhead : (escaped v).head? = some (unit '"') := by
          rw [hrest]
          rfl
        exact ((head_escaped (by decide) v).mp hhead).2 rfl
      · exact fun h => ih x (cons.inj h).2

/-- The later lines of a value that was cut assign nothing with a line feed. -/
theorem assignment_later {v key value : Text} (hline : line ∈ splitLines (escaped v ++ [unit '"']))
    (h : assignment line = some (key, value)) : unit '\n' ∉ value := by
  obtain ⟨⟨s, t, hsplit⟩, hlf⟩ := line_of_mem_splitLines hline
  refine lf_notMem_assignment hlf (fun x y hopen => ?_) h
  by_contra hy
  have hwhole : escaped v ++ [unit '"'] = (s ++ x) ++ unit '=' :: unit '"' :: (y ++ t) := by
    rw [← hsplit, hopen]
    simp
  have hne : y ++ t ≠ [] := by simp [hy]
  have hcut : escaped v ++ [unit '"'] =
      ((s ++ x) ++ unit '=' :: unit '"' :: (y ++ t).dropLast) ++ [(y ++ t).getLast hne] := by
    rw [hwhole]
    conv_lhs => rw [← dropLast_append_getLast hne]
    simp only [append_assoc, cons_append]
  exact escaped_no_opening v _ _ (append_inj' hcut rfl).1

theorem trimEnd_start (p : UInt16 → Bool) (t : Text) : trimEnd p t <+: t := by
  unfold trimEnd
  rw [← reverse_suffix, reverse_reverse]
  exact dropWhile_suffix _

/-- The first line of a value that was cut assigns its key something with fewer double
quotes, or without a line feed. -/
theorem assignment_first (hk : isEnvKey k = true) {x : Text} (hx : unit '\n' ∉ x) :
    ∃ w, assignment (stripReturn (k ++ unit '=' :: unit '"' :: escaped x)) = some (k, w) ∧
      (unit '\n' ∉ w ∨ w.count (unit '"') < x.count (unit '"')) := by
  have hstrip : ∃ q, q <+: escaped x ∧ stripReturn (k ++ unit '=' :: unit '"' :: escaped x) =
        k ++ unit '=' :: unit '"' :: q := by
    unfold stripReturn
    split
    · next hlast =>
        have hne : escaped x ≠ [] := by
          intro hnil
          rw [hnil, getLast?_append_of_ne_nil _ (by simp)] at hlast
          exact absurd hlast (by decide)
        refine ⟨(escaped x).dropLast, dropLast_prefix _, ?_⟩
        rw [dropLast_append_of_ne_nil (by simp), dropLast_cons_of_ne_nil (by simp),
          dropLast_cons_of_ne_nil hne]
    · exact ⟨escaped x, prefix_refl _, rfl⟩
  obtain ⟨q, hq, hstrip⟩ := hstrip
  have hopen : trimEnd isSpace (unit '"' :: q) = unit '"' :: trimEnd isSpace q :=
    trimEnd_keep [] q (by decide)
  refine ⟨_, by rw [hstrip, assignment_written hk, hopen], ?_⟩
  have hstart' : trimEnd isSpace q <+: escaped x := (trimEnd_start isSpace q).trans hq
  rcases parseValue_cases (unit '"' :: trimEnd isSpace q) with ⟨inner, hraw, hvalue⟩ | hpart
  · refine .inr ?_
    have hcount := hstart'.sublist.count_le (unit '"')
    rw [(cons.inj hraw).2, count_append, count_singleton_self, count_escaped (by decide)] at hcount
    rw [hvalue, count_quote_unescapeQuoted]
    omega
  · refine .inl fun hmem => ?_
    rcases mem_cons.mp (hpart.subset hmem) with heq | hrest
    · exact absurd heq (by decide)
    · exact hx (lf_mem_escaped.mp (hstart'.subset hrest))

/-- What a push writes for a value, as one line reads it. -/
theorem trimEnd_serializeValue : trimEnd isSpace (serializeValue v) = serializeValue v := by
  unfold serializeValue
  split
  · exact trimEnd_append_of (unit '"' :: v.flatMap escapeUnit) (by decide)
  · next hbare =>
      exact trimEnd_of_all fun c hc => (bare_unit (Bool.eq_false_iff.mpr hbare) hc).1

theorem beforeSpacedComment_of_all {t : Text} (h : ∀ c ∈ t, isSpace c = false) :
    beforeSpacedComment t = t := by
  induction t with
  | nil => rfl
  | cons c cs ih =>
    rw [beforeSpacedComment, h c mem_cons_self, Bool.false_and, if_neg Bool.false_ne_true,
      ih fun d hd => h d (mem_cons_of_mem _ hd)]

theorem parseValue_quoted (inner : Text) :
    parseValue (unit '"' :: (inner ++ [unit '"'])) = unescapeQuoted inner := by
  have hlast : (unit '"' :: (inner ++ [unit '"'])).getLast? = some (unit '"') := by
    rw [← cons_append, getLast?_append]
    rfl
  have hinner : (unit '"' :: (inner ++ [unit '"'])).tail.dropLast = inner := by
    rw [tail_cons, dropLast_concat]
  unfold parseValue
  rw [hlast, hinner, head?_cons]
  exact if_pos ⟨by simp, rfl, rfl⟩

/-- The value one line gives back. -/
theorem parseValue_serializeValue : parseValue (serializeValue v) =
      if needsQuotes v then unescapeQuoted (escaped v) else v := by
  cases hquotes : needsQuotes v with
  | true =>
    have hwritten : serializeValue v = unit '"' :: (escaped v ++ [unit '"']) := if_pos hquotes
    rw [hwritten, parseValue_quoted, if_pos rfl]
  | false =>
    have hwritten : serializeValue v = v := by
      unfold serializeValue
      rw [hquotes]
      rfl
    have hbare := fun c hc => bare_unit (c := c) hquotes hc
    have htrim : trim (beforeSpacedComment v) = v := by
      rw [beforeSpacedComment_of_all fun c hc => (hbare c hc).1]
      unfold trim
      have hfirst : v.dropWhile isSpace = v := by
        cases v with
        | nil => rfl
        | cons c cs =>
          rw [dropWhile_cons_of_neg]
          rw [(hbare c mem_cons_self).1]
          exact Bool.false_ne_true
      rw [hfirst]
      exact trimEnd_of_all fun c hc => (hbare c hc).1
    rw [hwritten, if_neg Bool.false_ne_true]
    unfold parseValue
    split
    · next first last hfirst hlast =>
        have hmem : first ∈ v := mem_of_head? hfirst
        rw [if_neg fun h => (hbare first hmem).2.1 h.2.1,
          if_neg fun h => (hbare first hmem).2.2 h.2.1, htrim]
    · exact htrim

/-- A value without a line feed is one line, which gives it back exactly where no backslash
of it stands before a letter. -/
theorem parseValue_eq_iff : parseValue (serializeValue v) = v ↔ PairFree v := by
  rw [parseValue_serializeValue]
  cases hquotes : needsQuotes v with
  | true => exact unescapeQuoted_eq_iff v
  | false =>
    refine iff_of_true rfl ?_
    have hfree : ∀ x, hasPair x v = false := by
      have hback : unit '\\' ∉ v := by
        intro hmem
        unfold needsQuotes at hquotes
        rw [Bool.or_eq_false_iff, any_eq_false] at hquotes
        exact absurd (hquotes.2 _ hmem) (by decide)
      intro x
      clear hquotes
      induction v with
      | nil => rfl
      | cons c v ih =>
        have hc : c ≠ unit '\\' := fun h => hback (by rw [h]; exact mem_cons_self)
        rw [hasPair_cons, ih fun h => hback (mem_cons_of_mem _ h), decide_eq_false hc]
        rfl
    exact ⟨hfree _, hfree _, hfree _⟩

theorem lf_notMem_key (hk : isEnvKey k = true) : unit '\n' ∉ k := by
  obtain ⟨c, cs, -, -, hall⟩ := isEnvKey_cons hk
  exact fun hmem => absurd (hall _ hmem) (by decide)

theorem serializeLine_eq (k v : Text) :
    serializeLine (k, v) = k ++ unit '=' :: serializeValue v := rfl

/-- A value without a line feed is written on one line. -/
theorem lf_notMem_serializeLine {v : Text} (hk : isEnvKey k = true) (hv : unit '\n' ∉ v) :
    unit '\n' ∉ serializeLine (k, v) := by
  have hvalue : unit '\n' ∉ serializeValue v := by
    unfold serializeValue
    split
    · intro hmem
      rcases mem_append.mp hmem with hquoted | hquote
      · rcases mem_cons.mp hquoted with heq | hrest
        · exact absurd heq (by decide)
        · exact hv (lf_mem_escaped.mp hrest)
      · exact absurd (mem_singleton.mp hquote) (by decide)
    · exact hv
  intro hmem
  rcases mem_append.mp hmem with hkey | hrest
  · exact lf_notMem_key hk hkey
  · rcases mem_cons.mp hrest with heq | hrest
    · exact absurd heq (by decide)
    · exact hvalue hrest

/-- A written line does not end in a carriage return. -/
theorem getLast?_serializeLine (k v : Text) :
    (serializeLine (k, v)).getLast? ≠ some (unit '\r') := by
  rw [serializeLine_eq, getLast?_append_of_ne_nil _ (by simp)]
  intro hlast
  unfold serializeValue at hlast
  split at hlast
  · rw [← cons_append, getLast?_append_of_ne_nil _ (by simp)] at hlast
    exact absurd hlast (by decide)
  · next hbare =>
      rcases mem_cons.mp (mem_of_getLast? hlast) with heq | hrest
      · exact absurd heq (by decide)
      · have hspace := (bare_unit (Bool.eq_false_iff.mpr hbare) hrest).1
        exact absurd hspace (by decide)

/-- The text of a list of entries. -/
def fileOf (entries : List (Text × Text)) : Text :=
  entries.flatMap fun e => serializeLine e ++ [unit '\n']

theorem fileOf_cons (e : Text × Text) (entries : List (Text × Text)) :
    fileOf (e :: entries) = serializeLine e ++ unit '\n' :: fileOf entries := by
  unfold fileOf
  rw [flatMap_cons, append_assoc]
  rfl

/-- Every line of a file is a line of an entry, or the empty one at its end. -/
theorem mem_splitLines_file {entries : List (Text × Text)}
    (h : line ∈ splitLines (fileOf entries)) :
    line = [] ∨ ∃ e ∈ entries, line ∈ splitLines (serializeLine e) := by
  induction entries with
  | nil =>
    have hnil : splitLines (fileOf []) = [[]] := splitLines_of_notMem not_mem_nil
    rw [hnil, mem_singleton] at h
    exact .inl h
  | cons e entries ih =>
    rw [fileOf_cons] at h
    rcases mem_splitLines_append (getLast?_serializeLine e.1 e.2) _ h with hfirst | hrest
    · exact .inr ⟨e, mem_cons_self, hfirst⟩
    · rcases ih hrest with hnil | ⟨e', he', hline⟩
      · exact .inl hnil
      · exact .inr ⟨e', mem_cons_of_mem _ he', hline⟩

/-- The lines of a file without cut values. -/
theorem splitLines_file {entries : List (Text × Text)}
    (hkeys : ∀ e ∈ entries, isEnvKey e.1 = true) (hlf : ∀ e ∈ entries, unit '\n' ∉ e.2) :
    splitLines (fileOf entries) = entries.map serializeLine ++ [[]] := by
  induction entries with
  | nil => exact splitLines_of_notMem not_mem_nil
  | cons e entries ih =>
    have hline : unit '\n' ∉ serializeLine e :=
      lf_notMem_serializeLine (hkeys e mem_cons_self) (hlf e mem_cons_self)
    have hkept : stripReturn (serializeLine e) = serializeLine e :=
      if_neg (getLast?_serializeLine e.1 e.2)
    rw [fileOf_cons, splitLines_append hline, hkept,
      ih (fun e' he' => hkeys e' (mem_cons_of_mem _ he'))
        fun e' he' => hlf e' (mem_cons_of_mem _ he')]
    rfl

theorem assignment_line {v : Text} (hk : isEnvKey k = true) :
    assignment (serializeLine (k, v)) = some (k, parseValue (serializeValue v)) := by
  rw [serializeLine_eq, assignment_written hk, trimEnd_serializeValue]

/-- No line of a value with a line feed assigns that value to its key, or a line feed to
another one. -/
theorem assignment_cut {v : Text} (hk : isEnvKey k = true) (hv : unit '\n' ∈ v) {key w : Text}
    (hline : line ∈ splitLines (serializeLine (k, v))) (h : assignment line = some (key, w)) :
    unit '\n' ∉ w ∨ key = k ∧ w ≠ v := by
  have hquotes : needsQuotes v = true := by
    unfold needsQuotes
    rw [Bool.or_eq_true, any_eq_true]
    exact .inr ⟨unit '\n', hv, by decide⟩
  rcases line_cases v with hnone | ⟨x, y, hx, hsplit⟩
  · exact absurd hv hnone
  have hwritten : serializeLine (k, v) =
      (k ++ unit '=' :: unit '"' :: escaped x) ++ unit '\n' :: (escaped y ++ [unit '"']) := by
    have hvalue : serializeValue v = unit '"' :: (escaped v ++ [unit '"']) := if_pos hquotes
    have hescaped : escaped v = escaped x ++ unit '\n' :: escaped y := by
      rw [hsplit, escaped_append, escaped_cons, escapeUnit_other (by decide) (by decide)]
      rfl
    rw [serializeLine_eq, hvalue, hescaped]
    simp
  have hfirst : unit '\n' ∉ k ++ unit '=' :: unit '"' :: escaped x := by
    intro hmem
    rcases mem_append.mp hmem with hkey | hrest
    · exact lf_notMem_key hk hkey
    · rcases mem_cons.mp hrest with heq | hrest
      · exact absurd heq (by decide)
      · rcases mem_cons.mp hrest with heq | hrest
        · exact absurd heq (by decide)
        · exact hx (lf_mem_escaped.mp hrest)
  rw [hwritten, splitLines_append hfirst] at hline
  rcases mem_cons.mp hline with rfl | hlater
  · obtain ⟨w', hassigned, hdiffers⟩ := assignment_first hk hx
    rw [hassigned] at h
    cases h
    refine hdiffers.imp_right fun hfewer => ⟨rfl, fun heq => ?_⟩
    have hcount : x.count (unit '"') ≤ v.count (unit '"') := by
      rw [hsplit]
      exact (sublist_append_left x _).count_le _
    rw [heq] at hfewer
    omega
  · exact .inl (assignment_later hlater h)

theorem lookup_setProperty_ne (h : k ≠ key) :
    (setProperty out key value).lookup k = out.lookup k := by
  unfold setProperty
  split
  · rfl
  · exact lookup_insert_ne h

theorem lookup_setProperty (h : key ≠ text "__proto__") :
    (setProperty out key value).lookup key = some value := by
  unfold setProperty
  rw [if_neg h]
  exact lookup_insert _

/-- A value that no line assigns is not there in the end. -/
theorem lookup_lines_ne {v : Text} {lines : List Text} (hout : out.lookup k ≠ some v)
    (h : ∀ line ∈ lines, assignment line ≠ some (k, v)) :
    (lines.foldl parseLine out).lookup k ≠ some v := by
  refine foldlRecOn (motive := fun out : SecretKv => out.lookup k ≠ some v) lines parseLine
    hout fun out hout line hmem => ?_
  rw [parseLine_eq]
  cases hassigned : assignment line with
  | none => exact hout
  | some e =>
    show (setProperty out e.1 e.2).lookup k ≠ some v
    by_cases hkey : k = e.1
    · unfold setProperty
      split
      · exact hout
      · rw [hkey, lookup_insert]
        intro heq
        refine h line hmem ?_
        rw [hassigned, hkey, ← Option.some.inj heq]
    · rw [lookup_setProperty_ne hkey]
      exact hout

/-- `__proto__` is never a key of what is read. -/
theorem lookup_proto (lines : List Text) (hout : out.lookup (text "__proto__") = none) :
    (lines.foldl parseLine out).lookup (text "__proto__") = none := by
  refine List.foldlRecOn (motive := fun out : SecretKv => out.lookup (text "__proto__") = none)
    lines parseLine hout fun out hout line _ => ?_
  rw [parseLine_eq]
  cases assignment line with
  | none => exact hout
  | some e =>
    show (setProperty out e.1 e.2).lookup (text "__proto__") = none
    by_cases hkey : text "__proto__" = e.1
    · unfold setProperty
      rw [if_pos hkey.symm]
      exact hout
    · rw [lookup_setProperty_ne hkey]
      exact hout

/-- Lines that each assign one entry. -/
theorem lookup_entries (entries : List (Text × Text)) (out : SecretKv)
    (hkeys : ∀ e ∈ entries, isEnvKey e.1 = true) (hnodup : (entries.map Prod.fst).Nodup) :
    (k ∉ entries.map Prod.fst →
      ((entries.map serializeLine).foldl parseLine out).lookup k = out.lookup k) ∧
    ∀ v, (k, v) ∈ entries → k ≠ text "__proto__" →
      ((entries.map serializeLine).foldl parseLine out).lookup k =
        some (parseValue (serializeValue v)) := by
  induction entries generalizing out with
  | nil => exact ⟨fun _ => rfl, fun v hmem => absurd hmem not_mem_nil⟩
  | cons e entries ih =>
    obtain ⟨k₁, v₁⟩ := e
    have hnodup' := nodup_cons.mp hnodup
    have hline : parseLine out (serializeLine (k₁, v₁)) =
        setProperty out k₁ (parseValue (serializeValue v₁)) := by
      rw [parseLine_eq, assignment_line (hkeys _ mem_cons_self)]
      rfl
    obtain ⟨hother, hthere⟩ := ih (setProperty out k₁ (parseValue (serializeValue v₁)))
      (fun e' he' => hkeys e' (mem_cons_of_mem _ he')) hnodup'.2
    have hfold : (((k₁, v₁) :: entries).map serializeLine).foldl parseLine out =
        (entries.map serializeLine).foldl parseLine
          (setProperty out k₁ (parseValue (serializeValue v₁))) := by
      rw [map_cons, foldl_cons, hline]
    rw [hfold]
    refine ⟨fun hnone => ?_, fun v hmem hproto => ?_⟩
    · rw [map_cons, mem_cons, not_or] at hnone
      rw [hother hnone.2, lookup_setProperty_ne hnone.1]
    · rcases mem_cons.mp hmem with heq | hrest
      · cases heq
        rw [hother hnodup'.1, lookup_setProperty hproto]
      · exact hthere v hrest hproto

/-- The entries that a serialized map gives back. -/
structure Kept (k v : Text) : Prop where
  key : k ≠ text "__proto__"
  line : unit '\n' ∉ v
  pairs : PairFree v

section Maps

variable {kv : SecretKv}

theorem entry_key (hkeys : ∀ key ∈ kv, isEnvKey key = true) {e : Text × Text}
    (he : e ∈ sortedEntries kv) : isEnvKey e.1 = true := by
  refine hkeys e.1 (lookup_isSome.mp ?_)
  rw [mem_sortedEntries he]
  rfl

theorem mem_sortedEntries_iff {k v : Text} : (k, v) ∈ sortedEntries kv ↔ kv.lookup k = some v := by
  refine ⟨mem_sortedEntries, fun h => ?_⟩
  have hmem : k ∈ kv := lookup_isSome.mp (by rw [h]; rfl)
  refine mem_map.mpr ⟨k, (mergeSort_perm _ _).mem_iff.mpr (mem_keys.mp hmem), ?_⟩
  rw [h]
  rfl

/-- A value with a line feed is lost. -/
theorem lookup_parseEnv_cut (hkeys : ∀ key ∈ kv, isEnvKey key = true) {k v : Text}
    (h : kv.lookup k = some v) (hv : unit '\n' ∈ v) :
    (parseEnv (serializeEnv kv)).lookup k ≠ some v := by
  have hfile : serializeEnv kv = fileOf (sortedEntries kv) := serializeEnv_eq kv
  rw [hfile]
  refine lookup_lines_ne (fun hempty => by cases hempty) fun line hline hassigned => ?_
  rcases mem_splitLines_file hline with hnil | ⟨e, he, hpiece⟩
  · rw [hnil] at hassigned
    cases hassigned
  · have hvalue : e.1 = k → e.2 = v := by
      intro hkey
      have hlookup := mem_sortedEntries he
      rw [hkey, h] at hlookup
      exact (Option.some.inj hlookup).symm
    by_cases hcut : unit '\n' ∈ e.2
    · rcases assignment_cut (entry_key hkeys he) hcut hpiece hassigned with hnone | ⟨hkey, hne⟩
      · exact hnone hv
      · exact hne (hvalue hkey.symm).symm
    · have hwhole := splitLines_of_notMem (lf_notMem_serializeLine (entry_key hkeys he) hcut)
      rw [hwhole, mem_singleton] at hpiece
      rw [hpiece, assignment_line (entry_key hkeys he)] at hassigned
      cases hassigned
      exact hcut (by rw [hvalue rfl]; exact hv)

/-- A map without cut values, entry by entry. -/
theorem lookup_parseEnv (hkeys : ∀ key ∈ kv, isEnvKey key = true)
    (hlf : ∀ e ∈ sortedEntries kv, unit '\n' ∉ e.2) {k : Text} :
    (kv.lookup k = none → (parseEnv (serializeEnv kv)).lookup k = none) ∧
    ∀ v, kv.lookup k = some v → k ≠ text "__proto__" →
      (parseEnv (serializeEnv kv)).lookup k = some (parseValue (serializeValue v)) := by
  have hentries : ∀ e ∈ sortedEntries kv, isEnvKey e.1 = true := fun e he => entry_key hkeys he
  have hfile : serializeEnv kv = fileOf (sortedEntries kv) := serializeEnv_eq kv
  have hnodup : ((sortedEntries kv).map Prod.fst).Nodup := by
    have hsame : (sortedEntries kv).map Prod.fst = kv.keys.mergeSort keyLe := by
      unfold sortedEntries
      rw [map_map]
      exact map_id _
    rw [hsame]
    exact (mergeSort_perm _ _).nodup_iff.mpr kv.nodupKeys
  have hread : parseEnv (serializeEnv kv) =
      ((sortedEntries kv).map serializeLine).foldl parseLine ∅ := by
    unfold parseEnv
    rw [hfile, splitLines_file hentries hlf, foldl_append]
    rfl
  have hlookup := lookup_entries (sortedEntries kv) ∅ hentries hnodup (k := k)
  rw [hread]
  refine ⟨fun hnone => ?_, fun v hv hproto => hlookup.2 v (mem_sortedEntries_iff.mpr hv) hproto⟩
  have hnot : k ∉ (sortedEntries kv).map Prod.fst := by
    intro hmem
    obtain ⟨e, he, rfl⟩ := mem_map.mp hmem
    rw [mem_sortedEntries he] at hnone
    cases hnone
  exact hlookup.1 hnot

/-- The maps that come back from the text they were written as. -/
theorem parseEnv_serializeEnv_iff (hkeys : ∀ key ∈ kv, isEnvKey key = true) :
    (∀ k, (parseEnv (serializeEnv kv)).lookup k = kv.lookup k) ↔
      ∀ k v, kv.lookup k = some v → Kept k v := by
  constructor
  · intro hsame
    have hline : ∀ k v, kv.lookup k = some v → unit '\n' ∉ v := by
      intro k v hv hcut
      exact lookup_parseEnv_cut hkeys hv hcut ((hsame k).trans hv)
    intro k v hv
    have hproto : k ≠ text "__proto__" := by
      rintro rfl
      have hnone : (parseEnv (serializeEnv kv)).lookup (text "__proto__") = none :=
        lookup_proto _ rfl
      rw [hsame, hv] at hnone
      cases hnone
    have hvalue := (lookup_parseEnv hkeys
      (fun e he => hline e.1 e.2 (mem_sortedEntries he)) (k := k)).2 v hv hproto
    rw [hsame, hv] at hvalue
    exact ⟨hproto, hline k v hv, (parseValue_eq_iff v).mp (Option.some.inj hvalue).symm⟩
  · intro hkept k
    have hline : ∀ e ∈ sortedEntries kv, unit '\n' ∉ e.2 :=
      fun e he => (hkept e.1 e.2 (mem_sortedEntries he)).line
    obtain ⟨hnone, hsome⟩ := lookup_parseEnv hkeys hline (k := k)
    cases hv : kv.lookup k with
    | none => exact hnone hv
    | some v =>
      rw [hsome v hv (hkept k v hv).key, (parseValue_eq_iff v).mpr (hkept k v hv).pairs]

end Maps

theorem mem_singleton {k v key : Text} (h : key ∈ (singleton k v : SecretKv)) : key = k := by
  have hmem : key ∈ (singleton k v : SecretKv).keys := h
  rwa [keys_singleton, List.mem_singleton] at hmem

theorem lookup_singleton {k v key value : Text}
    (h : (singleton k v : SecretKv).lookup key = some value) : key = k ∧ value = v := by
  have hkey : key = k := mem_singleton (lookup_isSome.mp (by rw [h]; rfl))
  rw [hkey] at h
  exact ⟨hkey, (Option.some.inj ((lookup_insert ∅).symm.trans h)).symm⟩

/-- A value with a blank and a hash comes back. -/
theorem parseEnv_serializeEnv_hash :
    (parseEnv (serializeEnv (singleton (text "KEY") (text " a # b")))).lookup
      (text "KEY") = some (text " a # b") := by
  have hkeys : ∀ key ∈ (singleton (text "KEY") (text " a # b") : SecretKv),
      isEnvKey key = true := by
    intro key hkey
    rw [mem_singleton hkey]
    decide
  refine ((parseEnv_serializeEnv_iff hkeys).mpr fun k v hv => ?_) _ |>.trans (lookup_insert ∅)
  obtain ⟨rfl, rfl⟩ := lookup_singleton hv
  exact ⟨by decide, by decide, by decide, by decide, by decide⟩

/-- A Windows path comes back with a line feed in it. -/
theorem parseEnv_serializeEnv_path : ¬ ∀ kv : SecretKv, (∀ key ∈ kv, isEnvKey key = true) →
      ∀ k, (parseEnv (serializeEnv kv)).lookup k = kv.lookup k := by
  intro hclaim
  have hkeys : ∀ key ∈ (singleton (text "DIR") (text "C:\\new") : SecretKv),
      isEnvKey key = true := by
    intro key hkey
    rw [mem_singleton hkey]
    decide
  have hsame := hclaim _ hkeys (text "DIR")
  have hread : (parseEnv (serializeEnv (singleton (text "DIR") (text "C:\\new")))).lookup
      (text "DIR") = some (text "C:\\\new") := by
    decide +kernel
  rw [hread] at hsame
  have hvalue : some (text "C:\\\new") = some (text "C:\\new") :=
    hsame.trans (lookup_insert ∅)
  exact absurd hvalue (by decide)

end Sencho.EnvFiles

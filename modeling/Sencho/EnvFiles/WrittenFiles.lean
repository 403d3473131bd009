import Sencho.EnvFiles.Secrets

/-!
# Reading what a push wrote

Compose reads an assignment a push wrote back to the value it was given, quoted or not,
before it resolves references; only a next-line character at an end of an unquoted value is
lost.  A file a push wrote is read assignment by assignment.
-/

namespace Sencho.EnvFiles

open Verified CodeUnits List

variable {tables : Nat → Bool} {k : Text} {c : UInt16}

theorem isNameRest_range (h : isNameRest c = true) :
    (48 ≤ c.toNat ∧ c.toNat ≤ 57) ∨ (65 ≤ c.toNat ∧ c.toNat ≤ 90) ∨ c.toNat = 95 ∨
      (97 ≤ c.toNat ∧ c.toNat ≤ 122) := by
  simp only [isNameRest, isNameStart, isDigit, unit, Bool.or_eq_true, Bool.and_eq_true,
    decide_eq_true_eq, UInt16.le_iff_toNat_le, UInt16.ext_iff] at h
  simp at h
  omega

theorem isNameRest_of_start (h : isNameStart c = true) : isNameRest c = true := by
  unfold isNameRest
  rw [h]
  rfl

/-- A unit of a name is no white space, no separator and no half of a pair. -/
theorem isNameRest_plain (h : isNameRest c = true) :
    isEnvSpace c = false ∧ isUnicodeSpace c = false ∧ isExportSpace c = false ∧
      isHighSurrogate c = false ∧ isLowSurrogate c = false := by
  have hrange := isNameRest_range h
  simp only [isEnvSpace, isUnicodeSpace, isExportSpace, isHighSurrogate, isLowSurrogate,
    Bool.or_eq_false_iff, Bool.and_eq_false_iff, decide_eq_false_iff_not, UInt16.le_iff_toNat_le,
    UInt16.ext_iff]
  simp
  omega

theorem isNameRest_ne {d : UInt16} (h : isNameRest c = true) (hd : isNameRest d = false) :
    c ≠ d := by
  rintro rfl
  rw [h] at hd
  cases hd

/-- A key is a name start and more units of names. -/
theorem isEnvKey_cons (h : isEnvKey k = true) :
    ∃ c cs, k = c :: cs ∧ isNameStart c = true ∧ ∀ d ∈ k, isNameRest d = true := by
  cases k with
  | nil => cases h
  | cons c cs =>
    unfold isEnvKey at h
    rw [Bool.and_eq_true, all_eq_true] at h
    refine ⟨c, cs, rfl, h.1, fun d hd => ?_⟩
    rcases mem_cons.mp hd with rfl | hrest
    · exact isNameRest_of_start h.1
    · exact h.2 d hrest

/-- A key at the start of a line is no `export`. -/
theorem dropExport_key (h : ∀ c ∈ k, isExportSpace c = false) (rest : Text) :
    dropExport (k ++ unit '=' :: rest) = k ++ unit '=' :: rest := by
  unfold dropExport
  cases hafter : afterPrefix (text "export") (k ++ unit '=' :: rest) with
  | none => rfl
  | some r =>
    cases r with
    | nil => rfl
    | cons c cs =>
      have hsplit := afterPrefix_eq hafter
      have hplain : isExportSpace c = false := by
        rcases append_eq_append_iff.mp hsplit with ⟨a, hexport, hrest⟩ | ⟨a, hkey, hrest⟩
        · cases a with
          | nil =>
            cases hrest
            decide
          | cons x a =>
            have hx : x = unit '=' := (cons.inj hrest).1.symm
            have hmem : unit '=' ∈ text "export" := by
              rw [hexport, ← hx]
              exact mem_append_right _ mem_cons_self
            exact absurd hmem (by decide)
        · cases a with
          | nil =>
            cases hrest
            decide
          | cons x a =>
            have hx : c = x := (cons.inj hrest).1
            refine h c ?_
            rw [hkey, hx]
            exact mem_append_right _ mem_cons_self
      dsimp only
      rw [if_neg (by rw [hplain]; exact Bool.false_ne_true)]

theorem nameLetterOrNumber_ascii (h : isNameRest c = true) (hne : c ≠ unit '_') :
    nameLetterOrNumber tables c.toNat = true := by
  have hrange := isNameRest_range h
  unfold nameLetterOrNumber
  have hback : c.toNat.toUInt16 = c := UInt16.ofNat_toNat
  rw [if_pos (by omega), hback, h, decide_eq_true hne]
  rfl

/-- A name the reader takes whole, by code points.  No letter or number is white space. -/
def isName (tables : Nat → Bool) : Text → Bool
  | [] => true
  | c :: cs =>
    if c = unit '_' || c = unit '.' || c = unit '-' || c = unit '[' || c = unit ']' then
      isName tables cs
    else if isHighSurrogate c then
      match cs with
      | d :: rest =>
        isLowSurrogate d && nameLetterOrNumber tables (pairCodePoint c d) && isName tables rest
      | [] => false
    else
      !isLowSurrogate c && !isUnicodeSpace c && nameLetterOrNumber tables c.toNat &&
        isName tables cs

theorem isName_of_rest (h : ∀ c ∈ k, isNameRest c = true) : isName tables k = true := by
  induction k with
  | nil => rfl
  | cons c k ih =>
    obtain ⟨_, hspace, _, hhigh, hlow⟩ := isNameRest_plain (h c mem_cons_self)
    have hrest := ih fun d hd => h d (mem_cons_of_mem _ hd)
    rw [isName.eq_def]
    dsimp only
    by_cases hsymbol : (c = unit '_' || c = unit '.' || c = unit '-' || c = unit '[' ||
        c = unit ']') = true
    · rw [if_pos hsymbol, hrest]
    · have hunder : c ≠ unit '_' := fun heq => hsymbol (by rw [heq]; decide)
      rw [if_neg hsymbol, hhigh, if_neg Bool.false_ne_true, hlow, hspace,
        nameLetterOrNumber_ascii (h c mem_cons_self) hunder, hrest]
      rfl

/-- No white space is read in a name. -/
theorem space_of_unicode (h : isUnicodeSpace c = false) :
    isEnvSpace c = false ∧ isExportSpace c = false := by
  simp only [isEnvSpace, isUnicodeSpace, isExportSpace, Bool.or_eq_false_iff, Bool.and_eq_false_iff,
    decide_eq_false_iff_not, UInt16.le_iff_toNat_le, UInt16.ext_iff] at h ⊢
  simp at h ⊢
  omega

theorem space_of_surrogate (h : isHighSurrogate c = true ∨ isLowSurrogate c = true) :
    isUnicodeSpace c = false := by
  simp only [isUnicodeSpace, isHighSurrogate, isLowSurrogate, Bool.or_eq_false_iff,
    Bool.and_eq_false_iff, Bool.and_eq_true, decide_eq_true_eq, decide_eq_false_iff_not,
    UInt16.le_iff_toNat_le, UInt16.ext_iff] at h ⊢
  simp at h ⊢
  omega

/-- A unit that separates names is no letter. -/
theorem letter_ne {d : UInt16} (h : nameLetterOrNumber tables c.toNat = true) (hd : d.toNat < 0x80)
    (hrest : isNameRest d = false) : c ≠ d := by
  rintro rfl
  unfold nameLetterOrNumber at h
  have hback : c.toNat.toUInt16 = c := UInt16.ofNat_toNat
  rw [if_pos hd, hback, hrest] at h
  cases h

/-- Names hold no white space and no comment. -/
theorem isName_units (h : isName tables k = true) :
    ∀ c ∈ k, isUnicodeSpace c = false ∧ c ≠ unit '#' := by
  fun_induction isName tables k with
  | case1 => exact fun _ hc => absurd hc not_mem_nil
  | case2 c cs hsymbol ih =>
    refine forall_mem_cons.mpr ⟨?_, ih h⟩
    simp only [Bool.or_eq_true, decide_eq_true_eq] at hsymbol
    rcases hsymbol with (((rfl | rfl) | rfl) | rfl) | rfl <;> decide
  | case3 c hsymbol hhigh d rest ih =>
    simp only [Bool.and_eq_true] at h
    have hsurrogate : ∀ u : UInt16, isHighSurrogate u = true ∨ isLowSurrogate u = true →
        isUnicodeSpace u = false ∧ u ≠ unit '#' := fun u hu =>
      ⟨space_of_surrogate hu, by rintro rfl; exact absurd hu (by decide)⟩
    exact forall_mem_cons.mpr ⟨hsurrogate c (.inl hhigh),
      forall_mem_cons.mpr ⟨hsurrogate d (.inr h.1.1), ih h.2⟩⟩
  | case4 => cases h
  | case5 c cs hsymbol hhigh ih =>
    simp only [Bool.and_eq_true, Bool.not_eq_true'] at h
    exact forall_mem_cons.mpr ⟨⟨h.1.1.2, letter_ne h.1.2 (by decide) (by decide)⟩, ih h.2⟩

/-- A name is read up to what ends it. -/
theorem readKey_name (h : isName tables k = true) (rest : Text) :
    readKey tables (k ++ unit '=' :: rest) = .ok (some ⟨k, false, rest⟩) := by
  have hspaces : ∀ c ∈ k, isEnvSpace c = false := fun c hc =>
    (space_of_unicode (isName_units h c hc).1).1
  fun_induction isName tables k with
  | case1 =>
    rw [nil_append, readKey.eq_def]
    dsimp only
    rfl
  | case2 c cs hsymbol ih =>
    have hends : (c = unit '=' || c = unit ':' || c = unit '\n') = false := by
      simp only [Bool.or_eq_true, decide_eq_true_eq] at hsymbol
      rcases hsymbol with (((rfl | rfl) | rfl) | rfl) | rfl <;> decide
    rw [cons_append, readKey.eq_def]
    dsimp only
    rw [hspaces c mem_cons_self, if_neg Bool.false_ne_true, hends, if_neg Bool.false_ne_true,
      if_pos hsymbol, ih h fun d hd => hspaces d (mem_cons_of_mem _ hd)]
    rfl
  | case3 c hsymbol hhigh d cs ih =>
    simp only [Bool.and_eq_true] at h
    have hends : (c = unit '=' || c = unit ':' || c = unit '\n') = false := by
      simp only [Bool.or_eq_false_iff, decide_eq_false_iff_not]
      refine ⟨⟨?_, ?_⟩, ?_⟩ <;> rintro rfl <;> exact absurd hhigh (by decide)
    rw [cons_append, cons_append, readKey.eq_def]
    dsimp only
    rw [hspaces c mem_cons_self, if_neg Bool.false_ne_true, hends, if_neg Bool.false_ne_true,
      if_neg hsymbol, if_pos hhigh, if_pos h.1.1, if_pos h.1.2,
      ih h.2 fun u hu => hspaces u (mem_cons_of_mem _ (mem_cons_of_mem _ hu))]
    rfl
  | case4 => cases h
  | case5 c cs hsymbol hhigh ih =>
    simp only [Bool.and_eq_true, Bool.not_eq_true'] at h
    have hends : (c = unit '=' || c = unit ':' || c = unit '\n') = false := by
      simp only [Bool.or_eq_false_iff, decide_eq_false_iff_not]
      exact ⟨⟨letter_ne h.1.2 (by decide) (by decide), letter_ne h.1.2 (by decide) (by decide)⟩,
        letter_ne h.1.2 (by decide) (by decide)⟩
    rw [cons_append, readKey.eq_def]
    dsimp only
    rw [hspaces c mem_cons_self, if_neg Bool.false_ne_true, hends, if_neg Bool.false_ne_true,
      if_neg hsymbol, if_neg hhigh, h.1.1.1, h.1.2,
      ih h.2 fun d hd => hspaces d (mem_cons_of_mem _ hd)]
    rfl

/-- A unit as the reader takes it from between quotes: a backslash twice. -/
def doubled (c : UInt16) : Text := if c = unit '\\' then [c, c] else [c]

/-- Units between double quotes, and what the reader takes from them. -/
def ReadAs (written raw : Text) : Prop :=
  ∀ rest, readQuotedValue (unit '"') false (written ++ rest) =
    (readQuotedValue (unit '"') false rest).map fun r => (raw ++ r.1, r.2)

theorem readAs_plain (hquote : c ≠ unit '"') (hback : c ≠ unit '\\') : ReadAs [c] [c] := by
  intro rest
  show readQuotedValue (unit '"') false (c :: rest) = _
  rw [readQuotedValue, if_pos hquote, decide_eq_false hback, if_neg (by simp)]
  rfl

theorem readAs_escaped (hquote : c ≠ unit '"') : ReadAs [unit '\\', c] [unit '\\', c] := by
  intro rest
  show readQuotedValue (unit '"') false (unit '\\' :: c :: rest) = _
  rw [readQuotedValue, if_pos (by decide), if_pos (by decide), readQuotedValue, if_pos hquote,
    if_neg (by simp)]
  rfl

theorem readAs_quote : ReadAs [unit '\\', unit '"'] [unit '"'] := by
  intro rest
  show readQuotedValue (unit '"') false (unit '\\' :: unit '"' :: rest) = _
  rw [readQuotedValue, if_pos (by decide), if_pos (by decide), readQuotedValue, if_neg (by simp),
    if_pos rfl]
  rfl

/-- What is read unit by unit is read up to the closing quote. -/
theorem readQuotedValue_flatMap {f g : UInt16 → Text} (h : ∀ c, ReadAs (f c) (g c))
    (v rest : Text) : readQuotedValue (unit '"') false (v.flatMap f ++ unit '"' :: rest) =
      .ok (v.flatMap g, rest) := by
  induction v with
  | nil => rfl
  | cons c v ih =>
    rw [flatMap_cons, flatMap_cons, append_assoc, h c, ih]
    rfl

theorem readQuotedValue_escaped (v rest : Text) :
    readQuotedValue (unit '"') false (v.flatMap escapeUnit ++ unit '"' :: rest) =
      .ok (v.flatMap doubled, rest) := by
  refine readQuotedValue_flatMap (fun c => ?_) v rest
  by_cases hback : c = unit '\\'
  · rw [hback]
    exact readAs_escaped (by decide)
  · by_cases hquote : c = unit '"'
    · rw [hquote]
      exact readAs_quote
    · have hdouble : doubled c = [c] := if_neg hback
      have hescape : escapeUnit c = [c] := by
        unfold escapeUnit
        rw [decide_eq_false hback, decide_eq_false hquote]
        rfl
      rw [hescape, hdouble]
      exact readAs_plain hquote hback

theorem expandComposeEnvEscapes_doubled (v : Text) :
    expandComposeEnvEscapes (v.flatMap doubled) = v := by
  refine replaceAll_flatMap (fun c rest => ?_) v
  by_cases hback : c = unit '\\'
  · refine .inl ⟨unit '\\', [unit '\\'], ?_, ?_⟩
    · rw [hback]
      decide
    · rw [hback]
      rfl
  · refine .inr ⟨if_neg hback, ?_⟩
    cases rest with
    | nil => rfl
    | cons d rest => exact if_pos hback

/-- A next-line character: white space to Compose, none to the writer. -/
def nextLine (c : UInt16) : Bool := c = 0x85

/-- What Compose takes from a written value before it resolves references. -/
def readBack (v : Text) : Text :=
  if needsQuotes v then v else trimEnd nextLine (v.dropWhile nextLine)

/-- A unit of a value that is written bare. -/
theorem bare_unit {v : Text} (h : needsQuotes v = false) (hc : c ∈ v) :
    isSpace c = false ∧ c ≠ unit '"' ∧ c ≠ unit '\'' := by
  unfold needsQuotes at h
  rw [Bool.or_eq_false_iff, any_eq_false] at h
  have hnot := h.2 c hc
  simp only [Bool.or_eq_true, decide_eq_true_eq, not_or] at hnot
  exact ⟨Bool.eq_false_iff.mpr hnot.1.1.1.1.1, hnot.1.2, hnot.2⟩

/-- Of the units of a bare value, Compose calls only a next line white space. -/
theorem space_of_bare (h : isSpace c = false) :
    isEnvSpace c = nextLine c ∧ isUnicodeSpace c = nextLine c ∧ c ≠ unit '\n' ∧ c ≠ unit ' ' := by
  have hline : c ≠ unit '\n' := by
    rintro rfl
    exact absurd h (by decide)
  have hblank : c ≠ unit ' ' := by
    rintro rfl
    exact absurd h (by decide)
  refine ⟨?_, ?_, hline, hblank⟩
  · rw [Bool.eq_iff_iff]
    simp only [isSpace, isEnvSpace, nextLine, Bool.or_eq_false_iff, Bool.and_eq_false_iff,
      decide_eq_false_iff_not, Bool.or_eq_true, decide_eq_true_eq, UInt16.le_iff_toNat_le,
      UInt16.ext_iff] at h ⊢
    simp at h ⊢
    omega
  · rw [Bool.eq_iff_iff]
    simp only [isSpace, isUnicodeSpace, nextLine, Bool.or_eq_false_iff, Bool.and_eq_false_iff,
      Bool.and_eq_true, decide_eq_false_iff_not, Bool.or_eq_true, decide_eq_true_eq,
      UInt16.le_iff_toNat_le, UInt16.ext_iff] at h ⊢
    simp at h ⊢
    omega

theorem beforeComment_of_ne {t : Text} (h : ∀ c ∈ t, c ≠ unit ' ') : beforeComment t = t := by
  induction t with
  | nil => rfl
  | cons c cs ih =>
    rw [beforeComment, decide_eq_false (h c mem_cons_self), Bool.false_and,
      if_neg Bool.false_ne_true, ih fun d hd => h d (mem_cons_of_mem _ hd)]

theorem dropWhile_congr {p q : UInt16 → Bool} {t : Text} (h : ∀ c ∈ t, p c = q c) :
    t.dropWhile p = t.dropWhile q := by
  induction t with
  | nil => rfl
  | cons c cs ih =>
    rw [dropWhile_cons, dropWhile_cons, h c mem_cons_self,
      ih fun d hd => h d (mem_cons_of_mem _ hd)]

theorem dropWhile_append_of_neg {p : UInt16 → Bool} (t : Text) (rest : Text) (h : p c = false) :
    (t ++ c :: rest).dropWhile p = t.dropWhile p ++ c :: rest := by
  induction t with
  | nil => exact dropWhile_cons_of_neg (by rw [h]; exact Bool.false_ne_true)
  | cons d t ih =>
    rw [cons_append, dropWhile_cons, dropWhile_cons]
    split
    · exact ih
    · rfl

/-- A value, where something follows the resolved one. -/
def resolved (lookup : ComposeEnvLookup) (v next : Text) : Except Text (Text × Text) :=
  (expandComposeEnvTemplate v lookup).map fun value => (value, next)

theorem readValue_quoted {v : Text} (h : needsQuotes v = true) (lookup : ComposeEnvLookup)
    (rest : Text) :
    readValue lookup ((serializeValue v ++ rest).dropWhile isEnvSpace) =
      resolved lookup (readBack v) rest := by
  have hwritten : serializeValue v ++ rest =
      unit '"' :: (v.flatMap escapeUnit ++ unit '"' :: rest) := by
    unfold serializeValue
    rw [if_pos h]
    show unit '"' :: ((v.flatMap escapeUnit ++ [unit '"']) ++ rest) = _
    rw [append_assoc]
    rfl
  have hback : readBack v = v := if_pos h
  rw [hwritten, dropWhile_cons_of_neg (by decide), hback]
  unfold readValue
  dsimp only
  rw [if_pos rfl, readQuotedValue_escaped]
  show (do
    let value ← expandComposeEnvTemplate (expandComposeEnvEscapes (v.flatMap doubled)) lookup
    return (value, rest)) = _
  rw [expandComposeEnvEscapes_doubled]
  unfold resolved
  cases expandComposeEnvTemplate v lookup with
  | error e | ok value => rfl

theorem readValue_bare {v : Text} (h : needsQuotes v = false) (lookup : ComposeEnvLookup)
    (rest : Text) :
    readValue lookup ((serializeValue v ++ unit '\n' :: rest).dropWhile isEnvSpace) =
      resolved lookup (readBack v) rest := by
  have hwritten : serializeValue v = v := if_neg (by rw [h]; exact Bool.false_ne_true)
  have hback : readBack v = trimEnd nextLine (v.dropWhile nextLine) :=
    if_neg (by rw [h]; exact Bool.false_ne_true)
  rw [hwritten, hback, dropWhile_append_of_neg v rest (by decide),
    dropWhile_congr fun c hc => (space_of_bare (bare_unit h hc).1).1]
  have hunits : ∀ c ∈ v.dropWhile nextLine, isSpace c = false ∧ c ≠ unit '"' ∧ c ≠ unit '\'' :=
    fun c hc => bare_unit h ((dropWhile_sublist _).subset hc)
  generalize v.dropWhile nextLine = w at hunits
  have hline : (w ++ unit '\n' :: rest).takeWhile (fun c => c ≠ unit '\n') = w := by
    rw [takeWhile_append_of_pos fun c hc =>
      decide_eq_true (space_of_bare (hunits c hc).1).2.2.1]
    rw [takeWhile_cons_of_neg (by simp), append_nil]
  have hcomment : beforeComment w = w :=
    beforeComment_of_ne fun c hc => (space_of_bare (hunits c hc).1).2.2.2
  have htrim : trimEnd isUnicodeSpace w = trimEnd nextLine w :=
    trimEnd_congr fun c hc => (space_of_bare (hunits c hc).1).2.1
  have hread : readValue lookup (w ++ unit '\n' :: rest) = (do
      let value ← expandComposeEnvTemplate (trimEnd isUnicodeSpace (beforeComment
        ((w ++ unit '\n' :: rest).takeWhile fun c => c ≠ unit '\n'))) lookup
      return (value, ((w ++ unit '\n' :: rest).drop
        ((w ++ unit '\n' :: rest).takeWhile fun c => c ≠ unit '\n').length).tail)) := by
    cases w with
    | nil => rfl
    | cons c w =>
      obtain ⟨_, hquote, hsingle⟩ := hunits c mem_cons_self
      exact (if_neg hquote).trans (if_neg hsingle)
  rw [hread, hline, hcomment, htrim, drop_left]
  unfold resolved
  cases expandComposeEnvTemplate (trimEnd nextLine w) lookup with
  | error e | ok value => rfl

theorem readStatements_lf (tables : Nat → Bool) (processEnv : ComposeEnvLookup) (n : Nat)
    (values : Values) (rest : Text) :
    readStatements tables processEnv n values (unit '\n' :: rest) =
      readStatements tables processEnv n values rest := by
  have hskip : skipToStatement false (unit '\n' :: rest) = skipToStatement false rest := rfl
  cases n with
  | zero => rfl
  | succ n => rw [readStatements, readStatements, hskip]

/-- A name and what is assigned to it are read, and then the rest of the file. -/
theorem readStatements_name (tables : Nat → Bool) (processEnv : ComposeEnvLookup) (n : Nat)
    (values : Values) (hk : isName tables k = true) (t : Text) :
    readStatements tables processEnv (n + 1) values (k ++ unit '=' :: t) =
      (readValue (lookupIn processEnv values) (t.dropWhile isEnvSpace)).bind fun r =>
        readStatements tables processEnv n (values.insert k r.1) r.2 := by
  have hunits := isName_units hk
  have htrim : trimEnd isUnicodeSpace k = k := trimEnd_of_all fun d hd => (hunits d hd).1
  have hblank : unit ' ' ∉ k := fun hmem => absurd (hunits _ hmem).1 (by decide)
  have hskip : skipToStatement false (k ++ unit '=' :: t) = k ++ unit '=' :: t := by
    cases k with
    | nil => rfl
    | cons c cs =>
      obtain ⟨hspace, hhash⟩ := hunits c mem_cons_self
      rw [cons_append, skipToStatement, if_neg Bool.false_ne_true, hspace,
        if_neg Bool.false_ne_true, if_neg hhash]
  obtain ⟨c, cs, hcons⟩ : ∃ c cs, k ++ unit '=' :: t = c :: cs := by
    cases k with
    | nil | cons c cs => exact ⟨_, _, rfl⟩
  rw [readStatements, hskip, hcons]
  dsimp only
  rw [← hcons, dropExport_key fun d hd => (space_of_unicode (hunits d hd).1).2, readKey_name hk]
  show (if unit ' ' ∈ trimEnd isUnicodeSpace k then (Except.error nameWithSpace : Except Text Values)
    else if false = true then _ else _) = _
  rw [htrim, if_neg hblank, if_neg Bool.false_ne_true]
  rfl

/-- A written assignment is read back, and the rest of the file after it. -/
theorem readStatements_line (tables : Nat → Bool) (processEnv : ComposeEnvLookup) (n : Nat)
    (values : Values) (hk : isEnvKey k = true) (v rest : Text) :
    readStatements tables processEnv (n + 1) values (serializeLine (k, v) ++ unit '\n' :: rest) =
      (expandComposeEnvTemplate (readBack v) (lookupIn processEnv values)).bind fun value =>
        readStatements tables processEnv n (values.insert k value) rest := by
  obtain ⟨_, _, _, _, hall⟩ := isEnvKey_cons hk
  have hline : serializeLine (k, v) ++ unit '\n' :: rest =
      k ++ unit '=' :: (serializeValue v ++ unit '\n' :: rest) := by
    unfold serializeLine
    rw [append_assoc]
    rfl
  have hvalue : ∃ next, readValue (lookupIn processEnv values)
        ((serializeValue v ++ unit '\n' :: rest).dropWhile isEnvSpace) =
          resolved (lookupIn processEnv values) (readBack v) next ∧
      ∀ values, readStatements tables processEnv n values next =
        readStatements tables processEnv n values rest := by
    cases hquotes : needsQuotes v with
    | true =>
      exact ⟨_, readValue_quoted hquotes _ _, fun values =>
        readStatements_lf tables processEnv n values rest⟩
    | false => exact ⟨rest, readValue_bare hquotes _ rest, fun _ => rfl⟩
  obtain ⟨next, hread, hnext⟩ := hvalue
  rw [hline, readStatements_name tables processEnv n values (isName_of_rest hall), hread]
  unfold resolved
  cases expandComposeEnvTemplate (readBack v) (lookupIn processEnv values) with
  | error e => rfl
  | ok value => exact hnext (values.insert k value)

/-- The assignments of a written file, one after another. -/
def settle (processEnv : ComposeEnvLookup) : Values → List (Text × Text) → Except Text Values
  | values, [] => .ok values
  | values, (k, v) :: rest =>
    (expandComposeEnvTemplate (readBack v) (lookupIn processEnv values)).bind fun value =>
      settle processEnv (values.insert k value) rest

theorem readStatements_lines (tables : Nat → Bool) (processEnv : ComposeEnvLookup)
    (entries : List (Text × Text)) (hkeys : ∀ e ∈ entries, isEnvKey e.1 = true) (n : Nat)
    (hn : entries.length ≤ n) (values : Values) :
    readStatements tables processEnv n values
        (entries.flatMap fun e => serializeLine e ++ [unit '\n']) =
      settle processEnv values entries := by
  induction entries generalizing n values with
  | nil =>
    cases n with
    | zero => rfl
    | succ n => rfl
  | cons e entries ih =>
    obtain ⟨k, v⟩ := e
    cases n with
    | zero => exact absurd hn (Nat.not_succ_le_zero _)
    | succ n =>
      have hsplit : ((k, v) :: entries).flatMap (fun e => serializeLine e ++ [unit '\n']) =
          serializeLine (k, v) ++
            unit '\n' :: entries.flatMap fun e => serializeLine e ++ [unit '\n'] := by
        rw [flatMap_cons, append_assoc]
        rfl
      have hnext : ∀ values, readStatements tables processEnv n values
          (entries.flatMap fun e => serializeLine e ++ [unit '\n']) =
            settle processEnv values entries :=
        ih (fun e he => hkeys e (mem_cons_of_mem _ he)) n (Nat.le_of_succ_le_succ hn)
      rw [hsplit, readStatements_line tables processEnv n values
        (hkeys (k, v) mem_cons_self), settle]
      simp only [hnext]

theorem serializeEnv_eq (kv : SecretKv) :
    serializeEnv kv = (sortedEntries kv).flatMap fun e => serializeLine e ++ [unit '\n'] := by
  have hjoin : ∀ lines : List Text, lines ≠ [] →
      [unit '\n'].intercalate lines ++ [unit '\n'] = lines.flatMap fun l => l ++ [unit '\n'] := by
    intro lines
    induction lines with
    | nil => exact fun h => absurd rfl h
    | cons l lines ih =>
      intro _
      cases lines with
      | nil => simp [intercalate]
      | cons l' lines =>
        have hrest := ih (by simp)
        rw [flatMap_cons, ← hrest]
        simp [intercalate, intersperse]
  unfold serializeEnv
  cases hentries : sortedEntries kv with
  | nil => rfl
  | cons e entries =>
    rw [if_neg (by simp), hjoin _ (by simp), flatMap_map]

theorem mem_sortedEntries {kv : SecretKv} {e : Text × Text} (h : e ∈ sortedEntries kv) :
    kv.lookup e.1 = some e.2 := by
  obtain ⟨key, hkey, rfl⟩ := mem_map.mp h
  have hmem : key ∈ kv := AList.mem_keys.mpr ((mergeSort_perm _ _).subset hkey)
  obtain ⟨v, hv⟩ := Option.isSome_iff_exists.mp (AList.lookup_isSome.mpr hmem)
  rw [hv]
  rfl

/-- A file a push wrote is read assignment by assignment. -/
theorem read_serializeEnv (tables : Nat → Bool) (processEnv : ComposeEnvLookup) {kv : SecretKv}
    (hkeys : ∀ key ∈ kv, isEnvKey key = true) :
    (ComposeEnvFiles.new processEnv).read tables (serializeEnv kv) =
      (settle processEnv ∅ (sortedEntries kv)).map fun values => ⟨processEnv, values⟩ := by
  have hentries : ∀ e ∈ sortedEntries kv, isEnvKey e.1 = true := by
    intro e he
    refine hkeys e.1 (AList.lookup_isSome.mp ?_)
    rw [mem_sortedEntries he]
    rfl
  have hlength : (sortedEntries kv).length ≤ (serializeEnv kv).length := by
    rw [serializeEnv_eq]
    generalize sortedEntries kv = entries
    induction entries with
    | nil => exact .refl
    | cons e entries ih =>
      rw [flatMap_cons, length_append, length_append, length_cons, length_singleton]
      omega
  have hmark : (serializeEnv kv).head? ≠ some 0xfeff := by
    rw [serializeEnv_eq]
    cases hsorted : sortedEntries kv with
    | nil => exact nofun
    | cons e entries =>
      obtain ⟨c, cs, hcons, hstart, _⟩ :=
        isEnvKey_cons (hentries e (by rw [hsorted]; exact mem_cons_self))
      have hhead : ((e :: entries).flatMap fun e => serializeLine e ++ [unit '\n']).head? =
          some c := by
        rw [flatMap_cons]
        unfold serializeLine
        rw [hcons]
        rfl
      rw [hhead]
      rintro heq
      rw [Option.some.inj heq] at hstart
      exact absurd hstart (by decide)
  unfold ComposeEnvFiles.read
  dsimp only
  rw [if_neg hmark]
  unfold parseEnvFileText
  rw [serializeEnv_eq] at hlength ⊢
  rw [readStatements_lines tables _ _ hentries _ (Nat.le_succ_of_le hlength)]
  unfold ComposeEnvFiles.new
  cases settle processEnv ∅ (sortedEntries kv) with
  | error e | ok values => rfl

end Sencho.EnvFiles

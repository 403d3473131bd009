import Sencho.Verified.Utf8

/-!
# JSON

`JSON.parse` and `JSON.stringify`, on texts of code units.  What a number is, and how it is
written and read, is a parameter: only numbers that are finite are written as numbers.
-/

namespace Sencho.Verified

open CodeUnits List Option Utf8

/-- A value. -/
inductive Json (ν : Type) where
  | null
  | bool (b : Bool)
  | num (x : ν)
  | str (t : Text)
  | arr (vs : List (Json ν))
  | obj (fields : List (Text × Json ν))

/-- Numbers: how they are written and read, and which are integers that are told apart. -/
structure Numbers (ν : Type) where
  read : Text → ν
  print : ν → Text
  finite : ν → Bool
  ofInt : Int → ν
  safeInt : ν → Option Int

namespace Json

variable {ν : Type}

/-- The value of a key.  The last of two equal keys counts. -/
def get? : List (Text × Json ν) → Text → Option (Json ν)
  | [], _ => none
  | (k, v) :: fields, key => (get? fields key).or (if k = key then some v else none)

/-- Set a key where it stands, or at the end. -/
def put (fields : List (Text × Json ν)) (key : Text) (value : Json ν) : List (Text × Json ν) :=
  if fields.any fun f => f.1 = key then
    fields.map fun f => if f.1 = key then (f.1, value) else f
  else fields ++ [(key, value)]

def isDigit (c : UInt16) : Bool := unit '0' ≤ c && c ≤ unit '9'

/-- A unit that a number may have. -/
def isNumberUnit (c : UInt16) : Bool :=
  isDigit c || c = unit '-' || c = unit '+' || c = unit '.' || c = unit 'e' || c = unit 'E'

def isExponent : Text → Bool
  | [] => true
  | c :: t =>
    let digits := match t with
      | d :: ds => if d = unit '-' || d = unit '+' then ds else t
      | [] => []
    (c = unit 'e' || c = unit 'E') && !digits.isEmpty && digits.all isDigit

def isFraction : Text → Bool
  | c :: t =>
    if c = unit '.' then
      match t with
      | d :: ds => isDigit d && isExponent (ds.dropWhile isDigit)
      | [] => false
    else isExponent (c :: t)
  | [] => true

def isUnsigned : Text → Bool
  | c :: t =>
    if c = unit '0' then isFraction t
    else isDigit c && isFraction (t.dropWhile isDigit)
  | [] => false

/-- The grammar of a number. -/
def isLiteral (t : Text) : Bool :=
  t.all isNumberUnit && match t with
    | c :: cs => if c = unit '-' then isUnsigned cs else isUnsigned t
    | [] => false

/-- A number, and the text behind it. -/
def scanNumber (t : Text) : Option (Text × Text) :=
  let literal := t.takeWhile isNumberUnit
  if isLiteral literal then some (literal, t.dropWhile isNumberUnit) else none

def quoteMark : UInt16 := unit '"'

def backslash : UInt16 := unit '\\'

def hexDigit (n : Nat) : UInt16 := if n < 10 then (0x30 + n).toUInt16 else (0x57 + n).toUInt16

def hexValue (c : UInt16) : Option Nat :=
  let n := c.toNat
  if 0x30 ≤ n ∧ n ≤ 0x39 then some (n - 0x30)
  else if 0x61 ≤ n ∧ n ≤ 0x66 then some (n - 0x57)
  else if 0x41 ≤ n ∧ n ≤ 0x46 then some (n - 0x37)
  else none

/-- A unit as four digits. -/
def escapeHex (c : UInt16) : Text :=
  let n := c.toNat
  [backslash, unit 'u', hexDigit (n / 0x1000), hexDigit (n / 0x100 % 0x10),
    hexDigit (n / 0x10 % 0x10), hexDigit (n % 0x10)]

/-- The units that are escaped with one letter. -/
def shortEscapes : List (UInt16 × UInt16) :=
  [(quoteMark, quoteMark), (backslash, backslash), (0x08, unit 'b'), (0x0c, unit 'f'),
    (0x0a, unit 'n'), (0x0d, unit 'r'), (0x09, unit 't')]

/-- How a unit that is not half of a pair is written in a string. -/
def quoteUnit (c : UInt16) : Text :=
  match shortEscapes.lookup c with
  | some letter => [backslash, letter]
  | none => if c.toNat < 0x20 || isSurrogate c then escapeHex c else [c]

def quoteUnits : Text → Text
  | [] => []
  | [c] => quoteUnit c
  | c :: d :: ds =>
    if isHigh c && isLow d then c :: d :: quoteUnits ds
    else quoteUnit c ++ quoteUnits (d :: ds)

def quote (t : Text) : Text := quoteMark :: (quoteUnits t ++ [quoteMark])

/-- What one letter escapes. -/
def unescape (letter : UInt16) : Option UInt16 :=
  if letter = unit '/' then some letter
  else (shortEscapes.find? fun e => e.2 = letter).map Prod.fst

/-- The rest of a string, and the text behind it. -/
def scanString : Text → Option (Text × Text)
  | [] => none
  | c :: cs =>
    if c = quoteMark then some ([], cs)
    else if c = backslash then
      match cs with
      | e :: es =>
        if e = unit 'u' then
          match es with
          | h₁ :: h₂ :: h₃ :: h₄ :: rest => do
            let n₁ ← hexValue h₁
            let n₂ ← hexValue h₂
            let n₃ ← hexValue h₃
            let n₄ ← hexValue h₄
            let (t, rest) ← scanString rest
            return ((n₁ * 0x1000 + n₂ * 0x100 + n₃ * 0x10 + n₄).toUInt16 :: t, rest)
          | _ => none
        else do
          let c ← unescape e
          let (t, rest) ← scanString es
          return (c :: t, rest)
      | [] => none
    else if c.toNat < 0x20 then none
    else do
      let (t, rest) ← scanString cs
      return (c :: t, rest)

/-- A line break and the indentation behind it. -/
def newline (gap depth : Nat) : Text :=
  if gap = 0 then [] else unit '\n' :: replicate (gap * depth) (unit ' ')

def colon (gap : Nat) : Text := if gap = 0 then [unit ':'] else [unit ':', unit ' ']

mutual

/-- A value at a depth. -/
def print (N : Numbers ν) (gap : Nat) : Nat → Json ν → Text
  | _, .null => text "null"
  | _, .bool true => text "true"
  | _, .bool false => text "false"
  | _, .num x => if N.finite x then N.print x else text "null"
  | _, .str t => quote t
  | _, .arr [] => [unit '[', unit ']']
  | depth, .arr (v :: vs) =>
    unit '[' :: (newline gap (depth + 1) ++ print N gap (depth + 1) v ++
      printElements N gap depth vs)
  | _, .obj [] => [unit '{', unit '}']
  | depth, .obj ((k, v) :: fields) =>
    unit '{' :: (newline gap (depth + 1) ++ quote k ++ colon gap ++
      print N gap (depth + 1) v ++ printFields N gap depth fields)

/-- The rest of an array. -/
def printElements (N : Numbers ν) (gap : Nat) : Nat → List (Json ν) → Text
  | depth, [] => newline gap depth ++ [unit ']']
  | depth, v :: vs =>
    unit ',' :: (newline gap (depth + 1) ++ print N gap (depth + 1) v ++
      printElements N gap depth vs)

/-- The rest of an object. -/
def printFields (N : Numbers ν) (gap : Nat) : Nat → List (Text × Json ν) → Text
  | depth, [] => newline gap depth ++ [unit '}']
  | depth, (k, v) :: fields =>
    unit ',' :: (newline gap (depth + 1) ++ quote k ++ colon gap ++
      print N gap (depth + 1) v ++ printFields N gap depth fields)

end

/-- `JSON.stringify` with a gap. -/
def stringify (N : Numbers ν) (gap : Nat) (v : Json ν) : Text := print N gap 0 v

def isBlank (c : UInt16) : Bool :=
  c = unit ' ' || c = unit '\t' || c = unit '\n' || c = unit '\r'

def skipBlank (t : Text) : Text := t.dropWhile isBlank

mutual

/-- A value, and the text behind it. -/
def scan (N : Numbers ν) : Nat → Text → Option (Json ν × Text)
  | 0, _ => none
  | fuel + 1, t =>
    match skipBlank t with
    | [] => none
    | c :: cs =>
      if c = quoteMark then (scanString cs).map fun r => (.str r.1, r.2)
      else if c = unit '[' then
        match skipBlank cs with
        | d :: ds => if d = unit ']' then some (.arr [], ds) else scanElements N fuel [] (d :: ds)
        | [] => none
      else if c = unit '{' then
        match skipBlank cs with
        | d :: ds => if d = unit '}' then some (.obj [], ds) else scanFields N fuel [] (d :: ds)
        | [] => none
      else
        match afterPrefix (text "null") (c :: cs), afterPrefix (text "true") (c :: cs),
          afterPrefix (text "false") (c :: cs) with
        | some rest, _, _ => some (.null, rest)
        | _, some rest, _ => some (.bool true, rest)
        | _, _, some rest => some (.bool false, rest)
        | none, none, none => (scanNumber (c :: cs)).map fun r => (.num (N.read r.1), r.2)

/-- The elements of an array behind those read so far. -/
def scanElements (N : Numbers ν) : Nat → List (Json ν) → Text → Option (Json ν × Text)
  | 0, _, _ => none
  | fuel + 1, vs, t => do
    let (v, rest) ← scan N fuel t
    match skipBlank rest with
    | c :: cs =>
      if c = unit ',' then scanElements N fuel (vs ++ [v]) cs
      else if c = unit ']' then some (.arr (vs ++ [v]), cs)
      else none
    | [] => none

/-- The fields of an object behind those read so far. -/
def scanFields (N : Numbers ν) : Nat → List (Text × Json ν) → Text → Option (Json ν × Text)
  | 0, _, _ => none
  | fuel + 1, fields, t =>
    match skipBlank t with
    | [] => none
    | c :: cs =>
      if c = quoteMark then do
        let (k, rest) ← scanString cs
        match skipBlank rest with
        | d :: ds =>
          if d = unit ':' then do
            let (v, rest) ← scan N fuel ds
            match skipBlank rest with
            | e :: es =>
              if e = unit ',' then scanFields N fuel (put fields k v) es
              else if e = unit '}' then some (.obj (put fields k v), es)
              else none
            | [] => none
          else none
        | [] => none
      else none

end

/-- `JSON.parse`. -/
def parse (N : Numbers ν) (t : Text) : Option (Json ν) :=
  match scan N (t.length + 1) t with
  | some (v, rest) => if (skipBlank rest).isEmpty then some v else none
  | none => none

mutual

/-- What a value is read back as: a number that is not finite is null. -/
def back (N : Numbers ν) : Json ν → Json ν
  | .null => .null
  | .bool b => .bool b
  | .num x => if N.finite x then .num x else .null
  | .str t => .str t
  | .arr vs => .arr (backElements N vs)
  | .obj fields => .obj (backFields N [] fields)

def backElements (N : Numbers ν) : List (Json ν) → List (Json ν)
  | [] => []
  | v :: vs => back N v :: backElements N vs

def backFields (N : Numbers ν) (read : List (Text × Json ν)) :
    List (Text × Json ν) → List (Text × Json ν)
  | [] => read
  | (k, v) :: fields => backFields N (put read k (back N v)) fields

end

/-- What is documented of the numbers of a host. -/
structure Lawful (N : Numbers ν) : Prop where
  literal : ∀ x, N.finite x = true → isLiteral (N.print x) = true
  read_print : ∀ x, N.finite x = true → N.read (N.print x) = x
  finite_ofInt : ∀ n, N.finite (N.ofInt n) = true
  finite_of_safeInt : ∀ x n, N.safeInt x = some n → N.finite x = true

variable {b : Text} {c : UInt16} (N : Numbers ν) (fields : List (Text × Json ν)) (gap fuel : Nat)
variable (depth : Nat) (key : Text)
variable (value : Json ν) (k : Text)

theorem get?_append :
    get? (fields ++ [(key, value)]) k = if key = k then some value else get? fields k := by
  induction fields with
  | nil => rfl
  | cons field fields ih =>
    rw [cons_append, get?, get?, ih]
    by_cases hk : key = k
    · rw [if_pos hk, if_pos hk, some_or]
    · rw [if_neg hk, if_neg hk]

theorem get?_replace :
    get? (fields.map fun f => if f.1 = key then (f.1, value) else f) k =
      if key = k then (get? fields k).map fun _ => value else get? fields k := by
  induction fields with
  | nil => simp [get?]
  | cons field fields ih =>
    obtain ⟨k', v⟩ := field
    rw [map_cons]
    by_cases hk : key = k
    · rw [if_pos hk] at ih ⊢
      by_cases hkey : k' = key
      · rw [if_pos hkey, get?, get?, ih, if_pos (hkey.trans hk), if_pos (hkey.trans hk)]
        cases get? fields k with
        | none => rfl
        | some v' => rfl
      · rw [if_neg hkey, get?, get?, ih, if_neg fun h => hkey (h.trans hk.symm), or_none, or_none]
    · rw [if_neg hk] at ih ⊢
      by_cases hkey : k' = key
      · have hother : ¬ k' = k := fun h => hk (hkey.symm.trans h)
        rw [if_pos hkey, get?, get?, ih, if_neg hother, if_neg hother]
      · rw [if_neg hkey, get?, get?, ih]

theorem get?_isSome : (get? fields key).isSome = fields.any fun f => f.1 = key := by
  induction fields with
  | nil => rfl
  | cons field fields ih =>
    rw [get?, isSome_or, ih, any_cons, Bool.or_comm]
    by_cases hkey : field.1 = key
    · simp [hkey]
    · simp [hkey]

theorem get?_put :
    get? (put fields key value) k = if key = k then some value else get? fields k := by
  unfold put
  by_cases hany : (fields.any fun f => f.1 = key) = true
  · rw [if_pos hany, get?_replace]
    by_cases hk : key = k
    · rw [if_pos hk, if_pos hk]
      rw [← get?_isSome, hk] at hany
      obtain ⟨v, hv⟩ := isSome_iff_exists.mp hany
      rw [hv, map_some]
    · rw [if_neg hk, if_neg hk]
  · rw [if_neg hany, get?_append]

theorem get?_backFields (read fields : List (Text × Json ν)) (k : Text) :
    get? (backFields N read fields) k = ((get? fields k).map (back N)).or (get? read k) := by
  induction fields generalizing read with
  | nil => rfl
  | cons field fields ih =>
    rw [backFields, ih, get?_put, get?]
    cases get? fields k with
    | some v => rfl
    | none =>
      by_cases hk : field.1 = k
      · rw [if_pos hk, if_pos hk]
        rfl
      · rw [if_neg hk, if_neg hk]
        rfl

theorem scanString_raw (hquote : c ≠ quoteMark) (hback : c ≠ backslash) (hcontrol : 0x20 ≤ c.toNat)
    (s : Text) : scanString (c :: s) = (scanString s).map fun r => (c :: r.1, r.2) := by
  rw [scanString.eq_def]
  dsimp only
  rw [if_neg hquote, if_neg hback, if_neg (Nat.not_lt.mpr hcontrol)]
  cases scanString s with
  | none | some r => rfl

theorem scanString_short {letter : UInt16} (hletter : letter ≠ unit 'u')
    (h : unescape letter = some c) (s : Text) :
    scanString (backslash :: letter :: s) = (scanString s).map fun r => (c :: r.1, r.2) := by
  have hback : backslash ≠ quoteMark := by decide
  rw [scanString.eq_def]
  dsimp only
  rw [if_neg hback, if_pos rfl, if_neg hletter, h]
  cases scanString s with
  | none | some r => rfl

theorem hexValue_hexDigit {n : Nat} (h : n < 0x10) : hexValue (hexDigit n) = some n := by
  have hall : ∀ n : Fin 0x10, hexValue (hexDigit n) = some n.val := by decide
  exact hall ⟨n, h⟩

theorem scanString_hex (c : UInt16) (s : Text) :
    scanString (escapeHex c ++ s) = (scanString s).map fun r => (c :: r.1, r.2) := by
  have hback : backslash ≠ quoteMark := by decide
  have hlt := c.toNat_lt
  have hunit : (c.toNat / 0x1000 * 0x1000 + c.toNat / 0x100 % 0x10 * 0x100 +
      c.toNat / 0x10 % 0x10 * 0x10 + c.toNat % 0x10) = c.toNat := by omega
  unfold escapeHex
  simp only [cons_append, nil_append]
  rw [scanString.eq_def]
  dsimp only
  rw [if_neg hback, if_pos rfl, if_pos rfl, hexValue_hexDigit (by omega),
    hexValue_hexDigit (by omega), hexValue_hexDigit (by omega), hexValue_hexDigit (by omega)]
  cases scanString s with
  | none => rfl
  | some r =>
    show some (_ :: r.1, r.2) = some (c :: r.1, r.2)
    rw [hunit]
    simp

theorem shortEscapes_sound : ∀ e ∈ shortEscapes, e.2 ≠ unit 'u' ∧ unescape e.2 = some e.1 := by
  have hall : shortEscapes.all fun e => e.2 ≠ unit 'u' ∧ unescape e.2 = some e.1 := by decide
  intro e he
  exact of_decide_eq_true (all_eq_true.mp hall e he)

theorem scanString_quoteUnit (c : UInt16) (s : Text) :
    scanString (quoteUnit c ++ s) = (scanString s).map fun r => (c :: r.1, r.2) := by
  unfold quoteUnit
  cases hshort : shortEscapes.lookup c with
  | some letter =>
    have hmem : (c, letter) ∈ shortEscapes := by
      obtain ⟨before, after, heq, _⟩ := lookup_eq_some_iff.mp hshort
      rw [heq]
      exact mem_append_right _ mem_cons_self
    have hsound := shortEscapes_sound (c, letter) hmem
    exact scanString_short hsound.1 hsound.2 s
  | none =>
    by_cases hescape : (c.toNat < 0x20 || isSurrogate c) = true
    · rw [if_pos hescape]
      exact scanString_hex c s
    · rw [if_neg hescape, singleton_append]
      have hnot := lookup_eq_none_iff.mp hshort
      refine scanString_raw ?_ ?_ ?_ s
      · rintro rfl
        exact absurd (hnot (quoteMark, quoteMark) (by decide)) (by decide)
      · rintro rfl
        exact absurd (hnot (backslash, backslash) (by decide)) (by decide)
      · simp only [Bool.or_eq_true, decide_eq_true_eq] at hescape
        omega

theorem scanString_surrogate (h : isSurrogate c = true) (s : Text) :
    scanString (c :: s) = (scanString s).map fun r => (c :: r.1, r.2) := by
  simp only [isSurrogate, Bool.and_eq_true, decide_eq_true_eq] at h
  refine scanString_raw ?_ ?_ (by omega) s
  · rintro rfl
    exact absurd h (by decide)
  · rintro rfl
    exact absurd h (by decide)

/-- A string is read back. -/
theorem scanString_quoteUnits (t rest : Text) :
    scanString (quoteUnits t ++ quoteMark :: rest) = some (t, rest) := by
  have hend : scanString (quoteMark :: rest) = some ([], rest) := by
    rw [scanString.eq_def]
    exact if_pos rfl
  induction t using quoteUnits.induct with
  | case1 => exact hend
  | case2 c =>
    rw [quoteUnits, scanString_quoteUnit, hend]
    rfl
  | case3 c d ds hpair ih =>
    rw [quoteUnits, if_pos hpair, cons_append, cons_append]
    rw [Bool.and_eq_true] at hpair
    rw [scanString_surrogate (isSurrogate_of_isHigh hpair.1),
      scanString_surrogate (isSurrogate_of_isLow hpair.2), ih]
    rfl
  | case4 c d ds hpair ih =>
    rw [quoteUnits, if_neg hpair, append_assoc, scanString_quoteUnit, ih]
    rfl

theorem skipBlank_cons (h : isBlank c = false) (t : Text) : skipBlank (c :: t) = c :: t :=
  dropWhile_cons_of_neg (by rw [h]; exact Bool.false_ne_true)

theorem skipBlank_append (h : ∀ c ∈ b, isBlank c = true) (t : Text) :
    skipBlank (b ++ t) = skipBlank t := dropWhile_append_of_pos h

theorem isBlank_newline : ∀ c ∈ newline gap depth, isBlank c = true := by
  unfold newline
  intro c hc
  by_cases hgap : gap = 0
  · rw [if_pos hgap] at hc
    exact absurd hc not_mem_nil
  · rw [if_neg hgap] at hc
    rcases mem_cons.mp hc with rfl | hc
    · decide
    · rw [eq_of_mem_replicate hc]
      decide

theorem isBlank_colon : ∃ b, colon gap = unit ':' :: b ∧ ∀ c ∈ b, isBlank c = true := by
  unfold colon
  by_cases hgap : gap = 0
  · rw [if_pos hgap]
    exact ⟨[], rfl, fun c hc => absurd hc not_mem_nil⟩
  · rw [if_neg hgap]
    refine ⟨[unit ' '], rfl, fun c hc => ?_⟩
    rw [mem_singleton.mp hc]
    decide

theorem scan_congr {t t' : Text} (h : skipBlank t = skipBlank t') (fuel : Nat) :
    scan N fuel t = scan N fuel t' := by
  cases fuel with
  | zero => rw [scan, scan]
  | succ fuel => rw [scan, scan, h]

theorem scan_blank (h : ∀ c ∈ b, isBlank c = true) (fuel : Nat) (t : Text) :
    scan N fuel (b ++ t) = scan N fuel t :=
  scan_congr N (skipBlank_append h t) fuel

theorem scanFields_blank (h : ∀ c ∈ b, isBlank c = true) (fuel : Nat) (read : List (Text × Json ν))
    (t : Text) : scanFields N fuel read (b ++ t) = scanFields N fuel read t := by
  cases fuel with
  | zero => rw [scanFields, scanFields]
  | succ fuel => rw [scanFields, scanFields, skipBlank_append h]

/-- A text that a number may stand before. -/
def Stops (t : Text) : Prop := ∀ c, t.head? = some c → isNumberUnit c = false

theorem stops_cons {t : Text} (h : isNumberUnit c = false) : Stops (c :: t) := by
  intro d hd
  rw [← some.inj hd]
  exact h

theorem stops_newline {t : Text} (h : Stops t) (gap depth : Nat) :
    Stops (newline gap depth ++ t) := by
  unfold newline
  by_cases hgap : gap = 0
  · rw [if_pos hgap]
    exact h
  · rw [if_neg hgap]
    exact stops_cons (by decide)

/-- A number is scanned to its end. -/
theorem scanNumber_append {t rest : Text} (h : isLiteral t = true) (hrest : Stops rest) :
    scanNumber (t ++ rest) = some (t, rest) := by
  have hall : ∀ c ∈ t, isNumberUnit c = true :=
    all_eq_true.mp (Bool.and_eq_true_iff.mp h).1
  have htake : rest.takeWhile isNumberUnit = [] ∧ rest.dropWhile isNumberUnit = rest := by
    cases rest with
    | nil => exact ⟨rfl, rfl⟩
    | cons c cs =>
      have hc := hrest c rfl
      rw [takeWhile_cons, dropWhile_cons, hc]
      exact ⟨rfl, rfl⟩
  unfold scanNumber
  rw [takeWhile_append_of_pos hall, dropWhile_append_of_pos hall, htake.1, htake.2, append_nil]
  exact if_pos h

/-- A number is none of the other things a value may begin with. -/
theorem isNumberUnit_not (h : isNumberUnit c = true) :
    isBlank c = false ∧ c ≠ quoteMark ∧ c ≠ unit '[' ∧ c ≠ unit '{' ∧ c ≠ unit 'n' ∧
      c ≠ unit 't' ∧ c ≠ unit 'f' := by
  have hnot : ∀ d, isNumberUnit d = false → c ≠ d := by
    rintro d hd rfl
    rw [hd] at h
    cases h
  refine ⟨?_, hnot _ (by decide), hnot _ (by decide), hnot _ (by decide), hnot _ (by decide),
    hnot _ (by decide), hnot _ (by decide)⟩
  unfold isBlank
  simp only [Bool.or_eq_false_iff, decide_eq_false_iff_not]
  exact ⟨⟨⟨hnot _ (by decide), hnot _ (by decide)⟩, hnot _ (by decide)⟩, hnot _ (by decide)⟩

theorem scan_number {t rest : Text} (h : isLiteral t = true) (hrest : Stops rest) (fuel : Nat) :
    scan N (fuel + 1) (t ++ rest) = some (.num (N.read t), rest) := by
  cases t with
  | nil => exact absurd h (by decide)
  | cons c cs =>
    have hunit : isNumberUnit c = true :=
      all_eq_true.mp (Bool.and_eq_true_iff.mp h).1 c mem_cons_self
    obtain ⟨hblank, hquote, hbracket, hbrace, hn, ht, hf⟩ := isNumberUnit_not hunit
    have hnull : afterPrefix (text "null") (c :: (cs ++ rest)) = none :=
      if_neg fun heq => hn heq.symm
    have htrue : afterPrefix (text "true") (c :: (cs ++ rest)) = none :=
      if_neg fun heq => ht heq.symm
    have hfalse : afterPrefix (text "false") (c :: (cs ++ rest)) = none :=
      if_neg fun heq => hf heq.symm
    rw [cons_append, scan, skipBlank_cons hblank]
    dsimp only
    rw [if_neg hquote, if_neg hbracket, if_neg hbrace, hnull, htrue, hfalse]
    rw [← cons_append, scanNumber_append h hrest]
    rfl

/-- What a printed value begins with. -/
theorem print_cons {N : Numbers ν} (hN : Lawful N) (gap depth : Nat) (v : Json ν) :
    ∃ c cs, print N gap depth v = c :: cs ∧ isBlank c = false ∧ c ≠ unit ']' := by
  cases v with
  | null => exact ⟨unit 'n', text "ull", rfl, by decide, by decide⟩
  | bool b =>
    cases b with
    | true => exact ⟨unit 't', text "rue", rfl, by decide, by decide⟩
    | false => exact ⟨unit 'f', text "alse", rfl, by decide, by decide⟩
  | num x =>
    rw [print]
    cases hfinite : N.finite x with
    | false => exact ⟨unit 'n', text "ull", rfl, by decide, by decide⟩
    | true =>
      have hliteral := hN.literal x hfinite
      cases hprint : N.print x with
      | nil =>
        rw [hprint] at hliteral
        exact absurd hliteral (by decide)
      | cons c cs =>
        rw [hprint] at hliteral
        have hunit : isNumberUnit c = true :=
          all_eq_true.mp (Bool.and_eq_true_iff.mp hliteral).1 c mem_cons_self
        refine ⟨c, cs, rfl, (isNumberUnit_not hunit).1, ?_⟩
        rintro rfl
        exact absurd hunit (by decide)
  | str t =>
    exact ⟨_, _, rfl, by decide, by decide⟩
  | arr vs =>
    cases vs with
    | nil =>
      exact ⟨_, _, rfl, by decide, by decide⟩
    | cons v vs =>
      exact ⟨_, _, rfl, by decide, by decide⟩
  | obj fields =>
    cases fields with
    | nil =>
      exact ⟨_, _, rfl, by decide, by decide⟩
    | cons field fields =>
      exact ⟨_, _, rfl, by decide, by decide⟩

theorem stops_printElements (vs : List (Json ν)) (rest : Text) :
    Stops (printElements N gap depth vs ++ rest) := by
  cases vs with
  | nil =>
    rw [printElements, append_assoc]
    exact stops_newline (stops_cons (by decide)) gap depth
  | cons v vs =>
    exact stops_cons (by decide)

theorem stops_printFields (fields : List (Text × Json ν)) (rest : Text) :
    Stops (printFields N gap depth fields ++ rest) := by
  cases fields with
  | nil =>
    rw [printFields, append_assoc]
    exact stops_newline (stops_cons (by decide)) gap depth
  | cons field fields =>
    exact stops_cons (by decide)

theorem scan_null (rest : Text) : scan N (fuel + 1) (text "null" ++ rest) = some (.null, rest) := by
  rfl

theorem scan_bool (b : Bool) (rest : Text) :
    scan N (fuel + 1) ((if b then text "true" else text "false") ++ rest) =
      some (.bool b, rest) := by
  cases b with
  | true | false => rfl

theorem scan_quote (t rest : Text) : scan N (fuel + 1) (quote t ++ rest) = some (.str t, rest) := by
  have hblank : isBlank quoteMark = false := by decide
  unfold quote
  rw [scan, cons_append, skipBlank_cons hblank]
  dsimp only
  rw [if_pos rfl, append_assoc, singleton_append, scanString_quoteUnits]
  rfl

/-- One field: its key, its value, and what comes behind it. -/
theorem scanFields_field {gap depth fuel : Nat} {k : Text} {v b : Json ν}
    {read : List (Text × Json ν)} {rest : Text}
    (hscan : scan N fuel (print N gap (depth + 1) v ++ rest) = some (b, rest)) :
    scanFields N (fuel + 1) read
        (newline gap (depth + 1) ++ (quote k ++ (colon gap ++ (print N gap (depth + 1) v ++ rest)))) =
      match skipBlank rest with
      | e :: es =>
        if e = unit ',' then scanFields N fuel (put read k b) es
        else if e = unit '}' then some (.obj (put read k b), es)
        else none
      | [] => none := by
  have hquote : isBlank quoteMark = false := by decide
  have hcolon : isBlank (unit ':') = false := by decide
  obtain ⟨blanks, heq, hblanks⟩ := isBlank_colon gap
  rw [scanFields, skipBlank_append (isBlank_newline gap (depth + 1))]
  unfold quote
  rw [cons_append, skipBlank_cons hquote]
  dsimp only
  rw [if_pos rfl, append_assoc, singleton_append, scanString_quoteUnits, heq, cons_append]
  simp only [bind_eq_bind, bind_some]
  rw [skipBlank_cons hcolon]
  dsimp only
  rw [if_pos rfl, scan_blank N hblanks, hscan]
  rfl

theorem printElements_pos (vs : List (Json ν)) : 0 < (printElements N gap depth vs).length := by
  cases vs with
  | nil =>
    rw [printElements, length_append, length_singleton]
    omega
  | cons v vs =>
    rw [printElements, length_cons]
    omega

theorem printFields_pos (fields : List (Text × Json ν)) :
    0 < (printFields N gap depth fields).length := by
  cases fields with
  | nil =>
    rw [printFields, length_append, length_singleton]
    omega
  | cons field fields =>
    rw [printFields, length_cons]
    omega

theorem print_pos {N : Numbers ν} (hN : Lawful N) (gap depth : Nat) (v : Json ν) :
    0 < (print N gap depth v).length := by
  obtain ⟨c, cs, heq, _⟩ := print_cons hN gap depth v
  rw [heq, length_cons]
  omega

mutual

/-- A value that was written is read back. -/
theorem scan_print {N : Numbers ν} (hN : Lawful N) (gap : Nat) :
    (v : Json ν) → (depth fuel : Nat) → (rest : Text) → Stops rest →
      (print N gap depth v).length ≤ fuel →
      scan N fuel (print N gap depth v ++ rest) = some (back N v, rest)
  | v, depth, 0, rest, _, hfuel => by
    obtain ⟨c, cs, heq, _⟩ := print_cons hN gap depth v
    rw [heq] at hfuel
    exact absurd hfuel (by simp)
  | .null, depth, fuel + 1, rest, _, _ => by
    rw [print, back]
    exact scan_null N fuel rest
  | .bool true, depth, fuel + 1, rest, _, _ => by
    rw [print, back]
    exact scan_bool N fuel true rest
  | .bool false, depth, fuel + 1, rest, _, _ => by
    rw [print, back]
    exact scan_bool N fuel false rest
  | .num x, depth, fuel + 1, rest, hrest, _ => by
    rw [print, back]
    cases hfinite : N.finite x with
    | false => exact scan_null N fuel rest
    | true =>
      rw [if_pos rfl, if_pos rfl, scan_number N (hN.literal x hfinite) hrest,
        hN.read_print x hfinite]
  | .str t, depth, fuel + 1, rest, _, _ => by
    rw [print, back]
    exact scan_quote N fuel t rest
  | .arr [], depth, fuel + 1, rest, _, _ => by
    rw [print, back, backElements, scan]
    rfl
  | .arr (v :: vs), depth, fuel + 1, rest, _, hfuel => by
    have hbracket : isBlank (unit '[') = false := by decide
    have hquote : unit '[' ≠ quoteMark := by decide
    have helements := printElements_pos N gap depth vs
    have hvalue := print_pos hN gap (depth + 1) v
    obtain ⟨c, cs, heq, hblank, hclose⟩ := print_cons hN gap (depth + 1) v
    rw [print, length_cons, length_append, length_append] at hfuel
    obtain ⟨f, rfl⟩ : ∃ f, fuel = f + 1 := ⟨fuel - 1, by omega⟩
    have hscan := scan_print hN gap v (depth + 1) f (printElements N gap depth vs ++ rest)
      (stops_printElements N gap depth vs rest) (by omega)
    have hrest := scanElements_print hN gap vs depth f [] _ _ rest (by omega) hscan
    rw [print, cons_append, append_assoc, append_assoc, scan, skipBlank_cons hbracket]
    dsimp only
    rw [if_neg hquote, if_pos rfl, skipBlank_append (isBlank_newline gap (depth + 1)), heq,
      cons_append, skipBlank_cons hblank]
    dsimp only
    rw [if_neg hclose, ← cons_append, ← heq, hrest, back, backElements, nil_append]
  | .obj [], depth, fuel + 1, rest, _, _ => by
    rfl
  | .obj ((k, v) :: fields), depth, fuel + 1, rest, _, hfuel => by
    have hbrace : isBlank (unit '{') = false := by decide
    have hquote : unit '{' ≠ quoteMark := by decide
    have hbracket : unit '{' ≠ unit '[' := by decide
    have hmark : isBlank quoteMark = false := by decide
    have hclose : quoteMark ≠ unit '}' := by decide
    have hfields := printFields_pos N gap depth fields
    have hvalue := print_pos hN gap (depth + 1) v
    rw [print] at hfuel
    simp only [length_cons, length_append] at hfuel
    obtain ⟨f, rfl⟩ : ∃ f, fuel = f + 1 := ⟨fuel - 1, by omega⟩
    have hscan := scan_print hN gap v (depth + 1) f (printFields N gap depth fields ++ rest)
      (stops_printFields N gap depth fields rest) (by omega)
    have hrest := scanFields_print hN gap fields depth f [] k v _ rest (by omega) hscan
    rw [print, cons_append, scan, skipBlank_cons hbrace]
    dsimp only
    rw [if_neg hquote, if_neg hbracket, if_pos rfl]
    simp only [append_assoc]
    rw [skipBlank_append (isBlank_newline gap (depth + 1))]
    rw [scanFields_blank N (isBlank_newline gap (depth + 1))] at hrest
    unfold quote at hrest ⊢
    rw [cons_append, skipBlank_cons hmark]
    dsimp only
    rw [if_neg hclose, ← cons_append, hrest, back, backFields]

theorem scanElements_print {N : Numbers ν} (hN : Lawful N) (gap : Nat) :
    (vs : List (Json ν)) → (depth fuel : Nat) → (read : List (Json ν)) → (t : Text) →
      (b : Json ν) → (rest : Text) → (printElements N gap depth vs).length ≤ fuel →
      scan N fuel t = some (b, printElements N gap depth vs ++ rest) →
      scanElements N (fuel + 1) read t = some (.arr (read ++ b :: backElements N vs), rest)
  | [], depth, fuel, read, t, b, rest, _, hscan => by
    have hclose : isBlank (unit ']') = false := by decide
    have hcomma : unit ']' ≠ unit ',' := by decide
    rw [scanElements, hscan, printElements, append_assoc]
    simp only [bind_eq_bind, bind_some]
    rw [skipBlank_append (isBlank_newline gap depth), singleton_append, skipBlank_cons hclose]
    dsimp only
    rw [if_neg hcomma, if_pos rfl, backElements]
  | v :: vs, depth, fuel, read, t, b, rest, hfuel, hscan => by
    have hcomma : isBlank (unit ',') = false := by decide
    rw [printElements] at hfuel hscan
    simp only [length_cons, length_append] at hfuel
    obtain ⟨f, rfl⟩ : ∃ f, fuel = f + 1 := ⟨fuel - 1, by omega⟩
    have hnext := scan_print hN gap v (depth + 1) f (printElements N gap depth vs ++ rest)
      (stops_printElements N gap depth vs rest) (by omega)
    rw [← scan_blank N (isBlank_newline gap (depth + 1))] at hnext
    have hrest := scanElements_print hN gap vs depth f (read ++ [b]) _ _ rest (by omega) hnext
    rw [scanElements, hscan]
    simp only [bind_eq_bind, bind_some]
    rw [cons_append, skipBlank_cons hcomma]
    dsimp only
    rw [if_pos rfl, append_assoc, append_assoc, hrest, backElements, append_assoc]
    rfl

theorem scanFields_print {N : Numbers ν} (hN : Lawful N) (gap : Nat) :
    (fields : List (Text × Json ν)) → (depth fuel : Nat) → (read : List (Text × Json ν)) →
      (k : Text) → (v b : Json ν) → (rest : Text) →
      (printFields N gap depth fields).length ≤ fuel →
      scan N fuel (print N gap (depth + 1) v ++ (printFields N gap depth fields ++ rest)) =
        some (b, printFields N gap depth fields ++ rest) →
      scanFields N (fuel + 1) read (newline gap (depth + 1) ++ (quote k ++ (colon gap ++
          (print N gap (depth + 1) v ++ (printFields N gap depth fields ++ rest))))) =
        some (.obj (backFields N (put read k b) fields), rest)
  | [], depth, fuel, read, k, v, b, rest, _, hscan => by
    have hclose : isBlank (unit '}') = false := by decide
    have hcomma : unit '}' ≠ unit ',' := by decide
    rw [scanFields_field N hscan, printFields, append_assoc,
      skipBlank_append (isBlank_newline gap depth), singleton_append,
      skipBlank_cons hclose]
    dsimp only
    rw [if_neg hcomma, if_pos rfl, backFields]
  | (k', v') :: fields, depth, fuel, read, k, v, b, rest, hfuel, hscan => by
    have hcomma : isBlank (unit ',') = false := by decide
    have hlength := hfuel
    rw [printFields] at hlength
    simp only [length_cons, length_append] at hlength
    obtain ⟨f, rfl⟩ : ∃ f, fuel = f + 1 := ⟨fuel - 1, by omega⟩
    have hnext := scan_print hN gap v' (depth + 1) f (printFields N gap depth fields ++ rest)
      (stops_printFields N gap depth fields rest) (by omega)
    have hrest := scanFields_print hN gap fields depth f (put read k b) k' v' _ rest (by omega)
      hnext
    rw [scanFields_field N hscan, printFields, cons_append, skipBlank_cons hcomma]
    dsimp only
    rw [if_pos rfl]
    simp only [append_assoc]
    rw [hrest, backFields]

end

variable {N : Numbers ν}

/-- A value that was written is read back, whatever the indentation. -/
theorem parse_stringify (hN : Lawful N) (gap : Nat) (v : Json ν) :
    parse N (stringify N gap v) = some (back N v) := by
  have hstops : Stops ([] : Text) := fun c hc => by cases hc
  have hscan := scan_print hN gap v 0 ((stringify N gap v).length + 1) [] hstops (Nat.le_succ _)
  rw [append_nil] at hscan
  unfold parse
  rw [show scan N _ (stringify N gap v) = some (back N v, []) from hscan]
  rfl

open Utf8 (WellFormed)

theorem wellFormed_quoteUnit (c : UInt16) : WellFormed (quoteUnit c) := by
  have hdigit : ∀ n, n < 0x10 → isSurrogate (hexDigit n) = false := by
    intro n hn
    have hall : ∀ n : Fin 0x10, isSurrogate (hexDigit n) = false := by decide
    exact hall ⟨n, hn⟩
  have hplain : shortEscapes.all fun e => !isSurrogate e.2 := by decide
  have hshort : ∀ e ∈ shortEscapes, isSurrogate e.2 = false := by
    intro e he
    simpa using all_eq_true.mp hplain e he
  have hback : isSurrogate backslash = false := by decide
  have hu : isSurrogate (unit 'u') = false := by decide
  have hlt := c.toNat_lt
  unfold quoteUnit
  cases hlookup : shortEscapes.lookup c with
  | some letter =>
    obtain ⟨before, after, heq, _⟩ := lookup_eq_some_iff.mp hlookup
    have hletter := hshort (c, letter) (by
      rw [heq]
      exact mem_append_right _ mem_cons_self)
    exact .unit hback (.unit hletter .nil)
  | none =>
    by_cases hescape : (c.toNat < 0x20 || isSurrogate c) = true
    · rw [if_pos hescape]
      exact .unit hback (.unit hu (.unit (hdigit _ (by omega)) (.unit (hdigit _ (by omega))
        (.unit (hdigit _ (by omega)) (.unit (hdigit _ (by omega)) .nil)))))
    · rw [if_neg hescape]
      rw [Bool.or_eq_true, not_or] at hescape
      exact .unit (Bool.not_eq_true _ ▸ hescape.2) .nil

theorem wellFormed_quote (t : Text) : WellFormed (quote t) := by
  have hmark : WellFormed [quoteMark] := .unit (by decide) .nil
  have hunits : WellFormed (quoteUnits t) := by
    induction t using quoteUnits.induct with
    | case1 => exact .nil
    | case2 c => exact wellFormed_quoteUnit c
    | case3 c d ds hpair ih =>
      rw [quoteUnits, if_pos hpair]
      rw [Bool.and_eq_true] at hpair
      exact .pair hpair.1 hpair.2 ih
    | case4 c d ds hpair ih =>
      rw [quoteUnits, if_neg hpair]
      exact (wellFormed_quoteUnit c).append ih
  exact hmark.append (hunits.append hmark)

theorem wellFormed_literal {t : Text} (h : isLiteral t = true) : WellFormed t := by
  refine .of_all fun c hc => ?_
  have hunit := all_eq_true.mp (Bool.and_eq_true_iff.mp h).1 c hc
  have hnine : (unit '9').toNat = 0x39 := by decide
  unfold isNumberUnit isDigit at hunit
  simp only [Bool.or_eq_true, Bool.and_eq_true, decide_eq_true_eq, UInt16.le_iff_toNat_le,
    hnine] at hunit
  rcases hunit with ((((hdigit | rfl) | rfl) | rfl) | rfl) | rfl
  · simp only [isSurrogate, Bool.and_eq_false_iff, decide_eq_false_iff_not]
    omega
  all_goals decide

theorem wellFormed_newline (gap depth : Nat) : WellFormed (newline gap depth) := by
  refine .of_all fun c hc => ?_
  have hblank := isBlank_newline gap depth c hc
  unfold isBlank at hblank
  simp only [Bool.or_eq_true, decide_eq_true_eq] at hblank
  rcases hblank with ((rfl | rfl) | rfl) | rfl
  all_goals decide

theorem wellFormed_colon (gap : Nat) : WellFormed (colon gap) := by
  unfold colon
  by_cases hgap : gap = 0
  · rw [if_pos hgap]
    exact .unit (by decide) .nil
  · rw [if_neg hgap]
    exact .unit (by decide) (.unit (by decide) .nil)

mutual

theorem wellFormed_print (hN : Lawful N) (gap : Nat) :
    (v : Json ν) → (depth : Nat) → WellFormed (print N gap depth v)
  | .null, _ => by
    rw [print]
    exact .of_plain (by decide)
  | .bool true, _ => by
    rw [print]
    exact .of_plain (by decide)
  | .bool false, _ => by
    rw [print]
    exact .of_plain (by decide)
  | .num x, _ => by
    rw [print]
    cases hfinite : N.finite x with
    | false =>
      rw [if_neg Bool.false_ne_true]
      exact .of_plain (by decide)
    | true => exact wellFormed_literal (hN.literal x hfinite)
  | .str t, _ => by
    exact wellFormed_quote t
  | .arr [], _ => by
    rw [print]
    exact .of_plain (by decide)
  | .arr (v :: vs), depth => by
    exact .unit (by decide) (((wellFormed_newline gap (depth + 1)).append
      (wellFormed_print hN gap v (depth + 1))).append (wellFormed_printElements hN gap vs depth))
  | .obj [], _ => by
    rw [print]
    exact .of_plain (by decide)
  | .obj ((k, v) :: fields), depth => by
    exact .unit (by decide) (((((wellFormed_newline gap (depth + 1)).append
      (wellFormed_quote k)).append (wellFormed_colon gap)).append
      (wellFormed_print hN gap v (depth + 1))).append (wellFormed_printFields hN gap fields depth))

theorem wellFormed_printElements (hN : Lawful N) (gap : Nat) :
    (vs : List (Json ν)) → (depth : Nat) → WellFormed (printElements N gap depth vs)
  | [], depth => by
    exact (wellFormed_newline gap depth).append (.unit (by decide) .nil)
  | v :: vs, depth => by
    exact .unit (by decide) (((wellFormed_newline gap (depth + 1)).append
      (wellFormed_print hN gap v (depth + 1))).append (wellFormed_printElements hN gap vs depth))

theorem wellFormed_printFields (hN : Lawful N) (gap : Nat) :
    (fields : List (Text × Json ν)) → (depth : Nat) → WellFormed (printFields N gap depth fields)
  | [], depth => by
    exact (wellFormed_newline gap depth).append (.unit (by decide) .nil)
  | (k, v) :: fields, depth => by
    exact .unit (by decide) (((((wellFormed_newline gap (depth + 1)).append
      (wellFormed_quote k)).append (wellFormed_colon gap)).append
      (wellFormed_print hN gap v (depth + 1))).append (wellFormed_printFields hN gap fields depth))

end

/-- What is written has no unpaired surrogates. -/
theorem wellFormed_stringify {N : Numbers ν} (hN : Lawful N) (gap : Nat) (v : Json ν) :
    WellFormed (stringify N gap v) := wellFormed_print hN gap v 0

end Json

end Sencho.Verified

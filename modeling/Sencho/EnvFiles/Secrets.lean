import Mathlib.Data.List.Sort
import Sencho.EnvFiles.ComposeDotenv

/-!
# Pushing a secret bundle

A push reads an env file its own way, lays the bundle over what it read, and writes every
assignment back, sorted and quoted where the value needs it.
-/

namespace Sencho.EnvFiles

open Verified CodeUnits AList

/-- An object of texts by key. -/
abbrev SecretKv := AList fun _ : Text => Text

/-- The pattern `^[A-Za-z_][A-Za-z0-9_]*$`. -/
def isEnvKey (key : Text) : Bool :=
  match key with
  | [] => false
  | c :: cs => isNameStart c && cs.all isNameRest

/-- Set a property of a plain object.  A text set as its prototype is ignored. -/
def setProperty (kv : SecretKv) (key value : Text) : SecretKv :=
  if key = text "__proto__" then kv else kv.insert key value

/-- A replacement of a backslash and a letter. -/
def backslashPair (c out : UInt16) : Text → Option (Text × Nat)
  | a :: b :: _ => if a = unit '\\' ∧ b = c then some ([out], 2) else none
  | _ => none

/-- What `parseEnv` makes of the inside of double quotes. -/
def unescapeQuoted (inner : Text) : Text :=
  let lf := replaceAll (backslashPair (unit 'n') (unit '\n')) 0 inner
  let cr := replaceAll (backslashPair (unit 'r') (unit '\r')) 0 lf
  let tab := replaceAll (backslashPair (unit 't') (unit '\t')) 0 cr
  let quote := replaceAll (backslashPair (unit '"') (unit '"')) 0 tab
  replaceAll (backslashPair (unit '\\') (unit '\\')) 0 quote

/-- A bare value up to white space and a `#`. -/
def beforeSpacedComment : Text → Text
  | [] => []
  | c :: cs =>
    if isSpace c && cs.head? = some (unit '#') then [] else c :: beforeSpacedComment cs

/-- The value `parseEnv` makes of what follows the equals sign. -/
def parseValue (rawValue : Text) : Text :=
  match rawValue.head?, rawValue.getLast? with
  | some first, some last =>
    if rawValue.length ≥ 2 ∧ first = unit '"' ∧ last = unit '"' then
      unescapeQuoted rawValue.tail.dropLast
    else if rawValue.length ≥ 2 ∧ first = unit '\'' ∧ last = unit '\'' then
      rawValue.tail.dropLast
    else trim (beforeSpacedComment rawValue)
  | _, _ => trim (beforeSpacedComment rawValue)

/-- One line of an env file. -/
def parseLine (out : SecretKv) (rawLine : Text) : SecretKv :=
  let line := trim rawLine
  if line = [] ∨ line.head? = some (unit '#') ∨ unit '=' ∉ line then out
  else
    let key := trim (line.takeWhile fun c => c ≠ unit '=')
    let rawValue := (line.dropWhile fun c => c ≠ unit '=').tail
    if isEnvKey key then setProperty out key (parseValue rawValue) else out

/-- Read an env file the way a push does. -/
def parseEnv (t : Text) : SecretKv := (splitLines t).foldl parseLine ∅

/-- Whether a value is written between quotes. -/
def needsQuotes (v : Text) : Bool :=
  v = [] || v.any fun c =>
    isSpace c || c = unit '#' || c = unit '=' || c = unit '\\' || c = unit '"' || c = unit '\''

/-- A unit between quotes: a backslash and a double quote take a backslash. -/
def escapeUnit (c : UInt16) : Text :=
  if c = unit '\\' || c = unit '"' then [unit '\\', c] else [c]

def serializeValue (v : Text) : Text :=
  if needsQuotes v then unit '"' :: v.flatMap escapeUnit ++ [unit '"'] else v

def serializeLine (entry : Text × Text) : Text :=
  entry.1 ++ unit '=' :: serializeValue entry.2

/-- The order of `sort` on keys. -/
def keyLe (a b : Text) : Bool := JsString.unitsLe (a.map UInt16.toNat) (b.map UInt16.toNat)

/-- The keys of an object in order, each with its value. -/
def sortedEntries (kv : SecretKv) : List (Text × Text) :=
  (kv.keys.mergeSort keyLe).map fun key => (key, (kv.lookup key).getD [])

/-- Write an object as an env file. -/
def serializeEnv (kv : SecretKv) : Text :=
  let lines := (sortedEntries kv).map serializeLine
  if lines = [] then [] else [unit '\n'].intercalate lines ++ [unit '\n']

/-- The bundle wins for keys it defines; others are preserved. -/
def applyOverlay (existing overlay : SecretKv) : SecretKv := overlay ∪ existing

inductive DiffStatus where
  | added
  | removed
  | changed
  | unchanged
  deriving DecidableEq

/-- The members every plain object inherits. -/
def inheritedMembers : List Text :=
  ["constructor", "__proto__", "__defineGetter__", "__defineSetter__", "__lookupGetter__",
    "__lookupSetter__", "hasOwnProperty", "isPrototypeOf", "propertyIsEnumerable", "toString",
    "toLocaleString", "valueOf"].map text

/-- A property of an object, as `in` and a read see it. -/
inductive Property where
  | own (value : Text)
  | inherited
  deriving DecidableEq

def property (kv : SecretKv) (key : Text) : Option Property :=
  match kv.lookup key with
  | some value => some (.own value)
  | none => if key ∈ inheritedMembers then some .inherited else none

def diffStatus (existing overlay : SecretKv) (key : Text) : DiffStatus :=
  match property existing key, property overlay key with
  | none, some _ => .added
  | some _, none => .removed
  | some before, some after => if after ≠ before then .changed else .unchanged
  | none, none => .unchanged

/-- Every key of either side, in order, with what a push does to it. -/
def computeDiff (existing overlay : SecretKv) : List (Text × DiffStatus) :=
  ((existing ∪ overlay).keys.mergeSort keyLe).map fun key => (key, diffStatus existing overlay key)

/-- What a push to one node writes, and how many keys it adds, changes and keeps. -/
structure PushResult where
  newText : Text
  added : Nat
  changed : Nat
  unchanged : Nat

/-- A push to one node, from the text it read there. -/
def executePush (overlay : SecretKv) (readText : Text) : PushResult :=
  let existing := parseEnv readText
  let diff := computeDiff existing overlay
  let count := fun status => diff.countP fun d => d.2 = status
  ⟨serializeEnv (applyOverlay existing overlay), count .added, count .changed, count .unchanged⟩

/-- What is removed is what the bundle does not define; a push keeps it. -/
theorem applyOverlay_lookup (existing overlay : SecretKv) (key : Text) :
    (applyOverlay existing overlay).lookup key = (overlay.lookup key).or (existing.lookup key) := by
  unfold applyOverlay
  cases hover : overlay.lookup key with
  | some v =>
    have hmem : key ∈ overlay := lookup_isSome.mp (by rw [hover]; rfl)
    rw [lookup_union_left hmem, hover]
    rfl
  | none =>
    have hnot : key ∉ overlay := lookup_eq_none.mp hover
    rw [lookup_union_right hnot]
    rfl

/-- Every key `parseEnv` keeps matches the pattern. -/
theorem isEnvKey_of_parseEnv {t key : Text} (h : key ∈ parseEnv t) : isEnvKey key = true := by
  refine List.foldlRecOn (motive := fun out : SecretKv => ∀ key ∈ out, isEnvKey key = true)
    (splitLines t) parseLine (fun key hkey => absurd hkey (notMem_empty key))
    (fun out hout line _ key hkey => ?_) key h
  unfold parseLine at hkey
  dsimp only at hkey
  split at hkey
  · exact hout key hkey
  · split at hkey
    · rename_i hpattern
      unfold setProperty at hkey
      split at hkey
      · exact hout key hkey
      · rcases (mem_insert _).mp hkey with rfl | hold
        · exact hpattern
        · exact hout key hold
    · exact hout key hkey

end Sencho.EnvFiles

import Mathlib.Data.List.AList
import Sencho.Verified.CodeUnits

/-!
# The environment-file reader of Compose

A quoted value may span lines, a double-quoted value expands its escapes and then its
references, an unquoted value ends before ` #`, `export` is optional, and a reference
resolves against the process environment first and then the assignments already read.
What the reader cannot reproduce is an error.

A name may hold any Unicode letter or number.  The tables beyond ASCII are a parameter.
-/

namespace Sencho.EnvFiles

open Verified CodeUnits

/-- Resolves a name: a text where it is set, none where it is unset. -/
abbrev ComposeEnvLookup := Text → Option Text

/-- White space other than the line break, which ends an unquoted value. -/
def isEnvSpace (c : UInt16) : Bool :=
  c = 0x20 || c = 0x09 || c = 0x0b || c = 0x0c || c = 0x0d || c = 0x85 || c = 0xa0

/-- The property `White_Space`. -/
def isUnicodeSpace (c : UInt16) : Bool :=
  (0x09 ≤ c && c ≤ 0x0d) || c = 0x20 || c = 0x85 || c = 0xa0 || c = 0x1680 ||
    (0x2000 ≤ c && c ≤ 0x200a) || c = 0x2028 || c = 0x2029 || c = 0x202f || c = 0x205f || c = 0x3000

def isDigit (c : UInt16) : Bool := unit '0' ≤ c && c ≤ unit '9'

def isNameStart (c : UInt16) : Bool :=
  (unit 'a' ≤ c && c ≤ unit 'z') || (unit 'A' ≤ c && c ≤ unit 'Z') || c = unit '_'

def isNameRest (c : UInt16) : Bool := isNameStart c || isDigit c

/-- A letter or a number: in ASCII these, beyond it what the tables say. -/
def nameLetterOrNumber (tables : Nat → Bool) (codePoint : Nat) : Bool :=
  if codePoint < 0x80 then isNameRest codePoint.toUInt16 && codePoint.toUInt16 ≠ unit '_'
  else tables codePoint

/-- The name at the start of a text, empty where the text does not start with one. -/
def readName : Text → Text
  | [] => []
  | c :: cs => if isNameStart c then c :: cs.takeWhile isNameRest else []

/-- What a backslash and a letter stand for. -/
def goEscape (c : UInt16) : Option UInt16 :=
  if c = unit 'a' then some 0x07
  else if c = unit 'b' then some 0x08
  else if c = unit 'f' then some 0x0c
  else if c = unit 'n' then some 0x0a
  else if c = unit 'r' then some 0x0d
  else if c = unit 't' then some 0x09
  else if c = unit 'v' then some 0x0b
  else if c = unit '"' then some (unit '"')
  else if c = unit '\\' then some (unit '\\')
  else none

/-- A backslash and the digits after its zero: three octal digits that hold a byte, or the
text as it is. -/
def unescapeOctal (digits : Text) : Text :=
  match digits with
  | [a, b, c] =>
    let value := (a.toNat - 48) * 64 + (b.toNat - 48) * 8 + (c.toNat - 48)
    if digits.all (fun d => unit '0' ≤ d && d ≤ unit '7') && value ≤ 255 then [value.toUInt16]
    else unit '\\' :: digits
  | _ => unit '\\' :: digits

/-- The escape at the start of a text: what it stands for, and its length. -/
def escapeAt : Text → Option (Text × Nat)
  | c :: d :: rest =>
    if c ≠ unit '\\' then none
    else if d = unit '$' then some ([unit '$', unit '$'], 2)
    else if d = unit 'c' then some ([c, d], 2)
    else if d = unit '0' then
      let digits := (rest.take 3).takeWhile isDigit
      some (unescapeOctal digits, digits.length + 2)
    else (goEscape d).map fun e => ([e], 2)
  | _ => none

def expandComposeEnvEscapes (raw : Text) : Text := replaceAll escapeAt 0 raw

/-- What a template matches: two dollars, a name, a braced body, or an open brace alone. -/
inductive Template where
  | dollar
  | named (name : Text)
  | braced (inner : Text)
  | unclosed

def Template.length : Template → Nat
  | .dollar => 2
  | .named name => name.length + 1
  | .braced inner => inner.length + 3
  | .unclosed => 2

/-- The operator at the start of a text. -/
def operatorAt : Text → Text
  | c :: cs =>
    if c = unit '-' || c = unit '+' || c = unit '?' then [c]
    else if c = unit ':' then
      match cs with
      | d :: _ => if d = unit '-' || d = unit '+' || d = unit '?' then [c, d] else []
      | [] => []
    else []
  | [] => []

/-- A text up to the last closing brace of its first line. -/
def uptoLastClose (t : Text) : Option Text :=
  match (t.takeWhile fun c => c ≠ unit '\n').reverse.dropWhile fun c => c ≠ unit '\x7d' with
  | [] => none
  | _ :: before => some before.reverse

/-- The body of a braced template: a name, and an operator with the rest of the line up to
its last closing brace. -/
def bracedAt (t : Text) : Option Text :=
  let name := readName t
  if name = [] then none
  else
    let rest := t.drop name.length
    let operator := operatorAt rest
    if operator = [] then if rest.head? = some (unit '\x7d') then some name else none
    else (uptoLastClose (rest.drop operator.length)).map fun argument =>
      name ++ operator ++ argument

/-- The template at the start of a text. -/
def templateAt : Text → Option Template
  | c :: d :: rest =>
    if c ≠ unit '$' then none
    else if d = unit '$' then some .dollar
    else if isNameStart d then some (.named (readName (d :: rest)))
    else if d = unit '\x7b' then some (((bracedAt rest).map Template.braced).getD .unclosed)
    else none
  | _ => none

/-- Where a matched template is cut: a brace that opens skips the unit after it. -/
def firstBraceClose (depth : Int) (skip : Bool) (i : Nat) : Text → Option Nat
  | [] => none
  | c :: cs =>
    if skip then firstBraceClose depth false (i + 1) cs
    else if c = unit '\x7d' then
      if depth - 1 = 0 then some i else firstBraceClose (depth - 1) false (i + 1) cs
    else if c = unit '\x7b' then firstBraceClose (depth + 1) true (i + 1) cs
    else firstBraceClose depth false (i + 1) cs

def invalidTemplate (t : Text) : Text := text "Invalid template: \"" ++ t ++ text "\""

/-- Why a required variable has no value. -/
def missingValue (name : Text) (reason : Text) : Text :=
  text "required variable " ++ name ++ text " is missing a value" ++ reason

variable (processEnv lookup : ComposeEnvLookup) (expand : Text → Except Text Text)

/-- A name's operator, with what expands its argument. -/
def applyOperator (name operator argument : Text) : Except Text Text :=
  let value := lookup name
  let nonEmpty := value.filter fun v => v ≠ []
  let required (value : Option Text) : Except Text Text :=
    match value with
    | some v => .ok v
    | none =>
      if argument = [] then .error (missingValue name [])
      else do
        let reason ← expand argument
        .error (missingValue name (text ": " ++ reason))
  if operator = text ":-" then (nonEmpty.map Except.ok).getD (expand argument)
  else if operator = text "-" then (value.map Except.ok).getD (expand argument)
  else if operator = text ":+" then if nonEmpty.isSome then expand argument else .ok []
  else if operator = text "+" then if value.isSome then expand argument else .ok []
  else if operator = text ":?" then required nonEmpty
  else required value

/-- One braced body: a name, optionally followed by an operator. -/
def substituteBraced (inner : Text) : Except Text Text :=
  let invalid := invalidTemplate ([unit '$', unit '\x7b'] ++ inner ++ [unit '\x7d'])
  let name := readName inner
  if name = [] then .error invalid
  else
    let rest := inner.drop name.length
    if rest = [] then .ok ((lookup name).getD [])
    else
      let operator := operatorAt rest
      if operator = [] then .error invalid
      else applyOperator lookup expand name operator (rest.drop operator.length)

/-- What the body of a matched template stands for. -/
def templateValue (matched body : Text) : Except Text Text :=
  match (templateAt body).filter fun found => found.length = body.length with
  | some .dollar => .ok [unit '$']
  | some (.named name) => .ok ((lookup name).getD [])
  | some (.braced inner) => substituteBraced lookup expand inner
  | _ => .error (invalidTemplate matched)

/-- What a matched template stands for; what is cut off is expanded on its own. -/
def expandMatchedTemplate (matched : Text) : Except Text Text :=
  let cut := (firstBraceClose 0 false 0 matched).filter fun close => close < matched.length - 1
  let body := (cut.map fun close => matched.take (close + 1)).getD matched
  let rest := (cut.map fun close => matched.drop (close + 1)).getD []
  if rest = [] then templateValue lookup expand matched body
  else do
    let value ← templateValue lookup expand matched body
    let rest ← expand rest
    return value ++ rest

/-- Substitute references, nested to a depth. -/
def expandTemplates (lookup : ComposeEnvLookup) : Nat → Text → Except Text Text
  | 0, t => .error (invalidTemplate t)
  | depth + 1, t =>
    replaceAllM (fun suffix => (templateAt suffix).map fun found =>
      (expandMatchedTemplate lookup (expandTemplates lookup depth) (suffix.take found.length),
        found.length)) 0 t

/-- Substitute references the way Compose does.  No reference is nested deeper than its text
is long. -/
def expandComposeEnvTemplate (t : Text) (lookup : ComposeEnvLookup) : Except Text Text :=
  expandTemplates lookup (t.length + 1) t

/-- Skip white space, line breaks and whole comment lines. -/
def skipToStatement (comment : Bool) : Text → Text
  | [] => []
  | c :: cs =>
    if comment then skipToStatement (c ≠ unit '\n') cs
    else if isUnicodeSpace c then skipToStatement false cs
    else if c = unit '#' then skipToStatement true cs
    else c :: cs

/-- The white space that ends an `export`. -/
def isExportSpace (c : UInt16) : Bool :=
  c = 0x09 || c = 0x0a || c = 0x0c || c = 0x0d || c = 0x20

/-- Drop `export` and the white space after it. -/
def dropExport (statement : Text) : Text :=
  match afterPrefix (text "export") statement with
  | some (c :: cs) =>
    if isExportSpace c then (cs.dropWhile isExportSpace).dropWhile isEnvSpace else statement
  | _ => statement

/-- A name as it is read: its units, whether a line break ended it, and what follows. -/
structure ReadKey where
  name : Text
  inherited : Bool
  rest : Text

def ReadKey.after (units : Text) (k : ReadKey) : ReadKey := { k with name := units ++ k.name }

def isHighSurrogate (c : UInt16) : Bool := 0xd800 ≤ c && c ≤ 0xdbff

def isLowSurrogate (c : UInt16) : Bool := 0xdc00 ≤ c && c ≤ 0xdfff

def pairCodePoint (c d : UInt16) : Nat :=
  0x10000 + (c.toNat - 0xd800) * 0x400 + (d.toNat - 0xdc00)

def hexDigit (n : Nat) : UInt16 := (if n < 10 then 48 + n else 87 + n).toUInt16

/-- One unit as `JSON.stringify` writes it, where it is not half of a pair. -/
def jsonUnit (c : UInt16) : Text :=
  if c = unit '"' || c = unit '\\' then [unit '\\', c]
  else if c = 0x08 then text "\\b"
  else if c = 0x09 then text "\\t"
  else if c = 0x0a then text "\\n"
  else if c = 0x0c then text "\\f"
  else if c = 0x0d then text "\\r"
  else if c < 0x20 || isHighSurrogate c || isLowSurrogate c then
    text "\\u" ++ [hexDigit (c.toNat / 4096), hexDigit (c.toNat / 256 % 16),
      hexDigit (c.toNat / 16 % 16), hexDigit (c.toNat % 16)]
  else [c]

def unexpectedCharacter (char : Text) : Text :=
  text "unexpected character \"" ++ char ++ text "\" in a variable name"

/-- Read a name by code points, up to `=`, `:` or a line break.  None where the text ends
first. -/
def readKey (tables : Nat → Bool) : Text → Except Text (Option ReadKey)
  | [] => .ok none
  | c :: cs =>
    if isEnvSpace c then
      (readKey tables cs).map fun k => k.map (ReadKey.after [c])
    else if c = unit '=' || c = unit ':' || c = unit '\n' then .ok (some ⟨[], c = unit '\n', cs⟩)
    else if c = unit '_' || c = unit '.' || c = unit '-' || c = unit '[' || c = unit ']' then
      (readKey tables cs).map fun k => k.map (ReadKey.after [c])
    else if isHighSurrogate c then
      match cs with
      | d :: rest =>
        if isLowSurrogate d then
          if nameLetterOrNumber tables (pairCodePoint c d) then
            (readKey tables rest).map fun k => k.map (ReadKey.after [c, d])
          else .error (unexpectedCharacter [c, d])
        else .error (unexpectedCharacter (jsonUnit c))
      | [] => .error (unexpectedCharacter (jsonUnit c))
    else if !isLowSurrogate c && nameLetterOrNumber tables c.toNat then
      (readKey tables cs).map fun k => k.map (ReadKey.after [c])
    else .error (unexpectedCharacter (jsonUnit c))

def nameWithSpace : Text := text "a variable name cannot contain a space"

/-- The raw text between quotes, and what follows the closing one.  A backslash before a
quote goes; before anything else it stays. -/
def readQuotedValue (quote : UInt16) (escaped : Bool) : Text → Except Text (Text × Text)
  | [] => .error (text "unterminated quoted value")
  | c :: cs =>
    if c ≠ quote then
      if !escaped && c = unit '\\' then readQuotedValue quote true cs
      else
        (readQuotedValue quote false cs).map fun r =>
          ((if escaped then [unit '\\', c] else [c]) ++ r.1, r.2)
    else if escaped then
      (readQuotedValue quote false cs).map fun r => (c :: r.1, r.2)
    else .ok ([], cs)

/-- A line up to its comment. -/
def beforeComment : Text → Text
  | [] => []
  | c :: cs => if c = unit ' ' && cs.head? = some (unit '#') then [] else c :: beforeComment cs

/-- The assignments of the files read so far. -/
abbrev Values := AList fun _ : Text => Text

/-- The process environment, then the assignments already read. -/
def lookupIn (values : Values) : ComposeEnvLookup :=
  fun name => (processEnv name).or (values.lookup name)

/-- A name on its own takes the value it has, if any. -/
def inherit (values : Values) (name : Text) : Values :=
  match lookupIn processEnv values name with
  | some value => values.insert name value
  | none => values

/-- A value and what follows it. -/
def readValue (t : Text) : Except Text (Text × Text) :=
  match t with
  | c :: cs =>
    if c = unit '"' then do
      let (raw, next) ← readQuotedValue c false cs
      let value ← expandComposeEnvTemplate (expandComposeEnvEscapes raw) lookup
      return (value, next)
    else if c = unit '\'' then readQuotedValue c false cs
    else do
      let line := t.takeWhile fun c => c ≠ unit '\n'
      let value ← expandComposeEnvTemplate (trimEnd isUnicodeSpace (beforeComment line)) lookup
      return (value, (t.drop line.length).tail)
  | [] => .ok ([], [])

/-- Read the statements of a file, each longer than nothing. -/
def readStatements (tables : Nat → Bool) (processEnv : ComposeEnvLookup) :
    Nat → Values → Text → Except Text Values
  | 0, values, _ => .ok values
  | n + 1, values, content =>
    match skipToStatement false content with
    | [] => .ok values
    | c :: cs => do
      let statement := dropExport (c :: cs)
      match ← readKey tables statement with
      | none =>
        let key := trimEnd isUnicodeSpace statement
        if key = [] || unit ' ' ∈ key then .error nameWithSpace
        else return inherit processEnv values key
      | some k =>
        let key := trimEnd isUnicodeSpace k.name
        if unit ' ' ∈ key then .error nameWithSpace
        else if k.inherited then
          readStatements tables processEnv n (inherit processEnv values key) k.rest
        else do
          let (value, next) ← readValue (lookupIn processEnv values)
            (k.rest.dropWhile isEnvSpace)
          readStatements tables processEnv n (values.insert key value) next

/-- Read one file's assignments.  No file has more statements than units. -/
def parseEnvFileText (tables : Nat → Bool) (processEnv : ComposeEnvLookup) (values : Values)
    (content : Text) : Except Text Values :=
  readStatements tables processEnv (content.length + 1) values content

/-- The reader: the process environment, and what the files assigned. -/
structure ComposeEnvFiles where
  processEnv : ComposeEnvLookup
  values : Values

namespace ComposeEnvFiles

/-- A reader that has read nothing. -/
def new (processEnv : ComposeEnvLookup) : ComposeEnvFiles := ⟨processEnv, ∅⟩

def assigned (r : ComposeEnvFiles) (name : Text) : Option Text := r.values.lookup name

/-- Read a file.  A byte-order mark at its start is dropped. -/
def read (tables : Nat → Bool) (r : ComposeEnvFiles) (content : Text) :
    Except Text ComposeEnvFiles := do
  let content := if content.head? = some 0xfeff then content.tail else content
  let values ← parseEnvFileText tables r.processEnv r.values content
  return { r with values := values }

end ComposeEnvFiles

end Sencho.EnvFiles

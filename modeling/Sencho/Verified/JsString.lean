import Mathlib.Data.String.Basic

/-!
# Strings as a JavaScript host reads them

`trim`, `length`, the whitespace class and the string order of ECMAScript, for
programs that validate or sort their input with them.
-/

namespace Sencho.Verified.JsString

/-- The characters `trim` strips: white space and line terminators. -/
def isSpace (c : Char) : Bool :=
  let n := c.toNat
  (0x09 ≤ n && n ≤ 0x0d) || n == 0x20 || n == 0xa0 || n == 0x1680 ||
    (0x2000 ≤ n && n ≤ 0x200a) || n == 0x2028 || n == 0x2029 || n == 0x202f ||
    n == 0x205f || n == 0x3000 || n == 0xfeff

/-- `String.prototype.trim`. -/
def trim (s : String) : String :=
  String.ofList ((s.toList.dropWhile isSpace).reverse.dropWhile isSpace).reverse

/-- `String.prototype.length`: the number of UTF-16 code units. -/
def length (s : String) : Nat :=
  s.toList.foldr (fun c n => (if c.toNat < 0x10000 then 1 else 2) + n) 0

/-- The UTF-16 code units of a string. -/
def units (s : String) : List Nat :=
  s.toList.flatMap fun c =>
    let n := c.toNat
    if n < 0x10000 then [n]
    else [0xd800 + (n - 0x10000) / 0x400, 0xdc00 + (n - 0x10000) % 0x400]

/-- The lexicographic order of code units. -/
def unitsLe : List Nat → List Nat → Bool
  | [], _ => true
  | _ :: _, [] => false
  | a :: as, b :: bs => a < b || (a == b && unitsLe as bs)

/-- The order `Array.prototype.sort` gives strings. -/
def le (s t : String) : Bool := unitsLe (units s) (units t)

end Sencho.Verified.JsString

-- Reads JSON. The grammar is strict: no comments, no trailing commas, no
-- bare control characters, no numbers that a double cannot hold, no lone
-- surrogates, and at most 1024 containers inside one another. A function that
-- reads one thing gives the thing and the text after it.
import Unloop.Json.Value
import Unloop.Number.Decimal
import Unloop.Text.Hex
import Unloop.Text.Utf8

namespace Unloop.Json

open Unloop.Number Unloop.Text

/-- White space between the parts of a text. -/
def isGap (c : Char) : Bool := c == ' ' || c == '\t' || c == '\n' || c == '\r'

/-- The text after any white space. -/
def skipGap (cs : List Char) : List Char := cs.dropWhile isGap

/-! ## Numbers -/

/-- The whole numbers that are kept as such: those of 64 bits, signed or
not. -/
def inWordRange (n : Int) : Bool := -9223372036854775808 ≤ n && n < 18446744073709551616

/-- The number of a floating-point literal, unless it is too large. -/
def floatOf? (negative : Bool) (n : Nat) (e : Int) : Option Value :=
  match Double.ofDecimal negative n e with
  | .infinite _ => none
  | x => some (.float x)

/-- The digits at the front of a text, of which there is one at least. -/
def digits1? (cs : List Char) : Option (List Char × List Char) :=
  match cs.takeWhile isDigit with
  | [] => none
  | ds => some (ds, cs.dropWhile isDigit)

/-- The whole part of a number: a zero, or digits that start with none. -/
def wholePart? : List Char → Option (List Char × List Char)
  | '0' :: rest => some (['0'], rest)
  | cs => digits1? cs

/-- The digits after the point, if there is a point. -/
def fraction? : List Char → Option (Option (List Char) × List Char)
  | '.' :: rest => (digits1? rest).map fun (ds, rest) => (some ds, rest)
  | cs => some (none, cs)

/-- The exponent, if there is one. -/
def exponent? : List Char → Option (Option Int × List Char)
  | c :: rest =>
    if c = 'e' ∨ c = 'E' then
      match rest with
      | '-' :: rest => (digits1? rest).map fun (ds, rest) => (some (-(ofDigits ds : Int)), rest)
      | '+' :: rest => (digits1? rest).map fun (ds, rest) => (some (ofDigits ds : Int), rest)
      | rest => (digits1? rest).map fun (ds, rest) => (some (ofDigits ds : Int), rest)
    else some (none, c :: rest)
  | [] => some (none, [])

/-- The value of a number's parts. Without a point and an exponent it is a
whole number as far as the range goes. -/
def numberOf? (negative : Bool) (whole : List Char) (fraction : Option (List Char))
    (exponent : Option Int) : Option Value :=
  match fraction, exponent with
  | none, none =>
    let n : Int := if negative then -(ofDigits whole : Int) else ofDigits whole
    if inWordRange n then some (.int n) else floatOf? negative (ofDigits whole) 0
  | _, _ =>
    let places := fraction.getD []
    floatOf? negative (ofDigits (whole ++ places)) (exponent.getD 0 - places.length)

/-- A number after its sign. -/
def unsigned? (negative : Bool) (cs : List Char) : Option (Value × List Char) := do
  let (whole, cs) ← wholePart? cs
  let (fraction, cs) ← fraction? cs
  let (exponent, cs) ← exponent? cs
  let v ← numberOf? negative whole fraction exponent
  return (v, cs)

/-- A number. -/
def number? : List Char → Option (Value × List Char)
  | '-' :: rest => unsigned? true rest
  | cs => unsigned? false cs

/-! ## Strings -/

/-- The code unit that four hexadecimal digits spell. -/
def unit? : List Char → Option (Nat × List Char)
  | a :: b :: c :: d :: rest => do
    let a ← hexValue? a
    let b ← hexValue? b
    let c ← hexValue? c
    let d ← hexValue? d
    return (4096 * a + 256 * b + 16 * c + d, rest)
  | _ => none

/-- The character after `\u`: one unit, or two that are a pair of
surrogates. -/
def unicode? (cs : List Char) : Option (Char × List Char) := do
  let (high, rest) ← unit? cs
  if 0xD800 ≤ high ∧ high < 0xDC00 then
    match rest with
    | '\\' :: 'u' :: rest =>
      let (low, rest) ← unit? rest
      if 0xDC00 ≤ low ∧ low < 0xE000 then
        let c ← charAbove? 0x10000 (0x10000 + 1024 * (high - 0xD800) + (low - 0xDC00))
        return (c, rest)
      else none
    | _ => none
  else
    let c ← charAbove? 0 high
    return (c, rest)

/-- The character after a backslash. -/
def escape? : List Char → Option (Char × List Char)
  | '"' :: rest => some ('"', rest)
  | '\\' :: rest => some ('\\', rest)
  | '/' :: rest => some ('/', rest)
  | 'b' :: rest => some ('\x08', rest)
  | 'f' :: rest => some ('\x0c', rest)
  | 'n' :: rest => some ('\n', rest)
  | 'r' :: rest => some ('\r', rest)
  | 't' :: rest => some ('\t', rest)
  | 'u' :: rest => unicode? rest
  | _ => none

/-- The rest of a string, up to and with the closing quote. Each step takes
one character at least, so `fuel` need not be more than the length. -/
def stringBody? : (fuel : Nat) → List Char → Option (List Char × List Char)
  | 0, _ => none
  | fuel + 1, cs =>
    match cs with
    | [] => none
    | '"' :: rest => some ([], rest)
    | '\\' :: rest => do
      let (c, rest) ← escape? rest
      let (more, rest) ← stringBody? fuel rest
      return (c :: more, rest)
    | c :: rest =>
      if c.toNat < 0x20 then none
      else do
        let (more, rest) ← stringBody? fuel rest
        return (c :: more, rest)

/-- A string after its opening quote. -/
def string? (cs : List Char) : Option (String × List Char) :=
  (stringBody? (cs.length + 1) cs).map fun (body, rest) => (String.ofList body, rest)

/-! ## Containers -/

/-- The items of an array after the opening bracket or a comma, read with
`value?`. -/
def items? (value? : List Char → Option (Value × List Char)) : (fuel : Nat) → List Char → Option (List Value × List Char)
  | 0, _ => none
  | fuel + 1, cs => do
    let (v, rest) ← value? (skipGap cs)
    match skipGap rest with
    | ',' :: rest => do
      let (more, rest) ← items? value? fuel rest
      return (v :: more, rest)
    | ']' :: rest => return ([v], rest)
    | _ => none

/-- One member of an object: its name, a colon and its value. -/
def member? (value? : List Char → Option (Value × List Char)) (cs : List Char) : Option ((String × Value) × List Char) :=
  match skipGap cs with
  | '"' :: rest => do
    let (name, rest) ← string? rest
    match skipGap rest with
    | ':' :: rest => do
      let (v, rest) ← value? (skipGap rest)
      return ((name, v), rest)
    | _ => none
  | _ => none

/-- The members of an object after the opening brace or a comma, put after
those that came before: of two with one name the later counts. -/
def members? (value? : List Char → Option (Value × List Char)) :
    (fuel : Nat) → Members → List Char → Option (Members × List Char)
  | 0, _, _ => none
  | fuel + 1, before, cs => do
    let ((name, v), rest) ← member? value? cs
    let now := Members.put name v before
    match skipGap rest with
    | ',' :: rest => members? value? fuel now rest
    | '\x7d' :: rest => return (now, rest)
    | _ => none

/-- The values that hold no other: words, strings and numbers. -/
def scalar? : List Char → Option (Value × List Char)
  | 'n' :: 'u' :: 'l' :: 'l' :: rest => some (.null, rest)
  | 't' :: 'r' :: 'u' :: 'e' :: rest => some (.bool true, rest)
  | 'f' :: 'a' :: 'l' :: 's' :: 'e' :: rest => some (.bool false, rest)
  | '"' :: rest => (string? rest).map fun (s, rest) => (.str s, rest)
  | cs => number? cs

/-- A value with at most `depth` containers inside one another. -/
def value? : (depth : Nat) → List Char → Option (Value × List Char)
  | 0, cs => scalar? cs
  | depth + 1, cs =>
    match cs with
    | '[' :: rest =>
      match skipGap rest with
      | ']' :: rest => some (.arr [], rest)
      | rest => (items? (value? depth) (rest.length + 1) rest).map fun (vs, rest) => (.arr vs, rest)
    | '\x7b' :: rest =>
      match skipGap rest with
      | '\x7d' :: rest => some (.obj [], rest)
      | rest =>
        (members? (value? depth) (rest.length + 1) [] rest).map fun (ms, rest) => (.obj ms, rest)
    | cs => scalar? cs

/-- The most containers that may be inside one another. -/
def depthLimit : Nat := 1024

/-- The value of a text that is one value, with white space around it. -/
def ofChars? (cs : List Char) : Option Value := do
  let (v, rest) ← value? depthLimit (skipGap cs)
  match skipGap rest with
  | [] => some v
  | _ => none

/-- The value of bytes that are UTF-8 and one value. -/
def ofBytes? (bytes : Bytes) : Option Value := (decode? bytes).bind ofChars?

/-- The value of a string that is one value. -/
def ofString? (s : String) : Option Value := ofChars? s.toList

end Unloop.Json

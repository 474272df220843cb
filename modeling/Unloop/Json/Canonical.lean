-- The one text of a JSON value: no white space, members sorted by name, and
-- as few escapes as the grammar allows. Values that have such a text are
-- those whose whole numbers have 64 bits and whose containers are not too
-- deep.
import Unloop.Json.Reader
import Unloop.Number.Shortest

namespace Unloop.Json

open Unloop.Number Unloop.Text

/-! ## Numbers -/

/-- How floating-point numbers are laid out. -/
structure FloatLayout where
  /-- The least exponent that is written without an exponent. -/
  leastPlain : Int
  /-- The exponent from which on one is written. -/
  plainEnd : Int
  /-- The sign of an exponent that is not negative. -/
  plus : List Char

/-- From the fifth place after the point to the sixteenth before it, a number
is written without an exponent, and an exponent always has a sign. -/
def floatLayout : FloatLayout := ⟨-5, 16, ['+']⟩

/-- The digits of a number between which the point comes at `point` places
from the left, with zeros where digits lack. -/
def pointedDigits (ds : List Char) (point : Int) : List Char :=
  if point ≤ 0 then '0' :: '.' :: List.replicate (-point).toNat '0' ++ ds
  else
    let n := point.toNat
    if ds.length ≤ n then ds ++ List.replicate (n - ds.length) '0' ++ ['.', '0']
    else ds.take n ++ '.' :: ds.drop n

/-- The first digit, the others after a point, and the exponent. -/
def withExponent (layout : FloatLayout) (ds : List Char) (e : Int) : List Char :=
  let mantissa :=
    match ds with
    | [] => []
    | [d] => [d]
    | d :: more => d :: '.' :: more
  mantissa ++ 'e' :: (if e < 0 then plain e else layout.plus ++ plain e)

/-- The text of a finite number. -/
def finiteText (layout : FloatLayout) (x : Finite) : List Char :=
  let d := x.shortest
  let ds := digits d.digits
  let e : Int := d.exponent + ds.length - 1
  let body :=
    if d.digits = 0 then ['0', '.', '0']
    else if layout.leastPlain ≤ e ∧ e < layout.plainEnd then pointedDigits ds (e + 1)
    else withExponent layout ds e
  if x.negative then '-' :: body else body

/-- The text of a number; what is not finite has none of its own. -/
def floatText : Double → List Char
  | .finite x => finiteText floatLayout x
  | _ => "null".toList

/-! ## Strings -/

/-- A character inside a string. -/
def escaped (c : Char) : List Char :=
  if c = '"' then ['\\', '"']
  else if c = '\\' then ['\\', '\\']
  else if c = '\n' then ['\\', 'n']
  else if c = '\r' then ['\\', 'r']
  else if c = '\t' then ['\\', 't']
  else if c = '\x08' then ['\\', 'b']
  else if c = '\x0c' then ['\\', 'f']
  else if c.toNat < 0x20 then '\\' :: 'u' :: hex 4 c.toNat
  else [c]

/-- A string between quotes. -/
def stringText (s : String) : List Char := '"' :: s.toList.flatMap escaped ++ ['"']

/-! ## Values -/

/-- Texts with a comma between them. -/
def withCommas : List (List Char) → List Char
  | [] => []
  | [t] => t
  | t :: more => t ++ ',' :: withCommas more

/-- Members sorted by name, by the code points of the names. -/
def sortedByName {α : Type} (ms : List (String × α)) : List (String × α) :=
  ms.mergeSort fun a b => decide (a.1 ≤ b.1)

/-- A member that is written already. -/
def memberText (m : String × List Char) : List Char := stringText m.1 ++ ':' :: m.2

mutual

/-- The text of a value. -/
def Value.text : Value → List Char
  | .null => "null".toList
  | .bool true => "true".toList
  | .bool false => "false".toList
  | .int n => plain n
  | .float x => floatText x
  | .str s => stringText s
  | .arr items => '[' :: withCommas (itemTexts items) ++ [']']
  | .obj ms => '\x7b' :: withCommas ((sortedByName (memberTexts ms)).map memberText) ++ ['\x7d']

/-- The texts of some values. -/
def itemTexts : List Value → List (List Char)
  | [] => []
  | v :: vs => v.text :: itemTexts vs

/-- The texts of the values of some members, beside their names. -/
def memberTexts : List (String × Value) → List (String × List Char)
  | [] => []
  | (name, v) :: ms => (name, v.text) :: memberTexts ms

end

/-! ## Which values have a text -/

mutual

/-- How many containers of a value are inside one another at most. -/
def Value.depth : Value → Nat
  | .arr items => itemsDepth items + 1
  | .obj ms => membersDepth ms + 1
  | _ => 0

/-- The greatest depth of some values. -/
def itemsDepth : List Value → Nat
  | [] => 0
  | v :: vs => max v.depth (itemsDepth vs)

/-- The greatest depth of the values of some members. -/
def membersDepth : List (String × Value) → Nat
  | [] => 0
  | (_, v) :: ms => max v.depth (membersDepth ms)

end

mutual

/-- Every whole number in the value has 64 bits. -/
def Value.wordsOnly : Value → Bool
  | .int n => inWordRange n
  | .arr items => itemsWordsOnly items
  | .obj ms => membersWordsOnly ms
  | _ => true

/-- The same for some values. -/
def itemsWordsOnly : List Value → Bool
  | [] => true
  | v :: vs => v.wordsOnly && itemsWordsOnly vs

/-- The same for the values of some members. -/
def membersWordsOnly : List (String × Value) → Bool
  | [] => true
  | (_, v) :: ms => v.wordsOnly && membersWordsOnly ms

end

/-- The most containers that may be inside one another in a text that is
written. -/
def writtenDepth : Nat := 254

/-- The value can be written. -/
def Value.isWritable (v : Value) : Bool := v.wordsOnly && decide (v.depth ≤ writtenDepth)

/-- The canonical text of a value that can be written. -/
def Value.canonical? (v : Value) : Option (List Char) :=
  if v.isWritable then some v.text else none

end Unloop.Json

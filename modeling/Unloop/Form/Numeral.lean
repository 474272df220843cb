-- Numbers and truth values written as text in a field of a form. Such texts
-- are read more freely than JSON: blanks around them, a plus, needless zeros
-- and underscores between digits do not matter. What is cleaned away is cleaned
-- in one order, and what is left must be a number in plain form.
import Unloop.Number.Decimal
import Unloop.Number.Double
import Unloop.Text.Blank

namespace Unloop.Form

open Number Text

/-! ## Whole numbers -/

/-- What a text turns out to be when a whole number is wanted. -/
inductive Numeral where
  | value (n : Int)
  | unreadable
  | tooLong
  deriving DecidableEq

/-- A sign at the front, and the rest. -/
def splitSign : List Char → Bool × List Char
  | '-' :: rest => (true, rest)
  | '+' :: rest => (false, rest)
  | cs => (false, cs)

/-- What is left of a number after zeros and underscores, of which `before`
was the last: the rest from its first other digit or from a minus, or the last
zero if there is none. -/
def afterZeros (before : Char) : List Char → Option (List Char)
  | [] => some [before]
  | c :: rest =>
    if c = '0' ∨ c = '_' then afterZeros c rest
    else if isDigit c ∨ c = '-' then some (c :: rest)
    else if c = '.' then some (before :: c :: rest)
    else none

/-- The number without needless zeros at its front. After a minus all zeros
stay. -/
def withoutLeadingZeros : List Char → Option (List Char)
  | [] => none
  | c :: rest =>
    if c = '0' then afterZeros c rest
    else if isDigit c ∨ c = '-' then some (c :: rest)
    else none

/-- The number without a plus at its front, which no minus may follow. -/
def withoutPlus : List Char → Option (List Char)
  | '+' :: '-' :: _ => none
  | '+' :: rest => some rest
  | cs => some cs

/-- The number without a point that only zeros follow. -/
def withoutZeroPlaces (cs : List Char) : List Char :=
  let places := (cs.dropWhile (· != '.')).drop 1
  if !places.isEmpty && places.all (· == '0') then cs.takeWhile (· != '.') else cs

/-- Two underscores side by side. -/
def hasDoubleUnderscore : List Char → Bool
  | a :: b :: rest => (a == '_' && b == '_') || hasDoubleUnderscore (b :: rest)
  | _ => false

/-- The number without its underscores, if each of them stands alone
between two others. -/
def withoutUnderscores? (cs : List Char) : Option (List Char) :=
  if cs.head? == some '_' || cs.getLast? == some '_' || hasDoubleUnderscore cs then none
  else some (cs.filter (· != '_'))

/-- The plain form of a number that is written more freely. -/
def plainForm (cs : List Char) : Option (List Char) := do
  let cs ← withoutPlus (trim cs)
  let cs ← withoutLeadingZeros cs
  withoutUnderscores? (withoutZeroPlaces cs)

/-- Reads a number in plain form: perhaps a minus, and then zero alone or
digits of which the first is none. Too many digits are told even where
something else follows them. -/
def Numeral.ofPlain (cs : List Char) : Numeral :=
  let (negative, cs) :=
    match cs with
    | '-' :: rest => (true, rest)
    | cs => (false, cs)
  match cs with
  | [] => .unreadable
  | ['0'] => .value 0
  | '0' :: _ => .unreadable
  | cs =>
    if digitLimit < (cs.takeWhile isDigit).length then .tooLong
    else if !cs.all isDigit then .unreadable
    else .value (if negative then -(ofDigits cs : Int) else ofDigits cs)

/-- Reads a whole number, in plain form or more freely written. Of the latter
too many digits are not told. -/
def Numeral.ofChars (cs : List Char) : Numeral :=
  match ofPlain cs with
  | .unreadable =>
    match (plainForm cs).map ofPlain with
    | some (.value n) => .value n
    | _ => .unreadable
  | read => read

/-! ## Floating-point numbers -/

/-- The text in small letters, as far as they are plain. -/
def small (cs : List Char) : List Char := cs.map Char.toLower

/-- The exponent at the end of a number. -/
def exponentOf? : List Char → Option Int
  | [] => some 0
  | c :: rest =>
    if c = 'e' ∨ c = 'E' then
      let (negative, ds) := splitSign rest
      if ds.isEmpty || !ds.all isDigit then none
      else some (if negative then -(ofDigits ds : Int) else ofDigits ds)
    else none

/-- Reads a number without a sign: digits, perhaps a point, more digits, and
perhaps an exponent. -/
def unsignedDouble? (negative : Bool) (cs : List Char) : Option Double :=
  let whole := cs.takeWhile isDigit
  let rest := cs.dropWhile isDigit
  let (places, rest) :=
    match rest with
    | '.' :: rest => (rest.takeWhile isDigit, rest.dropWhile isDigit)
    | rest => ([], rest)
  if whole.isEmpty && places.isEmpty then none
  else
    (exponentOf? rest).map fun e =>
      Double.ofDecimal negative (ofDigits (whole ++ places)) (e - places.length)

/-- Reads a number with a sign or without, or the name of one that is not
finite. -/
def signedDouble? (cs : List Char) : Option Double :=
  let (negative, cs) := splitSign cs
  let word := small cs
  if word == "inf".toList || word == "infinity".toList then some (.infinite negative)
  else if word == "nan".toList then some .nan
  else unsignedDouble? negative cs

/-- Reads a floating-point number, with white space around it, or else with
underscores in it. -/
def double? (cs : List Char) : Option Double :=
  (signedDouble? (trim cs)).or ((withoutUnderscores? cs).bind signedDouble?)

/-! ## Truth values -/

/-- The words for true, in small letters. -/
def trueWords : List String := ["1", "true", "t", "yes", "y", "on"]

/-- The words for false, in small letters. -/
def falseWords : List String := ["0", "false", "f", "no", "n", "off"]

/-- Reads a truth value. -/
def truth? (s : String) : Option Bool :=
  let word := String.ofList (small s.toList)
  if trueWords.contains word then some true
  else if falseWords.contains word then some false
  else none

end Unloop.Form

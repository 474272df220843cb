-- A text between quotes on one line: the form in which messages show the
-- lines and the names they speak of.
import Unloop.Text.Hex
import Unloop.Text.Printable

namespace Unloop.Text

/-- The quote to use: the single one, unless the text holds it and holds no
double one. -/
def quoteFor (cs : List Char) : Char :=
  if cs.contains '\'' && !cs.contains '"' then '"' else '\''

/-- A character between quotes `q`. The quote and the backslash take a
backslash, line feed, carriage return and tab have letters, and what cannot be
shown is spelled by its code point in the shortest of three widths. -/
def quotedChar (q c : Char) : List Char :=
  if c == q || c == '\\' then ['\\', c]
  else if c == '\n' then ['\\', 'n']
  else if c == '\r' then ['\\', 'r']
  else if c == '\t' then ['\\', 't']
  else if isPrintable c then [c]
  else if c.toNat ≤ 0xFF then '\\' :: 'x' :: hex 2 c.toNat
  else if c.toNat ≤ 0xFFFF then '\\' :: 'u' :: hex 4 c.toNat
  else '\\' :: 'U' :: hex 8 c.toNat

/-- The text between quotes. -/
def quoted (s : String) : String :=
  let cs := s.toList
  let q := quoteFor cs
  String.ofList (q :: cs.flatMap (quotedChar q) ++ [q])

end Unloop.Text

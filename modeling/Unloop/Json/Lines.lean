-- JSON lines: one value to a line, and nothing else in the file but empty
-- lines.
import Unloop.Fault
import Unloop.Json.Canonical
import Unloop.Text.Lines

namespace Unloop.Json

open Unloop.Text

/-- The lines of a file that are not empty, without their endings. -/
def filledLines (content : Bytes) : List Bytes :=
  ((Breaks.bytes.split content).map Line.body).filter fun line => !line.isEmpty

/-- The value of a line. -/
def ofLine (line : Bytes) : Except Fault Value := orFault .notJson (ofBytes? line)

/-- The values of a file, one of each line that is not empty. -/
def ofLines (content : Bytes) : Except Fault (List Value) := (filledLines content).mapM ofLine

/-- A value as a line with its line feed. -/
def Value.toLine (v : Value) : Except Fault Bytes :=
  (orFault .unwritable v.canonical?).map fun cs => encode cs ++ [10]

/-- A file of some values, one to a line. -/
def toLines (vs : List Value) : Except Fault Bytes := (vs.mapM Value.toLine).map List.flatten

/-! ## Laws -/

/-- A value with a text is written as this text and a line feed. -/
theorem Value.toLine_of_text {v : Value} {cs : List Char} (h : v.canonical? = some cs) :
    v.toLine = .ok (encode cs ++ [10]) := by
  rw [Value.toLine, h]
  rfl

/-- A value without a text gives no bytes. -/
theorem Value.toLine_of_no_text {v : Value} (h : v.canonical? = none) :
    v.toLine = .error .unwritable := by
  rw [Value.toLine, h]
  rfl

end Unloop.Json

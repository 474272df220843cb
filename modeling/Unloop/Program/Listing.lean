-- Reads programs: from lines, from a text, and from the bytes of a file. The
-- first line that is refused decides.
import Unloop.Instruction.Line
import Unloop.Program
import Unloop.Text.Lines
import Unloop.Text.Utf8

namespace Unloop

open Text

/-- Reads lines in their order, each with its number, until one is refused. -/
def readLines {α : Type} (readLine : Int → α → Except Fault Instruction) :
    Int → List α → Except Fault (List Instruction)
  | _, [] => .ok []
  | number, line :: more => do
    let i ← readLine number line
    let is ← readLines readLine (number + 1) more
    return i :: is

/-- Reads a line of a file. Bytes that are not UTF-8 make the line malformed
and are shown in the refusal. -/
def Instruction.ofBytes (number : Int) (line : Bytes) : Except Fault Instruction :=
  match decode? line with
  | some cs => Instruction.ofLine number (String.ofList cs)
  | none => .error (refuseLine .malformed number (withoutEnding (decodeShown line)) "invalid utf-8")

namespace Program

/-- The program of some lines, numbered from zero. -/
def ofLines (lines : List String) : Except Fault Program := do
  ofList (← readLines Instruction.ofLine 0 lines)

/-- The program of a text. -/
def ofText (text : String) : Except Fault Program :=
  ofLines ((Breaks.chars.split text.toList).map fun l => String.ofList l.body)

/-- The program of the content of a file. -/
def ofBytes (content : Bytes) : Except Fault Program := do
  ofList (← readLines Instruction.ofBytes 0 ((Breaks.bytes.split content).map Line.whole))

end Program

end Unloop

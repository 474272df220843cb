-- Reads one line of a program: a word, blanks, a sign and digits. A line of
-- another form is refused, and the refusal says whether only the offset is
-- wrong.
import Unloop.Instruction
import Unloop.Text.Blank

namespace Unloop

open Number Text

/-- The line without its ending, a line feed with or without a carriage return
before it. -/
def withoutEnding (cs : List Char) : List Char :=
  match cs.reverse with
  | '\n' :: '\r' :: rest => rest.reverse
  | '\n' :: rest => rest.reverse
  | _ => cs

/-- The operation whose word starts the line, and what follows the word. -/
def Op.atFront? (line : List Char) : Option (Op × List Char) :=
  match line with
  | 'n' :: 'o' :: 'p' :: rest => some (.nop, rest)
  | 'a' :: 'c' :: 'c' :: rest => some (.acc, rest)
  | 'j' :: 'm' :: 'p' :: rest => some (.jmp, rest)
  | _ => none

/-- What a line turns out to be. -/
inductive Reading where
  | instruction (i : Instruction)
  | longOffset (digits : Nat)
  | badOffset
  | malformed
  deriving DecidableEq

/-- The offset that a sign and some digits spell. -/
def offsetOf (sign : Char) (ds : List Char) : Int :=
  if sign = '-' then -(ofDigits ds : Int) else ofDigits ds

/-- The text is a sign and at least one digit. -/
def isOffset (sign : Char) (ds : List Char) : Bool :=
  (sign == '+' || sign == '-') && !ds.isEmpty && ds.all isDigit

/-- Reads what follows the word and the blanks. -/
def Reading.ofOffset (op : Op) : List Char → Reading
  | [] => .malformed
  | sign :: ds =>
    if (sign :: ds).any isBlank then .malformed
    else if isOffset sign ds then
      if ds.length ≤ digitLimit then .instruction ⟨op, offsetOf sign ds⟩ else .longOffset ds.length
    else .badOffset

/-- Reads a line that has no ending. -/
def Reading.ofLine (line : List Char) : Reading :=
  match Op.atFront? line with
  | none => .malformed
  | some (op, rest) =>
    match rest with
    | [] => .malformed
    | c :: more => if isBlank c then .ofOffset op (more.dropWhile isBlank) else .malformed

/-- The refusal of a line. -/
def refuseLine (fault : LineFault) (number : Int) (line : List Char) (reason : String) : Fault :=
  .of (.line fault number (String.ofList line) reason)

/-- The instruction of a line, whose number a refusal tells. -/
def Instruction.ofLine (number : Int) (text : String) : Except Fault Instruction :=
  let line := withoutEnding text.toList
  match Reading.ofLine line with
  | .instruction i => .ok i
  | .longOffset n => .error (.longNumber (some n))
  | .badOffset => .error (refuseLine .badOffset number line "invalid offset")
  | .malformed => .error (refuseLine .malformed number line "malformed instruction")

end Unloop

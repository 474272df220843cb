-- Where a text or the content of a file breaks into lines. The two kinds of
-- text differ in what breaks a line, and agree that a carriage return and
-- the line feed after it are one break.

namespace Unloop.Text

/-- A line, and what ends it: nothing at most at the end of the text. -/
structure Line (α : Type) where
  body : List α
  ending : List α
  deriving DecidableEq

/-- The line with its ending. -/
def Line.whole {α : Type} (l : Line α) : List α := l.body ++ l.ending

/-- What breaks lines: the two halves of the double break, and every single
element that is a break, these two included. -/
structure Breaks (α : Type) where
  isReturn : α → Bool
  isFeed : α → Bool
  isBreak : α → Bool

/-- Bytes break at a line feed, a carriage return, or both in this order. -/
def Breaks.bytes : Breaks UInt8 where
  isReturn b := b == 13
  isFeed b := b == 10
  isBreak b := b == 13 || b == 10

/-- Characters break at these and at the other line and paragraph breaks of
Unicode. -/
def Breaks.chars : Breaks Char where
  isReturn c := c == '\r'
  isFeed c := c == '\n'
  isBreak c :=
    let n := c.toNat
    (0x0A ≤ n && n ≤ 0x0D) || (0x1C ≤ n && n ≤ 0x1E) || n == 0x85 || n == 0x2028 || n == 0x2029

variable {α : Type}

/-- Puts one element before the lines of the text that follows it. -/
def Breaks.push (br : Breaks α) (x : α) (lines : List (Line α)) : List (Line α) :=
  if br.isBreak x then
    match lines with
    | ⟨[], [y]⟩ :: more =>
      if br.isReturn x && br.isFeed y then ⟨[], [x, y]⟩ :: more else ⟨[], [x]⟩ :: lines
    | _ => ⟨[], [x]⟩ :: lines
  else
    match lines with
    | [] => [⟨[x], []⟩]
    | l :: more => ⟨x :: l.body, l.ending⟩ :: more

/-- The lines of a text. -/
def Breaks.split (br : Breaks α) (text : List α) : List (Line α) := text.foldr br.push []

/-- Putting an element before some lines adds it to the text they make. -/
theorem Breaks.flatMap_whole_push (br : Breaks α) (x : α) (lines : List (Line α)) :
    (br.push x lines).flatMap Line.whole = x :: lines.flatMap Line.whole := by
  unfold Breaks.push
  split
  · split
    · split <;> simp [Line.whole]
    · simp [Line.whole]
  · split <;> simp [Line.whole]

/-- The lines with their endings make up the text: none is lost. -/
theorem Breaks.flatMap_whole_split (br : Breaks α) (text : List α) :
    (br.split text).flatMap Line.whole = text := by
  induction text with
  | nil => rfl
  | cons x rest ih =>
    show (br.push x (br.split rest)).flatMap Line.whole = x :: rest
    rw [br.flatMap_whole_push, ih]

end Unloop.Text

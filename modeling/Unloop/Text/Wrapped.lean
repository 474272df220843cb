-- Breaks a text into lines of a given width in cells. Words move to the next
-- line as a whole if they can, and a word that is wider than a line is cut.
import Unloop.Text.Blank
import Unloop.Text.Cells

namespace Unloop.Text

/-! ## Words -/

/-- The first word of a text with the blanks around it, and the rest. A text
of blanks has no word. -/
def firstWord (cs : List Char) : List Char × List Char :=
  let before := cs.takeWhile isBlank
  let rest := cs.dropWhile isBlank
  let word := rest.takeWhile fun c => !isBlank c
  let rest := rest.dropWhile fun c => !isBlank c
  if word.isEmpty then ([], []) else (before ++ word ++ rest.takeWhile isBlank, rest.dropWhile isBlank)

/-- The words of a text, each with the blanks after it. A text has no more
words than characters, which is what `fuel` need not exceed. -/
def wordsFrom : (fuel : Nat) → List Char → List (List Char)
  | 0, _ => []
  | fuel + 1, cs =>
    let (word, rest) := firstWord cs
    if word.isEmpty then [] else word :: wordsFrom fuel rest

/-- The words of a text, each with the blanks after it; the first one has
those before it too. -/
def words (cs : List Char) : List (List Char) := wordsFrom cs.length cs

/-! ## Lines -/

/-- The lines that are finished, the one that is being filled, and how many
cells of it are used. -/
structure Wrapping where
  finished : List (List Char) := []
  current : List Char := []
  used : Nat := 0
  deriving DecidableEq

/-- Ends the current line, unless nothing is on it yet. -/
def Wrapping.break (w : Wrapping) : Wrapping :=
  if w.current.isEmpty then w else ⟨w.finished ++ [w.current], [], 0⟩

/-- Puts text on the current line. -/
def Wrapping.put (w : Wrapping) (cs : List Char) : Wrapping :=
  ⟨w.finished, w.current ++ cs, w.used + cellLength cs⟩

/-- Puts a word on the current line if it fits without the blanks after it.
Else a new line begins, and what is too wide for any line is cut. -/
def Wrapping.add (width : Nat) (w : Wrapping) (word : List Char) : Wrapping :=
  let bare := cellLength (dropTrailingBlanks word)
  if bare + w.used ≤ width then w.put word
  else if width < bare then
    let lines := cutCells width word
    Wrapping.put ⟨w.break.finished ++ lines.dropLast, [], 0⟩ (lines.getLast?.getD [])
  else w.break.put word

/-- The line without the blanks at its end that are too many, counted by
characters, and without what is beyond the width. -/
def withoutExcess (width : Nat) (line : List Char) : List Char :=
  let blanks := line.length - (dropTrailingBlanks line).length
  fitCells width (line.take (line.length - min blanks (line.length - width)))

/-- A text in lines of a width. -/
def wrapped (width : Nat) (cs : List Char) : List (List Char) :=
  let w := (words cs).foldl (Wrapping.add width) {}
  let lines := if w.finished.isEmpty && w.current.isEmpty then [cs] else w.finished ++ [w.current]
  lines.map (withoutExcess width)

/-! ## Laws -/

/-- A word that fits stays on its line. -/
theorem Wrapping.add_of_fits {width : Nat} {w : Wrapping} {word : List Char}
    (h : cellLength (dropTrailingBlanks word) + w.used ≤ width) : w.add width word = w.put word := by
  simp [Wrapping.add, h]

end Unloop.Text

-- What a command works with: files, clocks, a journal, and the lines that it
-- prints. A command ends by itself, with an exit code, with a fault that it
-- does not report, or because its arguments are wrong.
import Unloop.Command.Usage
import Unloop.Files
import Unloop.Journal
import Unloop.Log
import Unloop.Program.Listing
import Unloop.Settings.Sources
import Unloop.Text.Markup
import Unloop.Text.Quoted
import Unloop.Text.Table
import Unloop.Text.Wrapped

namespace Unloop.Command

open Json Text

/-! ## The state of a command -/

/-- The readings of two clocks, and how many of each were taken. -/
structure Clock where
  /-- The times that entries of a journal get. -/
  times : Nat → Int
  /-- The readings of the stopwatch, in nanoseconds. -/
  stopwatch : Nat → Int
  stamped : Nat := 0
  laps : Nat := 0

/-- A journal and the path of its file. -/
structure Book where
  path : String
  journal : Journal

/-- What a command works with. -/
structure Shell where
  files : Files
  environment : Environment
  clock : Clock
  level : Level := .warning
  book : Option Book := none
  out : List String := []
  err : List String := []
  log : List Event := []

/-- The state before another command: the files and the clocks stay. -/
def Shell.fresh (s : Shell) : Shell :=
  { files := s.files, environment := s.environment, clock := s.clock }

/-- A step of a command. -/
abbrev Session := EStateM Halt Shell

/-! ## Faults -/

/-- Stops with a fault, if there is one. -/
def orCrash {α : Type} : Except Fault α → Session α
  | .ok a => pure a
  | .error fault => throw (.crash fault)

/-- Stops where reading the arguments did. -/
def orHalt {α : Type} : Except Halt α → Session α
  | .ok a => pure a
  | .error h => throw h

/-- Stops because a value is no good, and tells why. -/
def orBadValue {α : Type} : Except Fault α → Session α
  | .ok a => pure a
  | .error fault => throw (.usage (.badValue none (fault.valueMessage?.getD "")))

/-! ## Clocks -/

/-- The time of the next entry. -/
def stamp : Session Int := do
  let s ← get
  set { s with clock := { s.clock with stamped := s.clock.stamped + 1 } }
  return s.clock.times s.clock.stamped

/-- The next reading of the stopwatch. -/
def lap : Session Int := do
  let s ← get
  set { s with clock := { s.clock with laps := s.clock.laps + 1 } }
  return s.clock.stopwatch s.clock.laps

/-! ## Output -/

/-- The width of a line. -/
def lineWidth : Nat := 80

/-- The lines of a text of any width. -/
def linesOf (text : String) : List String := (wrapped lineWidth text.toList).map String.ofList

/-- Prints some lines as they are. -/
def printLines (lines : List String) : Session Unit :=
  modify fun s => { s with out := s.out ++ lines }

/-- Prints a text, in several lines if it is wide. -/
def print (text : String) : Session Unit := printLines (linesOf text)

/-- Prints a table. -/
def printTable (t : Table) : Session Unit := printLines (t.lines.map String.ofList)

/-- Prints the canonical text of a value in one line. -/
def printValue (v : Value) : Session Unit := do
  printLines [String.ofList (← orCrash (orFault .unwritable v.canonical?))]

/-- Some names and what belongs to them, in braces: on one line if they fit,
else each on a line of its own. -/
def braced (members : List (String × String)) : List String :=
  let texts := members.map fun m => quoted m.1 ++ ": " ++ m.2
  let whole := "\x7b" ++ ", ".intercalate texts ++ "\x7d"
  if cellLength whole.toList ≤ lineWidth then [whole]
  else
    ["\x7b"] ++ (texts.dropLast.map fun t => "    " ++ t ++ ",") ++
      (texts.getLast?.toList.map fun t => "    " ++ t) ++ ["\x7d"]

/-- Prints some names and what belongs to them. -/
def printBraced (members : List (String × String)) : Session Unit :=
  printLines ((braced members).flatMap linesOf)

/-- A truth value as it is printed. -/
def truthText (b : Bool) : String := if b then "True" else "False"

/-- Prints a failure where errors go. Its message is read as markup. -/
def printFailure (f : Failure) : Session Unit :=
  let seen := String.ofList (Markup.seen (' ' :: f.message.toList))
  modify fun s => { s with err := s.err ++ linesOf (f.atom ++ seen) }

/-- Logs the events that the level lets through. -/
def logAll (es : List Event) : Session Unit :=
  modify fun s => { s with log := s.log ++ s.level.filter es }

/-! ## Files and the journal -/

/-- The content of a file. -/
def readFile (path : String) : Session Bytes := do orCrash ((← get).files.read path)

/-- Reads a program. -/
def readProgram (path : String) : Session Program := do
  orCrash (Program.ofBytes (← readFile path))

/-- Opens the journal at a path, if one is wanted. -/
def openJournal : Option String → Session Unit
  | none => pure ()
  | some path => do
    let path := tidy path
    let journal ← orCrash (Journal.ofContent (← readFile path))
    modify fun s => { s with book := some ⟨path, journal⟩ }

/-- Writes an entry into an open journal. -/
def Book.write (b : Book) (d : Draft) : Session Unit := do
  let ts ← stamp
  let appended ← orCrash (b.journal.append ts d)
  let files ← orCrash ((← get).files.append b.path appended.line)
  modify fun s => { s with files := files, book := some { b with journal := appended.journal } }

/-- Writes an entry, if a journal is open. The draft may fail to be made. -/
def note (d : Except Fault Draft) : Session Unit := do
  match (← get).book with
  | none => pure ()
  | some b => b.write (← orCrash d)

/-- Notes that a command starts on a program. -/
def noteStart (command path : String) (settings : Settings) : Session Unit :=
  note (Draft.start command (tidy path) settings)

/-- Notes a report. -/
def noteReport (r : Report) : Session Unit := note (Draft.record r)

/-- Reports a failure everywhere and stops with its exit code. -/
def reportFailure {α : Type} (f : Failure) : Session α := do
  logAll [.failed f]
  note (.ok (Draft.failure f))
  printFailure f
  throw (.exit f.exitCode)

/-- Does a part of a command in which failures are reported. -/
def reporting {α : Type} (part : Session α) : Session α := fun s =>
  match part s with
  | .error (.crash (.failure f)) s => reportFailure f s
  | r => r

end Unloop.Command

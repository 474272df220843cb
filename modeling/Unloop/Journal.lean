-- A journal: entries in a file, one to a line, each with the hash of the one
-- before it. Whoever drops, moves or edits a line breaks the chain, and
-- whoever edits a report contradicts its hash.
import Unloop.Journal.Entry
import Unloop.Json.Lines
import Unloop.Settings

namespace Unloop

open Form Json Text

/-- A journal that is being written: the number of the next entry, and the
hash of the last one as the file has it. -/
structure Journal where
  seq : Nat := 0
  lastHash : Value := .str ""

/-- What the next entry is to tell. -/
structure Draft where
  event : EntryEvent
  payload : Members
  programHash : Option String := none
  reportHash : Option String := none

/-! ## Drafts -/

namespace Draft

/-- A command starts on a program. -/
def start (command path : String) (settings : Settings) : Except Fault Draft := do
  return {
    event := .runStart
    payload :=
      [("command", .str command), ("path", .str path), ("settings", settings.toValue),
        ("settings_hash", .str (← settings.hash))] }

/-- A command found what a report tells. -/
def record (r : Report) : Except Fault Draft := do
  let event ← orFault .noEvent (EntryEvent.ofReport? r)
  return {
    event := event
    payload := r.fields
    programHash := some r.provenance.programHash
    reportHash := some (← r.hash) }

/-- A command failed. -/
def failure (f : Failure) : Draft where
  event := .runFailed
  payload := [("failure_atom", .str f.atom), ("message", .str f.message)]

end Draft

/-! ## Writing -/

namespace Journal

/-- The journal in a file: it goes on after the last line. -/
def ofContent (content : Bytes) : Except Fault Journal := do
  let lines ← Json.ofLines content
  match lines.getLast? with
  | none => return {}
  | some (.obj ms) => return ⟨lines.length, (Members.get? ms "entry_hash").getD (.str "")⟩
  | some _ => .error .lastLineNotObject

/-- The next entry, made at a time. The hash of the last line has to be a
text. -/
def entry (j : Journal) (ts : Int) (d : Draft) : Except Fault Entry :=
  match j.lastHash with
  | .str prev =>
    Entry.sealed
      { seq := j.seq, ts := ts, event := d.event, programHash := d.programHash,
        reportHash := d.reportHash, payload := d.payload, prevHash := prev, entryHash := "" }
  | _ => .error (.invalid [⟨.notText, ["prev_hash"]⟩])

/-- What a new entry brings about: the entry, its line, and the journal after
it. -/
structure Appended where
  entry : Entry
  line : Bytes
  journal : Journal

/-- Appends an entry, made at a time. -/
def append (j : Journal) (ts : Int) (d : Draft) : Except Fault Appended := do
  let e ← j.entry ts d
  return ⟨e, ← e.toValue.toLine, ⟨j.seq + 1, .str e.entryHash⟩⟩

end Journal

/-! ## Reading -/

/-- The entries in a file. -/
def Journal.entries (content : Bytes) : Except Fault (List Entry) := do
  (← Json.ofLines content).mapM Entry.ofValue

/-- What speaks against a line. -/
inductive Mismatch where
  | malformedEntry
  | prevHash
  | sequence
  | hash
  | malformedReport
  | reportHash
  deriving DecidableEq

/-- The words for a mismatch. -/
def Mismatch.text : Mismatch → String
  | malformedEntry => "malformed entry"
  | prevHash => "prev_hash mismatch"
  | sequence => "sequence mismatch"
  | hash => "hash mismatch"
  | malformedReport => "malformed report"
  | reportHash => "report hash mismatch"

/-- What a check of a whole chain comes to: it holds, or it breaks at a
line. -/
inductive Verdict where
  | holds
  | breaks (m : Mismatch) (line : Nat)
  deriving DecidableEq

/-- The chain holds. -/
def Verdict.isOk : Verdict → Bool
  | holds => true
  | breaks .. => false

/-- The words for a verdict. -/
def Verdict.message : Verdict → String
  | holds => "ok"
  | breaks m line => m.text ++ " at " ++ Number.ofNat line

/-- What the check of one line comes to: what speaks against it, or the hash
that the next line has to name. -/
inductive Link where
  | broken (m : Mismatch)
  | next (hash : String)
  deriving DecidableEq

/-- Checks the report of an entry against its hash. -/
def Entry.checkReport (e : Entry) : Except Fault Link :=
  match e.report? with
  | none => .ok (.next e.entryHash)
  | some (.error (.invalid _)) => .ok (.broken .malformedReport)
  | some (.error fault) => .error fault
  | some (.ok r) => do
    if some (← r.hash) = e.reportHash then return .next e.entryHash else return .broken .reportHash

/-- Checks an entry that comes after the hash `prev` at place `n`. -/
def Entry.checkLink (e : Entry) (prev : String) (n : Nat) : Except Fault Link :=
  if e.prevHash ≠ prev then .ok (.broken .prevHash)
  else if e.seq ≠ n then .ok (.broken .sequence)
  else do
    if (← e.chainHash) ≠ e.entryHash then return .broken .hash else e.checkReport

/-- Checks the value of a line. -/
def Link.ofValue (v : Value) (prev : String) (n : Nat) : Except Fault Link :=
  match Entry.ofValue v with
  | .error (.invalid _) => .ok (.broken .malformedEntry)
  | .error fault => .error fault
  | .ok e => e.checkLink prev n

/-- Checks the values of lines from place `n` on, the first of which comes
after the hash `prev`. -/
def Verdict.ofValues : (prev : String) → (n : Nat) → List Value → Except Fault Verdict
  | _, _, [] => .ok .holds
  | prev, n, v :: vs => do
    match ← Link.ofValue v prev n with
    | .broken m => return .breaks m n
    | .next hash => Verdict.ofValues hash (n + 1) vs

/-- Checks the chain of a file. -/
def Journal.verify (content : Bytes) : Except Fault Verdict := do
  Verdict.ofValues "" 0 (← Json.ofLines content)

end Unloop

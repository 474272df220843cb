-- One entry of a journal: what happened, and the hash of the entry before it.
-- The hash of an entry covers all of its fields but the hash itself.
import Unloop.Report

namespace Unloop

open Form Json

/-- What an entry tells: that a command started, what it found, or that it
failed. -/
inductive EntryEvent where
  | runStart
  | runResult
  | repairResult
  | benchResult
  | runFailed
  deriving DecidableEq

namespace EntryEvent

/-- The events in their order. -/
def all : List EntryEvent := [runStart, runResult, repairResult, benchResult, runFailed]

/-- The word of an event. -/
def name : EntryEvent → String
  | runStart => "RUN_START"
  | runResult => "RUN_RESULT"
  | repairResult => "REPAIR_RESULT"
  | benchResult => "BENCH_RESULT"
  | runFailed => "RUN_FAILED"

/-- The kind of the report that an event comes with. -/
def reportKind? : EntryEvent → Option ReportKind
  | runResult => some .run
  | repairResult => some .repair
  | benchResult => some .bench
  | runStart | runFailed => none

/-- The event of a report. A plain report has none. -/
def ofReport? : Report → Option EntryEvent
  | .plain _ => none
  | .run _ => some runResult
  | .repair _ => some repairResult
  | .bench _ => some benchResult

end EntryEvent

/-- An entry: its number, the time, the event with what belongs to it, and the
links of the chain. -/
structure Entry where
  seq : Int
  ts : Int
  event : EntryEvent
  programHash : Option String
  reportHash : Option String
  payload : Members
  prevHash : String
  entryHash : String

namespace Entry

/-- The fields that the hash of an entry covers. -/
def chained (e : Entry) : Members :=
  [("seq", .int e.seq), ("ts", .int e.ts), ("event", .str e.event.name),
    ("program_hash", .ofText? e.programHash), ("report_hash", .ofText? e.reportHash),
    ("payload", .obj e.payload), ("prev_hash", .str e.prevHash)]

/-- The entry as JSON. -/
def toValue (e : Entry) : Value := .obj (e.chained ++ [("entry_hash", .str e.entryHash)])

/-- How many values may be inside one another in a payload. -/
def payloadHeight : Nat := 255

/-- The payload is not too deep to be stored. -/
def checkHeight (e : Entry) : Except Fault Unit :=
  if membersHeight e.payload ≤ payloadHeight then .ok () else .error .tooDeep

/-- The canonical text of the entry. -/
def canonical (e : Entry) : Except Fault (List Char) := do
  e.checkHeight
  orFault .unwritable e.toValue.canonical?

/-- The hash that the entry ought to have. -/
def chainHash (e : Entry) : Except Fault String := do
  e.checkHeight
  orFault .unwritable (Value.obj e.chained).hash?

/-- The entry with the hash that it ought to have. -/
def sealed (e : Entry) : Except Fault Entry := do
  return { e with entryHash := ← e.chainHash }

/-- The fields of an entry, checked. -/
def check (ms : Members) : Checked Entry :=
  Entry.mk
    <$> required ms "seq" whole
    <*> required ms "ts" whole
    <*> required ms "event" (oneOf (EntryEvent.all.map fun e => (e.name, e)))
    <*> optional ms "program_hash" (orNull text) none
    <*> optional ms "report_hash" (orNull text) none
    <*> optional ms "payload" members []
    <*> optional ms "prev_hash" text ""
    <*> optional ms "entry_hash" text ""

/-- The entry that a value spells. -/
def ofValue (v : Value) : Except Fault Entry := fill check v

/-- The report that an entry holds, if its event comes with one. -/
def report? (e : Entry) : Option (Except Fault Report) :=
  e.event.reportKind?.map fun k => k.ofValue (.obj e.payload)

/-! ## Laws -/

/-- The hash itself is not covered. -/
theorem chainHash_congr (e : Entry) (h : String) :
    { e with entryHash := h }.chainHash = e.chainHash := rfl

/-- A sealed entry has the hash that it ought to have. -/
theorem chainHash_of_sealed {e f : Entry} (h : e.sealed = .ok f) : f.chainHash = .ok f.entryHash := by
  unfold sealed at h
  cases hash : e.chainHash with
  | error x => simp [hash, bind, Except.bind] at h
  | ok s =>
    simp only [hash, bind, Except.bind, pure, Except.pure, Except.ok.injEq] at h
    subst h
    exact hash

end Entry

/-- Every event of a report comes with a report of that kind. -/
theorem EntryEvent.reportKind?_ofReport? {r : Report} {e : EntryEvent} (h : ofReport? r = some e) :
    e.reportKind?.isSome = true := by
  cases r <;> simp [ofReport?] at h <;> subst h <;> rfl

end Unloop

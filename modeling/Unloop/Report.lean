-- Reports: what a command found, with where it comes from. Two reports are of
-- the same result when the fields that identify them agree; the cost of a
-- search and the time that it took are not among these.
import Unloop.Form
import Unloop.Machine.Recorder
import Unloop.Repair.Search

namespace Unloop

open Form Json Number

/-- The name of the rule by which texts are made canonical. -/
def canonicalization : String := "orjson_sort_keys_utf8"

/-- The name of the hash. -/
def hashAlgorithm : String := "blake3"

/-! ## The kinds of reports -/

/-- Where a report comes from: the program, and the rules by which it was run
and hashed. -/
structure Provenance where
  schemaVersion : String := "v1"
  canonicalization : String := Unloop.canonicalization
  hashAlgorithm : String := Unloop.hashAlgorithm
  programHash : String
  engineHash : String := machineHash
  deriving DecidableEq

/-- The two ends of a run, as reports name them. -/
inductive EndingKind where
  | terminated
  | looped
  deriving DecidableEq

/-- The word of an end. -/
def EndingKind.name : EndingKind → String
  | terminated => "TERMINATED"
  | looped => "LOOPED"

/-- The report of one run. -/
structure RunReport where
  provenance : Provenance
  length : Int
  outcome : EndingKind
  accumulator : Int
  loopPosition : Option Int
  steps : Int
  traceHash : Option String
  deriving DecidableEq

/-- The report of a repair. -/
structure RepairReport where
  provenance : Provenance
  strategy : String
  tieBreak : String
  position : Int
  removed : String
  replacement : String
  accumulator : Int
  runs : Int
  steps : Int
  candidatesTried : Int
  outOfBounds : Int
  verified : Option Bool
  deriving DecidableEq

/-- How long one strategy took. -/
structure Timing where
  strategy : String
  repeats : Int
  bestMs : Double
  meanMs : Double
  runs : Int
  steps : Int
  position : Int
  accumulator : Int
  deriving DecidableEq

/-- The report of a comparison of the strategies. -/
structure BenchReport where
  provenance : Provenance
  length : Int
  tieBreak : String
  timings : List Timing
  agreed : Bool
  deriving DecidableEq

/-- A report of any kind. -/
inductive Report where
  | plain (r : Provenance)
  | run (r : RunReport)
  | repair (r : RepairReport)
  | bench (r : BenchReport)
  deriving DecidableEq

/-! ## Reports as JSON -/

/-- The fields that all reports have. -/
def Provenance.fields (r : Provenance) : Members :=
  [("schema_version", .str r.schemaVersion), ("canonicalization", .str r.canonicalization),
    ("hash_algorithm", .str r.hashAlgorithm), ("program_hash", .str r.programHash),
    ("engine_hash", .str r.engineHash)]

/-- The fields of the report of a run. -/
def RunReport.fields (r : RunReport) : Members :=
  r.provenance.fields ++
    [("length", .int r.length), ("outcome", .str r.outcome.name),
      ("accumulator", .int r.accumulator), ("loop_position", .ofInt? r.loopPosition),
      ("steps", .int r.steps), ("trace_hash", .ofText? r.traceHash)]

/-- The fields of the report of a repair. -/
def RepairReport.fields (r : RepairReport) : Members :=
  r.provenance.fields ++
    [("strategy", .str r.strategy), ("tie_break", .str r.tieBreak), ("position", .int r.position),
      ("original", .str r.removed), ("replacement", .str r.replacement),
      ("accumulator", .int r.accumulator), ("runs", .int r.runs), ("steps", .int r.steps),
      ("candidates_tried", .int r.candidatesTried), ("out_of_bounds", .int r.outOfBounds),
      ("verified", .ofBool? r.verified)]

/-- The fields of a timing. -/
def Timing.fields (t : Timing) : Members :=
  [("strategy", .str t.strategy), ("repeats", .int t.repeats), ("best_ms", .float t.bestMs),
    ("mean_ms", .float t.meanMs), ("runs", .int t.runs), ("steps", .int t.steps),
    ("position", .int t.position), ("accumulator", .int t.accumulator)]

/-- The fields of the report of a comparison. -/
def BenchReport.fields (r : BenchReport) : Members :=
  r.provenance.fields ++
    [("length", .int r.length), ("tie_break", .str r.tieBreak),
      ("timings", .arr (r.timings.map fun t => .obj t.fields)), ("agreed", .bool r.agreed)]

namespace Report

/-- The fields of a report. -/
def fields : Report → Members
  | plain r => r.fields
  | run r => r.fields
  | repair r => r.fields
  | bench r => r.fields

/-- The report as JSON. -/
def toValue (r : Report) : Value := .obj r.fields

/-- Where a report comes from. -/
def provenance : Report → Provenance
  | plain r => r
  | run r => r.provenance
  | repair r => r.provenance
  | bench r => r.provenance

/-! ## Identity -/

/-- The names of the fields that all reports have. -/
def provenanceNames : List String :=
  ["schema_version", "canonicalization", "hash_algorithm", "program_hash", "engine_hash"]

/-- The names of the fields that identify a report, or none where all do. -/
def identityNames : Report → Option (List String)
  | plain _ | run _ => none
  | repair _ => some (provenanceNames ++ ["position", "original", "replacement", "accumulator"])
  | bench _ => some (provenanceNames ++ ["length", "tie_break", "agreed"])

/-- The fields that identify a report. -/
def identity (r : Report) : Members :=
  match r.identityNames with
  | none => r.fields
  | some names => r.fields.filter fun m => names.contains m.1

/-- The hash of the fields that identify a report. -/
def hash (r : Report) : Except Fault String := orFault .unwritable (Value.obj r.identity).hash?

end Report

/-! ## Making reports -/

/-- Where a report on a program comes from. -/
def Program.provenance (p : Program) : Provenance := { programHash := p.fingerprint }

/-- The report of a run. -/
def Outcome.report (o : Outcome) (p : Program) (traceHash : Option String) : RunReport where
  provenance := p.provenance
  length := p.length
  outcome :=
    match o.ending with
    | .terminated _ => .terminated
    | .looped .. => .looped
  accumulator := o.ending.accumulator
  loopPosition :=
    match o.ending with
    | .terminated _ => none
    | .looped _ position => some position
  steps := o.steps
  traceHash := traceHash

/-- The report of a repair. -/
def Repair.report (r : Repair) (p : Program) (verified : Option Bool) : RepairReport where
  provenance := p.provenance
  strategy := r.strategy.name
  tieBreak := r.tieBreak.name
  position := r.position
  removed := r.removed.render
  replacement := r.replacement.render
  accumulator := r.accumulator
  runs := r.stats.runs
  steps := r.stats.steps
  candidatesTried := r.stats.tried
  outOfBounds := r.stats.outside
  verified := verified

/-! ## Forms -/

/-- The fields that all reports have, checked. -/
def Provenance.check (ms : Members) : Checked Provenance :=
  Provenance.mk
    <$> optional ms "schema_version" text "v1"
    <*> optional ms "canonicalization" text Unloop.canonicalization
    <*> optional ms "hash_algorithm" text Unloop.hashAlgorithm
    <*> required ms "program_hash" text
    <*> optional ms "engine_hash" text machineHash

/-- The fields of the report of a run, checked. -/
def RunReport.check (ms : Members) : Checked RunReport :=
  RunReport.mk
    <$> Provenance.check ms
    <*> required ms "length" whole
    <*> required ms "outcome" (oneOf [("TERMINATED", .terminated), ("LOOPED", .looped)])
    <*> required ms "accumulator" whole
    <*> optional ms "loop_position" (orNull whole) none
    <*> required ms "steps" whole
    <*> optional ms "trace_hash" (orNull text) none

/-- The fields of the report of a repair, checked. -/
def RepairReport.check (ms : Members) : Checked RepairReport :=
  RepairReport.mk
    <$> Provenance.check ms
    <*> required ms "strategy" text
    <*> required ms "tie_break" text
    <*> required ms "position" whole
    <*> required ms "original" text
    <*> required ms "replacement" text
    <*> required ms "accumulator" whole
    <*> required ms "runs" whole
    <*> required ms "steps" whole
    <*> required ms "candidates_tried" whole
    <*> required ms "out_of_bounds" whole
    <*> optional ms "verified" (orNull truth) none

/-- The fields of a timing, checked. -/
def Timing.check (ms : Members) : Checked Timing :=
  Timing.mk
    <$> required ms "strategy" text
    <*> required ms "repeats" whole
    <*> required ms "best_ms" floating
    <*> required ms "mean_ms" floating
    <*> required ms "runs" whole
    <*> required ms "steps" whole
    <*> required ms "position" whole
    <*> required ms "accumulator" whole

/-- A timing inside a report. -/
def Timing.form : Check Timing
  | .obj ms => Timing.check ms
  | _ => .flaw .notForm

/-- The fields of the report of a comparison, checked. -/
def BenchReport.check (ms : Members) : Checked BenchReport :=
  BenchReport.mk
    <$> Provenance.check ms
    <*> required ms "length" whole
    <*> required ms "tie_break" text
    <*> required ms "timings" (listOf Timing.form)
    <*> required ms "agreed" truth

/-- The kinds of reports. -/
inductive ReportKind where
  | plain
  | run
  | repair
  | bench
  deriving DecidableEq

/-- The name of a kind of report. -/
def ReportKind.name : ReportKind → String
  | plain => "Report"
  | run => "RunReport"
  | repair => "RepairReport"
  | bench => "BenchReport"

/-- The fields of a report of some kind, checked. -/
def ReportKind.check (k : ReportKind) (ms : Members) : Checked Report :=
  match k with
  | plain => .plain <$> Provenance.check ms
  | run => .run <$> RunReport.check ms
  | repair => .repair <$> RepairReport.check ms
  | bench => .bench <$> BenchReport.check ms

/-- The report of some kind that a value spells. -/
def ReportKind.ofValue (k : ReportKind) (v : Value) : Except Fault Report := fill k.check v

end Unloop

-- The commands that work on a program: run it, follow its loop, repair it, and
-- compare the strategies of repair. Each tells the journal that it starts,
-- and then what it found or how it failed.
import Unloop.Command.Session
import Unloop.Report.Schema

namespace Unloop.Command

open Json Number Text

/-! ## Common steps -/

/-- How the results are to be printed, and by which settings the command
works. -/
structure Manner where
  settings : Settings
  asJson : Bool

/-- A number as it is printed. -/
def shown (n : Int) : Session String := orCrash (writeNumber n)

/-- Searches for a repair and logs what the search logs. -/
def locate (p : Program) (s : Strategy) (t : TieBreak) : Session Repair := do
  let found := p.locate s t
  logAll found.log
  orCrash found.result

/-- The word for the end of a run. -/
def endWord : EndingKind → String
  | .terminated => "terminated"
  | .looped => "looped"

/-- Opens the journal and notes the start of a command on a program. -/
def begin (m : Manner) (command path : String) (journal : Option String) : Session Unit := do
  openJournal journal
  noteStart command path m.settings

/-! ## The commands -/

/-- Runs a program, repairs it, and tells the accumulator at both ends. -/
def run (m : Manner) (path : String) (journal : Option String) : Session Unit := do
  begin m "run" path journal
  let (first, second, repair) ← reporting do
    let p ← readProgram path
    let outcome ← orCrash (p.run none {})
    let first := outcome.report p none
    noteReport (.run first)
    if !m.asJson then
      print (endWord first.outcome ++ " value " ++ (← shown first.accumulator))
    let repair ← locate p m.settings.strategy m.settings.tieBreak
    let second := repair.report p none
    noteReport (.repair second)
    return (first, second, repair)
  if m.asJson then
    printValue (.obj [("run", .obj first.fields), ("repair", .obj second.fields)])
  else print ("terminated value " ++ (← shown repair.accumulator))

/-- The rows of a trace as a table. -/
def traceTable (rows : List TraceRow) : Session Table := do
  return {
    title := "Trace"
    head := ["step", "position", "op", "accumulator"]
    rows := ← rows.mapM fun r => do
      return [ofNat r.step, ← shown r.position, r.op.name, ← shown r.accumulator] }

/-- The line that tells how a run ended. -/
def endLine (r : RunReport) : Session String := do
  let front := endWord r.outcome ++ " value " ++ (← shown r.accumulator)
  match r.loopPosition with
  | some position => return front ++ " (revisited position " ++ (← shown position) ++ ")"
  | none => return front

/-- Runs a program as it is, and shows its trace if that is wanted. -/
def loop (m : Manner) (path : String) (trace : Bool) (journal : Option String) :
    Session Unit := do
  begin m "loop" path journal
  let keeps := trace || m.settings.recordTrace
  let (p, recorder, outcome) ← reporting do
    let p ← readProgram path
    let (recorder, _, outcome) := Recorder.run { keepsTrace := keeps } p none {}
    return (p, recorder, ← orCrash outcome)
  let traceHash ← if keeps then some <$> orCrash recorder.traceHash else pure none
  let report := outcome.report p traceHash
  noteReport (.run report)
  if m.asJson then
    printValue (.obj (report.fields ++ if keeps then [("trace", recorder.traceValue)] else []))
  else do
    if keeps then printTable (← traceTable recorder.trace)
    print (← endLine report)

/-- The fields of the report of a repair as a table. -/
def repairTable (r : RepairReport) : Session Table := do
  let rows :=
    [["position", ← shown r.position], ["original", r.removed], ["replacement", r.replacement],
      ["accumulator", ← shown r.accumulator], ["strategy", r.strategy], ["tie_break", r.tieBreak],
      ["runs", ← shown r.runs], ["steps", ← shown r.steps],
      ["candidates_tried", ← shown r.candidatesTried]]
  let last :=
    match r.verified with
    | some b => [["verified", truthText b]]
    | none => []
  return { title := "Repair", head := ["Field", "Value"], rows := rows ++ last }

/-- The choice of a word if there is one, and else that of the settings. -/
def choice {α : Type} (ofName : String → Except Fault α) (settled : α) : Option String → Session α
  | some word => orBadValue (ofName word)
  | none => pure settled

/-- Finds the repair of a program, and runs it again if it is to be verified,
which decides the exit code. -/
def repair (m : Manner) (path : String) (strategy tieBreak : Option String) (verify : Bool)
    (journal : Option String) : Session Unit := do
  let strategy ← choice Strategy.ofName m.settings.strategy strategy
  let tieBreak ← choice TieBreak.ofName m.settings.tieBreak tieBreak
  begin m "repair" path journal
  let (p, repair, verified) ← reporting do
    let p ← readProgram path
    let repair ← locate p strategy tieBreak
    let verified ← if verify then some <$> orCrash (repair.verify p) else pure none
    return (p, repair, verified)
  let report := repair.report p verified
  noteReport (.repair report)
  if m.asJson then
    let hash ← orCrash (Report.repair report).hash
    printValue (.obj (report.fields ++ [("report_hash", .str hash)]))
  else printTable (← repairTable report)
  if verified == some false then throw (.exit 1)

/-! ## Comparing the strategies -/

/-- Searches for a repair some times and measures each time in
nanoseconds. -/
def timed (p : Program) (s : Strategy) (t : TieBreak) : (repeats : Nat) → Session (List (Repair × Int))
  | 0 => pure []
  | repeats + 1 => do
    let start ← lap
    let repair ← locate p s t
    let finish ← lap
    return (repair, finish - start) :: (← timed p s t repeats)

/-- The nanoseconds of a millisecond. -/
def perMillisecond : Nat := 1000000

/-- The least of some numbers. -/
def least : List Int → Int
  | [] => 0
  | n :: ns => ns.foldl min n

/-- The mean of some numbers. -/
def mean (ns : List Int) : Double :=
  let total := ns.foldl (· + ·) 0
  .ofRatio (total < 0) total.natAbs ns.length

/-- The timing of one strategy, from all the repairs that it found. -/
def timingOf (s : Strategy) (repeats : Nat) (repair : Repair) (durations : List Int) : Timing where
  strategy := s.name
  repeats := repeats
  bestMs := (Double.ofInt (least durations)).divNat perMillisecond
  meanMs := (mean durations).divNat perMillisecond
  runs := repair.stats.runs
  steps := repair.stats.steps
  position := repair.position
  accumulator := repair.accumulator

/-- The timing, unless its times are too great for numbers of 64 bits. -/
def checkTiming (t : Timing) : Except Fault Timing :=
  if t.bestMs.isFinite && t.meanMs.isFinite then .ok t else .error .beyondDouble

/-- Times one strategy. There is at least one repeat. -/
def timing (p : Program) (t : TieBreak) (repeats : Nat) (s : Strategy) : Session (List Timing) := do
  let results ← timed p s t repeats
  results.getLast?.toList.mapM fun last =>
    orCrash (checkTiming (timingOf s repeats last.1 (results.map Prod.snd)))

/-- All timings are of the same repair. -/
def agree (ts : List Timing) : Bool :=
  match ts with
  | [] => false
  | t :: more => more.all fun u => u.position == t.position && u.accumulator == t.accumulator

/-- The report of a comparison. -/
def benchReport (p : Program) (t : TieBreak) (timings : List Timing) : BenchReport where
  provenance := p.provenance
  length := p.length
  tieBreak := t.name
  timings := timings
  agreed := agree timings

/-- A comparison as a table. -/
def benchTable (r : BenchReport) (repeats : Nat) : Session Table := do
  return {
    title := "Bench (" ++ ofNat repeats ++ " repeats, tie break " ++ r.tieBreak ++ ")"
    head := ["strategy", "best ms", "mean ms", "runs", "steps", "position", "accumulator"]
    rows := ← r.timings.mapM fun t => do
      return [t.strategy, String.ofList t.bestMs.threePlaces, String.ofList t.meanMs.threePlaces,
        ← shown t.runs, ← shown t.steps, ← shown t.position, ← shown t.accumulator] }

/-- Times every strategy on the same program. -/
def bench (m : Manner) (path : String) (repeats : Option Nat) (tieBreak journal : Option String) :
    Session Unit := do
  let repeats := repeats.getD m.settings.benchRepeats.toNat
  let tieBreak ← choice TieBreak.ofName m.settings.tieBreak tieBreak
  begin m "bench" path journal
  let (p, timings) ← reporting do
    let p ← readProgram path
    return (p, (← Strategy.all.mapM (timing p tieBreak repeats)).flatten)
  let report := benchReport p tieBreak timings
  noteReport (.bench report)
  if m.asJson then printValue (.obj report.fields)
  else do
    printTable (← benchTable report repeats)
    printBraced [("agreed", truthText report.agreed)]

/-! ## Commands without a program -/

/-- Checks the chain of a journal. -/
def verifyJournal (path : String) : Session Unit := do
  let verdict ← orCrash (Journal.verify (← readFile path))
  printBraced [("ok", truthText verdict.isOk), ("message", quoted verdict.message)]
  if !verdict.isOk then throw (.exit 1)

/-- Writes the schemas of the reports into a directory. -/
def exportSchemas (directory : String) : Session Unit := do
  let directory := tidy directory
  let files ← orCrash ((← get).files.makeDirectory directory)
  modify fun s => { s with files := files }
  Schema.exported.forM fun (name, schema) => do
    let path := tidy (directory ++ "/" ++ name ++ ".schema.json")
    let files ← orCrash ((← get).files.write path (encode schema.text))
    modify fun s => { s with files := files }
  printBraced [("schemas", quoted directory)]

end Unloop.Command

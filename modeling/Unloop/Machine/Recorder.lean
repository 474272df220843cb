-- Counts the steps of one run after another, and keeps a row for each if it is
-- asked to.
import Unloop.Machine

namespace Unloop

open Json (Value)

/-- A row of a trace: the number of the step, the position, what was done
there, and the accumulator after it. -/
structure TraceRow where
  step : Nat
  position : Int
  op : Op
  accumulator : Int
  deriving DecidableEq

/-- A row as JSON. -/
def TraceRow.toValue (r : TraceRow) : Value :=
  .obj [("step", .int r.step), ("position", .int r.position), ("op", .str r.op.name),
    ("accumulator", .int r.accumulator)]

/-- The steps counted so far, and the rows kept. -/
structure Recorder where
  keepsTrace : Bool := false
  steps : Nat := 0
  trace : List TraceRow := []
  deriving DecidableEq

namespace Recorder

/-- Forgets the steps and the rows. -/
def reset (r : Recorder) : Recorder := { r with steps := 0, trace := [] }

/-- Counts a step. -/
def note (r : Recorder) (t : Step) : Recorder :=
  let row : TraceRow := ⟨r.steps + 1, t.state.position, t.instruction.op, t.next.accumulator⟩
  { r with steps := r.steps + 1, trace := if r.keepsTrace then r.trace ++ [row] else r.trace }

/-- Executes the instruction at a state's position, whether or not a run would
go on there. Where there is none, the position counts as visited and the step
is not counted. -/
def execute (r : Recorder) (p : Program) (patch : Option Patch) (s : State) :
    Recorder × State × Except Fault Unit :=
  match p.effective? patch s.position with
  | some i => (r.note ⟨s, i⟩, s.after i, .ok ())
  | none => (r, s.mark, .error .noInstruction)

/-- Runs a program from a state to where it stops. -/
def run (r : Recorder) (p : Program) (patch : Option Patch) (s : State) :
    Recorder × State × Except Fault Outcome :=
  let w := p.walk patch s
  (w.steps.foldl note r, w.last, w.outcome p)

/-- The rows as JSON. -/
def traceValue (r : Recorder) : Value := .arr (r.trace.map TraceRow.toValue)

/-- The hash of the rows. -/
def traceHash (r : Recorder) : Except Fault String := orFault .unwritable r.traceValue.hash?

/-! ## Laws -/

/-- Each step of a run is counted once. -/
theorem steps_run (r : Recorder) (p : Program) (patch : Option Patch) (s : State) :
    (r.run p patch s).1.steps = r.steps + (p.walk patch s).steps.length := by
  have count : ∀ (ts : List Step) (r : Recorder),
      (ts.foldl note r).steps = r.steps + ts.length := by
    intro ts
    induction ts with
    | nil => intro r; rfl
    | cons t ts ih =>
      intro r
      rw [List.foldl_cons, ih, List.length_cons]
      simp only [note]
      omega
  exact count _ _

end Recorder

/-- The version of the machine's rules. -/
def machineVersion : String := "v1"

/-- The machine's rules as JSON: their version, and the operations. -/
def machineRules : Value :=
  .obj [("version", .str machineVersion), ("ops", .arr (Op.all.map fun op => .str op.name))]

/-- The hash of the machine's rules, which reports carry. -/
def machineHash : String := hashOf (Text.encode machineRules.text)

end Unloop

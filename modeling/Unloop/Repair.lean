-- Repairs: the one instruction whose flip makes a looping program end, who
-- found it and at what cost.
import Unloop.Machine

namespace Unloop

/-- How a repair is searched for: every candidate from the start of the
program, or branches of the one run at the candidates that it reaches. -/
inductive Strategy where
  | naive
  | speculative
  deriving DecidableEq

/-- Which of several repairs counts: that of the lowest position, or the first
one that the run reaches. -/
inductive TieBreak where
  | lowestIndex
  | executionOrder
  deriving DecidableEq

/-- The strategies in their order. -/
def Strategy.all : List Strategy := [.naive, .speculative]

/-- The word of a strategy. -/
def Strategy.name : Strategy → String
  | naive => "naive"
  | speculative => "speculative"

/-- The strategy of a word. -/
def Strategy.ofName (name : String) : Except Fault Strategy :=
  orFault (.unknownStrategy name) (all.find? fun s => s.name == name)

/-- The tie breaks in their order. -/
def TieBreak.all : List TieBreak := [.lowestIndex, .executionOrder]

/-- The word of a tie break. -/
def TieBreak.name : TieBreak → String
  | lowestIndex => "lowest_index"
  | executionOrder => "execution_order"

/-- The tie break of a word. -/
def TieBreak.ofName (name : String) : Except Fault TieBreak :=
  orFault (.unknownTieBreak name) (all.find? fun t => t.name == name)

/-- What a search cost: runs, steps, flips tried, and flips that left the
program. -/
structure Stats where
  runs : Nat := 0
  steps : Nat := 0
  tried : Nat := 0
  outside : Nat := 0
  deriving DecidableEq

/-- A flip that makes the program end, and the accumulator at that end. -/
structure Fix where
  candidate : Program.Candidate
  accumulator : Int
  deriving DecidableEq

/-- A fix and how it was found. -/
structure Repair where
  fix : Fix
  strategy : Strategy
  tieBreak : TieBreak
  stats : Stats
  deriving DecidableEq

namespace Repair

/-- The position of the flipped instruction. -/
def position (r : Repair) : Nat := r.fix.candidate.position

/-- The instruction that was flipped. -/
def removed (r : Repair) : Instruction := r.fix.candidate.removed

/-- The instruction that takes its place. -/
def replacement (r : Repair) : Instruction := r.fix.candidate.replacement

/-- The accumulator at the end of the repaired program. -/
def accumulator (r : Repair) : Int := r.fix.accumulator

end Repair

/-- The candidate as an instruction laid over the program. -/
def Program.Candidate.patch (c : Program.Candidate) : Patch := ⟨c.position, c.replacement⟩

/-- A run from the start with only one instruction replaced ends with the
given accumulator. -/
def Program.verify (p : Program) (patch : Patch) (accumulator : Int) : Except Fault Bool := do
  match (← p.run (some patch) {}).ending with
  | .terminated a => return a == accumulator
  | .looped .. => return false

/-- The program runs to its end once the repair is made. -/
def Repair.verify (r : Repair) (p : Program) : Except Fault Bool :=
  p.verify r.fix.candidate.patch r.accumulator

/-! ## Laws -/

/-- Every strategy is found by its word. -/
theorem Strategy.ofName_name (s : Strategy) : Strategy.ofName s.name = .ok s := by
  cases s <;> rfl

/-- Every tie break is found by its word. -/
theorem TieBreak.ofName_name (t : TieBreak) : TieBreak.ofName t.name = .ok t := by
  cases t <;> rfl

end Unloop

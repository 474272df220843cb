-- Programs: lists of instructions that can be written. A program is never
-- changed in place; an instruction replaced gives another program.
import Unloop.Digest
import Unloop.Instruction

namespace Unloop

/-- A list of instructions whose offsets can all be written. -/
structure Program where
  instructions : List Instruction
  writable : ∀ i ∈ instructions, i.Writable
  deriving DecidableEq

namespace Program

/-- The program of some instructions, unless an offset is too long. -/
def ofList (is : List Instruction) : Except Fault Program :=
  if h : ∀ i ∈ is, i.Writable then .ok ⟨is, h⟩ else .error (.longNumber none)

/-- The number of instructions. -/
def length (p : Program) : Nat := p.instructions.length

/-! ## The text of a program -/

/-- The lines of a program, each with a line feed. -/
def chars (p : Program) : List Char := p.instructions.flatMap fun i => i.chars ++ ['\n']

/-- The text of a program. -/
def render (p : Program) : String := String.ofList p.chars

/-- The hash of the text, which tells programs apart. -/
def fingerprint (p : Program) : String := hashOfText p.render

/-- The program as JSON. -/
def toValue (p : Program) : Json.Value := .arr (p.instructions.map Instruction.toValue)

/-! ## Positions -/

/-- The position has an instruction. -/
def Inside (p : Program) (position : Int) : Prop := 0 ≤ position ∧ position < p.length

instance (p : Program) (position : Int) : Decidable (p.Inside position) :=
  inferInstanceAs (Decidable (_ ∧ _))

/-- The index of a position, where a negative one counts from the end. -/
def index? (p : Program) (position : Int) : Option Nat :=
  if p.Inside position then some position.toNat
  else if p.Inside (position + p.length) ∧ position < 0 then some (position + p.length).toNat
  else none

/-- The instruction at a position, where a negative one counts from the
end. -/
def at? (p : Program) (position : Int) : Option Instruction :=
  (p.index? position).bind fun n => p.instructions[n]?

/-- The program with another instruction at a position. -/
def replace (p : Program) (position : Int) (i : Instruction) : Except Fault Program :=
  match p.index? position with
  | some n => ofList (p.instructions.set n i)
  | none => .error .noInstruction

/-- The program with the instruction at a position flipped. -/
def flipAt (p : Program) (position : Int) : Except Fault Program := do
  let i ← orFault .noInstruction (p.at? position)
  p.replace position (← i.flip)

/-! ## Candidates -/

/-- A position whose instruction can be flipped, before and after. -/
structure Candidate where
  position : Nat
  removed : Instruction
  replacement : Instruction
  deriving DecidableEq

/-- The candidate at an index, if its instruction can be flipped. -/
def candidateOf (i : Instruction) (n : Nat) : Option Candidate :=
  i.flip?.map fun j => ⟨n, i, j⟩

/-- The candidates in ascending order. -/
def candidates (p : Program) : List Candidate :=
  p.instructions.zipIdx.filterMap fun (i, n) => candidateOf i n

/-! ## Laws -/

/-- The program that is made holds the instructions given. -/
theorem instructions_of_ofList {is : List Instruction} {p : Program} (h : ofList is = .ok p) :
    p.instructions = is := by
  unfold ofList at h
  split at h
  · cases h; rfl
  · cases h

/-- Any list of a program's instructions makes a program. -/
theorem ofList_instructions (p : Program) : ofList p.instructions = .ok p := by
  unfold ofList
  rw [dif_pos p.writable]

/-- Inside the program a position is its own index. -/
theorem index?_of_inside {p : Program} {position : Int} (h : p.Inside position) :
    p.index? position = some position.toNat := by
  simp [index?, h]

end Program

end Unloop

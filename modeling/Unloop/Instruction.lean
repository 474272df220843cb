-- Instructions: a word and an offset. Two of the three words can stand for
-- one another.
import Unloop.Fault
import Unloop.Json.Value

namespace Unloop

open Number

/-- What an instruction does: nothing, add to the accumulator, or jump. -/
inductive Op where
  | nop
  | acc
  | jmp
  deriving DecidableEq, Repr

/-- The operations in their order. -/
def Op.all : List Op := [.nop, .acc, .jmp]

/-- The word of an operation. -/
def Op.name : Op → String
  | nop => "nop"
  | acc => "acc"
  | jmp => "jmp"

/-- The operation of a word. -/
def Op.ofName? (name : String) : Option Op := Op.all.find? fun op => op.name == name

/-- An operation and the offset that it works with. -/
structure Instruction where
  op : Op
  delta : Int
  deriving DecidableEq, Repr

namespace Instruction

/-- The offset can be written. -/
def Writable (i : Instruction) : Prop := Number.Writable i.delta

instance (i : Instruction) : Decidable i.Writable := inferInstanceAs (Decidable (Number.Writable _))

/-- The instruction as a line without an ending. -/
def chars (i : Instruction) : List Char := i.op.name.toList ++ ' ' :: signed i.delta

/-- The instruction as text. -/
def render (i : Instruction) : String := String.ofList i.chars

/-- The instruction as text, or the fault that its offset is too long. -/
def write (i : Instruction) : Except Fault String :=
  if i.Writable then .ok i.render else .error (.longNumber none)

/-- The instruction with the jump and the empty operation exchanged. -/
def flip? (i : Instruction) : Option Instruction :=
  match i.op with
  | .nop => some ⟨.jmp, i.delta⟩
  | .jmp => some ⟨.nop, i.delta⟩
  | .acc => none

/-- The flipped instruction, or the failure that there is none. -/
def flip (i : Instruction) : Except Fault Instruction :=
  match i.flip? with
  | some j => .ok j
  | none => do .error (.failure (.notFlippable ("cannot flip " ++ (← i.write))))

/-- The instruction as JSON. -/
def toValue (i : Instruction) : Json.Value :=
  .obj [("op", .str i.op.name), ("delta", .int i.delta)]

/-! ## Laws -/

/-- Flipping twice gives the instruction back. -/
theorem flip?_flip? {i j : Instruction} (h : i.flip? = some j) : j.flip? = some i := by
  obtain ⟨op, delta⟩ := i
  cases op <;> simp [flip?] at h <;> subst h <;> rfl

/-- The offset stays when an instruction is flipped. -/
theorem delta_of_flip? {i j : Instruction} (h : i.flip? = some j) : j.delta = i.delta := by
  obtain ⟨op, delta⟩ := i
  cases op <;> simp [flip?] at h <;> subst h <;> rfl

/-- Exactly the adding instruction cannot be flipped. -/
theorem flip?_eq_none_iff {i : Instruction} : i.flip? = none ↔ i.op = .acc := by
  obtain ⟨op, delta⟩ := i
  cases op <;> simp [flip?]

end Instruction

/-- An operation is found by its word. -/
theorem Op.ofName?_name (op : Op) : Op.ofName? op.name = some op := by cases op <;> rfl

end Unloop

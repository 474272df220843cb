-- Runs programs. A run ends when it leaves the program, at its end or
-- elsewhere, or comes to a position that it has visited. Every step visits a
-- new position inside the program, so a run takes at most as many steps as
-- there are instructions.
import Unloop.Program

namespace Unloop

/-! ## States -/

/-- Where a run stands: the position, the accumulator, and the positions whose
instructions were executed. -/
structure State where
  position : Int := 0
  accumulator : Int := 0
  visited : List Int := []
  deriving DecidableEq

/-- An instruction laid over one position of a program. -/
structure Patch where
  position : Int
  instruction : Instruction
  deriving DecidableEq

/-- The state with its position visited. -/
def State.mark (s : State) : State := { s with visited := s.visited.insert s.position }

/-- The state after an instruction at its position. -/
def State.after (s : State) (i : Instruction) : State :=
  match i.op with
  | .nop => { s.mark with position := s.position + 1 }
  | .acc => { s.mark with position := s.position + 1, accumulator := s.accumulator + i.delta }
  | .jmp => { s.mark with position := s.position + i.delta }

/-! ## How a run ends -/

/-- A result of a run: it left the program at its end, or came back to a
position. -/
inductive Ending where
  | terminated (accumulator : Int)
  | looped (accumulator position : Int)
  deriving DecidableEq

/-- The accumulator at the end. -/
def Ending.accumulator : Ending → Int
  | terminated a => a
  | looped a _ => a

/-- Where a run stops: with a result, or outside the program. -/
inductive Stop where
  | ending (e : Ending)
  | outside (position : Int)
  deriving DecidableEq

namespace Program

/-- The run goes on: the position is inside and was not visited. -/
def Continues (p : Program) (s : State) : Prop := p.Inside s.position ∧ s.position ∉ s.visited

instance (p : Program) (s : State) : Decidable (p.Continues s) :=
  inferInstanceAs (Decidable (_ ∧ _))

/-- How a run stops in a state in which it does not go on. -/
def stopAt (p : Program) (s : State) : Stop :=
  if s.position = p.length then .ending (.terminated s.accumulator)
  else if p.Inside s.position then .ending (.looped s.accumulator s.position)
  else .outside s.position

/-- How a run stops in a state, if it does. -/
def check (p : Program) (s : State) : Option Stop :=
  if p.Continues s then none else some (p.stopAt s)

/-- The instruction that counts at a position: the patch there, or the
program's own. -/
def effective? (p : Program) (patch : Option Patch) (position : Int) : Option Instruction :=
  match patch with
  | some q => if q.position = position then some q.instruction else p.at? position
  | none => p.at? position

/-- The instruction that counts at a position inside. -/
def effective (p : Program) (patch : Option Patch) (position : Int) (h : p.Inside position) :
    Instruction :=
  let own := p.instructions.get ⟨position.toNat, by
    have := h.2
    simp only [length] at this
    have := h.1
    omega⟩
  match patch with
  | some q => if q.position = position then q.instruction else own
  | none => own

/-- The positions inside that are not among those visited. -/
def fresh (p : Program) (visited : List Int) : List Nat :=
  (List.range p.length).filter fun n => decide ((n : Int) ∉ visited)

end Program

/-! ## Runs -/

/-- One step of a run: the state before, and the instruction that was
executed in it. -/
structure Step where
  state : State
  instruction : Instruction
  deriving DecidableEq

/-- The state after a step. -/
def Step.next (t : Step) : State := t.state.after t.instruction

/-- A run: its steps in order, the state after the last one, and how it
stopped there. -/
structure Walk where
  steps : List Step
  last : State
  stop : Stop
  deriving DecidableEq

/-- The run with a step before it. -/
def Walk.cons (t : Step) (w : Walk) : Walk := { w with steps := t :: w.steps }

theorem visited_after (s : State) (i : Instruction) :
    (s.after i).visited = s.visited.insert s.position := by
  unfold State.after
  split <;> rfl

/-- A position that is visited is no longer fresh. -/
theorem Program.length_fresh_lt {p : Program} {s : State} (h : p.Continues s) :
    (p.fresh (s.visited.insert s.position)).length < (p.fresh s.visited).length := by
  obtain ⟨⟨low, high⟩, new⟩ := h
  have sub : p.fresh (s.visited.insert s.position) =
      (p.fresh s.visited).filter fun n : Nat => decide ((n : Int) ≠ s.position) := by
    unfold Program.fresh
    rw [List.filter_filter]
    apply List.filter_congr
    intro n _
    simp [List.mem_insert_iff]
  rw [sub, List.length_filter_lt_length_iff_exists]
  refine ⟨s.position.toNat, ?_, ?_⟩
  · simp only [Program.fresh, List.mem_filter, List.mem_range, decide_eq_true_eq]
    refine ⟨by omega, ?_⟩
    rwa [Int.toNat_of_nonneg low]
  · simp [Int.toNat_of_nonneg low]

/-- The run of a program from a state, with an instruction laid over it. -/
def Program.walk (p : Program) (patch : Option Patch) (s : State) : Walk :=
  if h : p.Continues s then
    let i := p.effective patch s.position h.1
    (p.walk patch (s.after i)).cons ⟨s, i⟩
  else ⟨[], s, p.stopAt s⟩
termination_by (p.fresh s.visited).length
decreasing_by
  rw [visited_after]
  exact Program.length_fresh_lt h

/-! ## Results -/

/-- The result of a run and the number of its steps. -/
structure Outcome where
  ending : Ending
  steps : Nat
  deriving DecidableEq

/-- The fault of a run that is outside. -/
def Fault.outside (p : Program) (position : Int) : Fault := .of (.outside position p.length)

/-- What a run gives: its result, or the fault of having left the program. -/
def Walk.outcome (w : Walk) (p : Program) : Except Fault Outcome :=
  match w.stop with
  | .ending e => .ok ⟨e, w.steps.length⟩
  | .outside position => .error (.outside p position)

/-- Runs a program from a state. -/
def Program.run (p : Program) (patch : Option Patch) (s : State) : Except Fault Outcome :=
  (p.walk patch s).outcome p

/-! ## Laws -/

/-- A run that goes on takes the step of its state. -/
theorem Program.walk_of_continues {p : Program} {patch : Option Patch} {s : State}
    (h : p.Continues s) :
    p.walk patch s =
      (p.walk patch (s.after (p.effective patch s.position h.1))).cons
        ⟨s, p.effective patch s.position h.1⟩ := by
  rw [Program.walk.eq_def p patch s, dif_pos h]

/-- A run that does not go on has no steps. -/
theorem Program.walk_of_not_continues {p : Program} {patch : Option Patch} {s : State}
    (h : ¬ p.Continues s) : p.walk patch s = ⟨[], s, p.stopAt s⟩ := by
  rw [Program.walk.eq_def p patch s, dif_neg h]

/-- Inside the program the instruction that counts is there. -/
theorem Program.effective?_eq (p : Program) (patch : Option Patch) (position : Int)
    (h : p.Inside position) :
    p.effective? patch position = some (p.effective patch position h) := by
  have own : p.at? position = p.instructions[position.toNat]? := by
    simp [Program.at?, Program.index?_of_inside h]
  have bound : position.toNat < p.instructions.length := by
    have := h.2
    simp only [Program.length] at this
    have := h.1
    omega
  unfold Program.effective? Program.effective
  cases patch with
  | none => simp [own, bound]
  | some q =>
    dsimp only
    split
    · rfl
    · simp [own, bound]

/-- The steps of a run are no more than the fresh positions. -/
theorem Program.length_walk_le (p : Program) (patch : Option Patch) (s : State) :
    (p.walk patch s).steps.length ≤ (p.fresh s.visited).length := by
  induction s using Program.walk.induct p patch with
  | case1 s h i ih =>
    rw [p.walk_of_continues h]
    have less := Program.length_fresh_lt h
    rw [visited_after] at ih
    exact Nat.lt_of_le_of_lt ih less
  | case2 s h => simp [p.walk_of_not_continues h]

end Unloop

-- The laws of traces. Whatever state a run starts from, looking whether it stops
-- and executing an instruction in turns comes to the end of the run, since every
-- turn takes a position from those that are still fresh. The rows that it leaves
-- tell the run step by step.
import Unloop.Machine.Recorder
import Unloop.Proofs.Machine.Cycles
import Mathlib.Data.List.Basic

namespace Unloop

/-! ## The pure model -/

/-- Looks in turns whether the run stops, and executes an instruction if it does
not, up to `n` times. The steps of a result are counted from `start`. -/
def Recorder.turns (p : Program) (patch : Option Patch) (start : Nat) :
    Nat → Recorder → State → Option (Recorder × State × Except Fault Outcome)
  | 0, _, _ => none
  | n + 1, r, s =>
    match p.check s with
    | some (.ending e) => some (r, s, .ok ⟨e, r.steps - start⟩)
    | some (.outside x) => some (r, s, .error (.outside p x))
    | none =>
      match r.execute p patch s with
      | (r, s, .ok ()) => turns p patch start n r s
      | (r, s, .error fault) => some (r, s, .error fault)

/-- The positions inside that are among those visited. -/
def Program.spent (p : Program) (visited : List Int) : List Nat :=
  (List.range p.length).filter fun n => decide ((n : Int) ∈ visited)

/-- The row that tells a step, after `n` steps before it. -/
def Step.row (t : Step) (n : Nat) : TraceRow :=
  ⟨n + 1, t.state.position, t.instruction.op, t.next.accumulator⟩

/-- The rows that tell steps, after `n` steps before them. -/
def rowsFrom : Nat → List Step → List TraceRow
  | _, [] => []
  | n, t :: ts => t.row n :: rowsFrom (n + 1) ts

/-- The rows derive one spot from another. Each row is at the spot that the rows
before it lead to, and tells the operation that counts there and the accumulator
after it. -/
inductive Program.Derives (p : Program) (patch : Option Patch) :
    Spot → List TraceRow → Spot → Prop
  | nil (c : Spot) : p.Derives patch c [] c
  | cons {c last : Spot} {i : Instruction} {row : TraceRow} {rows : List TraceRow} :
      p.effective? patch c.position = some i → row.position = c.position → row.op = i.op →
      row.accumulator = (c.after i).accumulator → p.Derives patch (c.after i) rows last →
      p.Derives patch c (row :: rows) last

/-- How a run of `k` steps is answered in its last state: it is at the end, or at a
position that was visited, or outside. -/
inductive Program.Answers (p : Program) (last : State) (k : Nat) : Except Fault Outcome → Prop
  | terminated : last.position = p.length →
      p.Answers last k (.ok ⟨.terminated last.accumulator, k⟩)
  | looped : p.Inside last.position → last.position ∈ last.visited →
      p.Answers last k (.ok ⟨.looped last.accumulator last.position, k⟩)
  | outside : last.position < 0 ∨ p.length < last.position →
      p.Answers last k (.error (.outside p last.position))

/-- The rows tell a run from one state to another, which was recorded after `n`
steps before it. -/
structure Program.Tells (p : Program) (patch : Option Patch) (s last : State) (n : Nat)
    (rows : List TraceRow) : Prop where
  numbered : ∀ k row, rows[k]? = some row → row.step = n + k + 1
  distinct : (rows.map TraceRow.position).Nodup
  inside : ∀ row ∈ rows, p.Inside row.position
  unvisited : ∀ row ∈ rows, row.position ∉ s.visited
  visited : ∀ x, x ∈ last.visited ↔ x ∈ s.visited ∨ x ∈ rows.map TraceRow.position
  budget : rows.length + (p.spent s.visited).length ≤ p.length
  derived : p.Derives patch s.spot rows last.spot

section

variable {p : Program} {patch : Option Patch} {r : Recorder} {s last : State} {ts : List Step}
  {row : TraceRow} {k n start : Nat}

/-! ## Turns -/

theorem length_fresh_add_spent (p : Program) (visited : List Int) :
    (p.fresh visited).length + (p.spent visited).length = p.length := by
  have h := List.length_eq_length_filter_add (l := List.range p.length)
    fun n : Nat => decide ((n : Int) ∈ visited)
  rw [List.length_range] at h
  rw [h, Nat.add_comm]
  simp [Program.fresh, Program.spent]

theorem check_of_continues (h : p.Continues s) : p.check s = none := if_pos h

theorem check_of_not_continues (h : ¬ p.Continues s) : p.check s = some (p.stopAt s) := if_neg h

/-- Where a run goes on there is an instruction to execute. -/
theorem execute_of_continues (h : p.Continues s) :
    r.execute p patch s =
      (r.note ⟨s, p.effective patch s.position h.1⟩, s.after (p.effective patch s.position h.1),
        .ok ()) := by
  unfold Recorder.execute
  rw [p.effective?_eq patch s.position h.1]

theorem turns_of_fresh (h : (p.fresh s.visited).length < n) :
    Recorder.turns p patch start n r s =
      some ((p.walk patch s).steps.foldl Recorder.note r, (p.walk patch s).last,
        match (p.walk patch s).stop with
        | .ending e => .ok ⟨e, r.steps + (p.walk patch s).steps.length - start⟩
        | .outside x => .error (.outside p x)) := by
  induction n generalizing r s with
  | zero => exact absurd h (Nat.not_lt_zero _)
  | succ n ih =>
    unfold Recorder.turns
    by_cases hgo : p.Continues s
    · -- the position is visited from now on, so there are fewer fresh ones for the rest
      have hless := Program.length_fresh_lt hgo
      rw [check_of_continues hgo, execute_of_continues hgo, Program.walk_of_continues hgo]
      dsimp only
      rw [ih (by rw [visited_after]; omega)]
      simp only [Walk.cons, List.foldl_cons, List.length_cons, Recorder.note]
      rw [Nat.add_right_comm, Nat.add_assoc]
    · rw [check_of_not_continues hgo, Program.walk_of_not_continues hgo]
      dsimp only
      cases p.stopAt s <;> rfl

/-- Taken in turns, a run comes to its end before it has taken more turns than
there are positions that were not visited at its start. -/
theorem turns_eq_run (h : p.length < n + (p.spent s.visited).length) :
    Recorder.turns p patch r.steps n r s = some (r.run p patch s) := by
  have hfresh := length_fresh_add_spent p s.visited
  rw [turns_of_fresh (by omega)]
  unfold Recorder.run Walk.outcome
  rcases hstop : (p.walk patch s).stop with e | x
  · simp only [hstop, Nat.add_sub_cancel_left]
  · simp only [hstop]

/-! ## Rows -/

theorem length_rowsFrom (n : Nat) (ts : List Step) : (rowsFrom n ts).length = ts.length := by
  induction ts generalizing n with
  | nil => rfl
  | cons t ts ih => simp [rowsFrom, ih]

theorem positions_rowsFrom (n : Nat) (ts : List Step) :
    (rowsFrom n ts).map TraceRow.position = executed ts := by
  induction ts generalizing n with
  | nil => rfl
  | cons t ts ih =>
    rw [rowsFrom, List.map_cons, ih]
    rfl

theorem step_of_rowsFrom (h : (rowsFrom n ts)[k]? = some row) : row.step = n + k + 1 := by
  induction ts generalizing n k with
  | nil => cases h
  | cons t ts ih =>
    cases k with
    | zero =>
      cases h
      rfl
    | succ k =>
      rw [rowsFrom, List.getElem?_cons_succ] at h
      rw [ih h]
      omega

/-- A recorder that keeps a trace adds a row for each step. -/
theorem foldl_note (hr : r.keepsTrace = true) (ts : List Step) :
    ts.foldl Recorder.note r = ⟨true, r.steps + ts.length, r.trace ++ rowsFrom r.steps ts⟩ := by
  induction ts generalizing r with
  | nil =>
    obtain ⟨keeps, steps, trace⟩ := r
    obtain rfl : keeps = true := hr
    simp [rowsFrom]
  | cons t ts ih =>
    have hnote : r.note t = ⟨true, r.steps + 1, r.trace ++ [t.row r.steps]⟩ := by
      simp [Recorder.note, hr, Step.row]
    rw [List.foldl_cons, hnote, ih rfl, List.length_cons, rowsFrom, List.append_assoc,
      List.singleton_append, Nat.add_assoc, Nat.add_comm 1]

/-- The rows of a path derive its end from its start. -/
theorem derives_of_path (h : p.Path patch s ts last) (n : Nat) :
    p.Derives patch s.spot (rowsFrom n ts) last.spot := by
  induction ts generalizing s n with
  | nil =>
    obtain rfl : s = last := h
    exact .nil _
  | cons t ts ih =>
    obtain ⟨rfl, ht, hrest⟩ := h
    have hrows := ih hrest (n + 1)
    rw [spot_next] at hrows
    exact .cons ht.2 rfl rfl (congrArg Spot.accumulator (spot_next t)) hrows

theorem tells_of_path (h : p.Path patch s ts last)
    (hbudget : ts.length ≤ (p.fresh s.visited).length) (n : Nat) :
    p.Tells patch s last n (rowsFrom n ts) := by
  obtain ⟨hnodup, hnew⟩ := nodup_executed h
  have hexecuted : ∀ row ∈ rowsFrom n ts, row.position ∈ executed ts := by
    intro row hrow
    rw [← positions_rowsFrom n ts]
    exact List.mem_map_of_mem hrow
  constructor
  · intro k row hrow
    exact step_of_rowsFrom hrow
  · rw [positions_rowsFrom]
    exact hnodup
  · intro row hrow
    obtain ⟨t, ht, hpos⟩ := mem_executed.mp (hexecuted row hrow)
    exact hpos ▸ (takes_of_mem h ht).1.1
  · intro row hrow
    exact hnew _ (hexecuted row hrow)
  · rw [positions_rowsFrom]
    exact mem_visited_of_path h
  · have hfresh := length_fresh_add_spent p s.visited
    rw [length_rowsFrom]
    omega
  · exact derives_of_path h n

/-! ## Answers -/

theorem answers_walk (p : Program) (patch : Option Patch) (s : State) :
    p.Answers (p.walk patch s).last (p.walk patch s).steps.length ((p.walk patch s).outcome p) := by
  unfold Walk.outcome
  rcases hstop : (p.walk patch s).stop with (a | ⟨a, x⟩) | x
  · obtain ⟨hend, rfl⟩ := stop_eq_terminated_iff.mp hstop
    exact .terminated hend
  · obtain ⟨hin, rfl, rfl⟩ := stop_eq_looped_iff.mp hstop
    refine .looped hin ?_
    by_contra hnew
    exact (stop_walk p patch s).1 ⟨hin, hnew⟩
  · obtain ⟨hout, rfl⟩ := stop_eq_outside_iff.mp hstop
    exact .outside hout

/-- A run from any state ends in time and is told step by step. Looking and
executing in turns ends, with what the run gives, before there are more turns
than positions that were not visited at the start; so an instruction is there
whenever one is executed. After the rows that a recorder has kept before it adds
one row for each step, numbered on from the steps counted before. The rows are
at different positions inside that were not visited at the start, and these are
visited in the end besides those that were. They derive the last state from the
first one, and the answer tells that state, if the run comes to its end or to a
loop as well as if it leaves the program. -/
theorem a_run_is_told_step_by_step (p : Program) (patch : Option Patch) (s : State)
    (r : Recorder) (hr : r.keepsTrace = true) :
    let (recorded, last, answer) := r.run p patch s
    (∀ n, p.length < n + (p.spent s.visited).length →
      Recorder.turns p patch r.steps n r s = some (recorded, last, answer)) ∧
    ∃ rows, recorded = ⟨true, r.steps + rows.length, r.trace ++ rows⟩ ∧
      p.Tells patch s last r.steps rows ∧ p.Answers last rows.length answer := by
  have hrows := length_rowsFrom r.steps (p.walk patch s).steps
  refine ⟨fun n => turns_eq_run, rowsFrom r.steps (p.walk patch s).steps, ?_, ?_, ?_⟩
  · rw [hrows]
    exact foldl_note hr _
  · exact tells_of_path (path_walk p patch s) (p.length_walk_le patch s) r.steps
  · rw [hrows]
    exact answers_walk p patch s

/-- A run that starts with a position visited outside and one inside, and that
leaves the program at a patched jump, continues the trace of another run. -/
theorem a_run_that_leaves_is_told :
    let p : Program := ⟨[⟨.acc, 3⟩, ⟨.nop, 5⟩, ⟨.acc, 1⟩], by decide +kernel⟩
    let patch : Option Patch := some ⟨1, ⟨.jmp, 5⟩⟩
    let s : State := ⟨0, 10, [2, 9]⟩
    let r : Recorder := ⟨true, 4, [⟨4, 7, .nop, 0⟩]⟩
    let recorded : Recorder :=
      ⟨true, 6, [⟨4, 7, .nop, 0⟩, ⟨5, 0, .acc, 13⟩, ⟨6, 1, .jmp, 13⟩]⟩
    let last : State := ⟨6, 13, [1, 0, 2, 9]⟩
    r.keepsTrace = true ∧ (p.spent s.visited).length = 1 ∧
      r.run p patch s = (recorded, last, .error (.failure (.outside 6 3))) ∧
      Recorder.turns p patch r.steps 3 r s = some (r.run p patch s) ∧
      p.Tells patch s last 4 [⟨5, 0, .acc, 13⟩, ⟨6, 1, .jmp, 13⟩] := by
  intro p patch s r recorded last
  have hrun : r.run p patch s = (recorded, last, .error (.failure (.outside 6 3))) := by
    decide +kernel
  have hturns : p.length < 3 + (p.spent s.visited).length := by decide +kernel
  have htold := a_run_is_told_step_by_step p patch s r rfl
  rw [hrun] at htold ⊢
  obtain ⟨hends, rows, hrows, htells, _⟩ := htold
  have htrace : r.trace ++ [⟨5, 0, .acc, 13⟩, ⟨6, 1, .jmp, 13⟩] = r.trace ++ rows :=
    congrArg Recorder.trace hrows
  obtain rfl := List.append_cancel_left htrace
  exact ⟨rfl, by decide +kernel, rfl, hends 3 hturns, htells⟩

end

end Unloop

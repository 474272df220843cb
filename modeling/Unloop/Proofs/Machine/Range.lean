-- The laws of the numbers that a run meets. A position is at most one jump
-- away from the program, and the accumulator grows by at most one offset in a
-- step, so the runs of a program that is short against the longest number that
-- can be written never meet a number that cannot.
import Unloop.Proofs.Machine.Path

namespace Unloop

open Number

/-- The greatest offset of a program, without its sign. -/
def Program.greatestOffset (p : Program) : Nat :=
  p.instructions.foldr (fun i greatest => max i.delta.natAbs greatest) 0

/-- The program is so short, and its offsets are so small, that every number
that a run can meet can be written. -/
def Program.Modest (p : Program) : Prop :=
  (p.length + 1) * (1 + p.greatestOffset) < tenTo digitLimit

instance (p : Program) : Decidable p.Modest := inferInstanceAs (Decidable (_ < _))

/-- The instruction that is laid over the program has no greater offset than
the program itself. -/
def Program.Covers (p : Program) (patch : Option Patch) : Prop :=
  ∀ q, patch = some q → q.instruction.delta.natAbs ≤ p.greatestOffset

section

variable {p q : Program} {patch : Option Patch} {s last : State} {ts : List Step} {t : Step}
  {m : Nat}

/-! ## Offsets -/

theorem natAbs_delta_le {i : Instruction} (h : i ∈ p.instructions) :
    i.delta.natAbs ≤ p.greatestOffset := by
  unfold Program.greatestOffset
  generalize p.instructions = is at h ⊢
  induction is with
  | nil => simp at h
  | cons j js ih =>
    rw [List.foldr_cons]
    rcases List.mem_cons.mp h with rfl | h
    · exact Nat.le_max_left _ _
    · exact Nat.le_trans (ih h) (Nat.le_max_right _ _)

theorem greatestOffset_le (h : ∀ i ∈ p.instructions, i.delta.natAbs ≤ m) :
    p.greatestOffset ≤ m := by
  unfold Program.greatestOffset
  generalize p.instructions = is at h ⊢
  induction is with
  | nil => exact Nat.zero_le m
  | cons j js ih =>
    rw [List.foldr_cons]
    exact Nat.max_le.mpr ⟨h j (by simp), ih fun i hi => h i (by simp [hi])⟩

/-- A program of the same length without greater offsets is modest as well. -/
theorem modest_of_le (h : p.Modest) (hlen : q.length = p.length)
    (hle : q.greatestOffset ≤ p.greatestOffset) : q.Modest := by
  unfold Program.Modest at *
  rw [hlen]
  exact Nat.lt_of_le_of_lt (Nat.mul_le_mul_left _ (by omega)) h

theorem covers_none (p : Program) : p.Covers none := by
  intro q hq
  cases hq

theorem natAbs_delta_of_takes (hpatch : p.Covers patch) (h : p.Takes patch t) :
    t.instruction.delta.natAbs ≤ p.greatestOffset := by
  have own : p.at? t.state.position = some t.instruction →
      t.instruction.delta.natAbs ≤ p.greatestOffset := by
    intro hi
    rw [at?_of_inside h.1.1] at hi
    exact natAbs_delta_le (List.mem_of_getElem? hi)
  have hi := h.2
  unfold Program.effective? at hi
  rcases patch with _ | q
  · exact own hi
  · simp only at hi
    split at hi
    · rw [Option.some.injEq] at hi
      exact hi ▸ hpatch q rfl
    · exact own hi

/-! ## Positions -/

/-- A step leads at most one offset away from the program. -/
theorem natAbs_position_next (hin : p.Inside t.state.position)
    (hm : t.instruction.delta.natAbs ≤ m) : t.next.position.natAbs ≤ p.length + m := by
  obtain ⟨hlow, hhigh⟩ := hin
  unfold Step.next State.after
  split <;> simp only <;> omega

theorem natAbs_position_of_path (hpatch : p.Covers patch) (h : p.Path patch s ts last)
    (hs : s.position.natAbs ≤ p.length + p.greatestOffset) :
    last.position.natAbs ≤ p.length + p.greatestOffset := by
  induction ts generalizing s with
  | nil =>
    obtain rfl : s = last := h
    exact hs
  | cons t ts ih =>
    obtain ⟨rfl, ht, hrest⟩ := h
    exact ih hrest (natAbs_position_next ht.1.1 (natAbs_delta_of_takes hpatch ht))

/-! ## Accumulators -/

theorem natAbs_accumulator_next (hm : t.instruction.delta.natAbs ≤ m) :
    t.next.accumulator.natAbs ≤ t.state.accumulator.natAbs + m := by
  unfold Step.next State.after
  split <;> simp only [State.mark] <;> omega

theorem natAbs_accumulator_of_path (hpatch : p.Covers patch) (h : p.Path patch s ts last) :
    last.accumulator.natAbs ≤ s.accumulator.natAbs + ts.length * p.greatestOffset := by
  induction ts generalizing s with
  | nil =>
    obtain rfl : s = last := h
    omega
  | cons t ts ih =>
    obtain ⟨rfl, ht, hrest⟩ := h
    have hrest := ih hrest
    have hnext := natAbs_accumulator_next (natAbs_delta_of_takes hpatch ht)
    rw [List.length_cons, Nat.succ_mul]
    omega

/-! ## Modest programs -/

theorem length_walk_le_length (p : Program) (patch : Option Patch) (s : State) :
    (p.walk patch s).steps.length ≤ p.length := by
  have h := p.length_walk_le patch s
  have hfresh := List.length_filter_le (fun n : Nat => decide ((n : Int) ∉ s.visited))
    (List.range p.length)
  rw [List.length_range] at hfresh
  exact Nat.le_trans h hfresh

theorem writable_of_outside (h : p.Modest) (hpatch : p.Covers patch) {x : Int}
    (hstop : (p.walk patch {}).stop = .outside x) : Writable x := by
  have hpos := natAbs_position_of_path hpatch (path_walk p patch {}) (Nat.zero_le _)
  obtain ⟨_, rfl⟩ := stop_eq_outside_iff.mp hstop
  simp only [Program.Modest, Nat.add_mul, Nat.mul_add] at h
  unfold Writable
  omega

theorem writable_of_terminated (h : p.Modest) (hpatch : p.Covers patch) {a : Int}
    (hstop : (p.walk patch {}).stop = .ending (.terminated a)) : Writable a := by
  have hacc := natAbs_accumulator_of_path hpatch (path_walk p patch {})
  obtain ⟨_, rfl⟩ := stop_eq_terminated_iff.mp hstop
  have hsteps := Nat.mul_le_mul_right p.greatestOffset (length_walk_le_length p patch {})
  have hzero : ({} : State).accumulator.natAbs = 0 := rfl
  simp only [Program.Modest, Nat.add_mul, Nat.mul_add] at h
  unfold Writable
  omega

theorem writable_length (h : p.Modest) : Writable p.length := by
  simp only [Program.Modest, Nat.add_mul, Nat.mul_add] at h
  unfold Writable
  omega

theorem writeNumber_of_writable {n : Int} (h : Writable n) : writeNumber n = .ok (numberText n) := by
  rw [writeNumber, text?, if_pos h]
  rfl

/-- A run that leaves a modest program can tell the position in its failure. -/
theorem isWritable_outside (h : p.Modest) {x : Int} (hx : Writable x) :
    (Failure.outside x p.length).isWritable = true := by
  simp only [Failure.isWritable, hx, writable_length h, decide_true, Bool.and_self]

theorem outside_of_modest (h : p.Modest) {x : Int} (hx : Writable x) :
    Fault.outside p x = .failure (.outside x p.length) :=
  Fault.of_eq_failure (isWritable_outside h hx)

end

end Unloop

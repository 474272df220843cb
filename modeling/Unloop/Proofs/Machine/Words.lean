-- The laws of runs whose numbers have 64 bits. A run adds an offset at most
-- once, since it executes no position twice, so its accumulator is within the
-- total of the offsets. What a run of a program that is not too long reports fits
-- into words, and so do the rows of its trace.
import Unloop.Proofs.Machine.Range
import Unloop.Proofs.Report
import Mathlib.Algebra.Order.BigOperators.Group.List
import Mathlib.Algebra.Order.Ring.Nat
import Mathlib.Data.List.Perm.Subperm

namespace Unloop

open Json Number

/-! ## The pure model -/

/-- The total of the offsets of a program, without their signs. -/
def Program.total (p : Program) : Nat := (p.instructions.map fun i => i.delta.natAbs).sum

/-- The program has fewer than `2 ^ 32` instructions, and the total of its
offsets is below `2 ^ 63`. -/
structure Program.Small (p : Program) : Prop where
  length : p.length < twoTo 32
  total : p.total < twoTo 63

/-- The program has fewer than `2 ^ 63` instructions, and the total of its offsets
is below that too. -/
structure Program.Medium (p : Program) : Prop where
  length : p.length < twoTo 63
  total : p.total < twoTo 63

/-- The offset at a position, without its sign. -/
def Program.share (p : Program) (x : Int) : Nat :=
  match p.at? x with
  | some i => i.delta.natAbs
  | none => 0

/-- Every number in the row is a word. -/
structure TraceRow.Fits (r : TraceRow) : Prop where
  step : inWordRange r.step = true
  position : inWordRange r.position = true
  accumulator : inWordRange r.accumulator = true

/-- The instruction that is laid over the program adds nothing. -/
def Patch.AddsNothing (patch : Option Patch) : Prop :=
  ∀ q, patch = some q → q.instruction.op ≠ .acc

section

variable {p : Program} {patch : Option Patch} {s last : State} {ts : List Step} {t : Step} {n : Int}
  {xs : List Int}

/-! ## Words -/

theorem inWordRange_of_natAbs (h : n.natAbs < twoTo 63) : inWordRange n = true := by
  rw [show twoTo 63 = 9223372036854775808 from rfl] at h
  rw [inWordRange, Bool.and_eq_true, decide_eq_true_eq, decide_eq_true_eq]
  omega

theorem inWordRange_natCast {n : Nat} (h : n < twoTo 64) : inWordRange n = true := by
  rw [show twoTo 64 = 18446744073709551616 from rfl] at h
  rw [inWordRange, Bool.and_eq_true, decide_eq_true_eq, decide_eq_true_eq]
  omega

/-- A number of 64 bits can be written. -/
theorem writable_of_inWordRange (h : inWordRange n = true) : Writable n := by
  have hlimit : 18446744073709551616 < tenTo digitLimit := by decide +kernel
  rw [inWordRange, Bool.and_eq_true, decide_eq_true_eq, decide_eq_true_eq] at h
  unfold Writable
  omega

/-! ## The total of the offsets -/

theorem share_natCast {n : Nat} (h : n < p.instructions.length) :
    p.share n = p.instructions[n].delta.natAbs := by
  unfold Program.share
  rw [at?_natCast, List.getElem?_eq_getElem h]

theorem shares_eq (p : Program) :
    (List.range p.length).map (fun n : Nat => p.share n) =
      p.instructions.map fun i => i.delta.natAbs := by
  apply List.ext_getElem
  · simp [Program.length]
  · intro n _ h
    rw [List.length_map] at h
    rw [List.getElem_map, List.getElem_map, List.getElem_range, share_natCast h]

/-- Positions that are all different have no more than the total. -/
theorem shares_le_total (hnodup : xs.Nodup) (hin : ∀ x ∈ xs, p.Inside x) :
    (xs.map p.share).sum ≤ p.total := by
  have hsub : xs ⊆ (List.range p.length).map Nat.cast := by
    intro x hx
    obtain ⟨hlow, hhigh⟩ := hin x hx
    exact List.mem_map.mpr ⟨x.toNat, List.mem_range.mpr (by omega), Int.toNat_of_nonneg hlow⟩
  obtain ⟨ys, hperm, hys⟩ := hnodup.subperm hsub
  calc (xs.map p.share).sum = (ys.map p.share).sum := ((hperm.map p.share).sum_nat).symm
    _ ≤ (((List.range p.length).map Nat.cast).map p.share).sum :=
      (hys.map p.share).sum_le_sum fun _ _ => Nat.zero_le _
    _ = p.total := by
      rw [List.map_map, Program.total, ← shares_eq]
      rfl

theorem greatestOffset_le_total (p : Program) : p.greatestOffset ≤ p.total := by
  apply greatestOffset_le
  intro i hi
  exact List.le_sum_of_mem (List.mem_map.mpr ⟨i, hi, rfl⟩)

theorem Program.Small.medium (h : p.Small) : p.Medium where
  length := Nat.lt_trans h.length (by decide)
  total := h.total

theorem Program.Medium.modest (h : p.Medium) : p.Modest := by
  have hoffset := Nat.lt_of_le_of_lt (greatestOffset_le_total p) h.total
  have hlimit : twoTo 63 * (1 + twoTo 63) < tenTo digitLimit := by decide +kernel
  refine Nat.lt_of_le_of_lt (Nat.mul_le_mul h.length ?_) hlimit
  omega

theorem Program.Small.modest (h : p.Small) : p.Modest := h.medium.modest

/-! ## Accumulators -/

/-- A step adds the offset at its position, or nothing. -/
theorem natAbs_accumulator_next_share (hpatch : Patch.AddsNothing patch) (h : p.Takes patch t) :
    t.next.accumulator.natAbs ≤ t.state.accumulator.natAbs + p.share t.state.position := by
  have hown : t.instruction.op = .acc → p.share t.state.position = t.instruction.delta.natAbs := by
    intro hop
    have hi := h.2
    unfold Program.effective? at hi
    have own : p.at? t.state.position = some t.instruction := by
      rcases patch with _ | q
      · exact hi
      · simp only at hi
        split at hi
        · rw [← Option.some.inj hi] at hop
          exact absurd hop (hpatch q rfl)
        · exact hi
    unfold Program.share
    rw [own]
  unfold Step.next State.after
  split
  · exact Nat.le_add_right _ _
  · rename_i hop
    rw [hown hop]
    exact Int.natAbs_add_le _ _
  · exact Nat.le_add_right _ _

theorem natAbs_accumulator_of_path_share (hpatch : Patch.AddsNothing patch)
    (h : p.Path patch s ts last) :
    last.accumulator.natAbs ≤ s.accumulator.natAbs + ((executed ts).map p.share).sum := by
  induction ts generalizing s with
  | nil =>
    obtain rfl : s = last := h
    exact Nat.le_add_right _ _
  | cons t ts ih =>
    obtain ⟨rfl, ht, hrest⟩ := h
    have hrest := ih hrest
    have hnext := natAbs_accumulator_next_share hpatch ht
    simp only [executed, List.map_cons, List.sum_cons] at hrest ⊢
    omega

theorem inside_of_path (h : p.Path patch s ts last) : ∀ x ∈ executed ts, p.Inside x := by
  intro x hx
  obtain ⟨t, ht, rfl⟩ := mem_executed.mp hx
  exact (takes_of_mem h ht).1.1

/-- A run that starts with nothing stays within the total. -/
theorem natAbs_accumulator_le_total (hpatch : Patch.AddsNothing patch)
    (h : p.Path patch {} ts last) : last.accumulator.natAbs ≤ p.total := by
  have hacc := natAbs_accumulator_of_path_share hpatch h
  have hshares := shares_le_total (nodup_executed h).1 (inside_of_path h)
  have hzero : ({} : State).accumulator.natAbs = 0 := rfl
  omega

theorem addsNothing_none : Patch.AddsNothing none := by
  intro q hq
  cases hq

/-! ## What a run reports -/

/-- A position inside a program that is not too long is a word. -/
theorem inWordRange_of_inside (h : p.Medium) (hin : p.Inside n) : inWordRange n = true := by
  have hlen := h.length
  obtain ⟨hlow, hhigh⟩ := hin
  apply inWordRange_of_natAbs
  omega

theorem inWordRange_of_le_length (h : p.Medium) {n : Nat} (hn : n ≤ p.length) :
    inWordRange n = true := by
  have hlen := h.length
  apply inWordRange_of_natAbs
  omega

/-- The accumulator of a run is a word wherever the run is. -/
theorem inWordRange_accumulator (h : p.Medium) (hpatch : Patch.AddsNothing patch)
    (hpath : p.Path patch {} ts last) : inWordRange last.accumulator = true :=
  inWordRange_of_natAbs
    (Nat.lt_of_le_of_lt (natAbs_accumulator_le_total hpatch hpath) h.total)

theorem wordsOnly_ofText? (o : Option String) : (Value.ofText? o).wordsOnly = true := by
  cases o <;> rfl

theorem inWordRange_of_le {m n : Nat} (h : m ≤ n) (hn : inWordRange n = true) :
    inWordRange m = true := by
  rw [inWordRange, Bool.and_eq_true, decide_eq_true_eq, decide_eq_true_eq] at hn ⊢
  omega

theorem accumulator_of_run {o : Outcome} (hrun : p.run patch s = .ok o) :
    o.ending.accumulator = (p.walk patch s).last.accumulator := by
  obtain ⟨hstop, _⟩ := run_eq_ok_iff.mp hrun
  cases he : o.ending with
  | terminated a =>
    rw [he] at hstop
    exact (stop_eq_terminated_iff.mp hstop).2.symm
  | looped a x =>
    rw [he] at hstop
    exact (stop_eq_looped_iff.mp hstop).2.1.symm

/-- The whole numbers in the report of a run are words exactly if the length of the
program and the accumulator are, since the steps are no more than the program is
long, and a loop is at a position inside. -/
theorem wordsOnly_report_iff {o : Outcome} (hrun : p.run patch s = .ok o)
    (traceHash : Option String) :
    (Report.run (o.report p traceHash)).toValue.wordsOnly = true ↔
      inWordRange p.length = true ∧ inWordRange o.ending.accumulator = true := by
  obtain ⟨hstop, hsteps⟩ := run_eq_ok_iff.mp hrun
  have hcount := length_walk_le_length p patch s
  rw [hsteps] at hcount
  constructor
  · intro h
    have hfield : ∀ m ∈ (o.report p traceHash).fields, m.2.wordsOnly = true :=
      membersWordsOnly_iff.mp h
    exact ⟨hfield ("length", .int p.length) (by simp [RunReport.fields, Outcome.report]),
      hfield ("accumulator", .int o.ending.accumulator) (by simp [RunReport.fields, Outcome.report])⟩
  · rintro ⟨hlen, hacc⟩
    have hsteps := inWordRange_of_le hcount hlen
    obtain ⟨e, k⟩ := o
    rcases e with a | ⟨a, x⟩
    · have hacc : inWordRange a = true := hacc
      simp [Report.toValue, Report.fields, RunReport.fields, Outcome.report, Provenance.fields,
        Value.wordsOnly, membersWordsOnly, Value.ofInt?, wordsOnly_ofText?, Ending.accumulator, hacc,
        hlen, hsteps]
    · have hacc : inWordRange a = true := hacc
      obtain ⟨⟨hlow, hhigh⟩, _, hx⟩ := stop_eq_looped_iff.mp hstop
      have hposition : inWordRange x = true := by
        rw [inWordRange, Bool.and_eq_true, decide_eq_true_eq, decide_eq_true_eq] at hlen ⊢
        omega
      simp [Report.toValue, Report.fields, RunReport.fields, Outcome.report, Provenance.fields,
        Value.wordsOnly, membersWordsOnly, Value.ofInt?, wordsOnly_ofText?, Ending.accumulator, hacc,
        hlen, hsteps, hposition]

/-- Every whole number in the report of a run from the start is a word. -/
theorem wordsOnly_outcome (h : p.Medium) {o : Outcome} (hrun : p.run none {} = .ok o)
    (traceHash : Option String) : (Report.run (o.report p traceHash)).toValue.wordsOnly = true := by
  rw [wordsOnly_report_iff hrun, accumulator_of_run hrun]
  exact ⟨inWordRange_of_le_length h (Nat.le_refl p.length),
    inWordRange_accumulator h addsNothing_none (path_walk p none {})⟩

/-! ## Traces -/

theorem path_to_next (h : p.Path patch s ts last) (ht : t ∈ ts) :
    ∃ before, p.Path patch s before t.next := by
  obtain ⟨before, rest, rfl⟩ := List.append_of_mem ht
  obtain ⟨mid, hbefore, hmid, hnext, _⟩ := path_append.mp h
  exact ⟨before ++ [t], path_append.mpr ⟨mid, hbefore, hmid, hnext, rfl⟩⟩

/-- The rows that are kept are those of the steps, numbered from the steps
counted before. -/
theorem mem_trace_foldl_note {row : TraceRow} {r : Recorder}
    (h : row ∈ (ts.foldl Recorder.note r).trace) :
    row ∈ r.trace ∨ row.step ≤ r.steps + ts.length ∧
      ∃ t ∈ ts, row.position = t.state.position ∧ row.accumulator = t.next.accumulator := by
  induction ts generalizing r with
  | nil => exact Or.inl h
  | cons t ts ih =>
    rcases ih h with hrow | ⟨hstep, u, hu, hposition, haccumulator⟩
    · have hnote : row ∈ r.trace ∨
          row = ⟨r.steps + 1, t.state.position, t.instruction.op, t.next.accumulator⟩ := by
        simp only [Recorder.note] at hrow
        split at hrow
        · simpa using hrow
        · exact Or.inl hrow
      rcases hnote with hrow | rfl
      · exact Or.inl hrow
      · refine Or.inr ⟨?_, t, by simp, rfl, rfl⟩
        dsimp only [List.length_cons]
        omega
    · refine Or.inr ⟨?_, u, List.mem_cons_of_mem _ hu, hposition, haccumulator⟩
      simp only [Recorder.note, List.length_cons] at hstep ⊢
      omega

/-- Every row of a trace is made of words. -/
theorem fits_of_mem_trace (h : p.Medium) {keeps : Bool} {row : TraceRow}
    (hrow : row ∈ (Recorder.run { keepsTrace := keeps } p none {}).1.trace) : row.Fits := by
  have hpath := path_walk p none {}
  rcases mem_trace_foldl_note hrow with hrow | ⟨hstep, t, ht, hposition, haccumulator⟩
  · cases hrow
  · obtain ⟨before, hnext⟩ := path_to_next hpath ht
    have hsteps := length_walk_le_length p none {}
    have hlen := h.length
    constructor
    · apply inWordRange_of_natAbs
      simp only at hstep
      omega
    · rw [hposition]
      exact inWordRange_of_inside h (takes_of_mem hpath ht).1.1
    · rw [haccumulator]
      exact inWordRange_accumulator h addsNothing_none hnext

theorem within_row (r : TraceRow) : r.toValue.Within 2 := by
  refine within_obj ?_ ?_
  · change ["step", "position", "op", "accumulator"].Nodup
    decide
  · simp only [List.forall_mem_cons, List.not_mem_nil, false_implies, implies_true, and_true]
    exact ⟨within_int _, within_int _, within_str _, within_int _⟩

theorem within_trace (r : Recorder) : r.traceValue.Within 3 := by
  apply within_arr
  intro v hv
  obtain ⟨row, _, rfl⟩ := List.mem_map.mp hv
  exact within_row row

theorem wordsOnly_trace {r : Recorder} (h : ∀ row ∈ r.trace, row.Fits) :
    r.traceValue.wordsOnly = true := by
  refine itemsWordsOnly_iff.mpr ?_
  intro v hv
  obtain ⟨row, hrow, rfl⟩ := List.mem_map.mp hv
  obtain ⟨hstep, hposition, haccumulator⟩ := h row hrow
  simp [TraceRow.toValue, Value.wordsOnly, membersWordsOnly, hstep, hposition, haccumulator]

end

end Unloop

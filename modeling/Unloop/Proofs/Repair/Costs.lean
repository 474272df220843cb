-- The laws of what a search costs. Each trial is one run and takes no more steps
-- than the program has instructions, and no candidate is tried twice. So every
-- number that the report of a repair of a small program tells is a word.
import Unloop.Proofs.Machine.Words
import Unloop.Proofs.Repair.Search

namespace Unloop

open Json Number
open Program (Candidate)

/-- The costs of a search after `trials` trials at most. -/
structure Stats.Within (s : Stats) (length trials : Nat) : Prop where
  runs : s.runs ≤ trials + 1
  tried : s.tried ≤ trials
  outside : s.outside ≤ trials
  steps : s.steps ≤ (trials + 1) * length

section

variable {p : Program} {s : Strategy} {t : TieBreak} {g : Progress} {trial : Trial}
  {ts : List Trial} {wanted : Option Fix → Candidate → Bool} {r : Repair} {k n : Nat}

/-! ## Costs -/

theorem within_mono {st : Stats} (h : st.Within n k) {m : Nat} (hm : k ≤ m) : st.Within n m where
  runs := Nat.le_trans h.runs (by omega)
  tried := Nat.le_trans h.tried hm
  outside := Nat.le_trans h.outside hm
  steps := Nat.le_trans h.steps (Nat.mul_le_mul_right n (by omega))

/-- A trial adds one run, and the steps of one run. -/
theorem within_make (h : g.stats.Within p.length k) :
    (g.make p trial).stats.Within p.length (k + 1) := by
  have hwalk := length_walk_le_length p (some trial.candidate.patch) trial.start
  have hcount : (g.count (p.walk (some trial.candidate.patch) trial.start)).stats.Within p.length
      (k + 1) := by
    obtain ⟨hruns, htried, houtside, hsteps⟩ := h
    refine ⟨?_, ?_, Nat.le_succ_of_le houtside, ?_⟩
    · exact Nat.succ_le_succ hruns
    · exact Nat.succ_le_succ htried
    · rw [Nat.succ_mul]
      exact Nat.add_le_add hsteps hwalk
  have houtside := h.outside
  unfold Progress.make
  dsimp only
  split
  · exact hcount
  · exact hcount
  · split
    · exact ⟨hcount.runs, hcount.tried, Nat.succ_le_succ houtside, hcount.steps⟩
    · exact hcount

theorem within_sweep (h : g.stats.Within p.length k) :
    (g.sweep p wanted ts).stats.Within p.length (k + ts.length) := by
  unfold Progress.sweep
  induction ts generalizing g k with
  | nil => exact h
  | cons trial ts ih =>
    rw [List.foldl_cons, List.length_cons, Nat.add_comm ts.length, ← Nat.add_assoc]
    apply ih
    split
    · exact within_make h
    · exact within_mono h (Nat.le_succ k)

theorem within_afterBase (p : Program) : (Progress.afterBase p).stats.Within p.length 0 where
  runs := Nat.le_refl 1
  tried := Nat.le_refl 0
  outside := Nat.le_refl 0
  steps := by
    rw [Nat.zero_add, Nat.one_mul]
    exact length_walk_le_length p none {}

theorem length_candidates_le (p : Program) : p.candidates.length ≤ p.length := by
  have hle := List.length_filterMap_le (fun x : Instruction × Nat => Program.candidateOf x.1 x.2)
    p.instructions.zipIdx
  rw [List.length_zipIdx] at hle
  exact hle

/-- A search makes no more trials than there are instructions. -/
theorem within_progress (p : Program) (s : Strategy) (t : TieBreak) :
    (p.progress s t).stats.Within p.length p.length := by
  cases s with
  | naive =>
    have hsweep : (p.progress .naive t).stats.Within p.length (0 + p.freshTrials.length) :=
      within_sweep (within_afterBase p)
    rw [Nat.zero_add, Program.freshTrials, List.length_map] at hsweep
    exact within_mono hsweep (length_candidates_le p)
  | speculative =>
    have hsweep : (p.progress .speculative t).stats.Within p.length
        (0 + p.baseWalk.branches.length) := within_sweep (within_afterBase p)
    rw [Nat.zero_add] at hsweep
    apply within_mono hsweep
    exact Nat.le_trans (List.length_filterMap_le _ _) (length_walk_le_length p none {})

/-! ## What a repair reports -/

theorem addsNothing_of_mem_candidates {c : Candidate} (h : c ∈ p.candidates) :
    Patch.AddsNothing (some c.patch) := by
  rintro q hq hop
  cases hq
  have hacc : c.replacement.flip? = none := Instruction.flip?_eq_none_iff.mpr hop
  rw [Instruction.flip?_flip? (mem_candidates.mp h).2] at hacc
  cases hacc

/-- A repair tells what its search cost. -/
theorem stats_of_repair (h : p.Modest) (hr : (p.locate s t).result = .ok r) :
    r.stats = (p.progress s t).stats := by
  have hfound := found_of_repair h hr
  rw [found_of_some (best_of_repair h hr)] at hfound
  exact (congrArg Repair.stats (Except.ok.inj hfound)).symm

/-- The numbers of a repair are words. -/
structure Repair.Fits (r : Repair) : Prop where
  position : inWordRange r.position = true
  accumulator : inWordRange r.accumulator = true
  runs : inWordRange r.stats.runs = true
  steps : inWordRange r.stats.steps = true
  tried : inWordRange r.stats.tried = true
  outside : inWordRange r.stats.outside = true

/-- The numbers of a repair can be written. -/
structure Repair.Legible (r : Repair) : Prop where
  position : Writable r.position
  accumulator : Writable r.accumulator
  runs : Writable r.stats.runs
  steps : Writable r.stats.steps
  tried : Writable r.stats.tried

/-- A search takes no more steps than each instruction as many trials. -/
theorem steps_of_repair (h : p.Modest) (hr : (p.locate s t).result = .ok r) :
    r.stats.steps ≤ (p.length + 1) * p.length := by
  rw [stats_of_repair h hr]
  exact (within_progress p s t).steps

/-- The numbers of a repair are words, but for its steps. -/
theorem words_of_repair (h : p.Medium) (hr : (p.locate s t).result = .ok r) :
    inWordRange r.position = true ∧ inWordRange r.accumulator = true ∧
      inWordRange r.stats.runs = true ∧ inWordRange r.stats.tried = true ∧
      inWordRange r.stats.outside = true := by
  obtain ⟨_, hc, hfix⟩ := fix_of_repair h.modest hr
  obtain ⟨hruns, htried, houtside, _⟩ := within_progress p s t
  rw [← stats_of_repair h.modest hr] at hruns htried houtside
  obtain ⟨_, hstop⟩ := fix?_eq_some_iff.mp hfix
  obtain ⟨_, hacc⟩ := stop_eq_terminated_iff.mp hstop
  have hlen := h.length
  have hword : twoTo 63 < twoTo 64 := by decide
  refine ⟨inWordRange_of_inside h (inside_of_mem_candidates hc), ?_, inWordRange_natCast (by omega),
    inWordRange_of_le_length h htried, inWordRange_of_le_length h houtside⟩
  have hlast := inWordRange_accumulator h (addsNothing_of_mem_candidates hc)
    (path_walk p (some r.fix.candidate.patch) {})
  rw [hacc] at hlast
  exact hlast

/-- The numbers of a repair are words if its steps are. -/
theorem fits_of_steps (h : p.Medium) (hr : (p.locate s t).result = .ok r)
    (hsteps : inWordRange r.stats.steps = true) : r.Fits := by
  obtain ⟨hposition, haccumulator, hruns, htried, houtside⟩ := words_of_repair h hr
  exact ⟨hposition, haccumulator, hruns, hsteps, htried, houtside⟩

/-- The steps of a repair may be no word, but they can always be written. -/
theorem legible_of_repair (h : p.Medium) (hr : (p.locate s t).result = .ok r) : r.Legible := by
  obtain ⟨hposition, haccumulator, hruns, htried, _⟩ := words_of_repair h hr
  have hsquare : (p.length + 1) * p.length < tenTo digitLimit :=
    calc (p.length + 1) * p.length ≤ twoTo 63 * twoTo 63 := Nat.mul_le_mul h.length h.length.le
      _ < tenTo digitLimit := by decide +kernel
  refine ⟨writable_of_inWordRange hposition, writable_of_inWordRange haccumulator,
    writable_of_inWordRange hruns, ?_, writable_of_inWordRange htried⟩
  exact Nat.lt_of_le_of_lt (steps_of_repair h.modest hr) hsquare

theorem fits_of_repair (h : p.Small) (hr : (p.locate s t).result = .ok r) : r.Fits := by
  have hlen := h.length
  have hsquare : (p.length + 1) * p.length < twoTo 64 :=
    calc (p.length + 1) * p.length ≤ twoTo 32 * p.length := Nat.mul_le_mul_right _ hlen
      _ < twoTo 32 * twoTo 32 := Nat.mul_lt_mul_of_pos_left hlen (twoTo_pos 32)
      _ = twoTo 64 := rfl
  apply fits_of_steps h.medium hr
  exact inWordRange_natCast (Nat.lt_of_le_of_lt (steps_of_repair h.modest hr) hsquare)

theorem wordsOnly_ofBool? (o : Option Bool) : (Value.ofBool? o).wordsOnly = true := by
  cases o <;> rfl

/-- Every whole number in the report of a repair is a word exactly if those of the
repair are. -/
theorem wordsOnly_repair_iff (p : Program) (verified : Option Bool) :
    (Report.repair (r.report p verified)).toValue.wordsOnly = true ↔ r.Fits := by
  simp only [Report.toValue, Report.fields, RepairReport.fields, Repair.report, Provenance.fields,
    List.cons_append, List.nil_append, Value.wordsOnly, membersWordsOnly, wordsOnly_ofBool?,
    Bool.and_true, Bool.true_and, Bool.and_eq_true]
  constructor
  · rintro ⟨hposition, haccumulator, hruns, hsteps, htried, houtside⟩
    exact ⟨hposition, haccumulator, hruns, hsteps, htried, houtside⟩
  · rintro ⟨hposition, haccumulator, hruns, hsteps, htried, houtside⟩
    exact ⟨hposition, haccumulator, hruns, hsteps, htried, houtside⟩

end

end Unloop

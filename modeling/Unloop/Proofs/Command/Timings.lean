-- The laws of timings. Times of 63 bits have a least one and a mean that round
-- to finite numbers, so a comparison of a small program can be told whenever
-- its searches are done.
import Unloop.Command.Actions
import Unloop.Proofs.Number.Size
import Unloop.Proofs.Repair.Costs

namespace Unloop

open Json Number
open Command (timingOf checkTiming benchReport least mean)

/-! ## The pure model -/

/-- Every time is within 63 bits, with either sign. -/
def AreBrief (ds : List Int) : Prop := ∀ d ∈ ds, d.natAbs < twoTo 63

/-- The whole numbers of a timing are words, and its times are finite. -/
structure Timing.Fits (t : Timing) : Prop where
  repeats : inWordRange t.repeats = true
  runs : inWordRange t.runs = true
  steps : inWordRange t.steps = true
  position : inWordRange t.position = true
  accumulator : inWordRange t.accumulator = true
  best : t.bestMs.isFinite = true
  mean : t.meanMs.isFinite = true

/-- The numbers of a timing that its table tells can be written. -/
structure Timing.Legible (t : Timing) : Prop where
  runs : Writable t.runs
  steps : Writable t.steps
  position : Writable t.position
  accumulator : Writable t.accumulator

section

variable {ds : List Int} {d : Int} {r : Repair} {n : Nat} {p : Program} {ts : List Timing}

/-! ## The least time and the mean -/

theorem foldl_min_mem (ds : List Int) (d : Int) : ds.foldl min d ∈ d :: ds := by
  induction ds generalizing d with
  | nil => simp
  | cons e ds ih =>
    rw [List.foldl_cons]
    rcases List.mem_cons.mp (ih (min d e)) with h | h
    · rw [h]
      rcases min_choice d e with h | h <;> simp [h]
    · exact List.mem_cons_of_mem _ (List.mem_cons_of_mem _ h)

theorem natAbs_least_lt (h : AreBrief ds) : (least ds).natAbs < twoTo 63 := by
  cases ds with
  | nil => exact twoTo_pos 63
  | cons d ds => exact h _ (foldl_min_mem ds d)

theorem natAbs_sum_le (h : AreBrief ds) (d : Int) :
    (ds.foldl (· + ·) d).natAbs ≤ d.natAbs + ds.length * twoTo 63 := by
  induction ds generalizing d with
  | nil => exact Nat.le_add_right _ _
  | cons e ds ih =>
    obtain ⟨he, hds⟩ := List.forall_mem_cons.mp h
    have hrest := ih hds (d + e)
    have hstep := Int.natAbs_add_le d e
    rw [List.foldl_cons, List.length_cons, Nat.succ_mul]
    omega

/-- A ratio of nanoseconds that is at most `2 ^ 63` is a finite number of
milliseconds. -/
theorem isFinite_milliseconds (negative : Bool) {a b : Nat} (hb : 0 < b) (h : a ≤ b * twoTo 63) :
    ((Double.ofRatio negative a b).divNat Command.perMillisecond).isFinite = true := by
  obtain ⟨x, hx, hexp⟩ := ofRatio_of_le negative hb h (by decide)
  rw [hx]
  exact isFinite_divNat hexp (by decide) (by decide)

theorem isFinite_best (h : AreBrief ds) :
    ((Double.ofInt (least ds)).divNat Command.perMillisecond).isFinite = true := by
  apply isFinite_milliseconds _ Nat.one_pos
  rw [Nat.one_mul]
  exact (natAbs_least_lt h).le

theorem isFinite_mean (h : AreBrief ds) (hne : ds ≠ []) :
    ((mean ds).divNat Command.perMillisecond).isFinite = true := by
  apply isFinite_milliseconds _ (List.length_pos_iff.mpr hne)
  simpa using natAbs_sum_le h 0

/-! ## Timings -/

theorem legible_timingOf (hr : r.Legible) (s : Strategy) : (timingOf s n r ds).Legible where
  runs := hr.runs
  steps := hr.steps
  position := hr.position
  accumulator := hr.accumulator

/-- The timing of some searches that took brief times. -/
theorem fits_timingOf (hr : r.Fits) (h : AreBrief ds) (hne : ds ≠ [])
    (hn : inWordRange n = true) (s : Strategy) : (timingOf s n r ds).Fits where
  repeats := hn
  runs := hr.runs
  steps := hr.steps
  position := hr.position
  accumulator := hr.accumulator
  best := isFinite_best h
  mean := isFinite_mean h hne

theorem checkTiming_of_finite {t : Timing} (hbest : t.bestMs.isFinite = true)
    (hmean : t.meanMs.isFinite = true) : checkTiming t = .ok t := by
  unfold checkTiming
  rw [hbest, hmean]
  rfl

/-! ## What a comparison reports -/

theorem wordsOnly_timing_iff {t : Timing} (hbest : t.bestMs.isFinite = true)
    (hmean : t.meanMs.isFinite = true) : (Value.obj t.fields).wordsOnly = true ↔ t.Fits := by
  simp only [Timing.fields, Value.wordsOnly, membersWordsOnly, Bool.and_true, Bool.true_and,
    Bool.and_eq_true]
  constructor
  · rintro ⟨hrepeats, hruns, hsteps, hposition, haccumulator⟩
    exact ⟨hrepeats, hruns, hsteps, hposition, haccumulator, hbest, hmean⟩
  · rintro ⟨hrepeats, hruns, hsteps, hposition, haccumulator, _, _⟩
    exact ⟨hrepeats, hruns, hsteps, hposition, haccumulator⟩

/-- Every whole number in the report of a comparison is a word exactly if those of
its timings are. -/
theorem wordsOnly_bench_iff (hp : p.Medium) {tie : TieBreak}
    (h : (Report.bench (benchReport p tie ts)).HasFiniteFloats) :
    (Report.bench (benchReport p tie ts)).toValue.wordsOnly = true ↔ ∀ t ∈ ts, t.Fits := by
  have hlength := inWordRange_of_le_length hp (Nat.le_refl p.length)
  have htimings :
      itemsWordsOnly (ts.map fun t => .obj t.fields) = true ↔ ∀ t ∈ ts, t.Fits := by
    rw [itemsWordsOnly_iff, List.forall_mem_map]
    exact forall₂_congr fun t ht => wordsOnly_timing_iff (h t ht).1 (h t ht).2
  rw [← htimings]
  simp [Report.toValue, Report.fields, BenchReport.fields, benchReport, Provenance.fields,
    Program.provenance, Value.wordsOnly, membersWordsOnly, hlength]

end

end Unloop

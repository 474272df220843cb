-- What the commands on a program find, and that they note it. Whatever the
-- program is, every number that a report of it tells is a word, so each report
-- can be noted, hashed and printed.
import Unloop.Proofs.Command.Sessions
import Unloop.Proofs.Command.Timings
import Unloop.Proofs.Repair.Soundness

namespace Unloop.Command

open Json Number Text

section

variable {s : Shell} {program path journal : String} {bytes : Bytes} {es : List Entry}
  {done results : List EntryEvent} {m : Manner} {p : Program}

/-! ## Following the loop -/

theorem gives_traceTable {rows : List TraceRow} (hrows : ∀ row ∈ rows, row.Fits) :
    Gives (traceTable rows) s fun _ s' => s' = s := by
  unfold traceTable
  refine ends_bind_of_gives (gives_rows fun row hrow => ?_) fun _ s' hsame => ends_pure hsame
  have hfits := hrows row hrow
  exact ends_shown_bind (writable_of_inWordRange hfits.position)
    (ends_shown_bind (writable_of_inWordRange hfits.accumulator) (ends_pure rfl))

theorem word_accumulator {r : RunReport} (h : (Report.run r).toValue.wordsOnly = true) :
    inWordRange r.accumulator = true :=
  membersWordsOnly_iff.mp h ("accumulator", .int r.accumulator)
    (by simp [Report.fields, RunReport.fields])

theorem word_loopPosition {r : RunReport} (h : (Report.run r).toValue.wordsOnly = true)
    {position : Int} (hposition : r.loopPosition = some position) : inWordRange position = true :=
  membersWordsOnly_iff.mp h ("loop_position", .int position)
    (by simp [Report.fields, RunReport.fields, hposition, Value.ofInt?])

theorem gives_endLine {r : RunReport} (h : (Report.run r).toValue.wordsOnly = true) :
    Gives (endLine r) s fun _ s' => s' = s := by
  unfold endLine
  refine ends_shown_bind (writable_of_inWordRange (word_accumulator h)) ?_
  rcases hposition : r.loopPosition with _ | position
  · exact ends_pure rfl
  · have hword := word_loopPosition h hposition
    exact ends_shown_bind (writable_of_inWordRange hword) (ends_pure rfl)

theorem traceHash_of_fits {recorder : Recorder} (h : ∀ row ∈ recorder.trace, row.Fits) :
    ∃ hash, recorder.traceHash = .ok hash := by
  have hwritable : recorder.traceValue.isWritable = true := by
    rw [isWritable_of_within (within_trace recorder) (by decide)]
    exact wordsOnly_trace h
  exact ⟨_, orFault_eq_ok_iff.mpr (hash?_eq_some_iff.mpr ⟨hwritable, rfl⟩)⟩

/-- The report of a run can be written, also with the trace after it. -/
theorem isWritable_traced {r : RunReport} {recorder : Recorder}
    (h : (Report.run r).toValue.wordsOnly = true) (hrows : ∀ row ∈ recorder.trace, row.Fits)
    (keeps : Bool) :
    (Value.obj (r.fields ++ if keeps then [("trace", recorder.traceValue)] else [])).isWritable =
      true := by
  have hfields := within_fields (r := .run r) trivial
  have htrace : ∀ m ∈ if keeps then [("trace", recorder.traceValue)] else [],
      m.2.wordsOnly = true ∧ m.2.height ≤ 5 := by
    cases keeps with
    | false => simp
    | true =>
      have hwithin := within_trace recorder
      simpa using ⟨wordsOnly_trace hrows, Nat.le_trans hwithin.2 (by decide)⟩
  refine (isWritable_obj_iff (List.forall_mem_append.mpr ⟨fun m hm => ?_, ?_⟩)).mpr
    (List.forall_mem_append.mpr ⟨membersWordsOnly_iff.mp h, fun m hm => (htrace m hm).1⟩)
  · exact Nat.le_trans (hfields m hm).2 (by decide)
  · exact fun m hm => (htrace m hm).2

/-- A trace has a hash, if it is kept. -/
theorem gives_traceHash {recorder : Recorder} (h : ∀ row ∈ recorder.trace, row.Fits)
    (keeps : Bool) (s : Shell) :
    Gives (if keeps then some <$> orCrash recorder.traceHash else pure none) s
      fun _ s' => s' = s := by
  obtain ⟨hash, hhash⟩ := traceHash_of_fits h
  split
  · exact ends_map (ends_orCrash hhash rfl)
  · exact ends_pure rfl

/-- The end of a run is printed, after its trace if that is kept. -/
theorem gives_printRun {r : RunReport} {recorder : Recorder}
    (h : (Report.run r).toValue.wordsOnly = true) (hrows : ∀ row ∈ recorder.trace, row.Fits)
    (keeps : Bool) (s : Shell) :
    Gives (do
        if keeps then printTable (← traceTable recorder.trace)
        print (← endLine r)) s
      fun _ s' => Beside s s' := by
  have hend : ∀ s, Gives (do print (← endLine r)) s fun _ s' => Beside s s' := by
    intro s
    refine ends_bind_of_gives (gives_endLine h) ?_
    rintro line _ rfl
    exact gives_printLines _ _
  by_cases hkeeps : keeps = true
  · rw [if_pos hkeeps]
    refine ends_bind_of_gives (gives_traceTable hrows) ?_
    rintro table _ rfl
    refine ends_bind_of_gives (gives_printLines _ _) fun _ s₁ hprinted => ?_
    exact ends_of_gives (hend s₁) fun _ _ hended => beside_trans hprinted hended
  · rw [if_neg hkeeps]
    exact hend s

/-- What is found of a run and of its repair can be written exactly if both are made
of words. -/
theorem isWritable_both_iff {first : RunReport} {second : RepairReport} :
    (Value.obj [("run", .obj first.fields), ("repair", .obj second.fields)]).isWritable = true ↔
      (Report.run first).toValue.wordsOnly = true ∧
        (Report.repair second).toValue.wordsOnly = true := by
  have hrun := within_report (r := .run first) trivial
  have hrepair := within_report (r := .repair second) trivial
  rw [isWritable_obj_iff]
  · simp [Report.toValue, Report.fields]
  · simp only [List.forall_mem_cons, List.not_mem_nil, false_implies, implies_true, and_true]
    exact ⟨Nat.le_trans hrun.2 (by decide), Nat.le_trans hrepair.2 (by decide)⟩

theorem gives_repairTable {repair : Repair} (h : repair.Legible) (p : Program)
    (verified : Option Bool) :
    Gives (repairTable (repair.report p verified)) s fun _ s' => s' = s := by
  unfold repairTable
  refine ends_shown_bind h.position (ends_shown_bind h.accumulator ?_)
  refine ends_shown_bind h.runs (ends_shown_bind h.steps (ends_shown_bind h.tried ?_))
  exact ends_pure rfl

/-- The report of a repair can be written with its hash after it exactly if it is made
of words. -/
theorem isWritable_hashed_iff {r : RepairReport} (hash : String) :
    (Value.obj (r.fields ++ [("report_hash", .str hash)])).isWritable = true ↔
      (Report.repair r).toValue.wordsOnly = true := by
  have hfields := within_fields (r := .repair r) trivial
  rw [isWritable_obj_iff]
  · rw [List.forall_mem_append, List.forall_mem_singleton]
    exact (and_iff_left rfl).trans membersWordsOnly_iff.symm
  · refine List.forall_mem_append.mpr ⟨fun m hm => ?_, ?_⟩
    · exact Nat.le_trans (hfields m hm).2 (by decide)
    · exact List.forall_mem_singleton.mpr (Nat.le_trans (within_str hash).2 (by decide))

/-- A repair that is verified holds. -/
theorem gives_verified {strategy : Strategy} {tieBreak : TieBreak} {repair : Repair}
    (hp : p.Modest) (hrepair : (p.locate strategy tieBreak).result = .ok repair) (verify : Bool)
    (s : Shell) :
    Gives (if verify then some <$> orCrash (repair.verify p) else pure none) s
      fun verified s' => s' = s ∧ verified ≠ some false := by
  obtain ⟨_, _, hfix⟩ := fix_of_repair hp hrepair
  split
  · exact ends_map (ends_orCrash (verify_of_fix hfix) ⟨rfl, by simp⟩)
  · exact ends_pure ⟨rfl, by simp⟩

/-- Each search finds a repair that is wanted and takes a brief time, or stops the
command, in states that neither a search nor the clock make different. -/
theorem ends_timed {keeps : Shell → Prop} {wanted : Repair → Prop} {stopped : Halt → Shell → Prop}
    {strategy : Strategy} {tieBreak : TieBreak} (hs : keeps s)
    (hbeside : ∀ {s s'}, keeps s → Beside s s' → keeps s') (hclock : ∀ {s}, keeps s → s.clock.Brief)
    (hlocate : ∀ {s}, keeps s →
      Ends (locate p strategy tieBreak) s (fun r s' => keeps s' ∧ wanted r) stopped)
    (repeats : Nat) :
    Ends (timed p strategy tieBreak repeats) s
      (fun found s' => keeps s' ∧ found.length = repeats ∧ (∀ x ∈ found, wanted x.1) ∧
        AreBrief (found.map Prod.snd))
      stopped := by
  induction repeats generalizing s with
  | zero => exact ends_pure ⟨hs, rfl, by simp, by simp [AreBrief]⟩
  | succ repeats ih =>
    refine ends_bind_of_gives (gives_lap (hclock hs)) ?_
    rintro start s₁ ⟨hlap, hstart⟩
    refine ends_bind (hlocate (hbeside hs hlap)) ?_
    rintro repair s₂ ⟨hs₂, hwanted⟩
    refine ends_bind_of_gives (gives_lap (hclock hs₂)) ?_
    rintro finish s₃ ⟨hlap, hfinish⟩
    refine ends_bind (ih (hbeside hs₂ hlap)) ?_
    rintro found s₄ ⟨hs₄, hlength, hall, hbrief⟩
    refine ends_pure ⟨hs₄, by rw [List.length_cons, hlength],
      List.forall_mem_cons.mpr ⟨hwanted, hall⟩, ?_⟩
    exact List.forall_mem_cons.mpr ⟨by omega, hbrief⟩

/-- A strategy that is timed at least once has one timing, of a repair that is wanted. -/
theorem ends_timing_of_locate {keeps : Shell → Prop} {wanted : Repair → Prop}
    {stopped : Halt → Shell → Prop} {strategy : Strategy} {tieBreak : TieBreak} {repeats : Nat}
    (hs : keeps s) (hbeside : ∀ {s s'}, keeps s → Beside s s' → keeps s')
    (hclock : ∀ {s}, keeps s → s.clock.Brief)
    (hlocate : ∀ {s}, keeps s →
      Ends (locate p strategy tieBreak) s (fun r s' => keeps s' ∧ wanted r) stopped)
    (hrepeats : 0 < repeats) :
    Ends (timing p tieBreak repeats strategy) s
      (fun ts s' => keeps s' ∧ ∃ repair ds, wanted repair ∧ AreBrief ds ∧ ds ≠ [] ∧
        ts = [timingOf strategy repeats repair ds])
      stopped := by
  refine ends_bind (ends_timed hs hbeside hclock hlocate repeats) ?_
  rintro found s₁ ⟨hs₁, hlength, hall, hbrief⟩
  have hne : found ≠ [] := List.ne_nil_of_length_pos (by omega)
  have hdurations : found.map Prod.snd ≠ [] := by simpa using hne
  have hwanted := hall _ (List.getLast_mem hne)
  rw [List.getLast?_eq_getLast_of_ne_nil hne, Option.toList_some, List.mapM_cons, List.mapM_nil]
  have hchecked := checkTiming_of_finite
    (t := timingOf strategy repeats (found.getLast hne).1 (found.map Prod.snd))
    (isFinite_best hbrief) (isFinite_mean hbrief hdurations)
  exact ends_orCrash_bind hchecked (ends_pure ⟨hs₁, _, _, hwanted, hbrief, hdurations, rfl⟩)

theorem gives_benchTable {b : BenchReport} (h : ∀ t ∈ b.timings, t.Legible) (repeats : Nat) :
    Gives (benchTable b repeats) s fun _ s' => s' = s := by
  unfold benchTable
  refine ends_bind_of_gives (gives_rows fun t ht => ?_) fun _ s' hsame => ends_pure hsame
  have hlegible := h t ht
  refine ends_shown_bind hlegible.runs (ends_shown_bind hlegible.steps ?_)
  exact ends_shown_bind hlegible.position (ends_shown_bind hlegible.accumulator (ends_pure rfl))

end

end Unloop.Command

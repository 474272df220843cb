-- Runs that are reported. The machine counts without bounds, and a canonical text
-- holds whole numbers of 64 bits only. So the report of a run has a hash, and a
-- journal takes it, exactly if the accumulator at the end is such a number.
import Unloop.Proofs.Journal.Verdict
import Unloop.Proofs.Journal.Logbook
import Unloop.Proofs.Machine.Words
import Unloop.Program.Listing

namespace Unloop

open Form Json Number Text

/-! ## The pure model -/

/-- The length of the program and the accumulator at the end are words. -/
def Outcome.FitsReport (o : Outcome) (p : Program) : Prop :=
  inWordRange p.length = true ∧ inWordRange o.ending.accumulator = true

/-- The report of a run, as a journal is asked to write it down. -/
def Outcome.request (o : Outcome) (p : Program) (traceHash : Option String) : Request :=
  .record (.run (o.report p traceHash))

section

variable {p : Program} {patch : Option Patch} {s : State} {o : Outcome} {r : Report} {d : Draft}
  {ts : Int} {prev : String} {n : Nat} {a : Journal.Appended}

/-! ## The hash of a report -/

theorem isWritable_identity_run (r : RunReport) :
    (Value.obj (Report.run r).identity).isWritable = (Report.run r).toValue.wordsOnly :=
  isWritable_of_within (within_report (r := .run r) trivial) (by decide)

/-- The report of a run has a hash where its numbers are words, and none where not. -/
theorem hash_of_fitsReport (hrun : p.run patch s = .ok o) (h : o.FitsReport p)
    (traceHash : Option String) : ∃ t, (Report.run (o.report p traceHash)).hash = .ok t :=
  hash_of_wordsOnly trivial ((wordsOnly_report_iff hrun traceHash).mpr h)

theorem hash_of_not_fitsReport (hrun : p.run patch s = .ok o) (h : ¬ o.FitsReport p)
    (traceHash : Option String) :
    (Report.run (o.report p traceHash)).hash = .error .unwritable := by
  rw [Outcome.FitsReport, ← wordsOnly_report_iff hrun traceHash, Bool.not_eq_true] at h
  rw [reportHash_eq_error_iff, isWritable_identity_run]
  exact ⟨h, rfl⟩

/-- Every run of a small program from the start has a report with a hash. -/
theorem fitsReport_of_small (h : p.Small) (hrun : p.run none {} = .ok o) : o.FitsReport p :=
  (wordsOnly_report_iff hrun none).mp (wordsOnly_outcome h.medium hrun none)

/-! ## The entry of a report -/

/-- The entry of a report holds the report. -/
theorem report?_of_record (hd : Draft.record r = .ok d)
    (ha : (⟨n, .str prev⟩ : Journal).append ts d = .ok a) :
    a.entry.stored.report? = some (.ok r) := by
  obtain ⟨event, hevent, hrest⟩ := bind_eq_ok_iff.mp hd
  obtain ⟨t, _, hdraft⟩ := bind_eq_ok_iff.mp hrest
  obtain rfl := Except.ok.inj hdraft
  obtain ⟨_, _, he, _⟩ := append_eq_ok_iff.mp ha
  rw [orFault_eq_ok_iff] at hevent
  rw [he]
  change (EntryEvent.reportKind? event).map _ = _
  rw [kind_of_ofReport? hevent]
  exact congrArg some (ofValue_stored r)

theorem report?_of_write {l : Logbook} (hjournal : l.journal = ⟨n, .str prev⟩)
    (ha : l.write ts (.record r) = .ok a) : a.entry.stored.report? = some (.ok r) := by
  obtain ⟨d, hd, happend⟩ := bind_eq_ok_iff.mp ha
  rw [hjournal] at happend
  exact report?_of_record hd happend

/-- A report without a hash is not written down. -/
theorem write_of_hash_eq_error {l : Logbook} {fault : Fault}
    (hevent : (EntryEvent.ofReport? r).isSome = true) (h : r.hash = .error fault) :
    l.write ts (.record r) = .error fault := by
  obtain ⟨event, hevent⟩ := Option.isSome_iff_exists.mp hevent
  have hdraft : Draft.record r = .error fault := by
    rw [Draft.record, hevent, h]
    rfl
  rw [Logbook.write, Request.draft, hdraft]
  rfl

/-! ## Runs of one instruction -/

/-- The program that adds a number. -/
def Program.adding (n : Int) (h : Writable n) : Program :=
  ⟨[⟨.acc, n⟩], List.forall_mem_singleton.mpr h⟩

/-- Every number that a program can hold is the accumulator of a run. -/
theorem run_adding {n : Int} {h : Writable n} :
    (Program.adding n h).run none {} = .ok ⟨.terminated n, 1⟩ := by
  have hstart : (Program.adding n h).Continues {} :=
    ⟨⟨Int.le_refl 0, Int.zero_lt_one⟩, List.not_mem_nil⟩
  have hend : ∀ s : State, s.position = 1 → ¬ (Program.adding n h).Continues s := by
    rintro s hs ⟨⟨_, hinside⟩, _⟩
    rw [hs] at hinside
    exact absurd hinside (Int.lt_irrefl 1)
  rw [Program.run, Program.walk_of_continues hstart, Program.walk_of_not_continues (hend _ rfl)]
  change Except.ok (Outcome.mk (.terminated (0 + n)) 1) = _
  rw [Int.zero_add]

theorem fitsReport_adding {n : Int} {h : Writable n} {k : Nat} :
    Outcome.FitsReport ⟨.terminated n, k⟩ (Program.adding n h) ↔ inWordRange n = true :=
  and_iff_right (by decide : inWordRange 1 = true)

/-! ## Whole runs -/

/-- The report of a run has a hash, and a new journal takes it, exactly if the
accumulator at the end has 64 bits, as the length of the program has. The file then
has one entry, which holds the report, and its chain holds. Else there is no
hash, and nothing is written down. -/
theorem a_run_is_reported_exactly_where_its_accumulator_is_a_word (hrun : p.run patch s = .ok o)
    (traceHash : Option String) (hts : inWordRange ts = true) :
    (o.FitsReport p →
      (∃ t, (Report.run (o.report p traceHash)).hash = .ok t) ∧
        ∃ a, ({} : Logbook).write ts (o.request p traceHash) = .ok a ∧
          a.entry.stored.report? = some (.ok (.run (o.report p traceHash))) ∧
          Journal.entries a.line = .ok [a.entry.stored] ∧ Journal.verify a.line = .ok .holds) ∧
    (¬ o.FitsReport p →
      (Report.run (o.report p traceHash)).hash = .error .unwritable ∧
        ({} : Logbook).write ts (o.request p traceHash) = .error .unwritable) := by
  have hfinite : (Call.write ts (o.request p traceHash)).HasFiniteFloats := trivial
  constructor
  · intro h
    have hfits : (o.request p traceHash).Fits := ⟨rfl, (wordsOnly_report_iff hrun traceHash).mpr h⟩
    obtain ⟨a, ha⟩ := (write_ok_iff sound_empty hfinite).mpr ⟨by decide, hts, hfits⟩
    have hsound := sound_of_write sound_empty hfinite ha
    refine ⟨hash_of_fitsReport hrun h traceHash, a, ha, report?_of_write rfl ha, hsound.entries, ?_⟩
    exact verify_eq_holds_iff.mpr ⟨_, hsound.entries, hsound.chained⟩
  · intro h
    have hhash := hash_of_not_fitsReport hrun h traceHash
    exact ⟨hhash, write_of_hash_eq_error rfl hhash⟩

/-- A run that adds up to the greatest word is reported and written down. -/
theorem a_run_to_the_greatest_word_is_reported :
    ∃ h : Writable 18446744073709551615,
      let p := Program.adding 18446744073709551615 h
      let o : Outcome := ⟨.terminated 18446744073709551615, 1⟩
      p.run none {} = .ok o ∧ inWordRange 1000 = true ∧ o.FitsReport p ∧
        (∃ t, (Report.run (o.report p none)).hash = .ok t) ∧
          ∃ a, ({} : Logbook).write 1000 (o.request p none) = .ok a ∧
            a.entry.stored.report? = some (.ok (.run (o.report p none))) ∧
            Journal.entries a.line = .ok [a.entry.stored] ∧ Journal.verify a.line = .ok .holds := by
  have hword : inWordRange 18446744073709551615 = true := by decide
  have hfits := (fitsReport_adding (h := writable_of_inWordRange hword) (k := 1)).mpr hword
  exact ⟨_, run_adding, by decide, hfits,
    (a_run_is_reported_exactly_where_its_accumulator_is_a_word run_adding none (by decide)).1 hfits⟩

/-- A run that adds up to one more has an outcome, and neither a hash nor an entry
in a new journal. -/
theorem a_run_beyond_the_greatest_word_is_not_reported :
    ∃ p, Program.ofText "acc +18446744073709551616\n" = .ok p ∧
      ∃ o, p.run none {} = .ok o ∧ (Report.run (o.report p none)).hash = .error .unwritable ∧
        ({} : Logbook).write 1000 (o.request p none) = .error .unwritable := by
  have hwritable : Writable 18446744073709551616 := by decide +kernel
  have hlong : ¬ inWordRange 18446744073709551616 = true := by decide
  have hread : Program.ofText "acc +18446744073709551616\n" =
      .ok (Program.adding 18446744073709551616 (by decide +kernel)) := by decide +kernel
  have hhash := hash_of_not_fitsReport (run_adding (h := hwritable))
    (mt fitsReport_adding.mp hlong) none
  exact ⟨_, hread, _, run_adding, hhash, write_of_hash_eq_error rfl hhash⟩

end

end Unloop

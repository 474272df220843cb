-- The laws of reports that are stored. A report is read back from its fields,
-- in whatever order they are. With finite floating-point numbers its fields
-- are proper, and with whole numbers of 64 bits it has a hash.
import Unloop.Report
import Unloop.Proofs.Form
import Unloop.Proofs.Json.Proper

namespace Unloop

open Form Json Number

/-- Every floating-point number in the report is finite. -/
def Report.HasFiniteFloats : Report → Prop
  | .bench r => ∀ t ∈ r.timings, t.bestMs.isFinite = true ∧ t.meanMs.isFinite = true
  | _ => True

/-- The members have each of the fields, its value sorted. -/
def Shows (ms fields : Members) : Prop :=
  ∀ f ∈ fields, Members.get? ms f.1 = some f.2.sorted

section

variable {ms fields more : Members} {r : Report} {n : Nat}

theorem shows_sorted (hnames : (fields.map Prod.fst).Nodup) :
    Shows (sortedByName (membersSorted fields)) fields := by
  intro f hf
  rw [get?_sorted hnames, (get?_eq_some_iff hnames).mpr hf]
  rfl

theorem shows_append : Shows ms (fields ++ more) ↔ Shows ms fields ∧ Shows ms more :=
  List.forall_mem_append

/-! ## Optional values -/

theorem orNull_ofText? (o : Option String) : orNull text (Value.ofText? o).sorted = .ok o := by
  cases o <;> rfl

theorem orNull_ofInt? (o : Option Int) : orNull whole (Value.ofInt? o).sorted = .ok o := by
  cases o <;> rfl

theorem orNull_ofBool? (o : Option Bool) : orNull truth (Value.ofBool? o).sorted = .ok o := by
  cases o <;> rfl

theorem oneOf_outcome (o : EndingKind) :
    oneOf [("TERMINATED", EndingKind.terminated), ("LOOPED", .looped)] (.str o.name) = .ok o := by
  cases o <;> rfl

/-! ## Reading fields back -/

theorem provenance_check {r : Provenance} (h : Shows ms r.fields) : Provenance.check ms = .ok r := by
  simp only [Shows, Provenance.fields, List.forall_mem_cons, Value.sorted] at h
  obtain ⟨hschema, hcanonical, halgorithm, hprogram, hengine, _⟩ := h
  simp only [Provenance.check, Form.optional, required, hschema, hcanonical, halgorithm, hprogram,
    hengine]
  rfl

theorem runReport_check {r : RunReport} (h : Shows ms r.fields) : RunReport.check ms = .ok r := by
  rw [RunReport.fields, shows_append] at h
  have hprovenance := provenance_check h.1
  have hfields := h.2
  simp only [Shows, List.forall_mem_cons, Value.sorted] at hfields
  obtain ⟨hlength, houtcome, haccumulator, hposition, hsteps, htrace, _⟩ := hfields
  simp only [RunReport.check, Form.optional, required, hprovenance, hlength, houtcome, haccumulator,
    hposition, hsteps, htrace, orNull_ofInt?, orNull_ofText?, oneOf_outcome]
  rfl

theorem repairReport_check {r : RepairReport} (h : Shows ms r.fields) :
    RepairReport.check ms = .ok r := by
  rw [RepairReport.fields, shows_append] at h
  have hprovenance := provenance_check h.1
  have hfields := h.2
  simp only [Shows, List.forall_mem_cons, Value.sorted] at hfields
  obtain ⟨hstrategy, htie, hposition, hremoved, hreplacement, haccumulator, hruns, hsteps, htried,
    houtside, hverified, _⟩ := hfields
  simp only [RepairReport.check, Form.optional, required, hprovenance, hstrategy, htie, hposition,
    hremoved, hreplacement, haccumulator, hruns, hsteps, htried, houtside, hverified,
    orNull_ofBool?]
  rfl

theorem timing_check {t : Timing} (h : Shows ms t.fields) : Timing.check ms = .ok t := by
  simp only [Shows, Timing.fields, List.forall_mem_cons, Value.sorted] at h
  obtain ⟨hstrategy, hrepeats, hbest, hmean, hruns, hsteps, hposition, haccumulator, _⟩ := h
  simp only [Timing.check, required, hstrategy, hrepeats, hbest, hmean, hruns, hsteps, hposition,
    haccumulator]
  rfl

theorem nodup_timing (t : Timing) : (t.fields.map Prod.fst).Nodup := by
  change ["strategy", "repeats", "best_ms", "mean_ms", "runs", "steps", "position",
    "accumulator"].Nodup
  decide

theorem timings_check (ts : List Timing) (n : Nat) :
    itemsFrom Timing.form n (itemsSorted (ts.map fun t => .obj t.fields)) = .ok ts := by
  induction ts generalizing n with
  | nil => rfl
  | cons t ts ih =>
    have ht : Timing.form (Value.obj t.fields).sorted = .ok t :=
      timing_check (shows_sorted (nodup_timing t))
    rw [List.map_cons, itemsSorted, itemsFrom, ih, ht]
    rfl

theorem benchReport_check {r : BenchReport} (h : Shows ms r.fields) :
    BenchReport.check ms = .ok r := by
  rw [BenchReport.fields, shows_append] at h
  have hprovenance := provenance_check h.1
  have hfields := h.2
  simp only [Shows, List.forall_mem_cons, Value.sorted] at hfields
  obtain ⟨hlength, htie, htimings, hagreed, _⟩ := hfields
  simp only [BenchReport.check, required, hprovenance, hlength, htie, htimings, hagreed, listOf,
    timings_check]
  rfl

/-! ## Reports as members -/

/-- The kind of a report. -/
def Report.kind : Report → ReportKind
  | .plain _ => .plain
  | .run _ => .run
  | .repair _ => .repair
  | .bench _ => .bench

theorem report_check (h : Shows ms r.fields) : r.kind.check ms = .ok r := by
  cases r with
  | plain r => exact map_eq_ok_iff.mpr ⟨r, provenance_check h, rfl⟩
  | run r => exact map_eq_ok_iff.mpr ⟨r, runReport_check h, rfl⟩
  | repair r => exact map_eq_ok_iff.mpr ⟨r, repairReport_check h, rfl⟩
  | bench r => exact map_eq_ok_iff.mpr ⟨r, benchReport_check h, rfl⟩

theorem nodup_fields (r : Report) : (r.fields.map Prod.fst).Nodup := by
  cases r with
  | plain r =>
    change ["schema_version", "canonicalization", "hash_algorithm", "program_hash",
      "engine_hash"].Nodup
    decide
  | run r =>
    change ["schema_version", "canonicalization", "hash_algorithm", "program_hash", "engine_hash",
      "length", "outcome", "accumulator", "loop_position", "steps", "trace_hash"].Nodup
    decide
  | repair r =>
    change ["schema_version", "canonicalization", "hash_algorithm", "program_hash", "engine_hash",
      "strategy", "tie_break", "position", "original", "replacement", "accumulator", "runs",
      "steps", "candidates_tried", "out_of_bounds", "verified"].Nodup
    decide
  | bench r =>
    change ["schema_version", "canonicalization", "hash_algorithm", "program_hash", "engine_hash",
      "length", "tie_break", "timings", "agreed"].Nodup
    decide

/-- A report that was stored is read back. -/
theorem ofValue_stored (r : Report) : r.kind.ofValue r.toValue.sorted = .ok r := by
  have hcheck := report_check (shows_sorted (nodup_fields r))
  exact fill_eq_ok_iff.mpr ⟨_, rfl, hcheck⟩

/-! ## The values of the fields -/

theorem within_provenance (r : Provenance) : ∀ f ∈ r.fields, f.2.Within 1 := by
  simp only [Provenance.fields, List.forall_mem_cons, List.not_mem_nil, false_implies,
    implies_true, and_true]
  exact ⟨within_str _, within_str _, within_str _, within_str _, within_str _⟩

theorem within_timing {t : Timing} (hbest : t.bestMs.isFinite = true)
    (hmean : t.meanMs.isFinite = true) : (Value.obj t.fields).Within 2 := by
  refine within_obj (nodup_timing t) ?_
  simp only [Timing.fields, List.forall_mem_cons, List.not_mem_nil, false_implies, implies_true,
    and_true]
  exact ⟨within_str _, within_int _, within_float hbest, within_float hmean, within_int _,
    within_int _, within_int _, within_int _⟩

/-- The fields of a report are proper when its numbers are finite, and only the
timings hold other values. -/
theorem within_fields (h : r.HasFiniteFloats) : ∀ f ∈ r.fields, f.2.Within 3 := by
  have hlow : (1 : Nat) ≤ 3 := by decide
  cases r with
  | plain r => exact fun f hf => (within_provenance r f hf).mono hlow
  | run r =>
    refine fun f hf => Value.Within.mono ?_ hlow
    revert f
    refine List.forall_mem_append.mpr ⟨within_provenance _, ?_⟩
    simp only [List.forall_mem_cons, List.not_mem_nil, false_implies, implies_true, and_true]
    exact ⟨within_int _, within_str _, within_int _, within_ofInt? _, within_int _,
      within_ofText? _⟩
  | repair r =>
    refine fun f hf => Value.Within.mono ?_ hlow
    revert f
    refine List.forall_mem_append.mpr ⟨within_provenance _, ?_⟩
    simp only [List.forall_mem_cons, List.not_mem_nil, false_implies, implies_true, and_true]
    exact ⟨within_str _, within_str _, within_int _, within_str _, within_str _, within_int _,
      within_int _, within_int _, within_int _, within_int _, within_ofBool? _⟩
  | bench r =>
    have htimings : ∀ v ∈ r.timings.map fun t => Value.obj t.fields, v.Within 2 := by
      intro v hv
      obtain ⟨t, ht, rfl⟩ := List.mem_map.mp hv
      exact within_timing (h t ht).1 (h t ht).2
    refine List.forall_mem_append.mpr ⟨fun f hf => (within_provenance _ f hf).mono hlow, ?_⟩
    simp only [List.forall_mem_cons, List.not_mem_nil, false_implies, implies_true, and_true]
    exact ⟨(within_int _).mono hlow, (within_str _).mono hlow, within_arr htimings,
      (within_bool _).mono hlow⟩

theorem within_report (h : r.HasFiniteFloats) : r.toValue.Within 4 :=
  within_obj (nodup_fields r) (within_fields h)

/-! ## The hash of a report -/

theorem identity_sublist (r : Report) : r.identity.Sublist r.fields := by
  unfold Report.identity
  split
  · exact List.Sublist.refl _
  · exact List.filter_sublist

/-- A report whose whole numbers have 64 bits has a hash. -/
theorem hash_of_wordsOnly (h : r.HasFiniteFloats) (hwords : r.toValue.wordsOnly = true) :
    ∃ t, r.hash = .ok t := by
  have hidentity : (Value.obj r.identity).isWritable = true := by
    have hsub := (identity_sublist r).subset
    rw [Value.isWritable, Bool.and_eq_true, decide_eq_true_eq]
    constructor
    · exact membersWordsOnly_iff.mpr fun m hm => membersWordsOnly_iff.mp hwords m (hsub hm)
    · refine Nat.le_trans (Nat.succ_le_succ (membersDepth_le.mpr fun m hm => ?_))
        (by decide : 4 ≤ writtenDepth)
      exact Nat.le_trans (depth_le_height _) (within_fields h m (hsub hm)).2
  exact ⟨_, by rw [Report.hash, Value.hash?, Value.canonical?, if_pos hidentity]; rfl⟩

end

end Unloop

-- What a journal tells of results. The check of a file takes an entry with a result
-- only if the hash in it is that of the report in it. So entries of one event with one
-- report hash hold reports of the same result, in whatever files they are, and however
-- often the chains were made anew.
import Unloop.Proofs.Journal.Commitment
import Unloop.Proofs.Journal.Runs

namespace Unloop

open Form Json Text

/-! ## The pure model -/

/-- The entry holds a report and tells its hash. -/
structure Entry.Records (e : Entry) (r : Report) (h : String) : Prop where
  report : e.report? = some (.ok r)
  hash : r.hash = .ok h
  reportHash : e.reportHash = some h

section

variable {a b : Bytes} {prev h h' : String} {n : Nat} {e f : Entry} {es fs : List Entry}
  {r s : Report} {k : ReportKind} {v : Value}

/-! ## Entries with a result -/

theorem kind_of_ofValue (h : k.ofValue v = .ok r) : r.kind = k := by
  obtain ⟨ms, _, hcheck⟩ := fill_eq_ok_iff.mp h
  cases k <;> obtain ⟨_, _, rfl⟩ := map_eq_ok_iff.mp hcheck <;> rfl

theorem kind_of_report? (hr : e.report? = some (.ok r)) : e.event.reportKind? = some r.kind := by
  obtain ⟨k, hk, hvalue⟩ := Option.map_eq_some_iff.mp hr
  rw [hk, kind_of_ofValue hvalue]

/-- An entry that fits its place holds the report that its event comes with. -/
theorem records_of_fits (hfits : e.Fits prev n) (hk : e.event.reportKind? = some k) :
    ∃ r h, e.Records r h := by
  have hsome : e.report? = some (k.ofValue (.obj e.payload)) := congrArg (Option.map _) hk
  have hcheck := hfits.report
  unfold Entry.checkReport at hcheck
  split at hcheck
  · rename_i hnone
    rw [hnone] at hsome
    cases hsome
  · cases hcheck
  · cases hcheck
  · rename_i r hr
    obtain ⟨h, hhash, hlink⟩ := bind_eq_ok_iff.mp hcheck
    split at hlink
    · exact ⟨r, h, hr, hhash, Eq.symm ‹_›⟩
    · cases hlink

theorem records_of_mem (hes : Chained "" 0 es) (he : e ∈ es)
    (hevent : e.event ∈ [EntryEvent.runResult, .repairResult, .benchResult]) :
    ∃ r h, e.Records r h := by
  obtain ⟨i, hi⟩ := List.mem_iff_getElem?.mp he
  have hkind : ∃ k, e.event.reportKind? = some k := by
    cases hname : e.event <;> simp_all [EntryEvent.reportKind?]
  obtain ⟨k, hk⟩ := hkind
  exact records_of_fits (fits_of_getElem? hes hi) hk

theorem identityText_mem_hashedTexts (hr : e.report? = some (.ok r)) :
    r.identityText ∈ e.hashedTexts := by
  rw [Entry.hashedTexts, hr]
  exact List.mem_cons_of_mem _ (List.mem_singleton.mpr rfl)

/-- Entries of one event have one report hash exactly if their reports are of the same
result, where the texts under the hashes do not collide. -/
theorem reportHash_eq_iff_sameResult (he : e.Records r h) (hf : f.Records s h')
    (hevent : e.event = f.event) (hfree : CollisionFree (e.hashedTexts ++ f.hashedTexts)) :
    e.reportHash = f.reportHash ↔ r.SameResult s := by
  have hkind : r.kind = s.kind := by
    have hkinds := kind_of_report? he.report
    rw [hevent, kind_of_report? hf.report] at hkinds
    exact (Option.some.inj hkinds).symm
  have hsub : [r.identityText, s.identityText] ⊆ e.hashedTexts ++ f.hashedTexts :=
    List.cons_subset.mpr ⟨List.mem_append_left _ (identityText_mem_hashedTexts he.report),
      List.cons_subset.mpr ⟨List.mem_append_right _ (identityText_mem_hashedTexts hf.report),
        List.nil_subset _⟩⟩
  rw [he.reportHash, hf.reportHash, Option.some.injEq]
  exact hash_eq_iff_sameResult hkind he.hash hf.hash (hfree.subset hsub)

/-! ## Two files -/

theorem hashedTexts_subset (he : e ∈ es) (hf : f ∈ fs) :
    e.hashedTexts ++ f.hashedTexts ⊆ (es ++ fs).flatMap Entry.hashedTexts := by
  intro t ht
  rw [List.flatMap_append, List.mem_append]
  exact (List.mem_append.mp ht).imp (fun ht => List.mem_flatMap.mpr ⟨e, he, ht⟩)
    fun ht => List.mem_flatMap.mpr ⟨f, hf, ht⟩

/-- The report hash of an accepted entry binds its result. In any two files that pass the
check, two entries with the same event of a result hold a report each, and where the texts
that the checks hash do not collide, they have one report hash exactly if these reports
agree on every field that identifies such a report. -/
theorem a_report_hash_binds_the_result (ha : Journal.verify a = .ok .holds)
    (hb : Journal.verify b = .ok .holds) :
    ∃ es fs, Journal.entries a = .ok es ∧ Journal.entries b = .ok fs ∧
      ∀ e ∈ es, ∀ f ∈ fs, e.event = f.event →
        e.event ∈ [EntryEvent.runResult, .repairResult, .benchResult] →
        ∃ r s, e.report? = some (.ok r) ∧ f.report? = some (.ok s) ∧
          (CollisionFree ((es ++ fs).flatMap Entry.hashedTexts) →
            (e.reportHash = f.reportHash ↔ r.SameResult s)) := by
  obtain ⟨es, hentries, hes⟩ := verify_eq_holds_iff.mp ha
  obtain ⟨fs, hentries', hfs⟩ := verify_eq_holds_iff.mp hb
  refine ⟨es, fs, hentries, hentries', fun e he f hf hevent hresult => ?_⟩
  obtain ⟨r, h, hr⟩ := records_of_mem hes he hresult
  obtain ⟨s, h', hs⟩ := records_of_mem hfs hf (hevent ▸ hresult)
  refine ⟨r, s, hr.report, hs.report, fun hfree => ?_⟩
  exact reportHash_eq_iff_sameResult hr hs hevent (hfree.subset (hashedTexts_subset he hf))

end

/-! ## Timings that are edited -/

/-- A comparison that names nothing, with some timings. -/
def bareBench (timings : List Timing) : Report := .bench ⟨⟨"", "", "", "", ""⟩, 0, "", timings, true⟩

/-- The hash of the comparison, whatever its timings are. -/
def bareHash : String := "2bfc96c327cecb4972cf146a59a1740a60944ae110b273df2d4febdf0b502107"

/-- The entry of the comparison in a new journal at time 1, but for its hash. -/
def bareEntry (timings : List Timing) : Entry :=
  ⟨0, 1, .benchResult, some "", some bareHash, (bareBench timings).fields, "", ""⟩

/-- A timing of nothing. -/
def noTiming : Timing := ⟨"", 0, .zero false, .zero false, 0, 0, 0, 0⟩

theorem hashOf_bareBench (timings : List Timing) :
    hashOf (encode (bareBench timings).identityText) = bareHash := by
  have htext : hashOf (encode (Value.obj (bareBench []).identity).text) = bareHash := by
    rw [text_obj (nodup_identity _)]
    decide +kernel
  exact htext

theorem hash_bareBench (timings : List Timing) : (bareBench timings).hash = .ok bareHash :=
  reportHash_eq_ok_iff.mpr (hash?_eq_some_iff.mpr ⟨rfl, hashOf_bareBench timings⟩)

theorem hashOf_bareEntry :
    hashOf (encode (Value.obj (bareEntry []).chained).text) =
      "3badff2f355db1239bc64472505014c9a7a8eeb69da9dcf5debcd0c92a8eba0a" := by
  rw [text_obj (nodup_chained _), Entry.chained]
  simp only [memberTexts, bareEntry, text_obj (nodup_fields _)]
  decide +kernel

theorem hashOf_timedEntry :
    hashOf (encode (Value.obj (bareEntry [noTiming]).chained).text) =
      "84c625fce317345ecb11097ac279fc28bc81388164cfdbb3141d22c05a5554fc" := by
  have htimings : (Value.arr [.obj noTiming.fields]).text =
      '[' :: withCommas ['\x7b' :: withCommas (((memberTexts noTiming.fields).insertionSort
        fun a b => a.1 ≤ b.1).map memberText) ++ ['\x7d']] ++ [']'] := by
    rw [Value.text, itemTexts, itemTexts, text_obj (nodup_timing noTiming)]
  rw [text_obj (nodup_chained _), Entry.chained]
  simp only [memberTexts, bareEntry, text_obj (nodup_fields _)]
  simp only [bareBench, Report.fields, BenchReport.fields, Provenance.fields, List.cons_append,
    List.nil_append, List.map_cons, List.map_nil, memberTexts, htimings]
  decide +kernel

theorem text_chained_stored (e : Entry) :
    (Value.obj e.stored.chained).text = (Value.obj e.chained).text := by
  have hpayload := sorted_sorted (.obj e.payload)
  have hsorted : (Value.obj e.stored.chained).sorted = (Value.obj e.chained).sorted := by
    simp only [Entry.stored, Entry.chained, Value.sorted, membersSorted] at hpayload ⊢
    rw [hpayload]
  rw [← text_sorted, hsorted, text_sorted]

/-- A new journal takes the comparison, and its file then passes the check. -/
theorem written_bareBench (timings : List Timing) (hfinite : (bareBench timings).HasFiniteFloats)
    (hwords : (bareBench timings).toValue.wordsOnly = true) :
    ∃ content e, Journal.verify content = .ok .holds ∧ Journal.entries content = .ok [e] ∧
      e.event = .benchResult ∧ e.Records (bareBench timings) bareHash ∧
      e.hashedTexts =
        [(Value.obj (bareEntry timings).chained).text, (bareBench timings).identityText] := by
  have hcall : (Call.write 1 (.record (bareBench timings))).HasFiniteFloats := hfinite
  obtain ⟨a, ha⟩ := (write_ok_iff sound_empty hcall).mpr ⟨by decide, by decide, rfl, hwords⟩
  have hsound := sound_of_write sound_empty hcall ha
  have hreport := report?_of_write rfl ha
  have hentry : ∃ h, a.entry = { bareEntry timings with entryHash := h } := by
    obtain ⟨d, hd, happend⟩ := bind_eq_ok_iff.mp ha
    obtain ⟨h, _, he, _⟩ := append_eq_ok_iff.mp happend
    have hdraft : Draft.record (bareBench timings) =
        .ok ⟨.benchResult, (bareBench timings).fields, some "", some bareHash⟩ := by
      rw [Draft.record, hash_bareBench]
      rfl
    obtain rfl := Except.ok.inj (hd.symm.trans hdraft)
    exact ⟨h, he⟩
  obtain ⟨h, he⟩ := hentry
  refine ⟨_, a.entry.stored, verify_eq_holds_iff.mpr ⟨_, hsound.entries, hsound.chained⟩,
    hsound.entries, ?_, ⟨hreport, hash_bareBench timings, ?_⟩, ?_⟩
  · rw [he]
    rfl
  · rw [he]
    rfl
  · rw [Entry.hashedTexts, hreport, text_chained_stored, he]
    rfl

/-- Of two comparisons that differ in their timings alone the journals tell one report
hash. -/
theorem a_report_hash_does_not_bind_timings :
    ∃ a b e f, Journal.verify a = .ok .holds ∧ Journal.verify b = .ok .holds ∧
      Journal.entries a = .ok [e] ∧ Journal.entries b = .ok [f] ∧ e.event = f.event ∧
      e.event ∈ [EntryEvent.runResult, .repairResult, .benchResult] ∧
      CollisionFree ([e, f].flatMap Entry.hashedTexts) ∧
      ∃ r s, e.report? = some (.ok r) ∧ f.report? = some (.ok s) ∧ r ≠ s ∧
        e.reportHash = f.reportHash ∧ r.SameResult s := by
  have hfinite : (bareBench [noTiming]).HasFiniteFloats := List.forall_mem_singleton.mpr (by decide)
  obtain ⟨a, e, ha, hes, hevent, he, htexts⟩ :=
    written_bareBench [] (List.forall_mem_nil _) rfl
  obtain ⟨b, f, hb, hfs, hevent', hf, htexts'⟩ := written_bareBench [noTiming] hfinite rfl
  have hresult : e.event ∈ [EntryEvent.runResult, .repairResult, .benchResult] := by
    rw [hevent]
    decide
  have hfree : CollisionFree ([e, f].flatMap Entry.hashedTexts) := by
    have hthree : CollisionFree [(Value.obj (bareEntry []).chained).text,
        (Value.obj (bareEntry [noTiming]).chained).text, (bareBench []).identityText] := by
      apply collisionFree_of_nodup
      simp only [List.map_cons, List.map_nil, hashOf_bareEntry, hashOf_timedEntry,
        hashOf_bareBench, bareHash]
      decide
    have hsame : (bareBench [noTiming]).identityText = (bareBench []).identityText := rfl
    apply hthree.subset
    simp [htexts, htexts', hsame]
  obtain ⟨es, fs, hes', hfs', hbinds⟩ := a_report_hash_binds_the_result ha hb
  obtain rfl := Except.ok.inj (hes'.symm.trans hes)
  obtain rfl := Except.ok.inj (hfs'.symm.trans hfs)
  obtain ⟨r, s, hr, hs, hiff⟩ := hbinds e (by simp) f (by simp) (hevent.trans hevent'.symm) hresult
  have hhash : e.reportHash = f.reportHash := he.reportHash.trans hf.reportHash.symm
  have hdiffer : r ≠ s := by
    rw [he.report, Option.some.injEq, Except.ok.injEq] at hr
    rw [hf.report, Option.some.injEq, Except.ok.injEq] at hs
    rw [← hr, ← hs]
    decide
  exact ⟨a, b, e, f, ha, hb, hes, hfs, hevent.trans hevent'.symm, hresult, hfree, r, s, hr, hs,
    hdiffer, hhash, (hiff hfree).mp hhash⟩

end Unloop

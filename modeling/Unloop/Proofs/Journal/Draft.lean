-- The laws of drafts and of what becomes of them. A draft of any kind can be
-- read back, and the entry that is made of it has its place in the chain, as
-- long as its whole numbers have 64 bits.
import Unloop.Proofs.Journal.Chain

namespace Unloop

open Form Json Text

/-- The payload can be read back, and so can the report with its hash, if the
draft comes with one. -/
structure Draft.Sound (d : Draft) : Prop where
  payload : (Value.obj d.payload).Within 4
  report : ∀ k, d.event.reportKind? = some k → ∃ r h,
    k.ofValue (Value.obj d.payload).sorted = .ok r ∧ r.hash = .ok h ∧ d.reportHash = some h

section

variable {e : Entry} {d : Draft} {ts : Int} {prev h : String} {n : Nat} {a : Journal.Appended}
  {command path : String} {settings : Settings} {r : Report}

/-! ## Kinds of drafts -/

theorem within_settings (settings : Settings) : settings.toValue.Within 2 := by
  refine within_obj ?_ ?_
  · change ["strategy", "tie_break", "record_trace", "log_level", "log_json", "bench_repeats"].Nodup
    decide
  · simp only [List.forall_mem_cons, List.not_mem_nil, false_implies, implies_true, and_true]
    exact ⟨within_str _, within_str _, within_bool _, within_str _, within_bool _, within_int _⟩

theorem start_of_wordsOnly (h : settings.toValue.wordsOnly = true) :
    ∃ d, Draft.start command path settings = .ok d := by
  rw [← isWritable_of_within (within_settings settings) (by decide)] at h
  have hhash := hash?_eq_some_iff.mpr ⟨h, rfl⟩
  exact ⟨_, bind_eq_ok_iff.mpr ⟨_, orFault_eq_ok_iff.mpr hhash, rfl⟩⟩

theorem sound_start (h : Draft.start command path settings = .ok d) :
    d.Sound ∧ membersWordsOnly d.payload = settings.toValue.wordsOnly := by
  obtain ⟨t, _, hd⟩ := bind_eq_ok_iff.mp h
  obtain rfl := Except.ok.inj hd
  refine ⟨⟨within_obj ?_ ?_, fun k hk => ?_⟩, ?_⟩
  · change ["command", "path", "settings", "settings_hash"].Nodup
    decide
  · have hlow : (1 : Nat) ≤ 3 := by decide
    simp only [List.forall_mem_cons, List.not_mem_nil, false_implies, implies_true, and_true]
    exact ⟨(within_str _).mono hlow, (within_str _).mono hlow,
      (within_settings settings).mono (by decide), (within_str _).mono hlow⟩
  · cases hk
  · simp [membersWordsOnly, Value.wordsOnly]

theorem record_of_wordsOnly (hfinite : r.HasFiniteFloats)
    (hevent : (EntryEvent.ofReport? r).isSome = true) (h : r.toValue.wordsOnly = true) :
    ∃ d, Draft.record r = .ok d := by
  obtain ⟨event, hevent⟩ := Option.isSome_iff_exists.mp hevent
  obtain ⟨t, ht⟩ := hash_of_wordsOnly hfinite h
  exact ⟨_, bind_eq_ok_iff.mpr ⟨event, orFault_eq_ok_iff.mpr hevent, bind_eq_ok_iff.mpr ⟨t, ht, rfl⟩⟩⟩

theorem kind_of_ofReport? {event : EntryEvent} (h : EntryEvent.ofReport? r = some event) :
    event.reportKind? = some r.kind := by
  cases r <;> cases h <;> rfl

theorem sound_record (hfinite : r.HasFiniteFloats) (h : Draft.record r = .ok d) :
    d.Sound ∧ (EntryEvent.ofReport? r).isSome = true ∧ d.payload = r.fields := by
  obtain ⟨event, hevent, h⟩ := bind_eq_ok_iff.mp h
  obtain ⟨t, ht, hd⟩ := bind_eq_ok_iff.mp h
  obtain rfl := Except.ok.inj hd
  rw [orFault_eq_ok_iff] at hevent
  refine ⟨⟨within_report hfinite, fun k hk => ?_⟩, by rw [hevent]; rfl, rfl⟩
  obtain rfl := Option.some.inj ((kind_of_ofReport? hevent).symm.trans hk)
  exact ⟨r, t, ofValue_stored r, ht, rfl⟩

theorem sound_failure (f : Failure) : (Draft.failure f).Sound := by
  refine ⟨within_obj ?_ ?_, fun k hk => ?_⟩
  · change ["failure_atom", "message"].Nodup
    decide
  · have hlow : (1 : Nat) ≤ 3 := by decide
    simp only [Draft.failure, List.forall_mem_cons, List.not_mem_nil, false_implies,
      implies_true, and_true]
    exact ⟨(within_str _).mono hlow, (within_str _).mono hlow⟩
  · cases hk

/-! ## Entries of drafts -/

/-- The entry of a draft at place `n` after the hash `prev`, without its own
hash. -/
def Draft.unsealed (d : Draft) (prev : String) (n : Nat) (ts : Int) : Entry where
  seq := n
  ts := ts
  event := d.event
  programHash := d.programHash
  reportHash := d.reportHash
  payload := d.payload
  prevHash := prev
  entryHash := ""

theorem wordsOnly_chained (e : Entry) :
    (Value.obj e.chained).wordsOnly =
      (inWordRange e.seq && inWordRange e.ts && membersWordsOnly e.payload) := by
  have hprogram : (Value.ofText? e.programHash).wordsOnly = true := by cases e.programHash <;> rfl
  have hreport : (Value.ofText? e.reportHash).wordsOnly = true := by cases e.reportHash <;> rfl
  simp [Entry.chained, Value.wordsOnly, membersWordsOnly, hprogram, hreport, Bool.and_assoc]

theorem within_chained (h : (Value.obj e.payload).Within 4) : ∀ m ∈ e.chained, m.2.Within 4 := by
  have hlow : (1 : Nat) ≤ 4 := by decide
  simp only [Entry.chained, List.forall_mem_cons, List.not_mem_nil, false_implies, implies_true,
    and_true]
  exact ⟨(within_int _).mono hlow, (within_int _).mono hlow, (within_str _).mono hlow,
    (within_ofText? _).mono hlow, (within_ofText? _).mono hlow, h, (within_str _).mono hlow⟩

theorem within_toValue (h : (Value.obj e.payload).Within 4) : e.toValue.Within 5 := by
  refine within_obj (nodup_toValue e) (List.forall_mem_append.mpr ⟨within_chained h, ?_⟩)
  exact List.forall_mem_singleton.mpr ((within_str _).mono (by decide))

theorem wordsOnly_toValue (e : Entry) : e.toValue.wordsOnly = (Value.obj e.chained).wordsOnly := by
  simp [Entry.toValue, Entry.chained, Value.wordsOnly, membersWordsOnly]

/-- The entry of a sound draft has a hash exactly when its whole numbers have
64 bits. -/
theorem chainHash_unsealed (hd : d.Sound) (prev : String) :
    (∃ h, (d.unsealed prev n ts).chainHash = .ok h) ↔
      inWordRange n = true ∧ inWordRange ts = true ∧ membersWordsOnly d.payload = true := by
  have hchained : (Value.obj (d.unsealed prev n ts).chained).Within 5 :=
    within_obj (nodup_chained _) (within_chained hd.payload)
  have hheight : membersHeight d.payload ≤ Entry.payloadHeight :=
    Nat.le_trans (Nat.le_of_succ_le_succ hd.payload.2) (by decide)
  simp only [chainHash_eq_ok_iff, isWritable_of_within hchained (by decide), wordsOnly_chained]
  simp [Draft.unsealed, hheight, and_assoc]

/-- What a draft that is appended brings about. -/
theorem append_eq_ok_iff :
    (⟨n, .str prev⟩ : Journal).append ts d = .ok a ↔
      ∃ h, (d.unsealed prev n ts).chainHash = .ok h ∧
        a.entry = { d.unsealed prev n ts with entryHash := h } ∧
        a.entry.toValue.toLine = .ok a.line ∧ a.journal = ⟨n + 1, .str h⟩ := by
  simp only [Journal.append, Journal.entry, Entry.sealed, bind_eq_ok_iff]
  constructor
  · rintro ⟨e, ⟨h, hh, he⟩, line, hline, ha⟩
    obtain rfl := Except.ok.inj he
    obtain rfl := Except.ok.inj ha
    exact ⟨h, hh, rfl, hline, rfl⟩
  · rintro ⟨h, hh, he, hline, hjournal⟩
    obtain ⟨e, line, journal⟩ := a
    obtain rfl := he
    obtain rfl := hjournal
    exact ⟨_, ⟨h, hh, rfl⟩, line, hline, rfl⟩

/-- A sound draft is appended exactly when the whole numbers of the entry have
64 bits. -/
theorem append_ok_iff (hd : d.Sound) :
    (∃ a, (⟨n, .str prev⟩ : Journal).append ts d = .ok a) ↔
      inWordRange n = true ∧ inWordRange ts = true ∧ membersWordsOnly d.payload = true := by
  rw [← chainHash_unsealed hd prev]
  constructor
  · rintro ⟨a, ha⟩
    obtain ⟨h, hh, _⟩ := append_eq_ok_iff.mp ha
    exact ⟨h, hh⟩
  · rintro ⟨h, hh⟩
    have hw : ({ d.unsealed prev n ts with entryHash := h } : Entry).toValue.isWritable = true := by
      rw [isWritable_of_within (within_toValue hd.payload) (by decide), wordsOnly_toValue]
      have hchained := (chainHash_eq_ok_iff.mp hh).2.1
      rw [Value.isWritable, Bool.and_eq_true] at hchained
      exact hchained.1
    have hline : ({ d.unsealed prev n ts with entryHash := h } : Entry).toValue.toLine =
        .ok (encode ({ d.unsealed prev n ts with entryHash := h } : Entry).toValue.text ++ [10]) := by
      rw [Value.toLine, Value.canonical?, if_pos hw]
      rfl
    exact ⟨⟨_, _, ⟨n + 1, .str h⟩⟩, append_eq_ok_iff.mpr ⟨h, hh, rfl, hline, rfl⟩⟩

theorem checkReport_of_none (h : e.report? = none) : e.checkReport = .ok (.next e.entryHash) := by
  rw [Entry.checkReport, h]

theorem checkReport_of_hash (hr : e.report? = some (.ok r)) (hh : r.hash = .ok h)
    (he : e.reportHash = some h) : e.checkReport = .ok (.next e.entryHash) := by
  rw [Entry.checkReport, hr]
  change r.hash >>= _ = _
  rw [hh]
  exact if_pos he.symm

/-- An appended entry, read back, has its place in the chain. -/
theorem fits_appended (hd : d.Sound) (ha : (⟨n, .str prev⟩ : Journal).append ts d = .ok a) :
    a.entry.stored.Fits prev n := by
  obtain ⟨h, hh, he, _, _⟩ := append_eq_ok_iff.mp ha
  have hhash : a.entry.stored.chainHash = .ok h := by
    rw [chainHash_stored, he]
    exact hh
  have hreport : a.entry.stored.checkReport = .ok (.next a.entry.stored.entryHash) := by
    rw [he]
    cases hk : d.event.reportKind? with
    | none => exact checkReport_of_none (congrArg (Option.map _) hk)
    | some k =>
      obtain ⟨r, t, hr, ht, hreported⟩ := hd.report k hk
      exact checkReport_of_hash ((congrArg (Option.map _) hk).trans (congrArg some hr)) ht hreported
  rw [he] at hhash hreport ⊢
  exact ⟨rfl, rfl, hhash, hreport⟩

end

end Unloop

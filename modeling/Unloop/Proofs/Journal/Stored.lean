-- The laws of checks that are made twice. What a check makes of an object is stored as
-- a text, and the same check takes the value of this text as it is. So a number that was
-- made of a word or of a truth value stays the number that it is.
import Unloop.Proofs.Journal.Results

namespace Unloop

open Form Json Text

section

variable {e : Entry} {r : Report} {k : ReportKind} {v : Value} {cs : List Char}

/-! ## Reports -/

/-- The text of a report is read as the value of its fields, in the order of their names. -/
theorem ofBytes?_report (hfinite : r.HasFiniteFloats) (hcs : r.toValue.canonical? = some cs) :
    ofBytes? (encode cs) = some r.toValue.sorted := by
  obtain ⟨hwritable, rfl⟩ := canonical?_eq_some_iff.mp hcs
  exact ofBytes?_encode_text (within_report hfinite).1 hwritable

theorem hash_of_canonical (hfinite : r.HasFiniteFloats) (hcs : r.toValue.canonical? = some cs) :
    ∃ h, r.hash = .ok h := by
  obtain ⟨hwritable, _⟩ := canonical?_eq_some_iff.mp hcs
  rw [isWritable_of_within (within_report hfinite) (by decide)] at hwritable
  exact hash_of_wordsOnly hfinite hwritable

/-! ## Entries -/

theorem canonical_eq_ok_iff :
    e.canonical = .ok cs ↔ membersHeight e.payload ≤ Entry.payloadHeight ∧
      e.toValue.isWritable = true ∧ e.toValue.text = cs := by
  rw [Entry.canonical, bind_eq_ok_iff, ← canonical?_eq_some_iff]
  simp only [orFault_eq_ok_iff, Entry.checkHeight]
  constructor
  · rintro ⟨_, hheight, hcs⟩
    split at hheight
    · exact ⟨‹_›, hcs⟩
    · cases hheight
  · rintro ⟨hheight, hcs⟩
    exact ⟨(), if_pos hheight, hcs⟩

theorem proper_toValue (hpayload : (Value.obj e.payload).Proper) : e.toValue.Proper := by
  cases proper_chained hpayload with
  | obj _ parts =>
    exact .obj (nodup_toValue e)
      (List.forall_mem_append.mpr ⟨parts, List.forall_mem_singleton.mpr (.str _)⟩)

/-- The hash of an entry is no container, so the entry is as deep without it. -/
theorem isWritable_toValue (e : Entry) : e.toValue.isWritable = (Value.obj e.chained).isWritable := by
  have hdepth : e.toValue.depth = (Value.obj e.chained).depth := by
    simp [Entry.toValue, Entry.chained, Value.depth, membersDepth]
  rw [Value.isWritable, Value.isWritable, wordsOnly_toValue, hdepth]

/-- Storing an entry does not change its text. -/
theorem canonical_stored (e : Entry) : e.stored.canonical = e.canonical := by
  have hpayload : (Value.obj e.stored.payload).sorted = (Value.obj e.payload).sorted :=
    sorted_sorted (.obj e.payload)
  have hheight : membersHeight e.stored.payload = membersHeight e.payload :=
    Nat.succ.inj (height_sorted (.obj e.payload))
  -- the two values differ in the order of the members of the payload, which sorting undoes
  have hvalue : e.stored.toValue.sorted = e.toValue.sorted := by
    simp only [Entry.toValue, Entry.chained, Value.sorted, List.cons_append, membersSorted]
      at hpayload ⊢
    rw [hpayload]
    rfl
  have hcanonical : e.stored.toValue.canonical? = e.toValue.canonical? := by
    rw [← canonical?_sorted, hvalue, canonical?_sorted]
  unfold Entry.canonical Entry.checkHeight
  rw [hheight, hcanonical]

theorem chainHash_of_canonical (hcs : e.canonical = .ok cs) : ∃ h, e.chainHash = .ok h := by
  obtain ⟨hheight, hwritable, _⟩ := canonical_eq_ok_iff.mp hcs
  rw [isWritable_toValue] at hwritable
  exact ⟨_, chainHash_eq_ok_iff.mpr ⟨hheight, hwritable, rfl⟩⟩

/-- What is checked and stored is taken as it is when it is checked again. Let an object
be checked as a report of some kind that has finite floating-point numbers and a text.
Then the value of the text is checked as the same report, and this report has a hash. Let
a proper object be checked as an entry that has a text. Then the value of the text is
checked as the same entry but for the order of members in its payload, and this entry has
the same text and the same hash. -/
theorem what_is_stored_is_checked_as_it_is :
    (∀ (k : ReportKind) (v : Value) (r : Report) (cs : List Char), k.ofValue v = .ok r →
      r.HasFiniteFloats → r.toValue.canonical? = some cs →
        ∃ w, ofBytes? (encode cs) = some w ∧ k.ofValue w = .ok r ∧ ∃ h, r.hash = .ok h) ∧
    ∀ (v : Value) (e : Entry) (cs : List Char), v.Proper → Entry.ofValue v = .ok e →
      e.canonical = .ok cs →
        ∃ w, ofBytes? (encode cs) = some w ∧ Entry.ofValue w = .ok e.stored ∧
          e.stored.canonical = .ok cs ∧
          ∃ h, e.chainHash = .ok h ∧ e.stored.chainHash = .ok h := by
  constructor
  · intro k v r cs hr hfinite hcs
    have hkind := kind_of_ofValue hr
    exact ⟨_, ofBytes?_report hfinite hcs, hkind ▸ ofValue_stored r, hash_of_canonical hfinite hcs⟩
  · intro v e cs hv he hcs
    have hproper := proper_toValue (proper_payload hv he)
    obtain ⟨_, hwritable, htext⟩ := canonical_eq_ok_iff.mp hcs
    have hread : ofBytes? (encode cs) = some e.toValue.sorted :=
      htext ▸ ofBytes?_encode_text hproper hwritable
    obtain ⟨h, hh⟩ := chainHash_of_canonical hcs
    exact ⟨_, hread, ofValue_toValue e, (canonical_stored e).trans hcs, h, hh,
      (chainHash_stored e).trans hh⟩

/-- Words and truth values that are taken for numbers are stored as numbers, in the report
of a comparison and in an entry whose payload is not in order. -/
theorem what_was_taken_for_numbers_is_stored_as_numbers :
    let timing : Members := [("strategy", .str "naive"), ("repeats", .bool true),
      ("best_ms", .int 2), ("mean_ms", .str " 2.5 "), ("runs", .str "+0_4"), ("steps", .int 9),
      ("position", .int 3), ("accumulator", .int (-8))]
    let report : Value := .obj [("agreed", .str "Yes"), ("timings", .arr [.obj timing]),
      ("tie_break", .str "lowest_index"), ("length", .str "7.0"), ("program_hash", .str "p"),
      ("engine_hash", .str "e"), ("remark", .null)]
    let r : Report := .bench ⟨⟨"v1", canonicalization, hashAlgorithm, "p", "e"⟩, 7, "lowest_index",
      [⟨"naive", 1, .ofInt 2, .ofRatio false 5 2, 4, 9, 3, -8⟩], true⟩
    let entry : Value := .obj [("seq", .bool false), ("ts", .str "5"), ("event", .str "RUN_START"),
      ("payload", .obj [("b", .int 1), ("a", .arr [.null, .obj []])])]
    let e : Entry := ⟨0, 5, .runStart, none, none,
      [("b", .int 1), ("a", .arr [.null, .obj []])], "", ""⟩
    ReportKind.bench.ofValue report = .ok r ∧ r.HasFiniteFloats ∧
      (∃ w, ofBytes? (encode r.toValue.text) = some w ∧ ReportKind.bench.ofValue w = .ok r) ∧
      entry.Proper ∧ Entry.ofValue entry = .ok e ∧
      ∃ w f, ofBytes? (encode e.toValue.text) = some w ∧ Entry.ofValue w = .ok f ∧
        f.payload = [("a", .arr [.null, .obj []]), ("b", .int 1)] ∧
        f.canonical = .ok e.toValue.text ∧ ∃ h, e.chainHash = .ok h ∧ f.chainHash = .ok h := by
  intro timing report r entry e
  have hr : ReportKind.bench.ofValue report = .ok r := by decide +kernel
  have hfinite : r.HasFiniteFloats := List.forall_mem_singleton.mpr ⟨rfl, rfl⟩
  have hreport : r.toValue.canonical? = some r.toValue.text := if_pos (by decide +kernel)
  have hitems : (Value.arr [.null, .obj []]).Proper :=
    .arr (List.forall_mem_cons.mpr ⟨.null, List.forall_mem_singleton.mpr proper_empty⟩)
  have hpayload : (Value.obj e.payload).Proper :=
    .obj (by decide) (List.forall_mem_cons.mpr ⟨.int 1, List.forall_mem_singleton.mpr hitems⟩)
  have hproper : entry.Proper := by
    refine .obj (by decide) ?_
    simp only [List.forall_mem_cons, List.not_mem_nil, false_implies, implies_true, and_true]
    exact ⟨.bool _, .str _, .str _, hpayload⟩
  have hentry : Entry.ofValue entry = .ok e :=
    ofValue_eq_ok_iff.mpr ⟨_, rfl, rfl, rfl, rfl, rfl, rfl, rfl, rfl, rfl⟩
  have htext : e.canonical = .ok e.toValue.text :=
    canonical_eq_ok_iff.mpr ⟨by decide +kernel, by decide +kernel, rfl⟩
  have hsorted : e.stored.payload = [("a", .arr [.null, .obj []]), ("b", .int 1)] := by
    refine (sortedByName_eq_insertionSort (by decide)).trans ?_
    simp [e, membersSorted, itemsSorted, Value.sorted, sortedByName, List.insertionSort,
      List.orderedInsert]
  obtain ⟨hreports, hentries⟩ := what_is_stored_is_checked_as_it_is
  obtain ⟨w, hw, hagain, _⟩ := hreports _ _ _ _ hr hfinite hreport
  obtain ⟨w', hw', hagain', hsame⟩ := hentries _ _ _ hproper hentry htext
  exact ⟨hr, hfinite, ⟨w, hw, hagain⟩, hproper, hentry, w', e.stored, hw', hagain', hsorted,
    hsame⟩

end

end Unloop

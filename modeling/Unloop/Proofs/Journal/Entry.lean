-- The laws of one entry: what it has from the value that spells it, when it
-- has a hash, and what the text under its hash tells.
import Unloop.Journal.Entry
import Unloop.Proofs.Report.Identity

namespace Unloop

open Form Json Text

section

variable {e f : Entry} {v : Value} {h : String}

/-! ## Entries that are read -/

/-- A value spells an entry when each field of the entry is what the check of
that field gives. -/
theorem ofValue_eq_ok_iff :
    Entry.ofValue v = .ok e ↔ ∃ ms, v = .obj ms ∧
      required ms "seq" whole = .ok e.seq ∧
      required ms "ts" whole = .ok e.ts ∧
      required ms "event" (oneOf (EntryEvent.all.map fun e => (e.name, e))) = .ok e.event ∧
      optional ms "program_hash" (orNull text) none = .ok e.programHash ∧
      optional ms "report_hash" (orNull text) none = .ok e.reportHash ∧
      optional ms "payload" members [] = .ok e.payload ∧
      optional ms "prev_hash" text "" = .ok e.prevHash ∧
      optional ms "entry_hash" text "" = .ok e.entryHash := by
  simp only [Entry.ofValue, fill_eq_ok_iff, Entry.check, seq_eq_ok_iff, map_eq_ok_iff]
  constructor
  · rintro ⟨ms, hv, _, _, ⟨_, _, ⟨_, _, ⟨_, _, ⟨_, _, ⟨_, _, ⟨_, _, ⟨_, hseq, rfl⟩, hts, rfl⟩, hevent,
      rfl⟩, hprogram, rfl⟩, hreport, rfl⟩, hpayload, rfl⟩, hprev, rfl⟩, hhash, rfl⟩
    exact ⟨ms, hv, hseq, hts, hevent, hprogram, hreport, hpayload, hprev, hhash⟩
  · rintro ⟨ms, hv, hseq, hts, hevent, hprogram, hreport, hpayload, hprev, hhash⟩
    exact ⟨ms, hv, _, _, ⟨_, _, ⟨_, _, ⟨_, _, ⟨_, _, ⟨_, _, ⟨_, _, ⟨_, hseq, rfl⟩, hts, rfl⟩, hevent,
      rfl⟩, hprogram, rfl⟩, hreport, rfl⟩, hpayload, rfl⟩, hprev, rfl⟩, hhash, rfl⟩

/-- The hash of an entry is the text under its name, which may be missing. -/
theorem entryHash_of_ofValue (he : Entry.ofValue v = .ok e) :
    ∃ ms, v = .obj ms ∧ (Members.get? ms "entry_hash").getD (.str "") = .str e.entryHash := by
  obtain ⟨ms, hv, _, _, _, _, _, _, _, hhash⟩ := ofValue_eq_ok_iff.mp he
  refine ⟨ms, hv, ?_⟩
  rcases optional_eq_ok_iff.mp hhash with ⟨hnone, hdefault⟩ | ⟨w, hw, htext⟩
  · rw [hnone, ← hdefault]
    rfl
  · rw [hw, text_eq_ok_iff.mp htext]
    rfl

theorem proper_payload (hv : v.Proper) (he : Entry.ofValue v = .ok e) :
    (Value.obj e.payload).Proper := by
  obtain ⟨ms, rfl, _, _, _, _, _, hpayload, _, _⟩ := ofValue_eq_ok_iff.mp he
  cases hv with
  | obj names parts =>
    rcases optional_eq_ok_iff.mp hpayload with ⟨_, hdefault⟩ | ⟨w, hw, hmembers⟩
    · rw [← hdefault]
      exact proper_empty
    · rw [← members_eq_ok_iff.mp hmembers]
      exact parts _ ((get?_eq_some_iff names).mp hw)

/-! ## The text under a hash -/

theorem nodup_chained (e : Entry) : (e.chained.map Prod.fst).Nodup := by
  change ["seq", "ts", "event", "program_hash", "report_hash", "payload", "prev_hash"].Nodup
  decide

theorem proper_chained (hpayload : (Value.obj e.payload).Proper) : (Value.obj e.chained).Proper := by
  refine .obj (nodup_chained e) ?_
  simp only [Entry.chained, List.forall_mem_cons, List.not_mem_nil, false_implies, implies_true,
    and_true]
  exact ⟨.int _, .int _, .str _, (within_ofText? _).1, (within_ofText? _).1, hpayload, .str _⟩

/-- An entry has a hash when its payload is not too deep and its fields can be
written. -/
theorem chainHash_eq_ok_iff :
    e.chainHash = .ok h ↔ membersHeight e.payload ≤ Entry.payloadHeight ∧
      (Value.obj e.chained).isWritable = true ∧ hashOf (encode (Value.obj e.chained).text) = h := by
  rw [Entry.chainHash, bind_eq_ok_iff, ← hash?_eq_some_iff]
  simp only [orFault_eq_ok_iff, Entry.checkHeight]
  constructor
  · rintro ⟨_, hheight, hhash⟩
    split at hheight
    · exact ⟨‹_›, hhash⟩
    · cases hheight
  · rintro ⟨hheight, hhash⟩
    exact ⟨(), if_pos hheight, hhash⟩

theorem isWritable_payload (hw : (Value.obj e.chained).isWritable = true) :
    (Value.obj e.payload).isWritable = true := by
  have hmem : ("payload", Value.obj e.payload) ∈ e.chained := by simp [Entry.chained]
  rw [Value.isWritable, Bool.and_eq_true, decide_eq_true_eq, Value.wordsOnly, membersWordsOnly_iff,
    Value.depth] at hw
  have hdepth := membersDepth_le.mp (Nat.le_of_succ_le hw.2) _ hmem
  rw [Value.isWritable, Bool.and_eq_true, decide_eq_true_eq]
  exact ⟨hw.1 _ hmem, hdepth⟩

/-! ## What the text tells -/

theorem name_injective {a b : EntryEvent} (h : a.name = b.name) : a = b := by
  have hall : ∀ x ∈ EntryEvent.all, ∀ y ∈ EntryEvent.all, x.name = y.name → x = y := by decide
  have hmem : ∀ x : EntryEvent, x ∈ EntryEvent.all := by
    intro x
    cases x <;> decide
  exact hall a (hmem a) b (hmem b) h

theorem ofText?_sorted_injective {o p : Option String}
    (h : (Value.ofText? o).sorted = (Value.ofText? p).sorted) : o = p := by
  cases o <;> cases p <;> simp_all [Value.ofText?, Value.sorted]

/-- Two entries tell the same: all fields agree, and the payloads have one
text. -/
structure Entry.Agrees (e f : Entry) : Prop where
  seq : e.seq = f.seq
  ts : e.ts = f.ts
  event : e.event = f.event
  programHash : e.programHash = f.programHash
  reportHash : e.reportHash = f.reportHash
  prevHash : e.prevHash = f.prevHash
  entryHash : e.entryHash = f.entryHash
  payload : ∃ t, (Value.obj e.payload).canonical? = some t ∧
    (Value.obj f.payload).canonical? = some t

/-- The text under the hash tells every field of the entry. -/
theorem agrees_of_text_eq (he : (Value.obj e.payload).Proper)
    (hew : (Value.obj e.chained).isWritable = true) (hf : (Value.obj f.payload).Proper)
    (hfw : (Value.obj f.chained).isWritable = true)
    (htext : (Value.obj e.chained).text = (Value.obj f.chained).text)
    (hhash : e.entryHash = f.entryHash) : e.Agrees f := by
  have hsorted := sorted_eq_of_text_eq (proper_chained he) hew (proper_chained hf) hfw htext
  simp only [Value.sorted, Value.obj.injEq] at hsorted
  have hfield : ∀ name, (Members.get? e.chained name).map Value.sorted =
      (Members.get? f.chained name).map Value.sorted := by
    intro name
    rw [← get?_sorted (nodup_chained e), ← get?_sorted (nodup_chained f), hsorted]
  have hseq : e.seq = f.seq := by
    simpa [Entry.chained, Members.get?, Value.sorted] using hfield "seq"
  have hts : e.ts = f.ts := by
    simpa [Entry.chained, Members.get?, Value.sorted] using hfield "ts"
  have hevent : e.event.name = f.event.name := by
    simpa [Entry.chained, Members.get?, Value.sorted] using hfield "event"
  have hprogram : (Value.ofText? e.programHash).sorted = (Value.ofText? f.programHash).sorted := by
    simpa [Entry.chained, Members.get?] using hfield "program_hash"
  have hreport : (Value.ofText? e.reportHash).sorted = (Value.ofText? f.reportHash).sorted := by
    simpa [Entry.chained, Members.get?] using hfield "report_hash"
  have hpayload : (Value.obj e.payload).sorted = (Value.obj f.payload).sorted := by
    simpa [Entry.chained, Members.get?] using hfield "payload"
  have hprev : e.prevHash = f.prevHash := by
    simpa [Entry.chained, Members.get?, Value.sorted] using hfield "prev_hash"
  have hsame : (Value.obj e.payload).canonical? = (Value.obj f.payload).canonical? := by
    rw [← canonical?_sorted, hpayload, canonical?_sorted]
  have hwritten : (Value.obj f.payload).canonical? = some (Value.obj f.payload).text :=
    if_pos (isWritable_payload hfw)
  exact {
    seq := hseq
    ts := hts
    event := name_injective hevent
    programHash := ofText?_sorted_injective hprogram
    reportHash := ofText?_sorted_injective hreport
    prevHash := hprev
    entryHash := hhash
    payload := ⟨_, hsame.trans hwritten, hwritten⟩ }

/-! ## Entries that are stored -/

/-- The entry as it is read back: the members of the payload are sorted. -/
def Entry.stored (e : Entry) : Entry := { e with payload := sortedByName (membersSorted e.payload) }

theorem nodup_toValue (e : Entry) :
    ((e.chained ++ [("entry_hash", Value.str e.entryHash)]).map Prod.fst).Nodup := by
  change ["seq", "ts", "event", "program_hash", "report_hash", "payload", "prev_hash",
    "entry_hash"].Nodup
  decide

theorem oneOf_event (e : EntryEvent) :
    oneOf (EntryEvent.all.map fun e => (e.name, e)) (.str e.name) = .ok e := by
  cases e <;> rfl

/-- What is stored is read back. -/
theorem ofValue_toValue (e : Entry) : Entry.ofValue e.toValue.sorted = .ok e.stored := by
  have hshows := shows_sorted (nodup_toValue e)
  simp only [Shows, Entry.chained, List.cons_append, List.nil_append, List.forall_mem_cons] at hshows
  obtain ⟨hseq, hts, hevent, hprogram, hreport, hpayload, hprev, hhash, _⟩ := hshows
  refine ofValue_eq_ok_iff.mpr ⟨_, rfl, required_of_get? hseq rfl, required_of_get? hts rfl,
    required_of_get? hevent (oneOf_event _), optional_of_get? hprogram (orNull_ofText? _),
    optional_of_get? hreport (orNull_ofText? _), optional_of_get? hpayload rfl,
    optional_of_get? hprev rfl, optional_of_get? hhash rfl⟩

/-- The hash of an entry does not depend on the order of members in its payload. -/
theorem chainHash_of_payload {ms : Members}
    (h : (Value.obj ms).sorted = (Value.obj e.payload).sorted) :
    { e with payload := ms }.chainHash = e.chainHash := by
  have hheight : membersHeight ms = membersHeight e.payload := by
    have hsorted := congrArg Value.height h
    rw [height_sorted, height_sorted] at hsorted
    exact Nat.succ.inj hsorted
  have hchained : (Value.obj { e with payload := ms }.chained).sorted =
      (Value.obj e.chained).sorted := by
    simp only [Entry.chained, Value.sorted, membersSorted] at h ⊢
    rw [h]
  have hhash : (Value.obj { e with payload := ms }.chained).hash? = (Value.obj e.chained).hash? := by
    rw [← hash?_sorted, hchained, hash?_sorted]
  unfold Entry.chainHash Entry.checkHeight
  rw [hheight, hhash]

/-- Storing an entry does not change the hash that it ought to have. -/
theorem chainHash_stored (e : Entry) : e.stored.chainHash = e.chainHash :=
  chainHash_of_payload (sorted_sorted (.obj e.payload))

end

end Unloop

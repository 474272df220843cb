-- Edits of a line. The hash of a line covers the entry that the line spells and
-- not its text, so an edit that leaves the hash in the line alone is told by the
-- check exactly when the line no longer spells an entry that tells the same.
import Unloop.Proofs.Journal.Commitment
import Unloop.Proofs.Journal.Verdict
import Unloop.Proofs.Report.Order

namespace Unloop

open Form Json Text

/-! ## The pure model -/

/-- Two values spell entries that tell the same. -/
def SpellTheSame (v w : Value) : Prop :=
  ∃ e f, Entry.ofValue v = .ok e ∧ Entry.ofValue w = .ok f ∧ e.Agrees f

section

variable {a b : Bytes} {prev : String} {n : Nat} {e f : Entry} {ms old new : Members}
  {before after : List Value}

/-! ## Entries that tell the same -/

theorem agrees_self (h : e.chainHash = .ok e.entryHash) : e.Agrees e := by
  obtain ⟨_, hwords, _⟩ := chainHash_eq_ok_iff.mp h
  have hpayload := canonical?_eq_some_iff.mpr ⟨isWritable_payload hwords, rfl⟩
  exact ⟨rfl, rfl, rfl, rfl, rfl, rfl, rfl, _, hpayload, hpayload⟩

theorem eq_of_agrees (h : e.Agrees f) : { e with payload := f.payload } = f := by
  obtain ⟨hseq, hts, hevent, hprogram, hreport, hprev, hhash, _⟩ := h
  cases e
  cases f
  simp_all

theorem sorted_payload_of_agrees (he : (Value.obj e.payload).Proper)
    (hf : (Value.obj f.payload).Proper) (h : e.Agrees f) :
    (Value.obj f.payload).sorted = (Value.obj e.payload).sorted := by
  obtain ⟨t, het, hft⟩ := h.payload
  obtain ⟨hew, hetext⟩ := canonical?_eq_some_iff.mp het
  obtain ⟨hfw, hftext⟩ := canonical?_eq_some_iff.mp hft
  exact sorted_eq_of_text_eq hf hfw he hew (hftext.trans hetext.symm)

theorem checkReport_of_payload (he : (Value.obj e.payload).Proper) (hms : (Value.obj ms).Proper)
    (h : (Value.obj ms).sorted = (Value.obj e.payload).sorted) :
    { e with payload := ms }.checkReport = e.checkReport := by
  have hreport : { e with payload := ms }.report? = e.report? := by
    unfold Entry.report?
    congr 1
    funext k
    rw [← ofValue_sorted k hms, h, ofValue_sorted k he]
  unfold Entry.checkReport
  rw [hreport]

/-- Where an entry fits, so does one that tells the same. -/
theorem fits_of_agrees (he : (Value.obj e.payload).Proper) (hf : (Value.obj f.payload).Proper)
    (h : e.Agrees f) (hfits : e.Fits prev n) : f.Fits prev n := by
  have hpayload := sorted_payload_of_agrees he hf h
  have hhash := chainHash_of_payload hpayload
  have hreport := checkReport_of_payload he hf hpayload
  rw [eq_of_agrees h] at hhash hreport
  exact {
    prevHash := h.prevHash ▸ hfits.prevHash
    seq := h.seq ▸ hfits.seq
    hash := by rw [hhash, hfits.hash, h.entryHash]
    report := by rw [hreport, hfits.report, h.entryHash] }

/-! ## Edits that leave the hash alone -/

theorem entryHash_of_get?_eq (he : Entry.ofValue (.obj old) = .ok e)
    (hf : Entry.ofValue (.obj new) = .ok f)
    (h : Members.get? new "entry_hash" = Members.get? old "entry_hash") :
    e.entryHash = f.entryHash := by
  obtain ⟨_, ⟨⟩, hold⟩ := entryHash_of_ofValue he
  obtain ⟨_, ⟨⟩, hnew⟩ := entryHash_of_ofValue hf
  rw [h, hold] at hnew
  exact Value.str.inj hnew

/-- An object that is put in the place of an entry and tells the same continues the
chain as the entry did. -/
theorem link_of_same (he : Entry.ofValue (.obj old) = .ok e) (hfits : e.Fits prev n)
    (hold : (Value.obj old).Proper) (hnew : (Value.obj new).Proper)
    (h : SpellTheSame (.obj old) (.obj new)) :
    Link.ofValue (.obj new) prev n = .ok (.next e.entryHash) := by
  obtain ⟨_, f, he', hf, hef⟩ := h
  obtain rfl := Except.ok.inj (he.symm.trans he')
  have hffits := fits_of_agrees (proper_payload hold he) (proper_payload hnew hf) hef hfits
  exact link_eq_next_iff.mpr ⟨f, hf, hffits, hef.entryHash⟩

/-- An object that is put in the place of an entry, has the same hash in it, and
tells anything else breaks the chain, or spells an entry without a hash. -/
theorem link_of_edit (he : Entry.ofValue (.obj old) = .ok e) (hfits : e.Fits prev n)
    (hold : (Value.obj old).Proper) (hnew : (Value.obj new).Proper)
    (hhash : Members.get? new "entry_hash" = Members.get? old "entry_hash")
    (hfree : ∀ f, Entry.ofValue (.obj new) = .ok f → CollisionFree (e.hashedTexts ++ f.hashedTexts))
    (h : ¬ SpellTheSame (.obj old) (.obj new)) :
    (∃ m, Link.ofValue (.obj new) prev n = .ok (.broken m)) ∨
      ∃ f fault, Entry.ofValue (.obj new) = .ok f ∧ f.chainHash = .error fault ∧
        Link.ofValue (.obj new) prev n = .error fault := by
  -- an entry whose hash is the one in the line tells what was there before
  have hother : ∀ f, Entry.ofValue (.obj new) = .ok f → f.chainHash ≠ .ok f.entryHash := by
    intro f hf hfhash
    have hef := agrees_of_hash_eq hfits.hash hfhash (proper_payload hold he)
      (proper_payload hnew hf) (hfree f hf) (entryHash_of_get?_eq he hf hhash)
    exact h ⟨e, f, he, hf, hef⟩
  rcases hlink : Link.ofValue (.obj new) prev n with fault | m | next
  · cases link_eq_error_iff.mp hlink with
    | noObject hnone => cases hnone
    | tooDeep hf _ hdeep =>
      exact Or.inr ⟨_, _, hf, chainHash_eq_error_iff.mpr (Or.inl ⟨hdeep, rfl⟩), rfl⟩
    | unwritable hf _ hheight hwords =>
      exact Or.inr ⟨_, _, hf, chainHash_eq_error_iff.mpr (Or.inr ⟨hheight, hwords, rfl⟩), rfl⟩
    | unwritableReport hf _ hfhash _ _ => exact absurd hfhash (hother _ hf)
  · exact Or.inl ⟨m, rfl⟩
  · obtain ⟨f, hf, hffits, _⟩ := link_eq_next_iff.mp hlink
    exact absurd hffits.hash (hother f hf)

/-- An edit of a line, told by the check exactly when the entry changes. In a file
whose chain holds, an object is put in the place of another, and has the same
hash in it. Where no two of the texts under the hashes of the two have one hash,
the chain still holds exactly if the objects spell entries that tell the same.
Else the chain breaks at the line, or the entry has no hash that could be
compared. -/
theorem an_edit_is_told_unless_the_entry_stays (h : Journal.verify a = .ok .holds)
    (ha : Json.ofLines a = .ok (before ++ .obj old :: after))
    (hb : Json.ofLines b = .ok (before ++ .obj new :: after))
    (hhash : Members.get? new "entry_hash" = Members.get? old "entry_hash")
    (hfree : ∀ e f, Entry.ofValue (.obj old) = .ok e → Entry.ofValue (.obj new) = .ok f →
      CollisionFree (e.hashedTexts ++ f.hashedTexts)) :
    (Journal.verify b = .ok .holds ↔ SpellTheSame (.obj old) (.obj new)) ∧
      (¬ SpellTheSame (.obj old) (.obj new) →
        (∃ m, Journal.verify b = .ok (.breaks m before.length)) ∨
          ∃ f fault, Entry.ofValue (.obj new) = .ok f ∧ f.chainHash = .error fault ∧
            Journal.verify b = .error fault) := by
  rw [verify_of_ofLines ha] at h
  obtain ⟨es, hes, hchained, hrest⟩ := chain_of_holds h
  have hplace : 0 + es.length = before.length := by rw [Nat.zero_add, hes.length_eq]
  rw [hplace] at hrest
  obtain ⟨_, hlink, hafter⟩ := ofValues_cons_eq_holds_iff.mp hrest
  obtain ⟨e, he, hfits, rfl⟩ := link_eq_next_iff.mp hlink
  have hold := proper_of_ofLines ha (.obj old) (by simp)
  have hnew := proper_of_ofLines hb (.obj new) (by simp)
  rw [verify_of_ofLines hb, ofValues_append hes hchained, hplace, Verdict.ofValues]
  by_cases hsame : SpellTheSame (.obj old) (.obj new)
  · rw [link_of_same he hfits hold hnew hsame]
    exact ⟨iff_of_true hafter hsame, fun hdiffers => absurd hsame hdiffers⟩
  · rcases link_of_edit he hfits hold hnew hhash (fun f => hfree e f he) hsame with
      ⟨m, hbroken⟩ | ⟨f, fault, hf, hfault, hstop⟩
    · rw [hbroken]
      refine ⟨iff_of_false ?_ hsame, fun _ => Or.inl ⟨m, rfl⟩⟩
      intro hholds
      cases hholds
    · rw [hstop]
      refine ⟨iff_of_false ?_ hsame, fun _ => Or.inr ⟨f, fault, hf, hfault, rfl⟩⟩
      intro hholds
      cases hholds

/-! ## Edits of a first entry -/

/-- The entry of a failure that comes first in a file, with its hash. -/
def firstFailure : Entry :=
  let e := (Draft.failure (.general "first")).unsealed "" 0 1000
  { e with entryHash := hashOf (encode (Value.obj e.chained).text) }

/-- The members of the first entry, with this number and this event, and more of them. -/
def firstMembers (seq : Value) (event : String) (more : Members) : Members :=
  [("seq", seq), ("ts", .int 1000), ("event", .str event), ("program_hash", .null),
    ("report_hash", .null), ("payload", .obj firstFailure.payload), ("prev_hash", .str ""),
    ("entry_hash", .str firstFailure.entryHash)] ++ more

/-- The members as the values of the file with them in its only line have them. -/
def firstRead (seq : Value) (event : String) (more : Members) : Members :=
  sortedByName (membersSorted (firstMembers seq event more))

/-- The members as a line, without an ending. -/
def firstText (seq : Value) (event : String) (more : Members) : Bytes :=
  encode (Value.obj (firstMembers seq event more)).text

/-- The file with the members in its only line. -/
def firstFile (seq : Value) (event : String) (more : Members) : Bytes :=
  firstText seq event more ++ [10]

/-- The members can be written as a line and are read back from it. -/
structure FirstLine (seq : Value) (event : String) (more : Members) : Prop where
  writable : (Value.obj (firstMembers seq event more)).isWritable = true
  names : ((firstMembers seq event more).map Prod.fst).Nodup
  number : seq.Proper
  others : ∀ m ∈ more, m.2.Proper

section

variable {seq : Value} {event : String} {more : Members} {content : Bytes}

theorem proper_firstMembers (h : FirstLine seq event more) :
    (Value.obj (firstMembers seq event more)).Proper := by
  have hpayload : (Value.obj firstFailure.payload).Proper := (sound_failure _).payload.1
  refine .obj h.names (List.forall_mem_append.mpr ⟨?_, h.others⟩)
  simp only [List.forall_mem_cons, List.not_mem_nil, false_implies, implies_true, and_true]
  exact ⟨h.number, .int _, .str _, .null, .null, hpayload, .str _, .str _⟩

theorem isFilled_firstText (h : FirstLine seq event more) : IsFilled (firstText seq event more) :=
  isFilled_encode_text (proper_firstMembers h) h.writable

theorem filledLines_firstFile (h : FirstLine seq event more) :
    filledLines (firstFile seq event more) = [firstText seq event more] :=
  filledLines_cons (isFilled_firstText h) []

theorem ofLines_of_firstText (h : FirstLine seq event more)
    (hcontent : filledLines content = [firstText seq event more]) :
    Json.ofLines content = .ok [.obj (firstRead seq event more)] := by
  rw [Json.ofLines, hcontent]
  exact mapM_eq_ok_iff.mpr (.cons (ofLine_encode_text (proper_firstMembers h) h.writable) .nil)

theorem ofLines_firstFile (h : FirstLine seq event more) :
    Json.ofLines (firstFile seq event more) = .ok [.obj (firstRead seq event more)] :=
  ofLines_of_firstText h (filledLines_firstFile h)

theorem get?_firstRead (h : FirstLine seq event more) (name : String) :
    Members.get? (firstRead seq event more) name =
      (Members.get? (firstMembers seq event more) name).map Value.sorted :=
  get?_sorted h.names name

theorem entryHash_firstRead (h : FirstLine seq event more) :
    Members.get? (firstRead seq event more) "entry_hash" = some (.str firstFailure.entryHash) := by
  rw [get?_firstRead h]
  rfl

theorem ofValue_firstRead (h : FirstLine seq "RUN_FAILED" more) (hseq : whole seq.sorted = .ok 0) :
    Entry.ofValue (.obj (firstRead seq "RUN_FAILED" more)) = .ok firstFailure.stored := by
  have hget := get?_firstRead h
  exact ofValue_eq_ok_iff.mpr ⟨_, rfl, required_of_get? (hget "seq") hseq,
    required_of_get? (hget "ts") rfl, required_of_get? (hget "event") (oneOf_event .runFailed),
    optional_of_get? (hget "program_hash") rfl, optional_of_get? (hget "report_hash") rfl,
    optional_of_get? (hget "payload") rfl, optional_of_get? (hget "prev_hash") rfl,
    optional_of_get? (hget "entry_hash") rfl⟩

theorem fits_firstFailure : firstFailure.stored.Fits "" 0 where
  prevHash := rfl
  seq := rfl
  hash := by
    have hheight : membersHeight firstFailure.payload < 4 :=
      (sound_failure (.general "first")).payload.2
    have hunsealed : ((Draft.failure (.general "first")).unsealed "" 0 1000).chainHash =
        .ok firstFailure.entryHash := by
      rw [chainHash_eq_ok_iff]
      exact ⟨Nat.le_trans (Nat.le_of_lt hheight) (by decide : 4 ≤ Entry.payloadHeight), rfl, rfl⟩
    rw [chainHash_stored]
    exact (Entry.chainHash_congr _ _).trans hunsealed
  report := checkReport_of_none rfl

theorem entries_of_firstText (h : FirstLine seq "RUN_FAILED" more) (hseq : whole seq.sorted = .ok 0)
    (hcontent : filledLines content = [firstText seq "RUN_FAILED" more]) :
    Journal.entries content = .ok [firstFailure.stored] :=
  entries_eq_ok_iff.mpr
    ⟨_, ofLines_of_firstText h hcontent, .cons (ofValue_firstRead h hseq) .nil⟩

theorem verify_of_firstText (h : FirstLine seq "RUN_FAILED" more) (hseq : whole seq.sorted = .ok 0)
    (hcontent : filledLines content = [firstText seq "RUN_FAILED" more]) :
    Journal.verify content = .ok .holds := by
  rw [verify_eq_holds_iff]
  exact ⟨_, entries_of_firstText h hseq hcontent, fits_firstFailure, trivial⟩

theorem verify_firstFile (h : FirstLine seq "RUN_FAILED" more) (hseq : whole seq.sorted = .ok 0) :
    Journal.verify (firstFile seq "RUN_FAILED" more) = .ok .holds :=
  verify_of_firstText h hseq (filledLines_firstFile h)

end

theorem firstNames {seq : Value} {event : String} :
    ((firstMembers seq event []).map Prod.fst).Nodup := by
  change ["seq", "ts", "event", "program_hash", "report_hash", "payload", "prev_hash",
    "entry_hash"].Nodup
  decide

theorem firstLine_plain (event : String) : FirstLine (.int 0) event [] where
  writable := rfl
  names := firstNames
  number := .int 0
  others := List.forall_mem_nil _

theorem firstLine_text : FirstLine (.str "0") "RUN_FAILED" [] where
  writable := rfl
  names := firstNames
  number := .str "0"
  others := List.forall_mem_nil _

theorem firstLine_note : FirstLine (.int 0) "RUN_FAILED" [("note", .int 1)] where
  writable := rfl
  names := by
    change ["seq", "ts", "event", "program_hash", "report_hash", "payload", "prev_hash",
      "entry_hash", "note"].Nodup
    decide
  number := .int 0
  others := List.forall_mem_singleton.mpr (.int 1)

/-- A first entry that stays as it is has one text to be hashed. -/
theorem collisionFree_firstFailure :
    CollisionFree (firstFailure.stored.hashedTexts ++ firstFailure.stored.hashedTexts) := by
  have htexts : firstFailure.stored.hashedTexts =
      [(Value.obj firstFailure.stored.chained).text] := rfl
  intro t ht u hu _
  rw [htexts] at ht hu
  simp only [List.singleton_append, List.mem_cons, List.not_mem_nil, or_false, or_self] at ht hu
  rw [ht, hu]

/-- Two lines that both spell the first entry have one text to be hashed. -/
theorem collisionFree_of_firstRead {old new : Value}
    (hold : Entry.ofValue old = .ok firstFailure.stored)
    (hnew : Entry.ofValue new = .ok firstFailure.stored) :
    ∀ e f, Entry.ofValue old = .ok e → Entry.ofValue new = .ok f →
      CollisionFree (e.hashedTexts ++ f.hashedTexts) := by
  intro e f he hf
  obtain rfl := Except.ok.inj (hold.symm.trans he)
  obtain rfl := Except.ok.inj (hnew.symm.trans hf)
  exact collisionFree_firstFailure

/-- No entry has another event. -/
theorem ofValue_lost (e : Entry) :
    Entry.ofValue (.obj (firstRead (.int 0) "RUN_LOST" [])) ≠ .ok e := by
  intro he
  obtain ⟨_, ⟨⟩, _, _, hevent, _⟩ := ofValue_eq_ok_iff.mp he
  rw [required, get?_firstRead (firstLine_plain "RUN_LOST")] at hevent
  cases hevent

theorem a_number_as_text_stays_and_another_event_is_told :
    Journal.verify (firstFile (.int 0) "RUN_FAILED" []) = .ok .holds ∧
      Journal.verify (firstFile (.str "0") "RUN_FAILED" []) = .ok .holds ∧
      ∃ m, Journal.verify (firstFile (.int 0) "RUN_LOST" []) = .ok (.breaks m 0) := by
  have hplain := firstLine_plain "RUN_FAILED"
  have hlost := firstLine_plain "RUN_LOST"
  have hentry := ofValue_firstRead hplain rfl
  have htext := ofValue_firstRead firstLine_text rfl
  have hholds := verify_firstFile hplain rfl
  have hold : Json.ofLines (firstFile (.int 0) "RUN_FAILED" []) =
      .ok ([] ++ [.obj (firstRead (.int 0) "RUN_FAILED" [])]) := ofLines_firstFile hplain
  refine ⟨hholds, ?_, ?_⟩
  · have hhash := (entryHash_firstRead firstLine_text).trans (entryHash_firstRead hplain).symm
    have hstays := an_edit_is_told_unless_the_entry_stays hholds hold
      (ofLines_firstFile firstLine_text) hhash (collisionFree_of_firstRead hentry htext)
    exact hstays.1.mpr ⟨_, _, hentry, htext, agrees_self fits_firstFailure.hash⟩
  · have hhash := (entryHash_firstRead hlost).trans (entryHash_firstRead hplain).symm
    have htold := an_edit_is_told_unless_the_entry_stays hholds hold (ofLines_firstFile hlost) hhash
      fun e f _ hf => absurd hf (ofValue_lost f)
    have hother : ¬ SpellTheSame (.obj (firstRead (.int 0) "RUN_FAILED" []))
        (.obj (firstRead (.int 0) "RUN_LOST" [])) := by
      rintro ⟨_, f, _, hf, _⟩
      exact ofValue_lost f hf
    rcases htold.2 hother with hbreaks | ⟨f, _, hf, _⟩
    · exact hbreaks
    · exact absurd hf (ofValue_lost f)

/-- A member that is added to a line is not told: no field of an entry has its name. -/
theorem an_added_member_is_not_told :
    let old := firstRead (.int 0) "RUN_FAILED" []
    let new := firstRead (.int 0) "RUN_FAILED" [("note", .int 1)]
    Json.ofLines (firstFile (.int 0) "RUN_FAILED" []) = .ok [.obj old] ∧
      Json.ofLines (firstFile (.int 0) "RUN_FAILED" [("note", .int 1)]) = .ok [.obj new] ∧
      Members.get? old "note" = none ∧ Members.get? new "note" = some (.int 1) ∧
      Members.get? new "entry_hash" = Members.get? old "entry_hash" ∧
      (∀ e f, Entry.ofValue (.obj old) = .ok e → Entry.ofValue (.obj new) = .ok f →
        CollisionFree (e.hashedTexts ++ f.hashedTexts)) ∧
      Journal.verify (firstFile (.int 0) "RUN_FAILED" []) = .ok .holds ∧
      Journal.verify (firstFile (.int 0) "RUN_FAILED" [("note", .int 1)]) = .ok .holds := by
  have hplain := firstLine_plain "RUN_FAILED"
  have hhash := (entryHash_firstRead firstLine_note).trans (entryHash_firstRead hplain).symm
  have hfree := collisionFree_of_firstRead (ofValue_firstRead hplain rfl)
    (ofValue_firstRead firstLine_note rfl)
  exact ⟨ofLines_firstFile hplain, ofLines_firstFile firstLine_note,
    get?_firstRead hplain "note", get?_firstRead firstLine_note "note", hhash, hfree,
    verify_firstFile hplain rfl, verify_firstFile firstLine_note rfl⟩

end

end Unloop

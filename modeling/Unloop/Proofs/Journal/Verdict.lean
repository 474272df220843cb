-- The laws of verdicts, for files of any bytes. The check of a file gives a
-- verdict unless a line is no JSON, or the first line that does not continue the
-- chain cannot be judged: it is no object, or an entry in its place for which, or
-- for whose report, no hash can be made.
import Unloop.Proofs.Journal.Chain

namespace Unloop

open Form Json Text

/-! ## The pure model -/

/-- The entry names the hash `prev` as the one before it, and the place `n` as its
own. -/
def Entry.InPlace (e : Entry) (prev : String) (n : Nat) : Prop := e.prevHash = prev ∧ e.seq = n

/-- What ends the check at a value, at place `n` after the hash `prev`, before it
can be judged. -/
inductive Unjudged (prev : String) (n : Nat) (v : Value) : Fault → Prop
  | noObject (h : v.members? = none) : Unjudged prev n v .noFields
  | tooDeep {e : Entry} (he : Entry.ofValue v = .ok e) (hplace : e.InPlace prev n)
      (hdeep : Entry.payloadHeight < membersHeight e.payload) : Unjudged prev n v .tooDeep
  | unwritable {e : Entry} (he : Entry.ofValue v = .ok e) (hplace : e.InPlace prev n)
      (hheight : membersHeight e.payload ≤ Entry.payloadHeight)
      (hwords : (Value.obj e.chained).isWritable = false) : Unjudged prev n v .unwritable
  | unwritableReport {e : Entry} {r : Report} (he : Entry.ofValue v = .ok e)
      (hplace : e.InPlace prev n) (hhash : e.chainHash = .ok e.entryHash)
      (hr : e.report? = some (.ok r)) (hwords : (Value.obj r.identity).isWritable = false) :
      Unjudged prev n v .unwritable

/-- The value is that of a line of the file, and the lines before it are the chain
of these entries. -/
def ComesAfter (content : Bytes) (es : List Entry) (v : Value) : Prop :=
  ∃ before after, Json.ofLines content = .ok (before ++ v :: after) ∧
    List.Forall₂ (fun v e => Entry.ofValue v = .ok e) before es ∧ Chained "" 0 es

section

variable {content : Bytes} {prev h : String} {n k : Nat} {e : Entry} {es : List Entry}
  {r : Report} {v : Value} {vs before after : List Value} {m : Mismatch} {fault : Fault}

/-! ## Hashes that cannot be made -/

/-- An entry has no hash when its payload is too deep, and else when its fields
cannot be written. -/
theorem chainHash_eq_error_iff :
    e.chainHash = .error fault ↔
      (Entry.payloadHeight < membersHeight e.payload ∧ fault = .tooDeep) ∨
        (membersHeight e.payload ≤ Entry.payloadHeight ∧
          (Value.obj e.chained).isWritable = false ∧ fault = .unwritable) := by
  rw [Entry.chainHash, bind_eq_error_iff]
  simp only [Entry.checkHeight, orFault_eq_error_iff, hash?_eq_none_iff]
  by_cases hheight : membersHeight e.payload ≤ Entry.payloadHeight
  · have hdeep : ¬ Entry.payloadHeight < membersHeight e.payload := not_lt.mpr hheight
    rw [if_pos hheight]
    simp only [exists_const, reduceCtorEq, hheight, hdeep, false_and, true_and, false_or]
  · have hdeep : Entry.payloadHeight < membersHeight e.payload := not_le.mp hheight
    rw [if_neg hheight]
    simp only [Except.error.injEq, reduceCtorEq, hheight, hdeep, false_and, true_and, or_false,
      exists_false, eq_comm]

/-! ## One link -/

theorem report?_of_ofValue {fault' : Fault} (h : e.report? = some (.error fault')) :
    ∃ is, fault' = .invalid is := by
  obtain ⟨kind, _, hkind⟩ := Option.map_eq_some_iff.mp h
  rcases fill_eq_error_iff.mp hkind with ⟨hnone, _⟩ | ⟨_, is, _, _, rfl⟩
  · cases hnone
  · exact ⟨is, rfl⟩

theorem checkReport_eq_error_iff :
    e.checkReport = .error fault ↔ ∃ r, e.report? = some (.ok r) ∧ r.hash = .error fault := by
  unfold Entry.checkReport
  split
  · simp [*]
  · simp [*]
  · rename_i fault' hne hr
    obtain ⟨is, rfl⟩ := report?_of_ofValue hr
    exact absurd rfl (hne is)
  · rename_i r hr
    rw [bind_eq_error_iff]
    constructor
    · rintro (hfault | ⟨t, _, ht⟩)
      · exact ⟨r, hr, hfault⟩
      · split at ht <;> cases ht
    · rintro ⟨r', hr', hfault⟩
      rw [hr, Option.some.injEq, Except.ok.injEq] at hr'
      exact Or.inl (hr' ▸ hfault)

theorem checkLink_of_misplaced (h : ¬ e.InPlace prev n) :
    ∃ m, e.checkLink prev n = .ok (.broken m) := by
  unfold Entry.checkLink
  by_cases hprev : e.prevHash = prev
  · have hseq : e.seq ≠ n := fun hseq => h ⟨hprev, hseq⟩
    exact ⟨.sequence, by simp [hprev, hseq]⟩
  · exact ⟨.prevHash, by simp [hprev]⟩

theorem checkLink_eq_error_iff :
    e.checkLink prev n = .error fault ↔ e.InPlace prev n ∧
      (e.chainHash = .error fault ∨
        (e.chainHash = .ok e.entryHash ∧ e.checkReport = .error fault)) := by
  by_cases hplace : e.InPlace prev n
  · obtain ⟨hprev, hseq⟩ := hplace
    have hlink : e.checkLink prev n = (do
        if (← e.chainHash) ≠ e.entryHash then return .broken .hash else e.checkReport) := by
      simp [Entry.checkLink, hprev, hseq]
    rw [hlink, bind_eq_error_iff]
    simp only [Entry.InPlace, hprev, hseq, and_self, true_and]
    refine or_congr_right ⟨?_, ?_⟩
    · rintro ⟨t, ht, hrest⟩
      split at hrest
      · cases hrest
      · rename_i hsame
        rw [not_not] at hsame
        exact ⟨hsame ▸ ht, hrest⟩
    · rintro ⟨hhash, hreport⟩
      exact ⟨_, hhash, by simpa using hreport⟩
  · obtain ⟨m, hm⟩ := checkLink_of_misplaced hplace
    simp [hm, hplace]

/-- The check ends at a value exactly when this cannot be judged. -/
theorem link_eq_error_iff : Link.ofValue v prev n = .error fault ↔ Unjudged prev n v fault := by
  have hlink : Link.ofValue v prev n = .error fault ↔
      (v.members? = none ∧ fault = .noFields) ∨
        ∃ e, Entry.ofValue v = .ok e ∧ e.checkLink prev n = .error fault := by
    unfold Link.ofValue
    cases hv : Entry.ofValue v with
    | ok e =>
      have hobj : v.members? ≠ none := by
        obtain ⟨ms, rfl, _⟩ := fill_eq_ok_iff.mp hv
        simp [Value.members?]
      simp [hobj]
    | error fault' =>
      rcases fill_eq_error_iff.mp hv with ⟨hnone, rfl⟩ | ⟨ms, is, rfl, _, rfl⟩
      · simp [hnone, eq_comm]
      · simp [Value.members?]
  rw [hlink]
  simp only [checkLink_eq_error_iff, chainHash_eq_error_iff, checkReport_eq_error_iff,
    reportHash_eq_error_iff]
  constructor
  · rintro (⟨hnone, rfl⟩ | ⟨e, he, hplace, (⟨hdeep, rfl⟩ | ⟨hheight, hwords, rfl⟩) |
      ⟨hhash, r, hr, hwords, rfl⟩⟩)
    · exact .noObject hnone
    · exact .tooDeep he hplace hdeep
    · exact .unwritable he hplace hheight hwords
    · exact .unwritableReport he hplace hhash hr hwords
  · rintro (hnone | ⟨he, hplace, hdeep⟩ | ⟨he, hplace, hheight, hwords⟩ |
      ⟨he, hplace, hhash, hr, hwords⟩)
    · exact Or.inl ⟨hnone, rfl⟩
    · exact Or.inr ⟨_, he, hplace, Or.inl (Or.inl ⟨hdeep, rfl⟩)⟩
    · exact Or.inr ⟨_, he, hplace, Or.inl (Or.inr ⟨hheight, hwords, rfl⟩)⟩
    · exact Or.inr ⟨_, he, hplace, Or.inr ⟨hhash, _, hr, hwords, rfl⟩⟩

/-! ## The lines one after another -/

/-- After a chain the check goes on with the lines that are left. -/
theorem ofValues_append (hvs : List.Forall₂ (fun v e => Entry.ofValue v = .ok e) vs es)
    (hes : Chained prev n es) (rest : List Value) :
    Verdict.ofValues prev n (vs ++ rest) =
      Verdict.ofValues (lastHashFrom prev es) (n + es.length) rest := by
  induction hvs generalizing prev n with
  | nil => rfl
  | @cons v e vs es hv hvs ih =>
    obtain ⟨hfits, hes⟩ := hes
    have hnext : Link.ofValue v prev n = .ok (.next e.entryHash) :=
      link_eq_next_iff.mpr ⟨e, hv, hfits, rfl⟩
    rw [List.cons_append, Verdict.ofValues, hnext]
    change Verdict.ofValues e.entryHash (n + 1) (vs ++ rest) = _
    rw [ih hes, lastHashFrom_cons, List.length_cons, Nat.add_assoc, Nat.add_comm 1]

/-- The check goes through a chain to its end, or to the first value that does not
continue it. -/
theorem chain_then (prev : String) (n : Nat) (vs : List Value) :
    (∃ es, List.Forall₂ (fun v e => Entry.ofValue v = .ok e) vs es ∧ Chained prev n es) ∨
      ∃ before v after es, vs = before ++ v :: after ∧
        List.Forall₂ (fun v e => Entry.ofValue v = .ok e) before es ∧ Chained prev n es ∧
        ∀ h, Link.ofValue v (lastHashFrom prev es) (n + es.length) ≠ .ok (.next h) := by
  induction vs generalizing prev n with
  | nil => exact Or.inl ⟨[], .nil, trivial⟩
  | cons v vs ih =>
    by_cases hnext : ∃ h, Link.ofValue v prev n = .ok (.next h)
    · obtain ⟨h, hnext⟩ := hnext
      obtain ⟨e, he, hfits, rfl⟩ := link_eq_next_iff.mp hnext
      rcases ih e.entryHash (n + 1) with ⟨es, hes, hchained⟩ |
        ⟨before, w, after, es, rfl, hes, hchained, hstop⟩
      · exact Or.inl ⟨e :: es, .cons he hes, hfits, hchained⟩
      · refine Or.inr ⟨v :: before, w, after, e :: es, rfl, .cons he hes, ⟨hfits, hchained⟩, ?_⟩
        rw [lastHashFrom_cons, List.length_cons, Nat.add_comm es.length, ← Nat.add_assoc]
        exact hstop
    · exact Or.inr ⟨[], v, vs, [], rfl, .nil, trivial, not_exists.mp hnext⟩

/-- At a value that does not continue the chain the check comes to its end. -/
theorem ofValues_of_stop
    (hvs : List.Forall₂ (fun v e => Entry.ofValue v = .ok e) before es) (hes : Chained prev n es)
    (hstop : ∀ h, Link.ofValue v (lastHashFrom prev es) (n + es.length) ≠ .ok (.next h)) :
    (∃ m, Link.ofValue v (lastHashFrom prev es) (n + es.length) = .ok (.broken m) ∧
      Verdict.ofValues prev n (before ++ v :: after) = .ok (.breaks m (n + es.length))) ∨
    ∃ fault, Link.ofValue v (lastHashFrom prev es) (n + es.length) = .error fault ∧
      Verdict.ofValues prev n (before ++ v :: after) = .error fault := by
  rw [ofValues_append hvs hes, Verdict.ofValues]
  rcases hlink : Link.ofValue v (lastHashFrom prev es) (n + es.length) with fault | m | h
  · exact Or.inr ⟨fault, rfl, rfl⟩
  · exact Or.inl ⟨m, rfl, rfl⟩
  · exact absurd hlink (hstop h)

/-- Where the check goes through some values and more, it goes through the values
first. -/
theorem chain_of_holds {rest : List Value}
    (h : Verdict.ofValues prev n (vs ++ rest) = .ok .holds) :
    ∃ es, List.Forall₂ (fun v e => Entry.ofValue v = .ok e) vs es ∧ Chained prev n es ∧
      Verdict.ofValues (lastHashFrom prev es) (n + es.length) rest = .ok .holds := by
  rcases chain_then prev n vs with ⟨es, hes, hchained⟩ |
    ⟨before, v, after, es, rfl, hes, hchained, hstop⟩
  · rw [ofValues_append hes hchained] at h
    exact ⟨es, hes, hchained, h⟩
  · rw [List.append_assoc, List.cons_append] at h
    rcases ofValues_of_stop hes hchained hstop with ⟨m, _, hverdict⟩ | ⟨fault, _, hverdict⟩
    · rw [hverdict] at h
      cases h
    · rw [hverdict] at h
      cases h

/-! ## Whole files -/

theorem verify_of_ofLines (h : Json.ofLines content = .ok vs) :
    Journal.verify content = Verdict.ofValues "" 0 vs := by
  rw [Journal.verify, h]
  rfl

/-- After the chain the check of a file goes on with the value that comes after
it. -/
theorem verify_of_comesAfter (h : ComesAfter content es v) :
    ∃ after, Journal.verify content =
      Verdict.ofValues (lastHashFrom "" es) es.length (v :: after) := by
  obtain ⟨before, after, hvs, hes, hchained⟩ := h
  refine ⟨after, ?_⟩
  rw [verify_of_ofLines hvs, ofValues_append hes hchained, Nat.zero_add]

/-- Where the chain of a file does not hold, the check comes to its end at the
first value that does not continue it. -/
theorem holds_or_stops (h : Json.ofLines content = .ok vs) :
    Journal.verify content = .ok .holds ∨ ∃ es v, ComesAfter content es v ∧
      ((∃ m, Link.ofValue v (lastHashFrom "" es) es.length = .ok (.broken m) ∧
          Journal.verify content = .ok (.breaks m es.length)) ∨
        ∃ fault, Link.ofValue v (lastHashFrom "" es) es.length = .error fault ∧
          Journal.verify content = .error fault) := by
  rw [verify_of_ofLines h]
  rcases chain_then "" 0 vs with hholds | ⟨before, v, after, es, rfl, hes, hchained, hstop⟩
  · exact Or.inl (ofValues_eq_holds_iff.mpr hholds)
  · refine Or.inr ⟨es, v, ⟨before, after, h, hes, hchained⟩, ?_⟩
    simpa only [Nat.zero_add] using ofValues_of_stop hes hchained hstop

/-- The check of a file gives no verdict exactly when a line is not JSON, or the
first value that does not continue the chain cannot be judged. -/
theorem verify_eq_error_iff :
    Journal.verify content = .error fault ↔
      (fault = .notJson ∧ ∃ line ∈ filledLines content, ofBytes? line = none) ∨
        ∃ es v, ComesAfter content es v ∧ Unjudged (lastHashFrom "" es) es.length v fault := by
  rw [← ofLines_eq_error_iff]
  constructor
  · intro h
    rcases bind_eq_error_iff.mp h with hlines | ⟨vs, hvs, _⟩
    · exact Or.inl hlines
    · rcases holds_or_stops hvs with hverdict | ⟨es, v, hv, ⟨m, _, hverdict⟩ |
        ⟨fault', hlink, hverdict⟩⟩
      · rw [hverdict] at h
        cases h
      · rw [hverdict] at h
        cases h
      · obtain rfl := Except.error.inj (hverdict.symm.trans h)
        exact Or.inr ⟨es, v, hv, link_eq_error_iff.mp hlink⟩
  · rintro (hlines | ⟨es, v, hv, hunjudged⟩)
    · exact bind_eq_error_iff.mpr (Or.inl hlines)
    · obtain ⟨after, hverify⟩ := verify_of_comesAfter hv
      rw [hverify, Verdict.ofValues, link_eq_error_iff.mpr hunjudged]
      rfl

/-- A chain breaks at the first value that is not that of a fitting entry. -/
theorem comesAfter_of_breaks (h : Journal.verify content = .ok (.breaks m k)) :
    ∃ es v, ComesAfter content es v ∧ es.length = k ∧
      ∀ e, Entry.ofValue v = .ok e → ¬ e.Fits (lastHashFrom "" es) k := by
  obtain ⟨vs, hvs, _⟩ := bind_eq_ok_iff.mp h
  rcases holds_or_stops hvs with hverdict | ⟨es, v, hv, ⟨m', hlink, hverdict⟩ |
    ⟨fault, _, hverdict⟩⟩
  · rw [hverdict] at h
    cases h
  · rw [hverdict] at h
    cases h
    refine ⟨es, v, hv, rfl, fun e he hfits => ?_⟩
    have hnext := link_eq_next_iff.mpr ⟨e, he, hfits, rfl⟩
    rw [hlink] at hnext
    cases hnext
  · rw [hverdict] at h
    cases h

/-- The check of a file gives a verdict unless a line is not JSON, or the first
value that does not continue the chain cannot be judged. The verdict is that the
chain holds only for a file whose lines are entries that each fit their place, and
else it is that the chain breaks at the first line that is no such entry. -/
theorem a_file_gets_a_verdict_unless_a_line_cannot_be_judged (content : Bytes) :
    (∀ fault, Journal.verify content = .error fault ↔
      (fault = .notJson ∧ ∃ line ∈ filledLines content, ofBytes? line = none) ∨
        ∃ es v, ComesAfter content es v ∧ Unjudged (lastHashFrom "" es) es.length v fault) ∧
    (∀ verdict, Journal.verify content = .ok verdict →
      (verdict.isOk = true ↔ ∃ es, Journal.entries content = .ok es ∧ Chained "" 0 es)) ∧
    ∀ m k, Journal.verify content = .ok (.breaks m k) →
      ∃ es v, ComesAfter content es v ∧ es.length = k ∧
        ∀ e, Entry.ofValue v = .ok e → ¬ e.Fits (lastHashFrom "" es) k := by
  refine ⟨fun fault => verify_eq_error_iff, fun verdict h => ?_, fun m k => comesAfter_of_breaks⟩
  rw [← verify_eq_holds_iff, h]
  cases verdict <;> simp [Verdict.isOk]

/-- A line that is no object, and one that is no JSON, leave the check without a
verdict. -/
theorem an_array_and_a_bare_word_get_no_verdict :
    Journal.verify (bytesOf "[1]") = .error .noFields ∧
      Journal.verify (bytesOf "word") = .error .notJson := by
  constructor <;> decide +kernel

end

end Unloop

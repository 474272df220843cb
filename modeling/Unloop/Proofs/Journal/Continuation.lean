-- Journals that go on. An entry that is written to a file whose chain holds
-- continues the chain, whatever wrote the file, as long as the last line there has
-- ended. A last line that has not ended runs into the new one, and neither of them
-- can be read any more.
import Unloop.Proofs.Journal.Edits

namespace Unloop

open Form Json Text

section

variable {content : Bytes} {es : List Entry} {ts : Int} {request : Request}
  {a : Journal.Appended} {prev : String} {n : Nat}

/-! ## Files whose last line has ended, and others -/

theorem objects_of_entries {vs : List Value} (hvs : Json.ofLines content = .ok vs)
    (hentries : Journal.entries content = .ok es) : ∀ v ∈ vs, ∃ ms, v = .obj ms := by
  intro v hv
  obtain ⟨vs', hvs', hes⟩ := bind_eq_ok_iff.mp hentries
  obtain rfl := Except.ok.inj (hvs.symm.trans hvs')
  obtain ⟨e, _, he⟩ := exists_of_mapM_eq_ok hes hv
  obtain ⟨ms, rfl, _⟩ := fill_eq_ok_iff.mp he
  exact ⟨ms, rfl⟩

/-- A chain goes on with the entry that is added after lines that have ended. -/
theorem verify_of_ended (hcontent : Ended content) (hentries : Journal.entries content = .ok es)
    (hes : Chained "" 0 es) (ha : a.Follows (lastHashFrom "" es) es.length) :
    Journal.verify (content ++ a.line) = .ok .holds :=
  verify_eq_holds_iff.mpr
    ⟨_, entries_append hcontent hentries ha, chained_concat hes ha.fits⟩

/-- An entry that is added to a line that has not ended leaves a line that is no
JSON. -/
theorem verify_of_not_ended (hcontent : ¬ Ended content)
    (hentries : Journal.entries content = .ok es) (ha : a.Follows prev n) :
    Journal.verify (content ++ a.line) = .error .notJson := by
  obtain ⟨vs, hvs, _⟩ := bind_eq_ok_iff.mp hentries
  have hlines := ofLines_append_of_not_ended hcontent hvs (objects_of_entries hvs hentries)
    ha.proper ha.line
  rw [Journal.verify, hlines]
  rfl

/-- A journal that is opened on a file whose chain holds can write down whatever
fits, and the chain goes on with the new entry after the old ones exactly if the
last line of the file has ended. If it has not, the file has no verdict any
more. -/
theorem a_verified_journal_goes_on_where_its_last_line_has_ended
    (h : Journal.verify content = .ok .holds) :
    ∃ es j, Journal.entries content = .ok es ∧ Journal.ofContent content = .ok j ∧
      ∀ ts request, (Call.write ts request).HasFiniteFloats →
        ((∃ a, (⟨content, j⟩ : Logbook).write ts request = .ok a) ↔
          inWordRange es.length = true ∧ inWordRange ts = true ∧ request.Fits) ∧
        ∀ a, (⟨content, j⟩ : Logbook).write ts request = .ok a →
          (Ended content → Journal.verify (content ++ a.line) = .ok .holds ∧
            Journal.entries (content ++ a.line) = .ok (es ++ [a.entry.stored])) ∧
          (¬ Ended content → Journal.verify (content ++ a.line) = .error .notJson) := by
  obtain ⟨es, hentries, hes⟩ := verify_eq_holds_iff.mp h
  refine ⟨es, _, hentries, ofContent_of_entries hentries, fun ts request hfinite => ?_⟩
  refine ⟨write_ok_iff_of_journal rfl hfinite, fun a ha => ?_⟩
  have hfollows := follows_of_write rfl hfinite ha
  refine ⟨fun hended => ?_, fun hopen => verify_of_not_ended hopen hentries hfollows⟩
  exact ⟨verify_of_ended hended hentries hes hfollows, entries_append hended hentries hfollows⟩

/-! ## A first entry and a second one -/

/-- What is asked for as the second entry. -/
def secondFailure : Request := .failure (.general "second")

/-- The line of a first entry, ended by a carriage return, and the entry of another
failure after it. -/
theorem an_entry_comes_after_a_carriage_return :
    ∃ content j a, content = firstText (.int 0) "RUN_FAILED" [] ++ [13] ∧
      Journal.verify content = .ok .holds ∧ Journal.ofContent content = .ok j ∧
      (Call.write 1001 secondFailure).HasFiniteFloats ∧
      (⟨content, j⟩ : Logbook).write 1001 secondFailure = .ok a ∧
      Ended content ∧ Journal.verify (content ++ a.line) = .ok .holds := by
  have hline := firstLine_plain "RUN_FAILED"
  have hreturn : Breaks.bytes.isBreak 13 = true := rfl
  have hlines := filledLines_ended (isFilled_firstText hline) hreturn
  have hholds := verify_of_firstText hline rfl hlines
  have hended := ended_concat hreturn (firstText (.int 0) "RUN_FAILED" [])
  obtain ⟨es, j, hentries, hj, hgoes⟩ :=
    a_verified_journal_goes_on_where_its_last_line_has_ended hholds
  obtain rfl := Except.ok.inj (hentries.symm.trans (entries_of_firstText hline rfl hlines))
  obtain ⟨hwrites, hafter⟩ := hgoes 1001 secondFailure trivial
  obtain ⟨a, ha⟩ := hwrites.mpr ⟨(by decide : inWordRange (1 : Nat) = true), by decide, trivial⟩
  exact ⟨_, j, a, rfl, hholds, hj, trivial, ha, hended, ((hafter a ha).1 hended).1⟩

/-- The line of a first entry without an ending: its chain holds, and the entry of
another failure makes the file unreadable. -/
theorem an_entry_after_an_open_line_leaves_no_verdict :
    ∃ content j a, content = firstText (.int 0) "RUN_FAILED" [] ∧
      Journal.verify content = .ok .holds ∧ Journal.ofContent content = .ok j ∧
      (⟨content, j⟩ : Logbook).write 1001 secondFailure = .ok a ∧
      Journal.verify (content ++ a.line) = .error .notJson := by
  have hline := firstLine_plain "RUN_FAILED"
  have hfilled := isFilled_firstText hline
  have hlines := filledLines_bare hfilled
  have hentries := entries_of_firstText hline rfl hlines
  have hfinite : (Call.write 1001 secondFailure).HasFiniteFloats := trivial
  obtain ⟨a, ha⟩ := (write_ok_iff_of_journal (s := ⟨_, _⟩) rfl hfinite).mpr
    ⟨(by decide : inWordRange (1 : Nat) = true), by decide, trivial⟩
  exact ⟨_, _, a, rfl, verify_of_firstText hline rfl hlines, ofContent_of_entries hentries, ha,
    verify_of_not_ended hfilled.not_ended hentries (follows_of_write rfl hfinite ha)⟩

end

end Unloop

-- What it means that the chain of a file holds: its lines are entries, and
-- each of them fits the place where it is. From this come the journal that is
-- opened on the file and what a new line does to it.
import Unloop.Journal
import Unloop.Proofs.Journal.Entry
import Unloop.Proofs.Json.Lines

namespace Unloop

open Form Json Text

/-! ## Chains -/

/-- An entry is fit to come at place `n` after the hash `prev`. -/
structure Entry.Fits (e : Entry) (prev : String) (n : Nat) : Prop where
  prevHash : e.prevHash = prev
  seq : e.seq = n
  hash : e.chainHash = .ok e.entryHash
  report : e.checkReport = .ok (.next e.entryHash)

/-- The hash of the last entry, or the one before them if there is none. -/
def lastHashFrom (prev : String) (es : List Entry) : String :=
  (es.getLast?.map Entry.entryHash).getD prev

/-- Each entry fits its place, the first of which is `n` and comes after the
hash `prev`. -/
def Chained : (prev : String) → (n : Nat) → List Entry → Prop
  | _, _, [] => True
  | prev, n, e :: es => e.Fits prev n ∧ Chained e.entryHash (n + 1) es

section

variable {content line : Bytes} {prev h : String} {n k : Nat} {e : Entry} {es fs : List Entry}
  {v : Value} {vs : List Value} {m : Mismatch} {ms : Members}

theorem lastHashFrom_cons (e : Entry) (es : List Entry) :
    lastHashFrom prev (e :: es) = lastHashFrom e.entryHash es := by
  cases es with
  | nil => rfl
  | cons f fs => rw [lastHashFrom, lastHashFrom, List.getLast?_cons_cons, List.getLast?_cons]; rfl

theorem lastHashFrom_concat (es : List Entry) (e : Entry) :
    lastHashFrom prev (es ++ [e]) = e.entryHash := by
  rw [lastHashFrom, List.getLast?_concat]
  rfl

theorem chained_append :
    Chained prev n (es ++ fs) ↔
      Chained prev n es ∧ Chained (lastHashFrom prev es) (n + es.length) fs := by
  induction es generalizing prev n with
  | nil => exact ⟨fun h => ⟨trivial, h⟩, fun h => h.2⟩
  | cons e es ih =>
    rw [List.cons_append, Chained, Chained, ih, lastHashFrom_cons, List.length_cons, and_assoc,
      Nat.add_right_comm, Nat.add_assoc n]

/-- The entry at a place fits it. -/
theorem fits_of_getElem? (hes : Chained prev n es) (he : es[k]? = some e) :
    e.Fits (lastHashFrom prev (es.take k)) (n + k) := by
  obtain ⟨hk, rfl⟩ := List.getElem?_eq_some_iff.mp he
  rw [← List.take_append_drop k es, chained_append, List.drop_eq_getElem_cons hk,
    List.length_take_of_le hk.le] at hes
  exact hes.2.1

/-! ## One link -/

theorem eq_of_checkReport (he : e.checkReport = .ok (.next h)) : h = e.entryHash := by
  unfold Entry.checkReport at he
  split at he
  · injection he with he
    exact (Link.next.inj he).symm
  · injection he with he
    cases he
  · cases he
  · obtain ⟨t, _, ht⟩ := bind_eq_ok_iff.mp he
    split at ht
    · injection ht with ht
      exact (Link.next.inj ht).symm
    · injection ht with ht
      cases ht

theorem checkLink_eq_next_iff :
    e.checkLink prev n = .ok (.next h) ↔ e.Fits prev n ∧ h = e.entryHash := by
  constructor
  · intro hlink
    unfold Entry.checkLink at hlink
    split at hlink
    · injection hlink with hlink
      cases hlink
    rename_i hprev
    split at hlink
    · injection hlink with hlink
      cases hlink
    rename_i hseq
    obtain ⟨t, ht, hlink⟩ := bind_eq_ok_iff.mp hlink
    split at hlink
    · injection hlink with hlink
      cases hlink
    rename_i hhash
    rw [not_not] at hprev hseq hhash
    have hnext := eq_of_checkReport hlink
    exact ⟨⟨hprev, hseq, hhash ▸ ht, hnext ▸ hlink⟩, hnext⟩
  · rintro ⟨⟨hprev, hseq, hhash, hreport⟩, rfl⟩
    unfold Entry.checkLink
    rw [if_neg (not_not.mpr hprev), if_neg (not_not.mpr hseq), hhash]
    exact (if_neg (not_not.mpr rfl)).trans hreport

theorem link_eq_next_iff :
    Link.ofValue v prev n = .ok (.next h) ↔
      ∃ e, Entry.ofValue v = .ok e ∧ e.Fits prev n ∧ h = e.entryHash := by
  unfold Link.ofValue
  constructor
  · intro hlink
    split at hlink
    · injection hlink with hlink
      cases hlink
    · cases hlink
    · exact ⟨_, ‹_›, checkLink_eq_next_iff.mp hlink⟩
  · rintro ⟨e, he, hlink⟩
    rw [he]
    exact checkLink_eq_next_iff.mpr hlink

/-! ## Whole files -/

theorem ofValues_cons_eq_holds_iff :
    Verdict.ofValues prev n (v :: vs) = .ok .holds ↔
      ∃ h, Link.ofValue v prev n = .ok (.next h) ∧ Verdict.ofValues h (n + 1) vs = .ok .holds := by
  rw [Verdict.ofValues, bind_eq_ok_iff]
  constructor
  · rintro ⟨_ | h, hlink, hrest⟩
    · cases hrest
    · exact ⟨h, hlink, hrest⟩
  · rintro ⟨h, hlink, hrest⟩
    exact ⟨.next h, hlink, hrest⟩

theorem ofValues_eq_holds_iff :
    Verdict.ofValues prev n vs = .ok .holds ↔
      ∃ es, List.Forall₂ (fun v e => Entry.ofValue v = .ok e) vs es ∧ Chained prev n es := by
  induction vs generalizing prev n with
  | nil => exact ⟨fun _ => ⟨[], .nil, trivial⟩, fun _ => rfl⟩
  | cons v vs ih =>
    simp only [ofValues_cons_eq_holds_iff, link_eq_next_iff, ih]
    constructor
    · rintro ⟨_, ⟨e, he, hfits, rfl⟩, es, hes, hchained⟩
      exact ⟨e :: es, .cons he hes, hfits, hchained⟩
    · rintro ⟨_, _ | ⟨he, hes⟩, hfits, hchained⟩
      exact ⟨_, ⟨_, he, hfits, rfl⟩, _, hes, hchained⟩

theorem entries_eq_ok_iff :
    Journal.entries content = .ok es ↔
      ∃ vs, Json.ofLines content = .ok vs ∧ List.Forall₂ (fun v e => Entry.ofValue v = .ok e) vs es := by
  simp only [Journal.entries, bind_eq_ok_iff, mapM_eq_ok_iff]

/-- The check of a file says that the chain holds exactly when the lines are
entries that each fit their place. -/
theorem verify_eq_holds_iff :
    Journal.verify content = .ok .holds ↔
      ∃ es, Journal.entries content = .ok es ∧ Chained "" 0 es := by
  simp only [Journal.verify, bind_eq_ok_iff, ofValues_eq_holds_iff, entries_eq_ok_iff]
  constructor
  · rintro ⟨vs, hvs, es, hes, hchained⟩
    exact ⟨es, ⟨vs, hvs, hes⟩, hchained⟩
  · rintro ⟨es, ⟨vs, hvs, hes⟩, hchained⟩
    exact ⟨vs, hvs, es, hes, hchained⟩

/-- The file alone tells how its journal goes on. -/
theorem ofContent_of_entries (h : Journal.entries content = .ok es) :
    Journal.ofContent content = .ok ⟨es.length, .str (lastHashFrom "" es)⟩ := by
  obtain ⟨vs, hvs, hes⟩ := entries_eq_ok_iff.mp h
  rw [Journal.ofContent, hvs]
  rcases List.eq_nil_or_concat' vs with rfl | ⟨vs, v, rfl⟩
  · obtain rfl := List.forall₂_nil_left_iff.mp hes
    rfl
  · rcases List.eq_nil_or_concat' es with rfl | ⟨es, e, rfl⟩
    · exact absurd hes.length_eq (by simp)
    · have hlast := (List.forall₂_reverse_iff.mpr hes)
      rw [List.reverse_concat, List.reverse_concat, List.forall₂_cons] at hlast
      obtain ⟨ms, rfl, hhash⟩ := entryHash_of_ofValue hlast.1
      rw [lastHashFrom_concat, ← hhash, ← hes.length_eq]
      simp only [bind, Except.bind, List.getLast?_concat]
      rfl

end

end Unloop

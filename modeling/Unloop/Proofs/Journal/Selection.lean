-- A chain whose lines are dropped, repeated or moved. Each line is fit for one
-- place only, so a selection of the lines of a chain holds when it is a start
-- of the chain, and else breaks at the first line that is out of place.
import Unloop.Proofs.Journal.Logbook

namespace Unloop

open Json Text

/-- A file of some lines of a file, in any order and any number. -/
def Journal.selection (content : Bytes) (is : List (Fin (filledLines content).length)) : Bytes :=
  is.flatMap fun i => (filledLines content)[i] ++ [10]

/-- Place `j` is the first one that does not hold its own number. -/
def FirstMisplaced (is : List Nat) (j : Nat) : Prop :=
  (∃ i, is[j]? = some i ∧ i ≠ j) ∧ ∀ k < j, is[k]? = some k

/-- The value spells the entry at place `i`. -/
def Spells (es : List Entry) (i : Nat) (v : Value) : Prop :=
  ∃ e, es[i]? = some e ∧ Entry.ofValue v = .ok e

section

variable {content : Bytes} {prev : String} {n i j : Nat} {e : Entry} {es : List Entry} {v : Value}
  {vs : List Value} {is : List Nat}

/-! ## A line at a place -/

theorem lastHashFrom_take (h : es[n]? = some e) :
    lastHashFrom prev (es.take (n + 1)) = e.entryHash := by
  rw [List.take_add_one, h]
  exact lastHashFrom_concat _ e

/-- At its own place a line is followed by the rest of the check. -/
theorem link_in_place (hes : Chained "" 0 es) (he : es[n]? = some e) (hv : Entry.ofValue v = .ok e) :
    Link.ofValue v (lastHashFrom "" (es.take n)) n = .ok (.next e.entryHash) := by
  have hfits := fits_of_getElem? hes he
  rw [Nat.zero_add] at hfits
  exact link_eq_next_iff.mpr ⟨e, hv, hfits, rfl⟩

/-- At another place a line breaks the chain, whatever comes before. -/
theorem link_out_of_place (hes : Chained "" 0 es) (hv : Spells es i v) (hi : i ≠ n) (prev : String) :
    ∃ m, (m = .prevHash ∨ m = .sequence) ∧ Link.ofValue v prev n = .ok (.broken m) := by
  obtain ⟨e, he, hv⟩ := hv
  have hseq : e.seq ≠ n := by
    rw [(fits_of_getElem? hes he).seq]
    omega
  unfold Link.ofValue
  rw [hv]
  change ∃ m, _ ∧ e.checkLink prev n = _
  unfold Entry.checkLink
  by_cases hprev : e.prevHash = prev
  · exact ⟨.sequence, Or.inr rfl, by rw [if_neg (not_not.mpr hprev), if_pos hseq]⟩
  · exact ⟨.prevHash, Or.inl rfl, if_pos hprev⟩

/-! ## A selection of lines -/

theorem firstMisplaced_cons (h : is[j]? = some i ∧ i ≠ n + 1 + j)
    (hbefore : ∀ k < j, is[k]? = some (n + 1 + k)) :
    (n :: is)[j + 1]? = some i ∧ i ≠ n + (j + 1) ∧
      ∀ k < j + 1, (n :: is)[k]? = some (n + k) := by
  refine ⟨h.1, by omega, fun k hk => ?_⟩
  cases k with
  | zero => rfl
  | succ k =>
    rw [List.getElem?_cons_succ, hbefore k (by omega)]
    congr 1
    omega

/-- The check of a selection from place `n` on, by the lines that are left. -/
theorem ofValues_selected (hes : Chained "" 0 es) (hvs : List.Forall₂ (Spells es) is vs) :
    (Verdict.ofValues (lastHashFrom "" (es.take n)) n vs = .ok .holds ∧
      ∀ j i, is[j]? = some i → i = n + j) ∨
    ∃ m j i, (m = .prevHash ∨ m = .sequence) ∧
      Verdict.ofValues (lastHashFrom "" (es.take n)) n vs = .ok (.breaks m (n + j)) ∧
      is[j]? = some i ∧ i ≠ n + j ∧ ∀ k < j, is[k]? = some (n + k) := by
  induction hvs generalizing n with
  | nil => exact Or.inl ⟨rfl, fun j i h => by cases h⟩
  | @cons i v is vs hv hvs ih =>
    rw [Verdict.ofValues]
    by_cases hi : i = n
    · subst hi
      obtain ⟨e, he, hv⟩ := hv
      rw [link_in_place hes he hv]
      have hnext : lastHashFrom "" (es.take (i + 1)) = e.entryHash := lastHashFrom_take he
      rcases @ih (i + 1) with ⟨hholds, hplaces⟩ | ⟨m, j, i', hm, hbreaks, hj, hne, hbefore⟩
      · rw [hnext] at hholds
        refine Or.inl ⟨hholds, fun j i' hj => ?_⟩
        cases j with
        | zero => exact (Option.some.inj hj).symm
        | succ j =>
          rw [hplaces j i' hj]
          omega
      · rw [hnext, Nat.add_assoc, Nat.add_comm 1] at hbreaks
        exact Or.inr ⟨m, j + 1, i', hm, hbreaks, firstMisplaced_cons ⟨hj, hne⟩ hbefore⟩
    · obtain ⟨m, hm, hlink⟩ := link_out_of_place hes hv hi (lastHashFrom "" (es.take n))
      rw [hlink]
      exact Or.inr ⟨m, 0, i, hm, rfl, rfl, hi, fun k hk => absurd hk (Nat.not_lt_zero k)⟩

/-- The values of a selection spell the selected entries. -/
theorem ofLines_selection (hlines : Json.ofLines content = .ok vs)
    (hes : List.Forall₂ (fun v e => Entry.ofValue v = .ok e) vs es)
    (is : List (Fin (filledLines content).length)) :
    ∃ ws, Json.ofLines (Journal.selection content is) = .ok ws ∧
      List.Forall₂ (Spells es) (is.map Fin.val) ws := by
  have hread := mapM_eq_ok_iff.mp hlines
  have hlen := hread.length_eq
  have hlen' := hes.length_eq
  refine ⟨is.map fun i => vs[i.val], ?_, ?_⟩
  · have hfilled : ∀ line ∈ is.map fun i => (filledLines content)[i], IsFilled line := by
      intro line hline
      obtain ⟨i, _, rfl⟩ := List.mem_map.mp hline
      exact isFilled_of_mem (List.getElem_mem _)
    have hselection : filledLines (Journal.selection content is) =
        is.map fun i => (filledLines content)[i] := by
      rw [← filledLines_flatMap hfilled, List.flatMap_map]
      rfl
    rw [Json.ofLines, hselection, mapM_eq_ok_iff, List.forall₂_map_left_iff,
      List.forall₂_map_right_iff, List.forall₂_same]
    exact fun i _ => hread.get i.isLt (by omega)
  · rw [List.forall₂_map_left_iff, List.forall₂_map_right_iff, List.forall₂_same]
    exact fun i _ => ⟨es[i.val], List.getElem?_eq_getElem _, hes.get (by omega) (by omega)⟩

/-- Lines of a chain that are dropped, repeated or moved are told, and only a
cut of its tail is not: a selection of the lines holds exactly when every line
is in its own place, and else the message names the first place that holds
another line. -/
theorem a_selection_of_lines_holds_only_as_a_start (h : Journal.verify content = .ok .holds)
    (is : List (Fin (filledLines content).length)) :
    ∃ verdict : Verdict, Journal.verify (Journal.selection content is) = .ok verdict ∧
      (verdict.isOk = true ↔ ∀ j (hj : j < is.length), (is[j] : Nat) = j) ∧
      (verdict.isOk = false → ∃ (m : Mismatch) (j : Nat), FirstMisplaced (is.map Fin.val) j ∧
        (m = .prevHash ∨ m = .sequence) ∧
        verdict.message = m.text ++ " at " ++ Number.ofNat j) := by
  obtain ⟨es, hentries, hchained⟩ := verify_eq_holds_iff.mp h
  obtain ⟨vs, hvs, hes⟩ := entries_eq_ok_iff.mp hentries
  obtain ⟨ws, hws, hspells⟩ := ofLines_selection hvs hes is
  rw [Journal.verify, hws]
  rcases ofValues_selected (n := 0) hchained hspells with
    ⟨hholds, hplaces⟩ | ⟨m, j, i, hm, hbreaks, hj, hne, hbefore⟩
  · refine ⟨.holds, hholds, ⟨fun _ j hj => ?_, fun _ => rfl⟩,
      fun hnot => absurd hnot.symm Bool.false_ne_true⟩
    rw [hplaces j is[j] (by simp [hj]), Nat.zero_add]
  · rw [Nat.zero_add] at hbreaks hne
    simp only [Nat.zero_add] at hbefore
    refine ⟨.breaks m j, hbreaks, ⟨fun hnot => absurd hnot Bool.false_ne_true, fun hall => ?_⟩,
      fun _ => ⟨m, j, ⟨⟨i, hj, hne⟩, hbefore⟩, hm, rfl⟩⟩
    obtain ⟨hlt, hget⟩ := List.getElem?_eq_some_iff.mp hj
    rw [List.length_map] at hlt
    rw [List.getElem_map] at hget
    exact absurd (hget ▸ hall j hlt) hne

theorem two_lines_that_are_swapped_are_told :
    ∃ content a b, Journal.verify content = .ok .holds ∧ filledLines content = [a, b] ∧
      ∃ (verdict : Verdict) (m : Mismatch),
        Journal.verify ((b ++ [10]) ++ (a ++ [10])) = .ok verdict ∧ verdict.isOk = false ∧
        verdict.message = m.text ++ " at " ++ Number.ofNat 0 := by
  -- a chain of two entries, as two failures leave it
  obtain ⟨d, hd⟩ := sound_after_write sound_empty 1 (.failure (.general "first")) trivial
    ⟨by decide, by decide, trivial⟩
  obtain ⟨e, he⟩ := sound_after_write hd 2 (.failure (.general "second")) trivial
    ⟨(by decide : inWordRange (1 : Nat) = true), by decide, trivial⟩
  generalize (({} : Logbook).after _).after _ = s at he
  have hholds : Journal.verify s.content = .ok .holds :=
    verify_eq_holds_iff.mpr ⟨_, he.entries, he.chained⟩
  obtain ⟨vs, hvs, hes⟩ := entries_eq_ok_iff.mp he.entries
  have hlen : (filledLines s.content).length = 2 :=
    (mapM_eq_ok_iff.mp hvs).length_eq.trans hes.length_eq
  obtain ⟨a, b, hlines⟩ := List.length_eq_two.mp hlen
  obtain ⟨verdict, hverdict, hok, hbreaks⟩ := a_selection_of_lines_holds_only_as_a_start hholds
    [⟨1, by omega⟩, ⟨0, by omega⟩]
  have hfile : Journal.selection s.content [⟨1, by omega⟩, ⟨0, by omega⟩] =
      (b ++ [10]) ++ (a ++ [10]) := by
    simp [Journal.selection, hlines]
  have hnot : verdict.isOk = false := by
    rw [Bool.eq_false_iff]
    intro h
    exact absurd (hok.mp h 0 (by simp)) (by simp)
  obtain ⟨m, j, ⟨_, hbefore⟩, _, hmessage⟩ := hbreaks hnot
  have hj : j = 0 := by
    by_contra hj
    exact absurd (hbefore 0 (Nat.pos_of_ne_zero hj)) (by simp)
  rw [hfile] at hverdict
  rw [hj] at hmessage
  exact ⟨s.content, a, b, hholds, hlines, verdict, m, hverdict, hnot, hmessage⟩

end

end Unloop

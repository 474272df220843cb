-- The laws of the execution order as a tie break. The branching search then
-- flips the first fix on the path of the looping run. It fails where the
-- search for the lowest fix does, and for the naive search both tie breaks are
-- one.
import Unloop.Proofs.Repair.Strategies

namespace Unloop

open Program (Candidate)

/-- The fix that a run comes to with a step, if there is one. -/
def Program.fixAt? (p : Program) (t : Step) : Option Fix :=
  (Program.candidateOf t.instruction t.state.position.toNat).bind p.fix?

/-- Of the positions that the unmodified run executes, in their order, `n` is
the first whose flip makes the program end, and it ends with `a`. -/
def Program.FirstFix (p : Program) (n : Nat) (a : Int) : Prop :=
  ∃ j : Nat, (executed (p.walk none {}).steps)[j]? = some (n : Int) ∧ p.EndsFlipped n a ∧
    ∀ i < j, ∀ (m : Nat) b, (executed (p.walk none {}).steps)[i]? = some (m : Int) →
      ¬ p.EndsFlipped m b

section

variable {p : Program} {t : Step} {f : Fix} {cs : List Candidate} {r : Repair} {a x : Int}

/-! ## The first fix -/

theorem foldl_pick_some (f : Fix) (cs : List Candidate) :
    cs.foldl (p.pick TieBreak.executionOrder.wants) (some f) = some f := by
  induction cs with
  | nil => rfl
  | cons c cs ih => exact ih

/-- Once there is a fix no other candidate is wanted, so the first one stays. -/
theorem foldl_pick_first (cs : List Candidate) :
    cs.foldl (p.pick TieBreak.executionOrder.wants) none = cs.findSome? p.fix? := by
  induction cs with
  | nil => rfl
  | cons c cs ih =>
    have hpick : p.pick TieBreak.executionOrder.wants none c = p.fix? c := by
      simp [Program.pick, TieBreak.wants]
    rw [List.foldl_cons, List.findSome?_cons, hpick]
    rcases p.fix? c with _ | f
    · exact ih
    · exact foldl_pick_some f cs

theorem findSome?_branches (w : Walk) :
    (w.branches.map Trial.candidate).findSome? p.fix? = w.steps.findSome? p.fixAt? := by
  unfold Walk.branches
  induction w.steps with
  | nil => rfl
  | cons t ts ih =>
    rw [List.filterMap_cons, List.findSome?_cons, ← ih, Program.fixAt?]
    rcases Program.candidateOf t.instruction t.state.position.toNat with _ | c
    · rfl
    · rw [Option.map_some, Option.bind_some, List.map_cons, List.findSome?_cons]

theorem best_executionOrder (h : p.Modest) :
    (p.progress .speculative .executionOrder).best = p.baseWalk.steps.findSome? p.fixAt? := by
  rw [(progress_speculative h _).1, foldl_pick_first, findSome?_branches]

/-- A step comes to a fix exactly when the flip of its position makes the
program end. -/
theorem fixAt?_eq_some_iff (ht : t ∈ p.baseWalk.steps) :
    p.fixAt? t = some f ↔ f.candidate ∈ p.candidates ∧
      t.state.position = f.candidate.position ∧ p.fix? f.candidate = some f := by
  unfold Program.fixAt?
  rw [Option.bind_eq_some_iff]
  constructor
  · rintro ⟨c, hc, hfix⟩
    obtain ⟨rfl, _⟩ := fix?_eq_some_iff.mp hfix
    have hbranch : (⟨f.candidate, t.state⟩ : Trial) ∈ p.baseWalk.branches :=
      List.mem_filterMap.mpr ⟨t, ht, by rw [hc, Option.map_some]⟩
    obtain ⟨hmem, hpos, _⟩ := mem_branches.mp hbranch
    exact ⟨hmem, hpos, hfix⟩
  · rintro ⟨hmem, hpos, hfix⟩
    refine ⟨f.candidate, ?_, hfix⟩
    obtain ⟨hi, hj⟩ := mem_candidates.mp hmem
    have htakes := (takes_of_mem (path_walk p none {}) ht).2
    have hown : p.at? t.state.position = some t.instruction := htakes
    rw [hpos, at?_natCast, hi, Option.some.injEq] at hown
    rw [Program.candidateOf, ← hown, hj, hpos, Int.toNat_natCast]
    rfl

theorem fixAt?_of_endsFlipped {n : Nat} (ht : t ∈ p.baseWalk.steps) (hpos : t.state.position = n)
    (h : p.EndsFlipped n a) : p.fixAt? t ≠ none := by
  obtain ⟨c, hc, rfl, hfix⟩ := endsFlipped_iff.mp h
  rw [(fixAt?_eq_some_iff (f := ⟨c, a⟩) ht).mpr ⟨hc, hpos, hfix⟩]
  exact Option.some_ne_none _

/-- The search in execution order finds the fix that the path comes to first. -/
theorem first_of_best (h : p.Modest)
    (hbest : (p.progress .speculative .executionOrder).best = some f) :
    p.FirstFix f.candidate.position f.accumulator := by
  rw [best_executionOrder h, List.findSome?_eq_some_iff] at hbest
  obtain ⟨before, t, after, hsteps, hfix, hnone⟩ := hbest
  have hmem : t ∈ p.baseWalk.steps := by simp [hsteps]
  obtain ⟨hc, hpos, hends⟩ := (fixAt?_eq_some_iff hmem).mp hfix
  refine ⟨before.length, ?_, endsFlipped_iff.mpr ⟨_, hc, rfl, hends⟩, ?_⟩
  · show (executed p.baseWalk.steps)[before.length]? = _
    simp [executed, hsteps, hpos]
  · intro i hi n b hn hflip
    obtain ⟨u, hu, hupos⟩ : ∃ u, before[i]? = some u ∧ u.state.position = n := by
      change (executed p.baseWalk.steps)[i]? = _ at hn
      rw [executed, hsteps, List.getElem?_map, List.getElem?_append_left hi] at hn
      exact Option.map_eq_some_iff.mp hn
    have hubefore := List.mem_of_getElem? hu
    have humem : u ∈ p.baseWalk.steps := by simp [hsteps, hubefore]
    exact fixAt?_of_endsFlipped humem hupos hflip (hnone u hubefore)

theorem no_fix_of_best (h : p.Modest)
    (hbest : (p.progress .speculative .executionOrder).best = none) {n : Nat}
    (hn : (n : Int) ∈ executed p.baseWalk.steps) : ¬ p.EndsFlipped n a := by
  rw [best_executionOrder h, List.findSome?_eq_none_iff] at hbest
  intro hflip
  obtain ⟨t, ht, hpos⟩ := mem_executed.mp hn
  exact fixAt?_of_endsFlipped ht hpos hflip (hbest t ht)

/-! ## Both tie breaks -/

/-- Where there is a lowest fix the search in execution order finds one too,
and none below it. -/
theorem best_of_both (h : p.Modest) (hloop : p.baseWalk.stop = .ending (.looped a x)) :
    match (p.progress .speculative .lowestIndex).best,
      (p.progress .speculative .executionOrder).best with
    | none, none => True
    | some low, some first => low.candidate.position ≤ first.candidate.position
    | _, _ => False := by
  have hlow := lowest_speculative h hloop
  rcases hfirst : (p.progress .speculative .executionOrder).best with _ | first
  · rcases hbest : (p.progress .speculative .lowestIndex).best with _ | low
    · trivial
    · obtain ⟨hc, hfix⟩ := fix_of_progress h hbest
      have hx : (low.candidate.position : Int) ∈ executed p.baseWalk.steps := by
        by_contra hnot
        rw [fix?_of_not_executed hloop hnot] at hfix
        cases hfix
      exact no_fix_of_best h hfirst hx (endsFlipped_iff.mpr ⟨_, hc, rfl, hfix⟩)
  · obtain ⟨hc, hfix⟩ := fix_of_progress h hfirst
    rcases hbest : (p.progress .speculative .lowestIndex).best with _ | low
    · rw [hbest] at hlow
      rw [hlow _ hc] at hfix
      cases hfix
    · rw [hbest] at hlow
      exact hlow.2.2 _ hc (by simp [hfix])

/-- The tie breaks decide between repairs and not whether there is one. -/
theorem lowest_against_first (h : p.Modest) :
    (∀ fault, (p.locate .speculative .lowestIndex).result = .error fault →
      SameAnswer (p.locate .speculative .lowestIndex).result
        (p.locate .speculative .executionOrder).result) ∧
    (∀ low, (p.locate .speculative .lowestIndex).result = .ok low →
      ∃ r, (p.locate .speculative .executionOrder).result = .ok r ∧
        low.position ≤ r.position) := by
  by_cases hc : p.candidates = []
  · rw [locate_without_candidates hc, locate_without_candidates hc]
    exact ⟨fun _ _ => .noFix _ _, fun _ hlow => by cases hlow⟩
  · rcases hstop : p.baseWalk.stop with (a | ⟨a, x⟩) | x
    · rw [locate_of_terminated h hc hstop, locate_of_terminated h hc hstop]
      exact ⟨fun _ _ => .alreadyEnds _, fun _ hlow => by cases hlow⟩
    · have hboth := best_of_both h hstop
      rw [locate_of_looped h hc hstop, locate_of_looped h hc hstop]
      rcases hlow : (p.progress .speculative .lowestIndex).best with _ | low <;>
        rcases hfirst : (p.progress .speculative .executionOrder).best with _ | first <;>
        rw [hlow, hfirst] at hboth
      · rw [found_of_none hlow, found_of_none hfirst]
        exact ⟨fun _ _ => .noFix _ _, fun _ hr => by cases hr⟩
      · exact hboth.elim
      · exact hboth.elim
      · rw [found_of_some hlow, found_of_some hfirst]
        refine ⟨fun _ hr => (by cases hr), ?_⟩
        rintro _ ⟨⟩
        exact ⟨_, rfl, hboth⟩
    · rw [locate_of_outside h hc hstop, locate_of_outside h hc hstop]
      exact ⟨fun _ _ => .outside _ _, fun _ hlow => by cases hlow⟩

/-- In execution order the first fix wins. If the unmodified run loops, the
branching search flips the first position on its path whose flip makes the
program end, and tells the accumulator at that end; it finds no fix only if the
path has none. It fails exactly where the search for the lowest fix does, and
for the same reason, and otherwise the lowest fix is not above the first one.
The naive search gives one answer under both tie breaks. -/
theorem the_first_fix_on_the_path_wins (p : Program) (h : p.Modest) :
    let first := (p.locate .speculative .executionOrder).result
    let lowest := (p.locate .speculative .lowestIndex).result
    (∀ a x k, p.run none {} = .ok ⟨.looped a x, k⟩ →
      (∃ r, first = .ok r ∧ p.FirstFix r.position r.accumulator) ∨
      (∃ m, first = .error (.failure (.noFix m))) ∧
        ∀ (n : Nat) b, (n : Int) ∈ executed (p.walk none {}).steps → ¬ p.EndsFlipped n b) ∧
    (∀ fault, lowest = .error fault → SameAnswer lowest first) ∧
    (∀ low, lowest = .ok low → ∃ r, first = .ok r ∧ low.position ≤ r.position) ∧
    SameAnswer (p.locate .naive .lowestIndex).result (p.locate .naive .executionOrder).result := by
  intro first lowest
  obtain ⟨hfaults, hrepairs⟩ := lowest_against_first h
  refine ⟨?_, hfaults, hrepairs, sameAnswer_of_best h fun _ _ _ => rfl⟩
  intro a x k hrun
  have hloop := (run_eq_ok_iff.mp hrun).1
  by_cases hc : p.candidates = []
  · refine Or.inr ⟨⟨_, locate_without_candidates hc⟩, ?_⟩
    intro n b _ hflip
    obtain ⟨c, hmem, _⟩ := endsFlipped_iff.mp hflip
    simp [hc] at hmem
  · have hfirst : first = ((p.progress .speculative .executionOrder).found _ _).result :=
      locate_of_looped h hc hloop
    rcases hbest : (p.progress .speculative .executionOrder).best with _ | f
    · rw [found_of_none hbest] at hfirst
      exact Or.inr ⟨⟨_, hfirst⟩, fun n b hn => no_fix_of_best h hbest hn⟩
    · rw [found_of_some hbest] at hfirst
      exact Or.inl ⟨_, hfirst, first_of_best h hbest⟩

theorem the_path_comes_to_the_upper_of_two_fixes_first :
    twoFixes.Modest ∧ twoFixes.run none {} = .ok ⟨.looped 0 0, 3⟩ ∧
      executed (twoFixes.walk none {}).steps = [0, 4, 2] ∧
      ∃ low r, (twoFixes.locate .speculative .lowestIndex).result = .ok low ∧ low.position = 2 ∧
        (twoFixes.locate .speculative .executionOrder).result = .ok r ∧ r.position = 4 ∧
        low.position ≤ r.position ∧ twoFixes.FirstFix r.position r.accumulator := by
  have hmodest : twoFixes.Modest := by decide +kernel
  have hrun : twoFixes.run none {} = .ok ⟨.looped 0 0, 3⟩ := by decide +kernel
  let low : Repair := ⟨⟨⟨2, ⟨.jmp, -2⟩, ⟨.nop, -2⟩⟩, 0⟩, .speculative, .lowestIndex, ⟨4, 9, 3, 0⟩⟩
  let first : Repair :=
    ⟨⟨⟨4, ⟨.jmp, -2⟩, ⟨.nop, -2⟩⟩, 1⟩, .speculative, .executionOrder, ⟨3, 7, 2, 0⟩⟩
  have hlow : (twoFixes.locate .speculative .lowestIndex).result = .ok low := by decide +kernel
  have hfirst : (twoFixes.locate .speculative .executionOrder).result = .ok first := by
    decide +kernel
  obtain ⟨hloop, _, hrepairs, _⟩ := the_first_fix_on_the_path_wins twoFixes hmodest
  refine ⟨hmodest, hrun, by decide +kernel, low, first, hlow, rfl, hfirst, rfl, ?_, ?_⟩
  · obtain ⟨r, hr, hle⟩ := hrepairs low hlow
    rw [hfirst] at hr
    cases hr
    exact hle
  · rcases hloop 0 0 3 hrun with ⟨r, hr, hpath⟩ | ⟨⟨m, hm⟩, _⟩
    · rw [hfirst] at hr
      cases hr
      exact hpath
    · rw [hfirst] at hm
      cases hm

end

end Unloop

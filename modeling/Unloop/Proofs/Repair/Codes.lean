-- The exit code that a program foretells. It depends on the unmodified run and on
-- whether some flip makes the program end, and on nothing else, so every search
-- comes to it, whatever its strategy and its tie break.
import Unloop.Proofs.Program.Refusals
import Unloop.Proofs.Repair.Order

namespace Unloop

open Program (Candidate)

/-! ## The pure model -/

/-- The flip of a single instruction makes the program end. -/
def Program.Repairable (p : Program) : Prop := ∃ n a, p.EndsFlipped n a

section

variable {p : Program} {s : Strategy} {t : TieBreak} {start last : State} {ts : List Step}
  {a x : Int}

theorem repairable_iff : p.Repairable ↔ ∃ c ∈ p.candidates, p.fix? c ≠ none := by
  unfold Program.Repairable
  simp only [endsFlipped_iff]
  constructor
  · rintro ⟨_, _, c, hc, rfl, hfix⟩
    exact ⟨c, hc, by simp [hfix]⟩
  · rintro ⟨c, hc, hne⟩
    obtain ⟨f, hfix⟩ := Option.ne_none_iff_exists'.mp hne
    obtain ⟨rfl, _⟩ := fix?_eq_some_iff.mp hfix
    exact ⟨_, _, f.candidate, hc, rfl, hfix⟩

instance (p : Program) : Decidable p.Repairable := decidable_of_iff _ repairable_iff.symm

/-- The exit code that the unmodified run and the flips of a program foretell. -/
def Program.exitCode (p : Program) : Nat :=
  match p.run none {} with
  | .error _ => 3
  | .ok o =>
    if ∀ i ∈ p.instructions, i.op = .acc then 4
    else
      match o.ending with
      | .terminated _ => 5
      | .looped .. => if p.Repairable then 0 else 4

/-! ## Programs without a jump -/

/-- A program that only adds goes one position on with each step. -/
theorem position_of_adding (hacc : ∀ i ∈ p.instructions, i.op = .acc)
    (h : p.Path none start ts last) (hstart : 0 ≤ start.position ∧ start.position ≤ p.length) :
    0 ≤ last.position ∧ last.position ≤ p.length := by
  induction ts generalizing start with
  | nil =>
    obtain rfl : start = last := h
    exact hstart
  | cons t ts ih =>
    obtain ⟨rfl, ⟨⟨hin, _⟩, hi⟩, hrest⟩ := h
    have hown : p.at? t.state.position = some t.instruction := hi
    rw [at?_of_inside hin] at hown
    have hop := hacc _ (List.mem_of_getElem? hown)
    have hnext : t.next.position = t.state.position + 1 := by
      unfold Step.next State.after
      rw [hop]
    obtain ⟨hlow, hhigh⟩ := hin
    exact ih hrest (by omega)

/-- A program that only adds does not leave itself. -/
theorem run_of_adding (hacc : ∀ i ∈ p.instructions, i.op = .acc) : ∃ o, p.run none {} = .ok o := by
  rcases hstop : (p.walk none {}).stop with e | x
  · exact ⟨⟨e, _⟩, run_eq_ok_iff.mpr ⟨hstop, rfl⟩⟩
  · obtain ⟨hout, hlast⟩ := stop_eq_outside_iff.mp hstop
    have hzero : ({} : State).position = 0 := rfl
    have hbetween := position_of_adding hacc (path_walk p none {}) (by omega)
    omega

/-! ## The four kinds of programs -/

theorem exitCode_of_outside (hstop : p.baseWalk.stop = .outside x) : p.exitCode = 3 := by
  have hrun : p.run none {} = .error (.outside p x) := run_eq_error_iff.mpr ⟨x, hstop, rfl⟩
  rw [Program.exitCode, hrun]

theorem exitCode_without_candidates (hc : p.candidates = []) : p.exitCode = 4 := by
  have hacc := candidates_eq_nil_iff.mp hc
  obtain ⟨o, hrun⟩ := run_of_adding hacc
  rw [Program.exitCode, hrun]
  exact if_pos hacc

theorem exitCode_of_terminated (hc : p.candidates ≠ [])
    (hstop : p.baseWalk.stop = .ending (.terminated a)) : p.exitCode = 5 := by
  have hrun : p.run none {} = .ok ⟨.terminated a, _⟩ := run_eq_ok_iff.mpr ⟨hstop, rfl⟩
  rw [Program.exitCode, hrun]
  exact if_neg (mt candidates_eq_nil_iff.mpr hc)

theorem exitCode_of_looped (hc : p.candidates ≠ [])
    (hstop : p.baseWalk.stop = .ending (.looped a x)) :
    p.exitCode = if p.Repairable then 0 else 4 := by
  have hrun : p.run none {} = .ok ⟨.looped a x, _⟩ := run_eq_ok_iff.mpr ⟨hstop, rfl⟩
  rw [Program.exitCode, hrun]
  exact if_neg (mt candidates_eq_nil_iff.mpr hc)

/-! ## What a search comes to -/

theorem eq_none_iff_of_lowest {best : Option Fix} (h : p.Lowest p.candidates best) :
    best = none ↔ ¬ p.Repairable := by
  rw [repairable_iff]
  cases best with
  | none =>
    refine iff_of_true rfl ?_
    rintro ⟨c, hc, hne⟩
    exact hne (h c hc)
  | some f =>
    obtain ⟨hc, hfix, _⟩ := h
    exact iff_of_false (Option.some_ne_none f) (not_not_intro ⟨f.candidate, hc, by simp [hfix]⟩)

/-- Each search of a looping program finds a fix if there is one at all. -/
theorem best_eq_none_iff (h : p.Modest) (hloop : p.baseWalk.stop = .ending (.looped a x))
    (s : Strategy) (t : TieBreak) : (p.progress s t).best = none ↔ ¬ p.Repairable := by
  have hlow := eq_none_iff_of_lowest (lowest_speculative h hloop)
  cases s with
  | naive => exact eq_none_iff_of_lowest (lowest_naive h t)
  | speculative =>
    cases t with
    | lowestIndex => exact hlow
    | executionOrder =>
      -- of the two tie breaks the one finds a fix exactly where the other does
      have hboth := best_of_both h hloop
      rw [← hlow]
      rcases hbest : (p.progress .speculative .lowestIndex).best with _ | f <;>
        rcases hfirst : (p.progress .speculative .executionOrder).best with _ | g <;>
        simp [hbest, hfirst] at hboth ⊢

theorem run_code (h : p.Modest) : WantedOrCode 3 (p.run none {}) fun _ => True := by
  rcases hstop : (p.walk none {}).stop with e | x
  · exact Or.inl ⟨⟨e, _⟩, run_eq_ok_iff.mpr ⟨hstop, rfl⟩, trivial⟩
  · refine Or.inr ⟨.outside x p.length, run_eq_error_iff.mpr ⟨x, hstop, ?_⟩, rfl⟩
    rw [outside_of_modest h (writable_of_outside h (covers_none p) hstop)]

theorem run_exitCode (h : p.Modest) : WantedOrCode p.exitCode (p.run none {}) fun _ => True := by
  rcases run_code h with hok | ⟨f, hf, hcode⟩
  · exact Or.inl hok
  · exact Or.inr ⟨f, hf, by rw [Program.exitCode, hf, hcode]⟩

/-- Whatever the strategy and the tie break, a search of a program finds a repair if
the exit code of the program is zero, and else fails with it. -/
theorem locate_code (h : p.Modest) (s : Strategy) (t : TieBreak) :
    WantedOrCode p.exitCode (p.locate s t).result fun _ => p.exitCode = 0 := by
  by_cases hc : p.candidates = []
  · exact Or.inr ⟨_, locate_without_candidates hc, (exitCode_without_candidates hc).symm⟩
  · rcases hstop : p.baseWalk.stop with (a | ⟨a, x⟩) | x
    · exact Or.inr ⟨_, locate_of_terminated h hc hstop, (exitCode_of_terminated hc hstop).symm⟩
    · rw [exitCode_of_looped hc hstop, locate_of_looped h hc hstop]
      have hnone := best_eq_none_iff h hstop s t
      rcases hbest : (p.progress s t).best with _ | f
      · rw [if_neg (hnone.mp hbest)]
        exact Or.inr ⟨_, found_of_none hbest, rfl⟩
      · have hrepairable : p.Repairable := by
          by_contra hno
          rw [hnone.mpr hno] at hbest
          cases hbest
        exact Or.inl ⟨_, found_of_some hbest, if_pos hrepairable⟩
    · exact Or.inr ⟨_, locate_of_outside h hc hstop, (exitCode_of_outside hstop).symm⟩

end

end Unloop

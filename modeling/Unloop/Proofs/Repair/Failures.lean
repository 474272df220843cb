-- The laws of the failures of a search. Whatever the offsets, a search gives a
-- repair or one of three failures, unless it comes to a number that is too long
-- to be told. A flip that leaves the program so far away is not rejected, but
-- ends the search.
import Unloop.Proofs.Repair.Order

namespace Unloop

open Number
open Program (Candidate)

/-! ## The pure model -/

/-- The trials that a search comes to, in its order. -/
def Program.trials (p : Program) : Strategy → List Trial
  | .naive => p.freshTrials
  | .speculative => p.baseWalk.branches

/-- The candidates that a search comes to, in its order. -/
def Program.order (p : Program) (s : Strategy) : List Candidate :=
  (p.trials s).map Trial.candidate

/-- A candidate is worth a trial of a search, in view of the best fix so far. -/
def Strategy.wants : Strategy → TieBreak → Option Fix → Candidate → Bool
  | .naive, _ => fun best _ => best.isNone
  | .speculative, t => t.wants

/-- The search makes a trial of the candidate: a fix that it came to before
gives way, which it does only to a position below its own. -/
def Program.Tries (p : Program) (s : Strategy) (t : TieBreak) (c : Candidate) : Prop :=
  ∃ before after, p.order s = before ++ c :: after ∧
    ∀ d ∈ before, p.fix? d ≠ none → t = .lowestIndex ∧ c.position < d.position

/-- The run does not loop, and what its failure would tell cannot be written. -/
def Stop.Untold (length : Nat) : Stop → Prop
  | .outside x => (Failure.outside x length).isWritable = false
  | .ending (.terminated a) => ¬ Writable a
  | .ending (.looped ..) => False

/-- A program with a flip that leaves it for a position of 4301 digits, below
the flip that makes it end. -/
def farFlip : Program :=
  ⟨[⟨.acc, 0⟩, ⟨.nop, tenTo digitLimit - 1⟩, ⟨.jmp, -1⟩], by decide +kernel⟩

section

variable {p : Program} {s : Strategy} {t : TieBreak} {c : Candidate} {cs : List Candidate}

/-! ## What is tried -/

theorem faithful_trials {u : Trial} (hu : u ∈ p.trials s) : u.Faithful p := by
  cases s with
  | naive => exact faithful_freshTrials hu
  | speculative => exact faithful_branches hu

theorem progress_eq (p : Program) (s : Strategy) (t : TieBreak) :
    p.progress s t = (Progress.afterBase p).sweep p (s.wants t) (p.trials s) := by
  cases s <;> rfl

/-- A search that the first fix ends wants a candidate as long as it has come to
no fix. -/
theorem wants_executionOrder :
    TieBreak.executionOrder.wants (cs.foldl (p.pick TieBreak.executionOrder.wants) none) c = true ↔
      ∀ d ∈ cs, p.fix? d = none := by
  rw [foldl_pick_first, ← List.findSome?_eq_none_iff]
  rcases cs.findSome? p.fix? with _ | f <;> simp [TieBreak.wants]

/-- A search for the lowest fix wants a candidate that is below every fix that
it has come to. -/
theorem wants_lowestIndex :
    TieBreak.lowestIndex.wants (cs.foldl (p.pick TieBreak.lowestIndex.wants) none) c = true ↔
      ∀ d ∈ cs, p.fix? d ≠ none → c.position < d.position := by
  have hlow := lowest_branching p cs
  rcases hbest : cs.foldl (p.pick TieBreak.lowestIndex.wants) none with _ | f
  · rw [hbest] at hlow
    exact ⟨fun _ d hd hfix => absurd (hlow d hd) hfix, fun _ => rfl⟩
  · rw [hbest] at hlow
    obtain ⟨hmem, hfix, hmin⟩ := hlow
    simp only [TieBreak.wants, beq_self_eq_true, Bool.true_and, decide_eq_true_eq]
    constructor
    · intro hc d hd hne
      exact Nat.lt_of_lt_of_le hc (hmin d hd hne)
    · intro h
      exact h _ hmem (by simp [hfix])

theorem wants_naive (t : TieBreak) : Strategy.naive.wants t = TieBreak.executionOrder.wants := by
  funext best c
  rcases best with _ | f <;> rfl

/-- What is wanted when its turn comes, in terms of the fixes alone. -/
theorem wants_iff {before after : List Candidate} (hsplit : p.order s = before ++ c :: after) :
    s.wants t (before.foldl (p.pick (s.wants t)) none) c = true ↔
      ∀ d ∈ before, p.fix? d ≠ none → t = .lowestIndex ∧ c.position < d.position := by
  cases s with
  | naive =>
    rw [wants_naive, wants_executionOrder]
    constructor
    · intro h d hd hne
      exact absurd (h d hd) hne
    · -- the naive search goes upwards, so no position below a fix is to come
      intro h d hd
      by_contra hne
      have hupwards := pairwise_candidates p
      rw [← map_candidate_freshTrials] at hupwards
      change p.freshTrials.map Trial.candidate = _ at hsplit
      rw [hsplit] at hupwards
      have hlt := (List.pairwise_append.mp hupwards).2.2 d hd c (by simp)
      exact Nat.lt_asymm hlt (h d hd hne).2
  | speculative =>
    cases t with
    | lowestIndex => simpa [Strategy.wants] using wants_lowestIndex
    | executionOrder => simpa [Strategy.wants] using wants_executionOrder

theorem meets_order_iff :
    p.Meets (s.wants t) (p.order s) ↔ ∃ c, p.Tries s t c ∧ p.LeavesTooFar c := by
  constructor
  · rintro ⟨before, c, after, hsplit, hw, hfar⟩
    exact ⟨c, ⟨before, after, hsplit, (wants_iff hsplit).mp hw⟩, hfar⟩
  · rintro ⟨c, ⟨before, after, hsplit, hfixes⟩, hfar⟩
    exact ⟨before, c, after, hsplit, (wants_iff hsplit).mpr hfixes, hfar⟩

/-! ## Which failure it is -/

/-- The trials of a search are stopped exactly by one that leads too far. -/
theorem fault_progress (p : Program) (s : Strategy) (t : TieBreak) :
    ((∃ c, p.Tries s t c ∧ p.LeavesTooFar c) →
      (p.progress s t).fault = some (.longNumber none)) ∧
    ((¬ ∃ c, p.Tries s t c ∧ p.LeavesTooFar c) → (p.progress s t).fault = none) := by
  rw [← meets_order_iff, progress_eq]
  have hall : ∀ u ∈ p.trials s, u.Faithful p := fun _ => faithful_trials
  exact ⟨(sweep_of_faithful hall rfl rfl).1, fun hno => ((sweep_of_faithful hall rfl rfl).2 hno).2⟩

/-- The unmodified run fails as it stops, or at a number too long to be told. -/
theorem baseFault?_cases (p : Program) :
    (∃ a x, p.baseWalk.stop = .ending (.looped a x)) ∧ p.baseFault? = none ∨
    (∃ a, p.baseWalk.stop = .ending (.terminated a) ∧ Writable a ∧
      p.baseFault? = some (.failure (.ends a))) ∨
    (∃ x, p.baseWalk.stop = .outside x ∧ (Failure.outside x p.length).isWritable = true ∧
      p.baseFault? = some (.failure (.outside x p.length))) ∨
    p.baseWalk.stop.Untold p.length ∧ p.baseFault? = some (.longNumber none) := by
  unfold Program.baseFault?
  rcases hstop : p.baseWalk.stop with (a | ⟨a, x⟩) | x
  · by_cases ha : Writable a
    · refine Or.inr (Or.inl ⟨a, rfl, ha, ?_⟩)
      simp only [writeNumber_of_writable ha]
      rfl
    · have hlong : writeNumber a = .error (.longNumber none) := by
        rw [writeNumber, text?, if_neg ha]
        rfl
      refine Or.inr (Or.inr (Or.inr ⟨ha, ?_⟩))
      simp only [hlong]
  · exact Or.inl ⟨⟨a, x, rfl⟩, rfl⟩
  · rcases htold : (Failure.outside x p.length).isWritable with _ | _
    · refine Or.inr (Or.inr (Or.inr ⟨htold, ?_⟩))
      simp [Fault.outside, Fault.of, htold]
    · refine Or.inr (Or.inr (Or.inl ⟨x, rfl, htold, ?_⟩))
      simp [Fault.outside, Fault.of, htold]

theorem found_cases (g : Progress) (s : Strategy) (t : TieBreak) :
    (∃ r, (g.found s t).result = .ok r) ∨
      ∃ m, (g.found s t).result = .error (.failure (.noFix m)) := by
  rcases hbest : g.best with _ | f
  · exact Or.inr ⟨_, found_of_none hbest⟩
  · exact Or.inl ⟨_, found_of_some hbest⟩

/-- What a search comes to: of the trials and the unmodified run, the naive
search looks at the run first. -/
theorem result_cases (hc : p.candidates ≠ []) :
    (∃ fault, p.baseFault? = some fault ∧ (p.locate s t).result = .error fault ∧
      (s = .speculative → (p.progress s t).fault = none)) ∨
    ((p.progress s t).fault = some (.longNumber none) ∧
      (p.locate s t).result = .error (.longNumber none) ∧
      (s = .naive → p.baseFault? = none)) ∨
    ((p.progress s t).fault = none ∧ p.baseFault? = none ∧
      (p.locate s t).result = ((p.progress s t).found s t).result) := by
  have htrials : (p.progress s t).fault = none ∨
      (p.progress s t).fault = some (.longNumber none) := by
    by_cases hfar : ∃ c, p.Tries s t c ∧ p.LeavesTooFar c
    · exact Or.inr ((fault_progress p s t).1 hfar)
    · exact Or.inl ((fault_progress p s t).2 hfar)
  cases s with
  | naive =>
    rw [result_naive t hc]
    rcases hbase : p.baseFault? with _ | fault
    · rcases htrials with h | h <;> rw [h]
      · exact Or.inr (Or.inr ⟨rfl, rfl, rfl⟩)
      · exact Or.inr (Or.inl ⟨rfl, rfl, fun _ => rfl⟩)
    · exact Or.inl ⟨fault, rfl, rfl, fun h => by cases h⟩
  | speculative =>
    rw [result_speculative t hc]
    rcases htrials with h | h <;> rw [h]
    · rcases hbase : p.baseFault? with _ | fault
      · exact Or.inr (Or.inr ⟨rfl, rfl, rfl⟩)
      · exact Or.inl ⟨fault, rfl, rfl, fun _ => rfl⟩
    · exact Or.inr (Or.inl ⟨rfl, rfl, fun h => by cases h⟩)

theorem baseFault?_eq_none_iff :
    p.baseFault? = none ↔ ∃ a x, p.baseWalk.stop = .ending (.looped a x) := by
  rcases baseFault?_cases p with ⟨hloop, h⟩ | ⟨a, hstop, _, h⟩ | ⟨x, hstop, _, h⟩ | ⟨hlong, h⟩
  · simp [h, hloop]
  · simp [h, hstop]
  · simp [h, hstop]
  · rw [h]
    refine ⟨fun hnone => (by cases hnone), ?_⟩
    rintro ⟨a, x, hstop⟩
    rw [hstop] at hlong
    exact hlong.elim

theorem untold_iff : p.baseWalk.stop.Untold p.length ↔ p.baseFault? = some (.longNumber none) := by
  rcases baseFault?_cases p with ⟨⟨a, x, hstop⟩, h⟩ | ⟨a, hstop, ha, h⟩ | ⟨x, hstop, hx, h⟩ |
    ⟨hlong, h⟩
  · simp [h, hstop, Stop.Untold]
  · simp [h, hstop, Stop.Untold, ha]
  · simp [h, hstop, Stop.Untold, hx]
  · simp [h, hlong]

/-- A search ends at a number too long to be told exactly if the unmodified run
does, or if it makes a trial that leads too far. The naive search makes none
unless the unmodified run loops. -/
theorem long_number_iff :
    (p.locate s t).result = .error (.longNumber none) ↔
      p.candidates ≠ [] ∧ (p.baseWalk.stop.Untold p.length ∨
        (s = .naive → ∃ a x, p.baseWalk.stop = .ending (.looped a x)) ∧
          ∃ c, p.Tries s t c ∧ p.LeavesTooFar c) := by
  by_cases hc : p.candidates = []
  · simp [locate_without_candidates hc, hc]
  · obtain ⟨hfar, hnear⟩ := fault_progress p s t
    rw [untold_iff, ← baseFault?_eq_none_iff]
    rcases result_cases (s := s) (t := t) hc with ⟨fault, hbase, hresult, hs⟩ |
      ⟨htrials, hresult, hs⟩ | ⟨htrials, hbase, hresult⟩
    · rw [hresult, hbase]
      constructor
      · rintro ⟨⟩
        exact ⟨hc, Or.inl rfl⟩
      · rintro ⟨_, h | ⟨hloops, hmeets⟩⟩
        · cases h
          rfl
        · cases s with
          | naive => cases hloops rfl
          | speculative =>
            have htold := hs rfl
            rw [hfar hmeets] at htold
            cases htold
    · refine ⟨fun _ => ⟨hc, Or.inr ⟨hs, ?_⟩⟩, fun _ => hresult⟩
      by_contra hno
      rw [hnear hno] at htrials
      cases htrials
    · rw [hresult, hbase]
      constructor
      · intro h
        rcases found_cases (p.progress s t) s t with ⟨r, hr⟩ | ⟨m, hm⟩
        · rw [hr] at h
          cases h
        · rw [hm] at h
          cases h
      · rintro ⟨_, h | ⟨_, hmeets⟩⟩
        · cases h
        · rw [hfar hmeets] at htrials
          cases htrials

/-- A search gives a repair, or fails because there is no fix, because the
program ends as it is, or because the unmodified run leaves it. Otherwise it has
come to a number that is too long to be told: the unmodified run does not loop
and its failure would tell such a number, or a flip that it tries leaves the
program for such a position. That flip is not rejected as the others are. -/
theorem a_search_fails_otherwise_only_at_a_long_number (p : Program) (s : Strategy)
    (t : TieBreak) :
    let answer := (p.locate s t).result
    ((∃ r, answer = .ok r) ∨
      (∃ m, answer = .error (.failure (.noFix m))) ∨
      (∃ a m, p.baseWalk.stop = .ending (.terminated a) ∧
        answer = .error (.failure (.alreadyEnds m))) ∨
      (∃ x, p.baseWalk.stop = .outside x ∧ answer = .error (.failure (.outside x p.length))) ∨
      answer = .error (.longNumber none)) ∧
    (answer = .error (.longNumber none) ↔
      p.candidates ≠ [] ∧ (p.baseWalk.stop.Untold p.length ∨
        (s = .naive → ∃ a x, p.baseWalk.stop = .ending (.looped a x)) ∧
          ∃ c, p.Tries s t c ∧ p.LeavesTooFar c)) := by
  intro answer
  refine ⟨?_, long_number_iff⟩
  by_cases hc : p.candidates = []
  · exact Or.inr (Or.inl ⟨_, locate_without_candidates hc⟩)
  · rcases result_cases (s := s) (t := t) hc with ⟨fault, hbase, hresult, _⟩ |
      ⟨_, hresult, _⟩ | ⟨_, _, hresult⟩
    · rcases baseFault?_cases p with ⟨_, h⟩ | ⟨a, hstop, _, h⟩ | ⟨x, hstop, _, h⟩ | ⟨_, h⟩ <;>
        rw [h] at hbase <;> cases hbase
      · exact Or.inr (Or.inr (Or.inl ⟨a, _, hstop, hresult⟩))
      · exact Or.inr (Or.inr (Or.inr (Or.inl ⟨x, hstop, hresult⟩)))
      · exact Or.inr (Or.inr (Or.inr (Or.inr hresult)))
    · exact Or.inr (Or.inr (Or.inr (Or.inr hresult)))
    · change (p.locate s t).result = _ at hresult
      rcases found_cases (p.progress s t) s t with ⟨r, hr⟩ | ⟨m, hm⟩
      · exact Or.inl ⟨r, hresult.trans hr⟩
      · exact Or.inr (Or.inl ⟨m, hresult.trans hm⟩)

/-- The program loops and its last instruction has a flip that makes it end, but
no search comes to tell so. -/
theorem a_far_flip_is_not_rejected :
    farFlip.run none {} = .ok ⟨.looped 0 1, 3⟩ ∧ farFlip.EndsFlipped 2 0 ∧
      ∀ s t, (farFlip.locate s t).result = .error (.longNumber none) := by
  have hrun : farFlip.run none {} = .ok ⟨.looped 0 1, 3⟩ := by decide +kernel
  have hends : farFlip.EndsFlipped 2 0 :=
    endsFlipped_iff.mpr ⟨⟨2, ⟨.jmp, -1⟩, ⟨.nop, -1⟩⟩, by decide +kernel, rfl, by decide +kernel⟩
  refine ⟨hrun, hends, ?_⟩
  intro s t
  cases s <;> cases t <;> decide +kernel

end

end Unloop

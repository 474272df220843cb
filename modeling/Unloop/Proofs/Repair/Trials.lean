-- The laws of the trials that a search makes. A sweep makes those that are wanted
-- when their turn comes and passes over the others, so it is the trials that it
-- makes, one after another. Which ones they are is a matter of the fixes before
-- them alone: in the order of the positions, or of the path of the unmodified run.
import Unloop.Proofs.Repair.Failures

namespace Unloop

open Program (Candidate)

/-! ## The pure model -/

/-- The trials that a sweep makes, from a best fix on. -/
def Program.made (p : Program) (wanted : Option Fix → Candidate → Bool) :
    Option Fix → List Trial → List Trial
  | _, [] => []
  | best, u :: us =>
    let more := p.made wanted (p.pick wanted best u.candidate) us
    if wanted best u.candidate then u :: more else more

/-- The trials that a search makes. -/
def Program.madeBy (p : Program) (s : Strategy) (t : TieBreak) : List Trial :=
  p.made (s.wants t) none (p.trials s)

/-- The place of a position on the path of the unmodified run: how many steps it
takes to come there. -/
def Program.place (p : Program) (x : Int) : Nat := (executed p.baseWalk.steps).idxOf x

/-- When the turn of a position comes in a search. -/
def Strategy.turn (p : Program) : Strategy → Nat → Nat
  | .naive, n => n
  | .speculative, n => p.place n

section

variable {p : Program} {wanted : Option Fix → Candidate → Bool} {g : Progress} {best : Option Fix}
  {ts : List Trial} {u : Trial} {s : Strategy} {t : TieBreak} {c : Candidate}

/-! ## Sweeps -/

theorem made_sublist (wanted : Option Fix → Candidate → Bool) (best : Option Fix)
    (ts : List Trial) : (p.made wanted best ts).Sublist ts := by
  induction ts generalizing best with
  | nil => exact .slnil
  | cons u us ih =>
    unfold Program.made
    dsimp only
    split
    · exact (ih _).cons_cons u
    · exact (ih _).cons u

/-- A sweep in which no trial leads too far is the trials that it makes. -/
theorem sweep_eq_foldl_made (h : ∀ u ∈ ts, u.Faithful p ∧ ¬ p.LeavesTooFar u.candidate)
    (hg : g.fault = none) :
    g.sweep p wanted ts = (p.made wanted g.best ts).foldl (Progress.make p) g := by
  induction ts generalizing g with
  | nil => rfl
  | cons u us ih =>
    obtain ⟨⟨hfaithful, hnear⟩, hus⟩ := List.forall_mem_cons.mp h
    have hstep : g.sweep p wanted (u :: us) =
        (if wanted g.best u.candidate then g.make p u else g).sweep p wanted us := by
      unfold Progress.sweep
      rw [List.foldl_cons, hg, Option.isNone_none, Bool.true_and]
    rw [hstep, Program.made]
    by_cases hw : wanted g.best u.candidate = true
    · have hmake := make_of_told (g := g) hfaithful hnear
      have hpick : p.pick wanted g.best u.candidate = (g.make p u).best := by
        rw [hmake, Program.pick, if_pos hw]
      rw [if_pos hw, if_pos hw, List.foldl_cons, hpick]
      exact ih hus (by rw [hmake, hg])
    · have hpick : p.pick wanted g.best u.candidate = g.best := if_neg hw
      rw [if_neg hw, if_neg hw, hpick]
      exact ih hus hg

/-- A trial is made exactly if it is wanted when its turn comes. -/
theorem mem_made_iff :
    u ∈ p.made wanted best ts ↔ ∃ before after, ts = before ++ u :: after ∧
      wanted ((before.map Trial.candidate).foldl (p.pick wanted) best) u.candidate = true := by
  induction ts generalizing best with
  | nil =>
    refine ⟨fun h => (nomatch h), ?_⟩
    rintro ⟨before, after, hsplit, _⟩
    simp at hsplit
  | cons v vs ih =>
    have hmem : u ∈ p.made wanted best (v :: vs) ↔ wanted best v.candidate = true ∧ u = v ∨
        u ∈ p.made wanted (p.pick wanted best v.candidate) vs := by
      rw [Program.made]
      by_cases hw : wanted best v.candidate = true
      · rw [if_pos hw, List.mem_cons, and_iff_right hw]
      · rw [if_neg hw]
        simp only [hw, Bool.false_eq_true, false_and, false_or]
    rw [hmem, ih]
    constructor
    · rintro (⟨hw, rfl⟩ | ⟨before, after, rfl, hw⟩)
      · exact ⟨[], vs, rfl, hw⟩
      · exact ⟨v :: before, after, rfl, hw⟩
    · rintro ⟨before, after, hsplit, hw⟩
      rcases List.cons_eq_append_iff.mp hsplit with ⟨rfl, heq⟩ | ⟨rest, rfl, rfl⟩
      · obtain ⟨rfl, rfl⟩ := List.cons.inj heq
        exact Or.inl ⟨hw, rfl⟩
      · exact Or.inr ⟨rest, after, rfl, hw⟩

/-! ## Searches -/

theorem mem_candidates_of_trial (hu : u ∈ p.trials s) : u.candidate ∈ p.candidates :=
  (faithful_trials hu).1

theorem progress_eq_foldl_made (h : p.Modest) (s : Strategy) (t : TieBreak) :
    p.progress s t = (p.madeBy s t).foldl (Progress.make p) (Progress.afterBase p) := by
  rw [progress_eq]
  refine sweep_eq_foldl_made (fun u hu => ⟨faithful_trials hu, ?_⟩) rfl
  exact not_leavesTooFar h (mem_candidates_of_trial hu)

theorem mem_trials_of_made (hu : u ∈ p.madeBy s t) : u ∈ p.trials s :=
  (made_sublist _ _ _).subset hu

/-- A search makes a trial of a candidate exactly if it tries it. -/
theorem mem_madeBy_iff : c ∈ (p.madeBy s t).map Trial.candidate ↔ p.Tries s t c := by
  rw [List.mem_map]
  constructor
  · rintro ⟨u, hu, rfl⟩
    obtain ⟨before, after, hsplit, hw⟩ := mem_made_iff.mp hu
    have horder : p.order s =
        before.map Trial.candidate ++ u.candidate :: after.map Trial.candidate := by
      rw [Program.order, hsplit, List.map_append, List.map_cons]
    exact ⟨_, _, horder, (wants_iff horder).mp hw⟩
  · rintro ⟨before, after, hsplit, hfixes⟩
    have hw := (wants_iff hsplit).mpr hfixes
    obtain ⟨us, vs, htrials, rfl, hvs⟩ := List.map_eq_append_iff.mp hsplit
    obtain ⟨u, vs, rfl, rfl, _⟩ := List.map_eq_cons_iff.mp hvs
    exact ⟨u, mem_made_iff.mpr ⟨us, vs, htrials, hw⟩, rfl⟩

/-! ## The order of the trials -/

/-- Where keys go up, what stands before an item are the items with lesser keys. -/
theorem mem_before_iff {α : Type} {key : α → Nat} {xs before after : List α} {x y : α}
    (h : xs.Pairwise fun a b => key a < key b) (hsplit : xs = before ++ x :: after) :
    y ∈ before ↔ y ∈ xs ∧ key y < key x := by
  subst hsplit
  obtain ⟨_, hafter, hbefore⟩ := List.pairwise_append.mp h
  constructor
  · intro hy
    exact ⟨List.mem_append_left _ hy, hbefore y hy x List.mem_cons_self⟩
  · rintro ⟨hy, hkey⟩
    rcases List.mem_append.mp hy with hy | hy
    · exact hy
    · exfalso
      rcases List.mem_cons.mp hy with rfl | hy
      · exact Nat.lt_irrefl _ hkey
      · exact Nat.lt_asymm hkey ((List.pairwise_cons.mp hafter).1 y hy)

theorem place_of_getElem? {x : Int} {j : Nat} (h : (executed p.baseWalk.steps)[j]? = some x) :
    p.place x = j := by
  have hnodup : (executed p.baseWalk.steps).Nodup := (nodup_executed (path_walk p none {})).1
  obtain ⟨hj, rfl⟩ := List.getElem?_eq_some_iff.mp h
  exact hnodup.idxOf_getElem j hj

theorem getElem?_place {x : Int} (h : x ∈ executed p.baseWalk.steps) :
    (executed p.baseWalk.steps)[p.place x]? = some x := by
  obtain ⟨j, hj⟩ := List.getElem?_of_mem h
  rwa [place_of_getElem? hj]

theorem pairwise_steps (p : Program) :
    p.baseWalk.steps.Pairwise fun a b => p.place a.state.position < p.place b.state.position := by
  have hplace : ∀ j (hj : j < p.baseWalk.steps.length),
      p.place p.baseWalk.steps[j].state.position = j := by
    intro j hj
    exact place_of_getElem? (by simp [executed, hj])
  apply List.pairwise_iff_getElem.mpr
  intro i j hi hj hij
  rwa [hplace i hi, hplace j hj]

/-- A search comes to its candidates turn by turn. -/
theorem pairwise_order (p : Program) (s : Strategy) :
    (p.order s).Pairwise fun c d => s.turn p c.position < s.turn p d.position := by
  cases s with
  | naive =>
    change (p.freshTrials.map Trial.candidate).Pairwise _
    rw [map_candidate_freshTrials]
    exact pairwise_candidates p
  | speculative =>
    change (p.baseWalk.branches.map Trial.candidate).Pairwise _
    unfold Walk.branches
    rw [List.pairwise_map, List.pairwise_filterMap]
    refine (pairwise_steps p).imp_of_mem ?_
    intro a b ha hb hab u hu v hv
    have hcame : ∀ a ∈ p.baseWalk.steps, ∀ u : Trial,
        (Program.candidateOf a.instruction a.state.position.toNat).map
          (fun c => (⟨c, a.state⟩ : Trial)) = some u →
        (u.candidate.position : Int) = a.state.position := by
      intro a ha u hu
      have hbranch : u ∈ p.baseWalk.branches := List.mem_filterMap.mpr ⟨a, ha, hu⟩
      obtain ⟨_, _, rfl⟩ := Option.map_eq_some_iff.mp hu
      exact (mem_branches.mp hbranch).2.1.symm
    simp only [Strategy.turn, hcame a ha u hu, hcame b hb v hv]
    exact hab

theorem mem_order_speculative_iff :
    c ∈ p.order .speculative ↔
      c ∈ p.candidates ∧ (c.position : Int) ∈ executed p.baseWalk.steps := by
  constructor
  · intro hc
    obtain ⟨u, hu, rfl⟩ := List.mem_map.mp hc
    obtain ⟨hmem, hpos, v, hv, hstate⟩ := mem_branches.mp hu
    exact ⟨hmem, mem_executed.mpr ⟨v, hv, by rw [hstate, hpos]⟩⟩
  · rintro ⟨hc, hx⟩
    obtain ⟨u, hu, rfl⟩ := branch_of_executed hc hx
    exact List.mem_map.mpr ⟨u, hu, rfl⟩

theorem mem_order_naive_iff : c ∈ p.order .naive ↔ c ∈ p.candidates := by
  change c ∈ p.freshTrials.map Trial.candidate ↔ _
  rw [map_candidate_freshTrials]

/-- What a search tries, in terms of the fixes whose turn comes earlier. -/
theorem tries_iff :
    p.Tries s t c ↔ c ∈ p.order s ∧ ∀ d ∈ p.order s, s.turn p d.position < s.turn p c.position →
      p.fix? d ≠ none → t = .lowestIndex ∧ c.position < d.position := by
  constructor
  · rintro ⟨before, after, hsplit, hfixes⟩
    refine ⟨by simp [hsplit], ?_⟩
    intro d hd hturn
    exact hfixes d ((mem_before_iff (pairwise_order p s) hsplit).mpr ⟨hd, hturn⟩)
  · rintro ⟨hc, hfixes⟩
    obtain ⟨before, after, hsplit⟩ := List.append_of_mem hc
    refine ⟨before, after, hsplit, ?_⟩
    intro d hd
    obtain ⟨hmem, hturn⟩ := (mem_before_iff (pairwise_order p s) hsplit).mp hd
    exact hfixes d hmem hturn

end

end Unloop

-- The laws of the statistics of a search. They count the trials that it made, and
-- a trial takes the steps of the run from the start with its flip, but for those
-- that it has in common with the unmodified run before it branches off. So what a
-- repair tells of its costs can be had from the flipped programs alone.
import Unloop.Proofs.Repair.Costs
import Unloop.Proofs.Repair.Trials

namespace Unloop

open Program (Candidate)

/-! ## The pure model -/

/-- The position has an instruction that can be flipped. -/
def Program.Flippable (p : Program) (n : Nat) : Prop :=
  ∃ i, p.at? n = some i ∧ (i.op = .jmp ∨ i.op = .nop)

/-- The run from the start of the program with the instruction at a position
flipped, if it can be flipped. -/
def Program.flippedWalk? (p : Program) (n : Nat) : Option Walk :=
  (p.flipAt n).toOption.map Program.baseWalk

/-- How many instructions that run executes, wherever it stops. -/
def Program.flippedSteps (p : Program) (n : Nat) : Nat :=
  (p.flippedWalk? n).elim 0 fun w => w.steps.length

/-- That run leaves the program. -/
def Program.leavesFlipped (p : Program) (n : Nat) : Bool :=
  (p.flippedWalk? n).any fun w => w.stop.isOutside

/-- The positions that a search tries on its way to a repair at `last`. The naive
search comes to all of them from below. The branching search follows the path of
the unmodified run: the fixes that it came to before end it, or leave it the
positions below them. -/
def Strategy.Tested (p : Program) (t : TieBreak) (last : Nat) : Strategy → Nat → Prop
  | .naive, n => p.Flippable n ∧ n ≤ last
  | .speculative, n => p.Flippable n ∧
      ∃ j : Nat, (executed (p.walk none {}).steps)[j]? = some (n : Int) ∧
        ∀ i < j, ∀ (m : Nat) a, (executed (p.walk none {}).steps)[i]? = some (m : Int) →
          p.EndsFlipped m a → t = .lowestIndex ∧ n < m

/-- The steps that a trial has in common with the unmodified run and does not
take again. -/
def Strategy.spared (p : Program) : Strategy → Nat → Nat
  | .naive, _ => 0
  | .speculative, n => p.place n

/-- The costs of a search that tried some positions after a run of `k` steps. -/
structure Stats.Exact (st : Stats) (p : Program) (s : Strategy) (k : Nat) (tested : List Nat) :
    Prop where
  tried : st.tried = tested.length
  runs : st.runs = tested.length + 1
  outside : st.outside = tested.countP p.leavesFlipped
  spared : ∀ n ∈ tested, s.spared p n ≤ p.flippedSteps n
  steps : st.steps = k + (tested.map fun n => p.flippedSteps n - s.spared p n).sum

section

variable {p : Program} {g : Progress} {u : Trial} {ts : List Trial} {s : Strategy} {t : TieBreak}
  {c : Candidate} {r : Repair} {n : Nat}

/-! ## Flipped programs -/

theorem flippable_iff : p.Flippable n ↔ ∃ c ∈ p.candidates, c.position = n := by
  constructor
  · rintro ⟨i, hi, hop⟩
    rw [at?_natCast] at hi
    rcases hj : i.flip? with _ | j
    · rw [Instruction.flip?_eq_none_iff] at hj
      simp [hj] at hop
    · exact ⟨⟨n, i, j⟩, mem_candidates.mpr ⟨hi, hj⟩, rfl⟩
  · rintro ⟨c, hc, rfl⟩
    exact ⟨c.removed, (at?_natCast p _).trans (mem_candidates.mp hc).1, op_of_mem_candidates hc⟩

theorem flippedWalk?_of_mem_candidates (hc : c ∈ p.candidates) :
    p.flippedWalk? c.position = some (p.flipWalk c) := by
  obtain ⟨q, hq, hset⟩ := replace_candidate hc
  have hflip : p.flipAt c.position = .ok q := flipAt_eq_ok_iff.mpr ⟨c, hc, rfl, hq⟩
  rw [Program.flippedWalk?, hflip, Except.toOption, Option.map_some, walk_of_rebuilt hc hset]

theorem flippedSteps_of_mem_candidates (hc : c ∈ p.candidates) :
    p.flippedSteps c.position = (p.flipWalk c).steps.length := by
  rw [Program.flippedSteps, flippedWalk?_of_mem_candidates hc, Option.elim_some]

theorem leavesFlipped_of_mem_candidates (hc : c ∈ p.candidates) :
    p.leavesFlipped c.position = (p.flipWalk c).stop.isOutside := by
  rw [Program.leavesFlipped, flippedWalk?_of_mem_candidates hc, Option.any_some]

/-! ## What a trial costs -/

/-- The run from the start with a flip takes the steps that its trial is spared,
and then those of the trial. -/
theorem flippedSteps_of_trial (hu : u ∈ p.trials s) :
    p.flippedSteps u.candidate.position = s.spared p u.candidate.position +
      (p.walk (some u.candidate.patch) u.start).steps.length := by
  rw [flippedSteps_of_mem_candidates (mem_candidates_of_trial hu)]
  cases s with
  | naive =>
    obtain ⟨c, _, rfl⟩ := List.mem_map.mp hu
    exact (Nat.zero_add _).symm
  | speculative =>
    obtain ⟨_, hpos, v, hv, hstate⟩ := mem_branches.mp hu
    obtain ⟨before, rest, hsteps⟩ := List.append_of_mem hv
    rw [← hstate] at hpos ⊢
    have hplace : p.place u.candidate.position = before.length := by
      apply place_of_getElem?
      simp [hsteps, executed, hpos]
    rw [flipWalk_of_split hsteps hpos, Strategy.spared, hplace]
    exact List.length_append

/-- The costs of a search are exact as long as it makes one trial after another. -/
theorem exact_foldl_make (h : p.Modest) (hts : ∀ u ∈ ts, u ∈ p.trials s) {k : Nat}
    {tested : List Nat} (hg : g.stats.Exact p s k tested) :
    (ts.foldl (Progress.make p) g).stats.Exact p s k
      (tested ++ ts.map fun u => u.candidate.position) := by
  -- a trial adds its position behind those that were tested before
  induction ts generalizing g tested with
  | nil => simpa using hg
  | cons u us ih =>
    obtain ⟨hu, hus⟩ := List.forall_mem_cons.mp hts
    have hflipped := flippedSteps_of_trial hu
    have hc := mem_candidates_of_trial hu
    have hmake := make_of_told (g := g) (faithful_trials hu) (not_leavesTooFar h hc)
    rw [List.foldl_cons, List.map_cons, ← List.singleton_append, ← List.append_assoc]
    apply ih hus
    rw [hmake]
    constructor
    · simp [hg.tried]
    · simp [hg.runs]
    · simp [hg.outside, List.countP_cons, leavesFlipped_of_mem_candidates hc]
    · intro n hn
      rcases List.mem_append.mp hn with hn | hn
      · exact hg.spared n hn
      · obtain rfl := List.mem_singleton.mp hn
        omega
    · have hown : p.flippedSteps u.candidate.position - s.spared p u.candidate.position =
          (p.walk (some u.candidate.patch) u.start).steps.length := by omega
      simp [hg.steps, hown, Nat.add_assoc]

/-- The costs of a search are exact. -/
theorem exact_progress (h : p.Modest) (s : Strategy) (t : TieBreak) :
    (p.progress s t).stats.Exact p s p.baseWalk.steps.length
      ((p.madeBy s t).map fun u => u.candidate.position) := by
  rw [progress_eq_foldl_made h]
  have hbase : (Progress.afterBase p).stats.Exact p s p.baseWalk.steps.length [] :=
    ⟨rfl, rfl, rfl, (fun _ hn => nomatch hn), rfl⟩
  exact exact_foldl_make h (fun _ => mem_trials_of_made) hbase

/-! ## What a search tries -/

theorem fix?_ne_none_iff (hc : c ∈ p.candidates) :
    p.fix? c ≠ none ↔ ∃ a, p.EndsFlipped c.position a := by
  constructor
  · intro hne
    obtain ⟨f, hfix⟩ := Option.ne_none_iff_exists'.mp hne
    obtain ⟨rfl, _⟩ := fix?_eq_some_iff.mp hfix
    exact ⟨f.accumulator, endsFlipped_iff.mpr ⟨_, hc, rfl, hfix⟩⟩
  · rintro ⟨a, hends⟩
    obtain ⟨d, hd, hpos, hfix⟩ := endsFlipped_iff.mp hends
    obtain rfl := candidate_ext hd hc hpos
    rw [hfix]
    exact Option.some_ne_none _

/-- The naive search tries what is not above the fix that it gives. -/
theorem tries_naive_iff (h : p.Modest) (hr : (p.locate .naive t).result = .ok r) :
    p.Tries .naive t c ↔ c ∈ p.candidates ∧ c.position ≤ r.position := by
  have hlow := lowest_naive h t
  rw [best_of_repair h hr] at hlow
  obtain ⟨hmem, hfix, hmin⟩ := hlow
  rw [tries_iff, mem_order_naive_iff]
  refine and_congr_right fun hc => ?_
  constructor
  · intro hfixes
    by_contra hnot
    have habove : r.position < c.position := Nat.lt_of_not_le hnot
    have hgives := hfixes _ (mem_order_naive_iff.mpr hmem) habove (by simp [hfix])
    exact Nat.lt_asymm habove hgives.2
  · intro hle d hd hturn hne
    have hbelow : d.position < c.position := hturn
    have hfirst := hmin d (mem_order_naive_iff.mp hd) hne
    exact absurd (Nat.lt_of_le_of_lt hfirst hbelow) (Nat.not_lt_of_le hle)

/-- The branching search tries what it comes to on the path before every fix that
it would have to give way to. -/
theorem tries_speculative_iff (hc : c ∈ p.candidates) :
    p.Tries .speculative t c ↔ ∃ j : Nat, (executed p.baseWalk.steps)[j]? = some (c.position : Int) ∧
      ∀ i < j, ∀ (m : Nat) a, (executed p.baseWalk.steps)[i]? = some (m : Int) →
        p.EndsFlipped m a → t = .lowestIndex ∧ c.position < m := by
  rw [tries_iff, mem_order_speculative_iff, and_iff_right hc]
  constructor
  · rintro ⟨hx, hfixes⟩
    refine ⟨p.place c.position, getElem?_place hx, ?_⟩
    intro i hi m a hm hends
    obtain ⟨d, hd, rfl, hfix⟩ := endsFlipped_iff.mp hends
    have hturn : p.place d.position < p.place c.position := by rwa [place_of_getElem? hm]
    have horder := mem_order_speculative_iff.mpr ⟨hd, List.mem_of_getElem? hm⟩
    exact hfixes d horder hturn (by simp [hfix])
  · rintro ⟨j, hj, hfixes⟩
    refine ⟨List.mem_of_getElem? hj, ?_⟩
    intro d hd hturn hne
    obtain ⟨hdmem, hdx⟩ := mem_order_speculative_iff.mp hd
    obtain ⟨a, hends⟩ := (fix?_ne_none_iff hdmem).mp hne
    have hplace : p.place d.position < j := by
      rw [← place_of_getElem? hj]
      exact hturn
    exact hfixes _ hplace _ a (getElem?_place hdx) hends

theorem tested_iff (h : p.Modest) (hr : (p.locate s t).result = .ok r) :
    s.Tested p t r.position n ↔ ∃ c, p.Tries s t c ∧ c.position = n := by
  have hflippable : ∀ {c : Candidate}, p.Tries s t c → c ∈ p.candidates := by
    intro c hc
    obtain ⟨u, hu, rfl⟩ := List.mem_map.mp (mem_madeBy_iff.mpr hc)
    exact mem_candidates_of_trial (mem_trials_of_made hu)
  constructor
  · intro htested
    cases s with
    | naive =>
      obtain ⟨hflip, hle⟩ := htested
      obtain ⟨c, hc, rfl⟩ := flippable_iff.mp hflip
      exact ⟨c, (tries_naive_iff h hr).mpr ⟨hc, hle⟩, rfl⟩
    | speculative =>
      obtain ⟨hflip, hfixes⟩ := htested
      obtain ⟨c, hc, rfl⟩ := flippable_iff.mp hflip
      exact ⟨c, (tries_speculative_iff hc).mpr hfixes, rfl⟩
  · rintro ⟨c, htries, rfl⟩
    have hc := hflippable htries
    have hflip : p.Flippable c.position := flippable_iff.mpr ⟨c, hc, rfl⟩
    cases s with
    | naive => exact ⟨hflip, ((tries_naive_iff h hr).mp htries).2⟩
    | speculative => exact ⟨hflip, (tries_speculative_iff hc).mp htries⟩

/-- The positions come up turn by turn, so no search comes to one of them twice. -/
theorem nodup_tested (p : Program) (s : Strategy) (t : TieBreak) :
    ((p.madeBy s t).map fun u => u.candidate.position).Nodup := by
  have horder := pairwise_order p s
  rw [Program.order, List.pairwise_map] at horder
  apply List.pairwise_map.mpr
  apply (horder.sublist (made_sublist _ _ _)).imp
  intro u v hturn heq
  rw [heq] at hturn
  exact Nat.lt_irrefl _ hturn

/-- The costs that a repair tells are exact. The unmodified run loops after `k`
steps, and there is one trial, which is one more run, for each of the positions
that are tested. As many flips leave the program as the repair says, and its
steps are those `k` and, for each position that is tested, the steps of the run
from the start with its flip. The branching search does not take those again that
the unmodified run takes before it comes to the position. -/
theorem the_costs_of_a_repair_are_exact (p : Program) (s : Strategy) (t : TieBreak) (r : Repair)
    (h : p.Modest) (hr : (p.locate s t).result = .ok r) :
    ∃ a x k, p.run none {} = .ok ⟨.looped a x, k⟩ ∧
      ∃ tested : List Nat, tested.Nodup ∧ (∀ n, n ∈ tested ↔ s.Tested p t r.position n) ∧
        r.stats.Exact p s k tested := by
  obtain ⟨⟨a, x, hloop⟩, _⟩ := fix_of_repair h hr
  refine ⟨a, x, p.baseWalk.steps.length, run_eq_ok_iff.mpr ⟨hloop, rfl⟩, _, nodup_tested p s t,
    ?_, ?_⟩
  · intro n
    rw [tested_iff h hr, List.mem_map]
    constructor
    · rintro ⟨u, hu, rfl⟩
      exact ⟨u.candidate, mem_madeBy_iff.mp (List.mem_map_of_mem hu), rfl⟩
    · rintro ⟨c, htries, rfl⟩
      obtain ⟨u, hu, rfl⟩ := List.mem_map.mp (mem_madeBy_iff.mpr htries)
      exact ⟨u, hu, rfl⟩
  · rw [stats_of_repair h hr]
    exact exact_progress h s t

/-- The flip of the first jump leaves the program after two steps, and the flip of
the jump that comes after it on the path ends it after three. The branching search
takes but the last two of these, and it does not try the lower fix. -/
theorem the_first_of_two_fixes_is_told_at_its_costs :
    let p : Program :=
      ⟨[⟨.jmp, 4⟩, ⟨.jmp, -2⟩, ⟨.jmp, -2⟩, ⟨.jmp, 3⟩, ⟨.jmp, -2⟩, ⟨.acc, 1⟩], by decide +kernel⟩
    let r : Repair :=
      ⟨⟨⟨4, ⟨.jmp, -2⟩, ⟨.nop, -2⟩⟩, 1⟩, .speculative, .executionOrder, ⟨3, 7, 2, 1⟩⟩
    p.Modest ∧ (p.locate .speculative .executionOrder).result = .ok r ∧
      p.leavesFlipped 0 = true ∧ p.flippedSteps 0 = 2 ∧ p.flippedSteps 4 = 3 ∧ p.place 4 = 1 ∧
      ∃ tested : List Nat, tested.Nodup ∧ tested.length = 2 ∧
        (∀ n, n ∈ tested ↔ Strategy.speculative.Tested p .executionOrder 4 n) ∧
        r.stats.Exact p .speculative 3 tested := by
  intro p r
  have hmodest : p.Modest := by decide +kernel
  have hr : (p.locate .speculative .executionOrder).result = .ok r := by decide +kernel
  have hrun : p.run none {} = .ok ⟨.looped 0 0, 3⟩ := by decide +kernel
  obtain ⟨a, x, k, hloop, tested, hnodup, htested, hexact⟩ :=
    the_costs_of_a_repair_are_exact p .speculative .executionOrder r hmodest hr
  rw [hrun] at hloop
  cases hloop
  exact ⟨hmodest, hr, by decide +kernel, by decide +kernel, by decide +kernel, by decide +kernel,
    tested, hnodup, hexact.tried.symm, htested, hexact⟩

end

end Unloop

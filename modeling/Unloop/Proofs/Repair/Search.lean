-- The laws of the search. A trial either finds the fix that its candidate is or
-- rejects it, unless its flip leads too far to be told, which stops the search.
-- In a modest program nothing leads too far, so a search of one gives the fault
-- of the unmodified run if that run does not loop, and else the fix that is
-- best in the end.
import Unloop.Proofs.Repair.Fixes
import Mathlib.Data.List.Induction

namespace Unloop

open Number
open Program (Candidate)

/-! ## The pure model -/

/-- One turn of the search: a candidate that is wanted in view of the best fix
takes its place, if it is a fix. -/
def Program.pick (p : Program) (wanted : Option Fix → Candidate → Bool) (best : Option Fix)
    (c : Candidate) : Option Fix :=
  if wanted best c then (p.fix? c).or best else best

/-- The progress of a search when all trials are made. -/
def Program.progress (p : Program) : Strategy → TieBreak → Progress
  | .naive, _ => (Progress.afterBase p).sweep p (fun best _ => best.isNone) p.freshTrials
  | .speculative, t => (Progress.afterBase p).sweep p t.wants p.baseWalk.branches

/-- No candidate below the best fix is a fix, and none at all where there is no
best fix. -/
def Program.Lowest (p : Program) (cs : List Candidate) : Option Fix → Prop
  | none => ∀ c ∈ cs, p.fix? c = none
  | some f => f.candidate ∈ cs ∧ p.fix? f.candidate = some f ∧
      ∀ c ∈ cs, p.fix? c ≠ none → f.candidate.position ≤ c.position

/-- The run stops outside the program. -/
def Stop.isOutside : Stop → Bool
  | .outside _ => true
  | .ending _ => false

/-- The event of a candidate that is rejected. -/
def Program.rejection? (p : Program) (c : Candidate) : Option Event :=
  match (p.flipWalk c).stop with
  | .ending (.terminated _) => none
  | .ending (.looped _ x) => some (.loops c.position x)
  | .outside x => some (.leaves c.position x)

/-- The flip of a candidate leaves the program for a position that its failure
cannot tell. -/
def Program.LeavesTooFar (p : Program) (c : Candidate) : Prop :=
  ∃ x, (p.flipWalk c).stop = .outside x ∧ (Failure.outside x p.length).isWritable = false

/-- Among the candidates there is one that leads too far and that is wanted when
its turn comes. -/
def Program.Meets (p : Program) (wanted : Option Fix → Candidate → Bool) (cs : List Candidate) :
    Prop :=
  ∃ before c after, cs = before ++ c :: after ∧
    wanted (before.foldl (p.pick wanted) none) c = true ∧ p.LeavesTooFar c

/-- The failure of a program that ends as it is. -/
def Failure.ends (a : Int) : Failure :=
  .alreadyEnds ("program terminates unmodified with accumulator " ++ numberText a)

section

variable {p : Program} {wanted : Option Fix → Candidate → Bool} {g : Progress} {t : Trial}
  {ts : List Trial} {best : Option Fix} {f : Fix} {c : Candidate} {cs ds : List Candidate}

/-! ## Trials -/

/-- A trial is judged by its candidate alone, if its flip does not lead too far.
Only the steps that are counted depend on where it starts. -/
theorem make_of_told (ht : t.Faithful p) (hnear : ¬ p.LeavesTooFar t.candidate) :
    g.make p t =
      { stats :=
          { runs := g.stats.runs + 1
            steps := g.stats.steps + (p.walk (some t.candidate.patch) t.start).steps.length
            tried := g.stats.tried + 1
            outside := g.stats.outside + if (p.flipWalk t.candidate).stop.isOutside then 1 else 0 }
        log := g.log ++ (p.rejection? t.candidate).toList
        best := (p.fix? t.candidate).or g.best
        fault := g.fault } := by
  unfold Progress.make Program.rejection? Program.fix?
  simp only [stop_of_faithful ht]
  rcases hstop : (p.flipWalk t.candidate).stop with (a | ⟨a, x⟩) | x
  · simp [Progress.count, Stop.isOutside]
  · simp [Progress.count, Stop.isOutside]
  · have htold : (Failure.outside x p.length).isWritable = true := by
      by_contra hlong
      exact hnear ⟨x, hstop, by simpa using hlong⟩
    simp [Progress.count, Stop.isOutside, htold]

/-- A trial that leads too far stops the search. -/
theorem fault_make_of_untold (ht : t.Faithful p) (hfar : p.LeavesTooFar t.candidate) :
    (g.make p t).fault = some (.longNumber none) := by
  obtain ⟨x, hstop, hlong⟩ := hfar
  unfold Progress.make
  simp only [stop_of_faithful ht, hstop, hlong, Bool.false_eq_true, if_false]

theorem not_leavesTooFar (h : p.Modest) (hc : c ∈ p.candidates) : ¬ p.LeavesTooFar c := by
  rintro ⟨x, hstop, hlong⟩
  rw [isWritable_outside h (writable_of_outside h (covers_patch hc) hstop)] at hlong
  cases hlong

/-! ## Sweeps -/

theorem meets_append_singleton :
    p.Meets wanted (cs ++ [c]) ↔
      p.Meets wanted cs ∨
        wanted (cs.foldl (p.pick wanted) none) c = true ∧ p.LeavesTooFar c := by
  constructor
  · rintro ⟨before, d, after, hsplit, hw, hfar⟩
    rcases List.eq_nil_or_concat after with rfl | ⟨rest, e, rfl⟩
    · obtain ⟨rfl, hlast⟩ := List.append_inj' hsplit rfl
      cases hlast
      exact Or.inr ⟨hw, hfar⟩
    · rw [List.concat_eq_append, ← List.cons_append, ← List.append_assoc] at hsplit
      obtain ⟨hcs, _⟩ := List.append_inj' hsplit rfl
      exact Or.inl ⟨before, d, rest, hcs, hw, hfar⟩
  · rintro (⟨before, d, after, rfl, hw, hfar⟩ | ⟨hw, hfar⟩)
    · exact ⟨before, d, after ++ [c], by simp, hw, hfar⟩
    · exact ⟨cs, c, [], rfl, hw, hfar⟩

theorem not_meets (h : p.Modest) (hcs : ∀ c ∈ cs, c ∈ p.candidates) : ¬ p.Meets wanted cs := by
  rintro ⟨before, c, after, rfl, _, hfar⟩
  exact not_leavesTooFar h (hcs c (by simp)) hfar

/-- A sweep is stopped exactly by a trial that it makes and that leads too far.
Otherwise its best fix is the one that the candidates alone decide. -/
theorem sweep_of_faithful (ht : ∀ t ∈ ts, t.Faithful p) (hbest : g.best = none)
    (hg : g.fault = none) :
    (p.Meets wanted (ts.map Trial.candidate) →
      (g.sweep p wanted ts).fault = some (.longNumber none)) ∧
    (¬ p.Meets wanted (ts.map Trial.candidate) →
      (g.sweep p wanted ts).best = (ts.map Trial.candidate).foldl (p.pick wanted) none ∧
        (g.sweep p wanted ts).fault = none) := by
  -- from the end, since a trial is made in view of the trials before it
  induction ts using List.reverseRecOn with
  | nil =>
    refine ⟨?_, fun _ => ⟨hbest, hg⟩⟩
    rintro ⟨before, c, after, hsplit, _⟩
    simp at hsplit
  | append_singleton ts t ih =>
    obtain ⟨hmet, hunmet⟩ := ih fun u hu => ht u (List.mem_append_left _ hu)
    have htf := ht t (by simp)
    have hstep : g.sweep p wanted (ts ++ [t]) =
        if (g.sweep p wanted ts).fault.isNone && wanted (g.sweep p wanted ts).best t.candidate then
          (g.sweep p wanted ts).make p t
        else g.sweep p wanted ts := by
      unfold Progress.sweep
      rw [List.foldl_append, List.foldl_cons, List.foldl_nil]
    rw [hstep, List.map_append, List.map_cons, List.map_nil, meets_append_singleton,
      List.foldl_append, List.foldl_cons, List.foldl_nil]
    by_cases hm : p.Meets wanted (ts.map Trial.candidate)
    · rw [hmet hm]
      exact ⟨fun _ => hmet hm, fun hno => absurd (Or.inl hm) hno⟩
    · obtain ⟨hb, hf⟩ := hunmet hm
      rw [hf, ← hb, Option.isNone_none, Bool.true_and]
      unfold Program.pick
      by_cases hw : wanted (g.sweep p wanted ts).best t.candidate = true
      · rw [if_pos hw, if_pos hw]
        refine ⟨?_, ?_⟩
        · rintro (hm' | ⟨_, hfar⟩)
          · exact absurd hm' hm
          · exact fault_make_of_untold htf hfar
        · intro hno
          rw [← hf]
          rw [make_of_told htf fun hfar => hno (Or.inr ⟨hw, hfar⟩)]
          exact ⟨rfl, rfl⟩
      · rw [if_neg hw, if_neg hw]
        refine ⟨?_, fun _ => ⟨rfl, hf⟩⟩
        rintro (hm' | ⟨hw', _⟩)
        · exact absurd hm' hm
        · exact absurd hw' hw

theorem map_candidate_freshTrials (p : Program) :
    p.freshTrials.map Trial.candidate = p.candidates := by
  rw [Program.freshTrials, List.map_map]
  exact List.map_id _

theorem mem_candidates_of_branch (hc : c ∈ p.baseWalk.branches.map Trial.candidate) :
    c ∈ p.candidates := by
  obtain ⟨t, ht, rfl⟩ := List.mem_map.mp hc
  exact (mem_branches.mp ht).1

theorem progress_naive (h : p.Modest) (t : TieBreak) :
    (p.progress .naive t).best = p.candidates.foldl (p.pick fun best _ => best.isNone) none ∧
      (p.progress .naive t).fault = none := by
  rw [← map_candidate_freshTrials]
  apply (sweep_of_faithful (fun _ => faithful_freshTrials) rfl rfl).2
  rw [map_candidate_freshTrials]
  exact not_meets h fun _ hc => hc

theorem progress_speculative (h : p.Modest) (t : TieBreak) :
    (p.progress .speculative t).best =
        (p.baseWalk.branches.map Trial.candidate).foldl (p.pick t.wants) none ∧
      (p.progress .speculative t).fault = none :=
  (sweep_of_faithful (fun _ => faithful_branches) rfl rfl).2
    (not_meets h fun _ => mem_candidates_of_branch)

/-! ## The best fix -/

/-- The best fix in the end is a fix of one of the candidates. -/
theorem fix_of_foldl_pick (h : cs.foldl (p.pick wanted) best = some f) :
    best = some f ∨ f.candidate ∈ cs ∧ p.fix? f.candidate = some f := by
  induction cs generalizing best with
  | nil => exact Or.inl h
  | cons c cs ih =>
    rcases ih h with hpick | ⟨hmem, hfix⟩
    · unfold Program.pick at hpick
      split at hpick
      · rcases Option.or_eq_some_iff.mp hpick with hfix | ⟨_, hbest⟩
        · obtain ⟨hc, _⟩ := fix?_eq_some_iff.mp hfix
          exact Or.inr ⟨by simp [hc], hc ▸ hfix⟩
        · exact Or.inl hbest
      · exact Or.inl hpick
    · exact Or.inr ⟨List.mem_cons_of_mem _ hmem, hfix⟩

/-- A candidate that is no fix, or is not below the best one, changes nothing. -/
theorem lowest_of_passed (h : p.Lowest cs best)
    (hc : p.fix? c = none ∨ ∃ f, best = some f ∧ f.candidate.position ≤ c.position) :
    p.Lowest (cs ++ [c]) best := by
  rcases best with _ | f
  · intro d hd
    rcases List.mem_append.mp hd with hd | hd
    · exact h d hd
    · obtain rfl := List.mem_singleton.mp hd
      rcases hc with hc | ⟨f, hf, _⟩
      · exact hc
      · cases hf
  · obtain ⟨hmem, hfix, hlow⟩ := h
    refine ⟨List.mem_append_left _ hmem, hfix, ?_⟩
    intro d hd hne
    rcases List.mem_append.mp hd with hd | hd
    · exact hlow d hd hne
    · obtain rfl := List.mem_singleton.mp hd
      rcases hc with hc | ⟨f', hf', hle⟩
      · exact absurd hc hne
      · cases hf'
        exact hle

/-- A fix below the best one takes its place. -/
theorem lowest_of_found (h : p.Lowest cs best) (hf : p.fix? c = some f)
    (hbelow : ∀ f', best = some f' → c.position ≤ f'.candidate.position) :
    p.Lowest (cs ++ [c]) (some f) := by
  obtain ⟨hc, _⟩ := fix?_eq_some_iff.mp hf
  subst hc
  refine ⟨by simp, hf, ?_⟩
  intro d hd hne
  rcases List.mem_append.mp hd with hd | hd
  · rcases best with _ | f'
    · exact absurd (h d hd) hne
    · exact Nat.le_trans (hbelow f' rfl) (h.2.2 d hd hne)
  · exact Nat.le_of_eq (by rw [List.mem_singleton.mp hd])

/-- One turn keeps the best fix the lowest, if it passes over no candidate
below the best fix and wants none above it. -/
theorem lowest_pick (h : p.Lowest cs best) (hnone : wanted none c = true)
    (hpass : ∀ f, best = some f → wanted best c = false → f.candidate.position ≤ c.position)
    (hbelow : ∀ f, best = some f → wanted best c = true → c.position ≤ f.candidate.position) :
    p.Lowest (cs ++ [c]) (p.pick wanted best c) := by
  unfold Program.pick
  by_cases hw : wanted best c = true
  · rw [if_pos hw]
    rcases hfix : p.fix? c with _ | f
    · rw [Option.none_or]
      exact lowest_of_passed h (Or.inl hfix)
    · exact lowest_of_found h hfix fun f' hf' => hbelow f' hf' hw
  · rw [if_neg hw]
    rcases best with _ | f
    · exact absurd hnone hw
    · exact lowest_of_passed h (Or.inr ⟨f, rfl, hpass f rfl (by simpa using hw)⟩)

/-- The naive search keeps the lowest fix, since it goes upwards and stops at
the first one. -/
theorem lowest_upwards (h : cs.Pairwise fun c d => c.position < d.position) :
    p.Lowest cs (cs.foldl (p.pick fun best _ => best.isNone) none) := by
  -- from the end, since a turn looks back at the candidates before it
  induction cs using List.reverseRecOn with
  | nil => intro c hc; cases hc
  | append_singleton cs c ih =>
    obtain ⟨hcs, _, hlast⟩ := List.pairwise_append.mp h
    have ih := ih hcs
    rw [List.foldl_append, List.foldl_cons, List.foldl_nil]
    apply lowest_pick ih rfl
    · intro f hf _
      rw [hf] at ih
      exact Nat.le_of_lt (hlast _ ih.1 c (by simp))
    · intro f hf hw
      rw [hf] at hw
      cases hw

/-- The branching search keeps the lowest fix in any order of the candidates,
since it passes over those alone that are not below the best fix. -/
theorem lowest_branching (p : Program) (cs : List Candidate) :
    p.Lowest cs (cs.foldl (p.pick TieBreak.lowestIndex.wants) none) := by
  induction cs using List.reverseRecOn with
  | nil => intro c hc; cases hc
  | append_singleton cs c ih =>
    rw [List.foldl_append, List.foldl_cons, List.foldl_nil]
    apply lowest_pick ih rfl
    · intro f hf hw
      simpa [hf, TieBreak.wants] using hw
    · intro f hf hw
      rw [hf] at hw
      simp only [TieBreak.wants, Bool.and_eq_true, decide_eq_true_eq] at hw
      exact Nat.le_of_lt hw.2

/-- Candidates that are no fixes do not matter for the lowest one. -/
theorem lowest_of_subset (h : p.Lowest cs best) (hsub : ∀ c ∈ cs, c ∈ ds)
    (hrest : ∀ c ∈ ds, c ∉ cs → p.fix? c = none) : p.Lowest ds best := by
  have hmem : ∀ c ∈ ds, p.fix? c ≠ none → c ∈ cs := by
    intro c hc hne
    by_contra hnot
    exact hne (hrest c hc hnot)
  rcases best with _ | f
  · intro c hc
    by_contra hne
    exact hne (h c (hmem c hc hne))
  · obtain ⟨hf, hfix, hlow⟩ := h
    exact ⟨hsub _ hf, hfix, fun c hc hne => hlow c (hmem c hc hne) hne⟩

end

/-! ## What a search gives -/

section

variable {p : Program} {s : Strategy} {t : TieBreak} {g : Progress} {best : Option Fix} {f : Fix}
  {r : Repair} {a x : Int}

theorem lowest_naive (h : p.Modest) (t : TieBreak) :
    p.Lowest p.candidates (p.progress .naive t).best := by
  rw [(progress_naive h t).1]
  exact lowest_upwards (pairwise_candidates p)

/-- The branching search of a looping program finds the lowest fix of all. -/
theorem lowest_speculative (h : p.Modest)
    (hloop : p.baseWalk.stop = .ending (.looped a x)) :
    p.Lowest p.candidates (p.progress .speculative .lowestIndex).best := by
  rw [(progress_speculative h .lowestIndex).1]
  apply lowest_of_subset (lowest_branching p _)
  · intro c hc
    obtain ⟨t, ht, rfl⟩ := List.mem_map.mp hc
    exact (mem_branches.mp ht).1
  · intro c hc hnot
    apply fix?_of_not_executed hloop
    intro hx
    obtain ⟨t, ht, rfl⟩ := branch_of_executed hc hx
    exact hnot (List.mem_map.mpr ⟨t, ht, rfl⟩)

/-- There is one lowest fix at most. -/
theorem lowest_unique {best' : Option Fix} (h : p.Lowest p.candidates best)
    (h' : p.Lowest p.candidates best') : best = best' := by
  rcases best with _ | f <;> rcases best' with _ | f'
  · rfl
  · obtain ⟨hmem', hfix', _⟩ := h'
    rw [h _ hmem'] at hfix'
    cases hfix'
  · obtain ⟨hmem, hfix, _⟩ := h
    rw [h' _ hmem] at hfix
    cases hfix
  · obtain ⟨hmem, hfix, hlow⟩ := h
    obtain ⟨hmem', hfix', hlow'⟩ := h'
    have hpos := Nat.le_antisymm (hlow _ hmem' (by simp [hfix'])) (hlow' _ hmem (by simp [hfix]))
    rw [candidate_ext hmem hmem' hpos, hfix'] at hfix
    exact hfix.symm

/-- Whatever the strategy and the tie break, the best fix in the end is a
candidate whose flip makes the program end. -/
theorem fix_of_progress (h : p.Modest) (hf : (p.progress s t).best = some f) :
    f.candidate ∈ p.candidates ∧ p.fix? f.candidate = some f := by
  cases s with
  | naive =>
    rw [(progress_naive h t).1] at hf
    rcases fix_of_foldl_pick hf with hnone | hfix
    · cases hnone
    · exact hfix
  | speculative =>
    rw [(progress_speculative h t).1] at hf
    rcases fix_of_foldl_pick hf with hnone | ⟨hmem, hfix⟩
    · cases hnone
    · obtain ⟨b, hb, hc⟩ := List.mem_map.mp hmem
      exact ⟨hc ▸ (mem_branches.mp hb).1, hfix⟩

theorem baseFault?_of_modest (h : p.Modest) :
    p.baseFault? =
      match p.baseWalk.stop with
      | .outside x => some (.failure (.outside x p.length))
      | .ending (.terminated a) => some (.failure (.ends a))
      | .ending (.looped ..) => none := by
  unfold Program.baseFault?
  rcases hstop : p.baseWalk.stop with (a | ⟨a, x⟩) | x
  · simp only [writeNumber_of_writable (writable_of_terminated h (covers_none p) hstop)]
    rfl
  · rfl
  · simp only [outside_of_modest h (writable_of_outside h (covers_none p) hstop)]

/-- The naive search runs the program as it is before it makes a trial. -/
theorem result_naive (t : TieBreak) (hc : p.candidates ≠ []) :
    (p.locate .naive t).result =
      match p.baseFault?.or (p.progress .naive t).fault with
      | some fault => .error fault
      | none => ((p.progress .naive t).found .naive t).result := by
  have hempty : p.candidates.isEmpty = false := by simpa using hc
  unfold Program.locate Program.progress
  rw [hempty]
  unfold Program.searchNaive
  rcases p.baseFault? with _ | fault
  · rw [Option.none_or]
    dsimp only
    rcases ((Progress.afterBase p).sweep p (fun best _ => best.isNone) p.freshTrials).fault with
      _ | fault <;> rfl
  · rfl

/-- The branching search makes its trials on the way through the program. -/
theorem result_speculative (t : TieBreak) (hc : p.candidates ≠ []) :
    (p.locate .speculative t).result =
      match (p.progress .speculative t).fault.or p.baseFault? with
      | some fault => .error fault
      | none => ((p.progress .speculative t).found .speculative t).result := by
  have hempty : p.candidates.isEmpty = false := by simpa using hc
  unfold Program.locate Program.progress
  rw [hempty]
  unfold Program.searchSpeculative
  dsimp only
  rcases ((Progress.afterBase p).sweep p t.wants p.baseWalk.branches).fault.or p.baseFault? with
    _ | fault <;> rfl

/-- Both searches of a modest program fail as the unmodified run does, and
else give the best fix. -/
theorem result_locate (h : p.Modest) (s : Strategy) (t : TieBreak) (hc : p.candidates ≠ []) :
    (p.locate s t).result =
      match p.baseFault? with
      | some fault => .error fault
      | none => ((p.progress s t).found s t).result := by
  cases s with
  | naive => rw [result_naive t hc, (progress_naive h t).2, Option.or_none]
  | speculative => rw [result_speculative t hc, (progress_speculative h t).2, Option.none_or]

theorem locate_of_outside (h : p.Modest) (hc : p.candidates ≠ [])
    (hstop : p.baseWalk.stop = .outside x) :
    (p.locate s t).result = .error (.failure (.outside x p.length)) := by
  rw [result_locate h s t hc, baseFault?_of_modest h, hstop]

theorem locate_of_terminated (h : p.Modest) (hc : p.candidates ≠ [])
    (hstop : p.baseWalk.stop = .ending (.terminated a)) :
    (p.locate s t).result = .error (.failure (.ends a)) := by
  rw [result_locate h s t hc, baseFault?_of_modest h, hstop]

theorem locate_of_looped (h : p.Modest) (hc : p.candidates ≠ [])
    (hstop : p.baseWalk.stop = .ending (.looped a x)) :
    (p.locate s t).result = ((p.progress s t).found s t).result := by
  rw [result_locate h s t hc, baseFault?_of_modest h, hstop]

theorem locate_without_candidates (hc : p.candidates = []) :
    (p.locate s t).result =
      .error (.failure (.noFix "program has no jmp or nop instruction to flip")) := by
  unfold Program.locate
  rw [hc]
  rfl

theorem found_of_none (h : g.best = none) : (g.found s t).result = .error g.noFix := by
  unfold Progress.found
  rw [h]

theorem found_of_some (h : g.best = some f) :
    (g.found s t).result = .ok ⟨f, s, t, g.stats⟩ := by
  unfold Progress.found
  rw [h]

theorem fix_of_found (h : (g.found s t).result = .ok r) : g.best = some r.fix := by
  rcases hbest : g.best with _ | f
  · rw [found_of_none hbest] at h
    cases h
  · rw [found_of_some hbest] at h
    cases h
    rfl

/-- A repair is given only for a program that loops, and for a candidate whose
flip makes it end. -/
theorem fix_of_repair (h : p.Modest) (hr : (p.locate s t).result = .ok r) :
    (∃ a x, p.baseWalk.stop = .ending (.looped a x)) ∧
      r.fix.candidate ∈ p.candidates ∧ p.fix? r.fix.candidate = some r.fix := by
  by_cases hc : p.candidates = []
  · rw [locate_without_candidates hc] at hr
    cases hr
  · rcases hstop : p.baseWalk.stop with (a | ⟨a, x⟩) | x
    · rw [locate_of_terminated h hc hstop] at hr
      cases hr
    · rw [locate_of_looped h hc hstop] at hr
      exact ⟨⟨a, x, rfl⟩, fix_of_progress h (fix_of_found hr)⟩
    · rw [locate_of_outside h hc hstop] at hr
      cases hr

theorem found_of_repair (h : p.Modest) (hr : (p.locate s t).result = .ok r) :
    ((p.progress s t).found s t).result = .ok r := by
  obtain ⟨⟨a, x, hloop⟩, hc, _⟩ := fix_of_repair h hr
  rwa [locate_of_looped h (List.ne_nil_of_mem hc) hloop] at hr

theorem best_of_repair (h : p.Modest) (hr : (p.locate s t).result = .ok r) :
    (p.progress s t).best = some r.fix :=
  fix_of_found (found_of_repair h hr)

end

end Unloop

-- The laws of fixes. A candidate is a fix when the run from the start ends
-- once it is flipped. A run that branches off at a candidate ends as the run
-- from the start does, and a candidate that a looping run never comes to is no
-- fix, so it is enough to branch.
import Unloop.Proofs.Machine.Patches
import Unloop.Proofs.Machine.Range
import Unloop.Repair.Search

namespace Unloop

open Program (Candidate)

/-- The run from the start with a candidate flipped. -/
def Program.flipWalk (p : Program) (c : Candidate) : Walk := p.walk (some c.patch) {}

/-- The fix that a candidate is, if its flip makes the program end. -/
def Program.fix? (p : Program) (c : Candidate) : Option Fix :=
  match (p.flipWalk c).stop with
  | .ending (.terminated a) => some ⟨c, a⟩
  | _ => none

/-- A trial of a candidate is a last part of the run from the start. -/
def Trial.Faithful (p : Program) (t : Trial) : Prop :=
  t.candidate ∈ p.candidates ∧
    ∃ ts, p.flipWalk t.candidate = (p.walk (some t.candidate.patch) t.start).prepend ts

section

variable {p q : Program} {c d : Candidate} {f : Fix} {t : Trial}

/-! ## Candidates -/

theorem mem_candidates :
    c ∈ p.candidates ↔
      p.instructions[c.position]? = some c.removed ∧ c.removed.flip? = some c.replacement := by
  unfold Program.candidates Program.candidateOf
  simp only [List.mem_filterMap, Prod.exists, List.mem_zipIdx_iff_getElem?, Option.map_eq_some_iff]
  constructor
  · rintro ⟨i, n, hi, j, hj, rfl⟩
    exact ⟨hi, hj⟩
  · rintro ⟨hi, hj⟩
    exact ⟨c.removed, c.position, hi, c.replacement, hj, rfl⟩

/-- The candidates stand in ascending order. -/
theorem pairwise_candidates (p : Program) :
    p.candidates.Pairwise fun c d => c.position < d.position := by
  unfold Program.candidates Program.candidateOf
  rw [List.pairwise_filterMap]
  have hpairs : p.instructions.zipIdx.Pairwise fun a b => a.2 < b.2 := by
    rw [← List.pairwise_map (f := Prod.snd) (R := (· < ·)), List.zipIdx_map_snd]
    exact List.pairwise_lt_range'
  apply hpairs.imp
  rintro ⟨i, n⟩ ⟨j, m⟩ hnm c hc d hd
  obtain ⟨_, _, rfl⟩ := Option.map_eq_some_iff.mp hc
  obtain ⟨_, _, rfl⟩ := Option.map_eq_some_iff.mp hd
  exact hnm

/-- There is one candidate at most at a position. -/
theorem candidate_ext (hc : c ∈ p.candidates) (hd : d ∈ p.candidates)
    (h : c.position = d.position) : c = d := by
  obtain ⟨hc1, hc2⟩ := mem_candidates.mp hc
  obtain ⟨hd1, hd2⟩ := mem_candidates.mp hd
  rw [h, hd1, Option.some.injEq] at hc1
  rw [← hc1, hd2, Option.some.injEq] at hc2
  obtain ⟨n, i, j⟩ := c
  obtain ⟨m, i', j'⟩ := d
  simp only at h hc1 hc2
  rw [h, hc1, hc2]

theorem candidates_eq_nil_iff : p.candidates = [] ↔ ∀ i ∈ p.instructions, i.op = .acc := by
  rw [List.eq_nil_iff_forall_not_mem]
  constructor
  · intro h i hi
    obtain ⟨n, hn⟩ := List.getElem?_of_mem hi
    apply Instruction.flip?_eq_none_iff.mp
    rw [Option.eq_none_iff_forall_ne_some]
    intro j hj
    exact h ⟨n, i, j⟩ (mem_candidates.mpr ⟨hn, hj⟩)
  · intro h c hc
    obtain ⟨hi, hj⟩ := mem_candidates.mp hc
    rw [Instruction.flip?_eq_none_iff.mpr (h _ (List.mem_of_getElem? hi))] at hj
    cases hj

theorem inside_of_mem_candidates (h : c ∈ p.candidates) : p.Inside c.position := by
  obtain ⟨hlt, _⟩ := List.getElem?_eq_some_iff.mp (mem_candidates.mp h).1
  exact ⟨by omega, by simpa [Program.length] using hlt⟩

theorem op_of_mem_candidates (h : c ∈ p.candidates) :
    c.removed.op = .jmp ∨ c.removed.op = .nop := by
  have hj := (mem_candidates.mp h).2
  rcases hop : c.removed.op with _ | _ | _
  · exact Or.inr rfl
  · rw [Instruction.flip?_eq_none_iff.mpr hop] at hj
    cases hj
  · exact Or.inl rfl

/-- A flip keeps the offset, so it offers no greater one than the program
has. -/
theorem covers_patch (h : c ∈ p.candidates) : p.Covers (some c.patch) := by
  obtain ⟨hi, hj⟩ := mem_candidates.mp h
  rintro q hq
  cases hq
  have hdelta : c.patch.instruction.delta = c.removed.delta := Instruction.delta_of_flip? hj
  rw [hdelta]
  exact natAbs_delta_le (List.mem_of_getElem? hi)

/-! ## Rebuilt programs -/

theorem writable_replacement (h : c ∈ p.candidates) : c.replacement.Writable := by
  obtain ⟨hi, hj⟩ := mem_candidates.mp h
  have hremoved := p.writable _ (List.mem_of_getElem? hi)
  unfold Instruction.Writable at *
  rwa [Instruction.delta_of_flip? hj]

/-- The program with a candidate flipped can be built. -/
theorem replace_candidate (h : c ∈ p.candidates) :
    ∃ q, p.replace c.position c.replacement = .ok q ∧
      q.instructions = p.instructions.set c.position c.replacement :=
  replace_of_inside (inside_of_mem_candidates h) (writable_replacement h)

/-- The program with a candidate flipped runs as the program with the flip laid
over it. -/
theorem walk_of_rebuilt (h : c ∈ p.candidates)
    (hq : q.instructions = p.instructions.set c.position c.replacement) :
    q.baseWalk = p.flipWalk c :=
  walk_of_replaced (inside_of_mem_candidates h) hq

theorem instructions_of_replace {x : Int} {i : Instruction} (hin : p.Inside x)
    (h : p.replace x i = .ok q) : q.instructions = p.instructions.set x.toNat i := by
  rw [Program.replace, Program.index?_of_inside hin] at h
  exact Program.instructions_of_ofList h

theorem flip_of_flip? {i j : Instruction} (h : i.flip? = some j) : i.flip = .ok j := by
  rw [Instruction.flip, h]

/-- Exactly the candidates can be flipped. -/
theorem flipAt_eq_ok_iff {n : Nat} :
    p.flipAt n = .ok q ↔ ∃ c ∈ p.candidates, c.position = n ∧ p.replace n c.replacement = .ok q := by
  unfold Program.flipAt
  rw [at?_natCast]
  constructor
  · intro h
    rcases hi : p.instructions[n]? with _ | i
    · rw [hi] at h
      cases h
    · rw [hi] at h
      rcases hj : i.flip? with _ | j
      · exfalso
        simp only [orFault, Instruction.flip, hj, bind, Except.bind] at h
        cases hw : i.write <;> simp [hw] at h
      · have h' : p.replace n j = .ok q := by
          simpa only [orFault, Instruction.flip, hj, bind, Except.bind] using h
        exact ⟨⟨n, i, j⟩, mem_candidates.mpr ⟨hi, hj⟩, rfl, h'⟩
  · rintro ⟨c, hc, rfl, h⟩
    obtain ⟨hi, hj⟩ := mem_candidates.mp hc
    rw [hi]
    simpa only [orFault, Instruction.flip, hj, bind, Except.bind] using h

/-! ## Fixes -/

theorem fix?_eq_some_iff :
    p.fix? c = some f ↔
      f.candidate = c ∧ (p.flipWalk c).stop = .ending (.terminated f.accumulator) := by
  unfold Program.fix?
  split
  · rename_i a hstop
    rw [hstop, Option.some.injEq]
    constructor
    · rintro rfl
      exact ⟨rfl, rfl⟩
    · rintro ⟨rfl, h⟩
      cases h
      rfl
  · rename_i hstop
    simp only [reduceCtorEq, false_iff, not_and]
    intro _ h
    exact hstop _ h

theorem fix?_eq_none_iff :
    p.fix? c = none ↔ ∀ a, (p.flipWalk c).stop ≠ .ending (.terminated a) := by
  rw [Option.eq_none_iff_forall_ne_some]
  constructor
  · intro h a hstop
    exact h ⟨c, a⟩ (fix?_eq_some_iff.mpr ⟨rfl, hstop⟩)
  · intro h f hf
    exact h _ (fix?_eq_some_iff.mp hf).2

/-- A candidate is a fix exactly when the program rebuilt with it ends. -/
theorem rebuilt_terminates_iff (hc : c ∈ p.candidates)
    (hq : q.instructions = p.instructions.set c.position c.replacement) {a : Int} :
    (∃ k, q.run none {} = .ok ⟨.terminated a, k⟩) ↔ p.fix? c = some ⟨c, a⟩ := by
  rw [fix?_eq_some_iff, ← walk_of_rebuilt hc hq]
  constructor
  · rintro ⟨k, hrun⟩
    exact ⟨rfl, (run_eq_ok_iff.mp hrun).1⟩
  · rintro ⟨_, hstop⟩
    exact ⟨_, run_eq_ok_iff.mpr ⟨hstop, rfl⟩⟩

/-! ## Trials -/

theorem faithful_freshTrials (h : t ∈ p.freshTrials) : t.Faithful p := by
  obtain ⟨c, hc, rfl⟩ := List.mem_map.mp h
  exact ⟨hc, [], rfl⟩

theorem stop_of_faithful (h : t.Faithful p) :
    (p.walk (some t.candidate.patch) t.start).stop = (p.flipWalk t.candidate).stop := by
  obtain ⟨_, ts, hts⟩ := h
  rw [hts, stop_prepend]

theorem mem_branches :
    t ∈ p.baseWalk.branches ↔ t.candidate ∈ p.candidates ∧
      t.start.position = t.candidate.position ∧ ∃ u ∈ p.baseWalk.steps, u.state = t.start := by
  have htakes : ∀ u ∈ p.baseWalk.steps,
      0 ≤ u.state.position ∧ p.instructions[u.state.position.toNat]? = some u.instruction := by
    intro u hu
    obtain ⟨⟨hin, _⟩, hi⟩ := takes_of_mem (path_walk p none {}) hu
    exact ⟨hin.1, at?_of_inside hin ▸ hi⟩
  unfold Walk.branches Program.candidateOf
  simp only [List.mem_filterMap, Option.map_eq_some_iff]
  constructor
  · rintro ⟨u, hu, c, ⟨j, hj, rfl⟩, rfl⟩
    obtain ⟨hlow, hi⟩ := htakes u hu
    exact ⟨mem_candidates.mpr ⟨hi, hj⟩, (Int.toNat_of_nonneg hlow).symm, u, hu, rfl⟩
  · rintro ⟨hc, hpos, u, hu, hstate⟩
    obtain ⟨hi, hj⟩ := mem_candidates.mp hc
    have hn : u.state.position.toNat = t.candidate.position := by
      rw [hstate, hpos, Int.toNat_natCast]
    have hremoved := (htakes u hu).2
    rw [hn, hi, Option.some.injEq] at hremoved
    refine ⟨u, hu, t.candidate, ⟨t.candidate.replacement, hremoved ▸ hj, ?_⟩, ?_⟩
    · rw [hn, ← hremoved]
    · rw [hstate]

/-- The run from the start with a flip follows the unmodified run until that comes
to the candidate. -/
theorem flipWalk_of_split {before rest : List Step} {u : Step}
    (hsteps : p.baseWalk.steps = before ++ u :: rest) (hpos : u.state.position = c.position) :
    p.flipWalk c = (p.walk (some c.patch) u.state).prepend before := by
  have hpath : p.Path none {} (before ++ u :: rest) p.baseWalk.last := hsteps ▸ path_walk p none {}
  have hnew := not_executed_before hpath
  rw [hpos] at hnew
  exact walk_of_unpatched_path (path_to_step hpath) hnew

/-- A branch goes on as the run from the start with the same flip does once it
has come to the candidate. -/
theorem faithful_branches (h : t ∈ p.baseWalk.branches) : t.Faithful p := by
  obtain ⟨hc, hpos, u, hu, hstate⟩ := mem_branches.mp h
  obtain ⟨before, rest, hsteps⟩ := List.append_of_mem hu
  rw [← hstate] at hpos
  exact ⟨hc, before, hstate ▸ flipWalk_of_split hsteps hpos⟩

theorem branch_of_executed (hc : c ∈ p.candidates)
    (hx : (c.position : Int) ∈ executed p.baseWalk.steps) :
    ∃ t ∈ p.baseWalk.branches, t.candidate = c := by
  obtain ⟨u, hu, hpos⟩ := mem_executed.mp hx
  exact ⟨⟨c, u.state⟩, mem_branches.mpr ⟨hc, hpos, u, hu, rfl⟩, rfl⟩

/-- A candidate that a looping run does not come to is no fix. -/
theorem fix?_of_not_executed {a x : Int} (hloop : p.baseWalk.stop = .ending (.looped a x))
    (hx : (c.position : Int) ∉ executed p.baseWalk.steps) : p.fix? c = none := by
  have hsame : p.flipWalk c = p.baseWalk := walk_of_not_executed hx
  rw [fix?_eq_none_iff, hsame, hloop]
  intro b h
  cases h

end

end Unloop

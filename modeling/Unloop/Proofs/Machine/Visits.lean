-- The laws of positions that count as visited from the start. Runs that differ in
-- these alone go the same way. The one with more of them finds a loop where it comes to
-- one that the other may still execute, and else it stops as the other does.
import Unloop.Proofs.Machine.Path
import Mathlib.Data.List.Basic

namespace Unloop

/-! ## The pure model -/

/-- Two states differ at most in where the run has been, and the second one has been
wherever the first one has. -/
structure State.Below (s t : State) : Prop where
  position : t.position = s.position
  accumulator : t.accumulator = s.accumulator
  visited : s.visited ⊆ t.visited

/-- A run from `t` goes the way of a run from `s`: to its end, or to a step of it at a
position that only `t` has visited, where it finds a loop. -/
inductive Walk.CutShort (s t : State) (w w' : Walk) : Prop
  | whole (path : executed w'.steps = executed w.steps) (stop : w'.stop = w.stop)
  | short (k : Nat) (u : Step) (came : w.steps[k]? = some u) (marked : u.state.position ∈ t.visited)
      (new : u.state.position ∉ s.visited) (path : executed w'.steps = (executed w.steps).take k)
      (stop : w'.stop = .ending (.looped u.state.accumulator u.state.position))

section

variable {p : Program} {patch : Option Patch} {s t : State} {i : Instruction}

theorem length_executed (ts : List Step) : (executed ts).length = ts.length := List.length_map _

/-! ## One step -/

theorem position_after_of_below (h : s.Below t) (i : Instruction) :
    (t.after i).position = (s.after i).position := by
  unfold State.after
  split <;> simp only [h.position]

theorem accumulator_after_of_below (h : s.Below t) (i : Instruction) :
    (t.after i).accumulator = (s.after i).accumulator := by
  unfold State.after
  split <;> simp only [State.mark, h.accumulator]

/-- An instruction leaves the two states with the same difference. -/
theorem below_after (h : s.Below t) (i : Instruction) : (s.after i).Below (t.after i) where
  position := position_after_of_below h i
  accumulator := accumulator_after_of_below h i
  visited := by
    intro y hy
    rw [visited_after, List.mem_insert_iff] at hy ⊢
    exact hy.imp (fun heq => heq.trans h.position.symm) (fun hold => h.visited hold)

theorem stopAt_of_below (h : s.Below t) : p.stopAt t = p.stopAt s := by
  unfold Program.stopAt
  rw [h.position, h.accumulator]

theorem effective_of_below (h : s.Below t) (hs : p.Inside s.position) (ht : p.Inside t.position) :
    p.effective patch t.position ht = p.effective patch s.position hs := by
  apply Option.some.inj
  rw [← p.effective?_eq patch _ ht, ← p.effective?_eq patch _ hs, h.position]

/-! ## Whole runs -/

theorem cutShort_cons {w w' : Walk} (h : s.Below t)
    (hw : Walk.CutShort (s.after i) (t.after i) w w') :
    Walk.CutShort s t (w.cons ⟨s, i⟩) (w'.cons ⟨t, i⟩) := by
  have hcons : ∀ ps, t.position :: ps = s.position :: ps := fun ps => by rw [h.position]
  cases hw with
  | whole path stop =>
    refine .whole ?_ stop
    change t.position :: executed w'.steps = s.position :: executed w.steps
    rw [path, hcons]
  | short k u came marked new path stop =>
    rw [visited_after, List.mem_insert_iff, h.position] at marked
    rw [visited_after, List.mem_insert_iff, not_or] at new
    refine .short (k + 1) u came (marked.resolve_left new.1) new.2 ?_ stop
    change t.position :: executed w'.steps = s.position :: (executed w.steps).take k
    rw [path, hcons]

/-- Runs from two such states go the same way, until the second one is cut short. -/
theorem cutShort_walk (p : Program) (patch : Option Patch) (s : State) :
    ∀ t, s.Below t → Walk.CutShort s t (p.walk patch s) (p.walk patch t) := by
  induction s using Program.walk.induct p patch with
  | case1 s hgo i ih =>
    intro t h
    have hin : p.Inside t.position := h.position ▸ hgo.1
    have hend : s.position ≠ p.length := fun hend => not_inside_length p (hend ▸ hgo.1)
    rw [Program.walk_of_continues hgo]
    -- the first run goes on here, the second one may have been here
    by_cases hnew : t.position ∈ t.visited
    · rw [Program.walk_of_not_continues fun hcontinues => hcontinues.2 hnew, stopAt_of_below h,
        Program.stopAt, if_neg hend, if_pos hgo.1]
      exact .short 0 _ rfl (h.position ▸ hnew) hgo.2 rfl rfl
    · rw [Program.walk_of_continues ⟨hin, hnew⟩, effective_of_below h hgo.1 hin]
      exact cutShort_cons h (ih _ (below_after h i))
  | case2 s hstop =>
    intro t h
    have hstop' : ¬ p.Continues t := by
      rintro ⟨hin, hnew⟩
      rw [h.position] at hin hnew
      exact hstop ⟨hin, fun hold => hnew (h.visited hold)⟩
    rw [Program.walk_of_not_continues hstop, Program.walk_of_not_continues hstop']
    exact .whole rfl (stopAt_of_below h)

/-- Marking more positions as visited can only cut a run short. The run with more of them
takes the same way as long as the other one and stops as it does, with the same result or
outside at the same position. Or it finds a loop on that way, at a position that is visited
for it alone, with the accumulator that the other run has when it comes there. So a run
that ends in spite of the marks ends in the same way without them. -/
theorem marking_positions_only_cuts_a_run_short (p : Program) (patch : Option Patch) (x a : Int)
    {visited more : List Int} (h : visited ⊆ more) :
    let s : State := ⟨x, a, visited⟩
    let t : State := ⟨x, a, more⟩
    let path := executed (p.walk patch s).steps
    (executed (p.walk patch t).steps = path ∧
        (p.walk patch t).steps.length = (p.walk patch s).steps.length ∧
        (p.walk patch t).stop = (p.walk patch s).stop ∧ p.run patch t = p.run patch s ∨
      ∃ k u, (p.walk patch s).steps[k]? = some u ∧ executed (p.walk patch t).steps = path.take k ∧
        u.state.position ∈ more ∧ u.state.position ∉ visited ∧
        p.run patch t = .ok ⟨.looped u.state.accumulator u.state.position, k⟩) ∧
    ∀ b k, p.run patch t = .ok ⟨.terminated b, k⟩ → p.run patch s = .ok ⟨.terminated b, k⟩ := by
  intro s t path
  cases cutShort_walk p patch s t ⟨rfl, rfl, h⟩ with
  | whole hpath hstop =>
    have hlength : (p.walk patch t).steps.length = (p.walk patch s).steps.length := by
      rw [← length_executed, hpath, length_executed]
    have hrun : p.run patch t = p.run patch s := by
      rw [Program.run, Walk.outcome, hstop, hlength]
      rfl
    exact ⟨Or.inl ⟨hpath, hlength, hstop, hrun⟩, fun b k hends => hrun.symm.trans hends⟩
  | short k u came marked new hpath hstop =>
    obtain ⟨hk, _⟩ := List.getElem?_eq_some_iff.mp came
    have hlength : (p.walk patch t).steps.length = k := by
      rw [← length_executed, hpath, List.length_take, length_executed, Nat.min_eq_left (by omega)]
    have hrun : p.run patch t = .ok ⟨.looped u.state.accumulator u.state.position, k⟩ :=
      run_eq_ok_iff.mpr ⟨hstop, hlength⟩
    refine ⟨Or.inr ⟨k, u, came, hpath, marked, new, hrun⟩, fun b j hends => ?_⟩
    cases hrun.symm.trans hends

/-- A run that would end is cut short before the last of its three steps. -/
theorem a_mark_cuts_a_run_short :
    let p : Program := ⟨[⟨.acc, 3⟩, ⟨.jmp, 2⟩, ⟨.acc, 1⟩, ⟨.nop, 0⟩], by decide +kernel⟩
    let s : State := ⟨0, 10, [2, 9]⟩
    let t : State := ⟨0, 10, [9, 3, 2, -1]⟩
    [2, 9] ⊆ ([9, 3, 2, -1] : List Int) ∧ p.run none s = .ok ⟨.terminated 13, 3⟩ ∧
      ∃ u, (p.walk none s).steps[2]? = some u ∧ u.state.position = 3 ∧
        p.run none t = .ok ⟨.looped u.state.accumulator 3, 2⟩ := by
  intro p s t
  have hsub : [2, 9] ⊆ ([9, 3, 2, -1] : List Int) := by decide
  have hends : p.run none s = .ok ⟨.terminated 13, 3⟩ := by decide +kernel
  have hloop : p.run none t = .ok ⟨.looped 13 3, 2⟩ := by decide +kernel
  refine ⟨hsub, hends, ?_⟩
  obtain ⟨⟨_, _, _, hsame⟩ | ⟨k, u, came, _, _, _, hcut⟩, _⟩ :=
    marking_positions_only_cuts_a_run_short p none 0 10 hsub
  · cases (hsame.trans hends).symm.trans hloop
  · have houtcome := Except.ok.inj (hcut.symm.trans hloop)
    obtain ⟨hending, rfl⟩ := Outcome.mk.inj houtcome
    obtain ⟨_, hposition⟩ := Ending.looped.inj hending
    exact ⟨u, came, hposition, hposition ▸ hcut⟩

end

end Unloop

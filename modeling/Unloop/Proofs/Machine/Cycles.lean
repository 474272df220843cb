-- The laws of cycle detection. The plain machine executes one instruction
-- after another and does not know where it has been. A run stops where the
-- plain machine leaves the program, and it is cut short at the first position
-- that comes back exactly when the plain machine would never leave.
import Unloop.Proofs.Machine.Path

namespace Unloop

/-! ## The plain machine -/

/-- Where the plain machine stands. -/
structure Spot where
  position : Int := 0
  accumulator : Int := 0

/-- The spot after an instruction. -/
def Spot.after (c : Spot) (i : Instruction) : Spot :=
  match i.op with
  | .nop => ⟨c.position + 1, c.accumulator⟩
  | .acc => ⟨c.position + 1, c.accumulator + i.delta⟩
  | .jmp => ⟨c.position + i.delta, c.accumulator⟩

/-- The spot of a state, which leaves out where the run has been. -/
def State.spot (s : State) : Spot := ⟨s.position, s.accumulator⟩

/-- One step of the plain machine, which it takes as long as its position is
inside the program. -/
def Program.advance? (p : Program) (patch : Option Patch) (c : Spot) : Option Spot :=
  if p.Inside c.position then (p.effective? patch c.position).map c.after else none

/-- Where the plain machine stands after `k` steps from the start, if it takes
so many. -/
def Program.spotAt? (p : Program) (patch : Option Patch) : Nat → Option Spot
  | 0 => some {}
  | k + 1 => (p.spotAt? patch k).bind (p.advance? patch)

/-- The plain machine is inside the program after any number of steps. -/
def Program.NeverLeaves (p : Program) (patch : Option Patch) : Prop :=
  ∀ k, ∃ c, p.spotAt? patch k = some c ∧ p.Inside c.position

/-- After `k` steps the plain machine is where it was before. -/
def Program.Revisits (p : Program) (patch : Option Patch) (k : Nat) : Prop :=
  ∃ j < k, ∃ c d, p.spotAt? patch j = some c ∧ p.spotAt? patch k = some d ∧
    c.position = d.position

section

variable {p : Program} {patch : Option Patch} {s last : State} {ts : List Step} {t : Step}
  {j k : Nat} {c d : Spot}

/-- The next position depends on the position alone. -/
theorem position_after (c d : Spot) (i : Instruction) (h : c.position = d.position) :
    (c.after i).position = (d.after i).position := by
  unfold Spot.after
  split <;> simp [h]

theorem spot_next (t : Step) : t.next.spot = t.state.spot.after t.instruction := by
  unfold Step.next State.after Spot.after
  rcases t.instruction.op <;> rfl

theorem advance?_of_takes (h : p.Takes patch t) :
    p.advance? patch t.state.spot = some t.next.spot := by
  have hin : p.Inside t.state.spot.position := h.1.1
  have hi : p.effective? patch t.state.spot.position = some t.instruction := h.2
  rw [Program.advance?, if_pos hin, hi, spot_next]
  rfl

theorem advance?_of_not_inside (h : ¬ p.Inside c.position) : p.advance? patch c = none := by
  rw [Program.advance?, if_neg h]

/-- Once it has left the program the plain machine takes no step any more. -/
theorem spotAt?_after_leaving (hc : p.spotAt? patch k = some c) (hout : ¬ p.Inside c.position)
    (h : k < j) : p.spotAt? patch j = none := by
  induction j with
  | zero => omega
  | succ j ih =>
    rw [Program.spotAt?]
    by_cases hkj : k = j
    · rw [← hkj, hc]
      exact advance?_of_not_inside hout
    · rw [ih (by omega)]
      rfl

/-- The plain machine leaves the program at most once. -/
theorem leaves_once (hc : p.spotAt? patch k = some c) (hcout : ¬ p.Inside c.position)
    (hd : p.spotAt? patch j = some d) (hdout : ¬ p.Inside d.position) : k = j ∧ c = d := by
  have hkj : k = j := by
    by_contra hne
    rcases Nat.lt_or_gt_of_ne hne with h | h
    · rw [spotAt?_after_leaving hc hcout h] at hd
      cases hd
    · rw [spotAt?_after_leaving hd hdout h] at hc
      cases hc
  subst hkj
  rw [hc, Option.some.injEq] at hd
  exact ⟨rfl, hd⟩

theorem not_neverLeaves (hc : p.spotAt? patch k = some c) (hout : ¬ p.Inside c.position) :
    ¬ p.NeverLeaves patch := by
  intro h
  obtain ⟨d, hd, hin⟩ := h k
  rw [hc, Option.some.injEq] at hd
  exact hout (hd ▸ hin)

/-! ## The plain machine along a run -/

/-- A path takes the plain machine along with it. -/
theorem spotAt?_of_path (h : p.Path patch s ts last) (hs : p.spotAt? patch k = some s.spot) :
    p.spotAt? patch (k + ts.length) = some last.spot := by
  induction ts generalizing s k with
  | nil =>
    obtain rfl : s = last := h
    exact hs
  | cons t ts ih =>
    obtain ⟨rfl, ht, hrest⟩ := h
    have hnext : p.spotAt? patch (k + 1) = some t.next.spot := by
      rw [Program.spotAt?, hs]
      exact advance?_of_takes ht
    rw [List.length_cons, Nat.add_comm ts.length 1, ← Nat.add_assoc]
    exact ih hrest hnext

theorem spotAt?_last (p : Program) (patch : Option Patch) :
    p.spotAt? patch (p.walk patch {}).steps.length = some (p.walk patch {}).last.spot := by
  have h := spotAt?_of_path (k := 0) (path_walk p patch {}) rfl
  rwa [Nat.zero_add] at h

/-- Before a run stops the plain machine is where the run is. -/
theorem spotAt?_of_getElem? (h : (p.walk patch {}).steps[j]? = some t) :
    p.spotAt? patch j = some t.state.spot := by
  obtain ⟨hj, rfl⟩ := List.getElem?_eq_some_iff.mp h
  have hpath := path_walk p patch {}
  rw [← List.take_append_drop j (p.walk patch {}).steps, List.drop_eq_getElem_cons hj] at hpath
  have h0 := spotAt?_of_path (k := 0) (path_to_step hpath) rfl
  rwa [Nat.zero_add, List.length_take, Nat.min_eq_left (Nat.le_of_lt hj)] at h0

/-- Before a run stops the plain machine has come to no position twice. -/
theorem not_revisits (h : k < (p.walk patch {}).steps.length) : ¬ p.Revisits patch k := by
  rintro ⟨j, hjk, c, d, hc, hd, heq⟩
  have hj : j < (p.walk patch {}).steps.length := Nat.lt_trans hjk h
  rw [spotAt?_of_getElem? (List.getElem?_eq_getElem hj), Option.some.injEq] at hc
  rw [spotAt?_of_getElem? (List.getElem?_eq_getElem h), Option.some.injEq] at hd
  subst hc hd
  have hnodup := (nodup_executed (path_walk p patch {})).1
  have hne := List.pairwise_iff_getElem.mp hnodup j k (by simpa [executed]) (by simpa [executed]) hjk
  simp only [executed, List.getElem_map] at hne
  exact hne heq

/-! ## Runs that loop -/

theorem mem_executed_of_looped (hin : p.Inside (p.walk patch {}).last.position) :
    (p.walk patch {}).last.position ∈ executed (p.walk patch {}).steps := by
  have hvisited : (p.walk patch {}).last.position ∈ (p.walk patch {}).last.visited := by
    by_contra hnew
    exact (stop_walk p patch {}).1 ⟨hin, hnew⟩
  rcases (mem_visited_of_path (path_walk p patch {}) _).mp hvisited with h | h
  · cases h
  · exact h

/-- After a step at a position that a looping run executes, the plain machine
is at such a position again. -/
theorem executed_closed (hin : p.Inside (p.walk patch {}).last.position)
    (ht : t ∈ (p.walk patch {}).steps) : t.next.position ∈ executed (p.walk patch {}).steps := by
  rcases next_of_mem (path_walk p patch {}) ht with h | ⟨u, hu, h⟩
  · rw [h]
    exact mem_executed_of_looped hin
  · exact mem_executed.mpr ⟨u, hu, by rw [h]⟩

/-- A run that loops keeps the plain machine among its own positions for good. -/
theorem spotAt?_of_looped (hin : p.Inside (p.walk patch {}).last.position) (k : Nat) :
    ∃ c, p.spotAt? patch k = some c ∧ c.position ∈ executed (p.walk patch {}).steps := by
  -- the accumulator is left free: after the first lap it is no longer that of the run
  induction k with
  | zero =>
    refine ⟨{}, rfl, ?_⟩
    have hmem := mem_executed_of_looped hin
    have hpath := path_walk p patch {}
    cases hsteps : (p.walk patch {}).steps with
    | nil => simp [hsteps, executed] at hmem
    | cons t ts =>
      rw [hsteps] at hpath
      exact mem_executed.mpr ⟨t, by simp, by rw [hpath.1]⟩
  | succ k ih =>
    obtain ⟨c, hc, hmem⟩ := ih
    obtain ⟨t, ht, hpos⟩ := mem_executed.mp hmem
    obtain ⟨hgo, hi⟩ := takes_of_mem (path_walk p patch {}) ht
    refine ⟨c.after t.instruction, ?_, ?_⟩
    · rw [Program.spotAt?, hc, Option.bind_some, Program.advance?, ← hpos, if_pos hgo.1, hi]
      rfl
    · have hnext := congrArg Spot.position (spot_next t)
      rw [position_after c t.state.spot _ hpos.symm, ← hnext]
      exact executed_closed hin ht

theorem neverLeaves_of_looped (hin : p.Inside (p.walk patch {}).last.position) :
    p.NeverLeaves patch := by
  intro k
  obtain ⟨c, hc, hmem⟩ := spotAt?_of_looped hin k
  obtain ⟨t, ht, hpos⟩ := mem_executed.mp hmem
  exact ⟨c, hc, hpos ▸ (takes_of_mem (path_walk p patch {}) ht).1.1⟩

theorem revisits_of_looped (hin : p.Inside (p.walk patch {}).last.position) :
    p.Revisits patch (p.walk patch {}).steps.length := by
  obtain ⟨t, ht, hpos⟩ := mem_executed.mp (mem_executed_of_looped hin)
  obtain ⟨j, hj⟩ := List.getElem?_of_mem ht
  obtain ⟨hlt, _⟩ := List.getElem?_eq_some_iff.mp hj
  exact ⟨j, hlt, _, _, spotAt?_of_getElem? hj, spotAt?_last p patch, hpos⟩

/-! ## The outcome of a run -/

/-- Where the plain machine leaves the program, the run stops. -/
theorem walk_of_leaving (hc : p.spotAt? patch k = some c) (hout : ¬ p.Inside c.position) :
    (p.walk patch {}).steps.length = k ∧ (p.walk patch {}).last.spot = c := by
  by_cases hin : p.Inside (p.walk patch {}).last.position
  · exact absurd (neverLeaves_of_looped hin) (not_neverLeaves hc hout)
  · exact leaves_once (spotAt?_last p patch) hin hc hout

/-- A run from the start ends at the end of the program exactly when the plain
machine comes there. -/
theorem run_terminates_iff (a : Int) (k : Nat) :
    p.run patch {} = .ok ⟨.terminated a, k⟩ ↔ p.spotAt? patch k = some ⟨p.length, a⟩ := by
  rw [run_eq_ok_iff, stop_eq_terminated_iff]
  constructor
  · rintro ⟨⟨hend, hacc⟩, rfl⟩
    rw [spotAt?_last, ← hend, ← hacc]
    rfl
  · intro hspot
    obtain ⟨hk, hc⟩ := walk_of_leaving hspot (not_inside_length p)
    exact ⟨⟨congrArg Spot.position hc, congrArg Spot.accumulator hc⟩, hk⟩

/-- A run from the start stops at a position outside exactly when the plain
machine comes there. -/
theorem run_leaves_iff (x : Int) :
    (p.walk patch {}).stop = .outside x ↔
      (x < 0 ∨ p.length < x) ∧ ∃ k a, p.spotAt? patch k = some ⟨x, a⟩ := by
  rw [stop_eq_outside_iff]
  constructor
  · rintro ⟨hoff, rfl⟩
    exact ⟨hoff, _, _, spotAt?_last p patch⟩
  · rintro ⟨hoff, k, a, hspot⟩
    have hout : ¬ p.Inside x := by
      unfold Program.Inside
      omega
    exact ⟨hoff, congrArg Spot.position (walk_of_leaving hspot hout).2⟩

/-- A run from the start loops exactly when the plain machine never leaves. -/
theorem run_loops_iff :
    (∃ a x k, p.run patch {} = .ok ⟨.looped a x, k⟩) ↔ p.NeverLeaves patch := by
  constructor
  · rintro ⟨a, x, k, h⟩
    exact neverLeaves_of_looped (stop_eq_looped_iff.mp (run_eq_ok_iff.mp h).1).1
  · intro hnever
    -- the machine is inside also where the run stops
    obtain ⟨c, hc, hin⟩ := hnever (p.walk patch {}).steps.length
    rw [spotAt?_last, Option.some.injEq] at hc
    subst hc
    exact ⟨_, _, _, run_eq_ok_iff.mpr ⟨stop_eq_looped_iff.mpr ⟨hin, rfl, rfl⟩, rfl⟩⟩

/-- A run that loops stops at the first position that comes back. -/
theorem first_revisit_of_run_loops {a x : Int} (h : p.run patch {} = .ok ⟨.looped a x, k⟩) :
    p.spotAt? patch k = some ⟨x, a⟩ ∧ p.Revisits patch k ∧ ∀ j < k, ¬ p.Revisits patch j := by
  obtain ⟨hstop, rfl⟩ := run_eq_ok_iff.mp h
  obtain ⟨hin, rfl, rfl⟩ := stop_eq_looped_iff.mp hstop
  exact ⟨spotAt?_last p patch, revisits_of_looped hin, fun j hj => not_revisits hj⟩

end

/-- Cycle detection is exact. A run terminates after as many steps as the
plain machine needs to come to the end for the first time, and with its
accumulator. It fails exactly where the plain machine comes to a position
outside. It loops exactly when the plain machine never leaves the program; it
then stops at the first position that comes back, as the plain machine stands
there. -/
theorem cycle_detection_is_exact (p : Program) (patch : Option Patch) :
    (∀ a k, p.run patch {} = .ok ⟨.terminated a, k⟩ ↔
      p.spotAt? patch k = some ⟨p.length, a⟩ ∧
        ∀ j < k, ∀ c, p.spotAt? patch j = some c → c.position ≠ p.length) ∧
    (∀ x, (p.walk patch {}).stop = .outside x ↔
      (x < 0 ∨ p.length < x) ∧ ∃ k a, p.spotAt? patch k = some ⟨x, a⟩) ∧
    (∀ fault, p.run patch {} = .error fault ↔
      ∃ x, fault = .outside p x ∧ (x < 0 ∨ p.length < x) ∧
        ∃ k a, p.spotAt? patch k = some ⟨x, a⟩) ∧
    ((∃ a x k, p.run patch {} = .ok ⟨.looped a x, k⟩) ↔ p.NeverLeaves patch) ∧
    ∀ a x k, p.run patch {} = .ok ⟨.looped a x, k⟩ →
      p.spotAt? patch k = some ⟨x, a⟩ ∧ p.Revisits patch k ∧ ∀ j < k, ¬ p.Revisits patch j := by
  refine ⟨?_, run_leaves_iff, ?_, run_loops_iff, fun a x k => first_revisit_of_run_loops⟩
  · intro a k
    rw [run_terminates_iff]
    refine ⟨fun h => ⟨h, ?_⟩, And.left⟩
    intro j hj c hc hend
    have hout : ¬ p.Inside c.position := fun hin => absurd hin.2 (by omega)
    rw [spotAt?_after_leaving hc hout hj] at h
    cases h
  · intro fault
    rw [run_eq_error_iff]
    constructor
    · rintro ⟨x, hstop, hfault⟩
      exact ⟨x, hfault, (run_leaves_iff x).mp hstop⟩
    · rintro ⟨x, hfault, hx⟩
      exact ⟨x, (run_leaves_iff x).mpr hx, hfault⟩

end Unloop

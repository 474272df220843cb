-- The laws of runs that agree. What a run does depends on the instructions that it
-- executes and on nothing else in the program, so a flip that it never comes to
-- changes nothing. A run that branches off from another one has the steps before in
-- common with the run from the start, and gives what that gives.
import Unloop.Proofs.Machine.Trace
import Unloop.Proofs.Repair.Fixes

namespace Unloop

/-! ## The pure model -/

/-- Looks whether the run stops and executes an instruction if it does not, `k` times
one after the other. Where a look stops the run before, it is not followed so far. -/
def Recorder.follow (p : Program) (patch : Option Patch) :
    Nat → Recorder → State → Option (Recorder × State)
  | 0, r, s => some (r, s)
  | k + 1, r, s =>
    match p.check s, r.execute p patch s with
    | none, (r, s, .ok ()) => follow p patch k r s
    | _, _ => none

/-- The outcome of a run that took `k` steps before. -/
def Outcome.later (o : Outcome) (k : Nat) : Outcome := { o with steps := k + o.steps }

/-- A program that counts in threes and comes back to its start. -/
def carousel : Program :=
  ⟨[⟨.acc, 3⟩, ⟨.jmp, 2⟩, ⟨.nop, 7⟩, ⟨.jmp, -3⟩, ⟨.acc, 4⟩], by decide +kernel⟩

section

variable {p q : Program} {patch : Option Patch} {s start mid : State} {r recorded : Recorder}
  {ts : List Step} {i : Instruction} {k n : Nat}

/-! ## Programs that agree -/

theorem effective?_of_at?_eq {x : Int} (h : q.at? x = p.at? x) :
    q.effective? patch x = p.effective? patch x := by
  unfold Program.effective?
  cases patch with
  | none => exact h
  | some o => rw [h]

theorem walk_of_at?_eq (hlen : q.length = p.length)
    (same : ∀ x ∈ executed (p.walk patch s).steps, q.at? x = p.at? x) :
    q.walk patch s = p.walk patch s :=
  walk_congr hlen fun x hx => effective?_of_at?_eq (same x hx)

/-- What a recorded run gives depends on the program by its length and the walk. -/
theorem recorded_of_walk_eq (hlen : q.length = p.length)
    (hwalk : q.walk patch s = p.walk patch s) (r : Recorder) :
    r.run q patch s = r.run p patch s := by
  unfold Recorder.run Walk.outcome Fault.outside
  rw [hwalk, hlen]

/-- The program with a flip differs from the program in no instruction that the run
executes, unless the run comes to the flip. -/
theorem walk_of_flipAt (hq : p.flipAt n = .ok q)
    (hnew : (n : Int) ∉ executed (p.walk none s).steps) :
    q.length = p.length ∧ q.walk none s = p.walk none s := by
  obtain ⟨c, hc, rfl, hreplace⟩ := flipAt_eq_ok_iff.mp hq
  have hin := inside_of_mem_candidates hc
  have hset := instructions_of_replace hin hreplace
  have hpatched : q.walk none s = p.walk (some c.patch) s := walk_of_replaced hin hset
  exact ⟨by simp [Program.length, hset], hpatched.trans (walk_of_not_executed hnew)⟩

/-- A run depends only on the instructions that it executes. If another program of
the same length has these too, its run takes the same steps: at the same positions in
the same order, with the same accumulators. It stops as the first run does, with the
same result after as many steps or outside at the same position, and a trace of it
tells the same. So a flip at a position that the run of a program does not execute
leaves that run as it is, in a program rebuilt with it as well as laid over. -/
theorem a_run_depends_only_on_what_it_executes (p : Program) (s : State) :
    (∀ (q : Program) (patch : Option Patch), q.length = p.length →
      (∀ x ∈ executed (p.walk patch s).steps, q.at? x = p.at? x) →
      q.walk patch s = p.walk patch s ∧ q.run patch s = p.run patch s ∧
        ∀ r : Recorder, r.run q patch s = r.run p patch s) ∧
    ∀ (n : Nat) (q : Program), p.flipAt n = .ok q →
      (n : Int) ∉ executed (p.walk none s).steps →
      q.walk none s = p.walk none s ∧ q.run none s = p.run none s ∧
        ∀ i, p.run (some ⟨n, i⟩) s = p.run none s := by
  constructor
  · intro q patch hlen same
    have hwalk := walk_of_at?_eq hlen same
    exact ⟨hwalk, run_of_walk_eq hlen hwalk, recorded_of_walk_eq hlen hwalk⟩
  · intro n q hq hnew
    obtain ⟨hlen, hwalk⟩ := walk_of_flipAt hq hnew
    refine ⟨hwalk, run_of_walk_eq hlen hwalk, fun i => ?_⟩
    exact run_of_walk_eq rfl (walk_of_not_executed hnew)

/-- The carousel does not come to its third instruction and to its last one. With
others there it goes the same way, and so it does with the third one flipped. -/
theorem the_carousel_does_not_mind_what_it_skips :
    let q : Program :=
      ⟨[⟨.acc, 3⟩, ⟨.jmp, 2⟩, ⟨.acc, 1⟩, ⟨.jmp, -3⟩, ⟨.jmp, -4⟩], by decide +kernel⟩
    q.length = carousel.length ∧ q ≠ carousel ∧
      carousel.run none ⟨1, 5, [4]⟩ = .ok ⟨.looped 8 1, 3⟩ ∧
      q.run none ⟨1, 5, [4]⟩ = .ok ⟨.looped 8 1, 3⟩ ∧
      ∃ flipped, carousel.flipAt (2 : Nat) = .ok flipped ∧ flipped ≠ carousel ∧
        flipped.run none ⟨1, 5, [4]⟩ = .ok ⟨.looped 8 1, 3⟩ := by
  intro q
  have hrun : carousel.run none ⟨1, 5, [4]⟩ = .ok ⟨.looped 8 1, 3⟩ := by decide +kernel
  obtain ⟨hsame, hflip⟩ := a_run_depends_only_on_what_it_executes carousel ⟨1, 5, [4]⟩
  obtain ⟨_, hq, _⟩ := hsame q none (by decide) (by decide +kernel)
  obtain ⟨_, hflipped, _⟩ := hflip 2
    ⟨[⟨.acc, 3⟩, ⟨.jmp, 2⟩, ⟨.jmp, 7⟩, ⟨.jmp, -3⟩, ⟨.acc, 4⟩], by decide +kernel⟩
    (by decide +kernel) (by decide +kernel)
  exact ⟨rfl, by decide, hrun, hq.trans hrun, _, by decide +kernel, by decide,
    hflipped.trans hrun⟩

/-! ## Branches -/

theorem continues_of_check (h : p.check s = none) : p.Continues s := by
  by_contra hstop
  rw [check_of_not_continues hstop] at h
  cases h

/-- A run that is followed for `k` turns has gone along a path of as many steps. -/
theorem path_of_follow (h : Recorder.follow p patch k r start = some (recorded, s)) :
    ∃ ts, p.Path patch start ts s ∧ ts.length = k := by
  induction k generalizing r start with
  | zero =>
    obtain ⟨rfl, rfl⟩ := Prod.mk.inj (Option.some.inj h)
    exact ⟨[], rfl, rfl⟩
  | succ k ih =>
    unfold Recorder.follow at h
    by_cases hgo : p.Continues start
    · rw [check_of_continues hgo, execute_of_continues hgo] at h
      obtain ⟨ts, hpath, rfl⟩ := ih h
      have htakes := p.effective?_eq patch start.position hgo.1
      exact ⟨⟨start, _⟩ :: ts, ⟨rfl, ⟨hgo, htakes⟩, hpath⟩, rfl⟩
    · rw [check_of_not_continues hgo] at h
      cases h

/-- Where a run stands and goes on, it has not executed the instruction before. -/
theorem not_executed_of_continues (h : p.Path patch start ts s) (hgo : p.Continues s) :
    s.position ∉ executed ts :=
  fun hx => hgo.2 ((mem_visited_of_path h _).mpr (Or.inr hx))

theorem outcome_prepend (w : Walk) (p : Program) :
    (w.prepend ts).outcome p = (w.outcome p).map fun o => o.later ts.length := by
  unfold Walk.outcome
  rw [stop_prepend]
  cases w.stop with
  | ending e => simp [Except.map, Walk.prepend, Outcome.later]
  | outside x => rfl

/-- A branch gives what the whole run gives. Let the program be followed as it is for
`k` turns, to a state where a look does not stop it. With any instruction laid over
the position of that state, the run from there stops as the run from the start does,
and in the same state: at the end or in a loop, with the same accumulator and the same
position, after `k` steps less, or outside at the same position and with the same
fault. It does not matter which recorders count the steps. -/
theorem a_branch_gives_what_the_whole_run_gives (p : Program) (k : Nat) (r r' recorded : Recorder)
    (s : State) (hreached : Recorder.follow p none k r {} = some (recorded, s))
    (hgo : p.check s = none) (i : Instruction) :
    let patch : Option Patch := some ⟨s.position, i⟩
    let (_, branchEnd, branch) := recorded.run p patch s
    let (_, wholeEnd, whole) := r'.run p patch {}
    whole = branch.map (fun o => o.later k) ∧ wholeEnd = branchEnd ∧
      (p.walk patch {}).stop = (p.walk patch s).stop := by
  intro patch
  obtain ⟨ts, hpath, rfl⟩ := path_of_follow hreached
  have hnew := not_executed_of_continues hpath (continues_of_check hgo)
  have hwalk : p.walk patch {} = (p.walk patch s).prepend ts := walk_of_unpatched_path hpath hnew
  simp only [Recorder.run]
  rw [hwalk]
  exact ⟨outcome_prepend _ p, rfl, rfl⟩

/-- Two steps into the carousel its last jump is flipped, which lets it end. -/
theorem a_branch_leaves_the_carousel :
    let s : State := ⟨3, 3, [1, 0]⟩
    let patch : Option Patch := some ⟨3, ⟨.nop, -3⟩⟩
    Recorder.follow carousel none 2 ⟨true, 5, []⟩ {} =
        some (⟨true, 7, [⟨6, 0, .acc, 3⟩, ⟨7, 1, .jmp, 3⟩]⟩, s) ∧
      carousel.check s = none ∧ carousel.run patch s = .ok ⟨.terminated 7, 2⟩ ∧
      carousel.run patch {} = .ok ⟨.terminated 7, 4⟩ := by
  intro s patch
  have hreached : Recorder.follow carousel none 2 ⟨true, 5, []⟩ {} =
      some (⟨true, 7, [⟨6, 0, .acc, 3⟩, ⟨7, 1, .jmp, 3⟩]⟩, s) := by decide +kernel
  have hgo : carousel.check s = none := by decide +kernel
  have hbranch : carousel.run patch s = .ok ⟨.terminated 7, 2⟩ := by decide +kernel
  obtain ⟨hwhole, _⟩ := a_branch_gives_what_the_whole_run_gives carousel 2 ⟨true, 5, []⟩ {} _ s
    hreached hgo ⟨.nop, -3⟩
  refine ⟨hreached, hgo, hbranch, hwhole.trans ?_⟩
  change (carousel.run patch s).map _ = _
  rw [hbranch]
  rfl

end

end Unloop

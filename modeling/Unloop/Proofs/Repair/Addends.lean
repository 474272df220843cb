-- What a search sees of a program. A run adds up, but no run and no search ever looks at
-- the sum. So both go on a program as they do on the program with nothing to add, and
-- programs that differ in their addends alone are searched alike.
import Unloop.Proofs.Repair.Costs
import Unloop.Proofs.Repair.Strategies

namespace Unloop

open Json Number
open Program (Candidate)

/-! ## The pure model -/

/-- The instruction without its addend. -/
def Instruction.bare (i : Instruction) : Instruction :=
  match i.op with
  | .acc => ⟨.acc, 0⟩
  | _ => i

/-- The state with nothing added up. -/
def State.bare (s : State) : State := { s with accumulator := 0 }

/-- The step without addends. -/
def Step.bare (t : Step) : Step := ⟨t.state.bare, t.instruction.bare⟩

/-- The stop with nothing added up. -/
def Stop.bare : Stop → Stop
  | .ending (.terminated _) => .ending (.terminated 0)
  | .ending (.looped _ x) => .ending (.looped 0 x)
  | .outside x => .outside x

/-- The run without addends. -/
def Walk.bare (w : Walk) : Walk := ⟨w.steps.map Step.bare, w.last.bare, w.stop.bare⟩

/-- The fix with nothing added up. -/
def Fix.bare (f : Fix) : Fix := { f with accumulator := 0 }

/-- The trial from a start with nothing added up. -/
def Trial.bare (t : Trial) : Trial := { t with start := t.start.bare }

/-- The progress without what the best fix adds up to. -/
def Progress.bare (g : Progress) : Progress := { g with best := g.best.map Fix.bare }

/-- Two programs have the same operations, and the same offsets where these lead the
run. What they add may differ. -/
def Program.SameButAddends (p q : Program) : Prop :=
  List.Forall₂ (fun i j => i.op = j.op ∧ (i.op ≠ .acc → i.delta = j.delta)) p.instructions
    q.instructions

/-- Two searches go alike: they give repairs of one position at the same costs, or
failures of the same kind, with the same position and length if the program is left. -/
inductive SearchedAlike : Except Fault Repair → Except Fault Repair → Prop
  | repaired {a b : Repair} (position : a.position = b.position) (removed : a.removed = b.removed)
      (replacement : a.replacement = b.replacement) (stats : a.stats = b.stats) :
      SearchedAlike (.ok a) (.ok b)
  | noFix (m : String) : SearchedAlike (.error (.failure (.noFix m))) (.error (.failure (.noFix m)))
  | alreadyEnds (m n : String) :
      SearchedAlike (.error (.failure (.alreadyEnds m))) (.error (.failure (.alreadyEnds n)))
  | outside (position length : Int) :
      SearchedAlike (.error (.failure (.outside position length)))
        (.error (.failure (.outside position length)))

section

variable {p q : Program} {patch : Option Patch} {s : State} {i j : Instruction} {w : Walk}
  {t : Trial} {ts : List Trial} {g : Progress} {wanted : Option Fix → Candidate → Bool} {n : Nat}
  {x : Int}

/-! ## Instructions and programs -/

theorem bare_of_ne_acc (h : i.op ≠ .acc) : i.bare = i := by
  obtain ⟨op, delta⟩ := i
  cases op with
  | acc => exact absurd rfl h
  | nop | jmp => rfl

theorem bare_of_acc (h : i.op = .acc) : i.bare = ⟨.acc, 0⟩ := by
  rw [Instruction.bare, h]

theorem writable_bare (h : i.Writable) : i.bare.Writable := by
  by_cases hop : i.op = .acc
  · rw [bare_of_acc hop]
    exact tenTo_pos digitLimit
  · rwa [bare_of_ne_acc hop]

/-- The program without its addends. -/
def Program.bare (p : Program) : Program where
  instructions := p.instructions.map Instruction.bare
  writable := List.forall_mem_map.mpr fun i hi => writable_bare (p.writable i hi)

@[simp]
theorem length_bare (p : Program) : p.bare.length = p.length := by
  simp [Program.length, Program.bare]

theorem bare_congr (hop : i.op = j.op) (hdelta : i.op ≠ .acc → i.delta = j.delta) :
    i.bare = j.bare := by
  by_cases hacc : i.op = .acc
  · rw [bare_of_acc hacc, bare_of_acc (hop ▸ hacc)]
  · rw [bare_of_ne_acc hacc, bare_of_ne_acc (hop ▸ hacc)]
    obtain ⟨op, delta⟩ := i
    obtain ⟨op', delta'⟩ := j
    exact congrArg₂ Instruction.mk hop (hdelta hacc)

/-- Programs that differ in their addends alone are one program without them. -/
theorem bare_eq_of_sameButAddends (h : p.SameButAddends q) : p.bare = q.bare := by
  have hsame : List.Forall₂ (· = ·) (p.instructions.map Instruction.bare)
      (q.instructions.map Instruction.bare) := by
    rw [List.forall₂_map_left_iff, List.forall₂_map_right_iff]
    exact h.imp fun _ _ hij => bare_congr hij.1 hij.2
  rw [List.forall₂_eq_eq_eq] at hsame
  simp only [Program.bare, hsame]

theorem index?_bare (p : Program) (x : Int) : p.bare.index? x = p.index? x := by
  simp only [Program.index?, inside_congr (length_bare p), length_bare]

theorem at?_bare (p : Program) (x : Int) : p.bare.at? x = (p.at? x).map Instruction.bare := by
  rw [Program.at?, Program.at?, index?_bare, Option.map_bind]
  simp only [Program.bare, List.getElem?_map]
  rfl

theorem effective?_bare (hpatch : Patch.AddsNothing patch) :
    p.bare.effective? patch x = (p.effective? patch x).map Instruction.bare := by
  unfold Program.effective?
  rcases patch with _ | u
  · exact at?_bare p x
  · dsimp only
    split
    · rw [Option.map_some, bare_of_ne_acc (hpatch u rfl)]
    · exact at?_bare p x

theorem effective_bare (hpatch : Patch.AddsNothing patch) (h : p.Inside x) (h' : p.bare.Inside x) :
    p.bare.effective patch x h' = (p.effective patch x h).bare := by
  apply Option.some.inj
  rw [← Program.effective?_eq, effective?_bare hpatch, Program.effective?_eq _ _ _ h, Option.map_some]

theorem candidateOf_bare (i : Instruction) (n : Nat) :
    Program.candidateOf i.bare n = Program.candidateOf i n := by
  by_cases hop : i.op = .acc
  · rw [bare_of_acc hop, Program.candidateOf, Program.candidateOf,
      Instruction.flip?_eq_none_iff.mpr hop]
    rfl
  · rw [bare_of_ne_acc hop]

theorem candidates_bare (p : Program) : p.bare.candidates = p.candidates := by
  simp only [Program.candidates, Program.bare, List.zipIdx_map, List.filterMap_map]
  exact List.filterMap_congr fun a _ => candidateOf_bare a.1 a.2

/-! ## Runs -/

theorem after_bare (s : State) (i : Instruction) : (s.after i).bare = s.bare.after i.bare := by
  obtain ⟨op, delta⟩ := i
  cases op <;> rfl

theorem stopAt_bare (p : Program) (s : State) : p.bare.stopAt s.bare = (p.stopAt s).bare := by
  rw [stopAt_congr (length_bare p)]
  simp only [Program.stopAt, apply_ite Stop.bare]
  rfl

/-- A run goes on in the bare program as it does in the program itself. -/
theorem walk_bare (hpatch : Patch.AddsNothing patch) :
    p.bare.walk patch s.bare = (p.walk patch s).bare := by
  induction s using Program.walk.induct p patch with
  | case1 s h i ih =>
    have hgo : p.bare.Continues s.bare := (continues_congr (length_bare p) s.bare).mpr h
    have hi : p.bare.effective patch s.bare.position hgo.1 = i.bare := effective_bare hpatch h.1 hgo.1
    rw [Program.walk_of_continues h, Program.walk_of_continues hgo, hi, ← after_bare, ih]
    rfl
  | case2 s h =>
    have hend : ¬ p.bare.Continues s.bare := mt (continues_congr (length_bare p) s.bare).mp h
    rw [Program.walk_of_not_continues h, Program.walk_of_not_continues hend, stopAt_bare]
    rfl

theorem baseWalk_bare (p : Program) : p.bare.baseWalk = p.baseWalk.bare :=
  walk_bare (s := {}) addsNothing_none

theorem branches_bare (w : Walk) : w.bare.branches = w.branches.map Trial.bare := by
  simp only [Walk.branches, Walk.bare, List.filterMap_map, List.map_filterMap]
  refine List.filterMap_congr fun t _ => ?_
  rw [Function.comp_apply, Step.bare, candidateOf_bare, Option.map_map]
  rfl

/-! ## Searches -/

/-- A trial is judged without a look at what it adds up. -/
theorem make_bare (hpatch : Patch.AddsNothing (some t.candidate.patch)) :
    g.bare.make p.bare t.bare = (g.make p t).bare := by
  have hwalk : p.bare.walk (some t.candidate.patch) t.start.bare =
      (p.walk (some t.candidate.patch) t.start).bare := walk_bare hpatch
  unfold Progress.make
  simp only [Trial.bare, hwalk, length_bare]
  rcases hstop : (p.walk (some t.candidate.patch) t.start).stop with (a | ⟨a, x⟩) | x
  · simp [Walk.bare, hstop, Stop.bare, Progress.bare, Progress.count, Fix.bare]
  · simp [Walk.bare, hstop, Stop.bare, Progress.bare, Progress.count]
  · simp only [Walk.bare, hstop, Stop.bare]
    split <;> simp [Progress.bare, Progress.count]

/-- A sweep goes on alike, if what it wants does not depend on what the best fix adds
up. -/
theorem sweep_bare (hwanted : ∀ best c, wanted (best.map Fix.bare) c = wanted best c)
    (hts : ∀ t ∈ ts, t.candidate ∈ p.candidates) :
    g.bare.sweep p.bare wanted (ts.map Trial.bare) = (g.sweep p wanted ts).bare := by
  unfold Progress.sweep
  induction ts generalizing g with
  | nil => rfl
  | cons t ts ih =>
    obtain ⟨ht, hts⟩ := List.forall_mem_cons.mp hts
    have hmake := make_bare (p := p) (g := g) (t := t) (addsNothing_of_mem_candidates ht)
    have hgoes : (g.bare.fault.isNone && wanted g.bare.best t.bare.candidate) =
        (g.fault.isNone && wanted g.best t.candidate) := by
      rw [show g.bare.best = g.best.map Fix.bare from rfl, hwanted]
      rfl
    rw [List.map_cons, List.foldl_cons, List.foldl_cons, hgoes, hmake, ← apply_ite Progress.bare,
      ih hts]

theorem afterBase_bare (p : Program) : Progress.afterBase p.bare = (Progress.afterBase p).bare := by
  simp [Progress.afterBase, baseWalk_bare, Walk.bare, Progress.bare]

theorem freshTrials_bare (p : Program) : p.bare.freshTrials = p.freshTrials.map Trial.bare := by
  rw [Program.freshTrials, candidates_bare, Program.freshTrials, List.map_map]
  rfl

/-- The search of the bare program makes the progress of the search of the program. -/
theorem progress_bare (p : Program) (s : Strategy) (t : TieBreak) :
    p.bare.progress s t = (p.progress s t).bare := by
  cases s with
  | naive =>
    simp only [Program.progress, afterBase_bare, freshTrials_bare]
    exact sweep_bare (fun best c => Option.isNone_map) fun t ht => (faithful_freshTrials ht).1
  | speculative =>
    simp only [Program.progress, afterBase_bare, baseWalk_bare, branches_bare]
    refine sweep_bare (fun best c => ?_) fun t ht => (mem_branches.mp ht).1
    cases best <;> rfl

end

/-! ## Searches of two programs -/

section

variable {p q : Program} {s : Strategy} {t : TieBreak} {g g' : Progress}

/-- What is found depends on nothing but the bare progress, up to what the fix adds up
to. -/
theorem searchedAlike_found (h : g.bare = g'.bare) (s : Strategy) (t : TieBreak) :
    SearchedAlike (g.found s t).result (g'.found s t).result := by
  have hstats : g.bare.stats = g'.bare.stats := congrArg Progress.stats h
  have hbest : g.bare.best = g'.bare.best := congrArg Progress.best h
  change g.stats = g'.stats at hstats
  change g.best.map Fix.bare = g'.best.map Fix.bare at hbest
  rcases hg : g.best with _ | f <;> rcases hg' : g'.best with _ | f' <;> rw [hg, hg'] at hbest
  · rw [found_of_none hg, found_of_none hg', Progress.noFix, Progress.noFix, hstats]
    exact .noFix _
  · cases hbest
  · cases hbest
  · have hfix : f.bare = f'.bare := Option.some.inj hbest
    have hcandidate : f.bare.candidate = f'.bare.candidate := congrArg Fix.candidate hfix
    rw [found_of_some hg, found_of_some hg']
    exact .repaired (congrArg Candidate.position hcandidate) (congrArg Candidate.removed hcandidate)
      (congrArg Candidate.replacement hcandidate) hstats

/-- What a program adds does not steer the search of it. For programs that differ in
their addends alone, every search gives a repair of one position with one replacement and
at the same costs, or a failure of one kind, with the same position if the program is
left. -/
theorem addends_do_not_steer_a_search (hp : p.Modest) (hq : q.Modest) (h : p.SameButAddends q)
    (s : Strategy) (t : TieBreak) :
    SearchedAlike (p.locate s t).result (q.locate s t).result := by
  have hbare := bare_eq_of_sameButAddends h
  have hlen : p.length = q.length := by rw [← length_bare p, hbare, length_bare]
  have hcandidates : p.candidates = q.candidates := by
    rw [← candidates_bare p, hbare, candidates_bare]
  have hstop : p.baseWalk.stop.bare = q.baseWalk.stop.bare := by
    change p.baseWalk.bare.stop = q.baseWalk.bare.stop
    rw [← baseWalk_bare p, hbare, baseWalk_bare]
  have hprogress : (p.progress s t).bare = (q.progress s t).bare := by
    rw [← progress_bare p, hbare, progress_bare]
  by_cases hc : p.candidates = []
  · rw [locate_without_candidates hc, locate_without_candidates (hcandidates ▸ hc)]
    exact .noFix _
  · have hc' : q.candidates ≠ [] := hcandidates ▸ hc
    -- the unmodified runs stop in one way, and with different sums at most
    rcases hps : p.baseWalk.stop with (a | ⟨a, x⟩) | x <;>
      rcases hqs : q.baseWalk.stop with (b | ⟨b, y⟩) | y <;> rw [hps, hqs] at hstop <;>
      try cases hstop
    · rw [locate_of_terminated hp hc hps, locate_of_terminated hq hc' hqs]
      exact .alreadyEnds _ _
    · rw [locate_of_looped hp hc hps, locate_of_looped hq hc' hqs]
      exact searchedAlike_found hprogress s t
    · rw [locate_of_outside hp hc hps, locate_of_outside hq hc' hqs, hlen]
      exact .outside _ _

/-- The program with two fixes, but that it subtracts at its end. -/
def twoSinkingFixes : Program :=
  ⟨[⟨.jmp, 4⟩, ⟨.jmp, -1⟩, ⟨.jmp, -2⟩, ⟨.jmp, 3⟩, ⟨.jmp, -2⟩, ⟨.acc, -7⟩], by decide +kernel⟩

theorem an_addend_does_not_steer_to_another_of_two_fixes :
    let c : Candidate := ⟨4, ⟨.jmp, -2⟩, ⟨.nop, -2⟩⟩
    let answer := (twoFixes.locate .speculative .executionOrder).result
    let answer' := (twoSinkingFixes.locate .speculative .executionOrder).result
    twoFixes.Modest ∧ twoSinkingFixes.Modest ∧ twoFixes.SameButAddends twoSinkingFixes ∧
      answer = .ok ⟨⟨c, 1⟩, .speculative, .executionOrder, ⟨3, 7, 2, 0⟩⟩ ∧
      answer' = .ok ⟨⟨c, -7⟩, .speculative, .executionOrder, ⟨3, 7, 2, 0⟩⟩ ∧
      SearchedAlike answer answer' := by
  intro c answer answer'
  have hmodest : twoFixes.Modest := by decide +kernel
  have hmodest' : twoSinkingFixes.Modest := by decide +kernel
  have hsame : twoFixes.SameButAddends twoSinkingFixes := by
    simp [Program.SameButAddends, twoFixes, twoSinkingFixes]
  exact ⟨hmodest, hmodest', hsame, by decide +kernel, by decide +kernel,
    addends_do_not_steer_a_search hmodest hmodest' hsame .speculative .executionOrder⟩

end

end Unloop

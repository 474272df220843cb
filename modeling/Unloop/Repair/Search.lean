-- Searches for the one flip that makes a looping program end. Only the
-- positions that the unmodified run executes can matter, so both strategies
-- see the same fixes; they differ in where a trial starts and in what it
-- costs.
import Unloop.Log

namespace Unloop

open Number

/-! ## Trials -/

/-- A trial to make: a candidate, and the state from which to run with it. -/
structure Trial where
  candidate : Program.Candidate
  start : State
  deriving DecidableEq

/-- How far a search has come: its costs, what it logged, the best fix, and
the fault that stopped it, if one did. -/
structure Progress where
  stats : Stats := {}
  log : List Event := []
  best : Option Fix := none
  fault : Option Fault := none
  deriving DecidableEq

/-- Counts a trial that ran along `w`, without judging it. -/
def Progress.count (g : Progress) (w : Walk) : Progress :=
  { g with
    stats :=
      { g.stats with
        runs := g.stats.runs + 1
        tried := g.stats.tried + 1
        steps := g.stats.steps + w.steps.length } }

/-- Makes a trial. One that ends is the best fix from now on. One that leaves
the program is rejected, unless the failure of having left it cannot even be
told. -/
def Progress.make (p : Program) (g : Progress) (t : Trial) : Progress :=
  let w := p.walk (some t.candidate.patch) t.start
  let g := g.count w
  match w.stop with
  | .ending (.terminated a) => { g with best := some ⟨t.candidate, a⟩ }
  | .ending (.looped _ q) => { g with log := g.log ++ [.loops t.candidate.position q] }
  | .outside q =>
    if (Failure.outside q p.length).isWritable then
      { g with
        stats := { g.stats with outside := g.stats.outside + 1 }
        log := g.log ++ [.leaves t.candidate.position q] }
    else { g with fault := some (.longNumber none) }

/-- Makes the trials that are wanted in view of the best fix so far, in their
order, until a fault stops the search. -/
def Progress.sweep (p : Program) (wanted : Option Fix → Program.Candidate → Bool)
    (g : Progress) (ts : List Trial) : Progress :=
  ts.foldl (fun g t => if g.fault.isNone && wanted g.best t.candidate then g.make p t else g) g

/-! ## The strategies -/

/-- The run of the program as it is. -/
def Program.baseWalk (p : Program) : Walk := p.walk none {}

/-- The candidates, each to be run from the start. -/
def Program.freshTrials (p : Program) : List Trial := p.candidates.map fun c => ⟨c, {}⟩

/-- The candidates that the run reaches, each to be run from where the run
stands when it comes to them. -/
def Walk.branches (w : Walk) : List Trial :=
  w.steps.filterMap fun t =>
    (Program.candidateOf t.instruction t.state.position.toNat).map fun c => ⟨c, t.state⟩

/-- A candidate is worth a trial of the branching search: always until there
is a fix, and then only below it, unless the first fix wins. -/
def TieBreak.wants (t : TieBreak) (best : Option Fix) (c : Program.Candidate) : Bool :=
  match best with
  | none => true
  | some f => t == .lowestIndex && c.position < f.candidate.position

/-- The progress after the unmodified run. -/
def Progress.afterBase (p : Program) : Progress :=
  { stats := { runs := 1, steps := p.baseWalk.steps.length } }

/-- The fault of an unmodified run that does not loop. -/
def Program.baseFault? (p : Program) : Option Fault :=
  match p.baseWalk.stop with
  | .outside q => some (.outside p q)
  | .ending (.terminated a) =>
    match writeNumber a with
    | .ok text =>
      some (.failure (.alreadyEnds ("program terminates unmodified with accumulator " ++ text)))
    | .error fault => some fault
  | .ending (.looped ..) => none

/-- The failure of a search that found no fix. -/
def Progress.noFix (g : Progress) : Fault :=
  .failure (.noFix ("no single flip of " ++ ofNat g.stats.tried ++ " candidates terminates"))

/-- What a search gives in the end: the events that it logged, and the repair
or the fault. -/
structure Found where
  log : List Event
  result : Except Fault Repair

/-- The repair of the best fix, or why there is none. -/
def Progress.found (g : Progress) (s : Strategy) (t : TieBreak) : Found :=
  match g.best with
  | some fix =>
    let repair : Repair := ⟨fix, s, t, g.stats⟩
    ⟨g.log ++ [.repaired repair], .ok repair⟩
  | none => ⟨g.log, .error g.noFix⟩

/-- Runs the program first and gives up if it does not loop. Then every
candidate is tried from the start, in ascending order, up to the first fix. -/
def Program.searchNaive (p : Program) (t : TieBreak) : Found :=
  match p.baseFault? with
  | some fault => ⟨[], .error fault⟩
  | none =>
    let g := (Progress.afterBase p).sweep p (fun best _ => best.isNone) p.freshTrials
    match g.fault with
    | some fault => ⟨g.log, .error fault⟩
    | none => g.found .naive t

/-- Runs the program once and branches at each candidate that is reached,
before it is known whether the program loops. -/
def Program.searchSpeculative (p : Program) (t : TieBreak) : Found :=
  let g := (Progress.afterBase p).sweep p t.wants p.baseWalk.branches
  match g.fault.or p.baseFault? with
  | some fault => ⟨g.log, .error fault⟩
  | none => g.found .speculative t

/-- Searches for a repair. A program without a candidate is not even run. -/
def Program.locate (p : Program) (s : Strategy) (t : TieBreak) : Found :=
  if p.candidates.isEmpty then
    ⟨[], .error (.failure (.noFix "program has no jmp or nop instruction to flip"))⟩
  else
    match s with
    | .naive => p.searchNaive t
    | .speculative => p.searchSpeculative t

end Unloop

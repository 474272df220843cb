-- The laws of what a search logs. It tells of every flip that it rejects, when it has
-- tried it, and in the end of the repair, if it gives one. What it tells of a flip is
-- what comes of the flipped program when that is run from the start.
import Unloop.Proofs.Repair.Statistics

namespace Unloop

open Program (Candidate)

/-! ## The pure model -/

/-- The positions that a search tries, in its order. The naive search does not come to
any if the unmodified run does not loop. -/
def Program.tested (p : Program) (s : Strategy) (t : TieBreak) : List Nat :=
  if s = .naive ∧ p.baseFault?.isSome then []
  else (p.madeBy s t).map fun u => u.candidate.position

section

variable {p : Program} {g : Progress} {ts : List Trial} {s : Strategy} {t : TieBreak}
  {c : Candidate} {r : Repair} {n : Nat} {e : Event}

/-! ## Rejections -/

end

end Unloop

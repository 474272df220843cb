-- The laws of the two strategies. The naive search finds the lowest position
-- whose flip makes the program end, reached or not, and the branching search
-- finds the same one.
import Unloop.Proofs.Repair.Search

namespace Unloop

open Program (Candidate)

/-- The program with the instruction at a position flipped runs from the start
to its end, with an accumulator. -/
def Program.EndsFlipped (p : Program) (n : Nat) (a : Int) : Prop :=
  ∃ q k, p.flipAt n = .ok q ∧ q.run none {} = .ok ⟨.terminated a, k⟩

/-- Two searches give the same answer: repairs that agree in everything but how
they were found, or failures of the same kind. -/
inductive SameAnswer : Except Fault Repair → Except Fault Repair → Prop
  | repaired {a b : Repair} : a.position = b.position → a.removed = b.removed →
      a.replacement = b.replacement → a.accumulator = b.accumulator → SameAnswer (.ok a) (.ok b)
  | noFix (m n : String) :
      SameAnswer (.error (.failure (.noFix m))) (.error (.failure (.noFix n)))
  | alreadyEnds (m : String) :
      SameAnswer (.error (.failure (.alreadyEnds m))) (.error (.failure (.alreadyEnds m)))
  | outside (position length : Int) :
      SameAnswer (.error (.failure (.outside position length)))
        (.error (.failure (.outside position length)))

/-- A program with two fixes. Its run comes to the upper one first. -/
def twoFixes : Program :=
  ⟨[⟨.jmp, 4⟩, ⟨.jmp, -1⟩, ⟨.jmp, -2⟩, ⟨.jmp, 3⟩, ⟨.jmp, -2⟩, ⟨.acc, 1⟩], by decide +kernel⟩

section

variable {p : Program} {s s' : Strategy} {t t' : TieBreak}

/-! ## Both strategies agree -/

/-- Searches of one program with the same best fix give the same answer. -/
theorem sameAnswer_of_best (h : p.Modest)
    (hbest : ∀ a x, p.baseWalk.stop = .ending (.looped a x) →
      (p.progress s t).best = (p.progress s' t').best) :
    SameAnswer (p.locate s t).result (p.locate s' t').result := by
  by_cases hc : p.candidates = []
  · rw [locate_without_candidates hc, locate_without_candidates hc]
    exact .noFix _ _
  · rcases hstop : p.baseWalk.stop with (a | ⟨a, x⟩) | x
    · rw [locate_of_terminated h hc hstop, locate_of_terminated h hc hstop]
      exact .alreadyEnds _
    · have hbest := hbest a x hstop
      rw [locate_of_looped h hc hstop, locate_of_looped h hc hstop]
      rcases hf : (p.progress s t).best with _ | f
      · rw [found_of_none hf, found_of_none (hbest ▸ hf)]
        exact .noFix _ _
      · rw [found_of_some hf, found_of_some (hbest ▸ hf)]
        exact .repaired rfl rfl rfl rfl
    · rw [locate_of_outside h hc hstop, locate_of_outside h hc hstop]
      exact .outside _ _

/-- Under the lowest position as the tie break both strategies give the same
answer: the same repair, or a failure of the same kind, with the same message
if the program ends as it is, and with the same position and length if it is
left. -/
theorem both_strategies_give_the_lowest_fix (p : Program) (h : p.Modest) :
    SameAnswer (p.locate .naive .lowestIndex).result
      (p.locate .speculative .lowestIndex).result := by
  apply sameAnswer_of_best h
  intro a x hloop
  exact lowest_unique (lowest_naive h _) (lowest_speculative h hloop)

theorem both_strategies_agree_on_two_fixes :
    twoFixes.Modest ∧ SameAnswer (twoFixes.locate .naive .lowestIndex).result
      (twoFixes.locate .speculative .lowestIndex).result :=
  ⟨by decide +kernel, both_strategies_give_the_lowest_fix twoFixes (by decide +kernel)⟩

/-! ## The naive strategy and its reference -/

/-- The positions whose flip makes the program end are those of the fixes. -/
theorem endsFlipped_iff {n : Nat} {a : Int} :
    p.EndsFlipped n a ↔ ∃ c ∈ p.candidates, c.position = n ∧ p.fix? c = some ⟨c, a⟩ := by
  unfold Program.EndsFlipped
  constructor
  · rintro ⟨q, k, hflip, hrun⟩
    obtain ⟨c, hc, rfl, hq⟩ := flipAt_eq_ok_iff.mp hflip
    have hset := instructions_of_replace (inside_of_mem_candidates hc) hq
    exact ⟨c, hc, rfl, (rebuilt_terminates_iff hc hset).mp ⟨k, hrun⟩⟩
  · rintro ⟨c, hc, rfl, hfix⟩
    obtain ⟨q, hq, hset⟩ := replace_candidate hc
    obtain ⟨k, hrun⟩ := (rebuilt_terminates_iff hc hset).mpr hfix
    exact ⟨q, k, flipAt_eq_ok_iff.mpr ⟨c, hc, rfl, hq⟩, hrun⟩

/-- The naive search of a looping program gives the lowest fix. -/
theorem naive_of_looped (h : p.Modest) (hc : p.candidates ≠ []) {a x : Int}
    (hloop : p.baseWalk.stop = .ending (.looped a x)) :
    ((¬ ∃ n a, p.EndsFlipped n a) →
      ∃ m, (p.locate .naive t).result = .error (.failure (.noFix m))) ∧
    ((∃ n a, p.EndsFlipped n a) → ∃ r, (p.locate .naive t).result = .ok r ∧
      p.EndsFlipped r.position r.accumulator ∧
      (∀ n a, p.EndsFlipped n a → r.position ≤ n) ∧
      p.at? r.position = some r.removed ∧ r.removed.flip = .ok r.replacement) := by
  have hlow := lowest_naive h t
  rw [locate_of_looped h hc hloop]
  rcases hbest : (p.progress .naive t).best with _ | f
  · rw [hbest] at hlow
    refine ⟨fun _ => ⟨_, found_of_none hbest⟩, ?_⟩
    rintro ⟨n, b, hends⟩
    obtain ⟨c, hmem, _, hfix⟩ := endsFlipped_iff.mp hends
    rw [hlow c hmem] at hfix
    cases hfix
  · rw [hbest] at hlow
    obtain ⟨hmem, hfix, hmin⟩ := hlow
    have hends : p.EndsFlipped f.candidate.position f.accumulator :=
      endsFlipped_iff.mpr ⟨f.candidate, hmem, rfl, hfix⟩
    refine ⟨fun hno => absurd ⟨_, _, hends⟩ hno, fun _ => ⟨_, found_of_some hbest, hends, ?_, ?_⟩⟩
    · intro n b hn
      obtain ⟨c, hc, rfl, hfix'⟩ := endsFlipped_iff.mp hn
      exact hmin c hc (by simp [hfix'])
    · obtain ⟨hi, hj⟩ := mem_candidates.mp hmem
      exact ⟨(at?_natCast p _).trans hi, flip_of_flip? hj⟩

/-- The naive search meets its reference. It fails if no instruction can be
flipped, and else as the unmodified run does if that leaves the program or ends.
If it loops, the search flips the lowest position that makes the program end,
and fails if there is none. -/
theorem naive_search_meets_its_reference (p : Program) (t : TieBreak) (h : p.Modest) :
    let answer := (p.locate .naive t).result
    ((∀ i ∈ p.instructions, i.op = .acc) → ∃ m, answer = .error (.failure (.noFix m))) ∧
    ((∃ i ∈ p.instructions, i.op ≠ .acc) →
      (∀ fault, p.run none {} = .error fault →
        answer = .error fault ∧ ∃ x, fault = .failure (.outside x p.length)) ∧
      (∀ a k, p.run none {} = .ok ⟨.terminated a, k⟩ →
        ∃ m, answer = .error (.failure (.alreadyEnds m))) ∧
      (∀ a x k, p.run none {} = .ok ⟨.looped a x, k⟩ →
        ((¬ ∃ n a, p.EndsFlipped n a) → ∃ m, answer = .error (.failure (.noFix m))) ∧
        ((∃ n a, p.EndsFlipped n a) → ∃ r, answer = .ok r ∧
          p.EndsFlipped r.position r.accumulator ∧
          (∀ n a, p.EndsFlipped n a → r.position ≤ n) ∧
          p.at? r.position = some r.removed ∧ r.removed.flip = .ok r.replacement))) := by
  intro answer
  refine ⟨fun hacc => ⟨_, locate_without_candidates (candidates_eq_nil_iff.mpr hacc)⟩, ?_⟩
  rintro ⟨i, hi, hop⟩
  have hc : p.candidates ≠ [] := fun hnil => hop (candidates_eq_nil_iff.mp hnil i hi)
  refine ⟨?_, ?_, ?_⟩
  · intro fault hrun
    obtain ⟨x, hstop, hfault⟩ := run_eq_error_iff.mp hrun
    rw [outside_of_modest h (writable_of_outside h (covers_none p) hstop)] at hfault
    exact ⟨by rw [hfault]; exact locate_of_outside h hc hstop, x, hfault⟩
  · intro a k hrun
    exact ⟨_, locate_of_terminated h hc (run_eq_ok_iff.mp hrun).1⟩
  · intro a x k hrun
    exact naive_of_looped h hc (run_eq_ok_iff.mp hrun).1

theorem naive_search_flips_the_lower_of_two_fixes :
    twoFixes.Modest ∧ twoFixes.run none {} = .ok ⟨.looped 0 0, 3⟩ ∧ twoFixes.EndsFlipped 2 0 ∧
      ∃ r, (twoFixes.locate .naive .executionOrder).result = .ok r ∧
        ∀ n a, twoFixes.EndsFlipped n a → r.position ≤ n := by
  have hmodest : twoFixes.Modest := by decide +kernel
  have hjump : ∃ i ∈ twoFixes.instructions, i.op ≠ .acc := ⟨⟨.jmp, 4⟩, by decide, by decide⟩
  have hrun : twoFixes.run none {} = .ok ⟨.looped 0 0, 3⟩ := by decide +kernel
  have hends : twoFixes.EndsFlipped 2 0 :=
    endsFlipped_iff.mpr ⟨⟨2, ⟨.jmp, -2⟩, ⟨.nop, -2⟩⟩, by decide +kernel, rfl, by decide +kernel⟩
  obtain ⟨r, hr, _, hlow, _⟩ := (((naive_search_meets_its_reference twoFixes .executionOrder
    hmodest).2 hjump).2.2 0 0 3 hrun).2 ⟨2, 0, hends⟩
  exact ⟨hmodest, hrun, hends, r, hr, hlow⟩

end

end Unloop

-- The laws of a repair that a search returns. It flips a position that the
-- looping run executes, the flip makes the program end with the accumulator
-- that the repair tells, and no search finds anything to repair after it.
import Unloop.Proofs.Repair.Strategies

namespace Unloop

open Program (Candidate)

section

variable {p q : Program} {c : Candidate} {f : Fix}

/-! ## The repaired program -/

/-- A candidate of a program is one of the program with it flipped, the other
way round. -/
theorem candidates_of_rebuilt (hc : c ∈ p.candidates)
    (hq : q.instructions = p.instructions.set c.position c.replacement) :
    ⟨c.position, c.replacement, c.removed⟩ ∈ q.candidates := by
  obtain ⟨hi, hj⟩ := mem_candidates.mp hc
  obtain ⟨hlt, _⟩ := List.getElem?_eq_some_iff.mp hi
  refine mem_candidates.mpr ⟨?_, Instruction.flip?_flip? hj⟩
  rw [hq, List.getElem?_set_self hlt]

/-- A flip keeps the length of a program and does not raise its offsets. -/
theorem modest_of_rebuilt (h : p.Modest) (hc : c ∈ p.candidates)
    (hq : q.instructions = p.instructions.set c.position c.replacement) : q.Modest := by
  apply modest_of_le h
  · simp [Program.length, hq]
  · apply greatestOffset_le
    intro i hi
    rw [hq] at hi
    rcases List.mem_or_eq_of_mem_set hi with hi | rfl
    · exact natAbs_delta_le hi
    · exact covers_patch hc _ rfl

/-- The program ends once it is repaired, so that no search repairs it again. -/
theorem locate_of_rebuilt (h : p.Modest) (hc : c ∈ p.candidates)
    (hq : q.instructions = p.instructions.set c.position c.replacement)
    (hfix : p.fix? c = some f) (s : Strategy) (t : TieBreak) :
    (q.locate s t).result = .error (.failure (.ends f.accumulator)) := by
  apply locate_of_terminated (modest_of_rebuilt h hc hq)
  · exact List.ne_nil_of_mem (candidates_of_rebuilt hc hq)
  · rw [walk_of_rebuilt hc hq]
    exact (fix?_eq_some_iff.mp hfix).2

theorem verify_of_fix (hfix : p.fix? c = some f) : p.verify c.patch f.accumulator = .ok true := by
  have hrun : p.run (some c.patch) {} = .ok ⟨.terminated f.accumulator, _⟩ :=
    run_eq_ok_iff.mpr ⟨(fix?_eq_some_iff.mp hfix).2, rfl⟩
  unfold Program.verify
  rw [hrun]
  simp [bind, Except.bind, pure, Except.pure]

/-! ## Repairs -/

/-- A repair is sound and final. The unmodified run loops and executes the
position of the repair, the instruction there is a jump or does nothing, and
the repair flips it. It passes its own check, and the program rebuilt with it
ends with the accumulator of the repair, so that every search of that program
fails because it ends already. -/
theorem a_repair_is_sound_and_final (p : Program) (s : Strategy) (t : TieBreak) (r : Repair)
    (h : p.Modest) (hr : (p.locate s t).result = .ok r) :
    (∃ a x k, p.run none {} = .ok ⟨.looped a x, k⟩) ∧
    (r.position : Int) ∈ executed (p.walk none {}).steps ∧
    p.at? r.position = some r.removed ∧ (r.removed.op = .jmp ∨ r.removed.op = .nop) ∧
    r.removed.flip = .ok r.replacement ∧
    r.verify p = .ok true ∧
    ∃ q, p.replace r.position r.replacement = .ok q ∧
      (∃ k, q.run none {} = .ok ⟨.terminated r.accumulator, k⟩) ∧
      ∀ s' t', ∃ m, (q.locate s' t').result = .error (.failure (.alreadyEnds m)) := by
  obtain ⟨⟨a, x, hloop⟩, hc, hfix⟩ := fix_of_repair h hr
  obtain ⟨hi, hj⟩ := mem_candidates.mp hc
  have hexecuted : (r.position : Int) ∈ executed (p.walk none {}).steps := by
    by_contra hnot
    rw [fix?_of_not_executed hloop hnot] at hfix
    cases hfix
  obtain ⟨q, hq, hset⟩ := replace_candidate hc
  refine ⟨⟨a, x, _, run_eq_ok_iff.mpr ⟨hloop, rfl⟩⟩, hexecuted, (at?_natCast p _).trans hi,
    op_of_mem_candidates hc, flip_of_flip? hj, verify_of_fix hfix, q, hq,
    (rebuilt_terminates_iff hc hset).mpr hfix, ?_⟩
  intro s' t'
  exact ⟨_, locate_of_rebuilt h hc hset hfix s' t'⟩

theorem the_upper_of_two_fixes_is_sound_and_final :
    let r : Repair :=
      ⟨⟨⟨4, ⟨.jmp, -2⟩, ⟨.nop, -2⟩⟩, 1⟩, .speculative, .executionOrder, ⟨3, 7, 2, 0⟩⟩
    twoFixes.Modest ∧ (twoFixes.locate .speculative .executionOrder).result = .ok r ∧
      r.verify twoFixes = .ok true ∧
      ∃ q, twoFixes.replace 4 ⟨.nop, -2⟩ = .ok q ∧
        ∀ s t, ∃ m, (q.locate s t).result = .error (.failure (.alreadyEnds m)) := by
  intro r
  have hmodest : twoFixes.Modest := by decide +kernel
  have hr : (twoFixes.locate .speculative .executionOrder).result = .ok r := by decide +kernel
  obtain ⟨_, _, _, _, _, hverify, q, hq, _, hfinal⟩ :=
    a_repair_is_sound_and_final twoFixes .speculative .executionOrder r hmodest hr
  exact ⟨hmodest, hr, hverify, q, hq, hfinal⟩

end

end Unloop

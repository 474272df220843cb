-- The laws of the reports of repairs. The position of a repair decides what is flipped
-- there and where the program then ends, so it decides the hash of the report. How the
-- repair was found, what that cost and whether it was verified do not count.
import Unloop.Proofs.Machine.Words
import Unloop.Proofs.Repair.Strategies
import Unloop.Proofs.Report.Identity

namespace Unloop

open Json Number Text

/-! ## The pure model -/

/-- The report of a repair with its program, whether it was verified or not. -/
def Repair.reported (r : Repair) (p : Program) (verified : Option Bool) : Report :=
  .repair (r.report p verified)

section

variable {p : Program} {s s' : Strategy} {t t' : TieBreak} {r r' : Repair} {v v' : Option Bool}
  {a x : Int}

/-! ## Repairs of one program -/

/-- Repairs at one position are one fix. -/
theorem fix_of_position (h : p.Modest) (hr : (p.locate s t).result = .ok r)
    (hr' : (p.locate s' t').result = .ok r') (hposition : r.position = r'.position) :
    r.fix = r'.fix := by
  obtain ⟨_, hc, hfix⟩ := fix_of_repair h hr
  obtain ⟨_, hc', hfix'⟩ := fix_of_repair h hr'
  rw [candidate_ext hc hc' hposition, hfix', Option.some.injEq] at hfix
  exact hfix.symm

theorem lowest_of_looped (h : p.Modest) (hloop : p.baseWalk.stop = .ending (.looped a x))
    (s : Strategy) : p.Lowest p.candidates (p.progress s .lowestIndex).best := by
  cases s with
  | naive => exact lowest_naive h _
  | speculative => exact lowest_speculative h hloop

/-- Under the lowest position as the tie break there is one fix for all strategies. -/
theorem fix_of_lowestIndex (h : p.Modest) (hr : (p.locate s .lowestIndex).result = .ok r)
    (hr' : (p.locate s' .lowestIndex).result = .ok r') : r.fix = r'.fix := by
  obtain ⟨⟨a, x, hloop⟩, _⟩ := fix_of_repair h hr
  have hbest := lowest_unique (lowest_of_looped h hloop s) (lowest_of_looped h hloop s')
  rw [best_of_repair h hr, best_of_repair h hr', Option.some.injEq] at hbest
  exact hbest

/-! ## Their reports -/

theorem sameResult_of_fix (hfix : r.fix = r'.fix) : (r.reported p v).SameResult (r'.reported p v') :=
  .repair rfl (congrArg (fun f => (f.candidate.position : Int)) hfix)
    (congrArg (fun f => f.candidate.removed.render) hfix)
    (congrArg (fun f => f.candidate.replacement.render) hfix) (congrArg Fix.accumulator hfix)

theorem position_of_sameResult (h : (r.reported p v).SameResult (r'.reported p v')) :
    r.position = r'.position := by
  cases h with
  | repair _ hposition => exact Int.ofNat.inj hposition

/-- The report of a repair can be hashed exactly if its position and its accumulator are
words, whatever the costs are. -/
theorem isWritable_reported_iff :
    (Value.obj (r.reported p v).identity).isWritable = true ↔
      inWordRange r.position = true ∧ inWordRange r.accumulator = true := by
  have hwithin : (Value.obj (r.reported p v).identity).Within 4 :=
    within_obj (nodup_identity _) fun m hm =>
      within_fields (r := r.reported p v) trivial m ((identity_sublist _).subset hm)
  rw [isWritable_of_within hwithin (by decide), Repair.reported, identity_repair]
  simp [Repair.report, Provenance.fields, Value.wordsOnly, membersWordsOnly]

theorem hash_reported_iff :
    (∃ x, (r.reported p v).hash = .ok x) ↔
      inWordRange r.position = true ∧ inWordRange r.accumulator = true := by
  simp only [reportHash_eq_ok_iff, hash?_eq_some_iff, ← isWritable_reported_iff (p := p) (v := v),
    exists_and_left, exists_eq', and_true]

theorem hash_reported_of_long (h : inWordRange r.accumulator = false) :
    (r.reported p v).hash = .error .unwritable := by
  refine reportHash_eq_error_iff.mpr ⟨Bool.eq_false_iff.mpr fun hw => ?_, rfl⟩
  rw [(isWritable_reported_iff.mp hw).2] at h
  cases h

theorem inWordRange_position (h : p.Modest) (hr : (p.locate s t).result = .ok r)
    (hlen : p.length ≤ twoTo 64) : inWordRange r.position = true := by
  obtain ⟨_, hc, _⟩ := fix_of_repair h hr
  have hinside : (r.position : Int) < p.length := (inside_of_mem_candidates hc).2
  apply inWordRange_natCast
  omega

/-- The hash of the report of a repair tells the position of the repair, and nothing of
how it was found. For any two repairs that searches of one program give, however they are
reported, the hash is there exactly if the position and the accumulator are words, as
each position of a program is that can be in memory. The hashes are the same at one
position, which is so for all searches by the lowest position, and at different
positions they differ, if the texts under them do not collide. -/
theorem the_hash_of_a_repair_tells_its_position (h : p.Modest)
    (hr : (p.locate s t).result = .ok r) (hr' : (p.locate s' t').result = .ok r')
    (v v' : Option Bool) :
    let report := r.reported p v
    let report' := r'.reported p v'
    ((∃ x, report.hash = .ok x) ↔
      inWordRange r.position = true ∧ inWordRange r.accumulator = true) ∧
    (p.length ≤ twoTo 64 → inWordRange r.position = true) ∧
    (inWordRange r.accumulator = false → report.hash = .error .unwritable) ∧
    (r.position = r'.position → report.hash = report'.hash) ∧
    (∀ x x', report.hash = .ok x → report'.hash = .ok x' → r.position ≠ r'.position →
      CollisionFree [report.identityText, report'.identityText] → x ≠ x') ∧
    (t = .lowestIndex → t' = .lowestIndex → report.hash = report'.hash) := by
  intro report report'
  refine ⟨hash_reported_iff, inWordRange_position h hr, hash_reported_of_long, ?_, ?_, ?_⟩
  · intro hposition
    exact hash_of_sameResult (sameResult_of_fix (fix_of_position h hr hr' hposition))
  · rintro x x' hx hx' hposition hfree rfl
    exact hposition (position_of_sameResult (sameResult_of_hash_eq rfl hx hx' hfree))
  · rintro rfl rfl
    exact hash_of_sameResult (sameResult_of_fix (fix_of_lowestIndex h hr hr'))

/-- The two strategies find the lower of two fixes at different costs, and report it with
one hash. -/
theorem the_hash_of_the_lower_of_two_fixes_does_not_tell_its_costs :
    let fix : Fix := ⟨⟨2, ⟨.jmp, -2⟩, ⟨.nop, -2⟩⟩, 0⟩
    let r : Repair := ⟨fix, .naive, .lowestIndex, ⟨4, 12, 3, 0⟩⟩
    let r' : Repair := ⟨fix, .speculative, .lowestIndex, ⟨4, 9, 3, 0⟩⟩
    twoFixes.Modest ∧ (twoFixes.locate .naive .lowestIndex).result = .ok r ∧
      (twoFixes.locate .speculative .lowestIndex).result = .ok r' ∧
      ∃ x, (r.reported twoFixes none).hash = .ok x ∧
        (r'.reported twoFixes (some true)).hash = .ok x := by
  intro fix r r'
  have hmodest : twoFixes.Modest := by decide +kernel
  have hr : (twoFixes.locate .naive .lowestIndex).result = .ok r := by decide +kernel
  have hr' : (twoFixes.locate .speculative .lowestIndex).result = .ok r' := by decide +kernel
  obtain ⟨hashed, _, _, hsame, _⟩ :=
    the_hash_of_a_repair_tells_its_position hmodest hr hr' none (some true)
  obtain ⟨x, hx⟩ := hashed.mpr ⟨by decide, by decide⟩
  exact ⟨hmodest, hr, hr', x, hx, (hsame rfl).symm.trans hx⟩

end

end Unloop

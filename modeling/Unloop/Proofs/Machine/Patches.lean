-- The laws of patches. Inside the program an instruction laid over a position is
-- as good as a program rebuilt with it, whatever state the run starts from.
-- Outside the program there is nothing to lay it over, also where a negative
-- position would count from the end.
import Unloop.Proofs.Machine.Path
import Mathlib.Data.List.Basic

namespace Unloop

/-- A program that counts in place and never ends. -/
def treadmill : Program := ⟨[⟨.acc, 1⟩, ⟨.jmp, -1⟩], by decide +kernel⟩

section

variable {p q : Program} {patch : Patch} {i : Instruction} {s : State} {x : Int}

/-! ## Rebuilt programs -/

/-- An instruction that can be written takes the place of another one. -/
theorem replace_of_inside (hin : p.Inside x) (hi : i.Writable) :
    ∃ q, p.replace x i = .ok q ∧ q.instructions = p.instructions.set x.toNat i := by
  have hset : ∀ j ∈ p.instructions.set x.toNat i, j.Writable := by
    intro j hj
    rcases List.mem_or_eq_of_mem_set hj with hj | rfl
    · exact p.writable j hj
    · exact hi
  refine ⟨⟨_, hset⟩, ?_, rfl⟩
  rw [Program.replace, Program.index?_of_inside hin]
  exact dif_pos hset

/-- What a run gives depends on the program by its length and the walk. -/
theorem run_of_walk_eq {a b : Option Patch} (hlen : q.length = p.length)
    (hwalk : q.walk a s = p.walk b s) : q.run a s = p.run b s := by
  unfold Program.run Walk.outcome Fault.outside
  rw [hwalk, hlen]

theorem run_of_replaced (hin : p.Inside patch.position)
    (hq : q.instructions = p.instructions.set patch.position.toNat patch.instruction) :
    q.run none s = p.run (some patch) s := by
  apply run_of_walk_eq
  · simp [Program.length, hq]
  · exact walk_of_replaced hin hq

/-! ## Patches outside -/

/-- A run executes positions inside only, so it never comes to a patch outside. -/
theorem walk_of_patch_outside (hout : ¬ p.Inside patch.position) :
    p.walk (some patch) s = p.walk none s := by
  apply walk_of_not_executed
  intro hx
  obtain ⟨t, ht, hpos⟩ := mem_executed.mp hx
  have hin := (takes_of_mem (path_walk p none s) ht).1.1
  exact hout (hpos ▸ hin)

/-- A patch inside the program is as good as a rebuilt program. If its
instruction can be written, the program with it in place is there, and from
every state that program runs as the patched one does: to the same result after
as many steps, or to the same fault. A patch outside changes no run at all. -/
theorem a_patch_is_as_good_as_a_rebuilt_program (p : Program) (x : Int) (i : Instruction) :
    (p.Inside x → i.Writable →
      ∃ q, p.replace x i = .ok q ∧ ∀ s, q.run none s = p.run (some ⟨x, i⟩) s) ∧
    (¬ p.Inside x → ∀ s, p.run (some ⟨x, i⟩) s = p.run none s) := by
  constructor
  · intro hin hi
    obtain ⟨q, hq, hset⟩ := replace_of_inside hin hi
    exact ⟨q, hq, fun s => run_of_replaced hin hset⟩
  · intro hout s
    exact run_of_walk_eq rfl (walk_of_patch_outside hout)

/-- From the middle of the program, with positions visited before, the treadmill
ends once its jump is replaced. In place -1 the same instruction would replace
the jump too, but laid over that position it does nothing. -/
theorem a_patch_ends_the_treadmill :
    let s : State := ⟨0, 5, [7, -3]⟩
    (∃ q, treadmill.replace 1 ⟨.nop, -1⟩ = .ok q ∧ q.run none s = .ok ⟨.terminated 6, 2⟩ ∧
      treadmill.run (some ⟨1, ⟨.nop, -1⟩⟩) s = .ok ⟨.terminated 6, 2⟩) ∧
    treadmill.replace (-1) ⟨.nop, -1⟩ = treadmill.replace 1 ⟨.nop, -1⟩ ∧
    treadmill.run (some ⟨-1, ⟨.nop, -1⟩⟩) s = .ok ⟨.looped 6 0, 2⟩ := by
  intro s
  have hpatched : treadmill.run (some ⟨1, ⟨.nop, -1⟩⟩) s = .ok ⟨.terminated 6, 2⟩ := by
    decide +kernel
  have hbare : treadmill.run none s = .ok ⟨.looped 6 0, 2⟩ := by decide +kernel
  obtain ⟨q, hq, hrun⟩ := (a_patch_is_as_good_as_a_rebuilt_program treadmill 1 ⟨.nop, -1⟩).1
    (by decide +kernel) (by decide +kernel)
  have houtside := (a_patch_is_as_good_as_a_rebuilt_program treadmill (-1) ⟨.nop, -1⟩).2
    (by decide +kernel) s
  exact ⟨⟨q, hq, (hrun s).trans hpatched, hpatched⟩, rfl, houtside.trans hbare⟩

end

end Unloop

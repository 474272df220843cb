-- The laws of paths. A path is the steps by which a run gets from one state
-- to another, and a run is the path to where it stops. What a run does after
-- a path depends on the state at its end alone, so two runs that meet in a
-- state go on alike.
import Unloop.Machine
import Mathlib.Tactic.ByContra

namespace Unloop

/-! ## Paths -/

/-- The run takes this step where it stands: it goes on, and the instruction
is the one that counts there. -/
def Program.Takes (p : Program) (patch : Option Patch) (t : Step) : Prop :=
  p.Continues t.state ∧ p.effective? patch t.state.position = some t.instruction

/-- The steps lead from one state to another. -/
def Program.Path (p : Program) (patch : Option Patch) : State → List Step → State → Prop
  | s, [], last => s = last
  | s, t :: ts, last => t.state = s ∧ p.Takes patch t ∧ p.Path patch t.next ts last

/-- The positions that steps execute, in their order. -/
def executed (ts : List Step) : List Int := ts.map fun t => t.state.position

/-- The run with steps before it. -/
def Walk.prepend (ts : List Step) (w : Walk) : Walk := { w with steps := ts ++ w.steps }

section

variable {p : Program} {patch : Option Patch} {s mid last : State} {ts us : List Step} {t : Step}

@[simp] theorem path_nil : p.Path patch s [] last ↔ s = last := Iff.rfl

@[simp] theorem path_cons :
    p.Path patch s (t :: ts) last ↔ t.state = s ∧ p.Takes patch t ∧ p.Path patch t.next ts last :=
  Iff.rfl

@[simp] theorem mem_executed {x : Int} : x ∈ executed ts ↔ ∃ t ∈ ts, t.state.position = x := by
  simp [executed]

@[simp] theorem stop_prepend (ts : List Step) (w : Walk) : (w.prepend ts).stop = w.stop := rfl

theorem path_append :
    p.Path patch s (ts ++ us) last ↔ ∃ mid, p.Path patch s ts mid ∧ p.Path patch mid us last := by
  induction ts generalizing s with
  | nil => simp
  | cons t ts ih =>
    simp only [List.cons_append, path_cons, ih]
    constructor
    · rintro ⟨hs, ht, mid, h1, h2⟩
      exact ⟨mid, ⟨hs, ht, h1⟩, h2⟩
    · rintro ⟨mid, ⟨hs, ht, h1⟩, h2⟩
      exact ⟨hs, ht, mid, h1, h2⟩

/-- A path that goes through a step leads to the state before it. -/
theorem path_to_step (h : p.Path patch s (ts ++ t :: us) last) : p.Path patch s ts t.state := by
  obtain ⟨mid, h1, h2, _⟩ := path_append.mp h
  exact h2 ▸ h1

theorem takes_of_mem (h : p.Path patch s ts last) (ht : t ∈ ts) : p.Takes patch t := by
  induction ts generalizing s with
  | nil => simp at ht
  | cons u us ih =>
    obtain ⟨_, hu, hrest⟩ := h
    rcases List.mem_cons.mp ht with rfl | ht
    · exact hu
    · exact ih hrest ht

/-- After a step of a path comes the next step, or the end of the path. -/
theorem next_of_mem (h : p.Path patch s ts last) (ht : t ∈ ts) :
    t.next = last ∨ ∃ u ∈ ts, u.state = t.next := by
  obtain ⟨before, rest, rfl⟩ := List.append_of_mem ht
  obtain ⟨_, _, _, _, hrest⟩ := path_append.mp h
  cases rest with
  | nil => exact Or.inl hrest
  | cons u rest => exact Or.inr ⟨u, by simp, hrest.1⟩

/-! ## Where a path has been -/

theorem mem_visited_next {x : Int} :
    x ∈ t.next.visited ↔ x = t.state.position ∨ x ∈ t.state.visited := by
  rw [Step.next, visited_after, List.mem_insert_iff]

/-- At the end of a path those positions are visited that were so at its
start, and those that it executed. -/
theorem mem_visited_of_path (h : p.Path patch s ts last) (x : Int) :
    x ∈ last.visited ↔ x ∈ s.visited ∨ x ∈ executed ts := by
  induction ts generalizing s with
  | nil =>
    obtain rfl : s = last := h
    simp [executed]
  | cons t ts ih =>
    obtain ⟨rfl, _, hrest⟩ := h
    rw [ih hrest, mem_visited_next]
    simp only [executed, List.map_cons, List.mem_cons]
    constructor
    · rintro ((hx | hx) | hx)
      · exact Or.inr (Or.inl hx)
      · exact Or.inl hx
      · exact Or.inr (Or.inr hx)
    · rintro (hx | hx | hx)
      · exact Or.inl (Or.inr hx)
      · exact Or.inl (Or.inl hx)
      · exact Or.inr hx

/-- No position is executed twice, and none that was visited before. -/
theorem nodup_executed (h : p.Path patch s ts last) :
    (executed ts).Nodup ∧ ∀ x ∈ executed ts, x ∉ s.visited := by
  induction ts generalizing s with
  | nil => simp [executed]
  | cons t ts ih =>
    obtain ⟨rfl, ⟨hgo, _⟩, hrest⟩ := h
    obtain ⟨hnodup, hnew⟩ := ih hrest
    -- the first step marks its position, so the rest cannot come back to it
    have hhead : t.state.position ∉ executed ts := by
      intro hx
      exact hnew _ hx (mem_visited_next.mpr (Or.inl rfl))
    refine ⟨List.nodup_cons.mpr ⟨hhead, hnodup⟩, ?_⟩
    intro x hx
    rcases List.mem_cons.mp hx with rfl | hx
    · exact hgo.2
    · exact fun hold => hnew x hx (mem_visited_next.mpr (Or.inr hold))

/-- A path comes to each of its steps once: no step before it executes the
same position. -/
theorem not_executed_before (h : p.Path patch s (ts ++ t :: us) last) :
    t.state.position ∉ executed ts := by
  have hnodup := (nodup_executed h).1
  simp only [executed, List.map_append, List.map_cons] at hnodup
  exact fun hx => (List.nodup_append.mp hnodup).2.2 _ hx _ (by simp) rfl

/-! ## Runs as paths -/

theorem walk_of_takes (h : p.Takes patch t) : p.walk patch t.state = (p.walk patch t.next).cons t := by
  obtain ⟨hgo, hi⟩ := h
  rw [p.effective?_eq patch _ hgo.1, Option.some.injEq] at hi
  rw [Program.walk_of_continues hgo, hi]
  rfl

/-- A run that has followed a path goes on as the run from the end of the
path. -/
theorem walk_of_path (h : p.Path patch s ts mid) :
    p.walk patch s = (p.walk patch mid).prepend ts := by
  induction ts generalizing s with
  | nil =>
    obtain rfl : s = mid := h
    rfl
  | cons t ts ih =>
    obtain ⟨rfl, ht, hrest⟩ := h
    rw [walk_of_takes ht, ih hrest]
    rfl

/-- The steps of a run lead from its start to where it stops. -/
theorem path_walk (p : Program) (patch : Option Patch) (s : State) :
    p.Path patch s (p.walk patch s).steps (p.walk patch s).last := by
  induction s using Program.walk.induct p patch with
  | case1 s h i ih =>
    rw [Program.walk_of_continues h]
    exact ⟨rfl, ⟨h, p.effective?_eq patch _ h.1⟩, ih⟩
  | case2 s h =>
    rw [Program.walk_of_not_continues h]
    rfl

/-- A run does not go on in its last state, which tells how it stopped. -/
theorem stop_walk (p : Program) (patch : Option Patch) (s : State) :
    ¬ p.Continues (p.walk patch s).last ∧
      (p.walk patch s).stop = p.stopAt (p.walk patch s).last := by
  induction s using Program.walk.induct p patch with
  | case1 s h i ih =>
    rw [Program.walk_of_continues h]
    exact ih
  | case2 s h =>
    rw [Program.walk_of_not_continues h]
    exact ⟨h, rfl⟩

/-! ## How runs stop -/

theorem not_inside_length (p : Program) : ¬ p.Inside p.length := fun h => Int.lt_irrefl _ h.2

theorem stop_eq_terminated_iff {a : Int} :
    (p.walk patch s).stop = .ending (.terminated a) ↔
      (p.walk patch s).last.position = p.length ∧ (p.walk patch s).last.accumulator = a := by
  rw [(stop_walk p patch s).2]
  unfold Program.stopAt
  split
  · rename_i hend
    simp [hend]
  · rename_i hend
    split <;> simp [hend]

theorem stop_eq_looped_iff {a x : Int} :
    (p.walk patch s).stop = .ending (.looped a x) ↔
      p.Inside (p.walk patch s).last.position ∧ (p.walk patch s).last.accumulator = a ∧
        (p.walk patch s).last.position = x := by
  rw [(stop_walk p patch s).2]
  unfold Program.stopAt
  split
  · rename_i hend
    simp [hend, not_inside_length]
  · split
    · rename_i hin
      simp [hin]
    · rename_i hout
      simp [hout]

theorem stop_eq_outside_iff {x : Int} :
    (p.walk patch s).stop = .outside x ↔
      (x < 0 ∨ p.length < x) ∧ (p.walk patch s).last.position = x := by
  rw [(stop_walk p patch s).2]
  unfold Program.stopAt
  split
  · simp only [reduceCtorEq, false_iff]
    omega
  · split
    · rename_i hin
      have hlow := hin.1
      have hhigh := hin.2
      simp only [reduceCtorEq, false_iff]
      omega
    · rename_i hend hout
      unfold Program.Inside at hout
      rw [Stop.outside.injEq]
      omega

theorem run_eq_ok_iff {o : Outcome} :
    p.run patch s = .ok o ↔
      (p.walk patch s).stop = .ending o.ending ∧ (p.walk patch s).steps.length = o.steps := by
  obtain ⟨e, k⟩ := o
  unfold Program.run Walk.outcome
  split
  · rename_i h
    simp [h]
  · rename_i h
    simp [h]

theorem run_eq_error_iff {fault : Fault} :
    p.run patch s = .error fault ↔
      ∃ q, (p.walk patch s).stop = .outside q ∧ fault = .outside p q := by
  unfold Program.run Walk.outcome
  split
  · rename_i h
    simp [h]
  · rename_i h
    simp [h, eq_comm]

end

/-! ## Runs that agree -/

section

variable {p q : Program} {patch patch' : Option Patch} {s mid : State} {ts : List Step}

theorem inside_congr (hlen : q.length = p.length) (x : Int) : q.Inside x ↔ p.Inside x := by
  rw [Program.Inside, Program.Inside, hlen]

theorem continues_congr (hlen : q.length = p.length) (s : State) :
    q.Continues s ↔ p.Continues s := by
  rw [Program.Continues, Program.Continues, inside_congr hlen]

theorem stopAt_congr (hlen : q.length = p.length) (s : State) : q.stopAt s = p.stopAt s := by
  unfold Program.stopAt
  simp only [inside_congr hlen, hlen]

/-- A path depends on the length of the program and on the instructions that
it executes. -/
theorem path_congr (hlen : q.length = p.length) (h : p.Path patch s ts mid)
    (same : ∀ x ∈ executed ts, q.effective? patch' x = p.effective? patch x) :
    q.Path patch' s ts mid := by
  induction ts generalizing s with
  | nil => exact h
  | cons t ts ih =>
    obtain ⟨hs, ⟨hgo, hi⟩, hrest⟩ := h
    refine ⟨hs, ⟨(continues_congr hlen _).mpr hgo, ?_⟩, ?_⟩
    · rw [same _ (by simp [executed]), hi]
    · exact ih hrest fun x hx => same x (List.mem_cons_of_mem _ hx)

/-- A run depends on the length of the program and on the instructions that
it executes. -/
theorem walk_congr (hlen : q.length = p.length)
    (same : ∀ x ∈ executed (p.walk patch s).steps, q.effective? patch' x = p.effective? patch x) :
    q.walk patch' s = p.walk patch s := by
  obtain ⟨hend, hstop⟩ := stop_walk p patch s
  rw [← continues_congr hlen] at hend
  rw [walk_of_path (path_congr hlen (path_walk p patch s) same),
    Program.walk_of_not_continues hend, stopAt_congr hlen, ← hstop]
  simp [Walk.prepend]

end

/-! ## Patches -/

section

variable {p q : Program} {patch : Patch} {s mid : State} {ts : List Step}

theorem effective?_of_ne {x : Int} (h : patch.position ≠ x) :
    p.effective? (some patch) x = p.effective? none x := by
  simp [Program.effective?, h]

/-- A run that comes to the patched position for the first time has run as
the unpatched program did, and goes on from there. -/
theorem walk_of_unpatched_path (h : p.Path none s ts mid) (hnew : patch.position ∉ executed ts) :
    p.walk (some patch) s = (p.walk (some patch) mid).prepend ts := by
  apply walk_of_path
  apply path_congr rfl h
  intro x hx
  exact effective?_of_ne fun he => hnew (he ▸ hx)

/-- A patch at a position that the run does not execute changes nothing. -/
theorem walk_of_not_executed (h : patch.position ∉ executed (p.walk none s).steps) :
    p.walk (some patch) s = p.walk none s := by
  apply walk_congr rfl
  intro x hx
  exact effective?_of_ne fun he => h (he ▸ hx)

/-- Inside the program the instruction at a position is found by its index. -/
theorem at?_of_inside {x : Int} (h : p.Inside x) : p.at? x = p.instructions[x.toNat]? := by
  simp [Program.at?, Program.index?_of_inside h]

theorem at?_natCast (p : Program) (n : Nat) : p.at? n = p.instructions[n]? := by
  by_cases h : n < p.length
  · rw [at?_of_inside ⟨by omega, by omega⟩]
    simp
  · have hindex : p.index? n = none := by
      unfold Program.index?
      rw [if_neg fun hin => h (by have := hin.2; omega), if_neg (by omega)]
    have hlen : p.instructions.length ≤ n := by
      simp only [Program.length] at h
      omega
    simp [Program.at?, hindex, hlen]

/-- An instruction laid over a position is as good as the program with the
instruction replaced there. -/
theorem walk_of_replaced (hin : p.Inside patch.position)
    (hq : q.instructions = p.instructions.set patch.position.toNat patch.instruction) :
    q.walk none s = p.walk (some patch) s := by
  have hlen : q.length = p.length := by simp [Program.length, hq]
  apply walk_congr hlen
  intro x hx
  obtain ⟨t, ht, rfl⟩ := mem_executed.mp hx
  have hinx := (takes_of_mem (path_walk p (some patch) s) ht).1.1
  have hinq : q.Inside t.state.position := (inside_congr hlen _).mpr hinx
  simp only [Program.effective?]
  rw [at?_of_inside hinq, at?_of_inside hinx, hq]
  by_cases he : patch.position = t.state.position
  · have hbound : patch.position.toNat < p.instructions.length := by
      have := hin.2
      simp only [Program.length] at this
      have := hin.1
      omega
    rw [if_pos he, ← he, List.getElem?_set_self hbound]
  · have hne : patch.position.toNat ≠ t.state.position.toNat := by
      have := hin.1
      have := hinx.1
      omega
    rw [if_neg he, List.getElem?_set_ne hne]

end

end Unloop

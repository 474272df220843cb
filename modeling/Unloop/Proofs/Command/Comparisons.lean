-- The laws of comparisons. A comparison makes the same search many times and keeps
-- the repair of the last time only, so all that its report tells beside the times is
-- what a single search finds. Two comparisons of a program report one result, however
-- often they search and whatever the stopwatch reads.
import Unloop.Proofs.Command.Journals
import Unloop.Proofs.Command.Outcomes
import Unloop.Proofs.Report.Repairs

namespace Unloop

open Json Number Text

/-! ## The pure model -/

/-- The timing tells of the repair that a strategy finds. -/
structure Timing.Tells (x : Timing) (s : Strategy) (r : Repair) : Prop where
  strategy : x.strategy = s.name
  runs : x.runs = r.stats.runs
  steps : x.steps = r.stats.steps
  position : x.position = r.position
  accumulator : x.accumulator = r.accumulator

/-- The report of a comparison of a program tells of the repairs that the strategies
find. -/
structure BenchReport.Tells (b : BenchReport) (p : Program) (t : TieBreak)
    (found : Strategy → Repair) : Prop where
  provenance : b.provenance = p.provenance
  length : b.length = p.length
  tieBreak : b.tieBreak = t.name
  timings : List.Forall₂ (fun s (x : Timing) => x.Tells s (found s)) Strategy.all b.timings
  agreed : b.agreed = true ↔ (found .naive).position = (found .speculative).position

namespace Command

/-- A comparison of the strategies, as it is asked for. -/
structure Comparison where
  manner : Manner
  path : String
  repeats : Option Nat
  tieBreak : Option String
  journal : Option String

/-- How often each strategy is timed. -/
def Comparison.count (c : Comparison) : Nat :=
  c.repeats.getD c.manner.settings.benchRepeats.toNat

/-- The command that makes the comparison. -/
def Comparison.session (c : Comparison) : Session Unit :=
  bench c.manner c.path c.repeats c.tieBreak c.journal

/-- What the command does with its report: it is noted, and told as JSON or as a
table. -/
def Comparison.tell (c : Comparison) (b : BenchReport) : Session Unit := do
  noteReport (.bench b)
  if c.manner.asJson then printValue (.obj b.fields)
  else do
    printTable (← benchTable b c.count)
    printBraced [("agreed", truthText b.agreed)]

/-- The comparison of a program has begun: its words are understood, it has noted that it
starts, if it keeps a journal, and it has the file of the program. From then on the
stopwatch reads numbers of 63 bits. -/
structure Comparison.Begins (c : Comparison) (p : Program) (t : TieBreak) (s begun : Shell) :
    Prop where
  count : 0 < c.count
  tieBreak : choice TieBreak.ofName c.manner.settings.tieBreak c.tieBreak s = .ok t s
  noted : begin c.manner "bench" c.path c.journal s = .ok () begun
  program : readProgram c.path begun = .ok p begun
  stopwatch : begun.clock.Brief

section

variable {s begun : Shell} {p : Program} {strategy : Strategy} {t : TieBreak} {c : Comparison}
  {repair : Repair} {found : Strategy → Repair} {n : Nat} {ts : List Timing} {b b' : BenchReport}

/-! ## Searches -/

/-- A search that finds a repair finds it whenever it is made. -/
theorem gives_locate (h : (p.locate strategy t).result = .ok repair) (s : Shell) :
    Gives (locate p strategy t) s fun found s' => Beside s s' ∧ found = repair :=
  ends_bind_of_gives (gives_logAll _ s) fun _ _ hlogged => ends_orCrash h ⟨hlogged, rfl⟩

theorem tells_timingOf (strategy : Strategy) (n : Nat) (r : Repair) (ds : List Int) :
    (timingOf strategy n r ds).Tells strategy r := ⟨rfl, rfl, rfl, rfl, rfl⟩

/-- The timing of a strategy tells of the repair which a single search finds. -/
theorem gives_timing (h : (p.locate strategy t).result = .ok repair) (hbegun : begun.clock.Brief)
    (hs : Beside begun s) (hn : 0 < n) :
    Gives (timing p t n strategy) s fun ts s' =>
      Beside begun s' ∧ ∃ x : Timing, ts = [x] ∧ x.Tells strategy repair := by
  refine ends_mono (ends_timing_of_locate hs beside_trans (fun hs => brief_of_beside hs hbegun)
    (fun hs => ends_of_gives (gives_locate h _) fun _ _ hfound =>
      ⟨beside_trans hs hfound.1, hfound.2⟩) hn) ?_ fun _ _ h => h
  rintro ts s' ⟨hs', _, ds, rfl, _, _, rfl⟩
  exact ⟨hs', _, rfl, tells_timingOf strategy n _ ds⟩

theorem forall₂_flatten {strategies : List Strategy} {tss : List (List Timing)}
    {wanted : Strategy → Timing → Prop}
    (h : List.Forall₂ (fun s ts => ∃ x, ts = [x] ∧ wanted s x) strategies tss) :
    List.Forall₂ wanted strategies tss.flatten := by
  induction h with
  | nil => exact .nil
  | cons hfirst _ ih =>
    obtain ⟨x, rfl, hx⟩ := hfirst
    exact .cons hx ih

/-- Each strategy has one timing. -/
theorem gives_timings (h : ∀ strategy, (p.locate strategy t).result = .ok (found strategy))
    (hbegun : begun.clock.Brief) (hn : 0 < n) :
    Gives (Strategy.all.mapM (timing p t n)) begun fun tss _ =>
      List.Forall₂ (fun s (x : Timing) => x.Tells s (found s)) Strategy.all tss.flatten := by
  refine ends_mono (ends_mapM_forall₂ (beside_refl begun) fun strategy _ s hs =>
    gives_timing (h strategy) hbegun hs hn) ?_ fun _ _ h => h
  rintro tss _ ⟨_, htimings⟩
  exact forall₂_flatten htimings

/-! ## What is reported -/

/-- Repairs of one program agree exactly if they are at one position. -/
theorem agree_iff (h : p.Modest)
    (hfound : ∀ strategy, (p.locate strategy t).result = .ok (found strategy))
    (hts : List.Forall₂ (fun s (x : Timing) => x.Tells s (found s)) Strategy.all ts) :
    agree ts = true ↔ (found .naive).position = (found .speculative).position := by
  unfold Strategy.all at hts
  obtain ⟨x, _, hx, hrest, rfl⟩ := List.forall₂_cons_left_iff.mp hts
  obtain ⟨y, _, hy, hnil, rfl⟩ := List.forall₂_cons_left_iff.mp hrest
  obtain rfl := List.forall₂_nil_left_iff.mp hnil
  simp only [agree, List.all_cons, List.all_nil, Bool.and_true, Bool.and_eq_true, beq_iff_eq,
    hx.position, hx.accumulator, hy.position, hy.accumulator]
  constructor
  · rintro ⟨hposition, _⟩
    exact (Int.ofNat.inj hposition).symm
  · intro hposition
    have hfix := fix_of_position h (hfound .naive) (hfound .speculative) hposition
    exact ⟨by rw [hposition], (congrArg Fix.accumulator hfix).symm⟩

theorem tells_benchReport (h : p.Modest)
    (hfound : ∀ strategy, (p.locate strategy t).result = .ok (found strategy))
    (hts : List.Forall₂ (fun s (x : Timing) => x.Tells s (found s)) Strategy.all ts) :
    (benchReport p t ts).Tells p t found :=
  ⟨rfl, rfl, rfl, hts, agree_iff h hfound hts⟩

theorem sameResult_of_tells (h : b.Tells p t found) (h' : b'.Tells p t found) :
    (Report.bench b).SameResult (.bench b') :=
  .bench (h.provenance.trans h'.provenance.symm) (h.length.trans h'.length.symm)
    (h.tieBreak.trans h'.tieBreak.symm) (Bool.eq_iff_iff.mpr (h.agreed.trans h'.agreed.symm))

/-- The report of a comparison can be hashed exactly if the length of the program is a
word. -/
theorem hash_of_tells (h : b.Tells p t found) :
    (∃ x, (Report.bench b).hash = .ok x) ↔ inWordRange p.length = true := by
  -- the timings do not count for the hash, so it does not matter what they hold
  have hbare : (Report.bench b).identity = (Report.bench { b with timings := [] }).identity := rfl
  have hwithin : (Value.obj (Report.bench b).identity).Within 4 := by
    rw [hbare]
    refine within_obj (nodup_identity _) fun m hm => ?_
    exact within_fields (r := .bench { b with timings := [] }) (fun _ hx => nomatch hx) m
      ((identity_sublist _).subset hm)
  simp only [reportHash_eq_ok_iff, hash?_eq_some_iff, exists_and_left, exists_eq', and_true]
  rw [isWritable_of_within hwithin (by decide), identity_bench, h.length]
  simp [Value.wordsOnly, membersWordsOnly, Provenance.fields]

/-- A comparison that has begun comes to tell a report of what single searches find. -/
theorem session_of_begins (h : p.Modest)
    (hfound : ∀ strategy, (p.locate strategy t).result = .ok (found strategy))
    (hc : c.Begins p t s begun) :
    ∃ b last, c.session s = c.tell b last ∧ b.Tells p t found := by
  obtain ⟨tss, last, hrun, htimings⟩ := exists_of_gives (gives_timings hfound hc.stopwatch hc.count)
  refine ⟨benchReport p t tss.flatten, last, ?_, tells_benchReport h hfound htimings⟩
  have hpart : (do
      let p ← readProgram c.path
      return (p, (← Strategy.all.mapM (timing p t c.count)).flatten)) begun =
        .ok (p, tss.flatten) last := by
    rw [bind_of_eq_ok hc.program, bind_of_eq_ok hrun]
    rfl
  have hcount : c.repeats.getD c.manner.settings.benchRepeats.toNat = c.count := rfl
  unfold Comparison.session bench
  dsimp only
  rw [hcount, bind_of_eq_ok hc.tieBreak, bind_of_eq_ok hc.noted,
    bind_of_eq_ok (reporting_of_eq_ok hpart)]
  rfl

/-- Every search of a program that loops and has a fix finds a repair. -/
theorem exists_repair (h : p.Modest) (hloop : ∃ a x k, p.run none {} = .ok ⟨.looped a x, k⟩)
    (hfix : p.Repairable) (strategy : Strategy) (t : TieBreak) :
    ∃ r, (p.locate strategy t).result = .ok r := by
  obtain ⟨a, x, k, hrun⟩ := hloop
  obtain ⟨candidate, hcandidate, _⟩ := repairable_iff.mp hfix
  have hzero : p.exitCode = 0 := by
    rw [exitCode_of_looped (List.ne_nil_of_mem hcandidate) (run_eq_ok_iff.mp hrun).1, if_pos hfix]
  rcases locate_code h strategy t with ⟨r, hr, _⟩ | ⟨f, _, hcode⟩
  · exact ⟨r, hr⟩
  · exact absurd (hcode.trans hzero) (exitCode_ne_zero f)

/-- A comparison does not depend on time. Of a program that loops and has a fix, any two
comparisons with one tie break come to tell reports of the same result, however often
each of them searches, whether or not it keeps a journal, and whatever its stopwatch
reads. Both tell the runs, the steps, the position and the accumulator that a single
search with each strategy gives, and the hash of both is the same; it is there exactly
if the length of the program is a word. They tell that the strategies agree exactly if
these find repairs at one position, which they always do by the lowest position. -/
theorem a_comparison_does_not_depend_on_time (p : Program) (t : TieBreak) (h : p.Modest)
    (hloop : ∃ a x k, p.run none {} = .ok ⟨.looped a x, k⟩) (hfix : p.Repairable) :
    ∃ found : Strategy → Repair,
      (∀ strategy, (p.locate strategy t).result = .ok (found strategy)) ∧
      ∀ (c c' : Comparison) (s begun s' begun' : Shell),
        c.Begins p t s begun → c'.Begins p t s' begun' →
        ∃ b b' last last', c.session s = c.tell b last ∧ c'.session s' = c'.tell b' last' ∧
          b.Tells p t found ∧ b'.Tells p t found ∧ b.agreed = b'.agreed ∧
          (t = .lowestIndex → b.agreed = true) ∧
          (Report.bench b).hash = (Report.bench b').hash ∧
          ((∃ x, (Report.bench b).hash = .ok x) ↔ inWordRange p.length = true) := by
  choose found hfound using fun s => exists_repair h hloop hfix s t
  refine ⟨found, hfound, fun c c' s begun s' begun' hc hc' => ?_⟩
  obtain ⟨b, last, hsession, htells⟩ := session_of_begins h hfound hc
  obtain ⟨b', last', hsession', htells'⟩ := session_of_begins h hfound hc'
  refine ⟨b, b', last, last', hsession, hsession', htells, htells', ?_, ?_, ?_, ?_⟩
  · exact Bool.eq_iff_iff.mpr (htells.agreed.trans htells'.agreed.symm)
  · rintro rfl
    have hsame := fix_of_lowestIndex h (hfound .naive) (hfound .speculative)
    exact htells.agreed.mpr (congrArg (fun f => f.candidate.position) hsame)
  · exact hash_of_sameResult (sameResult_of_tells htells htells')
  · exact hash_of_tells htells

/-- Once where the stopwatch stands still, and once where it runs to and fro, the
strategies are compared on the program with two fixes. -/
theorem two_comparisons_of_two_fixes_disagree_alike :
    let c : Comparison := ⟨⟨{}, true⟩, "boot.txt", some 3, some "execution_order", none⟩
    let c' : Comparison :=
      ⟨⟨{ tieBreak := .executionOrder }, false⟩, "boot.txt", none, none, none⟩
    let restless : Shell :=
      { bootShell with clock := ⟨fun _ => 0, fun k => if k % 2 = 0 then 9000 else 250, 0, 4⟩ }
    twoFixes.Modest ∧ twoFixes.run none {} = .ok ⟨.looped 0 0, 3⟩ ∧ twoFixes.Repairable ∧
      c.Begins twoFixes .executionOrder bootShell bootShell ∧
      c'.Begins twoFixes .executionOrder restless restless ∧
      ∃ b b' last last', c.session bootShell = c.tell b last ∧
        c'.session restless = c'.tell b' last' ∧ b.agreed = false ∧ b'.agreed = false ∧
        ∃ x, (Report.bench b).hash = .ok x ∧ (Report.bench b').hash = .ok x := by
  intro c c' restless
  have hmodest : twoFixes.Modest := by decide +kernel
  have hrun : twoFixes.run none {} = .ok ⟨.looped 0 0, 3⟩ := by decide +kernel
  have hfix : twoFixes.Repairable := by decide +kernel
  have hread : ∀ s : Shell, s.files = bootShell.files →
      readProgram "boot.txt" s = .ok twoFixes s := by
    intro s hs
    have hfile : s.files.find? "boot.txt" = some (.file (bytesOf twoFixes.render)) := by
      rw [hs]
      rfl
    rw [readProgram, bind_of_eq_ok (readFile_of_find? hfile), ofBytes_render]
    rfl
  have hc : c.Begins twoFixes .executionOrder bootShell bootShell :=
    ⟨by decide, rfl, begin_of_no_book rfl "bench", hread _ rfl,
      fun _ => (by decide : (0 : Int) ≤ 0 ∧ (0 : Int) < twoTo 63)⟩
  have hc' : c'.Begins twoFixes .executionOrder restless restless := by
    refine ⟨by decide, rfl, begin_of_no_book rfl "bench", hread _ rfl, fun k => ?_⟩
    dsimp only [restless]
    split <;> decide
  have hnaive : (twoFixes.locate .naive .executionOrder).result =
      .ok ⟨⟨⟨2, ⟨.jmp, -2⟩, ⟨.nop, -2⟩⟩, 0⟩, .naive, .executionOrder, ⟨4, 12, 3, 0⟩⟩ := by
    decide +kernel
  have hspeculative : (twoFixes.locate .speculative .executionOrder).result =
      .ok ⟨⟨⟨4, ⟨.jmp, -2⟩, ⟨.nop, -2⟩⟩, 1⟩, .speculative, .executionOrder, ⟨3, 7, 2, 0⟩⟩ := by
    decide +kernel
  obtain ⟨found, hfound, hboth⟩ := a_comparison_does_not_depend_on_time twoFixes .executionOrder
    hmodest ⟨_, _, _, hrun⟩ hfix
  obtain ⟨b, b', last, last', hsession, hsession', htells, _, hagreed, _, hhash, hword⟩ :=
    hboth c c' _ _ _ _ hc hc'
  have hdiffer : b.agreed = false := by
    have hfirst := Except.ok.inj ((hfound .naive).symm.trans hnaive)
    have hsecond := Except.ok.inj ((hfound .speculative).symm.trans hspeculative)
    rw [Bool.eq_false_iff, ne_eq, htells.agreed, hfirst, hsecond]
    decide
  obtain ⟨x, hx⟩ := hword.mpr (by decide)
  exact ⟨hmodest, hrun, hfix, hc, hc', b, b', last, last', hsession, hsession', hdiffer,
    hagreed ▸ hdiffer, x, hx, hhash ▸ hx⟩

end

end Command

end Unloop

-- How the commands on a program that keep no journal end. Each of them comes to the
-- exit code that the file foretells: with a failure where that is not zero, and else
-- after it has told what it found. Only a count that is no word can keep a command
-- from telling that as JSON.
import Unloop.Command
import Unloop.Proofs.Command.Results
import Unloop.Proofs.Repair.Codes
import Unloop.Proofs.Report.Identity

namespace Unloop.Command

open Json Number Text

/-! ## The pure model -/

/-- The exit code that the file of a program foretells for a command. -/
def foretold (verb : Verb) (bytes : Bytes) : Nat :=
  match Program.ofBytes bytes with
  | .error _ => 2
  | .ok p =>
    match verb with
    | .loop => if (p.run none {}).isOk then 0 else 3
    | _ => p.exitCode

/-- The file of a program with offsets that can be read, on fewer than `2 ^ 63`
lines. If it is one, its offsets are below `2 ^ 63` in total. -/
structure Material (bytes : Bytes) : Prop where
  offsets : ShortOffsets bytes
  lines : lineCount bytes < twoTo 63
  total : ∀ p, Program.ofBytes bytes = .ok p → p.total < twoTo 63

/-- A command has this file to work on, and no journal. -/
structure Working (program : String) (bytes : Bytes) (s : Shell) : Prop where
  book : s.book = none
  source : s.files.find? program = some (.file bytes)
  clock : s.clock.Fits

/-- The command came upon a failure with this exit code. -/
def Fails (code : Nat) (h : Halt) (s : Shell) : Prop :=
  ∃ f, h = .crash (.failure f) ∧ f.exitCode = code ∧ s.book = none

/-- The command comes to this exit code, unless it has found what it cannot tell. -/
def Settles (code : Nat) (told : Prop) (x : Session Unit) (s : Shell) : Prop :=
  Ends x s (fun _ _ => code = 0 ∧ told)
    fun h _ => code ≠ 0 ∧ h = .exit code ∨ ¬ told ∧ h = .crash .unwritable

/-- The timings of a strategy are one, of the repair that it finds, from brief times. -/
def Timed (p : Program) (tieBreak : TieBreak) (repeats : Nat) (strategy : Strategy)
    (ts : List Timing) : Prop :=
  ∃ repair ds, (p.locate strategy tieBreak).result = .ok repair ∧ AreBrief ds ∧ ds ≠ [] ∧
    ts = [timingOf strategy repeats repair ds]

/-- Wherever these searches of the program in a file find a repair, its steps are a
word, and so are some other counts. -/
def CountsFit (bytes : Bytes) (searches : List (Strategy × TieBreak)) (others : List Nat) : Prop :=
  ∀ p, Program.ofBytes bytes = .ok p → ∀ x ∈ searches, ∀ r, (p.locate x.1 x.2).result = .ok r →
    ∀ n ∈ r.stats.steps :: others, inWordRange n = true

section

variable {α β : Type} {f : α → Session β} {rest : α → Session Unit} {y : Session Unit}
  {s after : Shell} {program : String} {bytes : Bytes} {m : Manner} {p : Program}
  {r : Except Fault α} {v : Value} {code : Nat} {told : Prop} {wanted : α → Prop}
  {good : β → Shell → Prop} {strategy : Strategy} {tieBreak : TieBreak} {repair : Repair}

/-! ## Without a journal -/

theorem working_of_beside (h : Working program bytes s) (hb : Beside s after) :
    Working program bytes after where
  book := hb.book.trans h.book
  source := by
    rw [hb.files]
    exact h.source
  clock := by
    unfold Clock.Fits
    rw [hb.times, hb.stopwatch]
    exact h.clock

theorem note_of_no_book (h : s.book = none) (d : Except Fault Draft) : note d s = .ok () s := by
  unfold note
  simp only [bind, EStateM.bind, get_eq, h]
  rfl

theorem begin_of_no_book (h : s.book = none) (command : String) :
    begin m command program none s = .ok () s :=
  note_of_no_book h (Draft.start command (tidy program) m.settings)

/-- What is printed leaves the command with its file and without a journal. -/
theorem ends_working_bind {f : Unit → Session β} {stopped : Halt → Shell → Prop}
    (h : Working program bytes s) (hy : Gives y s fun _ s' => Beside s s')
    (hf : ∀ s', Working program bytes s' → Ends (f ()) s' good stopped) :
    Ends (y >>= f) s good stopped :=
  ends_bind_of_gives hy fun _ s' hbeside => hf s' (working_of_beside h hbeside)

/-! ## Failures -/

/-- A failure in the part of a command that reports it ends the command with its exit
code. -/
theorem settles_reporting_bind {part : Session α} {q : α → Shell → Prop}
    (hpart : Ends part s q (Fails code))
    (hrest : ∀ a s', q a s' → Settles code told (rest a) s') :
    Settles code told (reporting part >>= rest) s := by
  refine ends_bind (ends_reporting hpart ?_) hrest
  rintro failure s₁ ⟨rfl, hbook⟩
  refine ends_bind_of_gives (gives_logAll _ s₁) fun _ s₂ hlogged => ?_
  refine ends_bind_of_eq (note_of_no_book (hlogged.book.trans hbook) _) ?_
  refine ends_bind_of_gives (gives_printFailure failure s₂) fun _ s₃ _ => ?_
  exact ends_throw (Or.inl ⟨exitCode_ne_zero failure, rfl⟩)

/-- A result goes to the next step, or the command fails with the exit code. -/
theorem ends_orCrash_or_fails (h : s.book = none) (hr : WantedOrCode code r wanted)
    (hf : ∀ a, r = .ok a → wanted a → Ends (f a) s good (Fails code)) :
    Ends (orCrash r >>= f) s good (Fails code) := by
  rcases hr with ⟨a, ha, hwanted⟩ | ⟨failure, hfailure, hcode⟩
  · exact ends_orCrash_bind ha (hf a ha hwanted)
  · exact ends_bind_of_stops (ends_orCrash_error hfailure ⟨failure, rfl, hcode, h⟩)

/-! ## Telling what was found -/

theorem settles_of_gives {ok : Unit → Shell → Prop} (hy : Gives y s ok) (hcode : code = 0)
    (htold : told) : Settles code told y s :=
  ends_of_gives hy fun _ _ _ => ⟨hcode, htold⟩

theorem settles_bind_pure (h : Settles code told y s) :
    Settles code told (y >>= fun _ => pure ()) s :=
  ends_bind h fun _ _ hdone => ends_pure hdone

/-- A value that cannot be written is what the command cannot tell as JSON. -/
theorem settles_printValue {json fit : Prop} (hcode : code = 0) (hjson : json)
    (h : v.isWritable = true ↔ fit) : Settles code (json → fit) (printValue v) s := by
  by_cases hv : v.isWritable = true
  · exact settles_of_gives (gives_printValue hv s) hcode fun _ => h.mp hv
  · have hnone : orFault .unwritable v.canonical? = .error .unwritable := by
      rw [Value.canonical?, if_neg hv]
      rfl
    have htold : ¬ (json → fit) := fun hall => hv (h.mpr (hall hjson))
    exact ends_bind_of_stops (ends_orCrash_error hnone (Or.inr ⟨htold, rfl⟩))

/-! ## Programs -/

theorem Source.material (h : Source bytes) : Material bytes where
  offsets := h.offsets
  lines := Nat.lt_trans h.lines (by decide)
  total := h.total

theorem foretold_of_refused {verb : Verb} {fault : Fault} (h : Program.ofBytes bytes = .error fault) :
    foretold verb bytes = 2 := by
  rw [foretold, h]

theorem foretold_of_program {verb : Verb} (h : Program.ofBytes bytes = .ok p)
    (hverb : verb ≠ .loop) : foretold verb bytes = p.exitCode := by
  cases verb <;> first | exact absurd rfl hverb | rw [foretold, h]

/-- The file is a program, or it foretells the exit code of its refusal. -/
theorem program_code (h : Material bytes) (verb : Verb) :
    WantedOrCode (foretold verb bytes) (Program.ofBytes bytes) Program.Medium := by
  have hlines : lineCount bytes < tenTo digitLimit := Nat.lt_trans h.lines (by decide +kernel)
  rcases program_ofBytes_cases h.offsets hlines with ⟨p, hp, hlength⟩ | ⟨f, hf⟩
  · exact Or.inl ⟨p, hp, by rw [hlength]; exact h.lines, h.total p hp⟩
  · exact Or.inr ⟨f, hf, by rw [foretold_of_refused hf, exitCode_of_ofBytes hf]⟩

/-- The program is read, or the command fails as the file foretells. -/
theorem ends_program_bind {f : Program → Session β} (h : Working program bytes s)
    (hm : Material bytes) (verb : Verb)
    (hf : ∀ p, Program.ofBytes bytes = .ok p → p.Medium →
      Ends (f p) s good (Fails (foretold verb bytes))) :
    Ends (readProgram program >>= f) s good (Fails (foretold verb bytes)) := by
  unfold readProgram
  rw [bind_assoc]
  refine ends_readFile_bind h.source ?_
  exact ends_orCrash_or_fails h.book (program_code hm verb) hf

/-- A search finds a repair, or the command fails with the exit code of the program. -/
theorem ends_locate_or_fails (h : Working program bytes s) (hp : p.Medium) (strategy : Strategy)
    (tieBreak : TieBreak) :
    Ends (locate p strategy tieBreak) s
      (fun repair s' => Working program bytes s' ∧ p.exitCode = 0 ∧
        (p.locate strategy tieBreak).result = .ok repair)
      (Fails p.exitCode) := by
  refine ends_bind_of_gives (gives_logAll _ s) fun _ s' hlogged => ?_
  have h' := working_of_beside h hlogged
  rcases locate_code hp.modest strategy tieBreak with ⟨repair, hrepair, hzero⟩ |
    ⟨failure, hfailure, hcode⟩
  · exact ends_orCrash hrepair ⟨h', hzero, hrepair⟩
  · exact ends_orCrash_error hfailure ⟨failure, rfl, hcode, h'.book⟩

/-- Where a search finds a repair, it is the one whose counts are told. -/
theorem countsFit_of_found {others : List Nat} (hbytes : Program.ofBytes bytes = .ok p)
    (hrepair : (p.locate strategy tieBreak).result = .ok repair) :
    CountsFit bytes [(strategy, tieBreak)] others ↔
      ∀ n ∈ repair.stats.steps :: others, inWordRange n = true := by
  constructor
  · exact fun h => h p hbytes (strategy, tieBreak) (by simp) repair hrepair
  · intro h q hq x hx r hr
    obtain rfl := List.mem_singleton.mp hx
    obtain rfl := Except.ok.inj (hbytes.symm.trans hq)
    obtain rfl := Except.ok.inj (hrepair.symm.trans hr)
    exact h

theorem countsFit_cons {search : Strategy × TieBreak} {searches : List (Strategy × TieBreak)}
    {others : List Nat} :
    CountsFit bytes (search :: searches) others ↔
      CountsFit bytes [search] others ∧ CountsFit bytes searches others := by
  unfold CountsFit
  rw [← forall₂_and]
  exact forall₂_congr fun p _ => by rw [List.forall_mem_singleton, List.forall_mem_cons]

/-- A repair that is found fits exactly if its steps do. -/
theorem fits_iff_countsFit (hbytes : Program.ofBytes bytes = .ok p) (hp : p.Medium)
    (hrepair : (p.locate strategy tieBreak).result = .ok repair) :
    repair.Fits ↔ CountsFit bytes [(strategy, tieBreak)] [] := by
  rw [countsFit_of_found hbytes hrepair, List.forall_mem_singleton]
  exact ⟨Repair.Fits.steps, fits_of_steps hp hrepair⟩

/-! ## Following the loop -/

theorem loop_code (hbytes : Program.ofBytes bytes = .ok p) (hp : p.Medium) :
    WantedOrCode (foretold .loop bytes) (p.run none {}) fun _ => foretold .loop bytes = 0 := by
  have hforetold : foretold .loop bytes = if (p.run none {}).isOk then 0 else 3 := by
    rw [foretold, hbytes]
  rcases run_code hp.modest with ⟨o, ho, _⟩ | ⟨f, hf, hcode⟩
  · exact Or.inl ⟨o, ho, by rw [hforetold, ho]; rfl⟩
  · exact Or.inr ⟨f, hf, by rw [hforetold, hf, hcode]; rfl⟩

/-- A program is followed to its end or its loop. All that is then told are words. -/
theorem settles_loop (h : Working program bytes s) (hm : Material bytes) (htold : told)
    (trace : Bool) : Settles (foretold .loop bytes) told (loop m program trace none) s := by
  unfold loop
  refine ends_bind_of_eq (begin_of_no_book h.book "loop") ?_
  dsimp only
  generalize (trace || m.settings.recordTrace) = keeps
  refine settles_reporting_bind (q := fun a s' => Working program bytes s' ∧
    foretold .loop bytes = 0 ∧ a.1.Medium ∧ a.1.run none {} = .ok a.2.2 ∧
      ∀ row ∈ a.2.1.trace, row.Fits) ?_ ?_
  · refine ends_program_bind h hm .loop fun p hbytes hp => ?_
    refine ends_orCrash_or_fails h.book (loop_code hbytes hp) fun outcome houtcome hcode => ?_
    exact ends_pure ⟨h, hcode, hp, houtcome, fun row hrow => fits_of_mem_trace hp hrow⟩
  · rintro ⟨p, recorder, outcome⟩ s₁ ⟨hworking, hcode, hp, hrun, hrows⟩
    dsimp only at hp hrun hrows ⊢
    refine ends_ite_bind (gives_traceHash hrows keeps s₁) ?_
    rintro traceHash s₂ rfl
    have hreport := wordsOnly_outcome hp hrun traceHash
    refine ends_bind_of_eq (note_of_no_book hworking.book _) ?_
    by_cases hjson : m.asJson = true
    · rw [if_pos hjson]
      have hwritable := isWritable_traced hreport hrows keeps
      exact settles_of_gives (gives_printValue hwritable s₂) hcode htold
    · rw [if_neg hjson]
      exact settles_of_gives (gives_printRun hreport hrows keeps s₂) hcode htold

/-! ## Running and repairing -/

/-- After its run a program is repaired, or the command fails with its exit code. -/
theorem ends_repaired_or_fails {f : Repair → Session β} (h : Working program bytes s)
    (hp : p.Medium) (strategy : Strategy) (tieBreak : TieBreak)
    (hf : ∀ repair s', Working program bytes s' → p.exitCode = 0 →
      (p.locate strategy tieBreak).result = .ok repair → Ends (f repair) s' good (Fails p.exitCode)) :
    Ends (do
        let repair ← locate p strategy tieBreak
        noteReport (.repair (repair.report p none))
        f repair) s good (Fails p.exitCode) := by
  refine ends_bind (ends_locate_or_fails h hp strategy tieBreak) ?_
  rintro repair s₁ ⟨h₁, hcode, hrepair⟩
  exact ends_bind_of_eq (note_of_no_book h₁.book _) (hf repair s₁ h₁ hcode hrepair)

/-- A program is run and then repaired. -/
theorem settles_run (h : Working program bytes s) (hm : Material bytes) :
    Settles (foretold .run bytes)
      (m.asJson = true → CountsFit bytes [(m.settings.strategy, m.settings.tieBreak)] [])
      (run m program none) s := by
  unfold run
  refine ends_bind_of_eq (begin_of_no_book h.book "run") ?_
  refine settles_reporting_bind (q := fun a s' => Working program bytes s' ∧
    foretold .run bytes = 0 ∧ (Report.run a.1).toValue.wordsOnly = true ∧ a.2.2.Legible ∧
      ((Report.repair a.2.1).toValue.wordsOnly = true ↔
        CountsFit bytes [(m.settings.strategy, m.settings.tieBreak)] [])) ?_ ?_
  · refine ends_program_bind h hm .run fun p hbytes hp => ?_
    rw [foretold_of_program hbytes (by decide)]
    refine ends_orCrash_or_fails h.book (run_exitCode hp.modest) fun outcome houtcome _ => ?_
    have hfirst := wordsOnly_outcome hp houtcome none
    have hcounts : ∀ {repair}, (p.locate m.settings.strategy m.settings.tieBreak).result =
        .ok repair → ((Report.repair (repair.report p none)).toValue.wordsOnly = true ↔
          CountsFit bytes [(m.settings.strategy, m.settings.tieBreak)] []) := fun hrepair =>
      (wordsOnly_repair_iff p none).trans (fits_iff_countsFit hbytes hp hrepair)
    dsimp only
    refine ends_bind_of_eq (note_of_no_book h.book _) ?_
    by_cases hshown : (!m.asJson) = true
    · rw [if_pos hshown]
      refine ends_shown_bind (writable_of_inWordRange (word_accumulator hfirst)) ?_
      refine ends_working_bind h (gives_printLines _ _) fun s₁ h₁ => ?_
      refine ends_repaired_or_fails h₁ hp _ _ fun repair s₂ h₂ hcode hrepair => ?_
      exact ends_pure ⟨h₂, hcode, hfirst, legible_of_repair hp hrepair, hcounts hrepair⟩
    · rw [if_neg hshown]
      refine ends_repaired_or_fails h hp _ _ fun repair s₁ h₁ hcode hrepair => ?_
      exact ends_pure ⟨h₁, hcode, hfirst, legible_of_repair hp hrepair, hcounts hrepair⟩
  · rintro ⟨first, second, repair⟩ s₁ ⟨_, hcode, hfirst, hlegible, hcounts⟩
    dsimp only at hfirst hlegible hcounts ⊢
    by_cases hjson : m.asJson = true
    · rw [if_pos hjson]
      refine settles_printValue hcode hjson ?_
      rw [isWritable_both_iff, and_iff_right hfirst, hcounts]
    · rw [if_neg hjson]
      refine ends_shown_bind hlegible.accumulator ?_
      exact settles_of_gives (gives_printLines _ s₁) hcode fun hset => absurd hset hjson

/-! ## Repairing -/

/-- What identifies the report of a repair can be written, however many steps the
search took. -/
theorem hash_of_repair (hp : p.Medium)
    (hrepair : (p.locate strategy tieBreak).result = .ok repair) (verified : Option Bool) :
    ∃ hash, (Report.repair (repair.report p verified)).hash = .ok hash := by
  obtain ⟨hposition, haccumulator, _⟩ := words_of_repair hp hrepair
  have hwritable : (Value.obj (Report.repair (repair.report p verified)).identity).isWritable =
      true := by
    refine (isWritable_obj_iff fun m hm => ?_).mpr ?_
    · have hfield := (identity_sublist _).subset hm
      have hwithin := within_fields (r := .repair (repair.report p verified)) trivial m hfield
      exact Nat.le_trans hwithin.2 (by decide)
    · rw [identity_repair]
      simp [Provenance.fields, Repair.report, Value.wordsOnly, hposition, haccumulator]
  exact ⟨_, reportHash_eq_ok_iff.mpr (hash?_eq_some_iff.mpr ⟨hwritable, rfl⟩)⟩

/-- A program is repaired, and a repair that is verified holds. -/
theorem settles_repair (h : Working program bytes s) (hm : Material bytes)
    {strategyWord tieBreakWord : Option String}
    (hstrategy : choice Strategy.ofName m.settings.strategy strategyWord s = .ok strategy s)
    (htieBreak : choice TieBreak.ofName m.settings.tieBreak tieBreakWord s = .ok tieBreak s)
    (verify : Bool) :
    Settles (foretold .repair bytes)
      (m.asJson = true → CountsFit bytes [(strategy, tieBreak)] [])
      (Command.repair m program strategyWord tieBreakWord verify none) s := by
  unfold Command.repair
  refine ends_bind_of_eq hstrategy (ends_bind_of_eq htieBreak ?_)
  refine ends_bind_of_eq (begin_of_no_book h.book "repair") ?_
  refine settles_reporting_bind (q := fun a s' => Working program bytes s' ∧
    foretold .repair bytes = 0 ∧ a.1.Medium ∧ Program.ofBytes bytes = .ok a.1 ∧
      (a.1.locate strategy tieBreak).result = .ok a.2.1 ∧ a.2.2 ≠ some false) ?_ ?_
  · refine ends_program_bind h hm .repair fun p hbytes hp => ?_
    rw [foretold_of_program hbytes (by decide)]
    refine ends_bind (ends_locate_or_fails h hp _ _) ?_
    rintro repair s₁ ⟨h₁, hcode, hrepair⟩
    refine ends_ite_bind (gives_verified hp.modest hrepair verify s₁) ?_
    rintro verified s₂ ⟨rfl, htrue⟩
    exact ends_pure ⟨h₁, hcode, hp, hbytes, hrepair, htrue⟩
  · rintro ⟨p, repair, verified⟩ s₁ ⟨h₁, hcode, hp, hbytes, hrepair, htrue⟩
    dsimp only at hp hbytes hrepair htrue ⊢
    have hcounts := fits_iff_countsFit hbytes hp hrepair
    refine ends_bind_of_eq (note_of_no_book h₁.book _) ?_
    -- the exit code 1 is for a repair that does not hold, which none does
    have hholds : (verified == some false) = false := by simpa using htrue
    simp only [hholds, Bool.false_eq_true, if_false]
    by_cases hjson : m.asJson = true
    · rw [if_pos hjson]
      obtain ⟨hash, hhash⟩ := hash_of_repair hp hrepair verified
      refine ends_orCrash_bind hhash (settles_bind_pure (settles_printValue hcode hjson ?_))
      rw [isWritable_hashed_iff, wordsOnly_repair_iff, hcounts]
    · rw [if_neg hjson]
      refine ends_bind_of_gives (gives_repairTable (legible_of_repair hp hrepair) p verified) ?_
      rintro table s₂ rfl
      refine settles_bind_pure ?_
      exact settles_of_gives (gives_printLines _ s₂) hcode fun hset => absurd hset hjson

/-! ## Comparing the strategies -/

/-- A strategy is timed, at least once. -/
theorem ends_timing_or_fails (h : Working program bytes s) (hp : p.Medium) (tieBreak : TieBreak)
    {repeats : Nat} (hrepeats : 0 < repeats) (strategy : Strategy) :
    Ends (timing p tieBreak repeats strategy) s
      (fun ts s' => Working program bytes s' ∧
        p.exitCode = 0 ∧ Timed p tieBreak repeats strategy ts)
      (Fails p.exitCode) := by
  refine ends_mono (ends_timing_of_locate h working_of_beside (fun hs => hs.clock.brief)
    (fun hs => ends_locate_or_fails hs hp strategy tieBreak) hrepeats) ?_ fun _ _ h => h
  rintro ts s₁ ⟨h₁, repair, ds, ⟨hcode, hrepair⟩, hbrief, hne, rfl⟩
  exact ⟨h₁, hcode, repair, ds, hrepair, hbrief, hne, rfl⟩

theorem exists_of_mem_timings {repeats : Nat} {strategies : List Strategy}
    {found : List (List Timing)} {t : Timing}
    (h : List.Forall₂ (Timed p tieBreak repeats) strategies found) (ht : t ∈ found.flatten) :
    ∃ strategy repair ds, (p.locate strategy tieBreak).result = .ok repair ∧ AreBrief ds ∧
      ds ≠ [] ∧ t = timingOf strategy repeats repair ds := by
  obtain ⟨ts, hts, ht⟩ := List.mem_flatten.mp ht
  have hall : List.Forall₂ (fun _ ts => ∃ strategy, Timed p tieBreak repeats strategy ts)
      strategies found := h.imp fun strategy _ htimed => ⟨strategy, htimed⟩
  obtain ⟨strategy, repair, ds, hrepair, hbrief, hne, rfl⟩ := forall_of_forall₂ hall ts hts
  exact ⟨strategy, repair, ds, hrepair, hbrief, hne, List.mem_singleton.mp ht⟩

/-- All timings fit exactly if the counts do. -/
theorem fits_timings_iff {repeats : Nat} {strategies : List Strategy} {found : List (List Timing)}
    (hbytes : Program.ofBytes bytes = .ok p) (hp : p.Medium)
    (h : List.Forall₂ (Timed p tieBreak repeats) strategies found) :
    (∀ t ∈ found.flatten, t.Fits) ↔
      CountsFit bytes (strategies.map fun strategy => (strategy, tieBreak)) [repeats] := by
  induction h with
  | nil =>
    refine iff_of_true (by simp) ?_
    intro q hq x hx
    cases hx
  | @cons strategy ts strategies found htimed _ ih =>
    obtain ⟨repair, ds, hrepair, hbrief, hne, rfl⟩ := htimed
    have hfirst : (timingOf strategy repeats repair ds).Fits ↔
        CountsFit bytes [(strategy, tieBreak)] [repeats] := by
      rw [countsFit_of_found hbytes hrepair]
      simp only [List.forall_mem_cons, List.not_mem_nil, false_implies, implies_true, and_true]
      constructor
      · exact fun hfits => ⟨hfits.steps, hfits.repeats⟩
      · rintro ⟨hsteps, hword⟩
        exact fits_timingOf (fits_of_steps hp hrepair hsteps) hbrief hne hword strategy
    rw [List.flatten_cons, List.forall_mem_append, List.forall_mem_singleton, hfirst, ih,
      List.map_cons, ← countsFit_cons]

/-- The strategies are compared on a program. -/
theorem settles_bench (h : Working program bytes s) (hm : Material bytes)
    {repeats : Option Nat} (hrepeats : 0 < repeats.getD m.settings.benchRepeats.toNat)
    {tieBreakWord : Option String}
    (htieBreak : choice TieBreak.ofName m.settings.tieBreak tieBreakWord s = .ok tieBreak s) :
    Settles (foretold .bench bytes)
      (m.asJson = true → CountsFit bytes (Strategy.all.map fun strategy => (strategy, tieBreak))
        [repeats.getD m.settings.benchRepeats.toNat])
      (bench m program repeats tieBreakWord none) s := by
  unfold bench
  dsimp only
  generalize repeats.getD m.settings.benchRepeats.toNat = repeats at hrepeats ⊢
  refine ends_bind_of_eq htieBreak ?_
  refine ends_bind_of_eq (begin_of_no_book h.book "bench") ?_
  refine settles_reporting_bind (q := fun a s' => Working program bytes s' ∧
    foretold .bench bytes = 0 ∧ a.1.Medium ∧ Program.ofBytes bytes = .ok a.1 ∧
      ∃ found, a.2 = found.flatten ∧
        List.Forall₂ (Timed a.1 tieBreak repeats) Strategy.all found) ?_ ?_
  · refine ends_program_bind h hm .bench fun p hbytes hp => ?_
    rw [foretold_of_program hbytes (by decide)]
    refine ends_bind (ends_mapM_forall₂ h fun strategy _ s₁ h₁ =>
      ends_timing_or_fails h₁ hp tieBreak hrepeats strategy) ?_
    rintro found s₁ ⟨h₁, hfound⟩
    have hcode : p.exitCode = 0 := by
      cases hfound with
      | cons hfirst _ => exact hfirst.1
    exact ends_pure ⟨h₁, hcode, hp, hbytes, found, rfl, hfound.imp fun _ _ htimed => htimed.2⟩
  · rintro ⟨p, timings⟩ s₁ ⟨h₁, hcode, hp, hbytes, found, rfl, hfound⟩
    dsimp only at hp hbytes hfound ⊢
    refine ends_bind_of_eq (note_of_no_book h₁.book _) ?_
    by_cases hjson : m.asJson = true
    · rw [if_pos hjson]
      have hfinite : (Report.bench (benchReport p tieBreak found.flatten)).HasFiniteFloats := by
        intro t ht
        obtain ⟨_, _, _, _, hbrief, hne, rfl⟩ := exists_of_mem_timings hfound ht
        exact ⟨isFinite_best hbrief, isFinite_mean hbrief hne⟩
      have hwords := isWritable_of_within (within_report hfinite) (by decide)
      refine settles_printValue hcode hjson ?_
      rw [← fits_timings_iff hbytes hp hfound, ← wordsOnly_bench_iff hp hfinite, ← hwords]
      exact Iff.rfl
    · rw [if_neg hjson]
      have hlegible : ∀ t ∈ (benchReport p tieBreak found.flatten).timings, t.Legible := by
        intro t ht
        obtain ⟨strategy, _, _, hrepair, _, _, rfl⟩ := exists_of_mem_timings hfound ht
        exact legible_timingOf (legible_of_repair hp hrepair) strategy
      refine ends_bind_of_gives (gives_benchTable hlegible repeats) ?_
      rintro table s₂ rfl
      refine ends_working_bind h₁ (gives_printLines _ _) fun s₃ _ => ?_
      exact settles_of_gives (gives_printLines _ s₃) hcode fun hset => absurd hset hjson

end

end Unloop.Command

-- Exit codes of whole commands, from their arguments on. A command on a program that
-- keeps no journal ends with the exit code that the file of the program foretells,
-- whatever else it is given, as long as it can tell what it finds.
import Unloop.Proofs.Command.Journals
import Unloop.Proofs.Command.Outcomes
import Mathlib.Data.List.TakeWhile

namespace Unloop.Command

open Form Json Number Text

/-! ## The pure model -/

/-- The arguments call for a command on a program, without a journal. -/
structure Job.Works (job : Job) (s : Shell) (args : List String) : Prop
    extends job.Called s args where
  verb : job.verb ∈ [.run, .loop, .repair, .bench]
  journal : job.own.text? "--journal" = none
  program : s.files.find? job.own.path = some (.file job.source)
  material : Material job.source
  clock : s.clock.Fits

/-- What a word names, or what is settled where there is none. -/
def chosen {α : Type} (ofName : String → Except Fault α) (settled : α) (word : Option String) : α :=
  (word.bind fun w => (ofName w).toOption).getD settled

/-- The strategy of a repair. -/
def Job.strategy (job : Job) : Strategy :=
  chosen Strategy.ofName job.settled.strategy (job.own.filledText? "--strategy")

/-- The tie break of a repair or a comparison. -/
def Job.tieBreak (job : Job) : TieBreak :=
  chosen TieBreak.ofName job.settled.tieBreak (job.own.filledText? "--tie-break")

/-- How often a comparison times each strategy. -/
def Job.repeats (job : Job) : Nat :=
  (job.own.count? "--repeats").getD job.settled.benchRepeats.toNat

/-- The searches that the command makes. -/
def Job.searches (job : Job) : List (Strategy × TieBreak) :=
  match job.verb with
  | .run => [(job.settled.strategy, job.settled.tieBreak)]
  | .repair => [(job.strategy, job.tieBreak)]
  | .bench => Strategy.all.map fun strategy => (strategy, job.tieBreak)
  | .loop | .journal | .schema => []

/-- The counts that the command tells beside those of its searches. -/
def Job.others (job : Job) : List Nat := if job.verb = .bench then [job.repeats] else []

/-- If the command tells what it finds as JSON, all of its counts are words. -/
def Job.CanTell (job : Job) : Prop :=
  job.common.isSet "--json" = true → CountsFit job.source job.searches job.others

section

variable {job : Job} {s : Shell} {args : List String}

/-! ## Repeats -/

theorem count_pos_of_parameter {parameter : Parameter} {files : Files} {value : String} {n : Nat}
    (h : parameter.read files value = .ok (.count n)) : 0 < n := by
  unfold Parameter.read at h
  rcases hkind : parameter.kind with _ | _ | mustExist | _ | _ <;> simp only [hkind] at h
  · cases h
  · cases h
  · cases hpath : checkPath files parameter.name mustExist value <;> rw [hpath] at h <;> cases h
  · cases hpath : checkLookup value <;> rw [hpath] at h <;> cases h
  · rcases hcount : atLeast 1 (.str value) with k | issues <;> rw [hcount] at h <;> cases h
    obtain ⟨_, hpos⟩ := atLeast_eq_ok_iff.mp hcount
    omega

/-- The values that are read are those of the options that were given. -/
theorem exists_of_mem_options {spec : Spec} {files : Files} {vs : Values} {o : String × Datum}
    (h : spec.read files args = .ok vs) (ho : o ∈ vs.options) :
    ∃ parameter value, Parameter.read parameter files value = .ok o.2 := by
  unfold Spec.read at h
  obtain ⟨sorted, _, h⟩ := bind_eq_ok_iff.mp h
  obtain ⟨options, hoptions, h⟩ := bind_eq_ok_iff.mp h
  have hsame : vs.options = options := by
    dsimp only at h
    split at h
    · obtain ⟨_, _, h⟩ := bind_eq_ok_iff.mp h
      split at h <;> cases h
      rfl
    · cases h
    · obtain ⟨_, _, h⟩ := bind_eq_ok_iff.mp h
      split at h <;> cases h
      rfl
  rw [hsame] at ho
  obtain ⟨g, _, hread⟩ := exists_of_mem_mapM hoptions ho
  rcases hdatum : g.parameter.read files g.value with halt | d <;> rw [hdatum] at hread <;>
    cases hread
  exact ⟨g.parameter, g.value, hdatum⟩

/-- A number that an option is given is at least one. -/
theorem count_pos {spec : Spec} {files : Files} {vs : Values} {name : String} {n : Nat}
    (h : spec.read files args = .ok vs) (hn : vs.count? name = some n) : 0 < n := by
  have hdatum : vs.datum? name = some (.count n) := by
    unfold Values.count? at hn
    split at hn <;> cases hn
    assumption
  obtain ⟨o, hfind, hcount⟩ := Option.map_eq_some_iff.mp hdatum
  obtain ⟨parameter, value, hread⟩ := exists_of_mem_options h (List.mem_of_find?_eq_some hfind)
  rw [hcount] at hread
  exact count_pos_of_parameter hread

theorem repeats_pos (h : job.Called s args) : 0 < job.repeats := by
  obtain ⟨_, _, _, _, hown⟩ := h.own
  unfold Job.repeats
  rcases hcount : job.own.count? "--repeats" with _ | n
  · have hleast := benchRepeats_of_settingsFrom h.settings
    rw [settled_benchRepeats, Option.getD_none]
    omega
  · exact count_pos hown hcount

/-! ## Whole commands -/

theorem choice_eq_chosen {α : Type} {ofName : String → Except Fault α} {settled : α}
    {word : Option String} (h : Names ofName word) (s : Shell) :
    choice ofName settled word s = .ok (chosen ofName settled word) s := by
  cases word with
  | none => rfl
  | some w =>
    obtain ⟨a, ha⟩ := h w rfl
    simp only [choice, chosen, Option.bind_some, ha]
    rfl

theorem working_of_works (h : job.Works s args) (level : Level) :
    Working job.own.path job.source { s.fresh with level := level } where
  book := rfl
  source := h.program
  clock := h.clock

/-- A command whose words are understood comes to the exit code that its file
foretells, unless it has found what it cannot tell. -/
theorem settles_perform (h : job.Works s args) (hwords : job.Understood) :
    Settles (foretold job.verb job.source) job.CanTell (perform args) s.fresh := by
  obtain ⟨level, hlevel⟩ := hwords.level
  refine ends_perform_of_level h.toCalled hlevel fun more hown => ?_
  have hworking := working_of_works h level
  unfold Job.CanTell Job.searches Job.others
  cases hverb : job.verb with
  | run =>
    rw [hverb] at hown
    refine ends_bind_of_eq (reading_of_read hown) ?_
    rw [h.journal]
    exact settles_run hworking h.material
  | loop =>
    rw [hverb] at hown
    refine ends_bind_of_eq (reading_of_read hown) ?_
    rw [h.journal]
    exact settles_loop hworking h.material (fun _ _ _ _ hx => nomatch hx) _
  | repair =>
    rw [hverb] at hown
    refine ends_bind_of_eq (reading_of_read hown) ?_
    rw [h.journal]
    exact settles_repair hworking h.material (choice_eq_chosen (hwords.strategy hverb) _)
      (choice_eq_chosen (hwords.tieBreak (Or.inl hverb)) _) _
  | bench =>
    rw [hverb] at hown
    refine ends_bind_of_eq (reading_of_read hown) ?_
    rw [h.journal]
    refine settles_bench hworking h.material ?_ (choice_eq_chosen (hwords.tieBreak (Or.inr hverb)) _)
    exact repeats_pos h.toCalled
  | journal => exact absurd (hverb ▸ h.verb) (by decide)
  | schema => exact absurd (hverb ▸ h.verb) (by decide)

/-- The two ways in which such a command finishes. -/
theorem finish_cases (h : job.Works s args) (hwords : job.Understood) :
    (execute s args).1 = .exit (foretold job.verb job.source) ∧
        (foretold job.verb job.source ≠ 0 ∨ job.CanTell) ∨
      ¬ job.CanTell ∧ (execute s args).1 = .crash .unwritable := by
  rcases execute_of_ends (settles_perform h hwords) with ⟨hfinish, hzero, htold⟩ |
    ⟨_, hfinish, ⟨hcode, rfl⟩ | ⟨htold, rfl⟩⟩
  · exact Or.inl ⟨by rw [hfinish, hzero], Or.inr htold⟩
  · exact Or.inl ⟨hfinish, Or.inl hcode⟩
  · exact Or.inr ⟨htold, hfinish⟩

/-- On fewer than `2 ^ 32` lines the steps of every search are a word. -/
theorem tells_of_lines (hm : Material job.source) (hlines : lineCount job.source < twoTo 32)
    (hrepeats : job.repeats < twoTo 64) : job.CanTell := by
  intro _ p hp x _ r hr
  have hlength : p.length = lineCount job.source := by
    have hwritten : lineCount job.source < tenTo digitLimit :=
      Nat.lt_trans hlines (by decide +kernel)
    rcases program_ofBytes_cases hm.offsets hwritten with ⟨q, hq, hlength⟩ | ⟨f, hf⟩
    · rw [Except.ok.inj (hp.symm.trans hq), hlength]
    · rw [hp] at hf
      cases hf
  have hsmall : p.Small := ⟨by rw [hlength]; exact hlines, hm.total p hp⟩
  refine List.forall_mem_cons.mpr ⟨(fits_of_repair hsmall hr).steps, fun n hn => ?_⟩
  unfold Job.others at hn
  split at hn
  · rw [List.mem_singleton.mp hn]
    exact inWordRange_natCast hrepeats
  · cases hn

/-- The exit code of a command on a program depends on the file of the program alone,
and not on the strategy, the tie break, the number of repeats, the way in which the
results are printed, and whether a repair is verified. Running, repairing and
comparing have one exit code: 2 for a file that is no program, 3 for a program that
its run leaves, 4 where there is nothing to flip or no flip makes it end, 5 where it
ends as it is, and else 0. Following the loop has the first two of them, or 0. As JSON
only counts can be told that are words, as they are on fewer than `2 ^ 32` lines. -/
theorem the_exit_code_depends_on_the_program_alone (h : job.Works s args)
    (hwords : job.Understood) :
    (job.CanTell → (execute s args).1 = .exit (foretold job.verb job.source)) ∧
      (lineCount job.source < twoTo 32 → job.repeats < twoTo 64 → job.CanTell) := by
  refine ⟨fun htold => ?_, tells_of_lines h.material⟩
  rcases finish_cases h hwords with ⟨hfinish, _⟩ | ⟨hno, _⟩
  · exact hfinish
  · exact absurd htold hno

/-- The arguments that compare the strategies on the program with two fixes. -/
def compareArgs (repeats : String) : List String :=
  ["--json", "bench", "boot.txt", "--repeats", repeats]

/-- The command that they call for. -/
def compareJob (word : String) (repeats : Nat) : Job where
  verb := .bench
  common := ⟨[("--json", .set)], "", ["bench", "boot.txt", "--repeats", word]⟩
  own := ⟨[("--repeats", .count repeats)], "boot.txt", []⟩
  settings := {}
  journal := ""
  source := bytesOf twoFixes.render

theorem works_compare {word : String} {repeats : Nat}
    (hown : benchSpec.read bootShell.files ["boot.txt", "--repeats", word] =
      .ok (compareJob word repeats).own) :
    (compareJob word repeats).Works bootShell (compareArgs word) where
  common := rfl
  own := ⟨"bench", _, rfl, rfl, hown⟩
  settings := rfl
  verb := by
    have hverb : (compareJob word repeats).verb = .bench := rfl
    rw [hverb]
    decide
  journal := rfl
  program := (rfl : bootShell.files.find? "boot.txt" = some (.file (bytesOf twoFixes.render)))
  material := (source_of_small ⟨by decide, by decide⟩).material
  clock := by
    have hzero : (0 : Int) ≤ 0 ∧ (0 : Int) < twoTo 63 := by decide
    exact fun _ => ⟨hzero, hzero⟩

theorem understood_compare (word : String) (repeats : Nat) :
    (compareJob word repeats).Understood where
  level := by
    have hlevel : (compareJob word repeats).settled.logLevel = "WARNING" := rfl
    rw [hlevel]
    exact ⟨.warning, rfl⟩
  strategy := fun h => by cases h
  tieBreak := fun _ _ hw => by cases hw

theorem foretold_compare : foretold .bench (bytesOf twoFixes.render) = 0 := by
  rw [foretold_of_program (ofBytes_render twoFixes) (by decide)]
  decide +kernel

theorem the_strategies_are_compared_on_two_fixes :
    (compareJob "3" 3).Works bootShell (compareArgs "3") ∧ (compareJob "3" 3).Understood ∧
      (execute bootShell (compareArgs "3")).1 = .exit 0 := by
  have hworks : (compareJob "3" 3).Works bootShell (compareArgs "3") := works_compare rfl
  have hwords := understood_compare "3" 3
  have hlines := (source_of_small (p := twoFixes) ⟨by decide, by decide⟩).lines
  obtain ⟨hcode, htold⟩ := the_exit_code_depends_on_the_program_alone hworks hwords
  have hrepeats : (compareJob "3" 3).repeats < twoTo 64 := by decide
  refine ⟨hworks, hwords, ?_⟩
  rw [hcode (htold hlines hrepeats)]
  exact congrArg Finish.exit foretold_compare

/-! ## Numbers of repeats that are too great -/

/-- A number with more digits than can be read is told to be too long. -/
theorem ofChars_of_long {c : Char} {cs : List Char} (hdigits : ∀ d ∈ c :: cs, isDigit d = true)
    (hzero : c ≠ '0') (hlong : digitLimit < (c :: cs).length) :
    Numeral.ofChars (c :: cs) = .tooLong := by
  have hminus : c ≠ '-' := by
    rintro rfl
    exact absurd (hdigits '-' (by simp)) (by decide)
  have hplain : Numeral.ofPlain (c :: cs) = .tooLong := by
    unfold Numeral.ofPlain
    split
    rename_i hsplit
    split at hsplit
    · rename_i heq
      exact absurd (List.cons.inj heq).1 hminus
    · cases hsplit
      split
      · rename_i heq
        cases heq
      · rename_i heq
        exact absurd (List.cons.inj heq).1 hzero
      · rename_i heq
        exact absurd (List.cons.inj heq).1 hzero
      · rw [List.takeWhile_eq_self_iff.mpr hdigits, if_pos hlong]
  unfold Numeral.ofChars
  rw [hplain]

/-- An option that takes a number refuses one that is too long. -/
theorem read_of_long (name : String) (files : Files) {c : Char} {cs : List Char}
    (hdigits : ∀ d ∈ c :: cs, isDigit d = true) (hzero : c ≠ '0')
    (hlong : digitLimit < (c :: cs).length) :
    Parameter.read ⟨name, .count⟩ files (String.ofList (c :: cs)) =
      .error (.usage (.badValue (some name) (countReason [⟨.numberTooLong, []⟩]))) := by
  have hcount : atLeast 1 (.str (String.ofList (c :: cs))) = .flaw .numberTooLong := by
    unfold atLeast whole
    dsimp only
    rw [String.toList_ofList, ofChars_of_long hdigits hzero hlong]
    rfl
  unfold Parameter.read
  dsimp only
  rw [hcount]
  rfl

theorem read_compare_of_refused {word : String} {halt : Halt}
    (h : Parameter.read ⟨"--repeats", .count⟩ bootShell.files word = .error halt) :
    benchSpec.read bootShell.files ["boot.txt", "--repeats", word] = .error halt := by
  have hsort : benchSpec.sort ["boot.txt", "--repeats", word] =
      .ok ⟨[⟨⟨"--repeats", .count⟩, word⟩], ["boot.txt"]⟩ := rfl
  have hlast : lastValues [⟨⟨"--repeats", .count⟩, word⟩] = [⟨⟨"--repeats", .count⟩, word⟩] := rfl
  unfold Spec.read
  rw [hsort]
  simp only [Except.mapError]
  refine bind_eq_error_iff.mpr (Or.inr ⟨_, rfl, bind_eq_error_iff.mpr (Or.inl ?_)⟩)
  simp only [hlast, List.mapM_cons, h]
  rfl

/-- A comparison whose number of repeats is refused ends there. -/
theorem finish_of_refused {word : String} {u : Usage}
    (h : Parameter.read ⟨"--repeats", .count⟩ bootShell.files word = .error (.usage u)) :
    (execute bootShell (compareArgs word)).1 = .usage u := by
  obtain ⟨level, hlevel⟩ := (understood_compare word 0).level
  have hends : Ends (perform (compareArgs word)) bootShell.fresh (fun _ _ => False)
      (fun halt _ => halt = .usage u) := by
    have hcommon : mainSpec.read bootShell.files (compareArgs word) =
        .ok (compareJob word 0).common := rfl
    refine ends_perform_of_name hcommon rfl rfl rfl hlevel ?_
    exact ends_bind_of_error (reading_of_refused (read_compare_of_refused h)) rfl
  rcases execute_of_ends hends with ⟨_, hfalse⟩ | ⟨_, hfinish, rfl⟩
  · exact hfalse.elim
  · exact hfinish

/-- The program with two fixes loops and a flip makes it end, which foretells the exit
code 0. With a number of repeats of 4301 digits the command is refused and has the
exit code 2, and with one of 65 bits it searches and cannot tell its timings as
JSON. -/
theorem a_number_of_repeats_can_be_too_great :
    foretold .bench (bytesOf twoFixes.render) = 0 ∧
      (execute bootShell (compareArgs (String.ofList ('1' :: List.replicate 4300 '0')))).1.code =
        2 ∧
      (execute bootShell (compareArgs "18446744073709551616")).1 = .crash .unwritable := by
  refine ⟨foretold_compare, ?_, ?_⟩
  · have hdigits : ∀ d ∈ '1' :: List.replicate 4300 '0', isDigit d = true := by
      refine List.forall_mem_cons.mpr ⟨rfl, fun d hd => ?_⟩
      rw [List.eq_of_mem_replicate hd]
      rfl
    have hlong : digitLimit < ('1' :: List.replicate 4300 '0').length := by
      rw [List.length_cons, List.length_replicate]
      decide
    rw [finish_of_refused (read_of_long "--repeats" bootShell.files hdigits (by decide) hlong)]
    rfl
  · have hworks : (compareJob "18446744073709551616" 18446744073709551616).Works bootShell
        (compareArgs "18446744073709551616") := works_compare rfl
    rcases finish_cases hworks (understood_compare _ _) with ⟨_, hcode | htold⟩ | ⟨_, hfinish⟩
    · exact absurd foretold_compare hcode
    · have hmodest : twoFixes.Modest := by decide +kernel
      have hzero : twoFixes.exitCode = 0 := by decide +kernel
      rcases locate_code hmodest .naive .lowestIndex with ⟨r, hr, _⟩ | ⟨f, _, hcode⟩
      · have hword := htold rfl twoFixes (ofBytes_render twoFixes) (.naive, .lowestIndex)
          (by decide) r hr 18446744073709551616 (List.mem_cons_of_mem _ List.mem_cons_self)
        exact absurd hword (by decide)
      · exact absurd (hcode.trans hzero) (exitCode_ne_zero f)
    · exact hfinish

end

end Unloop.Command

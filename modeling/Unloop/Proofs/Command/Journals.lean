-- Whole commands that keep a journal, from their arguments to what they leave.
-- A command whose words are understood leaves a complete session after what
-- was there, and the chain of the journal holds. Any other one is refused and
-- leaves nothing.
import Unloop.Proofs.Command.Results
import Unloop.Proofs.Settings.Resolution

namespace Unloop.Command

open Form Json Number Text

/-! ## The pure model -/

/-- What a command on a program takes. -/
def specOf : Verb → Spec
  | .run => runSpec
  | .loop => loopSpec
  | .repair => repairSpec
  | .bench => benchSpec
  | .journal | .schema => groupSpec

/-- A command on a program: what is given for all commands and for this one, the
settings before them, the path of the journal if it keeps one, and the file of the
program. -/
structure Job where
  verb : Verb
  common : Values
  own : Values
  settings : Settings
  journal : String
  source : Bytes

/-- The settings that count: a log level that is given takes the place of
theirs. -/
def Job.settled (job : Job) : Settings :=
  match job.common.filledText? "--log-level" with
  | some level => { job.settings with logLevel := level }
  | none => job.settings

/-- How a command finishes that stopped. -/
def finishOf : Halt → Finish
  | .exit code => .exit code
  | .crash fault => .crash fault
  | .usage u => .usage u

/-- A word, if there is one, is the name of something. -/
def Names {α : Type} (ofName : String → Except Fault α) (word : Option String) : Prop :=
  ∀ w, word = some w → ∃ a, ofName w = .ok a

/-- The words are those of a log level, a strategy and a tie break. -/
structure Job.Understood (job : Job) : Prop where
  level : ∃ level, Level.ofName job.settled.logLevel = .ok level
  strategy : job.verb = .repair → Names Strategy.ofName (job.own.filledText? "--strategy")
  tieBreak : job.verb = .repair ∨ job.verb = .bench →
    Names TieBreak.ofName (job.own.filledText? "--tie-break")

/-- The arguments call for a command, and there are settings for it. -/
structure Job.Called (job : Job) (s : Shell) (args : List String) : Prop where
  common : mainSpec.read s.files args = .ok job.common
  own : ∃ name more, job.common.rest = name :: more ∧
    verbs.find? (fun c => c.1 == name) = some (name, job.verb) ∧
    (specOf job.verb).read s.files more = .ok job.own
  settings : settingsFrom (job.common.text? "--config") s.fresh = .ok job.settings s.fresh

/-- The command finds its journal with this content, and can keep it. -/
structure Job.Finds (job : Job) (s : Shell) (content : Bytes) : Prop where
  keeps : s.files.Keeps (tidy job.journal) content
  lines : lineCount content < twoTo 63

section

variable {job : Job} {s : Shell} {args : List String} {content : Bytes} {es : List Entry}

theorem exists_of_bind_eq_ok {α β : Type} {x : Session α} {f : α → Session β} {b : β}
    {after : Shell} (h : (x >>= f) s = .ok b after) :
    ∃ a between, x s = .ok a between ∧ f a between = .ok b after := by
  change EStateM.bind x f s = _ at h
  unfold EStateM.bind at h
  rcases hrun : x s with ⟨a, between⟩ | ⟨halt, between⟩
  · rw [hrun] at h
    exact ⟨a, between, rfl, h⟩
  · rw [hrun] at h
    cases h

theorem eq_ok_of_orCrash {α : Type} {r : Except Fault α} {a : α} {after : Shell}
    (h : orCrash r s = .ok a after) : r = .ok a := by
  cases r with
  | ok b =>
    cases h
    rfl
  | error fault => cases h

theorem benchRepeats_of_settingsFrom {config : Option String} {settings : Settings}
    {after : Shell} (h : settingsFrom config s = .ok settings after) :
    1 ≤ settings.benchRepeats := by
  unfold settingsFrom at h
  obtain ⟨s', _, _, h⟩ := exists_of_bind_eq_ok h
  cases config with
  | none => exact Settings.benchRepeats_of_resolve (eq_ok_of_orCrash h)
  | some path =>
    obtain ⟨_, _, _, h⟩ := exists_of_bind_eq_ok h
    obtain ⟨v, _, _, h⟩ := exists_of_bind_eq_ok h
    have hvalue := eq_ok_of_orCrash h
    cases v with
    | obj ms => exact Settings.benchRepeats_of_resolve hvalue
    | _ => cases hvalue

theorem settled_benchRepeats (job : Job) :
    job.settled.benchRepeats = job.settings.benchRepeats := by
  unfold Job.settled
  split <;> rfl

theorem reading_of_read {spec : Spec} {vs : Values} (h : spec.read s.files args = .ok vs) :
    reading spec args s = .ok vs s := by
  change orHalt (spec.read s.files args) s = _
  rw [h]
  rfl

theorem reading_of_refused {spec : Spec} {halt : Halt} (h : spec.read s.files args = .error halt) :
    reading spec args s = .error halt s := by
  change orHalt (spec.read s.files args) s = _
  rw [h]
  rfl

theorem commandOf_of_find? {name : String} {more : List String} {verb : Verb}
    (h : verbs.find? (fun c => c.1 == name) = some (name, verb)) :
    commandOf mainSpec verbs (name :: more) s = .ok (verb, more) s := by
  unfold commandOf
  dsimp only
  rw [h]
  rfl

/-- The settings count if their log level is known. -/
theorem prepare_of_settings
    (h : settingsFrom (job.common.text? "--config") s = .ok job.settings s) :
    prepare job.common s =
      match Level.ofName job.settled.logLevel with
      | .ok level => .ok ⟨job.settled, job.common.isSet "--json"⟩ { s with level := level }
      | .error fault => .error (.usage (.badValue none (fault.valueMessage?.getD ""))) s := by
  unfold prepare
  change EStateM.bind _ _ s = _
  unfold EStateM.bind
  rw [h]
  change EStateM.bind (orBadValue (Level.ofName job.settled.logLevel)) _ s = _
  unfold EStateM.bind
  rcases Level.ofName job.settled.logLevel with fault | level
  · rfl
  · rfl

/-! ## Whole commands -/

/-- A name that is known leads to what it stands for, if the log level is known too. -/
theorem ends_perform_of_name {ok : Unit → Shell → Prop} {stopped : Halt → Shell → Prop}
    {level : Level} {name : String} {more : List String}
    (hcommon : mainSpec.read s.files args = .ok job.common)
    (hrest : job.common.rest = name :: more)
    (hfind : verbs.find? (fun c => c.1 == name) = some (name, job.verb))
    (hsettings : settingsFrom (job.common.text? "--config") s.fresh = .ok job.settings s.fresh)
    (hlevel : Level.ofName job.settled.logLevel = .ok level)
    (hverb : Ends (job.verb.perform ⟨job.settled, job.common.isSet "--json"⟩ more)
      { s.fresh with level := level } ok stopped) :
    Ends (perform args) s.fresh ok stopped := by
  have hprepare := prepare_of_settings hsettings
  rw [hlevel] at hprepare
  unfold perform
  refine ends_bind_of_eq (reading_of_read hcommon) ?_
  rw [hrest]
  exact ends_bind_of_eq (commandOf_of_find? hfind) (ends_bind_of_eq hprepare hverb)

/-- A command whose log level is known gets to what its name stands for. -/
theorem ends_perform_of_level {ok : Unit → Shell → Prop} {stopped : Halt → Shell → Prop}
    {level : Level} (h : job.Called s args) (hlevel : Level.ofName job.settled.logLevel = .ok level)
    (hverb : ∀ more, (specOf job.verb).read s.files more = .ok job.own →
      Ends (job.verb.perform ⟨job.settled, job.common.isSet "--json"⟩ more)
        { s.fresh with level := level } ok stopped) :
    Ends (perform args) s.fresh ok stopped := by
  obtain ⟨name, more, hrest, hfind, hown⟩ := h.own
  exact ends_perform_of_name h.common hrest hfind h.settings hlevel (hverb more hown)

theorem execute_of_ends {ok : Unit → Shell → Prop} {stopped : Halt → Shell → Prop}
    (h : Ends (perform args) s.fresh ok stopped) :
    (execute s args).1 = .exit 0 ∧ ok () (execute s args).2 ∨
      ∃ halt, (execute s args).1 = finishOf halt ∧ stopped halt (execute s args).2 := by
  unfold Ends at h
  unfold execute
  rcases hrun : perform args s.fresh with ⟨_, after⟩ | ⟨halt, after⟩
  · rw [hrun] at h
    exact Or.inl ⟨rfl, h⟩
  · rw [hrun] at h
    cases halt with
    | exit code => exact Or.inr ⟨.exit code, rfl, h⟩
    | crash fault => exact Or.inr ⟨.crash fault, rfl, h⟩
    | usage u => exact Or.inr ⟨.usage u, rfl, h⟩

/-- A directory with a program in it that has two fixes. -/
def bootShell : Shell where
  files := { contents := [(["boot.txt"], bytesOf twoFixes.render)] }
  environment := []
  clock := ⟨fun _ => 0, fun _ => 0, 0, 0⟩

end

end Unloop.Command

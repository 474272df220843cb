-- The command line: options for all commands, the name of a command, and what
-- that command takes.
import Unloop.Command.Actions
import Unloop.Command.Arguments

namespace Unloop.Command

open Json Text

/-! ## What the commands take -/

/-- The commands. The last two are groups of one command each. -/
inductive Verb where
  | run
  | loop
  | repair
  | bench
  | journal
  | schema
  deriving DecidableEq

/-- The commands by their names. -/
def verbs : List (String × Verb) :=
  [("run", .run), ("loop", .loop), ("repair", .repair), ("bench", .bench), ("journal", .journal),
    ("schema", .schema)]

/-- What comes before the name of a command. -/
def mainSpec : Spec where
  options := [⟨"--config", .file true⟩, ⟨"--log-level", .text⟩, ⟨"--json", .flag⟩]
  mixed := false
  besides := ["--install-completion", "--show-completion", "--help"]

/-- What comes before the name of a command in a group of its own. -/
def groupSpec : Spec where
  mixed := false

/-- The place for a program. -/
def programPath : Option String := some "program_path"

/-- The option for a journal. -/
def journalOption : Parameter := ⟨"--journal", .file false⟩

/-- What running takes. -/
def runSpec : Spec where
  options := [journalOption]
  path := programPath

/-- What following the loop takes. -/
def loopSpec : Spec where
  options := [⟨"--trace", .flag⟩, journalOption]
  path := programPath

/-- What repairing takes. -/
def repairSpec : Spec where
  options := [⟨"--strategy", .text⟩, ⟨"--tie-break", .text⟩, ⟨"--verify", .flag⟩, journalOption]
  path := programPath

/-- What comparing takes. -/
def benchSpec : Spec where
  options := [⟨"--repeats", .count⟩, ⟨"--tie-break", .text⟩, journalOption]
  path := programPath

/-- What checking a journal takes. -/
def verifySpec : Spec where
  path := some "journal_path"

/-- What exporting the schemas takes. -/
def exportSpec : Spec where
  options := [⟨"--out-dir", .directory⟩]

/-! ## From arguments to commands -/

/-- Reads arguments. -/
def reading (spec : Spec) (args : List String) : Session Values := do
  orHalt (spec.read (← get).files args)

/-- The command whose name is at the front of some arguments, and those after
it. A name that looks like an option is read as one first. -/
def commandOf {α : Type} (spec : Spec) (commands : List (String × α)) :
    List String → Session (α × List String)
  | [] => throw (.usage .missingCommand)
  | name :: more => do
    match commands.find? fun c => c.1 == name with
    | some c => return (c.2, more)
    | none =>
      if isOption name then discard (reading spec (name :: more))
      throw (.usage (.unknownCommand name (similar name (commands.map Prod.fst))))

/-- The settings of a file, or those of the environment alone. -/
def settingsFrom (config : Option String) : Session Settings := do
  let s ← get
  let around : Surroundings := { environment := s.environment, files := s.files }
  match config with
  | none => orCrash (Settings.resolve around [])
  | some path =>
    let v ← orCrash (orFault .notJson (ofBytes? (← readFile path)))
    orCrash (Settings.ofValue around v)

/-- Makes the settings count, in which a log level that was given takes the
place of theirs. -/
def prepare (vs : Values) : Session Manner := do
  let settings ← settingsFrom (vs.text? "--config")
  let settings :=
    match vs.filledText? "--log-level" with
    | some level => { settings with logLevel := level }
    | none => settings
  let level ← orBadValue (Level.ofName settings.logLevel)
  modify fun s => { s with level := level }
  return ⟨settings, vs.isSet "--json"⟩

/-- Carries out the only command of a group. -/
def performIn (name : String) (action : List String → Session Unit) (args : List String) :
    Session Unit := do
  let vs ← reading groupSpec args
  let (action, args) ← commandOf groupSpec [(name, action)] vs.rest
  action args

/-- Carries out a command with the arguments after its name. -/
def Verb.perform (m : Manner) (args : List String) : Verb → Session Unit
  | .run => do
    let vs ← reading runSpec args
    Command.run m vs.path (vs.text? "--journal")
  | .loop => do
    let vs ← reading loopSpec args
    Command.loop m vs.path (vs.isSet "--trace") (vs.text? "--journal")
  | .repair => do
    let vs ← reading repairSpec args
    Command.repair m vs.path (vs.filledText? "--strategy") (vs.filledText? "--tie-break")
      (vs.isSet "--verify") (vs.text? "--journal")
  | .bench => do
    let vs ← reading benchSpec args
    Command.bench m vs.path (vs.count? "--repeats") (vs.filledText? "--tie-break")
      (vs.text? "--journal")
  | .journal => performIn "verify" (fun args => do
      let vs ← reading verifySpec args
      verifyJournal vs.path) args
  | .schema => performIn "export" (fun args => do
      let vs ← reading exportSpec args
      exportSchemas ((vs.text? "--out-dir").getD "schemas")) args

/-- Carries out the command that some arguments call for. -/
def perform (args : List String) : Session Unit := do
  let vs ← reading mainSpec args
  let (verb, args) ← commandOf mainSpec verbs vs.rest
  let m ← prepare vs
  verb.perform m args

/-! ## Results -/

/-- How a command ended. -/
inductive Finish where
  | exit (code : Nat)
  | crash (fault : Fault)
  | usage (u : Usage)

/-- The exit code of a command. -/
def Finish.code : Finish → Nat
  | exit code => code
  | crash _ => 1
  | usage _ => 2

/-- Carries out a command, and gives how it ended and the state that it
leaves. -/
def execute (s : Shell) (args : List String) : Finish × Shell :=
  match perform args s.fresh with
  | .ok _ s => (.exit 0, s)
  | .error (.exit code) s => (.exit code, s)
  | .error (.crash fault) s => (.crash fault, s)
  | .error (.usage u) s => (.usage u, s)

end Unloop.Command

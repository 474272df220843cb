-- Reads the arguments of a command: first which options and other arguments
-- there are, then what their values stand for.
import Unloop.Command.Usage
import Unloop.Files
import Unloop.Form
import Unloop.Text.Resemblance

namespace Unloop.Command

open Text

/-! ## What a command takes -/

/-- What an option takes: nothing, a text, the path of a file, a path of any
kind, or a number from one on. -/
inductive Kind where
  | flag
  | text
  | file (mustExist : Bool)
  | directory
  | count
  deriving DecidableEq

/-- An option by its name. -/
structure Parameter where
  name : String
  kind : Kind
  deriving DecidableEq

/-- What a command takes: options, the path of a file if its place has a name,
and whether options may follow other arguments. Names that are known besides
only help with misspelt ones. -/
structure Spec where
  options : List Parameter := []
  path : Option String := none
  mixed : Bool := true
  besides : List String := ["--help"]

/-! ## Options and other arguments -/

/-- An option as it was given. -/
structure Given where
  parameter : Parameter
  value : String
  deriving DecidableEq

/-- The options that were given, and the other arguments. -/
structure Sorted where
  given : List Given
  others : List String
  deriving DecidableEq

/-- The arguments with one more option before them. -/
def Sorted.withOption (p : Parameter) (value : String) (s : Sorted) : Sorted :=
  { s with given := ⟨p, value⟩ :: s.given }

/-- The arguments with one more that is no option before them. -/
def Sorted.withOther (arg : String) (s : Sorted) : Sorted := { s with others := arg :: s.others }

/-- The argument has the form of an option. -/
def isOption (arg : String) : Bool :=
  match arg.toList with
  | '-' :: _ :: _ => true
  | _ => false

/-- The name of an option, and its value if that stands behind an equals
sign. -/
def splitOption (arg : String) : String × Option String :=
  let cs := arg.toList
  let name := cs.takeWhile (· != '=')
  (String.ofList name,
    match cs.dropWhile (· != '=') with
    | [] => none
    | _ :: value => some (String.ofList value))

/-- The refusal of an option that is not known. After a single stroke only one
letter counts. -/
def Spec.refuse (spec : Spec) (arg : String) : Usage :=
  match arg.toList with
  | '-' :: '-' :: _ =>
    let name := (splitOption arg).1
    .unknownOption name (similar name (spec.options.map Parameter.name ++ spec.besides))
  | cs => .unknownOption (String.ofList (cs.take 2)) []

/-- Sorts arguments into options and others. Two strokes end the options, and
so does the first other argument where the two may not be mixed. -/
def Spec.sort (spec : Spec) : List String → Except Usage Sorted
  | [] => .ok ⟨[], []⟩
  | arg :: more =>
    if arg = "--" then .ok ⟨[], more⟩
    else if isOption arg then
      let (name, inlined) := splitOption arg
      match spec.options.find? fun p => p.name == name with
      | none => .error (spec.refuse arg)
      | some p =>
        match p.kind, inlined with
        | .flag, none => (spec.sort more).map (Sorted.withOption p "")
        | .flag, some _ => .error (.takesNoValue name)
        | _, some value => (spec.sort more).map (Sorted.withOption p value)
        | _, none =>
          match more with
          | [] => .error (.needsValue name)
          | value :: more => (spec.sort more).map (Sorted.withOption p value)
    else if spec.mixed then (spec.sort more).map (Sorted.withOther arg)
    else .ok ⟨[], arg :: more⟩

/-! ## Values -/

/-- What a value stands for. -/
inductive Datum where
  | set
  | text (s : String)
  | count (n : Nat)
  deriving DecidableEq

/-- The options by their names, the path if there is a place for one, and the
arguments that are left. -/
structure Values where
  options : List (String × Datum)
  path : String
  rest : List String

/-- Checks that a path can be looked up. -/
def checkLookup (path : String) : Except Halt Unit :=
  if hasNull path then .error (.crash .nullInPath) else .ok ()

/-- The refusal of a path. -/
def refusePath (label path reason : String) : Except Halt Unit :=
  .error (.usage (.badValue (some label) ("file " ++ quoted path ++ reason)))

/-- Checks a path of a file. -/
def checkPath (files : Files) (label : String) (mustExist : Bool) (path : String) :
    Except Halt Unit := do
  checkLookup path
  match files.find? path with
  | some (.file _) => return ()
  | some .directory => refusePath label path " is a directory."
  | none => if mustExist then refusePath label path " does not exist."

/-- What is told of a number that is none, or too small. -/
def countReason : List Issue → String
  | ⟨.tooSmall, _⟩ :: _ => "Input should be greater than or equal to 1"
  | ⟨.numberTooLong, _⟩ :: _ =>
    "Unable to parse input string as an integer, exceeded maximum size"
  | _ => "Input should be a valid integer, unable to parse string as an integer"

/-- Reads a value of an option. -/
def Parameter.read (p : Parameter) (files : Files) (value : String) : Except Halt Datum :=
  match p.kind with
  | .flag => .ok .set
  | .text => .ok (.text value)
  | .file mustExist => (checkPath files p.name mustExist value).map fun _ => .text value
  | .directory => (checkLookup value).map fun _ => .text value
  | .count =>
    match Form.atLeast 1 (.str value) with
    | .ok n => .ok (.count n.toNat)
    | .issues is => .error (.usage (.badValue (some p.name) (countReason is)))

/-- The options in the order in which they came first, each with the value
that came last. -/
def lastValues (given : List Given) : List Given :=
  (given.map Given.parameter).eraseDups.filterMap fun p =>
    given.reverse.find? fun g => g.parameter == p

/-- Reads the arguments of a command: the options, then the path, and then
there must be none left, unless they are another command. -/
def Spec.read (spec : Spec) (files : Files) (args : List String) : Except Halt Values := do
  let sorted ← (spec.sort args).mapError .usage
  let options ← (lastValues sorted.given).mapM fun g =>
    (g.parameter.read files g.value).map fun d => (g.parameter.name, d)
  let (path, rest) ←
    match spec.path, sorted.others with
    | none, others => .ok ("", others)
    | some label, [] => .error (.usage (.missingArgument label))
    | some label, path :: others => (checkPath files label true path).map fun _ => (path, others)
  if spec.mixed && !rest.isEmpty then .error (.usage (.extraArguments rest))
  return ⟨options, path, rest⟩

namespace Values

/-- The value of an option. -/
def datum? (vs : Values) (name : String) : Option Datum :=
  (vs.options.find? fun o => o.1 == name).map Prod.snd

/-- A flag was given. -/
def isSet (vs : Values) (name : String) : Bool := (vs.datum? name).isSome

/-- The text of an option. -/
def text? (vs : Values) (name : String) : Option String :=
  match vs.datum? name with
  | some (.text s) => some s
  | _ => none

/-- The text of an option that is not empty. -/
def filledText? (vs : Values) (name : String) : Option String :=
  (vs.text? name).filter fun s => !s.isEmpty

/-- The number of an option. -/
def count? (vs : Values) (name : String) : Option Nat :=
  match vs.datum? name with
  | some (.count n) => some n
  | _ => none

end Values

end Unloop.Command

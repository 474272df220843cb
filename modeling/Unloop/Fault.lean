-- Everything that can end an operation without its result, as causes. The
-- wording, the tag and the exit code of each cause stand in one function.
import Unloop.Number.Decimal
import Unloop.Text.Quoted

namespace Unloop

open Number Text

/-! ## Fields that do not fit -/

/-- What is wrong with one field of a form. -/
inductive Flaw where
  | missing
  | notText
  | notOneOf
  | notObject
  | notArray
  | notForm
  | notNumber
  | numberUnreadable
  | numberTooLong
  | numberNotWhole
  | numberNotFinite
  | notTruth
  | truthUnreadable
  | notFloat
  | floatUnreadable
  | tooSmall
  | unknownField
  deriving DecidableEq

/-- The code of a flaw in answers. -/
def Flaw.code : Flaw → String
  | missing => "missing"
  | notText => "string_type"
  | notOneOf => "literal_error"
  | notObject => "dict_type"
  | notArray => "list_type"
  | notForm => "model_type"
  | notNumber => "int_type"
  | numberUnreadable => "int_parsing"
  | numberTooLong => "int_parsing_size"
  | numberNotWhole => "int_from_float"
  | numberNotFinite => "finite_number"
  | notTruth => "bool_type"
  | truthUnreadable => "bool_parsing"
  | notFloat => "float_type"
  | floatUnreadable => "float_parsing"
  | tooSmall => "greater_than_equal"
  | unknownField => "extra_forbidden"

/-- A flaw and the way to the field that has it. -/
structure Issue where
  flaw : Flaw
  path : List String
  deriving DecidableEq

/-! ## Failures -/

/-- Which kind of line was refused. -/
inductive LineFault where
  | unspecified
  | malformed
  | badOffset
  deriving DecidableEq

/-- A failure that a command reports: it has a tag, a message and an exit
code. -/
inductive Failure where
  | general (message : String)
  | line (fault : LineFault) (number : Int) (text reason : String)
  | notFlippable (message : String)
  | outside (position length : Int)
  | noFix (message : String)
  | alreadyEnds (message : String)
  deriving DecidableEq

/-- The tag of a failure. -/
def Failure.atom : Failure → String
  | general _ => "HANDHELD:ERROR"
  | line .unspecified .. => "PARSE:ERROR"
  | line .malformed .. => "PARSE:MALFORMED_INSTRUCTION"
  | line .badOffset .. => "PARSE:INVALID_OFFSET"
  | notFlippable _ => "CONTRACT:NOT_FLIPPABLE"
  | outside .. => "RUN:PC_OUT_OF_BOUNDS"
  | noFix _ => "REPAIR:NO_FIX_FOUND"
  | alreadyEnds _ => "REPAIR:NOT_LOOPING"

/-- A number inside a message. -/
def numberText (n : Int) : String := String.ofList (plain n)

/-- The message of a failure. -/
def Failure.message : Failure → String
  | general m | notFlippable m | noFix m | alreadyEnds m => m
  | line _ number text reason => "line " ++ numberText number ++ ": " ++ reason ++ ": " ++ quoted text
  | outside position length =>
    "position " ++ numberText position ++ " outside [0, " ++ numberText length ++ "]"

/-- The exit code of a command that ends with a failure. -/
def Failure.exitCode : Failure → Nat
  | general _ => 1
  | line .. => 2
  | outside .. => 3
  | noFix _ => 4
  | alreadyEnds _ => 5
  | notFlippable _ => 70

/-- The numbers in the message can be written. -/
def Failure.isWritable : Failure → Bool
  | line _ number _ _ => decide (Writable number)
  | outside position length => decide (Writable position) && decide (Writable length)
  | _ => true

/-! ## Faults -/

/-- What can end an operation: a failure, or a cause that no command
reports. -/
inductive Fault where
  /-- A failure of the domain. -/
  | failure (f : Failure)
  /-- A number with too many digits: this many in a text, or one to be written. -/
  | longNumber (digits : Option Nat)
  /-- A value without a canonical text. -/
  | unwritable
  /-- A value in which too many values are inside one another. -/
  | tooDeep
  /-- A text that is not JSON. -/
  | notJson
  /-- A value with fields was needed. -/
  | noFields
  /-- Fields that do not fit. -/
  | invalid (issues : List Issue)
  /-- No instruction at the position. -/
  | noInstruction
  /-- A word that is no operation. -/
  | unknownOp (name : String)
  /-- A word that is no strategy. -/
  | unknownStrategy (name : String)
  /-- A word that is no tie break. -/
  | unknownTieBreak (name : String)
  /-- A word that is no log level. -/
  | unknownLevel (name : String)
  /-- Sources of settings that are not named by texts. -/
  | badSources
  /-- Sources of settings that cannot be read. -/
  | sourcesFailed
  /-- A file of variables that is not UTF-8. -/
  | undecodable
  /-- A report of no kind that the journal takes. -/
  | noEvent
  /-- The last line of a journal is no object. -/
  | lastLineNotObject
  /-- No journal is open. -/
  | notOpen
  /-- An edit that addresses nothing. -/
  | badEdit
  /-- A file was needed where a directory is. -/
  | isDirectory
  /-- A directory was needed inside a file. -/
  | notDirectory
  /-- A directory was needed where a file is. -/
  | fileExists
  /-- A path with a character that ends it too early. -/
  | nullInPath
  /-- A path, or a name in it, that is too long. -/
  | longPath
  /-- A number that is too great to be rounded to 64 bits. -/
  | beyondDouble
  deriving DecidableEq

/-- The fault of a failure: the failure itself, unless its message cannot be
written. -/
def Fault.of (f : Failure) : Fault := if f.isWritable then .failure f else .longNumber none

/-- The message of a fault that is about a value. -/
def Fault.valueMessage? : Fault → Option String
  | longNumber (some n) =>
    some ("Exceeds the limit (4300 digits) for integer string conversion: value has " ++ ofNat n ++
      " digits; use sys.set_int_max_str_digits() to increase the limit")
  | longNumber none =>
    some ("Exceeds the limit (4300 digits) for integer string conversion; use " ++
      "sys.set_int_max_str_digits() to increase the limit")
  | nullInPath => some "embedded null byte"
  | tooDeep => some "Maximum serialization depth exceeded"
  | unknownOp name => some (quoted name ++ " is not a valid Op")
  | unknownStrategy name => some ("unknown strategy: " ++ name)
  | unknownTieBreak name => some ("unknown tie break: " ++ name)
  | unknownLevel name => some ("unknown log level: " ++ name)
  | _ => none

/-- The value, or a fault where there is none. -/
def orFault {α : Type} (fault : Fault) : Option α → Except Fault α
  | some a => .ok a
  | none => .error fault

/-- A number as text, or the fault that it is too long. -/
def writeNumber (n : Int) : Except Fault String := orFault (.longNumber none) (text? n)

/-! ## Laws -/

/-- A failure without a long number is its own fault. -/
theorem Fault.of_eq_failure {f : Failure} (h : f.isWritable = true) : Fault.of f = .failure f := by
  simp [Fault.of, h]

end Unloop

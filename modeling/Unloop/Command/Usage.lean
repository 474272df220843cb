-- What can be wrong with the arguments of a command, and how that is told. A
-- command may also end early for other reasons.
import Unloop.Fault
import Unloop.Text.Quoted

namespace Unloop

open Text

/-- What is wrong with some arguments. -/
inductive Usage where
  /-- A command was needed. -/
  | missingCommand
  /-- No command has this name, but some have a similar one. -/
  | unknownCommand (name : String) (similar : List String)
  /-- More arguments than there are places for. -/
  | extraArguments (args : List String)
  /-- An argument was needed. -/
  | missingArgument (name : String)
  /-- No option has this name, but some have a similar one. -/
  | unknownOption (name : String) (similar : List String)
  /-- An option at the end lacks its value. -/
  | needsValue (name : String)
  /-- An option was given a value but takes none. -/
  | takesNoValue (name : String)
  /-- A value is no good, either that of a parameter or one found later. -/
  | badValue (parameter : Option String) (reason : String)
  deriving DecidableEq

namespace Usage

/-- Words with commas between them. -/
def listed (names : List String) : String := ", ".intercalate names

/-- The words for what is wrong. -/
def message : Usage → String
  | missingCommand => "Missing command."
  | unknownCommand name [] => "No such command " ++ quoted name ++ "."
  | unknownCommand name similar =>
    "No such command " ++ quoted name ++ ". Did you mean " ++ listed (similar.map quoted) ++ "?"
  | extraArguments args => "Got unexpected extra argument(s) (" ++ " ".intercalate args ++ ")"
  | missingArgument name => "Missing argument '" ++ name ++ "'."
  | unknownOption name [] => "No such option: " ++ name
  | unknownOption name similar =>
    "No such option: " ++ name ++ " (Possible options: " ++
      listed (similar.mergeSort fun a b => decide (a ≤ b)) ++ ")"
  | needsValue name => "Option " ++ quoted name ++ " requires an argument."
  | takesNoValue name => "Option " ++ quoted name ++ " does not take a value."
  | badValue none reason => "Invalid value: " ++ reason
  | badValue (some parameter) reason => "Invalid value for '" ++ parameter ++ "': " ++ reason

end Usage

/-- How a command can end before its last step: by itself, with an exit code;
with a fault that it does not report; or because its arguments are wrong. -/
inductive Command.Halt where
  | exit (code : Nat)
  | crash (fault : Fault)
  | usage (u : Usage)

end Unloop

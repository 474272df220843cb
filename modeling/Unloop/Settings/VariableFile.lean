-- Files of variables: a name, an equals sign and a value on each line, where a
-- value may stand in quotes and may take in the values of other variables.
-- What is no such line is passed over.
import Unloop.Text.Blank
import Unloop.Text.Utf8

namespace Unloop

open Text

/-- The variables of an environment, in their order. -/
abbrev Environment := List (String × String)

/-- The variables of a file: a name may come without a value. -/
abbrev Variables := List (String × Option String)

namespace VariableFile

/-! ## Blanks -/

/-- Every break of lines as a line feed. -/
def withFeeds : List Char → List Char
  | '\r' :: '\n' :: rest => '\n' :: withFeeds rest
  | '\r' :: rest => '\n' :: withFeeds rest
  | c :: rest => c :: withFeeds rest
  | [] => []

/-- A blank inside a line. -/
def isInnerBlank (c : Char) : Bool := isBlank c && c != '\n'

/-- The text from the end of the line on. -/
def lineEnd (cs : List Char) : List Char := cs.dropWhile (· != '\n')

/-- The text after the rest of the line, which may hold only blanks and a
remark. -/
def afterLine? (cs : List Char) : Option (List Char) :=
  match cs.dropWhile isInnerBlank with
  | [] => some []
  | '\n' :: rest => some rest
  | '#' :: rest => some ((lineEnd rest).drop 1)
  | _ => none

/-! ## Quotes -/

/-- Splits a text behind a closing quote. A quote after a backslash closes only
if no other one does. -/
def closeQuote (quote : Char) : List Char → Option (List Char × List Char)
  | [] => none
  | [c] => if c = quote then some ([], []) else none
  | c :: d :: rest =>
    if c = quote then some ([], d :: rest)
    else if c = '\\' ∧ d = quote then
      match closeQuote quote rest with
      | some (body, after) => some (c :: d :: body, after)
      | none => some ([c], rest)
    else (closeQuote quote (d :: rest)).map fun (body, after) => (c :: body, after)

/-- What a backslash and a character stand for between double quotes. -/
def escapes : List (Char × Char) :=
  [('\\', '\\'), ('\'', '\''), ('"', '"'), ('a', '\x07'), ('b', '\x08'), ('f', '\x0c'),
    ('n', '\n'), ('r', '\r'), ('t', '\t'), ('v', '\x0b')]

/-- What a backslash and a character stand for between single quotes. -/
def fewEscapes : List (Char × Char) := [('\\', '\\'), ('\'', '\'')]

/-- The text with its escapes read. -/
def unescaped (table : List (Char × Char)) : List Char → List Char
  | '\\' :: c :: rest =>
    match table.find? fun row => row.1 == c with
    | some row => row.2 :: unescaped table rest
    | none => '\\' :: unescaped table (c :: rest)
  | c :: rest => c :: unescaped table rest
  | [] => []

/-! ## Lines -/

/-- A value without quotes ends before a remark that comes after a blank. -/
def withoutRemark : List Char → List Char
  | [] => []
  | c :: rest =>
    if isBlank c && (rest.dropWhile isBlank).head? == some '#' then [] else c :: withoutRemark rest

/-- Reads a value, and gives what comes after it. -/
def readValue : List Char → Option (List Char × List Char)
  | '\'' :: rest => (closeQuote '\'' rest).map fun (body, after) => (unescaped fewEscapes body, after)
  | '"' :: rest => (closeQuote '"' rest).map fun (body, after) => (unescaped escapes body, after)
  | cs => some (dropTrailingBlanks (withoutRemark (cs.takeWhile (· != '\n'))), lineEnd cs)

/-- A character of a name without quotes. -/
def isNameChar (c : Char) : Bool := c != '=' && c != '#' && !isBlank c

/-- The text without a word that marks a variable for other programs. -/
def withoutExport (cs : List Char) : List Char :=
  if "export".toList.isPrefixOf cs && ((cs.drop 6).head?.any isInnerBlank) then
    (cs.drop 6).dropWhile isInnerBlank
  else cs

/-- Reads a name, and gives what comes after it. A remark has none. -/
def readName : List Char → Option (Option (List Char) × List Char)
  | '#' :: rest => some (none, '#' :: rest)
  | '\'' :: rest =>
    match rest.takeWhile (· != '\''), rest.dropWhile (· != '\'') with
    | c :: name, _ :: after => some (some (c :: name), after)
    | _, _ => none
  | cs =>
    match cs.takeWhile isNameChar with
    | [] => none
    | name => some (some name, cs.dropWhile isNameChar)

/-- A line: a name, unless it is a remark, and a value if there is one. -/
structure Binding where
  name : Option (List Char)
  value : Option (List Char)

/-- Reads a line that is more than blanks, and gives what comes after it. -/
def readBinding (cs : List Char) : Option (Binding × List Char) := do
  let (name, cs) ← readName (withoutExport cs)
  match cs.dropWhile isInnerBlank with
  | '=' :: rest =>
    let (value, cs) ← readValue (rest.dropWhile isInnerBlank)
    return (⟨name, some value⟩, ← afterLine? cs)
  | cs => return (⟨name, none⟩, ← afterLine? cs)

/-- Where reading goes on after a line that is none. -/
def passOver (cs : List Char) : List Char :=
  let cs := withoutExport cs
  let cs :=
    match readName cs with
    | none => cs
    | some (_, cs) =>
      match cs.dropWhile isInnerBlank with
      | '=' :: rest =>
        let rest := rest.dropWhile isInnerBlank
        match readValue rest with
        | some (_, cs) => cs
        | none => rest
      | cs => cs
  (lineEnd cs).drop 1

/-- The lines of a text. Each takes at least one character, so that the length
of the text is `fuel` enough. -/
def bindings : (fuel : Nat) → List Char → List Binding
  | 0, _ => []
  | fuel + 1, cs =>
    match cs.dropWhile isBlank with
    | [] => []
    | cs =>
      match readBinding cs with
      | some (b, rest) => b :: bindings fuel rest
      | none => bindings fuel (passOver cs)

/-! ## Values of other variables -/

/-- A name in braces, perhaps with another value for the case that there is no
such variable, and what comes after it. -/
structure Mention where
  name : List Char
  default : List Char
  rest : List Char

/-- Reads a mention after its opening brace. -/
def readMention (cs : List Char) : Option Mention :=
  let name := cs.takeWhile fun c => c != '\x7d' && c != ':'
  match cs.drop name.length with
  | '\x7d' :: rest => some ⟨name, [], rest⟩
  | ':' :: '-' :: more =>
    let default := more.takeWhile (· != '\x7d')
    match more.drop default.length with
    | _ :: rest => some ⟨name, default, rest⟩
    | [] => none
  | _ => none

/-- The value of a variable, where those of the file go first. -/
def valueOf (env : Environment) (known : Variables) (m : Mention) : List Char :=
  let name := String.ofList m.name
  match known.find? fun v => v.1 == name with
  | some (_, value) => (value.getD "").toList
  | none =>
    match env.reverse.find? fun v => v.1 == name with
    | some (_, value) => value.toList
    | none => m.default

/-- A value with those of the variables that it mentions. A mention takes at
least one character, so that the length of the value is `fuel` enough. -/
def filled (env : Environment) (known : Variables) : (fuel : Nat) → List Char → List Char
  | 0, cs => cs
  | fuel + 1, cs =>
    match cs with
    | [] => []
    | '$' :: '\x7b' :: rest =>
      match readMention rest with
      | some m => valueOf env known m ++ filled env known fuel m.rest
      | none => '$' :: filled env known fuel ('\x7b' :: rest)
    | c :: rest => c :: filled env known fuel rest

/-- The variables with a value under a name: in the place of the one that is
there, or at the end. -/
def put {α : Type} (name : String) (value : α) : List (String × α) → List (String × α)
  | [] => [(name, value)]
  | v :: vs => if v.1 == name then (name, value) :: vs else v :: put name value vs

/-- The variables with one more line, if it has a name. -/
def bind (env : Environment) (known : Variables) (b : Binding) : Variables :=
  match b.name with
  | none => known
  | some name =>
    put (String.ofList name)
      (b.value.map fun v => String.ofList (filled env known v.length v)) known

/-- The variables in the content of a file, none if it is not UTF-8. -/
def read? (env : Environment) (content : Bytes) : Option Variables :=
  (decode? content).map fun cs =>
    let cs := withFeeds cs
    (bindings cs.length cs).foldl (bind env) []

end VariableFile

end Unloop

-- Edits of the lines of a journal, as someone would make them who means to
-- deceive: a line is changed, dropped, doubled or moved, and then the hashes
-- of it, or of all lines from it on, are made to fit again.
import Unloop.Journal

namespace Unloop

open Json Text

/-- A step into a value: to a member or to an item. -/
inductive Key where
  | name (s : String)
  | place (n : Nat)
  deriving DecidableEq

/-- A change of lines. -/
inductive Edit where
  | put (line : Nat) (path : List Key) (v : Value)
  | erase (line : Nat) (path : List Key)
  | drop (line : Nat)
  | double (line : Nat)
  | swap (line : Nat)

/-- The line at which an edit begins. -/
def Edit.line : Edit → Nat
  | put line .. | erase line _ | drop line | double line | swap line => line

/-! ## Changes -/

/-- The value with another one under a key. -/
def putAt (key : Key) (new : Value) : Value → Option Value
  | .obj ms =>
    match key with
    | .name s => some (.obj (Members.put s new ms))
    | .place _ => none
  | .arr vs =>
    match key with
    | .place n => if n < vs.length then some (.arr (vs.set n new)) else none
    | .name _ => none
  | _ => none

/-- The value without what is under a key. -/
def eraseAt (key : Key) : Value → Option Value
  | .obj ms =>
    match key with
    | .name s => if (Members.get? ms s).isSome then some (.obj (Members.erase ms s)) else none
    | .place _ => none
  | .arr vs =>
    match key with
    | .place n => if n < vs.length then some (.arr (vs.eraseIdx n)) else none
    | .name _ => none
  | _ => none

/-- What is under a key. -/
def valueAt? (key : Key) : Value → Option Value
  | .obj ms =>
    match key with
    | .name s => Members.get? ms s
    | .place _ => none
  | .arr vs =>
    match key with
    | .place n => vs[n]?
    | .name _ => none
  | _ => none

/-- Changes what a path leads to: `change` is applied at its last key. -/
def changeAt (change : Key → Value → Option Value) : List Key → Value → Option Value
  | [], _ => none
  | [key], v => change key v
  | key :: more, v => do
    let inner ← changeAt change more (← valueAt? key v)
    putAt key inner v

/-- The lines with one of them changed. -/
def changeLine (change : Value → Option Value) (line : Nat) (vs : List Value) :
    Option (List Value) := do
  return vs.set line (← change (← vs[line]?))

/-- The lines after an edit, unless there is nothing at what it addresses. -/
def Edit.apply (e : Edit) (vs : List Value) : Option (List Value) :=
  match e with
  | put line path new => changeLine (changeAt (fun key v => putAt key new v) path) line vs
  | erase line path => changeLine (changeAt eraseAt path) line vs
  | drop line => if line < vs.length then some (vs.eraseIdx line) else none
  | double line => do return vs.take line ++ (← vs[line]?) :: vs.drop line
  | swap line => do
    let a ← vs[line]?
    let b ← vs[line + 1]?
    return (vs.set line b).set (line + 1) a

/-! ## Seals -/

/-- Which hashes are made to fit: that of the edited line, or those of all
lines from it on; and whether that of the report is, first. -/
structure Seal where
  wholeChain : Bool
  report : Bool
  deriving DecidableEq

/-- A line with another value under a name. -/
def withMember (name : String) (new : Value) : Value → Except Fault Value
  | .obj ms => .ok (.obj (Members.put name new ms))
  | _ => .error .badEdit

/-- The kind of the report that a line says to hold. -/
def namedKind? (ms : Members) : Option ReportKind :=
  match ms.get? "event" with
  | some (.str name) => (EntryEvent.all.find? fun e => e.name == name).bind EntryEvent.reportKind?
  | _ => none

/-- The line with the hash of its report made to fit, if it holds one. -/
def sealReport (v : Value) : Except Fault Value :=
  match v with
  | .obj ms => do
    let kind ← orFault .badEdit (namedKind? ms)
    let report ← kind.ofValue ((Members.get? ms "payload").getD .null)
    return .obj (Members.put "report_hash" (.str (← report.hash)) ms)
  | _ => .error .badEdit

/-- The line with its own hash made to fit. -/
def sealEntry (v : Value) : Except Fault Value := do
  let e ← Entry.ofValue v
  withMember "entry_hash" (.str (← e.chainHash)) v

/-- The hash that a line names as its own. -/
def namedHash : Value → Value
  | .obj ms => (Members.get? ms "entry_hash").getD (.str "")
  | _ => .str ""

/-- The lines with their hashes made to fit, where the first comes after the
hash `prev`. -/
def sealChain : (prev : Value) → List Value → Except Fault (List Value)
  | _, [] => .ok []
  | prev, v :: vs => do
    let v ← sealEntry (← withMember "prev_hash" prev v)
    return v :: (← sealChain (namedHash v) vs)

/-- The hash of the line before a place. -/
def hashBefore (line : Nat) (vs : List Value) : Value :=
  match (vs.take line).getLast? with
  | some v => namedHash v
  | none => .str ""

/-- The lines with the hashes made to fit from a place on. Nothing is done
past the end. -/
def Seal.apply (s : Seal) (line : Nat) (vs : List Value) : Except Fault (List Value) :=
  match vs.drop line with
  | [] => if s.report then .error .badEdit else .ok vs
  | v :: rest => do
    let v ← if s.report then sealReport v else .ok v
    let sealed ←
      if s.wholeChain then sealChain (hashBefore line vs) (v :: rest)
      else (sealEntry v).map fun v => v :: rest
    return vs.take line ++ sealed

/-- The lines with one of them in the place of another. -/
def copyLine (source target : Nat) (vs : List Value) : List Value :=
  match vs[source]? with
  | some v => vs.set target v
  | none => vs

/-- A doubled line is one line in two places: what was sealed last in one of
them counts in both. -/
def Edit.tie (e : Edit) (s : Seal) (vs : List Value) : List Value :=
  match e with
  | double line =>
    if s.wholeChain then copyLine (line + 1) line vs else copyLine line (line + 1) vs
  | _ => vs

/-- What an edit leaves: the new content, and how many lines it has. -/
structure Edited where
  content : Bytes
  count : Nat

/-- Edits the content of a file. -/
def Edit.amend (e : Edit) (mend : Option Seal) (content : Bytes) : Except Fault Edited := do
  let vs ← Json.ofLines content
  let vs ← orFault .badEdit (e.apply vs)
  let vs ←
    match mend with
    | some s => (s.apply e.line vs).map (e.tie s)
    | none => .ok vs
  return ⟨← toLines vs, vs.length⟩

end Unloop

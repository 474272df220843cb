-- Checks of the fields of a JSON object. Every field is checked, and all that
-- is wrong is told, in the order of the fields.
import Unloop.Fault
import Unloop.Form.Numeral
import Unloop.Json.Value

namespace Unloop.Form

open Json Number

/-! ## Results of checks -/

/-- What a check gives: the value to store, or all that is wrong. -/
inductive Checked (α : Type) where
  | ok (a : α)
  | issues (is : List Issue)

/-- Joins two results: a value needs both, and the issues of both are told. -/
def Checked.apply {α β : Type} : Checked (α → β) → Checked α → Checked β
  | .ok f, .ok a => .ok (f a)
  | .ok _, .issues js => .issues js
  | .issues is, .ok _ => .issues is
  | .issues is, .issues js => .issues (is ++ js)

instance : Applicative Checked where
  pure := .ok
  seq f a := f.apply (a ())

/-- One flaw of the value itself. -/
def Checked.flaw {α : Type} (flaw : Flaw) : Checked α := .issues [⟨flaw, []⟩]

/-- The result, its issues being those of a field. -/
def Checked.under {α : Type} (name : String) : Checked α → Checked α
  | .ok a => .ok a
  | .issues is => .issues (is.map fun i => { i with path := name :: i.path })

/-- The value, or the fault that it is invalid. -/
def Checked.toExcept {α : Type} : Checked α → Except Fault α
  | .ok a => .ok a
  | .issues is => .error (.invalid is)

/-! ## Checks of values -/

/-- A check of a value. -/
abbrev Check (α : Type) := Value → Checked α

/-- A text. -/
def text : Check String
  | .str s => .ok s
  | _ => .flaw .notText

/-- One of some words. -/
def oneOf {α : Type} (words : List (String × α)) : Check α
  | .str s =>
    match words.find? fun w => w.1 == s with
    | some w => .ok w.2
    | none => .flaw .notOneOf
  | _ => .flaw .notOneOf

/-- The whole numbers that a floating-point one may stand for. -/
def inFloatRange (n : Int) : Bool := -9223372036854775808 < n && n < 9223372036854775808

/-- A whole number, also as a truth value, as a floating-point number without
a fraction, or as text. -/
def whole : Check Int
  | .int n => .ok n
  | .bool b => .ok (if b then 1 else 0)
  | .float (.finite x) =>
    match x.toInt? with
    | none => .flaw .numberNotWhole
    | some n => if inFloatRange n then .ok n else .flaw .numberTooLong
  | .float _ => .flaw .numberNotFinite
  | .str s =>
    match Numeral.ofChars s.toList with
    | .value n => .ok n
    | .unreadable => .flaw .numberUnreadable
    | .tooLong => .flaw .numberTooLong
  | _ => .flaw .notNumber

/-- A whole number of at least `least`. -/
def atLeast (least : Int) : Check Int := fun v =>
  match whole v with
  | .ok n => if least ≤ n then .ok n else .flaw .tooSmall
  | bad => bad

/-- The whole numbers of 64 bits with a sign. -/
def isSignedWord (n : Int) : Bool := -9223372036854775808 ≤ n && n < 9223372036854775808

/-- Zero or one as a truth value. -/
def truthOfInt (n : Int) : Checked Bool :=
  if n = 0 then .ok false else if n = 1 then .ok true else .flaw .truthUnreadable

/-- A truth value, also as a number or as text. -/
def truth : Check Bool
  | .bool b => .ok b
  | .int n => if isSignedWord n then truthOfInt n else .flaw .notTruth
  | .float (.finite x) =>
    match x.toInt? with
    | some n => if inFloatRange n then truthOfInt n else .flaw .notTruth
    | none => .flaw .notTruth
  | .str s =>
    match truth? s with
    | some b => .ok b
    | none => .flaw .truthUnreadable
  | _ => .flaw .notTruth

/-- A floating-point number, also as a whole one, a truth value, or text. -/
def floating : Check Double
  | .float x => .ok x
  | .int n => .ok (.ofInt n)
  | .bool b => .ok (.ofInt (if b then 1 else 0))
  | .str s =>
    match double? s.toList with
    | some x => .ok x
    | none => .flaw .floatUnreadable
  | _ => .flaw .notFloat

/-- An object, its members unchecked. -/
def members : Check Members
  | .obj ms => .ok ms
  | _ => .flaw .notObject

/-- Null, or a value that passes a check. -/
def orNull {α : Type} (check : Check α) : Check (Option α)
  | .null => .ok none
  | v => some <$> check v

/-- The items of an array, each under its place. -/
def itemsFrom {α : Type} (check : Check α) : Nat → List Value → Checked (List α)
  | _, [] => .ok []
  | n, v :: vs =>
    List.cons <$> (check v).under (String.ofList (digits n)) <*> itemsFrom check (n + 1) vs

/-- An array whose items pass a check. -/
def listOf {α : Type} (check : Check α) : Check (List α)
  | .arr vs => itemsFrom check 0 vs
  | _ => .flaw .notArray

/-! ## Checks of fields -/

/-- A field that must be there. -/
def required {α : Type} (ms : Members) (name : String) (check : Check α) : Checked α :=
  match ms.get? name with
  | some v => (check v).under name
  | none => .issues [⟨.missing, [name]⟩]

/-- A field that may be missing. -/
def optional {α : Type} (ms : Members) (name : String) (check : Check α) (default : α) :
    Checked α :=
  match ms.get? name with
  | some v => (check v).under name
  | none => .ok default

/-- Fields that must not be there. -/
def noFields (names : List String) : Checked Unit :=
  match names with
  | [] => .ok ()
  | names => .issues (names.map fun name => ⟨.unknownField, [name]⟩)

/-- The result of a form filled in from a value, which must be an object. -/
def fill {α : Type} (form : Members → Checked α) : Value → Except Fault α
  | .obj ms => (form ms).toExcept
  | _ => .error .noFields

end Unloop.Form

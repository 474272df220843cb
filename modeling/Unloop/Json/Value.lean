-- JSON values. An object keeps its members in the order in which their names
-- came first, and each name once.
import Unloop.Number.Double

namespace Unloop.Json

open Unloop.Number

/-- A JSON value. Whole numbers and floating-point ones are told apart. -/
inductive Value where
  | null
  | bool (b : Bool)
  | int (n : Int)
  | float (x : Double)
  | str (s : String)
  | arr (items : List Value)
  | obj (members : List (String × Value))
  deriving Inhabited

/-- The members of an object. -/
abbrev Members := List (String × Value)

/-! ## Members -/

/-- The value under a name. -/
def Members.get? (ms : Members) (name : String) : Option Value :=
  (ms.find? fun m => m.1 == name).map Prod.snd

/-- Puts a value under a name: in the place of the one that is there, or at
the end. -/
def Members.put (name : String) (v : Value) : Members → Members
  | [] => [(name, v)]
  | m :: ms => if m.1 == name then (name, v) :: ms else m :: Members.put name v ms

/-- The members without a name. -/
def Members.erase (ms : Members) (name : String) : Members :=
  ms.filter fun m => m.1 != name

/-! ## Values -/

/-- The members of a value that is an object. -/
def Value.members? : Value → Option Members
  | .obj ms => some ms
  | _ => none

/-- A text, or null for none. -/
def Value.ofText? : Option String → Value
  | some s => .str s
  | none => .null

/-- A whole number, or null for none. -/
def Value.ofInt? : Option Int → Value
  | some n => .int n
  | none => .null

/-- A truth value, or null for none. -/
def Value.ofBool? : Option Bool → Value
  | some b => .bool b
  | none => .null

/-- The value counts as true: it is neither null nor false, zero or empty. -/
def Value.isTruthy : Value → Bool
  | .null => false
  | .bool b => b
  | .int n => n != 0
  | .float (.finite x) => x.mantissa != 0
  | .float _ => true
  | .str s => !s.isEmpty
  | .arr items => !items.isEmpty
  | .obj ms => !ms.isEmpty

/-! ## Height -/

mutual

/-- How many values are inside one another at most, the value itself
included. -/
def Value.height : Value → Nat
  | .arr items => itemsHeight items + 1
  | .obj ms => membersHeight ms + 1
  | _ => 1

/-- The greatest height of some values. -/
def itemsHeight : List Value → Nat
  | [] => 0
  | v :: vs => max v.height (itemsHeight vs)

/-- The greatest height of the values of some members. -/
def membersHeight : List (String × Value) → Nat
  | [] => 0
  | (_, v) :: ms => max v.height (membersHeight ms)

end

/-! ## Laws -/

/-- A name that was put is found. -/
theorem Members.get?_put_self (name : String) (v : Value) (ms : Members) :
    (Members.put name v ms).get? name = some v := by
  induction ms with
  | nil => simp [Members.put, Members.get?]
  | cons m ms ih =>
    unfold Members.put
    split
    · simp [Members.get?]
    · rename_i other
      simp only [Members.get?, List.find?_cons] at ih ⊢
      simp only [other]
      exact ih

/-- Putting one name leaves the others as they are. -/
theorem Members.get?_put_of_ne {name other : String} (h : other ≠ name) (v : Value) (ms : Members) :
    (Members.put name v ms).get? other = ms.get? other := by
  induction ms with
  | nil => simp [Members.put, Members.get?, Ne.symm h]
  | cons m ms ih =>
    unfold Members.put
    split
    · rename_i same
      have same : m.1 = name := by simpa using same
      have differs : (m.1 == other) = false := by simp [same, Ne.symm h]
      simp [Members.get?, differs, Ne.symm h]
    · simp only [Members.get?, List.find?_cons] at ih ⊢
      cases (m.1 == other) with
      | true => rfl
      | false => exact ih

end Unloop.Json

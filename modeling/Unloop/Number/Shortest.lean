-- The shortest decimal that reads back as a given number. Of the decimal
-- grids, from coarse to fine, the first with such a point gives the digits,
-- and of two points the nearer one is taken.
import Unloop.Number.Decimal
import Unloop.Number.Double

namespace Unloop.Number

/-- A whole number times a power of ten. -/
structure Decimal where
  digits : Nat
  exponent : Int
  deriving DecidableEq

/-- The decimal `d` reads back as `x`. -/
def Decimal.ReadsAs (d : Decimal) (x : Finite) : Prop :=
  Double.ofDecimal x.negative d.digits d.exponent = .finite x

instance (d : Decimal) (x : Finite) : Decidable (d.ReadsAs x) :=
  inferInstanceAs (Decidable (_ = _))

/-- The size of the number as a decimal, every digit of it. -/
def Finite.inFull (x : Finite) : Decimal :=
  if 0 ≤ x.exponent then ⟨x.mantissa * twoTo x.exponent.toNat, 0⟩
  else ⟨x.mantissa * Nat.pow 5 (-x.exponent).toNat, x.exponent⟩

/-- Of the two neighbours of `c / d` on the grid of step `10 ^ e`, the one that
reads back as `x`: the nearer if both do, the even one if both are as near. -/
def Finite.neighbour? (x : Finite) (e : Int) (c d : Nat) : Option Decimal :=
  if Decimal.ReadsAs ⟨c / d, e⟩ x then
    if Decimal.ReadsAs ⟨c / d + 1, e⟩ x then some ⟨nearest c d, e⟩ else some ⟨c / d, e⟩
  else if Decimal.ReadsAs ⟨c / d + 1, e⟩ x then some ⟨c / d + 1, e⟩
  else none

/-- The point of the grid of step `10 ^ e` that reads back as `x`. -/
def Finite.pointOn? (x : Finite) (e : Int) : Option Decimal :=
  if 0 ≤ e then x.neighbour? e x.ratio.1 (x.ratio.2 * tenTo e.toNat)
  else x.neighbour? e (x.ratio.1 * tenTo (-e).toNat) x.ratio.2

/-- Tries grids, each ten times finer than the one before. -/
def Finite.search (x : Finite) : (grids : Nat) → (e : Int) → Option Decimal
  | 0, _ => none
  | grids + 1, e => (x.pointOn? e).or (x.search grids (e - 1))

/-- A power of ten above the number, by the number of its bits. -/
def Finite.topExponent (x : Finite) : Int :=
  let bits : Int := Nat.log2 x.mantissa + 1 + x.exponent
  bits * 30103 / 100000 + 1

/-- The shortest decimal that reads back as the number. -/
def Finite.shortest (x : Finite) : Decimal :=
  if x.mantissa = 0 then ⟨0, 0⟩ else (x.search 25 x.topExponent).getD x.inFull

/-! ## Fixed places -/

/-- A finite number with three places, the nearest, a tie to the even digit. -/
def Finite.threePlaces (x : Finite) : List Char :=
  let (a, b) := x.ratio
  let n := nearest (a * 1000) b
  let places := digits (1000 + n % 1000)
  (if x.negative then ['-'] else []) ++ digits (n / 1000) ++ '.' :: places.drop 1

/-- A number with three places. -/
def Double.threePlaces : Double → List Char
  | .finite x => x.threePlaces
  | .infinite negative => if negative then "-inf".toList else "inf".toList
  | .nan => "nan".toList

/-! ## Laws -/

/-- The neighbour that is taken reads back. -/
theorem Finite.readsAs_of_neighbour? {x : Finite} {e : Int} {c d : Nat} {p : Decimal}
    (h : x.neighbour? e c d = some p) : p.ReadsAs x := by
  unfold Finite.neighbour? at h
  split at h
  · rename_i below
    split at h
    · rename_i above
      obtain rfl := Option.some.inj h
      have bounds := nearest_bounds c d
      rcases (show nearest c d = c / d ∨ nearest c d = c / d + 1 by omega) with eq | eq
      · rw [eq]; exact below
      · rw [eq]; exact above
    · obtain rfl := Option.some.inj h
      exact below
  · split at h
    · rename_i above
      obtain rfl := Option.some.inj h
      exact above
    · cases h

/-- A point of a grid reads back. -/
theorem Finite.readsAs_of_pointOn? {x : Finite} {e : Int} {p : Decimal}
    (h : x.pointOn? e = some p) : p.ReadsAs x := by
  unfold Finite.pointOn? at h
  split at h <;> exact readsAs_of_neighbour? h

/-- Whatever the search finds reads back. -/
theorem Finite.readsAs_of_search {x : Finite} {grids : Nat} {e : Int} {d : Decimal}
    (h : x.search grids e = some d) : d.ReadsAs x := by
  induction grids generalizing e with
  | zero => cases h
  | succ grids ih =>
    unfold Finite.search at h
    cases found : x.pointOn? e with
    | none =>
      rw [found, Option.none_or] at h
      exact ih h
    | some p =>
      rw [found, Option.some_or] at h
      cases h
      exact readsAs_of_pointOn? found

end Unloop.Number

-- Binary floating-point numbers of 64 bits, kept as a whole mantissa times a
-- power of two. Ratios are rounded once, to the nearest, and a tie goes to
-- the even mantissa.
import Unloop.Number.Power

namespace Unloop.Number

/-! ## The numbers -/

/-- The one form in which a finite number is kept: 53 bits, all used unless
the exponent is the least. -/
def Standard (mantissa : Nat) (exponent : Int) : Prop :=
  mantissa < twoTo 53 ∧ -1074 ≤ exponent ∧ exponent ≤ 971 ∧
    (twoTo 52 ≤ mantissa ∨ exponent = -1074)

instance (m : Nat) (e : Int) : Decidable (Standard m e) :=
  inferInstanceAs (Decidable (_ ∧ _ ∧ _ ∧ _))

/-- The finite number `mantissa * 2 ^ exponent` with a sign, which zero has
too. -/
structure Finite where
  negative : Bool
  mantissa : Nat
  exponent : Int
  standard : Standard mantissa exponent
  deriving DecidableEq

/-- A number of 64 bits. -/
inductive Double where
  | finite (x : Finite)
  | infinite (negative : Bool)
  | nan
  deriving DecidableEq

/-! ## Rounding -/

/-- The whole number nearest to `a / b`, the even one of two. -/
def nearest (a b : Nat) : Nat :=
  let q := a / b
  let r := a % b
  if 2 * r < b then q else if b < 2 * r then q + 1 else q + q % 2

/-- The ratio `a / b` divided by `2 ^ e`, as a ratio. -/
def scaled (a b : Nat) (e : Int) : Nat × Nat :=
  if 0 ≤ e then (a, b * twoTo e.toNat) else (a * twoTo (-e).toNat, b)

/-- The exponent at which the ratio `a / b` has a mantissa of 53 bits, or the
least exponent where it has fewer. -/
def exponentFor (a b : Nat) : Int :=
  let e := max ((Nat.log2 a : Int) - Nat.log2 b - 53) (-1074)
  let (c, d) := scaled a b e
  if c / d < twoTo 53 then e else e + 1

/-- The number of this mantissa and exponent, infinite where it is too
large. -/
def Double.ofParts (negative : Bool) (m : Nat) (e : Int) : Double :=
  if h : Standard m e then .finite ⟨negative, m, e, h⟩ else .infinite negative

/-- Zero with a sign. -/
def Double.zero (negative : Bool) : Double := .ofParts negative 0 (-1074)

/-- The number nearest to the ratio `a / b`. -/
def Double.ofRatio (negative : Bool) (a b : Nat) : Double :=
  if a = 0 then .zero negative
  else
    let e := exponentFor a b
    let (c, d) := scaled a b e
    let m := nearest c d
    if m = twoTo 53 then .ofParts negative (twoTo 52) (e + 1) else .ofParts negative m e

/-- The number nearest to `n * 10 ^ e`. Powers far outside the range are not
worked out. -/
def Double.ofDecimal (negative : Bool) (n : Nat) (e : Int) : Double :=
  if n = 0 then .zero negative
  else if 400 < e then .infinite negative
  else if e < -400 - Nat.log2 n then .zero negative
  else if 0 ≤ e then .ofRatio negative (n * tenTo e.toNat) 1
  else .ofRatio negative n (tenTo (-e).toNat)

/-- The number nearest to a whole one. -/
def Double.ofInt (n : Int) : Double := .ofRatio (n < 0) n.natAbs 1

/-- The number is neither infinite nor undefined. -/
def Double.isFinite : Double → Bool
  | .finite _ => true
  | _ => false

/-! ## Ratios of numbers -/

/-- The size of a finite number as a ratio of whole numbers. -/
def Finite.ratio (x : Finite) : Nat × Nat :=
  if 0 ≤ x.exponent then (x.mantissa * twoTo x.exponent.toNat, 1)
  else (x.mantissa, twoTo (-x.exponent).toNat)

/-- The number divided by a whole one, rounded. -/
def Double.divNat (x : Double) (n : Nat) : Double :=
  match x with
  | .finite x => .ofRatio x.negative x.ratio.1 (x.ratio.2 * n)
  | x => x

/-- The whole number that a finite number is, if it is one. -/
def Finite.toInt? (x : Finite) : Option Int :=
  let (a, b) := x.ratio
  if a % b = 0 then some (if x.negative then -(a / b : Nat) else (a / b : Nat)) else none

/-! ## Laws -/

/-- Rounding to a whole number moves by less than one. -/
theorem nearest_bounds (a b : Nat) : a / b ≤ nearest a b ∧ nearest a b ≤ a / b + 1 := by
  unfold nearest
  dsimp only
  split
  · omega
  · split
    · omega
    · omega

/-- A whole ratio is its own nearest number. -/
theorem nearest_mul (a b : Nat) (h : 0 < b) : nearest (a * b) b = a := by
  simp [nearest, Nat.mul_div_cancel _ h, h]

end Unloop.Number

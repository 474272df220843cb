-- Whole numbers in decimal. A number can be written or read as long as it
-- has at most 4300 digits.
import Unloop.Number.Power

namespace Unloop.Number

/-! ## Digits -/

/-- A decimal digit, in ASCII. -/
def isDigit (c : Char) : Bool := 48 ≤ c.toNat && c.toNat ≤ 57

/-- The digit of a number below ten. -/
def digitChar (n : Nat) : Char := Char.ofNat (48 + n)

/-- The digits of a number, put before `rest`. -/
def digitsBefore (n : Nat) (rest : List Char) : List Char :=
  if n < 10 then digitChar n :: rest else digitsBefore (n / 10) (digitChar (n % 10) :: rest)
termination_by n
decreasing_by omega

/-- The decimal digits of a number, with no needless zero. -/
def digits (n : Nat) : List Char := digitsBefore n []

/-- The number that some digits spell. -/
def ofDigits (cs : List Char) : Nat := cs.foldl (fun n c => 10 * n + (c.toNat - 48)) 0

/-! ## Signed numbers -/

/-- The number with a sign only where it is negative. -/
def plain (n : Int) : List Char := if n < 0 then '-' :: digits n.natAbs else digits n.natAbs

/-- The number with its sign, which is a plus for zero. -/
def signed (n : Int) : List Char := (if n < 0 then '-' else '+') :: digits n.natAbs

/-- The most digits that a number may have to be written or read. -/
def digitLimit : Nat := 4300

/-- A number of at most `digitLimit` digits. -/
def Writable (n : Int) : Prop := n.natAbs < tenTo digitLimit

instance (n : Int) : Decidable (Writable n) := inferInstanceAs (Decidable (_ < _))

/-- The number as text, if it has not too many digits. -/
def text? (n : Int) : Option String :=
  if Writable n then some (String.ofList (plain n)) else none

/-- The text of a number that cannot be too long to write. -/
def ofNat (n : Nat) : String := String.ofList (digits n)

/-! ## Laws -/

theorem isDigit_digitChar {n : Nat} (h : n < 10) : isDigit (digitChar n) = true := by
  have all : ∀ m < 10, isDigit (digitChar m) = true := by decide
  exact all n h

theorem toNat_digitChar {n : Nat} (h : n < 10) : (digitChar n).toNat - 48 = n := by
  have all : ∀ m < 10, (digitChar m).toNat - 48 = m := by decide
  exact all n h

/-- Digits put before others are digits followed by the others. -/
theorem digitsBefore_eq (n : Nat) (rest : List Char) : digitsBefore n rest = digits n ++ rest := by
  unfold digits
  induction n using Nat.strongRecOn generalizing rest with
  | _ n ih =>
    rw [digitsBefore.eq_def n rest, digitsBefore.eq_def n []]
    split
    · rfl
    · rw [ih _ (by omega), ih _ (by omega) [_], List.append_assoc]
      rfl

/-- The last digit is the remainder, and the digits before it spell the
quotient. -/
theorem digits_eq (n : Nat) :
    digits n = (if n < 10 then [] else digits (n / 10)) ++ [digitChar (n % 10)] := by
  rw [digits, digitsBefore.eq_def]
  split
  · rename_i h
    simp [Nat.mod_eq_of_lt h]
  · rw [digitsBefore_eq]

theorem isDigit_of_mem_digits {n : Nat} {c : Char} (h : c ∈ digits n) : isDigit c = true := by
  induction n using Nat.strongRecOn with
  | _ n ih =>
    rw [digits_eq] at h
    rcases List.mem_append.mp h with h | h
    · split at h
      · simp at h
      · exact ih (n / 10) (by omega) h
    · simp only [List.mem_singleton] at h
      subst h
      exact isDigit_digitChar (Nat.mod_lt _ (by omega))

/-- The digits of a number spell it. -/
theorem ofDigits_digits (n : Nat) : ofDigits (digits n) = n := by
  induction n using Nat.strongRecOn with
  | _ n ih =>
    rw [digits_eq]
    have last := toNat_digitChar (Nat.mod_lt n (show 0 < 10 by omega))
    split
    · simp only [ofDigits, List.nil_append, List.foldl_cons, List.foldl_nil, last]
      omega
    · have front := ih (n / 10) (by omega)
      simp only [ofDigits] at front
      simp only [ofDigits, List.foldl_append, List.foldl_cons, List.foldl_nil, front, last]
      omega

end Unloop.Number

-- Lists cut into parts of one size.

namespace Unloop.Text

variable {α : Type}

/-- Cuts a list into parts of `size`, the last one shorter or not; an empty
list is one empty part. -/
def parts (size : Nat) (xs : List α) : List (List α) :=
  if _ : 0 < size ∧ size < xs.length then xs.take size :: parts size (xs.drop size) else [xs]
termination_by xs.length
decreasing_by simp; omega

/-- The parts make up the list. -/
theorem flatten_parts (size : Nat) (xs : List α) : (parts size xs).flatten = xs := by
  induction xs using parts.induct size with
  | case1 xs h ih => rw [parts, dif_pos h, List.flatten_cons, ih, List.take_append_drop]
  | case2 xs h => rw [parts, dif_neg h, List.flatten_singleton]

end Unloop.Text

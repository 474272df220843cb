-- The laws of line breaks. A line holds no break, and a text whose last
-- element is a break can be followed by another text without a change of its
-- lines.
import Unloop.Text.Lines

namespace Unloop.Text

section

variable {α : Type} {br : Breaks α} {x y : α} {text rest body : List α} {ls more : List (Line α)}
  {l : Line α}

theorem push_of_not_break_nil (h : br.isBreak x = false) : br.push x [] = [⟨[x], []⟩] := by
  simp [Breaks.push, h]

theorem push_of_not_break_cons (h : br.isBreak x = false) (l : Line α) (more : List (Line α)) :
    br.push x (l :: more) = ⟨x :: l.body, l.ending⟩ :: more := by
  simp [Breaks.push, h]

theorem push_ne_nil (x : α) (ls : List (Line α)) : br.push x ls ≠ [] := by
  unfold Breaks.push
  split
  · split
    · split <;> simp
    · simp
  · split <;> simp

/-- What is put before some lines changes the first one at most. -/
theorem push_append (x : α) (h : ls ≠ []) (more : List (Line α)) :
    br.push x (ls ++ more) = br.push x ls ++ more := by
  obtain ⟨l, ls, rfl⟩ := List.exists_cons_of_ne_nil h
  unfold Breaks.push
  split
  · split
    · rename_i hl
      obtain ⟨rfl, rfl⟩ := List.cons.inj hl
      split <;> simp [*]
    · rename_i hl
      split
      · rename_i hl'
        obtain ⟨rfl, rfl⟩ := List.cons.inj hl'
        exact absurd rfl (hl _ _)
      · simp
  · simp

theorem foldr_push_append (text : List α) (h : ls ≠ []) (more : List (Line α)) :
    text.foldr br.push (ls ++ more) = text.foldr br.push ls ++ more := by
  induction text with
  | nil => rfl
  | cons x text ih =>
    rw [List.foldr_cons, List.foldr_cons, ih, push_append]
    cases text with
    | nil => exact h
    | cons y text => exact push_ne_nil _ _

theorem length_push_le (x : α) (ls : List (Line α)) : (br.push x ls).length ≤ ls.length + 1 := by
  unfold Breaks.push
  split
  · split
    · split <;> simp
    · simp
  · split <;> simp

/-- A text has no more lines than elements. -/
theorem length_split_le (text : List α) : (br.split text).length ≤ text.length := by
  induction text with
  | nil => exact Nat.le_refl 0
  | cons x text ih => exact Nat.le_trans (length_push_le x _) (Nat.succ_le_succ ih)

theorem not_break_of_mem_split (hl : l ∈ br.split text) (hx : x ∈ l.body) :
    br.isBreak x = false := by
  induction text generalizing l x with
  | nil => cases hl
  | cons y text ih =>
    change l ∈ br.push y (br.split text) at hl
    unfold Breaks.push at hl
    generalize br.split text = ls at hl ih
    split at hl
    · split at hl
      · split at hl
        · rcases List.mem_cons.mp hl with rfl | hl
          · cases hx
          · exact ih (List.mem_cons_of_mem _ hl) hx
        · rcases List.mem_cons.mp hl with rfl | hl
          · cases hx
          · exact ih hl hx
      · rcases List.mem_cons.mp hl with rfl | hl
        · cases hx
        · exact ih hl hx
    · rename_i hy
      split at hl
      · rw [List.mem_singleton.mp hl, List.mem_singleton] at hx
        rw [hx]
        simpa using hy
      · rcases List.mem_cons.mp hl with rfl | hl
        · rcases List.mem_cons.mp hx with rfl | hx
          · simpa using hy
          · exact ih (List.mem_cons_self) hx
        · exact ih (List.mem_cons_of_mem _ hl) hx

/-- A break before a text that starts with none ends a line of its own. -/
theorem split_break_cons (hx : br.isBreak x = true) (hrest : ∀ y ∈ rest.head?, br.isBreak y = false) :
    br.split (x :: rest) = ⟨[], [x]⟩ :: br.split rest := by
  change br.push x (br.split rest) = _
  cases rest with
  | nil => simp [Breaks.split, Breaks.push, hx]
  | cons y rest =>
    have hy : br.isBreak y = false := hrest y rfl
    change br.push x (br.push y (br.split rest)) = _ :: br.push y (br.split rest)
    rcases hls : br.split rest with _ | ⟨l, ls⟩
    · simp [Breaks.push, hx, hy]
    · simp [Breaks.push, hx, hy]

/-- Lines that are complete stay as they are before a text that starts with no
break. -/
theorem split_append (hx : br.isBreak x = true) (hrest : ∀ y ∈ rest.head?, br.isBreak y = false) :
    br.split (text ++ x :: rest) = br.split (text ++ [x]) ++ br.split rest := by
  have hsingle : br.split [x] = [⟨[], [x]⟩] := split_break_cons hx (by simp)
  unfold Breaks.split at *
  rw [List.foldr_append, List.foldr_append, hsingle, ← foldr_push_append text (by simp),
    List.singleton_append]
  congr 1
  exact split_break_cons hx hrest

/-- A text without breaks is one line without an ending. -/
theorem split_bare (hne : body ≠ []) (hbody : ∀ y ∈ body, br.isBreak y = false) :
    br.split body = [⟨body, []⟩] := by
  induction body with
  | nil => exact absurd rfl hne
  | cons y body ih =>
    have hy := hbody y List.mem_cons_self
    change br.push y (br.split body) = _
    by_cases hnil : body = []
    · simp [hnil, Breaks.split, Breaks.push, hy]
    · rw [ih hnil fun z hz => hbody z (List.mem_cons_of_mem _ hz), push_of_not_break_cons hy]

/-- A line without breaks, and the break that ends it and the text. -/
theorem split_ended (hbody : ∀ y ∈ body, br.isBreak y = false) (hx : br.isBreak x = true) :
    br.split (body ++ [x]) = [⟨body, [x]⟩] := by
  induction body with
  | nil => exact split_break_cons hx (by simp)
  | cons y body ih =>
    change br.push y (br.split (body ++ [x])) = _
    rw [ih fun z hz => hbody z (List.mem_cons_of_mem _ hz),
      push_of_not_break_cons (hbody y List.mem_cons_self)]

/-- A line without breaks, and the feed that ends it. -/
theorem split_line (hbody : ∀ y ∈ body, br.isBreak y = false) (hx : br.isBreak x = true)
    (hret : br.isReturn x = false) (rest : List α) :
    br.split (body ++ x :: rest) = ⟨body, [x]⟩ :: br.split rest := by
  induction body with
  | nil =>
    change br.push x (br.split rest) = _
    unfold Breaks.push
    rw [if_pos hx]
    split
    · simp [*]
    · rfl
  | cons y body ih =>
    change br.push y (br.split (body ++ x :: rest)) = _
    rw [ih fun z hz => hbody z (List.mem_cons_of_mem _ hz),
      push_of_not_break_cons (hbody y (by simp))]

end

end Unloop.Text

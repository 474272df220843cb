-- Texts that pass through markup. A tag in brackets is kept from its meaning
-- by backslashes, so that the text is shown as it is, but for two things: a
-- backslash before a bracket that opens no tag is lost, and emoji stand in the
-- place of their names in each piece between two tags.
import Unloop.Text.Emoji

namespace Unloop.Text.Markup

/-- A character with which a tag may begin. -/
def beginsTag (c : Char) : Bool :=
  ('a' ≤ c && c ≤ 'z') || c == '#' || c == '/' || c == '@'

/-- Splits a text behind the first closing bracket, unless an opening one comes
before it. -/
def closing? : List Char → Option (List Char × List Char)
  | [] => none
  | c :: rest =>
    if c = ']' then some ([c], rest)
    else if c = '[' then none
    else (closing? rest).map fun (tag, after) => (c :: tag, after)

/-- The tag at the front of a text, and what comes after it. -/
def tag? : List Char → Option (List Char × List Char)
  | '[' :: c :: rest =>
    if beginsTag c then (closing? rest).map fun (tag, after) => ('[' :: c :: tag, after) else none
  | _ => none

/-- A text is made of what stands before and after its closing bracket. -/
theorem append_of_closing? {cs tag after : List Char} (h : closing? cs = some (tag, after)) :
    tag ++ after = cs := by
  induction cs generalizing tag with
  | nil => simp [closing?] at h
  | cons c rest ih =>
    unfold closing? at h
    split at h
    · simp only [Option.some.injEq, Prod.mk.injEq] at h
      simp [← h.1, ← h.2]
    · split at h
      · simp at h
      · obtain ⟨⟨t, a⟩, found, same⟩ := Option.map_eq_some_iff.1 h
        simp only [Prod.mk.injEq] at same
        obtain ⟨rfl, rfl⟩ := same
        rw [List.cons_append, ih found]

/-- A text is made of its first tag and what comes after it. -/
theorem append_of_tag? {cs tag after : List Char} (h : tag? cs = some (tag, after)) :
    tag ++ after = cs := by
  unfold tag? at h
  split at h
  · split at h
    · obtain ⟨⟨t, a⟩, found, same⟩ := Option.map_eq_some_iff.1 h
      simp only [Prod.mk.injEq] at same
      obtain ⟨rfl, rfl⟩ := same
      rw [List.cons_append, List.cons_append, append_of_closing? found]
    · simp at h
  · simp at h

/-- Less is left after a tag. -/
theorem length_after_tag? {cs tag after : List Char} (h : tag? cs = some (tag, after)) :
    after.length < cs.length := by
  have whole := append_of_tag? h
  have filled : tag ≠ [] := by
    intro none
    subst none
    unfold tag? at h
    split at h
    · split at h
      · obtain ⟨_, _, same⟩ := Option.map_eq_some_iff.1 h
        simp at same
      · simp at h
    · simp at h
  have positive := List.length_pos_iff.2 filled
  rw [← whole, List.length_append]
  omega

/-- The character is a backslash. -/
def isBackslash (c : Char) : Bool := c == '\\'

/-- The pieces of a text: each tag, the backslashes before it, and what stands
between. `before` is the piece that is being read, its last character first. -/
def pieces (before : List Char) : List Char → List (List Char)
  | [] => [before.reverse]
  | c :: rest =>
    match _found : tag? ((c :: rest).dropWhile isBackslash) with
    | some (tag, after) =>
      before.reverse :: (c :: rest).takeWhile isBackslash :: tag :: pieces [] after
    | none => pieces (c :: before) rest
termination_by cs => cs.length
decreasing_by
  · have shorter := length_after_tag? _found
    have fewer := (List.dropWhile_suffix isBackslash (l := c :: rest)).length_le
    omega
  · simp

/-- A piece without the backslashes that stand before brackets. -/
def unescaped : List Char → List Char
  | '\\' :: '[' :: rest => '[' :: unescaped rest
  | c :: rest => c :: unescaped rest
  | [] => []

/-- What is seen of a text. -/
def seen (cs : List Char) : List Char :=
  (pieces [] cs).flatMap fun piece => Emoji.replaced (unescaped piece)

end Unloop.Text.Markup

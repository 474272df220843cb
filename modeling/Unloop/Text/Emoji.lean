-- Emoji by their names. Where a text has a name between two colons, the emoji
-- stands in its place; what is no name stays.
import Unloop.Text.Blank
import Unloop.Text.Emoji.Names
import Unloop.Text.LowerCase

namespace Unloop.Text.Emoji

/-! ## Names -/

/-- The words for the skin tones. -/
def tones : List (String × Nat) :=
  [("_light_skin_tone", 0x1F3FB), ("_medium-light_skin_tone", 0x1F3FC),
    ("_medium_skin_tone", 0x1F3FD), ("_medium-dark_skin_tone", 0x1F3FE),
    ("_dark_skin_tone", 0x1F3FF)]

/-- The code points of an emoji in a skin tone, which comes after the first of
them. A selector for the look as an emoji gives way to it. -/
def inTone (tone : Nat) : List Nat → List Nat
  | [] => []
  | c :: 0xFE0F :: rest => c :: tone :: rest
  | c :: rest => c :: tone :: rest

/-- The code points under a name in a table. -/
def look (name : String) (table : List (String × List Nat)) : Option (List Nat) :=
  (table.find? fun row => row.1 == name).map Prod.snd

/-- The code points of an emoji whose name ends with a skin tone. -/
def tinted? (name : String) : Option (List Nat) :=
  tones.findSome? fun (word, tone) =>
    if name.endsWith word then
      (look (String.ofList (name.toList.take (name.length - word.length))) tonedPictures).map
        (inTone tone)
    else none

/-- The emoji of a name in small letters. -/
def find? (name : String) : Option (List Char) :=
  (((look name pictures).or (look name tonedPictures)).or (tinted? name)).map fun codes =>
    codes.map Char.ofNat

/-! ## Texts -/

/-- Which look a name asks for. -/
inductive Look where
  | any
  | emoji
  | text
  deriving DecidableEq

/-- The end of a name that asks for a look. -/
def Look.ending : Look → List Char
  | any => []
  | emoji => "-emoji".toList
  | text => "-text".toList

/-- The selector that gives a look. -/
def Look.selector : Look → List Char
  | any => []
  | emoji => ['\ufe0f']
  | text => ['\ufe0e']

/-- A name that stood between colons, the look that it asks for, and the text
after it. -/
structure Named where
  name : List Char
  look : Look
  rest : List Char

/-- Reads a name up to its colon, with a look if it asks for one. A name has no
blanks. `before` is what was read of it, the last character first. -/
def readName (before : List Char) : List Char → Option Named
  | [] => none
  | c :: rest =>
    if "-emoji:".toList.isPrefixOf (c :: rest) then some ⟨before.reverse, .emoji, rest.drop 6⟩
    else if "-text:".toList.isPrefixOf (c :: rest) then some ⟨before.reverse, .text, rest.drop 5⟩
    else if c = ':' then some ⟨before.reverse, .any, rest⟩
    else if isBlank c then none
    else readName (c :: before) rest

/-- Less is left after a name. -/
theorem length_rest_of_readName {before cs : List Char} {n : Named}
    (h : readName before cs = some n) : n.rest.length < cs.length := by
  induction cs generalizing before with
  | nil => simp [readName] at h
  | cons c rest ih =>
    unfold readName at h
    split at h
    · simp only [Option.some.injEq] at h
      subst h
      simp only [List.length_drop, List.length_cons]
      omega
    · split at h
      · simp only [Option.some.injEq] at h
        subst h
        simp only [List.length_drop, List.length_cons]
        omega
      · split at h
        · simp only [Option.some.injEq] at h
          subst h
          simp
        · split at h
          · simp at h
          · have shorter := ih h
            simp only [List.length_cons]
            omega

/-- The emoji of a name with its look, or else the name as it stood. -/
def Named.shown (n : Named) : List Char :=
  match find? (String.ofList (lowered n.name)) with
  | some picture => picture ++ n.look.selector
  | none => ':' :: n.name ++ n.look.ending ++ [':']

/-- A text with emoji in the place of their names. -/
def replaced : List Char → List Char
  | [] => []
  | c :: rest =>
    if c = ':' then
      match _read : readName [] rest with
      | some n => n.shown ++ replaced n.rest
      | none => c :: replaced rest
    else c :: replaced rest
termination_by cs => cs.length
decreasing_by
  · have shorter := length_rest_of_readName _read
    simp only [List.length_cons]
    omega
  · simp
  · simp

end Unloop.Text.Emoji

-- How much two words resemble one another: the longest piece that both have,
-- then the longest pieces before it and after it, and so on. The more of the
-- two words is in such pieces, the closer they are.

namespace Unloop.Text

/-! ## Common pieces -/

/-- The length of the common beginning of two texts. -/
def commonStart : List Char → List Char → Nat
  | a :: as, b :: bs => if a = b then commonStart as bs + 1 else 0
  | _, _ => 0

/-- A piece that two texts have in common: where it starts in each, and its
length. -/
structure CommonPiece where
  left : Nat
  right : Nat
  length : Nat
  deriving DecidableEq

/-- The longer of two pieces, the first one if they are equally long. -/
def longer (p q : CommonPiece) : CommonPiece := if p.length < q.length then q else p

/-- The longest piece that two texts have in common, the leftmost of
several. -/
def longestCommon (as bs : List Char) : CommonPiece :=
  let starts := (List.range as.length).flatMap fun i => (List.range bs.length).map fun j => (i, j)
  starts.foldl (fun best (i, j) => longer best ⟨i, j, commonStart (as.drop i) (bs.drop j)⟩) ⟨0, 0, 0⟩

/-- How many characters are in common pieces. Each step leaves less of the
first text, so `fuel` need not be more than its length. -/
def commonFrom : (fuel : Nat) → List Char → List Char → Nat
  | 0, _, _ => 0
  | fuel + 1, as, bs =>
    let p := longestCommon as bs
    if p.length = 0 then 0
    else
      p.length + commonFrom fuel (as.take p.left) (bs.take p.right) +
        commonFrom fuel (as.drop (p.left + p.length)) (bs.drop (p.right + p.length))

/-- How many characters of two texts are in common pieces. -/
def common (as bs : List Char) : Nat := commonFrom as.length as bs

/-! ## Similar words -/

/-- A word and how close it is to another one: characters in common pieces,
out of those of both words. -/
structure Closeness where
  word : String
  common : Nat
  total : Nat
  deriving DecidableEq

/-- How close a word is to a wanted one. -/
def Closeness.of (wanted word : String) : Closeness :=
  ⟨word, Text.common word.toList wanted.toList, word.length + wanted.length⟩

/-- The two words share three fifths of their characters at least. -/
def Closeness.isClose (c : Closeness) : Bool := 3 * c.total ≤ 10 * c.common

/-- One word is closer than the other, or as close and later in the
alphabet. -/
def Closeness.isBefore (c d : Closeness) : Bool :=
  d.common * c.total < c.common * d.total ||
    (d.common * c.total == c.common * d.total && decide (d.word ≤ c.word))

/-- The words that are close to a wanted one, at most three, the closest
first. -/
def similar (wanted : String) (words : List String) : List String :=
  let close := (words.map (Closeness.of wanted)).filter Closeness.isClose
  ((close.mergeSort Closeness.isBefore).take 3).map Closeness.word

end Unloop.Text

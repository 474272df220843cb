-- The width of a text in cells. Marks belong to the character before them, and
-- what a joiner joins is seen as one.
import Unloop.Text.CellWidth

namespace Unloop.Text

/-- Characters that are seen as one, and how many cells they take. -/
structure Cluster where
  chars : List Char
  cells : Nat
  deriving DecidableEq

/-- A text that is being divided into clusters: those that are there, the last
one first; the last character that took a cell of its own; and whether the
next character is joined to the last cluster. -/
structure Clustering where
  clusters : List Cluster := []
  measured : Option Char := none
  joins : Bool := false
  deriving DecidableEq

namespace Clustering

/-- The joiner. -/
def joiner : Char := '\u200d'

/-- The selector for the look as an emoji. -/
def emojiSelector : Char := '\ufe0f'

/-- Begins a cluster. -/
def begin (s : Clustering) (c : Char) (cells : Nat) : Clustering :=
  { s with clusters := ⟨[c], cells⟩ :: s.clusters }

/-- Adds a character, and some cells, to the last cluster. -/
def extend (s : Clustering) (c : Char) (cells : Nat) : Clustering :=
  match s.clusters with
  | [] => s.begin c 0
  | last :: others => { s with clusters := ⟨last.chars ++ [c], last.cells + cells⟩ :: others }

/-- The last character that took a cell takes another one as an emoji. -/
def grows (s : Clustering) : Bool :=
  match s.measured with
  | some c => growsAsEmoji c
  | none => false

/-- Adds the next character. -/
def add (s : Clustering) (c : Char) : Clustering :=
  if s.joins then { s.extend c 0 with joins := false }
  else if c = joiner then { s.extend c 0 with joins := !s.clusters.isEmpty }
  else if c = emojiSelector then
    if s.grows then { s.extend c 1 with measured := none } else s.extend c 0
  else if cellsOf c = 0 then s.extend c 0
  else { s.begin c (cellsOf c) with measured := some c }

end Clustering

/-- The clusters of a text. -/
def clusters (cs : List Char) : List Cluster :=
  (cs.foldl Clustering.add {}).clusters.reverse

/-- How many cells a text takes. -/
def cellLength (cs : List Char) : Nat :=
  (clusters cs).foldl (fun n c => n + c.cells) 0

/-- The characters of some clusters. -/
def charsOf (cs : List Cluster) : List Char := cs.flatMap Cluster.chars

/-- The clusters at the front of a text that fit into a width. -/
def fitting (width : Nat) : List Cluster → List Cluster
  | [] => []
  | c :: more => if c.cells ≤ width then c :: fitting (width - c.cells) more else []

/-- Cuts clusters into lines of a width; `line` is the one that is being filled,
and `used` is its width. -/
def cutClusters (width used : Nat) (line : List Cluster) : List Cluster → List (List Cluster)
  | [] => [line]
  | c :: more =>
    if width < used + c.cells then line :: cutClusters width c.cells [c] more
    else cutClusters width (used + c.cells) (line ++ [c]) more

/-- Cuts a text into lines of a width. -/
def cutCells (width : Nat) (cs : List Char) : List (List Char) :=
  (cutClusters width 0 [] (clusters cs)).map charsOf

/-- The front of a text that fits into a width. -/
def fitCells (width : Nat) (cs : List Char) : List Char := charsOf (fitting width (clusters cs))

end Unloop.Text

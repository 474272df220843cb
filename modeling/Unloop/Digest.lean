-- BLAKE3 with 32 bytes of output. The input is cut into chunks of 1024 bytes,
-- each chunk into blocks of 64, and the chunks' values are joined two by two
-- in a tree whose left side is as large as a full tree can be.
import Unloop.Json.Canonical
import Unloop.Text.Hex
import Unloop.Text.Parts
import Unloop.Text.Utf8

namespace Unloop

open Text

namespace Digest

/-! ## The compression of one block -/

/-- Sixteen words: a block, or the state while one is compressed. -/
abbrev Words := Vector UInt32 16

/-- Eight words: what a chunk or a pair of chunks comes down to. -/
abbrev Chain := Vector UInt32 8

/-- The chain that every chunk starts from. -/
def start : Chain :=
  #v[0x6A09E667, 0xBB67AE85, 0x3C6EF372, 0xA54FF53A, 0x510E527F, 0x9B05688C, 0x1F83D9AB,
    0x5BE0CD19]

/-- Where each word of a block stands in the next round. -/
def order : Vector (Fin 16) 16 := #v[2, 6, 3, 10, 7, 0, 4, 13, 1, 11, 12, 5, 9, 14, 15, 8]

/-- A word turned to the right by `n` bits, `n` from 1 to 31. -/
def turn (x n : UInt32) : UInt32 := (x >>> n) ||| (x <<< (32 - n))

/-- Mixes two words of the block into four words of the state. -/
def mix (s : Words) (a b c d : Fin 16) (x y : UInt32) : Words :=
  let s := s.set a (s[a] + s[b] + x)
  let s := s.set d (turn (s[d] ^^^ s[a]) 16)
  let s := s.set c (s[c] + s[d])
  let s := s.set b (turn (s[b] ^^^ s[c]) 12)
  let s := s.set a (s[a] + s[b] + y)
  let s := s.set d (turn (s[d] ^^^ s[a]) 8)
  let s := s.set c (s[c] + s[d])
  s.set b (turn (s[b] ^^^ s[c]) 7)

/-- One round: the columns of the state, then its diagonals. -/
def round (s m : Words) : Words :=
  let s := mix s 0 4 8 12 m[0] m[1]
  let s := mix s 1 5 9 13 m[2] m[3]
  let s := mix s 2 6 10 14 m[4] m[5]
  let s := mix s 3 7 11 15 m[6] m[7]
  let s := mix s 0 5 10 15 m[8] m[9]
  let s := mix s 1 6 11 12 m[10] m[11]
  let s := mix s 2 7 8 13 m[12] m[13]
  mix s 3 4 9 14 m[14] m[15]

/-- Some rounds, the block reordered between them. -/
def rounds : Nat → Words → Words → Words
  | 0, s, _ => s
  | n + 1, s, m => rounds n (round s m) (order.map fun i => m[i])

/-- What marks a block: the first or the last of a chunk, a joint of two
chunks, the top of the tree. -/
structure Marks where
  first : Bool := false
  last : Bool := false
  joint : Bool := false
  top : Bool := false

/-- The marks as a word. -/
def Marks.word (k : Marks) : UInt32 :=
  (if k.first then 1 else 0) + (if k.last then 2 else 0) + (if k.joint then 4 else 0) +
    (if k.top then 8 else 0)

/-- A block that waits to be compressed into a chain. -/
structure Node where
  chain : Chain
  block : Words
  counter : Nat
  size : Nat
  marks : Marks

/-- Compresses a block. -/
def Node.value (n : Node) : Chain :=
  let h := n.chain
  let s : Words :=
    #v[h[0], h[1], h[2], h[3], h[4], h[5], h[6], h[7], start[0], start[1], start[2], start[3],
      UInt32.ofNat n.counter, UInt32.ofNat (n.counter / 4294967296), UInt32.ofNat n.size,
      n.marks.word]
  let s := rounds 7 s n.block
  Vector.ofFn fun i : Fin 8 => s[i.val] ^^^ s[i.val + 8]

/-- The node at the top of the tree. -/
def Node.atTop (n : Node) : Node := { n with marks := { n.marks with top := true } }

/-! ## Chunks and the tree -/

/-- Four bytes as a word, the lowest first. -/
def wordOf : Bytes → UInt32
  | [] => 0
  | b :: bs => b.toUInt32 ||| (wordOf bs <<< 8)

/-- At most 64 bytes as a block, filled up with zeros. -/
def blockOf (bytes : Bytes) : Words :=
  Vector.ofFn fun i : Fin 16 => wordOf ((bytes.drop (4 * i.val)).take 4)

/-- The last node of a chunk whose blocks are given, from the chain so far. -/
def chunkNode (counter : Nat) (first : Bool) (chain : Chain) : List Bytes → Node
  | [] => ⟨chain, blockOf [], counter, 0, { first, last := true }⟩
  | [b] => ⟨chain, blockOf b, counter, b.length, { first, last := true }⟩
  | b :: more =>
    chunkNode counter false (Node.value ⟨chain, blockOf b, counter, 64, { first }⟩) more

/-- The node of the chunk at a place. -/
def nodeAt (counter : Nat) (chunk : Bytes) : Node := chunkNode counter true start (parts 64 chunk)

/-- Two chains side by side in one block. -/
def joined (l r : Chain) : Node := ⟨start, l ++ r, 0, 64, { joint := true }⟩

/-- The greatest power of two below a number that is more than one. -/
def leftSize (n : Nat) : Nat := Number.twoTo (Nat.log2 (n - 1))

/-- The node over some nodes. Each step halves them at least roughly, so
`fuel` need not be more than their number. -/
def treeTop : (fuel : Nat) → List Node → Node
  | 0, ns => ns.headD (nodeAt 0 [])
  | fuel + 1, ns =>
    match ns with
    | [] => nodeAt 0 []
    | [n] => n
    | ns =>
      let k := leftSize ns.length
      joined (treeTop fuel (ns.take k)).value (treeTop fuel (ns.drop k)).value

/-- The 32 bytes of a chain. -/
def chainBytes (c : Chain) : Bytes :=
  c.toList.flatMap fun w => (List.range 4).map fun i => (w >>> UInt32.ofNat (8 * i)).toUInt8

/-- The hash of some bytes. -/
def ofBytes (bytes : Bytes) : Bytes :=
  let nodes := (parts 1024 bytes).mapIdx nodeAt
  chainBytes (treeTop nodes.length nodes).atTop.value

end Digest

/-! ## Hashes as text -/

/-- The hash of some bytes in hexadecimal. -/
def hashOf (bytes : Bytes) : String := String.ofList (hexBytes (Digest.ofBytes bytes))

/-- The hash of a text. -/
def hashOfText (s : String) : String := hashOf (bytesOf s)

/-- The hash of the canonical text of a value, if it has one. -/
def Json.Value.hash? (v : Json.Value) : Option String :=
  v.canonical?.map fun cs => hashOf (encode cs)

end Unloop

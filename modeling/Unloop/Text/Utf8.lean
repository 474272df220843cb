-- Bytes and characters. A text is written as UTF-8. Bytes are read either
-- strictly, where one byte out of place refuses the whole, or with every
-- byte out of place shown as `\xNN`.
import Unloop.Text.Hex

namespace Unloop.Text

/-- The content of a file. -/
abbrev Bytes := List UInt8

/-! ## Writing -/

/-- The bytes of one character. -/
def encodeChar (c : Char) : Bytes :=
  let n := c.toNat
  if n < 0x80 then [UInt8.ofNat n]
  else if n < 0x800 then [UInt8.ofNat (0xC0 + n / 64), UInt8.ofNat (0x80 + n % 64)]
  else if n < 0x10000 then
    [UInt8.ofNat (0xE0 + n / 4096), UInt8.ofNat (0x80 + n / 64 % 64), UInt8.ofNat (0x80 + n % 64)]
  else
    [UInt8.ofNat (0xF0 + n / 262144), UInt8.ofNat (0x80 + n / 4096 % 64),
      UInt8.ofNat (0x80 + n / 64 % 64), UInt8.ofNat (0x80 + n % 64)]

/-- The bytes of a text. -/
def encode (cs : List Char) : Bytes := cs.flatMap encodeChar

/-- The bytes of a string. -/
def bytesOf (s : String) : Bytes := encode s.toList

/-! ## Reading -/

/-- The low six bits of a byte that may follow the first byte of a character. -/
def tail? (b : UInt8) : Option Nat :=
  if 0x80 ≤ b.toNat ∧ b.toNat < 0xC0 then some (b.toNat - 0x80) else none

/-- The character of a code point of at least `least`, the smallest one that
needs this many bytes. -/
def charAbove? (least n : Nat) : Option Char :=
  if h : n.isValidChar then if least ≤ n then some (Char.ofNatAux n h) else none else none

/-- The character that starts with byte `a`, and how many of the bytes that
follow belong to it. -/
def firstChar? (a : UInt8) (rest : Bytes) : Option (Char × Nat) :=
  let n := a.toNat
  if n < 0x80 then (charAbove? 0 n).map (·, 0)
  else if n < 0xC0 then none
  else if n < 0xE0 then
    match rest with
    | b :: _ => do
      let b ← tail? b
      (charAbove? 0x80 ((n - 0xC0) * 64 + b)).map (·, 1)
    | _ => none
  else if n < 0xF0 then
    match rest with
    | b :: c :: _ => do
      let b ← tail? b
      let c ← tail? c
      (charAbove? 0x800 ((n - 0xE0) * 4096 + b * 64 + c)).map (·, 2)
    | _ => none
  else
    match rest with
    | b :: c :: d :: _ => do
      let b ← tail? b
      let c ← tail? c
      let d ← tail? d
      (charAbove? 0x10000 ((n - 0xF0) * 262144 + b * 4096 + c * 64 + d)).map (·, 3)
    | _ => none

/-- What reading finds next: a character, or a byte that starts none. -/
inductive Piece where
  | char (c : Char)
  | stray (b : UInt8)
  deriving DecidableEq

/-- The bytes cut into characters and stray bytes, from the front. -/
def pieces : Bytes → List Piece
  | [] => []
  | a :: rest =>
    match firstChar? a rest with
    | some (c, n) => .char c :: pieces (rest.drop n)
    | none => .stray a :: pieces rest
termination_by bytes => bytes.length
decreasing_by all_goals simp; try omega

/-- The character of a piece that is one. -/
def Piece.char? : Piece → Option Char
  | .char c => some c
  | .stray _ => none

/-- A piece as it is shown: the character, or the stray byte as `\xNN`. -/
def Piece.shown : Piece → List Char
  | .char c => [c]
  | .stray b => '\\' :: 'x' :: hex 2 b.toNat

/-- The text of bytes that are UTF-8 throughout. -/
def decode? (bytes : Bytes) : Option (List Char) := (pieces bytes).mapM Piece.char?

/-- The text of any bytes, with the stray ones shown. -/
def decodeShown (bytes : Bytes) : List Char := (pieces bytes).flatMap Piece.shown

/-! ## Laws -/

/-- A stray byte anywhere refuses the whole. -/
theorem decode?_eq_none_of_stray {bytes : Bytes} {b : UInt8} (h : Piece.stray b ∈ pieces bytes) :
    decode? bytes = none := by
  unfold decode?
  generalize pieces bytes = ps at h
  induction ps with
  | nil => simp at h
  | cons p ps ih =>
    rcases List.mem_cons.mp h with rfl | later
    · simp [Piece.char?]
    · rw [List.mapM_cons, ih later]
      cases p <;> rfl

end Unloop.Text

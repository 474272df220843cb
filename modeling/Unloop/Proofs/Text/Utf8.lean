-- The laws of UTF-8. A text that is written is read back, and only an ASCII
-- character gives an ASCII byte, which is its own number.
import Unloop.Text.Utf8

namespace Unloop.Text

section

variable {c : Char} {cs : List Char} {rest : Bytes} {b : UInt8} {n least : Nat}

/-! ## One character -/

theorem charAbove?_toNat (h : least ≤ c.toNat) : charAbove? least c.toNat = some c := by
  have hvalid : c.toNat.isValidChar := c.valid
  unfold charAbove?
  rw [dif_pos hvalid, if_pos h]
  rfl

theorem toNat_lt (c : Char) : c.toNat < 0x110000 := by
  rcases c.valid with h | h
  · exact Nat.lt_trans h (by decide)
  · exact h.2

theorem toNat_ofNat_of_lt (h : n < 256) : (UInt8.ofNat n).toNat = n := by
  rw [UInt8.toNat_ofNat', Nat.mod_eq_of_lt h]

theorem tail?_ofNat (n : Nat) : tail? (UInt8.ofNat (0x80 + n % 64)) = some (n % 64) := by
  have h : (UInt8.ofNat (0x80 + n % 64)).toNat = 0x80 + n % 64 := toNat_ofNat_of_lt (by omega)
  unfold tail?
  rw [h, if_pos (by omega), Nat.add_sub_cancel_left]

theorem firstChar?_one (h : n < 0x80) (hc : charAbove? 0 n = some c) (rest : Bytes) :
    firstChar? (UInt8.ofNat n) rest = some (c, 0) := by
  unfold firstChar?
  rw [toNat_ofNat_of_lt (by omega)]
  simp only [if_pos h, hc, Option.map_some]

theorem firstChar?_two (h : n < 0x800) (hc : charAbove? 0x80 n = some c) (rest : Bytes) :
    firstChar? (UInt8.ofNat (0xC0 + n / 64)) (UInt8.ofNat (0x80 + n % 64) :: rest) =
      some (c, 1) := by
  have hvalue : (0xC0 + n / 64 - 0xC0) * 64 + n % 64 = n := by omega
  unfold firstChar?
  rw [toNat_ofNat_of_lt (by omega)]
  dsimp only
  rw [if_neg (by omega), if_neg (by omega), if_pos (by omega)]
  simp only [tail?_ofNat, Option.bind_eq_bind, Option.bind_some, hvalue, hc, Option.map_some]

theorem firstChar?_three (h : n < 0x10000) (hc : charAbove? 0x800 n = some c) (rest : Bytes) :
    firstChar? (UInt8.ofNat (0xE0 + n / 4096))
      (UInt8.ofNat (0x80 + n / 64 % 64) :: UInt8.ofNat (0x80 + n % 64) :: rest) = some (c, 2) := by
  have hvalue : (0xE0 + n / 4096 - 0xE0) * 4096 + n / 64 % 64 * 64 + n % 64 = n := by omega
  unfold firstChar?
  rw [toNat_ofNat_of_lt (by omega)]
  dsimp only
  rw [if_neg (by omega), if_neg (by omega), if_neg (by omega), if_pos (by omega)]
  simp only [tail?_ofNat, Option.bind_eq_bind, Option.bind_some, hvalue, hc, Option.map_some]

/-- Three bytes that follow the first one, read one by one. -/
theorem bind_tails {α : Type} {t u v : Option Nat} {i j k : Nat} (ht : t = some i)
    (hu : u = some j) (hv : v = some k) (read : Nat → Nat → Nat → Option α) :
    (t.bind fun b => u.bind fun c => v.bind fun d => read b c d) = read i j k := by
  subst ht hu hv
  rfl

theorem firstChar?_four (h : n < 0x110000) (hc : charAbove? 0x10000 n = some c) (rest : Bytes) :
    firstChar? (UInt8.ofNat (0xF0 + n / 262144)) (UInt8.ofNat (0x80 + n / 4096 % 64) ::
      UInt8.ofNat (0x80 + n / 64 % 64) :: UInt8.ofNat (0x80 + n % 64) :: rest) = some (c, 3) := by
  have hvalue : (0xF0 + n / 262144 - 0xF0) * 262144 + n / 4096 % 64 * 4096 + n / 64 % 64 * 64 +
      n % 64 = n := by omega
  unfold firstChar?
  rw [toNat_ofNat_of_lt (by omega)]
  dsimp only
  rw [if_neg (by omega), if_neg (by omega), if_neg (by omega), if_neg (by omega)]
  refine (bind_tails (tail?_ofNat _) (tail?_ofNat _) (tail?_ofNat _) _).trans ?_
  rw [hvalue, hc]
  rfl

/-- A character is read off the front of the bytes that it gives. -/
theorem firstChar?_encodeChar (c : Char) (rest : Bytes) :
    ∃ a more, encodeChar c = a :: more ∧ firstChar? a (more ++ rest) = some (c, more.length) := by
  unfold encodeChar
  dsimp only
  split
  · exact ⟨_, [], rfl, firstChar?_one ‹_› (charAbove?_toNat (Nat.zero_le _)) rest⟩
  · split
    · exact ⟨_, _, rfl, firstChar?_two ‹_› (charAbove?_toNat (Nat.le_of_not_lt ‹_›)) rest⟩
    · split
      · exact ⟨_, _, rfl, firstChar?_three ‹_› (charAbove?_toNat (Nat.le_of_not_lt ‹_›)) rest⟩
      · exact ⟨_, _, rfl,
          firstChar?_four (toNat_lt c) (charAbove?_toNat (Nat.le_of_not_lt ‹_›)) rest⟩

theorem pieces_encodeChar (c : Char) (rest : Bytes) :
    pieces (encodeChar c ++ rest) = .char c :: pieces rest := by
  obtain ⟨a, more, hbytes, hfirst⟩ := firstChar?_encodeChar c rest
  rw [hbytes, List.cons_append, pieces, hfirst]
  dsimp only
  rw [List.drop_left]

/-! ## Texts -/

theorem pieces_encode (cs : List Char) : pieces (encode cs) = cs.map .char := by
  induction cs with
  | nil => rw [encode, List.flatMap_nil, pieces, List.map_nil]
  | cons c cs ih =>
    rw [encode, List.flatMap_cons, pieces_encodeChar, List.map_cons, ← ih]
    rfl

/-- A text that is written is read back. -/
theorem decode?_encode (cs : List Char) : decode? (encode cs) = some cs := by
  unfold decode?
  rw [pieces_encode]
  induction cs with
  | nil => rfl
  | cons c cs ih => rw [List.map_cons, List.mapM_cons, ih]; rfl

/-- A character that is read off the front stays the first one when more follows. -/
theorem firstChar?_append {a : UInt8} (h : firstChar? a rest = some (c, n)) (more : Bytes) :
    firstChar? a (rest ++ more) = some (c, n) ∧ n ≤ rest.length := by
  unfold firstChar? at h ⊢
  dsimp only at h ⊢
  split at h
  · rw [if_pos ‹_›]
    obtain ⟨_, _, hc⟩ := Option.map_eq_some_iff.mp h
    exact ⟨h, (Prod.mk.inj hc).2 ▸ Nat.zero_le _⟩
  rw [if_neg ‹_›]
  split at h
  · cases h
  rw [if_neg ‹_›]
  -- the bytes that belong to the character are all there before any others come
  split at h
  · rw [if_pos ‹_›]
    split at h
    · obtain ⟨_, _, hmap⟩ := Option.bind_eq_some_iff.mp h
      obtain ⟨_, _, hc⟩ := Option.map_eq_some_iff.mp hmap
      exact ⟨h, (Prod.mk.inj hc).2 ▸ by simp⟩
    · cases h
  rw [if_neg ‹_›]
  split at h
  · rw [if_pos ‹_›]
    split at h
    · obtain ⟨_, _, hbind⟩ := Option.bind_eq_some_iff.mp h
      obtain ⟨_, _, hmap⟩ := Option.bind_eq_some_iff.mp hbind
      obtain ⟨_, _, hc⟩ := Option.map_eq_some_iff.mp hmap
      exact ⟨h, (Prod.mk.inj hc).2 ▸ by simp⟩
    · cases h
  rw [if_neg ‹_›]
  split at h
  · obtain ⟨_, _, hbind⟩ := Option.bind_eq_some_iff.mp h
    obtain ⟨_, _, hbind⟩ := Option.bind_eq_some_iff.mp hbind
    obtain ⟨_, _, hmap⟩ := Option.bind_eq_some_iff.mp hbind
    obtain ⟨_, _, hc⟩ := Option.map_eq_some_iff.mp hmap
    exact ⟨h, (Prod.mk.inj hc).2 ▸ by simp⟩
  · cases h

theorem decode?_cons {a : UInt8} (h : firstChar? a rest = some (c, n)) :
    decode? (a :: rest) = (decode? (rest.drop n)).map (c :: ·) := by
  unfold decode?
  rw [pieces, h]
  dsimp only
  rw [List.mapM_cons]
  cases (pieces (rest.drop n)).mapM Piece.char? <;> rfl

/-- Bytes that are UTF-8 are read as they are when more bytes follow. -/
theorem decode?_append {bytes : Bytes} (h : decode? bytes = some cs) (more : Bytes) :
    decode? (bytes ++ more) = (decode? more).map (cs ++ ·) := by
  fun_induction pieces bytes generalizing cs with
  | case1 =>
    obtain rfl : [] = cs := Option.some.inj ((decode?_encode []).symm.trans h)
    rw [List.nil_append]
    exact Option.map_id'.symm
  | case2 a rest c n hfirst ih =>
    rw [decode?_cons hfirst] at h
    obtain ⟨ds, hds, rfl⟩ := Option.map_eq_some_iff.mp h
    obtain ⟨hmore, hn⟩ := firstChar?_append hfirst more
    rw [List.cons_append, decode?_cons hmore, List.drop_append_of_le_length hn, ih hds,
      Option.map_map]
    rfl
  | case3 a rest hfirst ih =>
    rw [decode?_eq_none_of_stray (b := a)] at h
    · cases h
    · rw [pieces, hfirst]
      exact List.mem_cons_self

theorem encode_injective {cs ds : List Char} (h : encode cs = encode ds) : cs = ds := by
  have hread := decode?_encode cs
  rw [h, decode?_encode, Option.some.injEq] at hread
  exact hread.symm

theorem encode_eq_nil_iff : encode cs = [] ↔ cs = [] := by
  constructor
  · intro h
    exact encode_injective (h.trans rfl)
  · rintro rfl
    rfl

/-- The bytes below 0x80 are the ASCII characters of the text. -/
theorem mem_of_mem_encode (h : b ∈ encode cs) (hb : b.toNat < 0x80) :
    ∃ c ∈ cs, c.toNat = b.toNat := by
  obtain ⟨c, hc, hbc⟩ := List.mem_flatMap.mp h
  refine ⟨c, hc, ?_⟩
  have hlt := toNat_lt c
  unfold encodeChar at hbc
  dsimp only at hbc
  split at hbc
  · rw [List.mem_singleton.mp hbc, toNat_ofNat_of_lt (by omega)]
  -- every byte of a longer form is 0x80 or more
  · exfalso
    split at hbc
    · simp only [List.mem_cons, List.not_mem_nil, or_false] at hbc
      rcases hbc with rfl | rfl <;> rw [toNat_ofNat_of_lt (by omega)] at hb <;> omega
    · split at hbc
      · simp only [List.mem_cons, List.not_mem_nil, or_false] at hbc
        rcases hbc with rfl | rfl | rfl <;> rw [toNat_ofNat_of_lt (by omega)] at hb <;> omega
      · simp only [List.mem_cons, List.not_mem_nil, or_false] at hbc
        rcases hbc with rfl | rfl | rfl | rfl <;> rw [toNat_ofNat_of_lt (by omega)] at hb <;> omega

end

end Unloop.Text

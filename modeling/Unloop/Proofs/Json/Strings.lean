-- The laws of strings in JSON. A string is read back from the text that is
-- written for it, whatever its characters are, and that text has no control
-- character, so it stays on one line.
import Unloop.Json.Canonical
import Unloop.Proofs.Text.Utf8

namespace Unloop.Json

open Unloop.Text

section

variable {c : Char} {cs rest : List Char} {n fuel : Nat}

/-! ## Escapes -/

theorem hexValue?_hexDigit (h : n < 16) : hexValue? (hexDigit n) = some n := by
  have hall : ∀ m < 16, hexValue? (hexDigit m) = some m := by decide
  exact hall n h

theorem unit?_hex (h : n < 65536) (rest : List Char) : unit? (hex 4 n ++ rest) = some (n, rest) := by
  have hdigit : ∀ m, hexValue? (hexDigit (m % 16)) = some (m % 16) :=
    fun m => hexValue?_hexDigit (Nat.mod_lt _ (by decide))
  simp only [hex, List.nil_append, List.cons_append, unit?, hdigit, Option.bind_eq_bind,
    Option.bind_some, Option.pure_def, Option.some.injEq, Prod.mk.injEq, and_true]
  omega

theorem unicode?_hex (h : c.toNat < 0x20) (rest : List Char) :
    unicode? (hex 4 c.toNat ++ rest) = some (c, rest) := by
  unfold unicode?
  rw [unit?_hex (by omega)]
  simp only [Option.bind_eq_bind, Option.bind_some]
  rw [if_neg (by omega), charAbove?_toNat (Nat.zero_le _)]
  rfl

theorem stringBody?_backslash {d : Char} (h : escape? (d :: cs) = some (c, rest)) (fuel : Nat) :
    stringBody? (fuel + 1) ('\\' :: d :: cs) =
      (stringBody? fuel rest).map fun r => (c :: r.1, r.2) := by
  rw [stringBody?]
  simp only [h, Option.bind_eq_bind, Option.bind_some]
  cases stringBody? fuel rest <;> rfl

theorem stringBody?_plain (hquote : c ≠ '"') (hback : c ≠ '\\') (h : ¬ c.toNat < 0x20)
    (fuel : Nat) (rest : List Char) :
    stringBody? (fuel + 1) (c :: rest) = (stringBody? fuel rest).map fun r => (c :: r.1, r.2) := by
  rw [stringBody?.eq_def]
  dsimp only
  split
  · rename_i hnil
    cases hnil
  · rename_i hcons
    exact absurd (List.cons.inj hcons).1 hquote
  · rename_i hcons
    exact absurd (List.cons.inj hcons).1 hback
  · rename_i hcons
    obtain ⟨rfl, rfl⟩ := List.cons.inj hcons
    rw [if_neg h]
    cases stringBody? fuel rest <;> rfl

/-- A character inside a string is read back. -/
theorem stringBody?_escaped (c : Char) (fuel : Nat) (rest : List Char) :
    stringBody? (fuel + 1) (escaped c ++ rest) =
      (stringBody? fuel rest).map fun r => (c :: r.1, r.2) := by
  unfold escaped
  split
  · subst_vars; exact stringBody?_backslash rfl fuel
  split
  · subst_vars; exact stringBody?_backslash rfl fuel
  split
  · subst_vars; exact stringBody?_backslash rfl fuel
  split
  · subst_vars; exact stringBody?_backslash rfl fuel
  split
  · subst_vars; exact stringBody?_backslash rfl fuel
  split
  · subst_vars; exact stringBody?_backslash rfl fuel
  split
  · subst_vars; exact stringBody?_backslash rfl fuel
  split
  · have hunit : escape? ('u' :: (hex 4 c.toNat ++ rest)) = some (c, rest) := unicode?_hex ‹_› rest
    exact stringBody?_backslash hunit fuel
  · exact stringBody?_plain ‹_› ‹_› ‹_› fuel rest

theorem stringBody?_of_lt (h : cs.length < fuel) (rest : List Char) :
    stringBody? fuel (cs.flatMap escaped ++ '"' :: rest) = some (cs, rest) := by
  induction cs generalizing fuel with
  | nil =>
    obtain ⟨fuel, rfl⟩ := Nat.exists_eq_succ_of_ne_zero (by omega : fuel ≠ 0)
    rw [List.flatMap_nil, List.nil_append, stringBody?]
  | cons c cs ih =>
    obtain ⟨fuel, rfl⟩ := Nat.exists_eq_succ_of_ne_zero (by omega : fuel ≠ 0)
    rw [List.length_cons] at h
    rw [List.flatMap_cons, List.append_assoc, stringBody?_escaped, ih (by omega)]
    rfl

/-! ## Strings -/

theorem escaped_ne_nil (c : Char) : escaped c ≠ [] := by
  unfold escaped
  repeat' split
  all_goals simp

theorem length_le_flatMap_escaped (cs : List Char) :
    cs.length ≤ (cs.flatMap escaped).length := by
  induction cs with
  | nil => exact Nat.le_refl _
  | cons c cs ih =>
    have hpos := List.length_pos_iff.mpr (escaped_ne_nil c)
    rw [List.flatMap_cons, List.length_append, List.length_cons]
    omega

/-- A string is read back. -/
theorem string?_stringText (s : String) (rest : List Char) :
    string? ((s.toList.flatMap escaped ++ ['"']) ++ rest) = some (s, rest) := by
  unfold string?
  rw [List.append_assoc, List.singleton_append, stringBody?_of_lt]
  · simp
  · have hlen := length_le_flatMap_escaped s.toList
    rw [List.length_append]
    omega

/-! ## Control characters -/

theorem hexDigit_not_control (n : Nat) : 0x20 ≤ (hexDigit (n % 16)).toNat := by
  have hall : ∀ m < 16, 0x20 ≤ (hexDigit m).toNat := by decide
  exact hall _ (Nat.mod_lt _ (by decide))

theorem pair_not_control {d e : Char} (he : 0x20 ≤ e.toNat) (hd : d ∈ ['\\', e]) :
    0x20 ≤ d.toNat := by
  rcases List.mem_cons.mp hd with rfl | hd
  · decide
  · rw [List.mem_singleton.mp hd]
    exact he

theorem escaped_not_control {d : Char} (hd : d ∈ escaped c) : 0x20 ≤ d.toNat := by
  unfold escaped at hd
  repeat' split at hd
  · exact pair_not_control (by decide) hd
  · exact pair_not_control (by decide) hd
  · exact pair_not_control (by decide) hd
  · exact pair_not_control (by decide) hd
  · exact pair_not_control (by decide) hd
  · exact pair_not_control (by decide) hd
  · exact pair_not_control (by decide) hd
  · simp only [hex, List.nil_append, List.cons_append, List.mem_cons, List.not_mem_nil,
      or_false] at hd
    rcases hd with rfl | rfl | rfl | rfl | rfl | rfl
    · decide
    · decide
    all_goals exact hexDigit_not_control _
  · rw [List.mem_singleton.mp hd]
    exact Nat.le_of_not_lt ‹_›

theorem stringText_not_control {s : String} (hc : c ∈ stringText s) : 0x20 ≤ c.toNat := by
  unfold stringText at hc
  rcases List.mem_append.mp hc with hc | hc
  · rcases List.mem_cons.mp hc with rfl | hc
    · decide
    · obtain ⟨d, _, hd⟩ := List.mem_flatMap.mp hc
      exact escaped_not_control hd
  · rw [List.mem_singleton.mp hc]
    decide

end

end Unloop.Json

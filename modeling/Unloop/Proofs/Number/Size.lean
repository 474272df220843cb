-- The laws of sizes. A ratio that is not too large rounds to a finite number,
-- and so does the quotient of that number and a whole one.
import Unloop.Proofs.Number.Rounding

namespace Unloop.Number

section

variable {a b k n : Nat} {e : Int} {x : Finite} {negative : Bool}

/-- The mantissa of a ratio has 53 bits, or one bit more when all of them round
up. -/
theorem mantissa_bounds (hb : 0 < b) (h : FitsAt a b e) :
    nearest (scaled a b e).1 (scaled a b e).2 ≤ twoTo 53 ∧
      (e = -1074 ∨ twoTo 52 ≤ nearest (scaled a b e).1 (scaled a b e).2) := by
  obtain ⟨hlow, hhigh⟩ := nearest_bounds (scaled a b e).1 (scaled a b e).2
  obtain ⟨_, hsize, hleast | hfull⟩ := h
  · have hlt := (scaled_lt_iff a hb e).mpr hsize
    exact ⟨by omega, Or.inl hleast⟩
  · have hlt := (scaled_lt_iff a hb e).mpr hsize
    have hge := (not_iff_not.mpr (scaled_lt_twoTo_iff a hb 52 e)).mpr (not_lt.mpr hfull)
    exact ⟨by omega, Or.inr (by omega)⟩

/-- A ratio of at most `2 ^ k` has an exponent that is not above it. -/
theorem exponent_le (hb : 0 < b) (h : FitsAt a b e) (hk : a ≤ b * twoTo k) :
    e + 52 ≤ k ∨ e = -1074 := by
  obtain ⟨_, _, hleast | hfull⟩ := h
  · exact Or.inr hleast
  · left
    have hb' : (0 : ℚ) < b := by exact_mod_cast hb
    have hsize : (a / b : ℚ) ≤ 2 ^ (k : Int) := by
      rw [div_le_iff₀ hb', ← cast_twoTo, mul_comm]
      exact_mod_cast hk
    have hpow := (zpow_le_zpow_iff_right₀ (one_lt_two (α := ℚ))).mp (le_trans hfull hsize)
    omega

theorem ofParts_of_standard (negative : Bool) {m : Nat} (h : Standard m e) :
    Double.ofParts negative m e = .finite ⟨negative, m, e, h⟩ := dif_pos h

/-- A ratio of at most `2 ^ k` rounds to a finite number. -/
theorem ofRatio_of_le (negative : Bool) (hb : 0 < b) (h : a ≤ b * twoTo k) (hk : k ≤ 900) :
    ∃ x, Double.ofRatio negative a b = .finite x ∧ x.exponent ≤ k := by
  have htwo : twoTo 53 = twoTo 52 + twoTo 52 := by decide
  have hpos := twoTo_pos 52
  rcases Nat.eq_zero_or_pos a with rfl | ha
  · exact ⟨⟨negative, 0, -1074, by decide⟩, rfl, by dsimp only; omega⟩
  · have hfits := fitsAt_exponentFor ha hb
    have hexp := exponent_le hb hfits h
    obtain ⟨hhigh, hlow⟩ := mantissa_bounds hb hfits
    have hleast := hfits.1
    rw [ofRatio_of_pos negative ha]
    generalize exponentFor a b = e at hexp hhigh hlow hleast ⊢
    dsimp only
    generalize nearest (scaled a b e).1 (scaled a b e).2 = m at hhigh hlow ⊢
    split
    · have hstandard : Standard (twoTo 52) (e + 1) := ⟨by omega, by omega, by omega, Or.inl le_rfl⟩
      exact ⟨_, ofParts_of_standard negative hstandard, by dsimp only; omega⟩
    · have hstandard : Standard m e := by
        refine ⟨by omega, hleast, by omega, ?_⟩
        rcases hlow with hlow | hlow
        · exact Or.inr hlow
        · exact Or.inl hlow
      exact ⟨_, ofParts_of_standard negative hstandard, by dsimp only; omega⟩

/-- The ratio of a number is at most the power of two of its exponent and the
bits of its mantissa. -/
theorem ratio_le (h : x.exponent ≤ k) : x.ratio.1 ≤ x.ratio.2 * twoTo (53 + k) := by
  have hm := x.standard.1
  unfold Finite.ratio
  split
  · rename_i he
    have hexp : x.exponent.toNat ≤ k := by omega
    rw [Nat.one_mul]
    calc x.mantissa * twoTo x.exponent.toNat ≤ twoTo 53 * twoTo x.exponent.toNat :=
          Nat.mul_le_mul_right _ hm.le
      _ ≤ twoTo 53 * twoTo k := Nat.mul_le_mul_left _ (Nat.pow_le_pow_right (by decide) hexp)
      _ = twoTo (53 + k) := (Nat.pow_add 2 53 k).symm
  · calc x.mantissa ≤ twoTo (53 + k) :=
          Nat.le_trans hm.le (Nat.pow_le_pow_right (by decide) (Nat.le_add_right 53 k))
      _ ≤ twoTo (-x.exponent).toNat * twoTo (53 + k) := Nat.le_mul_of_pos_left _ (twoTo_pos _)

/-- Dividing a number of a limited exponent by a whole one leaves it finite. -/
theorem isFinite_divNat (h : x.exponent ≤ k) (hk : 53 + k ≤ 900) (hn : 0 < n) :
    ((Double.finite x).divNat n).isFinite = true := by
  have hratio : x.ratio.1 ≤ x.ratio.2 * n * twoTo (53 + k) :=
    Nat.le_trans (ratio_le h) (Nat.mul_le_mul_right _ (Nat.le_mul_of_pos_right _ hn))
  obtain ⟨y, hy, _⟩ := ofRatio_of_le x.negative (Nat.mul_pos (ratio_pos x) hn) hratio hk
  have hdiv : (Double.finite x).divNat n = .finite y := hy
  rw [hdiv]
  rfl

end

end Unloop.Number

-- The laws of rounding. The exponent at which a ratio is rounded depends on
-- its size alone, so two ratios of one size round to the same number, and a
-- number is what its own ratio rounds to. So the shortest decimal of a number
-- always reads back as it.
import Unloop.Number.Shortest
import Mathlib.Algebra.Order.Field.Power
import Mathlib.Data.Rat.Cast.Order
import Mathlib.Tactic.FieldSimp
import Mathlib.Tactic.Linarith
import Mathlib.Tactic.Ring

namespace Unloop.Number

/-- A ratio has a mantissa of 53 bits at an exponent, or of fewer at the least
one. -/
def FitsAt (a b : Nat) (e : Int) : Prop :=
  -1074 ≤ e ∧ (a / b : ℚ) < 2 ^ (53 + e) ∧ (e = -1074 ∨ 2 ^ (52 + e) ≤ (a / b : ℚ))

section

variable {a b k m n : Nat} {e e' : Int} {x : Finite} {negative : Bool}

theorem cast_twoTo (n : Nat) : ((twoTo n : Nat) : ℚ) = 2 ^ (n : Int) := by
  rw [show twoTo n = 2 ^ n from rfl, Nat.cast_pow, zpow_natCast, Nat.cast_ofNat]

/-! ## The exponent -/

theorem scaled_pos (a : Nat) (hb : 0 < b) (e : Int) : 0 < (scaled a b e).2 := by
  unfold scaled
  split
  · exact Nat.mul_pos hb (twoTo_pos _)
  · exact hb

/-- Scaling divides the size of a ratio by the power of two. -/
theorem scaled_size (a b : Nat) (e : Int) :
    ((scaled a b e).1 / (scaled a b e).2 : ℚ) = a / b * 2 ^ (-e) := by
  unfold scaled
  split
  · rename_i he
    rw [Nat.cast_mul, cast_twoTo, Int.toNat_of_nonneg he, zpow_neg]
    field_simp
  · rename_i he
    rw [Nat.cast_mul, cast_twoTo, Int.toNat_of_nonneg (by omega)]
    ring

theorem scaled_lt_twoTo_iff (a : Nat) (hb : 0 < b) (k : Nat) (e : Int) :
    (scaled a b e).1 / (scaled a b e).2 < twoTo k ↔ (a / b : ℚ) < 2 ^ (k + e) := by
  have hd := scaled_pos a hb e
  have hd' : (0 : ℚ) < (scaled a b e).2 := by exact_mod_cast hd
  have hpow : (0 : ℚ) < 2 ^ e := by positivity
  rw [Nat.div_lt_iff_lt_mul hd, ← Nat.cast_lt (α := ℚ), Nat.cast_mul, cast_twoTo,
    ← div_lt_iff₀ hd', scaled_size, zpow_neg, ← div_eq_mul_inv, div_lt_iff₀ hpow,
    ← zpow_add₀ two_ne_zero]

theorem scaled_lt_iff (a : Nat) (hb : 0 < b) (e : Int) :
    (scaled a b e).1 / (scaled a b e).2 < twoTo 53 ↔ (a / b : ℚ) < 2 ^ (53 + e) :=
  scaled_lt_twoTo_iff a hb 53 e

theorem size_bounds (ha : 0 < a) (hb : 0 < b) :
    (2 : ℚ) ^ ((Nat.log2 a : Int) - Nat.log2 b - 1) ≤ a / b ∧
      (a / b : ℚ) < 2 ^ ((Nat.log2 a : Int) - Nat.log2 b + 1) := by
  have hb' : (0 : ℚ) < b := by exact_mod_cast hb
  have alow : (2 : ℚ) ^ (Nat.log2 a : Int) ≤ a := by
    exact_mod_cast Nat.log2_self_le (Nat.pos_iff_ne_zero.mp ha)
  have ahigh : (a : ℚ) < 2 ^ ((Nat.log2 a : Int) + 1) := by
    exact_mod_cast Nat.lt_log2_self (n := a)
  have blow : (2 : ℚ) ^ (Nat.log2 b : Int) ≤ b := by
    exact_mod_cast Nat.log2_self_le (Nat.pos_iff_ne_zero.mp hb)
  have bhigh : (b : ℚ) < 2 ^ ((Nat.log2 b : Int) + 1) := by
    exact_mod_cast Nat.lt_log2_self (n := b)
  constructor
  · rw [le_div_iff₀ hb']
    calc (2 : ℚ) ^ ((Nat.log2 a : Int) - Nat.log2 b - 1) * b
        ≤ 2 ^ ((Nat.log2 a : Int) - Nat.log2 b - 1) * 2 ^ ((Nat.log2 b : Int) + 1) := by
          gcongr
      _ = 2 ^ (Nat.log2 a : Int) := by
          rw [← zpow_add₀ two_ne_zero]
          congr 1
          ring
      _ ≤ a := alow
  · rw [div_lt_iff₀ hb']
    calc (a : ℚ) < 2 ^ ((Nat.log2 a : Int) + 1) := ahigh
      _ = 2 ^ ((Nat.log2 a : Int) - Nat.log2 b + 1) * 2 ^ (Nat.log2 b : Int) := by
          rw [← zpow_add₀ two_ne_zero]
          congr 1
          ring
      _ ≤ 2 ^ ((Nat.log2 a : Int) - Nat.log2 b + 1) * b := by
          gcongr

theorem two_zpow_le (h : e ≤ e') : (2 : ℚ) ^ e ≤ 2 ^ e' := zpow_le_zpow_right₀ one_le_two h

theorem fitsAt_exponentFor (ha : 0 < a) (hb : 0 < b) : FitsAt a b (exponentFor a b) := by
  obtain ⟨hlow, hhigh⟩ := size_bounds ha hb
  rw [show exponentFor a b = (let e := max ((Nat.log2 a : Int) - Nat.log2 b - 53) (-1074)
    if (scaled a b e).1 / (scaled a b e).2 < twoTo 53 then e else e + 1) from rfl]
  dsimp only
  set e := max ((Nat.log2 a : Int) - Nat.log2 b - 53) (-1074) with he
  by_cases hlt : (scaled a b e).1 / (scaled a b e).2 < twoTo 53
  · rw [if_pos hlt]
    refine ⟨le_max_right _ _, (scaled_lt_iff a hb e).mp hlt, ?_⟩
    rcases max_choice ((Nat.log2 a : Int) - Nat.log2 b - 53) (-1074) with hm | hm
    · exact Or.inr (le_trans (two_zpow_le (by omega)) hlow)
    · exact Or.inl hm
  · rw [if_neg hlt]
    rw [scaled_lt_iff a hb e, not_lt] at hlt
    refine ⟨by omega, lt_of_lt_of_le hhigh (two_zpow_le (by omega)), Or.inr ?_⟩
    rwa [show (52 : Int) + (e + 1) = 53 + e by ring]

theorem fitsAt_le (h : FitsAt a b e) (h' : FitsAt a b e') : e ≤ e' := by
  obtain ⟨_, _, hleast | hlow⟩ := h
  · exact hleast ▸ h'.1
  · by_contra hlt
    have hle : (2 : ℚ) ^ (53 + e') ≤ 2 ^ (52 + e) := two_zpow_le (by omega)
    exact absurd (lt_of_lt_of_le h'.2.1 (le_trans hle hlow)) (lt_irrefl _)

theorem exponentFor_eq (ha : 0 < a) (hb : 0 < b) (h : FitsAt a b e) : exponentFor a b = e :=
  le_antisymm (fitsAt_le (fitsAt_exponentFor ha hb) h) (fitsAt_le h (fitsAt_exponentFor ha hb))

/-! ## Ratios of one size -/

theorem ofRatio_of_pos (negative : Bool) (ha : 0 < a) (b : Nat) :
    Double.ofRatio negative a b =
      let e := exponentFor a b
      let m := nearest (scaled a b e).1 (scaled a b e).2
      if m = twoTo 53 then .ofParts negative (twoTo 52) (e + 1) else .ofParts negative m e := by
  unfold Double.ofRatio
  rw [if_neg ha.ne']

theorem fitsAt_scale (hk : 0 < k) : FitsAt (a * k) (b * k) e ↔ FitsAt a b e := by
  have hk' : (k : ℚ) ≠ 0 := by exact_mod_cast Nat.pos_iff_ne_zero.mp hk
  unfold FitsAt
  rw [Nat.cast_mul, Nat.cast_mul, mul_div_mul_right _ _ hk']

theorem nearest_scale (a b : Nat) (hk : 0 < k) : nearest (a * k) (b * k) = nearest a b := by
  unfold nearest
  dsimp only
  rw [Nat.mul_div_mul_right _ _ hk, Nat.mul_mod_mul_right, ← Nat.mul_assoc]
  simp only [Nat.mul_lt_mul_right hk]

theorem scaled_scale (a b : Nat) (k : Nat) (e : Int) :
    scaled (a * k) (b * k) e = ((scaled a b e).1 * k, (scaled a b e).2 * k) := by
  unfold scaled
  split
  · rw [Nat.mul_right_comm]
  · rw [Nat.mul_right_comm]

/-- A ratio rounds as it does in other terms. -/
theorem ofRatio_scale (negative : Bool) (a : Nat) (hb : 0 < b) (hk : 0 < k) :
    Double.ofRatio negative (a * k) (b * k) = Double.ofRatio negative a b := by
  rcases Nat.eq_zero_or_pos a with rfl | ha
  · rw [Nat.zero_mul]
    rfl
  · have hexp : exponentFor (a * k) (b * k) = exponentFor a b :=
      exponentFor_eq (Nat.mul_pos ha hk) (Nat.mul_pos hb hk)
        ((fitsAt_scale hk).mpr (fitsAt_exponentFor ha hb))
    rw [ofRatio_of_pos negative (Nat.mul_pos ha hk), ofRatio_of_pos negative ha, hexp]
    dsimp only
    rw [scaled_scale, nearest_scale _ _ hk]

/-! ## Numbers and their own ratios -/

theorem ratio_size (x : Finite) : (x.ratio.1 / x.ratio.2 : ℚ) = x.mantissa * 2 ^ x.exponent := by
  unfold Finite.ratio
  split
  · rename_i he
    rw [Nat.cast_mul, cast_twoTo, Int.toNat_of_nonneg he, Nat.cast_one, div_one]
  · rename_i he
    rw [cast_twoTo, Int.toNat_of_nonneg (by omega), zpow_neg, div_inv_eq_mul]

theorem ratio_pos (x : Finite) : 0 < x.ratio.2 := by
  unfold Finite.ratio
  split
  · exact Nat.one_pos
  · exact twoTo_pos _

theorem fitsAt_ratio (x : Finite) : FitsAt x.ratio.1 x.ratio.2 x.exponent := by
  obtain ⟨hhigh, hleast, _, hlow⟩ := x.standard
  have hpow : (0 : ℚ) < 2 ^ x.exponent := by positivity
  unfold FitsAt
  rw [ratio_size, zpow_add₀ two_ne_zero, zpow_add₀ two_ne_zero]
  refine ⟨hleast, ?_, ?_⟩
  · have : (x.mantissa : ℚ) < 2 ^ (53 : Int) := by
      rw [← Nat.cast_lt (α := ℚ), cast_twoTo] at hhigh
      exact hhigh
    exact (mul_lt_mul_iff_left₀ hpow).mpr this
  · rcases hlow with hlow | hlow
    · have : (2 : ℚ) ^ (52 : Int) ≤ x.mantissa := by
        rw [← Nat.cast_le (α := ℚ), cast_twoTo] at hlow
        exact hlow
      exact Or.inr ((mul_le_mul_iff_left₀ hpow).mpr this)
    · exact Or.inl hlow

theorem nearest_scaled_ratio (x : Finite) :
    nearest (scaled x.ratio.1 x.ratio.2 x.exponent).1 (scaled x.ratio.1 x.ratio.2 x.exponent).2 =
      x.mantissa := by
  unfold scaled Finite.ratio
  split
  · dsimp only
    rw [Nat.one_mul]
    exact nearest_mul _ _ (twoTo_pos _)
  · exact nearest_mul _ _ (twoTo_pos _)

theorem ofParts_self (x : Finite) : Double.ofParts x.negative x.mantissa x.exponent = .finite x := by
  unfold Double.ofParts
  rw [dif_pos x.standard]

theorem zero_of_mantissa (h : x.mantissa = 0) : Double.zero x.negative = .finite x := by
  have hexp : x.exponent = -1074 := by
    rcases x.standard.2.2.2 with hlow | hleast
    · rw [h] at hlow
      exact absurd hlow (by decide +kernel)
    · exact hleast
  rw [Double.zero, ← h, ← hexp, ofParts_self]

theorem ratio_eq_zero (h : x.ratio.1 = 0) : x.mantissa = 0 := by
  unfold Finite.ratio at h
  split at h
  · exact (Nat.mul_eq_zero.mp h).resolve_right (twoTo_pos _).ne'
  · exact h

/-- A number is what its own ratio rounds to. -/
theorem ofRatio_ratio (x : Finite) :
    Double.ofRatio x.negative x.ratio.1 x.ratio.2 = .finite x := by
  rcases Nat.eq_zero_or_pos x.ratio.1 with hzero | hpos
  · rw [Double.ofRatio, if_pos hzero]
    exact zero_of_mantissa (ratio_eq_zero hzero)
  · rw [ofRatio_of_pos _ hpos, exponentFor_eq hpos (ratio_pos x) (fitsAt_ratio x)]
    dsimp only
    rw [nearest_scaled_ratio, if_neg x.standard.1.ne, ofParts_self]

/-! ## The shortest decimal -/

/-- A decimal that is neither far too large nor far too small is rounded as a
ratio. -/
theorem ofDecimal_of_nonneg (negative : Bool) (hn : 0 < n) (he : 0 ≤ e) (h : e ≤ 400) :
    Double.ofDecimal negative n e = .ofRatio negative (n * tenTo e.toNat) 1 := by
  unfold Double.ofDecimal
  rw [if_neg hn.ne', if_neg (by omega), if_neg (by omega), if_pos he]

theorem ofDecimal_of_neg (negative : Bool) (hn : 0 < n) (he : e < 0)
    (h : -e ≤ 400 + Nat.log2 n) :
    Double.ofDecimal negative n e = .ofRatio negative n (tenTo (-e).toNat) := by
  unfold Double.ofDecimal
  rw [if_neg hn.ne', if_neg (by omega), if_neg (by omega), if_neg (by omega)]

/-- A zero after the point changes nothing. -/
theorem ofDecimal_ten (negative : Bool) (n : Nat) (hk : k ≤ 400) :
    Double.ofDecimal negative (n * tenTo (k + 1)) (-1) = Double.ofDecimal negative n k := by
  rcases Nat.eq_zero_or_pos n with rfl | hn
  · rw [Nat.zero_mul]
    rfl
  · rw [ofDecimal_of_neg negative (Nat.mul_pos hn (tenTo_pos _)) (by omega) (by omega),
      ofDecimal_of_nonneg negative hn (by omega) (by omega), tenTo_succ, ← Nat.mul_assoc,
      Int.toNat_natCast]
    exact ofRatio_scale negative _ Nat.one_pos (by omega : 0 < 10)

theorem readsAs_inFull (h : x.mantissa ≠ 0) : x.inFull.ReadsAs x := by
  have hm : 0 < x.mantissa := Nat.pos_of_ne_zero h
  have hratio := ofRatio_ratio x
  unfold Decimal.ReadsAs Finite.inFull
  unfold Finite.ratio at hratio
  split
  · rw [if_pos ‹_›] at hratio
    rw [ofDecimal_of_nonneg _ (Nat.mul_pos hm (twoTo_pos _)) le_rfl (by omega), ← hratio]
    simp
  · rename_i he
    rw [if_neg he] at hratio
    obtain ⟨k, hk⟩ : ∃ k : Nat, x.exponent = -k := ⟨(-x.exponent).toNat, by omega⟩
    have hto : (-x.exponent).toNat = k := by omega
    rw [hto] at hratio ⊢
    have hpow : 0 < Nat.pow 5 k := Nat.pow_pos (by decide)
    have hlog : k ≤ Nat.log2 (x.mantissa * Nat.pow 5 k) := by
      rw [Nat.le_log2 (Nat.mul_pos hm hpow).ne']
      calc 2 ^ k ≤ 5 ^ k := Nat.pow_le_pow_left (by decide) k
        _ ≤ x.mantissa * Nat.pow 5 k := Nat.le_mul_of_pos_left _ hm
    have hten : tenTo k = twoTo k * Nat.pow 5 k := Nat.mul_pow 2 5 k
    dsimp only
    rw [ofDecimal_of_neg _ (Nat.mul_pos hm hpow) (by omega) (by omega), hto, hten,
      ofRatio_scale _ _ (twoTo_pos k) hpow, hratio]

/-- The shortest decimal of a number reads back as the number. -/
theorem readsAs_shortest (x : Finite) : x.shortest.ReadsAs x := by
  unfold Finite.shortest
  split
  · exact zero_of_mantissa ‹_›
  · rcases hfound : x.search 25 x.topExponent with _ | d
    · exact readsAs_inFull ‹_›
    · exact Finite.readsAs_of_search hfound

end

end Unloop.Number

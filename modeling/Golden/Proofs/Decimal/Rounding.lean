/-
  Golden.Proofs.Decimal.Rounding
  ────────────────────────────────
  **ROUNDING TO A DOUBLE.**

  A positive quotient is rounded at the one exponent of the format at which
  its whole part has 53 bits, or at the least exponent.  So the nearest double
  depends on the quotient alone and not on how it is written as a fraction, a
  double is its own nearest one, and the shortcuts for very large and very
  small decimals give what the division gives:

      ofRatio? x.ratio.1 x.ratio.2  =  some x
      ofDecimal? d k  =  ofRatio? (d · 10 ^ k)
      ofDecimal? (d · 10 ^ j) k  =  ofDecimal? d (k + j)
-/
import Mathlib.Algebra.Order.Field.Power
import Mathlib.Data.Rat.Cast.Order
import Mathlib.Tactic.FieldSimp
import Mathlib.Tactic.Linarith
import Mathlib.Tactic.Positivity
import Mathlib.Tactic.Ring
import Golden.Double

namespace Golden

theorem twoTo_pos (k : Nat) : 0 < twoTo k := Nat.two_pow_pos k

theorem tenTo_pos (k : Nat) : 0 < tenTo k := Nat.pow_pos (by decide)

namespace Magnitude

/-! ## §1. The exponent of a quotient. -/

/-- Whether a quotient is rounded at an exponent: its whole part there has at most 53 bits, and
exactly 53 unless the exponent is the least one. -/
structure RoundsAt (q : ℚ) (e : ℤ) : Prop where
  least : -1074 ≤ e
  below : q < 2 ^ (53 + e)
  above : e = -1074 ∨ 2 ^ (52 + e) ≤ q

/-- No quotient is rounded at two exponents. -/
theorem RoundsAt.unique {q : ℚ} {e f : ℤ} (he : RoundsAt q e) (hf : RoundsAt q f) : e = f := by
  have one : ∀ {e f : ℤ}, RoundsAt q e → RoundsAt q f → ¬ e < f := by
    intro e f he hf hlt
    rcases hf.above with hmin | habove
    · have := he.least
      omega
    · have hpow : (2 : ℚ) ^ (53 + e) ≤ 2 ^ (52 + f) :=
        zpow_le_zpow_right₀ (by norm_num) (by omega)
      exact absurd (lt_of_lt_of_le he.below hpow) (not_lt.mpr habove)
  have := one he hf
  have := one hf he
  omega

theorem scaled_div (num den : Nat) (e : ℤ) :
    ((scaled num den e).1 : ℚ) / (scaled num den e).2 = (num / den : ℚ) / 2 ^ e := by
  unfold scaled twoTo
  obtain ⟨k, rfl | rfl⟩ := e.eq_nat_or_neg
  · simp [div_div]
  · simp [mul_div_right_comm]

theorem scaled_den_pos (num : Nat) {den : Nat} (hd : 0 < den) (e : ℤ) : 0 < (scaled num den e).2 :=
  Nat.mul_pos hd (twoTo_pos _)

/-- The whole part of a scaled quotient is below a bound just if the quotient is. -/
theorem scaled_lt_iff {num den : Nat} (hd : 0 < den) (e : ℤ) (c : Nat) :
    (scaled num den e).1 / (scaled num den e).2 < twoTo c ↔
      (num / den : ℚ) < 2 ^ ((c : ℤ) + e) := by
  have hpos := scaled_den_pos num hd e
  have hq : (0 : ℚ) < (scaled num den e).2 := by exact_mod_cast hpos
  rw [Nat.div_lt_iff_lt_mul hpos, zpow_add₀ (by norm_num), ← div_lt_iff₀ (by positivity),
    ← scaled_div, div_lt_iff₀ hq]
  exact_mod_cast Iff.rfl

/-- A quotient is at least the power of two that the lengths of its parts give. -/
theorem two_zpow_le_quotient {num den : Nat} (hn : 0 < num) (hd : 0 < den) :
    (2 : ℚ) ^ ((num.log2 : ℤ) - den.log2 - 1) ≤ num / den := by
  have hd' : (0 : ℚ) < den := by exact_mod_cast hd
  have h1 : (2 : ℚ) ^ (num.log2 : ℤ) ≤ num := by
    exact_mod_cast Nat.log2_self_le (by omega)
  have h2 : (den : ℚ) ≤ 2 ^ ((den.log2 : ℤ) + 1) := by
    exact_mod_cast (Nat.lt_log2_self (n := den)).le
  rw [show (num.log2 : ℤ) - den.log2 - 1 = num.log2 - (den.log2 + 1) by ring,
    zpow_sub₀ (by norm_num)]
  exact div_le_div₀ (by positivity) h1 hd' h2

/-- A quotient is below the second next power of two. -/
theorem quotient_lt_two_zpow (num : Nat) {den : Nat} (hd : 0 < den) :
    (num / den : ℚ) < 2 ^ ((num.log2 : ℤ) - den.log2 + 1) := by
  have h1 : (num : ℚ) < 2 ^ ((num.log2 : ℤ) + 1) := by
    exact_mod_cast Nat.lt_log2_self (n := num)
  have h2 : (2 : ℚ) ^ (den.log2 : ℤ) ≤ den := by
    exact_mod_cast Nat.log2_self_le (by omega)
  rw [show (num.log2 : ℤ) - den.log2 + 1 = num.log2 + 1 - den.log2 by ring,
    zpow_sub₀ (by norm_num)]
  exact div_lt_div₀ h1 h2 (by positivity) (by positivity)

theorem exponentFor_roundsAt {num den : Nat} (hn : 0 < num) (hd : 0 < den) :
    RoundsAt (num / den) (exponentFor num den) := by
  unfold exponentFor
  simp only
  -- The lengths leave two exponents, of which the whole part at the lower one decides.
  set low : ℤ := max (-1074) ((num.log2 : ℤ) - den.log2 - 53) with hdef
  have hmin : -1074 ≤ low := le_max_left _ _
  have hbits : (num.log2 : ℤ) - den.log2 - 53 ≤ low := le_max_right _ _
  split
  · next h =>
      refine ⟨hmin, (scaled_lt_iff hd low 53).mp h, ?_⟩
      rcases max_choice (-1074) ((num.log2 : ℤ) - den.log2 - 53) with hmax | hmax
      · exact Or.inl (hdef.trans hmax)
      · right
        rw [hdef, hmax, show 52 + ((num.log2 : ℤ) - den.log2 - 53) = num.log2 - den.log2 - 1 by ring]
        exact two_zpow_le_quotient hn hd
  · next h =>
      refine ⟨by omega, lt_of_lt_of_le (quotient_lt_two_zpow num hd) ?_, Or.inr ?_⟩
      · exact zpow_le_zpow_right₀ (by norm_num) (by omega)
      · rw [show 52 + (low + 1) = (53 : ℕ) + low by push_cast; ring]
        exact not_lt.mp (fun hlt => h ((scaled_lt_iff hd low 53).mpr hlt))

/-- The exponent of a quotient is the one at which it is rounded. -/
theorem exponentFor_eq {num den : Nat} (hn : 0 < num) (hd : 0 < den) {e : ℤ}
    (h : RoundsAt (num / den) e) : exponentFor num den = e :=
  (exponentFor_roundsAt hn hd).unique h

/-! ## §2. Rounding depends on the quotient alone. -/

theorem roundHalfEven_mul (num den : Nat) {c : Nat} (hc : 0 < c) :
    roundHalfEven (num * c) (den * c) = roundHalfEven num den := by
  have h1 : 2 * (num % den * c) < den * c ↔ 2 * (num % den) < den := by
    rw [← Nat.mul_assoc]
    exact Nat.mul_lt_mul_right hc
  have h2 : den * c < 2 * (num % den * c) ↔ den < 2 * (num % den) := by
    rw [← Nat.mul_assoc]
    exact Nat.mul_lt_mul_right hc
  unfold roundHalfEven
  simp only [Nat.mul_div_mul_right _ _ hc, Nat.mul_mod_mul_right, h1, h2]

theorem roundHalfEven_congr {n₁ d₁ n₂ d₂ : Nat} (h₁ : 0 < d₁) (h₂ : 0 < d₂)
    (h : n₁ * d₂ = n₂ * d₁) : roundHalfEven n₁ d₁ = roundHalfEven n₂ d₂ := by
  rw [← roundHalfEven_mul n₁ d₁ h₂, h, Nat.mul_comm d₁ d₂, roundHalfEven_mul n₂ d₂ h₁]

/-- The magnitude of a rounded significand, carried into the next exponent if it has become too
long. -/
def ofRounded? (m : Nat) (e : ℤ) : Option Magnitude :=
  let (m, e) := if m = twoTo 53 then (twoTo 52, e + 1) else (m, e)
  if h : Canonical m e then some ⟨m, e, h⟩ else none

/-- A positive quotient is rounded at its exponent. -/
theorem ofRatio?_of_roundsAt {num den : Nat} (hn : 0 < num) (hd : 0 < den) {e : ℤ}
    (h : RoundsAt (num / den) e) : ofRatio? num den =
      ofRounded? (roundHalfEven (scaled num den e).1 (scaled num den e).2) e := by
  rw [← exponentFor_eq hn hd h]
  unfold ofRatio?
  rw [if_neg (by omega)]
  rfl

/-- **The nearest double depends on the quotient alone.** -/
theorem ofRatio?_congr {n₁ d₁ n₂ d₂ : Nat} (h₁ : 0 < d₁) (h₂ : 0 < d₂)
    (h : n₁ * d₂ = n₂ * d₁) : ofRatio? n₁ d₁ = ofRatio? n₂ d₂ := by
  rcases Nat.eq_zero_or_pos n₁ with rfl | hn₁
  · have hn₂ : n₂ = 0 := by
      rw [Nat.zero_mul] at h
      rcases Nat.mul_eq_zero.mp h.symm with h | h <;> omega
    rw [hn₂]
    rfl
  · have hn₂ : 0 < n₂ := by
      have := Nat.mul_pos hn₁ h₂
      rw [h] at this
      exact Nat.pos_of_mul_pos_right this
    have hq : (n₁ / d₁ : ℚ) = n₂ / d₂ := by
      rw [div_eq_div_iff (by positivity) (by positivity)]
      exact_mod_cast h
    have he := exponentFor_roundsAt hn₁ h₁
    rw [ofRatio?_of_roundsAt hn₁ h₁ he, ofRatio?_of_roundsAt hn₂ h₂ (hq ▸ he)]
    refine congrArg (ofRounded? · _)
      (roundHalfEven_congr (scaled_den_pos _ h₁ _) (scaled_den_pos _ h₂ _) ?_)
    show n₁ * twoTo _ * (d₂ * twoTo _) = n₂ * twoTo _ * (d₁ * twoTo _)
    rw [Nat.mul_mul_mul_comm, h, Nat.mul_mul_mul_comm]

/-! ## §3. A double is its own nearest one. -/

theorem roundHalfEven_mul_self (m : Nat) {d : Nat} (hd : 0 < d) : roundHalfEven (m * d) d = m := by
  unfold roundHalfEven
  simp only [Nat.mul_div_cancel m hd, Nat.mul_mod_left]
  rw [if_pos (by omega)]

theorem ofRounded?_canonical (x : Magnitude) : ofRounded? x.significand x.exponent = some x := by
  have hne : x.significand ≠ twoTo 53 := Nat.ne_of_lt x.canonical.1
  unfold ofRounded?
  rw [if_neg hne]
  exact dif_pos x.canonical

theorem ratio_den_pos (x : Magnitude) : 0 < x.ratio.2 := twoTo_pos _

theorem ratio_div (x : Magnitude) :
    (x.ratio.1 / x.ratio.2 : ℚ) = x.significand * 2 ^ x.exponent := by
  unfold ratio twoTo
  obtain ⟨k, h | h⟩ := x.exponent.eq_nat_or_neg
  · simp [h]
  · simp [h, div_eq_mul_inv]

/-- A double other than zero is rounded at its own exponent. -/
theorem ratio_roundsAt (x : Magnitude) : RoundsAt (x.ratio.1 / x.ratio.2) x.exponent := by
  obtain ⟨hlt, hmin, -, hnorm⟩ := x.canonical
  have hbelow : (x.significand : ℚ) < 2 ^ 53 := by exact_mod_cast hlt
  rw [ratio_div]
  refine ⟨hmin, ?_, ?_⟩
  · rw [zpow_add₀ (by norm_num)]
    exact mul_lt_mul_of_pos_right (by exact_mod_cast hbelow) (by positivity)
  · rcases hnorm with h | h
    · right
      have habove : (2 : ℚ) ^ 52 ≤ x.significand := by exact_mod_cast h
      rw [zpow_add₀ (by norm_num)]
      exact mul_le_mul_of_nonneg_right (by exact_mod_cast habove) (by positivity)
    · exact Or.inl h

/-- Zero is written in one way only. -/
theorem eq_zero_of_significand {x : Magnitude} (h : x.significand = 0) : x = zero := by
  obtain ⟨m, e, hcanonical⟩ := x
  obtain rfl : m = 0 := h
  obtain rfl : e = -1074 := by
    rcases hcanonical.2.2.2 with hlong | hmin
    · have := twoTo_pos 52
      omega
    · exact hmin
  rfl

/-- **A double is the one nearest to its value.** -/
theorem ofRatio?_ratio (x : Magnitude) : ofRatio? x.ratio.1 x.ratio.2 = some x := by
  rcases Nat.eq_zero_or_pos x.significand with hzero | hpos
  · rw [eq_zero_of_significand hzero]
    rfl
  · have hn : 0 < x.ratio.1 := Nat.mul_pos hpos (twoTo_pos _)
    rw [ofRatio?_of_roundsAt hn x.ratio_den_pos x.ratio_roundsAt, ← ofRounded?_canonical x]
    refine congrArg (ofRounded? · _) ?_
    -- Scaled by its own exponent a double leaves its significand and no rest.
    unfold scaled ratio
    simp only
    rw [Nat.mul_assoc, Nat.mul_comm (twoTo _) (twoTo _),
      roundHalfEven_mul_self _ (Nat.mul_pos (twoTo_pos _) (twoTo_pos _))]

/-! ## §4. Decimals. -/

theorem ofDecimal?_zero (k : ℤ) : ofDecimal? 0 k = some zero := if_pos rfl

theorem decimal_div (d : Nat) (k : ℤ) :
    ((d * tenTo k.toNat : Nat) / tenTo (-k).toNat : ℚ) = d * 10 ^ k := by
  unfold tenTo
  obtain ⟨j, rfl | rfl⟩ := k.eq_nat_or_neg
  · simp
  · simp [div_eq_mul_inv]

/-- Powers of ten are at least the powers of eight. -/
theorem two_zpow_le_ten_zpow {k : ℤ} (hk : 0 ≤ k) : (2 : ℚ) ^ (3 * k) ≤ 10 ^ k := by
  obtain ⟨j, rfl⟩ := Int.eq_ofNat_of_zero_le hk
  rw [zpow_mul]
  exact_mod_cast pow_le_pow_left₀ (by norm_num) (show (2 : ℚ) ^ (3 : ℤ) ≤ 10 by norm_num) j

/-- Beyond the greatest exponent there are no doubles. -/
theorem ofRounded?_of_beyond (m : Nat) {e : ℤ} (he : 971 < e) : ofRounded? m e = none := by
  unfold ofRounded?
  split
  · next m' e' heq =>
      rw [dif_neg]
      rintro ⟨-, -, hmax, -⟩
      split at heq
      · have := (Prod.mk.inj heq).2
        omega
      · have := (Prod.mk.inj heq).2
        omega

/-- The first shortcut: a decimal above all doubles. -/
theorem ofRatio?_of_huge {d : Nat} (hd : 0 < d) {k : ℤ} (hk : 400 < k) :
    ofRatio? (d * tenTo k.toNat) (tenTo (-k).toNat) = none := by
  have hn : 0 < d * tenTo k.toNat := Nat.mul_pos hd (tenTo_pos _)
  have he := exponentFor_roundsAt hn (tenTo_pos (-k).toNat)
  rw [ofRatio?_of_roundsAt hn (tenTo_pos _) he]
  generalize exponentFor _ _ = e at he
  -- The quotient is at least `2 ^ 1203`, so its exponent is beyond the format.
  have hbig : (2 : ℚ) ^ (1203 : ℤ) < 2 ^ (53 + e) := by
    have hd' : (1 : ℚ) ≤ d := by exact_mod_cast hd
    have hlt := he.below
    rw [decimal_div] at hlt
    calc (2 : ℚ) ^ (1203 : ℤ) = 2 ^ (3 * (401 : ℤ)) := by norm_num
      _ ≤ 10 ^ (401 : ℤ) := two_zpow_le_ten_zpow (by norm_num)
      _ ≤ 10 ^ k := zpow_le_zpow_right₀ (by norm_num) (by omega)
      _ ≤ d * 10 ^ k := le_mul_of_one_le_left (by positivity) hd'
      _ < 2 ^ (53 + e) := hlt
  have hexp : 1203 < 53 + e := (zpow_lt_zpow_iff_right₀ (by norm_num)).mp hbig
  exact ofRounded?_of_beyond _ (by omega)

/-- A decimal that takes the second shortcut is below half the least double. -/
theorem decimal_lt_of_tiny {d : Nat} {k : ℤ} (hk : k + (d.log2 + 1) < -400) :
    (d * 10 ^ k : ℚ) < 2 ^ (-1075 : ℤ) := by
  have hd : (d : ℚ) < 2 ^ ((d.log2 : ℤ) + 1) := by exact_mod_cast Nat.lt_log2_self (n := d)
  have hten : (2 : ℚ) ^ ((d.log2 : ℤ) + 1) ≤ 10 ^ ((d.log2 : ℤ) + 1) := by
    exact_mod_cast Nat.pow_le_pow_left (show 2 ≤ 10 by decide) (d.log2 + 1)
  calc (d : ℚ) * 10 ^ k < 10 ^ ((d.log2 : ℤ) + 1) * 10 ^ k :=
        mul_lt_mul_of_pos_right (lt_of_lt_of_le hd hten) (by positivity)
    _ = 10 ^ (k + (d.log2 + 1)) := by rw [← zpow_add₀ (by norm_num), add_comm]
    _ ≤ 10 ^ (-401 : ℤ) := zpow_le_zpow_right₀ (by norm_num) (by omega)
    _ = (10 ^ (401 : ℤ))⁻¹ := zpow_neg _ _
    _ ≤ (2 ^ (3 * (401 : ℤ)))⁻¹ :=
        inv_anti₀ (by positivity) (two_zpow_le_ten_zpow (by norm_num))
    _ = 2 ^ (-1203 : ℤ) := by rw [← zpow_neg]; norm_num
    _ ≤ 2 ^ (-1075 : ℤ) := zpow_le_zpow_right₀ (by norm_num) (by norm_num)

/-- What is below one half is rounded to zero. -/
theorem roundHalfEven_of_small {n m : Nat} (hm : 0 < m) (h : (n / m : ℚ) < 1 / 2) :
    roundHalfEven n m = 0 := by
  have hm' : (0 : ℚ) < m := by exact_mod_cast hm
  have hnm : 2 * n < m := by
    rw [div_lt_div_iff₀ hm' (by norm_num)] at h
    have hrat : (n * 2 : ℚ) < m := by linarith
    have hnat : n * 2 < m := by exact_mod_cast hrat
    omega
  unfold roundHalfEven
  simp only [Nat.div_eq_of_lt (show n < m by omega), Nat.mod_eq_of_lt (show n < m by omega)]
  rw [if_pos hnm]

/-- The second shortcut: a decimal that is rounded to zero. -/
theorem ofRatio?_of_tiny {d : Nat} (hd : 0 < d) {k : ℤ} (hk : k + (d.log2 + 1) < -400) :
    ofRatio? (d * tenTo k.toNat) (tenTo (-k).toNat) = some zero := by
  have hn : 0 < d * tenTo k.toNat := Nat.mul_pos hd (tenTo_pos _)
  have hden := tenTo_pos (-k).toNat
  have hsmall : ((d * tenTo k.toNat : Nat) / tenTo (-k).toNat : ℚ) < 2 ^ (-1075 : ℤ) := by
    rw [decimal_div]
    exact decimal_lt_of_tiny hk
  -- So it is rounded at the least exponent, and there it is below one half.
  have hround : RoundsAt ((d * tenTo k.toNat : Nat) / tenTo (-k).toNat) (-1074) :=
    ⟨le_refl _, lt_of_lt_of_le hsmall (zpow_le_zpow_right₀ (by norm_num) (by norm_num)),
      Or.inl rfl⟩
  have hhalf : ((scaled (d * tenTo k.toNat) (tenTo (-k).toNat) (-1074)).1 /
      (scaled (d * tenTo k.toNat) (tenTo (-k).toNat) (-1074)).2 : ℚ) < 1 / 2 := by
    rw [scaled_div, div_lt_iff₀ (by positivity)]
    calc _ < (2 : ℚ) ^ (-1075 : ℤ) := hsmall
      _ = 1 / 2 * 2 ^ (-1074 : ℤ) := by
        rw [show (-1075 : ℤ) = -1 + -1074 by norm_num, zpow_add₀ (by norm_num)]
        norm_num
  rw [ofRatio?_of_roundsAt hn hden hround,
    roundHalfEven_of_small (scaled_den_pos _ hden _) hhalf]
  rfl

/-- **The shortcuts for very large and very small decimals give what the division gives.** -/
theorem ofDecimal?_eq (d : Nat) (k : ℤ) :
    ofDecimal? d k = ofRatio? (d * tenTo k.toNat) (tenTo (-k).toNat) := by
  unfold ofDecimal?
  split
  · next h =>
      rw [h, Nat.zero_mul]
      rfl
  · next h =>
      have hd : 0 < d := Nat.pos_of_ne_zero h
      split
      · next hk => exact (ofRatio?_of_huge hd hk).symm
      · split
        · next hk => exact (ofRatio?_of_tiny hd hk).symm
        · rfl

/-- Zeros behind the digits count as an exponent. -/
theorem ofDecimal?_mul_tenTo (d j : Nat) (k : ℤ) :
    ofDecimal? (d * tenTo j) k = ofDecimal? d (k + j) := by
  rw [ofDecimal?_eq, ofDecimal?_eq]
  refine ofRatio?_congr (tenTo_pos _) (tenTo_pos _) ?_
  have hpow : j + k.toNat + (-(k + j)).toNat = (k + j).toNat + (-k).toNat := by omega
  unfold tenTo
  calc d * 10 ^ j * 10 ^ k.toNat * 10 ^ (-(k + j)).toNat
      = d * 10 ^ (j + k.toNat + (-(k + j)).toNat) := by rw [pow_add, pow_add]; ring
    _ = d * 10 ^ ((k + j).toNat + (-k).toNat) := by rw [hpow]
    _ = d * 10 ^ (k + j).toNat * 10 ^ (-k).toNat := by rw [pow_add]; ring

end Magnitude

end Golden

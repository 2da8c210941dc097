/-
  Golden.Proofs.Double.Exact
  ────────────────────────────────
  **NUMBERS ARE COMPARED BY WHAT THEY ARE WORTH.**

  A finite double is worth the rational number `± m · 2 ^ e`, an integer is
  worth itself, the infinities are worth themselves, and not-a-number is worth
  nothing.  The comparison of two numbers, of either form and of any size, is
  that of their worths:

      same e a  ↔  worth? e  =  worth? a  =  some w

  No double is rounded for that, and no integer is turned into a double.
-/
import Golden.Proofs.Decimal.Rounding
import Golden.Value

namespace Golden

/-! ## §1. Worths. -/

/-- What a number is worth: a rational number or one of the infinities. -/
inductive Worth
  | rational (q : ℚ)
  | infinite (negative : Bool)
  deriving DecidableEq

/-- The rational number that a magnitude is. -/
def Magnitude.value (x : Magnitude) : ℚ := x.significand * 2 ^ x.exponent

/-! ## §2. Magnitudes. -/

namespace Magnitude

theorem value_nonneg (x : Magnitude) : 0 ≤ x.value := by
  unfold value
  positivity

theorem value_eq_zero_iff {x : Magnitude} : x.value = 0 ↔ x.significand = 0 := by
  simp [value, zpow_ne_zero]

/-- A magnitude is written in one way only. -/
theorem value_inj {x y : Magnitude} : x.value = y.value ↔ x = y := by
  constructor
  · intro heq
    -- The value alone decides at which exponent it is written.
    have hx : RoundsAt x.value x.exponent := by
      rw [value, ← ratio_div]
      exact ratio_roundsAt x
    have hy : RoundsAt x.value y.exponent := by
      rw [heq, value, ← ratio_div]
      exact ratio_roundsAt y
    have hexp : x.exponent = y.exponent := hx.unique hy
    have hsig : x.significand = y.significand := by
      rw [value, value, hexp] at heq
      exact_mod_cast mul_right_cancel₀ (zpow_ne_zero _ (by norm_num)) heq
    obtain ⟨m, e, hm⟩ := x
    obtain ⟨n, f, hn⟩ := y
    obtain rfl : m = n := hsig
    obtain rfl : e = f := hexp
    rfl
  · rintro rfl
    rfl

theorem ratio_eq_iff (x : Magnitude) (n : Nat) : x.ratio.1 = n * x.ratio.2 ↔ x.value = n := by
  have hden : (x.ratio.2 : ℚ) ≠ 0 := by exact_mod_cast (ratio_den_pos x).ne'
  rw [value, ← ratio_div, div_eq_iff hden]
  exact_mod_cast Iff.rfl

end Magnitude

/-! ## §3. Signs. -/

/-- A number that is not negative, with a sign. -/
def signedValue (negative : Bool) (a : ℚ) : ℚ := if negative then -a else a

/-- Two numbers with signs are equal just if they are so without them and have the same sign, unless
they are zero. -/
theorem signedValue_eq_iff {a b : ℚ} (ha : 0 ≤ a) (hb : 0 ≤ b) (s t : Bool) :
    signedValue s a = signedValue t b ↔ a = b ∧ (s = t ∨ a = 0) := by
  have opposite : ∀ {c d : ℚ}, 0 ≤ c → 0 ≤ d → (-c = d ↔ c = d ∧ c = 0) := by
    intro c d hc hd
    constructor
    · intro h
      exact ⟨by linarith, by linarith⟩
    · rintro ⟨rfl, rfl⟩
      simp
  cases s with
  | false =>
      cases t with
      | false => simp [signedValue]
      | true =>
          have h := opposite hb ha
          simp only [signedValue, Bool.false_eq_true, if_false, if_true, false_or]
          rw [eq_comm, h]
          exact ⟨fun ⟨hba, hz⟩ => ⟨hba.symm, hba ▸ hz⟩, fun ⟨hab, hz⟩ => ⟨hab.symm, hab ▸ hz⟩⟩
  | true =>
      cases t with
      | false => simpa [signedValue] using opposite ha hb
      | true => simp [signedValue]

theorem signedValue_natAbs (n : ℤ) : signedValue (decide (n < 0)) n.natAbs = n := by
  rw [signedValue, Nat.cast_natAbs, Int.cast_abs]
  rcases lt_or_ge n 0 with hn | hn
  · rw [decide_eq_true hn, if_pos rfl, abs_of_neg (by exact_mod_cast hn), neg_neg]
  · rw [decide_eq_false (not_lt.mpr hn), if_neg Bool.false_ne_true,
      abs_of_nonneg (by exact_mod_cast hn)]

/-! ## §4. Doubles. -/

/-- What a double is worth; not-a-number is worth nothing. -/
def Double.worth? : Double → Option Worth
  | .finite negative x => some (.rational (signedValue negative x.value))
  | .infinite negative => some (.infinite negative)
  | .nan => none

namespace Double

theorem equals_finite_iff {s t : Bool} {x y : Magnitude} :
    (Double.finite s x).equals (.finite t y) = true ↔
      signedValue s x.value = signedValue t y.value := by
  rw [signedValue_eq_iff x.value_nonneg y.value_nonneg, Magnitude.value_inj,
    Magnitude.value_eq_zero_iff]
  simp [equals]

/-- **Doubles are equal just if they are worth the same.** -/
theorem equals_iff {x y : Double} :
    x.equals y = true ↔ ∃ w, x.worth? = some w ∧ y.worth? = some w := by
  cases x with
  | nan => simp [equals, worth?]
  | infinite s =>
      cases y with
      | infinite t =>
          simp only [equals, worth?, beq_iff_eq, Option.some.injEq, exists_eq_left',
            Worth.infinite.injEq]
          exact eq_comm
      | _ => simp [equals, worth?]
  | finite s x =>
      cases y with
      | nan => simp [equals, worth?]
      | infinite t => simp [equals, worth?]
      | finite t y =>
          rw [equals_finite_iff]
          simp only [worth?, Option.some.injEq, exists_eq_left', Worth.rational.injEq]
          exact eq_comm

/-- **A double equals an integer just if it is worth it.** -/
theorem equalsInt_iff {x : Double} {n : ℤ} :
    x.equalsInt n = true ↔ x.worth? = some (.rational n) := by
  cases x with
  | nan => simp [equalsInt, worth?]
  | infinite s => simp [equalsInt, worth?]
  | finite s x =>
      have hvalue := x.ratio_eq_iff n.natAbs
      have hsign := signedValue_eq_iff x.value_nonneg (Nat.cast_nonneg n.natAbs) s (n < 0)
      rw [signedValue_natAbs, Magnitude.value_eq_zero_iff] at hsign
      simp [equalsInt, worth?, hvalue, hsign]

end Double

/-! ## §5. Numbers. -/

namespace Value

/-- What a value is worth as a number; a boolean is no number. -/
def worth? : Value → Option Worth
  | .int n => some (.rational n)
  | .float x => x.worth?
  | _ => none

theorem kind_of_worth? {v : Value} {w : Worth} (h : v.worth? = some w) : v.kind = .number := by
  cases v with
  | int n => rfl
  | float x => rfl
  | _ => cases h

/-- **Numbers of either form are the same just if they are worth the same.** -/
theorem same_number_iff {e a : Value} (he : e.kind = .number) (ha : a.kind = .number) :
    e.same a = true ↔ ∃ w, e.worth? = some w ∧ a.worth? = some w := by
  have number : ∀ {v : Value}, v.kind = .number → (∃ n, v = .int n) ∨ ∃ x, v = .float x := by
    intro v hv
    cases v with
    | int n => exact Or.inl ⟨n, rfl⟩
    | float x => exact Or.inr ⟨x, rfl⟩
    | set shape xs => cases shape <;> cases hv
    | _ => cases hv
  rcases number he with ⟨m, rfl⟩ | ⟨x, rfl⟩ <;> rcases number ha with ⟨n, rfl⟩ | ⟨y, rfl⟩
  · simp only [same, worth?, beq_iff_eq, Option.some.injEq, exists_eq_left', Worth.rational.injEq,
      Int.cast_inj]
    exact eq_comm
  · simp [same, worth?, Double.equalsInt_iff]
  · simp [same, worth?, Double.equalsInt_iff]
  · simp [same, worth?, Double.equals_iff]

end Value

end Golden

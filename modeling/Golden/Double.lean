/-
  Golden.Double
  ────────────────────────────────
  **DOUBLE-PRECISION NUMBERS AS EXACT VALUES.**

  A double is a sign with a magnitude `m · 2^e`, an infinity, or not-a-number.
  A magnitude is kept in the single form that the format stores, so two finite
  doubles are the same value exactly when they are the same term (zeros of
  different sign apart):

      Canonical m e  :=  m < 2^53,  -1074 ≤ e ≤ 971,  and 2^52 ≤ m or e = -1074

  Nothing here computes in floating point.  Numbers come in through
  `ofRatio?` (a quotient rounded to the nearest double, ties to the even
  significand) and are compared exactly, also against integers of any size.
-/

namespace Golden

/-! ## §1. Magnitudes. -/

/-- A power of two. -/
def twoTo (k : Nat) : Nat := Nat.pow 2 k

/-- A power of ten. -/
def tenTo (k : Nat) : Nat := Nat.pow 10 k

/-- The significands and exponents in which the format stores a magnitude. -/
def Canonical (significand : Nat) (exponent : Int) : Prop :=
  significand < twoTo 53 ∧ -1074 ≤ exponent ∧ exponent ≤ 971 ∧
    (twoTo 52 ≤ significand ∨ exponent = -1074)

instance (m : Nat) (e : Int) : Decidable (Canonical m e) := by
  unfold Canonical
  infer_instance

/-- A finite magnitude `significand · 2 ^ exponent`. -/
structure Magnitude where
  significand : Nat
  exponent : Int
  canonical : Canonical significand exponent
  deriving DecidableEq

namespace Magnitude

/-- The magnitude of both zeros. -/
def zero : Magnitude := ⟨0, -1074, by decide⟩

instance : Inhabited Magnitude := ⟨zero⟩

/-- The magnitude as a fraction of two naturals. -/
def ratio (x : Magnitude) : Nat × Nat :=
  (x.significand * twoTo x.exponent.toNat, twoTo (-x.exponent).toNat)

end Magnitude

/-- The natural number nearest to `num / den`; of two equally near the even one. -/
def roundHalfEven (num den : Nat) : Nat :=
  let q := num / den
  let r := num % den
  if 2 * r < den then q
  else if den < 2 * r then q + 1
  else if q % 2 = 0 then q else q + 1

namespace Magnitude

/-- The fraction `num / den` divided by `2 ^ exponent`. -/
def scaled (num den : Nat) (exponent : Int) : Nat × Nat :=
  (num * twoTo (-exponent).toNat, den * twoTo exponent.toNat)

/-- The least exponent of the format at which `num / den` has a whole part below `2 ^ 53`. -/
def exponentFor (num den : Nat) : Int :=
  let low := max (-1074) ((num.log2 : Int) - den.log2 - 53)
  let (n, d) := scaled num den low
  if n / d < twoTo 53 then low else low + 1

/-- The magnitude nearest to `num / den` for a positive `den`; `none` where it exceeds the format. -/
def ofRatio? (num den : Nat) : Option Magnitude :=
  if num = 0 then some zero
  else
    let e := exponentFor num den
    let (n, d) := scaled num den e
    let m := roundHalfEven n d
    let (m, e) := if m = twoTo 53 then (twoTo 52, e + 1) else (m, e)
    if h : Canonical m e then some ⟨m, e, h⟩ else none

/-- The magnitude nearest to `digits · 10 ^ exponent`; `none` where it exceeds the format.
Beyond `10 ^ 400` and below `10 ^ (-400)` the answer needs no division. -/
def ofDecimal? (digits : Nat) (exponent : Int) : Option Magnitude :=
  if digits = 0 then some zero
  else if 400 < exponent then none
  else if exponent + (digits.log2 + 1) < -400 then some zero
  else ofRatio? (digits * tenTo exponent.toNat) (tenTo (-exponent).toNat)

end Magnitude

/-! ## §2. Doubles. -/

/-- A double-precision number.  All not-a-numbers are one value. -/
inductive Double
  | finite (negative : Bool) (magnitude : Magnitude)
  | infinite (negative : Bool)
  | nan
  deriving DecidableEq, Inhabited

namespace Double

/-- The double with the given sign and magnitude, infinite where the magnitude exceeds the format. -/
def signed (negative : Bool) : Option Magnitude → Double
  | some m => .finite negative m
  | none => .infinite negative

/-- The double nearest to `± digits · 10 ^ exponent`. -/
def ofDecimal (negative : Bool) (digits : Nat) (exponent : Int) : Double :=
  signed negative (Magnitude.ofDecimal? digits exponent)

/-- The double nearest to an integer. -/
def ofInt (n : Int) : Double :=
  signed (n < 0) (Magnitude.ofRatio? n.natAbs 1)

/-- Whether the number is greater than zero; not-a-number is not. -/
def isPositive : Double → Bool
  | .finite negative m => !negative && m.significand != 0
  | .infinite negative => !negative
  | .nan => false

/-- Whether the number is at most zero; not-a-number is not. -/
def isNonpositive : Double → Bool
  | .finite negative m => negative || m.significand == 0
  | .infinite negative => negative
  | .nan => false

/-! ## §3. Comparison by value. -/

/-- Equality of doubles as numbers: the zeros are equal, not-a-number equals nothing. -/
def equals : Double → Double → Bool
  | .finite s x, .finite t y => x == y && (s == t || x.significand == 0)
  | .infinite s, .infinite t => s == t
  | _, _ => false

/-- Equality of a double with an integer as exact numbers. -/
def equalsInt : Double → Int → Bool
  | .finite s x, n =>
      let (num, den) := x.ratio
      num == n.natAbs * den && (s == decide (n < 0) || x.significand == 0)
  | _, _ => false

end Double

end Golden

/-
  Golden.Decimal.Shortest
  ────────────────────────────────
  **THE SHORTEST DECIMAL TEXT OF A DOUBLE.**

  A double is written with the fewest digits that read back as the same
  double, and of several such digit strings with the one nearest to it:

      digits x  =  (d, k)   →   ofDecimal? d k = some x

  For one, two, … seventeen digits the two neighbours of the value on that
  decimal grid are tried; seventeen always suffice, and behind them stands the
  full decimal expansion, which reads back by construction.

  The text puts a decimal point where the exponent lies in `-4 … 15` and
  otherwise writes an exponent of at least two digits with its sign.
-/
import Golden.Double

namespace Golden.Decimal

/-! ## §1. Digits. -/

/-- The decimal digits of a natural number. -/
def digitsOf (n : Nat) : List Char := Nat.toDigits 10 n

/-- The number of digits before the point of a positive `num / den`; negative by the zeros after it. -/
def pointOf (num den : Nat) : Int :=
  ((digitsOf (num * tenTo 400 / den)).length : Int) - 400

/-- The neighbours of `num / den` among the multiples of `10 ^ k`: the lower one, with the
comparison of twice the distance to it against the grid. -/
def gridBelow (num den : Nat) (k : Int) : Nat × Ordering :=
  let n := num * tenTo (-k).toNat
  let d := den * tenTo k.toNat
  (n / d, compare (2 * (n % d)) d)

/-- The nearest of the two grid neighbours that read back as `x`, if one does. -/
def atGrid? (x : Magnitude) (k : Int) : Option Nat :=
  let (low, side) := gridBelow x.ratio.1 x.ratio.2 k
  let lowReads := Magnitude.ofDecimal? low k == some x
  let highReads := Magnitude.ofDecimal? (low + 1) k == some x
  match lowReads, highReads with
  | true, true =>
      match side with
      | .lt => some low
      | .gt => some (low + 1)
      | .eq => some (if low % 2 = 0 then low else low + 1)
  | true, false => some low
  | false, true => some (low + 1)
  | false, false => none

/-- The full decimal expansion `d · 10 ^ k` of a magnitude. -/
def expansion (x : Magnitude) : Nat × Int :=
  if 0 ≤ x.exponent then (x.significand * twoTo x.exponent.toNat, 0)
  else (x.significand * Nat.pow 5 (-x.exponent).toNat, x.exponent)

/-- The first grid of at most `left` further digits with a neighbour that reads back. -/
def search (x : Magnitude) (point : Int) : Nat → Nat → Nat × Int
  | _, 0 => expansion x
  | count, left + 1 =>
      match atGrid? x (point - count) with
      | some d => (d, point - count)
      | none => search x point (count + 1) left

/-- The shortest decimal `d · 10 ^ k` of a magnitude. -/
def shortest (x : Magnitude) : Nat × Int :=
  search x (pointOf x.ratio.1 x.ratio.2) 1 17

/-! ## §2. Text. -/

/-- The digits of a shortest decimal without trailing zeros, and the place of its point after them. -/
def figures (x : Magnitude) : List Char × Int :=
  let decimal := shortest x
  let ds := digitsOf decimal.1
  ((ds.reverse.dropWhile (· == '0')).reverse, ds.length + decimal.2)

/-- The exponent mark: a sign and at least two digits. -/
def exponentText (e : Int) : List Char :=
  let ds := digitsOf e.natAbs
  'e' :: (if e < 0 then '-' else '+') :: (if ds.length < 2 then '0' :: ds else ds)

/-- Digits with a point at a place among them, before or behind them, or with an exponent. -/
def layout (ds : List Char) (point : Int) : List Char :=
  let e := point - 1
  if -4 ≤ e ∧ e < 16 then
    if point ≤ 0 then '0' :: '.' :: (List.replicate (-point).toNat '0' ++ ds)
    else if (ds.length : Int) ≤ point then
      ds ++ List.replicate (point - ds.length).toNat '0' ++ ['.', '0']
    else ds.take point.toNat ++ '.' :: ds.drop point.toNat
  else
    (match ds with
      | d :: rest@(_ :: _) => d :: '.' :: rest
      | ds => ds) ++ exponentText e

/-- The text of a positive magnitude. -/
def magnitudeText (x : Magnitude) : List Char :=
  let decimal := figures x
  layout decimal.1 decimal.2

/-- The text of a finite double, the sign of zero included. -/
def finiteText (negative : Bool) (x : Magnitude) : String :=
  let body := if x.significand = 0 then ['0', '.', '0'] else magnitudeText x
  String.ofList (if negative then '-' :: body else body)

/-- The text of a double; the words for the infinities and not-a-number are the short ones. -/
def text : Double → String
  | .finite negative x => finiteText negative x
  | .infinite negative => if negative then "-inf" else "inf"
  | .nan => "nan"

/-- The text of an integer. -/
def intText (n : Int) : String :=
  String.ofList (if n < 0 then '-' :: digitsOf n.natAbs else digitsOf n.natAbs)

end Golden.Decimal

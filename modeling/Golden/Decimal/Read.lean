/-
  Golden.Decimal.Read
  ────────────────────────────────
  **READING DECIMAL NUMBERS.**

  A number text has an optional sign and then digits with an optional point,
  at least one digit in all, and an optional exponent; or it is one of the
  words for infinity and not-a-number in any case.  Digits of every script
  count, and a single underscore may stand between two digits:

      read? "1_000.5"  =  1000.5        read? "1__0"  =  none
-/
import Golden.Double
import Golden.Text.Blank
import Golden.Text.Digit

namespace Golden.Decimal

/-! ## §1. Digit strings. -/

/-- Whether the character is an ASCII digit. -/
def isDigit (c : Char) : Bool := '0' ≤ c && c ≤ '9'

/-- The value of an ASCII digit. -/
def digitValue (c : Char) : Nat := c.toNat - 48

/-- The number that a string of digits writes. -/
def natOf (ds : List Char) : Nat := ds.foldl (fun n c => 10 * n + digitValue c) 0

/-- The leading digits of a text, and the rest. -/
def spanDigits (s : List Char) : List Char × List Char := (s.takeWhile isDigit, s.dropWhile isDigit)

/-- The double written by a sign, the digits before and behind the point, and an exponent. -/
def ofParts (negative : Bool) (whole fraction : List Char) (exponent : Int) : Double :=
  Double.ofDecimal negative (natOf (whole ++ fraction)) (exponent - fraction.length)

/-- A leading sign, and the rest. -/
def sign : List Char → Bool × List Char
  | '-' :: rest => (true, rest)
  | '+' :: rest => (false, rest)
  | s => (false, s)

/-! ## §2. The grammar. -/

/-- The exponent at the end of a number: nothing, or its letter, a sign and digits. -/
def exponent? : List Char → Option Int
  | [] => some 0
  | c :: rest =>
      if c = 'e' || c = 'E' then
        let (negative, ds) := sign rest
        if ds.isEmpty || !ds.all isDigit then none
        else some (if negative then -(natOf ds : Int) else natOf ds)
      else none

/-- An unsigned number: digits, point, digits, exponent. -/
def unsigned? (negative : Bool) (s : List Char) : Option Double :=
  let (whole, rest) := spanDigits s
  let (fraction, rest) := match rest with
    | '.' :: more => spanDigits more
    | _ => ([], rest)
  if whole.isEmpty && fraction.isEmpty then none
  else (exponent? rest).map (ofParts negative whole fraction)

/-- The number that a word stands for. -/
def word? (negative : Bool) (s : List Char) : Option Double :=
  let w := String.ofList (s.map Char.toLower)
  if w = "inf" || w = "infinity" then some (.infinite negative)
  else if w = "nan" then some .nan
  else none

/-- Drop the underscores of a text in which each one stands between two digits. -/
def dropUnderscores (previous : Char) : List Char → Option (List Char)
  | [] => if previous = '_' then none else some []
  | c :: rest =>
      if c = '_' then
        if isDigit previous then dropUnderscores c rest else none
      else if previous = '_' && !isDigit c then none
      else (dropUnderscores c rest).map (c :: ·)

/-- The double that a text without surrounding blanks writes. -/
def read? (s : String) : Option Double :=
  match dropUnderscores ' ' (s.toList.map Text.toAsciiDigit) with
  | none => none
  | some cs =>
      let (negative, rest) := sign cs
      match word? negative rest with
      | some x => some x
      | none => unsigned? negative rest

/-- The integer that a text writes: an optional sign and digits, at most 4300 of them, with blanks
around. -/
def readInt? (s : List Char) : Option Int :=
  let trimmed := Text.dropEnd Text.isBlank (s.dropWhile Text.isBlank)
  match dropUnderscores ' ' (trimmed.map Text.toAsciiDigit) with
  | none => none
  | some cs =>
      let (negative, ds) := sign cs
      if ds.isEmpty || !ds.all isDigit || 4300 < ds.length then none
      else some (if negative then -(natOf ds : Int) else natOf ds)

end Golden.Decimal

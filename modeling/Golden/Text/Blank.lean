/-
  Golden.Text.Blank
  ────────────────────────────────
  **BLANKS AND TRIMMING.**

  A blank is a character of the standard's white space or of its paragraph,
  segment and block separators; the four information separators U+001C to
  U+001F are therefore blanks as well.
-/

namespace Golden.Text

/-- Whether the character is a blank. -/
def isBlank (c : Char) : Bool :=
  let n := c.toNat
  (9 ≤ n && n ≤ 13) || (28 ≤ n && n ≤ 32) || n == 0x85 || n == 0xa0 || n == 0x1680 ||
    (0x2000 ≤ n && n ≤ 0x200a) || n == 0x2028 || n == 0x2029 || n == 0x202f || n == 0x205f ||
    n == 0x3000

/-- Drop the characters of a class from the end. -/
def dropEnd (p : Char → Bool) (s : List Char) : List Char :=
  (s.reverse.dropWhile p).reverse

/-- Drop the blanks at both ends. -/
def trim (s : String) : String :=
  String.ofList (dropEnd isBlank (s.toList.dropWhile isBlank))

/-- Drop the given character from the end as often as it stands there. -/
def trimEnd (c : Char) (s : String) : String :=
  String.ofList (dropEnd (· == c) s.toList)

end Golden.Text

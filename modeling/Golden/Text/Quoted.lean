/-
  Golden.Text.Quoted
  ────────────────────────────────
  **QUOTED TEXTS IN MESSAGES.**

  A text in a message stands between single quotes, or between double quotes
  where it holds a single one and no double one.  The quote and the backslash
  get a backslash, tab, line feed and carriage return have escapes of their
  own, and every other unprintable character is written by its number:

      quote "it's"   =  "it's"        quote "a\nb"  =  'a\nb'
-/
import Golden.Text.Printable

namespace Golden.Text

/-- The hexadecimal digits of a number, padded to a width. -/
def hex (width n : Nat) : List Char :=
  let ds := Nat.toDigits 16 n
  List.replicate (width - ds.length) '0' ++ ds

/-- An unprintable character by its number: two, four or eight hexadecimal digits. -/
def numbered (n : Nat) : List Char :=
  if n < 0x100 then '\\' :: 'x' :: hex 2 n
  else if n < 0x10000 then '\\' :: 'u' :: hex 4 n
  else '\\' :: 'U' :: hex 8 n

/-- What stands for one character of a text between the given quotes. -/
def escape (mark c : Char) : List Char :=
  if c = mark || c = '\\' then ['\\', c]
  else if c = '\t' then ['\\', 't']
  else if c = '\n' then ['\\', 'n']
  else if c = '\r' then ['\\', 'r']
  else if isPrintable c then [c]
  else numbered c.toNat

/-- What stands for a code point, which need not be a character. -/
def escapeCode (mark : Char) (code : Nat) : List Char :=
  if 0xd800 ≤ code && code ≤ 0xdfff then numbered code else escape mark (Char.ofNat code)

/-- The quotes around a text: double ones only for a text with a single and without a double one. -/
def markFor (s : List Char) : Char :=
  if s.contains '\'' && !s.contains '"' then '"' else '\''

/-- The quoted characters of a text. -/
def quoteChars (s : List Char) : List Char :=
  let mark := markFor s
  mark :: (s.flatMap (escape mark) ++ [mark])

/-- The quoted form of a text. -/
def quote (s : String) : String := String.ofList (quoteChars s.toList)

/-- The quoted form of code points, which need not be characters. -/
def quoteCodes (codes : List Nat) : String :=
  let mark := markFor (codes.map Char.ofNat)
  String.ofList (mark :: (codes.flatMap (escapeCode mark) ++ [mark]))

/-- What stands for one byte of a byte text: the printable ones are those of ASCII. -/
def escapeByte (mark : Char) (b : UInt8) : List Char :=
  let c := Char.ofNat b.toNat
  if b.toNat < 128 then escape mark c else numbered b.toNat

/-- The quoted form of a byte text, marked by a leading `b`. -/
def quoteBytes (bytes : List UInt8) : String :=
  let mark := markFor (bytes.map (fun b => Char.ofNat b.toNat))
  String.ofList ('b' :: mark :: (bytes.flatMap (escapeByte mark) ++ [mark]))

end Golden.Text

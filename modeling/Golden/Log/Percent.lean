/-
  Golden.Log.Percent
  ────────────────────────────────
  **LOG PATTERNS AND THEIR ARGUMENTS.**

  A log pattern holds conversions that start with a percent sign; each takes
  the next argument.  `%s` writes an argument plainly, `%r` and `%a` write it
  quoted, `%d`, `%i` and `%u` write a count, and two percent signs side by side
  are one.  Between the sign and the letter may stand flags, a width, a
  precision and a length letter:

      fill "%s (%d)" [text "a", count 2]  =  "a (2)"

  A pattern that asks for an argument of another kind, for more arguments or
  for fewer, mismatches them; one that cannot be read is malformed.  The first
  fault from the left counts, and nothing is written before all is read.
-/
import Golden.Decimal.Read
import Golden.Decimal.Shortest
import Golden.Path

namespace Golden.Log

/-! ## §1. Arguments and conversions. -/

/-- What a log event is about. -/
inductive Argument
  | text (s : String)
  | path (p : Path)
  | count (n : Nat)
  deriving DecidableEq, Inhabited

/-- Why a pattern does not go with its arguments. -/
inductive Fault
  | mismatched
  | malformed
  deriving DecidableEq, Repr, Inhabited

/-- A conversion: flags, least width, precision and letter. -/
structure Conversion where
  flags : List Char
  width : Option Nat
  precision : Option Nat
  letter : Char
  deriving DecidableEq, Inhabited

/-- A piece of a pattern. -/
inductive Piece
  | literal (c : Char)
  | convert (c : Conversion) (a : Argument)
  deriving DecidableEq, Inhabited

/-! ## §2. Reading a conversion. -/

/-- Whether the character is a flag. -/
def isFlag (c : Char) : Bool := c == '-' || c == '+' || c == ' ' || c == '#' || c == '0'

/-- The greatest width. -/
def maxWidth : Nat := Nat.pow 2 63 - 1

/-- The greatest precision. -/
def maxPrecision : Nat := Nat.pow 2 31 - 1

/-- A number of at most a given size, if digits lead the text; a star takes the next argument, which
has to be a count, in place of digits. -/
def readNumber (most : Nat) (s : List Char) (args : List Argument) :
    Except Fault (Option Nat × List Char × List Argument) :=
  if s.head? = some '*' then
    match args with
    | .count n :: left => .ok (some n, s.tail, left)
    | _ => .error .mismatched
  else
    let (ds, rest) := Decimal.spanDigits s
    if ds.isEmpty then .ok (none, s, args)
    else if most < Decimal.natOf ds then .error .malformed
    else .ok (some (Decimal.natOf ds), rest, args)

/-- The precision behind a point; a point alone is precision zero. -/
def readPrecision (s : List Char) (args : List Argument) :
    Except Fault (Option Nat × List Char × List Argument) :=
  match s with
  | '.' :: rest => do
      let (n, after, left) ← readNumber maxPrecision rest args
      pure (some (n.getD 0), after, left)
  | _ => .ok (none, s, args)

/-- Drop a letter that gives a length. -/
def skipLength : List Char → List Char
  | c :: rest => if c = 'h' || c = 'l' || c = 'L' then rest else c :: rest
  | [] => []

/-- Read a conversion behind its percent sign.  An argument by name is one that no event has. -/
def readConversion (s : List Char) (args : List Argument) :
    Except Fault (Conversion × List Char × List Argument) :=
  if s.head? = some '(' then .error .mismatched
  else do
    let (width, rest, args) ← readNumber maxWidth (s.dropWhile isFlag) args
    let (precision, rest, args) ← readPrecision rest args
    match skipLength rest with
    | [] => .error .malformed
    | letter :: after => pure (⟨s.takeWhile isFlag, width, precision, letter⟩, after, args)

/-! ## §3. Which argument a conversion takes. -/

/-- Whether the letter writes an argument of any kind. -/
def writesAny (letter : Char) : Bool := letter == 's' || letter == 'r' || letter == 'a'

/-- Whether the letter writes a count. -/
def writesCount (letter : Char) : Bool := letter == 'd' || letter == 'i' || letter == 'u'

/-- Whether the letter asks for a character, or for a number in a notation that no event is written
in. -/
def asksOther (letter : Char) : Bool := "oxXeEfFgGc".toList.contains letter

/-- The piece that a conversion makes of the next argument. -/
def Conversion.take (c : Conversion) : List Argument → Except Fault (Piece × List Argument)
  | [] => .error .mismatched
  | a :: rest =>
      if writesAny c.letter then .ok (.convert c a, rest)
      else if writesCount c.letter then
        match a with
        | .count _ => .ok (.convert c a, rest)
        | _ => .error .mismatched
      else if asksOther c.letter then .error .mismatched
      else .error .malformed

/-! ## §4. Reading a pattern. -/

/-- Read a pattern with its arguments. -/
def readPieces : Nat → List Char → List Argument → Except Fault (List Piece)
  | _, [], [] => .ok []
  | _, [], _ :: _ => .error .mismatched
  | 0, _ :: _, _ => .error .malformed
  | fuel + 1, c :: rest, args =>
      if c ≠ '%' then do
        let more ← readPieces fuel rest args
        pure (.literal c :: more)
      else if rest.head? = some '%' then do
        let more ← readPieces fuel rest.tail args
        pure (.literal '%' :: more)
      else do
        let (conversion, after, args) ← readConversion rest args
        let (piece, left) ← conversion.take args
        let more ← readPieces fuel after left
        pure (piece :: more)

/-! ## §5. Writing. -/

/-- A text filled up with a character on one side to a width. -/
def fillUp (left : Bool) (fill : Char) (width : Option Nat) (s : List Char) : List Char :=
  let missing := List.replicate (width.getD 0 - s.length) fill
  if left then s ++ missing else missing ++ s

/-- An argument on its own. -/
def Argument.plain : Argument → String
  | .text s => s
  | .path p => p.text
  | .count n => Decimal.intText n

/-- An argument, quoted. -/
def Argument.literal : Argument → String
  | .text s => Text.quote s
  | .path p => p.literal
  | .count n => Decimal.intText n

/-- A text with every character beyond ASCII by its number. -/
def asciiOnly (s : List Char) : List Char :=
  s.flatMap (fun c => if c.toNat < 128 then [c] else Text.numbered c.toNat)

/-- A count with the sign, digits and width that a conversion asks for. -/
def countText (c : Conversion) (n : Nat) : List Char :=
  let digits := fillUp false '0' c.precision (Decimal.digitsOf n)
  let sign := if c.flags.contains '+' then ['+'] else if c.flags.contains ' ' then [' '] else []
  if c.flags.contains '-' then fillUp true ' ' c.width (sign ++ digits)
  else if c.flags.contains '0' then
    sign ++ fillUp false '0' (c.width.map (· - sign.length)) digits
  else fillUp false ' ' c.width (sign ++ digits)

/-- What a piece writes. -/
def Piece.write : Piece → List Char
  | .literal c => [c]
  | .convert c a =>
      match a with
      | .count n =>
          if writesCount c.letter then countText c n
          else anyText c a
      | _ => anyText c a
where
  /-- An argument written by a letter that takes any kind. -/
  anyText (c : Conversion) (a : Argument) : List Char :=
    let s :=
      if c.letter = 's' then a.plain.toList
      else if c.letter = 'a' then asciiOnly a.literal.toList
      else a.literal.toList
    let cut := match c.precision with
      | some n => s.take n
      | none => s
    fillUp (c.flags.contains '-') ' ' c.width cut

/-- The text of a pattern with its arguments. -/
def fill (pattern : String) (args : List Argument) : Except Fault String := do
  let pieces ← readPieces pattern.toList.length pattern.toList args
  pure (String.ofList (pieces.flatMap Piece.write))

end Golden.Log

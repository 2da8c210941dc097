/-
  Golden.Text.Wide
  ────────────────────────────────
  **CHARACTERS IN UNITS OF TWO OR FOUR BYTES.**

  A unit is a number of two or four bytes, the greatest or the least byte first.
  In units of two bytes a character beyond the first 65536 takes two halves.
  Units of four bytes are the numbers of characters.

      d8 3d  de 00   =  one character      d8 3d   =  a half of one, which is no character

  Where a half stands without its other half the bytes are in order, but there
  is no text of whole characters that they write.
-/
import Golden.Text.Encoding

namespace Golden.Text.Wide

/-! ## §1. Units. -/

/-- The number that bytes write, the first one the greatest. -/
def numberOf (bytes : List UInt8) : Nat := bytes.foldl (fun n b => 256 * n + b.toNat) 0

/-- The number that the bytes of a unit write. -/
def unitOf (order : ByteOrder) (bytes : List UInt8) : Nat :=
  match order with
  | .big => numberOf bytes
  | .little => numberOf bytes.reverse

/-- The units of two bytes from a position on. -/
def pairsFrom (order : ByteOrder) (position : Nat) :
    List UInt8 → Except Encoding.Fault (List Nat)
  | [] => .ok []
  | [a] => .error ⟨.utf16 order, .truncated, position, a, 1⟩
  | a :: b :: rest => do
      let more ← pairsFrom order (position + 2) rest
      pure (unitOf order [a, b] :: more)

/-- The units of four bytes from a position on, which are numbers of characters. -/
def quadsFrom (order : ByteOrder) (position : Nat) :
    List UInt8 → Except Encoding.Fault (List Nat)
  | [] => .ok []
  | a :: b :: c :: d :: rest =>
      let n := unitOf order [a, b, c, d]
      if 0x110000 ≤ n then .error ⟨.utf32 order, .outOfRange, position, a, 4⟩
      else do
        let more ← quadsFrom order (position + 4) rest
        pure (n :: more)
  | a :: rest => .error ⟨.utf32 order, .truncated, position, a, rest.length + 1⟩

/-! ## §2. Halves. -/

/-- Whether a number is the first half of a pair. -/
def isHighHalf (n : Nat) : Bool := 0xd800 ≤ n && n ≤ 0xdbff

/-- Whether a number is the second half of a pair. -/
def isLowHalf (n : Nat) : Bool := 0xdc00 ≤ n && n ≤ 0xdfff

/-- The character with a number; half of a pair alone is none. -/
def charOf? (n : Nat) : Option Char :=
  if isHighHalf n || isLowHalf n then none else some (Char.ofNat n)

/-- The character that two halves of a pair write. -/
def joinHalves (high low : Nat) : Char :=
  Char.ofNat (0x10000 + (high - 0xd800) * 0x400 + (low - 0xdc00))

/-- The characters of units of two bytes, unless one of them is half of a pair alone. -/
def charsOfPairs? : List Nat → Option (List Char)
  | [] => some []
  | [n] => (charOf? n).map ([·])
  | high :: low :: rest =>
      if isHighHalf high && isLowHalf low then
        (charsOfPairs? rest).map (joinHalves high low :: ·)
      else do
        let c ← charOf? high
        let cs ← charsOfPairs? (low :: rest)
        pure (c :: cs)

/-! ## §3. Texts. -/

/-- The characters of a text in units of two bytes that starts at a position, unless one of them is
half of a pair alone. -/
def decodePairs (order : ByteOrder) (position : Nat) (bytes : List UInt8) :
    Except Encoding.Fault (Option (List Char)) :=
  (pairsFrom order position bytes).map charsOfPairs?

/-- The characters of a text in units of four bytes that starts at a position, unless one of them is
half of a pair alone. -/
def decodeQuads (order : ByteOrder) (position : Nat) (bytes : List UInt8) :
    Except Encoding.Fault (Option (List Char)) :=
  (quadsFrom order position bytes).map (·.mapM charOf?)

end Golden.Text.Wide

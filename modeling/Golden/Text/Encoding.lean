/-
  Golden.Text.Encoding
  ────────────────────────────────
  **HOW CHARACTERS ARE STORED IN BYTES.**

  Characters are stored in one to four bytes each, in units of two bytes, of
  which some characters take a pair, or in four bytes.  The larger units come in
  two orders of bytes.  A fault says which bytes of a text are none of the
  encoding that it is read in, and why.
-/
import Golden.Text.Quoted

namespace Golden.Text

/-! ## §1. Encodings. -/

/-- Which byte of a unit comes first. -/
inductive ByteOrder
  | big
  | little
  deriving DecidableEq, Repr, Inhabited

/-- How characters are stored: in one to four bytes, in units of two bytes, or in four bytes. -/
inductive Encoding
  | utf8
  | utf16 (order : ByteOrder)
  | utf32 (order : ByteOrder)
  deriving DecidableEq, Repr, Inhabited

/-- What the name of an encoding says about the order of bytes. -/
def ByteOrder.suffix : ByteOrder → String
  | .big => "-be"
  | .little => "-le"

/-- The name of an encoding. -/
def Encoding.name : Encoding → String
  | .utf8 => "utf-8"
  | .utf16 order => "utf-16" ++ order.suffix
  | .utf32 order => "utf-32" ++ order.suffix

/-! ## §2. Faults. -/

namespace Encoding

/-- Why bytes are no text. -/
inductive Problem
  | startByte
  | continuationByte
  | endOfData
  | truncated
  | outOfRange
  deriving DecidableEq, Repr, Inhabited

/-- The words for a problem. -/
def Problem.text : Problem → String
  | .startByte => "invalid start byte"
  | .continuationByte => "invalid continuation byte"
  | .endOfData => "unexpected end of data"
  | .truncated => "truncated data"
  | .outOfRange => "code point not in range(0x110000)"

/-- A problem with the position of the first byte concerned, that byte, and their number. -/
structure Fault where
  encoding : Encoding
  problem : Problem
  position : Nat
  first : UInt8
  count : Nat
  deriving DecidableEq, Repr, Inhabited

/-- The words for a fault. -/
def Fault.message (f : Fault) : String :=
  let number (n : Nat) : List Char := Nat.toDigits 10 n
  let bytes :=
    if f.count = 1 then
      "byte 0x".toList ++ hex 2 f.first.toNat ++ " in position ".toList ++ number f.position
    else
      "bytes in position ".toList ++ number f.position ++ '-' :: number (f.position + f.count - 1)
  "'" ++ f.encoding.name ++ "' codec can't decode " ++ String.ofList bytes ++ ": " ++
    f.problem.text

end Encoding

end Golden.Text

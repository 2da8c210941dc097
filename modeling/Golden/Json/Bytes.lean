/-
  Golden.Json.Bytes
  ────────────────────────────────
  **READING THE INTERCHANGE FORMAT FROM BYTES.**

  A document that is given as bytes tells its encoding by its first bytes.  It
  may start with a mark of the order of its bytes, which does not count:

      00 00 fe ff   four bytes, greatest first      ff fe 00 00   four bytes, least first
      fe ff         two bytes, greatest first       ff fe         two bytes, least first
      ef bb bf      one to four bytes

  Without one it starts with two characters of ASCII, so zeros among the first
  four bytes show how wide the units are and which byte of them comes first.

      00 00 00 xx   four bytes, greatest first      xx 00 00 00   four bytes, least first
      00 xx …       two bytes, greatest first       xx 00 …       two bytes, least first

  Any other document is in one to four bytes a character.  Halves of pairs alone
  are let pass in each encoding; a document with one is in no fault for that,
  but no value stands for it.
-/
import Golden.Json.Reader
import Golden.Text.Utf8
import Golden.Text.Wide

namespace Golden.Json

/-! ## §1. Encodings. -/

/-- The marks at the start of documents with the encodings that they stand for; the longer ones come
first, since a shorter one may begin like them. -/
def marks : List (List UInt8 × Text.Encoding) :=
  [([0, 0, 0xfe, 0xff], .utf32 .big), ([0xff, 0xfe, 0, 0], .utf32 .little),
    ([0xfe, 0xff], .utf16 .big), ([0xff, 0xfe], .utf16 .little),
    ([0xef, 0xbb, 0xbf], .utf8)]

/-- The encoding of a document without a mark. -/
def unmarkedEncoding (bytes : List UInt8) : Text.Encoding :=
  match bytes with
  | a :: b :: c :: d :: _ =>
      if a = 0 then (if b = 0 then .utf32 .big else .utf16 .big)
      else if b = 0 then (if c = 0 && d = 0 then .utf32 .little else .utf16 .little)
      else .utf8
  | [a, b] => if a = 0 then .utf16 .big else if b = 0 then .utf16 .little else .utf8
  | _ => .utf8

/-- The encoding of a document, and how many of its bytes are a mark. -/
def encodingOf (bytes : List UInt8) : Text.Encoding × Nat :=
  match marks.find? (fun m => m.1.isPrefixOf bytes) with
  | some (mark, encoding) => (encoding, mark.length)
  | none => (unmarkedEncoding bytes, 0)

/-! ## §2. Documents. -/

/-- The characters of a document, unless one of them is half of a pair alone.  The positions of wide
units count the mark, those of narrow bytes do not. -/
def decodeDocument (bytes : List UInt8) : Except Text.Encoding.Fault (Option (List Char)) :=
  let (encoding, mark) := encodingOf bytes
  let text := bytes.drop mark
  match encoding with
  | .utf8 => Text.Utf8.decodeBesideHalves text
  | .utf16 order => Text.Wide.decodePairs order mark text
  | .utf32 order => Text.Wide.decodeQuads order mark text

/-- The characters of a document, or why there are none. -/
def charsOf (bytes : List UInt8) : Except Unreadable (List Char) :=
  match decodeDocument bytes with
  | .error f => .error (.undecodable f)
  | .ok none => .error .halfPair
  | .ok (some s) => .ok s

/-- Read the value in the bytes of a document. -/
def readBytes (bytes : List UInt8) : Except Unreadable Value := do
  let s ← charsOf bytes
  (readText s).mapError (located s)

end Golden.Json

/-
  Golden.Text.Utf8
  ────────────────────────────────
  **BYTES AND CHARACTERS.**

  Characters are stored in one to four bytes.  Reading is strict: overlong
  forms, surrogates and numbers beyond the last character are refused at their
  first or second byte, and a fault names the bytes that were read as a
  character up to there:

      decode (encode s)  =  s
-/
import Golden.Text.Encoding

namespace Golden.Text.Utf8

/-! ## §1. Writing. -/

/-- The bytes of a text. -/
def encode (s : List Char) : List UInt8 := s.flatMap String.utf8EncodeChar

/-! ## §2. Reading. -/

/-- What a first byte announces: how many bytes follow, the bounds of the next of them, and the
leading bits of the character. -/
structure Lead where
  count : Nat
  low : Nat
  high : Nat
  bits : Nat

/-- What a byte announces as the first one of a character of several bytes. -/
def lead? (b : Nat) : Option Lead :=
  if 0xc2 ≤ b ∧ b ≤ 0xdf then some ⟨1, 0x80, 0xbf, b - 0xc0⟩
  else if b = 0xe0 then some ⟨2, 0xa0, 0xbf, 0⟩
  else if b = 0xed then some ⟨2, 0x80, 0x9f, 13⟩
  else if 0xe1 ≤ b ∧ b ≤ 0xef then some ⟨2, 0x80, 0xbf, b - 0xe0⟩
  else if b = 0xf0 then some ⟨3, 0x90, 0xbf, 0⟩
  else if 0xf1 ≤ b ∧ b ≤ 0xf3 then some ⟨3, 0x80, 0xbf, b - 0xf0⟩
  else if b = 0xf4 then some ⟨3, 0x80, 0x8f, 4⟩
  else none

/-- How the bytes behind a first byte continue the character: its number, or the problem with how
many bytes were good. -/
def continue? (bits : Nat) (good : Nat) (low high : Nat) :
    Nat → List UInt8 → Except (Encoding.Problem × Nat) Nat
  | 0, _ => .ok bits
  | _ + 1, [] => .error (.endOfData, good)
  | count + 1, b :: rest =>
      if low ≤ b.toNat ∧ b.toNat ≤ high then
        continue? (64 * bits + (b.toNat - 0x80)) (good + 1) 0x80 0xbf count rest
      else .error (.continuationByte, good)

/-- The characters of bytes that start at a position. -/
def decodeFrom (position : Nat) : List UInt8 → Except Encoding.Fault (List Char)
  | [] => .ok []
  | b :: rest =>
      if b.toNat < 0x80 then do
        let more ← decodeFrom (position + 1) rest
        pure (Char.ofNat b.toNat :: more)
      else
        match lead? b.toNat with
        | none => .error ⟨.utf8, .startByte, position, b, 1⟩
        | some l =>
            match continue? l.bits 1 l.low l.high l.count rest with
            | .error (problem, good) => .error ⟨.utf8, problem, position, b, good⟩
            | .ok n => do
                let more ← decodeFrom (position + 1 + l.count) (rest.drop l.count)
                pure (Char.ofNat n :: more)
termination_by bytes => bytes.length
decreasing_by
  all_goals simp only [List.length_drop, List.length_cons]
  all_goals omega

/-- The characters of a byte text. -/
def decode (bytes : List UInt8) : Except Encoding.Fault (List Char) := decodeFrom 0 bytes

/-! ## §3. Halves of pairs. -/

/-- Whether bytes start with the three that write half of a pair. -/
def startsHalf : List UInt8 → Bool
  | a :: b :: c :: _ =>
      a == 0xed && 0xa0 ≤ b.toNat && b.toNat ≤ 0xbf && 0x80 ≤ c.toNat && c.toNat ≤ 0xbf
  | _ => false

theorem length_of_startsHalf {bytes : List UInt8} (h : startsHalf bytes = true) :
    3 ≤ bytes.length := by
  match bytes with
  | _ :: _ :: _ :: rest => simp only [List.length_cons]; omega
  | [] | [_] | [_, _] => cases h

/-- The first fault of bytes from a position on, where halves of pairs are let pass. -/
def faultBesideHalves? (position : Nat) (bytes : List UInt8) : Option Encoding.Fault :=
  match decodeFrom position bytes with
  | .ok _ => none
  | .error f =>
      let rest := bytes.drop (f.position - position)
      if h : startsHalf rest = true then faultBesideHalves? (f.position + 3) (rest.drop 3)
      else some f
termination_by bytes.length
decreasing_by
  have hlength := length_of_startsHalf h
  simp only [rest, List.length_drop] at hlength ⊢
  omega

/-- The characters of a byte text in which halves of pairs are let pass, unless there are some. -/
def decodeBesideHalves (bytes : List UInt8) : Except Encoding.Fault (Option (List Char)) :=
  match decode bytes with
  | .ok s => .ok (some s)
  | .error _ =>
      match faultBesideHalves? 0 bytes with
      | some f => .error f
      | none => .ok none

/-! ## §4. Lines. -/

/-- A text with every line end, a carriage return with or without a line feed, as a line feed. -/
def unifyLineEnds : List Char → List Char
  | [] => []
  | '\r' :: '\n' :: rest => '\n' :: unifyLineEnds rest
  | c :: rest => (if c = '\r' then '\n' else c) :: unifyLineEnds rest

end Golden.Text.Utf8

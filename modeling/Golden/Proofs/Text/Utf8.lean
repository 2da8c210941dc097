/-
  Golden.Proofs.Text.Utf8
  ────────────────────────────────
  **CHARACTERS THAT ARE STORED AS BYTES COME BACK.**

  The bytes of a character are what the strict reader takes for this
  character: the first byte announces how many follow and bounds the next of
  them, and the bits of all of them make up the number.

      decode (encode s)  =  ok s
-/
import Golden.Text.Utf8

namespace Golden.Text.Utf8

/-! ## §1. First bytes. -/

theorem lead?_two {a : Nat} (h : 2 ≤ a) (h' : a < 32) :
    lead? (a + 0xc0) = some ⟨1, 0x80, 0xbf, a⟩ := by
  unfold lead?
  rw [if_pos (by omega), Nat.add_sub_cancel]

theorem lead?_three {a : Nat} (h : a < 16) : lead? (a + 0xe0) =
    some ⟨2, if a = 0 then 0xa0 else 0x80, if a = 13 then 0x9f else 0xbf, a⟩ := by
  unfold lead?
  rw [if_neg (by omega)]
  by_cases h0 : a = 0
  · subst h0
    rfl
  by_cases h13 : a = 13
  · subst h13
    rfl
  rw [if_neg (by omega), if_neg (by omega), if_pos (by omega), if_neg h0, if_neg h13,
    Nat.add_sub_cancel]

theorem lead?_four {a : Nat} (h : a < 5) : lead? (a + 0xf0) =
    some ⟨3, if a = 0 then 0x90 else 0x80, if a = 4 then 0x8f else 0xbf, a⟩ := by
  unfold lead?
  rw [if_neg (by omega), if_neg (by omega), if_neg (by omega), if_neg (by omega)]
  by_cases h0 : a = 0
  · subst h0
    rfl
  by_cases h4 : a = 4
  · subst h4
    rfl
  rw [if_neg (by omega), if_pos (by omega), if_neg h0, if_neg h4, Nat.add_sub_cancel]

/-! ## §2. One character. -/

/-- The characters of bytes, with one more in front. -/
def decodeOn (c : Char) (position : Nat) (rest : List UInt8) :
    Except Encoding.Fault (List Char) := do
  let more ← decodeFrom position rest
  pure (c :: more)

theorem decodeFrom_single (position : Nat) {b : UInt8} (hb : b.toNat < 0x80)
    (rest : List UInt8) :
    decodeFrom position (b :: rest) = decodeOn (Char.ofNat b.toNat) (position + 1) rest := by
  rw [decodeFrom, if_pos hb]
  rfl

theorem decodeFrom_lead (position : Nat) {b : UInt8} {l : Lead} (hb : 0x80 ≤ b.toNat)
    (hl : lead? b.toNat = some l) {n : Nat} {rest : List UInt8}
    (hn : continue? l.bits 1 l.low l.high l.count rest = .ok n) :
    decodeFrom position (b :: rest) =
      decodeOn (Char.ofNat n) (position + 1 + l.count) (rest.drop l.count) := by
  rw [decodeFrom, if_neg (by omega)]
  simp only [hl, hn]
  rfl

theorem toNat_byte {n : Nat} (hn : n < 256) : (UInt8.ofNat n).toNat = n := by
  rw [UInt8.toNat_ofNat']
  omega

theorem continue?_step {bits good low high count n : Nat} (hlow : low ≤ n) (hhigh : n ≤ high)
    (hn : n < 256) (rest : List UInt8) :
    continue? bits good low high (count + 1) (UInt8.ofNat n :: rest) =
      continue? (64 * bits + (n - 0x80)) (good + 1) 0x80 0xbf count rest := by
  rw [continue?, toNat_byte hn, if_pos ⟨hlow, hhigh⟩]

/-- A first byte and those that continue it are read as the character with their number. -/
theorem decodeFrom_bytes (position : Nat) {n : Nat} {l : Lead} (hlow : 0x80 ≤ n) (hn : n < 256)
    (hl : lead? n = some l) {bytes : List UInt8} (hlen : bytes.length = l.count) {c : Char}
    (rest : List UInt8)
    (hread : continue? l.bits 1 l.low l.high l.count (bytes ++ rest) = .ok c.toNat) :
    decodeFrom position (UInt8.ofNat n :: (bytes ++ rest)) =
      decodeOn c (position + 1 + l.count) rest := by
  have hbyte := toNat_byte hn
  rw [decodeFrom_lead position (by omega) (by rw [hbyte]; exact hl) hread, Char.ofNat_toNat,
    ← hlen, List.drop_left]

/-- **The bytes of a character are read as the character.** -/
theorem decodeFrom_encodeChar (c : Char) (position : Nat) (rest : List UInt8) :
    ∃ after, decodeFrom position (String.utf8EncodeChar c ++ rest) = decodeOn c after rest := by
  have hvalid : c.toNat < 0xd800 ∨ 0xdfff < c.toNat ∧ c.toNat < 0x110000 := c.valid
  -- One case for each number of bytes.  That the second byte keeps to the bounds of the first one
  -- rests on `hvalid`: no half of a pair, nothing beyond the last plane.
  unfold String.utf8EncodeChar
  simp only [show c.val.toNat = c.toNat from rfl]
  split
  · next h =>
      refine ⟨position + 1, ?_⟩
      have hbyte := toNat_byte (n := c.toNat) (by omega)
      have hread := decodeFrom_single position (b := UInt8.ofNat c.toNat) (by omega) rest
      rw [hbyte, Char.ofNat_toNat] at hread
      exact hread
  split
  · next h1 h2 =>
      have hl := lead?_two (a := c.toNat / 64 % 32) (by omega) (by omega)
      have hread : continue? (c.toNat / 64 % 32) 1 0x80 0xbf 1
          ([UInt8.ofNat (c.toNat % 64 + 128)] ++ rest) = .ok c.toNat := by
        rw [List.singleton_append, continue?_step (by omega) (by omega) (by omega), continue?]
        exact congrArg Except.ok (by omega)
      exact ⟨_, decodeFrom_bytes position (by omega) (by omega) hl rfl rest hread⟩
  split
  · next h1 h2 h3 =>
      have hl := lead?_three (a := c.toNat / 4096 % 16) (by omega)
      have hread : continue? (c.toNat / 4096 % 16) 1
          (if c.toNat / 4096 % 16 = 0 then 0xa0 else 0x80)
          (if c.toNat / 4096 % 16 = 13 then 0x9f else 0xbf) 2
          ([UInt8.ofNat (c.toNat / 64 % 64 + 128), UInt8.ofNat (c.toNat % 64 + 128)] ++ rest) =
          .ok c.toNat := by
        rw [List.cons_append, List.singleton_append,
          continue?_step (by split <;> omega) (by split <;> omega) (by omega),
          continue?_step (by omega) (by omega) (by omega), continue?]
        exact congrArg Except.ok (by omega)
      exact ⟨_, decodeFrom_bytes position (by omega) (by omega) hl rfl rest hread⟩
  · next h1 h2 h3 =>
      have hl := lead?_four (a := c.toNat / 262144 % 8) (by omega)
      have hread : continue? (c.toNat / 262144 % 8) 1
          (if c.toNat / 262144 % 8 = 0 then 0x90 else 0x80)
          (if c.toNat / 262144 % 8 = 4 then 0x8f else 0xbf) 3
          ([UInt8.ofNat (c.toNat / 4096 % 64 + 128), UInt8.ofNat (c.toNat / 64 % 64 + 128),
            UInt8.ofNat (c.toNat % 64 + 128)] ++ rest) = .ok c.toNat := by
        rw [List.cons_append, List.cons_append, List.singleton_append,
          continue?_step (by split <;> omega) (by split <;> omega) (by omega),
          continue?_step (by omega) (by omega) (by omega),
          continue?_step (by omega) (by omega) (by omega), continue?]
        exact congrArg Except.ok (by omega)
      exact ⟨_, decodeFrom_bytes position (by omega) (by omega) hl rfl rest hread⟩

/-! ## §3. Texts. -/

/-- **A text that is stored as bytes comes back.** -/
theorem decode_encode (s : List Char) : decode (encode s) = .ok s := by
  -- The position only serves messages, so the induction lets it be any.
  have hfrom : ∀ position, decodeFrom position (encode s) = .ok s := by
    induction s with
    | nil =>
        intro position
        rw [encode, List.flatMap_nil, decodeFrom]
    | cons c s ih =>
        intro position
        obtain ⟨after, hafter⟩ := decodeFrom_encodeChar c position (encode s)
        rw [show encode (c :: s) = String.utf8EncodeChar c ++ encode s from List.flatMap_cons,
          hafter]
        unfold decodeOn
        rw [ih after]
        rfl
  exact hfrom 0

/-- A text without carriage returns stays as it is when its line ends are unified. -/
theorem unifyLineEnds_eq {s : List Char} (h : '\r' ∉ s) : unifyLineEnds s = s := by
  induction s with
  | nil => rfl
  | cons c s ih =>
      have hc : c ≠ '\r' := fun hc => h (by rw [hc]; exact List.mem_cons_self)
      have hs := ih (fun hmem => h (List.mem_cons_of_mem c hmem))
      rw [unifyLineEnds.eq_def]
      split
      · next heq => cases heq
      · next heq => exact absurd (List.cons.inj heq).1 hc
      · next d rest _ heq =>
          obtain ⟨rfl, rfl⟩ := List.cons.inj heq
          rw [if_neg hc, hs]

end Golden.Text.Utf8

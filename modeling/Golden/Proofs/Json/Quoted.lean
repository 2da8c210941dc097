/-
  Golden.Proofs.Json.Quoted
  ────────────────────────────────
  **TEXTS THAT ARE WRITTEN READ BACK.**

  What stands for a character is read as this character, whether it is the
  character itself, an escape by a letter or one by a number, and the quote
  that ends the text is none of them:

      readChars opening (s.flatMap escape ++ '"' :: rest)  =  ok (s, rest)

  Line ends are escaped, so a written text stays the same when line ends are
  unified.
-/
import Golden.Json.Reader
import Golden.Json.Writer

namespace Golden.Json

/-! ## §1. Escapes. -/

theorem hex_control : ∀ n < 32,
    Text.hex 4 n = ['0', '0', Nat.digitChar (n / 16), Nat.digitChar (n % 16)] := by
  decide

theorem hexValue?_digitChar : ∀ n < 16, hexValue? (Nat.digitChar n) = some n := by
  decide

theorem hex4?_control {n : Nat} (hn : n < 32) (rest : List Char) :
    hex4? (Text.hex 4 n ++ rest) = some n := by
  have hhigh := hexValue?_digitChar (n / 16) (by omega)
  have hlow := hexValue?_digitChar (n % 16) (by omega)
  have hzero : hexValue? '0' = some 0 := by decide
  rw [hex_control n hn]
  simp only [List.cons_append, List.nil_append, hex4?, hzero, hhigh, hlow]
  show some (((16 * 0 + 0) * 16 + n / 16) * 16 + n % 16) = some n
  congr 1
  omega

/-- The escape of a control character by its number is read as this character, provided that
something follows. -/
theorem readNumbered_control {n : Nat} (hn : n < 32) (letter : List Char) {rest : List Char}
    (hr : rest ≠ []) : readNumbered letter (Text.hex 4 n ++ rest) = .ok (Char.ofNat n, 5) := by
  have hlen : ¬ (Text.hex 4 n ++ rest).length < 5 := by
    have := List.length_pos_iff.mpr hr
    rw [hex_control n hn]
    simp only [List.cons_append, List.nil_append, List.length_cons]
    omega
  have hhigh : Text.Wide.isHighHalf n = false := by
    simp [Text.Wide.isHighHalf]
    omega
  have hunit : readUnit n = .ok (Char.ofNat n, 5) := by
    have hlow : Text.Wide.isLowHalf n = false := by
      simp [Text.Wide.isLowHalf]
      omega
    simp [readUnit, Text.Wide.charOf?, hhigh, hlow]
  unfold readNumbered
  rw [if_neg hlen, hex4?_control hn]
  simp only [hhigh, Bool.false_and, Bool.false_eq_true, if_false, hunit]

/-! ## §2. One character. -/

/-- The characters that a text goes on with, read after one more. -/
def readOn (c : Char) (opening rest : List Char) : Except Stop (List Char × List Char) := do
  let (cs, after) ← readChars opening rest
  pure (c :: cs, after)

theorem readChars_quote (opening rest : List Char) :
    readChars opening ('"' :: rest) = .ok ([], rest) := by
  rw [readChars]
  rfl

theorem readChars_plain (opening rest : List Char) {c : Char} (hq : c ≠ '"') (hb : c ≠ '\\')
    (hc : ¬ c.toNat < 32) : readChars opening (c :: rest) = readOn c opening rest := by
  rw [readChars, if_neg hq, if_neg hb, if_neg hc]
  rfl

theorem readChars_letter (opening rest : List Char) {letter c : Char} (hu : letter ≠ 'u')
    (h : simpleEscape? letter = some c) :
    readChars opening ('\\' :: letter :: rest) = readOn c opening rest := by
  rw [readChars, if_neg (by decide), if_pos rfl]
  simp only [readEscape, if_neg hu, h]
  rfl

theorem readChars_number (opening rest : List Char) {n : Nat} (hn : n < 32) (hr : rest ≠ []) :
    readChars opening ('\\' :: 'u' :: (Text.hex 4 n ++ rest)) =
      readOn (Char.ofNat n) opening rest := by
  have hdrop : ('u' :: (Text.hex 4 n ++ rest)).drop 5 = rest := by
    rw [hex_control n hn]
    rfl
  rw [readChars, if_neg (by decide), if_pos rfl]
  simp only [readEscape, if_pos, readNumbered_control hn _ hr]
  show (do
    let (cs, after) ← readChars opening (('u' :: (Text.hex 4 n ++ rest)).drop 5)
    pure (Char.ofNat n :: cs, after)) = _
  rw [hdrop]
  rfl

/-- What stands for a character is read as the character. -/
theorem readChars_escape (opening : List Char) (c : Char) {rest : List Char} (hr : rest ≠ []) :
    readChars opening (escape c ++ rest) = readOn c opening rest := by
  -- Seven characters have a letter, the other control characters a number, the rest stand for
  -- themselves.
  unfold escape
  split
  · next h => rw [h]; exact readChars_letter opening rest (by decide) (by decide)
  split
  · next h => rw [h]; exact readChars_letter opening rest (by decide) (by decide)
  split
  · next h => rw [h]; exact readChars_letter opening rest (by decide) (by decide)
  split
  · next h => rw [h]; exact readChars_letter opening rest (by decide) (by decide)
  split
  · next h => rw [h]; exact readChars_letter opening rest (by decide) (by decide)
  split
  · next h => rw [h]; exact readChars_letter opening rest (by decide) (by decide)
  split
  · next h => rw [h]; exact readChars_letter opening rest (by decide) (by decide)
  split
  · next h =>
      have hread := readChars_number opening rest h hr
      rw [Char.ofNat_toNat] at hread
      exact hread
  · next hq hb _ _ _ _ _ hc => exact readChars_plain opening rest hq hb hc

/-! ## §3. Texts. -/

/-- **A written text reads back.** -/
theorem readChars_quoted (opening s rest : List Char) :
    readChars opening (s.flatMap escape ++ '"' :: rest) = .ok (s, rest) := by
  induction s with
  | nil => exact readChars_quote opening rest
  | cons c s ih =>
      rw [List.flatMap_cons, List.append_assoc, readChars_escape opening c (by simp)]
      unfold readOn
      rw [ih]
      rfl

theorem return_notMem_escape (c : Char) : '\r' ∉ escape c := by
  unfold escape
  -- Only an escape by a number and a character that stands for itself depend on the character.
  repeat' split
  all_goals try decide
  · next h =>
      have hdigits : ∀ n < 32, '\r' ∉ '\\' :: 'u' :: Text.hex 4 n := by decide
      exact hdigits _ h
  · next h _ _ _ _ =>
      rw [List.mem_singleton]
      exact fun hc => h hc.symm

/-- A written text holds no carriage return. -/
theorem return_notMem_quoteChars (s : List Char) : '\r' ∉ quoteChars s := by
  intro h
  rcases List.mem_cons.mp h with h | h
  · cases h
  · rcases List.mem_append.mp h with h | h
    · obtain ⟨c, -, hc⟩ := List.mem_flatMap.mp h
      exact return_notMem_escape c hc
    · cases List.mem_singleton.mp h

end Golden.Json

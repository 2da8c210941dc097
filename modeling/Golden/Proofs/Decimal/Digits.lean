/-
  Golden.Proofs.Decimal.Digits
  ────────────────────────────────
  **STRINGS OF DIGITS.**

  A natural number is written without a leading zero, the digits write it
  back, zeros in front count nothing, and each zero behind them a factor of
  ten.  A span of digits ends where the digits end:

      natOf (digitsOf n)  =  n
      spanDigits (ds ++ rest)  =  (ds, rest)   if rest begins with no digit
-/
import Golden.Decimal.Read
import Golden.Decimal.Shortest

namespace Golden.Decimal

/-! ## §1. Numbers. -/

theorem natOf_eq (ds : List Char) : natOf ds = Nat.ofDigitChars 10 ds 0 := rfl

theorem natOf_digitsOf (n : Nat) : natOf (digitsOf n) = n := Nat.ofDigitChars_ten_toDigits

theorem natOf_append_zeros (ds : List Char) (j : Nat) :
    natOf (ds ++ List.replicate j '0') = natOf ds * tenTo j := by
  rw [natOf_eq, Nat.ofDigitChars_append, Nat.ofDigitChars_replicate_zero, Nat.mul_comm]
  rfl

theorem natOf_zeros_append (j : Nat) (ds : List Char) :
    natOf (List.replicate j '0' ++ ds) = natOf ds := by
  rw [natOf_eq, Nat.ofDigitChars_append, Nat.ofDigitChars_replicate_zero, Nat.mul_zero]
  rfl

/-! ## §2. Digits. -/

/-- Whether a string consists of digits. -/
def AllDigits (ds : List Char) : Prop := ∀ c ∈ ds, isDigit c = true

/-- Whether a text does not begin with a digit. -/
def NoDigit (s : List Char) : Prop := ∀ c ∈ s.head?, isDigit c = false

theorem isDigit_iff {c : Char} : isDigit c = true ↔ c.isDigit = true := by
  simp [isDigit, Char.isDigit, Char.le_def]

theorem allDigits_digitsOf (n : Nat) : AllDigits (digitsOf n) := by
  intro c hc
  exact isDigit_iff.mpr (Nat.isDigit_of_mem_toDigits (by decide) (by decide) hc)

theorem allDigits_zeros (j : Nat) : AllDigits (List.replicate j '0') := by
  intro c hc
  rw [List.eq_of_mem_replicate hc]
  decide

theorem AllDigits.append {ds es : List Char} (hd : AllDigits ds) (he : AllDigits es) :
    AllDigits (ds ++ es) := by
  intro c hc
  rcases List.mem_append.mp hc with h | h
  · exact hd c h
  · exact he c h

theorem digitsOf_ne_nil (n : Nat) : digitsOf n ≠ [] := Nat.toDigits_ne_nil

/-- A positive number is written without a leading zero. -/
theorem head_digitsOf {n : Nat} (hn : 0 < n) : (digitsOf n).head? ≠ some '0' := by
  have single : ∀ m < 10, 0 < m → m.digitChar ≠ '0' := by decide
  -- The leading digit of a number with several digits is that of its tenth.
  induction n using Nat.strongRecOn with
  | _ n ih =>
      by_cases hlt : n < 10
      · rw [digitsOf, Nat.toDigits_of_lt_base hlt]
        simpa using single n hlt hn
      · have hrest := ih (n / 10) (Nat.div_lt_self hn (by decide)) (by omega)
        rw [digitsOf, Nat.toDigits_of_base_le (by decide) (by omega)]
        cases hds : Nat.toDigits 10 (n / 10) with
        | nil => exact absurd hds Nat.toDigits_ne_nil
        | cons c cs =>
            rw [digitsOf, hds] at hrest
            exact hrest

/-! ## §3. Spans. -/

/-- What passes a test is taken off up to the first character that does not. -/
theorem takeWhile_dropWhile_append {test : Char → Bool} {cs rest : List Char}
    (hcs : ∀ c ∈ cs, test c = true) (hr : ∀ c ∈ rest.head?, test c = false) :
    (cs ++ rest).takeWhile test = cs ∧ (cs ++ rest).dropWhile test = rest := by
  rw [List.takeWhile_append_of_pos hcs, List.dropWhile_append_of_pos hcs]
  cases rest with
  | nil => simp
  | cons c rest =>
      have hc : test c = false := hr c rfl
      rw [List.takeWhile_cons_of_neg (by simp [hc]), List.dropWhile_cons_of_neg (by simp [hc]),
        List.append_nil]
      exact ⟨rfl, rfl⟩

theorem spanDigits_append {ds rest : List Char} (hd : AllDigits ds) (hr : NoDigit rest) :
    spanDigits (ds ++ rest) = (ds, rest) := by
  obtain ⟨htake, hdrop⟩ := takeWhile_dropWhile_append hd hr
  rw [spanDigits, htake, hdrop]

end Golden.Decimal

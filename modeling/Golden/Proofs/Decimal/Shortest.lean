/-
  Golden.Proofs.Decimal.Shortest
  ────────────────────────────────
  **SHORTEST DECIMALS READ BACK.**

  Whatever grid the search ends on, and also where it ends on the full
  expansion, the decimal that it gives is one whose nearest double is the one
  it was searched for; and so is the one without trailing zeros:

      ofDecimal? (shortest x).1 (shortest x).2  =  some x
-/
import Mathlib.Data.List.TakeWhile
import Golden.Proofs.Decimal.Digits
import Golden.Proofs.Decimal.Rounding

namespace Golden.Decimal

/-! ## §1. The search. -/

/-- What a grid offers reads back, since nothing else is offered. -/
theorem atGrid?_reads {x : Magnitude} {k : Int} {d : Nat} (h : atGrid? x k = some d) :
    Magnitude.ofDecimal? d k = some x := by
  unfold atGrid? at h
  -- How the grid lies does not matter: each candidate is tried before it is offered.
  generalize gridBelow x.ratio.1 x.ratio.2 k = grid at h
  obtain ⟨low, side⟩ := grid
  simp only at h
  split at h
  · next hlow hhigh =>
      split at h
      · rw [← Option.some.inj h]
        exact eq_of_beq hlow
      · rw [← Option.some.inj h]
        exact eq_of_beq hhigh
      · rw [← Option.some.inj h]
        split
        · exact eq_of_beq hlow
        · exact eq_of_beq hhigh
  · next hlow _ =>
      rw [← Option.some.inj h]
      exact eq_of_beq hlow
  · next _ hhigh =>
      rw [← Option.some.inj h]
      exact eq_of_beq hhigh
  · cases h

/-- The full expansion is exact. -/
theorem expansion_reads (x : Magnitude) :
    Magnitude.ofDecimal? (expansion x).1 (expansion x).2 = some x := by
  rw [Magnitude.ofDecimal?_eq, ← Magnitude.ofRatio?_ratio x]
  refine Magnitude.ofRatio?_congr (tenTo_pos _) x.ratio_den_pos ?_
  unfold expansion Magnitude.ratio
  by_cases h : 0 ≤ x.exponent
  · have hneg : (-x.exponent).toNat = 0 := by omega
    rw [if_pos h]
    simp [hneg, tenTo, twoTo]
  · have hpos : x.exponent.toNat = 0 := by omega
    rw [if_neg h]
    simp only [hpos, tenTo, twoTo, Nat.pow_eq, pow_zero, mul_one]
    rw [mul_assoc, ← mul_pow, show 5 * 2 = 10 by norm_num]

theorem search_reads (x : Magnitude) (point : Int) (count left : Nat) :
    Magnitude.ofDecimal? (search x point count left).1 (search x point count left).2 =
      some x := by
  -- Every round of the search ends in what reads back or goes on to a finer grid.
  induction left generalizing count with
  | zero => exact expansion_reads x
  | succ left ih =>
      unfold search
      split
      · next d h => exact atGrid?_reads h
      · exact ih (count + 1)

/-- **The shortest decimal of a double reads back as the double.** -/
theorem shortest_reads (x : Magnitude) :
    Magnitude.ofDecimal? (shortest x).1 (shortest x).2 = some x := search_reads x _ 1 17

/-! ## §2. The digits without trailing zeros. -/

/-- A string of digits without the zeros at its end, and these zeros. -/
theorem strip_zeros (ds : List Char) :
    ∃ j, ds = (ds.reverse.dropWhile (· == '0')).reverse ++ List.replicate j '0' := by
  refine ⟨(ds.reverse.takeWhile (· == '0')).length, ?_⟩
  have hzeros : ds.reverse.takeWhile (· == '0') =
      List.replicate (ds.reverse.takeWhile (· == '0')).length '0' :=
    List.eq_replicate_of_mem (fun c hc => by simpa using List.mem_takeWhile_imp hc)
  have hsplit : ds.reverse.takeWhile (· == '0') ++ ds.reverse.dropWhile (· == '0') = ds.reverse :=
    List.takeWhile_append_dropWhile
  rw [← List.reverse_replicate, ← hzeros, ← List.reverse_append, hsplit, List.reverse_reverse]

/-- The figures of a double other than zero: digits, the first of them no zero, that read back as
the double at the place of the point. -/
structure Figures (x : Magnitude) (ds : List Char) (point : Int) : Prop where
  digits : AllDigits ds
  nonempty : ds ≠ []
  leading : ds.head? ≠ some '0'
  reads : Magnitude.ofDecimal? (natOf ds) (point - ds.length) = some x

theorem figures_spec {x : Magnitude} (hx : x.significand ≠ 0) :
    Figures x (figures x).1 (figures x).2 := by
  have hreads := shortest_reads x
  unfold figures
  generalize shortest x = dk at hreads ⊢
  obtain ⟨d, k⟩ := dk
  simp only at hreads ⊢
  have hd : 0 < d := by
    refine Nat.pos_of_ne_zero (fun h => hx ?_)
    rw [h, Magnitude.ofDecimal?_zero, Option.some.injEq] at hreads
    rw [← hreads]
    rfl
  obtain ⟨j, hj⟩ := strip_zeros (digitsOf d)
  generalize hds : ((digitsOf d).reverse.dropWhile (· == '0')).reverse = ds at hj ⊢
  have hnat : natOf ds * tenTo j = d := by
    rw [← natOf_append_zeros, ← hj, natOf_digitsOf]
  -- Stripping cannot take all digits: the number is not zero.
  have hne : ds ≠ [] := by
    rintro rfl
    rw [natOf_eq] at hnat
    simp at hnat
    omega
  refine ⟨?_, hne, ?_, ?_⟩
  · intro c hc
    exact allDigits_digitsOf d c (by rw [hj]; exact List.mem_append_left _ hc)
  · have hhead := head_digitsOf hd
    rw [hj] at hhead
    cases ds with
    | nil => exact absurd rfl hne
    | cons c cs => exact hhead
  -- Each zero that was stripped moves into the exponent.
  · have hlen : ((digitsOf d).length : Int) + k - ds.length = k + j := by
      rw [hj, List.length_append, List.length_replicate]
      omega
    rw [hlen, ← Magnitude.ofDecimal?_mul_tenTo, hnat, hreads]

end Golden.Decimal

/-
  Golden.Proofs.Json.Number
  ────────────────────────────────
  **NUMBERS THAT ARE WRITTEN READ BACK.**

  The reader takes as much of a text as belongs to a number.  Behind a written
  number stands a comma, a line feed or nothing, so it takes exactly the
  number: an integer comes back as the same integer and a double as the same
  double, the sign of zero included.

      readScalar (finiteText s x ++ rest)  =  ok (finite s x, rest)
-/
import Golden.Json.Reader
import Golden.Json.Writer
import Golden.Proofs.Decimal.Shortest

namespace Golden.Json

open Decimal

/-! ## §1. What stands behind a value. -/

/-- Whether a text ends or goes on behind a value on the same level. -/
def Ends (rest : List Char) : Prop := ∀ c ∈ rest.head?, c = ',' ∨ c = '\n'

theorem Ends.noDigit {rest : List Char} (h : Ends rest) : NoDigit rest := by
  intro c hc
  rcases h c hc with rfl | rfl <;> decide

/-- Behind a value stands no character with a part in numbers. -/
theorem Ends.head_ne {rest : List Char} (h : Ends rest) {c : Char} (hc : c ≠ ',')
    (hc' : c ≠ '\n') : rest.head? ≠ some c := by
  intro hhead
  rcases h c hhead with h | h
  · exact hc h
  · exact hc' h

/-! ## §2. The parts of a number. -/

/-- Whether a string can stand before the point of a number. -/
structure Whole (ds : List Char) : Prop where
  digits : AllDigits ds
  nonempty : ds ≠ []
  leading : ds = ['0'] ∨ ds.head? ≠ some '0'

theorem whole_zero : Whole ['0'] := ⟨allDigits_zeros 1, by decide, Or.inl rfl⟩

theorem whole_digitsOf (n : Nat) : Whole (digitsOf n) := by
  refine ⟨allDigits_digitsOf n, digitsOf_ne_nil n, ?_⟩
  rcases Nat.eq_zero_or_pos n with rfl | hn
  · exact Or.inl rfl
  · exact Or.inr (head_digitsOf hn)

theorem spanWhole_append {ds rest : List Char} (hw : Whole ds) (hr : NoDigit rest) :
    spanWhole (ds ++ rest) = (ds, rest) := by
  rcases hw.leading with rfl | hhead
  · rfl
  · cases ds with
    | nil => exact absurd rfl hw.nonempty
    | cons c cs =>
        have hc : c ≠ '0' := fun h => hhead (by rw [h]; rfl)
        show (if c = '0' then _ else spanDigits (c :: (cs ++ rest))) = _
        rw [if_neg hc, ← List.cons_append, spanDigits_append hw.digits hr]

theorem spanFraction_of_ne {s : List Char} (h : s.head? ≠ some '.') : spanFraction s = ([], s) := by
  unfold spanFraction
  split
  · exact absurd rfl h
  · rfl

theorem spanFraction_append {ds rest : List Char} (hd : AllDigits ds) (hne : ds ≠ [])
    (hr : NoDigit rest) : spanFraction ('.' :: (ds ++ rest)) = (ds, rest) := by
  have hempty : ds.isEmpty = false := by simpa using hne
  simp only [spanFraction, spanDigits_append hd hr, hempty, Bool.false_eq_true, if_false]

theorem spanExponent_of_ne {s : List Char} (h : s.head? ≠ some 'e') (h' : s.head? ≠ some 'E') :
    spanExponent s = (none, s) := by
  cases s with
  | nil => rfl
  | cons c rest =>
      simp only [List.head?_cons, ne_eq, Option.some.injEq] at h h'
      simp [spanExponent, h, h']

/-- The digits of an exponent, at least two of them. -/
def exponentDigits (e : Int) : List Char :=
  if (digitsOf e.natAbs).length < 2 then '0' :: digitsOf e.natAbs else digitsOf e.natAbs

theorem natOf_exponentDigits (e : Int) : natOf (exponentDigits e) = e.natAbs := by
  unfold exponentDigits
  split
  · exact (natOf_zeros_append 1 _).trans (natOf_digitsOf _)
  · exact natOf_digitsOf _

theorem allDigits_exponentDigits (e : Int) : AllDigits (exponentDigits e) := by
  unfold exponentDigits
  split
  · exact (allDigits_zeros 1).append (allDigits_digitsOf _)
  · exact allDigits_digitsOf _

theorem exponentDigits_ne_nil (e : Int) : exponentDigits e ≠ [] := by
  unfold exponentDigits
  split
  · exact List.cons_ne_nil _ _
  · exact digitsOf_ne_nil _

/-- An exponent reads back. -/
theorem spanExponent_append (e : Int) {rest : List Char} (hr : NoDigit rest) :
    spanExponent (exponentText e ++ rest) = (some e, rest) := by
  have hspan := spanDigits_append (allDigits_exponentDigits e) hr
  have hempty : (exponentDigits e).isEmpty = false := by simpa using exponentDigits_ne_nil e
  have htext : exponentText e = 'e' :: (if e < 0 then '-' else '+') :: exponentDigits e := rfl
  rw [htext]
  by_cases he : e < 0
  · rw [if_pos he]
    simp [spanExponent, sign, hspan, hempty, natOf_exponentDigits, abs_of_neg he]
  · rw [if_neg he]
    simp [spanExponent, sign, hspan, hempty, natOf_exponentDigits, abs_of_nonneg (not_lt.mp he)]

/-! ## §3. Numbers. -/

theorem readNumber_int (start : List Char) (negative : Bool) {ds rest : List Char} (hw : Whole ds)
    (hlen : ds.length ≤ maxIntDigits) (hr : Ends rest) :
    readNumber start negative (ds ++ rest) =
      .ok (.int (if negative then -(natOf ds : Int) else natOf ds), rest) := by
  have hempty : ds.isEmpty = false := by simpa using hw.nonempty
  -- Behind the digits stands no point and no exponent.
  have hfraction := spanFraction_of_ne (hr.head_ne (c := '.') (by decide) (by decide))
  have hexponent := spanExponent_of_ne (hr.head_ne (c := 'e') (by decide) (by decide))
    (hr.head_ne (c := 'E') (by decide) (by decide))
  simp only [readNumber, spanWhole_append hw hr.noDigit, hfraction, hexponent, hempty,
    Bool.false_eq_true, if_false, List.isEmpty_nil, Option.isNone_none, Bool.and_self, if_true]
  rw [if_neg (Nat.not_lt.mpr hlen)]

/-- A double whose digits, in front of the point and behind it, read back as it. -/
theorem ofParts_eq {x : Magnitude} {whole fraction : List Char} {e : Int} (negative : Bool)
    (h : Magnitude.ofDecimal? (natOf (whole ++ fraction)) (e - fraction.length) = some x) :
    ofParts negative whole fraction e = .finite negative x := by
  unfold ofParts Double.ofDecimal
  rw [h]
  rfl

theorem readNumber_point (start : List Char) (negative : Bool) {x : Magnitude}
    {whole fraction rest : List Char} (hw : Whole whole) (hd : AllDigits fraction)
    (hne : fraction ≠ []) (hr : Ends rest)
    (h : Magnitude.ofDecimal? (natOf (whole ++ fraction)) (-fraction.length) = some x) :
    readNumber start negative (whole ++ '.' :: (fraction ++ rest)) =
      .ok (.float (.finite negative x), rest) := by
  have hempty : whole.isEmpty = false := by simpa using hw.nonempty
  have hempty' : fraction.isEmpty = false := by simpa using hne
  have hdot : NoDigit ('.' :: (fraction ++ rest)) := by
    intro c hc
    rw [← Option.some.inj hc]
    decide
  have hexponent := spanExponent_of_ne (hr.head_ne (c := 'e') (by decide) (by decide))
    (hr.head_ne (c := 'E') (by decide) (by decide))
  have hparts : ofParts negative whole fraction 0 = .finite negative x :=
    ofParts_eq negative (by rw [Int.zero_sub]; exact h)
  simp only [readNumber, spanWhole_append hw hdot, spanFraction_append hd hne hr.noDigit,
    hexponent, hempty, hempty', Bool.false_eq_true, if_false, Bool.false_and, Option.getD_none,
    hparts]

/-- A number with an exponent; in the middle stands its fraction with the point, or nothing. -/
theorem readNumber_exponent (start : List Char) (negative : Bool) (middle : List Char)
    {x : Magnitude} {whole fraction rest : List Char} {e : Int} (hw : Whole whole)
    (hspan : ∀ rest, NoDigit rest → rest.head? ≠ some '.' →
      NoDigit (middle ++ rest) ∧ spanFraction (middle ++ rest) = (fraction, rest))
    (hr : Ends rest)
    (h : Magnitude.ofDecimal? (natOf (whole ++ fraction)) (e - fraction.length) = some x) :
    readNumber start negative (whole ++ (middle ++ (exponentText e ++ rest))) =
      .ok (.float (.finite negative x), rest) := by
  have hempty : whole.isEmpty = false := by simpa using hw.nonempty
  have hmark : NoDigit (exponentText e ++ rest) := by
    intro c hc
    rw [← Option.some.inj hc]
    decide
  have hdot : (exponentText e ++ rest).head? ≠ some '.' := by
    intro hc
    cases hc
  obtain ⟨hmiddle, hfraction⟩ := hspan _ hmark hdot
  simp only [readNumber, spanWhole_append hw hmiddle, hfraction,
    spanExponent_append e hr.noDigit, hempty, Bool.false_eq_true, if_false, Option.isNone_some,
    Bool.and_false, Option.getD_some, ofParts_eq negative h]

/-! ## §4. Layouts. -/

section Layouts

variable (start : List Char) (negative : Bool) {x : Magnitude} {ds : List Char} {point : Int}
  (h : Figures x ds point) {rest : List Char} (hr : Ends rest)

include h hr

/-- Where the point stands before the digits they are a fraction, with zeros in front. -/
theorem readNumber_pointBefore (hpoint : point ≤ 0) :
    readNumber start negative ('0' :: '.' :: (List.replicate (-point).toNat '0' ++ ds) ++ rest) =
      .ok (.float (.finite negative x), rest) := by
  have hreads : Magnitude.ofDecimal? (natOf (['0'] ++ (List.replicate (-point).toNat '0' ++ ds)))
      (-((List.replicate (-point).toNat '0' ++ ds).length : Int)) = some x := by
    rw [show ['0'] = List.replicate 1 '0' from rfl, natOf_zeros_append, natOf_zeros_append,
      List.length_append, List.length_replicate, ← h.reads]
    congr 1
    omega
  exact readNumber_point start negative whole_zero ((allDigits_zeros _).append h.digits)
    (by simp [h.nonempty]) hr hreads

/-- Where the point stands behind the digits zeros fill up to it. -/
theorem readNumber_pointBehind (hpoint : (ds.length : Int) ≤ point) :
    readNumber start negative
        (ds ++ List.replicate (point - ds.length).toNat '0' ++ ['.', '0'] ++ rest) =
      .ok (.float (.finite negative x), rest) := by
  have hwhole : Whole (ds ++ List.replicate (point - ds.length).toNat '0') := by
    refine ⟨h.digits.append (allDigits_zeros _), by simp [h.nonempty], Or.inr ?_⟩
    rw [List.head?_append_of_ne_nil ds h.nonempty]
    exact h.leading
  -- The zeros behind the digits count as tens in the number, and against the point.
  have hreads : Magnitude.ofDecimal?
      (natOf (ds ++ List.replicate (point - ds.length).toNat '0' ++ ['0']))
      (-((['0'] : List Char).length : Int)) = some x := by
    rw [List.append_assoc, show ['0'] = List.replicate 1 '0' from rfl,
      List.replicate_append_replicate, natOf_append_zeros, Magnitude.ofDecimal?_mul_tenTo,
      ← h.reads]
    congr 1
    simp only [List.length_replicate]
    omega
  have happend : ds ++ List.replicate (point - ds.length).toNat '0' ++ ['.', '0'] ++ rest =
      (ds ++ List.replicate (point - ds.length).toNat '0') ++ '.' :: (['0'] ++ rest) := by
    simp
  rw [happend]
  exact readNumber_point start negative hwhole (allDigits_zeros 1) (by decide) hr hreads

/-- The point may stand among the digits. -/
theorem readNumber_pointAmong (hlow : 0 < point) (hhigh : point < ds.length) :
    readNumber start negative (ds.take point.toNat ++ '.' :: ds.drop point.toNat ++ rest) =
      .ok (.float (.finite negative x), rest) := by
  have hwhole : Whole (ds.take point.toNat) := by
    refine ⟨fun c hc => h.digits c (List.mem_of_mem_take hc), ?_, Or.inr ?_⟩
    · rw [ne_eq, List.take_eq_nil_iff]
      rintro (hzero | hnil)
      · omega
      · exact h.nonempty hnil
    · rw [List.head?_take, if_neg (by omega)]
      exact h.leading
  have hne : ds.drop point.toNat ≠ [] := by
    rw [ne_eq, List.drop_eq_nil_iff]
    omega
  have hreads : Magnitude.ofDecimal? (natOf (ds.take point.toNat ++ ds.drop point.toNat))
      (-((ds.drop point.toNat).length : Int)) = some x := by
    rw [List.take_append_drop, ← h.reads]
    congr 1
    rw [List.length_drop]
    omega
  rw [List.append_assoc, List.cons_append]
  exact readNumber_point start negative hwhole
    (fun c hc => h.digits c (List.mem_of_mem_drop hc)) hne hr hreads

/-- Digits with an exponent have the point behind the first, where there are more. -/
theorem readNumber_scientific (hpoint : ¬ (-4 ≤ point - 1 ∧ point - 1 < 16)) :
    readNumber start negative (layout ds point ++ rest) =
      .ok (.float (.finite negative x), rest) := by
  unfold layout
  simp only
  rw [if_neg hpoint]
  cases ds with
  | nil => exact absurd rfl h.nonempty
  | cons d more =>
      have hwhole : Whole [d] := by
        refine ⟨fun c hc => h.digits c ?_, by simp, Or.inr h.leading⟩
        rw [List.mem_singleton.mp hc]
        exact List.mem_cons_self
      have hreads : Magnitude.ofDecimal? (natOf ([d] ++ more)) (point - 1 - more.length) =
          some x := by
        rw [← h.reads]
        congr 1
        rw [List.length_cons]
        omega
      -- One digit stands alone, without a point.
      cases more with
      | nil =>
          exact readNumber_exponent start negative [] hwhole
            (fun rest hrest hdot => ⟨hrest, spanFraction_of_ne hdot⟩) hr hreads
      | cons e more =>
          have hd : AllDigits (e :: more) := fun c hc => h.digits c (List.mem_cons_of_mem d hc)
          have hmiddle : ∀ rest, NoDigit rest → rest.head? ≠ some '.' →
              NoDigit (('.' :: e :: more) ++ rest) ∧
                spanFraction (('.' :: e :: more) ++ rest) = (e :: more, rest) := by
            intro rest hrest _
            refine ⟨fun c hc => ?_, spanFraction_append hd (by simp) hrest⟩
            rw [← Option.some.inj hc]
            decide
          have hread := readNumber_exponent start negative _ hwhole hmiddle hr hreads
          simpa using hread

/-- **Every layout of the figures of a double reads back as the double.** -/
theorem readNumber_layout :
    readNumber start negative (layout ds point ++ rest) =
      .ok (.float (.finite negative x), rest) := by
  by_cases hpoint : -4 ≤ point - 1 ∧ point - 1 < 16
  · unfold layout
    simp only
    rw [if_pos hpoint]
    split
    · next hbefore => exact readNumber_pointBefore start negative h hr hbefore
    · split
      · next hbehind => exact readNumber_pointBehind start negative h hr hbehind
      · exact readNumber_pointAmong start negative h hr (by omega) (by omega)
  · exact readNumber_scientific start negative h hr hpoint

end Layouts

/-! ## §5. Scalars. -/

theorem words_eq : words = [
    (['n', 'u', 'l', 'l'], .null), (['t', 'r', 'u', 'e'], .bool true),
    (['f', 'a', 'l', 's', 'e'], .bool false), (['N', 'a', 'N'], .float .nan),
    (['I', 'n', 'f', 'i', 'n', 'i', 't', 'y'], .float (.infinite false)),
    (['-', 'I', 'n', 'f', 'i', 'n', 'i', 't', 'y'], .float (.infinite true))] := rfl

/-- A digit, with a sign or without, begins no word. -/
theorem readScalar_digit {c : Char} (hc : isDigit c = true) (s : List Char) :
    readScalar (c :: s) = readNumber (c :: s) false (c :: s) ∧
      readScalar ('-' :: c :: s) = readNumber ('-' :: c :: s) true (c :: s) := by
  -- Each word begins with a letter, or with a sign and a letter.
  have hne : ∀ k : Char, isDigit k = false → ¬ k = c := by
    rintro k hk rfl
    rw [hc] at hk
    cases hk
  have hn := hne 'n' (by decide)
  have ht := hne 't' (by decide)
  have hf := hne 'f' (by decide)
  have hN := hne 'N' (by decide)
  have hI := hne 'I' (by decide)
  have hm := hne '-' (by decide)
  have hfind : words.find? (fun w => w.1.isPrefixOf (c :: s)) = none := by
    simp [words_eq, List.isPrefixOf, hn, ht, hf, hN, hI, hm]
  have hfind' : words.find? (fun w => w.1.isPrefixOf ('-' :: c :: s)) = none := by
    simp [words_eq, List.isPrefixOf, hI]
  constructor
  · simp only [readScalar, hfind]
    split
    · next hhead => exact absurd (List.cons.inj hhead).1.symm hm
    · rfl
  · simp only [readScalar, hfind']

/-- A signed number reads as the unsigned one with its sign. -/
theorem readScalar_signed {negative : Bool} {body rest : List Char} {v : Value}
    (hd : ∃ c s, body = c :: s ∧ isDigit c = true)
    (h : ∀ start, readNumber start negative (body ++ rest) = .ok (v, rest)) :
    readScalar ((if negative then '-' :: body else body) ++ rest) = .ok (v, rest) := by
  obtain ⟨c, s, rfl, hc⟩ := hd
  cases negative with
  | true => exact (readScalar_digit hc (s ++ rest)).2.trans (h _)
  | false => exact (readScalar_digit hc (s ++ rest)).1.trans (h _)

theorem length_digitsOf_le_iff {n k : Nat} (hk : 0 < k) :
    (digitsOf n).length ≤ k ↔ n < tenTo k :=
  Nat.length_toDigits_le_iff (by decide) hk

/-- An integer with a text has not too many digits to be read. -/
theorem length_digitsOf_le {n : Int} (h : intFits n = true) :
    (digitsOf n.natAbs).length ≤ maxIntDigits := by
  exact (length_digitsOf_le_iff (by decide)).mpr (of_decide_eq_true h)

theorem toList_intText (n : Int) : (intText n).toList =
    if decide (n < 0) then '-' :: digitsOf n.natAbs else digitsOf n.natAbs := by
  unfold intText
  simp

theorem digitsOf_eq_cons (n : Nat) : ∃ c s, digitsOf n = c :: s ∧ isDigit c = true := by
  cases h : digitsOf n with
  | nil => exact absurd h (digitsOf_ne_nil n)
  | cons c s => exact ⟨c, s, rfl, allDigits_digitsOf n c (by rw [h]; exact List.mem_cons_self)⟩

/-- **An integer reads back.** -/
theorem readScalar_int {n : Int} (hn : intFits n = true) {rest : List Char} (hr : Ends rest) :
    readScalar ((intText n).toList ++ rest) = .ok (.int n, rest) := by
  have hvalue : (if decide (n < 0) = true then -(natOf (digitsOf n.natAbs) : Int)
      else natOf (digitsOf n.natAbs)) = n := by
    rw [natOf_digitsOf]
    by_cases h : n < 0
    · rw [if_pos (decide_eq_true h)]
      omega
    · rw [if_neg (by simpa using h)]
      omega
  rw [toList_intText]
  refine readScalar_signed (digitsOf_eq_cons _) (fun start => ?_)
  rw [readNumber_int start _ (whole_digitsOf _) (length_digitsOf_le hn) hr, hvalue]

/-- The text of a double begins with a digit. -/
theorem layout_eq_cons {x : Magnitude} {ds : List Char} {point : Int} (h : Figures x ds point) :
    ∃ c s, layout ds point = c :: s ∧ isDigit c = true := by
  cases ds with
  | nil => exact absurd rfl h.nonempty
  | cons d more =>
      have hd : isDigit d = true := h.digits d List.mem_cons_self
      unfold layout
      simp only
      split
      · split
        · exact ⟨'0', _, rfl, by decide⟩
        · split
          · exact ⟨d, _, rfl, hd⟩
          · next hpos _ =>
              obtain ⟨n, hn⟩ : ∃ n, point.toNat = n + 1 := ⟨point.toNat - 1, by omega⟩
              rw [hn]
              exact ⟨d, _, rfl, hd⟩
      · cases more with
        | nil => exact ⟨d, _, rfl, hd⟩
        | cons e more => exact ⟨d, _, rfl, hd⟩

/-- **A finite double reads back, the sign of zero included.** -/
theorem readScalar_finite (negative : Bool) (x : Magnitude) {rest : List Char} (hr : Ends rest) :
    readScalar ((finiteText negative x).toList ++ rest) =
      .ok (.float (.finite negative x), rest) := by
  unfold finiteText
  simp only [String.toList_ofList]
  by_cases hx : x.significand = 0
  -- Zero has no figures and a text of its own.
  · have hzero : Magnitude.ofDecimal? (natOf (['0'] ++ ['0'])) (-((['0'] : List Char).length : Int)) =
        some x := by
      rw [← Magnitude.ofRatio?_ratio x]
      unfold Magnitude.ratio
      rw [hx, Nat.zero_mul]
      rfl
    rw [if_pos hx]
    refine readScalar_signed ⟨'0', _, rfl, by decide⟩ (fun start => ?_)
    exact readNumber_point start negative whole_zero (allDigits_zeros 1) (by decide) hr hzero
  · have hfigures := figures_spec hx
    rw [if_neg hx]
    exact readScalar_signed (layout_eq_cons hfigures)
      (fun start => readNumber_layout start negative hfigures hr)

/-- **A double reads back**, the infinities and not-a-number by their words. -/
theorem readScalar_double (x : Double) {rest : List Char} (hr : Ends rest) :
    readScalar ((doubleText x).toList ++ rest) = .ok (.float x, rest) := by
  cases x with
  | finite negative m => exact readScalar_finite negative m hr
  | infinite negative => cases negative <;> rfl
  | nan => rfl

/-! ## §6. Characters of numbers. -/

/-- Whether a character occurs in numbers. -/
def isNumeric (c : Char) : Bool := isDigit c || ['.', 'e', '+', '-'].contains c

theorem isNumeric_of_allDigits {ds : List Char} (h : AllDigits ds) :
    ∀ c ∈ ds, isNumeric c = true := by
  intro c hc
  simp [isNumeric, h c hc]

theorem isNumeric_exponentText (e : Int) : ∀ c ∈ exponentText e, isNumeric c = true := by
  have htext : exponentText e = 'e' :: (if e < 0 then '-' else '+') :: exponentDigits e := rfl
  rw [htext]
  intro c hc
  rcases List.mem_cons.mp hc with rfl | hc
  · decide
  · rcases List.mem_cons.mp hc with rfl | hc
    · split <;> decide
    · exact isNumeric_of_allDigits (allDigits_exponentDigits e) c hc

theorem isNumeric_layout {ds : List Char} (h : AllDigits ds) (point : Int) :
    ∀ c ∈ layout ds point, isNumeric c = true := by
  have hds := isNumeric_of_allDigits h
  have hzeros : ∀ j, ∀ c ∈ List.replicate j '0', isNumeric c = true :=
    fun j => isNumeric_of_allDigits (allDigits_zeros j)
  -- By the place of the point: before the digits, behind them, among them, or with an exponent.
  intro c hc
  unfold layout at hc
  simp only at hc
  split at hc
  · split at hc
    · simp only [List.mem_cons, List.mem_append] at hc
      rcases hc with rfl | rfl | hc | hc
      · decide
      · decide
      · exact hzeros _ c hc
      · exact hds c hc
    · split at hc
      · simp only [List.mem_append, List.mem_cons, List.not_mem_nil, or_false] at hc
        rcases hc with (hc | hc) | rfl | rfl
        · exact hds c hc
        · exact hzeros _ c hc
        · decide
        · decide
      · rcases List.mem_append.mp hc with hc | hc
        · exact hds c (List.mem_of_mem_take hc)
        · rcases List.mem_cons.mp hc with rfl | hc
          · decide
          · exact hds c (List.mem_of_mem_drop hc)
  · rcases List.mem_append.mp hc with hc | hc
    · split at hc
      · simp only [List.mem_cons] at hc
        rcases hc with rfl | rfl | hc
        · exact hds _ List.mem_cons_self
        · decide
        · exact hds c (List.mem_cons_of_mem _ (List.mem_cons.mpr hc))
      · exact hds c hc
    · exact isNumeric_exponentText _ c hc

theorem isNumeric_signed {negative : Bool} {body : List Char}
    (h : ∀ c ∈ body, isNumeric c = true) :
    ∀ c ∈ (if negative then '-' :: body else body), isNumeric c = true := by
  intro c hc
  cases negative with
  | true =>
      rcases List.mem_cons.mp hc with rfl | hc
      · decide
      · exact h c hc
  | false => exact h c hc

theorem isNumeric_intText (n : Int) : ∀ c ∈ (intText n).toList, isNumeric c = true := by
  rw [toList_intText]
  exact isNumeric_signed (isNumeric_of_allDigits (allDigits_digitsOf _))

theorem isNumeric_finiteText (negative : Bool) (x : Magnitude) :
    ∀ c ∈ (finiteText negative x).toList, isNumeric c = true := by
  unfold finiteText
  simp only [String.toList_ofList]
  refine isNumeric_signed ?_
  by_cases hx : x.significand = 0
  · rw [if_pos hx]
    exact List.all_eq_true.mp rfl
  · rw [if_neg hx]
    exact isNumeric_layout (figures_spec hx).digits _

end Golden.Json

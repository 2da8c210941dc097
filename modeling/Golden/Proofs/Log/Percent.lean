/-
  Golden.Proofs.Log.Percent
  ────────────────────────────────
  **WHAT A TEXT IN FRONT OF A PATTERN DOES TO IT.**

  Conversions are read in a text that stands in front of a pattern as well as
  in the pattern.  Each of them takes an argument that the pattern then lacks,
  so the only percent signs that such a text may hold are those that stand side
  by side in pairs, and of each pair one is left:

      fill (lead ++ " | " ++ pattern) args  =  ok line
        ↔   lead = doubled plain   and   line = plain ++ " | " ++ words

  How much of a pattern a conversion takes, and how many arguments, is decided
  by the pattern alone; this is what makes a missing argument show.
-/
import Mathlib.Data.List.TakeWhile
import Golden.Log
import Golden.Proofs.World.Steps

namespace Golden.Log

/-! ## §1. Patterns as a relation. -/

/-- What a text with its arguments is read as. -/
inductive Reads : List Char → List Argument → List Piece → Prop
  | nil : Reads [] [] []
  | literal {c : Char} {s : List Char} {args : List Argument} {ps : List Piece} (hc : c ≠ '%')
      (hs : Reads s args ps) : Reads (c :: s) args (.literal c :: ps)
  | percent {s : List Char} {args : List Argument} {ps : List Piece} (hs : Reads s args ps) :
      Reads ('%' :: '%' :: s) args (.literal '%' :: ps)
  | conversion {s after : List Char} {args taken left : List Argument} {c : Conversion}
      {p : Piece} {ps : List Piece} (hs : s.head? ≠ some '%')
      (hread : readConversion s args = .ok (c, after, taken))
      (htake : c.take taken = .ok (p, left)) (hafter : Reads after left ps) :
      Reads ('%' :: s) args (p :: ps)

/-! ## §2. What a conversion takes. -/

/-- Whether a reader takes so much of a text and so many arguments, whatever the arguments are.  No
reader takes a bar. -/
structure Takes {α : Type}
    (read : List Char → List Argument → Except Fault (α × List Char × List Argument))
    (s used rest : List Char) (count : Nat) : Prop where
  parts : s = used ++ rest
  bar : '|' ∉ used
  result : ∀ {args left : List Argument} {x : α} {r : List Char},
    read s args = .ok (x, r, left) → r = rest ∧ args.length = left.length + count

theorem takes_readNumber (most : Nat) (s : List Char) :
    ∃ used rest count, Takes (readNumber most) s used rest count := by
  by_cases hstar : s.head? = some '*'
  · -- A star takes itself and one argument.
    obtain ⟨rest, rfl⟩ := List.head?_eq_some_iff.mp hstar
    refine ⟨['*'], rest, 1, rfl, by decide, fun {args left x r} h => ?_⟩
    unfold readNumber at h
    rw [if_pos hstar] at h
    match args with
    | .count n :: args =>
        cases h
        exact ⟨rfl, rfl⟩
  · -- Digits take themselves and no argument, and so does the lack of them.
    refine ⟨s.takeWhile Decimal.isDigit, s.dropWhile Decimal.isDigit, 0,
      List.takeWhile_append_dropWhile.symm, fun hbar => ?_, fun {args left x r} h => ?_⟩
    · have hdigit := List.mem_takeWhile_imp hbar
      revert hdigit
      decide
    · unfold readNumber at h
      rw [if_neg hstar] at h
      change (if (s.takeWhile Decimal.isDigit).isEmpty then Except.ok (none, s, args)
        else if most < Decimal.natOf (s.takeWhile Decimal.isDigit) then Except.error Fault.malformed
        else Except.ok (some (Decimal.natOf (s.takeWhile Decimal.isDigit)),
          s.dropWhile Decimal.isDigit, args)) = _ at h
      by_cases hnone : (s.takeWhile Decimal.isDigit).isEmpty = true
      · rw [if_pos hnone] at h
        cases h
        have happend := List.takeWhile_append_dropWhile (p := Decimal.isDigit) (l := s)
        rw [List.isEmpty_iff.mp hnone] at happend
        exact ⟨happend.symm, rfl⟩
      · rw [if_neg hnone] at h
        split at h
        · cases h
        · cases h
          exact ⟨rfl, rfl⟩

theorem takes_readPrecision (s : List Char) :
    ∃ used rest count, Takes readPrecision s used rest count := by
  by_cases hpoint : s.head? = some '.'
  · obtain ⟨behind, rfl⟩ := List.head?_eq_some_iff.mp hpoint
    obtain ⟨used, rest, count, hnumber⟩ := takes_readNumber maxPrecision behind
    refine ⟨'.' :: used, rest, count, congrArg ('.' :: ·) hnumber.parts, ?_,
      fun {args left x r} h => ?_⟩
    · intro hbar
      rcases List.mem_cons.mp hbar with hbar | hbar
      · revert hbar
        decide
      · exact hnumber.bar hbar
    · obtain ⟨⟨n, after, taken⟩, hread, hok⟩ := bind_eq_ok_iff.mp h
      cases hok
      exact hnumber.result hread
  · refine ⟨[], s, 0, rfl, List.not_mem_nil, fun {args left x r} h => ?_⟩
    have hnone : readPrecision s args = .ok (none, s, args) := by
      unfold readPrecision
      split
      · exact absurd rfl hpoint
      · rfl
    rw [hnone] at h
    cases h
    exact ⟨rfl, rfl⟩

theorem skipLength_parts (s : List Char) : ∃ used, s = used ++ skipLength s ∧ '|' ∉ used := by
  cases s with
  | nil => exact ⟨[], rfl, List.not_mem_nil⟩
  | cons c rest =>
      show ∃ used, c :: rest = used ++
        (if (c = 'h' || c = 'l' || c = 'L') then rest else c :: rest) ∧ '|' ∉ used
      by_cases hc : (c = 'h' || c = 'l' || c = 'L') = true
      · rw [if_pos hc]
        refine ⟨[c], rfl, ?_⟩
        intro hbar
        rw [← List.mem_singleton.mp hbar] at hc
        revert hc
        decide
      · rw [if_neg hc]
        exact ⟨[], rfl, List.not_mem_nil⟩

/-- **A conversion takes as much of the text, up to its letter, and as many arguments with every list
of arguments.** -/
theorem readConversion_takes {s after : List Char} {args taken : List Argument} {c : Conversion}
    (h : readConversion s args = .ok (c, after, taken)) :
    ∃ used count, s = used ++ c.letter :: after ∧ '|' ∉ used ∧
      ∀ {args' taken' : List Argument} {c' : Conversion} {after' : List Char},
        readConversion s args' = .ok (c', after', taken') →
          after' = after ∧ args'.length = taken'.length + count := by
  obtain ⟨width, rest, widths, hwidth⟩ := takes_readNumber maxWidth (s.dropWhile isFlag)
  obtain ⟨precision, rest', precisions, hprecision⟩ := takes_readPrecision rest
  obtain ⟨letters, hletters, hbar⟩ := skipLength_parts rest'
  -- Whatever the arguments, a reading goes through the same three rests.
  have hsteps : ∀ {args taken : List Argument} {c : Conversion} {after : List Char},
      readConversion s args = .ok (c, after, taken) →
        skipLength rest' = c.letter :: after ∧
          args.length = taken.length + (widths + precisions) := by
    intro args taken c after h
    unfold readConversion at h
    split at h
    · cases h
    · obtain ⟨⟨n, r, args₁⟩, hread, h⟩ := bind_eq_ok_iff.mp h
      obtain ⟨rfl, hargs⟩ := hwidth.result hread
      obtain ⟨⟨m, r, args₂⟩, hread, h⟩ := bind_eq_ok_iff.mp h
      obtain ⟨rfl, hargs'⟩ := hprecision.result hread
      simp only at h
      split at h
      · cases h
      · next letter behind heq =>
          cases h
          exact ⟨heq, by omega⟩
  obtain ⟨hletter, -⟩ := hsteps h
  refine ⟨s.takeWhile isFlag ++ width ++ precision ++ letters, widths + precisions, ?_, ?_,
    fun {args' taken' c' after'} h' => ?_⟩
  · calc s = s.takeWhile isFlag ++ s.dropWhile isFlag := List.takeWhile_append_dropWhile.symm
      _ = s.takeWhile isFlag ++ (width ++ (precision ++ (letters ++ skipLength rest'))) := by
          rw [← hletters, ← hprecision.parts, ← hwidth.parts]
      _ = _ := by simp only [hletter, List.append_assoc]
  · intro hmem
    simp only [List.mem_append] at hmem
    rcases hmem with ((hmem | hmem) | hmem) | hmem
    · have hflag := List.mem_takeWhile_imp hmem
      revert hflag
      decide
    · exact hwidth.bar hmem
    · exact hprecision.bar hmem
    · exact hbar hmem
  · obtain ⟨hletter', hargs⟩ := hsteps h'
    rw [hletter] at hletter'
    exact ⟨(List.cons.inj hletter').2.symm, hargs⟩

/-- A conversion that writes takes one argument, and its letter is neither a space nor a bar. -/
theorem take_ok {c : Conversion} {args left : List Argument} {p : Piece}
    (h : c.take args = .ok (p, left)) :
    args.length = left.length + 1 ∧ c.letter ≠ ' ' ∧ c.letter ≠ '|' := by
  cases args with
  | nil => cases h
  | cons a rest =>
      have hwrites : left = rest ∧ (writesAny c.letter = true ∨ writesCount c.letter = true) := by
        unfold Conversion.take at h
        simp only at h
        by_cases hany : writesAny c.letter = true
        · rw [if_pos hany] at h
          cases h
          exact ⟨rfl, Or.inl hany⟩
        · rw [if_neg hany] at h
          by_cases hcount : writesCount c.letter = true
          · rw [if_pos hcount] at h
            -- Only a count is written as one.
            cases a with
            | count n =>
                cases h
                exact ⟨rfl, Or.inr hcount⟩
            | text s => cases h
            | path p => cases h
          · rw [if_neg hcount] at h
            split at h
            · cases h
            · cases h
      obtain ⟨rfl, hletter⟩ := hwrites
      refine ⟨rfl, fun hspace => ?_, fun hbar => ?_⟩
      · rw [hspace] at hletter
        revert hletter
        decide
      · rw [hbar] at hletter
        revert hletter
        decide

/-! ## §3. The relation and the reader. -/

/-- A conversion makes the text shorter. -/
theorem length_after_lt {s after : List Char} {args taken : List Argument} {c : Conversion}
    (h : readConversion s args = .ok (c, after, taken)) : after.length < s.length := by
  obtain ⟨used, count, hs, -, -⟩ := readConversion_takes h
  rw [hs, List.length_append, List.length_cons]
  omega

/-- Where the text ends no argument may be left. -/
theorem readPieces_nil_iff (fuel : Nat) {args : List Argument} {ps : List Piece} :
    readPieces fuel [] args = .ok ps ↔ Reads [] args ps := by
  cases args with
  | nil =>
      rw [readPieces]
      constructor
      · intro h
        cases h
        exact .nil
      · intro h
        cases h
        rfl
  | cons a args =>
      rw [readPieces]
      constructor
      · intro h
        cases h
      · intro h
        cases h

/-- **Reading gives what the relation says, with any fuel that is as long as the text.** -/
theorem readPieces_eq_ok_iff {fuel : Nat} {s : List Char} {args : List Argument} {ps : List Piece}
    (hfuel : s.length ≤ fuel) : readPieces fuel s args = .ok ps ↔ Reads s args ps := by
  induction fuel generalizing s args ps with
  | zero =>
      obtain rfl := List.length_eq_zero_iff.mp (Nat.le_zero.mp hfuel)
      exact readPieces_nil_iff 0
  | succ fuel ih =>
      cases s with
      | nil => exact readPieces_nil_iff (fuel + 1)
      | cons c rest =>
          have hrest : rest.length ≤ fuel := Nat.le_of_succ_le_succ hfuel
          rw [readPieces]
          by_cases hc : c = '%'
          · subst hc
            rw [if_neg (fun h => h rfl)]
            by_cases hpair : rest.head? = some '%'
            · obtain ⟨behind, rfl⟩ := List.head?_eq_some_iff.mp hpair
              rw [if_pos hpair, bind_eq_ok_iff]
              constructor
              · rintro ⟨more, hmore, hok⟩
                cases hok
                exact .percent ((ih (Nat.le_of_succ_le hrest)).mp hmore)
              · intro h
                cases h with
                | literal hc hs => exact absurd rfl hc
                | percent hs => exact ⟨_, (ih (Nat.le_of_succ_le hrest)).mpr hs, rfl⟩
                | conversion hs hread htake hafter => exact absurd hpair hs
            · rw [if_neg hpair, bind_eq_ok_iff]
              constructor
              · rintro ⟨⟨conversion, after, taken⟩, hread, h⟩
                obtain ⟨⟨p, left⟩, htake, h⟩ := bind_eq_ok_iff.mp h
                obtain ⟨more, hmore, hok⟩ := bind_eq_ok_iff.mp h
                cases hok
                have hshort := length_after_lt hread
                exact .conversion hpair hread htake ((ih (by omega)).mp hmore)
              · intro h
                cases h with
                | literal hc hs => exact absurd rfl hc
                | percent hs => exact absurd rfl hpair
                | conversion hs hread htake hafter =>
                    have hshort := length_after_lt hread
                    refine ⟨_, hread, bind_eq_ok_iff.mpr ⟨_, htake, ?_⟩⟩
                    exact bind_eq_ok_iff.mpr ⟨_, (ih (by omega)).mpr hafter, rfl⟩
          · rw [if_pos hc, bind_eq_ok_iff]
            constructor
            · rintro ⟨more, hmore, hok⟩
              cases hok
              exact .literal hc ((ih hrest).mp hmore)
            · intro h
              cases h with
              | literal _ hs => exact ⟨_, (ih hrest).mpr hs, rfl⟩
              | percent hs => exact absurd rfl hc
              | conversion hs hread htake hafter => exact absurd rfl hc

/-- What a pattern is filled to is what is written of its reading. -/
theorem fill_eq_ok_iff {pattern line : String} {args : List Argument} :
    fill pattern args = .ok line ↔
      ∃ ps, Reads pattern.toList args ps ∧ line = String.ofList (ps.flatMap Piece.write) := by
  unfold fill
  rw [bind_eq_ok_iff]
  constructor
  · rintro ⟨ps, hread, hok⟩
    exact ⟨ps, (readPieces_eq_ok_iff (Nat.le_refl _)).mp hread, (Except.ok.inj hok).symm⟩
  · rintro ⟨ps, hreads, rfl⟩
    exact ⟨ps, (readPieces_eq_ok_iff (Nat.le_refl _)).mpr hreads, rfl⟩

variable {s : List Char} {args args' : List Argument} {ps ps' : List Piece}

theorem Reads.unique (h : Reads s args ps) (h' : Reads s args ps') : ps = ps' := by
  have hread := (readPieces_eq_ok_iff (Nat.le_refl _)).mpr h
  rw [(readPieces_eq_ok_iff (Nat.le_refl _)).mpr h'] at hread
  exact (Except.ok.inj hread).symm

/-- **A pattern goes with one number of arguments only.** -/
theorem Reads.length_eq (h : Reads s args ps) (h' : Reads s args' ps') :
    args.length = args'.length := by
  induction h generalizing args' ps' with
  | nil => cases h'; rfl
  | literal hc hs ih =>
      cases h' with
      | literal _ hs' => exact ih hs'
      | percent hs' => exact absurd rfl hc
      | conversion _ _ _ _ => exact absurd rfl hc
  | percent hs ih =>
      cases h' with
      | literal hc _ => exact absurd rfl hc
      | percent hs' => exact ih hs'
      | conversion hne _ _ _ => exact absurd rfl hne
  | conversion hne hread htake hafter ih =>
      cases h' with
      | literal hc _ => exact absurd rfl hc
      | percent _ => exact absurd rfl hne
      | conversion _ hread' htake' hafter' =>
          -- Both conversions end at the same place and have taken equally many arguments.
          obtain ⟨used, count, -, -, hcount⟩ := readConversion_takes hread
          obtain ⟨-, hargs⟩ := hcount hread
          obtain ⟨rfl, hargs'⟩ := hcount hread'
          have htaken := (take_ok htake).1
          have htaken' := (take_ok htake').1
          have hleft := ih hafter'
          omega

/-! ## §4. A text in front of a pattern. -/

/-- A text with every percent sign written twice. -/
def doubled (s : List Char) : List Char := s.flatMap (fun c => if c = '%' then ['%', '%'] else [c])

theorem doubled_cons_of_ne {c : Char} (hc : c ≠ '%') (s : List Char) :
    doubled (c :: s) = c :: doubled s := by
  unfold doubled
  rw [List.flatMap_cons, if_neg hc]
  rfl

theorem doubled_eq_self {s : List Char} (h : '%' ∉ s) : doubled s = s := by
  induction s with
  | nil => rfl
  | cons c s ih =>
      have hc : c ≠ '%' := fun hc => h (hc ▸ List.mem_cons_self)
      rw [doubled_cons_of_ne hc, ih (fun hmem => h (List.mem_cons_of_mem c hmem))]

theorem length_le_doubled (s : List Char) : s.length ≤ (doubled s).length := by
  induction s with
  | nil => exact Nat.le_refl _
  | cons c s ih =>
      by_cases hc : c = '%'
      · subst hc
        show s.length + 1 ≤ (doubled s).length + 1 + 1
        omega
      · rw [doubled_cons_of_ne hc, List.length_cons, List.length_cons]
        omega

/-- Only a text without percent signs is the same when they are written twice. -/
theorem doubled_eq_self_iff {s : List Char} : doubled s = s ↔ '%' ∉ s := by
  refine ⟨fun h => ?_, doubled_eq_self⟩
  induction s with
  | nil => exact List.not_mem_nil
  | cons c s ih =>
      by_cases hc : c = '%'
      · subst hc
        have hlength : (doubled s).length + 1 + 1 = s.length + 1 := congrArg List.length h
        have hle := length_le_doubled s
        omega
      · rw [doubled_cons_of_ne hc] at h
        have hs := ih (List.cons.inj h).2
        exact fun hmem => (List.mem_cons.mp hmem).elim (fun heq => hc heq.symm) hs

/-- A text with its percent signs twice is read as the text. -/
theorem Reads.doubled_append (plain : List Char) (h : Reads s args ps) :
    Reads (doubled plain ++ s) args (plain.map .literal ++ ps) := by
  induction plain with
  | nil => exact h
  | cons c plain ih =>
      by_cases hc : c = '%'
      · subst hc
        exact .percent ih
      · rw [doubled_cons_of_ne hc]
        exact .literal hc ih

/-- What follows the letter of a conversion that starts in front of a space and a bar: it ends there
as well. -/
theorem letter_before_bar {lead rest used after : List Char} {letter : Char}
    (h : lead ++ ' ' :: '|' :: rest = used ++ letter :: after) (hused : '|' ∉ used)
    (hspace : letter ≠ ' ') (hbar : letter ≠ '|') :
    ∃ lead', after = lead' ++ ' ' :: '|' :: rest ∧ lead'.length < lead.length := by
  have h' : lead ++ ' ' :: '|' :: rest = (used ++ [letter]) ++ after := by
    rw [h, List.append_assoc]
    rfl
  have hnot : '|' ∉ used ++ [letter] := by
    intro hmem
    rcases List.mem_append.mp hmem with hmem | hmem
    · exact hused hmem
    · exact hbar (List.mem_singleton.mp hmem).symm
  rcases List.append_eq_append_iff.mp h' with ⟨further, hfurther, hrest⟩ | ⟨lead', hlead, hafter⟩
  · -- The conversion would reach into the space or the bar, or end right in front of them.
    cases further with
    | nil =>
        refine ⟨[], hrest.symm, ?_⟩
        have hlength := congrArg List.length hfurther
        simp only [List.length_append, List.length_singleton, List.append_nil] at hlength
        show 0 < lead.length
        omega
    | cons c further =>
        obtain ⟨rfl, hbehind⟩ := List.cons.inj hrest
        cases further with
        | nil =>
            have hlast := (List.append_inj' hfurther rfl).2
            exact absurd (List.singleton_inj.mp hlast) hspace
        | cons d further =>
            have hd : '|' = d := (List.cons.inj hbehind).1
            rw [hfurther, ← hd] at hnot
            exact absurd (by simp) hnot
  · refine ⟨lead', hafter, ?_⟩
    rw [hlead, List.length_append, List.length_append, List.length_singleton]
    omega

/-- **A text in front of a pattern is read as pairs of percent signs and plain characters, or it
takes arguments that the pattern would need.** -/
theorem Reads.of_append {lead rest : List Char}
    (h : Reads (lead ++ ' ' :: '|' :: rest) args ps) :
    (∃ plain more, lead = doubled plain ∧ ps = plain.map .literal ++ more ∧
        Reads (' ' :: '|' :: rest) args more) ∨
      ∃ left more, left.length < args.length ∧ Reads (' ' :: '|' :: rest) left more := by
  -- A conversion takes several characters at once, so the induction is on the length.
  induction hn : lead.length using Nat.strongRecOn generalizing lead args ps with
  | _ n ih =>
      subst hn
      cases lead with
      | nil => exact Or.inl ⟨[], ps, rfl, rfl, h⟩
      | cons c lead =>
          generalize hwhole : c :: lead ++ ' ' :: '|' :: rest = whole at h
          cases h with
          | nil => cases hwhole
          | literal hc hs =>
              obtain ⟨rfl, rfl⟩ := List.cons.inj hwhole
              rcases ih lead.length (Nat.lt_succ_self _) hs rfl with
                ⟨plain, more, rfl, rfl, hmore⟩ | hshort
              · exact Or.inl ⟨c :: plain, more, (doubled_cons_of_ne hc plain).symm, rfl, hmore⟩
              · exact Or.inr hshort
          | percent hs =>
              obtain ⟨rfl, hbehind⟩ := List.cons.inj hwhole
              cases lead with
              | nil => exact absurd (List.cons.inj hbehind).1 (by decide)
              | cons d lead =>
                  obtain ⟨rfl, rfl⟩ := List.cons.inj hbehind
                  rcases ih lead.length (by rw [List.length_cons, List.length_cons]; omega) hs rfl with
                    ⟨plain, more, rfl, rfl, hmore⟩ | hshort
                  · exact Or.inl ⟨'%' :: plain, more, rfl, rfl, hmore⟩
                  · exact Or.inr hshort
          | conversion hne hread htake hafter =>
              obtain ⟨rfl, rfl⟩ := List.cons.inj hwhole
              obtain ⟨used, count, hparts, hbar, hcount⟩ := readConversion_takes hread
              have htaken := take_ok htake
              obtain ⟨lead', rfl, hless⟩ :=
                letter_before_bar hparts hbar htaken.2.1 htaken.2.2
              have hargs := (hcount hread).2
              right
              rcases ih lead'.length (by rw [List.length_cons]; omega) hafter rfl with
                ⟨plain, more, -, -, hmore⟩ | ⟨left, more, hleft, hmore⟩
              · exact ⟨_, more, by omega, hmore⟩
              · exact ⟨left, more, by omega, hmore⟩

theorem write_literals (cs : List Char) (ps : List Piece) :
    (cs.map Piece.literal ++ ps).flatMap Piece.write = cs ++ ps.flatMap Piece.write := by
  rw [List.flatMap_append, List.flatMap_map]
  exact congrArg (· ++ _) (List.flatMap_singleton' cs)

/-- Plain text in front of a pattern is written in front of its words. -/
theorem fill_append_plain (plain : String) {pattern words : String} {args : List Argument}
    (hplain : '%' ∉ plain.toList) (hwords : fill pattern args = .ok words) :
    fill (plain ++ pattern) args = .ok (plain ++ words) := by
  obtain ⟨ps, hreads, rfl⟩ := fill_eq_ok_iff.mp hwords
  have happend := hreads.doubled_append plain.toList
  rw [doubled_eq_self hplain, ← String.toList_append] at happend
  refine fill_eq_ok_iff.mpr ⟨_, happend, ?_⟩
  rw [write_literals, String.ofList_append, String.ofList_toList]

theorem fill_empty : fill "" [] = .ok "" :=
  fill_eq_ok_iff.mpr ⟨[], .nil, String.ofList_nil.symm⟩

theorem fillUp_none (left : Bool) (fill : Char) (s : List Char) : fillUp left fill none s = s := by
  unfold fillUp
  cases left <;> simp

/-- A conversion by its letter alone. -/
def bare (letter : Char) : Conversion := ⟨[], none, none, letter⟩

/-- A conversion by its letter alone, in front of a pattern, is written in front of its words. -/
theorem fill_append_bare (letter : Char) {lead pattern words : String} {a : Argument}
    {args : List Argument} (hlead : lead.toList = ['%', letter]) (hletter : letter ≠ '%')
    (hread : readConversion (letter :: pattern.toList) (a :: args) =
      .ok (bare letter, pattern.toList, a :: args))
    (htake : (bare letter).take (a :: args) = .ok (.convert (bare letter) a, args))
    (hwords : fill pattern args = .ok words) : fill (lead ++ pattern) (a :: args) =
      .ok (String.ofList (Piece.convert (bare letter) a).write ++ words) := by
  obtain ⟨ps, hreads, rfl⟩ := fill_eq_ok_iff.mp hwords
  have hhead : (letter :: pattern.toList).head? ≠ some '%' := fun h => hletter (Option.some.inj h)
  refine fill_eq_ok_iff.mpr ⟨_, ?_, by rw [List.flatMap_cons, String.ofList_append]⟩
  rw [String.toList_append, hlead]
  exact .conversion hhead hread htake hreads

/-- An argument in front of a pattern is written plainly in front of its words. -/
theorem fill_append_argument {pattern words : String} {args : List Argument} (a : Argument)
    (hwords : fill pattern args = .ok words) :
    fill ("%s" ++ pattern) (a :: args) = .ok (a.plain ++ words) := by
  have hwrite : (Piece.convert (bare 's') a).write = a.plain.toList := by
    have hany : Piece.write.anyText (bare 's') a = a.plain.toList := by
      unfold Piece.write.anyText
      rw [if_pos (show (bare 's').letter = 's' from rfl)]
      exact fillUp_none _ _ _
    cases a with
    | text t => exact hany
    | path p => exact hany
    | count n => exact hany
  rw [fill_append_bare 's' rfl (by decide) rfl rfl hwords, hwrite, String.ofList_toList]

/-- A plain text and then one argument. -/
theorem fill_lead_argument (lead : String) (a : Argument) (hlead : '%' ∉ lead.toList) :
    fill (lead ++ "%s") [a] = .ok (lead ++ a.plain) := by
  have hend : fill ("%s" ++ "") [a] = .ok (a.plain ++ "") := fill_append_argument a fill_empty
  rw [String.append_empty, String.append_empty] at hend
  exact fill_append_plain lead hlead hend

/-- A count in front of a pattern is written in digits in front of its words. -/
theorem fill_append_count {pattern words : String} {args : List Argument} (n : Nat)
    (hwords : fill pattern args = .ok words) :
    fill ("%d" ++ pattern) (.count n :: args) = .ok (Decimal.intText n ++ words) := by
  have hwrite : (Piece.convert (bare 'd') (.count n)).write = Decimal.digitsOf n := by
    show fillUp false ' ' none (fillUp false '0' none (Decimal.digitsOf n)) = _
    rw [fillUp_none, fillUp_none]
  have htext : Decimal.intText n = String.ofList (Decimal.digitsOf n) := by
    rw [Decimal.intText, if_neg (by omega), Int.natAbs_natCast]
  rw [fill_append_bare 'd' rfl (by decide) rfl rfl hwords, hwrite, htext]

/-- **A text in front of a bar and a pattern leaves the words of the pattern alone just if all its
percent signs stand in pairs, and of each pair one is left.** -/
theorem fill_append_eq_ok_iff {lead pattern words line : String} {args : List Argument}
    {rest : List Char} (hbar : pattern.toList = ' ' :: '|' :: rest)
    (hwords : fill pattern args = .ok words) : fill (lead ++ pattern) args = .ok line ↔
      ∃ plain : String, lead.toList = doubled plain.toList ∧ line = plain ++ words := by
  obtain ⟨ps, hreads, rfl⟩ := fill_eq_ok_iff.mp hwords
  rw [fill_eq_ok_iff, String.toList_append, hbar]
  rw [hbar] at hreads
  constructor
  · rintro ⟨qs, hqs, rfl⟩
    rcases hqs.of_append with ⟨plain, more, hlead, rfl, hmore⟩ | ⟨left, more, hless, hmore⟩
    · refine ⟨String.ofList plain, by rw [String.toList_ofList, hlead], ?_⟩
      rw [hmore.unique hreads, write_literals, String.ofList_append]
    · -- The pattern needs the argument that the text in front has taken.
      have hlength := hmore.length_eq hreads
      omega
  · rintro ⟨plain, hlead, rfl⟩
    refine ⟨_, hlead ▸ hreads.doubled_append plain.toList, ?_⟩
    rw [write_literals, String.ofList_append, String.ofList_toList]

/-! ## §5. Records about a snapshot. -/

section Records

variable {subject : Subject} {event : Event} {words line : String} (hargs : event.args ≠ [])
  (hwords : fill event.pattern event.args = .ok words)

include hargs hwords

theorem text_record_eq_ok_iff : (subject.record event).text = .ok line ↔
    ∃ plain : String, subject.header.toList = doubled plain.toList ∧
      line = plain ++ " | " ++ words := by
  have hbar : (" | " ++ event.pattern).toList = ' ' :: '|' :: ' ' :: event.pattern.toList := by
    rw [String.toList_append]
    rfl
  have htext : (subject.record event).text =
      fill (subject.header ++ (" | " ++ event.pattern)) event.args := by
    show (if event.args.isEmpty then _ else fill (subject.header ++ " | " ++ event.pattern) _) = _
    rw [if_neg (fun h => hargs (List.isEmpty_iff.mp h)), String.append_assoc]
  rw [htext, fill_append_eq_ok_iff hbar (fill_append_plain _ (by decide) hwords)]
  simp only [String.append_assoc]

/-- **A record bears the prefix of its snapshot in front of the words of the event just if the prefix
holds no percent sign.** -/
theorem text_record_header_iff :
    (subject.record event).text = .ok (subject.header ++ " | " ++ words) ↔
      '%' ∉ subject.header.toList := by
  rw [text_record_eq_ok_iff hargs hwords, ← doubled_eq_self_iff]
  constructor
  · rintro ⟨plain, hheader, hline⟩
    -- What is left of the prefix is as long as the prefix, so it is the prefix.
    have hplain : subject.header = plain := by
      simpa [String.append_assoc] using hline
    rw [← hplain] at hheader
    exact hheader.symm
  · intro h
    exact ⟨subject.header, h.symm, rfl⟩

end Records

theorem percent_notMem_header {s : Subject} : '%' ∉ s.header.toList ↔
    '%' ∉ s.category.toList ∧ '%' ∉ s.test.toList ∧ ∀ u ∈ s.url, '%' ∉ u.toList := by
  unfold Subject.header
  cases s.url with
  | none => simp [String.toList_append]
  | some u => simp [String.toList_append]

end Golden.Log

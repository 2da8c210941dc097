/-
  Golden.Proofs.Settings.Refused
  ────────────────────────────────
  **WHICH SETTINGS AN ENVIRONMENT GIVES, AND WHICH IT IS REFUSED.**

  Two guards stand before a time limit.  The reading of the environment
  refuses what is at most zero, and the settings themselves accept only what is
  greater than zero.  They agree on every double but one:

      isPositive t = false  and  isNonpositive t = false   ↔   t = nan

  So the environment comes to settings with a positive time limit, or to a
  refusal that names the variable, unless the variable spells not-a-number.
  Then the refusal is that of the settings, which knows of no variable.
-/
import Golden.Proofs.Double.Exact
import Golden.Settings

namespace Golden

/-! ## §1. The two guards. -/

/-- Worth more than zero. -/
def Worth.IsPositive : Worth → Prop
  | .rational q => 0 < q
  | .infinite negative => negative = false

namespace Double

/-- Greater than zero as a number; not-a-number is not. -/
def ExceedsZero (x : Double) : Prop := ∃ w, x.worth? = some w ∧ w.IsPositive

theorem signedValue_pos_iff (negative : Bool) (x : Magnitude) :
    0 < signedValue negative x.value ↔ negative = false ∧ x.significand ≠ 0 := by
  have hvalue : 0 ≤ x.value := x.value_nonneg
  have hne : x.value ≠ 0 ↔ x.significand ≠ 0 := not_congr Magnitude.value_eq_zero_iff
  cases negative with
  | true =>
      show 0 < -x.value ↔ _
      constructor
      · intro h
        linarith
      · intro h
        exact absurd h.1 (by decide)
  | false =>
      show 0 < x.value ↔ _
      rw [hvalue.lt_iff_ne', hne]
      exact ⟨fun h => ⟨rfl, h⟩, fun h => h.2⟩

/-- The guard of the settings asks for more than zero. -/
theorem isPositive_iff (x : Double) : x.isPositive = true ↔ x.ExceedsZero := by
  unfold ExceedsZero
  cases x with
  | finite negative m =>
      show (!negative && m.significand != 0) = true ↔ _
      simp only [worth?, Option.some.injEq, exists_eq_left', Worth.IsPositive, signedValue_pos_iff,
        Bool.and_eq_true, Bool.not_eq_true', bne_iff_ne]
  | infinite negative =>
      show (!negative) = true ↔ _
      simp only [worth?, Option.some.injEq, exists_eq_left', Worth.IsPositive, Bool.not_eq_true']
  | nan => simp [isPositive, worth?]

/-- The two guards agree on every double but not-a-number, which passes neither. -/
theorem isPositive_eq_not_isNonpositive {x : Double} (hx : x ≠ .nan) :
    x.isPositive = !x.isNonpositive := by
  cases x with
  | finite negative m =>
      show (!negative && m.significand != 0) = !(negative || m.significand == 0)
      rw [Bool.not_or, bne]
  | infinite negative => rfl
  | nan => exact absurd rfl hx

end Double

/-! ## §2. Texts that read as not-a-number. -/

/-- The word for not-a-number in any case, with or without a sign. -/
def SpellsNotANumber (s : String) : Prop :=
  ∃ lead ∈ ["", "+", "-"], ∃ word : String,
    s = lead ++ word ∧ word.toList.map Char.toLower = ['n', 'a', 'n']

namespace Decimal

/-- A text without digits. -/
def Digitless (s : List Char) : Prop := ∀ c ∈ s, isDigit c = false

theorem toAsciiDigit_of_not_isDigit {c : Char} (h : isDigit (Text.toAsciiDigit c) = false) :
    Text.toAsciiDigit c = c := by
  unfold Text.toAsciiDigit at h ⊢
  cases hv : Text.digitValue? c with
  | none => rfl
  | some v =>
      -- The value of a digit is its distance from the zero of its run.
      exfalso
      rw [hv] at h
      obtain ⟨z, hz, rfl⟩ := Option.map_eq_some_iff.mp hv
      have hrun := List.find?_some hz
      simp only [Bool.and_eq_true, decide_eq_true_eq] at hrun
      have hten : c.toNat - z < 10 := by omega
      have hdigit : ∀ v < 10, isDigit (Text.asciiDigit v) = true := by decide
      exact absurd (h.symm.trans (hdigit _ hten)) (by decide)

/-- An underscore stands between digits, so where no digit is none was dropped. -/
theorem dropUnderscores_digitless {previous : Char} {s cs : List Char}
    (hprevious : previous ≠ '_') (hdigit : isDigit previous = false) (hcs : Digitless cs) :
    dropUnderscores previous s = some cs ↔ s = cs ∧ '_' ∉ cs := by
  induction s generalizing previous cs with
  | nil =>
      rw [dropUnderscores, if_neg hprevious]
      constructor
      · intro h
        obtain rfl := Option.some.inj h
        exact ⟨rfl, List.not_mem_nil⟩
      · rintro ⟨rfl, -⟩
        rfl
  | cons c s ih =>
      rw [dropUnderscores]
      by_cases hc : c = '_'
      · rw [if_pos hc, hdigit, if_neg Bool.false_ne_true]
        constructor
        · intro h
          cases h
        · rintro ⟨rfl, hmem⟩
          exact absurd (hc ▸ List.mem_cons_self) hmem
      · have hgo : (previous = '_' && !isDigit c) = false := by
          rw [decide_eq_false hprevious, Bool.false_and]
        rw [if_neg hc, hgo, if_neg Bool.false_ne_true, Option.map_eq_some_iff]
        constructor
        · rintro ⟨ds, hds, rfl⟩
          have hrest : Digitless ds := fun d hd => hcs d (List.mem_cons_of_mem c hd)
          obtain ⟨rfl, hmem⟩ := (ih hc (hcs c List.mem_cons_self) hrest).mp hds
          exact ⟨rfl, fun h => (List.mem_cons.mp h).elim (fun h => hc h.symm) hmem⟩
        · rintro ⟨rfl, hmem⟩
          have hrest : Digitless s := fun d hd => hcs d (List.mem_cons_of_mem c hd)
          refine ⟨s, (ih hc (hcs c List.mem_cons_self) hrest).mpr ⟨rfl, ?_⟩, rfl⟩
          exact fun h => hmem (List.mem_cons_of_mem c h)

/-- A text without digits is read as it stands. -/
theorem map_toAsciiDigit_digitless {s cs : List Char} (hcs : Digitless cs)
    (h : s.map Text.toAsciiDigit = cs) : s = cs := by
  subst h
  refine (List.map_id s).symm.trans (List.map_congr_left (fun c hc => ?_))
  exact (toAsciiDigit_of_not_isDigit (hcs _ (List.mem_map_of_mem hc))).symm

theorem eq_of_toLower {c d : Char} (h : c.toLower = d) : c = d ∨ c.toNat + 32 = d.toNat := by
  unfold Char.toLower at h
  split at h
  · next hupper =>
      refine Or.inr ?_
      subst h
      have hbound : c.val.toNat ≤ 90 := UInt32.le_iff_toNat_le.mp hupper.2
      show c.val.toNat + 32 = (c.val + 32).toNat
      rw [UInt32.toNat_add]
      show c.val.toNat + 32 = (c.val.toNat + 32) % 2 ^ 32
      omega
  · exact Or.inl h

/-- The letters of the word for not-a-number. -/
theorem mem_letters_of_toLower {c : Char} (h : c.toLower = 'n' ∨ c.toLower = 'a') :
    c ∈ ['n', 'N', 'a', 'A'] := by
  rcases h with h | h
  · rcases eq_of_toLower h with rfl | hn
    · decide
    · have hcode : c.toNat + 32 = 110 := hn
      obtain rfl : c = 'N' := Char.toNat_inj.mp (show c.toNat = 78 by omega)
      decide
  · rcases eq_of_toLower h with rfl | hn
    · decide
    · have hcode : c.toNat + 32 = 97 := hn
      obtain rfl : c = 'A' := Char.toNat_inj.mp (show c.toNat = 65 by omega)
      decide

/-- A sign and the letters of the word are neither digits nor underscores. -/
theorem plain_of_spelling {lead : String} (hlead : lead ∈ ["", "+", "-"]) {word : List Char}
    (hword : word.map Char.toLower = ['n', 'a', 'n']) : ∀ c ∈ lead.toList ++ word,
      isDigit c = false ∧ Text.toAsciiDigit c = c ∧ c ≠ '_' := by
  have hplain : ∀ c ∈ ['n', 'N', 'a', 'A', '+', '-'],
      isDigit c = false ∧ Text.toAsciiDigit c = c ∧ c ≠ '_' := by
    simp only [List.mem_cons, List.not_mem_nil, or_false, forall_eq_or_imp, forall_eq]
    decide
  have hsign : ∀ lead ∈ ["", "+", "-"], lead.toList ⊆ ['n', 'N', 'a', 'A', '+', '-'] := by
    decide
  intro c hc
  apply hplain
  rcases List.mem_append.mp hc with hc | hc
  · exact hsign lead hlead hc
  · have hlower : c.toLower ∈ ['n', 'a', 'n'] := hword ▸ List.mem_map_of_mem hc
    have hletter : c.toLower = 'n' ∨ c.toLower = 'a' := by
      simp only [List.mem_cons, List.not_mem_nil, or_false] at hlower
      rcases hlower with h | h | h
      · exact Or.inl h
      · exact Or.inr h
      · exact Or.inl h
    exact List.mem_append_left ['+', '-'] (mem_letters_of_toLower hletter)

theorem word?_eq_nan_iff (negative : Bool) (s : List Char) :
    word? negative s = some .nan ↔ s.map Char.toLower = ['n', 'a', 'n'] := by
  have hword : String.ofList (s.map Char.toLower) = "nan" ↔
      s.map Char.toLower = ['n', 'a', 'n'] := by
    rw [← String.toList_inj, String.toList_ofList]
    rfl
  rw [← hword]
  unfold word?
  dsimp only
  generalize String.ofList (s.map Char.toLower) = w
  by_cases hnan : w = "nan"
  · subst hnan
    exact ⟨fun _ => rfl, fun _ => rfl⟩
  · rw [if_neg hnan]
    split
    · exact ⟨fun h => (by cases h), fun h => absurd h hnan⟩
    · exact ⟨fun h => (by cases h), fun h => absurd h hnan⟩

theorem ofParts_ne_nan (negative : Bool) (whole fraction : List Char) (exponent : Int) :
    ofParts negative whole fraction exponent ≠ .nan := by
  unfold ofParts Double.ofDecimal
  cases Magnitude.ofDecimal? (natOf (whole ++ fraction)) (exponent - fraction.length) with
  | none => exact fun h => by cases h
  | some m => exact fun h => by cases h

/-- Digits write a number, be it too large or too small for a double. -/
theorem unsigned?_ne_nan (negative : Bool) (s : List Char) : unsigned? negative s ≠ some .nan := by
  intro h
  unfold unsigned? at h
  dsimp only at h
  split at h <;> split at h
  · cases h
  · obtain ⟨e, -, he⟩ := Option.map_eq_some_iff.mp h
    exact ofParts_ne_nan _ _ _ _ he
  · cases h
  · obtain ⟨e, -, he⟩ := Option.map_eq_some_iff.mp h
    exact ofParts_ne_nan _ _ _ _ he

/-- Behind the underscores and the sign there is the word, or no not-a-number. -/
theorem read?_eq_nan_iff_sign (s : String) : read? s = some .nan ↔
    ∃ cs, dropUnderscores ' ' (s.toList.map Text.toAsciiDigit) = some cs ∧
      (sign cs).2.map Char.toLower = ['n', 'a', 'n'] := by
  unfold read?
  cases dropUnderscores ' ' (s.toList.map Text.toAsciiDigit) with
  | none => simp
  | some cs =>
      simp only [Option.some.injEq, exists_eq_left']
      rw [← word?_eq_nan_iff (sign cs).1]
      cases hword : word? (sign cs).1 (sign cs).2 with
      | none =>
          show unsigned? _ _ = some .nan ↔ _
          exact ⟨fun h => absurd h (unsigned?_ne_nan _ _), fun h => by cases h⟩
      | some x => exact Iff.rfl

theorem sign_eq (s : List Char) :
    ∃ lead ∈ ["", "+", "-"], s = lead.toList ++ (sign s).2 := by
  unfold sign
  split
  · exact ⟨"-", by decide, rfl⟩
  · exact ⟨"+", by decide, rfl⟩
  · exact ⟨"", by decide, rfl⟩

/-- What stands behind a sign, where it starts with none itself. -/
theorem sign_append {lead : String} (hlead : lead ∈ ["", "+", "-"]) {rest : List Char}
    (hrest : ∀ c ∈ rest.head?, c ≠ '+' ∧ c ≠ '-') : (sign (lead.toList ++ rest)).2 = rest := by
  simp only [List.mem_cons, List.not_mem_nil, or_false] at hlead
  rcases hlead with rfl | rfl | rfl
  · show (sign rest).2 = rest
    unfold sign
    split
    · exact absurd rfl (hrest '-' rfl).2
    · exact absurd rfl (hrest '+' rfl).1
    · rfl
  · rfl
  · rfl

/-- **Reading gives not-a-number just for a text that spells it.** -/
theorem read?_eq_nan_iff (s : String) : read? s = some .nan ↔ SpellsNotANumber s := by
  rw [read?_eq_nan_iff_sign]
  have hblank : isDigit ' ' = false := by decide
  constructor
  · rintro ⟨cs, hread, hword⟩
    obtain ⟨lead, hlead, hcs⟩ := sign_eq cs
    have hplain := plain_of_spelling hlead hword
    rw [← hcs] at hplain
    have hdigitless : Digitless cs := fun c hc => (hplain c hc).1
    -- With no digit in what was read, nothing was changed or dropped on the way.
    obtain ⟨hmap, -⟩ := (dropUnderscores_digitless (by decide) hblank hdigitless).mp hread
    have hs : s.toList = cs := map_toAsciiDigit_digitless hdigitless hmap
    refine ⟨lead, hlead, String.ofList (sign cs).2, ?_, ?_⟩
    · rw [← String.toList_inj, String.toList_append, String.toList_ofList, ← hcs, hs]
    · rw [String.toList_ofList]
      exact hword
  · rintro ⟨lead, hlead, word, rfl, hword⟩
    have hplain := plain_of_spelling hlead hword
    have hmap : (lead ++ word).toList.map Text.toAsciiDigit = lead.toList ++ word.toList := by
      rw [String.toList_append]
      exact (List.map_congr_left (fun c hc => (hplain c hc).2.1)).trans (List.map_id _)
    have hdigitless : Digitless (lead.toList ++ word.toList) := fun c hc => (hplain c hc).1
    refine ⟨lead.toList ++ word.toList, ?_, ?_⟩
    · rw [hmap]
      apply (dropUnderscores_digitless (by decide) hblank hdigitless).mpr
      exact ⟨rfl, fun h => (hplain '_' h).2.2 rfl⟩
    · rw [sign_append hlead]
      · exact hword
      · intro c hc
        -- The word starts with a letter, so no second sign is taken off.
        have hlower : c.toLower ∈ ['n', 'a', 'n'].head? := by
          rw [← hword, List.head?_map]
          exact Option.mem_map_of_mem _ hc
        obtain hn : 'n' = c.toLower := Option.some.inj hlower
        refine ⟨?_, ?_⟩
        · rintro rfl
          exact absurd hn (by decide)
        · rintro rfl
          exact absurd hn (by decide)

end Decimal

/-! ## §3. The settings of an environment. -/

/-- Whether a refusal comes from the reading of the environment and names its variable; the
remaining one is that of the settings themselves. -/
def SettingsProblem.isOfEnvironment : SettingsProblem → Bool
  | .timeoutUnreadable _ => true
  | .timeoutNotPositive _ => true
  | .timeoutRange => false

namespace Settings

/-- The time limit that an environment asks for: the usual one where it says nothing. -/
def AsksFor (env : Environment) (t : Double) : Prop :=
  setting env timeoutName = "" ∧ t = defaultTimeout ∨
    setting env timeoutName ≠ "" ∧ Decimal.read? (setting env timeoutName) = some t

/-- An environment comes to settings with the time limit that it asks for, more than zero, or to a
refusal of what its variable says: it is no number, or one that is not more than zero. -/
def Settled (env : Environment) : Prop :=
  (∃ s, ofEnvironment env = .ok s ∧ AsksFor env s.timeout ∧ s.timeout.ExceedsZero) ∨
    ∃ p, ofEnvironment env = .error p ∧ p.isOfEnvironment = true ∧
      ∀ t, AsksFor env t → ¬ t.ExceedsZero

theorem AsksFor.unique {env : Environment} {t u : Double} (ht : AsksFor env t)
    (hu : AsksFor env u) : t = u := by
  rcases ht with ⟨hblank, rfl⟩ | ⟨hraw, ht⟩ <;> rcases hu with ⟨hblank', hu⟩ | ⟨hraw', hu⟩
  · exact hu.symm
  · exact absurd hblank hraw'
  · exact absurd hblank' hraw
  · exact Option.some.inj (ht.symm.trans hu)

/-- The usual time limit passes both guards. -/
theorem guards_defaultTimeout :
    defaultTimeout.isPositive = true ∧ defaultTimeout.isNonpositive = false := by
  decide +kernel

theorem defaultTimeout_ne_nan : Double.nan ≠ defaultTimeout := by
  intro h
  have hpositive : Double.nan.isPositive = true := h ▸ guards_defaultTimeout.1
  cases hpositive

theorem asksFor_nan_iff (env : Environment) :
    AsksFor env .nan ↔ SpellsNotANumber (setting env timeoutName) := by
  rw [← Decimal.read?_eq_nan_iff]
  constructor
  · rintro (⟨-, h⟩ | ⟨-, h⟩)
    · exact absurd h defaultTimeout_ne_nan
    · exact h
  · intro h
    refine Or.inr ⟨?_, h⟩
    intro hblank
    have hread : Decimal.read? "" = none := by decide +kernel
    rw [hblank, hread] at h
    cases h

/-- The reading of an environment lets through what is asked for and not at most zero, and refuses
by the variable's name where no time limit above zero is asked for. -/
theorem timeoutOf_cases (env : Environment) :
    (∃ t, timeoutOf env = .ok t ∧ AsksFor env t ∧ t.isNonpositive = false) ∨
      ∃ p, timeoutOf env = .error p ∧ p.isOfEnvironment = true ∧
        ∀ t, AsksFor env t → t.isNonpositive = true := by
  unfold timeoutOf AsksFor
  dsimp only
  by_cases hblank : setting env timeoutName = ""
  · rw [if_pos hblank]
    exact Or.inl ⟨defaultTimeout, rfl, Or.inl ⟨hblank, rfl⟩, guards_defaultTimeout.2⟩
  · rw [if_neg hblank]
    cases hread : Decimal.read? (setting env timeoutName) with
    | none =>
        refine Or.inr ⟨_, rfl, rfl, ?_⟩
        rintro t (⟨h, -⟩ | ⟨-, h⟩)
        · exact absurd h hblank
        · cases h
    | some u =>
        dsimp only
        cases hu : u.isNonpositive with
        | false =>
            rw [if_neg Bool.false_ne_true]
            exact Or.inl ⟨u, rfl, Or.inr ⟨hblank, rfl⟩, hu⟩
        | true =>
            rw [if_pos rfl]
            refine Or.inr ⟨_, rfl, rfl, ?_⟩
            rintro t (⟨h, -⟩ | ⟨-, h⟩)
            · exact absurd h hblank
            · rw [← Option.some.inj h]
              exact hu

/-- The settings themselves make the last check of a time limit that was read. -/
theorem ofEnvironment_of_timeoutOf {env : Environment} {t : Double} (h : timeoutOf env = .ok t) :
    ∃ s, s.timeout = t ∧ ofEnvironment env = checked s := by
  unfold ofEnvironment
  rw [h]
  exact ⟨_, rfl, rfl⟩

theorem checked_of_exceedsZero {s : Settings} (h : s.timeout.ExceedsZero) : checked s = .ok s :=
  if_pos ((Double.isPositive_iff s.timeout).mpr h)

theorem checked_of_not_exceedsZero {s : Settings} (h : ¬ s.timeout.ExceedsZero) :
    checked s = .error .timeoutRange :=
  if_neg (fun hpositive => h ((Double.isPositive_iff s.timeout).mp hpositive))

/-- An environment that asks for not-a-number gets past its own reading, but not further. -/
theorem ofEnvironment_of_nan {env : Environment} (h : AsksFor env .nan) :
    ofEnvironment env = .error .timeoutRange := by
  rcases timeoutOf_cases env with ⟨t, hread, hasked, -⟩ | ⟨p, -, -, hnone⟩
  · obtain rfl : t = .nan := hasked.unique h
    obtain ⟨s, hs, hrun⟩ := ofEnvironment_of_timeoutOf hread
    rw [hrun]
    apply checked_of_not_exceedsZero
    rw [hs]
    rintro ⟨w, hw, -⟩
    cases hw
  · cases hnone .nan h

/-- An environment that does not ask for not-a-number is settled. -/
theorem settled_of_not_nan {env : Environment} (h : ¬ AsksFor env .nan) : Settled env := by
  have hguards : ∀ t, AsksFor env t → t.isPositive = !t.isNonpositive := by
    intro t hasked
    apply Double.isPositive_eq_not_isNonpositive
    rintro rfl
    exact h hasked
  rcases timeoutOf_cases env with ⟨t, hread, hasked, hguard⟩ | ⟨p, hread, hnamed, hnone⟩
  · have hpositive : t.ExceedsZero := by
      rw [← Double.isPositive_iff, hguards t hasked, hguard]
      rfl
    obtain ⟨s, rfl, hrun⟩ := ofEnvironment_of_timeoutOf hread
    exact Or.inl ⟨s, hrun.trans (checked_of_exceedsZero hpositive), hasked, hpositive⟩
  · have hrun : ofEnvironment env = .error p := by
      unfold ofEnvironment
      rw [hread]
      rfl
    refine Or.inr ⟨p, hrun, hnamed, ?_⟩
    intro t hasked
    rw [← Double.isPositive_iff, hguards t hasked, hnone t hasked]
    exact Bool.false_ne_true

/-- The refusal by the settings themselves settles nothing. -/
theorem not_settled_of_timeoutRange {env : Environment}
    (h : ofEnvironment env = .error .timeoutRange) : ¬ Settled env := by
  rintro (⟨s, hs, -⟩ | ⟨p, hp, hnamed, -⟩)
  · rw [h] at hs
    cases hs
  · rw [h] at hp
    obtain rfl := Except.error.inj hp
    cases hnamed

/-- **An environment comes to settings with a positive time limit, or is refused by the name of its
variable, unless that variable spells not-a-number; then the settings refuse it instead.** -/
theorem ofEnvironment_settled_iff (env : Environment) :
    (Settled env ↔ ¬ SpellsNotANumber (setting env timeoutName)) ∧
      (ofEnvironment env = .error .timeoutRange ↔
        SpellsNotANumber (setting env timeoutName)) := by
  rw [← asksFor_nan_iff]
  by_cases hnan : AsksFor env .nan
  · have hrun : ofEnvironment env = .error .timeoutRange := ofEnvironment_of_nan hnan
    have hnot : ¬ Settled env := not_settled_of_timeoutRange hrun
    exact ⟨⟨fun h => absurd h hnot, fun h => absurd hnan h⟩, fun _ => hnan, fun _ => hrun⟩
  · have hsettled : Settled env := settled_of_not_nan hnan
    refine ⟨⟨fun _ => hnan, fun _ => hsettled⟩, ?_, fun h => absurd h hnan⟩
    intro hrun
    exact absurd hsettled (not_settled_of_timeoutRange hrun)

/-- The word for not-a-number gets past the reading and is refused by the settings, which do not
name the variable. -/
theorem not_settled_notANumber : ¬ Settled [(timeoutName, "nan")] ∧
    ofEnvironment [(timeoutName, "nan")] = .error .timeoutRange ∧
    SettingsProblem.timeoutRange.message = "http_timeout_s: Input should be greater than 0" := by
  have hrun : ofEnvironment [(timeoutName, "nan")] = .error .timeoutRange := rfl
  exact ⟨not_settled_of_timeoutRange hrun, hrun, rfl⟩

end Settings

end Golden

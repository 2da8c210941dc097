/-
  Golden.Proofs.Text.Pattern
  ────────────────────────────────
  **PATTERNS, MATCHED BY TRYING AND GOING BACK.**

  A pattern is a list of elements.  From a place in a text an element leads to
  several places, in the order in which a matcher tries them: a run of
  characters is first taken as long as it goes, and then one character shorter
  each time the rest of the pattern fails behind it.  The match is the first
  place to which all elements in a row lead:

      match? (e :: p) at  =  (e.places at).findSome? (match? p)

  `replace` goes through a text from its start and puts what a match has kept
  in the place of the match.  A pattern that asks for the start of the text
  first is met once or not at all.
-/
import Mathlib.Data.List.Basic

namespace Golden.Text

/-! ## §1. Runs of characters. -/

/-- The ways to take a run of characters of a class from the front, the longest first: what is
taken, and what is left. -/
def runs (test : Char → Bool) : List Char → List (List Char × List Char)
  | [] => [([], [])]
  | c :: s =>
      (if test c then (runs test s).map (fun r => (c :: r.1, r.2)) else []) ++ [([], c :: s)]

theorem mem_runs {test : Char → Bool} {s taken left : List Char} :
    (taken, left) ∈ runs test s ↔ taken ++ left = s ∧ ∀ c ∈ taken, test c = true := by
  induction s generalizing taken with
  | nil =>
      rw [runs, List.mem_singleton, Prod.mk.injEq, List.append_eq_nil_iff]
      constructor
      · rintro ⟨rfl, rfl⟩
        exact ⟨⟨rfl, rfl⟩, by simp⟩
      · exact fun h => h.1
  | cons c s ih =>
      rw [runs, List.mem_append, List.mem_singleton, Prod.mk.injEq]
      constructor
      · rintro (h | ⟨rfl, rfl⟩)
        · split at h
          · next hc =>
              obtain ⟨⟨t, l⟩, hr, heq⟩ := List.mem_map.mp h
              obtain ⟨rfl, rfl⟩ := Prod.mk.inj heq
              obtain ⟨rfl, ht⟩ := ih.mp hr
              exact ⟨rfl, List.forall_mem_cons.mpr ⟨hc, ht⟩⟩
          · cases h
        · exact ⟨rfl, by simp⟩
      · rintro ⟨happend, htest⟩
        cases taken with
        | nil => exact Or.inr ⟨rfl, happend⟩
        | cons d t =>
            obtain ⟨rfl, rfl⟩ := List.cons.inj happend
            obtain ⟨hd, ht⟩ := List.forall_mem_cons.mp htest
            rw [if_pos hd]
            exact Or.inl (List.mem_map.mpr ⟨(t, left), ih.mpr ⟨rfl, ht⟩, rfl⟩)

/-- The first run that is tried is the whole text, where all of it is of the class. -/
theorem head?_runs_of_forall {test : Char → Bool} {s : List Char}
    (h : ∀ c ∈ s, test c = true) : (runs test s).head? = some (s, []) := by
  induction s with
  | nil => rfl
  | cons c s ih =>
      obtain ⟨hc, hs⟩ := List.forall_mem_cons.mp h
      rw [runs, if_pos hc, List.head?_append, List.head?_map, ih hs]
      rfl

/-! ## §2. Patterns. -/

/-- One element of a pattern. -/
inductive Element
  /-- The start of the text. -/
  | start
  /-- The end of the text, or the place before a line feed at its end. -/
  | finish
  /-- One character of a class. -/
  | one (test : Char → Bool)
  /-- Any number of characters of a class. -/
  | run (test : Char → Bool)
  /-- At least one character of a class; the run is kept. -/
  | keep (test : Char → Bool)

/-- A sequence of elements. -/
abbrev Pattern := List Element

/-- A place in a text: the number of characters before it, those behind it, and the run that was
kept on the way. -/
structure Place where
  offset : Nat
  rest : List Char
  kept : List Char

/-- The place behind a run, from what is taken and what is left. -/
def Place.behind (p : Place) (r : List Char × List Char) : Place :=
  ⟨p.offset + r.1.length, r.2, p.kept⟩

/-- The place behind a run that is kept. -/
def Place.keeping (p : Place) (r : List Char × List Char) : Place :=
  ⟨p.offset + r.1.length, r.2, r.1⟩

/-- The places to which an element leads, in the order in which they are tried. -/
def Element.places : Element → Place → List Place
  | .start, p => if p.offset = 0 then [p] else []
  | .finish, p => if p.rest = [] ∨ p.rest = ['\n'] then [p] else []
  | .one test, p =>
      match p.rest with
      | [] => []
      | c :: s => if test c then [p.behind ([c], s)] else []
  | .run test, p => (runs test p.rest).map p.behind
  | .keep test, p => ((runs test p.rest).filter (fun r => r.1 ≠ [])).map p.keeping

namespace Pattern

/-- The places to which a pattern leads, in the order in which they are tried. -/
def places : Pattern → Place → List Place
  | [], p => [p]
  | e :: es, p => (e.places p).flatMap (places es)

/-- The place behind the match that is found first. -/
def match? (es : Pattern) (p : Place) : Option Place := (es.places p).head?

/-- The first place from which the rest of the pattern goes on decides. -/
theorem match?_cons (e : Element) (es : Pattern) (p : Place) :
    match? (e :: es) p = (e.places p).findSome? (match? es) := by
  unfold match?
  rw [places, List.head?_flatMap]

/-! ## §3. Replacing. -/

/-- Go through a text and replace each match, which has at least one character, by what it kept. -/
def replaceFrom (es : Pattern) (offset : Nat) : List Char → List Char
  | [] => []
  | c :: s =>
      match es.match? ⟨offset, c :: s, []⟩ with
      | none => c :: replaceFrom es (offset + 1) s
      | some p =>
          if p.rest.length ≤ s.length then p.kept ++ replaceFrom es p.offset p.rest
          else c :: replaceFrom es (offset + 1) s
termination_by s => s.length
decreasing_by all_goals simp only [List.length_cons]; omega

/-- A text in which each match is replaced by what it kept. -/
def replace (es : Pattern) (s : List Char) : List Char := replaceFrom es 0 s

theorem match?_start (es : Pattern) (p : Place) :
    match? (.start :: es) p = if p.offset = 0 then match? es p else none := by
  rw [match?_cons, Element.places]
  split
  · exact List.findSome?_singleton
  · rfl

/-- Behind the start of a text, a pattern that asks for the start is not met again. -/
theorem replaceFrom_start (es : Pattern) {offset : Nat} (h : 0 < offset) (s : List Char) :
    replaceFrom (.start :: es) offset s = s := by
  induction s generalizing offset with
  | nil => rw [replaceFrom]
  | cons c s ih =>
      have hnone : match? (.start :: es) ⟨offset, c :: s, []⟩ = none := by
        rw [match?_start]
        exact if_neg (show ¬ offset = 0 by omega)
      rw [replaceFrom, hnone]
      show c :: replaceFrom (.start :: es) (offset + 1) s = c :: s
      rw [ih (by omega)]

theorem replace_start_of_none {es : Pattern} {s : List Char}
    (h : match? es ⟨0, s, []⟩ = none) : replace (.start :: es) s = s := by
  unfold replace
  cases s with
  | nil => rw [replaceFrom]
  | cons c s =>
      have hnone : match? (.start :: es) ⟨0, c :: s, []⟩ = none := by
        rw [match?_start]
        exact (if_pos rfl).trans h
      rw [replaceFrom, hnone]
      show c :: replaceFrom (.start :: es) 1 s = c :: s
      rw [replaceFrom_start es (by omega)]

theorem replace_start_of_some {es : Pattern} {s : List Char} {p : Place}
    (h : match? es ⟨0, s, []⟩ = some p) (hoffset : 0 < p.offset)
    (hrest : p.rest.length < s.length) : replace (.start :: es) s = p.kept ++ p.rest := by
  unfold replace
  cases s with
  | nil => exact absurd hrest (by simp)
  | cons c s =>
      have hsome : match? (.start :: es) ⟨0, c :: s, []⟩ = some p := by
        rw [match?_start]
        exact (if_pos rfl).trans h
      have hle : p.rest.length ≤ s.length := by
        rw [List.length_cons] at hrest
        omega
      rw [replaceFrom, hsome]
      dsimp only
      rw [if_pos hle, replaceFrom_start es hoffset]

end Pattern

end Golden.Text

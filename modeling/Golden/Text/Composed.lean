/-
  Golden.Text.Composed
  ────────────────────────────────
  **COMPOSED TEXTS.**

  A text is composed if no character of it could be joined with marks behind it
  to a single one, and its marks stand in order.  To see that, composed
  characters are taken apart, the marks are put in order, and all is composed
  again: a composed text comes back as it was, provided that it has none of the
  characters that never stand in one.
-/
import Golden.Text.Composed.Order
import Golden.Text.Composed.Pairs

namespace Golden.Text

/-! ## §1. Syllables of Hangul. -/

/-- The first syllable. -/
def syllableBase : Nat := 0xac00

/-- The number of syllables. -/
def syllableCount : Nat := 11172

/-- The first leading consonant, of 19. -/
def leadingBase : Nat := 0x1100

/-- The first vowel, of 21. -/
def vowelBase : Nat := 0x1161

/-- The code point before the first trailing consonant, of 27. -/
def trailingBase : Nat := 0x11a7

/-- The place of a code point among so many from a base. -/
def placeFrom? (base count code : Nat) : Option Nat :=
  if base ≤ code ∧ code < base + count then some (code - base) else none

/-- The letters of a syllable. -/
def lettersOf? (code : Nat) : Option (List Nat) :=
  (placeFrom? syllableBase syllableCount code).map (fun place =>
    let trailing := place % 28
    [leadingBase + place / 588, vowelBase + place % 588 / 28] ++
      if trailing = 0 then [] else [trailingBase + trailing])

/-- The syllable of two letters, or of a syllable without a trailing consonant and that. -/
def syllable? (first second : Nat) : Option Nat :=
  match placeFrom? leadingBase 19 first, placeFrom? vowelBase 21 second with
  | some l, some v => some (syllableBase + (21 * l + v) * 28)
  | _, _ =>
      match placeFrom? syllableBase syllableCount first,
          placeFrom? (trailingBase + 1) 27 second with
      | some s, some t => if s % 28 = 0 then some (first + t + 1) else none
      | _, _ => none

/-! ## §2. Taking apart and composing. -/

/-- How often a character can be taken apart into two. -/
def maxDepth : Nat := 3

/-- The code points that one stands for, taken apart so often. -/
def expand : Nat → Nat → List Nat
  | 0, code => [code]
  | depth + 1, code =>
      match compositions.find? (·.1 == code) with
      | some (_, first, second) => expand depth first ++ [second]
      | none => (lettersOf? code).getD [code]

/-- The code point that stands for two. -/
def compose? (first second : Nat) : Option Nat :=
  match syllable? first second with
  | some code => some code
  | none => (compositions.find? (fun c => c.2 == (first, second))).map (·.1)

/-- Whether a code point can reach the start in front of the marks. -/
def reachesOver (marks : List Nat) (code : Nat) : Bool :=
  match marks.getLast? with
  | none => true
  | some mark => combiningClass mark < combiningClass code

/-- Compose a start, the marks behind it that stay, and what follows. -/
def composeFrom (start : Nat) (marks : List Nat) : List Nat → List Nat
  | [] => start :: marks
  | code :: rest =>
      match if reachesOver marks code then compose? start code else none with
      | some joined => composeFrom joined marks rest
      | none =>
          if combiningClass code = 0 then start :: (marks ++ composeFrom code [] rest)
          else composeFrom start (marks ++ [code]) rest

/-- Compose code points; marks at their start stay. -/
def compose : List Nat → List Nat
  | [] => []
  | code :: rest =>
      if combiningClass code = 0 then composeFrom code [] rest else code :: compose rest

/-! ## §3. Composed texts. -/

/-- The code points that never stand in a composed text. -/
def uncomposedRanges : List (Nat × Nat) :=
 [(0x340, 0x341), (0x343, 0x344), (0x374, 0x374), (0x37e, 0x37e), (0x387, 0x387), (0x958, 0x95f),
   (0x9dc, 0x9dd), (0x9df, 0x9df), (0xa33, 0xa33), (0xa36, 0xa36), (0xa59, 0xa5b), (0xa5e, 0xa5e),
   (0xb5c, 0xb5d), (0xf43, 0xf43), (0xf4d, 0xf4d), (0xf52, 0xf52), (0xf57, 0xf57), (0xf5c, 0xf5c),
   (0xf69, 0xf69), (0xf73, 0xf73), (0xf75, 0xf76), (0xf78, 0xf78), (0xf81, 0xf81), (0xf93, 0xf93),
   (0xf9d, 0xf9d), (0xfa2, 0xfa2), (0xfa7, 0xfa7), (0xfac, 0xfac), (0xfb9, 0xfb9), (0x1f71, 0x1f71),
   (0x1f73, 0x1f73), (0x1f75, 0x1f75), (0x1f77, 0x1f77), (0x1f79, 0x1f79), (0x1f7b, 0x1f7b),
   (0x1f7d, 0x1f7d), (0x1fbb, 0x1fbb), (0x1fbe, 0x1fbe), (0x1fc9, 0x1fc9), (0x1fcb, 0x1fcb),
   (0x1fd3, 0x1fd3), (0x1fdb, 0x1fdb), (0x1fe3, 0x1fe3), (0x1feb, 0x1feb), (0x1fee, 0x1fef),
   (0x1ff9, 0x1ff9), (0x1ffb, 0x1ffb), (0x1ffd, 0x1ffd), (0x2000, 0x2001), (0x2126, 0x2126),
   (0x212a, 0x212b), (0x2329, 0x232a), (0x2adc, 0x2adc), (0xf900, 0xfa0d), (0xfa10, 0xfa10),
   (0xfa12, 0xfa12), (0xfa15, 0xfa1e), (0xfa20, 0xfa20), (0xfa22, 0xfa22), (0xfa25, 0xfa26),
   (0xfa2a, 0xfa6d), (0xfa70, 0xfad9), (0xfb1d, 0xfb1d), (0xfb1f, 0xfb1f), (0xfb2a, 0xfb36),
   (0xfb38, 0xfb3c), (0xfb3e, 0xfb3e), (0xfb40, 0xfb41), (0xfb43, 0xfb44), (0xfb46, 0xfb4e),
   (0x1d15e, 0x1d164), (0x1d1bb, 0x1d1c0), (0x2f800, 0x2fa1d)]

/-- Whether a text is composed. -/
def isComposed (codes : List Nat) : Bool :=
  codes.all (fun code => !inRanges code uncomposedRanges) &&
    compose (reorder (codes.flatMap (expand maxDepth))) == codes

end Golden.Text

/-
  Golden.Text.Ranges
  ────────────────────────────────
  **TABLES OF CODE POINTS.**

  Tables hold closed ranges of code points in ascending order, with or without
  a value each, and are searched from the start.
-/

namespace Golden.Text

/-- Whether a code point lies in one of the ranges of an ascending table. -/
def inRanges (code : Nat) : List (Nat × Nat) → Bool
  | [] => false
  | (low, high) :: rest => if code ≤ high then low ≤ code else inRanges code rest

/-- The value of a code point in an ascending table. -/
def rangeValue? {α : Type} (code : Nat) : List (Nat × Nat × α) → Option α
  | [] => none
  | (low, high, value) :: rest =>
      if code ≤ high then (if low ≤ code then some value else none) else rangeValue? code rest

end Golden.Text

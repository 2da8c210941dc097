/-
  Golden.Text.Pieces
  ────────────────────────────────
  **THE PIECES OF A TEXT.**

  Marks cut a text into pieces, one more than there are marks; a piece is empty
  where two marks meet or one stands at an end:

      pieces '/' "a//b"  =  ["a", "", "b"]
-/

namespace Golden

/-- The pieces of a list between its members of a kind. -/
def piecesBetween {α : Type} (isMark : α → Bool) : List α → List (List α)
  | [] => [[]]
  | c :: rest =>
      if isMark c then [] :: piecesBetween isMark rest
      else
        match piecesBetween isMark rest with
        | [] => [[c]]
        | p :: ps => (c :: p) :: ps

/-- The pieces of a text between the occurrences of a character. -/
def pieces (mark : Char) (s : List Char) : List (List Char) := piecesBetween (· == mark) s

end Golden

/-
  Golden.Agent.Header
  ────────────────────────────────
  **HEADER VALUES.**

  A header value is ASCII.  A fault names the first run of other characters,
  by its one character or by its bounds.
-/
import Golden.Decimal.Shortest
import Golden.Text.Quoted

namespace Golden.Agent

/-- The first run of characters beyond ASCII in a header value. -/
structure HeaderFault where
  position : Nat
  run : List Char
  deriving DecidableEq, Inhabited

/-- The words for a fault of a header value. -/
def HeaderFault.message (f : HeaderFault) : String :=
  "'ascii' codec can't encode " ++
    (match f.run with
      | [c] =>
          "character '" ++ String.ofList (Text.numbered c.toNat) ++ "' in position " ++
            Decimal.intText f.position
      | run =>
          "characters in position " ++ Decimal.intText f.position ++ "-" ++
            Decimal.intText (f.position + run.length - 1 : Nat)) ++
    ": ordinal not in range(128)"

/-- Whether the character is one of ASCII. -/
def isAscii (c : Char) : Bool := c.toNat < 128

/-- The fault of a header value, if it has one. -/
def headerFault? (value : String) : Option HeaderFault :=
  let front := value.toList.takeWhile isAscii
  match value.toList.drop front.length with
  | [] => none
  | rest => some ⟨front.length, rest.takeWhile (fun c => !isAscii c)⟩

end Golden.Agent

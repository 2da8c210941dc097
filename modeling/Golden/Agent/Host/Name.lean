/-
  Golden.Agent.Host.Name
  ────────────────────────────────
  **INTERNATIONAL HOST NAMES.**

  A host name is a list of labels with points between them, and perhaps one at
  its end.  Three more characters count as points and are written as such.  The
  labels beyond ASCII are written in ASCII, and can be read back:

      nameToAscii "bücher。example"  =  "xn--bcher-kva.example"
-/
import Golden.Agent.Host.Label
import Golden.Text.Lowercase
import Golden.Text.Pieces

namespace Golden.Agent.Host

/-- Whether a code point separates labels: the point, or one of those of Chinese and Japanese. -/
def isPoint (code : Nat) : Bool :=
  code == 0x2e || code == 0x3002 || code == 0xff0e || code == 0xff61

/-- The labels of a name, and whether a point follows the last of them. -/
def splitLabels (name : List Nat) : Except Problem (List (List Nat) × Bool) :=
  let labels := piecesBetween isPoint name
  if maxNameLength < name.length then .error .longName
  else if labels = [[]] then .error .emptyName
  else if labels.getLast? = some [] then .ok (labels.dropLast, true)
  else .ok (labels, false)

/-- A name of labels. -/
def joinLabels (labels : List (List Nat)) (closed : Bool) : List Nat :=
  [0x2e].intercalate (if closed then labels ++ [[]] else labels)

/-- The name in ASCII. -/
def nameToAscii (name : List Nat) : Except Problem (List Nat) := do
  let (labels, closed) ← splitLabels name
  let written := joinLabels (← labels.mapM toAscii) closed
  if (if closed then maxNameLength else maxNameLength - 1) < written.length then throw .longName
  else pure written

/-- The name that a name in ASCII writes. -/
def readName (name : List Nat) : Except Problem (List Nat) := do
  let (labels, closed) ← splitLabels name
  pure (joinLabels (← labels.mapM readLabel) closed)

/-- The characters of a host, small and in ASCII, as a name is asked for. -/
def normalName (host : List Char) : Except Problem (List Char) := do
  pure ((← nameToAscii (Text.lower (host.map Char.toNat))).map Char.ofNat)

/-- The problem of a host that is written in ASCII, if its first label writes one beyond it. -/
def problemOf? (host : List Char) : Option Problem :=
  let codes := host.map Char.toNat
  if asciiPrefix.isPrefixOf codes then
    match readName codes with
    | .ok _ => none
    | .error p => some p
  else none

end Golden.Agent.Host

/-
  Golden.Position
  ────────────────────────────────
  **POSITIONS IN A TREE AND THEIR PATH TEXTS.**

  A position is the list of steps from the root: keys of objects and indices
  of arrays.  Its text starts with a dollar sign and adds `.key` for a plain
  key, `[n]` for an index and for a number or boolean as key, and `["key"]`,
  quoted as in the interchange format, for every other key:

      $.hits[0].docInfo["a.xml"]
-/
import Golden.Value.Literal
import Golden.Json.Quoted

namespace Golden

/-- One step into a tree. -/
inductive Step
  | key (k : Value)
  | index (i : Nat)
  deriving Inhabited

/-- The steps from the root to a place in a tree. -/
abbrev Position := List Step

/-- Whether the character may start a plain key. -/
def startsPlainKey (c : Char) : Bool :=
  ('A' ≤ c && c ≤ 'Z') || ('a' ≤ c && c ≤ 'z') || c == '_'

/-- Whether the character may continue a plain key. -/
def continuesPlainKey (c : Char) : Bool :=
  startsPlainKey c || ('0' ≤ c && c ≤ '9')

/-- Whether a key is a plain one: an ASCII letter or underscore, then letters, digits, underscores. -/
def isPlainKey (s : String) : Bool :=
  match s.toList with
  | [] => false
  | c :: cs => startsPlainKey c && cs.all continuesPlainKey

namespace Step

/-- The text that a key adds to a path. -/
def keyText (s : String) : String :=
  if isPlainKey s then "." ++ s else "[" ++ Json.quote s ++ "]"

/-- The text that a step adds to a path. -/
def text : Step → String
  | .index i => "[" ++ Decimal.intText i ++ "]"
  | .key (.int n) => "[" ++ Decimal.intText n ++ "]"
  | .key (.bool b) => "[" ++ Value.plain (.bool b) ++ "]"
  | .key k => keyText k.plain

end Step

/-- The path text of a position. -/
def Position.text (p : Position) : String :=
  p.foldl (fun path step => path ++ step.text) "$"

end Golden

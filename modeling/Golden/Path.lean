/-
  Golden.Path
  ────────────────────────────────
  **PATHS AND LOCATIONS.**

  A path is text that has been brought into normal form: empty and `.`
  components are gone, `..` stays, and of several leading slashes exactly two
  stay two while three or more become one.  A location is where something is
  in the tree: the names from the root, none of them a slash, a `.` or a `..`.

      a//b/./c  ↦  a/b/c        ///x  ↦  /x        (empty)  ↦  .
-/
import Golden.Text.Pieces
import Golden.Text.Quoted

namespace Golden

/-! ## §1. Components. -/

/-- The names between the slashes of a text. -/
def components (s : String) : List String := (pieces '/' s.toList).map String.ofList

/-- Whether a component leaves the place unchanged. -/
def isIdle (name : String) : Bool := name == "" || name == "."

/-- Whether a text starts at the root. -/
def isAbsolute (s : String) : Bool := s.toList.head? == some '/'

/-! ## §2. Paths. -/

/-- Where a path starts. -/
inductive Anchor
  | here
  | root
  | doubleRoot
  deriving DecidableEq, Repr, Inhabited

/-- What an anchor is written as. -/
def Anchor.text : Anchor → String
  | .here => ""
  | .root => "/"
  | .doubleRoot => "//"

/-- A path in normal form. -/
structure Path where
  anchor : Anchor
  names : List String
  deriving DecidableEq, Repr, Inhabited

namespace Path

/-- The anchor that the leading slashes of a text make. -/
def anchorOf (s : String) : Anchor :=
  match (s.toList.takeWhile (· == '/')).length with
  | 0 => .here
  | 2 => .doubleRoot
  | _ => .root

/-- The path that a text writes. -/
def ofString (s : String) : Path :=
  ⟨anchorOf s, (components s).filter (fun name => !isIdle name)⟩

/-- The text of a path; the empty path is a dot. -/
def text (p : Path) : String :=
  let s := p.anchor.text ++ "/".intercalate p.names
  if s = "" then "." else s

/-- The path with one more name. -/
def child (p : Path) (name : String) : Path := ⟨p.anchor, p.names ++ [name]⟩

/-- The path without its last name. -/
def parent (p : Path) : Path := ⟨p.anchor, p.names.dropLast⟩

/-- Whether a path starts with all of another. -/
def isWithin (p root : Path) : Bool := p.anchor == root.anchor && root.names.isPrefixOf p.names

/-- The unambiguous text of a path in a message. -/
def literal (p : Path) : String := "PosixPath(" ++ Text.quote p.text ++ ")"

end Path

/-! ## §3. Locations. -/

/-- The names from the root to a place in the tree. -/
abbrev Location := List String

namespace Location

/-- The text of a location. -/
def text (loc : Location) : String := "/" ++ "/".intercalate loc

/-- The location that contains this one; the root contains itself. -/
def parent (loc : Location) : Location := loc.dropLast

/-- Follow names without looking at the tree: `..` goes back one name. -/
def step (loc : Location) (name : String) : Location :=
  if isIdle name then loc
  else if name = ".." then parent loc
  else loc ++ [name]

/-- Where a list of names leads without looking at the tree. -/
def follow (loc : Location) (names : List String) : Location := names.foldl step loc

end Location

end Golden

/-
  Golden.Name.Template
  ────────────────────────────────
  **REPLACEMENT TEMPLATES.**

  What takes the place of unsafe characters is written as a template: plain
  text in which a backslash starts an escape.  `\n` and its kin are control
  characters, digits write a character in octal or refer to a group, `\g<…>`
  refers to a group by number or name, and a backslash before anything but an
  ASCII letter stands for itself:

      "_"        the underscore
      "\g<0>"    the characters that are replaced
      "\101"     the letter A

  The patterns in use have no groups of their own, so group zero, the whole
  match, is the only one; a reference to another is a fault.
-/
import Golden.Decimal.Read
import Golden.Text.Identifier
import Golden.Text.Quoted

namespace Golden.Name

/-! ## §1. Tokens. -/

/-- A character of a template or a backslash with the character behind it; `stray` is a backslash
at the very end. -/
inductive Token
  | plain (c : Char)
  | escaped (c : Char)
  | stray
  deriving DecidableEq, Inhabited

namespace Token

/-- The number of characters of a token. -/
def width : Token → Nat
  | .plain _ => 1
  | .escaped _ => 2
  | .stray => 1

/-- The characters of a token. -/
def chars : Token → List Char
  | .plain c => [c]
  | .escaped c => ['\\', c]
  | .stray => ['\\']

/-- The tokens of a template. -/
def scan : List Char → List Token
  | [] => []
  | ['\\'] => [.stray]
  | '\\' :: c :: rest => .escaped c :: scan rest
  | c :: rest => .plain c :: scan rest

/-- The number of characters of several tokens. -/
def widths : List Token → Nat
  | [] => 0
  | t :: rest => t.width + widths rest

end Token

/-! ## §2. Faults. -/

/-- Why a template cannot be used. -/
inductive TemplateProblem
  | badEscape (c : Char)
  | strayBackslash
  | missingOpening
  | missingName
  | unterminatedName
  | badName (name : List Char)
  | noSuchGroup (number : Nat)
  | octalRange (digits : List Char)
  deriving DecidableEq, Inhabited

/-- A fault of a template: a problem at a character position, or a group name that nothing has. -/
inductive TemplateFault
  | at (problem : TemplateProblem) (position : Nat)
  | unknownName (name : List Char)
  deriving DecidableEq, Inhabited

/-- The words for a problem. -/
def TemplateProblem.text : TemplateProblem → String
  | .badEscape c => "bad escape " ++ String.ofList ['\\', c]
  | .strayBackslash => "bad escape (end of pattern)"
  | .missingOpening => "missing <"
  | .missingName => "missing group name"
  | .unterminatedName => "missing >, unterminated name"
  | .badName name => "bad character in group name " ++ Text.quote (String.ofList name)
  | .noSuchGroup n => "invalid group reference " ++ String.ofList (Nat.toDigits 10 n)
  | .octalRange ds =>
      "octal escape value " ++ String.ofList ('\\' :: ds) ++ " outside of range 0-0o377"

/-- The words for a fault of a template; a template of several lines has the line as well. -/
def TemplateFault.message (template : String) : TemplateFault → String
  | .unknownName name => "unknown group name " ++ Text.quote (String.ofList name)
  | .at problem position =>
      let number (n : Nat) : String := String.ofList (Nat.toDigits 10 n)
      let before := template.toList.take position
      let lines := before.filter (· == '\n')
      let column := (before.reverse.takeWhile (· != '\n')).length + 1
      problem.text ++ " at position " ++ number position ++
        (if template.toList.contains '\n' then
          " (line " ++ number (lines.length + 1) ++ ", column " ++ number column ++ ")"
        else "")

/-! ## §3. Templates. -/

/-- A piece of a template. -/
inductive Piece
  | literal (c : Char)
  | wholeMatch
  deriving DecidableEq, Inhabited

/-- A template as its pieces. -/
abbrev Template := List Piece

/-- What a template makes of a match. -/
def Template.expand (t : Template) (found : List Char) : List Char :=
  t.flatMap fun
    | .literal c => [c]
    | .wholeMatch => found

/-- Whether the character is an octal digit. -/
def isOctal (c : Char) : Bool := '0' ≤ c && c ≤ '7'

/-- The number that octal digits write. -/
def octal (ds : List Char) : Nat := ds.foldl (fun n c => 8 * n + Decimal.digitValue c) 0

/-- The control characters with a letter of their own, and the backslash. -/
def controlEscape? : Char → Option Char
  | 'a' => some '\x07'
  | 'b' => some '\x08'
  | 'f' => some '\x0c'
  | 'n' => some '\n'
  | 'r' => some '\r'
  | 't' => some '\t'
  | 'v' => some '\x0b'
  | '\\' => some '\\'
  | _ => none

/-- The group that a name refers to, at a position. -/
def groupOf (name : List Char) (position : Nat) : Except TemplateFault Piece :=
  if Text.isIdentifier name then .error (.unknownName name)
  else
    match Decimal.readInt? name with
    | some 0 => .ok .wholeMatch
    | some (.ofNat n) => .error (.at (.noSuchGroup n) position)
    | _ => .error (.at (.badName name) position)

/-- A piece of a template, or its fault, with the number of tokens it takes behind its first one. -/
structure Reading where
  used : Nat
  pieces : Except TemplateFault Template

/-- Read a reference by name or number behind its letter, from the tokens that follow; `left` is
the position of a list of tokens that ends the template. -/
def readReference (left : List Token → Nat) (rest : List Token) : Reading :=
  match rest with
  | .plain '<' :: inner =>
      let name := inner.takeWhile (fun t => t != .plain '>' && t != .stray)
      let after := inner.drop name.length
      if after.head? = some (.plain '>') then
        ⟨name.length + 2,
          if name.isEmpty then .error (.at .missingName (left after))
          else (groupOf (name.flatMap Token.chars) (left inner)).map ([·])⟩
      else
        ⟨name.length + 1,
          if name.isEmpty then .error (.at .missingName (left after))
          else .error (.at .unterminatedName (left inner))⟩
  | _ => ⟨0, .error (.at .missingOpening (left rest))⟩

/-- The digits, at most so many, that the given tokens start with. -/
def leadingDigits (p : Char → Bool) (most : Nat) (ts : List Token) : List Char :=
  ((ts.take most).takeWhile (fun
    | .plain c => p c
    | _ => false)).flatMap Token.chars

/-- Read an escape that starts with a digit: three octal digits write a character, a leading zero
one of fewer digits, and anything else refers to a group. -/
def readNumber (here : Nat) (c : Char) (rest : List Token) : Reading :=
  if c = '0' then
    let more := leadingDigits isOctal 2 rest
    ⟨more.length, .ok [.literal (Char.ofNat (octal more % 256))]⟩
  else
    match leadingDigits Decimal.isDigit 1 rest with
    | [] => ⟨0, .error (.at (.noSuchGroup (Decimal.natOf [c])) (here + 1))⟩
    | second =>
        let ds := c :: leadingDigits isOctal 2 rest
        if isOctal c && ds.length = 3 then
          ⟨2, if 255 < octal ds then .error (.at (.octalRange ds) here)
              else .ok [.literal (Char.ofNat (octal ds))]⟩
        else ⟨1, .error (.at (.noSuchGroup (Decimal.natOf (c :: second))) (here + 1))⟩

/-- Read an escape by a character that is neither a digit nor the letter of a reference. -/
def readEscape (here : Nat) (c : Char) : Reading :=
  match controlEscape? c with
  | some control => ⟨0, .ok [.literal control]⟩
  | none =>
      if c.isAlpha then ⟨0, .error (.at (.badEscape c) here)⟩
      else ⟨0, .ok [.literal '\\', .literal c]⟩

/-- Read what starts at a token; `left` as in `readReference`. -/
def readToken (left : List Token → Nat) (t : Token) (rest : List Token) : Reading :=
  match t with
  | .plain c => ⟨0, .ok [.literal c]⟩
  | .stray => ⟨0, .error (.at .strayBackslash (left [t]))⟩
  | .escaped c =>
      if c = 'g' then readReference left rest
      else if Decimal.isDigit c then readNumber (left (t :: rest)) c rest
      else readEscape (left (t :: rest)) c

/-- Read the pieces of a template of the given length.  A stray backslash is noticed as soon as the
token before it is taken, before any other fault of what takes it. -/
def readPieces (length : Nat) : List Token → Except TemplateFault Template
  | [] => .ok []
  | t :: rest =>
      let reading := readToken (fun ts => length - Token.widths ts) t rest
      let after := rest.drop reading.used
      if after = [.stray] then .error (.at .strayBackslash (length - 1))
      else do
        let pieces ← reading.pieces
        let more ← readPieces length after
        pure (pieces ++ more)
termination_by ts => ts.length
decreasing_by simp only [List.length_drop, List.length_cons]; omega

/-- The template that a text writes. -/
def Template.read (s : String) : Except TemplateFault Template :=
  readPieces s.toList.length (Token.scan s.toList)

end Golden.Name

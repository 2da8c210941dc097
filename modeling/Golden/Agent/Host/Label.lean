/-
  Golden.Agent.Host.Label
  ────────────────────────────────
  **LABELS OF INTERNATIONAL HOST NAMES.**

  A label is composed, does not start with a mark, has no hyphen at its ends nor
  two in the third and fourth place, holds admitted characters in their contexts
  alone, and keeps to one direction of writing.  A label beyond ASCII is written
  in ASCII behind a prefix, in one way only:

      toAscii "bücher"  =  "xn--bcher-kva"        ofAscii "xn--bcher-kva"  =  "bücher"
-/
import Golden.Decimal.Shortest
import Golden.Agent.Host.Joining
import Golden.Agent.Host.Permitted
import Golden.Agent.Host.Punycode
import Golden.Agent.Host.Script
import Golden.Text.Composed
import Golden.Text.Direction
import Golden.Text.Quoted

namespace Golden.Agent.Host

/-! ## §1. Problems. -/

/-- Why a host name is refused.  Positions count from one. -/
inductive Problem
  | longName
  | emptyName
  | emptyLabel
  | longLabel
  | notComposed
  | innerHyphens
  | outerHyphen
  | leadingMark
  | unknownCode (code position : Nat) (label : List Nat)
  | misplacedCode (code position : Nat) (label : List Nat)
  | misplacedJoiner (code position : Nat) (label : List Nat)
  | noDirection (position : Nat) (label : List Nat)
  | startDirection (label : List Nat)
  | leftDirection (position : Nat)
  | rightDirection (position : Nat)
  | mixedNumbers
  | endDirection
  | nothingWritten
  | endHyphen
  | unreadable
  | otherSpelling
  deriving DecidableEq, Repr, Inhabited

/-- A code point by its number: at least four hexadecimal digits, in capitals. -/
def codeText (code : Nat) : String :=
  "U+" ++ String.ofList ((Text.hex 4 code).map Char.toUpper)

/-- The words for why a host name is refused. -/
def Problem.message : Problem → String
  | .longName => "Domain too long"
  | .emptyName => "Empty domain"
  | .emptyLabel => "Empty Label"
  | .longLabel => "Label too long"
  | .notComposed => "Label must be in Normalization Form C"
  | .innerHyphens => "Label has disallowed hyphens in 3rd and 4th position"
  | .outerHyphen => "Label must not start or end with a hyphen"
  | .leadingMark => "Label begins with an illegal combining character"
  | .unknownCode code position label =>
      "Codepoint " ++ codeText code ++ " at position " ++ Decimal.intText position ++ " of " ++
        Text.quoteCodes label ++ " not allowed"
  | .misplacedCode code position label =>
      "Codepoint " ++ codeText code ++ " not allowed at position " ++ Decimal.intText position ++
        " in " ++ Text.quoteCodes label
  | .misplacedJoiner code position label =>
      "Unknown codepoint adjacent to joiner " ++ codeText code ++ " at position " ++
        Decimal.intText position ++ " in " ++ Text.quoteCodes label
  | .noDirection position label =>
      "Unknown directionality in label " ++ Text.quoteCodes label ++ " at position " ++
        Decimal.intText position
  | .startDirection label =>
      "First codepoint in label " ++ Text.quoteCodes label ++
        " must be directionality L, R or AL"
  | .leftDirection position =>
      "Invalid direction for codepoint at position " ++ Decimal.intText position ++
        " in a right-to-left label"
  | .rightDirection position =>
      "Invalid direction for codepoint at position " ++ Decimal.intText position ++
        " in a left-to-right label"
  | .mixedNumbers => "Can not mix numeral types in a right-to-left label"
  | .endDirection => "Label ends with illegal codepoint directionality"
  | .nothingWritten => "Malformed A-label, no Punycode eligible content found"
  | .endHyphen => "A-label must not end with a hyphen"
  | .unreadable => "Invalid A-label"
  | .otherSpelling => "A-label is not the canonical Punycode encoding of its U-label"

/-! ## §2. Characters in their contexts. -/

/-- The class of the marks that take the vowel from a letter. -/
def viramaClass : Nat := 9

/-- Whether a joiner fits: behind a mark that takes a vowel away, or, for the one that keeps letters
apart, between two letters that would join. -/
def joinerFits (code : Nat) (before behind : List Nat) : Bool :=
  match before with
  | [] => false
  | last :: _ =>
      let mark := Text.combiningClass last
      mark == viramaClass ||
        (code == 0x200c && (mark != 0 || Text.isNamed last) &&
          (before.find? (fun c => !isTransparent c)).any joinsFollowing &&
          (behind.find? (fun c => !isTransparent c)).any joinsPreceding)

/-- Whether a code point is a numeral of Arabic. -/
def isArabicNumeral (code : Nat) : Bool := 0x660 ≤ code && code ≤ 0x669

/-- Whether a code point is a numeral of Persian and Urdu. -/
def isExtendedNumeral (code : Nat) : Bool := 0x6f0 ≤ code && code ≤ 0x6f9

/-- Whether another character that is admitted next to certain ones fits where it stands. -/
def contextFits (label : List Nat) (code : Nat) (before behind : List Nat) : Bool :=
  if code = 0xb7 then before.head? == some 0x6c && behind.head? == some 0x6c
  else if code = 0x375 then behind.head?.any isGreek
  else if code = 0x5f3 || code = 0x5f4 then before.head?.any isHebrew
  else if code = 0x30fb then label.any (fun c => c != 0x30fb && isJapanese c)
  else if isArabicNumeral code then !label.any isExtendedNumeral
  else if isExtendedNumeral code then !label.any isArabicNumeral
  else false

/-- Check the code points of a label that follow others, the nearest of those first. -/
def checkCodes (label before : List Nat) : List Nat → Except Problem Unit
  | [] => .ok ()
  | code :: behind =>
      let position := before.length + 1
      if isPermitted code then checkCodes label (code :: before) behind
      else if isJoiner code then
        if joinerFits code before behind then checkCodes label (code :: before) behind
        else .error (.misplacedJoiner code position label)
      else if isContextual code then
        if contextFits label code before behind then checkCodes label (code :: before) behind
        else .error (.misplacedCode code position label)
      else .error (.unknownCode code position label)

/-! ## §3. Directions. -/

/-- Whether a direction makes a label one that may run to the left. -/
def runsLeft (d : Text.Direction) : Bool := d == .toLeft || d == .toLeftArabic || d == .arabicNumber

/-- Whether a direction is that of a number. -/
def isNumber (d : Text.Direction) : Bool := d == .arabicNumber || d == .european

/-- Check the directions in a label that runs to the left, from a position on; `number` is the kind
of the numbers before it. -/
def checkLeftward (number : Option Text.Direction) (position : Nat) :
    List Text.Direction → Except Problem Unit
  | [] => .ok ()
  | d :: rest =>
      if d = .toRight then .error (.leftDirection position)
      else if isNumber d then
        if number = none || number = some d then checkLeftward (some d) (position + 1) rest
        else .error .mixedNumbers
      else checkLeftward number (position + 1) rest

/-- Check the directions in a label that runs to the right, from a position on. -/
def checkRightward (position : Nat) : List Text.Direction → Except Problem Unit
  | [] => .ok ()
  | d :: rest =>
      if runsLeft d then .error (.rightDirection position) else checkRightward (position + 1) rest

/-- Check that the last direction other than that of marks is one of a kind. -/
def checkEnd (fits : Text.Direction → Bool) (ds : List Text.Direction) : Except Problem Unit :=
  if (ds.reverse.find? (· != .mark)).any fits then .ok () else .error .endDirection

/-- Check the directions of a label; one in which nothing runs to the left needs no check. -/
def checkDirections (label : List Nat) : Except Problem Unit := do
  let ds := label.map Text.directionOf
  let known := ds.takeWhile (· != .unassigned)
  if known.length < ds.length then throw (.noDirection (known.length + 1) label)
  else if !ds.any runsLeft then pure ()
  else
    match ds.head? with
    | some .toRight => do
        checkRightward 1 ds
        checkEnd (fun d => d == .toRight || d == .european) ds
    | some d =>
        if d = .toLeft || d = .toLeftArabic then do
          checkLeftward none 1 ds
          checkEnd (fun d => runsLeft d || d == .european) ds
        else throw (.startDirection label)
    | none => throw (.startDirection label)

/-! ## §4. Labels. -/

/-- The code point of the hyphen. -/
def hyphen : Nat := 0x2d

/-- The most characters of a name, a point at its end included. -/
def maxNameLength : Nat := 254

/-- The most characters of a label in ASCII. -/
def maxLabelLength : Nat := 63

/-- Check a label. -/
def checkLabel (label : List Nat) : Except Problem Unit :=
  if label = [] then .error .emptyLabel
  else if maxNameLength < label.length then .error .longLabel
  else if !Text.isComposed label then .error .notComposed
  else if (label.drop 2).take 2 = [hyphen, hyphen] then .error .innerHyphens
  else if label.head? = some hyphen || label.getLast? = some hyphen then .error .outerHyphen
  else if label.head?.any Text.isMark then .error .leadingMark
  else do
    checkCodes label [] label
    checkDirections label

/-- What a label in ASCII starts with that writes one beyond ASCII. -/
def asciiPrefix : List Nat := "xn--".toList.map Char.toNat

/-- Whether a label is one in ASCII. -/
def isAsciiLabel (label : List Nat) : Bool := label.all (· < 128)

/-- The small form of an ASCII code point. -/
def smallAscii (code : Nat) : Nat := if 0x41 ≤ code && code ≤ 0x5a then code + 32 else code

/-- The label that a label in ASCII writes; each label beyond ASCII has one spelling only. -/
def ofAscii (label : List Nat) : Except Problem (List Nat) := do
  let small := label.map smallAscii
  if asciiPrefix.isPrefixOf small then
    let written := small.drop asciiPrefix.length
    if written = [] then throw .nothingWritten
    else if written.getLast? = some hyphen then throw .endHyphen
    else
      match Punycode.decode written with
      | none => throw .unreadable
      | some read => do
          checkLabel read
          if Punycode.encode read = written then pure read else throw .otherSpelling
  else do
    checkLabel small
    pure small

/-- The label that is written, in ASCII or beyond it. -/
def readLabel (label : List Nat) : Except Problem (List Nat) := do
  if isAsciiLabel label then ofAscii label
  else do
    checkLabel label
    pure label

/-- A label in ASCII; one that is in ASCII already stays as it is. -/
def toAscii (label : List Nat) : Except Problem (List Nat) := do
  let _ ← readLabel label
  let written := if isAsciiLabel label then label else asciiPrefix ++ Punycode.encode label
  if maxLabelLength < written.length then throw .longLabel else pure written

end Golden.Agent.Host

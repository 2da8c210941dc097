/-
  Golden.Json.Reader
  ────────────────────────────────
  **READING THE INTERCHANGE FORMAT.**

  The reader takes the format with three further words, `NaN`, `Infinity` and
  `-Infinity`.  A number with a fraction or an exponent is a double, any other
  an integer of whatever size, at most 4300 digits long.  A key that comes
  twice keeps its first place and takes the last value.

  A fault is a problem with the place where reading stopped, given by what was
  left of the text; `Fault.of` counts it out as line, column and character.
  An escape by number may write half of a pair alone.  Texts here hold whole
  characters, so no value stands for such a document, and what it comes to is
  kept apart from all faults.
-/
import Golden.Decimal.Read
import Golden.Text.Wide
import Golden.Value.Literal

namespace Golden.Json

/-! ## §1. Faults. -/

/-- Why a text is not in the format. -/
inductive Problem
  | value
  | propertyName
  | colon
  | comma
  | unterminated
  | control
  | escape
  | unicodeEscape
  | extraData
  | byteOrderMark
  deriving DecidableEq, Repr, Inhabited

/-- The words for a problem. -/
def Problem.text : Problem → String
  | .value => "Expecting value"
  | .propertyName => "Expecting property name enclosed in double quotes"
  | .colon => "Expecting ':' delimiter"
  | .comma => "Expecting ',' delimiter"
  | .unterminated => "Unterminated string starting at"
  | .control => "Invalid control character at"
  | .escape => "Invalid \\escape"
  | .unicodeEscape => "Invalid \\uXXXX escape"
  | .extraData => "Extra data"
  | .byteOrderMark => "Unexpected UTF-8 BOM (decode using utf-8-sig)"

/-- Why reading stopped: a problem with the rest of the text from there, an integer with too many
digits, or half of a pair alone. -/
inductive Stop
  | at (problem : Problem) (rest : List Char)
  | longInteger (digits : Nat)
  | halfPair
  deriving DecidableEq, Repr, Inhabited

/-- A problem with its place in the text. -/
structure Fault where
  problem : Problem
  line : Nat
  column : Nat
  position : Nat
  deriving DecidableEq, Repr, Inhabited

/-- The place in a text at which only so many characters are left. -/
def Fault.of (text : List Char) (problem : Problem) (left : Nat) : Fault :=
  let before := text.take (text.length - left)
  ⟨problem, (before.filter (· == '\n')).length + 1,
    (before.reverse.takeWhile (· != '\n')).length + 1, before.length⟩

/-- The words for a fault. -/
def Fault.message (f : Fault) : String :=
  let number (n : Nat) : String := String.ofList (Nat.toDigits 10 n)
  f.problem.text ++ ": line " ++ number f.line ++ " column " ++ number f.column ++
    " (char " ++ number f.position ++ ")"

/-! ## §2. Texts. -/

/-- Whether the character may stand between the parts of a value. -/
def isSpace (c : Char) : Bool := c == ' ' || c == '\t' || c == '\n' || c == '\r'

/-- Drop the leading space. -/
def skip (s : List Char) : List Char := s.dropWhile isSpace

/-- The value of a hexadecimal digit. -/
def hexValue? (c : Char) : Option Nat :=
  if '0' ≤ c ∧ c ≤ '9' then some (c.toNat - 48)
  else if 'a' ≤ c ∧ c ≤ 'f' then some (c.toNat - 87)
  else if 'A' ≤ c ∧ c ≤ 'F' then some (c.toNat - 55)
  else none

/-- The number that the first four characters write in hexadecimal digits. -/
def hex4? : List Char → Option Nat
  | a :: b :: c :: d :: _ => do
      let a ← hexValue? a
      let b ← hexValue? b
      let c ← hexValue? c
      let d ← hexValue? d
      pure (((16 * a + b) * 16 + c) * 16 + d)
  | _ => none

/-- The character of an escape by a letter. -/
def simpleEscape? : Char → Option Char
  | '"' => some '"'
  | '\\' => some '\\'
  | '/' => some '/'
  | 'b' => some '\x08'
  | 'f' => some '\x0c'
  | 'n' => some '\n'
  | 'r' => some '\r'
  | 't' => some '\t'
  | _ => none

/-- The character that a number of an escape writes by itself. -/
def readUnit (n : Nat) : Except Stop (Char × Nat) :=
  match Text.Wide.charOf? n with
  | some c => .ok (c, 5)
  | none => .error .halfPair

/-- The character of an escape by number and how many characters it takes; `ds` follows the letter
and `letter` starts with it.  Something has to follow the digits. -/
def readNumbered (letter ds : List Char) : Except Stop (Char × Nat) :=
  if ds.length < 5 then .error (.at .unicodeEscape letter)
  else
    match hex4? ds with
    | none => .error (.at .unicodeEscape letter)
    | some high =>
        let more := ds.drop 4
        if Text.Wide.isHighHalf high && 6 < more.length && more.take 2 == ['\\', 'u'] then
          match hex4? (more.drop 2) with
          | none => .error (.at .unicodeEscape (more.drop 1))
          | some low =>
              if Text.Wide.isLowHalf low then .ok (Text.Wide.joinHalves high low, 11)
              else readUnit high
        else readUnit high

/-- The character of an escape and how many characters behind the backslash it takes. -/
def readEscape (opening : List Char) : List Char → Except Stop (Char × Nat)
  | [] => .error (.at .unterminated opening)
  | c :: rest =>
      if c = 'u' then readNumbered (c :: rest) rest
      else
        match simpleEscape? c with
        | some x => .ok (x, 1)
        | none => .error (.at .escape ('\\' :: c :: rest))

/-- The characters of a text up to its closing quote, and what follows; `opening` starts with the
opening quote. -/
def readChars (opening : List Char) (s : List Char) : Except Stop (List Char × List Char) :=
  match s with
  | [] => .error (.at .unterminated opening)
  | c :: rest =>
      if c = '"' then .ok ([], rest)
      else if c = '\\' then do
        let (x, width) ← readEscape opening rest
        let (cs, after) ← readChars opening (rest.drop width)
        pure (x :: cs, after)
      else if c.toNat < 32 then .error (.at .control (c :: rest))
      else do
        let (cs, after) ← readChars opening rest
        pure (c :: cs, after)
termination_by s.length
decreasing_by
  all_goals simp only [List.length_drop, List.length_cons]
  all_goals omega

/-! ## §3. Numbers. -/

/-- The digits before the point: a zero alone, or digits of which the first is another. -/
def spanWhole : List Char → List Char × List Char
  | [] => ([], [])
  | c :: rest => if c = '0' then ([c], rest) else Decimal.spanDigits (c :: rest)

/-- The digits behind a point that is followed by one, and what follows them. -/
def spanFraction (s : List Char) : List Char × List Char :=
  match s with
  | '.' :: rest =>
      let (ds, after) := Decimal.spanDigits rest
      if ds.isEmpty then ([], s) else (ds, after)
  | _ => ([], s)

/-- The exponent that has at least one digit, and what follows it. -/
def spanExponent (s : List Char) : Option Int × List Char :=
  match s with
  | c :: rest =>
      if c = 'e' || c = 'E' then
        let (negative, unsigned) := Decimal.sign rest
        let (ds, after) := Decimal.spanDigits unsigned
        if ds.isEmpty then (none, s)
        else
          let e : Int := Decimal.natOf ds
          (some (if negative then -e else e), after)
      else (none, s)
  | [] => (none, s)

/-- Read a number; `start` is what reading a value began with. -/
def readNumber (start : List Char) (negative : Bool) (s : List Char) :
    Except Stop (Value × List Char) :=
  let (whole, rest) := spanWhole s
  let (fraction, rest) := spanFraction rest
  let (exponent, rest) := spanExponent rest
  if whole.isEmpty then .error (.at .value start)
  else if fraction.isEmpty && exponent.isNone then
    if maxIntDigits < whole.length then .error (.longInteger whole.length)
    else
      let n : Int := Decimal.natOf whole
      .ok (.int (if negative then -n else n), rest)
  else .ok (.float (Decimal.ofParts negative whole fraction (exponent.getD 0)), rest)

/-! ## §4. Values. -/

/-- The words of the format with what they stand for. -/
def words : List (List Char × Value) := [
  ("null".toList, .null),
  ("true".toList, .bool true),
  ("false".toList, .bool false),
  ("NaN".toList, .float .nan),
  ("Infinity".toList, .float (.infinite false)),
  ("-Infinity".toList, .float (.infinite true))]

/-- Read a word or a number. -/
def readScalar (s : List Char) : Except Stop (Value × List Char) :=
  match words.find? (fun w => w.1.isPrefixOf s) with
  | some (word, v) => .ok (v, s.drop word.length)
  | none =>
      match s with
      | '-' :: rest => readNumber s true rest
      | _ => readNumber s false s

mutual

/-- Read a value. -/
def readValue : Nat → List Char → Except Stop (Value × List Char)
  | 0, s => .error (.at .value s)
  | fuel + 1, s =>
      match s with
      | '"' :: rest => do
          let (cs, after) ← readChars s rest
          pure (.text (String.ofList cs), after)
      | '[' :: rest => do
          match skip rest with
          | ']' :: after => pure (.ofItems [], after)
          | start => do
              let (xs, after) ← readItems fuel start
              pure (.ofItems xs, after)
      | '\x7b' :: rest => do
          match skip rest with
          | '\x7d' :: after => pure (.ofFields [], after)
          | start => do
              let (fs, after) ← readMembers fuel start
              pure (.ofFields (Fields.ofPairs fs), after)
      | _ => readScalar s

/-- Read the items of an array up to its closing bracket. -/
def readItems : Nat → List Char → Except Stop (List Value × List Char)
  | 0, s => .error (.at .value s)
  | fuel + 1, s => do
      let (v, rest) ← readValue fuel s
      match skip rest with
      | ']' :: after => pure ([v], after)
      | ',' :: more => do
          let (vs, after) ← readItems fuel (skip more)
          pure (v :: vs, after)
      | stop => .error (.at .comma stop)

/-- Read the members of an object up to its closing brace. -/
def readMembers : Nat → List Char → Except Stop (List (Value × Value) × List Char)
  | 0, s => .error (.at .value s)
  | fuel + 1, s =>
      match s with
      | '"' :: rest => do
          let (key, rest) ← readChars s rest
          match skip rest with
          | ':' :: rest => do
              let (v, rest) ← readValue fuel (skip rest)
              match skip rest with
              | '\x7d' :: after => pure ([(.text (String.ofList key), v)], after)
              | ',' :: more => do
                  let (fs, after) ← readMembers fuel (skip more)
                  pure ((.text (String.ofList key), v) :: fs, after)
              | stop => .error (.at .comma stop)
          | stop => .error (.at .colon stop)
      | _ => .error (.at .propertyName s)

end

/-- Read a text that holds one value.  Each bracket costs two steps and anything else at most one
per character, so the fuel suffices for every text. -/
def readText (s : List Char) : Except Stop Value := do
  let (v, rest) ← readValue (2 * s.length + 2) (skip s)
  match skip rest with
  | [] => pure v
  | stop => .error (.at .extraData stop)

/-! ## §5. Documents. -/

/-- Why a document cannot be read; one that writes half of a pair alone is no value here. -/
inductive Unreadable
  | fault (f : Fault)
  | longInteger (digits : Nat)
  | undecodable (f : Text.Encoding.Fault)
  | halfPair
  deriving DecidableEq, Repr, Inhabited

/-- The words for why a document cannot be read. -/
def Unreadable.message : Unreadable → String
  | .fault f => f.message
  | .longInteger n =>
      "Exceeds the limit (4300 digits) for integer string conversion: value has " ++
        String.ofList (Nat.toDigits 10 n) ++
        " digits; use sys.set_int_max_str_digits() to increase the limit"
  | .undecodable f => f.message
  | .halfPair => "half of a surrogate pair alone is no character"

/-- Give the place at which reading a text stopped. -/
def located (s : List Char) : Stop → Unreadable
  | .at problem rest => .fault (.of s problem rest.length)
  | .longInteger n => .longInteger n
  | .halfPair => .halfPair

/-- Read a document: a text with one value and without a byte order mark. -/
def read (s : List Char) : Except Unreadable Value :=
  if s.head? = some '\ufeff' then .error (.fault (.of s .byteOrderMark s.length))
  else (readText s).mapError (located s)

end Golden.Json

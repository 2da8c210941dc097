/-
  Golden.Name
  ────────────────────────────────
  **NAMES THAT ARE SAFE AS ONE PATH COMPONENT.**

  A category or test name becomes a file name in six replacements by one
  template, empty unless another is asked for:

      1  each of  / ? < > \ : * | "
      2  each control character of the first and of the second block
      3  a name of dots alone
      4  a device name, alone or before a dot and anything
      5  the dots and spaces at the end
      6  the dots and spaces at the end of what the byte limit leaves

  A line feed at the very end, which a template may bring in, does not count
  for the last four.  A name of which nothing or only dots are left is refused.
-/
import Golden.Name.Template

namespace Golden.Name

/-! ## §1. Characters and words. -/

/-- Whether the character has a meaning in paths or patterns. -/
def isIllegal (c : Char) : Bool :=
  c == '/' || c == '?' || c == '<' || c == '>' || c == '\\' || c == ':' || c == '*' || c == '|' ||
    c == '"'

/-- Whether the character is a control character of the first or the second block. -/
def isControl (c : Char) : Bool :=
  c.toNat < 32 || (128 ≤ c.toNat && c.toNat < 160)

/-- Whether the character is dropped at the end of a name. -/
def isTrailing (c : Char) : Bool := c == '.' || c == ' '

/-- Whether a text is a device name in any case. -/
def isDevice (s : List Char) : Bool :=
  match s.map Char.toLower with
  | ['c', 'o', 'n'] => true
  | ['p', 'r', 'n'] => true
  | ['a', 'u', 'x'] => true
  | ['n', 'u', 'l'] => true
  | ['c', 'o', 'm', d] => Decimal.isDigit d
  | ['l', 'p', 't', d] => Decimal.isDigit d
  | _ => false

/-- Whether a text is a device name, alone or before a dot and anything within the line. -/
def isReserved (s : List Char) : Bool :=
  isDevice (s.takeWhile (· != '.')) && !(s.dropWhile (· != '.')).contains '\n'

/-- Whether a text is a run of dots. -/
def isDots (s : List Char) : Bool := !s.isEmpty && s.all (· == '.')

/-! ## §2. Replacements. -/

/-- Replace each character of a class. -/
def replaceEach (p : Char → Bool) (t : Template) (s : List Char) : List Char :=
  s.flatMap (fun c => if p c then t.expand [c] else [c])

/-- A text without a line feed at its very end, and that line feed. -/
def splitFinal (s : List Char) : List Char × List Char :=
  if s.getLast? = some '\n' then (s.dropLast, ['\n']) else (s, [])

/-- Replace a text that has a property as a whole. -/
def replaceWhole (p : List Char → Bool) (t : Template) (s : List Char) : List Char :=
  let (body, final) := splitFinal s
  if p body then t.expand body ++ final else s

/-- Replace the run of dots and spaces at the end. -/
def replaceTrailing (t : Template) (s : List Char) : List Char :=
  let (body, final) := splitFinal s
  let run := (body.reverse.takeWhile isTrailing).reverse
  if run.isEmpty then s else Text.dropEnd isTrailing body ++ t.expand run ++ final

/-! ## §3. The byte limit. -/

/-- The number of bytes of a text. -/
def byteSize : List Char → Nat
  | [] => 0
  | c :: rest => c.utf8Size + byteSize rest

/-- The longest prefix of whole characters within a number of bytes. -/
def takeBytes (limit : Nat) : List Char → List Char
  | [] => []
  | c :: rest =>
      if c.utf8Size ≤ limit then c :: takeBytes (limit - c.utf8Size) rest else []

/-- Cut a text to a number of bytes; a negative limit cuts off so many bytes at the end. -/
def truncate (limit : Int) (s : List Char) : List Char :=
  let size := byteSize s
  if (size : Int) ≤ limit then s
  else takeBytes (if limit < 0 then (size + limit).toNat else limit.toNat) s

/-! ## §4. File names. -/

/-- The six replacements. -/
def clean (t : Template) (limit : Int) (s : List Char) : List Char :=
  let s := replaceEach isIllegal t s
  let s := replaceEach isControl t s
  let s := replaceWhole isDots t s
  let s := replaceWhole isReserved t s
  let s := replaceTrailing t s
  replaceTrailing t (truncate limit s)

/-- The file name of a name; `none` where nothing usable is left. -/
def fileName? (t : Template) (limit : Int) (name : String) : Option String :=
  let s := clean t limit name.toList
  if s.isEmpty || isDots s then none else some (String.ofList s)

/-- The most bytes of a path component. -/
def maxBytes : Int := 255

end Golden.Name

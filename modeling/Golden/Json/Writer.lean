/-
  Golden.Json.Writer
  ────────────────────────────────
  **WRITING THE INTERCHANGE FORMAT.**

  A value is written over several lines, two spaces for each level, with
  nothing inside an empty array or object; characters beyond ASCII stand for
  themselves.  Lists and tuples are both arrays.  Keys become texts: numbers
  by their own text, and the constants by their words.

      write (list [1, "é"])  =  [⏎  1,⏎  "é"⏎]

  Bytes, sets, actions and compiled masks have no written form, nor have keys
  of other kinds or integers that are too long: `refusal?` names the first of
  them in the order of writing.
-/
import Golden.Json.Quoted
import Golden.Value.Literal

namespace Golden.Json

/-! ## §1. What cannot be written. -/

/-- Why a value cannot be written. -/
inductive Refusal
  | value (typeName : String)
  | key (typeName : String)
  | longInteger
  deriving DecidableEq, Repr, Inhabited

/-- The name of a kind of value that has no written form. -/
def typeName : Value → String
  | .null => "NoneType"
  | .bool _ => "bool"
  | .int _ => "int"
  | .float _ => "float"
  | .text _ => "str"
  | .bytes _ => "bytes"
  | .action _ => "MaskAction"
  | .array .list _ => "list"
  | .array .tuple _ => "tuple"
  | .set .open _ => "set"
  | .set .frozen _ => "frozenset"
  | .object .plain _ => "dict"
  | .object .mask _ => "CompiledMask"

/-- Why a key cannot be written. -/
def keyRefusal? : Value → Option Refusal
  | .int n => if intFits n then none else some .longInteger
  | .null | .bool _ | .float _ | .text _ => none
  | k => some (.key (typeName k))

mutual

/-- The first reason, in the order of writing, why a value cannot be written. -/
def refusal? : Value → Option Refusal
  | .null | .bool _ | .float _ | .text _ => none
  | .int n => if intFits n then none else some .longInteger
  | .array _ xs => itemsRefusal? xs
  | .object .plain fs => fieldsRefusal? fs
  | .bytes b => some (.value (typeName (.bytes b)))
  | .action a => some (.value (typeName (.action a)))
  | .set s xs => some (.value (typeName (.set s xs)))
  | .object .mask fs => some (.value (typeName (.object .mask fs)))

/-- The first reason why items cannot be written. -/
def itemsRefusal? : List Value → Option Refusal
  | [] => none
  | v :: vs => refusal? v <|> itemsRefusal? vs

/-- The first reason why fields cannot be written. -/
def fieldsRefusal? : List (Value × Value) → Option Refusal
  | [] => none
  | (k, v) :: fs => keyRefusal? k <|> refusal? v <|> fieldsRefusal? fs

end

/-! ## §2. Scalars and keys. -/

/-- A double as written: infinities and not-a-number by their long words. -/
def doubleText : Double → String
  | .finite s x => Decimal.finiteText s x
  | .infinite s => if s then "-Infinity" else "Infinity"
  | .nan => "NaN"

/-- The text of a key. -/
def keyText : Value → String
  | .text s => s
  | .int n => Decimal.intText n
  | .float x => doubleText x
  | .bool b => if b then "true" else "false"
  | .null => "null"
  | k => k.plain

/-! ## §3. Layout. -/

/-- The start of a line at a level. -/
def newline (level : Nat) : List Char := '\n' :: List.replicate (2 * level) ' '

/-- Texts on lines of their own at a level, with commas between them. -/
def lines (level : Nat) : List (List Char) → List Char
  | [] => []
  | [x] => newline level ++ x
  | x :: xs => newline level ++ x ++ ',' :: lines level xs

/-- Texts between brackets, each one level further in. -/
def block (opening closing : Char) (level : Nat) (texts : List (List Char)) : List Char :=
  if texts.isEmpty then [opening, closing]
  else opening :: (lines (level + 1) texts ++ newline level ++ [closing])

mutual

/-- The written form of a value at a level. -/
def chars (level : Nat) : Value → List Char
  | .null => "null".toList
  | .bool b => (if b then "true" else "false").toList
  | .int n => (Decimal.intText n).toList
  | .float x => (doubleText x).toList
  | .text s => quoteChars s.toList
  | .array _ xs => block '[' ']' level (itemChars (level + 1) xs)
  | .object _ fs => block '\x7b' '\x7d' level (fieldChars (level + 1) fs)
  | v => quoteChars v.plain.toList

/-- The written forms of items at a level. -/
def itemChars (level : Nat) : List Value → List (List Char)
  | [] => []
  | v :: vs => chars level v :: itemChars level vs

/-- The written forms of fields at a level: key, colon, value. -/
def fieldChars (level : Nat) : List (Value × Value) → List (List Char)
  | [] => []
  | (k, v) :: fs =>
      (quoteChars (keyText k).toList ++ ':' :: ' ' :: chars level v) :: fieldChars level fs

end

/-- The written form of a value, or why it has none. -/
def write (v : Value) : Except Refusal (List Char) :=
  match refusal? v with
  | some r => .error r
  | none => .ok (chars 0 v)

end Golden.Json

/-
  Golden.Value.Literal
  ────────────────────────────────
  **THE TEXT OF A VALUE IN A MESSAGE.**

  `literal` writes a value unambiguously, texts in quotes; `plain` differs at
  the top only, where a text stands for itself and an action is named.  An
  integer of more than 4300 digits has no text: a value that holds none of
  them `isPrintable`, and `plain?` refuses any other.
-/
import Golden.Value
import Golden.Decimal.Shortest
import Golden.Text.Quoted

namespace Golden

/-- The most digits that an integer may have in a text, read or written. -/
def maxIntDigits : Nat := 4300

/-- Whether an integer has at most `maxIntDigits` digits. -/
def intFits (n : Int) : Bool := n.natAbs < tenTo maxIntDigits

/-- The name of an action. -/
def Action.name : Action → String
  | .replace => "REPLACE"
  | .delete => "DELETE"

/-- The word of an action. -/
def Action.word : Action → String
  | .replace => "replace"
  | .delete => "delete"

namespace Value

/-! ## §1. Literals. -/

/-- Texts with a separator between them. -/
def separated (texts : List String) : String := ", ".intercalate texts

/-- Texts between an opening and a closing text. -/
def between (opening closing : String) (texts : List String) : String :=
  opening ++ separated texts ++ closing

/-- A tuple of one item keeps a comma. -/
def tupleText : List String → String
  | [x] => "(" ++ x ++ ",)"
  | xs => between "(" ")" xs

/-- An empty set is written by its name. -/
def setText (shape : SetShape) (texts : List String) : String :=
  match shape, texts with
  | .open, [] => "set()"
  | .open, xs => between "\x7b" "\x7d" xs
  | .frozen, [] => "frozenset()"
  | .frozen, xs => between "frozenset(\x7b" "\x7d)" xs

/-- The text of an object from the texts of its fields. -/
def objectText (shape : ObjectShape) (texts : List String) : String :=
  match shape with
  | .plain => between "\x7b" "\x7d" texts
  | .mask => between "CompiledMask(\x7b" "\x7d)" texts

mutual

/-- The unambiguous text of a value. -/
def literal : Value → String
  | .null => "None"
  | .bool b => if b then "True" else "False"
  | .int n => Decimal.intText n
  | .float x => Decimal.text x
  | .text s => Text.quote s
  | .bytes b => Text.quoteBytes b
  | .action a => "<MaskAction." ++ a.name ++ ": " ++ Text.quote a.word ++ ">"
  | .array .list xs => between "[" "]" (literals xs)
  | .array .tuple xs => tupleText (literals xs)
  | .set shape xs => setText shape (literals xs)
  | .object shape fs => objectText shape (fieldLiterals fs)

/-- The unambiguous texts of several values. -/
def literals : List Value → List String
  | [] => []
  | v :: vs => literal v :: literals vs

/-- The unambiguous texts of fields: key, colon, value. -/
def fieldLiterals : List (Value × Value) → List String
  | [] => []
  | (k, v) :: fs => (literal k ++ ": " ++ literal v) :: fieldLiterals fs

end

/-- The text of a value that stands alone. -/
def plain : Value → String
  | .text s => s
  | .action a => "MaskAction." ++ a.name
  | v => literal v

/-! ## §2. Values without a text. -/

mutual

/-- Whether every integer in the value, keys included, has a text. -/
def isPrintable : Value → Bool
  | .int n => intFits n
  | .array _ xs => allPrintable xs
  | .set _ xs => allPrintable xs
  | .object _ fs => fieldsPrintable fs
  | _ => true

/-- Whether every value of a list has a text. -/
def allPrintable : List Value → Bool
  | [] => true
  | v :: vs => isPrintable v && allPrintable vs

/-- Whether every key and value of fields has a text. -/
def fieldsPrintable : List (Value × Value) → Bool
  | [] => true
  | (k, v) :: fs => isPrintable k && isPrintable v && fieldsPrintable fs

end

/-- The text, standing alone, of a value that has one. -/
def plain? (v : Value) : Option String :=
  if v.isPrintable then some v.plain else none

end Value

end Golden

/-
  Golden.Value
  ────────────────────────────────
  **RESPONSE VALUES.**

  A response is a tree of scalars, arrays and objects.  Beside the six kinds
  of the interchange format a value may be a byte text, a set or a mask
  action; arrays are lists or tuples, objects are plain ones or compiled
  masks, and object keys may be any value that can be compared.  An object
  keeps its fields in order and has each key once:

      keys (put k v fields)  =  keys fields, with k appended if it is new
-/
import Golden.Double

namespace Golden

/-! ## §1. The tree. -/

/-- What a mask does with a key that it names. -/
inductive Action
  | replace
  | delete
  deriving DecidableEq, Repr, Inhabited

/-- The two arrays: lists and tuples. -/
inductive ArrayShape
  | list
  | tuple
  deriving DecidableEq, Repr, Inhabited

/-- The two sets: changeable and frozen ones. -/
inductive SetShape
  | open
  | frozen
  deriving DecidableEq, Repr, Inhabited

/-- The two objects: plain ones and compiled masks. -/
inductive ObjectShape
  | plain
  | mask
  deriving DecidableEq, Repr, Inhabited

/-- A response value, a mask spec or an object key. -/
inductive Value
  | null
  | bool (b : Bool)
  | int (n : Int)
  | float (x : Double)
  | text (s : String)
  | bytes (b : List UInt8)
  | action (a : Action)
  | array (shape : ArrayShape) (items : List Value)
  | set (shape : SetShape) (items : List Value)
  | object (shape : ObjectShape) (fields : List (Value × Value))
  deriving Inhabited

/-- The fields of an object, in order. -/
abbrev Fields := List (Value × Value)

namespace Value

/-- A list of items. -/
abbrev ofItems (items : List Value) : Value := .array .list items

/-- A plain object of fields. -/
abbrev ofFields (fields : Fields) : Value := .object .plain fields

/-! ## §2. Kinds. -/

/-- The kinds that a comparison tells apart; whole numbers and doubles are one kind. -/
inductive Kind
  | null
  | boolean
  | number
  | string
  | array
  | object
  | bytes
  | set
  | frozenSet
  | action
  deriving DecidableEq, Repr

/-- The word for a kind in a message. -/
def Kind.name : Kind → String
  | .null => "null"
  | .boolean => "boolean"
  | .number => "number"
  | .string => "string"
  | .array => "array"
  | .object => "object"
  | .bytes => "bytes"
  | .set => "set"
  | .frozenSet => "frozenset"
  | .action => "MaskAction"

/-- The kind of a value. -/
def kind : Value → Kind
  | .null => .null
  | .bool _ => .boolean
  | .int _ => .number
  | .float _ => .number
  | .text _ => .string
  | .bytes _ => .bytes
  | .action _ => .action
  | .array _ _ => .array
  | .set .open _ => .set
  | .set .frozen _ => .frozenSet
  | .object _ _ => .object

/-! ## §3. Equality of scalars and keys. -/

/-- The number that a boolean counts as. -/
def boolInt (b : Bool) : Int := if b then 1 else 0

mutual

/-- Equality of values as keys and set members.  Numbers are equal by value whatever their form,
and a boolean counts as the number zero or one; sets are equal by their members. -/
def same : Value → Value → Bool
  | .null, .null => true
  | .bool a, .bool b => a == b
  | .bool a, .int n => boolInt a == n
  | .bool a, .float x => x.equalsInt (boolInt a)
  | .int m, .bool b => m == boolInt b
  | .int m, .int n => m == n
  | .int m, .float x => x.equalsInt m
  | .float x, .bool b => x.equalsInt (boolInt b)
  | .float x, .int n => x.equalsInt n
  | .float x, .float y => x.equals y
  | .text s, .text t => s == t
  | .bytes a, .bytes b => a == b
  | .action a, .action b => a == b
  | .array .list xs, .array .list ys => sameItems xs ys
  | .array .tuple xs, .array .tuple ys => sameItems xs ys
  | .set _ xs, .set _ ys => xs.length == ys.length && allAmong xs ys
  | .object _ fs, .object _ gs => fs.length == gs.length && fieldsAmong fs gs
  | _, _ => false

/-- Equality item by item. -/
def sameItems : List Value → List Value → Bool
  | [], [] => true
  | x :: xs, y :: ys => same x y && sameItems xs ys
  | _, _ => false

/-- Whether every item of the first list is the same as one of the second. -/
def allAmong : List Value → List Value → Bool
  | [], _ => true
  | x :: xs, ys => ys.any (fun y => same x y) && allAmong xs ys

/-- Whether every field of the first list is the same as one of the second. -/
def fieldsAmong : List (Value × Value) → List (Value × Value) → Bool
  | [], _ => true
  | (k, v) :: fs, gs => gs.any (fun g => same k g.1 && same v g.2) && fieldsAmong fs gs

end

end Value

/-! ## §4. Fields. -/

namespace Fields

/-- The value under a key. -/
def find? (key : Value) (fields : Fields) : Option Value :=
  (List.find? (fun f => f.1.same key) fields).map (·.2)

/-- Whether a key is there. -/
def has (key : Value) (fields : Fields) : Bool :=
  (find? key fields).isSome

/-- Put a value under a key: a key that is there keeps its place and takes the value, a new one
goes to the end. -/
def put (key value : Value) : Fields → Fields
  | [] => [(key, value)]
  | (k, v) :: rest => if k.same key then (k, value) :: rest else (k, v) :: put key value rest

/-- The fields that a sequence of puts leaves. -/
def ofPairs (pairs : List (Value × Value)) : Fields :=
  pairs.foldl (fun fields f => put f.1 f.2 fields) []

end Fields

/-- The members of a set that a sequence of values leaves: the first of each. -/
def Value.members (items : List Value) : List Value :=
  items.foldl (fun seen x => if seen.any (fun y => y.same x) then seen else seen ++ [x]) []

end Golden

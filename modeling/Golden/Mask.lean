/-
  Golden.Mask
  ────────────────────────────────
  **MASKS: WHICH KEYS OF A RESPONSE VARY.**

  A mask names keys and says for each what becomes of it: its value is
  replaced by a marker, the key is deleted, or a nested mask applies below.
  Masks are written as specs, values of several shapes, and `compile` brings
  them into one form:

      null                      no key
      "a"                       a is replaced
      ["a", "b"], a set         a and b are replaced
      an object                 per key: an action, a nested spec, or replaced
      a compiled mask           itself

  A spec has to name its keys by texts, so one that holds an integer too long
  for a text is refused.
-/
import Golden.Value.Literal

namespace Golden

/-! ## §1. Rules. -/

/-- What a mask says of a key. -/
inductive Rule
  | act (a : Action)
  | nested (rules : List (String × Rule))
  deriving Inhabited, BEq

/-- The keys that a mask names, each once, with their rules. -/
abbrev Mask := List (String × Rule)

namespace Mask

/-- The mask that names no key. -/
abbrev empty : Mask := []

/-- The rule under a name. -/
def find? (name : String) (mask : Mask) : Option Rule :=
  (List.find? (fun r => r.1 == name) mask).map (·.2)

/-- The rule for a key of an object; only texts are named. -/
def ruleFor (mask : Mask) : Value → Option Rule
  | .text s => find? s mask
  | _ => none

/-- Give a name a rule: a name that is there keeps its place. -/
def put (name : String) (rule : Rule) : Mask → Mask
  | [] => [(name, rule)]
  | (n, r) :: rest => if n == name then (n, rule) :: rest else (n, r) :: put name rule rest

/-! ## §2. Compiling specs. -/

mutual

/-- The rule that a field of a compiled mask holds; null is none, and whatever is neither an action
nor a mask replaces. -/
def ruleOf? : Value → Option Rule
  | .null => none
  | .action a => some (.act a)
  | .object .mask fs => some (.nested (rulesOf fs))
  | _ => some (.act .replace)

/-- The mask whose fields are given, taken as it is: its names are the keys that are texts. -/
def rulesOf : List (Value × Value) → Mask
  | [] => empty
  | (.text name, v) :: rest =>
      match ruleOf? v with
      | some r => (name, r) :: rulesOf rest
      | none => rulesOf rest
  | _ :: rest => rulesOf rest

end

/-- The mask that replaces each of the given keys. -/
def flat (keys : List Value) : Mask :=
  keys.foldl (fun mask k => put k.plain (.act .replace) mask) empty

mutual

/-- The rule that an entry of an object spec writes: whatever is neither an action nor a spec of
its own replaces. -/
def rule : Value → Rule
  | .action a => .act a
  | .null => .nested empty
  | .array _ xs => .nested (flat xs)
  | .set _ xs => .nested (flat xs)
  | .object .plain fs => .nested (entries empty fs)
  | .object .mask fs => .nested (rulesOf fs)
  | _ => .act .replace

/-- Add the entries of an object spec to a mask. -/
def entries (mask : Mask) : List (Value × Value) → Mask
  | [] => mask
  | (k, v) :: rest => entries (put k.plain (rule v) mask) rest

end

/-- The mask that a spec writes; a scalar other than a text writes none, and a compiled mask is
returned unchanged. -/
def compile : Value → Mask
  | .text s => put s (.act .replace) empty
  | .array _ xs => flat xs
  | .set _ xs => flat xs
  | .object .plain fs => entries empty fs
  | .object .mask fs => rulesOf fs
  | _ => empty

/-! ## §3. Specs whose keys have texts. -/

mutual

/-- Whether every key below an entry of an object spec has a text. -/
def entryNamed : Value → Bool
  | .array _ xs => Value.allPrintable xs
  | .set _ xs => Value.allPrintable xs
  | .object .plain fs => entriesNamed fs
  | _ => true

/-- Whether every key of an object spec, and every one below, has a text. -/
def entriesNamed : List (Value × Value) → Bool
  | [] => true
  | (k, v) :: rest => k.isPrintable && entryNamed v && entriesNamed rest

end

/-- The mask that a spec writes, where its keys have texts. -/
def compile? (spec : Value) : Option Mask :=
  if entryNamed spec then some (compile spec) else none

/-! ## §4. Masks as values. -/

mutual

/-- A rule as a value. -/
def ruleValue : Rule → Value
  | .act a => .action a
  | .nested rules => .object .mask (ruleFields rules)

/-- The rules of a mask as fields. -/
def ruleFields : List (String × Rule) → List (Value × Value)
  | [] => []
  | (name, r) :: rest => (.text name, ruleValue r) :: ruleFields rest

end

/-- A mask as a value: an object of its rules. -/
def toValue (mask : Mask) : Value := .object .mask (ruleFields mask)

end Mask

end Golden

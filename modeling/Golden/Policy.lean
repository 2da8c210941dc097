/-
  Golden.Policy
  ────────────────────────────────
  **WHAT HAPPENS WHEN A SNAPSHOT IS MISSING.**

  Either a missing snapshot is an error or it is written.  A policy is asked
  for by its word; the environment asks for writing by one exact value of one
  variable, and by nothing else.
-/
import Golden.Value

namespace Golden

/-! ## §1. Policies and outcomes. -/

/-- What to do when a snapshot is missing. -/
inductive Policy
  | compareOnly
  | writeIfMissing
  deriving DecidableEq, Repr, Inhabited

namespace Policy

/-- The word for a policy. -/
def word : Policy → String
  | .compareOnly => "compare_only"
  | .writeIfMissing => "write_if_missing"

/-- The policy that a value asks for by its word. -/
def ofValue? : Value → Option Policy
  | .text s =>
      if s = compareOnly.word then some .compareOnly
      else if s = writeIfMissing.word then some .writeIfMissing
      else none
  | _ => none

/-- The policy that writes, or does not. -/
def ofFlag (writes : Bool) : Policy := if writes then .writeIfMissing else .compareOnly

end Policy

/-- How a comparison ends that finds no difference. -/
inductive Outcome
  | matched
  | written
  deriving DecidableEq, Repr, Inhabited

/-- The word for an outcome. -/
def Outcome.word : Outcome → String
  | .matched => "matched"
  | .written => "written"

/-! ## §2. Whether a value counts as given. -/

/-- Whether a value counts as true: the nulls, zeros and empty values do not. -/
def Value.isTruthy : Value → Bool
  | .null => false
  | .bool b => b
  | .int n => n != 0
  | .float (.finite _ m) => m.significand != 0
  | .float _ => true
  | .text s => s != ""
  | .bytes b => !b.isEmpty
  | .action _ => true
  | .array _ xs => !xs.isEmpty
  | .set _ xs => !xs.isEmpty
  | .object _ fs => !fs.isEmpty

/-! ## §3. The environment. -/

/-- The variables of an environment. -/
abbrev Environment := List (String × String)

namespace Environment

/-- Set a variable, or take it away. -/
def assign (env : Environment) (name : String) (value : Option String) : Environment :=
  let rest := env.filter (fun x => x.1 != name)
  match value with
  | some s => (name, s) :: rest
  | none => rest

/-- The variable that asks for missing snapshots to be written. -/
def saveMissingName : String := "BLACKLAB_TEST_SAVE_MISSING_RESPONSES"

/-- Whether the environment asks for missing snapshots to be written. -/
def savesMissing (env : Environment) : Bool := env.lookup saveMissingName == some "true"

/-- The policy of an environment. -/
def policy (env : Environment) : Policy := Policy.ofFlag (savesMissing env)

end Environment

end Golden

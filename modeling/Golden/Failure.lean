/-
  Golden.Failure
  ────────────────────────────────
  **EVERYTHING THAT CAN GO WRONG.**

  A failure is kept as its cause; `Failure.message` is the one place where
  causes are put into words.  The three failures of a comparison carry what a
  report needs, a mismatch its full list of differences, of which the message
  shows the first twenty.
-/
import Golden.Json.Reader
import Golden.Json.Writer
import Golden.Name
import Golden.Settings
import Golden.Volume

namespace Golden

/-! ## §1. Failures of a comparison. -/

/-- A response that differs from its snapshot. -/
structure Mismatch where
  category : Value
  test : Value
  path : Path
  differences : List String
  deriving Inhabited

/-- A snapshot that is not there. -/
structure MissingSnapshot where
  category : Value
  test : Value
  path : Path
  deriving Inhabited

/-- A reply whose status is not the expected one, with the start of its body. -/
structure UnexpectedStatus where
  url : String
  status : Int
  excerpt : String
  deriving Inhabited

namespace Mismatch

/-- The most differences that a message shows. -/
def maxShown : Nat := 20

/-- The lines of the message. -/
def lines (m : Mismatch) : List String :=
  let hidden := m.differences.length - maxShown
  ("Response for " ++ m.category.plain ++ "/" ++ m.test.plain ++
      " differs from saved response (" ++ m.path.text ++ "):") ::
    ((m.differences.take maxShown).map ("  - " ++ ·) ++
      if 0 < hidden then ["  ... and " ++ Decimal.intText hidden ++ " more"] else [])

/-- The words for a mismatch. -/
def message (m : Mismatch) : String := "\n".intercalate m.lines

/-- The mismatch with its fields. -/
def literal (m : Mismatch) : String :=
  "SnapshotMismatchError(category=" ++ m.category.literal ++ ", test_name=" ++ m.test.literal ++
    ", path=" ++ m.path.literal ++ ", differences=" ++
    (Value.ofItems (m.differences.map .text)).literal ++ ")"

end Mismatch

namespace MissingSnapshot

/-- The words for a missing snapshot. -/
def message (m : MissingSnapshot) : String :=
  "Response for " ++ m.category.plain ++ "/" ++ m.test.plain ++
    " not found. Make sure it exists (run with " ++ Environment.saveMissingName ++
    "=true or --save-missing-responses to save responses)"

/-- The missing snapshot with its fields. -/
def literal (m : MissingSnapshot) : String :=
  "SnapshotMissingError(category=" ++ m.category.literal ++ ", test_name=" ++ m.test.literal ++
    ", path=" ++ m.path.literal ++ ")"

end MissingSnapshot

namespace UnexpectedStatus

/-- The words for an unexpected status. -/
def message (s : UnexpectedStatus) : String :=
  "GET " ++ s.url ++ " returned status " ++ Decimal.intText s.status ++ ", expected 200: " ++
    s.excerpt

/-- The unexpected status with its fields. -/
def literal (s : UnexpectedStatus) : String :=
  "UnexpectedStatusError(url=" ++ Text.quote s.url ++ ", status_code=" ++
    Decimal.intText s.status ++ ", body_excerpt=" ++ Text.quote s.excerpt ++ ")"

end UnexpectedStatus

/-! ## §2. Failures. -/

/-- What a client library raises: a kind of fault with its words. -/
structure Http.Fault where
  kind : String
  message : String
  deriving DecidableEq, Inhabited

/-- Why an operation fails. -/
inductive Failure
  | emptyName (name : Value)
  | categoryOutside (category : Value) (root : Path)
  | testOutside (test : Value) (directory : Path)
  | template (text : String) (fault : Name.TemplateFault)
  | longInteger
  | settings (problem : SettingsProblem)
  | policy (value : Value)
  | mismatch (m : Mismatch)
  | missing (m : MissingSnapshot)
  | status (s : UnexpectedStatus)
  | unreadable (u : Json.Unreadable)
  | unwritable (r : Json.Refusal)
  | access (t : Trouble) (path : Path)
  | unresolved (u : Volume.Unresolved)
  | http (fault : Http.Fault)
  deriving Inhabited

/-- The words for an integer without a text. -/
def longIntegerMessage : String :=
  "Exceeds the limit (4300 digits) for integer string conversion; " ++
    "use sys.set_int_max_str_digits() to increase the limit"

/-- The words for why a value cannot be written. -/
def refusalMessage : Json.Refusal → String
  | .value name => "Object of type " ++ name ++ " is not JSON serializable"
  | .key name => "keys must be str, int, float, bool or None, not " ++ name
  | .longInteger => longIntegerMessage

/-- The words for why a path is not resolved. -/
def unresolvedMessage : Volume.Unresolved → String
  | .linkLoop path => "Symlink loop from " ++ Text.quote path.text
  | .nullCharacter => "embedded null byte"

/-- The words for a failure. -/
def Failure.message : Failure → String
  | .emptyName name => "Name " ++ name.literal ++ " is empty after sanitizing"
  | .categoryOutside category root =>
      "Category " ++ category.literal ++ " resolves outside " ++ root.text
  | .testOutside test directory =>
      "Test name " ++ test.literal ++ " resolves outside " ++ directory.text
  | .template text fault => fault.message text
  | .longInteger => longIntegerMessage
  | .settings problem => problem.message
  | .policy value => value.literal ++ " is not a valid SnapshotPolicy"
  | .mismatch m => m.message
  | .missing m => m.message
  | .status s => s.message
  | .unreadable u => u.message
  | .unwritable r => refusalMessage r
  | .access t path =>
      "[Errno " ++ Decimal.intText t.number ++ "] " ++ t.text ++ ": " ++ Text.quote path.text
  | .unresolved u => unresolvedMessage u
  | .http fault => fault.message

end Golden

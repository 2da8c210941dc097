/-
  Golden.Log
  ────────────────────────────────
  **LOG RECORDS AND THEIR PREFIXES.**

  Loggers live under one name space.  What is logged about a snapshot bears a
  prefix with its category, its test name and, where there is one, its URL:

      category=hits test=basic url=/hits | saved new response to …

  The prefix is put before the pattern of the event, and conversions are read
  in both together; so a percent sign in a name or URL can spoil the record,
  which then has no text.
-/
import Golden.Log.Percent

namespace Golden.Log

/-! ## §1. Loggers. -/

/-- The name space of all loggers. -/
def nameSpace : String := "bls_snapshots"

/-- The name of the logger that is asked for by a name. -/
def loggerName (name : Option String) : String :=
  match name with
  | none => nameSpace
  | some s =>
      if s = "" || s = nameSpace then nameSpace
      else if (nameSpace ++ ".").toList.isPrefixOf s.toList then s
      else nameSpace ++ "." ++ s

/-! ## §2. Records. -/

/-- How grave an event is. -/
inductive Level
  | debug
  | info
  | warning
  deriving DecidableEq, Repr, Inhabited

/-- The name of a level. -/
def Level.name : Level → String
  | .debug => "DEBUG"
  | .info => "INFO"
  | .warning => "WARNING"

/-- A log record: its level, and its text or why it has none. -/
structure Record where
  level : Level
  text : Except Fault String
  deriving Inhabited

/-- An event: its level, pattern and arguments. -/
structure Event where
  level : Level
  pattern : String
  args : List Argument
  deriving Inhabited

/-- The record of an event; an event without arguments is its pattern. -/
def Event.record (e : Event) : Record :=
  ⟨e.level, if e.args.isEmpty then .ok e.pattern else fill e.pattern e.args⟩

/-! ## §3. Snapshots. -/

/-- The snapshot that a record is about. -/
structure Subject where
  category : String
  test : String
  url : Option String
  deriving DecidableEq, Inhabited

/-- The prefix of a snapshot. -/
def Subject.header (s : Subject) : String :=
  "category=" ++ s.category ++ " test=" ++ s.test ++
    match s.url with
    | some url => " url=" ++ url
    | none => ""

/-- A message with the prefix of a snapshot. -/
def Subject.message (s : Subject) (message : String) : String := s.header ++ " | " ++ message

/-- The record of an event about a snapshot. -/
def Subject.record (s : Subject) (e : Event) : Record :=
  Event.record { e with pattern := s.message e.pattern }

end Golden.Log

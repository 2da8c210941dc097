/-
  Golden.World
  ────────────────────────────────
  **WHAT AN OPERATION SEES AND CHANGES.**

  Operations run in a world: a volume with a working directory, an
  environment, and what has been logged, requested and closed so far.  They
  end with a value or a failure, and in both cases with the world as it then
  is; a failure undoes nothing.
-/
import Golden.Failure
import Golden.Log

namespace Golden

/-! ## §1. Worlds. -/

/-- A request as it was sent: its address and the kind of answer it accepts. -/
structure Request where
  url : String
  accept : String
  deriving DecidableEq, Inhabited

/-- The surroundings of an operation. -/
structure World where
  volume : Volume
  home : Location
  environment : Environment
  log : List Log.Record
  requests : List Request
  closed : List Bool
  deriving Inhabited

/-- An operation in a world: it gives a value or fails. -/
abbrev Run := ExceptT Failure (StateM World)

namespace Run

/-! ## §2. Steps. -/

/-- What an operation gives in a world, and the world afterwards. -/
def outcome {α : Type} (op : Run α) (w : World) : Except Failure α × World := (op.run).run w

/-- The outcome of a calculation that may fail. -/
def ofExcept {ε α : Type} (cause : ε → Failure) (x : Except ε α) : Run α :=
  match x with
  | .ok a => pure a
  | .error e => throw (cause e)

/-- The volume as it is now. -/
def volume : Run Volume := do pure (← get).volume

/-- Change the volume. -/
def setVolume (v : Volume) : Run Unit := modify (fun w => { w with volume := v })

/-- The environment as it is now. -/
def environment : Run Environment := do pure (← get).environment

/-- Add a record to the log. -/
def log (r : Log.Record) : Run Unit := modify (fun w => { w with log := w.log ++ [r] })

/-- Note requests as sent. -/
def noteSent (rs : List Request) : Run Unit :=
  modify (fun w => { w with requests := w.requests ++ rs })

/-- Run an operation with a client of its own, which is closed in the end whatever the outcome. -/
def closing {α : Type} (op : Run α) : Run α := ExceptT.mk do
  let result ← op.run
  modify (fun w => { w with closed := w.closed ++ [true] })
  pure result

/-- The settings of the environment. -/
def settings : Run Settings := do
  ofExcept Failure.settings (Settings.ofEnvironment (← environment))

end Run

end Golden

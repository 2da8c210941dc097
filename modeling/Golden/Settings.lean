/-
  Golden.Settings
  ────────────────────────────────
  **SETTINGS.**

  Where the server is, where the snapshots are, whether missing ones are
  written, and how long a request may take.  Settings are given directly or
  read from the environment, in which blank values count as absent:

      ofEnvironment env  =  ok s   →   s.timeout > 0

  A time that is no number or not positive is refused with the variable's
  name.  Not-a-number is not found out there but by the settings themselves,
  which require a time greater than zero.
-/
import Golden.Decimal.Read
import Golden.Decimal.Shortest
import Golden.Path
import Golden.Policy
import Golden.Text.Blank

namespace Golden

/-! ## §1. Settings. -/

/-- The settings of a test run. -/
structure Settings where
  serverUrl : String
  savedPath : Path
  saveMissing : Bool
  timeout : Double
  deriving Inhabited

/-- Why settings are refused. -/
inductive SettingsProblem
  | timeoutUnreadable (raw : String)
  | timeoutNotPositive (timeout : Double)
  | timeoutRange
  deriving DecidableEq, Inhabited

namespace Settings

/-- Where the server is unless said otherwise. -/
def defaultServerUrl : String := "http://localhost:8080/blacklab-server"

/-- Where the snapshots are unless said otherwise. -/
def defaultSavedPath : String := "saved-responses"

/-- How many seconds a request may take unless said otherwise. -/
def defaultTimeout : Double := Double.ofInt 30

/-- The variable with the server's address. -/
def serverUrlName : String := "BLACKLAB_TEST_SERVER_URL"

/-- The variable with the directory of the snapshots. -/
def savedPathName : String := "BLACKLAB_TEST_SAVED_RESPONSES_PATH"

/-- The variable with the time that a request may take. -/
def timeoutName : String := "BLACKLAB_TEST_HTTP_TIMEOUT_SECONDS"

/-- The policy that settings ask for. -/
def policy (s : Settings) : Policy := Policy.ofFlag s.saveMissing

/-- Settings whose time is greater than zero. -/
def checked (s : Settings) : Except SettingsProblem Settings :=
  if s.timeout.isPositive then .ok s else .error .timeoutRange

/-! ## §2. Given settings. -/

/-- The settings that are given; the others keep their defaults. -/
structure Given where
  serverUrl : Option String
  savedPath : Option String
  saveMissing : Option Bool
  timeout : Option Double
  deriving Inhabited

/-- Settings from those that are given. -/
def ofGiven (g : Given) : Except SettingsProblem Settings :=
  checked {
    serverUrl := g.serverUrl.getD defaultServerUrl
    savedPath := Path.ofString (g.savedPath.getD defaultSavedPath)
    saveMissing := g.saveMissing.getD false
    timeout := g.timeout.getD defaultTimeout }

/-! ## §3. The environment. -/

/-- A variable without the blanks around its value; empty where it is not set. -/
def setting (env : Environment) (name : String) : String :=
  Text.trim ((env.lookup name).getD "")

/-- A text, or another where it is empty. -/
def orElse (s other : String) : String := if s = "" then other else s

/-- The time that an environment asks for. -/
def timeoutOf (env : Environment) : Except SettingsProblem Double :=
  let raw := setting env timeoutName
  if raw = "" then .ok defaultTimeout
  else
    match Decimal.read? raw with
    | none => .error (.timeoutUnreadable raw)
    | some t => if t.isNonpositive then .error (.timeoutNotPositive t) else .ok t

/-- The settings of an environment. -/
def ofEnvironment (env : Environment) : Except SettingsProblem Settings := do
  let timeout ← timeoutOf env
  checked {
    serverUrl := Text.trimEnd '/' (orElse (setting env serverUrlName) defaultServerUrl)
    savedPath := Path.ofString (orElse (setting env savedPathName) defaultSavedPath)
    saveMissing := Environment.savesMissing env
    timeout := timeout }

end Settings

/-- The words for why settings are refused. -/
def SettingsProblem.message : SettingsProblem → String
  | .timeoutUnreadable raw =>
      "Invalid " ++ Settings.timeoutName ++ " value: " ++ Text.quote raw
  | .timeoutNotPositive t =>
      Settings.timeoutName ++ " must be positive, got " ++ Decimal.text t
  | .timeoutRange => "http_timeout_s: Input should be greater than 0"

end Golden

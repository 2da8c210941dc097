/-
  Golden.Fixtures
  ────────────────────────────────
  **WHAT A TEST RUN PROVIDES.**

  A test run has one option, which asks for missing snapshots to be written,
  and provides its tests with settings, a client, a store and a policy.  The
  option wins over the settings.
-/
import Golden.UrlCase

namespace Golden.Fixtures

/-! ## §1. The option. -/

/-- An option of the command line that is either given or not. -/
structure Switch where
  group : String
  name : String
  help : String
  deriving DecidableEq, Inhabited

/-- The option that asks for missing snapshots to be written. -/
def saveMissingSwitch : Switch where
  group := "bls-snapshots"
  name := "--save-missing-responses"
  help := "Save responses that have no saved snapshot yet instead of failing."

/-! ## §2. Fixtures. -/

/-- What the tests of a run are provided with. -/
structure Provided where
  settings : Settings
  client : Http.Client
  store : Store
  policy : Policy
  deriving Inhabited

/-- The policy of a run: writing if the option is given, else that of the settings. -/
def policyOf (option : Bool) (s : Settings) : Policy :=
  if option then .writeIfMissing else s.policy

/-- What a run provides in its environment, with the option given or not and the clients of a
library. -/
def provide (library : Http.Library) (option : Bool) : Run Provided := do
  let settings ← Run.settings
  let client ← UrlCase.clientOf library settings
  pure ⟨settings, client, Store.ofSettings settings, policyOf option settings⟩

end Golden.Fixtures

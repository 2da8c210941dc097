/-
  Golden.UrlCase
  ────────────────────────────────
  **EXPECTING THE RESPONSE OF A URL TO BE UNCHANGED.**

  A URL case fetches a URL and expects the value in its body to be unchanged.
  The fetch comes first, so nothing is made in the store where it fails.  A
  store and a policy that are given win over settings, and settings win over
  the environment; a client that is not given is one of the library, made from
  the settings and closed after the fetch.
-/
import Golden.Expectation
import Golden.Http.Exchange

namespace Golden

/-! ## §1. Cases. -/

/-- A test of one URL. -/
structure UrlCase where
  category : Value
  test : Value
  url : String
  accept : String
  deriving Inhabited

namespace UrlCase

/-- The name of the test. -/
def name (c : UrlCase) : String := "test_" ++ c.category.plain ++ "_" ++ c.test.plain

/-- What the test is about. -/
def description (c : UrlCase) : String :=
  c.category.plain ++ ": " ++ c.test.plain ++ " response should match previous"

/-- The name of the test and what it is about; the names of the case have to have texts. -/
def titles (c : UrlCase) : Run (String × String) := do
  let _ ← subjectOf c.category c.test none
  pure (c.name, c.description)

/-- The request is about to be sent. -/
def requestEvent (accept : String) : Log.Event := ⟨.debug, "GET Accept=%s", [.text accept]⟩

/-! ## §2. What a case runs with. -/

/-- The client, store, policy and settings that a case is given. -/
structure Context where
  client : Option Http.Client
  store : Option Store
  policy : Value
  settings : Option Settings
  deriving Inhabited

/-- The client of a library for settings. -/
def clientOf (library : Http.Library) (s : Settings) : Run Http.Client :=
  Run.ofExcept Failure.http (library.client s.serverUrl s.timeout)

/-- The settings that are given, or else those of the environment. -/
def settingsOr (s : Option Settings) : Run Settings :=
  match s with
  | some s => pure s
  | none => Run.settings

/-- The store that is given, or else that of the given settings. -/
def Context.chosenStore (x : Context) : Option Store :=
  match x.store, x.settings with
  | some store, _ => some store
  | none, some s => some (Store.ofSettings s)
  | none, none => none

/-- The policy that is given, or else that of the given settings. -/
def Context.chosenPolicy (x : Context) : Value :=
  match x.settings with
  | some s => if x.policy.isTruthy then x.policy else .text s.policy.word
  | none => x.policy

/-! ## §3. Running a case. -/

section Running

variable (library : Http.Library) (c : UrlCase) (x : Context) (transport : Http.Transport)

/-- Fetch the value of the URL, with the client that is given or one of its own. -/
def fetchWith : Run Value :=
  match x.client with
  | some client => Http.fetch client c.url c.accept transport
  | none => do
      let own ← clientOf library (← settingsOr x.settings)
      Run.closing (Http.fetch own c.url c.accept transport)

/-- Fetch the value of the URL and expect it to be unchanged. -/
def check : Run Outcome := do
  let subject ← subjectOf c.category c.test (some c.url)
  Run.log (subject.record (requestEvent c.accept))
  let body ← fetchWith library c x transport
  Expectation.check {
    category := c.category
    test := c.test
    response := body
    removeParameters := false
    store := x.chosenStore
    policy := x.chosenPolicy }

end Running

end UrlCase

end Golden

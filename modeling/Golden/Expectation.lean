/-
  Golden.Expectation
  ────────────────────────────────
  **EXPECTING A RESPONSE TO BE UNCHANGED.**

  A response is cleaned of what varies and compared with the snapshot of its
  test.  Where the snapshot is there any difference is a failure; where it is
  missing the policy decides whether it is written or missed:

      snapshot   policy            outcome
      there      any               matched, or a mismatch
      missing    write if missing  written
      missing    compare only      missing

  The directory of the category is made in every case, and an existing
  snapshot is never written.
-/
import Golden.BlackLab
import Golden.Diff
import Golden.Store

namespace Golden

/-! ## §1. Events. -/

/-- The subject of what is logged about a test; its names have to have texts. -/
def subjectOf (category test : Value) (url : Option String) : Run Log.Subject :=
  if category.isPrintable && test.isPrintable then pure ⟨category.plain, test.plain, url⟩
  else throw .longInteger

/-- The snapshot is there and equal. -/
def matchesEvent (path : Path) : Log.Event :=
  ⟨.debug, "response matches %s", [.path path]⟩

/-- The snapshot is there and not equal. -/
def differsEvent (path : Path) (count : Nat) : Log.Event :=
  ⟨.warning, "response differs from %s (%d differences)", [.path path, .count count]⟩

/-- The snapshot has been written. -/
def savedEvent (path : Path) : Log.Event :=
  ⟨.info, "saved new response to %s", [.path path]⟩

/-- The snapshot is missing. -/
def missingEvent (path : Path) : Log.Event :=
  ⟨.warning, "no saved response at %s", [.path path]⟩

/-! ## §2. Policies. -/

/-- The policy that a value asks for; without one the environment decides. -/
def effectivePolicy (policy : Value) : Run Policy :=
  match policy with
  | .null => do pure (Environment.policy (← Run.environment))
  | v =>
      match Policy.ofValue? v with
      | some p => pure p
      | none => if v.isPrintable then throw (.policy v) else throw .longInteger

/-- The given store, or else that of the environment. -/
def storeOr (store : Option Store) : Run Store :=
  match store with
  | some s => pure s
  | none => do pure (Store.ofSettings (← Run.settings))

/-! ## §3. Expectations. -/

/-- What is expected: the response of a test, with how to clean and keep it. -/
structure Expectation where
  category : Value
  test : Value
  response : Value
  removeParameters : Bool
  store : Option Store
  policy : Value
  deriving Inhabited

namespace Expectation

/-- Compare a cleaned response with the snapshot that is there. -/
def compareAt (e : Expectation) (subject : Log.Subject) (store : Store) (path : Path)
    (cleaned : Value) : Run Outcome := do
  let saved ← store.load e.category e.test
  match saved.report? cleaned with
  | none => throw .longInteger
  | some [] =>
      Run.log (subject.record (matchesEvent path))
      pure .matched
  | some differences =>
      Run.log (subject.record (differsEvent path differences.length))
      throw (.mismatch ⟨e.category, e.test, path, differences⟩)

/-- Do what the policy says about a missing snapshot. -/
def settleMissing (e : Expectation) (subject : Log.Subject) (store : Store) (path : Path)
    (cleaned : Value) : Run Outcome := do
  match ← effectivePolicy e.policy with
  | .writeIfMissing =>
      let _ ← store.save e.category e.test cleaned
      Run.log (subject.record (savedEvent path))
      pure .written
  | .compareOnly =>
      Run.log (subject.record (missingEvent path))
      throw (.missing ⟨e.category, e.test, path⟩)

/-- Compare a response with its snapshot, or keep it as such. -/
def check (e : Expectation) : Run Outcome := do
  let subject ← subjectOf e.category e.test none
  let cleaned := BlackLab.sanitize e.removeParameters e.response
  let store ← storeOr e.store
  let _ ← store.ensureDirectoryOf e.category
  let path ← store.locationOf e.category e.test
  if ← Store.isFile path then e.compareAt subject store path cleaned
  else e.settleMissing subject store path cleaned

end Expectation

end Golden

/-
  Golden.Store
  ────────────────────────────────
  **THE STORE OF SNAPSHOTS.**

  A store keeps the snapshot of a test at `root/category/test.json`.  Category
  and test name become file names first, the latter with room for its suffix,
  and the location is taken with all links resolved: the directory of a
  category has to lie strictly below the root, and a snapshot directly in the
  directory of its category.

      save category test v   then   load category test   gives back v

  What is written is the finished text, so a value that cannot be written
  leaves no file behind.
-/
import Golden.Text.Utf8
import Golden.World

namespace Golden

/-! ## §1. Names. -/

/-- The file name of a category or test name, by a template and a byte limit. -/
def fileNameOf (template : String) (limit : Int) (name : Value) : Except Failure String :=
  match name.plain? with
  | none => .error .longInteger
  | some s =>
      match Name.Template.read template with
      | .error fault => .error (.template template fault)
      | .ok t =>
          match Name.fileName? t limit s with
          | none => .error (.emptyName name)
          | some n => .ok n

/-- The suffix of a snapshot. -/
def snapshotSuffix : String := ".json"

/-- The most bytes of a test name, so that its suffix still fits. -/
def maxTestBytes : Int := Name.maxBytes - snapshotSuffix.utf8ByteSize

/-! ## §2. Locations. -/

/-- A store by its root. -/
structure Store where
  root : Path
  deriving DecidableEq, Inhabited

namespace Store

/-- The store of settings. -/
def ofSettings (s : Settings) : Store := ⟨s.savedPath⟩

/-- Resolve a path in the world as it is. -/
def resolve (p : Path) : Run Path := do
  let w ← get
  Run.ofExcept Failure.unresolved (w.volume.resolve w.home p)

/-- The directory of a category. -/
def directoryOf (store : Store) (category : Value) : Run Path := do
  let root ← resolve store.root
  let name ← Run.ofExcept id (fileNameOf "" Name.maxBytes category)
  let directory ← resolve (root.child name)
  if directory.isWithin root && directory != root then pure directory
  else throw (.categoryOutside category root)

/-- The location of a snapshot. -/
def locationOf (store : Store) (category test : Value) : Run Path := do
  let directory ← store.directoryOf category
  let name ← Run.ofExcept id (fileNameOf "" maxTestBytes test)
  let path ← resolve (directory.child (name ++ snapshotSuffix))
  if path.parent = directory then pure path
  else throw (.testOutside test directory)

/-! ## §3. Access. -/

/-- The directory of a category, made if it is missing. -/
def ensureDirectoryOf (store : Store) (category : Value) : Run Path := do
  let directory ← store.directoryOf category
  let (after, result) := (← Run.volume).makeDirectories directory.names
  Run.setVolume after
  Run.ofExcept (fun (t, loc) => .access t ⟨directory.anchor, loc⟩) result
  pure directory

/-- Whether a file stands at a path. -/
def isFile (path : Path) : Run Bool := do
  Run.ofExcept (.access · path) ((← Run.volume).isFile path.names)

/-- Whether the snapshot of a test is there. -/
def exists? (store : Store) (category test : Value) : Run Bool := do
  isFile (← store.locationOf category test)

/-- The value in the bytes of a snapshot. -/
def decode (bytes : List UInt8) : Except Failure Value :=
  match Text.Utf8.decode bytes with
  | .error f => .error (.unreadable (.undecodable f))
  | .ok cs => (Json.read (Text.Utf8.unifyLineEnds cs)).mapError .unreadable

/-- The bytes of the snapshot of a value. -/
def encode (v : Value) : Except Failure (List UInt8) :=
  ((Json.write v).map Text.Utf8.encode).mapError .unwritable

/-- The value of the snapshot of a test. -/
def load (store : Store) (category test : Value) : Run Value := do
  let path ← store.locationOf category test
  let bytes ← Run.ofExcept (.access · path) ((← Run.volume).contents path.names)
  Run.ofExcept id (decode bytes)

/-- Write the snapshot of a test, and give its location. -/
def save (store : Store) (category test : Value) (v : Value) : Run Path := do
  let _ ← store.ensureDirectoryOf category
  let path ← store.locationOf category test
  let bytes ← Run.ofExcept id (encode v)
  let after ← Run.ofExcept (.access · path) ((← Run.volume).write path.names bytes)
  Run.setVolume after
  pure path

end Store

end Golden

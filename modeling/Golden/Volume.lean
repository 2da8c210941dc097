/-
  Golden.Volume
  ────────────────────────────────
  **A TREE OF FILES, DIRECTORIES AND SYMBOLIC LINKS.**

  A volume maps locations to what stands there.  Every access walks from the
  root: it fails at a name below a file or below nothing, follows each link it
  meets on the way, and gives up after forty of them; names and whole texts have
  a greatest length.  The accesses report their cause of failure and otherwise
  give the new volume:

      contents (write v loc bytes) loc  =  bytes
-/
import Golden.Path

namespace Golden

/-! ## §1. Entries. -/

/-- What stands at a location. -/
inductive Entry
  | file (content : List UInt8)
  | link (target : String)
  | directory
  deriving DecidableEq, Repr, Inhabited

/-- Why an access fails. -/
inductive Trouble
  | missing
  | taken
  | notDirectory
  | isDirectory
  | tooLong
  | linkLoop
  | notEmpty
  deriving DecidableEq, Repr, Inhabited

/-- The number of a cause. -/
def Trouble.number : Trouble → Nat
  | .missing => 2
  | .taken => 17
  | .notDirectory => 20
  | .isDirectory => 21
  | .tooLong => 36
  | .linkLoop => 40
  | .notEmpty => 39

/-- The words for a cause. -/
def Trouble.text : Trouble → String
  | .missing => "No such file or directory"
  | .taken => "File exists"
  | .notDirectory => "Not a directory"
  | .isDirectory => "Is a directory"
  | .tooLong => "File name too long"
  | .linkLoop => "Too many levels of symbolic links"
  | .notEmpty => "Directory not empty"

/-- A tree: what stands at each location, the root directory apart. -/
structure Volume where
  entries : List (Location × Entry)
  deriving Inhabited

namespace Volume

/-- The volume with the root directory alone. -/
def empty : Volume := ⟨[]⟩

/-- What stands at a location. -/
def find? (v : Volume) (loc : Location) : Option Entry :=
  if loc = [] then some .directory else v.entries.lookup loc

/-- Put an entry at a location. -/
def put (v : Volume) (loc : Location) (e : Entry) : Volume :=
  ⟨(loc, e) :: v.entries.filter (fun x => x.1 != loc)⟩

/-- Take the entry at a location away. -/
def erase (v : Volume) (loc : Location) : Volume :=
  ⟨v.entries.filter (fun x => x.1 != loc)⟩

/-- Whether something stands below a location. -/
def hasBelow (v : Volume) (loc : Location) : Bool :=
  v.entries.any (fun x => x.1 != loc && loc.isPrefixOf x.1)

/-! ## §2. Walking. -/

/-- The most links that a walk follows. -/
def maxLinks : Nat := 40

/-- The most bytes of a name. -/
def maxNameBytes : Nat := 255

/-- The most bytes of the text of a location. -/
def maxPathBytes : Nat := 4095

/-- Whether the text of a location is too long for an access. -/
def isTooLong (loc : Location) : Bool := maxPathBytes < loc.text.utf8ByteSize

/-- Where a link leads from the directory that holds it: the start, and the names from there. -/
def linkStart (directory : Location) (target : String) : Location :=
  if isAbsolute target then [] else directory

/-- What a walk does at its end: it stays at a link there, follows it, or follows it to put a file
there, for which a slash at the end will not do. -/
inductive Ending
  | stay
  | follow
  | put
  deriving DecidableEq, Repr, Inhabited

/-- Walk from a place along names to a location that has no link on its way.  Links on the way
are followed, a link at the end as the ending says; nothing need stand at the end. -/
def walk (v : Volume) (ending : Ending) (links : Nat) (here : Location) (names : List String) :
    Except Trouble Location :=
  match names with
  | [] => .ok here
  | name :: rest =>
      match v.find? here with
      | none => .error .missing
      | some .directory =>
          if isIdle name then walk v ending links here rest
          else if name = ".." then walk v ending links here.parent rest
          else if ending = .put && rest != [] && rest.all (· == "") then .error .isDirectory
          else if maxNameBytes < name.utf8ByteSize then .error .tooLong
          else
            let next := here ++ [name]
            match v.find? next with
            | some (.link target) =>
                if rest = [] && ending = .stay then .ok next
                else
                  match links with
                  | 0 => .error .linkLoop
                  | left + 1 =>
                      walk v ending left (linkStart here target) (components target ++ rest)
            | some (.file _) => if rest = [] then .ok next else .error .notDirectory
            | some .directory => walk v ending links next rest
            | none => if rest = [] then .ok next else .error .missing
      | some _ => .error .notDirectory
termination_by (links, names.length)

/-- The location without links at the end of a location. -/
def locate (v : Volume) (ending : Ending) (loc : Location) : Except Trouble Location :=
  if isTooLong loc then .error .tooLong else walk v ending maxLinks [] loc

/-- What stands at the end of a location. -/
def status (v : Volume) (loc : Location) : Except Trouble Entry := do
  match v.find? (← v.locate .follow loc) with
  | some e => .ok e
  | none => .error .missing

/-! ## §3. Looking. -/

/-- Whether a cause says only that there is nothing to look at. -/
def Trouble.isAbsence : Trouble → Bool
  | .missing => true
  | .notDirectory => true
  | .linkLoop => true
  | _ => false

/-- Whether what stands at a location is of a kind. -/
def isKind (v : Volume) (fits : Entry → Bool) (loc : Location) : Except Trouble Bool :=
  match v.status loc with
  | .ok e => .ok (fits e)
  | .error t => if Trouble.isAbsence t then .ok false else .error t

/-- Whether a file stands at a location. -/
def isFile (v : Volume) (loc : Location) : Except Trouble Bool :=
  v.isKind (fun | .file _ => true | _ => false) loc

/-- Whether a directory stands at a location. -/
def isDirectory (v : Volume) (loc : Location) : Except Trouble Bool :=
  v.isKind (fun | .directory => true | _ => false) loc

/-- The bytes of the file at a location. -/
def contents (v : Volume) (loc : Location) : Except Trouble (List UInt8) := do
  match ← v.status loc with
  | .file bytes => .ok bytes
  | _ => .error .isDirectory

/-! ## §4. Changing. -/

/-- Write the file at a location, a new one if there is none. -/
def write (v : Volume) (loc : Location) (bytes : List UInt8) : Except Trouble Volume := do
  let place ← v.locate .put loc
  match v.find? place with
  | some .directory => .error .isDirectory
  | _ => .ok (v.put place (.file bytes))

/-- Put a new entry where nothing stands. -/
def create (v : Volume) (loc : Location) (e : Entry) : Except Trouble Volume := do
  let place ← v.locate .stay loc
  match v.find? place with
  | some _ => .error .taken
  | none => .ok (v.put place e)

/-- Settle why a directory could not be made: one that is there already will do. -/
def settleDirectory (v : Volume) (loc : Location) (t : Trouble) :
    Except (Trouble × Location) Unit :=
  match v.isDirectory loc with
  | .ok true => .ok ()
  | .ok false => .error (t, loc)
  | .error u => .error (u, loc)

/-- Make a directory, and the directories on the way to it that are missing; a directory that is
there already will do.  A failure names the location at which it arose, and what was made before
it stays. -/
def makeDirectories (v : Volume) (loc : Location) : Volume × Except (Trouble × Location) Unit :=
  match v.create loc .directory with
  | .ok w => (w, .ok ())
  | .error .missing =>
      if _h : loc = [] then (v, .error (.missing, loc))
      else
        match makeDirectories v loc.parent with
        | (w, .error failure) => (w, .error failure)
        | (w, .ok ()) =>
            match w.create loc .directory with
            | .ok u => (u, .ok ())
            | .error .missing => (w, .error (.missing, loc))
            | .error t => (w, w.settleDirectory loc t)
  | .error t => (v, v.settleDirectory loc t)
termination_by loc.length
decreasing_by
  simp only [Location.parent, List.length_dropLast]
  have := List.length_pos_iff.2 _h
  omega

/-- Take away the file, link or empty directory at a location. -/
def remove (v : Volume) (loc : Location) : Except Trouble Volume := do
  let place ← v.locate .stay loc
  match v.find? place with
  | none => .error .missing
  | some .directory => if v.hasBelow place then .error .notEmpty else .ok (v.erase place)
  | some _ => .ok (v.erase place)

/-! ## §5. Resolving. -/

/-- A place in the course of resolving links: its location, and whether it is given from the root of
the tree or from the working directory. -/
structure Place where
  anchor : Anchor
  location : Location
  deriving DecidableEq, Repr, Inhabited

namespace Place

/-- The place that a name leads to from this one. -/
def child (p : Place) (name : String) : Place := ⟨p.anchor, p.location ++ [name]⟩

/-- The place that contains this one. -/
def parent (p : Place) : Place := ⟨p.anchor, p.location.parent⟩

/-- Where names lead from this place without looking at the tree; names that begin with a slash
begin at the root. -/
def join (p : Place) (names : List String) : Place :=
  match names with
  | "" :: _ :: _ =>
      let path := Path.ofString ("/".intercalate names)
      ⟨path.anchor, Location.follow [] path.names⟩
  | _ => ⟨p.anchor, p.location.follow names⟩

/-- Where a link leads from this place, which holds it: the start, and the names from there. -/
def linkStart (p : Place) (target : String) : Place :=
  if isAbsolute target then ⟨.root, []⟩ else p

/-- The path of a place, from the root. -/
def toPath (p : Place) : Path :=
  ⟨if p.anchor = .doubleRoot then .doubleRoot else .root, p.location⟩

end Place

/-- How resolving ends: with all links resolved, at a link that has led back to itself, or at a name
that no name in a tree can be. -/
inductive Settlement
  | settled
  | circular
  | refused
  deriving DecidableEq, Repr, Inhabited

/-- How far links have been resolved. -/
structure Resolution where
  place : Place
  settlement : Settlement
  deriving Repr, Inhabited

/-- Whether a name holds the null character, which no name in a tree does. -/
def holdsNull (name : String) : Bool := name.toList.contains '\x00'

/-- Where the link at a location leads, if there is one. -/
def target? (v : Volume) (loc : Location) : Option String :=
  if isTooLong loc then none
  else
    match v.find? loc with
    | some (.link target) => some target
    | _ => none

/-- Resolve names from a place: links are replaced by what they lead to, names where nothing stands
stay.  `pending` holds the links that are being resolved and `fuel` bounds their number; at a link
among them the rest is taken as it stands. -/
def resolveFrom (v : Volume) (fuel : Nat) (pending : List Place) (here : Place)
    (names : List String) : Resolution :=
  match names with
  | [] => ⟨here, .settled⟩
  | name :: rest =>
      if isIdle name then resolveFrom v fuel pending here rest
      else if name = ".." then resolveFrom v fuel pending here.parent rest
      else if holdsNull name then ⟨here, .refused⟩
      else
        let next := here.child name
        match v.target? next.location with
        | some target =>
            if pending.contains next then ⟨next.join rest, .circular⟩
            else
              match fuel with
              | 0 => ⟨next.join rest, .circular⟩
              | left + 1 =>
                  let inner := resolveFrom v left (next :: pending) (here.linkStart target)
                    (components target)
                  match inner.settlement with
                  | .settled => resolveFrom v (left + 1) pending inner.place rest
                  | .circular => ⟨inner.place.join rest, .circular⟩
                  | .refused => inner
        | none => resolveFrom v fuel pending next rest
termination_by (fuel, names.length)

/-- The most links that can be in the course of being resolved: each from the root and from the
working directory. -/
def maxPending (v : Volume) : Nat := 2 * v.entries.length

/-- Why a path is not resolved. -/
inductive Unresolved
  | linkLoop (path : Path)
  | nullCharacter
  deriving DecidableEq, Repr, Inhabited

/-- The path from the root of a path, its links resolved; relative paths start at `home`.  A path
whose links lead in a circle is refused, and so is one that leads through a name with a null
character. -/
def resolve (v : Volume) (home : Location) (p : Path) : Except Unresolved Path :=
  let start : Place := if p.anchor = .here then ⟨.here, home⟩ else ⟨.root, []⟩
  let r := resolveFrom v v.maxPending [] start p.names
  let path := r.place.toPath
  if r.settlement = .refused || path.names.any holdsNull then .error .nullCharacter
  else
    match v.status path.names with
    | .error .linkLoop => .error (.linkLoop path)
    | _ => .ok path

/-! ## §6. Listing. -/

/-- The entries below a location, by their names from there. -/
def below (v : Volume) (loc : Location) : List (Location × Entry) :=
  v.entries.filterMap (fun x =>
    if x.1 != loc && loc.isPrefixOf x.1 then some (x.1.drop loc.length, x.2) else none)

end Volume

end Golden

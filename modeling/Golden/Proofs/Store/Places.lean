/-
  Golden.Proofs.Store.Places
  ────────────────────────────────
  **WHERE A STORE KEEPS ITS SNAPSHOTS, LINKS OR NOT.**

  The directory of a category and the location of a snapshot are read off the
  volume and the working directory, and reading them changes nothing:

      outcome (locationOf category test) w  =  (locationIn w.volume w.home, w)

  A location that is found has one name more than its directory, and this lies
  strictly below the root.  Where the volume grows the location was the same
  before, and it stays the same as long as something is found there.
-/
import Golden.Proofs.Volume.Links
import Golden.Proofs.World.Steps
import Golden.Store

namespace Golden

namespace Store

/-! ## §1. Places in a volume. -/

/-- The directory of a category in a volume, for a working directory. -/
def directoryIn (store : Store) (v : Volume) (home : Location) (category : Value) :
    Except Failure Path := do
  let root ← (v.resolve home store.root).mapError .unresolved
  let name ← fileNameOf "" Name.maxBytes category
  let directory ← (v.resolve home (root.child name)).mapError .unresolved
  if directory.isWithin root && directory != root then .ok directory
  else .error (.categoryOutside category root)

/-- The location of a snapshot in a volume, for a working directory. -/
def locationIn (store : Store) (v : Volume) (home : Location) (category test : Value) :
    Except Failure Path := do
  let directory ← store.directoryIn v home category
  let name ← fileNameOf "" maxTestBytes test
  let path ← (v.resolve home (directory.child (name ++ snapshotSuffix))).mapError .unresolved
  if path.parent = directory then .ok path else .error (.testOutside test directory)

variable (store : Store) (w : World) (category test : Value)

theorem mapError_id {α : Type} (x : Except Failure α) : x.mapError id = x := by
  cases x <;> rfl

theorem outcome_fileName (template : String) (limit : Int) (name : Value) :
    Run.outcome (Run.ofExcept id (fileNameOf template limit name)) w =
      (fileNameOf template limit name, w) := by
  rw [Run.outcome_ofExcept, mapError_id]

theorem outcome_resolve (p : Path) :
    Run.outcome (resolve p) w = ((w.volume.resolve w.home p).mapError .unresolved, w) := by
  unfold resolve
  rw [Run.outcome_bind, Run.outcome_get]
  exact Run.outcome_ofExcept w _ _

/-- Taking the directory of a category changes nothing. -/
theorem outcome_directoryOf_eq :
    Run.outcome (store.directoryOf category) w =
      (store.directoryIn w.volume w.home category, w) := by
  refine Run.outcome_bind_still w (outcome_resolve w store.root) (fun root => ?_)
  refine Run.outcome_bind_still w (outcome_fileName w _ _ category) (fun name => ?_)
  refine Run.outcome_bind_still w (outcome_resolve w (root.child name)) (fun directory => ?_)
  split <;> rfl

/-- Taking the location of a snapshot changes nothing. -/
theorem outcome_locationOf_eq :
    Run.outcome (store.locationOf category test) w =
      (store.locationIn w.volume w.home category test, w) := by
  refine Run.outcome_bind_still w (outcome_directoryOf_eq store w category) (fun directory => ?_)
  refine Run.outcome_bind_still w (outcome_fileName w _ _ test) (fun name => ?_)
  refine Run.outcome_bind_still w (outcome_resolve w _) (fun path => ?_)
  split <;> rfl

/-! ## §2. Places that are found. -/

variable {store : Store} {v : Volume} {home : Location} {category test : Value}

theorem directoryIn_eq_ok_iff {d : Path} :
    store.directoryIn v home category = .ok d ↔
      ∃ root name, v.resolve home store.root = .ok root ∧
        fileNameOf "" Name.maxBytes category = .ok name ∧
        v.resolve home (root.child name) = .ok d ∧ d.isWithin root = true ∧ d ≠ root := by
  unfold directoryIn
  simp only [bind_eq_ok_iff, mapError_eq_ok_iff, ite_eq_ok_iff, Bool.and_eq_true, bne_iff_ne]
  constructor
  · rintro ⟨root, hroot, name, hname, d', hd, ⟨hwithin, hne⟩, rfl⟩
    exact ⟨root, name, hroot, hname, hd, hwithin, hne⟩
  · rintro ⟨root, name, hroot, hname, hd, hwithin, hne⟩
    exact ⟨root, hroot, name, hname, d, hd, ⟨hwithin, hne⟩, rfl⟩

theorem locationIn_eq_ok_iff {path : Path} :
    store.locationIn v home category test = .ok path ↔
      ∃ d name, store.directoryIn v home category = .ok d ∧
        fileNameOf "" maxTestBytes test = .ok name ∧
        v.resolve home (d.child (name ++ snapshotSuffix)) = .ok path ∧ path.parent = d := by
  unfold locationIn
  simp only [bind_eq_ok_iff, mapError_eq_ok_iff, ite_eq_ok_iff]
  constructor
  · rintro ⟨d, hd, name, hname, path', hpath, hparent, rfl⟩
    exact ⟨d, name, hd, hname, hpath, hparent⟩
  · rintro ⟨d, name, hd, hname, hpath, hparent⟩
    exact ⟨d, hd, name, hname, path, hpath, hparent, rfl⟩

/-- **The directory of a category lies strictly below the root.** -/
theorem below_root_of_directoryIn {d : Path} (h : store.directoryIn v home category = .ok d) :
    ∃ root more, v.resolve home store.root = .ok root ∧ more ≠ [] ∧
      d = ⟨root.anchor, root.names ++ more⟩ := by
  obtain ⟨root, -, hroot, -, -, hwithin, hne⟩ := directoryIn_eq_ok_iff.mp h
  obtain ⟨anchor, names⟩ := d
  simp only [Path.isWithin, Bool.and_eq_true, beq_iff_eq, List.isPrefixOf_iff_prefix] at hwithin
  obtain ⟨rfl, more, rfl⟩ := hwithin
  refine ⟨root, more, hroot, ?_, rfl⟩
  rintro rfl
  exact hne (by rw [List.append_nil])

/-- **A snapshot lies directly in the directory of its category.** -/
theorem child_of_locationIn {path : Path} (h : store.locationIn v home category test = .ok path) :
    ∃ d name, store.directoryIn v home category = .ok d ∧ path = d.child name := by
  obtain ⟨d, -, hd, -, -, hparent⟩ := locationIn_eq_ok_iff.mp h
  obtain ⟨root, more, -, hmore, rfl⟩ := below_root_of_directoryIn hd
  obtain ⟨anchor, names⟩ := path
  obtain ⟨hanchor, hnames⟩ : anchor = root.anchor ∧ names.dropLast = root.names ++ more := by
    simpa [Path.parent] using hparent
  -- The directory has a name, so the location has one too, and a last one.
  have hne : names ≠ [] := by
    rintro rfl
    simp [hmore] at hnames
  refine ⟨_, names.getLast hne, hd, ?_⟩
  rw [Path.child, ← hnames, List.dropLast_concat_getLast, hanchor]

/-! ## §3. Places in a volume that grows. -/

section Growth

variable {w : Volume} (hgrows : Volume.Grows v w)

include hgrows

/-- **A directory that is found was found before.** -/
theorem directoryIn_before {d : Path} (h : store.directoryIn w home category = .ok d) :
    store.directoryIn v home category = .ok d := by
  obtain ⟨root, name, hroot, hname, hd, hwithin, hne⟩ := directoryIn_eq_ok_iff.mp h
  exact directoryIn_eq_ok_iff.mpr ⟨root, name, hgrows.resolve_before hroot, hname,
    hgrows.resolve_before hd, hwithin, hne⟩

/-- **A location that is found was found before.** -/
theorem locationIn_before {path : Path} (h : store.locationIn w home category test = .ok path) :
    store.locationIn v home category test = .ok path := by
  obtain ⟨d, name, hd, hname, hpath, hparent⟩ := locationIn_eq_ok_iff.mp h
  exact locationIn_eq_ok_iff.mpr ⟨d, name, directoryIn_before hgrows hd, hname,
    hgrows.resolve_before hpath, hparent⟩

/-- A directory stays where it was as long as something is found below it. -/
theorem directoryIn_after {d : Path} {loc : Location} {e : Entry}
    (h : store.directoryIn v home category = .ok d) (hloc : d.names <+: loc)
    (hstatus : w.status loc = .ok e) : store.directoryIn w home category = .ok d := by
  obtain ⟨root, name, hroot, hname, hd, hwithin, hne⟩ := directoryIn_eq_ok_iff.mp h
  have hup : root.names <+: d.names := by
    simpa [Path.isWithin] using (Bool.and_eq_true_iff.mp hwithin).2
  exact directoryIn_eq_ok_iff.mpr ⟨root, name,
    hgrows.resolve_after hroot (Volume.status_ne_loop_of_prefix (hup.trans hloc) hstatus), hname,
    hgrows.resolve_after hd (Volume.status_ne_loop_of_prefix hloc hstatus), hwithin, hne⟩

/-- **A location stays where it was as long as something is found there.** -/
theorem locationIn_after {path : Path} {e : Entry}
    (h : store.locationIn v home category test = .ok path)
    (hstatus : w.status path.names = .ok e) :
    store.locationIn w home category test = .ok path := by
  obtain ⟨d, name, hd, hname, hpath, hparent⟩ := locationIn_eq_ok_iff.mp h
  have hup : d.names <+: path.names := by
    rw [← hparent]
    exact List.dropLast_prefix path.names
  exact locationIn_eq_ok_iff.mpr ⟨d, name, directoryIn_after hgrows hd hup hstatus, hname,
    hgrows.resolve_after hpath (Volume.status_ne_loop_of_prefix List.prefix_rfl hstatus), hparent⟩

end Growth

/-! ## §4. Accesses. -/

section Accesses

variable (store : Store) (w : World) (category test : Value)

/-- Looking for a file changes nothing. -/
theorem outcome_isFile_eq (path : Path) :
    Run.outcome (isFile path) w = ((w.volume.isFile path.names).mapError (.access · path), w) := by
  unfold isFile
  rw [Run.outcome_bind, Run.outcome_volume]
  exact Run.outcome_ofExcept w _ _

/-- Looking for a snapshot changes nothing. -/
theorem outcome_exists?_eq :
    Run.outcome (store.exists? category test) w =
      (do
        let path ← store.locationIn w.volume w.home category test
        (w.volume.isFile path.names).mapError (.access · path), w) :=
  Run.outcome_bind_still w (outcome_locationOf_eq store w category test)
    (fun path => outcome_isFile_eq w path)

/-- Loading a snapshot changes nothing. -/
theorem outcome_load_eq :
    Run.outcome (store.load category test) w =
      (do
        let path ← store.locationIn w.volume w.home category test
        let bytes ← (w.volume.contents path.names).mapError (.access · path)
        decode bytes, w) := by
  refine Run.outcome_bind_still w (outcome_locationOf_eq store w category test) (fun path => ?_)
  rw [Run.outcome_bind, Run.outcome_volume]
  refine Run.outcome_bind_still w (Run.outcome_ofExcept w _ _) (fun bytes => ?_)
  rw [Run.outcome_ofExcept, mapError_id]

section Ensuring

variable {category}

/-- Without a directory for the category nothing is made. -/
theorem outcome_ensureDirectoryOf_of_error {f : Failure}
    (hd : store.directoryIn w.volume w.home category = .error f) :
    Run.outcome (store.ensureDirectoryOf category) w = (.error f, w) := by
  have hdirectory := outcome_directoryOf_eq store w category
  rw [hd] at hdirectory
  exact Run.outcome_bind_of_error hdirectory _

variable {d : Path} (hd : store.directoryIn w.volume w.home category = .ok d)

include hd

/-- What a failure to make the directory leaves is what was made before it. -/
theorem outcome_ensureDirectoryOf_of_failure {failure : Trouble × Location}
    (hmade : (w.volume.makeDirectories d.names).2 = .error failure) :
    Run.outcome (store.ensureDirectoryOf category) w =
      (.error (.access failure.1 ⟨d.anchor, failure.2⟩),
        { w with volume := (w.volume.makeDirectories d.names).1 }) := by
  have hdirectory := outcome_directoryOf_eq store w category
  rw [hd] at hdirectory
  unfold ensureDirectoryOf
  rw [Run.outcome_bind_of_ok hdirectory, Run.outcome_bind, Run.outcome_volume]
  simp only
  rw [Run.outcome_bind, Run.outcome_setVolume]
  simp only
  rw [Run.outcome_bind, Run.outcome_ofExcept, hmade]
  rfl

theorem outcome_ensureDirectoryOf_of_made (hmade : (w.volume.makeDirectories d.names).2 = .ok ()) :
    Run.outcome (store.ensureDirectoryOf category) w =
      (.ok d, { w with volume := (w.volume.makeDirectories d.names).1 }) := by
  have hdirectory := outcome_directoryOf_eq store w category
  rw [hd] at hdirectory
  unfold ensureDirectoryOf
  rw [Run.outcome_bind_of_ok hdirectory, Run.outcome_bind, Run.outcome_volume]
  simp only
  rw [Run.outcome_bind, Run.outcome_setVolume]
  simp only
  rw [Run.outcome_bind, Run.outcome_ofExcept, hmade]
  rfl

end Ensuring

/-- Write a snapshot, and give its location and the volume then. -/
def writeIn (store : Store) (v : Volume) (home : Location) (category test x : Value) :
    Except Failure (Path × Volume) := do
  let path ← store.locationIn v home category test
  let bytes ← encode x
  let after ← (v.write path.names bytes).mapError (.access · path)
  .ok (path, after)

/-- Saving makes the directory of the category, then writes the snapshot. -/
theorem outcome_save_eq (x : Value) :
    Run.outcome (store.save category test x) w =
      match Run.outcome (store.ensureDirectoryOf category) w with
      | (.error f, u) => (.error f, u)
      | (.ok _, u) =>
          match store.writeIn u.volume u.home category test x with
          | .error f => (.error f, u)
          | .ok (path, after) => (.ok path, { u with volume := after }) := by
  unfold save writeIn
  rw [Run.outcome_bind]
  generalize Run.outcome (store.ensureDirectoryOf category) w = ensured
  obtain ⟨result, u⟩ := ensured
  cases result with
  | error f => rfl
  | ok d =>
      simp only
      rw [Run.outcome_bind, outcome_locationOf_eq]
      cases store.locationIn u.volume u.home category test with
      | error f => rfl
      | ok path =>
          simp only
          rw [Run.outcome_bind, Run.outcome_ofExcept, mapError_id]
          cases encode x with
          | error f => rfl
          | ok bytes =>
              simp only
              rw [Run.outcome_bind, Run.outcome_volume]
              simp only
              rw [Run.outcome_bind, Run.outcome_ofExcept]
              simp only [bind, Except.bind]
              cases u.volume.write path.names bytes <;> rfl

/-- Where the directory stands it is not made again, and saving only writes. -/
theorem outcome_save_of_directory (x : Value) {d : Path}
    (hd : store.directoryIn w.volume w.home category = .ok d)
    (hstatus : w.volume.status d.names = .ok .directory) :
    Run.outcome (store.save category test x) w =
      match store.writeIn w.volume w.home category test x with
      | .error f => (.error f, w)
      | .ok (path, after) => (.ok path, { w with volume := after }) := by
  have hmade := Volume.makeDirectories_of_status hstatus
  have hensure := outcome_ensureDirectoryOf_of_made store w hd (by rw [hmade])
  rw [hmade] at hensure
  rw [outcome_save_eq, hensure]

end Accesses

theorem writeIn_eq_ok_iff {x : Value} {path : Path} {after : Volume} :
    store.writeIn v home category test x = .ok (path, after) ↔
      ∃ bytes, store.locationIn v home category test = .ok path ∧ encode x = .ok bytes ∧
        v.write path.names bytes = .ok after := by
  unfold writeIn
  simp only [bind_eq_ok_iff, mapError_eq_ok_iff, Except.ok.injEq, Prod.mk.injEq]
  constructor
  · rintro ⟨path', hpath, bytes, hbytes, after', hwrite, rfl, rfl⟩
    exact ⟨bytes, hpath, hbytes, hwrite⟩
  · rintro ⟨bytes, hpath, hbytes, hwrite⟩
    exact ⟨path, hpath, bytes, hbytes, after, hwrite, rfl, rfl⟩

/-- **What saving has done when it succeeds: made the directory, and written in it.** -/
theorem save_eq_ok {w u : World} {x : Value} {path : Path}
    (h : Run.outcome (store.save category test x) w = (.ok path, u)) :
    ∃ d after, store.directoryIn w.volume w.home category = .ok d ∧
      (w.volume.makeDirectories d.names).2 = .ok () ∧
      store.writeIn (w.volume.makeDirectories d.names).1 w.home category test x =
        .ok (path, after) ∧ u = { w with volume := after } := by
  rw [outcome_save_eq] at h
  cases hd : store.directoryIn w.volume w.home category with
  | error f =>
      rw [outcome_ensureDirectoryOf_of_error store w hd] at h
      cases h
  | ok d =>
      cases hmade : (w.volume.makeDirectories d.names).2 with
      | error failure =>
          rw [outcome_ensureDirectoryOf_of_failure store w hd hmade] at h
          cases h
      | ok _ =>
          rw [outcome_ensureDirectoryOf_of_made store w hd hmade] at h
          simp only at h
          cases hwrite : store.writeIn (w.volume.makeDirectories d.names).1 w.home category test x with
          | error f =>
              rw [hwrite] at h
              cases h
          | ok written =>
              rw [hwrite] at h
              obtain ⟨rfl, rfl⟩ : written.1 = path ∧ _ = u := by simpa using h
              exact ⟨d, written.2, rfl, hmade, hwrite, rfl⟩

/-- What saving leaves when it fails is what making the directory has left. -/
theorem save_eq_error {w u : World} {x : Value} {f : Failure}
    (h : Run.outcome (store.save category test x) w = (.error f, u)) :
    u = (Run.outcome (store.ensureDirectoryOf category) w).2 := by
  rw [outcome_save_eq] at h
  generalize Run.outcome (store.ensureDirectoryOf category) w = ensured at h ⊢
  obtain ⟨result, made⟩ := ensured
  cases result with
  | error _ => exact (congrArg Prod.snd h).symm
  | ok d =>
      simp only at h
      cases hwrite : store.writeIn made.volume made.home category test x with
      | error _ =>
          rw [hwrite] at h
          exact (congrArg Prod.snd h).symm
      | ok written =>
          rw [hwrite] at h
          cases congrArg Prod.fst h

end Store

end Golden

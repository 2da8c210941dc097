/-
  Golden.Proofs.Store.Contained
  ────────────────────────────────
  **A STORE STAYS INSIDE ITS ROOT.**

  Whatever links there are, as long as those of the category and of the
  snapshot lead in no circle, only one file is ever read or written: the one
  directly in the directory of the category, below the root, with no link left
  on the way to it.  To read no other file is to give the same whatever bytes
  the others hold:

      access (rewrite g w)  =  rewrite g (access w)

  Where the names or the links lead anywhere else there is no such file, and the
  access fails.  Besides it makes the directory of the category and those above
  it that are missing.
-/
import Golden.Proofs.Store.Apart
import Golden.Proofs.Volume.Bytes

namespace Golden

/-! ## §1. Accesses that read no file. -/

/-- A world with other bytes in its files. -/
def World.rewrite (g : Location → List UInt8 → List UInt8) (w : World) : World :=
  { w with volume := w.volume.rewrite g }

namespace Run

variable {α β : Type} {g : Location → List UInt8 → List UInt8} {w : World}

/-- Whether an operation gives and does the same where the files have other bytes. -/
def Blind (g : Location → List UInt8 → List UInt8) (op : Run α) (w : World) : Prop :=
  outcome op (w.rewrite g) = ((outcome op w).1, (outcome op w).2.rewrite g)

theorem Blind.bind {x : Run α} {f : α → Run β} (hx : Blind g x w)
    (hf : ∀ a u, outcome x w = (.ok a, u) → Blind g (f a) u) : Blind g (x >>= f) w := by
  unfold Blind at hx ⊢
  rw [outcome_bind, outcome_bind, hx]
  cases hended : outcome x w with
  | mk r u =>
      cases r with
      | error e => rfl
      | ok a => exact hf a u hended

/-- Whether an operation fails. -/
def Fails (op : Run α) (w : World) : Prop := ∃ f, (outcome op w).1 = .error f

theorem Fails.bind {x : Run α} {f : α → Run β}
    (hf : ∀ a u, outcome x w = (.ok a, u) → Fails (f a) u) : Fails (x >>= f) w := by
  unfold Fails
  rw [outcome_bind]
  cases hended : outcome x w with
  | mk r u =>
      cases r with
      | error e => exact ⟨e, rfl⟩
      | ok a => exact hf a u hended

/-- An operation after another succeeds only after it. -/
theorem ok_bind {x : Run α} {f : α → Run β} {b : β} {u : World}
    (h : outcome (x >>= f) w = (.ok b, u)) :
    ∃ a v, outcome x w = (.ok a, v) ∧ outcome (f a) v = (.ok b, u) := by
  rw [outcome_bind] at h
  cases hended : outcome x w with
  | mk r v =>
      rw [hended] at h
      cases r with
      | error e => cases congrArg Prod.fst h
      | ok a => exact ⟨a, v, rfl, h⟩

end Run

namespace Store

variable {store : Store} {w : World} {category test : Value}

/-! ## §2. The one file. -/

/-- Whether the working directory is given without links, and those of a category and of a snapshot
lead in no circle. -/
structure Settles (store : Store) (w : World) (category test : Value) : Prop where
  home : Volume.Plain w.volume w.home
  directory : ∀ root name, w.volume.resolve w.home store.root = .ok root →
    fileNameOf "" Name.maxBytes category = .ok name →
      (w.volume.resolution w.home (root.child name)).settlement ≠ .circular
  snapshot : ∀ d name, store.directoryIn w.volume w.home category = .ok d →
    fileNameOf "" maxTestBytes test = .ok name →
      (w.volume.resolution w.home (d.child (name ++ snapshotSuffix))).settlement ≠ .circular

/-- Whether a location is that of a snapshot, inside: directly in the directory of the category, which
lies strictly below the root, with no link left on the way. -/
structure Inside (store : Store) (w : World) (category test : Value) (loc : Location) : Prop where
  location : store.locationIn w.volume w.home category test = .ok ⟨.root, loc⟩
  below : ∃ root d more name, w.volume.resolve w.home store.root = .ok root ∧
    store.directoryIn w.volume w.home category = .ok d ∧ d.names = root.names ++ more ∧
    more ≠ [] ∧ loc = d.names ++ [name]
  proper : ∀ n ∈ loc, IsProper n
  unlinked : Volume.Unlinked w.volume loc

/-- Whether a world has become another one by a file at the place of the snapshot, and by directories
where the directory of the category and those above it were missing. -/
def Changes (store : Store) (category test : Value) (w u : World) : Prop :=
  ∀ loc, u.volume.find? loc = w.volume.find? loc ∨
    (store.Inside w category test loc ∧ ∃ bytes, u.volume.find? loc = some (.file bytes)) ∨
    (w.volume.find? loc = none ∧ u.volume.find? loc = some .directory ∧
      ∃ d, store.directoryIn w.volume w.home category = .ok d ∧ loc <+: d.names)

/-- Whether an operation keeps to one file: it reads no other, changes no other and makes no more than
the directory of the category, and without that file it fails. -/
structure Confined {α : Type} (store : Store) (category test : Value) (op : Run α) (w : World) :
    Prop where
  reads : ∀ g : Location → List UInt8 → List UInt8,
    (∀ loc, store.Inside w category test loc → ∀ bytes, g loc bytes = bytes) → Run.Blind g op w
  changes : store.Changes category test w (Run.outcome op w).2
  fails : (∀ loc, ¬ store.Inside w category test loc) → Run.Fails op w

/-! ## §3. No link left. -/

theorem plain_of_resolve {p q : Path} (hhome : Volume.Plain w.volume w.home)
    (hsettles : (w.volume.resolution w.home p).settlement ≠ .circular)
    (h : w.volume.resolve w.home p = .ok q) : q.anchor = .root ∧ Volume.Plain w.volume q.names := by
  obtain ⟨hrefused, rfl, -, -⟩ := Volume.resolve_eq_ok_iff.mp h
  -- A path that is refused is not resolved, and a circle is ruled out, so all links are followed.
  have hsettled : (w.volume.resolution w.home p).settlement = .settled := by
    cases hs : (w.volume.resolution w.home p).settlement with
    | settled => rfl
    | circular => exact absurd hs hsettles
    | refused => exact absurd hs hrefused
  exact ⟨Volume.anchor_of_settled hsettled, Volume.plain_of_settled hhome hsettled⟩

section Settled

variable (h : store.Settles w category test)

include h

/-- **The directory of the category has no link left in it.** -/
theorem Settles.plain_directory {d : Path}
    (hd : store.directoryIn w.volume w.home category = .ok d) : Volume.Plain w.volume d.names := by
  obtain ⟨root, name, hroot, hname, hresolve, -, -⟩ := directoryIn_eq_ok_iff.mp hd
  exact (plain_of_resolve h.home (h.directory root name hroot hname) hresolve).2

/-- **The location of the snapshot has no link left in it.** -/
theorem Settles.plain_location {path : Path}
    (hpath : store.locationIn w.volume w.home category test = .ok path) :
    path.anchor = .root ∧ Volume.Plain w.volume path.names := by
  obtain ⟨d, name, hd, hname, hresolve, -⟩ := locationIn_eq_ok_iff.mp hpath
  exact plain_of_resolve h.home (h.snapshot d name hd hname) hresolve

/-- A location that is short enough is inside. -/
theorem Settles.inside {path : Path}
    (hpath : store.locationIn w.volume w.home category test = .ok path)
    (hshort : Volume.isTooLong path.names = false) : store.Inside w category test path.names := by
  obtain ⟨hanchor, hplain⟩ := h.plain_location hpath
  obtain ⟨d, name, hd, rfl⟩ := child_of_locationIn hpath
  obtain ⟨root, more, hroot, hmore, hnames⟩ := below_root_of_directoryIn hd
  refine ⟨?_, ⟨root, d, more, name, hroot, hd, congrArg Path.names hnames, hmore, rfl⟩,
    hplain.proper, hplain.bare.unlinked hshort⟩
  rw [hpath, ← hanchor]

end Settled

/-! ## §4. What is kept while directories are made. -/

/-- What accesses need to know of the location of a snapshot: it is free of links, and the file there
keeps its bytes. -/
def Spares (g : Location → List UInt8 → List UInt8) (store : Store) (category test : Value)
    (w : World) : Prop :=
  ∀ path, store.locationIn w.volume w.home category test = .ok path →
    Volume.Plain w.volume path.names ∧
      (Volume.isTooLong path.names = false → ∀ bytes, g path.names bytes = bytes)

theorem Settles.spares {g : Location → List UInt8 → List UInt8} (h : store.Settles w category test)
    (hg : ∀ loc, store.Inside w category test loc → ∀ bytes, g loc bytes = bytes) :
    store.Spares g category test w := fun _ hpath =>
  ⟨(h.plain_location hpath).2, fun hshort => hg _ (h.inside hpath hshort)⟩

/-- Whether no location of a snapshot is short enough for an access. -/
def Astray (store : Store) (category test : Value) (w : World) : Prop :=
  ∀ path, store.locationIn w.volume w.home category test = .ok path →
    Volume.isTooLong path.names = true

theorem Settles.astray (h : store.Settles w category test)
    (hnone : ∀ loc, ¬ store.Inside w category test loc) : store.Astray category test w := by
  intro path hpath
  by_contra hshort
  exact hnone _ (h.inside hpath (by simpa using hshort))

section Growth

variable {v : Volume} (hgrows : Volume.Grows w.volume v)

include hgrows

theorem Spares.of_grows {g : Location → List UInt8 → List UInt8}
    (h : store.Spares g category test w) : store.Spares g category test { w with volume := v } := by
  intro path hpath
  obtain ⟨hplain, hbytes⟩ := h path (locationIn_before hgrows hpath)
  exact ⟨hgrows.plain hplain, hbytes⟩

theorem Astray.of_grows (h : store.Astray category test w) :
    store.Astray category test { w with volume := v } :=
  fun path hpath => h path (locationIn_before hgrows hpath)

end Growth

/-- A location that has been taken was read off the world, which stays as it is. -/
theorem locationOf_ok {path : Path} {u : World}
    (h : Run.outcome (store.locationOf category test) w = (.ok path, u)) :
    store.locationIn w.volume w.home category test = .ok path ∧ w = u := by
  rw [outcome_locationOf_eq] at h
  exact Prod.mk.inj h

/-- What making the directory of a category leaves. -/
theorem ensureDirectoryOf_leaves (store : Store) (category : Value) (w : World) :
    ∃ v, (Run.outcome (store.ensureDirectoryOf category) w).2 = { w with volume := v } ∧
      Volume.Grows w.volume v ∧ (v = w.volume ∨
        ∃ d, store.directoryIn w.volume w.home category = .ok d ∧
          v = (w.volume.makeDirectories d.names).1) := by
  cases hd : store.directoryIn w.volume w.home category with
  | error f =>
      rw [outcome_ensureDirectoryOf_of_error store w hd]
      exact ⟨w.volume, rfl, .refl w.volume, Or.inl rfl⟩
  | ok d =>
      refine ⟨(w.volume.makeDirectories d.names).1, ?_,
        (Volume.prepares_makeDirectories w.volume d.names).grows, Or.inr ⟨d, rfl, rfl⟩⟩
      cases hmade : (w.volume.makeDirectories d.names).2 with
      | error failure => rw [outcome_ensureDirectoryOf_of_failure store w hd hmade]
      | ok _ => rw [outcome_ensureDirectoryOf_of_made store w hd hmade]

theorem ensureDirectoryOf_ok {d : Path} {u : World}
    (h : Run.outcome (store.ensureDirectoryOf category) w = (.ok d, u)) :
    ∃ v, u = { w with volume := v } ∧ Volume.Grows w.volume v := by
  obtain ⟨v, hv, hgrows, -⟩ := ensureDirectoryOf_leaves store category w
  rw [h] at hv
  exact ⟨v, hv, hgrows⟩

/-! ## §5. Reading. -/

section Reading

variable {g : Location → List UInt8 → List UInt8}

theorem directoryIn_rewrite (v : Volume) (home : Location) :
    store.directoryIn (v.rewrite g) home category = store.directoryIn v home category := by
  unfold directoryIn
  simp only [Volume.resolve_rewrite]

theorem locationIn_rewrite (v : Volume) (home : Location) :
    store.locationIn (v.rewrite g) home category test = store.locationIn v home category test := by
  unfold locationIn
  simp only [Volume.resolve_rewrite, directoryIn_rewrite]

theorem blind_locationOf : Run.Blind g (store.locationOf category test) w := by
  unfold Run.Blind
  rw [outcome_locationOf_eq, outcome_locationOf_eq]
  exact congrArg (·, w.rewrite g) (locationIn_rewrite w.volume w.home)

theorem blind_isFile (path : Path) : Run.Blind g (isFile path) w := by
  unfold Run.Blind
  rw [outcome_isFile_eq, outcome_isFile_eq]
  show ((w.volume.rewrite g).isFile path.names |>.mapError _, w.rewrite g) = _
  rw [Volume.isFile_rewrite]

theorem blind_exists? : Run.Blind g (store.exists? category test) w :=
  blind_locationOf.bind (fun path _ _ => blind_isFile path)

/-- **Making the directory of a category reads no file.** -/
theorem blind_ensureDirectoryOf : Run.Blind g (store.ensureDirectoryOf category) w := by
  unfold Run.Blind
  have hmakes := Volume.makeDirectories_rewrite g w.volume
  have hsame : store.directoryIn (w.rewrite g).volume (w.rewrite g).home category =
      store.directoryIn w.volume w.home category := directoryIn_rewrite w.volume w.home
  cases hd : store.directoryIn w.volume w.home category with
  | error f =>
      rw [outcome_ensureDirectoryOf_of_error store w hd,
        outcome_ensureDirectoryOf_of_error store (w.rewrite g) (hsame.trans hd)]
  | ok d =>
      have hrewritten : ((w.rewrite g).volume.makeDirectories d.names) =
        ((w.volume.makeDirectories d.names).1.rewrite g, (w.volume.makeDirectories d.names).2) :=
          hmakes d.names
      cases hmade : (w.volume.makeDirectories d.names).2 with
      | error failure =>
          rw [outcome_ensureDirectoryOf_of_failure store w hd hmade,
            outcome_ensureDirectoryOf_of_failure store (w.rewrite g) (hsame.trans hd)
              ((congrArg Prod.snd hrewritten).trans hmade), hrewritten]
          rfl
      | ok _ =>
          rw [outcome_ensureDirectoryOf_of_made store w hd hmade,
            outcome_ensureDirectoryOf_of_made store (w.rewrite g) (hsame.trans hd)
              ((congrArg Prod.snd hrewritten).trans hmade), hrewritten]
          rfl

variable (h : store.Spares g category test w)

include h

/-- **Loading reads the file of the snapshot alone.** -/
theorem Spares.blind_load : Run.Blind g (store.load category test) w := by
  unfold Run.Blind
  rw [outcome_load_eq, outcome_load_eq]
  refine congrArg (·, w.rewrite g) ?_
  show (do
    let path ← store.locationIn (w.volume.rewrite g) w.home category test
    let bytes ← ((w.volume.rewrite g).contents path.names).mapError (.access · path)
    decode bytes) = _
  rw [locationIn_rewrite]
  cases hpath : store.locationIn w.volume w.home category test with
  | error f => rfl
  | ok path =>
      obtain ⟨hplain, hbytes⟩ := h path hpath
      -- Without links the walk ends at the location itself, whose bytes are spared.
      have hcontents : (w.volume.rewrite g).contents path.names = w.volume.contents path.names := by
        refine Volume.contents_rewrite (fun l hl => ?_)
        obtain ⟨rfl, hshort⟩ := hplain.locate_ok hl
        exact hbytes hshort
      simp only [bind, Except.bind, hcontents]

/-- **Writing a snapshot reads no file.** -/
theorem Spares.writeIn_rewrite (x : Value) :
    store.writeIn (w.volume.rewrite g) w.home category test x =
      (store.writeIn w.volume w.home category test x).map (fun r => (r.1, r.2.rewrite g)) := by
  unfold writeIn
  rw [locationIn_rewrite]
  cases hpath : store.locationIn w.volume w.home category test with
  | error f => rfl
  | ok path =>
      obtain ⟨hplain, hbytes⟩ := h path hpath
      cases encode x with
      | error f => rfl
      | ok bytes =>
          have hwrite : (w.volume.rewrite g).write path.names bytes =
              (w.volume.write path.names bytes).map (Volume.rewrite g) := by
            refine Volume.write_rewrite (fun l hl => ?_)
            obtain ⟨rfl, hshort⟩ := hplain.locate_ok hl
            exact hbytes hshort bytes
          simp only [bind, Except.bind, hwrite]
          cases w.volume.write path.names bytes <;> rfl

theorem Spares.blind_save (x : Value) : Run.Blind g (store.save category test x) w := by
  have hensure : Run.Blind g (store.ensureDirectoryOf category) w := blind_ensureDirectoryOf
  -- The location is taken anew in the volume that making the directory leaves, which has grown.
  obtain ⟨v, hv, hgrows, -⟩ := ensureDirectoryOf_leaves store category w
  unfold Run.Blind at hensure ⊢
  rw [outcome_save_eq, outcome_save_eq, hensure]
  generalize Run.outcome (store.ensureDirectoryOf category) w = ensured at hv ⊢
  obtain ⟨result, u⟩ := ensured
  obtain rfl : u = { w with volume := v } := hv
  cases result with
  | error f => rfl
  | ok d =>
      have hwrite := (h.of_grows hgrows).writeIn_rewrite x
      simp only [World.rewrite]
      rw [hwrite]
      cases store.writeIn v w.home category test x <;> rfl

end Reading

/-! ## §6. Failing. -/

section Failing

variable (h : store.Astray category test w)

include h

theorem Astray.fails_isFile {path : Path}
    (hpath : store.locationIn w.volume w.home category test = .ok path) :
    Run.Fails (isFile path) w := by
  refine ⟨.access .tooLong path, ?_⟩
  rw [outcome_isFile_eq]
  have hfile : w.volume.isFile path.names = .error .tooLong := by
    unfold Volume.isFile Volume.isKind
    rw [Volume.status_of_isTooLong (h path hpath)]
    rfl
  rw [hfile]
  rfl

theorem Astray.fails_exists? : Run.Fails (store.exists? category test) w := by
  refine Run.Fails.bind (fun path u hlocated => ?_)
  obtain ⟨hpath, rfl⟩ := locationOf_ok hlocated
  exact h.fails_isFile hpath

theorem Astray.fails_load : Run.Fails (store.load category test) w := by
  refine Run.Fails.bind (fun path u hlocated => ?_)
  obtain ⟨hpath, rfl⟩ := locationOf_ok hlocated
  have hcontents : w.volume.contents path.names = .error .tooLong := by
    unfold Volume.contents
    rw [Volume.status_of_isTooLong (h path hpath)]
    rfl
  refine ⟨.access .tooLong path, ?_⟩
  rw [Run.outcome_bind, Run.outcome_volume]
  simp only
  rw [Run.outcome_bind, Run.outcome_ofExcept, hcontents]
  rfl

theorem Astray.fails_save (x : Value) : Run.Fails (store.save category test x) w := by
  unfold Run.Fails
  cases hended : Run.outcome (store.save category test x) w with
  | mk result u =>
      cases result with
      | error f => exact ⟨f, rfl⟩
      | ok path =>
          obtain ⟨d, after, -, -, hwrite, -⟩ := save_eq_ok hended
          obtain ⟨bytes, hlocation, -, hwritten⟩ := writeIn_eq_ok_iff.mp hwrite
          have hgrows := (Volume.prepares_makeDirectories w.volume d.names).grows
          obtain ⟨l, hl, -⟩ := Volume.write_eq_ok_iff.mp hwritten
          obtain ⟨hshort, -⟩ := Volume.locate_eq_ok_iff.mp hl
          rw [h path (locationIn_before hgrows hlocation)] at hshort
          cases hshort

end Failing

/-! ## §7. What is found and what is changed. -/

theorem Changes.refl (store : Store) (category test : Value) (w : World) :
    store.Changes category test w w := fun _ => Or.inl rfl

section Settled

variable (h : store.Settles w category test)

include h

/-- **A file that is found at the location of a snapshot is inside.** -/
theorem Settles.inside_of_status {v : Volume} (hgrows : Volume.Grows w.volume v) {path : Path}
    {bytes : List UInt8} (hpath : store.locationIn v w.home category test = .ok path)
    (hstatus : v.status path.names = .ok (.file bytes)) :
    store.Inside w category test path.names ∧ v.find? path.names = some (.file bytes) := by
  have hbefore := locationIn_before hgrows hpath
  obtain ⟨l, hl, hfound⟩ := Volume.status_eq_ok_iff.mp hstatus
  obtain ⟨rfl, hshort⟩ := (hgrows.plain (h.plain_location hbefore).2).locate_ok hl
  exact ⟨h.inside hbefore hshort, hfound⟩

/-- Making the directory of a category makes it and what is missing above it. -/
theorem Settles.changes_of_made {d : Path} {u : World}
    (hd : store.directoryIn w.volume w.home category = .ok d)
    (hu : u.volume = (w.volume.makeDirectories d.names).1) : store.Changes category test w u := by
  intro loc
  rcases (h.plain_directory hd).makeDirectories_adds loc with heq | ⟨hup, hnone, hfound⟩
  · exact Or.inl (by rw [hu, heq])
  · exact Or.inr (Or.inr ⟨hnone, by rw [hu, hfound], d, hd, hup⟩)

/-- **A snapshot is written inside.** -/
theorem Settles.inside_of_writeIn {v after : Volume} (hgrows : Volume.Grows w.volume v)
    {x : Value} {path : Path}
    (hwrite : store.writeIn v w.home category test x = .ok (path, after)) :
    store.Inside w category test path.names ∧ ∃ bytes, encode x = .ok bytes ∧
      after = v.put path.names (.file bytes) ∧ after.find? path.names = some (.file bytes) := by
  obtain ⟨bytes, hlocation, hbytes, hwritten⟩ := writeIn_eq_ok_iff.mp hwrite
  have hbefore := locationIn_before hgrows hlocation
  have hplain := hgrows.plain (h.plain_location hbefore).2
  obtain ⟨l, hne, hl, -, rfl⟩ := Volume.write_ok hwritten
  obtain ⟨rfl, hshort⟩ := hplain.locate_ok hl
  exact ⟨h.inside hbefore hshort, bytes, hbytes, rfl, (Volume.find?_put v hne _ _).trans (if_pos rfl)⟩

theorem Settles.changes_of_written {d path : Path} {after : Volume} {u : World} {x : Value}
    (hd : store.directoryIn w.volume w.home category = .ok d)
    (hwrite : store.writeIn (w.volume.makeDirectories d.names).1 w.home category test x =
      .ok (path, after))
    (hu : u.volume = after) : store.Changes category test w u := by
  have hgrows := (Volume.prepares_makeDirectories w.volume d.names).grows
  obtain ⟨hinside, bytes, -, hput, hfound⟩ := h.inside_of_writeIn hgrows hwrite
  -- The file apart, the volume is the one with the directories.
  intro loc
  by_cases hloc : loc = path.names
  · subst hloc
    exact Or.inr (Or.inl ⟨hinside, bytes, by rw [hu, hfound]⟩)
  · have hne : path.names ≠ [] := by
      obtain ⟨-, d, -, name, -, -, -, -, hnames⟩ := hinside.below
      simp [hnames]
    have hmade := h.changes_of_made hd
      (u := { w with volume := (w.volume.makeDirectories d.names).1 }) rfl loc
    rw [hu, hput, Volume.find?_put _ hne, if_neg hloc]
    exact hmade

theorem Settles.changes_of_save (x : Value) :
    store.Changes category test w (Run.outcome (store.save category test x) w).2 := by
  obtain ⟨v, hv, -, hmakes⟩ := ensureDirectoryOf_leaves store category w
  have hensured : store.Changes category test w { w with volume := v } := by
    rcases hmakes with rfl | ⟨d, hd, hmade⟩
    · exact .refl store category test w
    · exact h.changes_of_made hd hmade
  cases hended : Run.outcome (store.save category test x) w with
  | mk result u =>
      cases result with
      | ok path =>
          obtain ⟨d, after, hd, -, hwrite, rfl⟩ := save_eq_ok hended
          exact h.changes_of_written hd hwrite rfl
      | error f =>
          rw [save_eq_error hended, hv]
          exact hensured

/-! ## §8. Accesses. -/

theorem Settles.confined_exists? : store.Confined category test (store.exists? category test) w where
  reads _ _ := blind_exists?
  changes := by
    rw [outcome_exists?_eq]
    exact .refl store category test w
  fails hnone := (h.astray hnone).fails_exists?

theorem Settles.confined_load : store.Confined category test (store.load category test) w where
  reads _ hg := (h.spares hg).blind_load
  changes := by
    rw [outcome_load_eq]
    exact .refl store category test w
  fails hnone := (h.astray hnone).fails_load

theorem Settles.confined_save (x : Value) :
    store.Confined category test (store.save category test x) w where
  reads _ hg := (h.spares hg).blind_save x
  changes := h.changes_of_save x
  fails hnone := (h.astray hnone).fails_save x

end Settled

/-- In a store without links none lead in a circle. -/
theorem Linkless.settles (h : store.Linkless w) (hhome : Volume.Plain w.volume w.home)
    (category test : Value) : store.Settles w category test where
  home := hhome
  directory root name hroot hname := by
    have hproper := Name.isProper_of_fileName? (fileNameOf_ok hname).2
    have hplain := h.plain hroot (List.forall_mem_singleton.mpr hproper)
    have hresolution := hplain.resolution w.home
    rw [← (h.root root hroot).1] at hresolution
    have hchild : root.child name = ⟨root.anchor, root.names ++ [name]⟩ := rfl
    rw [hchild, hresolution]
    simp
  snapshot d name hd hname := by
    obtain ⟨root, c, hroot, hc, -, -, -⟩ := directoryIn_eq_ok_iff.mp hd
    rw [h.directoryIn_eq hroot, hc] at hd
    obtain rfl := Except.ok.inj hd
    have hplain := h.plain hroot (isProper_names hc hname)
    have hresolution := hplain.resolution w.home
    rw [← (h.root root hroot).1] at hresolution
    have hchild : (root.child c).child (name ++ snapshotSuffix) = snapshotAt root c name := rfl
    rw [hchild, snapshotAt_eq, hresolution]
    simp

/-! ## §9. Past a circle. -/

/-- Where a circle is met the location may be that of a link. -/
theorem locationIn_past_circle {v : Volume} {home d : Location} {t loop other : String} {e : Entry}
    (hd : store.directoryIn v home category = .ok ⟨.root, d⟩) (hplain : Volume.Plain v d)
    (ht : fileNameOf "" maxTestBytes test = .ok t)
    (hpast : Volume.PastCircle v d (t ++ snapshotSuffix) loop other)
    (hstatus : v.status (d ++ [other]) = .ok e) :
    store.locationIn v home category test = .ok ⟨.root, d ++ [other]⟩ := by
  have hresolution := hpast.resolution hplain home
  have hchild : Path.child ⟨.root, d⟩ (t ++ snapshotSuffix) = ⟨.root, d ++ [t ++ snapshotSuffix]⟩ :=
    rfl
  refine locationIn_eq_ok_iff.mpr ⟨_, t, hd, ht, Volume.resolve_eq_ok_iff.mpr ?_, ?_⟩
  · rw [hchild, hresolution]
    refine ⟨by simp, rfl, fun n hn => ?_, by rw [hstatus]; simp⟩
    rcases List.mem_append.mp hn with hn | hn
    · exact (hplain.proper n hn).null
    · rw [List.mem_singleton.mp hn]
      exact hpast.proper.2.2.null
  · simp [Path.parent]

/-- A volume with a link to itself in the directory of a category: the snapshot is a link past it and
back, to a link that leads out of the root. -/
def circleVolume : Volume :=
  ⟨[(["snapshots"], .directory), (["snapshots", "hits"], .directory),
    (["snapshots", "hits", "all.json"], .link "loop/../evil"),
    (["snapshots", "hits", "loop"], .link "loop"),
    (["snapshots", "hits", "evil"], .link "/outside.json"),
    (["outside.json"], .file (Text.Utf8.encode ['n', 'u', 'l', 'l']))]⟩

/-- The world of that volume. -/
def circleWorld : World := { bareWorld with volume := circleVolume }

theorem isProper_snapshots : IsProper "snapshots" := ⟨by decide, by decide, by decide⟩

theorem plain_circleVolume : Volume.Plain circleVolume ["snapshots", "hits"] :=
  ((Volume.plain_nil circleVolume).concat isProper_snapshots (by decide)).concat isProper_hits
    (by decide)

theorem pastCircle_circleVolume :
    Volume.PastCircle circleVolume ["snapshots", "hits"] "all.json" "loop" "evil" where
  proper := ⟨⟨by decide, by decide, by decide⟩, ⟨by decide, by decide, by decide⟩,
    ⟨by decide, by decide, by decide⟩⟩
  ne := by decide
  link := ⟨"loop/../evil", by decide, by decide, by decide⟩
  circle := ⟨"loop", by decide, by decide, by decide⟩

theorem status_circleVolume : circleVolume.status ["snapshots", "hits", "evil"] =
    .ok (.file (Text.Utf8.encode ['n', 'u', 'l', 'l'])) := by
  have hsnapshots : circleVolume.stride .follow [] "snapshots" ["hits", "evil"] =
      .go ["snapshots"] := rfl
  have hhits : circleVolume.stride .follow ["snapshots"] "hits" ["evil"] =
      .go ["snapshots", "hits"] := rfl
  have hevil : circleVolume.stride .follow ["snapshots", "hits"] "evil" [] =
      .jump [] ["", "outside.json"] := rfl
  have hroot : circleVolume.stride .follow [] "" ["outside.json"] = .go [] := rfl
  have houtside : circleVolume.stride .follow [] "outside.json" [] = .stop (.ok ["outside.json"]) :=
    rfl
  refine Volume.status_eq_ok_iff.mpr
    ⟨["outside.json"], Volume.locate_eq_ok_iff.mpr ⟨by decide, ?_⟩, rfl⟩
  simp only [Volume.walk_cons, hsnapshots, hhits, hevil, Volume.maxLinks, List.append_nil, hroot,
    houtside]

theorem locationIn_circleVolume : shelf.locationIn circleVolume [] (.text "hits") (.text "all") =
    .ok ⟨.root, ["snapshots", "hits", "evil"]⟩ := by
  have hroot := plain_circleVolume.of_prefix
    (show ["snapshots"] <+: ["snapshots", "hits"] by decide)
  have hd : shelf.directoryIn circleVolume [] (.text "hits") =
      .ok ⟨.root, ["snapshots", "hits"]⟩ :=
    directoryIn_eq_ok_iff.mpr ⟨⟨.root, ["snapshots"]⟩, "hits", hroot.resolve [], fileNameOf_hits,
      plain_circleVolume.resolve [], by decide, by decide⟩
  exact locationIn_past_circle hd plain_circleVolume fileNameOf_all pastCircle_circleVolume
    status_circleVolume

/-- **Past a circle a store does not stay inside its root**: a file outside is loaded. -/
theorem not_confined_past_circle :
    (Run.outcome (shelf.load (.text "hits") (.text "all")) circleWorld).1 = .ok .null ∧
      ¬ shelf.Confined (.text "hits") (.text "all") (shelf.load (.text "hits") (.text "all"))
        circleWorld := by
  have hload : (Run.outcome (shelf.load (.text "hits") (.text "all")) circleWorld).1 =
      .ok .null := by
    have hnull : encode .null = .ok (Text.Utf8.encode ['n', 'u', 'l', 'l']) :=
      encode_eq_ok_iff.mpr ⟨rfl, rfl⟩
    rw [outcome_load_eq]
    show (do
      let path ← shelf.locationIn circleVolume [] (.text "hits") (.text "all")
      let bytes ← (circleVolume.contents path.names).mapError (.access · path)
      decode bytes) = _
    rw [locationIn_circleVolume]
    simp only [bind, Except.bind, Volume.contents_eq_ok_iff.mpr status_circleVolume, mapError_ok]
    exact decode_of_encode hnull
  refine ⟨hload, fun hconfined => ?_⟩
  -- The location is that of a link, so nothing is inside, and loading should fail.
  obtain ⟨f, hf⟩ := hconfined.fails (fun loc hinside => by
    obtain rfl : ["snapshots", "hits", "evil"] = loc :=
      congrArg Path.names (Except.ok.inj (locationIn_circleVolume.symm.trans hinside.location))
    exact hinside.unlinked _ List.prefix_rfl "/outside.json" (by decide))
  rw [hload] at hf
  cases hf

end Store

end Golden

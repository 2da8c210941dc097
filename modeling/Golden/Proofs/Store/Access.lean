/-
  Golden.Proofs.Store.Access
  ────────────────────────────────
  **WHERE A STORE WITHOUT LINKS KEEPS ITS SNAPSHOTS.**

  Where no link stands on the way to a store, above it or below it, the store
  has one place, given by its root and the working directory, and every
  category and every test theirs in it:

      directoryOf  =  place ++ [c]          locationOf  =  place ++ [c, t.json]

  for the file names `c` and `t`.  Taking a location changes nothing; making
  the directory of a category adds directories and nothing else.
-/
import Golden.Proofs.Name.Safe
import Golden.Proofs.Volume.Directories
import Golden.Proofs.Volume.Resolve
import Golden.Proofs.World.Steps

namespace Golden

namespace Store

/-! ## §1. Stores without links. -/

/-- The place of a store, for a working directory. -/
def place (store : Store) (home : Location) : Location := store.root.destination home

/-- Whether no link stands on the way to a store, above it or below it. -/
structure LinkFree (store : Store) (w : World) : Prop where
  home : ∀ n ∈ w.home, IsProper n
  root : Volume.LinkFree w.volume w.home store.root
  below : ∀ loc, store.place w.home <+: loc → ∀ t, w.volume.find? loc ≠ some (.link t)

/-- Whether the root of a store is a path that can be: no name in it holds a null character. -/
def HasPath (store : Store) : Prop := store.root.names.any Volume.holdsNull = false

instance (store : Store) : Decidable store.HasPath :=
  inferInstanceAs (Decidable (store.root.names.any Volume.holdsNull = false))

variable {store : Store} {w u : World}

theorem LinkFree.unlinked (h : store.LinkFree w) {loc : Location}
    (hloc : store.place w.home <+: loc) : Volume.Unlinked w.volume loc := by
  intro p hp
  rcases List.prefix_or_prefix_of_prefix hp hloc with hp | hp
  · exact h.root.above p hp
  · exact h.below p hp

theorem LinkFree.proper (h : store.LinkFree w) (hpath : store.HasPath) :
    ∀ n ∈ store.place w.home, IsProper n := by
  have hstart : ∀ n ∈ (store.root.start w.home).location, IsProper n := by
    rcases store.root.start_location w.home with hs | hs
    · rw [hs]
      exact h.home
    · rw [hs]
      intro n hn
      cases hn
  exact Location.isProper_follow hstart (by simpa [HasPath] using hpath)

/-- A store stays free of links where no new ones appear. -/
theorem LinkFree.of_volume (h : store.LinkFree w) (hhome : u.home = w.home)
    (hvolume : ∀ p t, u.volume.find? p = some (.link t) → w.volume.find? p = some (.link t)) :
    store.LinkFree u where
  home := by rw [hhome]; exact h.home
  root := by
    rw [hhome]
    exact ⟨fun q hq t ht => h.root.way q hq t (hvolume _ t ht),
      fun p hp t ht => h.root.above p hp t (hvolume p t ht)⟩
  below := by
    rw [hhome]
    exact fun loc hloc t ht => h.below loc hloc t (hvolume loc t ht)

end Store

theorem Volume.Adds.links {v w : Volume} {loc : Location} (h : Volume.Adds v w loc) (p : Location)
    (t : String) (ht : w.find? p = some (.link t)) : v.find? p = some (.link t) := by
  rcases h p with heq | ⟨-, -, hfound⟩
  · rwa [heq] at ht
  · rw [hfound] at ht
    cases ht

theorem Volume.links_put_file {v : Volume} {loc : Location} (hloc : loc ≠ []) (bytes : List UInt8)
    (p : Location) (t : String) (ht : (v.put loc (.file bytes)).find? p = some (.link t)) :
    v.find? p = some (.link t) := by
  rw [Volume.find?_put v hloc] at ht
  split at ht
  · cases ht
  · exact ht

theorem Store.LinkFree.of_adds {store : Store} {w : World} {v : Volume} {loc : Location}
    (h : store.LinkFree w) (hadds : Volume.Adds w.volume v loc) :
    store.LinkFree { w with volume := v } := h.of_volume rfl hadds.links

/-! ## §2. Stores that are not there yet. -/

/-- Whether the root of a store leads past no link and only directories, and to where nothing
stands. -/
structure Store.Fresh (store : Store) (w : World) : Prop where
  home : ∀ n ∈ w.home, IsProper n
  way : Volume.FreeWay w.volume (store.root.start w.home).location store.root.names
  above : Volume.Clear w.volume (store.place w.home)
  new : ∀ loc, store.place w.home <+: loc → w.volume.find? loc = none

theorem Store.Fresh.linkFree {store : Store} {w : World} (h : store.Fresh w) :
    store.LinkFree w where
  home := h.home
  root := ⟨h.way, h.above.unlinked⟩
  below := by
    intro loc hloc t ht
    rw [h.new loc hloc] at ht
    cases ht

/-- A world with nothing in it. -/
def bareWorld : World := ⟨Volume.empty, [], [], [], [], []⟩

theorem find?_bareWorld (loc : Location) :
    bareWorld.volume.find? loc = none ∨ bareWorld.volume.find? loc = some .directory := by
  -- Nothing stands there but the root.
  by_cases hloc : loc = []
  · exact Or.inr (by rw [hloc]; rfl)
  · exact Or.inl (if_neg hloc)

theorem find?_bareWorld_ne_link (loc : Location) (t : String) :
    bareWorld.volume.find? loc ≠ some (.link t) := by
  intro ht
  rcases find?_bareWorld loc with h | h
  · rw [h] at ht
    cases ht
  · rw [h] at ht
    cases ht

theorem linkFree_bareWorld (store : Store) : store.LinkFree bareWorld where
  home := fun _ h => by cases h
  root := ⟨fun _ _ => find?_bareWorld_ne_link _, fun _ _ => find?_bareWorld_ne_link _⟩
  below _ _ := find?_bareWorld_ne_link _

/-- In a world with nothing in it every store is one that is not there yet. -/
theorem fresh_bareWorld {store : Store} (hplace : store.place [] ≠ []) :
    store.Fresh bareWorld where
  home := (linkFree_bareWorld store).home
  way := (linkFree_bareWorld store).root.way
  above p _ := find?_bareWorld p
  new loc hloc := by
    refine if_neg ?_
    rintro rfl
    exact hplace (List.prefix_nil.mp hloc)

/-! ## §3. Names. -/

theorem fileNameOf_ok {limit : Int} {name : Value} {n : String}
    (h : fileNameOf "" limit name = .ok n) :
    name.isPrintable = true ∧ Name.fileName? [] limit name.plain = some n := by
  unfold fileNameOf Value.plain? at h
  rw [readTemplate_empty] at h
  by_cases hprint : name.isPrintable = true
  · rw [if_pos hprint] at h
    refine ⟨hprint, ?_⟩
    simp only at h
    cases hname : Name.fileName? [] limit name.plain with
    | none =>
        rw [hname] at h
        cases h
    | some m =>
        rw [hname] at h
        rw [Except.ok.inj h]
  · rw [if_neg hprint] at h
    cases h

namespace Store

/-! ## §4. Locations. -/

section Locations

variable {store : Store} {w : World} (hfree : store.LinkFree w)

include hfree

theorem outcome_resolve_root :
    Run.outcome (resolve store.root) w =
      (if store.root.names.any Volume.holdsNull then .error (.unresolved .nullCharacter)
        else .ok ⟨.root, store.place w.home⟩, w) := by
  unfold resolve
  rw [Run.outcome_bind, Run.outcome_get]
  simp only [Run.outcome_ofExcept]
  rw [Volume.resolve_eq hfree.home hfree.root]
  split <;> rfl

theorem outcome_resolve_below (hpath : store.HasPath) {names : List String}
    (hnames : ∀ n ∈ names, IsProper n) :
    Run.outcome (resolve ⟨.root, store.place w.home ++ names⟩) w =
      (.ok ⟨.root, store.place w.home ++ names⟩, w) := by
  have hproper : ∀ n ∈ store.place w.home ++ names, IsProper n :=
    List.forall_mem_append.mpr ⟨hfree.proper hpath, hnames⟩
  unfold resolve
  rw [Run.outcome_bind, Run.outcome_get]
  simp only [Run.outcome_ofExcept]
  rw [Volume.resolve_root w.home hproper (hfree.unlinked (List.prefix_append _ names))]
  rfl

/-- **The directory of a category is named by its file name, in the place of the store.** -/
theorem outcome_directoryOf (hpath : store.HasPath) (category : Value) :
    Run.outcome (store.directoryOf category) w =
      ((fileNameOf "" Name.maxBytes category).map
        (fun c => ⟨.root, store.place w.home ++ [c]⟩), w) := by
  have hroot := outcome_resolve_root hfree
  rw [if_neg (by rw [hpath]; simp)] at hroot
  unfold directoryOf
  rw [Run.outcome_bind_of_ok hroot, Run.outcome_bind, Run.outcome_ofExcept]
  cases hname : fileNameOf "" Name.maxBytes category with
  | error f => rfl
  | ok c =>
      have hc := Name.isProper_of_fileName? (fileNameOf_ok hname).2
      have hnames : ∀ n ∈ [c], IsProper n := List.forall_mem_singleton.mpr hc
      -- A name that leads one level down stays within the store, so the test for that passes.
      have hbelow := outcome_resolve_below hfree hpath hnames
      show Run.outcome (resolve ⟨.root, store.place w.home ++ [c]⟩ >>= _) w = _
      rw [Run.outcome_bind_of_ok hbelow, if_pos (by simp [Path.isWithin])]
      rfl

/-- **A snapshot lies directly in the directory of its category.** -/
theorem outcome_locationOf (hpath : store.HasPath) (category test : Value) :
    Run.outcome (store.locationOf category test) w =
      ((do
        let c ← fileNameOf "" Name.maxBytes category
        let t ← fileNameOf "" maxTestBytes test
        pure ⟨.root, store.place w.home ++ [c] ++ [t ++ snapshotSuffix]⟩), w) := by
  unfold locationOf
  rw [Run.outcome_bind, outcome_directoryOf hfree hpath]
  cases hcategory : fileNameOf "" Name.maxBytes category with
  | error f => rfl
  | ok c =>
      have hc := Name.isProper_of_fileName? (fileNameOf_ok hcategory).2
      show Run.outcome (_ >>= _) w = _
      rw [Run.outcome_bind, Run.outcome_ofExcept]
      cases htest : fileNameOf "" maxTestBytes test with
      | error f => rfl
      | ok t =>
          have ht := isProper_snapshot (fileNameOf_ok htest).2
          have hnames : ∀ n ∈ [c, t ++ snapshotSuffix], IsProper n :=
            List.forall_mem_cons.mpr ⟨hc, List.forall_mem_singleton.mpr ht⟩
          -- Both names lead one level down, so the parent is the directory of the category.
          have hbelow := outcome_resolve_below hfree hpath hnames
          rw [show store.place w.home ++ [c, t ++ snapshotSuffix] =
            store.place w.home ++ [c] ++ [t ++ snapshotSuffix] by simp] at hbelow
          show Run.outcome (resolve ⟨.root, store.place w.home ++ [c] ++ [t ++ snapshotSuffix]⟩ >>= _)
            w = _
          rw [Run.outcome_bind_of_ok hbelow, if_pos (by simp [Path.parent])]
          rfl

end Locations

end Store

end Golden

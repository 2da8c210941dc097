/-
  Golden.Proofs.Expectation.Harmless
  ────────────────────────────────
  **A COMPARISON DAMAGES NOTHING.**

  Whatever the tree holds, links and all, and whatever is asked, a comparison
  does one of three things to it:

      nothing   ·   make directories   ·   make directories, then write one new file

  and it writes just if it says so.  The file is written where the location of
  the snapshot leads, which is the same before and after, and nothing stood
  there: the file was looked for at the very path that is written.  So what
  stands in the tree stays as it is over any number of comparisons.
-/
import Golden.Proofs.Expectation.Again
import Golden.Proofs.Store.Places

namespace Golden

namespace Expectation

variable (e : Expectation) {store : Store} {w : World}

/-! ## §1. Up to the directory. -/

/-- The store of a comparison, in an environment. -/
def storeIn (environment : Environment) : Except Failure Store :=
  match e.store with
  | some store => .ok store
  | none => do
      let settings ← (Settings.ofEnvironment environment).mapError .settings
      .ok (Store.ofSettings settings)

theorem outcome_storeOr (w : World) :
    Run.outcome (storeOr e.store) w = (e.storeIn w.environment, w) := by
  unfold storeOr storeIn
  cases e.store with
  | some store => rfl
  | none => exact Run.outcome_bind_still w (Run.outcome_settings w) (fun settings => rfl)

variable {e}

/-- With a store and names that have texts, a comparison makes the directory and goes on. -/
theorem outcome_check_of_store (hprint : (e.category.isPrintable && e.test.isPrintable) = true)
    (hstore : e.storeIn w.environment = .ok store) :
    Run.outcome e.check w = Run.outcome (do
      let _ ← store.ensureDirectoryOf e.category
      let path ← store.locationOf e.category e.test
      e.finish store path) w := by
  have hor := outcome_storeOr e w
  rw [hstore] at hor
  unfold check subjectOf
  rw [if_pos hprint]
  exact Run.outcome_bind_of_ok hor _

/-- Without a store a comparison ends before anything else. -/
theorem outcome_check_of_noStore (hprint : (e.category.isPrintable && e.test.isPrintable) = true)
    {f : Failure} (hstore : e.storeIn w.environment = .error f) :
    Run.outcome e.check w = (.error f, w) := by
  have hor := outcome_storeOr e w
  rw [hstore] at hor
  unfold check subjectOf
  rw [if_pos hprint]
  exact Run.outcome_bind_of_error hor _

/-! ## §2. At the snapshot. -/

/-- Comparing with a snapshot changes nothing and writes nothing. -/
theorem compareAt_still (store : Store) (path : Path) (w : World) :
    (Run.outcome (e.compareAt e.subject store path e.cleaned) w).1 ≠ .ok .written ∧
      (Run.outcome (e.compareAt e.subject store path e.cleaned) w).2.SameTree w := by
  unfold compareAt
  rw [Run.outcome_bind, Store.outcome_load_eq]
  generalize (do
    let path ← store.locationIn w.volume w.home e.category e.test
    let bytes ← (w.volume.contents path.names).mapError (.access · path)
    Store.decode bytes : Except Failure Value) = loaded
  cases loaded with
  | error f => exact ⟨fun h => (by cases h), rfl, rfl⟩
  | ok saved =>
      simp only
      split
      · exact ⟨fun h => (by cases h), rfl, rfl⟩
      · exact ⟨fun h => (by cases h), rfl, rfl⟩
      · exact ⟨fun h => (by cases h), rfl, rfl⟩

/-- What settling a missing snapshot does. -/
theorem settleMissing_does {d : Path} (path : Path)
    (hd : store.directoryIn w.volume w.home e.category = .ok d)
    (hstatus : w.volume.status d.names = .ok .directory) :
    ((Run.outcome (e.settleMissing e.subject store path e.cleaned) w).1 ≠ .ok .written ∧
        (Run.outcome (e.settleMissing e.subject store path e.cleaned) w).2.SameTree w) ∨
      ((Run.outcome (e.settleMissing e.subject store path e.cleaned) w).1 = .ok .written ∧
        ∃ path' after, store.writeIn w.volume w.home e.category e.test e.cleaned =
            .ok (path', after) ∧
          (Run.outcome (e.settleMissing e.subject store path e.cleaned) w).2.SameTree
            { w with volume := after }) := by
  have hsave := Store.outcome_save_of_directory store w e.category e.test e.cleaned hd hstatus
  have hsnd := outcome_effectivePolicy_snd e.policy w
  unfold settleMissing
  rw [Run.outcome_bind]
  generalize Run.outcome (effectivePolicy e.policy) w = decided at hsnd ⊢
  obtain ⟨policy, u⟩ := decided
  obtain rfl : u = w := hsnd
  cases policy with
  | error f => exact Or.inl ⟨fun h => (by cases h), rfl, rfl⟩
  | ok policy =>
      cases policy with
      | compareOnly => exact Or.inl ⟨fun h => (by cases h), rfl, rfl⟩
      | writeIfMissing =>
          simp only
          rw [Run.outcome_bind, hsave]
          cases hwrite : store.writeIn u.volume u.home e.category e.test e.cleaned with
          | error f => exact Or.inl ⟨fun h => (by cases h), rfl, rfl⟩
          | ok written =>
              exact Or.inr ⟨rfl, written.1, written.2, rfl, rfl, rfl⟩

/-! ## §3. What a comparison does. -/

/-- What a comparison does to the tree, with its result. -/
inductive Does (e : Expectation) (w : World) : Except Failure Outcome × World → Prop
  | nothing {r : Except Failure Outcome} {u : World} (hr : r ≠ .ok .written)
      (hu : u.SameTree w) : Does e w (r, u)
  | prepares {r : Except Failure Outcome} {u : World} {store : Store} {d : Path}
      (hr : r ≠ .ok .written) (hstore : e.storeIn w.environment = .ok store)
      (hd : store.directoryIn w.volume w.home e.category = .ok d)
      (hu : u.SameTree { w with volume := (w.volume.makeDirectories d.names).1 }) : Does e w (r, u)
  | writes {u : World} {store : Store} {d path : Path} {after : Volume}
      (hstore : e.storeIn w.environment = .ok store)
      (hd : store.directoryIn w.volume w.home e.category = .ok d)
      (hfile : (w.volume.makeDirectories d.names).1.isFile path.names = .ok false)
      (hwrite : store.writeIn (w.volume.makeDirectories d.names).1 w.home e.category e.test
        e.cleaned = .ok (path, after))
      (hu : u.SameTree { w with volume := after }) : Does e w (.ok .written, u)

/-- Once the directory is made, all that is left to do is to write where no file is. -/
theorem finish_does {d path : Path} (hstore : e.storeIn w.environment = .ok store)
    (hd : store.directoryIn w.volume w.home e.category = .ok d)
    (hmade : (w.volume.makeDirectories d.names).2 = .ok ())
    (hlocation : store.locationIn (w.volume.makeDirectories d.names).1 w.home e.category e.test =
      .ok path) :
    Does e w (Run.outcome (e.finish store path)
      { w with volume := (w.volume.makeDirectories d.names).1 }) := by
  have hgrows := (Volume.prepares_makeDirectories w.volume d.names).grows
  have hstatus := Volume.status_of_makeDirectories hmade
  -- The directory is found again where it has been made, for the location is found in it.
  obtain ⟨d', -, hd', -, -, -⟩ := Store.locationIn_eq_ok_iff.mp hlocation
  obtain rfl : d = d' := Except.ok.inj (hd.symm.trans (Store.directoryIn_before hgrows hd'))
  have hlook := Store.outcome_isFile_eq { w with volume := (w.volume.makeDirectories d.names).1 }
    path
  unfold finish
  cases hfile : (w.volume.makeDirectories d.names).1.isFile path.names with
  | error trouble =>
      simp only [hfile] at hlook
      rw [Run.outcome_bind_of_error hlook]
      exact .prepares (fun h => (by cases h)) hstore hd ⟨rfl, rfl⟩
  | ok there =>
      simp only [hfile] at hlook
      rw [Run.outcome_bind_of_ok hlook]
      cases there with
      | true =>
          have hstill := compareAt_still (e := e) store path
            { w with volume := (w.volume.makeDirectories d.names).1 }
          exact .prepares hstill.1 hstore hd hstill.2
      | false =>
          have hsettle := settleMissing_does
            (w := { w with volume := (w.volume.makeDirectories d.names).1 }) path hd' hstatus
          rw [if_neg (by simp)]
          generalize Run.outcome (e.settleMissing e.subject store path e.cleaned)
            { w with volume := (w.volume.makeDirectories d.names).1 } = settled at hsettle ⊢
          obtain ⟨r, u⟩ := settled
          rcases hsettle with ⟨hr, hu⟩ | ⟨hr, path', after, hwrite, hu⟩
          · exact .prepares hr hstore hd hu
          · obtain rfl : r = .ok .written := hr
            obtain ⟨-, hlocation', -, -⟩ := Store.writeIn_eq_ok_iff.mp hwrite
            obtain rfl : path = path' := Except.ok.inj (hlocation.symm.trans hlocation')
            exact .writes hstore hd hfile hwrite hu

/-- With a store, a comparison goes as far as its directory, its location and its snapshot let it. -/
theorem does_of_store (hprint : (e.category.isPrintable && e.test.isPrintable) = true)
    (hstore : e.storeIn w.environment = .ok store) : Does e w (Run.outcome e.check w) := by
  rw [outcome_check_of_store hprint hstore]
  cases hd : store.directoryIn w.volume w.home e.category with
  | error f =>
      rw [Run.outcome_bind_of_error (Store.outcome_ensureDirectoryOf_of_error store w hd)]
      exact .nothing (fun h => (by cases h)) ⟨rfl, rfl⟩
  | ok d =>
      cases hmade : (w.volume.makeDirectories d.names).2 with
      | error failure =>
          rw [Run.outcome_bind_of_error
            (Store.outcome_ensureDirectoryOf_of_failure store w hd hmade)]
          exact .prepares (fun h => (by cases h)) hstore hd ⟨rfl, rfl⟩
      | ok _ =>
          rw [Run.outcome_bind_of_ok (Store.outcome_ensureDirectoryOf_of_made store w hd hmade)]
          have hlocated := Store.outcome_locationOf_eq store
            { w with volume := (w.volume.makeDirectories d.names).1 } e.category e.test
          simp only at hlocated
          cases hlocation : store.locationIn (w.volume.makeDirectories d.names).1 w.home
            e.category e.test with
          | error f =>
              rw [hlocation] at hlocated
              rw [Run.outcome_bind_of_error hlocated]
              exact .prepares (fun h => (by cases h)) hstore hd ⟨rfl, rfl⟩
          | ok path =>
              rw [hlocation] at hlocated
              rw [Run.outcome_bind_of_ok hlocated]
              exact finish_does hstore hd hmade hlocation

/-- **A comparison does nothing, or makes directories, or makes them and writes one file where none
was, and it does the last just if it says so.** -/
theorem check_does (e : Expectation) (w : World) : Does e w (Run.outcome e.check w) := by
  cases hprint : (e.category.isPrintable && e.test.isPrintable) with
  | false =>
      rw [outcome_check_of_unprintable hprint]
      exact .nothing (fun h => (by cases h)) ⟨rfl, rfl⟩
  | true =>
      cases hstore : e.storeIn w.environment with
      | error f =>
          rw [outcome_check_of_noStore hprint hstore]
          exact .nothing (fun h => (by cases h)) ⟨rfl, rfl⟩
      | ok store => exact does_of_store hprint hstore

/-! ## §4. What a comparison leaves. -/

/-- Whether a directory has been made where nothing stood, for the category: where its directory or
one above it leads. -/
structure MadeFor (e : Expectation) (w u : World) (loc : Location) : Prop where
  free : w.volume.find? loc = none
  directory : u.volume.find? loc = some .directory
  way : ∃ store d q, e.storeIn w.environment = .ok store ∧
    store.directoryIn w.volume w.home e.category = .ok d ∧ q <+: d.names ∧
      u.volume.locate .stay q = .ok loc

/-- Whether the tree at a location is as it was, but for a directory that has been made for the
category. -/
def Spared (e : Expectation) (w u : World) (loc : Location) : Prop :=
  u.volume.find? loc = w.volume.find? loc ∨ MadeFor e w u loc

/-- Whether one new file has been written and all else spared: the file stands where the location of
the snapshot leads, which is the same before and after, and holds the cleaned response. -/
def Wrote (e : Expectation) (w u : World) : Prop :=
  ∃ store path place bytes, e.storeIn w.environment = .ok store ∧
    store.locationIn w.volume w.home e.category e.test = .ok path ∧
    store.locationIn u.volume u.home e.category e.test = .ok path ∧
    Store.encode (BlackLab.sanitize e.removeParameters e.response) = .ok bytes ∧
    u.volume.locate .follow path.names = .ok place ∧
    w.volume.find? place = none ∧ u.volume.find? place = some (.file bytes) ∧
    ∀ loc, loc ≠ place → Spared e w u loc

/-- What is made for the category is spared by what extends the tree after it. -/
theorem spared_of_prepares {u : World} {d : Path} {v : Volume} {loc : Location}
    (hstore : e.storeIn w.environment = .ok store)
    (hd : store.directoryIn w.volume w.home e.category = .ok d)
    (hprepares : Volume.Prepares w.volume v d.names) (hextends : Volume.Extends v u.volume)
    (hloc : u.volume.find? loc = v.find? loc) : Spared e w u loc := by
  rcases hprepares loc with heq | ⟨hnone, hfound, q, hq, hway⟩
  · exact Or.inl (hloc.trans heq)
  · exact Or.inr ⟨hnone, hloc.trans hfound, store, d, q, hstore, hd, hq,
      hextends.grows.locate_ok hway⟩

/-- A file is written over nothing where no file is found. -/
theorem write_of_isFile_false {v after : Volume} {loc : Location} {bytes : List UInt8}
    (hfile : v.isFile loc = .ok false) (hwrite : v.write loc bytes = .ok after) :
    ∃ place, place ≠ [] ∧ v.locate .follow loc = .ok place ∧ v.find? place = none ∧
      after = v.put place (.file bytes) := by
  obtain ⟨place, hne, hplace, hold, rfl⟩ := Volume.write_ok hwrite
  rcases hold with hnone | ⟨old, hold⟩
  · exact ⟨place, hne, hplace, hnone, rfl⟩
  · have hthere := Volume.isFile_iff.mpr
      ⟨old, Volume.status_eq_ok_iff.mpr ⟨place, hplace, hold⟩⟩
    rw [hfile] at hthere
    cases hthere

theorem wrote_of_writes {u : World} {d path : Path} {after : Volume}
    (hstore : e.storeIn w.environment = .ok store)
    (hd : store.directoryIn w.volume w.home e.category = .ok d)
    (hfile : (w.volume.makeDirectories d.names).1.isFile path.names = .ok false)
    (hwrite : store.writeIn (w.volume.makeDirectories d.names).1 w.home e.category e.test
      e.cleaned = .ok (path, after))
    (hu : u.SameTree { w with volume := after }) :
    Wrote e w u ∧ Volume.Extends w.volume u.volume := by
  obtain ⟨hvolume, hhome⟩ := hu
  have hprepares := Volume.prepares_makeDirectories w.volume d.names
  obtain ⟨bytes, hlocation, hbytes, hwritten⟩ := Store.writeIn_eq_ok_iff.mp hwrite
  obtain ⟨place, hne, hplace, hnone, rfl⟩ := write_of_isFile_false hfile hwritten
  have hextends : Volume.Extends (w.volume.makeDirectories d.names).1 u.volume := by
    rw [hvolume]
    exact Volume.extends_put hne hnone (fun t ht => by cases ht)
  have hfound : u.volume.find? place = some (.file bytes) := by
    rw [hvolume]
    exact (Volume.find?_put _ hne _ place).trans (if_pos rfl)
  have hthere := hextends.grows.locate_ok hplace
  refine ⟨⟨store, path, place, bytes, hstore, Store.locationIn_before hprepares.grows hlocation,
    ?_, hbytes, hthere, ?_, hfound, fun loc hloc => ?_⟩, hprepares.extends.trans hextends⟩
  · rw [hhome]
    exact Store.locationIn_after hextends.grows hlocation
      (Volume.status_eq_ok_iff.mpr ⟨place, hthere, hfound⟩)
  · rcases hprepares place with heq | ⟨hfree, -⟩
    · rw [← heq, hnone]
    · exact hfree
  · refine spared_of_prepares hstore hd hprepares hextends ?_
    rw [hvolume]
    exact (Volume.find?_put _ hne _ loc).trans (if_neg hloc)

/-- What a comparison leaves: all that stood, with one new file if it says so and else without. -/
structure Leaves (e : Expectation) (w : World) (r : Except Failure Outcome) (u : World) : Prop where
  home : u.home = w.home
  tree : Volume.Extends w.volume u.volume
  wrote : r = .ok .written → Wrote e w u
  spared : r ≠ .ok .written → ∀ loc, Spared e w u loc

theorem check_leaves (e : Expectation) (w : World) :
    Leaves e w (Run.outcome e.check w).1 (Run.outcome e.check w).2 := by
  have hdoes := check_does e w
  generalize Run.outcome e.check w = ended at hdoes ⊢
  cases hdoes with
  | nothing hr hu =>
      obtain ⟨hvolume, hhome⟩ := hu
      refine ⟨hhome, ?_, fun h => absurd h hr, fun _ loc => Or.inl (by rw [hvolume])⟩
      rw [hvolume]
      exact .refl w.volume
  | @prepares _ _ _ d hr hstore hd hu =>
      obtain ⟨hvolume, hhome⟩ := hu
      have hprepares := Volume.prepares_makeDirectories w.volume d.names
      refine ⟨hhome, ?_, fun h => absurd h hr, fun _ loc => ?_⟩
      · rw [hvolume]
        exact hprepares.extends
      · refine spared_of_prepares hstore hd hprepares ?_ ?_
        · rw [hvolume]
          exact .refl _
        · rw [hvolume]
  | writes hstore hd hfile hwrite hu =>
      obtain ⟨hwrote, hextends⟩ := wrote_of_writes hstore hd hfile hwrite hu
      exact ⟨hu.2, hextends, fun _ => hwrote, fun h => absurd rfl h⟩

/-! ## §5. Any number of comparisons. -/

/-- Run comparisons one after the other, each in an environment of its own. -/
def checkAll (w : World) (calls : List (Environment × Expectation)) : World :=
  calls.foldl (fun w call => (Run.outcome call.2.check { w with environment := call.1 }).2) w

/-- What stood before any number of comparisons stands after them. -/
theorem checkAll_extends (w : World) (calls : List (Environment × Expectation)) :
    (checkAll w calls).home = w.home ∧ Volume.Extends w.volume (checkAll w calls).volume := by
  induction calls generalizing w with
  | nil => exact ⟨rfl, .refl w.volume⟩
  | cons call rest ih =>
      have hleaves := check_leaves call.2 { w with environment := call.1 }
      obtain ⟨hhome, hextends⟩ := ih (Run.outcome call.2.check { w with environment := call.1 }).2
      exact ⟨hhome.trans hleaves.home, hleaves.tree.trans hextends⟩

/-- **No comparison damages the tree.**  What stood stands unchanged; a comparison writes one new
file, with the cleaned response, where the location of the snapshot leads, just if it says so, and
makes no more than directories for its category besides.  So a snapshot that is there keeps its
location and its bytes over any number of comparisons. -/
theorem check_harmless :
    (∀ (e : Expectation) (w : World),
      (∀ loc x, w.volume.find? loc = some x →
        (Run.outcome e.check w).2.volume.find? loc = some x) ∧
      ((Run.outcome e.check w).1 = .ok .written → Wrote e w (Run.outcome e.check w).2) ∧
      ((Run.outcome e.check w).1 ≠ .ok .written →
        ∀ loc, Spared e w (Run.outcome e.check w).2 loc)) ∧
    ∀ (w : World) (calls : List (Environment × Expectation)) (store : Store)
      (category test : Value) (path : Path) (bytes : List UInt8),
      store.locationIn w.volume w.home category test = .ok path →
      w.volume.contents path.names = .ok bytes →
        store.locationIn (checkAll w calls).volume (checkAll w calls).home category test =
            .ok path ∧
          (checkAll w calls).volume.contents path.names = .ok bytes := by
  refine ⟨fun e w => ?_, fun w calls store category test path bytes hlocation hbytes => ?_⟩
  · have hleaves := check_leaves e w
    exact ⟨fun loc x hx => hleaves.tree.find?_eq hx, hleaves.wrote, hleaves.spared⟩
  · obtain ⟨hhome, hextends⟩ := checkAll_extends w calls
    have hstatus := hextends.status_ok (Volume.contents_eq_ok_iff.mp hbytes)
    rw [hhome]
    exact ⟨Store.locationIn_after hextends.grows hlocation hstatus,
      Volume.contents_eq_ok_iff.mpr hstatus⟩

/-- A response that has been written outlasts another one of the same test. -/
theorem check_harmless_sample :
    ∃ path bytes,
      Store.locationIn ⟨⟨.root, ["snapshots"]⟩⟩
          (checkAll (Run.outcome (sample (.text "a")).check bareWorld).2
            [([], sample (.text "b"))]).volume
          (checkAll (Run.outcome (sample (.text "a")).check bareWorld).2
            [([], sample (.text "b"))]).home (.text "hits") (.text "all") = .ok path ∧
        Store.encode (.text "a") = .ok bytes ∧
        (checkAll (Run.outcome (sample (.text "a")).check bareWorld).2
          [([], sample (.text "b"))]).volume.contents path.names = .ok bytes := by
  have hjson : (Value.text "a").isJson = true := rfl
  have hwritten := sample_written hjson
  obtain ⟨store, path, place, bytes, hstore, -, hlocation, hbytes, hplace, -, hfound, -⟩ :=
    (check_harmless.1 (sample (.text "a")) bareWorld).2.1 hwritten
  obtain rfl := Except.ok.inj hstore
  have hcontents := Volume.contents_eq_ok_iff.mpr
    (Volume.status_eq_ok_iff.mpr ⟨place, hplace, hfound⟩)
  have hkept := check_harmless.2 _ [([], sample (.text "b"))] _ (.text "hits") (.text "all") path
    bytes hlocation hcontents
  exact ⟨path, bytes, hkept.1, hbytes, hkept.2⟩

end Expectation

end Golden

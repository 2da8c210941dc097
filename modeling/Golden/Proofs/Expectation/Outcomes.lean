/-
  Golden.Proofs.Expectation.Outcomes
  ────────────────────────────────
  **WHAT A COMPARISON COMES TO.**

  A comparison takes the name of the category, makes its directory, takes the
  name of the test, looks for the snapshot and then compares or settles.  Each
  of these steps can be the last one, in this order:

      the category has no name   ·  its directory cannot be made  ·
      the test has no name       ·  the location does not fit     ·
      the snapshot is there      ·  the snapshot is missing

  Of the world a comparison changes the log, and the volume only by the
  directory it makes and the snapshot it writes.
-/
import Golden.Expectation
import Golden.Proofs.Diff.Positions
import Golden.Proofs.Sanitize.Pure
import Golden.Proofs.Store.Keeping

namespace Golden

/-- Whether two worlds have the same volume and working directory. -/
def World.SameTree (u w : World) : Prop := u.volume = w.volume ∧ u.home = w.home

namespace BlackLab

/-- What is cleaned of a value of the interchange format is one again. -/
theorem isJson_sanitize (removeParameters : Bool) {v : Value} (h : v.isJson = true) :
    (sanitize removeParameters v).isJson = true := by
  refine isJson_sanitizeBy dropDirectory (fun c hc => ?_) (mask removeParameters) h
  unfold dropDirectory
  split
  · split <;> rfl
  · exact hc

end BlackLab

namespace Expectation

variable {e : Expectation} {store : Store} {w : World}

/-! ## §1. Up to the snapshot. -/

/-- What has a file name has a text. -/
theorem isPrintable_of_names {c t : String}
    (hcategory : fileNameOf "" Name.maxBytes e.category = .ok c)
    (htest : fileNameOf "" maxTestBytes e.test = .ok t) :
    (e.category.isPrintable && e.test.isPrintable) = true := by
  rw [(fileNameOf_ok hcategory).1, (fileNameOf_ok htest).1]
  rfl

/-- The subject of what is logged. -/
def subject (e : Expectation) : Log.Subject := ⟨e.category.plain, e.test.plain, none⟩

/-- The response without what varies. -/
def cleaned (e : Expectation) : Value := BlackLab.sanitize e.removeParameters e.response

/-- Look for the snapshot at a path, and compare or settle. -/
def finish (e : Expectation) (store : Store) (path : Path) : Run Outcome := do
  if ← Store.isFile path then e.compareAt e.subject store path e.cleaned
  else e.settleMissing e.subject store path e.cleaned

theorem check_eq (hstore : e.store = some store)
    (hprint : (e.category.isPrintable && e.test.isPrintable) = true) :
    e.check = (do
      let _ ← store.ensureDirectoryOf e.category
      let path ← store.locationOf e.category e.test
      e.finish store path) := by
  unfold check subjectOf storeOr
  rw [hstore, if_pos hprint]
  rfl

/-- Names that have no text end the comparison before anything else. -/
theorem outcome_check_of_unprintable
    (hprint : (e.category.isPrintable && e.test.isPrintable) = false) :
    Run.outcome e.check w = (.error .longInteger, w) := by
  unfold check subjectOf
  rw [hprint]
  rfl

section UpToSnapshot

variable (hstore : e.store = some store)
  (hprint : (e.category.isPrintable && e.test.isPrintable) = true) (hfree : store.LinkFree w)

include hstore hprint hfree

/-- A store whose root cannot be a path is refused. -/
theorem outcome_check_of_not_hasPath (hpath : ¬ store.HasPath) :
    Run.outcome e.check w = (.error (.unresolved .nullCharacter), w) := by
  have hroot := Store.outcome_resolve_root hfree
  rw [if_pos (by simpa [Store.HasPath] using hpath)] at hroot
  have hdirectory : Run.outcome (store.directoryOf e.category) w =
      (.error (.unresolved .nullCharacter), w) := by
    unfold Store.directoryOf
    rw [Run.outcome_bind_of_error hroot]
  have hensure : Run.outcome (store.ensureDirectoryOf e.category) w =
      (.error (.unresolved .nullCharacter), w) := by
    unfold Store.ensureDirectoryOf
    rw [Run.outcome_bind_of_error hdirectory]
  rw [check_eq hstore hprint, Run.outcome_bind_of_error hensure]

variable (hpath : store.HasPath)

include hpath

/-- A category without a name ends the comparison before anything is made. -/
theorem outcome_check_of_category {f : Failure}
    (hcategory : fileNameOf "" Name.maxBytes e.category = .error f) :
    Run.outcome e.check w = (.error f, w) := by
  have hdirectory := Store.outcome_directoryOf hfree hpath e.category
  rw [hcategory] at hdirectory
  have hensure : Run.outcome (store.ensureDirectoryOf e.category) w = (.error f, w) := by
    unfold Store.ensureDirectoryOf
    rw [Run.outcome_bind_of_error hdirectory]
  rw [check_eq hstore hprint, Run.outcome_bind_of_error hensure]

variable {c : String} (hcategory : fileNameOf "" Name.maxBytes e.category = .ok c)

include hcategory

/-- A directory that cannot be made ends the comparison; what was made before stays. -/
theorem outcome_check_of_made {v : Volume} {trouble : Trouble} {loc : Location}
    (hmade : w.volume.makeDirectories (store.directoryPlace w.home c) =
      (v, .error (trouble, loc))) :
    Run.outcome e.check w = (.error (.access trouble ⟨.root, loc⟩), { w with volume := v }) := by
  have hensure := Store.outcome_ensureDirectoryOf hfree hpath hcategory
  rw [hmade] at hensure
  rw [check_eq hstore hprint, Run.outcome_bind_of_error hensure]

/-- Once the directory is made the test has to have a name. -/
theorem outcome_check_of_test {v : Volume}
    (hmade : w.volume.makeDirectories (store.directoryPlace w.home c) = (v, .ok ()))
    {f : Failure} (htest : fileNameOf "" maxTestBytes e.test = .error f) :
    Run.outcome e.check w = (.error f, { w with volume := v }) := by
  have hc := Name.isProper_of_fileName? (fileNameOf_ok hcategory).2
  have hready := Store.ready_of_made hfree hpath hc (by rw [hmade])
  have hensure := Store.outcome_ensureDirectoryOf hfree hpath hcategory
  rw [hmade] at hensure hready
  have hlocation := Store.outcome_locationOf hready.free hpath e.category e.test
  rw [hcategory, htest] at hlocation
  rw [check_eq hstore hprint, Run.outcome_bind_of_ok hensure,
    Run.outcome_bind_of_error hlocation]

/-- With the directory made and the test named, the rest depends on the snapshot. -/
theorem outcome_check_of_names {v : Volume}
    (hmade : w.volume.makeDirectories (store.directoryPlace w.home c) = (v, .ok ()))
    {t : String} (htest : fileNameOf "" maxTestBytes e.test = .ok t) :
    Run.outcome e.check w =
      Run.outcome (e.finish store ⟨.root, store.snapshotPlace w.home c t⟩)
        { w with volume := v } := by
  have hc := Name.isProper_of_fileName? (fileNameOf_ok hcategory).2
  have hready := Store.ready_of_made hfree hpath hc (by rw [hmade])
  have hensure := Store.outcome_ensureDirectoryOf hfree hpath hcategory
  rw [hmade] at hensure hready
  rw [check_eq hstore hprint, Run.outcome_bind_of_ok hensure,
    Run.outcome_bind_of_ok (hready.outcome_locationOf hcategory htest)]

end UpToSnapshot

/-! ## §2. Policies. -/

/-- The policy decides nothing but itself. -/
theorem outcome_effectivePolicy_snd (policy : Value) (w : World) :
    (Run.outcome (effectivePolicy policy) w).2 = w := by
  unfold effectivePolicy
  split
  · rfl
  · cases Policy.ofValue? policy with
    | some p => rfl
    | none =>
        simp only
        split <;> rfl

/-- The value that asks for a policy, or for that of the environment. -/
def policyValue : Option Policy → Value
  | none => .null
  | some p => .text p.word

theorem outcome_effectivePolicy (policy : Option Policy) (w : World) :
    Run.outcome (effectivePolicy (policyValue policy)) w =
      (.ok (policy.getD (Environment.policy w.environment)), w) := by
  cases policy with
  | none => rfl
  | some p => cases p <;> rfl

/-! ## §3. At the snapshot. -/

/-- **A missing snapshot is missed where nothing is to be written.** -/
theorem outcome_settleMissing_compareOnly (store : Store) (path : Path)
    (hpolicy : Run.outcome (effectivePolicy e.policy) w = (.ok .compareOnly, w)) :
    (Run.outcome (e.settleMissing e.subject store path e.cleaned) w).1 =
        .error (.missing ⟨e.category, e.test, path⟩) ∧
      (Run.outcome (e.settleMissing e.subject store path e.cleaned) w).2.SameTree w := by
  unfold settleMissing
  rw [Run.outcome_bind_of_ok hpolicy]
  exact ⟨rfl, rfl, rfl⟩

section AtSnapshot

variable {c t : String} (h : store.Ready w c)
  (htest : fileNameOf "" maxTestBytes e.test = .ok t)

include h htest

theorem outcome_finish_of_long (hlong : ¬ Volume.Fits (store.snapshotPlace w.home c t)) :
    Run.outcome (e.finish store ⟨.root, store.snapshotPlace w.home c t⟩) w =
      (.error (.access .tooLong ⟨.root, store.snapshotPlace w.home c t⟩), w) := by
  have hfile := h.outcome_isFile (isProper_snapshot (fileNameOf_ok htest).2)
  rw [if_neg hlong] at hfile
  unfold finish
  rw [Run.outcome_bind_of_error hfile]

variable (hfits : Volume.Fits (store.snapshotPlace w.home c t))

include hfits

theorem outcome_finish_of_file {bytes : List UInt8}
    (hfile : w.volume.find? (store.snapshotPlace w.home c t) = some (.file bytes)) :
    Run.outcome (e.finish store ⟨.root, store.snapshotPlace w.home c t⟩) w =
      Run.outcome (e.compareAt e.subject store ⟨.root, store.snapshotPlace w.home c t⟩ e.cleaned)
        w := by
  have his := h.outcome_isFile (isProper_snapshot (fileNameOf_ok htest).2)
  rw [if_pos hfits, hfile] at his
  unfold finish
  rw [Run.outcome_bind_of_ok his]
  rfl

theorem outcome_finish_of_noFile
    (hfile : ∀ bytes, w.volume.find? (store.snapshotPlace w.home c t) ≠ some (.file bytes)) :
    Run.outcome (e.finish store ⟨.root, store.snapshotPlace w.home c t⟩) w =
      Run.outcome (e.settleMissing e.subject store ⟨.root, store.snapshotPlace w.home c t⟩
        e.cleaned) w := by
  have his := h.outcome_isFile (isProper_snapshot (fileNameOf_ok htest).2)
  rw [if_pos hfits] at his
  unfold finish
  cases hfind : w.volume.find? (store.snapshotPlace w.home c t) with
  | none =>
      rw [hfind] at his
      rw [Run.outcome_bind_of_ok his]
      rfl
  | some x =>
      rw [hfind] at his
      cases x with
      | file bytes => exact absurd hfind (hfile bytes)
      | link target => exact absurd hfind (h.notLink t target)
      | directory =>
          rw [Run.outcome_bind_of_ok his]
          rfl

variable (hcategory : fileNameOf "" Name.maxBytes e.category = .ok c)

include hcategory

/-- **A comparison with a snapshot that is there matches where nothing differs, and else reports
every difference.** -/
theorem outcome_compareAt {bytes : List UInt8} {saved : Value} (path : Path)
    (hfile : w.volume.find? (store.snapshotPlace w.home c t) = some (.file bytes))
    (hdecode : Store.decode bytes = .ok saved) (hsaved : saved.isJson = true)
    (hresponse : e.response.isJson = true) :
    (Run.outcome (e.compareAt e.subject store path e.cleaned) w).1 =
        (if (saved.diff e.cleaned).isEmpty then .ok .matched
        else .error (.mismatch ⟨e.category, e.test, path, (saved.diff e.cleaned).map (·.line)⟩)) ∧
      (Run.outcome (e.compareAt e.subject store path e.cleaned) w).2.SameTree w := by
  have hload := h.outcome_load hcategory htest hfits hfile
  rw [hdecode] at hload
  have hreport : saved.report? e.cleaned = some ((saved.diff e.cleaned).map (·.line)) :=
    Value.report?_of_isJson hsaved (BlackLab.isJson_sanitize e.removeParameters hresponse)
  unfold compareAt
  rw [Run.outcome_bind_of_ok hload, hreport]
  cases saved.diff e.cleaned with
  | nil => exact ⟨rfl, rfl, rfl⟩
  | cons d ds => exact ⟨rfl, rfl, rfl⟩

/-- Comparing writes nothing. -/
theorem outcome_compareAt_ne_written {bytes : List UInt8} (path : Path)
    (hfile : w.volume.find? (store.snapshotPlace w.home c t) = some (.file bytes)) :
    (Run.outcome (e.compareAt e.subject store path e.cleaned) w).1 ≠ .ok .written := by
  have hload := h.outcome_load hcategory htest hfits hfile
  unfold compareAt
  cases hdecode : Store.decode bytes with
  | error f =>
      rw [hdecode] at hload
      rw [Run.outcome_bind_of_error hload]
      intro hwritten
      cases hwritten
  | ok saved =>
      rw [hdecode] at hload
      rw [Run.outcome_bind_of_ok hload]
      intro hwritten
      split at hwritten
      · cases hwritten
      · cases hwritten
      · cases hwritten

/-- **A missing snapshot is written where it is asked for, unless a directory stands there.** -/
theorem outcome_settleMissing_write {bytes : List UInt8} (path : Path)
    (hpolicy : Run.outcome (effectivePolicy e.policy) w = (.ok .writeIfMissing, w))
    (hbytes : Store.encode e.cleaned = .ok bytes) :
    match w.volume.find? (store.snapshotPlace w.home c t) with
      | some .directory =>
          (Run.outcome (e.settleMissing e.subject store path e.cleaned) w).1 =
            .error (.access .isDirectory ⟨.root, store.snapshotPlace w.home c t⟩)
      | _ =>
          (Run.outcome (e.settleMissing e.subject store path e.cleaned) w).1 = .ok .written ∧
          (Run.outcome (e.settleMissing e.subject store path e.cleaned) w).2.SameTree
            { w with volume := w.volume.put (store.snapshotPlace w.home c t) (.file bytes) } := by
  have hsave := h.outcome_save hcategory htest hfits hbytes
  unfold settleMissing
  rw [Run.outcome_bind_of_ok hpolicy]
  simp only
  cases hfind : w.volume.find? (store.snapshotPlace w.home c t) with
  | none =>
      rw [hfind] at hsave
      rw [Run.outcome_bind_of_ok hsave]
      exact ⟨rfl, rfl, rfl⟩
  | some x =>
      rw [hfind] at hsave
      cases x with
      | directory =>
          simp only at hsave ⊢
          rw [Run.outcome_bind_of_error hsave]
      | file old =>
          simp only at hsave ⊢
          rw [Run.outcome_bind_of_ok hsave]
          exact ⟨rfl, rfl, rfl⟩
      | link target =>
          simp only at hsave ⊢
          rw [Run.outcome_bind_of_ok hsave]
          exact ⟨rfl, rfl, rfl⟩

end AtSnapshot

/-! ## §4. Writing. -/

/-- On a free way a missing snapshot is written where it is asked for and fits. -/
theorem outcome_check_written {c t : String} {bytes : List UInt8} (hstore : e.store = some store)
    (hfree : store.LinkFree w) (hpath : store.HasPath)
    (hcategory : fileNameOf "" Name.maxBytes e.category = .ok c)
    (htest : fileNameOf "" maxTestBytes e.test = .ok t)
    (hclear : Volume.Clear w.volume (store.directoryPlace w.home c))
    (hdirectory : Volume.Fits (store.directoryPlace w.home c))
    (hfits : Volume.Fits (store.snapshotPlace w.home c t))
    (hnone : w.volume.find? (store.snapshotPlace w.home c t) = none)
    (hpolicy : ∀ v, Run.outcome (effectivePolicy e.policy) { w with volume := v } =
      (.ok .writeIfMissing, { w with volume := v }))
    (hbytes : Store.encode e.cleaned = .ok bytes) :
    (Run.outcome e.check w).1 = .ok .written ∧
      (Run.outcome e.check w).2.SameTree { w with
        volume := (w.volume.makeDirectories (store.directoryPlace w.home c)).1.put
          (store.snapshotPlace w.home c t) (.file bytes) } := by
  have hprint := isPrintable_of_names hcategory htest
  have hc := Name.isProper_of_fileName? (fileNameOf_ok hcategory).2
  have hmade := Store.made_directory hfree hpath hc
  have hok := hmade.fits hclear hdirectory
  have hready := Store.ready_of_made hfree hpath hc hok
  generalize hv : w.volume.makeDirectories (store.directoryPlace w.home c) = made at *
  obtain ⟨v, result⟩ := made
  obtain rfl : result = .ok () := hok
  have hmissing : v.find? (store.snapshotPlace w.home c t) = none := by
    rcases hmade.adds (store.snapshotPlace w.home c t) with heq | ⟨hup, -, -⟩
    · rw [heq, hnone]
    · exact absurd hup (Store.snapshotPlace_not_above store w.home c c t)
  have hsettle := outcome_settleMissing_write hready htest hfits hcategory
    ⟨.root, store.snapshotPlace w.home c t⟩ (hpolicy v) hbytes
  simp only [hmissing] at hsettle
  rw [outcome_check_of_names hstore hprint hfree hpath hcategory hv htest,
    outcome_finish_of_noFile hready htest hfits (fun old h => by rw [hmissing] at h; cases h)]
  exact hsettle

end Expectation

end Golden

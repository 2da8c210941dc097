/-
  Golden.Proofs.Store.Codec
  ────────────────────────────────
  **WHAT IS SAVED IS LOADED AS ITS IMAGE.**

  After a value has been saved, links or not, loading the snapshot gives the
  image of the value: tuples as lists, keys as texts, all else as it was.

      save category test v   then   load category test   gives   image v

  Where all keys are texts to begin with, the image has the very text of the
  value, so saving what has been loaded changes nothing.
-/
import Golden.Proofs.Store.Keeping
import Golden.Proofs.Store.Places

namespace Golden

namespace Store

variable {store : Store} {w u : World} {category test v : Value} {path : Path}

/-! ## §1. A snapshot that has been saved. -/

/-- Whether a snapshot has its location and its bytes, where a file can be put, and the directory of
its category stands. -/
structure Saved (store : Store) (w : World) (category test : Value) (path : Path)
    (bytes : List UInt8) : Prop where
  location : store.locationIn w.volume w.home category test = .ok path
  place : ∃ l, w.volume.locate .put path.names = .ok l ∧ w.volume.find? l = some (.file bytes)
  directory : ∃ d, store.directoryIn w.volume w.home category = .ok d ∧
    w.volume.status d.names = .ok .directory

/-- **What has been saved is there, bytes and all.** -/
theorem saved_of_save (h : Run.outcome (store.save category test v) w = (.ok path, u)) :
    ∃ bytes, encode v = .ok bytes ∧ store.Saved u category test path bytes := by
  obtain ⟨d, after, hd, hmade, hwrite, rfl⟩ := save_eq_ok h
  obtain ⟨bytes, hlocation, hbytes, hwritten⟩ := writeIn_eq_ok_iff.mp hwrite
  have hgrows := Volume.grows_write hwritten
  have hthere := locationIn_after hgrows hlocation (Volume.status_of_write hwritten)
  -- The location is found in the directory that has been made.
  obtain ⟨d', -, hd', -, -, -⟩ := locationIn_eq_ok_iff.mp hthere
  have hsame := directoryIn_before
    ((Volume.prepares_makeDirectories w.volume d.names).grows.trans hgrows) hd'
  obtain rfl : d = d' := Except.ok.inj (hd.symm.trans hsame)
  exact ⟨bytes, hbytes, hthere, Volume.place_of_write hwritten, d, hd',
    hgrows.status_directory (Volume.status_of_makeDirectories hmade)⟩

section Saved

variable {bytes : List UInt8} (h : store.Saved u category test path bytes)

include h

theorem Saved.contents : u.volume.contents path.names = .ok bytes := by
  obtain ⟨l, hput, hfound⟩ := h.place
  exact Volume.contents_eq_ok_iff.mpr
    (Volume.status_eq_ok_iff.mpr ⟨l, Volume.locate_follow_of_put hput, hfound⟩)

/-- A snapshot that is there is loaded as the value in its bytes. -/
theorem Saved.outcome_load : Run.outcome (store.load category test) u = (decode bytes, u) := by
  rw [outcome_load_eq, h.location]
  show ((u.volume.contents path.names).mapError _ >>= decode, u) = _
  rw [h.contents]
  rfl

/-- **Saving a value that has the same bytes changes nothing.** -/
theorem Saved.outcome_save {x : Value} (hx : encode x = .ok bytes) :
    ∃ after, Run.outcome (store.save category test x) u = (.ok path, { u with volume := after }) ∧
      after.contents path.names = .ok bytes ∧ ∀ loc, after.find? loc = u.volume.find? loc := by
  obtain ⟨d, hd, hdirectory⟩ := h.directory
  obtain ⟨l, hput, hfound⟩ := h.place
  have hne : l ≠ [] := by
    rintro rfl
    cases hfound
  have hwrite : u.volume.write path.names bytes = .ok (u.volume.put l (.file bytes)) :=
    Volume.write_eq_ok_iff.mpr ⟨l, hput, by rw [hfound]; simp, rfl⟩
  refine ⟨u.volume.put l (.file bytes), ?_,
    Volume.contents_eq_ok_iff.mpr (Volume.status_of_write hwrite), fun loc => ?_⟩
  · rw [outcome_save_of_directory store u category test x hd hdirectory,
      writeIn_eq_ok_iff.mpr ⟨bytes, h.location, hx, hwrite⟩]
  · rw [Volume.find?_put u.volume hne]
    split
    · next hloc => rw [hloc, hfound]
    · rfl

end Saved

/-! ## §2. Saving, then loading. -/

/-- Where all keys are texts the image of a value has the bytes of the value. -/
theorem encode_image {bytes : List UInt8} (hkeys : v.hasTextKeys = true)
    (h : encode v = .ok bytes) : encode v.image = .ok bytes := by
  obtain ⟨hfree, rfl⟩ := encode_eq_ok_iff.mp h
  have himage := Json.refusal?_eq_none v.image (Json.isJson_image v hfree)
  exact encode_eq_ok_iff.mpr ⟨himage, by rw [Json.chars_image v hkeys]⟩

/-- **After a value has been saved the snapshot is loaded as its image, and where all keys are texts
saving what has been loaded leaves every file as it is, the snapshot byte for byte.** -/
theorem load_of_save (h : Run.outcome (store.save category test v) w = (.ok path, u)) :
    Run.outcome (store.load category test) u = (.ok v.image, u) ∧
      (v.hasTextKeys = true → ∃ bytes after, u.volume.contents path.names = .ok bytes ∧
        Run.outcome (store.save category test v.image) u = (.ok path, { u with volume := after }) ∧
          after.contents path.names = .ok bytes ∧
            ∀ loc, after.find? loc = u.volume.find? loc) := by
  obtain ⟨bytes, hbytes, hsaved⟩ := saved_of_save h
  refine ⟨?_, fun hkeys => ?_⟩
  · rw [hsaved.outcome_load, decode_of_encode hbytes]
  · obtain ⟨after, hsave, hcontents, hfind⟩ := hsaved.outcome_save (encode_image hkeys hbytes)
    exact ⟨bytes, after, hsaved.contents, hsave, hcontents, hfind⟩

/-! ## §3. One category. -/

/-- The store of one fixed directory. -/
def shelf : Store := ⟨⟨.root, ["snapshots"]⟩⟩

/-- A world with nothing in it but the directory of one category. -/
def hitsWorld : World :=
  { bareWorld with volume := (bareWorld.volume.makeDirectories ["snapshots", "hits"]).1 }

theorem fileNameOf_hits : fileNameOf "" Name.maxBytes (.text "hits") = .ok "hits" := by
  rw [fileNameOf_text, show Name.fileName? [] Name.maxBytes "hits" = some "hits" by decide]

theorem fileNameOf_all : fileNameOf "" maxTestBytes (.text "all") = .ok "all" := by
  rw [fileNameOf_text, show Name.fileName? [] maxTestBytes "all" = some "all" by decide]

theorem fresh_shelf : shelf.Fresh bareWorld := fresh_bareWorld (by decide)

theorem isProper_hits : IsProper "hits" :=
  Name.isProper_of_fileName? (fileNameOf_ok fileNameOf_hits).2

theorem made_hitsWorld : Volume.Made bareWorld.volume ["snapshots", "hits"] hitsWorld.volume
    (bareWorld.volume.makeDirectories ["snapshots", "hits"]).2 :=
  made_directory fresh_shelf.linkFree rfl isProper_hits

theorem ready_hitsWorld : shelf.Ready hitsWorld "hits" := by
  refine ready_of_made fresh_shelf.linkFree rfl isProper_hits ?_
  refine made_hitsWorld.fits (fun p hp => ?_) (by decide)
  rcases List.prefix_concat_iff.mp (show p <+: ["snapshots"] ++ ["hits"] from hp) with rfl | hp
  · exact Or.inl (fresh_shelf.new _ (by decide))
  · exact fresh_shelf.above p hp

/-- Every value that can be written is saved there. -/
theorem save_hitsWorld {bytes : List UInt8} (h : encode v = .ok bytes) :
    Run.outcome (shelf.save (.text "hits") (.text "all") v) hitsWorld =
      (.ok ⟨.root, ["snapshots", "hits", "all.json"]⟩, { hitsWorld with
        volume := hitsWorld.volume.put ["snapshots", "hits", "all.json"] (.file bytes) }) := by
  have hsave := ready_hitsWorld.outcome_save fileNameOf_hits fileNameOf_all (by decide) h
  have hnone : hitsWorld.volume.find? (shelf.snapshotPlace hitsWorld.home "hits" "all") = none := by
    rcases made_hitsWorld.adds (shelf.snapshotPlace hitsWorld.home "hits" "all") with heq | ⟨hup, -⟩
    · rw [heq]
      rfl
    · exact absurd hup (by decide)
  rw [hnone] at hsave
  exact hsave

/-- A tuple under a text comes back as a list, and saving it again changes nothing. -/
theorem load_of_save_tuple :
    ∃ (bytes : List UInt8) (u : World) (after : Volume),
      Run.outcome (shelf.save (.text "hits") (.text "all")
          (.ofFields [(.text "ids", .array .tuple [.text "x"])])) hitsWorld =
        (.ok ⟨.root, ["snapshots", "hits", "all.json"]⟩, u) ∧
      Run.outcome (shelf.load (.text "hits") (.text "all")) u =
        (.ok (.ofFields [(.text "ids", .ofItems [.text "x"])]), u) ∧
      u.volume.contents ["snapshots", "hits", "all.json"] = .ok bytes ∧
      after.contents ["snapshots", "hits", "all.json"] = .ok bytes := by
  have hfree : Json.refusal? (.ofFields [(.text "ids", .array .tuple [.text "x"])]) = none := rfl
  have hsave := save_hitsWorld (encode_eq_ok_iff.mpr ⟨hfree, rfl⟩)
  obtain ⟨hload, hagain⟩ := load_of_save hsave
  obtain ⟨bytes, after, hbefore, -, hafter, -⟩ := hagain rfl
  exact ⟨bytes, _, after, hsave, hload, hbefore, hafter⟩

end Store

end Golden

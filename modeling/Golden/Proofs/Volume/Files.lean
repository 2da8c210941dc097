/-
  Golden.Proofs.Volume.Files
  ────────────────────────────────
  **FILES IN A DIRECTORY THAT IS THERE.**

  Where a directory and all above it stand, an access to a name in it depends
  on two things alone: whether the location fits, and what is found there.

      isFile v (dir ++ [name])  =  ok (a file is found)   ↔   Fits (dir ++ [name])

  What has been written is found again, and the directory still stands.
-/
import Golden.Proofs.Volume.Walk

namespace Golden

namespace Volume

/-! ## §1. Places in a directory. -/

theorem Stands.concat_unlinked {v : Volume} {dir : Location} {name : String} (h : Stands v dir)
    (hname : ∀ t, v.find? (dir ++ [name]) ≠ some (.link t)) : Unlinked v (dir ++ [name]) := by
  intro p hp
  rcases List.prefix_concat_iff.mp hp with rfl | hp
  · exact hname
  · intro t ht
    rw [h p hp] at ht
    cases ht

/-- In a directory that is there every place is found that fits. -/
theorem Stands.place_concat {v : Volume} {dir : Location} (h : Stands v dir) (name : String) :
    v.place (dir ++ [name]) =
      if Fits (dir ++ [name]) then .ok (dir ++ [name]) else .error .tooLong := by
  split
  · next hfits => exact place_of_fits hfits (h.above name)
  · next hfits => exact place_of_not_fits hfits (h.above name)

/-- A directory stays when an entry is put outside the way to it. -/
theorem Stands.put {v : Volume} {dir loc : Location} (h : Stands v dir) (hloc : ¬ loc <+: dir)
    (e : Entry) : Stands (v.put loc e) dir := by
  intro p hp
  have hne : loc ≠ [] := by
    rintro rfl
    exact hloc List.nil_prefix
  rw [find?_put v hne, if_neg (by rintro rfl; exact hloc hp)]
  exact h p hp

/-! ## §2. Accesses in a directory. -/

section InDirectory

variable {v : Volume} {dir : Location} {name : String}
  (hproper : ∀ n ∈ dir ++ [name], IsProper n) (hstands : Stands v dir)
  (hname : ∀ t, v.find? (dir ++ [name]) ≠ some (.link t))

include hproper hstands hname

/-- Whether a file is there is answered wherever the location fits. -/
theorem isFile_concat :
    v.isFile (dir ++ [name]) =
      if Fits (dir ++ [name]) then
        .ok (match v.find? (dir ++ [name]) with
          | some (.file _) => true
          | _ => false)
      else .error .tooLong := by
  unfold isFile isKind
  rw [status_eq hproper (hstands.concat_unlinked hname), hstands.place_concat name]
  by_cases hfits : Fits (dir ++ [name])
  · rw [if_pos hfits, if_pos hfits]
    simp only
    cases hfind : v.find? (dir ++ [name]) with
    | none => rfl
    | some e => cases e <;> rfl
  · rw [if_neg hfits, if_neg hfits]
    rfl

theorem contents_concat {bytes : List UInt8} (hfits : Fits (dir ++ [name]))
    (hfile : v.find? (dir ++ [name]) = some (.file bytes)) :
    v.contents (dir ++ [name]) = .ok bytes := by
  unfold contents
  rw [status_eq hproper (hstands.concat_unlinked hname), hstands.place_concat name, if_pos hfits]
  simp only [hfile]
  rfl

theorem write_concat (hfits : Fits (dir ++ [name])) (bytes : List UInt8) :
    v.write (dir ++ [name]) bytes = match v.find? (dir ++ [name]) with
      | some .directory => .error .isDirectory
      | _ => .ok (v.put (dir ++ [name]) (.file bytes)) := by
  have hwrite := write_eq hproper (hstands.concat_unlinked hname) bytes
  rw [hstands.place_concat name, if_pos hfits] at hwrite
  cases hfind : v.find? (dir ++ [name]) with
  | none => simp only [hwrite, hfind]
  | some e => cases e <;> simp only [hwrite, hfind]

end InDirectory

end Volume

end Golden

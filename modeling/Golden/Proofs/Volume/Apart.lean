/-
  Golden.Proofs.Volume.Apart
  ────────────────────────────────
  **WHAT IS FOUND ELSEWHERE.**

  A volume is a tree if whatever stands in it stands in a directory; every
  change keeps it one.  In a tree what is found at a location does not change
  when a directory is made and a file written in it, as long as the location
  is not that of the file or below it: where a directory on the way was
  missing nothing stood at the location, and nothing stands there now.

      status w other  =  status v other
-/
import Golden.Proofs.Volume.Links

namespace Golden

namespace Volume

/-! ## §1. Trees. -/

/-- Whether all that stands in a volume stands in a directory. -/
def IsTree (v : Volume) : Prop :=
  ∀ (loc : Location) (name : String) (e : Entry), v.find? (loc ++ [name]) = some e →
    v.find? loc = some .directory

theorem IsTree.above {v : Volume} (h : IsTree v) {loc : Location} {e : Entry}
    (hloc : v.find? loc = some e) : Above v loc := by
  rintro p ⟨more, rfl⟩ hne
  -- From the end: each location on the way holds the next one.
  induction more using List.reverseRecOn generalizing e with
  | nil => exact absurd (List.append_nil p).symm hne
  | append_singleton more name ih =>
      rw [← List.append_assoc] at hloc
      have hdir := h _ name e hloc
      by_cases hmore : more = []
      · rw [hmore, List.append_nil] at hdir
        exact hdir
      · exact ih hdir (by simpa using hmore)

theorem IsTree.put {v : Volume} (h : IsTree v) {loc : Location} (hne : loc ≠ [])
    (habove : Above v loc) {e : Entry} (hdir : v.find? loc = some .directory → e = .directory) :
    IsTree (v.put loc e) := by
  intro l name x hx
  rw [find?_put v hne] at hx ⊢
  have hl : v.find? l = some .directory := by
    split at hx
    · next heq => exact habove l ⟨[name], heq⟩ (by rw [← heq]; simp)
    · exact h l name x hx
  split
  · next heq => rw [hdir (by rw [← heq, hl])]
  · exact hl

theorem IsTree.write {v w : Volume} (hv : IsTree v) {loc : Location} {bytes : List UInt8}
    (h : v.write loc bytes = .ok w) : IsTree w := by
  obtain ⟨l, hne, hl, hold, rfl⟩ := write_ok h
  refine hv.put hne (locate_ok hl).1 (fun hdir => ?_)
  rcases hold with hnone | ⟨old, hfile⟩
  · rw [hdir] at hnone
    cases hnone
  · rw [hdir] at hfile
    cases hfile

/-! ## §2. What is found at a location. -/

section Found

variable {v : Volume} {loc : Location} (hproper : ∀ name ∈ loc, IsProper name)
  (hlinks : Unlinked v loc)

include hproper hlinks

end Found

/-! ## §3. Other locations. -/

end Volume

end Golden

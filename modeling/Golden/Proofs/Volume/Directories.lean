/-
  Golden.Proofs.Volume.Directories
  ────────────────────────────────
  **MAKING DIRECTORIES.**

  Making a directory adds directories where nothing stood, at the location and
  above it, and changes nothing else, also when it fails.  When it succeeds
  the location and all above it are directories; and on a free way it succeeds
  just if the location fits:

      Clear v loc  →  makeDirectories v loc succeeds  ↔  Fits loc

  Otherwise a name or the whole is too long.
-/
import Golden.Proofs.Volume.Walk
import Mathlib.Data.List.Induction

namespace Golden

/-! ## §1. Lengths. -/

namespace Location

/-- A location has a longer text than the one above it. -/
theorem utf8ByteSize_text_le (dir : Location) (name : String) :
    dir.text.utf8ByteSize ≤ (Location.text (dir ++ [name])).utf8ByteSize := by
  unfold Location.text
  rw [String.utf8ByteSize_append, String.utf8ByteSize_append]
  cases dir with
  | nil =>
      rw [String.intercalate_nil, String.utf8ByteSize_empty]
      omega
  | cons n names =>
      rw [String.intercalate_append_of_ne_nil (by simp) (by simp), String.utf8ByteSize_append,
        String.utf8ByteSize_append]
      omega

end Location

namespace Volume

theorem fits_nil : Fits [] := ⟨by decide, fun _ h => by cases h⟩

/-- What lies above a location that fits, fits. -/
theorem Fits.parent {dir : Location} {name : String} (h : Fits (dir ++ [name])) : Fits dir := by
  refine ⟨?_, fun n hn => h.names n (List.mem_append_left _ hn)⟩
  have hlong := h.path
  have hle := Location.utf8ByteSize_text_le dir name
  unfold isTooLong at hlong ⊢
  rw [decide_eq_false_iff_not] at hlong ⊢
  omega

/-! ## §2. What is added. -/

/-- Whether one volume differs from another by directories at a location or above it, where nothing
stood. -/
def Adds (v w : Volume) (loc : Location) : Prop :=
  ∀ p, w.find? p = v.find? p ∨
    p <+: loc ∧ v.find? p = none ∧ w.find? p = some .directory

theorem Adds.refl (v : Volume) (loc : Location) : Adds v v loc := fun _ => Or.inl rfl

theorem Adds.trans {u v w : Volume} {dir loc : Location} (h : Adds u v dir) (h' : Adds v w loc)
    (hdir : dir <+: loc) : Adds u w loc := by
  intro p
  rcases h p with heq | ⟨hp, hnone, hfound⟩
  · rw [← heq]
    exact h' p
  · refine Or.inr ⟨hp.trans hdir, hnone, ?_⟩
    rcases h' p with heq | ⟨-, hnone', -⟩
    · rw [heq, hfound]
    · rw [hfound] at hnone'
      cases hnone'

theorem Adds.mono {v w : Volume} {dir loc : Location} (h : Adds v w dir) (hdir : dir <+: loc) :
    Adds v w loc := h.trans (Adds.refl w loc) hdir

theorem Adds.unlinked {v w : Volume} {loc l : Location} (h : Adds v w loc) (hl : Unlinked v l) :
    Unlinked w l := by
  intro p hp t ht
  rcases h p with heq | ⟨-, -, hfound⟩
  · rw [heq] at ht
    exact hl p hp t ht
  · rw [hfound] at ht
    cases ht

theorem Adds.clear {v w : Volume} {loc l : Location} (h : Adds v w loc) (hl : Clear v l) :
    Clear w l := by
  intro p hp
  rcases h p with heq | ⟨-, -, hfound⟩
  · rw [heq]
    exact hl p hp
  · exact Or.inr hfound

theorem adds_put {v : Volume} {loc : Location} (hnone : v.find? loc = none) :
    Adds v (v.put loc .directory) loc := by
  have hne : loc ≠ [] := by
    rintro rfl
    cases hnone
  intro p
  rw [find?_put v hne]
  by_cases hp : p = loc
  · rw [if_pos hp, hp]
    exact Or.inr ⟨List.prefix_rfl, hnone, rfl⟩
  · rw [if_neg hp]
    exact Or.inl rfl

/-! ## §3. One directory. -/

/-- Make a directory where those above it are there; one that is there already will do. -/
def attempt (v : Volume) (loc : Location) : Volume × Except (Trouble × Location) Unit :=
  match v.create loc .directory with
  | .ok w => (w, .ok ())
  | .error t => (v, v.settleDirectory loc t)

/-- What making directories comes to. -/
structure Made (v : Volume) (loc : Location) (w : Volume)
    (result : Except (Trouble × Location) Unit) : Prop where
  adds : Adds v w loc
  ok : result = .ok () → Fits loc ∧ Stands w loc
  fits : Clear v loc → Fits loc → result = .ok ()
  long : Clear v loc → ¬ Fits loc → ∃ l, result = .error (.tooLong, l)

section Attempt

variable {v : Volume} {loc : Location} (hproper : ∀ name ∈ loc, IsProper name)
  (hlinks : Unlinked v loc)

include hproper hlinks

theorem settleDirectory_of_error {t : Trouble} (h : v.place loc = .error t) :
    v.settleDirectory loc t = .error (t, loc) := by
  unfold settleDirectory isDirectory isKind
  rw [status_eq hproper hlinks, h]
  cases habsence : Trouble.isAbsence t <;> simp [habsence]

theorem settleDirectory_of_ok (h : v.place loc = .ok loc) {e : Entry} (he : v.find? loc = some e)
    (t : Trouble) :
    v.settleDirectory loc t = if e = .directory then .ok () else .error (t, loc) := by
  unfold settleDirectory isDirectory isKind
  rw [status_eq hproper hlinks, h]
  simp only [he]
  cases e <;> rfl

theorem made_attempt (hcreate : v.place loc ≠ .error .missing) :
    Made v loc (attempt v loc).1 (attempt v loc).2 := by
  unfold attempt
  rw [create_eq hproper hlinks]
  cases hplace : v.place loc with
  | error t =>
      simp only
      rw [settleDirectory_of_error hproper hlinks hplace]
      -- The place is missed, and not for a directory: only its length is left as a reason.
      have hmissing : t ≠ .missing := fun h => hcreate (by rw [hplace, h])
      have herror : Clear v loc → t = .tooLong ∧ ¬ Fits loc := by
        intro hclear
        rcases place_error (fun p hp _ => hclear p hp) hplace with ⟨h, -⟩ | h
        · exact absurd h hmissing
        · exact h
      refine ⟨Adds.refl v loc, fun h => (by cases h), fun hclear hfits => ?_, fun hclear _ => ?_⟩
      · exact absurd hfits (herror hclear).2
      · exact ⟨loc, by rw [(herror hclear).1]⟩
  | ok l =>
      obtain ⟨rfl, hfits, habove⟩ := place_ok hplace
      -- The place is found, so all above it are directories already.
      have hstands : ∀ {w : Volume}, Adds v w l → w.find? l = some .directory → Stands w l := by
        intro w hadds hfound p hp
        by_cases hpl : p = l
        · rw [hpl, hfound]
        · rcases hadds p with heq | ⟨-, -, h⟩
          · rw [heq, habove p hp hpl]
          · exact h
      cases hfind : v.find? l with
      | none =>
          have hne : l ≠ [] := by
            rintro rfl
            cases hfind
          have hadds := adds_put hfind
          simp only [hfind]
          refine ⟨hadds, fun _ => ⟨hfits, hstands hadds ?_⟩, fun _ _ => rfl,
            fun _ h => absurd hfits h⟩
          rw [find?_put v hne, if_pos rfl]
      | some e =>
          simp only [hfind]
          rw [settleDirectory_of_ok hproper hlinks hplace hfind]
          refine ⟨Adds.refl v l, fun h => ?_, fun hclear _ => ?_, fun _ h => absurd hfits h⟩
          · split at h
            · next he => exact ⟨hfits, hstands (Adds.refl v l) (by rw [hfind, he])⟩
            · cases h
          · rcases hclear l List.prefix_rfl with h | h
            · rw [hfind] at h
              cases h
            · rw [hfind] at h
              rw [if_pos (Option.some.inj h)]

end Attempt

/-! ## §4. All of them. -/

theorem makeDirectories_of_place {v : Volume} {loc : Location}
    (hproper : ∀ name ∈ loc, IsProper name) (hlinks : Unlinked v loc)
    (h : v.place loc ≠ .error .missing) : v.makeDirectories loc = attempt v loc := by
  rw [makeDirectories, attempt, create_eq hproper hlinks]
  cases hplace : v.place loc with
  | error t =>
      cases t with
      | missing => exact absurd hplace h
      | _ => rfl
  | ok l => cases hfind : v.find? l <;> simp only [hfind]

/-- Make a directory when those above it have been made; a way that is missing then stays so. -/
def makeLast (w : Volume) (loc : Location) : Volume × Except (Trouble × Location) Unit :=
  match w.create loc .directory with
  | .ok u => (u, .ok ())
  | .error .missing => (w, .error (.missing, loc))
  | .error t => (w, w.settleDirectory loc t)

/-- A directory whose way is missing is made after those above it. -/
theorem makeDirectories_of_missing {v : Volume} {dir : Location} {name : String}
    (hproper : ∀ n ∈ dir ++ [name], IsProper n) (hlinks : Unlinked v (dir ++ [name]))
    (h : v.place (dir ++ [name]) = .error .missing) :
    v.makeDirectories (dir ++ [name]) =
      match v.makeDirectories dir with
      | (w, .error failure) => (w, .error failure)
      | (w, .ok ()) => makeLast w (dir ++ [name]) := by
  have hparent : Location.parent (dir ++ [name]) = dir := List.dropLast_concat
  have hnil : ¬ dir ++ [name] = [] := by simp
  rw [makeDirectories, create_eq hproper hlinks, h]
  refine (dif_neg hnil).trans ?_
  -- The recursion goes to the location above, which is `dir` itself.
  generalize hmade : v.makeDirectories (Location.parent (dir ++ [name])) = made
  rw [hparent] at hmade
  rw [hmade]
  obtain ⟨w, result⟩ := made
  cases result with
  | error failure => rfl
  | ok _ => rfl

theorem makeLast_eq_attempt {w : Volume} {loc : Location} (hproper : ∀ name ∈ loc, IsProper name)
    (hlinks : Unlinked w loc) (h : w.place loc ≠ .error .missing) :
    makeLast w loc = attempt w loc := by
  unfold makeLast attempt
  rw [create_eq hproper hlinks]
  cases hplace : w.place loc with
  | error t =>
      cases t with
      | missing => exact absurd hplace h
      | _ => rfl
  | ok l => cases hfind : w.find? l <;> simp only [hfind]

/-- Below a directory that stands no way is missing. -/
theorem Stands.place_ne_missing {w : Volume} {dir : Location} (h : Stands w dir) (name : String) :
    w.place (dir ++ [name]) ≠ .error .missing := by
  by_cases hfits : Fits (dir ++ [name])
  · rw [place_of_fits hfits (h.above name)]
    intro hplace
    cases hplace
  · rw [place_of_not_fits hfits (h.above name)]
    intro hplace
    cases hplace

/-- A failure above a directory is the failure to make it. -/
theorem Made.of_failure {v w : Volume} {dir : Location} {name : String}
    {failure : Trouble × Location} (h : Made v dir w (.error failure)) :
    Made v (dir ++ [name]) w (.error failure) := by
  have hup : dir <+: dir ++ [name] := List.prefix_append dir [name]
  have hunfit : Clear v (dir ++ [name]) → ¬ Fits dir := by
    intro hclear hfits
    cases h.fits (hclear.of_prefix hup) hfits
  refine ⟨h.adds.mono hup, fun hok => (by cases hok), fun hclear hfits => ?_, fun hclear _ => ?_⟩
  · exact absurd hfits.parent (hunfit hclear)
  · exact h.long (hclear.of_prefix hup) (hunfit hclear)

/-- What is made below a directory that has been made adds to it. -/
theorem Made.of_last {v w u : Volume} {dir : Location} {name : String}
    {result : Except (Trouble × Location) Unit} (h : Adds v w dir)
    (hlast : Made w (dir ++ [name]) u result) : Made v (dir ++ [name]) u result where
  adds := h.trans hlast.adds (List.prefix_append dir [name])
  ok := hlast.ok
  fits := fun hclear => hlast.fits (h.clear hclear)
  long := fun hclear => hlast.long (h.clear hclear)

/-- **Making directories adds directories on the way and nothing else, succeeds only where the
location fits, and on a free way wherever it fits.** -/
theorem makeDirectories_made {v : Volume} {loc : Location}
    (hproper : ∀ name ∈ loc, IsProper name) (hlinks : Unlinked v loc) :
    Made v loc (v.makeDirectories loc).1 (v.makeDirectories loc).2 := by
  -- From the end, as the recursion goes: what is above comes first.
  induction loc using List.reverseRecOn generalizing v with
  | nil =>
      have hplace : v.place [] ≠ .error .missing := by
        rw [place_of_fits fits_nil (fun p hp hne => absurd (List.prefix_nil.mp hp) hne)]
        intro h
        cases h
      rw [makeDirectories_of_place hproper hlinks hplace]
      exact made_attempt hproper hlinks hplace
  | append_singleton dir name ih =>
      by_cases hplace : v.place (dir ++ [name]) = .error .missing
      · have hmade := ih (fun n hn => hproper n (List.mem_append_left _ hn))
          (hlinks.of_prefix (List.prefix_append dir [name]))
        rw [makeDirectories_of_missing hproper hlinks hplace]
        generalize v.makeDirectories dir = made at hmade
        obtain ⟨w, result⟩ := made
        cases result with
        | error failure => exact hmade.of_failure
        | ok _ =>
            -- What has been made are no links, so the last directory is made as where they stood.
            have hlinks' : Unlinked w (dir ++ [name]) := hmade.adds.unlinked hlinks
            have hmissing := (hmade.ok rfl).2.place_ne_missing name
            have hlast := made_attempt hproper hlinks' hmissing
            rw [← makeLast_eq_attempt hproper hlinks' hmissing] at hlast
            exact Made.of_last hmade.adds hlast
      -- No directory is missing, so nothing above is made.
      · rw [makeDirectories_of_place hproper hlinks hplace]
        exact made_attempt hproper hlinks hplace

/-- Directories that are there are left as they are. -/
theorem makeDirectories_of_stands {v : Volume} {loc : Location}
    (hproper : ∀ name ∈ loc, IsProper name) (hfits : Fits loc) (hstands : Stands v loc) :
    v.makeDirectories loc = (v, .ok ()) := by
  have hlinks : Unlinked v loc := Clear.unlinked (fun p hp => Or.inr (hstands p hp))
  have hplace : v.place loc = .ok loc := place_of_fits hfits (fun p hp _ => hstands p hp)
  have hfind := hstands loc List.prefix_rfl
  rw [makeDirectories_of_place hproper hlinks (by rw [hplace]; intro h; cases h)]
  unfold attempt
  rw [create_eq hproper hlinks, hplace]
  simp only [hfind]
  rw [settleDirectory_of_ok hproper hlinks hplace hfind, if_pos rfl]

end Volume

end Golden

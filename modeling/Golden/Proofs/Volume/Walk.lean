/-
  Golden.Proofs.Volume.Walk
  ────────────────────────────────
  **WALKING WHERE NO LINK STANDS.**

  On a way without links a walk goes down name by name: each step needs a
  directory and a name that is not too long, and nothing else counts.  So a
  walk arrives exactly when the location fits and every location above it is a
  directory, whatever its ending and however many links it might follow:

      place loc  =  ok loc   ↔   Fits loc  and  directories above loc

  What one entry changes is what is found at its own location.
-/
import Golden.Volume

namespace Golden

/-- Whether a name leads one level down, to where something can stand. -/
structure IsProper (name : String) : Prop where
  down : isIdle name = false
  dots : name ≠ ".."
  null : Volume.holdsNull name = false

namespace Volume

/-! ## §1. Entries. -/

@[simp] theorem find?_nil (v : Volume) : v.find? [] = some .directory := rfl

theorem lookup_filter_ne {loc l : Location} (h : l ≠ loc) (entries : List (Location × Entry)) :
    (entries.filter (fun x => x.1 != loc)).lookup l = entries.lookup l := by
  induction entries with
  | nil => rfl
  | cons x xs ih =>
      obtain ⟨m, e⟩ := x
      rw [List.filter_cons]
      by_cases hm : m = loc
      · have hl : (l == m) = false := by simpa [hm] using h
        rw [if_neg (by simp [hm]), ih, List.lookup_cons, hl]
      · rw [if_pos (by simp [hm]), List.lookup_cons, List.lookup_cons, ih]

/-- **An entry is found where it has been put, and all else where it was.** -/
theorem find?_put (v : Volume) {loc : Location} (hloc : loc ≠ []) (e : Entry) (l : Location) :
    (v.put loc e).find? l = if l = loc then some e else v.find? l := by
  unfold find? put
  by_cases hl : l = []
  · rw [if_pos hl, if_pos hl, if_neg (by rw [hl]; exact hloc.symm)]
  · rw [if_neg hl, if_neg hl]
    by_cases hm : l = loc
    · rw [if_pos hm, hm, List.lookup_cons_self]
    · have hne : (l == loc) = false := by simpa using hm
      rw [if_neg hm, List.lookup_cons, hne]
      exact lookup_filter_ne hm v.entries

/-! ## §2. Ways without links. -/

/-- Whether no link stands at a location or above it. -/
def Unlinked (v : Volume) (loc : Location) : Prop :=
  ∀ p, p <+: loc → ∀ t, v.find? p ≠ some (.link t)

/-- Walk down name by name, where no link stands. -/
def reach (v : Volume) (here : Location) : List String → Except Trouble Location
  | [] => .ok here
  | name :: rest =>
      match v.find? here with
      | none => .error .missing
      | some .directory =>
          if maxNameBytes < name.utf8ByteSize then .error .tooLong
          else reach v (here ++ [name]) rest
      | some _ => .error .notDirectory

theorem walk_eq_reach {v : Volume} (ending : Ending) (links : Nat) {here : Location}
    {names : List String} (hproper : ∀ name ∈ names, IsProper name)
    (hlinks : ∀ p, p <+: names → ∀ t, v.find? (here ++ p) ≠ some (.link t)) :
    v.walk ending links here names = v.reach here names := by
  -- The number of links and the ending are looked at only where a link stands or a name is empty.
  induction names generalizing here with
  | nil => rw [walk, reach]
  | cons name rest ih =>
      obtain ⟨hidle, hdots, -⟩ := hproper name List.mem_cons_self
      have hrest := @ih (here ++ [name])
        (fun n hn => hproper n (List.mem_cons_of_mem name hn)) (fun p hp t => by
          rw [List.append_assoc]
          exact hlinks ([name] ++ p) (List.cons_prefix_cons.mpr ⟨rfl, hp⟩) t)
      -- A name that leads down is not empty, so no text ends in a slash here.
      have hslash : (ending = .put && rest != [] && rest.all (· == "")) = false := by
        cases rest with
        | nil => simp
        | cons n ns =>
            have hn := (hproper n (by simp)).down
            have hempty : (n == "") = false := by
              unfold isIdle at hn
              exact (Bool.or_eq_false_iff.mp hn).1
            simp [hempty]
      rw [walk, reach]
      cases hfind : v.find? here with
      | none => rfl
      | some e =>
          cases e with
          | file bytes => rfl
          | link t => rfl
          | directory =>
              simp only [hidle, hdots, hslash, Bool.false_eq_true, if_false]
              by_cases hlong : maxNameBytes < name.utf8ByteSize
              · rw [if_pos hlong, if_pos hlong]
              · rw [if_neg hlong, if_neg hlong]
                -- The walk looks one name ahead for a link; `reach` looks when it is there.
                cases hnext : v.find? (here ++ [name]) with
                | none =>
                    cases rest with
                    | nil => rfl
                    | cons n ns => simp [reach, hnext]
                | some e =>
                    cases e with
                    | file bytes =>
                        cases rest with
                        | nil => rfl
                        | cons n ns => simp [reach, hnext]
                    | link t =>
                        exact absurd hnext (hlinks [name] (by simp) t)
                    | directory => exact hrest

/-! ## §3. Arriving. -/

/-- Whether a location is short enough for an access, as a whole and in each name. -/
structure Fits (loc : Location) : Prop where
  path : isTooLong loc = false
  names : ∀ name ∈ loc, name.utf8ByteSize ≤ maxNameBytes

instance (loc : Location) : Decidable (Fits loc) :=
  decidable_of_iff (isTooLong loc = false ∧ ∀ name ∈ loc, name.utf8ByteSize ≤ maxNameBytes)
    ⟨fun h => ⟨h.1, h.2⟩, fun h => ⟨h.path, h.names⟩⟩

/-- Whether a location and all above it are directories. -/
def Stands (v : Volume) (loc : Location) : Prop :=
  ∀ p, p <+: loc → v.find? p = some .directory

/-- Whether a location and all above it are directories or free. -/
def Clear (v : Volume) (loc : Location) : Prop :=
  ∀ p, p <+: loc → v.find? p = none ∨ v.find? p = some .directory

theorem Clear.unlinked {v : Volume} {loc : Location} (h : Clear v loc) : Unlinked v loc := by
  intro p hp t ht
  rcases h p hp with h | h
  · rw [h] at ht
    cases ht
  · rw [h] at ht
    cases ht

theorem Unlinked.of_prefix {v : Volume} {p loc : Location} (h : Unlinked v loc) (hp : p <+: loc) :
    Unlinked v p := fun q hq => h q (hq.trans hp)

theorem Clear.of_prefix {v : Volume} {p loc : Location} (h : Clear v loc) (hp : p <+: loc) :
    Clear v p := fun q hq => h q (hq.trans hp)

theorem reach_of_stands {v : Volume} {here : Location} {names : List String}
    (hfits : ∀ name ∈ names, name.utf8ByteSize ≤ maxNameBytes)
    (hdirs : ∀ p, p <+: names → p ≠ names → v.find? (here ++ p) = some .directory) :
    v.reach here names = .ok (here ++ names) := by
  induction names generalizing here with
  | nil => rw [reach, List.append_nil]
  | cons name rest ih =>
      have hhere := hdirs [] List.nil_prefix (by simp)
      rw [List.append_nil] at hhere
      have hname := hfits name List.mem_cons_self
      have hrest := @ih (here ++ [name])
        (fun n hn => hfits n (List.mem_cons_of_mem name hn)) (fun p hp hne => by
          rw [List.append_assoc]
          exact hdirs ([name] ++ p) (List.cons_prefix_cons.mpr ⟨rfl, hp⟩) (by simpa using hne))
      rw [reach, hhere]
      simp only
      rw [if_neg (by omega), hrest, List.append_assoc]
      rfl

/-- What a walk that arrives has met. -/
theorem reach_ok {v : Volume} {here l : Location} {names : List String}
    (h : v.reach here names = .ok l) : l = here ++ names ∧
      (∀ name ∈ names, name.utf8ByteSize ≤ maxNameBytes) ∧
      ∀ p, p <+: names → p ≠ names → v.find? (here ++ p) = some .directory := by
  induction names generalizing here with
  | nil =>
      rw [reach] at h
      refine ⟨?_, ?_, ?_⟩
      · rw [List.append_nil]
        exact (Except.ok.inj h).symm
      · intro name hname
        cases hname
      · intro p hp hne
        exact absurd (List.prefix_nil.mp hp) hne
  | cons name rest ih =>
      rw [reach] at h
      split at h
      · cases h
      · next hhere =>
          split at h
          · cases h
          · next hname =>
              obtain ⟨hl, hfits, hdirs⟩ := ih h
              refine ⟨by rw [hl, List.append_assoc]; rfl, ?_, ?_⟩
              · intro n hn
                rcases List.mem_cons.mp hn with rfl | hn
                · omega
                · exact hfits n hn
              · intro p hp hne
                cases p with
                | nil => rw [List.append_nil]; exact hhere
                | cons n p =>
                    obtain ⟨rfl, hrest⟩ := List.cons_prefix_cons.mp hp
                    have hdir := hdirs p hrest (by simpa using hne)
                    rwa [List.append_assoc] at hdir
      · cases h

/-- On a free way a walk fails for a directory that is missing or for a name that is too long. -/
theorem reach_error {v : Volume} {here : Location} {names : List String} {t : Trouble}
    (hclear : ∀ p, p <+: names → p ≠ names →
      v.find? (here ++ p) = none ∨ v.find? (here ++ p) = some .directory)
    (h : v.reach here names = .error t) :
    (t = .missing ∧ ∃ p, p <+: names ∧ p ≠ names ∧ v.find? (here ++ p) = none) ∨
      t = .tooLong ∧ ∃ name ∈ names, maxNameBytes < name.utf8ByteSize := by
  induction names generalizing here with
  | nil => cases h
  | cons name rest ih =>
      have hhere := hclear [] List.nil_prefix (by simp)
      rw [List.append_nil] at hhere
      rw [reach] at h
      rcases hhere with hhere | hhere
      · rw [hhere] at h
        exact Or.inl ⟨(Except.error.inj h).symm, [], List.nil_prefix, by simp,
          by rw [List.append_nil]; exact hhere⟩
      · simp only [hhere] at h
        split at h
        · next hname =>
            exact Or.inr ⟨(Except.error.inj h).symm, name, List.mem_cons_self, hname⟩
        · have hrest := @ih (here ++ [name]) (fun p hp hne => by
            rw [List.append_assoc]
            exact hclear ([name] ++ p) (List.cons_prefix_cons.mpr ⟨rfl, hp⟩) (by simpa using hne)) h
          rcases hrest with ⟨hmissing, p, hp, hne, hnone⟩ | ⟨hlong, n, hn, hsize⟩
          · rw [List.append_assoc] at hnone
            exact Or.inl ⟨hmissing, [name] ++ p, List.cons_prefix_cons.mpr ⟨rfl, hp⟩,
              by simpa using hne, hnone⟩
          · exact Or.inr ⟨hlong, n, List.mem_cons_of_mem name hn, hsize⟩

/-! ## §4. Places. -/

/-- Where a walk to a location arrives that meets no link. -/
def place (v : Volume) (loc : Location) : Except Trouble Location :=
  if isTooLong loc then .error .tooLong else v.reach [] loc

/-- **Where no link stands, a walk arrives at the place whatever its ending.** -/
theorem locate_eq_place {v : Volume} (ending : Ending) {loc : Location}
    (hproper : ∀ name ∈ loc, IsProper name) (hlinks : Unlinked v loc) :
    v.locate ending loc = v.place loc := by
  unfold locate place
  rw [walk_eq_reach ending maxLinks hproper (fun p hp t => by
    rw [List.nil_append]
    exact hlinks p hp t)]

theorem place_ok {v : Volume} {loc l : Location} (h : v.place loc = .ok l) :
    l = loc ∧ Fits loc ∧ ∀ p, p <+: loc → p ≠ loc → v.find? p = some .directory := by
  unfold place at h
  split at h
  · cases h
  · next hlong =>
      obtain ⟨hl, hnames, hdirs⟩ := reach_ok h
      exact ⟨hl, ⟨by simpa using hlong, hnames⟩, hdirs⟩

theorem place_of_fits {v : Volume} {loc : Location} (hfits : Fits loc)
    (hdirs : ∀ p, p <+: loc → p ≠ loc → v.find? p = some .directory) :
    v.place loc = .ok loc := by
  unfold place
  rw [hfits.path]
  exact reach_of_stands hfits.names hdirs

/-- On a free way a place is missed for a directory that is missing or because it does not fit. -/
theorem place_error {v : Volume} {loc : Location} {t : Trouble}
    (hclear : ∀ p, p <+: loc → p ≠ loc → v.find? p = none ∨ v.find? p = some .directory)
    (h : v.place loc = .error t) :
    (t = .missing ∧ ∃ p, p <+: loc ∧ p ≠ loc ∧ v.find? p = none) ∨ t = .tooLong ∧ ¬ Fits loc := by
  unfold place at h
  split at h
  · next hlong =>
      refine Or.inr ⟨(Except.error.inj h).symm, fun hfits => ?_⟩
      rw [hfits.path] at hlong
      cases hlong
  · rcases reach_error hclear h with hmissing | ⟨hlong, name, hname, hsize⟩
    · exact Or.inl hmissing
    · refine Or.inr ⟨hlong, fun hfits => ?_⟩
      have := hfits.names name hname
      omega

/-- A location below directories that does not fit is too long. -/
theorem place_of_not_fits {v : Volume} {loc : Location} (hfits : ¬ Fits loc)
    (hdirs : ∀ p, p <+: loc → p ≠ loc → v.find? p = some .directory) :
    v.place loc = .error .tooLong := by
  -- A place that is found fits, and for a place that is missed no directory is missing.
  cases h : v.place loc with
  | ok l => exact absurd (place_ok h).2.1 hfits
  | error t =>
      rcases place_error (fun p hp hne => Or.inr (hdirs p hp hne)) h with
        ⟨-, p, hp, hne, hnone⟩ | ⟨rfl, -⟩
      · rw [hdirs p hp hne] at hnone
        cases hnone
      · rfl

/-- Above a place in a directory stand this directory and those above it. -/
theorem Stands.above {v : Volume} {dir : Location} (h : Stands v dir) (name : String) :
    ∀ p, p <+: dir ++ [name] → p ≠ dir ++ [name] → v.find? p = some .directory := by
  intro p hp hne
  rcases List.prefix_concat_iff.mp hp with heq | hdir
  · exact absurd heq hne
  · exact h p hdir

/-! ## §5. Accesses at places. -/

section Accesses

variable {v : Volume} {loc : Location} (hproper : ∀ name ∈ loc, IsProper name)
  (hlinks : Unlinked v loc)

include hproper hlinks

theorem status_eq : v.status loc = match v.place loc with
    | .error t => .error t
    | .ok l => match v.find? l with
      | some e => .ok e
      | none => .error .missing := by
  unfold status
  rw [locate_eq_place .follow hproper hlinks]
  cases v.place loc with
  | error t => rfl
  | ok l => rfl

theorem create_eq (e : Entry) : v.create loc e = match v.place loc with
    | .error t => .error t
    | .ok l => match v.find? l with
      | some _ => .error .taken
      | none => .ok (v.put l e) := by
  unfold create
  rw [locate_eq_place .stay hproper hlinks]
  cases v.place loc with
  | error t => rfl
  | ok l => rfl

theorem write_eq (bytes : List UInt8) : v.write loc bytes = match v.place loc with
    | .error t => .error t
    | .ok l => match v.find? l with
      | some .directory => .error .isDirectory
      | _ => .ok (v.put l (.file bytes)) := by
  unfold write
  rw [locate_eq_place .put hproper hlinks]
  cases v.place loc with
  | error t => rfl
  | ok l => rfl

end Accesses

end Volume

end Golden

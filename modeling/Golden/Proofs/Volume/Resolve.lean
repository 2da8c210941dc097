/-
  Golden.Proofs.Volume.Resolve
  ────────────────────────────────
  **RESOLVING WHERE NO LINK STANDS.**

  On a way without links a path is resolved name by name as it is written, a
  `..` going back one name, and nothing need stand anywhere on the way.  Only
  a null character is refused:

      resolve v home p  =  ok (root, destination home p)   ↔   p holds no null

  A path that is already resolved stays as it is.
-/
import Golden.Proofs.Volume.Walk

namespace Golden

/-! ## §1. Following names. -/

namespace Location

theorem follow_cons (loc : Location) (name : String) (rest : List String) :
    follow loc (name :: rest) = follow (step loc name) rest := rfl

theorem step_of_isProper {name : String} (h : IsProper name) (loc : Location) :
    step loc name = loc ++ [name] := by
  unfold step
  rw [h.down, if_neg (by simp), if_neg h.dots]

theorem follow_of_isProper {names : List String} (h : ∀ name ∈ names, IsProper name)
    (loc : Location) : follow loc names = loc ++ names := by
  induction names generalizing loc with
  | nil => rw [List.append_nil]; rfl
  | cons name rest ih =>
      rw [follow_cons, step_of_isProper (h name List.mem_cons_self),
        ih (fun n hn => h n (List.mem_cons_of_mem name hn)), List.append_assoc]
      rfl

/-- From a proper location names lead to a proper one. -/
theorem isProper_follow {loc : Location} {names : List String} (hloc : ∀ n ∈ loc, IsProper n)
    (hnull : ∀ n ∈ names, Volume.holdsNull n = false) : ∀ n ∈ follow loc names, IsProper n := by
  induction names generalizing loc with
  | nil => exact hloc
  | cons name rest ih =>
      rw [follow_cons]
      refine ih ?_ (fun n hn => hnull n (List.mem_cons_of_mem name hn))
      intro n hn
      unfold step at hn
      split at hn
      · exact hloc n hn
      · next hidle =>
          split at hn
          · exact hloc n (List.dropLast_subset loc hn)
          · next hdots =>
              rcases List.mem_append.mp hn with hn | hn
              · exact hloc n hn
              · rw [List.mem_singleton.mp hn]
                exact ⟨by simpa using hidle, hdots, hnull name List.mem_cons_self⟩

end Location

namespace Path

/-- Where the names of a path start. -/
def start (home : Location) (p : Path) : Volume.Place :=
  if p.anchor = .here then ⟨.here, home⟩ else ⟨.root, []⟩

/-- The location that a path names, where no link stands. -/
def destination (home : Location) (p : Path) : Location :=
  Location.follow (p.start home).location p.names

theorem start_location (home : Location) (p : Path) :
    (p.start home).location = home ∨ (p.start home).location = [] := by
  unfold start
  split
  · exact Or.inl rfl
  · exact Or.inr rfl

theorem start_anchor (home : Location) (p : Path) : (p.start home).anchor ≠ .doubleRoot := by
  unfold start
  split <;> simp

theorem start_root (home : Location) (names : List String) :
    start home ⟨.root, names⟩ = ⟨.root, []⟩ := rfl

end Path

namespace Volume

/-! ## §2. Resolving names. -/

/-- Whether names lead past no link. -/
def FreeWay (v : Volume) (here : Location) (names : List String) : Prop :=
  ∀ q, q <+: names → ∀ t, v.find? (Location.follow here q) ≠ some (.link t)

theorem target?_eq_none {v : Volume} {loc : Location} (h : ∀ t, v.find? loc ≠ some (.link t)) :
    v.target? loc = none := by
  unfold target?
  split
  · rfl
  · split
    · next t ht => exact absurd ht (h t)
    · rfl

theorem FreeWay.notLink {v : Volume} {here : Location} {name : String} {rest : List String}
    (h : FreeWay v here (name :: rest)) (t : String) :
    v.find? (Location.step here name) ≠ some (.link t) :=
  h [name] (List.cons_prefix_cons.mpr ⟨rfl, List.nil_prefix⟩) t

theorem FreeWay.rest {v : Volume} {here : Location} {name : String} {rest : List String}
    (h : FreeWay v here (name :: rest)) : FreeWay v (Location.step here name) rest :=
  fun q hq => h (name :: q) (List.cons_prefix_cons.mpr ⟨rfl, hq⟩)

/-- Where a name leads to no link it is refused or followed as it is written. -/
theorem resolveFrom_cons {v : Volume} (fuel : Nat) (pending : List Place) {here : Place}
    {name : String} (rest : List String)
    (hlink : ∀ t, v.find? (Location.step here.location name) ≠ some (.link t)) :
    v.resolveFrom fuel pending here (name :: rest) =
      if holdsNull name then ⟨here, .refused⟩
      else v.resolveFrom fuel pending ⟨here.anchor, Location.step here.location name⟩ rest := by
  rw [resolveFrom]
  unfold Location.step at hlink ⊢
  by_cases hidle : isIdle name = true
  · -- A name that leads nowhere is empty or one dot, so it holds no null character.
    have hname : holdsNull name = false := by
      rcases Bool.or_eq_true_iff.mp hidle with h | h
      · rw [eq_of_beq h]
        rfl
      · rw [eq_of_beq h]
        rfl
    simp only [hidle, hname, if_true, Bool.false_eq_true, if_false]
  · by_cases hdots : name = ".."
    · subst hdots
      rfl
    · rw [if_neg hidle, if_neg hdots] at hlink
      have htarget : v.target? (here.child name).location = none := target?_eq_none hlink
      simp only [hidle, hdots, htarget, Bool.false_eq_true, if_false]
      rfl

theorem resolveFrom_of_freeWay {v : Volume} (fuel : Nat) (pending : List Place) {here : Place}
    {names : List String} (hnull : ∀ n ∈ names, holdsNull n = false)
    (hway : FreeWay v here.location names) :
    v.resolveFrom fuel pending here names =
      ⟨⟨here.anchor, Location.follow here.location names⟩, .settled⟩ := by
  induction names generalizing here with
  | nil => rw [resolveFrom]; rfl
  | cons name rest ih =>
      have hname := hnull name List.mem_cons_self
      rw [resolveFrom_cons fuel pending rest hway.notLink, if_neg (by rw [hname]; simp),
        Location.follow_cons]
      exact ih (fun n hn => hnull n (List.mem_cons_of_mem name hn)) hway.rest

/-- A name that holds a null character ends the resolving. -/
theorem resolveFrom_refused {v : Volume} (fuel : Nat) (pending : List Place) {here : Place}
    {names : List String} (hnull : names.any holdsNull = true)
    (hway : FreeWay v here.location names) :
    (v.resolveFrom fuel pending here names).settlement = .refused := by
  induction names generalizing here with
  | nil => cases hnull
  | cons name rest ih =>
      rw [resolveFrom_cons fuel pending rest hway.notLink]
      by_cases hname : holdsNull name = true
      · rw [if_pos hname]
      · rw [if_neg hname]
        refine ih ?_ hway.rest
        rwa [List.any_cons, Bool.eq_false_iff.mpr hname, Bool.false_or] at hnull

/-! ## §3. Resolving paths. -/

/-- Whether a path leads past no link, and to where there is none. -/
structure LinkFree (v : Volume) (home : Location) (p : Path) : Prop where
  way : FreeWay v (p.start home).location p.names
  above : Unlinked v (p.destination home)

theorem reach_ne_linkLoop (v : Volume) (here : Location) (names : List String) :
    v.reach here names ≠ .error .linkLoop := by
  induction names generalizing here with
  | nil =>
      intro h
      cases h
  | cons name rest ih =>
      rw [reach]
      split
      · intro h
        cases h
      · split
        · intro h
          cases h
        · exact ih _
      · intro h
        cases h

theorem status_ne_linkLoop {v : Volume} {loc : Location} (hproper : ∀ name ∈ loc, IsProper name)
    (hlinks : Unlinked v loc) : v.status loc ≠ .error .linkLoop := by
  have hplace : v.place loc ≠ .error .linkLoop := by
    unfold place
    split
    · intro h
      cases h
    · exact reach_ne_linkLoop v [] loc
  rw [status_eq hproper hlinks]
  cases h : v.place loc with
  | error t =>
      rintro heq
      exact hplace (by rw [h, Except.error.inj heq])
  | ok l =>
      simp only
      split
      · intro h
        cases h
      · intro h
        cases h

theorem resolve_start (v : Volume) (home : Location) (p : Path) :
    v.resolve home p =
      let r := v.resolveFrom v.maxPending [] (p.start home) p.names
      let path := r.place.toPath
      if r.settlement = .refused || path.names.any holdsNull then .error .nullCharacter
      else
        match v.status path.names with
        | .error .linkLoop => .error (.linkLoop path)
        | _ => .ok path := rfl

theorem resolve_of_settled {v : Volume} {home loc : Location} {p : Path}
    (hsettled : v.resolveFrom v.maxPending [] (p.start home) p.names =
      ⟨⟨(p.start home).anchor, loc⟩, .settled⟩)
    (hproper : ∀ n ∈ loc, IsProper n) (hlinks : Unlinked v loc) :
    v.resolve home p = .ok ⟨.root, loc⟩ := by
  have hnull : loc.any holdsNull = false := by
    rw [List.any_eq_false]
    intro n hn
    rw [(hproper n hn).null]
    simp
  have hloop := status_ne_linkLoop hproper hlinks
  rw [resolve_start]
  -- By `hloop` the last look at the path cannot fail for a circle.
  simp only [hsettled, Place.toPath, if_neg (p.start_anchor home), hnull]
  rw [if_neg (by decide)]

/-- **A path that leads past no link is resolved as it is written, unless it holds a null
character.** -/
theorem resolve_eq {v : Volume} {home : Location} {p : Path} (hhome : ∀ n ∈ home, IsProper n)
    (hfree : LinkFree v home p) :
    v.resolve home p =
      if p.names.any holdsNull then .error .nullCharacter
      else .ok ⟨.root, p.destination home⟩ := by
  by_cases hnull : p.names.any holdsNull = true
  · have hrefused := resolveFrom_refused v.maxPending [] hnull hfree.way
    rw [resolve_start]
    simp only [hrefused, hnull, decide_true, Bool.true_or, if_true]
  · have hnames : ∀ n ∈ p.names, holdsNull n = false := by simpa using hnull
    have hstart : ∀ n ∈ (p.start home).location, IsProper n := by
      rcases p.start_location home with h | h
      · rw [h]
        exact hhome
      · rw [h]
        intro n hn
        cases hn
    rw [if_neg hnull]
    exact resolve_of_settled (resolveFrom_of_freeWay v.maxPending [] hnames hfree.way)
      (Location.isProper_follow hstart hnames) hfree.above

/-- **A resolved path stays as it is.** -/
theorem resolve_root {v : Volume} (home : Location) {names : List String}
    (hproper : ∀ n ∈ names, IsProper n) (hlinks : Unlinked v names) :
    v.resolve home ⟨.root, names⟩ = .ok ⟨.root, names⟩ := by
  -- Proper names are followed by adding them, so the way is the location itself.
  have hway : FreeWay v [] names := by
    intro q hq
    rw [Location.follow_of_isProper (fun n hn => hproper n (hq.subset hn)), List.nil_append]
    exact hlinks q hq
  have hsettled : v.resolveFrom v.maxPending [] (Path.start home ⟨.root, names⟩) names =
      ⟨⟨.root, names⟩, .settled⟩ := by
    rw [Path.start_root, resolveFrom_of_freeWay v.maxPending [] (fun n hn => (hproper n hn).null)
      hway, Location.follow_of_isProper hproper, List.nil_append]
  exact resolve_of_settled hsettled hproper hlinks

end Volume

end Golden

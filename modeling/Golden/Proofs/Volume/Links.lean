/-
  Golden.Proofs.Volume.Links
  ────────────────────────────────
  **RESOLVING LINKS.**

  The fuel of resolving bounds the links that are being resolved at one time,
  and as none of these comes twice there is always enough: where resolving
  stops it has met a circle.  What it comes to depends on the links alone, so a
  volume that grows resolves as before, up to a circle that it may now see:

      Grows v w   →   resolve w p  =  resolve v p,  or a circle

  A path whose links have all been resolved has none left in it.  One that ran
  into a circle is given as it is written from there on, `..` taken back name by
  name, so links may be left in it.
-/
import Golden.Proofs.Volume.Directories
import Golden.Proofs.Volume.Growth
import Golden.Proofs.Volume.Resolve
import Mathlib.Data.List.Nodup
import Mathlib.Data.List.Perm.Subperm

namespace Golden

namespace Volume

/-! ## §1. Enough fuel. -/

/-- The places at which a link can be in the course of being resolved. -/
def linkPlaces (v : Volume) : List Place :=
  v.entries.map (fun x => ⟨.here, x.1⟩) ++ v.entries.map (fun x => ⟨.root, x.1⟩)

theorem length_linkPlaces (v : Volume) : v.linkPlaces.length = v.maxPending := by
  simp only [linkPlaces, maxPending, List.length_append, List.length_map]
  omega

theorem target?_eq_some_iff {v : Volume} {loc : Location} {t : String} :
    v.target? loc = some t ↔ isTooLong loc = false ∧ v.find? loc = some (.link t) := by
  unfold target?
  cases isTooLong loc with
  | true => simp
  | false =>
      cases v.find? loc with
      | none => simp
      | some e => cases e <;> simp

/-- What is found at a location is one of the entries, save the root. -/
theorem mem_entries_of_find? {v : Volume} {loc : Location} {e : Entry} (hne : loc ≠ [])
    (h : v.find? loc = some e) : loc ∈ v.entries.map (·.1) := by
  unfold find? at h
  rw [if_neg hne] at h
  obtain ⟨l₁, l₂, heq, -⟩ := List.lookup_eq_some_iff.mp h
  rw [heq]
  simp

theorem mem_linkPlaces {v : Volume} {p : Place} (hanchor : p.anchor ≠ .doubleRoot) {target : String}
    (h : v.target? p.location = some target) : p ∈ v.linkPlaces := by
  obtain ⟨anchor, loc⟩ := p
  obtain ⟨-, hfind⟩ := target?_eq_some_iff.mp h
  have hne : loc ≠ [] := by
    rintro rfl
    cases hfind
  have hentry := mem_entries_of_find? hne hfind
  obtain ⟨x, hx, rfl⟩ := List.mem_map.mp hentry
  cases anchor with
  | here => exact List.mem_append_left _ (List.mem_map.mpr ⟨x, hx, rfl⟩)
  | root => exact List.mem_append_right _ (List.mem_map.mpr ⟨x, hx, rfl⟩)
  | doubleRoot => exact absurd rfl hanchor

/-- Whether there is fuel for every link that can still be met. -/
structure Fuelled (v : Volume) (fuel : Nat) (pending : List Place) : Prop where
  nodup : pending.Nodup
  links : ∀ p ∈ pending, p ∈ v.linkPlaces
  enough : v.maxPending ≤ fuel + pending.length

theorem fuelled_nil (v : Volume) : Fuelled v v.maxPending [] :=
  ⟨List.nodup_nil, fun _ h => (by cases h), Nat.le_refl _⟩

/-- A link that is not pending leaves fuel to resolve it. -/
theorem Fuelled.cons {v : Volume} {fuel : Nat} {pending : List Place} (h : Fuelled v fuel pending)
    {next : Place} (hnew : next ∉ pending) (hlink : next ∈ v.linkPlaces) :
    ∃ left, fuel = left + 1 ∧ Fuelled v left (next :: pending) := by
  have hnodup : (next :: pending).Nodup := List.nodup_cons.mpr ⟨hnew, h.nodup⟩
  have hlinks : ∀ p ∈ next :: pending, p ∈ v.linkPlaces := List.forall_mem_cons.mpr ⟨hlink, h.links⟩
  have hlength := (List.subperm_of_subset hnodup hlinks).length_le
  have henough := h.enough
  rw [length_linkPlaces, List.length_cons] at hlength
  refine ⟨fuel - 1, by omega, hnodup, hlinks, ?_⟩
  rw [List.length_cons]
  omega

theorem Fuelled.below {v : Volume} {left : Nat} {pending : List Place}
    (h : Fuelled v (left + 1) pending) {next : Place} (hnew : next ∉ pending)
    (hlink : next ∈ v.linkPlaces) : Fuelled v left (next :: pending) := by
  obtain ⟨left', hleft, hbelow⟩ := h.cons hnew hlink
  obtain rfl := Nat.succ.inj hleft
  exact hbelow

/-! ## §2. What resolving keeps. -/

/-- What holds of the places that resolving passes holds of where it ends, and what holds of the
places at which it stops in a circle holds of those. -/
theorem resolveFrom_invariant {v : Volume} {P Q : Place → Prop}
    (hparent : ∀ p, P p → P p.parent)
    (hchild : ∀ p name, P p → IsProper name → v.target? (p.child name).location = none →
      P (p.child name))
    (hlink : ∀ p target, P p → P (p.linkStart target))
    (hstop : ∀ p name rest, P p → IsProper name → Q ((p.child name).join rest))
    (hjoin : ∀ p rest, Q p → Q (p.join rest)) (fuel : Nat) (pending : List Place) {here : Place}
    (names : List String) (hhere : P here) :
    ((v.resolveFrom fuel pending here names).settlement = .settled →
        P (v.resolveFrom fuel pending here names).place) ∧
      ((v.resolveFrom fuel pending here names).settlement = .circular →
        Q (v.resolveFrom fuel pending here names).place) := by
  fun_induction resolveFrom v fuel pending here names with
  | case1 fuel pending here => exact ⟨fun _ => hhere, fun h => (by cases h)⟩
  | case2 fuel pending here name rest hidle ih => exact ih hhere
  | case3 fuel pending here rest hidle ih => exact ih (hparent here hhere)
  | case4 fuel pending here name rest hidle hdots hnull =>
      exact ⟨fun h => (by cases h), fun h => (by cases h)⟩
  | case5 fuel pending here name rest hidle hdots hnull next target htarget hpending =>
      have hname : IsProper name := ⟨by simpa using hidle, hdots, by simpa using hnull⟩
      exact ⟨fun h => (by cases h), fun _ => hstop here name rest hhere hname⟩
  | case6 pending here name rest hidle hdots hnull next target htarget hpending =>
      have hname : IsProper name := ⟨by simpa using hidle, hdots, by simpa using hnull⟩
      exact ⟨fun h => (by cases h), fun _ => hstop here name rest hhere hname⟩
  | case7 pending here name rest hidle hdots hnull next target htarget hpending left inner hinner
      ihinner _ ihrest =>
      exact ihrest ((ihinner (hlink here target hhere)).1 hinner)
  | case8 pending here name rest hidle hdots hnull next target htarget hpending left inner hinner
      ihinner =>
      exact ⟨fun h => (by cases h),
        fun _ => hjoin inner.place rest ((ihinner (hlink here target hhere)).2 hinner)⟩
  | case9 pending here name rest hidle hdots hnull next target htarget hpending left inner hinner
      ihinner => exact ihinner (hlink here target hhere)
  | case10 fuel pending here name rest hidle hdots hnull next htarget ih =>
      have hname : IsProper name := ⟨by simpa using hidle, hdots, by simpa using hnull⟩
      exact ih (hchild here name hhere hname htarget)

theorem anchor_linkStart {here : Place} (h : here.anchor ≠ .doubleRoot) (target : String) :
    (here.linkStart target).anchor ≠ .doubleRoot := by
  unfold Place.linkStart
  split
  · simp
  · exact h

theorem resolveFrom_anchor {v : Volume} (fuel : Nat) (pending : List Place) {here : Place}
    (names : List String) (hhere : here.anchor ≠ .doubleRoot)
    (h : (v.resolveFrom fuel pending here names).settlement = .settled) :
    (v.resolveFrom fuel pending here names).place.anchor ≠ .doubleRoot := by
  exact (resolveFrom_invariant (P := fun p => p.anchor ≠ .doubleRoot) (Q := fun _ => True)
    (fun _ h => h) (fun _ _ h _ _ => h) (fun _ target h => anchor_linkStart h target)
    (fun _ _ _ _ _ => trivial) (fun _ _ _ => trivial) fuel pending names hhere).1 h

/-! ## §3. Links that stay. -/

section Steps

variable (v : Volume) (pending : List Place) {here : Place} {name : String} (rest : List String)
  (hname : IsProper name)

include hname

/-- A name that leads to no link is added. -/
theorem resolveFrom_free (fuel : Nat) (h : v.target? (here.child name).location = none) :
    v.resolveFrom fuel pending here (name :: rest) =
      v.resolveFrom fuel pending (here.child name) rest := by
  rw [resolveFrom, hname.down, if_neg (by simp), if_neg hname.dots, hname.null,
    if_neg (by simp)]
  simp only [h]

variable {target : String} (h : v.target? (here.child name).location = some target)

include h

/-- A link that is being resolved stops the resolving. -/
theorem resolveFrom_pending (fuel : Nat) (hpending : here.child name ∈ pending) :
    v.resolveFrom fuel pending here (name :: rest) =
      ⟨(here.child name).join rest, .circular⟩ := by
  rw [resolveFrom, hname.down, if_neg (by simp), if_neg hname.dots, hname.null,
    if_neg (by simp)]
  simp only [h, List.contains_iff_mem.mpr hpending, if_true]

/-- What a link leads to is resolved first, then the names after it. -/
theorem resolveFrom_link {fuel : Nat} (hfuel : Fuelled v fuel pending)
    (hanchor : here.anchor ≠ .doubleRoot) (hnew : here.child name ∉ pending) {inner : Resolution}
    (hinner : ∀ left, Fuelled v left (here.child name :: pending) →
      v.resolveFrom left (here.child name :: pending) (here.linkStart target) (components target) =
        inner) :
    v.resolveFrom fuel pending here (name :: rest) =
      match inner.settlement with
      | .settled => v.resolveFrom fuel pending inner.place rest
      | .circular => ⟨inner.place.join rest, .circular⟩
      | .refused => inner := by
  have hnew' : ¬ pending.contains (here.child name) = true := by simpa using hnew
  obtain ⟨left, rfl, hleft⟩ := hfuel.cons hnew (mem_linkPlaces hanchor h)
  rw [resolveFrom, hname.down, if_neg (by simp), if_neg hname.dots, hname.null,
    if_neg (by simp)]
  obtain ⟨place, settlement⟩ := inner
  cases settlement <;> simp only [h, if_neg hnew', hinner left hleft]

end Steps

/-- **What resolving comes to depends on the links alone, whatever fuel there is beyond enough.** -/
theorem resolveFrom_congr {v w : Volume} (htarget : ∀ loc, w.target? loc = v.target? loc)
    {fuel fuel' : Nat} {pending : List Place} {here : Place} {names : List String}
    (hv : Fuelled v fuel pending) (hw : Fuelled w fuel' pending)
    (hanchor : here.anchor ≠ .doubleRoot) :
    w.resolveFrom fuel' pending here names = v.resolveFrom fuel pending here names := by
  revert fuel'
  fun_induction resolveFrom v fuel pending here names with
  | case1 fuel pending here =>
      intro fuel' hw
      rw [resolveFrom]
  | case2 fuel pending here name rest hidle ih =>
      intro fuel' hw
      rw [resolveFrom, if_pos hidle]
      exact ih hv hanchor hw
  | case3 fuel pending here rest hidle ih =>
      intro fuel' hw
      rw [resolveFrom, if_neg hidle, if_pos rfl]
      exact ih hv hanchor hw
  | case4 fuel pending here name rest hidle hdots hnull =>
      intro fuel' hw
      rw [resolveFrom, if_neg hidle, if_neg hdots, if_pos hnull]
  | case5 fuel pending here name rest hidle hdots hnull next target hnext hpending =>
      intro fuel' hw
      have hname : IsProper name := ⟨by simpa using hidle, hdots, by simpa using hnull⟩
      exact resolveFrom_pending w pending rest hname ((htarget _).trans hnext) fuel'
        (List.contains_iff_mem.mp hpending)
  -- There is fuel for every link, so resolving does not stop for want of it.
  | case6 pending here name rest hidle hdots hnull next target hnext hpending =>
      have hnew : next ∉ pending := by simpa using hpending
      obtain ⟨left, hleft, -⟩ := hv.cons hnew (mem_linkPlaces hanchor hnext)
      cases hleft
  | case7 pending here name rest hidle hdots hnull next target hnext hpending left inner hinner
      ihinner _ ihrest =>
      intro fuel' hw
      have hname : IsProper name := ⟨by simpa using hidle, hdots, by simpa using hnull⟩
      have hnew : next ∉ pending := by simpa using hpending
      have hv' := hv.below hnew (mem_linkPlaces hanchor hnext)
      have hstart := anchor_linkStart hanchor target
      rw [resolveFrom_link w pending rest hname ((htarget _).trans hnext) hw hanchor hnew
        (fun _ => ihinner hv' hstart), hinner]
      exact ihrest hv (resolveFrom_anchor left _ _ hstart hinner) hw
  | case8 pending here name rest hidle hdots hnull next target hnext hpending left inner hinner
      ihinner =>
      intro fuel' hw
      have hname : IsProper name := ⟨by simpa using hidle, hdots, by simpa using hnull⟩
      have hnew : next ∉ pending := by simpa using hpending
      have hv' := hv.below hnew (mem_linkPlaces hanchor hnext)
      have hstart := anchor_linkStart hanchor target
      rw [resolveFrom_link w pending rest hname ((htarget _).trans hnext) hw hanchor hnew
        (fun _ => ihinner hv' hstart), hinner]
  | case9 pending here name rest hidle hdots hnull next target hnext hpending left inner hinner
      ihinner =>
      intro fuel' hw
      have hname : IsProper name := ⟨by simpa using hidle, hdots, by simpa using hnull⟩
      have hnew : next ∉ pending := by simpa using hpending
      have hv' := hv.below hnew (mem_linkPlaces hanchor hnext)
      have hstart := anchor_linkStart hanchor target
      rw [resolveFrom_link w pending rest hname ((htarget _).trans hnext) hw hanchor hnew
        (fun _ => ihinner hv' hstart), hinner]
  | case10 fuel pending here name rest hidle hdots hnull next hnext ih =>
      intro fuel' hw
      have hname : IsProper name := ⟨by simpa using hidle, hdots, by simpa using hnull⟩
      rw [resolveFrom_free w pending rest hname fuel' ((htarget _).trans hnext)]
      exact ih hv hanchor hw

theorem Grows.target?_eq {v w : Volume} (h : Grows v w) (loc : Location) :
    w.target? loc = v.target? loc := by
  refine Option.ext (fun t => ?_)
  rw [target?_eq_some_iff, target?_eq_some_iff, h.link]

/-! ## §4. Resolved paths. -/

/-- How far the links of a path are resolved. -/
def resolution (v : Volume) (home : Location) (p : Path) : Resolution :=
  v.resolveFrom v.maxPending [] (p.start home) p.names

theorem resolve_eq_ok_iff {v : Volume} {home : Location} {p q : Path} :
    v.resolve home p = .ok q ↔
      (v.resolution home p).settlement ≠ .refused ∧ (v.resolution home p).place.toPath = q ∧
        (∀ n ∈ q.names, holdsNull n = false) ∧ v.status q.names ≠ .error .linkLoop := by
  rw [resolve_start]
  change (if (v.resolution home p).settlement = .refused ||
      (v.resolution home p).place.toPath.names.any holdsNull then _ else _) = _ ↔ _
  by_cases hrefused : (v.resolution home p).settlement = .refused
  · simp [hrefused]
  · by_cases hnull : (v.resolution home p).place.toPath.names.any holdsNull = true
    · rw [if_pos (by simp [hnull])]
      refine ⟨fun h => (by cases h), ?_⟩
      rintro ⟨-, rfl, hnames, -⟩
      obtain ⟨n, hn, hheld⟩ := List.any_eq_true.mp hnull
      rw [hnames n hn] at hheld
      cases hheld
    · rw [if_neg (by simp [hrefused, hnull])]
      have hnames : ∀ n ∈ (v.resolution home p).place.toPath.names, holdsNull n = false := by
        simpa using hnull
      split
      · next hloop =>
          refine ⟨fun h => (by cases h), ?_⟩
          rintro ⟨-, rfl, -, hstatus⟩
          exact absurd hloop hstatus
      · next hloop =>
          constructor
          · intro h
            obtain rfl := Except.ok.inj h
            exact ⟨hrefused, rfl, hnames, hloop⟩
          · rintro ⟨-, rfl, -, -⟩
            rfl

/-- A volume that grows resolves the links of a path as before. -/
theorem Grows.resolution_eq {v w : Volume} (h : Grows v w) (home : Location) (p : Path) :
    w.resolution home p = v.resolution home p :=
  resolveFrom_congr h.target?_eq (fuelled_nil v) (fuelled_nil w) (p.start_anchor home)

/-- **A path that is resolved in a volume that has grown was resolved so before.** -/
theorem Grows.resolve_before {v w : Volume} (h : Grows v w) {home : Location} {p q : Path}
    (hq : w.resolve home p = .ok q) : v.resolve home p = .ok q := by
  obtain ⟨hsettled, hplace, hnull, hloop⟩ := resolve_eq_ok_iff.mp hq
  rw [h.resolution_eq] at hsettled hplace
  exact resolve_eq_ok_iff.mpr ⟨hsettled, hplace, hnull, fun hbefore => hloop (h.status_loop hbefore)⟩

/-- **A path that is resolved stays so in a volume that grows, unless it is now seen to lead in a
circle.** -/
theorem Grows.resolve_after {v w : Volume} (h : Grows v w) {home : Location} {p q : Path}
    (hq : v.resolve home p = .ok q) (hloop : w.status q.names ≠ .error .linkLoop) :
    w.resolve home p = .ok q := by
  obtain ⟨hsettled, hplace, hnull, -⟩ := resolve_eq_ok_iff.mp hq
  rw [← h.resolution_eq] at hsettled hplace
  exact resolve_eq_ok_iff.mpr ⟨hsettled, hplace, hnull, hloop⟩

/-- What leads in a circle does so with more names after it. -/
theorem status_ne_loop_of_prefix {v : Volume} {p loc : Location} {e : Entry} (hp : p <+: loc)
    (h : v.status loc = .ok e) : v.status p ≠ .error .linkLoop := by
  obtain ⟨more, rfl⟩ := hp
  obtain ⟨l, hl, -⟩ := status_eq_ok_iff.mp h
  obtain ⟨-, hwalk⟩ := locate_eq_ok_iff.mp hl
  intro hloop
  obtain ⟨-, hcircle⟩ := locate_loop_iff.mp (status_loop_iff.mp hloop)
  rw [walk_append_of_loop hcircle more] at hwalk
  cases hwalk

/-! ## §5. No link left. -/

/-- Whether no link that can be read stands at a location or above it. -/
def Bare (v : Volume) (loc : Location) : Prop := ∀ p, p <+: loc → v.target? p = none

theorem Bare.of_prefix {v : Volume} {p loc : Location} (h : Bare v loc) (hp : p <+: loc) :
    Bare v p := fun q hq => h q (hq.trans hp)

theorem Unlinked.bare {v : Volume} {loc : Location} (h : Unlinked v loc) : Bare v loc :=
  fun p hp => target?_eq_none (h p hp)

theorem isTooLong_above {p loc : Location} (hp : p <+: loc) (h : isTooLong loc = false) :
    isTooLong p = false := by
  obtain ⟨more, rfl⟩ := hp
  induction more using List.reverseRecOn with
  | nil => rwa [List.append_nil] at h
  | append_singleton more name ih =>
      refine ih ?_
      rw [← List.append_assoc] at h
      have hle := Location.utf8ByteSize_text_le (p ++ more) name
      unfold isTooLong at h ⊢
      rw [decide_eq_false_iff_not] at h ⊢
      omega

/-- Every link in a location that is short enough for an access can be read. -/
theorem Bare.unlinked {v : Volume} {loc : Location} (h : Bare v loc) (hshort : isTooLong loc = false) :
    Unlinked v loc := by
  intro p hp t ht
  have hnone := h p hp
  rw [target?_eq_some_iff.mpr ⟨isTooLong_above hp hshort, ht⟩] at hnone
  cases hnone

/-- Whether a location has names alone that lead down, and no link that can be read. -/
structure Plain (v : Volume) (loc : Location) : Prop where
  proper : ∀ n ∈ loc, IsProper n
  bare : Bare v loc

theorem plain_nil (v : Volume) : Plain v [] := by
  refine ⟨fun n hn => (by cases hn), fun p hp => ?_⟩
  rw [List.prefix_nil.mp hp]
  exact target?_eq_none (fun t ht => by cases ht)

theorem Plain.of_prefix {v : Volume} {p loc : Location} (h : Plain v loc) (hp : p <+: loc) :
    Plain v p :=
  ⟨fun n hn => h.proper n (hp.subset hn), h.bare.of_prefix hp⟩

theorem Plain.concat {v : Volume} {loc : Location} {name : String} (h : Plain v loc)
    (hname : IsProper name) (htarget : v.target? (loc ++ [name]) = none) :
    Plain v (loc ++ [name]) := by
  refine ⟨List.forall_mem_append.mpr ⟨h.proper, List.forall_mem_singleton.mpr hname⟩, ?_⟩
  intro p hp
  rcases List.prefix_concat_iff.mp hp with rfl | hp
  · exact htarget
  · exact h.bare p hp

theorem Grows.plain {v w : Volume} (h : Grows v w) {loc : Location} (hloc : Plain v loc) :
    Plain w loc :=
  ⟨hloc.proper, fun p hp => (h.target?_eq p).trans (hloc.bare p hp)⟩

/-- **A path whose links have all been resolved has none left in it.** -/
theorem plain_of_settled {v : Volume} {home : Location} {p : Path} (hhome : Plain v home)
    (h : (v.resolution home p).settlement = .settled) :
    Plain v (v.resolution home p).place.location := by
  have hstart : Plain v (p.start home).location := by
    rcases p.start_location home with hs | hs
    · rw [hs]
      exact hhome
    · rw [hs]
      exact plain_nil v
  refine (resolveFrom_invariant (P := fun q => Plain v q.location) (Q := fun _ => True)
    (fun q hq => hq.of_prefix (List.dropLast_prefix q.location))
    (fun q name hq hname htarget => hq.concat hname htarget) (fun q target hq => ?_)
    (fun _ _ _ _ _ => trivial) (fun _ _ _ => trivial) v.maxPending [] p.names hstart).1 h
  unfold Place.linkStart
  split
  · exact plain_nil v
  · exact hq

/-- It starts at the root of the tree. -/
theorem anchor_of_settled {v : Volume} {home : Location} {p : Path}
    (h : (v.resolution home p).settlement = .settled) :
    (v.resolution home p).place.toPath.anchor = .root :=
  if_neg (resolveFrom_anchor v.maxPending [] p.names (p.start_anchor home) h)

/-- A location without links leads in no circle. -/
theorem Plain.status_ne_loop {v : Volume} {loc : Location} (h : Plain v loc) :
    v.status loc ≠ .error .linkLoop := by
  cases hlong : isTooLong loc with
  | true =>
      intro hloop
      obtain ⟨hshort, -⟩ := locate_loop_iff.mp (status_loop_iff.mp hloop)
      rw [hlong] at hshort
      cases hshort
  | false => exact status_ne_linkLoop h.proper (h.bare.unlinked hlong)

/-- Names that lead past no link are added to the place. -/
theorem resolveFrom_of_plain {v : Volume} (fuel : Nat) (pending : List Place) {here : Place}
    {names : List String} (h : Plain v (here.location ++ names)) (rest : List String) :
    v.resolveFrom fuel pending here (names ++ rest) =
      v.resolveFrom fuel pending ⟨here.anchor, here.location ++ names⟩ rest := by
  induction names generalizing here with
  | nil => rw [List.nil_append, List.append_nil]
  | cons name names ih =>
      have happend : here.location ++ name :: names = (here.child name).location ++ names := by
        simp [Place.child]
      rw [happend] at h ⊢
      have hnext := h.of_prefix (List.prefix_append _ names)
      have hname : IsProper name := hnext.proper name (by simp [Place.child])
      rw [List.cons_append, resolveFrom_free v pending _ hname fuel (hnext.bare _ List.prefix_rfl)]
      exact ih h

theorem Plain.resolution {v : Volume} {names : List String} (h : Plain v names) (home : Location) :
    v.resolution home ⟨.root, names⟩ = ⟨⟨.root, names⟩, .settled⟩ := by
  have hroot : Plain v (Place.location ⟨.root, []⟩ ++ names) := h
  have hnames := resolveFrom_of_plain v.maxPending [] hroot []
  rw [List.append_nil] at hnames
  exact hnames.trans (by rw [resolveFrom]; rfl)

/-- **A path without links is its own resolution.** -/
theorem Plain.resolve {v : Volume} {names : List String} (h : Plain v names) (home : Location) :
    v.resolve home ⟨.root, names⟩ = .ok ⟨.root, names⟩ := by
  have hsettled := h.resolution home
  refine resolve_eq_ok_iff.mpr ⟨by rw [hsettled]; simp, by rw [hsettled]; rfl,
    fun n hn => (h.proper n hn).null, h.status_ne_loop⟩

/-! ## §6. Accesses without links. -/

theorem status_of_isTooLong {loc : Location} (h : isTooLong loc = true) (v : Volume) :
    v.status loc = .error .tooLong := by
  unfold status locate
  rw [if_pos h]
  rfl

namespace Plain

variable {v : Volume} {loc : Location} (h : Plain v loc)

include h

/-- **A walk without links arrives at the location itself.** -/
theorem locate_ok {ending : Ending} {l : Location} (hl : v.locate ending loc = .ok l) :
    l = loc ∧ isTooLong loc = false := by
  obtain ⟨hshort, -⟩ := locate_eq_ok_iff.mp hl
  rw [locate_eq_place ending h.proper (h.bare.unlinked hshort)] at hl
  exact ⟨(place_ok hl).1, hshort⟩

/-- **A file is written at the location itself.** -/
theorem write_ok {after : Volume} {bytes : List UInt8} (hwrite : v.write loc bytes = .ok after) :
    after = v.put loc (.file bytes) := by
  obtain ⟨l, hl, -, rfl⟩ := write_eq_ok_iff.mp hwrite
  rw [(h.locate_ok hl).1]

/-- **Directories are made at the location and above it, and nothing else, also when it fails.** -/
theorem makeDirectories_adds : Adds v (v.makeDirectories loc).1 loc := by
  cases hlong : isTooLong loc with
  | true =>
      have hcreate : v.create loc .directory = .error .tooLong := by
        unfold create locate
        rw [if_pos hlong]
        rfl
      rw [makeDirectories, hcreate]
      exact .refl v loc
  | false => exact (makeDirectories_made h.proper (h.bare.unlinked hlong)).adds

end Plain

/-! ## §7. Past a circle. -/

/-- Whether a link leads to a link to itself, both in one directory, and back to another name there. -/
structure PastCircle (v : Volume) (d : Location) (name loop other : String) : Prop where
  proper : IsProper name ∧ IsProper loop ∧ IsProper other
  ne : loop ≠ name
  link : ∃ target, v.target? (d ++ [name]) = some target ∧ isAbsolute target = false ∧
    components target = [loop, "..", other]
  circle : ∃ target, v.target? (d ++ [loop]) = some target ∧ isAbsolute target = false ∧
    components target = [loop]

/-- **Past a circle links are left: such a link is resolved to the other name, whatever stands there.** -/
theorem PastCircle.resolution {v : Volume} {d : Location} {name loop other : String}
    (h : PastCircle v d name loop other) (hd : Plain v d) (home : Location) :
    v.resolution home ⟨.root, d ++ [name]⟩ = ⟨⟨.root, d ++ [other]⟩, .circular⟩ := by
  obtain ⟨hname, hloop, hother⟩ := h.proper
  obtain ⟨target, htarget, hhere, hnames⟩ := h.link
  obtain ⟨self, hself, hthere, hagain⟩ := h.circle
  have htarget' : v.target? (Place.child ⟨.root, d⟩ name).location = some target := htarget
  have hself' : v.target? (Place.child ⟨.root, d⟩ loop).location = some self := hself
  have hstart : ∀ t, isAbsolute t = false → Place.linkStart ⟨.root, d⟩ t = ⟨.root, d⟩ := by
    intro t ht
    rw [Place.linkStart, ht]
    rfl
  -- The link to itself is met while it is being resolved.
  have hcircle : ∀ left, Fuelled v left [Place.child ⟨.root, d⟩ loop, Place.child ⟨.root, d⟩ name] →
      v.resolveFrom left [Place.child ⟨.root, d⟩ loop, Place.child ⟨.root, d⟩ name]
        (Place.linkStart ⟨.root, d⟩ self) (components self) =
          ⟨Place.child ⟨.root, d⟩ loop, .circular⟩ := by
    intro left _
    rw [hagain, hstart self hthere]
    exact resolveFrom_pending v _ [] hloop hself' left (List.mem_cons_self ..)
  have hnew : Place.child ⟨.root, d⟩ loop ∉ [Place.child ⟨.root, d⟩ name] := by
    simpa [Place.child] using h.ne
  -- From there `..` is taken back as it is written.
  have hback : Place.join (Place.child ⟨.root, d⟩ loop) ["..", other] = ⟨.root, d ++ [other]⟩ := by
    have hdots : isIdle ".." = false := by decide
    simp [Place.join, Place.child, Location.follow, Location.step, Location.parent, hother.down,
      hother.dots, hdots]
  have hinner : ∀ left, Fuelled v left [Place.child ⟨.root, d⟩ name] →
      v.resolveFrom left [Place.child ⟨.root, d⟩ name] (Place.linkStart ⟨.root, d⟩ target)
        (components target) = ⟨⟨.root, d ++ [other]⟩, .circular⟩ := by
    intro left hleft
    rw [hnames, hstart target hhere, resolveFrom_link v _ ["..", other] hloop hself' hleft (by simp)
      hnew hcircle]
    simp only [hback]
  have hroot : Plain v (Place.location ⟨.root, []⟩ ++ d) := hd
  refine (resolveFrom_of_plain v.maxPending [] hroot [name]).trans ?_
  exact resolveFrom_link v [] [] hname htarget' (fuelled_nil v) (by simp) (by simp) hinner

end Volume

end Golden

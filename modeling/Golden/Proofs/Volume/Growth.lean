/-
  Golden.Proofs.Volume.Growth
  ────────────────────────────────
  **VOLUMES THAT GROW.**

  A volume grows when new entries appear that are no links, and when files get
  other bytes.  Then a walk that arrives goes on arriving at the same place, and
  a walk in a circle stays one; what was found is found still:

      Grows v w  and  status v loc  =  ok directory   →   status w loc  =  ok directory

  Making directories grows a volume, by directories alone, each where the
  location or one above it leads; links may stand anywhere on the way.
-/
import Golden.Proofs.Volume.Stride

namespace Golden

namespace Volume

/-! ## §1. Volumes that grow. -/

/-- Whether a volume differs from another by the bytes of files, and by entries that are no links
where nothing stood. -/
def Grows (v w : Volume) : Prop :=
  ∀ p, w.look p = v.look p ∨ v.look p = none ∧ ∀ t, w.look p ≠ some (.link t)

theorem Grows.refl (v : Volume) : Grows v v := fun _ => Or.inl rfl

theorem Grows.trans {u v w : Volume} (h : Grows u v) (h' : Grows v w) : Grows u w := by
  intro p
  rcases h p with heq | ⟨hnone, hlink⟩
  · rw [← heq]
    exact h' p
  · refine Or.inr ⟨hnone, fun t => ?_⟩
    rcases h' p with heq | ⟨-, hlink'⟩
    · rw [heq]
      exact hlink t
    · exact hlink' t

theorem Grows.look_eq {v w : Volume} (h : Grows v w) {p : Location} {e : Entry}
    (hp : v.look p = some e) : w.look p = some e := by
  rcases h p with heq | ⟨hnone, -⟩
  · rw [heq, hp]
  · rw [hp] at hnone
    cases hnone

/-- No links appear. -/
theorem Grows.link {v w : Volume} (h : Grows v w) {p : Location} {t : String} :
    w.find? p = some (.link t) ↔ v.find? p = some (.link t) := by
  rw [← look_eq_link_iff, ← look_eq_link_iff]
  constructor
  · intro hp
    rcases h p with heq | ⟨-, hlink⟩
    · rw [← heq, hp]
    · exact absurd hp (hlink t)
  · exact h.look_eq

theorem grows_put {v : Volume} {loc : Location} {e : Entry} (hne : loc ≠ [])
    (hold : ∀ x, v.find? loc = some x → x.bare = e.bare) (hlink : ∀ t, e ≠ .link t) :
    Grows v (v.put loc e) := by
  intro p
  unfold look
  rw [find?_put v hne]
  by_cases hp : p = loc
  · subst hp
    rw [if_pos rfl]
    cases hfind : v.find? p with
    | none =>
        refine Or.inr ⟨rfl, fun t ht => ?_⟩
        cases e with
        | link target => exact hlink target rfl
        | _ => cases ht
    | some x => exact Or.inl (by rw [Option.map_some, Option.map_some, hold x hfind])
  · rw [if_neg hp]
    exact Or.inl rfl

/-- Whether a volume differs from another by entries that are no links where nothing stood. -/
def Extends (v w : Volume) : Prop :=
  ∀ p, w.find? p = v.find? p ∨ v.find? p = none ∧ ∀ t, w.find? p ≠ some (.link t)

theorem Extends.refl (v : Volume) : Extends v v := fun _ => Or.inl rfl

/-- What stood stands. -/
theorem Extends.find?_eq {v w : Volume} (h : Extends v w) {p : Location} {e : Entry}
    (hp : v.find? p = some e) : w.find? p = some e := by
  rcases h p with heq | ⟨hnone, -⟩
  · rw [heq, hp]
  · rw [hp] at hnone
    cases hnone

theorem Extends.grows {v w : Volume} (h : Extends v w) : Grows v w := by
  intro p
  rcases h p with heq | ⟨hnone, hlink⟩
  · exact Or.inl (by rw [look, look, heq])
  · exact Or.inr ⟨look_eq_none_iff.mpr hnone, fun t ht => hlink t (look_eq_link_iff.mp ht)⟩

theorem Extends.trans {u v w : Volume} (h : Extends u v) (h' : Extends v w) : Extends u w := by
  intro p
  rcases h p with heq | ⟨hnone, hlink⟩
  · rw [← heq]
    exact h' p
  · exact Or.inr ⟨hnone, fun t ht => hlink t (h'.grows.link.mp ht)⟩

theorem extends_put {v : Volume} {loc : Location} {e : Entry} (hne : loc ≠ [])
    (hnone : v.find? loc = none) (hlink : ∀ t, e ≠ .link t) : Extends v (v.put loc e) := by
  intro p
  rw [find?_put v hne]
  by_cases hp : p = loc
  · rw [if_pos hp, hp]
    exact Or.inr ⟨hnone, fun t ht => hlink t (Option.some.inj ht)⟩
  · rw [if_neg hp]
    exact Or.inl rfl

/-! ## §2. Walks. -/

/-- Where a volume grows a step is the same, unless it fails or arrives where nothing stood. -/
theorem Grows.stride {v w : Volume} (h : Grows v w) (ending : Ending) (here : Location)
    (name : String) (rest : List String) :
    w.stride ending here name rest = v.stride ending here name rest ∨
      (∃ t, t ≠ .linkLoop ∧ v.stride ending here name rest = .stop (.error t)) ∨
      ∃ l, rest = [] ∧ v.stride ending here name rest = .stop (.ok l) ∧
        w.stride ending here name rest = .go l := by
  cases hhere : v.look here with
  | none =>
      refine Or.inr (Or.inl ⟨.missing, by decide, ?_⟩)
      unfold Volume.stride
      rw [hhere]
  | some e =>
      rcases h (here ++ [name]) with hnext | ⟨hnone, hlink⟩
      · exact Or.inl (stride_congr ((h.look_eq hhere).trans hhere.symm) hnext ending rest)
      -- The only step that sees the new entry is one down to it.
      · have hhere' := h.look_eq hhere
        unfold Volume.stride
        rw [hhere, hhere', hnone]
        cases e with
        | file bytes => exact Or.inl rfl
        | link target => exact Or.inl rfl
        | directory =>
            simp only
            by_cases hidle : isIdle name = true
            · simp [hidle]
            by_cases hdots : name = ".."
            · simp [hdots]
            by_cases hslash : (ending = .put && rest != [] && rest.all (· == "")) = true
            · simp [hidle, hdots, hslash]
            by_cases hlong : maxNameBytes < name.utf8ByteSize
            · simp [hidle, hdots, hslash, hlong]
            simp only [hidle, hdots, hslash, hlong, if_false, Bool.false_eq_true]
            by_cases hrest : rest = []
            · cases hnew : w.look (here ++ [name]) with
              | none => simp [hrest]
              | some e =>
                  cases e with
                  | file bytes => simp [hrest]
                  | link target => exact absurd hnew (hlink target)
                  | directory => simp [hrest]
            · simp [hrest]

/-- **Where a volume grows a walk that arrives does so at the same place, and one in a circle stays in
it.** -/
theorem Grows.walk {v w : Volume} (h : Grows v w) (ending : Ending) (links : Nat) (here : Location)
    (names : List String) :
    (∀ l, v.walk ending links here names = .ok l → w.walk ending links here names = .ok l) ∧
      (v.walk ending links here names = .error .linkLoop →
        w.walk ending links here names = .error .linkLoop) := by
  refine walk_relate (R := fun x y => (∀ l, x = .ok l → y = .ok l) ∧
    (x = .error .linkLoop → y = .error .linkLoop)) (fun _ => ⟨fun _ h => h, fun h => h⟩)
    (fun links here name rest => ?_) links here names
  rcases h.stride ending here name rest with heq | ⟨t, ht, hfail⟩ | ⟨l, rfl, hold, hnew⟩
  · exact Or.inl heq
  · refine Or.inr ⟨fun l hl => ?_, fun hloop => ?_⟩
    · rw [walk_cons, hfail] at hl
      cases hl
    · rw [walk_cons, hfail] at hloop
      exact absurd (Except.error.inj hloop) ht
  -- One step more, and no name is left for it.
  · refine Or.inr ⟨fun l' hl => ?_, fun hloop => ?_⟩
    · rw [walk_cons, hold] at hl
      rw [walk_cons, hnew, ← Except.ok.inj hl]
      exact Volume.walk.eq_1 _ _ _ _
    · rw [walk_cons, hold] at hloop
      cases hloop

theorem locate_eq_ok_iff {v : Volume} {ending : Ending} {loc l : Location} :
    v.locate ending loc = .ok l ↔ isTooLong loc = false ∧ v.walk ending maxLinks [] loc = .ok l := by
  unfold locate
  cases isTooLong loc <;> simp

theorem locate_loop_iff {v : Volume} {ending : Ending} {loc : Location} :
    v.locate ending loc = .error .linkLoop ↔
      isTooLong loc = false ∧ v.walk ending maxLinks [] loc = .error .linkLoop := by
  unfold locate
  cases isTooLong loc <;> simp

theorem Grows.locate_ok {v w : Volume} (h : Grows v w) {ending : Ending} {loc l : Location}
    (hl : v.locate ending loc = .ok l) : w.locate ending loc = .ok l := by
  obtain ⟨hshort, hwalk⟩ := locate_eq_ok_iff.mp hl
  exact locate_eq_ok_iff.mpr ⟨hshort, (h.walk ending maxLinks [] loc).1 l hwalk⟩

theorem Grows.locate_loop {v w : Volume} (h : Grows v w) {ending : Ending} {loc : Location}
    (hl : v.locate ending loc = .error .linkLoop) : w.locate ending loc = .error .linkLoop := by
  obtain ⟨hshort, hwalk⟩ := locate_loop_iff.mp hl
  exact locate_loop_iff.mpr ⟨hshort, (h.walk ending maxLinks [] loc).2 hwalk⟩

/-- **A place has only directories above it, and is a link only where a walk is to stay at one.** -/
theorem locate_ok {v : Volume} {ending : Ending} {loc l : Location}
    (h : v.locate ending loc = .ok l) :
    Above v l ∧ ∀ t, v.find? l = some (.link t) → ending = .stay :=
  walk_ok (stands_nil v) (locate_eq_ok_iff.mp h).2

theorem locate_follow_of_put {v : Volume} {loc l : Location} (h : v.locate .put loc = .ok l) :
    v.locate .follow loc = .ok l := by
  obtain ⟨hshort, hwalk⟩ := locate_eq_ok_iff.mp h
  exact locate_eq_ok_iff.mpr ⟨hshort, walk_follow_of_put hwalk⟩

/-! ## §3. Looking. -/

theorem status_eq_ok_iff {v : Volume} {loc : Location} {e : Entry} :
    v.status loc = .ok e ↔ ∃ l, v.locate .follow loc = .ok l ∧ v.find? l = some e := by
  unfold status
  cases v.locate .follow loc with
  | error t => simp [bind, Except.bind]
  | ok l => cases hfind : v.find? l <;> simp [bind, Except.bind, hfind]

theorem status_loop_iff {v : Volume} {loc : Location} :
    v.status loc = .error .linkLoop ↔ v.locate .follow loc = .error .linkLoop := by
  unfold status
  cases v.locate .follow loc with
  | error t => simp [bind, Except.bind]
  | ok l => cases hfind : v.find? l <;> simp [bind, Except.bind, hfind]

theorem Grows.status_directory {v w : Volume} (h : Grows v w) {loc : Location}
    (hloc : v.status loc = .ok .directory) : w.status loc = .ok .directory := by
  obtain ⟨l, hl, hfind⟩ := status_eq_ok_iff.mp hloc
  exact status_eq_ok_iff.mpr ⟨l, h.locate_ok hl,
    look_eq_directory_iff.mp (h.look_eq (look_eq_directory_iff.mpr hfind))⟩

/-- What was found is found still, bytes and all. -/
theorem Extends.status_ok {v w : Volume} (h : Extends v w) {loc : Location} {e : Entry}
    (hloc : v.status loc = .ok e) : w.status loc = .ok e := by
  obtain ⟨l, hl, hfind⟩ := status_eq_ok_iff.mp hloc
  exact status_eq_ok_iff.mpr ⟨l, h.grows.locate_ok hl, h.find?_eq hfind⟩

theorem Grows.status_loop {v w : Volume} (h : Grows v w) {loc : Location}
    (hloc : v.status loc = .error .linkLoop) : w.status loc = .error .linkLoop :=
  status_loop_iff.mpr (h.locate_loop (status_loop_iff.mp hloc))

theorem isDirectory_iff {v : Volume} {loc : Location} :
    v.isDirectory loc = .ok true ↔ v.status loc = .ok .directory := by
  unfold isDirectory isKind
  cases v.status loc with
  | error t => cases habsence : Trouble.isAbsence t <;> simp [habsence]
  | ok e => cases e <;> simp

theorem isFile_iff {v : Volume} {loc : Location} :
    v.isFile loc = .ok true ↔ ∃ bytes, v.status loc = .ok (.file bytes) := by
  unfold isFile isKind
  cases v.status loc with
  | error t => cases habsence : Trouble.isAbsence t <;> simp [habsence]
  | ok e => cases e <;> simp

theorem contents_eq_ok_iff {v : Volume} {loc : Location} {bytes : List UInt8} :
    v.contents loc = .ok bytes ↔ v.status loc = .ok (.file bytes) := by
  unfold contents
  cases v.status loc with
  | error t => simp [bind, Except.bind]
  | ok e => cases e <;> simp [bind, Except.bind]

/-! ## §4. Making directories. -/

theorem create_eq_ok_iff {v w : Volume} {loc : Location} {e : Entry} :
    v.create loc e = .ok w ↔
      ∃ l, v.locate .stay loc = .ok l ∧ v.find? l = none ∧ w = v.put l e := by
  unfold create
  cases v.locate .stay loc with
  | error t => simp [bind, Except.bind]
  | ok l => cases hfind : v.find? l <;> simp [bind, Except.bind, hfind, eq_comm]

/-- Whether a volume differs from another by new directories, each where a location or one above it
leads. -/
def Prepares (v w : Volume) (loc : Location) : Prop :=
  ∀ p, w.find? p = v.find? p ∨
    v.find? p = none ∧ w.find? p = some .directory ∧ ∃ q, q <+: loc ∧ w.locate .stay q = .ok p

theorem Prepares.refl (v : Volume) (loc : Location) : Prepares v v loc := fun _ => Or.inl rfl

theorem Prepares.extends {v w : Volume} {loc : Location} (h : Prepares v w loc) : Extends v w := by
  intro p
  rcases h p with heq | ⟨hnone, hfound, -⟩
  · exact Or.inl heq
  · refine Or.inr ⟨hnone, fun t ht => ?_⟩
    rw [hfound] at ht
    cases ht

theorem Prepares.grows {v w : Volume} {loc : Location} (h : Prepares v w loc) : Grows v w :=
  h.extends.grows

theorem Prepares.trans {u v w : Volume} {dir loc : Location} (h : Prepares u v dir)
    (h' : Prepares v w loc) (hdir : dir <+: loc) : Prepares u w loc := by
  intro p
  rcases h p with heq | ⟨hnone, hfound, q, hq, hloc⟩
  · rw [← heq]
    exact h' p
  · refine Or.inr ⟨hnone, ?_, q, hq.trans hdir, h'.grows.locate_ok hloc⟩
    rcases h' p with heq | ⟨hnone', -⟩
    · rw [heq, hfound]
    · rw [hfound] at hnone'
      cases hnone'

theorem prepares_create {v w : Volume} {loc : Location} (h : v.create loc .directory = .ok w) :
    Prepares v w loc := by
  obtain ⟨l, hl, hnone, rfl⟩ := create_eq_ok_iff.mp h
  have hne : l ≠ [] := by
    rintro rfl
    cases hnone
  have hgrows : Grows v (v.put l .directory) :=
    grows_put hne (fun x hx => by rw [hnone] at hx; cases hx) (fun t ht => by cases ht)
  intro p
  rw [find?_put v hne]
  by_cases hp : p = l
  · subst hp
    rw [if_pos rfl]
    exact Or.inr ⟨hnone, rfl, loc, List.prefix_rfl, hgrows.locate_ok hl⟩
  · rw [if_neg hp]
    exact Or.inl rfl

/-- **Making directories adds directories where the location and those above it lead, and nothing
else, also when it fails.** -/
theorem prepares_makeDirectories (v : Volume) (loc : Location) :
    Prepares v (v.makeDirectories loc).1 loc := by
  have hup : ∀ loc : Location, loc.parent <+: loc := fun loc => List.dropLast_prefix loc
  fun_induction makeDirectories v loc with
  | case1 loc w hcreate => exact prepares_create hcreate
  | case2 hcreate => exact .refl v []
  | case3 loc hmissing hne w failure hmade ih =>
      rw [hmade] at ih
      exact ih.trans (.refl w loc) (hup loc)
  | case4 loc hmissing hne w hmade u hcreate ih =>
      rw [hmade] at ih
      exact ih.trans (prepares_create hcreate) (hup loc)
  | case5 loc hmissing hne w hmade hagain ih =>
      rw [hmade] at ih
      exact ih.trans (.refl w loc) (hup loc)
  | case6 loc hmissing hne w hmade t ht hfail ih =>
      rw [hmade] at ih
      exact ih.trans (.refl w loc) (hup loc)
  | case7 loc t ht hfail => exact .refl v loc

theorem settleDirectory_eq_ok {v : Volume} {loc : Location} {t : Trouble} :
    v.settleDirectory loc t = .ok () ↔ v.status loc = .ok .directory := by
  rw [← isDirectory_iff]
  unfold settleDirectory
  cases v.isDirectory loc with
  | error u => simp
  | ok b => cases b <;> simp

/-- A directory that has been created is found. -/
theorem status_of_create {v w : Volume} {loc : Location} (h : v.create loc .directory = .ok w) :
    w.status loc = .ok .directory := by
  have hgrows := (prepares_create h).grows
  obtain ⟨l, hl, hnone, rfl⟩ := create_eq_ok_iff.mp h
  have hne : l ≠ [] := by
    rintro rfl
    cases hnone
  -- Nothing stood there, so no link did, and to stay was to follow.
  obtain ⟨hshort, hwalk⟩ := locate_eq_ok_iff.mp hl
  have hfollow : v.locate .follow loc = .ok l := locate_eq_ok_iff.mpr ⟨hshort,
    walk_follow_of_stay hwalk (fun t ht => by rw [look_of_find? hnone] at ht; cases ht)⟩
  exact status_eq_ok_iff.mpr ⟨l, hgrows.locate_ok hfollow, by rw [find?_put v hne, if_pos rfl]⟩

/-- **When directories have been made the location is a directory.** -/
theorem status_of_makeDirectories {v : Volume} {loc : Location}
    (h : (v.makeDirectories loc).2 = .ok ()) :
    (v.makeDirectories loc).1.status loc = .ok .directory := by
  fun_induction makeDirectories v loc with
  | case1 loc w hcreate => exact status_of_create hcreate
  | case2 hcreate => cases h
  | case3 loc hmissing hne w failure hmade ih => cases h
  | case4 loc hmissing hne w hmade u hcreate ih => exact status_of_create hcreate
  | case5 loc hmissing hne w hmade hagain ih => cases h
  | case6 loc hmissing hne w hmade t ht hfail ih => exact settleDirectory_eq_ok.mp h
  | case7 loc t ht hfail => exact settleDirectory_eq_ok.mp h

/-- **Where the location is a directory nothing is made.** -/
theorem makeDirectories_of_status {v : Volume} {loc : Location}
    (h : v.status loc = .ok .directory) : v.makeDirectories loc = (v, .ok ()) := by
  obtain ⟨l, hl, hfind⟩ := status_eq_ok_iff.mp h
  obtain ⟨hshort, hwalk⟩ := locate_eq_ok_iff.mp hl
  -- The walk that stays at a link finds an entry too, be it the link.
  obtain ⟨l', hstay, hl'⟩ := walk_stay_of_follow hwalk (by rw [look_of_find? hfind]; simp)
  have hcreate : v.create loc .directory = .error .taken := by
    have hlocate : v.locate .stay loc = .ok l' := locate_eq_ok_iff.mpr ⟨hshort, hstay⟩
    obtain ⟨x, hx⟩ := Option.ne_none_iff_exists'.mp (fun hnone => hl' (look_eq_none_iff.mpr hnone))
    unfold create
    simp [hlocate, bind, Except.bind, hx]
  rw [makeDirectories, hcreate]
  simp only
  rw [settleDirectory_eq_ok.mpr h]

/-! ## §5. Writing. -/

theorem write_eq_ok_iff {v w : Volume} {loc : Location} {bytes : List UInt8} :
    v.write loc bytes = .ok w ↔ ∃ l, v.locate .put loc = .ok l ∧ v.find? l ≠ some .directory ∧
      w = v.put l (.file bytes) := by
  unfold write
  cases v.locate .put loc with
  | error t => simp [bind, Except.bind]
  | ok l =>
      cases hfind : v.find? l with
      | none => simp [bind, Except.bind, hfind, eq_comm]
      | some e => cases e <;> simp [bind, Except.bind, hfind, eq_comm]

/-- **A file is written where the location leads, over a file or over nothing.** -/
theorem write_ok {v w : Volume} {loc : Location} {bytes : List UInt8}
    (h : v.write loc bytes = .ok w) : ∃ l, l ≠ [] ∧ v.locate .follow loc = .ok l ∧
      (v.find? l = none ∨ ∃ old, v.find? l = some (.file old)) ∧ w = v.put l (.file bytes) := by
  obtain ⟨l, hl, hdir, rfl⟩ := write_eq_ok_iff.mp h
  refine ⟨l, ?_, locate_follow_of_put hl, ?_, rfl⟩
  · rintro rfl
    exact hdir rfl
  · cases hfind : v.find? l with
    | none => exact Or.inl rfl
    | some e =>
        cases e with
        | file old => exact Or.inr ⟨old, rfl⟩
        | link target => cases (locate_ok hl).2 target hfind
        | directory => exact absurd hfind hdir

theorem grows_write {v w : Volume} {loc : Location} {bytes : List UInt8}
    (h : v.write loc bytes = .ok w) : Grows v w := by
  obtain ⟨l, hne, -, hold, rfl⟩ := write_ok h
  refine grows_put hne (fun x hx => ?_) (fun t ht => by cases ht)
  rcases hold with hnone | ⟨old, hfile⟩
  · rw [hnone] at hx
    cases hx
  · rw [hfile] at hx
    rw [← Option.some.inj hx]
    rfl

/-- What has been written is found, where a file can be put again. -/
theorem place_of_write {v w : Volume} {loc : Location} {bytes : List UInt8}
    (h : v.write loc bytes = .ok w) :
    ∃ l, w.locate .put loc = .ok l ∧ w.find? l = some (.file bytes) := by
  have hgrows := grows_write h
  obtain ⟨l, hl, hdir, rfl⟩ := write_eq_ok_iff.mp h
  have hne : l ≠ [] := by
    rintro rfl
    exact hdir rfl
  exact ⟨l, hgrows.locate_ok hl, by rw [find?_put v hne, if_pos rfl]⟩

theorem status_of_write {v w : Volume} {loc : Location} {bytes : List UInt8}
    (h : v.write loc bytes = .ok w) : w.status loc = .ok (.file bytes) := by
  obtain ⟨l, hl, hfound⟩ := place_of_write h
  exact status_eq_ok_iff.mpr ⟨l, locate_follow_of_put hl, hfound⟩

end Volume

end Golden

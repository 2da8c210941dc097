/-
  Golden.Proofs.Volume.Bytes
  ────────────────────────────────
  **WHAT DEPENDS ON THE BYTES OF FILES.**

  Give the files of a volume other bytes, each by its location, and look again:
  walks arrive at the same places, paths are resolved as before, and the same
  directories are made.  Only reading a file sees the difference, and only that
  of the file at the end of the walk:

      access (rewrite g v)  =  rewrite g (access v)

  So what is the same under every rewriting has read no file.
-/
import Golden.Proofs.Volume.Links

namespace Golden

/-! ## §1. Other bytes. -/

/-- An entry with other bytes, if it is a file. -/
def Entry.rewrite (f : List UInt8 → List UInt8) : Entry → Entry
  | .file bytes => .file (f bytes)
  | e => e

theorem Entry.bare_rewrite (f : List UInt8 → List UInt8) (e : Entry) : (e.rewrite f).bare = e.bare := by
  cases e <;> rfl

theorem Entry.rewrite_of_bytes {f : List UInt8 → List UInt8} {bytes : List UInt8}
    (h : f bytes = bytes) : (Entry.file bytes).rewrite f = .file bytes := by
  rw [rewrite, h]

namespace Volume

/-- A volume with other bytes in its files. -/
def rewrite (g : Location → List UInt8 → List UInt8) (v : Volume) : Volume :=
  ⟨v.entries.map (fun x => (x.1, x.2.rewrite (g x.1)))⟩

variable (g : Location → List UInt8 → List UInt8) (v : Volume)

theorem find?_rewrite (loc : Location) :
    (v.rewrite g).find? loc = (v.find? loc).map (Entry.rewrite (g loc)) := by
  unfold find?
  split
  · rfl
  · unfold rewrite
    induction v.entries with
    | nil => rfl
    | cons x rest ih =>
        obtain ⟨l, e⟩ := x
        simp only [List.map_cons, List.lookup_cons]
        cases hl : loc == l with
        | true => simp [beq_iff_eq.mp hl]
        | false => exact ih

theorem rewrite_put (loc : Location) (e : Entry) :
    (v.put loc e).rewrite g = (v.rewrite g).put loc (e.rewrite (g loc)) := by
  unfold put rewrite
  simp only [List.map_cons, List.filter_map]
  rfl

theorem look_rewrite (loc : Location) : (v.rewrite g).look loc = v.look loc := by
  unfold look
  rw [find?_rewrite, Option.map_map]
  congr 1
  exact funext (Entry.bare_rewrite (g loc))

theorem grows_rewrite : Grows v (v.rewrite g) := fun loc => Or.inl (look_rewrite g v loc)

/-! ## §2. Looking. -/

theorem walk_rewrite (ending : Ending) (links : Nat) (here : Location) (names : List String) :
    (v.rewrite g).walk ending links here names = v.walk ending links here names :=
  walk_relate (R := fun x y => y = x) (fun _ => rfl)
    (fun _ here name rest => Or.inl
      (stride_congr (look_rewrite g v here) (look_rewrite g v (here ++ [name])) ending rest))
    links here names

theorem locate_rewrite (ending : Ending) (loc : Location) :
    (v.rewrite g).locate ending loc = v.locate ending loc := by
  unfold locate
  rw [walk_rewrite]

theorem status_rewrite (loc : Location) :
    (v.rewrite g).status loc = (do
      let l ← v.locate .follow loc
      match v.find? l with
      | some e => .ok (e.rewrite (g l))
      | none => .error .missing) := by
  unfold status
  rw [locate_rewrite]
  cases v.locate .follow loc with
  | error t => rfl
  | ok l =>
      simp only [bind, Except.bind, find?_rewrite]
      cases v.find? l <;> rfl

/-- The kind of what is found is the same. -/
theorem isKind_rewrite {fits : Entry → Bool} (hfits : ∀ f e, fits (Entry.rewrite f e) = fits e)
    (loc : Location) : (v.rewrite g).isKind fits loc = v.isKind fits loc := by
  unfold isKind
  rw [status_rewrite, status]
  cases v.locate .follow loc with
  | error t => rfl
  | ok l =>
      simp only [bind, Except.bind]
      cases v.find? l with
      | none => rfl
      | some e => simp only [hfits]

theorem isFile_rewrite (loc : Location) : (v.rewrite g).isFile loc = v.isFile loc :=
  isKind_rewrite g v (fun _ e => by cases e <;> rfl) loc

theorem isDirectory_rewrite (loc : Location) :
    (v.rewrite g).isDirectory loc = v.isDirectory loc :=
  isKind_rewrite g v (fun _ e => by cases e <;> rfl) loc

/-- **Paths are resolved without looking into files.** -/
theorem resolve_rewrite (home : Location) (p : Path) :
    (v.rewrite g).resolve home p = v.resolve home p := by
  have hresolution : (v.rewrite g).resolution home p = v.resolution home p :=
    (grows_rewrite g v).resolution_eq home p
  unfold resolution at hresolution
  rw [resolve_start, resolve_start, hresolution]
  simp only [status_rewrite]
  split
  · rfl
  -- Only a walk in a circle matters, and both walks are the same.
  · unfold status
    cases v.locate .follow (v.resolveFrom v.maxPending [] (p.start home) p.names).place.toPath.names with
    | error t => rfl
    | ok l =>
        simp only [bind, Except.bind]
        cases v.find? l <;> rfl

/-! ## §3. Reading and changing. -/

section Contents

variable {g v}

/-- **Reading a file sees the bytes of that file alone.** -/
theorem contents_rewrite {loc : Location}
    (h : ∀ l, v.locate .follow loc = .ok l → ∀ bytes, g l bytes = bytes) :
    (v.rewrite g).contents loc = v.contents loc := by
  unfold contents
  rw [status_rewrite, status]
  cases hl : v.locate .follow loc with
  | error t => rfl
  | ok l =>
      simp only [bind, Except.bind]
      cases v.find? l with
      | none => rfl
      | some e =>
          cases e with
          | file bytes => simp only [Entry.rewrite_of_bytes (h l hl bytes)]
          | link target => rfl
          | directory => rfl

/-- What is written is written whatever the bytes of the files are. -/
theorem write_rewrite {loc : Location} {bytes : List UInt8}
    (h : ∀ l, v.locate .put loc = .ok l → g l bytes = bytes) :
    (v.rewrite g).write loc bytes = (v.write loc bytes).map (rewrite g) := by
  unfold write
  rw [locate_rewrite]
  cases hl : v.locate .put loc with
  | error t => rfl
  | ok l =>
      have hput := rewrite_put g v l (.file bytes)
      rw [Entry.rewrite_of_bytes (h l hl)] at hput
      simp only [bind, Except.bind, find?_rewrite]
      cases v.find? l with
      | none => simp [Except.map, hput]
      | some e => cases e <;> simp [Except.map, hput, Entry.rewrite]

end Contents

theorem create_rewrite (loc : Location) :
    (v.rewrite g).create loc .directory = (v.create loc .directory).map (rewrite g) := by
  unfold create
  rw [locate_rewrite]
  cases v.locate .stay loc with
  | error t => rfl
  | ok l =>
      have hput : (v.put l .directory).rewrite g = (v.rewrite g).put l .directory :=
        rewrite_put g v l .directory
      simp only [bind, Except.bind, find?_rewrite]
      cases v.find? l with
      | none => simp [Except.map, hput]
      | some e => rfl

theorem settleDirectory_rewrite (loc : Location) (t : Trouble) :
    (v.rewrite g).settleDirectory loc t = v.settleDirectory loc t := by
  unfold settleDirectory
  rw [isDirectory_rewrite]

/-- **The same directories are made.** -/
theorem makeDirectories_rewrite (loc : Location) :
    (v.rewrite g).makeDirectories loc =
      ((v.makeDirectories loc).1.rewrite g, (v.makeDirectories loc).2) := by
  fun_induction makeDirectories v loc with
  | case1 loc w hcreate =>
      rw [makeDirectories, create_rewrite, hcreate]
      rfl
  | case2 hcreate =>
      rw [makeDirectories, create_rewrite, hcreate]
      rfl
  | case3 loc hmissing hne w failure hmade ih =>
      rw [makeDirectories, create_rewrite, hmissing]
      simp only [Except.map, dif_neg hne, ih, hmade]
  | case4 loc hmissing hne w hmade u hcreate ih =>
      rw [makeDirectories, create_rewrite, hmissing]
      simp only [Except.map, dif_neg hne, ih, hmade, create_rewrite, hcreate]
  | case5 loc hmissing hne w hmade hagain ih =>
      rw [makeDirectories, create_rewrite, hmissing]
      simp only [Except.map, dif_neg hne, ih, hmade, create_rewrite, hagain]
  | case6 loc hmissing hne w hmade t ht hfail ih =>
      rw [makeDirectories, create_rewrite, hmissing]
      simp only [Except.map, dif_neg hne, ih, hmade, create_rewrite, hfail, settleDirectory_rewrite]
  | case7 loc t ht hfail =>
      rw [makeDirectories, create_rewrite, hfail]
      simp only [Except.map, settleDirectory_rewrite]

end Volume

end Golden

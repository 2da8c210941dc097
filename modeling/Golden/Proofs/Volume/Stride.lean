/-
  Golden.Proofs.Volume.Stride
  ────────────────────────────────
  **ONE STEP OF A WALK.**

  A walk takes its names one by one.  Each step stops, goes on from a next
  place, or jumps to where a link leads, and it depends only on what kind of
  entry stands here and one name further; the bytes of a file play no part:

      walk (name :: rest)  =  stop  |  walk from next  |  walk from the link

  So every property of walks comes from one of single steps, and two walks are
  related as their steps are.  A walk ends where all above is a directory, and
  at a link only if it is to stay there.
-/
import Golden.Proofs.Volume.Walk

namespace Golden

/-- An entry without the bytes of a file. -/
def Entry.bare : Entry → Entry
  | .file _ => .file []
  | e => e

namespace Volume

/-! ## §1. Steps. -/

/-- The kind of entry that stands at a location. -/
def look (v : Volume) (loc : Location) : Option Entry := (v.find? loc).map Entry.bare

theorem look_of_find? {v : Volume} {loc : Location} {x : Option Entry} (h : v.find? loc = x) :
    v.look loc = x.map Entry.bare := by rw [look, h]

theorem look_eq_none_iff {v : Volume} {loc : Location} : v.look loc = none ↔ v.find? loc = none :=
  Option.map_eq_none_iff

theorem look_eq_directory_iff {v : Volume} {loc : Location} :
    v.look loc = some .directory ↔ v.find? loc = some .directory := by
  unfold look
  cases v.find? loc with
  | none => simp
  | some e => cases e <;> simp [Entry.bare]

theorem look_eq_link_iff {v : Volume} {loc : Location} {t : String} :
    v.look loc = some (.link t) ↔ v.find? loc = some (.link t) := by
  unfold look
  cases v.find? loc with
  | none => simp
  | some e => cases e <;> simp [Entry.bare]

/-- What one name of a walk leads to: its end, a next place, or the place and the names that a link
leads to. -/
inductive Stride
  | stop (result : Except Trouble Location)
  | go (next : Location)
  | jump (start : Location) (names : List String)

/-- One step of a walk with an ending, by a name before others. -/
def stride (v : Volume) (ending : Ending) (here : Location) (name : String)
    (rest : List String) : Stride :=
  match v.look here with
  | none => .stop (.error .missing)
  | some .directory =>
      if isIdle name then .go here
      else if name = ".." then .go here.parent
      else if ending = .put && rest != [] && rest.all (· == "") then .stop (.error .isDirectory)
      else if maxNameBytes < name.utf8ByteSize then .stop (.error .tooLong)
      else
        match v.look (here ++ [name]) with
        | some (.link target) =>
            if rest = [] && ending = .stay then .stop (.ok (here ++ [name]))
            else .jump (linkStart here target) (components target)
        | some (.file _) =>
            if rest = [] then .stop (.ok (here ++ [name])) else .stop (.error .notDirectory)
        | some .directory => .go (here ++ [name])
        | none => if rest = [] then .stop (.ok (here ++ [name])) else .stop (.error .missing)
  | some _ => .stop (.error .notDirectory)

/-- **A walk is its steps.** -/
theorem walk_cons (v : Volume) (ending : Ending) (links : Nat) (here : Location) (name : String)
    (rest : List String) :
    v.walk ending links here (name :: rest) =
      match v.stride ending here name rest with
      | .stop result => result
      | .go next => v.walk ending links next rest
      | .jump start names =>
          match links with
          | 0 => .error .linkLoop
          | left + 1 => v.walk ending left start (names ++ rest) := by
  rw [walk, stride]
  cases hhere : v.find? here with
  | none => rw [look_of_find? hhere]; rfl
  | some e =>
      rw [look_of_find? hhere]
      cases e with
      | file bytes => rfl
      | link target => rfl
      | directory =>
          simp only [Option.map_some, Entry.bare]
          split
          · rfl
          · split
            · rfl
            · split
              · rfl
              · split
                · rfl
                · cases hnext : v.find? (here ++ [name]) with
                  | none =>
                      rw [look_of_find? hnext]
                      simp only [Option.map_none]
                      split <;> rfl
                  | some e =>
                      rw [look_of_find? hnext]
                      cases e with
                      | file bytes =>
                          simp only [Option.map_some, Entry.bare]
                          split <;> rfl
                      | link target =>
                          simp only [Option.map_some, Entry.bare]
                          split
                          · rfl
                          · cases links <;> rfl
                      | directory => rfl

/-- A step sees no more than what stands here and one name further. -/
theorem stride_congr {v w : Volume} {here : Location} {name : String}
    (hhere : w.look here = v.look here) (hnext : w.look (here ++ [name]) = v.look (here ++ [name]))
    (ending : Ending) (rest : List String) :
    w.stride ending here name rest = v.stride ending here name rest := by
  unfold stride
  rw [hhere, hnext]

/-- Induction over a walk: its names go, and where a link is followed one of the links. -/
theorem walk_induct {motive : Nat → Location → List String → Prop}
    (nil : ∀ links here, motive links here [])
    (cons : ∀ links here name rest, (∀ next, motive links next rest) →
      (∀ left start names, links = left + 1 → motive left start names) →
        motive links here (name :: rest)) (links : Nat) (here : Location) (names : List String) :
    motive links here names := by
  induction links generalizing here names with
  | zero =>
      induction names generalizing here with
      | nil => exact nil 0 here
      | cons name rest ih => exact cons 0 here name rest ih (fun left _ _ h => by cases h)
  | succ links ihlinks =>
      induction names generalizing here with
      | nil => exact nil _ here
      | cons name rest ih =>
          refine cons _ here name rest ih (fun left start names h => ?_)
          obtain rfl : links = left := by omega
          exact ihlinks start names

/-! ## §2. What a step meets. -/

/-- What each way to take a step has met. -/
inductive Strides (v : Volume) (ending : Ending) (here : Location) (name : String)
    (rest : List String) : Stride → Prop
  | fail (t : Trouble) (ht : t ≠ .linkLoop) : Strides v ending here name rest (.stop (.error t))
  | idle (hhere : v.look here = some .directory) : Strides v ending here name rest (.go here)
  | back (hhere : v.look here = some .directory) : Strides v ending here name rest (.go here.parent)
  | down (hhere : v.look here = some .directory)
      (hnext : v.look (here ++ [name]) = some .directory) :
      Strides v ending here name rest (.go (here ++ [name]))
  | arrive (hhere : v.look here = some .directory) (hrest : rest = [])
      (hnext : v.look (here ++ [name]) ≠ some .directory)
      (hlink : ∀ t, v.look (here ++ [name]) = some (.link t) → ending = .stay) :
      Strides v ending here name rest (.stop (.ok (here ++ [name])))
  | jump (target : String) (hhere : v.look here = some .directory)
      (hnext : v.look (here ++ [name]) = some (.link target)) :
      Strides v ending here name rest (.jump (linkStart here target) (components target))

theorem strides (v : Volume) (ending : Ending) (here : Location) (name : String)
    (rest : List String) : Strides v ending here name rest (v.stride ending here name rest) := by
  unfold stride
  split
  · exact .fail _ (by decide)
  · next hhere =>
      split
      · exact .idle hhere
      · split
        · exact .back hhere
        · split
          · exact .fail _ (by decide)
          · split
            · exact .fail _ (by decide)
            · split
              · next target hnext =>
                  split
                  · next hend =>
                      simp only [Bool.and_eq_true, decide_eq_true_eq] at hend
                      exact .arrive hhere hend.1 (by simp [hnext]) (fun _ _ => hend.2)
                  · exact .jump target hhere hnext
              · next bytes hnext =>
                  split
                  · next hrest => exact .arrive hhere hrest (by simp [hnext]) (by simp [hnext])
                  · exact .fail _ (by decide)
              · next hnext => exact .down hhere hnext
              · next hnext =>
                  split
                  · next hrest => exact .arrive hhere hrest (by simp [hnext]) (by simp [hnext])
                  · exact .fail _ (by decide)
  · exact .fail _ (by decide)

/-! ## §3. Where walks end. -/

/-- Whether all above a location are directories. -/
def Above (v : Volume) (loc : Location) : Prop :=
  ∀ p, p <+: loc → p ≠ loc → v.find? p = some .directory

theorem Stands.of_prefix {v : Volume} {p loc : Location} (h : Stands v loc) (hp : p <+: loc) :
    Stands v p := fun q hq => h q (hq.trans hp)

theorem stands_nil (v : Volume) : Stands v [] := by
  intro p hp
  rw [List.prefix_nil.mp hp]
  rfl

theorem Stands.of_above {v : Volume} {loc : Location} (h : Above v loc)
    (hloc : v.find? loc = some .directory) : Stands v loc := by
  intro p hp
  by_cases hne : p = loc
  · rw [hne, hloc]
  · exact h p hp hne

/-- What the steps of a walk keep: the place where it is and all above it are directories. -/
theorem Strides.stands_go {v : Volume} {ending : Ending} {here next : Location} {name : String}
    {rest : List String} (h : Strides v ending here name rest (.go next)) (hhere : Stands v here) :
    Stands v next := by
  cases h with
  | idle _ => exact hhere
  | back _ => exact hhere.of_prefix (List.dropLast_prefix here)
  | down _ hnext => exact .of_above (hhere.above name) (look_eq_directory_iff.mp hnext)

theorem Strides.stands_jump {v : Volume} {ending : Ending} {here start : Location} {name : String}
    {rest names : List String} (h : Strides v ending here name rest (.jump start names))
    (hhere : Stands v here) : Stands v start := by
  cases h with
  | jump target _ _ =>
      unfold linkStart
      split
      · exact stands_nil v
      · exact hhere

/-- **A walk ends where all above is a directory, and at a link only if it is to stay there.** -/
theorem walk_ok {v : Volume} {ending : Ending} {links : Nat} {here l : Location}
    {names : List String} (hhere : Stands v here) (h : v.walk ending links here names = .ok l) :
    Above v l ∧ ∀ t, v.find? l = some (.link t) → ending = .stay := by
  induction links, here, names using walk_induct with
  | nil links here =>
      rw [walk] at h
      obtain rfl := Except.ok.inj h
      refine ⟨fun p hp _ => hhere p hp, fun t ht => ?_⟩
      rw [hhere here List.prefix_rfl] at ht
      cases ht
  | cons links here name rest ihgo ihjump =>
      rw [walk_cons] at h
      have hstep := strides v ending here name rest
      cases hs : v.stride ending here name rest with
      | stop result =>
          rw [hs] at h hstep
          cases hstep with
          | fail t _ => cases h
          | arrive hdir _ _ hlink =>
              obtain rfl := Except.ok.inj h
              exact ⟨hhere.above name, fun t ht => hlink t (look_eq_link_iff.mpr ht)⟩
      | go next =>
          rw [hs] at h hstep
          exact ihgo next (hstep.stands_go hhere) h
      | jump start names =>
          rw [hs] at h hstep
          cases links with
          | zero => cases h
          | succ left => exact ihjump left start _ rfl (hstep.stands_jump hhere) h

/-! ## §4. Two walks. -/

/-- **Two walks are related if each of their steps is the same or relates what they lead to.** -/
theorem walk_relate {v w : Volume} {ending ending' : Ending}
    {R : Except Trouble Location → Except Trouble Location → Prop} (hrefl : ∀ x, R x x)
    (hstep : ∀ links here name rest,
      w.stride ending' here name rest = v.stride ending here name rest ∨
        R (v.walk ending links here (name :: rest)) (w.walk ending' links here (name :: rest)))
    (links : Nat) (here : Location) (names : List String) :
    R (v.walk ending links here names) (w.walk ending' links here names) := by
  induction links, here, names using walk_induct with
  | nil links here =>
      rw [walk, walk]
      exact hrefl _
  | cons links here name rest ihgo ihjump =>
      rcases hstep links here name rest with heq | hrelated
      · rw [walk_cons, walk_cons, heq]
        cases v.stride ending here name rest with
        | stop result => exact hrefl _
        | go next => exact ihgo next
        | jump start names =>
            cases links with
            | zero => exact hrefl _
            | succ left => exact ihjump left start _ rfl
      · exact hrelated

/-- To put a file is to follow, save that a slash at the end will not do. -/
theorem stride_put (v : Volume) (here : Location) (name : String) (rest : List String) :
    v.stride .put here name rest = v.stride .follow here name rest ∨
      v.stride .put here name rest = .stop (.error .isDirectory) := by
  unfold stride
  split
  · exact Or.inl rfl
  · split
    · exact Or.inl rfl
    · split
      · exact Or.inl rfl
      · split
        · exact Or.inr rfl
        · exact Or.inl (by simp)
  · exact Or.inl rfl

theorem walk_follow_of_put {v : Volume} {links : Nat} {here l : Location} {names : List String}
    (h : v.walk .put links here names = .ok l) : v.walk .follow links here names = .ok l := by
  refine walk_relate (R := fun x y => x = .ok l → y = .ok l) (fun _ h => h)
    (fun links here name rest => ?_) links here names h
  rcases stride_put v here name rest with heq | hslash
  · exact Or.inl heq.symm
  · refine Or.inr (fun h => ?_)
    rw [walk_cons, hslash] at h
    cases h

/-- To stay is to follow, save at a link at the end. -/
theorem stride_stay (v : Volume) (here : Location) (name : String) (rest : List String) :
    v.stride .stay here name rest = v.stride .follow here name rest ∨
      (∃ t, v.look (here ++ [name]) = some (.link t)) ∧
        v.stride .stay here name rest = .stop (.ok (here ++ [name])) := by
  unfold stride
  split
  · exact Or.inl rfl
  · split
    · exact Or.inl rfl
    · split
      · exact Or.inl rfl
      · split
        · next hslash => simp at hslash
        · split
          · exact Or.inl rfl
          · cases hnext : v.look (here ++ [name]) with
            | none => exact Or.inl (by simp)
            | some e =>
                cases e with
                | link target =>
                    by_cases hrest : rest = []
                    · exact Or.inr ⟨⟨target, rfl⟩, by simp [hrest]⟩
                    · exact Or.inl (by simp [hrest])
                | _ => exact Or.inl (by simp)
  · exact Or.inl rfl

/-- Where a walk that follows finds something, one that stays does so too. -/
theorem walk_stay_of_follow {v : Volume} {links : Nat} {here l : Location} {names : List String}
    (h : v.walk .follow links here names = .ok l) (hl : v.look l ≠ none) :
    ∃ l', v.walk .stay links here names = .ok l' ∧ v.look l' ≠ none := by
  refine walk_relate (R := fun x y => x = .ok l → ∃ l', y = .ok l' ∧ v.look l' ≠ none)
    (fun _ h => ⟨l, h, hl⟩) (fun links here name rest => ?_) links here names h
  rcases stride_stay v here name rest with heq | ⟨⟨t, ht⟩, hstay⟩
  · exact Or.inl heq
  · refine Or.inr (fun _ => ⟨_, by rw [walk_cons, hstay], ?_⟩)
    rw [ht]
    simp

/-- A walk that stays at no link has followed all. -/
theorem walk_follow_of_stay {v : Volume} {links : Nat} {here l : Location} {names : List String}
    (h : v.walk .stay links here names = .ok l) (hl : ∀ t, v.look l ≠ some (.link t)) :
    v.walk .follow links here names = .ok l := by
  refine walk_relate (R := fun x y => x = .ok l → y = .ok l) (fun _ h => h)
    (fun links here name rest => ?_) links here names h
  rcases stride_stay v here name rest with heq | ⟨⟨t, ht⟩, hstay⟩
  · exact Or.inl heq.symm
  · refine Or.inr (fun h => ?_)
    rw [walk_cons, hstay] at h
    exact absurd (Except.ok.inj h ▸ ht) (hl t)

/-- Names that follow change a step only where it stops. -/
theorem stride_append (v : Volume) (here : Location) (name : String) (rest more : List String) :
    v.stride .follow here name (rest ++ more) = v.stride .follow here name rest ∨
      ∃ result, v.stride .follow here name rest = .stop result := by
  unfold stride
  split
  · exact Or.inl rfl
  · split
    · exact Or.inl rfl
    · split
      · exact Or.inl rfl
      · split
        · next hslash => simp at hslash
        · split
          · exact Or.inl rfl
          · cases v.look (here ++ [name]) with
            | none =>
                by_cases hrest : rest = []
                · exact Or.inr ⟨_, if_pos hrest⟩
                · exact Or.inr ⟨_, if_neg hrest⟩
            | some e =>
                cases e with
                | link target => exact Or.inl (by simp)
                | file bytes =>
                    by_cases hrest : rest = []
                    · exact Or.inr ⟨_, if_pos hrest⟩
                    · exact Or.inr ⟨_, if_neg hrest⟩
                | directory => exact Or.inl (by simp)
  · exact Or.inl rfl

/-- A walk that runs in a circle does so whatever names follow. -/
theorem walk_append_of_loop {v : Volume} {links : Nat} {here : Location} {names : List String}
    (h : v.walk .follow links here names = .error .linkLoop) (more : List String) :
    v.walk .follow links here (names ++ more) = .error .linkLoop := by
  induction links, here, names using walk_induct with
  | nil links here => rw [walk] at h; cases h
  | cons links here name rest ihgo ihjump =>
      rw [walk_cons] at h
      rw [List.cons_append, walk_cons]
      have hstep := strides v .follow here name rest
      -- No step stops in a circle: it takes a link too many.
      have hstop : ∀ result, v.stride .follow here name rest ≠ .stop result := by
        intro result hs
        rw [hs] at h hstep
        cases hstep with
        | fail t ht => exact ht (Except.error.inj h)
        | arrive _ _ _ _ => cases h
      rcases stride_append v here name rest more with heq | ⟨result, hs⟩
      · rw [heq]
        cases hs : v.stride .follow here name rest with
        | stop result => exact absurd hs (hstop result)
        | go next =>
            rw [hs] at h
            exact ihgo next h
        | jump start names =>
            rw [hs] at h
            cases links with
            | zero => rfl
            | succ left =>
                have hmore := ihjump left start _ rfl h
                rwa [List.append_assoc] at hmore
      · exact absurd hs (hstop result)

end Volume

end Golden

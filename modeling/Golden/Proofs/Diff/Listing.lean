/-
  Golden.Proofs.Diff.Listing
  ────────────────────────────────
  **ONE LINE FOR EACH PLACE WHERE TWO TREES PART.**

  `Parted e a p` says that two trees part at a position, by what the position
  and its prefixes lead to: each proper prefix leads to two arrays or to two
  objects, and the position itself to two values that differ as wholes, or it
  ends with a key that one side has and the other lacks.  The report lists these
  positions, each once and no other:

      lines of report? e a   ⟷   positions p with Parted e a p

  A line begins with the path of its position and a colon, which no other
  position shares.  To part is the same from both sides, and so the report the
  other way round is about the same positions.
-/
import Golden.Proofs.Diff.Equality
import Golden.Proofs.Position.Text

namespace Golden

namespace Value

/-! ## §1. Where two trees part. -/

/-- Whether two values are both arrays or both objects. -/
def Alike (e a : Value) : Prop :=
  (e.isArray = true ∧ a.isArray = true) ∨ (e.isObject = true ∧ a.isObject = true)

/-- Whether two values differ as wholes: in their kinds, as unequal scalars of one kind, or as
arrays of different lengths. -/
def Differ (e a : Value) : Prop :=
  e.kind ≠ a.kind ∨ (e.kind = a.kind ∧ e.isScalar = true ∧ ¬ StrictlyEqual e a) ∨
    ∃ s xs t ys, e = .array s xs ∧ a = .array t ys ∧ xs.length ≠ ys.length

/-- Two trees part at a position. -/
structure Parted (e a : Value) (p : Position) : Prop where
  /-- Each proper prefix leads to two arrays or to two objects. -/
  way : ∀ q s r, p = q ++ s :: r →
    ∃ b c, e.at? q = some b ∧ a.at? q = some c ∧ b.Alike c
  /-- At the end two values differ, or a key is there on one side only. -/
  ends : (∃ b c, e.at? p = some b ∧ a.at? p = some c ∧ b.Differ c) ∨
    ∃ q k, p = q ++ [.key k] ∧ (e.at? p).isSome ≠ (a.at? p).isSome

variable {e a : Value}

/-! ## §2. Both sides are the same. -/

theorem Alike.symm (h : e.Alike a) : a.Alike e := by
  rcases h with ⟨he, ha⟩ | ⟨he, ha⟩
  · exact Or.inl ⟨ha, he⟩
  · exact Or.inr ⟨ha, he⟩

theorem Differ.symm (h : e.Differ a) : a.Differ e := by
  rcases h with hkind | ⟨hkind, hscalar, hne⟩ | ⟨s, xs, t, ys, rfl, rfl, hlength⟩
  · exact Or.inl hkind.symm
  · have hscalar' : a.isScalar = true := by rwa [isScalar_iff_kind, ← hkind, ← isScalar_iff_kind]
    exact Or.inr (Or.inl ⟨hkind.symm, hscalar', fun h => hne h.symm⟩)
  · exact Or.inr (Or.inr ⟨t, ys, s, xs, rfl, rfl, hlength.symm⟩)

theorem Parted.symm {p : Position} (h : Parted e a p) : Parted a e p where
  way q s r hp := by
    obtain ⟨b, c, hb, hc, hbc⟩ := h.way q s r hp
    exact ⟨c, b, hc, hb, hbc.symm⟩
  ends := by
    rcases h.ends with ⟨b, c, hb, hc, hbc⟩ | ⟨q, k, hp, hne⟩
    · exact Or.inl ⟨c, b, hc, hb, hbc.symm⟩
    · exact Or.inr ⟨q, k, hp, hne.symm⟩

/-! ## §3. The walk finds where they part. -/

theorem parted_nil : Parted e a [] ↔ e.Differ a := by
  constructor
  · intro h
    rcases h.ends with ⟨b, c, hb, hc, hbc⟩ | ⟨q, k, hp, -⟩
    · cases hb
      cases hc
      exact hbc
    · exact absurd hp (by simp)
  · intro h
    refine ⟨fun q s r hp => ?_, Or.inl ⟨e, a, rfl, rfl, h⟩⟩
    exact absurd hp (by simp)

theorem Parted.alike {s : Step} {p : Position} (h : Parted e a (s :: p)) : e.Alike a := by
  obtain ⟨b, c, hb, hc, halike⟩ := h.way [] s p rfl
  cases hb
  cases hc
  exact halike

/-- Behind a step that both sides can go, trees part where those that it leads to part. -/
theorem parted_cons_of_both {b c : Value} {s : Step} {p : Position} (hb : e.step? s = some b)
    (hc : a.step? s = some c) : Parted e a (s :: p) ↔ e.Alike a ∧ Parted b c p := by
  have hleft : ∀ q, e.at? (s :: q) = b.at? q := fun q => by rw [at?_cons, hb, Option.bind_some]
  have hright : ∀ q, a.at? (s :: q) = c.at? q := fun q => by rw [at?_cons, hc, Option.bind_some]
  constructor
  · intro h
    refine ⟨h.alike, fun q t r hq => ?_, ?_⟩
    · rw [← hleft, ← hright]
      exact h.way (s :: q) t r (congrArg (s :: ·) hq)
    · rw [← hleft, ← hright]
      refine h.ends.imp id (fun ⟨q, k, hq, hne⟩ => ?_)
      cases q with
      | nil =>
          -- The step itself is no key that is there on one side only.
          obtain ⟨-, rfl⟩ := List.cons.inj hq
          rw [hleft, hright] at hne
          exact absurd rfl hne
      | cons s' q => exact ⟨q, k, (List.cons.inj hq).2, hne⟩
  · rintro ⟨halike, h⟩
    refine ⟨fun q t r hq => ?_, ?_⟩
    · cases q with
      | nil => exact ⟨e, a, rfl, rfl, halike⟩
      | cons s' q =>
          obtain ⟨rfl, hp⟩ := List.cons.inj hq
          rw [hleft, hright]
          exact h.way q t r hp
    · rw [hleft, hright]
      exact h.ends.imp id (fun ⟨q, k, hq, hne⟩ => ⟨s :: q, k, congrArg (s :: ·) hq, hne⟩)

/-- Behind a step that one side cannot go, trees part only if it is a key of the other side. -/
theorem parted_cons_of_one {s : Step} {p : Position} (hone : e.step? s = none ∨ a.step? s = none) :
    Parted e a (s :: p) ↔ e.Alike a ∧
      p = [] ∧ (∃ k, s = .key k) ∧ (e.step? s).isSome ≠ (a.step? s).isSome := by
  have hboth : ∀ {q b c}, e.at? (s :: q) = some b → a.at? (s :: q) = some c → False := by
    intro q b c hb hc
    rcases hone with h | h
    · rw [at?_cons, h] at hb
      cases hb
    · rw [at?_cons, h] at hc
      cases hc
  constructor
  · intro h
    refine ⟨h.alike, ?_⟩
    cases p with
    | cons t p =>
        obtain ⟨b, c, hb, hc, -⟩ := h.way [s] t p rfl
        exact (hboth hb hc).elim
    | nil =>
        rcases h.ends with ⟨b, c, hb, hc, -⟩ | ⟨q, k, hq, hne⟩
        · exact (hboth hb hc).elim
        · rw [at?_single, at?_single] at hne
          cases q with
          | nil => exact ⟨rfl, ⟨k, (List.cons.inj hq).1⟩, hne⟩
          | cons s' q =>
              exact absurd (List.cons.inj hq).2 (by simp)
  · rintro ⟨halike, rfl, ⟨k, rfl⟩, hne⟩
    refine ⟨fun q t r hq => ?_, Or.inr ⟨[], k, rfl, ?_⟩⟩
    · cases q with
      | nil => exact ⟨e, a, rfl, rfl, halike⟩
      | cons s' q =>
          exact absurd (List.cons.inj hq).2 (by simp)
    · rwa [at?_single, at?_single]

/-- Two values part at this very place just if they differ as wholes. -/
theorem partsHere_iff_differ (he : e.isResponse = true) : PartsHere e a ↔ e.Differ a := by
  by_cases harr : e.isArray = true ∧ a.isArray = true
  · cases e with
    | array s xs =>
        cases a with
        | array t ys =>
            constructor
            · intro hlength
              exact Or.inr (Or.inr ⟨s, xs, t, ys, rfl, rfl, hlength⟩)
            · rintro (hkind | ⟨-, hscalar, -⟩ | ⟨_, _, _, _, ⟨⟩, ⟨⟩, hlength⟩)
              · exact absurd rfl hkind
              · cases hscalar
              · exact hlength
        | _ => cases harr.2
    | _ => cases harr.1
  by_cases hobj : e.isObject = true ∧ a.isObject = true
  · cases e with
    | object s fs =>
        cases a with
        | object t gs =>
            constructor
            · intro h
              exact h.elim
            · rintro (hkind | ⟨-, hscalar, -⟩ | ⟨_, _, _, _, ⟨⟩, -, -⟩)
              · exact hkind rfl
              · cases hscalar
        | _ => cases hobj.2
    | _ => cases hobj.1
  -- What is left is compared as a whole, and only scalars are of one kind then.
  rw [partsHere_of_mixed harr hobj]
  by_cases hk : e.kind = a.kind
  · have hscalar := isScalar_of_mixed harr hobj hk
    have hsame : e.same a = false ↔ ¬ StrictlyEqual e a := by
      rw [← same_iff_strictlyEqual he hscalar hk, Bool.not_eq_true]
    constructor
    · rintro (hkind | h)
      · exact absurd hk hkind
      · exact Or.inr (Or.inl ⟨hk, hscalar, hsame.mp h⟩)
    · rintro (hkind | ⟨-, -, h⟩ | ⟨s, xs, t, ys, rfl, rfl, -⟩)
      · exact absurd hk hkind
      · exact Or.inr (hsame.mpr h)
      · exact absurd ⟨rfl, rfl⟩ harr
  · exact ⟨fun _ => Or.inl hk, fun _ => Or.inl hk⟩

theorem partsAt_index_iff {i : Nat} {p : Position}
    (ih : ∀ {b c}, e.item? i = some b → a.item? i = some c → (PartsAt b c p ↔ Parted b c p)) :
    PartsAt e a (.index i :: p) ↔ Parted e a (.index i :: p) := by
  cases hb : e.item? i with
  | none =>
      rw [parted_cons_of_one (s := .index i) (Or.inl hb)]
      simp [PartsAt, hb]
  | some b =>
      cases hc : a.item? i with
      | none =>
          rw [parted_cons_of_one (s := .index i) (Or.inr hc)]
          simp [PartsAt, hc]
      | some c =>
          have halike : e.Alike a := Or.inl ⟨isArray_of_item? hb, isArray_of_item? hc⟩
          rw [parted_cons_of_both (s := .index i) hb hc, ← ih hb hc]
          simp [PartsAt, hb, hc, halike]

/-- Only an object is alike with an object. -/
theorem alike_iff_of_isObject (h : e.isObject = true ∨ a.isObject = true) :
    e.Alike a ↔ e.isObject = true ∧ a.isObject = true := by
  refine or_iff_right (fun ⟨he, ha⟩ => ?_)
  rw [isArray_iff_kind] at he ha
  rw [isObject_iff_kind, isObject_iff_kind, he, ha] at h
  simp at h

theorem partsAt_key_iff {k : Value} {p : Position}
    (ih : ∀ {b c}, e.field? k = some b → a.field? k = some c → (PartsAt b c p ↔ Parted b c p)) :
    PartsAt e a (.key k :: p) ↔ Parted e a (.key k :: p) := by
  cases hb : e.field? k with
  | none =>
      rw [parted_cons_of_one (s := .key k) (Or.inl hb)]
      cases hc : a.field? k with
      | none => simp [PartsAt, step?, hb, hc]
      | some c =>
          rw [alike_iff_of_isObject (Or.inr (isObject_of_field? hc))]
          simp [PartsAt, step?, hb, hc, and_assoc]
  | some b =>
      cases hc : a.field? k with
      | none =>
          rw [parted_cons_of_one (s := .key k) (Or.inr hc),
            alike_iff_of_isObject (Or.inl (isObject_of_field? hb))]
          simp [PartsAt, step?, hb, hc, and_assoc]
      | some c =>
          have halike : e.Alike a := Or.inr ⟨isObject_of_field? hb, isObject_of_field? hc⟩
          rw [parted_cons_of_both (s := .key k) hb hc, ← ih hb hc, partsAt_field hb hc]
          exact (and_iff_right halike).symm

/-- The walk goes the way that a position goes. -/
theorem partsAt_iff_parted {p : Position} (he : e.isResponse = true) (ha : a.isResponse = true) :
    PartsAt e a p ↔ Parted e a p := by
  induction p generalizing e a with
  | nil => rw [parted_nil, PartsAt, partsHere_iff_differ he]
  | cons s p ih =>
      cases s with
      | index i =>
          exact partsAt_index_iff (fun hb hc =>
            ih (isResponse_of_item? he hb) (isResponse_of_item? ha hc))
      | key k =>
          exact partsAt_key_iff (fun hb hc =>
            ih (isResponse_of_field? he hb) (isResponse_of_field? ha hc))

/-! ## §4. No position is reported twice. -/

/-- The positions that are reported of two values, in the order of the report. -/
def positions (e a : Value) : List Position := (e.diff a).map (·.position)

theorem mem_positions_iff (he : e.isResponse = true) (ha : a.isResponse = true) {p : Position} :
    p ∈ e.positions a ↔ Parted e a p := by
  rw [← partsAt_iff_parted he ha, ← reports_iff_partsAt e a he ha p]
  exact List.mem_map

theorem map_position_under (s : Step) (ds : List Difference) :
    (ds.map (·.under s)).map (·.position) = (ds.map (·.position)).map (s :: ·) := by
  rw [List.map_map, List.map_map]
  rfl

theorem nodup_under (s : Step) {ds : List Difference} (h : (ds.map (·.position)).Nodup) :
    ((ds.map (·.under s)).map (·.position)).Nodup := by
  rw [map_position_under]
  exact h.map (fun p q hpq => (List.cons.inj hpq).2)

/-- Differences of items at different indices have different positions. -/
theorem nodup_diffItems {xs ys : List Value}
    (h : ∀ x ∈ xs, ∀ y ∈ ys, (x.positions y).Nodup) (i : Nat) :
    ((diffItems i xs ys).map (·.position)).Nodup := by
  induction xs generalizing ys i with
  | nil => simp [diffItems]
  | cons x xs ih =>
      cases ys with
      | nil => simp [diffItems]
      | cons y ys =>
          have hrest := ih (fun x' hx' y' hy' =>
            h x' (List.mem_cons_of_mem x hx') y' (List.mem_cons_of_mem y hy')) (i + 1)
          rw [diffItems, List.map_append]
          refine List.Nodup.append (nodup_under _ ?_) hrest ?_
          · exact h x List.mem_cons_self y List.mem_cons_self
          · -- The first step is the index, and it grows.
            intro p hhere hlater
            simp only [List.map_map, List.mem_map, mem_diffItems] at hhere hlater
            obtain ⟨d, -, rfl⟩ := hhere
            obtain ⟨_, ⟨j, x', y', -, -, d', -, rfl⟩, hp⟩ := hlater
            have hstep : i + 1 + j = i := by injection hp with hp; injection hp
            omega

theorem head?_of_mem_diffFields {d : Difference} {fs gs : Fields} (hd : d ∈ diffFields fs gs) :
    ∃ f ∈ fs, d.position.head? = some (.key f.1) := by
  obtain ⟨f, hf, ⟨-, rfl⟩ | ⟨b, -, d', -, rfl⟩⟩ := mem_diffFields.mp hd
  · exact ⟨f, hf, rfl⟩
  · exact ⟨f, hf, rfl⟩

/-- Differences at the fields of the first object have different positions, for each key stands
once. -/
theorem nodup_diffFields {fs gs : Fields} (hfs : fieldsAreNamed fs = true)
    (h : ∀ f ∈ fs, ∀ b, Fields.find? f.1 gs = some b → (f.2.positions b).Nodup) :
    ((diffFields fs gs).map (·.position)).Nodup := by
  induction fs with
  | nil => simp [diffFields]
  | cons f fs ih =>
      obtain ⟨k, v⟩ := f
      obtain ⟨-, hnone, hnamed⟩ := fieldsAreNamed_cons.mp hfs
      have hrest := ih hnamed (fun f hf => h f (List.mem_cons_of_mem _ hf))
      rw [diffFields, List.map_append]
      refine List.Nodup.append ?_ hrest ?_
      · cases hb : Fields.find? k gs with
        | none => simp
        | some b => exact nodup_under _ (h (k, v) List.mem_cons_self b hb)
      · -- The first step is the key, and none of the later fields has it.
        intro p hhere hlater
        have hfirst : p.head? = some (.key k) := by
          cases hb : Fields.find? k gs with
          | none =>
              rw [hb] at hhere
              rw [List.mem_singleton.mp hhere]
              rfl
          | some b =>
              rw [hb, map_position_under] at hhere
              obtain ⟨q, -, rfl⟩ := List.mem_map.mp hhere
              rfl
        obtain ⟨d, hd, rfl⟩ := List.mem_map.mp hlater
        obtain ⟨f, hf, hstep⟩ := head?_of_mem_diffFields hd
        rw [hfirst, Option.some.injEq, Step.key.injEq] at hstep
        exact ne_of_find?_eq_none hnamed hnone hf hstep.symm

theorem nodup_surplus {fs gs : Fields} (hgs : fieldsAreNamed gs = true) :
    ((surplus fs gs).map (·.position)).Nodup := by
  have hkeys : ((gs.filter (fun g => !Fields.has g.1 fs)).map (·.1)).Nodup :=
    (fieldsAreNamed_iff.mp hgs).2.sublist (List.filter_sublist.map _)
  have hsteps := hkeys.map (f := fun k => ([.key k] : Position)) (fun k k' hk => by simpa using hk)
  rw [List.map_map] at hsteps
  rw [surplus, List.map_map]
  exact hsteps

theorem nodup_positions (e a : Value) (he : e.isResponse = true) (ha : a.isResponse = true) :
    (e.positions a).Nodup := by
  induction e, a, he, ha using Value.inductPair with
  | mixed e a he ha harr hobj =>
      rw [positions, diff_of_mixed harr hobj]
      split
      · exact List.nodup_singleton _
      · split
        · exact List.nodup_nil
        · exact List.nodup_singleton _
  | items s t xs ys hxs hys ih =>
      rw [positions, diff_array, List.map_append]
      refine List.Nodup.append ?_ (nodup_diffItems ih 0) ?_
      · unfold lengthFinding
        split
        · exact List.nodup_nil
        · exact List.nodup_singleton _
      · -- The lengths are reported at the place itself, items below it.
        intro p hhere hlater
        have hnil : p = [] := by
          unfold lengthFinding at hhere
          split at hhere
          · cases hhere
          · exact List.mem_singleton.mp hhere
        simp only [List.mem_map, mem_diffItems] at hlater
        obtain ⟨_, ⟨j, x, y, -, -, d, -, rfl⟩, hp⟩ := hlater
        rw [hnil] at hp
        cases hp
  | fields fs gs hfs hgs ih =>
      obtain ⟨-, hnamed, -⟩ := isResponse_object.mp hfs
      obtain ⟨-, hnamed', -⟩ := isResponse_object.mp hgs
      rw [positions, diff_object, List.map_append]
      refine List.Nodup.append (nodup_diffFields hnamed ih) (nodup_surplus hnamed') ?_
      -- A key that only the second object has is none of the first.
      intro p hhere hlater
      obtain ⟨d, hd, rfl⟩ := List.mem_map.mp hhere
      obtain ⟨d', hd', hp⟩ := List.mem_map.mp hlater
      obtain ⟨f, hf, hstep⟩ := head?_of_mem_diffFields hd
      obtain ⟨g, -, hnone, rfl⟩ := mem_surplus.mp hd'
      rw [← hp, List.head?_cons, Option.some.injEq, Step.key.injEq] at hstep
      exact ne_of_find?_eq_none hnamed hnone hf hstep.symm

/-! ## §5. Lines. -/

theorem nodup_lines (he : e.isResponse = true) (ha : a.isResponse = true) :
    ((e.diff a).map (·.line)).Nodup := by
  have hpositions := nodup_positions e a he ha
  have hnamed := isNamed_of_mem_diff e a he ha
  rw [positions, List.Nodup, List.pairwise_map] at hpositions
  rw [List.Nodup, List.pairwise_map]
  refine hpositions.imp_of_mem (fun {d d'} hd hd' hne hline => hne ?_)
  exact Position.heads_inj (hnamed d hd) (hnamed d' hd') d.heads_line (hline ▸ d'.heads_line)

/-- Some line is about a position just if the trees part there. -/
theorem exists_heads_iff (he : e.isResponse = true) (ha : a.isResponse = true) {p : Position}
    (hp : p.isNamed = true) :
    (∃ line ∈ (e.diff a).map (·.line), p.Heads line) ↔ Parted e a p := by
  rw [← mem_positions_iff he ha]
  constructor
  · rintro ⟨line, hline, h⟩
    obtain ⟨d, hd, rfl⟩ := List.mem_map.mp hline
    rw [Position.heads_inj hp (isNamed_of_mem_diff e a he ha d hd) h d.heads_line]
    exact List.mem_map_of_mem hd
  · intro h
    obtain ⟨d, hd, rfl⟩ := List.mem_map.mp h
    exact ⟨d.line, List.mem_map_of_mem hd, d.heads_line⟩

/-- **A report has one line for each position at which two trees part, and no other.**  Each line is
about exactly one position, and the trees part there; about each position at which they part there
is exactly one line; and the report the other way round is about the same positions. -/
theorem report_lists_partings (he : e.isResponse = true) (ha : a.isResponse = true) :
    ∃ lines back, e.report? a = some lines ∧ a.report? e = some back ∧ lines.Nodup ∧
      (∀ line ∈ lines, ∃ p, Parted e a p ∧
        ∀ q : Position, q.isNamed = true → (q.Heads line ↔ q = p)) ∧
      (∀ p, Parted e a p → ∃! line, line ∈ lines ∧ p.Heads line) ∧
      ∀ p : Position, p.isNamed = true →
        ((∃ line ∈ back, p.Heads line) ↔ ∃ line ∈ lines, p.Heads line) := by
  have hnamed := isNamed_of_mem_diff e a he ha
  refine ⟨_, _, report?_of_isResponse he ha, report?_of_isResponse ha he, nodup_lines he ha,
    fun line hline => ?_, fun p hp => ?_, fun p hp => ?_⟩
  · obtain ⟨d, hd, rfl⟩ := List.mem_map.mp hline
    refine ⟨d.position, (mem_positions_iff he ha).mp (List.mem_map_of_mem hd), fun q hq => ?_⟩
    constructor
    · intro h
      exact Position.heads_inj hq (hnamed d hd) h d.heads_line
    · rintro rfl
      exact d.heads_line
  · obtain ⟨d, hd, rfl⟩ := List.mem_map.mp ((mem_positions_iff he ha).mpr hp)
    refine ⟨d.line, ⟨List.mem_map_of_mem hd, d.heads_line⟩, ?_⟩
    rintro line ⟨hline, h⟩
    obtain ⟨d', hd', rfl⟩ := List.mem_map.mp hline
    -- Two differences at one position are the same one, for no position is reported twice.
    have hsame := Position.heads_inj (hnamed d hd) (hnamed d' hd') h d'.heads_line
    rw [List.inj_on_of_nodup_map (nodup_positions e a he ha) hd hd' hsame]
  · rw [exists_heads_iff he ha hp, exists_heads_iff ha he hp]
    exact ⟨Parted.symm, Parted.symm⟩

/-- A tail that one array has beyond the other is reported by the lengths alone, and a key of either
side by itself. -/
theorem report_lists_partings_keys :
    let e : Value := .ofFields [(.text "a", .ofItems [.int 1, .int 2]), (.text "b", .null)]
    let a : Value := .ofFields [(.text "a", .ofItems [.int 1]), (.text "c", .null)]
    e.report? a = some ["$.a: expected 2 elements, got 1", "$.b: missing in actual response",
      "$.c: unexpected key in actual response"] ∧ Parted e a [.key (.text "b")] := by
  intro e a
  have hreport : e.report? a = some ["$.a: expected 2 elements, got 1",
      "$.b: missing in actual response", "$.c: unexpected key in actual response"] := by
    decide +kernel
  obtain ⟨lines, back, hlines, -, -, hpart, -⟩ :=
    report_lists_partings (e := e) (a := a) (by decide +kernel) (by decide +kernel)
  obtain rfl : _ = lines := Option.some.inj (hreport.symm.trans hlines)
  obtain ⟨p, hp, honly⟩ := hpart "$.b: missing in actual response" (by simp)
  have hb : [.key (.text "b")] = p :=
    (honly _ rfl).mp ⟨"missing in actual response", by decide +kernel⟩
  exact ⟨hreport, hb ▸ hp⟩

end Value

end Golden

/-
  Golden.Proofs.Diff.Positions
  ────────────────────────────────
  **WHAT A COMPARISON REPORTS, AND WHERE.**

  `PartsAt e a p` says by recursion on the position `p` that two trees part
  there: an index leads on through two arrays, a key through two objects, a
  key that stands on one side only ends the way, and at the end the two values
  part at this very place.  Of two responses the comparison reports exactly
  these positions, and can say what it found:

      Reports e a p  ↔  PartsAt e a p
      report? e a    =  some (a line for each difference)

  It reports nothing of two arrays just if they are equally long and it reports
  nothing of their items, and nothing of two objects just if they have the same
  keys and it reports nothing under any of them.
-/
import Golden.Proofs.Value.Json

namespace Golden.Value

/-! ## §1. Members of a comparison. -/

/-- Whether the comparison of two values reports a position. -/
def Reports (e a : Value) (p : Position) : Prop := ∃ d ∈ e.diff a, d.position = p

theorem diff_array (s t : ArrayShape) (xs ys : List Value) :
    (Value.array s xs).diff (.array t ys) = lengthFinding xs ys ++ diffItems 0 xs ys := by
  rw [diff]

theorem diff_object (s t : ObjectShape) (fs gs : Fields) :
    (Value.object s fs).diff (.object t gs) = diffFields fs gs ++ surplus fs gs := by
  rw [diff]

/-- A difference of items is one of two items at the same index. -/
theorem mem_diffItems {d : Difference} {xs ys : List Value} : ∀ {i : Nat},
    d ∈ diffItems i xs ys ↔ ∃ (j : Nat) (x y : Value), xs[j]? = some x ∧ ys[j]? = some y ∧
      ∃ d' ∈ diff x y, d = d'.under (.index (i + j)) := by
  -- Along the first array; the index at which the comparison stands is any, for it grows.
  induction xs generalizing ys with
  | nil => intro i; simp [diffItems]
  | cons x xs ih =>
      intro i
      cases ys with
      | nil => simp [diffItems]
      | cons y ys =>
          rw [diffItems, List.mem_append, List.mem_map, ih]
          constructor
          · rintro (⟨d', hd', rfl⟩ | ⟨j, x', y', hx, hy, d', hd', rfl⟩)
            · exact ⟨0, x, y, rfl, rfl, d', hd', rfl⟩
            · refine ⟨j + 1, x', y', hx, hy, d', hd', ?_⟩
              rw [show i + (j + 1) = i + 1 + j by omega]
          · rintro ⟨j, x', y', hx, hy, d', hd', rfl⟩
            cases j with
            | zero =>
                obtain rfl : x = x' := Option.some.inj hx
                obtain rfl : y = y' := Option.some.inj hy
                exact Or.inl ⟨d', hd', rfl⟩
            | succ j =>
                refine Or.inr ⟨j, x', y', hx, hy, d', hd', ?_⟩
                rw [show i + (j + 1) = i + 1 + j by omega]

/-- A difference at the fields of the first object is a missing key or one of two values under the
same key. -/
theorem mem_diffFields {d : Difference} {fs gs : Fields} :
    d ∈ diffFields fs gs ↔ ∃ f ∈ fs,
      (Fields.find? f.1 gs = none ∧ d = ⟨[.key f.1], .missing⟩) ∨
      ∃ a, Fields.find? f.1 gs = some a ∧ ∃ d' ∈ diff f.2 a, d = d'.under (.key f.1) := by
  induction fs with
  | nil => simp [diffFields]
  | cons f fs ih =>
      obtain ⟨k, e⟩ := f
      rw [diffFields, List.mem_append, ih]
      simp only [List.mem_cons, exists_eq_or_imp]
      refine or_congr ?_ Iff.rfl
      cases Fields.find? k gs with
      | none => simp
      | some a =>
          simp only [List.mem_map, Option.some.injEq, reduceCtorEq, false_and, false_or,
            exists_eq_left']
          exact exists_congr (fun d' => and_congr_right (fun _ => eq_comm))

theorem mem_surplus {d : Difference} {fs gs : Fields} :
    d ∈ surplus fs gs ↔ ∃ g ∈ gs, Fields.find? g.1 fs = none ∧
      d = ⟨[.key g.1], .unexpected⟩ := by
  unfold surplus
  simp only [List.mem_map, List.mem_filter, Bool.not_eq_true', Fields.has_eq_false_iff]
  constructor
  · rintro ⟨g, ⟨hg, hnone⟩, rfl⟩
    exact ⟨g, hg, hnone, rfl⟩
  · rintro ⟨g, hg, hnone, rfl⟩
    exact ⟨g, ⟨hg, hnone⟩, rfl⟩

/-- Two values that are not both arrays and not both objects are compared as a whole. -/
theorem diff_of_mixed {e a : Value} (harr : ¬ (e.isArray = true ∧ a.isArray = true))
    (hobj : ¬ (e.isObject = true ∧ a.isObject = true)) :
    e.diff a = if e.kind ≠ a.kind then [.here (.kinds e a)]
      else if e.same a then [] else [.here (.unequal e a)] := by
  cases e with
  | array s xs =>
      cases a with
      | array t ys => exact absurd ⟨rfl, rfl⟩ harr
      | _ => simp [diff]
  | object s fs =>
      cases a with
      | object t gs => exact absurd ⟨rfl, rfl⟩ hobj
      | _ => simp [diff]
  | _ => simp [diff]

/-! ## §2. Every finding has a text. -/

/-- What holds of each finding where it is made, and is kept by a step in front, holds of every
difference of two responses. -/
theorem forall_mem_diff {motive : Difference → Prop}
    (whole : ∀ e a : Value, e.isResponse = true → a.isResponse = true →
      motive (.here (.kinds e a)) ∧ motive (.here (.unequal e a)))
    (lengths : ∀ m n, motive (.here (.lengths m n)))
    (present : ∀ k : Value, k.isText = true →
      motive ⟨[.key k], .missing⟩ ∧ motive ⟨[.key k], .unexpected⟩)
    (index : ∀ i d, motive d → motive (d.under (.index i)))
    (key : ∀ (k : Value) d, k.isText = true → motive d → motive (d.under (.key k)))
    (e a : Value) (he : e.isResponse = true) (ha : a.isResponse = true) :
    ∀ d ∈ e.diff a, motive d := by
  induction e, a, he, ha using Value.inductPair with
  | mixed e a he ha harr hobj =>
      intro d hd
      rw [diff_of_mixed harr hobj] at hd
      split at hd
      · rw [List.mem_singleton.mp hd]
        exact (whole e a he ha).1
      · split at hd
        · cases hd
        · rw [List.mem_singleton.mp hd]
          exact (whole e a he ha).2
  | items s t xs ys hxs hys ih =>
      intro d hd
      rw [diff_array, List.mem_append] at hd
      rcases hd with hd | hd
      · unfold lengthFinding at hd
        split at hd
        · cases hd
        · rw [List.mem_singleton.mp hd]
          exact lengths xs.length ys.length
      · obtain ⟨j, x, y, hx, hy, d', hd', rfl⟩ := mem_diffItems.mp hd
        exact index _ d' (ih x (List.mem_of_getElem? hx) y (List.mem_of_getElem? hy) d' hd')
  | fields fs gs hfs hgs ih =>
      obtain ⟨-, hnamed, -⟩ := isResponse_object.mp hfs
      obtain ⟨-, hnamed', -⟩ := isResponse_object.mp hgs
      intro d hd
      rw [diff_object, List.mem_append] at hd
      rcases hd with hd | hd
      · obtain ⟨f, hf, ⟨-, rfl⟩ | ⟨b, hb, d', hd', rfl⟩⟩ := mem_diffFields.mp hd
        · exact (present f.1 (isText_of_mem_fields hnamed f hf)).1
        · exact key f.1 d' (isText_of_mem_fields hnamed f hf) (ih f hf b hb d' hd')
      · obtain ⟨g, hg, -, rfl⟩ := mem_surplus.mp hd
        exact (present g.1 (isText_of_mem_fields hnamed' g hg)).2

/-- Every value that a finding names has a text, for it is part of a response. -/
theorem isPrintable_finding (e a : Value) (he : e.isResponse = true) (ha : a.isResponse = true) :
    ∀ d ∈ e.diff a, d.finding.isPrintable = true := by
  refine forall_mem_diff (motive := fun d => d.finding.isPrintable = true) (fun e a he ha => ?_)
    (fun m n => rfl) (fun k hk => ⟨rfl, rfl⟩) (fun i d hd => hd) (fun k d hk hd => hd) e a he ha
  have hboth : (e.isPrintable && a.isPrintable) = true := by
    rw [isPrintable_of_isResponse e he, isPrintable_of_isResponse a ha]
    rfl
  exact ⟨hboth, hboth⟩

/-- **The comparison of two responses can always be reported**, with a line for each difference. -/
theorem report?_of_isResponse {e a : Value} (he : e.isResponse = true) (ha : a.isResponse = true) :
    e.report? a = some ((e.diff a).map (·.line)) := by
  have hall : (e.diff a).all (·.finding.isPrintable) = true :=
    List.all_eq_true.mpr (isPrintable_finding e a he ha)
  simp only [report?, keysPrintable_of_isResponse e a he ha, hall, Bool.and_self, if_true]

theorem report?_of_isJson {e a : Value} (he : e.isJson = true) (ha : a.isJson = true) :
    e.report? a = some ((e.diff a).map (·.line)) :=
  report?_of_isResponse (isResponse_of_isJson e he) (isResponse_of_isJson a ha)

/-! ## §3. Where two trees part. -/

/-- Whether two values part at this very place: by their kind, by their length, or as scalars. -/
def PartsHere : Value → Value → Prop
  | .array _ xs, .array _ ys => xs.length ≠ ys.length
  | .object _ _, .object _ _ => False
  | e, a => e.kind ≠ a.kind ∨ e.same a = false

/-- Whether two trees part at a position. -/
def PartsAt (e a : Value) : Position → Prop
  | [] => PartsHere e a
  | .index i :: p => ∃ b c, e.item? i = some b ∧ a.item? i = some c ∧ PartsAt b c p
  | .key k :: p => e.isObject = true ∧ a.isObject = true ∧
      match e.field? k, a.field? k with
      | some b, some c => PartsAt b c p
      | none, none => False
      | _, _ => p = []

theorem partsHere_of_mixed {e a : Value} (harr : ¬ (e.isArray = true ∧ a.isArray = true))
    (hobj : ¬ (e.isObject = true ∧ a.isObject = true)) :
    PartsHere e a ↔ e.kind ≠ a.kind ∨ e.same a = false := by
  cases e with
  | array s xs =>
      cases a with
      | array t ys => exact absurd ⟨rfl, rfl⟩ harr
      | _ => exact Iff.rfl
  | object s fs =>
      cases a with
      | object t gs => exact absurd ⟨rfl, rfl⟩ hobj
      | _ => exact Iff.rfl
  | _ => simp [PartsHere]

/-- Two values part behind a key that both have just if the values under it part. -/
theorem partsAt_field {e a b c k : Value} {p : Position} (he : e.field? k = some b)
    (ha : a.field? k = some c) : PartsAt e a (.key k :: p) ↔ PartsAt b c p := by
  simp [PartsAt, he, ha, isObject_of_field? he, isObject_of_field? ha]

/-- Values that are compared as a whole part at this very place or nowhere. -/
theorem reports_of_mixed {e a : Value} (harr : ¬ (e.isArray = true ∧ a.isArray = true))
    (hobj : ¬ (e.isObject = true ∧ a.isObject = true)) (p : Position) :
    Reports e a p ↔ PartsAt e a p := by
  -- There is one difference at most, and it has no step in front.
  have hhere : Reports e a p ↔ p = [] ∧ PartsHere e a := by
    unfold Reports
    rw [diff_of_mixed harr hobj, partsHere_of_mixed harr hobj]
    have single : ∀ f : Finding, (∃ d ∈ [Difference.here f], d.position = p) ↔ p = [] := by
      intro f
      simp only [List.mem_singleton, exists_eq_left]
      exact eq_comm
    by_cases hk : e.kind = a.kind
    · cases hs : e.same a with
      | true => simp [hk]
      | false =>
          rw [if_neg (fun hne => hne hk), if_neg Bool.false_ne_true, single]
          simp
    · rw [if_pos hk, single]
      simp [hk]
  rw [hhere]
  cases p with
  | nil => simp [PartsAt]
  | cons step p =>
      cases step with
      | index i =>
          -- Below lies nothing: one side has no items, and one side no fields.
          have hnone : e.item? i = none ∨ a.item? i = none := by
            cases e with
            | array s xs =>
                cases a with
                | array t ys => exact absurd ⟨rfl, rfl⟩ harr
                | _ => exact Or.inr rfl
            | _ => exact Or.inl rfl
          rcases hnone with h | h <;> simp [PartsAt, h]
      | key k =>
          simp only [reduceCtorEq, false_and, PartsAt, false_iff]
          rintro ⟨he, ha, -⟩
          exact hobj ⟨he, ha⟩

theorem reports_array {s t : ArrayShape} {xs ys : List Value} {p : Position} :
    Reports (.array s xs) (.array t ys) p ↔
      (p = [] ∧ xs.length ≠ ys.length) ∨
      ∃ i x y, xs[i]? = some x ∧ ys[i]? = some y ∧ ∃ q, p = .index i :: q ∧ Reports x y q := by
  unfold Reports
  rw [diff_array]
  constructor
  · rintro ⟨d, hd, rfl⟩
    rcases List.mem_append.mp hd with hd | hd
    · unfold lengthFinding at hd
      split at hd
      · cases hd
      · next hne =>
          rw [List.mem_singleton.mp hd]
          exact Or.inl ⟨rfl, hne⟩
    · obtain ⟨i, x, y, hx, hy, d', hd', rfl⟩ := mem_diffItems.mp hd
      rw [Nat.zero_add]
      exact Or.inr ⟨i, x, y, hx, hy, d'.position, rfl, d', hd', rfl⟩
  · rintro (⟨rfl, hne⟩ | ⟨i, x, y, hx, hy, q, rfl, d, hd, rfl⟩)
    · refine ⟨.here (.lengths xs.length ys.length), List.mem_append_left _ ?_, rfl⟩
      unfold lengthFinding
      rw [if_neg hne]
      exact List.mem_singleton.mpr rfl
    · refine ⟨d.under (.index i), List.mem_append_right _ ?_, rfl⟩
      exact mem_diffItems.mpr ⟨i, x, y, hx, hy, d, hd, by rw [Nat.zero_add]⟩

theorem reports_object {s t : ObjectShape} {fs gs : Fields} {p : Position} :
    Reports (.object s fs) (.object t gs) p ↔
      (∃ f ∈ fs, (Fields.find? f.1 gs = none ∧ p = [.key f.1]) ∨
        ∃ a, Fields.find? f.1 gs = some a ∧ ∃ q, p = .key f.1 :: q ∧ Reports f.2 a q) ∨
      ∃ g ∈ gs, Fields.find? g.1 fs = none ∧ p = [.key g.1] := by
  unfold Reports
  rw [diff_object]
  constructor
  · rintro ⟨d, hd, rfl⟩
    rcases List.mem_append.mp hd with hd | hd
    · obtain ⟨f, hf, ⟨hnone, rfl⟩ | ⟨a, ha, d', hd', rfl⟩⟩ := mem_diffFields.mp hd
      · exact Or.inl ⟨f, hf, Or.inl ⟨hnone, rfl⟩⟩
      · exact Or.inl ⟨f, hf, Or.inr ⟨a, ha, d'.position, rfl, d', hd', rfl⟩⟩
    · obtain ⟨g, hg, hnone, rfl⟩ := mem_surplus.mp hd
      exact Or.inr ⟨g, hg, hnone, rfl⟩
  · rintro (⟨f, hf, ⟨hnone, rfl⟩ | ⟨a, ha, q, rfl, d, hd, rfl⟩⟩ | ⟨g, hg, hnone, rfl⟩)
    · exact ⟨_, List.mem_append_left _ (mem_diffFields.mpr ⟨f, hf, Or.inl ⟨hnone, rfl⟩⟩), rfl⟩
    · exact ⟨d.under (.key f.1), List.mem_append_left _
        (mem_diffFields.mpr ⟨f, hf, Or.inr ⟨a, ha, d, hd, rfl⟩⟩), rfl⟩
    · exact ⟨_, List.mem_append_right _ (mem_surplus.mpr ⟨g, hg, hnone, rfl⟩), rfl⟩

theorem partsAt_key {s t : ObjectShape} {fs gs : Fields} {k : Value} {p : Position} :
    PartsAt (.object s fs) (.object t gs) (.key k :: p) ↔
      match Fields.find? k fs, Fields.find? k gs with
      | some b, some c => PartsAt b c p
      | none, none => False
      | _, _ => p = [] := by
  simp only [PartsAt, isObject, field?, true_and]

/-- What an array comparison reports behind an index. -/
theorem reports_index_iff {s t : ArrayShape} {xs ys : List Value} (i : Nat) (p : Position)
    (ih : ∀ x ∈ xs, ∀ y ∈ ys, (Reports x y p ↔ PartsAt x y p)) :
    Reports (.array s xs) (.array t ys) (.index i :: p) ↔
      PartsAt (.array s xs) (.array t ys) (.index i :: p) := by
  rw [reports_array]
  simp only [reduceCtorEq, false_and, false_or, List.cons.injEq, Step.index.injEq, PartsAt, item?]
  constructor
  · rintro ⟨_, x, y, hx, hy, q, ⟨rfl, rfl⟩, hq⟩
    exact ⟨x, y, hx, hy,
      (ih x (List.mem_of_getElem? hx) y (List.mem_of_getElem? hy)).mp hq⟩
  · rintro ⟨x, y, hx, hy, hp⟩
    exact ⟨i, x, y, hx, hy, p, ⟨rfl, rfl⟩,
      (ih x (List.mem_of_getElem? hx) y (List.mem_of_getElem? hy)).mpr hp⟩

/-- What an object comparison reports below a key, where each key stands once. -/
theorem reports_key_iff {fs gs : Fields} (hfs : fieldsAreNamed fs = true)
    (hgs : fieldsAreNamed gs = true) (k : Value) (p : Position)
    (ih : ∀ f ∈ fs, ∀ a, Fields.find? f.1 gs = some a → (Reports f.2 a p ↔ PartsAt f.2 a p)) :
    Reports (.ofFields fs) (.ofFields gs) (.key k :: p) ↔
      PartsAt (.ofFields fs) (.ofFields gs) (.key k :: p) := by
  rw [reports_object, partsAt_key]
  simp only [List.cons.injEq, Step.key.injEq]
  constructor
  -- Missing on the second side, different on both, or unexpected on the second.
  · rintro (⟨⟨_, e⟩, hf, ⟨hnone, rfl, rfl⟩ | ⟨a, ha, q, ⟨rfl, rfl⟩, hq⟩⟩ | ⟨⟨_, a⟩, hg, hnone, rfl, rfl⟩)
    · rw [(find?_eq_some_iff hfs).mpr hf, hnone]
    · rw [(find?_eq_some_iff hfs).mpr hf, ha]
      exact (ih _ hf a ha).mp hq
    · rw [(find?_eq_some_iff hgs).mpr hg, hnone]
  · intro h
    cases he : Fields.find? k fs with
    | none =>
        cases ha : Fields.find? k gs with
        | none => rw [he, ha] at h; exact h.elim
        | some a =>
            rw [he, ha] at h
            exact Or.inr ⟨(k, a), (find?_eq_some_iff hgs).mp ha, he, rfl, h⟩
    | some e =>
        have hf := (find?_eq_some_iff hfs).mp he
        cases ha : Fields.find? k gs with
        | none =>
            rw [he, ha] at h
            exact Or.inl ⟨(k, e), hf, Or.inl ⟨ha, rfl, h⟩⟩
        | some a =>
            rw [he, ha] at h
            exact Or.inl ⟨(k, e), hf, Or.inr ⟨a, ha, p, ⟨rfl, rfl⟩, (ih _ hf a ha).mpr h⟩⟩

/-- **The comparison reports exactly the positions at which two trees part.** -/
theorem reports_iff_partsAt (e a : Value) (he : e.isResponse = true) (ha : a.isResponse = true)
    (p : Position) : Reports e a p ↔ PartsAt e a p := by
  -- The induction walks as the comparison does; at each pair the position says where to go on.
  induction e, a, he, ha using Value.inductPair generalizing p with
  | mixed e a he ha harr hobj => exact reports_of_mixed harr hobj p
  | items s t xs ys hxs hys ih =>
      cases p with
      | nil => simp [reports_array, PartsAt, PartsHere]
      | cons step p =>
          cases step with
          | index i => exact reports_index_iff i p (fun x hx y hy => ih x hx y hy p)
          | key k => simp [reports_array, PartsAt, isObject]
  | fields fs gs hfs hgs ih =>
      cases p with
      | nil => simp [reports_object, PartsAt, PartsHere]
      | cons step p =>
          cases step with
          | index i => simp [reports_object, PartsAt, item?]
          | key k =>
              obtain ⟨-, hnamed, -⟩ := isResponse_object.mp hfs
              obtain ⟨-, hnamed', -⟩ := isResponse_object.mp hgs
              exact reports_key_iff hnamed hnamed' k p (fun f hf b hb => ih f hf b hb p)

/-! ## §4. Where nothing is reported. -/

/-- Two arrays have no differences just if they are equally long and their items have none. -/
theorem diff_items_eq_nil_iff {s t : ArrayShape} {xs ys : List Value} :
    (Value.array s xs).diff (.array t ys) = [] ↔
      xs.length = ys.length ∧
        ∀ (i : Nat) (x y : Value), xs[i]? = some x → ys[i]? = some y → x.diff y = [] := by
  rw [diff_array, List.append_eq_nil_iff]
  refine and_congr ?_ ⟨fun hnil i x y hx hy => ?_, fun hall => ?_⟩
  · unfold lengthFinding
    split
    · next heq => simp [heq]
    · next hne => simp [hne]
  · refine List.eq_nil_iff_forall_not_mem.mpr (fun d hd => ?_)
    exact List.eq_nil_iff_forall_not_mem.mp hnil _
      (mem_diffItems.mpr ⟨i, x, y, hx, hy, d, hd, rfl⟩)
  · refine List.eq_nil_iff_forall_not_mem.mpr (fun d hd => ?_)
    obtain ⟨i, x, y, hx, hy, d', hd', -⟩ := mem_diffItems.mp hd
    rw [hall i x y hx hy] at hd'
    cases hd'

/-- Two objects with named fields have no differences just if they have the same keys and the values
under each of them have none. -/
theorem diff_fields_eq_nil_iff {fs gs : Fields} (hfs : fieldsAreNamed fs = true)
    (hgs : fieldsAreNamed gs = true) :
    (Value.ofFields fs).diff (.ofFields gs) = [] ↔
      (∀ k, Fields.has k fs = Fields.has k gs) ∧
        ∀ k b c, Fields.find? k fs = some b → Fields.find? k gs = some c → b.diff c = [] := by
  rw [Value.ofFields, Value.ofFields, diff_object, List.eq_nil_iff_forall_not_mem]
  constructor
  · intro hnil
    refine ⟨fun k => ?_, fun k b c hb hc => List.eq_nil_iff_forall_not_mem.mpr (fun d hd => ?_)⟩
    · unfold Fields.has
      cases hb : Fields.find? k fs with
      | none =>
          cases hc : Fields.find? k gs with
          | none => rfl
          | some c =>
              exact absurd (List.mem_append_right _ (mem_surplus.mpr
                ⟨(k, c), (find?_eq_some_iff hgs).mp hc, hb, rfl⟩)) (hnil _)
      | some b =>
          cases hc : Fields.find? k gs with
          | some c => rfl
          | none =>
              exact absurd (List.mem_append_left _ (mem_diffFields.mpr
                ⟨(k, b), (find?_eq_some_iff hfs).mp hb, Or.inl ⟨hc, rfl⟩⟩)) (hnil _)
    · exact hnil _ (List.mem_append_left _ (mem_diffFields.mpr
        ⟨(k, b), (find?_eq_some_iff hfs).mp hb, Or.inr ⟨c, hc, d, hd, rfl⟩⟩))
  · rintro ⟨hkeys, hvalues⟩ d hd
    rcases List.mem_append.mp hd with hd | hd
    · obtain ⟨f, hf, ⟨hnone, -⟩ | ⟨c, hc, d', hd', -⟩⟩ := mem_diffFields.mp hd
      · have hkey := hkeys f.1
        rw [Fields.has, Fields.has, (find?_eq_some_iff hfs).mpr hf, hnone] at hkey
        cases hkey
      · rw [hvalues f.1 f.2 c ((find?_eq_some_iff hfs).mpr hf) hc] at hd'
        cases hd'
    · obtain ⟨g, hg, hnone, -⟩ := mem_surplus.mp hd
      have hkey := hkeys g.1
      rw [Fields.has, Fields.has, hnone, (find?_eq_some_iff hgs).mpr hg] at hkey
      cases hkey

end Golden.Value

/-
  Golden.Proofs.Diff.Hidden
  ────────────────────────────────
  **A MASK HIDES WHAT IT NAMES AND NOTHING ELSE.**

  Two responses are cleaned by the same mask and compared.  The comparison
  reports what it would report of the responses themselves, save the positions
  on whose way the mask takes both sides away:

      Reports (sanitize mask x) (sanitize mask y) p
        ↔  Reports x y p  ∧  ¬ Hidden mask x y p

  `Leads` walks the mask along a position together with the two responses,
  and `HidesKey` says at which keys the way ends hidden.  A key that stands on
  one side only is hidden by deletion alone, and a nested rule hides nothing
  where only one side has an object.
-/
import Golden.Proofs.Diff.Positions
import Golden.Proofs.Sanitize.Pure

namespace Golden

open Value

/-! ## §1. Walking a mask along a position. -/

/-- Walking from a mask and two values along a position leads to a mask and two values: an index
keeps the mask, a key without a rule continues with no mask, and a key with a nested rule continues
with that rule where both sides have an object. -/
inductive Leads : Mask → Value → Value → Position → Mask → Value → Value → Prop
  | here (mask : Mask) (x y : Value) : Leads mask x y [] mask x y
  | item {mask n : Mask} {x y b c d e : Value} {i : Nat} {p : Position} :
      x.item? i = some b → y.item? i = some c → Leads mask b c p n d e →
      Leads mask x y (.index i :: p) n d e
  | plain {mask n : Mask} {x y b c d e k : Value} {p : Position} :
      mask.ruleFor k = none → x.field? k = some b → y.field? k = some c →
      Leads Mask.empty b c p n d e → Leads mask x y (.key k :: p) n d e
  | nested {mask below n : Mask} {x y b c d e k : Value} {p : Position} :
      mask.ruleFor k = some (.nested below) → x.field? k = some b → y.field? k = some c →
      b.isObject = true → c.isObject = true →
      Leads below b c p n d e → Leads mask x y (.key k :: p) n d e

/-- Whether a mask hides all that two values have under a key: a deleted key, a replaced one that
both sides have, and one with a nested rule under which neither side has an object. -/
inductive HidesKey (mask : Mask) (x y k : Value) : Prop
  | deleted : mask.ruleFor k = some (.act .delete) → HidesKey mask x y k
  | replaced : mask.ruleFor k = some (.act .replace) → (x.field? k).isSome = true →
      (y.field? k).isSome = true → HidesKey mask x y k
  | whole {below : Mask} {b c : Value} : mask.ruleFor k = some (.nested below) →
      x.field? k = some b → y.field? k = some c → b.isObject = false → c.isObject = false →
      HidesKey mask x y k

/-- Whether a mask hides a position of two values: on its way stands a key that is hidden. -/
def Hidden (mask : Mask) (x y : Value) (p : Position) : Prop :=
  ∃ (q : Position) (k : Value) (r : Position) (n : Mask) (b c : Value),
    p = q ++ .key k :: r ∧ Leads mask x y q n b c ∧ HidesKey n b c k

theorem hidden_nil {mask : Mask} {x y : Value} : ¬ Hidden mask x y [] := by
  rintro ⟨q, k, r, n, b, c, h, -, -⟩
  simp at h

theorem hidden_index {mask : Mask} {x y : Value} {i : Nat} {p : Position} :
    Hidden mask x y (.index i :: p) ↔
      ∃ b c, x.item? i = some b ∧ y.item? i = some c ∧ Hidden mask b c p := by
  constructor
  · rintro ⟨q, k, r, n, b, c, h, hleads, hkey⟩
    cases hleads with
    | here => simp at h
    | item hx hy hrest =>
        obtain ⟨hi, rfl⟩ := List.cons.inj h
        obtain rfl := Step.index.inj hi
        exact ⟨_, _, hx, hy, _, k, r, n, b, c, rfl, hrest, hkey⟩
    | plain => simp at h
    | nested => simp at h
  · rintro ⟨d, e, hx, hy, q, k, r, n, b, c, rfl, hleads, hkey⟩
    exact ⟨.index i :: q, k, r, n, b, c, rfl, .item hx hy hleads, hkey⟩

/-- A position behind a key is hidden at this key or behind it. -/
theorem hidden_key {mask : Mask} {x y k : Value} {p : Position} :
    Hidden mask x y (.key k :: p) ↔ HidesKey mask x y k ∨
      ∃ b c, x.field? k = some b ∧ y.field? k = some c ∧
        ((mask.ruleFor k = none ∧ Hidden Mask.empty b c p) ∨
          ∃ below, mask.ruleFor k = some (.nested below) ∧ b.isObject = true ∧
            c.isObject = true ∧ Hidden below b c p) := by
  constructor
  -- The hidden key is this one, or the way to it goes through this one by a rule of the mask.
  · rintro ⟨q, k', r, n, b, c, h, hleads, hkey⟩
    cases hleads with
    | here =>
        obtain ⟨hk, rfl⟩ := List.cons.inj h
        obtain rfl := Step.key.inj hk
        exact Or.inl hkey
    | item => simp at h
    | plain hrule hx hy hrest =>
        obtain ⟨hk, rfl⟩ := List.cons.inj h
        obtain rfl := Step.key.inj hk
        exact Or.inr ⟨_, _, hx, hy, Or.inl ⟨hrule, _, k', r, n, b, c, rfl, hrest, hkey⟩⟩
    | nested hrule hx hy hb hc hrest =>
        obtain ⟨hk, rfl⟩ := List.cons.inj h
        obtain rfl := Step.key.inj hk
        exact Or.inr ⟨_, _, hx, hy,
          Or.inr ⟨_, hrule, hb, hc, _, k', r, n, b, c, rfl, hrest, hkey⟩⟩
  · rintro (hkey | ⟨d, e, hx, hy, ⟨hrule, q, k', r, n, b, c, rfl, hleads, hkey⟩ |
      ⟨below, hrule, hd, he, q, k', r, n, b, c, rfl, hleads, hkey⟩⟩)
    · exact ⟨[], k, p, mask, x, y, rfl, .here mask x y, hkey⟩
    · exact ⟨.key k :: q, k', r, n, b, c, rfl, .plain hrule hx hy hleads, hkey⟩
    · exact ⟨.key k :: q, k', r, n, b, c, rfl, .nested hrule hx hy hd he hleads, hkey⟩

/-! ## §2. Which keys are hidden. -/

/-- A key without a rule is not hidden. -/
theorem not_hidesKey_of_no_rule {mask : Mask} {x y k : Value} (h : mask.ruleFor k = none) :
    ¬ HidesKey mask x y k := by
  intro hkey
  cases hkey with
  | deleted hrule => simp [h] at hrule
  | replaced hrule => simp [h] at hrule
  | whole hrule => simp [h] at hrule

/-- A key that both sides have is hidden by any action. -/
theorem hidesKey_of_action {mask : Mask} {x y k b c : Value} {a : Action}
    (hrule : mask.ruleFor k = some (.act a)) (hb : x.field? k = some b)
    (hc : y.field? k = some c) : HidesKey mask x y k := by
  cases a with
  | delete => exact .deleted hrule
  | replace => exact .replaced hrule (by simp [hb]) (by simp [hc])

/-- A key with a nested rule that both sides have is hidden where neither side has an object. -/
theorem hidesKey_nested_iff {mask below : Mask} {x y k b c : Value}
    (hrule : mask.ruleFor k = some (.nested below)) (hb : x.field? k = some b)
    (hc : y.field? k = some c) :
    HidesKey mask x y k ↔ b.isObject = false ∧ c.isObject = false := by
  constructor
  · intro hkey
    cases hkey with
    | deleted h => simp [hrule] at h
    | replaced h => simp [hrule] at h
    | whole _ hb' hc' hbo hco =>
        obtain rfl := Option.some.inj (hb.symm.trans hb')
        obtain rfl := Option.some.inj (hc.symm.trans hc')
        exact ⟨hbo, hco⟩
  · rintro ⟨hbo, hco⟩
    exact .whole hrule hb hc hbo hco

/-- A key that one side lacks is hidden by deletion alone. -/
theorem hidesKey_of_one_side {mask : Mask} {x y k : Value}
    (h : x.field? k = none ∨ y.field? k = none) :
    HidesKey mask x y k ↔ mask.ruleFor k = some (.act .delete) := by
  constructor
  · intro hkey
    cases hkey with
    | deleted hrule => exact hrule
    | replaced _ hx hy => rcases h with h | h <;> simp [h] at hx hy
    | whole _ hx hy => rcases h with h | h <;> simp [h] at hx hy
  · exact .deleted

/-! ## §3. Where cleaned values part. -/

/-- Cleaning keeps whether two values part at this very place. -/
theorem partsHere_sanitize (mask : Mask) (x y : Value) :
    PartsHere (sanitize mask x) (sanitize mask y) ↔ PartsHere x y := by
  by_cases harr : x.isArray = true ∧ y.isArray = true
  · cases x with
    | array s xs =>
        cases y with
        | array t ys =>
            unfold sanitize
            rw [sanitizeBy_array, sanitizeBy_array]
            simp [PartsHere]
        | _ => cases harr.2
    | _ => cases harr.1
  -- Objects never part at their own place.
  by_cases hobj : x.isObject = true ∧ y.isObject = true
  · cases x with
    | object s fs =>
        cases y with
        | object t gs =>
            unfold sanitize
            rw [sanitizeBy_object, sanitizeBy_object]
            exact Iff.rfl
        | _ => cases hobj.2
    | _ => cases hobj.1
  -- What is left differs in kind, or is two scalars, which cleaning leaves alone.
  have harr' : ¬ ((sanitize mask x).isArray = true ∧ (sanitize mask y).isArray = true) := by
    rwa [isArray_iff_kind, isArray_iff_kind, kind_sanitize, kind_sanitize, ← isArray_iff_kind,
      ← isArray_iff_kind]
  have hobj' : ¬ ((sanitize mask x).isObject = true ∧ (sanitize mask y).isObject = true) := by
    rwa [isObject_sanitize, isObject_sanitize]
  rw [partsHere_of_mixed harr hobj, partsHere_of_mixed harr' hobj', kind_sanitize, kind_sanitize]
  by_cases hk : x.kind = y.kind
  · have hscalar : x.isScalar = true := isScalar_iff_kind.mpr
      ⟨fun h => harr ⟨isArray_iff_kind.mpr h, isArray_iff_kind.mpr (hk ▸ h)⟩,
        fun h => hobj ⟨isObject_iff_kind.mpr h, isObject_iff_kind.mpr (hk ▸ h)⟩⟩
    have hscalar' : y.isScalar = true :=
      isScalar_iff_kind.mpr (hk ▸ isScalar_iff_kind.mp hscalar)
    rw [sanitize_scalar mask hscalar, sanitize_scalar mask hscalar']
  · simp [hk]

/-! ## §4. What is reported. -/

/-- A key of a value of the interchange format leads somewhere only if it is a text. -/
theorem field?_of_not_isText {v k : Value} (hv : v.isJson = true) (hk : k.isText = false) :
    v.field? k = none := by
  cases h : v.field? k with
  | none => rfl
  | some w =>
      rw [(isJson_of_field? hv h).1] at hk
      cases hk

/-- The same text for both sides parts nowhere. -/
theorem not_partsAt_removed (p : Position) : ¬ PartsAt removed removed p := by
  cases p with
  | nil => simp [PartsAt, PartsHere, removed, same]
  | cons step p =>
      cases step with
      | index i => simp [PartsAt, removed, item?]
      | key k => simp [PartsAt, removed, isObject]

/-- An object and anything else part by their kind and nowhere below. -/
theorem partsAt_of_one_object {x y : Value} (h : x.isObject ≠ y.isObject) (p : Position) :
    PartsAt x y p ↔ p = [] := by
  have hobj : ¬ (x.isObject = true ∧ y.isObject = true) := fun hb => h (hb.1.trans hb.2.symm)
  cases p with
  | nil =>
      have hkind : x.kind ≠ y.kind := by
        intro hk
        refine h (Bool.eq_iff_iff.mpr ?_)
        rw [isObject_iff_kind, isObject_iff_kind, hk]
      have harr : ¬ (x.isArray = true ∧ y.isArray = true) := fun hb =>
        hkind ((isArray_iff_kind.mp hb.1).trans (isArray_iff_kind.mp hb.2).symm)
      simp [PartsAt, partsHere_of_mixed harr hobj, hkind]
  | cons step p =>
      cases step with
      | index i =>
          have hnone : x.item? i = none ∨ y.item? i = none := by
            cases x with
            | array s xs =>
                cases y with
                | object t gs => exact Or.inr rfl
                | _ => exact absurd rfl h
            | _ => exact Or.inl rfl
          rcases hnone with hnone | hnone <;> simp [PartsAt, hnone]
      | key k =>
          simp only [PartsAt, reduceCtorEq, iff_false]
          rintro ⟨hx, hy, -⟩
          exact hobj ⟨hx, hy⟩

/-- Under a nested rule objects are cleaned by that rule, and anything else becomes the same text; so
a difference is lost there only where neither side has an object. -/
theorem partsAt_nested_sanitize {below : Mask} {b c : Value} {p : Position}
    (ih : PartsAt (sanitize below b) (sanitize below c) p ↔
      PartsAt b c p ∧ ¬ Hidden below b c p) :
    PartsAt (if b.isObject then sanitize below b else removed)
        (if c.isObject then sanitize below c else removed) p ↔
      PartsAt b c p ∧ ¬ ((b.isObject = false ∧ c.isObject = false) ∨
        (b.isObject = true ∧ c.isObject = true ∧ Hidden below b c p)) := by
  -- A cleaned object is an object still and the text is none, so one object stays one object.
  have hremoved : removed.isObject = false := rfl
  cases hb : b.isObject with
  | true =>
      cases hc : c.isObject with
      | true => simp [ih]
      | false =>
          have hbefore : b.isObject ≠ c.isObject := by simp [hb, hc]
          have hafter : (sanitize below b).isObject ≠ removed.isObject := by
            simp [isObject_sanitize, hb, hremoved]
          simp [partsAt_of_one_object hbefore, partsAt_of_one_object hafter]
  | false =>
      cases hc : c.isObject with
      | true =>
          have hbefore : b.isObject ≠ c.isObject := by simp [hb, hc]
          have hafter : removed.isObject ≠ (sanitize below c).isObject := by
            simp [isObject_sanitize, hc, hremoved]
          simp [partsAt_of_one_object hbefore, partsAt_of_one_object hafter]
      | false => simp [not_partsAt_removed]

/-- What two objects have under a key parts there after cleaning just if it parted before and the
mask does not hide it, provided that this is so of the values under the key. -/
theorem partsAt_key_sanitize {mask : Mask} {x y : Value} (hx : x.isObject = true)
    (hy : y.isObject = true) (s : String) (p : Position)
    (ih : ∀ n b c, x.field? (.text s) = some b → y.field? (.text s) = some c →
      (PartsAt (sanitize n b) (sanitize n c) p ↔ PartsAt b c p ∧ ¬ Hidden n b c p)) :
    PartsAt (sanitize mask x) (sanitize mask y) (.key (.text s) :: p) ↔
      PartsAt x y (.key (.text s) :: p) ∧ ¬ Hidden mask x y (.key (.text s) :: p) := by
  rw [hidden_key]
  simp only [PartsAt, isObject_sanitize, hx, hy, true_and, field?_sanitize]
  -- First which of the sides have the key, then what the mask says about it.
  cases hb : x.field? (.text s) with
  | none =>
      cases hc : y.field? (.text s) with
      | none => simp
      | some c =>
          rw [hidesKey_of_one_side (Or.inl hb), ← cleanedValue?_eq_none_iff keepValue c]
          cases hw : cleanedValue? keepValue mask (.text s) c <;> simp [hw]
  | some b =>
      cases hc : y.field? (.text s) with
      | none =>
          rw [hidesKey_of_one_side (Or.inr hc), ← cleanedValue?_eq_none_iff keepValue b]
          cases hw : cleanedValue? keepValue mask (.text s) b <;> simp [hw]
      | some c =>
          simp only [Option.bind_some, cleanedValue?_keepValue]
          cases hrule : mask.ruleFor (.text s) with
          | none => simp [not_hidesKey_of_no_rule hrule, ih Mask.empty b c hb hc]
          | some rule =>
              cases rule with
              | act a =>
                  have hkey : HidesKey mask x y (.text s) := hidesKey_of_action hrule hb hc
                  cases a <;> simp [hkey, not_partsAt_removed]
              | nested below =>
                  rw [hidesKey_nested_iff hrule hb hc]
                  simpa using partsAt_nested_sanitize (ih below b c hb hc)

/-- **The comparison of two cleaned values sees exactly the differences that are not hidden.** -/
theorem partsAt_sanitize (mask : Mask) (x y : Value) (hx : x.isJson = true) (hy : y.isJson = true)
    (p : Position) :
    PartsAt (sanitize mask x) (sanitize mask y) p ↔ PartsAt x y p ∧ ¬ Hidden mask x y p := by
  -- Along the position, as `PartsAt` and `Hidden` go; the mask changes on the way.
  induction p generalizing mask x y with
  | nil =>
      show PartsHere _ _ ↔ PartsHere x y ∧ _
      rw [partsHere_sanitize]
      exact ⟨fun h => ⟨h, hidden_nil⟩, And.left⟩
  | cons step p ih =>
      cases step with
      | index i =>
          rw [hidden_index]
          simp only [PartsAt, item?_sanitize]
          cases hb : x.item? i with
          | none => simp
          | some b =>
              cases hc : y.item? i with
              | none => simp
              | some c =>
                  simpa using ih mask b c (isJson_of_item? hx hb) (isJson_of_item? hy hc)
      | key k =>
          by_cases hobj : x.isObject = true ∧ y.isObject = true
          · cases hk : k.isText with
            | true =>
                obtain ⟨s, rfl⟩ := isText_iff.mp hk
                exact partsAt_key_sanitize hobj.1 hobj.2 s p (fun n b c hb hc =>
                  ih n b c (isJson_of_field? hx hb).2 (isJson_of_field? hy hc).2)
            -- No field of either side is found under a key that is no text, before or after.
            | false =>
                simp [PartsAt, field?_of_not_isText hx hk, field?_of_not_isText hy hk,
                  field?_of_not_isText (isJson_sanitize mask hx) hk,
                  field?_of_not_isText (isJson_sanitize mask hy) hk]
          · simp only [PartsAt, isObject_sanitize]
            constructor
            · rintro ⟨h1, h2, -⟩
              exact absurd ⟨h1, h2⟩ hobj
            · rintro ⟨⟨h1, h2, -⟩, -⟩
              exact absurd ⟨h1, h2⟩ hobj

/-! ## §5. Below a place that the mask leads to. -/

/-- Walking keeps where two values part. -/
theorem partsAt_append {mask n : Mask} {x y b c : Value} {q : Position}
    (h : Leads mask x y q n b c) (p : Position) : PartsAt x y (q ++ p) ↔ PartsAt b c p := by
  induction h with
  | here => exact Iff.rfl
  | item hx hy _ ih => simpa [PartsAt, hx, hy] using ih
  | plain _ hx hy _ ih => exact (partsAt_field hx hy).trans ih
  | nested _ hx hy _ _ _ ih => exact (partsAt_field hx hy).trans ih

/-- Walking keeps what is hidden. -/
theorem hidden_append {mask n : Mask} {x y b c : Value} {q : Position}
    (h : Leads mask x y q n b c) (p : Position) : Hidden mask x y (q ++ p) ↔ Hidden n b c p := by
  induction h with
  | here => exact Iff.rfl
  | item hx hy _ ih =>
      rw [List.cons_append, hidden_index]
      simpa [hx, hy] using ih
  | plain hrule hx hy _ ih =>
      rw [List.cons_append, hidden_key]
      simpa [not_hidesKey_of_no_rule hrule, hrule, hx, hy] using ih
  | @nested mask _ _ x y _ _ _ _ k _ hrule hx hy hb hc _ ih =>
      have hkey : ¬ HidesKey mask x y k := by
        rw [hidesKey_nested_iff hrule hx hy, hb]
        exact fun h => Bool.noConfusion h.1
      rw [List.cons_append, hidden_key]
      simpa [hkey, hrule, hx, hy, hb, hc] using ih

/-- The way to a key that is not hidden is not hidden either. -/
theorem not_hidden_at_key {mask n : Mask} {x y b c k : Value} {q : Position}
    (h : Leads mask x y q n b c) (hkey : ¬ HidesKey n b c k) :
    ¬ Hidden mask x y (q ++ [.key k]) := by
  rw [hidden_append h, hidden_key]
  rintro (hk | ⟨d, e, -, -, ⟨-, hd⟩ | ⟨below, -, -, -, hd⟩⟩)
  · exact hkey hk
  · exact hidden_nil hd
  · exact hidden_nil hd

/-! ## §6. The comparison of cleaned responses. -/

section Reported

variable {mask n : Mask} {x y b c k : Value} {q : Position}

theorem reports_sanitize (mask : Mask) {x y : Value} (hx : x.isJson = true) (hy : y.isJson = true)
    (p : Position) :
    Reports (sanitize mask x) (sanitize mask y) p ↔ Reports x y p ∧ ¬ Hidden mask x y p := by
  rw [reports_iff_partsAt _ _ (isResponse_of_isJson _ (isJson_sanitize mask hx))
      (isResponse_of_isJson _ (isJson_sanitize mask hy)),
    reports_iff_partsAt x y (isResponse_of_isJson x hx) (isResponse_of_isJson y hy)]
  exact partsAt_sanitize mask x y hx hy p

/-- A key that one side lacks is reported wherever the mask leads to, unless it is deleted there. -/
theorem reports_key_of_one_side (hx : x.isJson = true) (hy : y.isJson = true)
    (hleads : Leads mask x y q n b c) (hb : b.isObject = true) (hc : c.isObject = true)
    (hrule : n.ruleFor k ≠ some (.act .delete))
    (hside : (b.field? k).isSome ≠ (c.field? k).isSome) :
    Reports (sanitize mask x) (sanitize mask y) (q ++ [.key k]) := by
  have hlack : b.field? k = none ∨ c.field? k = none := by
    cases hd : b.field? k with
    | none => exact Or.inl rfl
    | some d =>
        cases he : c.field? k with
        | none => exact Or.inr rfl
        | some e => simp [hd, he] at hside
  have hkey : ¬ HidesKey n b c k := by
    rw [hidesKey_of_one_side hlack]
    exact hrule
  refine (reports_sanitize mask hx hy _).mpr ⟨?_, not_hidden_at_key hleads hkey⟩
  rw [reports_iff_partsAt x y (isResponse_of_isJson x hx) (isResponse_of_isJson y hy),
    partsAt_append hleads]
  refine ⟨hb, hc, ?_⟩
  cases hd : b.field? k <;> cases he : c.field? k <;> simp [hd, he] at hside ⊢

/-- A key with a nested rule under which only one side has an object is reported. -/
theorem reports_key_of_one_object {below : Mask} {d e : Value} (hx : x.isJson = true)
    (hy : y.isJson = true) (hleads : Leads mask x y q n b c)
    (hrule : n.ruleFor k = some (.nested below)) (hd : b.field? k = some d)
    (he : c.field? k = some e) (hside : d.isObject ≠ e.isObject) :
    Reports (sanitize mask x) (sanitize mask y) (q ++ [.key k]) := by
  have hkey : ¬ HidesKey n b c k := by
    rw [hidesKey_nested_iff hrule hd he]
    exact fun h => hside (h.1.trans h.2.symm)
  refine (reports_sanitize mask hx hy _).mpr ⟨?_, not_hidden_at_key hleads hkey⟩
  rw [reports_iff_partsAt x y (isResponse_of_isJson x hx) (isResponse_of_isJson y hy),
    partsAt_append hleads, partsAt_field hd he]
  exact (partsAt_of_one_object hside []).mpr rfl

end Reported

/-- **The comparison sees exactly the differences that a mask does not hide.**  Wherever the mask
leads to, a key with a rule other than deletion that one side lacks is still reported, and so is a
key with a nested rule under which only one side has an object. -/
theorem reports_sanitize_iff (spec x y : Value) (hx : x.isJson = true) (hy : y.isJson = true) :
    let mask := Mask.compile spec
    let x' := sanitize mask x
    let y' := sanitize mask y
    x.report? y = some ((x.diff y).map (·.line)) ∧
    x'.report? y' = some ((x'.diff y').map (·.line)) ∧
    (∀ p, Reports x' y' p ↔ Reports x y p ∧ ¬ Hidden mask x y p) ∧
    (∀ q n b c k, Leads mask x y q n b c → b.isObject = true → c.isObject = true →
      (∃ rule, n.ruleFor k = some rule ∧ rule ≠ .act .delete) →
      (b.field? k).isSome ≠ (c.field? k).isSome → Reports x' y' (q ++ [.key k])) ∧
    (∀ q n b c k below d e, Leads mask x y q n b c → n.ruleFor k = some (.nested below) →
      b.field? k = some d → c.field? k = some e → d.isObject ≠ e.isObject →
      Reports x' y' (q ++ [.key k])) := by
  intro mask x' y'
  refine ⟨report?_of_isJson hx hy,
    report?_of_isJson (isJson_sanitize mask hx) (isJson_sanitize mask hy),
    reports_sanitize mask hx hy, ?_, ?_⟩
  · intro q n b c k hleads hb hc hrule hside
    obtain ⟨rule, hrule, hne⟩ := hrule
    refine reports_key_of_one_side hx hy hleads hb hc ?_ hside
    rw [hrule]
    exact fun h => hne (Option.some.inj h)
  · intro q n b c k below d e hleads hrule hd he hside
    exact reports_key_of_one_object hx hy hleads hrule hd he hside

/-- A nested rule over an object on one side only: the key itself is still reported. -/
theorem reports_nested_rule_on_one_object :
    let spec : Value := .ofFields [(.text "a", .ofFields [(.text "b", .bool true)])]
    let x : Value := .ofFields [(.text "a", .ofFields [(.text "b", .null)])]
    let y : Value := .ofFields [(.text "a", .bool true)]
    Reports (sanitize (Mask.compile spec) x) (sanitize (Mask.compile spec) y)
      [.key (.text "a")] := by
  intro spec x y
  have hrule : (Mask.compile spec).ruleFor (.text "a") =
      some (.nested [("b", .act .replace)]) := by
    simp [spec, Mask.compile, Mask.entries, Mask.rule, Mask.put, Mask.ruleFor, Mask.find?, plain]
  have hx : x.field? (.text "a") = some (.ofFields [(.text "b", .null)]) := by
    simp [x, field?, Fields.find?, same]
  have hy : y.field? (.text "a") = some (.bool true) := by
    simp [y, field?, Fields.find?, same]
  exact (reports_sanitize_iff spec x y (by decide) (by decide)).2.2.2.2 [] _ x y _ _ _ _
    (.here _ _ _) hrule hx hy (by decide)

end Golden

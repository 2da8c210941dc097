/-
  Golden.Proofs.Sanitize.Pure
  ────────────────────────────────
  **CLEANING WITHOUT EFFECTS.**

  With a transform that has no effects the walk over a response is a map over
  the items of an array and over the fields of an object that the mask leaves:

      sanitizeBy t mask [x, …]     =  [sanitizeBy t mask x, …]
      sanitizeBy t mask {k: v, …}  =  {k: w, …}   for each  cleanedValue? t mask k v = some w

  So a cleaned response can be entered step by step like the response itself,
  and a response of the interchange format is cleaned to one.
-/
import Golden.Proofs.Value.Json
import Golden.BlackLab

namespace Golden

open Value

/-! ## §1. One field. -/

/-- The value of a field without a rule, cleaned. -/
def fieldBy (transform : Call → Value) (key : Value) : Value → Value
  | .array _ xs =>
      .ofItems (xs.map (fun x => transform ⟨sanitizeBy transform Mask.empty x, some key⟩))
  | .object shape fs => sanitizeBy transform Mask.empty (.object shape fs)
  | v => transform ⟨v, some key⟩

/-- What a mask leaves of the value under a key. -/
def cleanedValue? (transform : Call → Value) (mask : Mask) (key v : Value) : Option Value :=
  match mask.ruleFor key with
  | none => some (fieldBy transform key v)
  | some (.nested below) => some (if v.isObject then sanitizeBy transform below v else removed)
  | some (.act .delete) => none
  | some (.act .replace) => some removed

/-- The fields that a mask leaves, cleaned. -/
def cleanedFields (transform : Call → Value) (mask : Mask) (fs : Fields) : Fields :=
  fs.filterMap (fun f => (cleanedValue? transform mask f.1 f.2).map (fun w => (f.1, w)))

theorem cleanedValue?_eq_none_iff (transform : Call → Value) {mask : Mask} {key : Value} (v : Value) :
    cleanedValue? transform mask key v = none ↔ mask.ruleFor key = some (.act .delete) := by
  unfold cleanedValue?
  cases mask.ruleFor key with
  | none => simp
  | some rule =>
      cases rule with
      | nested below => simp
      | act a => cases a <;> simp

/-! ## §2. The walk as a map. -/

section Map

variable (transform : Call → Value)

theorem run_sanitizeItems (mask : Mask) (xs : List Value) :
    Id.run (sanitizeItems (fun c => pure (transform c)) mask xs) =
      xs.map (sanitizeBy transform mask) := by
  induction xs with
  | nil => rfl
  | cons x xs ih =>
      rw [List.map_cons, ← ih]
      rfl

theorem run_sanitizeKeyed (key : Value) (xs : List Value) :
    Id.run (sanitizeKeyed (fun c => pure (transform c)) key xs) =
      xs.map (fun x => transform ⟨sanitizeBy transform Mask.empty x, some key⟩) := by
  induction xs with
  | nil => rfl
  | cons x xs ih =>
      rw [List.map_cons, ← ih]
      rfl

theorem run_sanitizeField (key v : Value) :
    Id.run (sanitizeField (fun c => pure (transform c)) key v) = fieldBy transform key v := by
  cases v with
  | array shape xs =>
      simp only [fieldBy]
      rw [← run_sanitizeKeyed]
      rfl
  | _ => rfl

theorem run_sanitizeBelow (mask : Mask) (v : Value) :
    Id.run (sanitizeBelow (fun c => pure (transform c)) mask v) =
      if v.isObject then sanitizeBy transform mask v else removed := by
  cases v <;> rfl

theorem run_sanitizeFields (mask : Mask) (fs : Fields) :
    Id.run (sanitizeFields (fun c => pure (transform c)) mask fs) =
      cleanedFields transform mask fs := by
  induction fs with
  | nil => rfl
  | cons f fs ih =>
      obtain ⟨k, v⟩ := f
      unfold sanitizeFields cleanedFields
      rw [List.filterMap_cons]
      cases hrule : mask.ruleFor k with
      | none =>
          simp only [cleanedValue?, hrule, Option.map_some]
          rw [← run_sanitizeField]
          exact congrArg (List.cons _) ih
      | some rule =>
          cases rule with
          | nested below =>
              simp only [cleanedValue?, hrule, Option.map_some]
              rw [← run_sanitizeBelow]
              exact congrArg (List.cons _) ih
          | act a =>
              cases a with
              | delete =>
                  simp only [cleanedValue?, hrule, Option.map_none]
                  exact ih
              | replace =>
                  simp only [cleanedValue?, hrule, Option.map_some]
                  exact congrArg (List.cons _) ih

theorem sanitizeBy_array (mask : Mask) (shape : ArrayShape) (xs : List Value) :
    sanitizeBy transform mask (.array shape xs) =
      .ofItems (xs.map (sanitizeBy transform mask)) := by
  rw [← run_sanitizeItems]
  rfl

theorem sanitizeBy_object (mask : Mask) (shape : ObjectShape) (fs : Fields) :
    sanitizeBy transform mask (.object shape fs) =
      .ofFields (cleanedFields transform mask fs) := by
  rw [← run_sanitizeFields]
  rfl

theorem sanitizeBy_scalar (mask : Mask) {v : Value} (h : v.isScalar = true) :
    sanitizeBy transform mask v = transform ⟨v, none⟩ := by
  cases v with
  | array shape xs => cases h
  | object shape fs => cases h
  | _ => rfl

/-! ## §3. Fields of what is cleaned. -/

theorem cleanedFields_cons (mask : Mask) (k v : Value) (fs : Fields) :
    cleanedFields transform mask ((k, v) :: fs) =
      match cleanedValue? transform mask k v with
      | none => cleanedFields transform mask fs
      | some w => (k, w) :: cleanedFields transform mask fs := by
  unfold cleanedFields
  rw [List.filterMap_cons]
  cases cleanedValue? transform mask k v <;> rfl

/-- The field under a text is cleaned by the rule of that text. -/
theorem find?_cleanedFields (mask : Mask) (s : String) (fs : Fields) :
    Fields.find? (.text s) (cleanedFields transform mask fs) =
      (Fields.find? (.text s) fs).bind (cleanedValue? transform mask (.text s)) := by
  induction fs with
  | nil => rfl
  | cons f fs ih =>
      obtain ⟨k, v⟩ := f
      rw [cleanedFields_cons, Fields.find?_cons]
      by_cases hk : k.same (.text s) = true
      · obtain rfl := same_text.mp hk
        rw [if_pos hk]
        cases hv : cleanedValue? transform mask (.text s) v with
        | none =>
            -- The rule of the text deletes, so it also deletes a later field of the same key.
            rw [Option.bind_some, hv, ih]
            cases Fields.find? (.text s) fs with
            | none => rfl
            | some w => exact (cleanedValue?_eq_none_iff _ _).mpr ((cleanedValue?_eq_none_iff _ _).mp hv)
        | some w => rw [Option.bind_some, hv, Fields.find?_cons, if_pos hk]
      -- A field of another key is left out or kept, and found in neither case.
      · rw [if_neg hk, ← ih]
        cases hv : cleanedValue? transform mask k v with
        | none => rfl
        | some w => rw [Fields.find?_cons, if_neg hk]

theorem ruleFor_of_not_isText {mask : Mask} {k : Value} (h : k.isText = false) :
    mask.ruleFor k = none := by
  cases k with
  | text s => cases h
  | _ => rfl

/-- The field under a key is cleaned as one under a key with the same rule: the key as it stands in
the object. -/
theorem find?_cleanedFields_same (mask : Mask) (k : Value) (fs : Fields) :
    ∃ l, mask.ruleFor l = mask.ruleFor k ∧
      Fields.find? k (cleanedFields transform mask fs) =
        (Fields.find? k fs).bind (cleanedValue? transform mask l) := by
  cases hk : k.isText with
  | true =>
      obtain ⟨s, rfl⟩ := isText_iff.mp hk
      exact ⟨_, rfl, find?_cleanedFields transform mask s fs⟩
  | false =>
      induction fs with
      | nil => exact ⟨k, rfl, rfl⟩
      | cons f fs ih =>
          obtain ⟨l, v⟩ := f
          rw [Fields.find?_cons, cleanedFields_cons]
          by_cases hl : l.same k = true
          · -- A key that is the same as one without a rule has none either.
            have hrule : mask.ruleFor l = none :=
              ruleFor_of_not_isText ((isText_of_same hl).trans hk)
            refine ⟨l, hrule.trans (ruleFor_of_not_isText hk).symm, ?_⟩
            rw [if_pos hl, Option.bind_some]
            simp only [cleanedValue?, hrule]
            rw [Fields.find?_cons, if_pos hl]
          · obtain ⟨l', hrule, hfind⟩ := ih
            refine ⟨l', hrule, ?_⟩
            rw [if_neg hl, ← hfind]
            cases cleanedValue? transform mask l v with
            | none => rfl
            | some w => rw [Fields.find?_cons, if_neg hl]

theorem fieldsAreJson_cleanedFields (mask : Mask) {fs : Fields} (h : fieldsAreJson fs = true)
    (hvalue : ∀ f ∈ fs, (∀ mask, (sanitizeBy transform mask f.2).isJson = true) ∧
      ∀ key, (fieldBy transform key f.2).isJson = true) :
    fieldsAreJson (cleanedFields transform mask fs) = true := by
  induction fs with
  | nil => rfl
  | cons f fs ih =>
      obtain ⟨k, v⟩ := f
      obtain ⟨hk, hnone, -, hfs⟩ := fieldsAreJson_cons h
      have hrest := ih hfs (fun f hf => hvalue f (List.mem_cons_of_mem _ hf))
      obtain ⟨hmasked, hfield⟩ := hvalue (k, v) List.mem_cons_self
      rw [cleanedFields_cons]
      cases hv : cleanedValue? transform mask k v with
      | none => exact hrest
      | some w =>
          have hw : w.isJson = true := by
            unfold cleanedValue? at hv
            split at hv
            · rw [← Option.some.inj hv]
              exact hfield k
            · rw [← Option.some.inj hv]
              split
              · exact hmasked _
              · rfl
            · cases hv
            · rw [← Option.some.inj hv]
              rfl
          -- What is left of the later fields has no other keys than these.
          have hfresh : Fields.find? k (cleanedFields transform mask fs) = none := by
            obtain ⟨s, rfl⟩ := isText_iff.mp hk
            rw [find?_cleanedFields, hnone]
            rfl
          simp only [fieldsAreJson, Bool.and_eq_true, Bool.not_eq_true']
          exact ⟨⟨⟨hk, Fields.has_eq_false_iff.mpr hfresh⟩, hw⟩, hrest⟩

/-- **A response of the interchange format is cleaned to one.** -/
theorem isJson_sanitizeBy (ht : ∀ c : Call, c.value.isJson = true → (transform c).isJson = true)
    (mask : Mask) {v : Value} (h : v.isJson = true) :
    (sanitizeBy transform mask v).isJson = true := by
  -- A field without a rule goes to the transform item by item, which is a second way to clean it.
  suffices hboth : (∀ mask, (sanitizeBy transform mask v).isJson = true) ∧
      ∀ key, (fieldBy transform key v).isJson = true from hboth.1 mask
  clear mask
  induction v, h using Value.inductJson with
  | scalar v hv h =>
      constructor
      · intro mask
        rw [sanitizeBy_scalar transform mask hv]
        exact ht _ h
      · intro key
        cases v with
        | array shape xs => cases hv
        | object shape fs => cases hv
        | _ => exact ht _ h
  | items xs h ih =>
      constructor
      · intro mask
        rw [sanitizeBy_array]
        refine itemsAreJson_iff.mpr (fun w hw => ?_)
        obtain ⟨x, hx, rfl⟩ := List.mem_map.mp hw
        exact (ih x hx).1 mask
      · intro key
        refine itemsAreJson_iff.mpr (fun w hw => ?_)
        obtain ⟨x, hx, rfl⟩ := List.mem_map.mp hw
        exact ht _ ((ih x hx).1 Mask.empty)
  | fields fs h ih =>
      have hfs : ∀ mask, fieldsAreJson (cleanedFields transform mask fs) = true :=
        fun mask => fieldsAreJson_cleanedFields transform mask h ih
      constructor
      · intro mask
        rw [sanitizeBy_object]
        exact hfs mask
      · intro key
        show (sanitizeBy transform Mask.empty (.object .plain fs)).isJson = true
        rw [sanitizeBy_object]
        exact hfs Mask.empty

end Map

/-! ## §4. The identity. -/

theorem fieldBy_keepValue (key v : Value) : fieldBy keepValue key v = sanitize Mask.empty v := by
  cases v with
  | array shape xs =>
      unfold sanitize
      rw [sanitizeBy_array]
      rfl
  | _ => rfl

theorem cleanedValue?_keepValue (mask : Mask) (k v : Value) :
    cleanedValue? keepValue mask k v =
      match mask.ruleFor k with
      | none => some (sanitize Mask.empty v)
      | some (.nested below) => some (if v.isObject then sanitize below v else removed)
      | some (.act .delete) => none
      | some (.act .replace) => some removed := by
  unfold cleanedValue?
  rw [fieldBy_keepValue]
  rfl

theorem sanitize_scalar (mask : Mask) {v : Value} (h : v.isScalar = true) : sanitize mask v = v :=
  sanitizeBy_scalar keepValue mask h

theorem isJson_sanitize (mask : Mask) {v : Value} (h : v.isJson = true) :
    (sanitize mask v).isJson = true :=
  isJson_sanitizeBy keepValue (fun _ hc => hc) mask h

theorem kind_sanitize (mask : Mask) (v : Value) : (sanitize mask v).kind = v.kind := by
  unfold sanitize
  cases v with
  | array shape xs =>
      rw [sanitizeBy_array]
      rfl
  | object shape fs =>
      rw [sanitizeBy_object]
      rfl
  | _ => rfl

theorem isObject_sanitize (mask : Mask) (v : Value) :
    (sanitize mask v).isObject = v.isObject := by
  rw [Bool.eq_iff_iff, isObject_iff_kind, isObject_iff_kind, kind_sanitize]

/-- An index leads to the cleaned item. -/
theorem item?_sanitize (mask : Mask) (v : Value) (i : Nat) :
    (sanitize mask v).item? i = (v.item? i).map (sanitize mask) := by
  unfold sanitize
  cases v with
  | array shape xs =>
      rw [sanitizeBy_array]
      exact List.getElem?_map
  | object shape fs =>
      rw [sanitizeBy_object]
      rfl
  | _ => rfl

/-- A key leads to what the mask leaves of the value under it. -/
theorem field?_sanitize (mask : Mask) (v k : Value) :
    (sanitize mask v).field? k = (v.field? k).bind (cleanedValue? keepValue mask k) := by
  unfold sanitize
  cases v with
  | array shape xs =>
      rw [sanitizeBy_array]
      rfl
  | object shape fs =>
      obtain ⟨l, hrule, hfind⟩ := find?_cleanedFields_same keepValue mask k fs
      have hclean : cleanedValue? keepValue mask l = cleanedValue? keepValue mask k := by
        funext w
        rw [cleanedValue?_keepValue, cleanedValue?_keepValue, hrule]
      rw [sanitizeBy_object, ← hclean]
      exact hfind
  | _ => rfl

end Golden

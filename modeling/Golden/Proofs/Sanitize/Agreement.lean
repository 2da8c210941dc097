/-
  Golden.Proofs.Sanitize.Agreement
  ────────────────────────────────
  **WHAT A MASK COVERS DOES NOT SHOW, AND ALL ELSE DOES.**

  Two responses agree outside a mask when they differ at most in what the mask
  deletes, replaces or replaces as a whole, and in whether an array is a list
  or a tuple.  Cleaning cannot tell two such responses apart, whatever the
  effects of the transform are, and the mask alone tells all others apart:

      AgreeOutside mask x y  →  sanitizeWith t mask x  =  sanitizeWith t mask y
      sanitize mask x  =  sanitize mask y  →  AgreeOutside mask x y

  The first line holds in every monad, so in particular the transform is
  called with the same values and keys in the same order.
-/
import Golden.Proofs.Sanitize.Pure

namespace Golden

open Value

/-! ## §1. Agreement. -/

namespace Value

mutual

/-- A value with all its arrays as lists and all its objects as plain ones. -/
def listed : Value → Value
  | .array _ xs => .ofItems (listedItems xs)
  | .object _ fs => .ofFields (listedFields fs)
  | v => v

/-- The items of an array with their arrays as lists. -/
def listedItems : List Value → List Value
  | [] => []
  | v :: vs => listed v :: listedItems vs

/-- The fields of an object with the arrays of their values as lists. -/
def listedFields : List (Value × Value) → List (Value × Value)
  | [] => []
  | (k, v) :: fs => (k, listed v) :: listedFields fs

end

end Value

namespace Mask

/-- Whether a mask deletes a key. -/
def deletes (mask : Mask) (k : Value) : Bool :=
  match mask.ruleFor k with
  | some (.act .delete) => true
  | _ => false

/-- The fields whose keys a mask does not delete. -/
def kept (mask : Mask) (fs : Fields) : Fields := fs.filter (fun f => !mask.deletes f.1)

theorem deletes_iff {mask : Mask} {k : Value} :
    mask.deletes k = true ↔ mask.ruleFor k = some (.act .delete) := by
  unfold deletes
  split
  · next h => simp [h]
  · next h => simpa using h

theorem kept_cons (mask : Mask) (f : Value × Value) (fs : Fields) :
    mask.kept (f :: fs) = if mask.deletes f.1 then mask.kept fs else f :: mask.kept fs := by
  unfold kept
  rw [List.filter_cons]
  cases mask.deletes f.1 <;> rfl

end Mask

mutual

/-- Agreement of two values outside a mask. -/
inductive AgreeOutside : Mask → Value → Value → Prop
  | array {mask : Mask} {s t : ArrayShape} {xs ys : List Value} :
      AgreeItems mask xs ys → AgreeOutside mask (.array s xs) (.array t ys)
  | object {mask : Mask} {s t : ObjectShape} {fs gs : Fields} :
      AgreeFields mask (mask.kept fs) (mask.kept gs) →
      AgreeOutside mask (.object s fs) (.object t gs)
  | scalar {mask : Mask} {v : Value} : v.isScalar = true → AgreeOutside mask v v

/-- Agreement of two arrays item by item. -/
inductive AgreeItems : Mask → List Value → List Value → Prop
  | nil {mask : Mask} : AgreeItems mask [] []
  | cons {mask : Mask} {v w : Value} {vs ws : List Value} :
      AgreeOutside mask v w → AgreeItems mask vs ws → AgreeItems mask (v :: vs) (w :: ws)

/-- Agreement of two objects, none of whose keys are deleted, field by field: the keys are the same
in the same order, and the rule of a key says what may differ under it. -/
inductive AgreeFields : Mask → Fields → Fields → Prop
  | nil {mask : Mask} : AgreeFields mask [] []
  | plain {mask : Mask} {k v w : Value} {fs gs : Fields} :
      mask.ruleFor k = none → v.listed = w.listed → AgreeFields mask fs gs →
      AgreeFields mask ((k, v) :: fs) ((k, w) :: gs)
  | replaced {mask : Mask} {k v w : Value} {fs gs : Fields} :
      mask.ruleFor k = some (.act .replace) → AgreeFields mask fs gs →
      AgreeFields mask ((k, v) :: fs) ((k, w) :: gs)
  | nested {mask below : Mask} {k v w : Value} {fs gs : Fields} :
      mask.ruleFor k = some (.nested below) → v.isObject = true → w.isObject = true →
      AgreeOutside below v w → AgreeFields mask fs gs →
      AgreeFields mask ((k, v) :: fs) ((k, w) :: gs)
  | whole {mask below : Mask} {k v w : Value} {fs gs : Fields} :
      mask.ruleFor k = some (.nested below) → v.isObject = false → w.isObject = false →
      AgreeFields mask fs gs → AgreeFields mask ((k, v) :: fs) ((k, w) :: gs)

end

/-! ## §2. The walk does not see what agrees. -/

section Walk

variable {m : Type → Type} [Monad m] (transform : Call → m Value)

/-- Deleted fields are never looked at. -/
theorem sanitizeFields_kept (mask : Mask) (fs : Fields) :
    sanitizeFields transform mask (mask.kept fs) = sanitizeFields transform mask fs := by
  induction fs with
  | nil => rfl
  | cons f fs ih =>
      obtain ⟨k, v⟩ := f
      rw [Mask.kept_cons]
      cases hdeletes : mask.deletes k with
      | true =>
          rw [if_pos rfl, ih]
          simp only [sanitizeFields, Mask.deletes_iff.mp hdeletes]
      | false =>
          rw [if_neg Bool.false_ne_true]
          simp only [sanitizeFields, ih]

theorem sanitizeBelow_of_isObject {below : Mask} {v : Value} (h : v.isObject = true) :
    sanitizeBelow transform below v = sanitizeWith transform below v := by
  cases v with
  | object s fs => simp only [sanitizeBelow, sanitizeWith]
  | _ => cases h

theorem sanitizeBelow_of_not_isObject {below : Mask} {v : Value} (h : v.isObject = false) :
    sanitizeBelow transform below v = pure removed := by
  cases v with
  | object s fs => cases h
  | _ => simp only [sanitizeBelow]

theorem sanitizeItems_listedItems (mask : Mask) {xs : List Value}
    (h : ∀ x ∈ xs, sanitizeWith transform mask x.listed = sanitizeWith transform mask x) :
    sanitizeItems transform mask (listedItems xs) = sanitizeItems transform mask xs := by
  induction xs with
  | nil => rfl
  | cons x xs ih =>
      have hxs := ih (fun y hy => h y (List.mem_cons_of_mem x hy))
      simp only [listedItems, sanitizeItems, h x List.mem_cons_self, hxs]

theorem sanitizeKeyed_listedItems (key : Value) {xs : List Value}
    (h : ∀ x ∈ xs, sanitizeWith transform Mask.empty x.listed =
      sanitizeWith transform Mask.empty x) :
    sanitizeKeyed transform key (listedItems xs) = sanitizeKeyed transform key xs := by
  induction xs with
  | nil => rfl
  | cons x xs ih =>
      have hxs := ih (fun y hy => h y (List.mem_cons_of_mem x hy))
      simp only [listedItems, sanitizeKeyed, h x List.mem_cons_self, hxs]

theorem sanitizeFields_listedFields (mask : Mask) {fs : Fields}
    (h : ∀ f ∈ fs,
      (∀ key, sanitizeField transform key f.2.listed = sanitizeField transform key f.2) ∧
      ∀ below, sanitizeBelow transform below f.2.listed = sanitizeBelow transform below f.2) :
    sanitizeFields transform mask (listedFields fs) = sanitizeFields transform mask fs := by
  induction fs with
  | nil => rfl
  | cons f fs ih =>
      obtain ⟨k, v⟩ := f
      obtain ⟨hfield, hbelow⟩ := h (k, v) List.mem_cons_self
      have hfs := ih (fun g hg => h g (List.mem_cons_of_mem _ hg))
      simp only [listedFields, sanitizeFields, hfs, hfield, hbelow]

/-- The walk does not tell lists from tuples. -/
theorem sanitize_listed (v : Value) :
    (∀ mask, sanitizeWith transform mask v.listed = sanitizeWith transform mask v) ∧
    (∀ key, sanitizeField transform key v.listed = sanitizeField transform key v) ∧
    ∀ mask, sanitizeBelow transform mask v.listed = sanitizeBelow transform mask v := by
  -- The walk enters a value in three ways, and each of them continues with another, so one
  -- induction has to carry all three.
  induction v using Value.induct with
  | scalar v hv =>
      cases v with
      | array s xs => cases hv
      | object s fs => cases hv
      | _ => exact ⟨fun _ => rfl, fun _ => rfl, fun _ => rfl⟩
  | array s xs ih =>
      refine ⟨fun mask => ?_, fun key => ?_, fun _ => rfl⟩
      · have hitems := sanitizeItems_listedItems transform mask (fun x hx => (ih x hx).1 mask)
        simp only [listed, sanitizeWith, hitems]
      · have hitems := sanitizeKeyed_listedItems transform key
          (fun x hx => (ih x hx).1 Mask.empty)
        simp only [listed, sanitizeField, hitems]
  | object s fs ih =>
      have hfields := fun mask => sanitizeFields_listedFields transform mask
        (fun f hf => (ih f hf).2)
      refine ⟨fun mask => ?_, fun key => ?_, fun mask => ?_⟩
      · simp only [listed, sanitizeWith, hfields]
      · simp only [listed, sanitizeField, hfields]
      · simp only [listed, sanitizeBelow, hfields]

theorem sanitizeField_of_listed {v w : Value} (h : v.listed = w.listed) (key : Value) :
    sanitizeField transform key v = sanitizeField transform key w := by
  rw [← (sanitize_listed transform v).2.1, h, (sanitize_listed transform w).2.1]

mutual

/-- **Cleaning does not see a difference of two values that agree outside the mask.** -/
theorem sanitizeWith_of_agree {mask : Mask} {x y : Value} :
    AgreeOutside mask x y → sanitizeWith transform mask x = sanitizeWith transform mask y
  | .array h => by
      simp only [sanitizeWith, sanitizeItems_of_agree h]
  | .object h => by
      have hfields := sanitizeFields_of_agree h
      rw [sanitizeFields_kept, sanitizeFields_kept] at hfields
      simp only [sanitizeWith, hfields]
  | .scalar _ => rfl

theorem sanitizeItems_of_agree {mask : Mask} {xs ys : List Value} :
    AgreeItems mask xs ys → sanitizeItems transform mask xs = sanitizeItems transform mask ys
  | .nil => rfl
  | .cons h hs => by
      simp only [sanitizeItems, sanitizeWith_of_agree h, sanitizeItems_of_agree hs]

theorem sanitizeFields_of_agree {mask : Mask} {fs gs : Fields} :
    AgreeFields mask fs gs → sanitizeFields transform mask fs = sanitizeFields transform mask gs
  | .nil => rfl
  | .plain hrule hlisted hs => by
      simp only [sanitizeFields, hrule, sanitizeField_of_listed transform hlisted,
        sanitizeFields_of_agree hs]
  | .replaced hrule hs => by
      simp only [sanitizeFields, hrule, sanitizeFields_of_agree hs]
  | .nested hrule hv hw h hs => by
      simp only [sanitizeFields, hrule, sanitizeBelow_of_isObject transform hv,
        sanitizeBelow_of_isObject transform hw, sanitizeWith_of_agree h,
        sanitizeFields_of_agree hs]
  | .whole hrule hv hw hs => by
      simp only [sanitizeFields, hrule, sanitizeBelow_of_not_isObject transform hv,
        sanitizeBelow_of_not_isObject transform hw, sanitizeFields_of_agree hs]

end

end Walk

/-! ## §3. The mask alone sees all else. -/

theorem map_sanitize_empty {xs : List Value} (h : ∀ x ∈ xs, sanitize Mask.empty x = x.listed) :
    xs.map (sanitize Mask.empty) = listedItems xs := by
  induction xs with
  | nil => rfl
  | cons x xs ih =>
      rw [List.map_cons, h x List.mem_cons_self, ih (fun y hy => h y (List.mem_cons_of_mem x hy))]
      rfl

theorem cleanedFields_empty {fs : Fields} (h : ∀ f ∈ fs, sanitize Mask.empty f.2 = f.2.listed) :
    cleanedFields keepValue Mask.empty fs = listedFields fs := by
  induction fs with
  | nil => rfl
  | cons f fs ih =>
      obtain ⟨k, v⟩ := f
      have hrule : Mask.ruleFor Mask.empty k = none := by cases k <;> rfl
      rw [cleanedFields_cons, cleanedValue?_keepValue, hrule,
        ih (fun g hg => h g (List.mem_cons_of_mem _ hg)), h (k, v) List.mem_cons_self]
      rfl

/-- A mask that names no key only makes lists of tuples. -/
theorem sanitize_empty (v : Value) : sanitize Mask.empty v = v.listed := by
  induction v using Value.induct with
  | scalar v hv =>
      rw [sanitize_scalar Mask.empty hv]
      cases v with
      | array s xs => cases hv
      | object s fs => cases hv
      | _ => rfl
  | array s xs ih =>
      have hitems := map_sanitize_empty ih
      unfold sanitize at hitems ⊢
      rw [sanitizeBy_array, hitems]
      rfl
  | object s fs ih =>
      unfold sanitize
      rw [sanitizeBy_object, cleanedFields_empty ih]
      rfl

theorem agreeItems_of_sanitize {mask : Mask} {xs ys : List Value}
    (ih : ∀ x ∈ xs, ∀ y, sanitize mask x = sanitize mask y → AgreeOutside mask x y)
    (h : xs.map (sanitize mask) = ys.map (sanitize mask)) : AgreeItems mask xs ys := by
  induction xs generalizing ys with
  | nil =>
      cases ys with
      | nil => exact .nil
      | cons y ys => cases h
  | cons x xs ihxs =>
      cases ys with
      | nil => cases h
      | cons y ys =>
          obtain ⟨hhead, htail⟩ := List.cons.inj h
          exact .cons (ih x List.mem_cons_self y hhead)
            (ihxs (fun x' hx' => ih x' (List.mem_cons_of_mem x hx')) htail)

/-- What a mask leaves of two values under a key it does not delete is the same only if they agree
outside its rule. -/
theorem agreeFields_cons {mask : Mask} {k v w : Value} {fs gs : Fields}
    (hk : mask.deletes k = false)
    (ih : ∀ below, sanitize below v = sanitize below w → AgreeOutside below v w)
    (h : cleanedValue? keepValue mask k v = cleanedValue? keepValue mask k w)
    (hs : AgreeFields mask fs gs) : AgreeFields mask ((k, v) :: fs) ((k, w) :: gs) := by
  rw [cleanedValue?_keepValue, cleanedValue?_keepValue] at h
  cases hrule : mask.ruleFor k with
  | none =>
      simp only [hrule, Option.some.injEq, sanitize_empty] at h
      exact .plain hrule h hs
  | some rule =>
      cases rule with
      | act a =>
          cases a with
          | delete =>
              rw [Mask.deletes_iff.mpr hrule] at hk
              cases hk
          | replace => exact .replaced hrule hs
      | nested below =>
          simp only [hrule, Option.some.injEq] at h
          -- A cleaned object is no text, so the marker tells objects from the rest.
          have hmarker : ∀ u : Value, u.isObject = true → sanitize below u ≠ removed := by
            intro u hu he
            have := isObject_sanitize below u
            rw [he, hu] at this
            cases this
          cases hv : v.isObject with
          | true =>
              cases hw : w.isObject with
              | true =>
                  rw [hv, hw] at h
                  exact .nested hrule hv hw (ih below h) hs
              | false =>
                  rw [hv, hw] at h
                  exact absurd h (hmarker v hv)
          | false =>
              cases hw : w.isObject with
              | true =>
                  rw [hv, hw] at h
                  exact absurd h.symm (hmarker w hw)
              | false => exact .whole hrule hv hw hs

/-- What a mask leaves of two objects without their deleted keys is the same only if they agree. -/
theorem agreeFields_of_cleaned {mask : Mask} {fs gs : Fields}
    (hfs : ∀ f ∈ fs, mask.deletes f.1 = false) (hgs : ∀ g ∈ gs, mask.deletes g.1 = false)
    (ih : ∀ f ∈ fs, ∀ below w, sanitize below f.2 = sanitize below w →
      AgreeOutside below f.2 w)
    (h : cleanedFields keepValue mask fs = cleanedFields keepValue mask gs) :
    AgreeFields mask fs gs := by
  -- A field that is not deleted leaves a field, so the two lists are walked in step.
  have hsome : ∀ {k v : Value}, mask.deletes k = false →
      ∃ w, cleanedValue? keepValue mask k v = some w := by
    intro k v hk
    refine Option.ne_none_iff_exists'.mp (fun hnone => ?_)
    rw [Mask.deletes_iff.mpr ((cleanedValue?_eq_none_iff _ _).mp hnone)] at hk
    cases hk
  induction fs generalizing gs with
  | nil =>
      cases gs with
      | nil => exact .nil
      | cons g gs =>
          obtain ⟨w, hw⟩ := hsome (v := g.2) (hgs g List.mem_cons_self)
          rw [cleanedFields_cons, hw] at h
          cases h
  | cons f fs ihfs =>
      obtain ⟨k, v⟩ := f
      have hk := hfs (k, v) List.mem_cons_self
      obtain ⟨v', hv⟩ := hsome (v := v) hk
      cases gs with
      | nil =>
          rw [cleanedFields_cons, hv] at h
          cases h
      | cons g gs =>
          obtain ⟨k', w⟩ := g
          obtain ⟨w', hw⟩ := hsome (v := w) (hgs (k', w) List.mem_cons_self)
          rw [cleanedFields_cons, cleanedFields_cons, hv, hw] at h
          obtain ⟨hhead, htail⟩ := List.cons.inj h
          -- The keys are the same because what is left keeps them, in their order.
          obtain ⟨rfl, rfl⟩ := Prod.mk.inj hhead
          exact agreeFields_cons hk (fun below => ih (k, v) List.mem_cons_self below w)
            (hv.trans hw.symm)
            (ihfs (fun g hg => hfs g (List.mem_cons_of_mem _ hg))
              (fun g hg => hgs g (List.mem_cons_of_mem _ hg))
              (fun g hg => ih g (List.mem_cons_of_mem _ hg)) htail)

theorem cleanedFields_kept (mask : Mask) (fs : Fields) :
    cleanedFields keepValue mask (mask.kept fs) = cleanedFields keepValue mask fs := by
  rw [← run_sanitizeFields, sanitizeFields_kept, run_sanitizeFields]

/-- **What the mask alone makes the same agrees outside the mask.** -/
theorem agree_of_sanitize {mask : Mask} {x y : Value} (h : sanitize mask x = sanitize mask y) :
    AgreeOutside mask x y := by
  -- Cleaning keeps the kind, so the induction only ever meets two values of the same kind.
  have hkind : x.kind = y.kind := by rw [← kind_sanitize mask x, h, kind_sanitize]
  induction x using Value.induct generalizing mask y with
  | scalar x hx =>
      have hy : y.isScalar = true := isScalar_iff_kind.mpr (hkind ▸ isScalar_iff_kind.mp hx)
      rw [sanitize_scalar mask hx, sanitize_scalar mask hy] at h
      rw [← h]
      exact .scalar hx
  | array s xs ih =>
      cases y with
      | array t ys =>
          unfold sanitize at h
          rw [sanitizeBy_array, sanitizeBy_array] at h
          have hitems : xs.map (sanitize mask) = ys.map (sanitize mask) := (Value.array.inj h).2
          refine .array (agreeItems_of_sanitize (fun x hx y hxy => ?_) hitems)
          exact ih x hx hxy (by rw [← kind_sanitize mask x, hxy, kind_sanitize])
      | _ => cases isArray_iff_kind.mpr (hkind.symm.trans rfl)
  | object s fs ih =>
      cases y with
      | object t gs =>
          unfold sanitize at h
          rw [sanitizeBy_object, sanitizeBy_object, ← cleanedFields_kept mask fs,
            ← cleanedFields_kept mask gs] at h
          refine .object (agreeFields_of_cleaned (fun f hf => ?_) (fun g hg => ?_)
            (fun f hf below w hw => ?_) (Value.object.inj h).2)
          · simpa using (List.mem_filter.mp hf).2
          · simpa using (List.mem_filter.mp hg).2
          · exact ih f (List.mem_filter.mp hf).1 hw
              (by rw [← kind_sanitize below f.2, hw, kind_sanitize])
      | _ => cases isObject_iff_kind.mpr (hkind.symm.trans rfl)

/-! ## §4. Covered and uncovered. -/

/-- A transform with a state, which also notes each call. -/
def noting {σ : Type} (transform : Call → StateM σ Value) (c : Call) :
    StateM (List Call × σ) Value := do
  let (calls, s) ← get
  let (v, after) := (transform c).run s
  set (calls ++ [c], after)
  pure v

/-- **Cleaning shows nothing of what a mask covers, and loses nothing else.**  Responses that agree
outside the mask of a spec are cleaned alike by every transform with whatever effects; in
particular one with a state is called with the same values and keys in the same order, and ends in
the same state.  Responses that do not agree are told apart by the mask alone. -/
theorem sanitize_covers_exactly (spec x y : Value) :
    let mask := Mask.compile spec
    (AgreeOutside mask x y →
      (∀ (m : Type → Type) [Monad m] (transform : Call → m Value),
        sanitizeWith transform mask x = sanitizeWith transform mask y) ∧
      ∀ (σ : Type) (transform : Call → StateM σ Value) (s : σ),
        (sanitizeWith (noting transform) mask x).run ([], s) =
          (sanitizeWith (noting transform) mask y).run ([], s)) ∧
    (sanitize mask x = sanitize mask y → AgreeOutside mask x y) := by
  intro mask
  refine ⟨fun h => ⟨fun m _ transform => ?_, fun σ transform s => ?_⟩, agree_of_sanitize⟩
  · exact sanitizeWith_of_agree transform h
  · rw [sanitizeWith_of_agree (noting transform) h]

/-- A list and a tuple of objects that differ under a replaced key: the same calls, the same
result. -/
theorem sanitize_covers_replaced_key :
    let spec : Value := .text "time"
    let x : Value := .array .list [.ofFields [(.text "time", .null), (.text "n", .bool true)]]
    let y : Value := .array .tuple [.ofFields [(.text "time", .bool false), (.text "n", .bool true)]]
    let mask := Mask.compile spec
    AgreeOutside mask x y ∧ ∀ (σ : Type) (transform : Call → StateM σ Value) (s : σ),
      (sanitizeWith (noting transform) mask x).run ([], s) =
        (sanitizeWith (noting transform) mask y).run ([], s) := by
  intro spec x y mask
  have hagree : AgreeOutside mask x y :=
    .array (.cons (.object (.replaced rfl (.plain rfl rfl .nil))) .nil)
  exact ⟨hagree, ((sanitize_covers_exactly spec x y).1 hagree).2⟩

end Golden

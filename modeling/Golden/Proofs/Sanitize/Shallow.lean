/-
  Golden.Proofs.Sanitize.Shallow
  ────────────────────────────────
  **TRANSFORMS THAT CHANGE SCALARS UNDER KEYS ONLY.**

  A transform is shallow when it leaves alone what stands under no key, every
  array and object, and the marker, and makes scalars of scalars.  Cleaning by
  such a transform keeps scalars apart from arrays and objects, so a mask meets
  the same shapes in what was cleaned as in what was not, and the value of a
  field without a rule is cleaned as it would be anywhere, save for the scalars
  directly under its key:

      isObject (sanitizeBy t mask v)  =  isObject v
      fieldBy t key v  =  rekey t key (sanitizeBy t empty v)
-/
import Golden.Proofs.Sanitize.Agreement

namespace Golden

open Value

/-! ## §1. Shallow transforms. -/

/-- A transform that changes scalars under keys only, and not the marker. -/
structure Shallow (transform : Call → Value) : Prop where
  bare : ∀ v, transform ⟨v, none⟩ = v
  whole : ∀ v key, v.isScalar = false → transform ⟨v, key⟩ = v
  scalar : ∀ v key, v.isScalar = true → (transform ⟨v, key⟩).isScalar = true
  marker : ∀ key, transform ⟨removed, key⟩ = removed

theorem shallow_keepValue : Shallow keepValue where
  bare _ := rfl
  whole _ _ _ := rfl
  scalar _ _ h := h
  marker _ := rfl

theorem fieldBy_scalar (transform : Call → Value) (key : Value) {v : Value}
    (hv : v.isScalar = true) : fieldBy transform key v = transform ⟨v, some key⟩ := by
  cases v with
  | array s xs => cases hv
  | object s fs => cases hv
  | _ => rfl

theorem fieldBy_of_isObject (transform : Call → Value) (key : Value) {v : Value}
    (hv : v.isObject = true) : fieldBy transform key v = sanitizeBy transform Mask.empty v := by
  cases v with
  | object s fs => rfl
  | _ => cases hv

/-- Give the scalars that stand directly under a key to a transform. -/
def rekey (transform : Call → Value) (key : Value) : Value → Value
  | .array s xs => .array s (xs.map (fun x => transform ⟨x, some key⟩))
  | .object s fs => .object s fs
  | v => transform ⟨v, some key⟩

theorem isObject_of_isScalar {v : Value} (h : v.isScalar = true) : v.isObject = false := by
  cases v with
  | object s fs => cases h
  | _ => rfl

/-! ## §2. What is left of a value. -/

/-- What a mask leaves of a value at its place: an array keeps its length, an object the keys that
are not deleted, in their order, and a scalar stays as it is. -/
inductive Retains (mask : Mask) : Value → Value → Prop
  | array {s : ArrayShape} {xs ys : List Value} : ys.length = xs.length →
      Retains mask (.array s xs) (.ofItems ys)
  | object {s : ObjectShape} {fs gs : Fields} : gs.map (·.1) = (mask.kept fs).map (·.1) →
      Retains mask (.object s fs) (.ofFields gs)
  | scalar {v : Value} : v.isScalar = true → Retains mask v v

theorem Retains.isScalar {mask : Mask} {v w : Value} (h : Retains mask v w) :
    w.isScalar = v.isScalar := by
  cases h <;> rfl

theorem Retains.isObject {mask : Mask} {v w : Value} (h : Retains mask v w) :
    w.isObject = v.isObject := by
  cases h <;> rfl

theorem keys_cleanedFields (transform : Call → Value) (mask : Mask) (fs : Fields) :
    (cleanedFields transform mask fs).map (·.1) = (mask.kept fs).map (·.1) := by
  induction fs with
  | nil => rfl
  | cons f fs ih =>
      obtain ⟨k, v⟩ := f
      rw [cleanedFields_cons, Mask.kept_cons]
      cases hv : cleanedValue? transform mask k v with
      | none =>
          rw [if_pos (Mask.deletes_iff.mpr ((cleanedValue?_eq_none_iff _ _).mp hv))]
          exact ih
      | some w =>
          have hk : ¬ mask.deletes k = true := fun hk => by
            rw [(cleanedValue?_eq_none_iff transform v).mpr (Mask.deletes_iff.mp hk)] at hv
            cases hv
          rw [if_neg hk]
          exact congrArg (List.cons k) ih

namespace Shallow

variable {transform : Call → Value} (ht : Shallow transform)
include ht

/-! ## §3. What a shallow transform keeps. -/

theorem sanitizeBy_scalar (mask : Mask) {v : Value} (hv : v.isScalar = true) :
    sanitizeBy transform mask v = v := by
  rw [Golden.sanitizeBy_scalar transform mask hv, ht.bare]

/-- **Cleaning keeps the shape of every value.** -/
theorem retains (mask : Mask) (v : Value) : Retains mask v (sanitizeBy transform mask v) := by
  cases hv : v.isScalar with
  | true =>
      rw [ht.sanitizeBy_scalar mask hv]
      exact .scalar hv
  | false =>
      cases v with
      | array s xs =>
          rw [sanitizeBy_array]
          exact .array (List.length_map _)
      | object s fs =>
          rw [sanitizeBy_object]
          exact .object (keys_cleanedFields transform mask fs)
      | _ => cases hv

theorem isScalar_sanitizeBy (mask : Mask) (v : Value) :
    (sanitizeBy transform mask v).isScalar = v.isScalar :=
  (ht.retains mask v).isScalar

theorem isScalar_of_isObject (mask : Mask) {v : Value} (hv : v.isObject = true) :
    (sanitizeBy transform mask v).isScalar = false := by
  rw [ht.isScalar_sanitizeBy]
  cases v with
  | object s fs => rfl
  | _ => cases hv

theorem isObject_sanitizeBy (mask : Mask) (v : Value) :
    (sanitizeBy transform mask v).isObject = v.isObject :=
  (ht.retains mask v).isObject

theorem isObject_fieldBy (key v : Value) :
    (fieldBy transform key v).isObject = v.isObject := by
  cases hv : v.isScalar with
  | true =>
      rw [fieldBy_scalar transform key hv, isObject_of_isScalar (ht.scalar v _ hv),
        isObject_of_isScalar hv]
  | false =>
      cases v with
      | array s xs => rfl
      | object s fs => rw [fieldBy_of_isObject transform key rfl, ht.isObject_sanitizeBy]
      | _ => cases hv

/-- A field without a rule is cleaned as a value on its own, and then once more under its key. -/
theorem fieldBy_eq (key v : Value) :
    fieldBy transform key v = rekey transform key (sanitizeBy transform Mask.empty v) := by
  cases hv : v.isScalar with
  | true =>
      rw [ht.sanitizeBy_scalar _ hv]
      cases v with
      | array s xs => cases hv
      | object s fs => cases hv
      | _ => rfl
  | false =>
      cases v with
      | array s xs =>
          rw [sanitizeBy_array, rekey, List.map_map]
          rfl
      | object s fs =>
          rw [fieldBy, sanitizeBy_object, rekey]
      | _ => cases hv

end Shallow

end Golden

/-
  Golden.Proofs.Diff.Reflexive
  ────────────────────────────────
  **A VALUE COMPARED WITH ITSELF.**

  Not-a-number equals nothing, itself included; every other scalar equals
  itself.  So a response has no differences from itself just if no not-a-number
  stands in it, at whatever depth:

      diff v v  =  []   ↔   hasNaN v  =  false
-/
import Golden.Proofs.Diff.Positions

namespace Golden

namespace Value

mutual

/-- Whether not-a-number stands somewhere in a value. -/
def hasNaN : Value → Bool
  | .float .nan => true
  | .array _ xs => itemsHaveNaN xs
  | .object _ fs => fieldsHaveNaN fs
  | _ => false

/-- Whether not-a-number stands somewhere in the items. -/
def itemsHaveNaN : List Value → Bool
  | [] => false
  | v :: vs => hasNaN v || itemsHaveNaN vs

/-- Whether not-a-number stands somewhere in the values of the fields. -/
def fieldsHaveNaN : List (Value × Value) → Bool
  | [] => false
  | (_, v) :: fs => hasNaN v || fieldsHaveNaN fs

end

theorem itemsHaveNaN_eq_false_iff {xs : List Value} :
    itemsHaveNaN xs = false ↔ ∀ x ∈ xs, x.hasNaN = false := by
  induction xs with
  | nil => simp [itemsHaveNaN]
  | cons x xs ih => simp [itemsHaveNaN, ih]

theorem fieldsHaveNaN_eq_false_iff {fs : Fields} :
    fieldsHaveNaN fs = false ↔ ∀ f ∈ fs, f.2.hasNaN = false := by
  induction fs with
  | nil => simp [fieldsHaveNaN]
  | cons f fs ih => simp [fieldsHaveNaN, ih]

/-- A double equals itself unless it is not-a-number. -/
theorem same_float_self (x : Double) : (Value.float x).same (.float x) = !hasNaN (.float x) := by
  cases x with
  | finite negative m => simp [same, Double.equals, hasNaN]
  | infinite negative => simp [same, Double.equals, hasNaN]
  | nan => simp [same, Double.equals, hasNaN]

/-- A scalar of a response equals itself unless it is not-a-number. -/
theorem same_self_of_isScalar {v : Value} (hv : v.isScalar = true) (h : v.isResponse = true) :
    v.same v = !v.hasNaN := by
  cases v with
  | float x => exact same_float_self x
  | bytes b => cases h
  | action a => cases h
  | set shape xs => cases h
  | array shape xs => cases hv
  | object shape fs => cases hv
  | _ => simp [same, hasNaN]

/-- **A response has no differences from itself just if no not-a-number stands in it.** -/
theorem diff_self_eq_nil_iff {v : Value} (h : v.isResponse = true) :
    v.diff v = [] ↔ v.hasNaN = false := by
  -- Both sides say the same of all members, so only scalars decide.
  induction v, h using Value.inductResponse with
  | scalar v hv h =>
      have hself := same_self_of_isScalar hv h
      simp only [isScalar, Bool.and_eq_true, Bool.not_eq_true'] at hv
      rw [diff_of_mixed (by simp [hv.1]) (by simp [hv.2]), if_neg (by simp), hself]
      cases v.hasNaN <;> simp
  | items s xs h ih =>
      rw [diff_items_eq_nil_iff, hasNaN, itemsHaveNaN_eq_false_iff]
      constructor
      · rintro ⟨-, hitems⟩ x hx
        obtain ⟨i, hi⟩ := List.getElem?_of_mem hx
        exact (ih x hx).mp (hitems i x x hi hi)
      · refine fun hall => ⟨rfl, fun i x y hx hy => ?_⟩
        -- Items are compared index by index, so here an item meets itself.
        obtain rfl : x = y := Option.some.inj (hx.symm.trans hy)
        have hmem := List.mem_of_getElem? hx
        exact (ih x hmem).mpr (hall x hmem)
  | fields fs h ih =>
      obtain ⟨-, hnamed, -⟩ := isResponse_object.mp h
      rw [diff_fields_eq_nil_iff hnamed hnamed, hasNaN, fieldsHaveNaN_eq_false_iff]
      constructor
      · rintro ⟨-, hvalues⟩ f hf
        have hfind := (find?_eq_some_iff hnamed (k := f.1) (v := f.2)).mpr hf
        exact (ih f hf).mp (hvalues f.1 f.2 f.2 hfind hfind)
      · refine fun hall => ⟨fun _ => rfl, fun k b c hb hc => ?_⟩
        -- A key leads back to its own value, not to one of an earlier field.
        obtain rfl : b = c := Option.some.inj (hb.symm.trans hc)
        have hmem := (find?_eq_some_iff hnamed).mp hb
        exact (ih (k, b) hmem).mpr (hall (k, b) hmem)

end Value

end Golden

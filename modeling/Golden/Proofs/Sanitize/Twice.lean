/-
  Golden.Proofs.Sanitize.Twice
  ────────────────────────────────
  **CLEANING TWICE IS CLEANING ONCE.**

  Two shallow transforms, one after the other, make a third.  Cleaning by the
  first under one mask and then by the second under another is cleaning by the
  third under the merge of the masks:

      sanitizeBy s b (sanitizeBy t a v)  =  sanitizeBy u (merge a b) v

  Masks that are alike clean alike.  So masks alone compose in either order,
  and a response that was cleaned stays as it is when it is cleaned again by
  the same mask and a transform that has nothing to do the second time.
-/
import Golden.Proofs.BlackLab.FileName
import Golden.Proofs.Mask.Merge
import Golden.Proofs.Sanitize.Agreement

namespace Golden

open Value

/-! ## §1. Masks that are alike clean alike. -/

section Alike

variable {m : Type → Type} [Monad m] (transform : Call → m Value)

theorem sanitizeItems_of_alike {a b : Mask} {xs : List Value}
    (h : ∀ x ∈ xs, sanitizeWith transform a x = sanitizeWith transform b x) :
    sanitizeItems transform a xs = sanitizeItems transform b xs := by
  induction xs with
  | nil => rfl
  | cons x xs ih =>
      have hxs := ih (fun y hy => h y (List.mem_cons_of_mem x hy))
      simp only [sanitizeItems, h x List.mem_cons_self, hxs]

theorem sanitizeFields_of_alike {a b : Mask} (hab : a.Alike b) {fs : Fields}
    (h : ∀ f ∈ fs, ∀ c d : Mask, c.Alike d →
      sanitizeBelow transform c f.2 = sanitizeBelow transform d f.2) :
    sanitizeFields transform a fs = sanitizeFields transform b fs := by
  induction fs with
  | nil => rfl
  | cons f fs ih =>
      obtain ⟨k, v⟩ := f
      have hfs := ih (fun g hg => h g (List.mem_cons_of_mem _ hg))
      have hrule := hab.ruleFor k
      simp only [sanitizeFields, hfs]
      generalize a.ruleFor k = r at hrule
      generalize b.ruleFor k = s at hrule
      cases hrule with
      | none => rfl
      | act act => rfl
      | nested hcd => simp only [h (k, v) List.mem_cons_self _ _ hcd]

/-- **Masks that say the same clean every value alike, call by call.** -/
theorem sanitizeWith_of_alike {a b : Mask} (hab : a.Alike b) (v : Value) :
    sanitizeWith transform a v = sanitizeWith transform b v := by
  induction v using Value.induct generalizing a b with
  | scalar v hv =>
      cases v with
      | array s xs => cases hv
      | object s fs => cases hv
      | _ => rfl
  | array s xs ih =>
      simp only [sanitizeWith, sanitizeItems_of_alike transform (fun x hx => ih x hx hab)]
  | object s fs ih =>
      have hbelow : ∀ f ∈ fs, ∀ c d : Mask, c.Alike d →
          sanitizeBelow transform c f.2 = sanitizeBelow transform d f.2 := by
        intro f hf c d hcd
        cases ho : f.2.isObject with
        | true =>
            rw [sanitizeBelow_of_isObject transform ho, sanitizeBelow_of_isObject transform ho]
            exact ih f hf hcd
        | false =>
            rw [sanitizeBelow_of_not_isObject transform ho,
              sanitizeBelow_of_not_isObject transform ho]
      simp only [sanitizeWith, sanitizeFields_of_alike transform hab hbelow]

end Alike

theorem sanitizeBy_of_alike (transform : Call → Value) {a b : Mask} (hab : a.Alike b) (v : Value) :
    sanitizeBy transform a v = sanitizeBy transform b v :=
  congrArg Id.run (sanitizeWith_of_alike _ hab v)

/-! ## §2. Two passes. -/

/-- What a rule leaves of the value under a key. -/
def afterRule? (transform : Call → Value) (rule : Option Rule) (key v : Value) : Option Value :=
  match rule with
  | none => some (fieldBy transform key v)
  | some (.nested below) => some (if v.isObject then sanitizeBy transform below v else removed)
  | some (.act .delete) => none
  | some (.act .replace) => some removed

theorem cleanedValue?_eq (transform : Call → Value) (mask : Mask) (key v : Value) :
    cleanedValue? transform mask key v = afterRule? transform (mask.ruleFor key) key v := rfl

section Passes

variable {s t u : Call → Value} (hs : Shallow s) (ht : Shallow t) (hu : Shallow u)
  (hstu : ∀ c, s ⟨t c, c.key⟩ = u c)
include hs ht hu hstu

/-- An item below a field without a rule, cleaned and given to the transform, and all that again. -/
theorem keyed_keyed (key : Value) {x : Value}
    (ih : sanitizeBy s Mask.empty (sanitizeBy t Mask.empty x) = sanitizeBy u Mask.empty x) :
    s ⟨sanitizeBy s Mask.empty (t ⟨sanitizeBy t Mask.empty x, some key⟩), some key⟩ =
      u ⟨sanitizeBy u Mask.empty x, some key⟩ := by
  cases hx : x.isScalar with
  | true =>
      rw [ht.sanitizeBy_scalar _ hx, hu.sanitizeBy_scalar _ hx,
        hs.sanitizeBy_scalar _ (ht.scalar x (some key) hx)]
      exact hstu ⟨x, some key⟩
  | false =>
      -- Neither transform touches what is left of an array or an object.
      have hclean : (sanitizeBy t Mask.empty x).isScalar = false :=
        (ht.isScalar_sanitizeBy Mask.empty x).trans hx
      have hagain : (sanitizeBy u Mask.empty x).isScalar = false :=
        (hu.isScalar_sanitizeBy Mask.empty x).trans hx
      rw [ht.whole _ _ hclean, ih, hs.whole _ _ hagain, hu.whole _ _ hagain]

/-- A field without a rule in both passes. -/
theorem fieldBy_fieldBy (key : Value) {v : Value}
    (h : sanitizeBy s Mask.empty (sanitizeBy t Mask.empty v) = sanitizeBy u Mask.empty v) :
    fieldBy s key (fieldBy t key v) = fieldBy u key v := by
  cases hv : v.isScalar with
  | true =>
      rw [fieldBy_scalar t key hv, fieldBy_scalar u key hv,
        fieldBy_scalar s key (ht.scalar v (some key) hv)]
      exact hstu ⟨v, some key⟩
  | false =>
      cases v with
      | array shape xs =>
          rw [sanitizeBy_array, sanitizeBy_array, sanitizeBy_array, List.map_map] at h
          have hitems := List.map_inj_left.mp (Value.array.inj h).2
          simp only [fieldBy, List.map_map]
          refine congrArg ofItems (List.map_congr_left (fun x hx => ?_))
          exact keyed_keyed hs ht hu hstu key (hitems x hx)
      | object shape fs =>
          have hobject := (ht.isObject_sanitizeBy Mask.empty (.object shape fs)).trans rfl
          rw [fieldBy_of_isObject t key rfl, fieldBy_of_isObject u key rfl,
            fieldBy_of_isObject s key hobject, h]
      | _ => cases hv

/-- What the first pass leaves under a key, and the second pass of it, for all pairs of rules. -/
theorem afterRule?_afterRule? (r q : Option Rule) (key : Value) {v : Value}
    (h : ∀ a b, sanitizeBy s b (sanitizeBy t a v) = sanitizeBy u (a.merge b) v) :
    (afterRule? t r key v).bind (afterRule? s q key) =
      afterRule? u (Mask.mergeRules r q) key v := by
  -- The marker is no object, and it is left alone under whatever key.
  have hmarker : fieldBy s key removed = removed := hs.marker (some key)
  cases r with
  | none =>
      cases q with
      | none =>
          have hplain := h Mask.empty Mask.empty
          rw [Mask.empty_merge] at hplain
          exact congrArg some (fieldBy_fieldBy hs ht hu hstu key hplain)
      | some rule =>
          cases rule with
          | act act => cases act <;> rfl
          | nested d =>
              simp only [afterRule?, Mask.mergeRules, Option.bind_some, ht.isObject_fieldBy]
              cases hv : v.isObject with
              | true => rw [fieldBy_of_isObject t key hv, h, Mask.empty_merge]
              | false => rfl
  | some rule =>
      cases rule with
      | act act =>
          cases act with
          | delete => cases q <;> rfl
          | replace =>
              cases q with
              | none => exact congrArg some hmarker
              | some rule' =>
                  cases rule' with
                  | act act' => cases act' <;> rfl
                  | nested d => rfl
      | nested c =>
          cases q with
          | none =>
              simp only [afterRule?, Mask.mergeRules, Option.bind_some]
              cases hv : v.isObject with
              | true =>
                  have hobject := (ht.isObject_sanitizeBy c v).trans hv
                  rw [if_pos rfl, if_pos rfl, fieldBy_of_isObject s key hobject, h,
                    Mask.merge_empty]
              | false =>
                  -- The first pass left the marker, and so does the second.
                  exact congrArg some hmarker
          | some rule' =>
              cases rule' with
              | act act' => cases act' <;> rfl
              | nested d =>
                  simp only [afterRule?, Mask.mergeRules, Mask.mergeRule_nested, Option.bind_some]
                  cases hv : v.isObject with
                  | true =>
                      have hobject := (ht.isObject_sanitizeBy c v).trans hv
                      rw [if_pos rfl, if_pos rfl, if_pos hobject, h]
                  | false => rfl

theorem cleanedFields_cleanedFields (a b : Mask) {fs : Fields}
    (h : ∀ f ∈ fs, ∀ a b,
      sanitizeBy s b (sanitizeBy t a f.2) = sanitizeBy u (a.merge b) f.2) :
    cleanedFields s b (cleanedFields t a fs) = cleanedFields u (a.merge b) fs := by
  induction fs with
  | nil => rfl
  | cons f fs ih =>
      obtain ⟨k, v⟩ := f
      have hfs := ih (fun g hg => h g (List.mem_cons_of_mem _ hg))
      have hk := afterRule?_afterRule? hs ht hu hstu (a.ruleFor k) (b.ruleFor k) k
        (h (k, v) List.mem_cons_self)
      rw [← Mask.ruleFor_merge, ← cleanedValue?_eq, ← cleanedValue?_eq] at hk
      rw [cleanedFields_cons, cleanedFields_cons, ← hk, ← hfs]
      cases cleanedValue? t a k v with
      | none => rfl
      | some w => rw [Option.bind_some, cleanedFields_cons, cleanedValue?_eq]

/-- **Cleaning twice is cleaning once, by the merged mask.** -/
theorem sanitizeBy_sanitizeBy (a b : Mask) (v : Value) :
    sanitizeBy s b (sanitizeBy t a v) = sanitizeBy u (a.merge b) v := by
  -- The induction on the value is for all pairs of masks: an array hands both on to its items, an
  -- object hands each field the two rules for its key.
  induction v using Value.induct generalizing a b with
  | scalar v hv =>
      rw [ht.sanitizeBy_scalar a hv, hs.sanitizeBy_scalar b hv, hu.sanitizeBy_scalar _ hv]
  | array shape xs ih =>
      rw [sanitizeBy_array, sanitizeBy_array, sanitizeBy_array, List.map_map]
      exact congrArg ofItems (List.map_congr_left (fun x hx => ih x hx a b))
  | object shape fs ih =>
      rw [sanitizeBy_object, sanitizeBy_object, sanitizeBy_object,
        cleanedFields_cleanedFields hs ht hu hstu a b ih]

end Passes

/-! ## §3. The same pass again. -/

/-- A transform that has nothing to do the second time cleans nothing the second time. -/
theorem sanitizeBy_again {t : Call → Value} (ht : Shallow t) (hagain : ∀ c, t ⟨t c, c.key⟩ = t c)
    (mask : Mask) (v : Value) :
    sanitizeBy t mask (sanitizeBy t mask v) = sanitizeBy t mask v := by
  rw [sanitizeBy_sanitizeBy ht ht ht hagain]
  exact sanitizeBy_of_alike t mask.merge_self v

/-- **Cleaning is settled after one pass**: for every spec and value, by the mask alone or with file
names reduced; and so for every response of the server. -/
theorem sanitize_settled (spec v : Value) :
    let mask := Mask.compile spec
    sanitizeBy keepValue mask (sanitizeBy keepValue mask v) = sanitizeBy keepValue mask v ∧
    sanitizeBy BlackLab.dropDirectory mask (sanitizeBy BlackLab.dropDirectory mask v) =
      sanitizeBy BlackLab.dropDirectory mask v ∧
    ∀ removeParameters response,
      BlackLab.sanitize removeParameters (BlackLab.sanitize removeParameters response) =
        BlackLab.sanitize removeParameters response := by
  intro mask
  have hkeep := sanitizeBy_again shallow_keepValue (fun _ => rfl)
  have hdrop := sanitizeBy_again BlackLab.shallow_dropDirectory
    BlackLab.dropDirectory_dropDirectory
  exact ⟨hkeep mask v, hdrop mask v, fun removeParameters response =>
    hdrop (BlackLab.mask removeParameters) response⟩

/-! ## §4. Masks one after the other. -/

namespace BlackLab

/-- The spec that replaces the parameters of a search. -/
def parameterSpec : Value := .ofFields [within "summary" [varies "searchParam"]]

/-- The parameters of a search are all that the larger mask has more. -/
theorem merge_parameterSpec : (mask false).merge (Mask.compile parameterSpec) = mask true := rfl

/-- A response without the parameters of its search is one cleaned first and then of these. -/
theorem sanitize_true (response : Value) :
    sanitize true response =
      Golden.sanitize (Mask.compile parameterSpec) (sanitize false response) := by
  unfold sanitize Golden.sanitize
  rw [← merge_parameterSpec]
  exact (sanitizeBy_sanitizeBy shallow_keepValue shallow_dropDirectory shallow_dropDirectory
    (fun _ => rfl) _ _ response).symm

end BlackLab

theorem sanitize_sanitize (a b : Mask) (v : Value) :
    sanitize b (sanitize a v) = sanitize (a.merge b) v :=
  sanitizeBy_sanitizeBy shallow_keepValue shallow_keepValue shallow_keepValue (fun _ => rfl) a b v

/-- **Masks compose**, in either order to their merge.  The larger mask of server responses is the
smaller one and then that of the search parameters, so responses that are the same under the one
are the same under the other. -/
theorem masks_compose (A B x : Value) :
    let a := Mask.compile A
    let b := Mask.compile B
    sanitize b (sanitize a x) = sanitize (a.merge b) x ∧
    sanitize (a.merge b) x = sanitize a (sanitize b x) ∧
    (∀ response, BlackLab.sanitize true response =
      sanitize (Mask.compile BlackLab.parameterSpec) (BlackLab.sanitize false response)) ∧
    ∀ response response',
      BlackLab.sanitize false response = BlackLab.sanitize false response' →
      BlackLab.sanitize true response = BlackLab.sanitize true response' := by
  intro a b
  refine ⟨sanitize_sanitize a b x, ?_, BlackLab.sanitize_true, fun response response' h => ?_⟩
  · rw [sanitize_sanitize b a x]
    exact sanitizeBy_of_alike keepValue (a.merge_comm b) x
  · rw [BlackLab.sanitize_true, h, ← BlackLab.sanitize_true]

/-- Two answers to one search, at different times and from different machines. -/
theorem masks_compose_two_machines :
    let answer := fun (time : Int) (path : String) => Value.ofFields [
      (.text "summary", .ofFields [
        (.text "searchTime", .int time),
        (.text "searchParam", .text "a")]),
      (.text "docInfo", .ofFields [(.text "fromInputFile", .text path)])]
    let first := answer 12 "/data/corpus/a.xml"
    let second := answer 7 "C:\\corpus\\a.xml"
    BlackLab.sanitize false first = BlackLab.sanitize false second ∧
      BlackLab.sanitize true first = BlackLab.sanitize true second := by
  intro answer first second
  have h : BlackLab.sanitize false first = BlackLab.sanitize false second := rfl
  exact ⟨h, (masks_compose .null .null .null).2.2.2 first second h⟩

end Golden

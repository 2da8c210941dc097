/-
  Golden.Proofs.Value.Json
  ────────────────────────────────
  **VALUES OF THE INTERCHANGE FORMAT.**

  A value is one of the format (`isJson`) when its arrays are lists, its
  objects are plain ones with texts as keys, each key once, and its integers
  have a text.  These are the values that a document can hold and that a
  snapshot can keep.  A response (`isResponse`) may hold tuples besides.  Each
  response has a text, and so has every key that a comparison of two of them
  meets:

      isJson v  →  isResponse v  →  isPrintable v
      isResponse e  →  isResponse a  →  keysPrintable e a

  Trees are entered by `item?` and `field?`, and along a position by `at?`; the
  first two lead from a value of the format to one of the format, and from a
  response to a response.
  `inductJson` goes through a value of the format, and `inductPair` through two
  responses as a comparison does.
-/
import Golden.Diff

namespace Golden

namespace Value

/-! ## §1. Shapes. -/

/-- Whether the value is a text. -/
def isText : Value → Bool
  | .text _ => true
  | _ => false

/-- Whether the value is an array. -/
def isArray : Value → Bool
  | .array _ _ => true
  | _ => false

/-- Whether the value is an object. -/
def isObject : Value → Bool
  | .object _ _ => true
  | _ => false

/-- Whether the value is neither an array nor an object. -/
def isScalar (v : Value) : Bool := !v.isArray && !v.isObject

mutual

/-- Whether the value is one of the interchange format. -/
def isJson : Value → Bool
  | .null | .bool _ | .float _ | .text _ => true
  | .int n => intFits n
  | .array .list xs => itemsAreJson xs
  | .object .plain fs => fieldsAreJson fs
  | _ => false

/-- Whether all items are values of the interchange format. -/
def itemsAreJson : List Value → Bool
  | [] => true
  | v :: vs => isJson v && itemsAreJson vs

/-- Whether all fields have a text as key, none of them twice, and a value of the interchange
format. -/
def fieldsAreJson : List (Value × Value) → Bool
  | [] => true
  | (k, v) :: fs => k.isText && !Fields.has k fs && isJson v && fieldsAreJson fs

end

/-- Whether every key is a text and none of them stands twice. -/
def fieldsAreNamed : List (Value × Value) → Bool
  | [] => true
  | (k, _) :: fs => k.isText && !Fields.has k fs && fieldsAreNamed fs

mutual

/-- Whether the value is one that a response can hold: one of the interchange format, save that
its arrays may be tuples. -/
def isResponse : Value → Bool
  | .null | .bool _ | .float _ | .text _ => true
  | .int n => intFits n
  | .array _ xs => itemsAreResponses xs
  | .object .plain fs => fieldsAreNamed fs && fieldsAreResponses fs
  | _ => false

/-- Whether all items are values that a response can hold. -/
def itemsAreResponses : List Value → Bool
  | [] => true
  | v :: vs => isResponse v && itemsAreResponses vs

/-- Whether the values of all fields are values that a response can hold. -/
def fieldsAreResponses : List (Value × Value) → Bool
  | [] => true
  | (_, v) :: fs => isResponse v && fieldsAreResponses fs

end

theorem isText_iff {k : Value} : k.isText = true ↔ ∃ s, k = .text s := by
  cases k <;> simp [isText]

/-- Two texts are the same key only if they are equal, and a text is no other key. -/
theorem same_text {k : Value} {s : String} : k.same (.text s) = true ↔ k = .text s := by
  cases k <;> simp [same]

theorem text_same {k : Value} {s : String} : (Value.text s).same k = true ↔ k = .text s := by
  cases k with
  | text t => rw [same, beq_iff_eq, Value.text.injEq, eq_comm]
  | _ => simp [same]

/-- Keys that are the same are both texts or both none. -/
theorem isText_of_same {k l : Value} (h : k.same l = true) : k.isText = l.isText := by
  cases hk : k.isText with
  | true =>
      obtain ⟨s, rfl⟩ := isText_iff.mp hk
      rw [text_same.mp h, hk]
  | false =>
      cases hl : l.isText with
      | true =>
          obtain ⟨s, rfl⟩ := isText_iff.mp hl
          rw [same_text.mp h] at hk
          cases hk
      | false => rfl

theorem isArray_iff_kind {v : Value} : v.isArray = true ↔ v.kind = .array := by
  cases v with
  | set shape xs => cases shape <;> simp [isArray, kind]
  | _ => simp [isArray, kind]

theorem isObject_iff_kind {v : Value} : v.isObject = true ↔ v.kind = .object := by
  cases v with
  | set shape xs => cases shape <;> simp [isObject, kind]
  | _ => simp [isObject, kind]

theorem isScalar_iff_kind {v : Value} :
    v.isScalar = true ↔ v.kind ≠ .array ∧ v.kind ≠ .object := by
  rw [isScalar, Bool.and_eq_true, Bool.not_eq_true', Bool.not_eq_true', ← Bool.not_eq_true,
    ← Bool.not_eq_true, isArray_iff_kind, isObject_iff_kind]

/-! ## §2. Induction over a tree. -/

/-- What holds of scalars, of an array if it holds of its items, and of an object if it holds of
its values, holds of every value. -/
@[elab_as_elim]
theorem induct {motive : Value → Prop} (scalar : ∀ v, v.isScalar = true → motive v)
    (array : ∀ shape xs, (∀ x ∈ xs, motive x) → motive (.array shape xs))
    (object : ∀ shape fs, (∀ f ∈ fs, motive f.2) → motive (.object shape fs)) :
    ∀ v : Value, motive v
  | .array shape xs => array shape xs (fun x _hx => induct scalar array object x)
  | .object shape fs => object shape fs (fun f _hf => induct scalar array object f.2)
  | .null => scalar .null rfl
  | .bool b => scalar (.bool b) rfl
  | .int n => scalar (.int n) rfl
  | .float x => scalar (.float x) rfl
  | .text s => scalar (.text s) rfl
  | .bytes b => scalar (.bytes b) rfl
  | .action a => scalar (.action a) rfl
  | .set shape xs => scalar (.set shape xs) rfl
termination_by v => sizeOf v
decreasing_by
  · have := List.sizeOf_lt_of_mem _hx
    simp only [Value.array.sizeOf_spec]
    omega
  · have hf := List.sizeOf_lt_of_mem _hf
    have hv : sizeOf f = 1 + sizeOf f.1 + sizeOf f.2 := rfl
    simp only [Value.object.sizeOf_spec]
    omega

end Value

/-! ## §3. Lookups. -/

namespace Fields

@[simp] theorem find?_nil (k : Value) : Fields.find? k [] = none := rfl

theorem find?_cons (k : Value) (f : Value × Value) (fs : Fields) :
    Fields.find? k (f :: fs) = if f.1.same k then some f.2 else Fields.find? k fs := by
  unfold Fields.find?
  rw [List.find?_cons]
  cases f.1.same k <;> rfl

theorem has_eq_false_iff {k : Value} {fs : Fields} :
    Fields.has k fs = false ↔ Fields.find? k fs = none := by
  unfold Fields.has
  cases Fields.find? k fs <;> simp

end Fields

namespace Value

/-- The item at an index of an array. -/
def item? (v : Value) (i : Nat) : Option Value :=
  match v with
  | .array _ xs => xs[i]?
  | _ => none

/-- The value under a key of an object. -/
def field? (v k : Value) : Option Value :=
  match v with
  | .object _ fs => Fields.find? k fs
  | _ => none

/-- The value that a step leads to. -/
def step? (v : Value) : Step → Option Value
  | .index i => v.item? i
  | .key k => v.field? k

/-- The value that a position leads to. -/
def at? : Value → Position → Option Value
  | v, [] => some v
  | v, s :: p => (v.step? s).bind (fun w => w.at? p)

theorem at?_cons (v : Value) (s : Step) (p : Position) :
    v.at? (s :: p) = (v.step? s).bind (fun w => w.at? p) := rfl

theorem at?_append (v : Value) (p q : Position) :
    v.at? (p ++ q) = (v.at? p).bind (fun w => w.at? q) := by
  induction p generalizing v with
  | nil => rfl
  | cons s p ih =>
      rw [List.cons_append, at?_cons, at?_cons, Option.bind_assoc]
      exact congrArg _ (funext ih)

theorem at?_single (v : Value) (s : Step) : v.at? [s] = v.step? s := by
  rw [at?_cons]
  cases v.step? s <;> rfl

theorem isArray_of_item? {v w : Value} {i : Nat} (h : v.item? i = some w) : v.isArray = true := by
  cases v with
  | array s xs => rfl
  | _ => cases h

theorem isObject_of_field? {v w k : Value} (h : v.field? k = some w) : v.isObject = true := by
  cases v with
  | object s fs => rfl
  | _ => cases h

/-- Only arrays and objects have anything below them. -/
theorem isScalar_of_at? {v w : Value} {p : Position} (h : v.at? p = some w)
    (hw : w.isScalar = false) : v.isScalar = false := by
  cases p with
  | nil =>
      obtain rfl := Option.some.inj h
      exact hw
  | cons step p =>
      rw [at?_cons] at h
      obtain ⟨b, hb, -⟩ := Option.bind_eq_some_iff.mp h
      cases step with
      | index i => simp [isScalar, isArray_of_item? hb]
      | key k => simp [isScalar, isObject_of_field? hb]

theorem fieldsAreJson_cons {k v : Value} {fs : Fields}
    (h : fieldsAreJson ((k, v) :: fs) = true) :
    k.isText = true ∧ Fields.find? k fs = none ∧ v.isJson = true ∧ fieldsAreJson fs = true := by
  simp only [fieldsAreJson, Bool.and_eq_true, Bool.not_eq_true'] at h
  exact ⟨h.1.1.1, Fields.has_eq_false_iff.mp h.1.1.2, h.1.2, h.2⟩

theorem fieldsAreNamed_cons {f : Value × Value} {fs : Fields} :
    fieldsAreNamed (f :: fs) = true ↔
      f.1.isText = true ∧ Fields.find? f.1 fs = none ∧ fieldsAreNamed fs = true := by
  simp only [fieldsAreNamed, Bool.and_eq_true, Bool.not_eq_true', Fields.has_eq_false_iff,
    and_assoc]

theorem fieldsAreNamed_of_fieldsAreJson {fs : Fields} (h : fieldsAreJson fs = true) :
    fieldsAreNamed fs = true := by
  induction fs with
  | nil => rfl
  | cons f fs ih =>
      obtain ⟨hk, hnone, -, hfs⟩ := fieldsAreJson_cons h
      exact fieldsAreNamed_cons.mpr ⟨hk, hnone, ih hfs⟩

theorem itemsAreJson_iff {xs : List Value} :
    itemsAreJson xs = true ↔ ∀ v ∈ xs, v.isJson = true := by
  induction xs with
  | nil => simp [itemsAreJson]
  | cons x xs ih => simp [itemsAreJson, ih]

theorem itemsAreResponses_iff {xs : List Value} :
    itemsAreResponses xs = true ↔ ∀ v ∈ xs, v.isResponse = true := by
  induction xs with
  | nil => simp [itemsAreResponses]
  | cons x xs ih => simp [itemsAreResponses, ih]

theorem fieldsAreResponses_iff {fs : Fields} :
    fieldsAreResponses fs = true ↔ ∀ f ∈ fs, f.2.isResponse = true := by
  induction fs with
  | nil => simp [fieldsAreResponses]
  | cons f fs ih => simp [fieldsAreResponses, ih]

theorem isJson_of_mem_fields {fs : Fields} (h : fieldsAreJson fs = true) :
    ∀ f ∈ fs, f.1.isText = true ∧ f.2.isJson = true := by
  induction fs with
  | nil => intro f hf; cases hf
  | cons g fs ih =>
      obtain ⟨hk, -, hv, hfs⟩ := fieldsAreJson_cons h
      intro f hf
      rcases List.mem_cons.mp hf with rfl | hf
      · exact ⟨hk, hv⟩
      · exact ih hfs f hf

theorem isText_of_mem_fields {fs : Fields} (h : fieldsAreNamed fs = true) :
    ∀ f ∈ fs, f.1.isText = true := by
  induction fs with
  | nil => intro f hf; cases hf
  | cons g fs ih =>
      obtain ⟨hk, -, hfs⟩ := fieldsAreNamed_cons.mp h
      intro f hf
      rcases List.mem_cons.mp hf with rfl | hf
      · exact hk
      · exact ih hfs f hf

/-- Each key stands once, so a field is what its key leads to. -/
theorem find?_eq_some_iff {fs : Fields} (h : fieldsAreNamed fs = true) {k v : Value} :
    Fields.find? k fs = some v ↔ (k, v) ∈ fs := by
  induction fs with
  | nil => simp
  | cons g fs ih =>
      obtain ⟨k', v'⟩ := g
      obtain ⟨hk', hnone, hfs⟩ := fieldsAreNamed_cons.mp h
      obtain ⟨s, rfl⟩ := isText_iff.mp hk'
      rw [Fields.find?_cons, List.mem_cons, Prod.mk.injEq]
      by_cases hs : (Value.text s).same k = true
      · -- A key that is the same as a text is that text: the first field is the one looked for.
        have hks : k = .text s := text_same.mp hs
        subst hks
        rw [if_pos hs]
        constructor
        · intro hv
          exact Or.inl ⟨rfl, (Option.some.inj hv).symm⟩
        · rintro (⟨-, rfl⟩ | hmem)
          · rfl
          · rw [(ih hfs).mpr hmem] at hnone
            exact absurd hnone (by simp)
      · rw [if_neg hs, ih hfs]
        constructor
        · exact Or.inr
        · rintro (⟨rfl, -⟩ | hmem)
          · exact absurd (same_text.mpr rfl) hs
          · exact hmem

theorem ne_of_find?_eq_none {fs : Fields} (h : fieldsAreNamed fs = true) {k : Value}
    (hnone : Fields.find? k fs = none) {f : Value × Value} (hf : f ∈ fs) : f.1 ≠ k := by
  rintro rfl
  rw [(find?_eq_some_iff h).mpr hf] at hnone
  cases hnone

/-- Named fields have each key once. -/
theorem fieldsAreNamed_iff {fs : Fields} : fieldsAreNamed fs = true ↔
    (∀ f ∈ fs, f.1.isText = true) ∧ (fs.map (·.1)).Nodup := by
  induction fs with
  | nil => simp [fieldsAreNamed]
  | cons f fs ih =>
      rw [fieldsAreNamed_cons, List.map_cons, List.nodup_cons, List.forall_mem_cons]
      constructor
      · rintro ⟨hk, hnone, hfs⟩
        refine ⟨⟨hk, (ih.mp hfs).1⟩, fun hmem => ?_, (ih.mp hfs).2⟩
        obtain ⟨g, hg, hgf⟩ := List.mem_map.mp hmem
        exact ne_of_find?_eq_none hfs hnone hg hgf
      · rintro ⟨⟨hk, htexts⟩, hnew, hnodup⟩
        have hfs := ih.mpr ⟨htexts, hnodup⟩
        refine ⟨hk, ?_, hfs⟩
        cases hfind : Fields.find? f.1 fs with
        | none => rfl
        | some v =>
            exact absurd (List.mem_map_of_mem ((find?_eq_some_iff hfs).mp hfind)) hnew

theorem isJson_of_item? {i : Nat} {v w : Value} (h : v.isJson = true)
    (hw : v.item? i = some w) : w.isJson = true := by
  cases v with
  | array shape xs =>
      cases shape with
      | list => exact itemsAreJson_iff.mp h w (List.mem_of_getElem? hw)
      | tuple => simp [isJson] at h
  | _ => simp [item?] at hw

theorem isJson_of_field? {k v w : Value} (h : v.isJson = true) (hw : v.field? k = some w) :
    k.isText = true ∧ w.isJson = true := by
  cases v with
  | object shape fs =>
      cases shape with
      | plain =>
          have hmem := (find?_eq_some_iff (fieldsAreNamed_of_fieldsAreJson h)).mp hw
          exact isJson_of_mem_fields h (k, w) hmem
      | mask => simp [isJson] at h
  | _ => simp [field?] at hw

/-! ## §4. Induction over the interchange format. -/

/-- Induction over a value of the interchange format: its arrays are lists, its objects are plain,
and their members are of the format again. -/
@[elab_as_elim]
theorem inductJson {motive : (v : Value) → v.isJson = true → Prop}
    (scalar : ∀ v, v.isScalar = true → ∀ h, motive v h)
    (items : ∀ xs (h : itemsAreJson xs = true),
      (∀ x (hx : x ∈ xs), motive x (itemsAreJson_iff.mp h x hx)) → motive (.array .list xs) h)
    (fields : ∀ fs (h : fieldsAreJson fs = true),
      (∀ f (hf : f ∈ fs), motive f.2 (isJson_of_mem_fields h f hf).2) →
        motive (.object .plain fs) h)
    (v : Value) (h : v.isJson = true) : motive v h := by
  induction v using Value.induct with
  | scalar v hv => exact scalar v hv h
  | array shape xs ih =>
      cases shape with
      | list => exact items xs h (fun x hx => ih x hx (itemsAreJson_iff.mp h x hx))
      | tuple => simp [isJson] at h
  | object shape fs ih =>
      cases shape with
      | plain => exact fields fs h (fun f hf => ih f hf (isJson_of_mem_fields h f hf).2)
      | mask => simp [isJson] at h

theorem isResponse_of_isJson (v : Value) (h : v.isJson = true) : v.isResponse = true := by
  induction v, h using Value.inductJson with
  | scalar v hv h =>
      cases v with
      | int n => exact h
      | set shape xs => simp [isJson] at h
      | bytes b => cases h
      | action a => cases h
      | array shape xs => cases hv
      | object shape fs => cases hv
      | _ => simp [isResponse]
  | items xs h ih =>
      rw [isResponse, itemsAreResponses_iff]
      exact ih
  | fields fs h ih =>
      rw [isResponse, fieldsAreNamed_of_fieldsAreJson h, Bool.true_and, fieldsAreResponses_iff]
      exact ih

/-! ## §5. Induction over responses. -/

theorem isResponse_array {s : ArrayShape} {xs : List Value} :
    (Value.array s xs).isResponse = true ↔ ∀ x ∈ xs, x.isResponse = true := by
  rw [isResponse, itemsAreResponses_iff]

theorem isResponse_object {s : ObjectShape} {fs : Fields} :
    (Value.object s fs).isResponse = true ↔
      s = .plain ∧ fieldsAreNamed fs = true ∧ ∀ f ∈ fs, f.2.isResponse = true := by
  cases s with
  | plain => simp only [isResponse, Bool.and_eq_true, fieldsAreResponses_iff, true_and]
  | mask => simp [isResponse]

theorem isResponse_of_item? {i : Nat} {v w : Value} (h : v.isResponse = true)
    (hw : v.item? i = some w) : w.isResponse = true := by
  cases v with
  | array s xs => exact isResponse_array.mp h w (List.mem_of_getElem? hw)
  | _ => cases hw

/-- What a key of a response leads to is a response again. -/
theorem isResponse_of_find? {s : ObjectShape} {fs : Fields} {k v : Value}
    (h : (Value.object s fs).isResponse = true) (hv : Fields.find? k fs = some v) :
    v.isResponse = true := by
  obtain ⟨-, hnamed, hfs⟩ := isResponse_object.mp h
  exact hfs (k, v) ((find?_eq_some_iff hnamed).mp hv)

theorem isResponse_of_field? {k v w : Value} (h : v.isResponse = true)
    (hw : v.field? k = some w) : w.isResponse = true := by
  cases v with
  | object s fs => exact isResponse_of_find? h hw
  | _ => cases hw

/-- Induction over a response: an array goes with its items, and an object, which is plain and has
each key once, with its values. -/
@[elab_as_elim]
theorem inductResponse {motive : (v : Value) → v.isResponse = true → Prop}
    (scalar : ∀ v, v.isScalar = true → ∀ h, motive v h)
    (items : ∀ shape xs h, (∀ x (hx : x ∈ xs), motive x (isResponse_array.mp h x hx)) →
      motive (.array shape xs) h)
    (fields : ∀ fs h, (∀ f (hf : f ∈ fs), motive f.2 ((isResponse_object.mp h).2.2 f hf)) →
      motive (.object .plain fs) h)
    (v : Value) (h : v.isResponse = true) : motive v h := by
  induction v using Value.induct with
  | scalar v hv => exact scalar v hv h
  | array shape xs ih =>
      exact items shape xs h (fun x hx => ih x hx (isResponse_array.mp h x hx))
  | object shape fs ih =>
      obtain ⟨rfl, -, hfs⟩ := isResponse_object.mp h
      exact fields fs h (fun f hf => ih f hf (hfs f hf))

/-- Induction over two responses as a comparison walks through them: side by side through two
arrays, by the keys of the first through two objects, and no further. -/
@[elab_as_elim]
theorem inductPair {motive : (e a : Value) → e.isResponse = true → a.isResponse = true → Prop}
    (mixed : ∀ e a he ha, ¬ (e.isArray = true ∧ a.isArray = true) →
      ¬ (e.isObject = true ∧ a.isObject = true) → motive e a he ha)
    (items : ∀ s t xs ys hxs hys,
      (∀ x (hx : x ∈ xs) y (hy : y ∈ ys),
        motive x y (isResponse_array.mp hxs x hx) (isResponse_array.mp hys y hy)) →
      motive (.array s xs) (.array t ys) hxs hys)
    (fields : ∀ fs gs hfs hgs,
      (∀ f (hf : f ∈ fs) a (ha : Fields.find? f.1 gs = some a),
        motive f.2 a ((isResponse_object.mp hfs).2.2 f hf) (isResponse_of_find? hgs ha)) →
      motive (.object .plain fs) (.object .plain gs) hfs hgs)
    (e a : Value) (he : e.isResponse = true) (ha : a.isResponse = true) : motive e a he ha := by
  -- The walk ends where the two sides do not have the same kind of members.
  induction e, he using Value.inductResponse generalizing a with
  | scalar e hs he =>
      simp only [isScalar, Bool.and_eq_true, Bool.not_eq_true'] at hs
      exact mixed e a he ha (by simp [hs.1]) (by simp [hs.2])
  | items s xs hxs ih =>
      by_cases harr : a.isArray = true
      · cases a with
        | array t ys =>
            exact items s t xs ys hxs ha (fun x hx y hy => ih x hx y (isResponse_array.mp ha y hy))
        | _ => cases harr
      · exact mixed _ a hxs ha (fun h => harr h.2) (fun h => Bool.noConfusion h.1)
  | fields fs hfs ih =>
      by_cases hobj : a.isObject = true
      · cases a with
        | object t gs =>
            obtain ⟨rfl, -, -⟩ := isResponse_object.mp ha
            exact fields fs gs hfs ha (fun f hf b hb => ih f hf b (isResponse_of_find? ha hb))
        | _ => cases hobj
      · exact mixed _ a hfs ha (fun h => Bool.noConfusion h.1) (fun h => hobj h.2)

/-! ## §6. Texts of what a comparison meets. -/

theorem allPrintable_iff {xs : List Value} :
    allPrintable xs = true ↔ ∀ v ∈ xs, v.isPrintable = true := by
  induction xs with
  | nil => simp [allPrintable]
  | cons x xs ih => simp [allPrintable, ih]

theorem fieldsPrintable_iff {fs : Fields} : fieldsPrintable fs = true ↔
    ∀ f ∈ fs, f.1.isPrintable = true ∧ f.2.isPrintable = true := by
  induction fs with
  | nil => simp [fieldsPrintable]
  | cons f fs ih => simp [fieldsPrintable, ih, and_assoc]

theorem isPrintable_of_isText {k : Value} (h : k.isText = true) : k.isPrintable = true := by
  obtain ⟨s, rfl⟩ := isText_iff.mp h
  rfl

theorem isPrintable_of_isResponse (v : Value) (h : v.isResponse = true) :
    v.isPrintable = true := by
  induction v, h using Value.inductResponse with
  | scalar v hv h =>
      cases v with
      | int n => exact h
      | set shape xs => simp [isResponse] at h
      | array shape xs => cases hv
      | object shape fs => cases hv
      | _ => rfl
  | items shape xs h ih => exact allPrintable_iff.mpr ih
  | fields fs h ih =>
      obtain ⟨-, hnamed, -⟩ := isResponse_object.mp h
      refine fieldsPrintable_iff.mpr (fun f hf => ?_)
      exact ⟨isPrintable_of_isText (isText_of_mem_fields hnamed f hf), ih f hf⟩

/-- Two arrays meet no key of their own. -/
theorem itemKeysPrintable_of_forall {xs : List Value} (ys : List Value)
    (h : ∀ x ∈ xs, ∀ y ∈ ys, keysPrintable x y = true) : itemKeysPrintable xs ys = true := by
  induction xs generalizing ys with
  | nil => simp [itemKeysPrintable]
  | cons x xs ih =>
      cases ys with
      | nil => simp [itemKeysPrintable]
      | cons y ys =>
          simp only [itemKeysPrintable, Bool.and_eq_true]
          exact ⟨h x List.mem_cons_self y List.mem_cons_self, ih ys (fun x' hx' y' hy' =>
            h x' (List.mem_cons_of_mem x hx') y' (List.mem_cons_of_mem y hy'))⟩

theorem fieldKeysPrintable_of_forall {fs gs : Fields} (hk : ∀ f ∈ fs, f.1.isPrintable = true)
    (h : ∀ f ∈ fs, ∀ a, Fields.find? f.1 gs = some a → keysPrintable f.2 a = true) :
    fieldKeysPrintable fs gs = true := by
  induction fs with
  | nil => rfl
  | cons f fs ih =>
      obtain ⟨k, e⟩ := f
      simp only [fieldKeysPrintable, Bool.and_eq_true]
      refine ⟨⟨hk (k, e) List.mem_cons_self, ?_⟩,
        ih (fun f hf => hk f (List.mem_cons_of_mem _ hf))
          (fun f hf => h f (List.mem_cons_of_mem _ hf))⟩
      cases hfind : Fields.find? k gs with
      | none => rfl
      | some a => exact h (k, e) List.mem_cons_self a hfind

/-- Of two values that are not both arrays and not both objects no key is looked at. -/
theorem keysPrintable_of_mixed {e a : Value} (harr : ¬ (e.isArray = true ∧ a.isArray = true))
    (hobj : ¬ (e.isObject = true ∧ a.isObject = true)) : keysPrintable e a = true := by
  cases e with
  | array s xs =>
      cases a with
      | array t ys => exact absurd ⟨rfl, rfl⟩ harr
      | _ => simp [keysPrintable]
  | object s fs =>
      cases a with
      | object t gs => exact absurd ⟨rfl, rfl⟩ hobj
      | _ => simp [keysPrintable]
  | _ => simp [keysPrintable]

theorem keysPrintable_of_isResponse (e a : Value) (he : e.isResponse = true)
    (ha : a.isResponse = true) : keysPrintable e a = true := by
  induction e, a, he, ha using Value.inductPair with
  | mixed e a he ha harr hobj => exact keysPrintable_of_mixed harr hobj
  | items s t xs ys hxs hys ih =>
      rw [keysPrintable]
      exact itemKeysPrintable_of_forall ys ih
  | fields fs gs hfs hgs ih =>
      obtain ⟨-, hfs, -⟩ := isResponse_object.mp hfs
      obtain ⟨-, hgs, -⟩ := isResponse_object.mp hgs
      show (fieldKeysPrintable fs gs &&
        gs.all (fun g => Fields.has g.1 fs || g.1.isPrintable)) = true
      rw [Bool.and_eq_true, List.all_eq_true]
      refine ⟨fieldKeysPrintable_of_forall
        (fun f hf => isPrintable_of_isText (isText_of_mem_fields hfs f hf)) ih, fun g hg => ?_⟩
      rw [isPrintable_of_isText (isText_of_mem_fields hgs g hg), Bool.or_true]

end Value

end Golden

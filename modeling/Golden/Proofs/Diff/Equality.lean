/-
  Golden.Proofs.Diff.Equality
  ────────────────────────────────
  **NOTHING IS REPORTED OF EQUAL VALUES, AND OF NO OTHERS.**

  `StrictlyEqual` says by its constructors when two values are equal: scalars
  of one kind that are alike, numbers of either form that are worth the same,
  arrays item by item, and objects key by key in any order.  A boolean is no
  number, and not-a-number is equal to nothing.  The comparison decides this:

      report? e a  =  some []   ↔   StrictlyEqual e a

  On responses without not-a-number this is an equivalence, and to reorder the
  fields of objects, at whatever depth and on either side, changes nothing.
-/
import Golden.Proofs.Diff.Reflexive
import Golden.Proofs.Double.Exact

namespace Golden

namespace Value

/-! ## §1. Equality. -/

/-- Strict equality of two values. -/
inductive StrictlyEqual : Value → Value → Prop
  | null : StrictlyEqual .null .null
  | boolean (b : Bool) : StrictlyEqual (.bool b) (.bool b)
  | number {e a : Value} {w : Worth} : e.worth? = some w → a.worth? = some w → StrictlyEqual e a
  | string (s : String) : StrictlyEqual (.text s) (.text s)
  | array {s t : ArrayShape} {xs ys : List Value} : xs.length = ys.length →
      (∀ (i : Nat) (x y : Value), xs[i]? = some x → ys[i]? = some y → StrictlyEqual x y) →
      StrictlyEqual (.array s xs) (.array t ys)
  | object {s t : ObjectShape} {fs gs : Fields} : (∀ k, Fields.has k fs = Fields.has k gs) →
      (∀ k b c, Fields.find? k fs = some b → Fields.find? k gs = some c → StrictlyEqual b c) →
      StrictlyEqual (.object s fs) (.object t gs)

namespace StrictlyEqual

variable {e a b : Value}

/-- Equal values are of one kind. -/
theorem kind_eq (h : StrictlyEqual e a) : e.kind = a.kind := by
  cases h with
  | number he ha => rw [kind_of_worth? he, kind_of_worth? ha]
  | _ => rfl

/-- Equal values are worth the same. -/
theorem worth?_eq (h : StrictlyEqual e a) : e.worth? = a.worth? := by
  cases h with
  | number he ha => rw [he, ha]
  | _ => rfl

theorem bool_eq {b c : Bool} (h : StrictlyEqual (.bool b) (.bool c)) : b = c := by
  cases h with
  | boolean => rfl
  | number he => cases he

theorem text_eq {s t : String} (h : StrictlyEqual (.text s) (.text t)) : s = t := by
  cases h with
  | string => rfl
  | number he => cases he

theorem array_iff {s t : ArrayShape} {xs ys : List Value} :
    StrictlyEqual (.array s xs) (.array t ys) ↔ xs.length = ys.length ∧
      ∀ (i : Nat) (x y : Value), xs[i]? = some x → ys[i]? = some y → StrictlyEqual x y := by
  constructor
  · intro h
    cases h with
    | number he => cases he
    | array hlength hitems => exact ⟨hlength, hitems⟩
  · rintro ⟨hlength, hitems⟩
    exact .array hlength hitems

theorem object_iff {s t : ObjectShape} {fs gs : Fields} :
    StrictlyEqual (.object s fs) (.object t gs) ↔ (∀ k, Fields.has k fs = Fields.has k gs) ∧
      ∀ k b c, Fields.find? k fs = some b → Fields.find? k gs = some c → StrictlyEqual b c := by
  constructor
  · intro h
    cases h with
    | number he => cases he
    | object hkeys hvalues => exact ⟨hkeys, hvalues⟩
  · rintro ⟨hkeys, hvalues⟩
    exact .object hkeys hvalues

theorem symm (h : StrictlyEqual e a) : StrictlyEqual a e := by
  induction h with
  | null => exact .null
  | boolean b => exact .boolean b
  | number he ha => exact .number ha he
  | string s => exact .string s
  | array hlength _ ih => exact .array hlength.symm (fun i y x hy hx => ih i x y hx hy)
  | object hkeys _ ih => exact .object (fun k => (hkeys k).symm) (fun k c b hc hb => ih k b c hb hc)

theorem trans (h : StrictlyEqual e a) (h' : StrictlyEqual a b) : StrictlyEqual e b := by
  -- Along the first derivation; the second one is of the same form, as the value between shows.
  induction h generalizing b with
  | null => exact h'
  | boolean _ => exact h'
  | number he ha => exact .number he (h'.worth?_eq.symm.trans ha)
  | string _ => exact h'
  | @array _ _ xs ys hlength _ ih =>
      cases h' with
      | number ha => cases ha
      | @array _ _ _ zs hlength' hitems =>
          refine .array (hlength.trans hlength') (fun i x z hx hz => ?_)
          have hi : i < ys.length := hlength ▸ (List.getElem?_eq_some_iff.mp hx).1
          have hy := List.getElem?_eq_getElem hi
          exact ih i x ys[i] hx hy (hitems i ys[i] z hy hz)
  | @object _ _ fs gs hkeys _ ih =>
      cases h' with
      | number ha => cases ha
      | @object _ _ _ hs hkeys' hvalues =>
          refine .object (fun k => (hkeys k).trans (hkeys' k)) (fun k b d hb hd => ?_)
          have hthere : Fields.has k gs = true := by rw [← hkeys k, Fields.has, hb]; rfl
          obtain ⟨c, hc⟩ := Option.isSome_iff_exists.mp hthere
          exact ih k b c hb hc (hvalues k c d hc hd)

end StrictlyEqual

/-! ## §2. The comparison decides it. -/

/-- Scalars of one kind are compared for being equal. -/
theorem same_iff_strictlyEqual {e a : Value} (he : e.isResponse = true) (hs : e.isScalar = true)
    (hk : e.kind = a.kind) : e.same a = true ↔ StrictlyEqual e a := by
  have number : e.kind = .number → (e.same a = true ↔ StrictlyEqual e a) := by
    intro hnumber
    rw [same_number_iff hnumber (hk ▸ hnumber)]
    constructor
    · rintro ⟨w, hw, hw'⟩
      exact .number hw hw'
    · intro h
      cases h with
      | number hw hw' => exact ⟨_, hw, hw'⟩
      | _ => cases hnumber
  cases e with
  | null =>
      cases a with
      | null => exact ⟨fun _ => .null, fun _ => by simp [same]⟩
      | set shape xs => cases shape <;> cases hk
      | _ => cases hk
  | bool b =>
      cases a with
      | bool c =>
          rw [same, beq_iff_eq]
          exact ⟨fun h => h ▸ .boolean b, fun h => h.bool_eq⟩
      | set shape xs => cases shape <;> cases hk
      | _ => cases hk
  | int n => exact number rfl
  | float x => exact number rfl
  | text s =>
      cases a with
      | text t =>
          rw [same, beq_iff_eq]
          exact ⟨fun h => h ▸ .string s, fun h => h.text_eq⟩
      | set shape xs => cases shape <;> cases hk
      | _ => cases hk
  | bytes b => cases he
  | action act => cases he
  | array s xs => cases hs
  | set s xs => cases he
  | object s fs => cases hs

/-- Values of one kind that are not both arrays and not both objects are scalars. -/
theorem isScalar_of_mixed {e a : Value} (harr : ¬ (e.isArray = true ∧ a.isArray = true))
    (hobj : ¬ (e.isObject = true ∧ a.isObject = true)) (hk : e.kind = a.kind) :
    e.isScalar = true := by
  refine isScalar_iff_kind.mpr ⟨fun h => harr ?_, fun h => hobj ?_⟩
  · exact ⟨isArray_iff_kind.mpr h, isArray_iff_kind.mpr (hk ▸ h)⟩
  · exact ⟨isObject_iff_kind.mpr h, isObject_iff_kind.mpr (hk ▸ h)⟩

/-- **Two responses have no differences just if they are equal.** -/
theorem diff_eq_nil_iff_strictlyEqual (e a : Value) (he : e.isResponse = true)
    (ha : a.isResponse = true) : e.diff a = [] ↔ StrictlyEqual e a := by
  induction e, a, he, ha using Value.inductPair with
  | mixed e a he ha harr hobj =>
      rw [diff_of_mixed harr hobj]
      by_cases hk : e.kind = a.kind
      · have hscalar := isScalar_of_mixed harr hobj hk
        rw [if_neg (fun hne => hne hk), ← same_iff_strictlyEqual he hscalar hk]
        cases e.same a <;> simp
      · rw [if_pos hk]
        exact ⟨fun h => (by cases h), fun h => absurd h.kind_eq hk⟩
  | items s t xs ys hxs hys ih =>
      rw [diff_items_eq_nil_iff, StrictlyEqual.array_iff]
      refine and_congr_right (fun _ => forall₃_congr (fun i x y => ?_))
      refine forall₂_congr (fun hx hy => ?_)
      exact ih x (List.mem_of_getElem? hx) y (List.mem_of_getElem? hy)
  | fields fs gs hfs hgs ih =>
      obtain ⟨-, hnamed, -⟩ := isResponse_object.mp hfs
      obtain ⟨-, hnamed', -⟩ := isResponse_object.mp hgs
      rw [diff_fields_eq_nil_iff hnamed hnamed', StrictlyEqual.object_iff]
      refine and_congr_right (fun _ => forall₃_congr (fun k b c => ?_))
      refine forall₂_congr (fun hb hc => ?_)
      exact ih (k, b) ((find?_eq_some_iff hnamed).mp hb) c hc

/-- Of two responses it can always be said whether they are equal. -/
theorem equal?_of_isResponse {e a : Value} (he : e.isResponse = true) (ha : a.isResponse = true) :
    e.equal? a = some (e.diff a).isEmpty := by
  rw [equal?, report?_of_isResponse he ha, Option.map_some, List.isEmpty_map]

theorem equal?_iff {e a : Value} (he : e.isResponse = true) (ha : a.isResponse = true) :
    e.equal? a = some true ↔ StrictlyEqual e a := by
  rw [equal?_of_isResponse he ha, Option.some.injEq, List.isEmpty_iff,
    diff_eq_nil_iff_strictlyEqual e a he ha]

/-! ## §3. Reordering. -/

/-- Whether a value comes from another by reordering the fields of objects in it. -/
inductive Reordered : Value → Value → Prop
  | refl (v : Value) : Reordered v v
  | trans {u v w : Value} : Reordered u v → Reordered v w → Reordered u w
  | keys {s : ObjectShape} {fs gs : Fields} : fs.Perm gs → Reordered (.object s fs) (.object s gs)
  | item {s : ArrayShape} (xs ys : List Value) {v w : Value} : Reordered v w →
      Reordered (.array s (xs ++ v :: ys)) (.array s (xs ++ w :: ys))
  | field {s : ObjectShape} (fs gs : Fields) (k : Value) {v w : Value} : Reordered v w →
      Reordered (.object s (fs ++ (k, v) :: gs)) (.object s (fs ++ (k, w) :: gs))

namespace Reordered

variable {v w : Value}

theorem symm (h : Reordered v w) : Reordered w v := by
  induction h with
  | refl v => exact .refl v
  | trans _ _ ih ih' => exact .trans ih' ih
  | keys hperm => exact .keys hperm.symm
  | item xs ys _ ih => exact .item xs ys ih
  | field fs gs k _ ih => exact .field fs gs k ih

/-- What a response is reordered to is a response. -/
theorem isResponse (h : Reordered v w) (hv : v.isResponse = true) : w.isResponse = true := by
  induction h with
  | refl v => exact hv
  | trans _ _ ih ih' => exact ih' (ih hv)
  | keys hperm =>
      obtain ⟨hs, hnamed, hfs⟩ := isResponse_object.mp hv
      obtain ⟨htexts, hnodup⟩ := fieldsAreNamed_iff.mp hnamed
      refine isResponse_object.mpr ⟨hs, fieldsAreNamed_iff.mpr ⟨fun f hf => ?_, ?_⟩, fun f hf => ?_⟩
      · exact htexts f (hperm.mem_iff.mpr hf)
      · exact (hperm.map (·.1)).nodup_iff.mp hnodup
      · exact hfs f (hperm.mem_iff.mpr hf)
  | item xs ys _ ih =>
      simp only [isResponse_array, List.forall_mem_append, List.forall_mem_cons] at hv ⊢
      exact ⟨hv.1, ih hv.2.1, hv.2.2⟩
  | field fs gs k _ ih =>
      simp only [isResponse_object, fieldsAreNamed_iff, List.map_append, List.map_cons,
        List.forall_mem_append, List.forall_mem_cons] at hv ⊢
      exact ⟨hv.1, hv.2.1, hv.2.2.1, ih hv.2.2.2.1, hv.2.2.2.2⟩

end Reordered

/-- An item of an array in which one was exchanged is the new one or was there before. -/
theorem getElem?_exchange {xs ys : List Value} {w x : Value} {i : Nat} (v : Value)
    (h : (xs ++ w :: ys)[i]? = some x) :
    (x = w ∧ (xs ++ v :: ys)[i]? = some v) ∨ (xs ++ v :: ys)[i]? = some x := by
  grind

/-- A value found where one was exchanged is the new one or was found before. -/
theorem find?_exchange {fs gs : Fields} {k k' w x : Value} (v : Value)
    (h : Fields.find? k' (fs ++ (k, w) :: gs) = some x) :
    (x = w ∧ Fields.find? k' (fs ++ (k, v) :: gs) = some v) ∨
      Fields.find? k' (fs ++ (k, v) :: gs) = some x := by
  induction fs with
  | nil =>
      rw [List.nil_append, Fields.find?_cons] at h ⊢
      split at h
      · next hk => exact Or.inl ⟨(Option.some.inj h).symm, by rw [if_pos hk]⟩
      · next hk => exact Or.inr (by rw [if_neg hk]; exact h)
  | cons f fs ih =>
      rw [List.cons_append, Fields.find?_cons] at h ⊢
      split at h
      · next hk => exact Or.inr (by rw [if_pos hk]; exact h)
      · next hk =>
          rw [if_neg hk]
          exact ih h

theorem has_exchange (fs gs : Fields) (k k' v w : Value) :
    Fields.has k' (fs ++ (k, w) :: gs) = Fields.has k' (fs ++ (k, v) :: gs) := by
  unfold Fields.has
  induction fs with
  | nil =>
      rw [List.nil_append, List.nil_append, Fields.find?_cons, Fields.find?_cons]
      cases k.same k' <;> rfl
  | cons f fs ih =>
      rw [List.cons_append, List.cons_append, Fields.find?_cons, Fields.find?_cons]
      cases f.1.same k' with
      | true => rfl
      | false => exact ih

theorem find?_of_perm {fs gs : Fields} (h : fs.Perm gs) (hfs : fieldsAreNamed fs = true)
    (hgs : fieldsAreNamed gs = true) (k : Value) : Fields.find? k fs = Fields.find? k gs := by
  refine Option.ext (fun v => ?_)
  rw [find?_eq_some_iff hfs, find?_eq_some_iff hgs, h.mem_iff]

namespace StrictlyEqual

variable {e a b : Value}

/-- An item of an array may be exchanged for one that equals all that the old one equals. -/
theorem exchange_item {s : ArrayShape} {xs ys : List Value} {v w : Value}
    (hvw : ∀ u, StrictlyEqual v u → StrictlyEqual w u)
    (h : StrictlyEqual (.array s (xs ++ v :: ys)) a) :
    StrictlyEqual (.array s (xs ++ w :: ys)) a := by
  cases h with
  | number he => cases he
  | array hlength hitems =>
      refine .array (by simpa using hlength) (fun i x y hx hy => ?_)
      rcases getElem?_exchange v hx with ⟨rfl, hv⟩ | hx
      · exact hvw y (hitems i v y hv hy)
      · exact hitems i x y hx hy

/-- A value of an object may be exchanged for one that equals all that the old one equals. -/
theorem exchange_field {s : ObjectShape} {fs gs : Fields} {k v w : Value}
    (hvw : ∀ u, StrictlyEqual v u → StrictlyEqual w u)
    (h : StrictlyEqual (.object s (fs ++ (k, v) :: gs)) a) :
    StrictlyEqual (.object s (fs ++ (k, w) :: gs)) a := by
  cases h with
  | number he => cases he
  | object hkeys hvalues =>
      refine .object (fun k' => (has_exchange fs gs k k' v w).trans (hkeys k'))
        (fun k' x y hx hy => ?_)
      rcases find?_exchange v hx with ⟨rfl, hv⟩ | hx
      · exact hvw y (hvalues k' v y hv hy)
      · exact hvalues k' x y hx hy

/-- To reorder a response changes nothing about what it equals. -/
theorem of_reordered {v w : Value} (h : Reordered v w) (hv : v.isResponse = true)
    (hva : StrictlyEqual v a) : StrictlyEqual w a := by
  -- Along the reordering: an exchange below passes the same on to the value around it.
  induction h generalizing a with
  | refl v => exact hva
  | trans h _ ih ih' => exact ih' (h.isResponse hv) (ih hv hva)
  | @keys s fs gs hperm =>
      obtain ⟨-, hnamed, -⟩ := isResponse_object.mp hv
      obtain ⟨-, hnamed', -⟩ := isResponse_object.mp ((Reordered.keys hperm).isResponse hv)
      cases hva with
      | number he => cases he
      | object hkeys hvalues =>
          have hfind := find?_of_perm hperm hnamed hnamed'
          refine .object (fun k => ?_) (fun k b c hb hc => ?_)
          · rw [← hkeys k, Fields.has, Fields.has, hfind k]
          · exact hvalues k b c ((hfind k).trans hb) hc
  | item xs ys _ ih =>
      have hmember := isResponse_array.mp hv _ (List.mem_append_right xs List.mem_cons_self)
      exact hva.exchange_item (fun u hu => ih hmember hu)
  | field fs gs k _ ih =>
      have hmember := (isResponse_object.mp hv).2.2 _ (List.mem_append_right fs List.mem_cons_self)
      exact hva.exchange_field (fun u hu => ih hmember hu)

end StrictlyEqual

theorem equal?_of_reordered {e e' a a' : Value} (he : e.isResponse = true)
    (ha : a.isResponse = true) (hee : Reordered e e') (haa : Reordered a a') :
    e.equal? a = e'.equal? a' := by
  have he' := hee.isResponse he
  have ha' := haa.isResponse ha
  have hiff : StrictlyEqual e a ↔ StrictlyEqual e' a' := by
    constructor
    · intro h
      exact ((h.of_reordered hee he).symm.of_reordered haa ha).symm
    · intro h
      exact ((h.of_reordered hee.symm he').symm.of_reordered haa.symm ha').symm
  have hempty : (e.diff a).isEmpty = (e'.diff a').isEmpty := by
    rw [Bool.eq_iff_iff, List.isEmpty_iff, List.isEmpty_iff,
      diff_eq_nil_iff_strictlyEqual e a he ha, diff_eq_nil_iff_strictlyEqual e' a' he' ha', hiff]
  rw [equal?_of_isResponse he ha, equal?_of_isResponse he' ha', hempty]

/-- Equality is an equivalence on the responses in which no not-a-number stands. -/
theorem equal?_equivalence : Equivalence
    (fun v w : {v : Value // v.isResponse = true ∧ v.hasNaN = false} =>
      v.1.equal? w.1 = some true) where
  refl v := by
    have hnil := (diff_self_eq_nil_iff v.2.1).mpr v.2.2
    exact (equal?_iff v.2.1 v.2.1).mpr
      ((diff_eq_nil_iff_strictlyEqual v.1 v.1 v.2.1 v.2.1).mp hnil)
  symm {v w} h := (equal?_iff w.2.1 v.2.1).mpr ((equal?_iff v.2.1 w.2.1).mp h).symm
  trans {u v w} h h' := (equal?_iff u.2.1 w.2.1).mpr
    (((equal?_iff u.2.1 v.2.1).mp h).trans ((equal?_iff v.2.1 w.2.1).mp h'))

/-! ## §4. The comparison as a decision of equality. -/

/-- **The comparison decides strict equality.**  Of two responses there is always a report, and it
is empty just if they are equal.  On responses without not-a-number to be found equal is an
equivalence, and no reordering of fields on either side changes the answer. -/
theorem comparison_decides_equality :
    (∀ e a : Value, e.isResponse = true → a.isResponse = true →
      (∃ lines, e.report? a = some lines ∧ (lines = [] ↔ StrictlyEqual e a)) ∧
      (∃ equal, e.equal? a = some equal ∧ (equal = true ↔ StrictlyEqual e a))) ∧
    Equivalence (fun v w : {v : Value // v.isResponse = true ∧ v.hasNaN = false} =>
      v.1.equal? w.1 = some true) ∧
    ∀ e e' a a' : Value, e.isResponse = true → a.isResponse = true → Reordered e e' →
      Reordered a a' → e.equal? a = e'.equal? a' := by
  refine ⟨fun e a he ha => ?_, equal?_equivalence, fun e e' a a' he ha hee haa => ?_⟩
  · have hnil := diff_eq_nil_iff_strictlyEqual e a he ha
    refine ⟨⟨_, report?_of_isResponse he ha, ?_⟩, ⟨_, equal?_of_isResponse he ha, ?_⟩⟩
    · rw [List.map_eq_nil_iff, hnil]
    · rw [List.isEmpty_iff, hnil]
  · exact equal?_of_reordered he ha hee haa

/-- A list equals a tuple, the whole number one the double one, and the order of keys is free; but
the boolean is not the number. -/
theorem comparison_decides_equality_reordered :
    let one : Value := .ofFields [(.text "a", .ofItems [.int 1]), (.text "b", .null)]
    let swapped : Value := .ofFields [(.text "b", .null), (.text "a", .ofItems [.int 1])]
    let other : Value := .ofFields [(.text "b", .null),
      (.text "a", .array .tuple [.float (.finite false ⟨2 ^ 52, -52, by decide⟩)])]
    StrictlyEqual one other ∧ swapped.equal? other = some true ∧
      ¬ StrictlyEqual (.bool true) (.int 1) := by
  intro one swapped other
  obtain ⟨decides, -, reordered⟩ := comparison_decides_equality
  have hone : one.isResponse = true := by decide +kernel
  have hother : other.isResponse = true := by decide +kernel
  have hequal : one.equal? other = some true := by decide +kernel
  refine ⟨?_, ?_, fun hboolean => ?_⟩
  · obtain ⟨-, equal, hanswer, hiff⟩ := decides one other hone hother
    exact hiff.mp (Option.some.inj (hanswer.symm.trans hequal))
  · have hswapped : Reordered one swapped := .keys (.swap _ _ _)
    exact (reordered one swapped other other hone hother hswapped (.refl other)).symm.trans hequal
  · obtain ⟨⟨lines, hreport, hiff⟩, -⟩ := decides (.bool true) (.int 1) rfl (by decide +kernel)
    have hsome : Value.report? (.bool true) (.int 1) ≠ some [] := by decide +kernel
    exact hsome (hreport.trans (congrArg some (hiff.mpr hboolean)))

end Value

end Golden

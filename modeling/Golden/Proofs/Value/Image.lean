/-
  Golden.Proofs.Value.Image
  ────────────────────────────────
  **WHAT THE INTERCHANGE FORMAT KEEPS OF A VALUE.**

  The format has one kind of array and only texts as keys.  What it keeps of a
  value is its image: tuples become lists, every key becomes the text that
  stands for it, and of the keys that become equal the first gives the place
  and the last the value.

      image (1, [2])             =  [1, [2]]
      image {1: a, "b": c, "1": d}  =  {"1": d, "b": c}

  A value of the format is its own image.
-/
import Golden.Json.Writer
import Golden.Proofs.Value.Json
import Mathlib.Data.List.Dedup
import Mathlib.Data.List.Induction

namespace Golden

/-! ## §1. Keys that become equal. -/

namespace Fields

theorem find?_eq_none_iff {k : Value} {fs : Fields} :
    Fields.find? k fs = none ↔ ∀ f ∈ fs, f.1.same k = false := by
  simp [Fields.find?]

/-- Fields whose keys are names. -/
def ofNamed (pairs : List (String × Value)) : Fields := pairs.map (fun x => (.text x.1, x.2))

/-- Names with their values, each name once: at its first place, with its last value.  Of the names
in reverse order the last of each is kept, which is the first in order. -/
def merged (pairs : List (String × Value)) : Fields :=
  (pairs.reverse.map (·.1)).dedup.reverse.map
    (fun name => (.text name, (pairs.reverse.lookup name).getD .null))

/-- Among names that stand once each, putting a value under a name changes the value of that name
alone, or adds it at the end. -/
theorem put_names {names : List String} (hnodup : names.Nodup) (value : String → Value)
    (name : String) (v : Value) :
    put (.text name) v (names.map (fun n => (.text n, value n))) =
      (if name ∈ names then names else names ++ [name]).map
        (fun n => (.text n, if n = name then v else value n)) := by
  induction names with
  | nil => simp [put]
  | cons n ns ih =>
      obtain ⟨hn, hns⟩ := List.nodup_cons.mp hnodup
      rw [List.map_cons]
      show (if (Value.text n).same (.text name) then _ else _) = _
      by_cases hname : n = name
      · subst hname
        rw [if_pos (Value.same_text.mpr rfl), if_pos List.mem_cons_self, List.map_cons, if_pos rfl]
        refine congrArg _ (List.map_congr_left (fun m hm => ?_))
        rw [if_neg (by rintro rfl; exact hn hm)]
      · have hsame : ¬ (Value.text n).same (.text name) = true := by
          rw [Value.same_text]
          simpa using hname
        rw [if_neg hsame, ih hns]
        by_cases hmem : name ∈ ns
        · rw [if_pos hmem, if_pos (List.mem_cons_of_mem n hmem), List.map_cons, if_neg hname]
        · have hmem' : name ∉ n :: ns := by simp [hmem, Ne.symm hname]
          rw [if_neg hmem, if_neg hmem', List.cons_append, List.map_cons, if_neg hname]

theorem ofPairs_concat (fs : Fields) (k v : Value) :
    ofPairs (fs ++ [(k, v)]) = put k v (ofPairs fs) := by
  simp [ofPairs, List.foldl_append]

/-- **Puts one after the other leave each name at its first place with its last value.** -/
theorem ofPairs_ofNamed (pairs : List (String × Value)) : ofPairs (ofNamed pairs) = merged pairs := by
  -- The last put comes last, so the induction is from the end.
  induction pairs using List.reverseRecOn with
  | nil => rfl
  | append_singleton pairs x ih =>
      obtain ⟨name, v⟩ := x
      rw [show ofNamed (pairs ++ [(name, v)]) = ofNamed pairs ++ [(.text name, v)] by simp [ofNamed],
        ofPairs_concat, ih]
      unfold merged
      rw [put_names (List.nodup_reverse.mpr (List.nodup_dedup _)), List.reverse_concat,
        List.map_cons]
      -- The last value of a name is the new one under its own name, and else the one before.
      have hlast : ∀ n, (((name, v) :: pairs.reverse).lookup n).getD .null =
          if n = name then v else (pairs.reverse.lookup n).getD .null := by
        intro n
        rw [List.lookup_cons]
        by_cases hn : n = name
        · subst hn
          simp
        · rw [beq_false_of_ne hn, if_neg hn]
      simp only [hlast]
      by_cases hmem : name ∈ pairs.reverse.map (·.1)
      · rw [List.dedup_cons_of_mem hmem, if_pos (by simpa using hmem)]
      · rw [List.dedup_cons_of_notMem hmem, if_neg (by simpa using hmem), List.reverse_cons]

theorem put_of_new {k : Value} (v : Value) {fs : Fields} (h : Fields.find? k fs = none) :
    Fields.put k v fs = fs ++ [(k, v)] := by
  induction fs with
  | nil => rfl
  | cons f fs ih =>
      obtain ⟨k', v'⟩ := f
      rw [Fields.find?_cons] at h
      by_cases hk : k'.same k = true
      · rw [if_pos hk] at h
        cases h
      · rw [if_neg hk] at h
        show (if k'.same k then _ else (k', v') :: Fields.put k v fs) = _
        rw [if_neg hk, ih h]
        rfl

theorem find?_ofNamed {name : String} {pairs : List (String × Value)}
    (h : name ∉ pairs.map (·.1)) : Fields.find? (.text name) (ofNamed pairs) = none := by
  induction pairs with
  | nil => rfl
  | cons x pairs ih =>
      rw [List.map_cons, List.mem_cons, not_or] at h
      obtain ⟨hne, hrest⟩ := h
      rw [ofNamed, List.map_cons, Fields.find?_cons, if_neg]
      · exact ih hrest
      · rw [Value.same_text, Value.text.injEq]
        exact fun heq => hne heq.symm

/-- Names that stand once each keep their places and values. -/
theorem merged_of_nodup {pairs : List (String × Value)} (h : (pairs.map (·.1)).Nodup) :
    merged pairs = ofNamed pairs := by
  rw [← ofPairs_ofNamed]
  induction pairs using List.reverseRecOn with
  | nil => rfl
  | append_singleton pairs x ih =>
      rw [List.map_append, List.nodup_append] at h
      obtain ⟨hpairs, -, hnew⟩ := h
      have hname : x.1 ∉ pairs.map (·.1) := fun hmem => hnew x.1 hmem x.1 (by simp) rfl
      rw [show ofNamed (pairs ++ [x]) = ofNamed pairs ++ [(.text x.1, x.2)] by simp [ofNamed],
        ofPairs_concat, ih hpairs, put_of_new x.2 (find?_ofNamed hname)]

end Fields

namespace Value

/-! ## §2. Images. -/

/-- The text that stands for a key. -/
def keyImage : Value → String
  | .text s => s
  | .int n => Decimal.intText n
  | .float (.finite negative x) => Decimal.finiteText negative x
  | .float (.infinite false) => "Infinity"
  | .float (.infinite true) => "-Infinity"
  | .float .nan => "NaN"
  | .bool true => "true"
  | .bool false => "false"
  | .null => "null"
  | _ => ""

mutual

/-- What the interchange format keeps of a value. -/
def image : Value → Value
  | .array _ xs => .ofItems (itemImages xs)
  | .object _ fs => .ofFields (Fields.merged (fieldImages fs))
  | v => v

/-- The images of items. -/
def itemImages : List Value → List Value
  | [] => []
  | v :: vs => image v :: itemImages vs

/-- The images of fields, with the texts of their keys. -/
def fieldImages : List (Value × Value) → List (String × Value)
  | [] => []
  | (k, v) :: fs => (keyImage k, image v) :: fieldImages fs

end

/-- Every key that can be written is written as the text that stands for it. -/
theorem keyText_eq_keyImage {k : Value} (h : Json.keyRefusal? k = none) :
    Json.keyText k = keyImage k := by
  cases k with
  | bool b => cases b <;> rfl
  | float x =>
      cases x with
      | infinite negative => cases negative <;> rfl
      | _ => rfl
  | null => rfl
  | int n => rfl
  | text s => rfl
  | _ => cases h

theorem itemImages_eq_map (xs : List Value) : itemImages xs = xs.map image := by
  induction xs with
  | nil => rfl
  | cons x xs ih => rw [itemImages, ih, List.map_cons]

theorem mem_fieldImages {fs : Fields} {x : String × Value} (h : x ∈ fieldImages fs) :
    ∃ f ∈ fs, x.2 = f.2.image := by
  induction fs with
  | nil => cases h
  | cons f fs ih =>
      rcases List.mem_cons.mp h with rfl | h
      · exact ⟨f, List.mem_cons_self, rfl⟩
      · obtain ⟨g, hg, hx⟩ := ih h
        exact ⟨g, List.mem_cons_of_mem f hg, hx⟩

/-- Names that stand once each, with values of the interchange format, are fields of an object of
it. -/
theorem fieldsAreJson_names {names : List String} (hnodup : names.Nodup) {value : String → Value}
    (h : ∀ n ∈ names, (value n).isJson = true) :
    fieldsAreJson (names.map (fun n => (.text n, value n))) = true := by
  induction names with
  | nil => rfl
  | cons n ns ih =>
      obtain ⟨hn, hns⟩ := List.nodup_cons.mp hnodup
      have hnone : Fields.find? (.text n) (ns.map (fun m => (.text m, value m))) = none := by
        refine Fields.find?_eq_none_iff.mpr (fun f hf => ?_)
        obtain ⟨m, hm, rfl⟩ := List.mem_map.mp hf
        rw [← Bool.not_eq_true, same_text, Value.text.injEq]
        rintro rfl
        exact hn hm
      simp only [List.map_cons, fieldsAreJson, Bool.and_eq_true, Bool.not_eq_true']
      exact ⟨⟨⟨rfl, Fields.has_eq_false_iff.mpr hnone⟩, h n List.mem_cons_self⟩,
        ih hns (fun m hm => h m (List.mem_cons_of_mem n hm))⟩

theorem fieldsAreJson_merged {pairs : List (String × Value)}
    (h : ∀ x ∈ pairs, x.2.isJson = true) : fieldsAreJson (Fields.merged pairs) = true := by
  refine fieldsAreJson_names (List.nodup_reverse.mpr (List.nodup_dedup _)) (fun n _ => ?_)
  cases hlast : pairs.reverse.lookup n with
  | none => rfl
  | some v =>
      obtain ⟨before, after, heq, -⟩ := List.lookup_eq_some_iff.mp hlast
      exact h (n, v) (List.mem_reverse.mp (by rw [heq]; simp))

/-! ## §3. Values whose keys are texts. -/

mutual

/-- Whether all keys of all objects in a value are texts, each of them once in its object. -/
def hasTextKeys : Value → Bool
  | .array _ xs => itemsHaveTextKeys xs
  | .object _ fs => fieldsHaveTextKeys fs
  | _ => true

/-- Whether it is so in all items. -/
def itemsHaveTextKeys : List Value → Bool
  | [] => true
  | v :: vs => hasTextKeys v && itemsHaveTextKeys vs

/-- Whether it is so of fields and in their values. -/
def fieldsHaveTextKeys : List (Value × Value) → Bool
  | [] => true
  | (k, v) :: fs => k.isText && !Fields.has k fs && hasTextKeys v && fieldsHaveTextKeys fs

end

theorem fieldsHaveTextKeys_cons {k v : Value} {fs : Fields}
    (h : fieldsHaveTextKeys ((k, v) :: fs) = true) :
    (∃ s, k = .text s) ∧ Fields.find? k fs = none ∧ v.hasTextKeys = true ∧
      fieldsHaveTextKeys fs = true := by
  simp only [fieldsHaveTextKeys, Bool.and_eq_true, Bool.not_eq_true'] at h
  exact ⟨isText_iff.mp h.1.1.1, Fields.has_eq_false_iff.mp h.1.1.2, h.1.2, h.2⟩

theorem itemsHaveTextKeys_iff {xs : List Value} :
    itemsHaveTextKeys xs = true ↔ ∀ v ∈ xs, v.hasTextKeys = true := by
  induction xs with
  | nil => simp [itemsHaveTextKeys]
  | cons x xs ih => simp [itemsHaveTextKeys, ih]

theorem hasTextKeys_of_mem_fields {fs : Fields} (h : fieldsHaveTextKeys fs = true) :
    ∀ f ∈ fs, f.2.hasTextKeys = true := by
  induction fs with
  | nil => intro f hf; cases hf
  | cons g fs ih =>
      obtain ⟨-, -, hv, hfs⟩ := fieldsHaveTextKeys_cons h
      intro f hf
      rcases List.mem_cons.mp hf with rfl | hf
      · exact hv
      · exact ih hfs f hf

/-- Keys that are texts are their own images, and each still stands once. -/
theorem ofNamed_fieldImages {fs : Fields} (h : fieldsHaveTextKeys fs = true) :
    Fields.ofNamed (fieldImages fs) = fs.map (fun f => (f.1, f.2.image)) ∧
      ((fieldImages fs).map (·.1)).Nodup := by
  induction fs with
  | nil => exact ⟨rfl, List.nodup_nil⟩
  | cons f fs ih =>
      obtain ⟨k, v⟩ := f
      obtain ⟨⟨s, rfl⟩, hnone, -, hfs⟩ := fieldsHaveTextKeys_cons h
      obtain ⟨heq, hnodup⟩ := ih hfs
      refine ⟨?_, List.nodup_cons.mpr ⟨fun hmem => ?_, hnodup⟩⟩
      · rw [List.map_cons, ← heq]
        rfl
      -- A name among the others would be the same key.
      · obtain ⟨x, hx, hxs⟩ := List.mem_map.mp hmem
        have hname : x.1 = s := hxs
        have hfield : (Value.text x.1, x.2) ∈ fs.map (fun f => (f.1, f.2.image)) := by
          rw [← heq]
          exact List.mem_map.mpr ⟨x, hx, rfl⟩
        obtain ⟨f, hf, hfx⟩ := List.mem_map.mp hfield
        have hkey : f.1 = .text s := by
          rw [← hname]
          exact congrArg Prod.fst hfx
        have hmiss := Fields.find?_eq_none_iff.mp hnone f hf
        rw [hkey, same_text.mpr rfl] at hmiss
        cases hmiss

/-- **Where all keys are texts the image keeps every field.** -/
theorem image_object {fs : Fields} (shape : ObjectShape) (h : fieldsHaveTextKeys fs = true) :
    image (.object shape fs) = .ofFields (fs.map (fun f => (f.1, f.2.image))) := by
  obtain ⟨heq, hnodup⟩ := ofNamed_fieldImages h
  rw [image, Fields.merged_of_nodup hnodup, heq]

theorem fieldsHaveTextKeys_of_isJson {fs : Fields} (h : fieldsAreJson fs = true)
    (hvalues : ∀ f ∈ fs, f.2.hasTextKeys = true) : fieldsHaveTextKeys fs = true := by
  induction fs with
  | nil => rfl
  | cons f fs ih =>
      obtain ⟨k, v⟩ := f
      obtain ⟨hk, hnone, -, hfs⟩ := fieldsAreJson_cons h
      simp only [fieldsHaveTextKeys, Bool.and_eq_true, Bool.not_eq_true']
      exact ⟨⟨⟨hk, Fields.has_eq_false_iff.mpr hnone⟩, hvalues (k, v) List.mem_cons_self⟩,
        ih hfs (fun g hg => hvalues g (List.mem_cons_of_mem _ hg))⟩

theorem hasTextKeys_of_isJson (v : Value) (h : v.isJson = true) : v.hasTextKeys = true := by
  induction v, h using Value.inductJson with
  | scalar v hv h =>
      cases v with
      | array shape xs => cases hv
      | object shape fs => cases hv
      | _ => rfl
  | items xs h ih => exact itemsHaveTextKeys_iff.mpr ih
  | fields fs h ih => exact fieldsHaveTextKeys_of_isJson h ih

/-- **A value of the interchange format is its own image.** -/
theorem image_of_isJson (v : Value) (h : v.isJson = true) : v.image = v := by
  induction v, h using Value.inductJson with
  | scalar v hv h =>
      cases v with
      | array shape xs => cases hv
      | object shape fs => cases hv
      | _ => rfl
  | items xs h ih =>
      rw [image, itemImages_eq_map, List.map_congr_left ih, List.map_id']
  | fields fs h ih =>
      rw [image_object .plain (hasTextKeys_of_isJson (.ofFields fs) h)]
      refine congrArg _ ?_
      rw [List.map_congr_left (fun f hf => by rw [ih f hf] : ∀ f ∈ fs, _ = f), List.map_id']

end Value

end Golden

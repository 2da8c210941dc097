/-
  Golden.Proofs.Mask.Shapes
  ────────────────────────────────
  **SPECS OF SEVERAL SHAPES FOR ONE MASK.**

  The same mask can be written in many ways.  A step changes one place of a
  spec, the whole of it or an entry at any depth:

      "a", as the whole                     →   ["a"]
      ["a", "b"], a set                     →   {"a": true, "b": true}
      false, 7, "a", under a key            →   replace
      null, {}, []                          →   each other
      null, an object, an array, a set      →   the mask that it compiles to
      entries or items                      →   in another order

  A text is a key as the whole and replaces under a key; null is no rule as the
  whole and an empty mask under a key.  So each step is taken at a place that
  stands in one of two ways, and leaves the rule there matching.  Specs that
  steps lead between, in either direction, compile to masks that are alike.

  What an object spec says of a name is the rule of its last entry with it, and
  a mask that is compiled says what it says:

      find? name (compile {...})  =  lastRule name {...}
      compile mask.toValue        =  mask
-/
import Golden.Proofs.Mask.Merge
import Golden.Proofs.Sanitize.Twice
import Golden.Proofs.Value.Image
import Mathlib.Logic.Relation

namespace Golden

/-! ## §1. Being alike is an equivalence. -/

theorem Rule.Matches.flip {R : Mask → Mask → Prop} {r s : Option Rule} (h : Matches R r s) :
    Matches (fun a b => R b a) s r := by
  cases h with
  | none => exact .none
  | act a => exact .act a
  | nested h => exact .nested h

theorem Rule.Matches.comp {R S : Mask → Mask → Prop} {r s t : Option Rule} (h : Matches R r s)
    (h' : Matches S s t) : Matches (fun a c => ∃ b, R a b ∧ S b c) r t := by
  cases h with
  | none =>
      cases h'
      exact .none
  | act a =>
      cases h'
      exact .act a
  | nested h =>
      cases h' with
      | nested h' => exact .nested ⟨_, h, h'⟩

namespace Mask

theorem Alike.refl (a : Mask) : a.Alike a := by
  refine ⟨Eq, ?_, rfl⟩
  rintro b _ rfl name
  cases find? name b with
  | none => exact .none
  | some r =>
      cases r with
      | act a => exact .act a
      | nested c => exact .nested rfl

theorem Alike.symm {a b : Mask} (h : a.Alike b) : b.Alike a := by
  refine ⟨fun c d => d.Alike c, ?_, h⟩
  intro c d hdc name
  exact (matching_alike d c hdc name).flip

theorem Alike.trans {a b c : Mask} (hab : a.Alike b) (hbc : b.Alike c) : a.Alike c := by
  refine ⟨fun d f => ∃ e, d.Alike e ∧ e.Alike f, ?_, b, hab, hbc⟩
  rintro d f ⟨e, hde, hef⟩ name
  exact (matching_alike d e hde name).comp (matching_alike e f hef name)

theorem matches_refl (r : Option Rule) : Rule.Matches Alike r r := by
  cases r with
  | none => exact .none
  | some r =>
      cases r with
      | act a => exact .act a
      | nested a => exact .nested (Alike.refl a)

/-- Masks with matching rules under every name are alike. -/
theorem alike_of_find? {a b : Mask}
    (h : ∀ name, Rule.Matches Alike (find? name a) (find? name b)) : a.Alike b := by
  -- The relation has to hold of the two masks themselves and of all that is nested in them.
  refine ⟨fun c d => c.Alike d ∨ ∀ name, Rule.Matches Alike (find? name c) (find? name d), ?_,
    .inr h⟩
  intro c d hcd name
  have hname : Rule.Matches Alike (find? name c) (find? name d) := by
    cases hcd with
    | inl halike => exact matching_alike c d halike name
    | inr hmatch => exact hmatch name
  exact hname.mono .inl

/-! ## §2. Of the entries with one name the last decides. -/

theorem find?_put (name n : String) (r : Rule) (mask : Mask) :
    find? name (put n r mask) = if n = name then some r else find? name mask := by
  induction mask with
  | nil => rw [put, find?_cons]
  | cons x rest ih =>
      obtain ⟨n', r'⟩ := x
      unfold put
      by_cases hn : n' = n
      · subst hn
        rw [if_pos (beq_self_eq_true n'), find?_cons, find?_cons]
        by_cases hname : n' = name
        · rw [if_pos hname, if_pos hname]
        · rw [if_neg hname, if_neg hname, if_neg hname]
      · rw [if_neg (by simpa using hn), find?_cons, find?_cons, ih]
        by_cases hname : n' = name
        · rw [if_pos hname, if_pos hname, if_neg]
          rintro rfl
          exact hn hname
        · rw [if_neg hname, if_neg hname]

/-- The rule that the last entry of a name writes. -/
def lastRule (name : String) (fs : Fields) : Option Rule :=
  (fs.filter (fun f => f.1.plain == name)).getLast?.map (fun f => rule f.2)

theorem lastRule_append (name : String) (fs gs : Fields) :
    lastRule name (fs ++ gs) = (lastRule name gs).or (lastRule name fs) := by
  unfold lastRule
  rw [List.filter_append, List.getLast?_append, Option.map_or]

theorem lastRule_cons (name : String) (k v : Value) (fs : Fields) :
    lastRule name ((k, v) :: fs) =
      (lastRule name fs).or (if k.plain = name then some (rule v) else none) := by
  rw [← List.singleton_append, lastRule_append]
  by_cases h : k.plain = name <;> simp [lastRule, h]

theorem find?_entries (name : String) (mask : Mask) (fs : Fields) :
    find? name (entries mask fs) = (lastRule name fs).or (find? name mask) := by
  -- The mask so far grows by an entry, and the later entries go before it.
  induction fs generalizing mask with
  | nil => rfl
  | cons f fs ih =>
      obtain ⟨k, v⟩ := f
      rw [entries, ih, find?_put, lastRule_cons, Option.or_assoc]
      by_cases h : k.plain = name
      · rw [if_pos h, if_pos h, Option.some_or]
      · rw [if_neg h, if_neg h, Option.none_or]

/-- **What an object spec says of a name is what its last entry of that name writes.** -/
theorem find?_compile_fields (name : String) (fs : Fields) :
    find? name (compile (.ofFields fs)) = lastRule name fs := by
  show find? name (entries empty fs) = _
  rw [find?_entries]
  exact Option.or_none

/-- Where each key has a text of its own, and only an entry with one text is read as a rule, the order
of the entries does not matter. -/
theorem findSome?_perm {name : String} {read : Value × Value → Option Rule}
    (hread : ∀ f r, read f = some r → f.1.plain = name) {fs gs : Fields} (h : fs.Perm gs)
    (hnodup : (fs.map (fun f => f.1.plain)).Nodup) :
    fs.findSome? read = gs.findSome? read := by
  induction h with
  | nil => rfl
  | cons f h ih =>
      rw [List.findSome?_cons, List.findSome?_cons, ih (List.nodup_cons.mp hnodup).2]
  | swap f g fs =>
      -- At most one of the two is read.
      have hne : g.1.plain ≠ f.1.plain := by
        intro heq
        rw [List.map_cons, List.map_cons, List.nodup_cons, heq] at hnodup
        exact hnodup.1 List.mem_cons_self
      simp only [List.findSome?_cons]
      cases hg : read g with
      | none => rfl
      | some r =>
          cases hf : read f with
          | none => rfl
          | some r' => exact absurd ((hread g r hg).trans (hread f r' hf).symm) hne
  | trans h h' ih ih' => rw [ih hnodup, ih' ((h.map _).nodup_iff.mp hnodup)]

/-- What one entry of an object spec writes of a name. -/
def entryRule (name : String) (f : Value × Value) : Option Rule :=
  if f.1.plain = name then some (rule f.2) else none

/-- The last entry of a name is the first from behind. -/
theorem lastRule_eq_findSome? (name : String) (fs : Fields) :
    lastRule name fs = fs.reverse.findSome? (entryRule name) := by
  induction fs with
  | nil => rfl
  | cons f fs ih =>
      obtain ⟨k, v⟩ := f
      rw [lastRule_cons, ih, List.reverse_cons, List.findSome?_append, List.findSome?_singleton]
      rfl

theorem lastRule_perm (name : String) {fs gs : Fields} (h : fs.Perm gs)
    (hnodup : (fs.map (fun f => f.1.plain)).Nodup) : lastRule name fs = lastRule name gs := by
  have hread : ∀ f r, entryRule name f = some r → f.1.plain = name := by
    intro f r hr
    unfold entryRule at hr
    split at hr
    · next hname => exact hname
    · cases hr
  have hreverse : fs.reverse.Perm gs.reverse :=
    (List.reverse_perm fs).trans (h.trans (List.reverse_perm gs).symm)
  rw [lastRule_eq_findSome?, lastRule_eq_findSome?]
  refine findSome?_perm hread hreverse ?_
  rw [List.map_reverse, List.nodup_reverse]
  exact hnodup

/-- Object specs with matching last entries are alike. -/
theorem alike_of_lastRule {fs gs : Fields}
    (h : ∀ name, Rule.Matches Alike (lastRule name fs) (lastRule name gs)) :
    (compile (.ofFields fs)).Alike (compile (.ofFields gs)) := by
  refine alike_of_find? (fun name => ?_)
  rw [find?_compile_fields, find?_compile_fields]
  exact h name

/-! ## §3. Entries that all replace. -/

/-- The entries of an object spec for a list of keys. -/
def presence (keys : List Value) : Fields := keys.map (fun k => (k, .bool true))

/-- A list of keys and an object with true under each are one mask. -/
theorem flat_eq_entries (keys : List Value) : flat keys = entries empty (presence keys) := by
  unfold flat
  generalize empty = mask
  induction keys generalizing mask with
  | nil => rfl
  | cons k keys ih =>
      show keys.foldl _ (put k.plain (.act .replace) mask) =
        entries (put k.plain (.act .replace) mask) (presence keys)
      exact ih _

theorem lastRule_of_replace (name : String) {fs : Fields}
    (h : ∀ f ∈ fs, rule f.2 = .act .replace) :
    lastRule name fs =
      if name ∈ fs.map (fun f => f.1.plain) then some (.act .replace) else none := by
  induction fs with
  | nil => rfl
  | cons f fs ih =>
      obtain ⟨k, v⟩ := f
      obtain ⟨hv, hfs⟩ := List.forall_mem_cons.mp h
      rw [lastRule_cons, ih hfs, hv, List.map_cons]
      by_cases hmem : name ∈ fs.map (fun f => f.1.plain)
      · rw [if_pos hmem, if_pos (List.mem_cons_of_mem _ hmem), Option.some_or]
      · rw [if_neg hmem, Option.none_or]
        simp only [List.mem_cons, hmem, or_false]
        by_cases hk : k.plain = name
        · rw [if_pos hk, if_pos hk.symm]
        · rw [if_neg hk, if_neg (Ne.symm hk)]

/-- A list of keys replaces what has the text of one of them. -/
theorem find?_flat (name : String) (keys : List Value) :
    find? name (flat keys) =
      if name ∈ keys.map Value.plain then some (.act .replace) else none := by
  have hreplace : ∀ f ∈ presence keys, rule f.2 = .act .replace := by
    intro f hf
    obtain ⟨k, -, rfl⟩ := List.mem_map.mp hf
    rfl
  rw [flat_eq_entries, find?_entries, lastRule_of_replace name hreplace]
  show (if name ∈ (presence keys).map (fun f => f.1.plain) then _ else none).or none = _
  rw [Option.or_none, presence, List.map_map]
  rfl

/-- Lists with the same keys are one mask. -/
theorem alike_flat {xs ys : List Value} (h : ∀ name, name ∈ xs.map Value.plain ↔
    name ∈ ys.map Value.plain) : (flat xs).Alike (flat ys) := by
  refine alike_of_find? (fun name => ?_)
  rw [find?_flat, find?_flat]
  by_cases hname : name ∈ xs.map Value.plain
  · rw [if_pos hname, if_pos ((h name).mp hname)]
    exact .act .replace
  · rw [if_neg hname, if_neg (fun hmem => hname ((h name).mpr hmem))]
    exact .none

/-- An object with true under the text of each key. -/
def spelledOut (keys : List Value) : Value :=
  .ofFields (Fields.ofPairs (keys.map (fun k => (.text k.plain, .bool true))))

/-- Each text stands once in it. -/
theorem spelledOut_eq (keys : List Value) :
    spelledOut keys = .ofFields
      (presence ((keys.map Value.plain).reverse.dedup.reverse.map Value.text)) := by
  have hnamed : keys.map (fun k => (Value.text k.plain, Value.bool true)) =
      Fields.ofNamed ((keys.map Value.plain).map (fun n => (n, .bool true))) := by
    rw [Fields.ofNamed, List.map_map, List.map_map]
    rfl
  unfold spelledOut
  -- The puts leave each text at its first place; its last value is true, as all values are.
  rw [hnamed, Fields.ofPairs_ofNamed, Fields.merged, presence, ← List.map_reverse, List.map_map,
    List.map_map]
  refine congrArg Value.ofFields ?_
  rw [show (Prod.fst ∘ fun n => (n, Value.bool true)) = (id : String → String) from rfl, List.map_id]
  refine List.map_congr_left (fun n hn => ?_)
  have hmem : n ∈ (keys.map Value.plain).reverse := by simpa using hn
  rw [List.lookup_graph (fun _ => Value.bool true) hmem]
  rfl

theorem alike_spelledOut (keys : List Value) : (flat keys).Alike (compile (spelledOut keys)) := by
  rw [spelledOut_eq]
  -- The object is read as a list again, of the texts as keys.
  show (flat keys).Alike (entries empty (presence _))
  rw [← flat_eq_entries]
  refine alike_flat (fun name => ?_)
  rw [List.map_map]
  simp [Function.comp_def, Value.plain]

/-! ## §4. A compiled mask compiles to itself. -/

mutual

theorem ruleOf?_ruleValue : ∀ r : Rule, ruleOf? (ruleValue r) = some r
  | .act _ => rfl
  | .nested rules => by rw [ruleValue, ruleOf?, rulesOf_ruleFields rules]

/-- The fields of a mask hold its rules. -/
theorem rulesOf_ruleFields : ∀ rules : List (String × Rule), rulesOf (ruleFields rules) = rules
  | [] => rfl
  | (name, r) :: rest => by
      rw [ruleFields, rulesOf, ruleOf?_ruleValue r, rulesOf_ruleFields rest]

end

theorem compile_toValue (mask : Mask) : compile mask.toValue = mask := rulesOf_ruleFields mask

/-- What one field of a compiled mask says of a name. -/
def ruleUnder (name : String) (f : Value × Value) : Option Rule :=
  match f.1 with
  | .text s => if s = name then ruleOf? f.2 else none
  | _ => none

theorem plain_of_ruleUnder (name : String) (f : Value × Value) (r : Rule)
    (h : ruleUnder name f = some r) : f.1.plain = name := by
  obtain ⟨k, v⟩ := f
  unfold ruleUnder at h
  cases k with
  | text s =>
      by_cases hs : s = name
      · exact hs
      · simp only [if_neg hs] at h
        cases h
  | _ => cases h

/-- What a compiled mask says of a name is what its first field about the name says. -/
theorem find?_rulesOf (name : String) (fs : Fields) :
    find? name (rulesOf fs) = fs.findSome? (ruleUnder name) := by
  induction fs with
  | nil => rfl
  | cons f fs ih =>
      obtain ⟨k, v⟩ := f
      rw [List.findSome?_cons, ← ih]
      cases k with
      | text s =>
          rw [rulesOf]
          cases hrule : ruleOf? v with
          | none => simp only [ruleUnder, hrule, ite_self]
          | some r =>
              simp only [ruleUnder, hrule]
              rw [find?_cons]
              by_cases hs : s = name
              · rw [if_pos hs, if_pos hs]
              · rw [if_neg hs, if_neg hs]
      | _ => rfl

/-- Objects of either shape whose keys have distinct texts may be reordered. -/
theorem alike_of_perm (shape : ObjectShape) {fs gs : Fields} (hperm : fs.Perm gs)
    (hnodup : (fs.map (fun f => f.1.plain)).Nodup) :
    (compile (.object shape fs)).Alike (compile (.object shape gs)) := by
  cases shape with
  | plain =>
      refine alike_of_lastRule (fun name => ?_)
      rw [lastRule_perm name hperm hnodup]
      exact matches_refl _
  | mask =>
      refine alike_of_find? (fun name => ?_)
      show Rule.Matches Alike (find? name (rulesOf fs)) (find? name (rulesOf gs))
      rw [find?_rulesOf, find?_rulesOf, findSome?_perm (plain_of_ruleUnder name) hperm hnodup]
      exact matches_refl _

/-! ## §5. Steps between specs. -/

/-- How a spec stands: as the whole, or under a key of an object spec. -/
inductive Standing
  | whole
  | below
  deriving DecidableEq, Repr

/-- The rule that a spec writes where it stands. -/
def Standing.rule : Standing → Value → Rule
  | .whole, v => .nested (compile v)
  | .below, v => Mask.rule v

/-- The keys of an array or a set. -/
def keys? : Value → Option (List Value)
  | .array _ xs => some xs
  | .set _ xs => some xs
  | _ => none

/-- Null, an object, an array or a set: what is a mask wherever it stands. -/
def isNestable : Value → Bool
  | .null => true
  | .array _ _ => true
  | .set _ _ => true
  | .object _ _ => true
  | _ => false

/-- Null, or one of the others with nothing in it. -/
def isBare : Value → Bool
  | .null => true
  | .array _ xs => xs.isEmpty
  | .set _ xs => xs.isEmpty
  | .object _ fs => fs.isEmpty
  | _ => false

/-- What replaces under a key without saying so: a boolean, a number, a text or a byte text. -/
def isOther : Value → Bool
  | .action _ => false
  | v => !isNestable v

/-- One step from a spec to another that is to mean the same where it stands. -/
inductive Respelled : Standing → Value → Value → Prop
  /-- A text, as the whole, names one key. -/
  | key (s : String) : Respelled .whole (.text s) (.ofItems [.text s])
  /-- Under a key, whatever is no spec of its own replaces. -/
  | replaces {v : Value} : isOther v = true → Respelled .below v (.action .replace)
  /-- Keys in an array or a set are entries with true, under the texts of the keys. -/
  | spelled (p : Standing) {v : Value} {xs : List Value} : keys? v = some xs →
      Value.allPrintable xs = true → Respelled p v (spelledOut xs)
  /-- One way to name no key is as good as another. -/
  | bare (p : Standing) {v w : Value} : isBare v = true → isBare w = true → Respelled p v w
  /-- A spec may be compiled beforehand. -/
  | compiled (p : Standing) {v : Value} {mask : Mask} : isNestable v = true →
      compile? v = some mask → Respelled p v mask.toValue
  /-- Entries may be reordered where no two keys have the same text. -/
  | fields (p : Standing) (shape : ObjectShape) {fs gs : Fields} : fs.Perm gs →
      (fs.map (fun f => f.1.plain)).Nodup → Respelled p (.object shape fs) (.object shape gs)
  /-- Keys in an array or a set may be reordered always. -/
  | items (p : Standing) {v w : Value} {xs ys : List Value} : keys? v = some xs →
      keys? w = some ys → xs.Perm ys → Respelled p v w
  /-- A step under a key of a plain object is a step of the object; a compiled mask has rules below
  its keys and no specs. -/
  | entry (p : Standing) (fs : Fields) (k : Value) (gs : Fields) {v w : Value} :
      Respelled .below v w →
        Respelled p (.ofFields (fs ++ (k, v) :: gs)) (.ofFields (fs ++ (k, w) :: gs))

/-! ## §6. What the steps are between. -/

theorem Standing.rule_nestable (p : Standing) {v : Value} (h : isNestable v = true) :
    p.rule v = .nested (compile v) := by
  cases p with
  | whole => rfl
  | below =>
      cases v with
      | object shape fs => cases shape <;> rfl
      | _ => first | rfl | cases h

/-- Nestable specs that compile to masks that are alike write matching rules wherever they stand. -/
theorem matches_of_alike (p : Standing) {v w : Value} (hv : isNestable v = true)
    (hw : isNestable w = true) (h : (compile v).Alike (compile w)) :
    Rule.Matches Alike (some (p.rule v)) (some (p.rule w)) := by
  rw [p.rule_nestable hv, p.rule_nestable hw]
  exact .nested h

theorem compile?_eq_some {v : Value} {mask : Mask} :
    compile? v = some mask ↔ entryNamed v = true ∧ compile v = mask := by
  unfold compile?
  split
  · next h => rw [Option.some.injEq, h, eq_self, true_and]
  · next h => simp [h]

theorem of_keys? {v : Value} {xs : List Value} (h : keys? v = some xs) :
    isNestable v = true ∧ entryNamed v = Value.allPrintable xs ∧ compile v = flat xs := by
  cases v with
  | array shape ys => cases h; exact ⟨rfl, rfl, rfl⟩
  | set shape ys => cases h; exact ⟨rfl, rfl, rfl⟩
  | _ => cases h

theorem of_isBare {v : Value} (h : isBare v = true) :
    isNestable v = true ∧ entryNamed v = true ∧ compile v = empty := by
  cases v with
  | null => exact ⟨rfl, rfl, rfl⟩
  | array shape xs => rw [List.isEmpty_iff.mp h]; exact ⟨rfl, rfl, rfl⟩
  | set shape xs => rw [List.isEmpty_iff.mp h]; exact ⟨rfl, rfl, rfl⟩
  | object shape fs =>
      rw [List.isEmpty_iff.mp h]
      cases shape <;> exact ⟨rfl, rfl, rfl⟩
  | _ => cases h

theorem of_isOther {v : Value} (h : isOther v = true) :
    rule v = .act .replace ∧ entryNamed v = true := by
  cases v <;> first | exact ⟨rfl, rfl⟩ | cases h

theorem entriesNamed_iff {fs : Fields} : entriesNamed fs = true ↔
    ∀ f ∈ fs, f.1.isPrintable = true ∧ entryNamed f.2 = true := by
  induction fs with
  | nil => simp [entriesNamed]
  | cons f fs ih => simp [entriesNamed, ih, and_assoc]

theorem allPrintable_perm {xs ys : List Value} (h : xs.Perm ys) :
    Value.allPrintable xs = Value.allPrintable ys := by
  rw [Bool.eq_iff_iff, Value.allPrintable_iff, Value.allPrintable_iff]
  exact forall_congr' (fun x => imp_congr h.mem_iff Iff.rfl)

theorem entryNamed_spelledOut (keys : List Value) : entryNamed (spelledOut keys) = true := by
  rw [spelledOut_eq]
  refine entriesNamed_iff.mpr (fun f hf => ?_)
  obtain ⟨k, hk, rfl⟩ := List.mem_map.mp hf
  obtain ⟨n, -, rfl⟩ := List.mem_map.mp hk
  exact ⟨rfl, rfl⟩

/-! ## §7. A step leaves what a spec means. -/

/-- A step leaves whether all keys have texts. -/
theorem Respelled.entryNamed {p : Standing} {v w : Value} (h : Respelled p v w) :
    entryNamed v = entryNamed w := by
  induction h with
  | key s => rfl
  | replaces hv => exact (of_isOther hv).2
  | spelled p hv hxs => rw [(of_keys? hv).2.1, hxs, entryNamed_spelledOut]
  | bare p hv hw => rw [(of_isBare hv).2.1, (of_isBare hw).2.1]
  | compiled p hv hmask =>
      rw [(compile?_eq_some.mp hmask).1]
      rfl
  | fields p shape hperm hnodup =>
      cases shape with
      | mask => rfl
      | plain =>
          show entriesNamed _ = entriesNamed _
          rw [Bool.eq_iff_iff, entriesNamed_iff, entriesNamed_iff]
          exact forall_congr' (fun f => imp_congr hperm.mem_iff Iff.rfl)
  | items p hv hw hperm => rw [(of_keys? hv).2.1, (of_keys? hw).2.1, allPrintable_perm hperm]
  | entry p fs k gs h ih =>
      show entriesNamed _ = entriesNamed _
      rw [Bool.eq_iff_iff, entriesNamed_iff, entriesNamed_iff]
      simp only [List.forall_mem_append, List.forall_mem_cons, ih]

/-- **A step leaves a matching rule where it is taken**, at whatever depth. -/
theorem Respelled.matches {p : Standing} {v w : Value} (h : Respelled p v w) :
    Rule.Matches Alike (some (p.rule v)) (some (p.rule w)) := by
  -- By induction on the step: an entry hands its rule on, and all else is decided where it stands.
  induction h with
  | key s => exact matches_refl _
  | replaces hv =>
      show Rule.Matches Alike (some (rule _)) _
      rw [(of_isOther hv).1]
      exact .act .replace
  | spelled p hv hxs =>
      obtain ⟨hnest, -, hflat⟩ := of_keys? hv
      refine matches_of_alike p hnest rfl ?_
      rw [hflat]
      exact alike_spelledOut _
  | bare p hv hw =>
      obtain ⟨hnest, -, hempty⟩ := of_isBare hv
      obtain ⟨hnest', -, hempty'⟩ := of_isBare hw
      refine matches_of_alike p hnest hnest' ?_
      rw [hempty, hempty']
      exact Alike.refl empty
  | @compiled p v mask hv hmask =>
      refine matches_of_alike p hv rfl ?_
      rw [(compile?_eq_some.mp hmask).2, compile_toValue]
      exact Alike.refl mask
  | fields p shape hperm hnodup =>
      exact matches_of_alike p rfl rfl (alike_of_perm shape hperm hnodup)
  | items p hv hw hperm =>
      obtain ⟨hnest, -, hflat⟩ := of_keys? hv
      obtain ⟨hnest', -, hflat'⟩ := of_keys? hw
      refine matches_of_alike p hnest hnest' ?_
      rw [hflat, hflat']
      exact alike_flat (fun name => (hperm.map Value.plain).mem_iff)
  | entry p fs k gs h ih =>
      refine matches_of_alike p rfl rfl (alike_of_lastRule (fun name => ?_))
      rw [lastRule_append, lastRule_append, lastRule_cons, lastRule_cons]
      -- A later entry of the name decides, else this one if it has the name, else one before.
      cases lastRule name gs with
      | some r => exact matches_refl _
      | none =>
          by_cases hk : k.plain = name
          · rw [if_pos hk, if_pos hk]
            exact ih
          · rw [if_neg hk, if_neg hk]
            exact matches_refl _

/-- **Specs that steps lead between compile alike**: neither has a mask, or both have and the masks
say the same of every key at every depth. -/
theorem alike_of_eqvGen {v w : Value} (h : Relation.EqvGen (Respelled .whole) v w) :
    entryNamed v = entryNamed w ∧ (compile v).Alike (compile w) := by
  induction h with
  | rel v w h =>
      cases h.matches with
      | nested halike => exact ⟨h.entryNamed, halike⟩
  | refl v => exact ⟨rfl, Alike.refl _⟩
  | symm v w h ih => exact ⟨ih.1.symm, ih.2.symm⟩
  | trans v w x h h' ih ih' => exact ⟨ih.1.trans ih'.1, ih.2.trans ih'.2⟩

/-- **Specs of several shapes for one mask.**  Two specs that steps lead between, in any number and
in either direction, are refused alike or compile to masks that are alike, and then clean every
value alike, call by call, whatever the transform and its effects.  Of the entries of an object spec
that have one name the last decides, as the whole and under a key; a compiled mask is taken as it
is, as the whole and under a key. -/
theorem compile?_respelled :
    (∀ v w : Value, Relation.EqvGen (Respelled .whole) v w →
      (compile? v = none ∧ compile? w = none) ∨
      ∃ a b, compile? v = some a ∧ compile? w = some b ∧ a.Alike b ∧
        ∀ (m : Type → Type) [Monad m] (transform : Call → m Value) (x : Value),
          sanitizeWith transform a x = sanitizeWith transform b x) ∧
    (∀ (fs : Fields) (mask : Mask), compile? (.ofFields fs) = some mask →
      rule (.ofFields fs) = .nested mask ∧
      ∀ name, find? name mask =
        (fs.filter (fun f => f.1.plain == name)).getLast?.map (fun f => rule f.2)) ∧
    ∀ mask : Mask, compile? mask.toValue = some mask ∧ rule mask.toValue = .nested mask := by
  refine ⟨fun v w h => ?_, fun fs mask hmask => ?_, fun mask => ?_⟩
  · obtain ⟨hnamed, halike⟩ := alike_of_eqvGen h
    unfold compile?
    rw [← hnamed]
    cases entryNamed v with
    | false => exact .inl ⟨rfl, rfl⟩
    | true =>
        refine .inr ⟨compile v, compile w, rfl, rfl, halike, ?_⟩
        intro m _ transform x
        exact sanitizeWith_of_alike transform halike x
  · obtain ⟨-, rfl⟩ := compile?_eq_some.mp hmask
    exact ⟨rfl, fun name => find?_compile_fields name fs⟩
  · have hsame := compile_toValue mask
    exact ⟨congrArg some hsame, congrArg Rule.nested hsame⟩

/-- The times of a summary as a list and as an object, with a key beside them that is replaced; and
a name that two keys write. -/
theorem compile?_respelled_summary :
    let times := [Value.text "searchTime", .text "countTime"]
    let listed := Value.ofFields [(.text "summary", .ofItems times), (.text "cached", .bool false)]
    let spelled := Value.ofFields
      [(.text "cached", .action .replace), (.text "summary", spelledOut times)]
    let doubled : Fields := [(.bool true, .null), (.text "True", .bool true)]
    Relation.EqvGen (Respelled .whole) listed spelled ∧
    (∃ a b, compile? listed = some a ∧ compile? spelled = some b ∧ a.Alike b ∧
      ∀ (m : Type → Type) [Monad m] (transform : Call → m Value) (x : Value),
        sanitizeWith transform a x = sanitizeWith transform b x) ∧
    ∃ mask, compile? (.ofFields doubled) = some mask ∧ find? "True" mask = some (.act .replace) := by
  intro times listed spelled doubled
  -- The list is spelled out, the boolean is named, and then the two entries change places.
  have hlist : Respelled .below (.ofItems times) (spelledOut times) := .spelled .below rfl rfl
  have hother : Respelled .below (.bool false) (.action .replace) := .replaces rfl
  have hfirst : Respelled .whole listed _ :=
    hlist.entry .whole [] (.text "summary") [(.text "cached", .bool false)]
  have hsecond : Respelled .whole _ _ :=
    hother.entry .whole [(.text "summary", spelledOut times)] (.text "cached") []
  have hthird : Respelled .whole _ spelled :=
    .fields .whole .plain (List.Perm.swap _ _ _) (by decide)
  have hsteps : Relation.EqvGen (Respelled .whole) listed spelled :=
    .trans _ _ _ (.rel _ _ hfirst) (.trans _ _ _ (.rel _ _ hsecond) (.rel _ _ hthird))
  have hdoubled : compile? (.ofFields doubled) = some (compile (.ofFields doubled)) := rfl
  refine ⟨hsteps, ?_, _, hdoubled, ?_⟩
  · cases compile?_respelled.1 listed spelled hsteps with
    | inl hnone => exact absurd hnone.1 (by rw [show compile? listed = some _ from rfl]; simp)
    | inr hsome => exact hsome
  · exact (compile?_respelled.2.1 doubled _ hdoubled).2 "True"

end Mask

end Golden

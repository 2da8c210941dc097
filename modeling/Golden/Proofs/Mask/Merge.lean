/-
  Golden.Proofs.Mask.Merge
  ────────────────────────────────
  **TWO MASKS IN ONE.**

  `merge a b` has the rules of both masks.  Under a name that both have a rule
  for, deletion outdoes all else, replacement outdoes a nested rule, and two
  nested rules are merged in turn:

      find? name (merge a b)  =  mergeRules (find? name a) (find? name b)

  Masks are alike when they say the same of every key at every depth, in
  whatever order they list their rules.  Up to that, a merge does not depend on
  the order of the two, and a mask merged with itself is that mask.
-/
import Golden.Mask

namespace Golden

/-! ## §1. Masks that say the same. -/

/-- Two masks have matching rules under a name: none, the same action, or nested masks that are
related. -/
inductive Rule.Matches (R : Mask → Mask → Prop) : Option Rule → Option Rule → Prop
  | none : Matches R none none
  | act (a : Action) : Matches R (some (.act a)) (some (.act a))
  | nested {a b : Mask} : R a b → Matches R (some (.nested a)) (some (.nested b))

theorem Rule.Matches.mono {R S : Mask → Mask → Prop} {r s : Option Rule}
    (hRS : ∀ {a b}, R a b → S a b) (h : Matches R r s) : Matches S r s := by
  cases h with
  | none => exact .none
  | act a => exact .act a
  | nested h => exact .nested (hRS h)

namespace Mask

/-- Related masks have matching rules under every name. -/
def Matching (R : Mask → Mask → Prop) : Prop :=
  ∀ a b, R a b → ∀ name, Rule.Matches R (find? name a) (find? name b)

/-- Two masks say the same of every key, at every depth. -/
def Alike (a b : Mask) : Prop := ∃ R, Matching R ∧ R a b

theorem matching_alike : Matching Alike := by
  rintro a b ⟨R, hR, hab⟩ name
  exact (hR a b hab name).mono (fun h => ⟨R, hR, h⟩)

theorem Alike.ruleFor {a b : Mask} (h : a.Alike b) (k : Value) :
    Rule.Matches Alike (a.ruleFor k) (b.ruleFor k) := by
  cases k with
  | text s => exact matching_alike a b h s
  | _ => exact .none

/-! ## §2. Merging. -/

mutual

/-- Merge two rules for one key. -/
def mergeRule : Rule → Rule → Rule
  | .act .delete, _ => .act .delete
  | .act .replace, .act .delete => .act .delete
  | .act .replace, _ => .act .replace
  | .nested _, .act a => .act a
  | .nested a, .nested b => .nested (mergeEntries a b ++ b.filter (fun r => (find? r.1 a).isNone))

/-- The entries of a mask, merged with what another mask says of their names. -/
def mergeEntries : List (String × Rule) → Mask → Mask
  | [], _ => []
  | (name, r) :: rest, b =>
      (name, match find? name b with
        | none => r
        | some s => mergeRule r s) :: mergeEntries rest b

end

/-- The mask with the rules of both: first the entries of the one, then those that only the other
has. -/
def merge (a b : Mask) : Mask := mergeEntries a b ++ b.filter (fun r => (find? r.1 a).isNone)

/-- Merge what two masks say of one key: a rule on one side only is kept. -/
def mergeRules : Option Rule → Option Rule → Option Rule
  | none, s => s
  | some r, none => some r
  | some r, some s => some (mergeRule r s)

theorem mergeRule_nested (a b : Mask) :
    mergeRule (.nested a) (.nested b) = .nested (merge a b) := by
  rw [mergeRule, merge]

theorem find?_cons (name : String) (r : String × Rule) (mask : Mask) :
    find? name (r :: mask) = if r.1 = name then some r.2 else find? name mask := by
  unfold find?
  rw [List.find?_cons]
  by_cases h : r.1 = name
  · rw [beq_iff_eq.mpr h, if_pos h]
    rfl
  · rw [beq_eq_false_iff_ne.mpr h, if_neg h]

theorem find?_append (name : String) (a b : Mask) :
    find? name (a ++ b) = (find? name a).or (find? name b) := by
  unfold find?
  rw [List.find?_append, Option.map_or]

theorem find?_mergeEntries (name : String) (a b : Mask) :
    find? name (mergeEntries a b) =
      (find? name a).bind (fun r => mergeRules (some r) (find? name b)) := by
  induction a with
  | nil => rw [mergeEntries]; rfl
  | cons r rest ih =>
      obtain ⟨n, r⟩ := r
      rw [mergeEntries, find?_cons, find?_cons, ih]
      by_cases h : n = name
      · subst h
        simp only [if_true, Option.bind_some]
        cases find? n b <;> rfl
      · rw [if_neg h, if_neg h]

/-- Dropping the entries under other names loses no rule for this one. -/
theorem find?_filter (name : String) (a b : Mask) (h : find? name a = none) :
    find? name (b.filter (fun r => (find? r.1 a).isNone)) = find? name b := by
  induction b with
  | nil => rfl
  | cons r rest ih =>
      rw [List.filter_cons, find?_cons]
      by_cases hr : r.1 = name
      · rw [hr, h, Option.isNone_none, if_pos rfl, if_pos rfl, find?_cons, if_pos hr]
      · rw [if_neg hr, ← ih]
        split
        · rw [find?_cons, if_neg hr]
        · rfl

/-- **The merge of two masks says of each key what the two say of it, merged.** -/
theorem find?_merge (name : String) (a b : Mask) :
    find? name (merge a b) = mergeRules (find? name a) (find? name b) := by
  rw [merge, find?_append, find?_mergeEntries]
  cases h : find? name a with
  | none => rw [find?_filter name a b h]; rfl
  | some r => cases find? name b <;> rfl

theorem ruleFor_merge (a b : Mask) (k : Value) :
    (merge a b).ruleFor k = mergeRules (a.ruleFor k) (b.ruleFor k) := by
  cases k with
  | text s => exact find?_merge s a b
  | _ => rfl

/-! ## §3. Laws of merging. -/

theorem empty_merge (b : Mask) : merge empty b = b := by
  rw [merge, mergeEntries, List.nil_append]
  exact List.filter_eq_self.mpr (fun r _ => rfl)

theorem mergeEntries_empty (a : Mask) : mergeEntries a empty = a := by
  induction a with
  | nil => rw [mergeEntries]
  | cons r rest ih =>
      rw [mergeEntries, ih]
      rfl

theorem merge_empty (a : Mask) : merge a empty = a := by
  rw [merge, mergeEntries_empty]
  exact List.append_nil a

/-- A mask merged with itself says what it says alone. -/
theorem merge_self (a : Mask) : (merge a a).Alike a := by
  -- Each mask is related to itself merged with itself, and so are masks nested in the two.
  refine ⟨fun b c => b = merge c c, ?_, rfl⟩
  rintro _ c rfl name
  rw [find?_merge]
  cases find? name c with
  | none => exact .none
  | some r =>
      show Rule.Matches _ (some (mergeRule r r)) (some r)
      cases r with
      | act a => cases a <;> exact .act _
      | nested d =>
          rw [mergeRule_nested]
          exact .nested rfl

/-- It does not matter in which order two masks are merged. -/
theorem merge_comm (a b : Mask) : (merge a b).Alike (merge b a) := by
  -- The two orders of merging any two masks are related, so nested masks are again.
  refine ⟨fun c d => ∃ x y, c = merge x y ∧ d = merge y x, ?_, a, b, rfl, rfl⟩
  rintro _ _ ⟨x, y, rfl, rfl⟩ name
  have same : ∀ r : Rule,
      Rule.Matches (fun c d => ∃ x y, c = merge x y ∧ d = merge y x) (some r) (some r) := by
    intro r
    cases r with
    | act a => exact .act a
    | nested d => exact .nested ⟨d, empty, (merge_empty d).symm, (empty_merge d).symm⟩
  rw [find?_merge, find?_merge]
  cases find? name x with
  | none =>
      cases find? name y with
      | none => exact .none
      | some s => exact same s
  | some r =>
      cases find? name y with
      | none => exact same r
      | some s =>
          show Rule.Matches _ (some (mergeRule r s)) (some (mergeRule s r))
          cases r with
          | act a =>
              cases s with
              | act b => cases a <;> cases b <;> exact .act _
              | nested d => cases a <;> exact .act _
          | nested c =>
              cases s with
              | act b => cases b <;> exact .act _
              | nested d =>
                  rw [mergeRule_nested, mergeRule_nested]
                  exact .nested ⟨c, d, rfl, rfl⟩

end Mask

end Golden

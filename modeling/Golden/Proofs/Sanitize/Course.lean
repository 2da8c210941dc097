/-
  Golden.Proofs.Sanitize.Course
  ────────────────────────────────
  **WHAT A MASK DOES AT EACH PLACE OF A RESPONSE.**

  A position is followed through a response with the mask in hand: an index
  keeps the mask, a key without a rule lays it down, and a key with a nested
  rule over an object takes up that rule.  How the way ends says what the
  cleaned response has at the position:

      reached n v     what n leaves of v, an array of the same length, an object
                      of the keys that n does not delete, or v itself
      replaced rest   the marker, if nothing of the position is left
      deleted         nothing
      absent          nothing, as before

  So masking is complete, since nothing below a masked key is left, and local,
  since elsewhere each place depends on the mask that leads there alone.
-/
import Golden.Proofs.Sanitize.Shallow

namespace Golden

open Value

/-! ## §1. Following a mask. -/

/-- How the way along a position ends. -/
inductive Course
  /-- The value has nothing there. -/
  | absent
  /-- The way passes a key that is deleted. -/
  | deleted
  /-- The way passes a key of the value whose value is replaced whole, and so much is left of it. -/
  | replaced (rest : Position)
  /-- The way passes neither, and leads to this mask and this value. -/
  | reached (mask : Mask) (place : Value)

/-- Follow a position through a value with a mask in hand. -/
def Mask.course (mask : Mask) (v : Value) : Position → Course
  | [] => .reached mask v
  | .index i :: p =>
      match v.item? i with
      | none => .absent
      | some w => course mask w p
  | .key k :: p =>
      match mask.ruleFor k, v.field? k with
      | some (.act .delete), _ => .deleted
      | _, none => .absent
      | none, some w => course Mask.empty w p
      | some (.act .replace), some _ => .replaced p
      | some (.nested below), some w => if w.isObject then course below w p else .replaced p

/-- A way that is not hidden says what the value itself has at the position. -/
theorem at?_of_course (mask : Mask) (v : Value) (p : Position) :
    match mask.course v p with
    | .absent => v.at? p = none
    | .reached _ w => v.at? p = some w
    | _ => True := by
  induction p generalizing mask v with
  | nil => rfl
  | cons step p ih =>
      cases step with
      | index i =>
          rw [at?_cons, step?]
          simp only [Mask.course]
          cases v.item? i with
          | none => rfl
          | some w => exact ih mask w
      | key k =>
          rw [at?_cons, step?]
          simp only [Mask.course]
          cases v.field? k with
          | none =>
              cases mask.ruleFor k with
              | none => rfl
              | some rule =>
                  cases rule with
                  | nested below => rfl
                  | act a => cases a <;> simp
          | some w =>
              cases mask.ruleFor k with
              | none => exact ih Mask.empty w
              | some rule =>
                  cases rule with
                  | act a => cases a <;> trivial
                  | nested below =>
                      cases hw : w.isObject with
                      | true => simpa [hw] using ih below w
                      | false => simp [hw]

section Reached

variable {mask n : Mask} {v w : Value} {p : Position}

theorem reached_index {i : Nat} (h : mask.course v (.index i :: p) = .reached n w) :
    ∃ b, v.item? i = some b ∧ mask.course b p = .reached n w := by
  simp only [Mask.course] at h
  cases hv : v.item? i with
  | none => simp [hv] at h
  | some b =>
      rw [hv] at h
      exact ⟨b, rfl, h⟩

/-- A way that is not hidden passes a key by no rule, or by a nested rule over an object. -/
theorem reached_key {k : Value} (h : mask.course v (.key k :: p) = .reached n w) :
    ∃ m b, v.field? k = some b ∧ m.course b p = .reached n w ∧
      (mask.ruleFor k = none ∧ m = Mask.empty ∨
        mask.ruleFor k = some (.nested m) ∧ b.isObject = true) := by
  simp only [Mask.course] at h
  split at h
  · cases h
  · cases h
  · next hrule hv => exact ⟨Mask.empty, _, hv, h, Or.inl ⟨hrule, rfl⟩⟩
  · cases h
  · next below b hrule hv =>
      split at h
      · next hb => exact ⟨below, b, hv, h, Or.inr ⟨hrule, hb⟩⟩
      · cases h

/-- A way to the end leads through each place on it. -/
theorem reached_append {q : Position} (h : mask.course v (p ++ q) = .reached n w) :
    ∃ m u, mask.course v p = .reached m u ∧ m.course u q = .reached n w := by
  induction p generalizing mask v with
  | nil => exact ⟨mask, v, rfl, h⟩
  | cons step p ih =>
      rw [List.cons_append] at h
      cases step with
      | index i =>
          obtain ⟨b, hb, hrest⟩ := reached_index h
          obtain ⟨m, u, hu, hq⟩ := ih hrest
          refine ⟨m, u, ?_, hq⟩
          simpa only [Mask.course, hb] using hu
      | key k =>
          obtain ⟨m', b, hb, hrest, hrule⟩ := reached_key h
          obtain ⟨m, u, hu, hq⟩ := ih hrest
          refine ⟨m, u, ?_, hq⟩
          rcases hrule with ⟨hrule, rfl⟩ | ⟨hrule, hobject⟩
          · simpa only [Mask.course, hrule, hb] using hu
          · simpa only [Mask.course, hrule, hb, hobject, if_true] using hu

/-- A step that two values both allow finds two objects, or no object. -/
theorem isObject_of_at? {b c v w : Value} (hb : b.at? p = some v) (hc : c.at? p = some w)
    (h : v.isObject = w.isObject) : b.isObject = c.isObject := by
  cases p with
  | nil =>
      obtain rfl := Option.some.inj hb
      obtain rfl := Option.some.inj hc
      exact h
  | cons step p =>
      rw [at?_cons] at hb hc
      obtain ⟨b', hb', -⟩ := Option.bind_eq_some_iff.mp hb
      obtain ⟨c', hc', -⟩ := Option.bind_eq_some_iff.mp hc
      cases step with
      | index i =>
          have hba := isArray_of_item? hb'
          have hca := isArray_of_item? hc'
          cases b <;> cases hba
          cases c <;> cases hca
          rfl
      | key k => rw [isObject_of_field? hb', isObject_of_field? hc']

/-- Whether a way is hidden does not depend on the value, if it leads to values of like shape. -/
theorem reached_of_at? {x y : Value} (hx : mask.course x p = .reached n v) (hy : y.at? p = some w)
    (h : v.isObject = w.isObject) : mask.course y p = .reached n w := by
  induction p generalizing mask x y with
  | nil =>
      obtain ⟨rfl, rfl⟩ := Course.reached.inj hx
      obtain rfl := Option.some.inj hy
      rfl
  | cons step p ih =>
      rw [at?_cons] at hy
      obtain ⟨c, hc, hrest'⟩ := Option.bind_eq_some_iff.mp hy
      cases step with
      | index i =>
          obtain ⟨b, hb, hrest⟩ := reached_index hx
          have hc : y.item? i = some c := hc
          simpa only [Mask.course, hc] using ih hrest hrest'
      | key k =>
          obtain ⟨m, b, hb, hrest, hrule⟩ := reached_key hx
          have hc : y.field? k = some c := hc
          rcases hrule with ⟨hrule, rfl⟩ | ⟨hrule, hobject⟩
          · simpa only [Mask.course, hrule, hc] using ih hrest hrest'
          · have hreached := at?_of_course m b p
            rw [hrest] at hreached
            -- A nested rule asks for an object, and the rest of the way answers alike for both.
            have hobject' : c.isObject = true := (isObject_of_at? hreached hrest' h) ▸ hobject
            simpa only [Mask.course, hrule, hc, hobject', if_true] using ih hrest hrest'

end Reached

/-! ## §2. The cleaned response at a position. -/

/-- What a cleaned response has at the end of a way. -/
def Course.found : Course → Option Value
  | .absent => none
  | .deleted => none
  | .replaced rest => removed.at? rest
  | .reached n w => some (sanitize n w)

/-- **The way along a position says what the cleaned response has there.** -/
theorem at?_sanitize (mask : Mask) (v : Value) (p : Position) :
    (sanitize mask v).at? p = (mask.course v p).found := by
  -- The mask in hand changes along the way, so the induction on the position is for all masks.
  induction p generalizing mask v with
  | nil => rfl
  | cons step p ih =>
      cases step with
      | index i =>
          rw [at?_cons, step?, item?_sanitize]
          simp only [Mask.course]
          cases v.item? i with
          | none => rfl
          | some w => exact ih mask w
      | key k =>
          rw [at?_cons, step?, field?_sanitize]
          simp only [Mask.course]
          cases hv : v.field? k with
          | none =>
              -- Deleted or not, a key that is not there leads nowhere.
              cases mask.ruleFor k with
              | none => rfl
              | some rule =>
                  cases rule with
                  | nested below => rfl
                  | act a => cases a <;> rfl
          | some w =>
              rw [Option.bind_some, cleanedValue?_keepValue]
              cases mask.ruleFor k with
              | none => exact ih Mask.empty w
              | some rule =>
                  cases rule with
                  | act a => cases a <;> rfl
                  | nested below =>
                      cases hw : w.isObject with
                      | true => simpa [hw] using ih below w
                      | false => simp [hw, Course.found]

theorem at?_removed (p : Position) : removed.at? p = if p.isEmpty then some removed else none := by
  cases p with
  | nil => rfl
  | cons step p => cases step <;> rfl

/-- **Masking is complete and local.**  The way along a position, with the mask of a spec in hand,
says what the cleaned response has at the position: nothing behind a deleted key; the marker at a
key that is replaced, or has a nested rule over anything but an object, and nothing behind it; and
elsewhere what the response has there, arrays with their length, scalars unchanged, objects with
the keys that are not deleted in their order. -/
theorem sanitize_along_position (spec x : Value) (p : Position) :
    let mask := Mask.compile spec
    let y := sanitize mask x
    match mask.course x p with
    | .absent => x.at? p = none ∧ y.at? p = none
    | .deleted => y.at? p = none
    | .replaced rest => y.at? p = if rest.isEmpty then some removed else none
    | .reached n v => x.at? p = some v ∧ ∃ w, y.at? p = some w ∧ Retains n v w := by
  intro mask y
  have hbefore := at?_of_course mask x p
  have hafter : y.at? p = (mask.course x p).found := at?_sanitize mask x p
  cases hcourse : mask.course x p with
  | absent =>
      rw [hcourse] at hbefore hafter
      exact ⟨hbefore, hafter⟩
  | deleted =>
      rw [hcourse] at hafter
      exact hafter
  | replaced rest =>
      rw [hcourse] at hafter
      exact hafter.trans (at?_removed rest)
  | reached n v =>
      rw [hcourse] at hbefore hafter
      exact ⟨hbefore, sanitize n v, hafter, shallow_keepValue.retains n v⟩

end Golden

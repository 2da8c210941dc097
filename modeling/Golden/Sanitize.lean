/-
  Golden.Sanitize
  ────────────────────────────────
  **CLEANING A RESPONSE FOR COMPARISON.**

  `sanitizeWith transform mask` rebuilds a response.  Keys that the mask names
  are replaced by a marker or dropped, a nested mask goes on below an object
  and replaces anything else whole, and every value that no rule meets is
  given to the transform:

      a bare scalar                  transform value
      a field without a rule         transform value key
      an array item below such       transform (cleaned item) key

  An array passes the mask of its place on to its items; below a field without
  a rule no mask applies.  The transform may have effects of any kind: it is
  called in the order of the response, and never on what a mask hides.
-/
import Golden.Mask

namespace Golden

/-! ## §1. Transforms. -/

/-- The text that stands for a value that varies. -/
def removed : Value := .text "VALUE_REMOVED"

/-- A call of a transform: a value, with the key under which it stands where there is one. -/
structure Call where
  value : Value
  key : Option Value

/-! ## §2. The walk. -/

section Walk

variable {m : Type → Type} [Monad m]

mutual

/-- Clean a value under a mask. -/
def sanitizeWith (transform : Call → m Value) (mask : Mask) : Value → m Value
  | .array _ xs => do
      let ys ← sanitizeItems transform mask xs
      pure (.ofItems ys)
  | .object _ fs => do
      let gs ← sanitizeFields transform mask fs
      pure (.ofFields gs)
  | v => transform ⟨v, none⟩

/-- Clean the items of an array, each under the same mask. -/
def sanitizeItems (transform : Call → m Value) (mask : Mask) : List Value → m (List Value)
  | [] => pure []
  | v :: vs => do
      let w ← sanitizeWith transform mask v
      let ws ← sanitizeItems transform mask vs
      pure (w :: ws)

/-- Clean the items of an array below a field without a rule, and give each to the transform again
with the field's key. -/
def sanitizeKeyed (transform : Call → m Value) (key : Value) : List Value → m (List Value)
  | [] => pure []
  | v :: vs => do
      let cleaned ← sanitizeWith transform Mask.empty v
      let w ← transform ⟨cleaned, some key⟩
      let ws ← sanitizeKeyed transform key vs
      pure (w :: ws)

/-- Clean the value of a field without a rule. -/
def sanitizeField (transform : Call → m Value) (key : Value) : Value → m Value
  | .array _ xs => do
      let ys ← sanitizeKeyed transform key xs
      pure (.ofItems ys)
  | .object _ fs => do
      let gs ← sanitizeFields transform Mask.empty fs
      pure (.ofFields gs)
  | v => transform ⟨v, some key⟩

/-- Clean the value of a field with a nested mask: only an object keeps its shape. -/
def sanitizeBelow (transform : Call → m Value) (mask : Mask) : Value → m Value
  | .object _ fs => do
      let gs ← sanitizeFields transform mask fs
      pure (.ofFields gs)
  | _ => pure removed

/-- Clean the fields of an object under a mask. -/
def sanitizeFields (transform : Call → m Value) (mask : Mask) :
    List (Value × Value) → m (List (Value × Value))
  | [] => pure []
  | (k, v) :: rest =>
      match mask.ruleFor k with
      | none => do
          let w ← sanitizeField transform k v
          let gs ← sanitizeFields transform mask rest
          pure ((k, w) :: gs)
      | some (.nested below) => do
          let w ← sanitizeBelow transform below v
          let gs ← sanitizeFields transform mask rest
          pure ((k, w) :: gs)
      | some (.act .delete) => sanitizeFields transform mask rest
      | some (.act .replace) => do
          let gs ← sanitizeFields transform mask rest
          pure ((k, removed) :: gs)

end

end Walk

/-! ## §3. Pure transforms. -/

/-- Clean a value with a transform that has no effects. -/
def sanitizeBy (transform : Call → Value) (mask : Mask) (v : Value) : Value :=
  Id.run (sanitizeWith (fun c => pure (transform c)) mask v)

/-- The transform that changes nothing. -/
def keepValue (c : Call) : Value := c.value

/-- Clean a value by the mask alone. -/
def sanitize (mask : Mask) (v : Value) : Value := sanitizeBy keepValue mask v

end Golden

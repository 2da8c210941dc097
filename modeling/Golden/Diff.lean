/-
  Golden.Diff
  ────────────────────────────────
  **WHERE TWO VALUES DIFFER.**

  `diff expected actual` lists the positions at which two trees part, in the
  order of the expected one, each with what was found there:

      kinds differ · a key is missing or unexpected · array lengths differ ·
      two scalars of one kind are not equal

  Booleans are never numbers, whole numbers and doubles compare by value, the
  order of object keys does not count and that of array items does.  Below a
  reported position nothing more is reported, save that arrays of different
  lengths are still compared as far as both go.
-/
import Golden.Position

namespace Golden

/-! ## §1. Findings. -/

/-- What two trees have at a position where they part. -/
inductive Finding
  | kinds (expected actual : Value)
  | missing
  | unexpected
  | lengths (expected actual : Nat)
  | unequal (expected actual : Value)
  deriving Inhabited

/-- A position with what was found there. -/
structure Difference where
  position : Position
  finding : Finding
  deriving Inhabited

namespace Difference

/-- The same difference seen one step further from the root. -/
def under (step : Step) (d : Difference) : Difference :=
  { d with position := step :: d.position }

/-- A difference at the root. -/
def here (f : Finding) : Difference := ⟨[], f⟩

end Difference

/-! ## §2. The walk. -/

namespace Value

/-- The keys of the second object that the first lacks. -/
def surplus (expected actual : Fields) : List Difference :=
  (actual.filter (fun f => !Fields.has f.1 expected)).map
    (fun f => ⟨[.key f.1], .unexpected⟩)

/-- The length finding of two arrays. -/
def lengthFinding (xs ys : List Value) : List Difference :=
  if xs.length = ys.length then [] else [.here (.lengths xs.length ys.length)]

mutual

/-- The differences of two values. -/
def diff : Value → Value → List Difference
  | .array _ xs, .array _ ys => lengthFinding xs ys ++ diffItems 0 xs ys
  | .object _ fs, .object _ gs => diffFields fs gs ++ surplus fs gs
  | e, a =>
      if e.kind ≠ a.kind then [.here (.kinds e a)]
      else if e.same a then [] else [.here (.unequal e a)]

/-- The differences of the items that both arrays have, counted from an index. -/
def diffItems (i : Nat) : List Value → List Value → List Difference
  | x :: xs, y :: ys => (diff x y).map (.under (.index i)) ++ diffItems (i + 1) xs ys
  | _, _ => []

/-- The differences at the keys of the first object. -/
def diffFields : List (Value × Value) → Fields → List Difference
  | [], _ => []
  | (k, e) :: fs, gs =>
      (match Fields.find? k gs with
        | none => [⟨[.key k], .missing⟩]
        | some a => (diff e a).map (.under (.key k))) ++ diffFields fs gs

end

/-! ## §3. Report lines. -/

/-- The literal of a value, cut to eighty characters by three dots. -/
def brief (v : Value) : String :=
  let s := v.literal
  if s.length ≤ 80 then s else String.ofList (s.toList.take 77) ++ "..."

end Value

/-- What a report line says behind the path. -/
def Finding.text : Finding → String
  | .kinds e a =>
      "expected " ++ e.kind.name ++ " " ++ e.brief ++ ", got " ++ a.kind.name ++ " " ++ a.brief
  | .missing => "missing in actual response"
  | .unexpected => "unexpected key in actual response"
  | .lengths e a =>
      "expected " ++ Decimal.intText e ++ " elements, got " ++ Decimal.intText a
  | .unequal e a => "expected " ++ e.brief ++ ", got " ++ a.brief

/-- The report line of a difference. -/
def Difference.line (d : Difference) : String :=
  d.position.text ++ ": " ++ d.finding.text

/-! ## §4. Reports. -/

/-- Whether the values of a finding have texts. -/
def Finding.isPrintable : Finding → Bool
  | .kinds e a => e.isPrintable && a.isPrintable
  | .unequal e a => e.isPrintable && a.isPrintable
  | _ => true

namespace Value

mutual

/-- Whether every key that the comparison of two values meets has a text. -/
def keysPrintable : Value → Value → Bool
  | .array _ xs, .array _ ys => itemKeysPrintable xs ys
  | .object _ fs, .object _ gs =>
      fieldKeysPrintable fs gs &&
        gs.all (fun g => Fields.has g.1 fs || g.1.isPrintable)
  | _, _ => true

/-- Whether every key met in the items that both arrays have has a text. -/
def itemKeysPrintable : List Value → List Value → Bool
  | x :: xs, y :: ys => keysPrintable x y && itemKeysPrintable xs ys
  | _, _ => true

/-- Whether every key of the first object, and every key met below one, has a text. -/
def fieldKeysPrintable : List (Value × Value) → Fields → Bool
  | [], _ => true
  | (k, e) :: fs, gs =>
      k.isPrintable &&
        (match Fields.find? k gs with
          | none => true
          | some a => keysPrintable e a) && fieldKeysPrintable fs gs

end

/-- The report lines of two values; none at all where an integer on the way has no text. -/
def report? (expected actual : Value) : Option (List String) :=
  let ds := expected.diff actual
  if keysPrintable expected actual && ds.all (·.finding.isPrintable) then
    some (ds.map (·.line))
  else none

/-- Whether nothing is reported of two values; no answer where there is no report. -/
def equal? (expected actual : Value) : Option Bool :=
  (expected.report? actual).map (·.isEmpty)

end Value

end Golden

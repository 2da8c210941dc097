/-
  Golden.Agent.Host.Punycode
  ────────────────────────────────
  **LABELS IN ASCII LETTERS AND DIGITS.**

  The ASCII characters of a label come first, behind them a hyphen if there are
  any, then the others as a list of distances in ascending order of the
  characters.  A distance is a number in digits of 36 values, the lowest first,
  of which the last is below a threshold that adapts to the distances so far:

      bücher  ↦  bcher-kva
-/

namespace Golden.Agent.Host.Punycode

/-! ## §1. Thresholds. -/

/-- The number of digits. -/
def base : Nat := 36

/-- The bias at the start. -/
def startBias : Nat := 72

/-- The first code point beyond ASCII. -/
def startCode : Nat := 128

/-- The threshold of the digit with an index. -/
def threshold (bias index : Nat) : Nat := max 1 (min 26 (base * (index + 1) - bias))

theorem threshold_pos (bias index : Nat) : 1 ≤ threshold bias index := by
  unfold threshold
  omega

/-- Divide a distance until it is small, and count what that adds to the bias. -/
def shrink (distance : Nat) : Nat × Nat :=
  if 455 < distance then
    let (rest, bias) := shrink (distance / 35)
    (rest, bias + base)
  else (distance, 0)
termination_by distance
decreasing_by exact Nat.div_lt_self (by omega) (by omega)

/-- The bias behind a distance, once so many characters have their places. -/
def adapt (distance count : Nat) (isFirst : Bool) : Nat :=
  let damped := if isFirst then distance / 700 else distance / 2
  let (rest, bias) := shrink (damped + damped / count)
  bias + base * rest / (rest + 38)

/-! ## §2. Writing. -/

/-- The code point of a digit: a letter, or from 26 on a numeral. -/
def digitCode (value : Nat) : Nat := if value < 26 then 0x61 + value else 0x30 + (value - 26)

/-- The digits of a number from an index on. -/
def digits (bias index n : Nat) : List Nat :=
  let t := threshold bias index
  if n < t then [digitCode n]
  else digitCode (t + (n - t) % (base - t)) :: digits bias (index + 1) ((n - t) / (base - t))
termination_by n
decreasing_by
  have := threshold_pos bias index
  exact Nat.lt_of_le_of_lt (Nat.div_le_self _ _) (by omega)

/-- How far writing has come: what is written, the distance since the last character, the bias, and
how many characters have their places. -/
structure Progress where
  written : List Nat
  distance : Nat
  bias : Nat
  placed : Nat

/-- Pass a character of the label while the places of one code point are written. -/
def Progress.pass (isFirst : Nat → Bool) (code : Nat) (p : Progress) (c : Nat) : Progress :=
  if c < code then { p with distance := p.distance + 1 }
  else if c = code then
    { written := p.written ++ digits p.bias 0 p.distance
      distance := 0
      bias := adapt p.distance (p.placed + 1) (isFirst p.placed)
      placed := p.placed + 1 }
  else p

/-- Write the places of code points in ascending order; `next` is the one after the last written. -/
def writePlaces (label : List Nat) (isFirst : Nat → Bool) (p : Progress) (next : Nat) :
    List Nat → Progress
  | [] => p
  | code :: rest =>
      let start := { p with distance := p.distance + (code - next) * (p.placed + 1) }
      let done := label.foldl (Progress.pass isFirst code) start
      writePlaces label isFirst { done with distance := done.distance + 1 } (code + 1) rest

/-- A label in ASCII. -/
def encode (label : List Nat) : List Nat :=
  let basic := label.filter (· < startCode)
  let codes := ((label.filter (startCode ≤ ·)).mergeSort (· ≤ ·)).eraseDups
  let start : Progress := ⟨[], 0, startBias, basic.length⟩
  let p := writePlaces label (· == basic.length) start startCode codes
  (if basic.isEmpty then [] else basic ++ [0x2d]) ++ p.written

/-! ## §3. Reading. -/

/-- The value of a digit. -/
def digitValue? (code : Nat) : Option Nat :=
  if 0x61 ≤ code ∧ code ≤ 0x7a then some (code - 0x61)
  else if 0x41 ≤ code ∧ code ≤ 0x5a then some (code - 0x41)
  else if 0x30 ≤ code ∧ code ≤ 0x39 then some (code - 0x30 + 26)
  else none

/-- The number at the start of a text, from an index on, and what follows it. -/
def readNumber? (bias index weight : Nat) : List Nat → Option (Nat × List Nat)
  | [] => none
  | c :: rest =>
      match digitValue? c with
      | none => none
      | some d =>
          let t := threshold bias index
          if d < t then some (d * weight, rest)
          else
            (readNumber? bias (index + 1) (weight * (base - t)) rest).map
              (fun x => (d * weight + x.1, x.2))

theorem length_lt_of_readNumber {bias index weight : Nat} {s : List Nat} {x : Nat × List Nat}
    (h : readNumber? bias index weight s = some x) : x.2.length < s.length := by
  induction s generalizing index weight x with
  | nil => simp [readNumber?] at h
  | cons c rest ih =>
    simp only [readNumber?] at h
    split at h
    · simp at h
    · split at h
      · simp only [Option.some.injEq] at h
        subst h
        simp
      · obtain ⟨y, hy, rfl⟩ := Option.map_eq_some_iff.1 h
        have := ih hy
        simp only [List.length_cons]
        omega

/-- The greatest code point. -/
def maxCode : Nat := 0x10ffff

/-- Put characters into a label as a text says: `code` was the last one, and `place` is the place
behind it. -/
def insertAll (bias code place : Nat) (isFirst : Bool) (label s : List Nat) : Option (List Nat) :=
  if s = [] then some label
  else
    match _h : readNumber? bias 0 1 s with
    | none => none
    | some (distance, rest) =>
        let count := label.length + 1
        let code := code + (place + distance) / count
        let place := (place + distance) % count
        if maxCode < code then none
        else
          insertAll (adapt distance count isFirst) code (place + 1) false
            (label.insertIdx place code) rest
termination_by s.length
decreasing_by exact length_lt_of_readNumber _h

/-- The label that a text in ASCII writes. -/
def decode (s : List Nat) : Option (List Nat) :=
  let behind := (s.reverse.takeWhile (· != 0x2d)).reverse
  insertAll startBias startCode 0 true (s.take (s.length - behind.length)).dropLast behind

end Golden.Agent.Host.Punycode

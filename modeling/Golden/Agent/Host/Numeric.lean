/-
  Golden.Agent.Host.Numeric
  ────────────────────────────────
  **NUMERIC ADDRESSES.**

  A host of four runs of digits with points between them is a numeric address
  of four parts or nothing.  A long numeric address has eight groups of
  hexadecimal digits, or fewer and one gap:

      127.0.0.1        ::1        fe80::1%eth0        ::ffff:10.0.0.1
-/
import Golden.Decimal.Read
import Golden.Text.Pieces

namespace Golden.Agent.Host

/-- Whether the character is a hexadecimal digit. -/
def isHexDigit (c : Char) : Bool :=
  Decimal.isDigit c || ('a' ≤ c && c ≤ 'f') || ('A' ≤ c && c ≤ 'F')

/-! ## §1. Four parts. -/

/-- Whether a host has to be a numeric address: four runs of digits with points between them. -/
def looksNumeric (s : List Char) : Bool :=
  let parts := pieces '.' s
  parts.length == 4 && parts.all (fun p => !p.isEmpty && p.all Decimal.isDigit)

/-- Whether a text is a part of a numeric address: up to three digits, without a leading zero, for
a number below 256. -/
def isOctet (s : List Char) : Bool :=
  !s.isEmpty && s.length ≤ 3 && s.all Decimal.isDigit &&
    (s.length == 1 || s.head? != some '0') && Decimal.natOf s < 256

/-- Whether a text is a numeric address of four parts. -/
def isIPv4 (s : List Char) : Bool :=
  let parts := pieces '.' s
  parts.length == 4 && parts.all isOctet

/-! ## §2. Groups. -/

/-- Whether a text is one of the groups of a long numeric address. -/
def isGroup (s : List Char) : Bool := !s.isEmpty && s.length ≤ 4 && s.all isHexDigit

/-- The number of groups that parts stand for, if they are groups; the last may be a numeric
address of four parts, which counts twice. -/
def groupCount? (parts : List (List Char)) : Option Nat :=
  match parts.reverse with
  | [] => some 0
  | last :: front =>
      if !front.all isGroup then none
      else if isGroup last then some parts.length
      else if isIPv4 last then some (parts.length + 1)
      else none

/-- The parts before and behind the first empty part between two colons. -/
def splitGap : List (List Char) → Option (List (List Char) × List (List Char))
  | [] => none
  | [] :: rest => some ([], rest)
  | p :: rest => (splitGap rest).map (fun x => (p :: x.1, x.2))

/-- Whether a text is a long numeric address: eight groups, or fewer with one gap; a zone may
follow a percent sign. -/
def isIPv6 (s : List Char) : Bool :=
  let address := s.takeWhile (· != '%')
  let zone := s.dropWhile (· != '%')
  let zoneFits := zone.isEmpty || (1 < zone.length && !zone.tail.contains '%')
  let parts := pieces ':' address
  zoneFits && 2 < parts.length &&
    (if parts.take 2 = [[], []] then gapFits [] (parts.drop 2)
    else if parts.head? = some [] then false
    else
      match splitGap parts with
      | none => groupCount? parts == some 8
      | some (front, behind) => !behind.isEmpty && gapFits front behind)
where
  /-- Whether groups with a gap between them are few enough. -/
  gapFits (front behind : List (List Char)) : Bool :=
    let behind := if behind = [[]] then [] else behind
    front.all isGroup &&
      match groupCount? behind with
      | some n => front.length + n < 8
      | none => false

end Golden.Agent.Host

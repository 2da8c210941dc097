/-
  Golden.Agent.Origin
  ────────────────────────────────
  **THE ORIGIN OF A REPLY.**

  A reply is put down to the origin that its request names.  For that the
  address is read once more, as it was sent:

      http://[fe80::1%eth0]:8080/x   has the origin   [fe80::1%eth0]:8080

  There has to be a name before a colon.  Brackets hold a long numeric address,
  or one of a form that is still to come, which starts with a `v`, its version
  in hexadecimal digits, and a point.
-/
import Golden.Agent.Url

namespace Golden.Agent

/-! ## §1. Problems. -/

/-- Why an address names no origin. -/
inductive OriginProblem
  | unnamed (address : List Char)
  | loneBracket
  | badVersion
  | fourParts
  | notNumeric (host : List Char)
  deriving DecidableEq, Inhabited

/-- The words for why an address names no origin. -/
def OriginProblem.message : OriginProblem → String
  | .unnamed address => "unknown url type: " ++ Text.quote (String.ofList address)
  | .loneBracket => "Invalid IPv6 URL"
  | .badVersion => "IPvFuture address is invalid"
  | .fourParts => "An IPv4 address cannot be in brackets"
  | .notNumeric host =>
      Text.quote (String.ofList host) ++ " does not appear to be an IPv4 or IPv6 address"

/-! ## §2. Brackets. -/

/-- Whether a text is a numeric address with a version before it. -/
def isVersioned (s : List Char) : Bool :=
  let version := s.tail.takeWhile Host.isHexDigit
  s.head? == some 'v' && !version.isEmpty &&
    match s.drop (version.length + 1) with
    | '.' :: address => !address.isEmpty
    | _ => false

/-- The characters behind the first opening bracket and before the next closing one. -/
def bracketed (origin : List Char) : List Char :=
  ((origin.dropWhile (· != '[')).drop 1).takeWhile (· != ']')

/-- The problem of an origin with its brackets, if it has one. -/
def bracketProblem? (origin : List Char) : Option OriginProblem :=
  let host := bracketed origin
  if origin.contains '[' != origin.contains ']' then some .loneBracket
  else if !origin.contains '[' then none
  else if host.head? = some 'v' then if isVersioned host then none else some .badVersion
  else if Host.isIPv4 host then some .fourParts
  else if Host.isIPv6 host then none
  else some (.notNumeric host)

/-! ## §3. Addresses as they were sent. -/

/-- An address without a mark at its end behind which no fragment follows. -/
def withoutEmptyFragment (address : List Char) : List Char :=
  if address.getLast? = some '#' then address.dropLast else address

/-- Whether an address starts with a name and a colon, as one with a scheme does. -/
def startsNamed (address : List Char) : Bool :=
  let name := address.takeWhile (fun c => c != '/' && c != ':')
  !name.isEmpty && (address.drop name.length).head? == some ':'

/-- Why the address of a request names no origin, if it does not. -/
def originProblem? (sent : List Char) : Option OriginProblem :=
  let address := withoutEmptyFragment sent
  if startsNamed address then bracketProblem? (splitUrl address).authority
  else some (.unnamed address)

end Golden.Agent

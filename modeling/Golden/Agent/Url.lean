/-
  Golden.Agent.Url
  ────────────────────────────────
  **ADDRESSES OF REQUESTS.**

  An address is read into scheme, user, host, port, path, query and fragment.
  Scheme and host are lowered, a host beyond ASCII is written in ASCII, a port
  that the scheme implies is dropped, `.` and `..` segments of an absolute path
  are resolved, and characters that a component does not admit are written as
  percent escapes of their bytes; escapes that are there already stay.

      http://Host:80/a/./b c   ↦   http://host/a/b%20c

  A client has a base address that ends in a slash.  An address without scheme
  and host is joined to it by its path and query, leading slashes dropped; any
  other replaces it.
-/
import Golden.Decimal.Read
import Golden.Decimal.Shortest
import Golden.Agent.Host.Name
import Golden.Agent.Host.Numeric
import Golden.Text.Pieces

namespace Golden.Agent

/-! ## §1. Percent escapes. -/

/-- The characters that never need an escape. -/
def isUnreserved (c : Char) : Bool :=
  c.isAlphanum || c == '-' || c == '.' || c == '_' || c == '~'

/-- The printable characters of ASCII without the given ones. -/
def printableExcept (excluded : List Char) (c : Char) : Bool :=
  33 ≤ c.toNat && c.toNat < 127 && !excluded.contains c

/-- The characters that a fragment admits. -/
def inFragment : Char → Bool := printableExcept ['"', '<', '>', '\x60']

/-- The characters that a query admits. -/
def inQuery : Char → Bool := printableExcept ['"', '#', '<', '>']

/-- The characters that a path admits. -/
def inPath : Char → Bool := printableExcept ['"', '#', '<', '>', '?', '\x60', '\x7b', '\x7d']

/-- The characters that a user name and password admit. -/
def inUser : Char → Bool :=
  printableExcept ['"', '#', '<', '>', '?', '\x60', '\x7b', '\x7d', '/', ';', '=', '@',
    '[', '\\', ']', '^', '|']

/-- The characters that a host admits. -/
def inHost (c : Char) : Bool :=
  isUnreserved c || "!$&'()*+,;=\"\x60\x7b\x7d%|\\".toList.contains c

/-- The hexadecimal digits of a byte, in capitals. -/
def capitalHex (b : UInt8) : List Char := (Text.hex 2 b.toNat).map Char.toUpper

/-- A character, or the percent escapes of its bytes. -/
def escapeUnless (admitted : Char → Bool) (c : Char) : List Char :=
  if isUnreserved c || admitted c then [c]
  else (String.utf8EncodeChar c).flatMap (fun b => '%' :: capitalHex b)

/-- Escape what a component does not admit; escapes that are there stay. -/
def escapeText (admitted : Char → Bool) (s : List Char) : List Char :=
  match s with
  | [] => []
  | '%' :: a :: b :: rest =>
      if Host.isHexDigit a && Host.isHexDigit b then '%' :: a :: b :: escapeText admitted rest
      else escapeUnless admitted '%' ++ escapeText admitted (a :: b :: rest)
  | c :: rest => escapeUnless admitted c ++ escapeText admitted rest
termination_by s.length

/-! ## §2. Addresses. -/

/-- An address in normal form.  A missing query or fragment differs from an empty one. -/
structure Url where
  scheme : List Char
  user : List Char
  host : List Char
  port : Option Int
  path : List Char
  query : Option (List Char)
  fragment : Option (List Char)
  deriving DecidableEq, Inhabited

/-- The components of an address, in their order. -/
inductive Component
  | scheme
  | authority
  | path
  | query
  | fragment
  deriving DecidableEq, Repr, Inhabited

/-- The name of a component. -/
def Component.name : Component → String
  | .scheme => "scheme"
  | .authority => "authority"
  | .path => "path"
  | .query => "query"
  | .fragment => "fragment"

/-- Why a text is no address. -/
inductive UrlProblem
  | tooLong
  | unprintable (c : Char) (position : Nat)
  | badIPv4 (host : List Char)
  | badIPv6 (host : List Char)
  | badHostName (host : List Char)
  | badPort (port : List Char)
  | relativeHostPath
  | doubleSlashPath
  | colonPath
  | longComponent (component : Component)
  deriving DecidableEq, Inhabited

/-- The words for why a text is no address. -/
def UrlProblem.message : UrlProblem → String
  | .tooLong => "URL too long"
  | .unprintable c position =>
      "Invalid non-printable ASCII character in URL, " ++ Text.quote (String.ofList [c]) ++
        " at position " ++ Decimal.intText position ++ "."
  | .badIPv4 host => "Invalid IPv4 address: " ++ Text.quote (String.ofList host)
  | .badIPv6 host => "Invalid IPv6 address: " ++ Text.quote (String.ofList host)
  | .badHostName host => "Invalid IDNA hostname: " ++ Text.quote (String.ofList host)
  | .badPort port => "Invalid port: " ++ Text.quote (String.ofList port)
  | .relativeHostPath => "For absolute URLs, path must be empty or begin with '/'"
  | .doubleSlashPath => "Relative URLs cannot have a path starting with '//'"
  | .colonPath => "Relative URLs cannot have a path starting with ':'"
  | .longComponent component => "URL component '" ++ component.name ++ "' too long"

namespace Url

/-- Host and port as they are written. -/
def hostAndPort (u : Url) : List Char :=
  (if u.host.contains ':' then '[' :: (u.host ++ [']']) else u.host) ++
    match u.port with
    | some n => ':' :: (Decimal.intText n).toList
    | none => []

/-- User, host and port as they are written. -/
def authority (u : Url) : List Char :=
  (if u.user.isEmpty then [] else u.user ++ ['@']) ++ u.hostAndPort

/-- The characters of an address. -/
def chars (u : Url) : List Char :=
  (if u.scheme.isEmpty then [] else u.scheme ++ [':']) ++
    (if u.authority.isEmpty then [] else '/' :: '/' :: u.authority) ++ u.path ++
    (match u.query with
      | some q => '?' :: q
      | none => []) ++
    match u.fragment with
    | some f => '#' :: f
    | none => []

/-- The text of an address. -/
def text (u : Url) : String := String.ofList u.chars

/-- Whether the address names a scheme and a host. -/
def isAbsolute (u : Url) : Bool := !u.scheme.isEmpty && !u.host.isEmpty

/-- Path and query as they are requested; an empty path is a slash. -/
def target (u : Url) : List Char :=
  (if u.path.isEmpty then ['/'] else u.path) ++
    match u.query with
    | some q => '?' :: q
    | none => []

end Url

/-! ## §3. Hosts. -/

/-- A host in normal form: a numeric address without its brackets, a small name, or a name beyond
ASCII written in ASCII. -/
def readHost (host : List Char) : Except UrlProblem (List Char) :=
  if host.isEmpty then .ok []
  else if Host.looksNumeric host then
    if Host.isIPv4 host then .ok host else .error (.badIPv4 host)
  else if host.head? = some '[' && host.getLast? = some ']' && 1 < host.length then
    let inner := host.tail.dropLast
    if Host.isIPv6 inner then .ok inner else .error (.badIPv6 host)
  else if host.all (·.toNat < 128) then .ok (escapeText inHost (host.map Char.toLower))
  else (Host.normalName host).mapError (fun _ => .badHostName host)

/-! ## §4. Reading. -/

/-- The port that a scheme implies. -/
def impliedPort? (scheme : String) : Option Int :=
  if scheme = "ftp" then some 21
  else if scheme = "http" || scheme = "ws" then some 80
  else if scheme = "https" || scheme = "wss" then some 443
  else none

/-- A port, unless it is empty or implied by the scheme as it is written. -/
def readPort (scheme : List Char) (port : List Char) : Except UrlProblem (Option Int) :=
  if port.isEmpty then .ok none
  else
    match Decimal.readInt? port with
    | none => .error (.badPort port)
    | some n => .ok (if impliedPort? (String.ofList scheme) = some n then none else some n)

/-- Resolve the `.` and `..` segments of a path. -/
def resolveSegments (path : List Char) : List Char :=
  let segments := pieces '/' path
  if segments.contains ['.'] || segments.contains ['.', '.'] then
    ['/'].intercalate (segments.foldl
      (fun kept s =>
        if s = ['.'] then kept
        else if s = ['.', '.'] then (if kept = [] || kept = [[]] then kept else kept.dropLast)
        else kept ++ [s])
      [])
  else path

/-- The components of an address before they are brought into normal form. -/
structure RawUrl where
  scheme : List Char
  authority : List Char
  path : List Char
  query : Option (List Char)
  fragment : Option (List Char)
  deriving Inhabited

/-- The scheme at the start of an address, up to its colon. -/
def spanScheme (s : List Char) : List Char × List Char :=
  let name := s.takeWhile (fun c => c.isAlphanum || c == '+' || c == '.' || c == '-')
  match s.drop name.length with
  | ':' :: rest =>
      match name with
      | [] => ([], rest)
      | c :: _ => if c.isAlpha then (name, rest) else ([], s)
  | _ => ([], s)

/-- Split an address into its components. -/
def splitUrl (s : List Char) : RawUrl :=
  let (scheme, rest) := spanScheme s
  let endsAuthority (c : Char) : Bool := c == '/' || c == '?' || c == '#'
  let (authority, rest) := match rest with
    | '/' :: '/' :: more =>
        (more.takeWhile (fun c => !endsAuthority c), more.dropWhile (fun c => !endsAuthority c))
    | _ => ([], rest)
  let path := rest.takeWhile (fun c => c != '?' && c != '#')
  let rest := rest.drop path.length
  let (query, rest) := match rest with
    | '?' :: more => (some (more.takeWhile (· != '#')), more.dropWhile (· != '#'))
    | _ => (none, rest)
  let fragment := match rest with
    | '#' :: more => some (more.takeWhile (· != '\n'))
    | _ => none
  ⟨scheme, authority, path, query, fragment⟩

/-- User, host and port of an authority. -/
def splitAuthority (s : List Char) : List Char × List Char × List Char :=
  let behind := (s.reverse.takeWhile (· != '@')).reverse
  let user := (s.take (s.length - behind.length)).dropLast
  let host :=
    if behind.head? = some '[' && behind.contains ']' then
      (behind.reverse.dropWhile (· != ']')).reverse
    else behind.takeWhile (· != ':')
  let rest := behind.drop host.length
  (user, host, if rest.head? = some ':' then rest.tail else rest)

/-- Bring the components of an address into normal form. -/
def RawUrl.normalize (r : RawUrl) : Except UrlProblem Url := do
  let (user, host, port) := splitAuthority r.authority
  let user := escapeText inUser user
  let host ← readHost host
  let port ← readPort r.scheme port
  let hasAuthority := !user.isEmpty || !host.isEmpty || port.isSome
  let hasScheme := !r.scheme.isEmpty
  if hasAuthority && !r.path.isEmpty && r.path.head? != some '/' then
    .error .relativeHostPath
  else if !hasScheme && !hasAuthority && r.path.take 2 == ['/', '/'] then
    .error .doubleSlashPath
  else if !hasScheme && !hasAuthority && r.path.head? == some ':' then .error .colonPath
  else
    let path := if hasScheme || hasAuthority then resolveSegments r.path else r.path
    pure {
      scheme := r.scheme.map Char.toLower
      user := user
      host := host
      port := port
      path := escapeText inPath path
      query := r.query.map (escapeText inQuery)
      fragment := r.fragment.map (escapeText inFragment) }

/-- The most characters of an address. -/
def maxUrlLength : Nat := 65536

/-- Whether the character is an unprintable one of ASCII. -/
def isUnprintableAscii (c : Char) : Bool := c.toNat < 32 || c.toNat == 127

/-- Read an address. -/
def Url.read (s : String) : Except UrlProblem Url :=
  let cs := s.toList
  if maxUrlLength < cs.length then .error .tooLong
  else
    match cs.find? isUnprintableAscii with
    | some c => .error (.unprintable c (cs.takeWhile (fun x => !isUnprintableAscii x)).length)
    | none => (splitUrl cs).normalize

/-! ## §5. Joining. -/

/-- The first component that is too long. -/
def RawUrl.longComponent? (r : RawUrl) : Option Component :=
  let isLong (s : List Char) : Bool := maxUrlLength < s.length
  if isLong r.scheme then some .scheme
  else if isLong r.authority then some .authority
  else if isLong r.path then some .path
  else if r.query.any isLong then some .query
  else if r.fragment.any isLong then some .fragment
  else none

/-- The same address with another path and query. -/
def Url.withTarget (u : Url) (target : List Char) : Except UrlProblem Url :=
  let path := target.takeWhile (· != '?')
  let query := match target.drop path.length with
    | '?' :: q => some q
    | _ => none
  let raw : RawUrl := ⟨u.scheme, u.authority, path, query, u.fragment⟩
  match raw.longComponent? with
  | some component => .error (.longComponent component)
  | none => raw.normalize

/-- An address whose target ends in a slash, as the base of a client. -/
def Url.asBase (u : Url) : Except UrlProblem Url :=
  if u.target.getLast? = some '/' then .ok u else u.withTarget (u.target ++ ['/'])

/-- Join an address to a base. -/
def Url.join (base u : Url) : Except UrlProblem Url :=
  if u.isAbsolute then .ok u
  else base.withTarget (base.target ++ u.target.dropWhile (· == '/'))

end Golden.Agent

/-
  Golden.Agent.Library
  ────────────────────────────────
  **A CLIENT LIBRARY, WRITTEN OUT.**

  This is one library of the kind that requests go through, in full: how its
  clients join a URL to their base, which requests they refuse to build, and
  what they raise once there is a reply.

      base http://bls.test   URL /x   sends http://bls.test/x and hands the reply on
      base bls.test          URL /x   sends bls.test/x and refuses the reply: no origin

  Its clients are open, follow no redirects and know no logins, so each request
  is sent once.  Once a client has been closed it still builds requests, but
  sends none.
-/
import Golden.Agent.Header
import Golden.Agent.Origin
import Golden.Http.Exchange
import Golden.Json.Bytes

namespace Golden.Agent

/-! ## §1. Faults. -/

/-- The fault of a text that is no address. -/
def urlFault (p : UrlProblem) : Http.Fault := ⟨"invalid address", p.message⟩

/-- The fault of a header value that is not in ASCII. -/
def headerFault (f : HeaderFault) : Http.Fault := ⟨"unwritable header", f.message⟩

/-- The kind of problem that a host has. -/
def hostKind : Host.Problem → String
  | .unknownCode _ _ _ => "unknown code point"
  | .misplacedCode _ _ _ => "misplaced code point"
  | .noDirection _ _ | .startDirection _ | .leftDirection _ | .rightDirection _ | .mixedNumbers
  | .endDirection => "mixed directions"
  | _ => "invalid host"

/-- The fault of a host whose spelling in ASCII stands for no name. -/
def hostFault (p : Host.Problem) : Http.Fault := ⟨hostKind p, p.message⟩

/-- The fault of a reply from an address that names no origin. -/
def originFault (p : OriginProblem) : Http.Fault := ⟨"unknown origin", p.message⟩

/-! ## §2. Requests. -/

/-- The base of a client for an address. -/
def baseOf (address : String) : Except UrlProblem Url := do
  let u ← Url.read address
  u.asBase

/-- Why the headers of a request cannot be written, if they cannot. -/
def requestFault? (u : Url) (accept : String) : Option Http.Fault :=
  (headerFault? accept).map headerFault <|> (Host.problemOf? u.host).map hostFault <|>
    (headerFault? (String.ofList u.hostAndPort)).map headerFault

/-- The request for a URL that is joined to a base. -/
def build (base : Url) (url accept : String) : Except Http.Fault Request := do
  let u ← (Url.read url).mapError urlFault
  let joined ← (base.join u).mapError urlFault
  match requestFault? joined accept with
  | some f => .error f
  | none => .ok ⟨joined.text, accept⟩

/-- Send a request; a reply has to be from an origin. -/
def send (transport : Http.Transport) (request : Request) : Http.Exchange where
  sent := [request]
  result := do
    let response ← transport request
    match originProblem? request.url.toList with
    | some p => .error (originFault p)
    | none => .ok response

/-! ## §3. The library. -/

/-- A client with a base. -/
def clientFor (base : Url) : Http.Client := ⟨build base, send⟩

/-- What a client raises that has been closed. -/
def closedFault : Http.Fault :=
  ⟨"closed client", "Cannot send a request, as the client has been closed."⟩

/-- A client with a base that has been closed. -/
def closedClientFor (base : Url) : Http.Client := ⟨build base, fun _ _ => ⟨[], .error closedFault⟩⟩

/-- The library; the timeout of a client is up to the transport. -/
def library : Http.Library where
  client address _ := ((baseOf address).mapError urlFault).map clientFor

/-- The response with a status and a body in UTF-8. -/
def answer (status : Int) (body : String) : Http.Response where
  status := status
  text := body
  json := Json.readBytes (Text.Utf8.encode body.toList)

/-! ## §4. What its clients do. -/

theorem client_of_base {address : String} {base : Url} (h : baseOf address = .ok base)
    (timeout : Double) : library.client address timeout = .ok (clientFor base) := by
  show ((baseOf address).mapError urlFault).map clientFor = _
  rw [h]
  rfl

section Sending

variable {transport : Http.Transport} {request : Request}

theorem send_of_error {fault : Http.Fault} (h : transport request = .error fault) :
    send transport request = ⟨[request], .error fault⟩ := by
  unfold send
  rw [h]
  rfl

variable {response : Http.Response} (h : transport request = .ok response)

include h

theorem send_of_ok (horigin : originProblem? request.url.toList = none) :
    send transport request = ⟨[request], .ok response⟩ := by
  unfold send
  rw [h]
  show (⟨_, match originProblem? request.url.toList with
    | some p => .error (originFault p)
    | none => .ok response⟩ : Http.Exchange) = _
  rw [horigin]

theorem send_of_problem {p : OriginProblem}
    (horigin : originProblem? request.url.toList = some p) :
    send transport request = ⟨[request], .error (originFault p)⟩ := by
  unfold send
  rw [h]
  show (⟨_, match originProblem? request.url.toList with
    | some p => .error (originFault p)
    | none => .ok response⟩ : Http.Exchange) = _
  rw [horigin]

end Sending

/-- Its clients are open, and send no more for redirects or logins. -/
theorem sendsOnce_clientFor (base : Url) : (clientFor base).SendsOnce where
  sent _ _ := rfl
  failure transport request fault h := by
    show (send transport request).result = _
    rw [send_of_error h]
  response transport request response h := by
    change (send transport request).result = _ at h
    cases hreply : transport request with
    | error fault =>
        rw [send_of_error hreply] at h
        cases h
    | ok reply =>
        cases horigin : originProblem? request.url.toList with
        | some p =>
            rw [send_of_problem hreply horigin] at h
            cases h
        | none =>
            rw [send_of_ok hreply horigin] at h
            exact h

end Golden.Agent

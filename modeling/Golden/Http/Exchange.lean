/-
  Golden.Http.Exchange
  ────────────────────────────────
  **ONE REQUEST AND ITS REPLY.**

  Requests go through a client library that is not described here: a library
  makes clients, a client builds requests and sends them over a transport, and
  each of these steps may raise a fault of the library.  All that counts is
  which requests reach the transport and what response the client gives.

      an open client with neither redirects nor a login   sends each request once
      one that has been closed                             sends none
      one that follows redirects, or asks for a login      may send several

  `fetch` sends one request and takes the value in the body of the reply:

      no request, or no response       the fault of the library
      status other than 200            that status, with 500 characters of the body
      status 200                       the value, or why the body cannot be read
-/
import Golden.World

namespace Golden.Http

/-! ## §1. Client libraries. -/

/-- What comes back for a request: a status, the body as a text, and the value that the body holds
as a document.  Neither text nor value holds half of a surrogate pair alone. -/
structure Response where
  status : Int
  text : String
  json : Except Json.Unreadable Value
  deriving Inhabited

/-- What gives a reply to a request, or a fault on the way. -/
abbrev Transport := Request → Except Fault Response

/-- What sending a request comes to: the requests that went to the transport on the way, and the
response that the client gives or the fault that it raises. -/
structure Exchange where
  sent : List Request
  result : Except Fault Response
  deriving Inhabited

/-- A client: the request that it builds for a URL and a kind of answer, and how it sends one. -/
structure Client where
  build : String → String → Except Fault Request
  send : Transport → Request → Exchange
  deriving Inhabited

/-- A client library: the client that it makes for a base address and a timeout. -/
structure Library where
  client : String → Double → Except Fault Client
  deriving Inhabited

/-- What a client does that is open, follows no redirects and does not send again to log in: it asks
the transport once, raises the fault of the transport if there is one, and gives no other response
than that of the transport.  Whether it gives that response is left open. -/
structure Client.SendsOnce (client : Client) : Prop where
  sent : ∀ transport request, (client.send transport request).sent = [request]
  failure : ∀ transport request fault, transport request = .error fault →
    (client.send transport request).result = .error fault
  response : ∀ transport request response,
    (client.send transport request).result = .ok response → transport request = .ok response

/-! ## §2. Fetching. -/

/-- The kind of answer that a request accepts unless said otherwise. -/
def defaultAccept : String := "application/json"

/-- The expected status. -/
def okStatus : Int := 200

/-- The most characters of a body in a failure. -/
def maxExcerpt : Nat := 500

/-- The start of a text. -/
def excerpt (text : String) : String := String.ofList (text.toList.take maxExcerpt)

/-- A reply has another status than the expected one. -/
def statusEvent (url : String) (status : Int) : Log.Event :=
  ⟨.warning, "GET %s returned %s", [.text url, .text (Decimal.intText status)]⟩

/-- Build the request for a URL and send it; this gives the response to it. -/
def get (client : Client) (url accept : String) (transport : Transport) : Run Response := do
  let request ← Run.ofExcept Failure.http (client.build url accept)
  let exchange := client.send transport request
  Run.noteSent exchange.sent
  Run.ofExcept Failure.http exchange.result

/-- Send a request and take the value in the body of its reply. -/
def fetch (client : Client) (url accept : String) (transport : Transport) : Run Value := do
  let response ← get client url accept transport
  if response.status ≠ okStatus then do
    Run.log (statusEvent url response.status).record
    throw (.status ⟨url, response.status, excerpt response.text⟩)
  else Run.ofExcept Failure.unreadable response.json

end Golden.Http

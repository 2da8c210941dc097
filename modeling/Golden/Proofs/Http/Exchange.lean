/-
  Golden.Proofs.Http.Exchange
  ────────────────────────────────
  **ONE REQUEST, AND WHAT ITS REPLY COMES TO.**

  Whether a request is sent is decided by the client, the URL and the kind of
  answer alone; what comes of it is decided by the exchange:

      outcome (fetch …) w  =  (error fault, w)               client.build … = error fault
      outcome (fetch …) w  =  (exchange.value, w + sent)     client.build … = ok request

  Besides the requests a fetch leaves a record in the log at most.
-/
import Golden.Http.Exchange
import Golden.Proofs.World.Steps

namespace Golden.Http

/-! ## §1. Values. -/

/-- The value that a response to a URL comes to. -/
def Response.value (response : Response) (url : String) : Except Failure Value :=
  if response.status = okStatus then response.json.mapError .unreadable
  else .error (.status ⟨url, response.status, excerpt response.text⟩)

/-- The value that an exchange about a URL comes to. -/
def Exchange.value (exchange : Exchange) (url : String) : Except Failure Value := do
  let response ← exchange.result.mapError .http
  response.value url

theorem Exchange.value_of_error {exchange : Exchange} {fault : Fault} (url : String)
    (h : exchange.result = .error fault) : exchange.value url = .error (.http fault) := by
  unfold Exchange.value
  rw [h]
  rfl

theorem Exchange.value_of_ok {exchange : Exchange} {response : Response} (url : String)
    (h : exchange.result = .ok response) : exchange.value url = response.value url := by
  unfold Exchange.value
  rw [h]
  rfl

/-- What an exchange comes to goes by the reply of the transport if the client sends each request
once, save that the client may raise a fault for it. -/
theorem Client.SendsOnce.of_reply {client : Client} (honce : client.SendsOnce)
    {transport : Transport} {request : Request} {Raised : Fault → Prop} {Given : Response → Prop}
    (h : match (client.send transport request).result with
      | .error fault => Raised fault
      | .ok response => Given response) :
    match transport request with
    | .error fault => Raised fault
    | .ok response => Given response ∨
        ∃ fault, (client.send transport request).result = .error fault ∧ Raised fault := by
  cases hreply : transport request with
  | error fault =>
      rw [honce.failure transport request fault hreply] at h
      exact h
  | ok reply =>
      cases hresult : (client.send transport request).result with
      | error fault =>
          rw [hresult] at h
          exact Or.inr ⟨fault, rfl, h⟩
      | ok response =>
          rw [hresult] at h
          have hsame := honce.response transport request response hresult
          obtain rfl : reply = response := Except.ok.inj (hreply.symm.trans hsame)
          exact Or.inl h

/-! ## §2. Outcomes. -/

variable {client : Client} {url accept : String} {w : World} (transport : Transport)

/-- A request that cannot be built is not sent. -/
theorem outcome_get_of_error {fault : Fault} (hbuild : client.build url accept = .error fault) :
    Run.outcome (get client url accept transport) w = (.error (.http fault), w) := by
  unfold get
  rw [hbuild]
  rfl

/-- A request that can be built is sent, and the exchange decides the rest. -/
theorem outcome_get_of_ok {request : Request} (hbuild : client.build url accept = .ok request) :
    Run.outcome (get client url accept transport) w =
      ((client.send transport request).result.mapError .http,
        { w with requests := w.requests ++ (client.send transport request).sent }) := by
  unfold get
  rw [hbuild, Run.outcome_bind, Run.outcome_ofExcept]
  show Run.outcome (Run.noteSent _ >>= _) w = _
  rw [Run.outcome_bind]
  exact Run.outcome_ofExcept _ _ _

theorem outcome_fetch_of_error {fault : Fault} (hbuild : client.build url accept = .error fault) :
    Run.outcome (fetch client url accept transport) w = (.error (.http fault), w) := by
  have hget := outcome_get_of_error (w := w) transport hbuild
  exact Run.outcome_bind_of_error hget _

/-- The value of a fetch is that of its exchange, of which the world keeps the requests. -/
theorem outcome_fetch_of_ok {request : Request} (hbuild : client.build url accept = .ok request) :
    ∃ log, Run.outcome (fetch client url accept transport) w =
      ((client.send transport request).value url, { w with
        log := log
        requests := w.requests ++ (client.send transport request).sent }) := by
  have hget := outcome_get_of_ok (w := w) transport hbuild
  unfold fetch
  cases hresult : (client.send transport request).result with
  | error fault =>
      rw [hresult] at hget
      rw [Exchange.value_of_error url hresult, Run.outcome_bind_of_error hget]
      exact ⟨w.log, rfl⟩
  | ok response =>
      rw [hresult] at hget
      rw [Exchange.value_of_ok url hresult, Run.outcome_bind_of_ok hget]
      unfold Response.value
      by_cases hstatus : response.status = okStatus
      · rw [if_neg (not_not_intro hstatus), if_pos hstatus, Run.outcome_ofExcept]
        exact ⟨w.log, rfl⟩
      · rw [if_pos hstatus, if_neg hstatus]
        exact ⟨_, rfl⟩

end Golden.Http

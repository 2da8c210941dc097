/-
  Golden.Proofs.UrlCase.Refines
  ────────────────────────────────
  **A URL CASE FETCHES, THEN COMPARES.**

  Which client a case has and which request it builds is decided before anything
  is sent: a client that is given comes first, then given settings, then the
  environment.  From there a case ends in one of these ways:

      no client, or the request cannot be built     that failure, nothing sent
      the client gives no response                   the fault that it raises
      another status than 200                        the status, 500 characters
      a body that cannot be read                     why
      a value                                        what a comparison comes to

  In all but the last the tree stays as it was, and in the last the comparison
  comes to what it would have come to in the world before the request.  A client
  of its own is closed on every way out.

  The library that clients come from is left open, and nothing is assumed of a
  client but where it says so: one that is open and sends no more for redirects
  or logins sends the request once and raises the fault of the transport if
  there is one.  It may still raise a fault of its own for a reply.
-/
import Golden.Agent.Library
import Golden.Proofs.Expectation.Quiet
import Golden.Proofs.Http.Exchange
import Golden.UrlCase

namespace Golden

/-- An operation has failed and left the tree as it was. -/
def FailsStill {α : Type} (ended : Except Failure α × World) (f : Failure) (w : World) : Prop :=
  ended.1 = .error f ∧ ended.2.SameTree w

namespace UrlCase

/-! ## §1. The client. -/

/-- The settings that are given, or else those of the environment. -/
def settingsIn (settings : Option Settings) (environment : Environment) :
    Except Failure Settings :=
  match settings with
  | some s => .ok s
  | none => (Settings.ofEnvironment environment).mapError .settings

section Clients

variable (library : Http.Library) (client : Option Http.Client) (settings : Option Settings)
  (environment : Environment)

/-- The client that is given, or else one of the library for the settings. -/
def clientIn : Except Failure Http.Client :=
  match client with
  | some client => .ok client
  | none => do
      let s ← settingsIn settings environment
      (library.client s.serverUrl s.timeout).mapError .http

/-- What is closed in the end: a client of its own, if the case has one. -/
def closedBy : List Bool :=
  match client, clientIn library client settings environment with
  | none, .ok _ => [true]
  | _, _ => []

end Clients

theorem outcome_settingsOr (settings : Option Settings) (w : World) :
    Run.outcome (settingsOr settings) w = (settingsIn settings w.environment, w) := by
  cases settings with
  | some s => rfl
  | none => exact Run.outcome_settings w

/-- With a client the value is fetched, and a client of its own is closed; without one nothing
happens. -/
theorem outcome_fetchWith (library : Http.Library) (c : UrlCase) (x : Context)
    (transport : Http.Transport) (w : World) :
    Run.outcome (c.fetchWith library x transport) w =
      match clientIn library x.client x.settings w.environment with
      | .error f => (.error f, w)
      | .ok http =>
          ((Run.outcome (Http.fetch http c.url c.accept transport) w).1,
            { (Run.outcome (Http.fetch http c.url c.accept transport) w).2 with
              closed := (Run.outcome (Http.fetch http c.url c.accept transport) w).2.closed ++
                closedBy library x.client x.settings w.environment }) := by
  unfold fetchWith closedBy
  cases x.client with
  | some http => simp only [clientIn, List.append_nil]
  | none =>
      simp only [clientIn]
      rw [Run.outcome_bind, outcome_settingsOr]
      cases settingsIn x.settings w.environment with
      | error f => rfl
      | ok s =>
          simp only [ok_bind]
          rw [Run.outcome_bind, clientOf, Run.outcome_ofExcept]
          cases library.client s.serverUrl s.timeout with
          | error fault => rfl
          | ok http => rfl

/-! ## §2. The exchange. -/

/-- The exchange of a case with a transport, or why it sends nothing. -/
def exchangeOf (library : Http.Library) (client : Option Http.Client) (settings : Option Settings)
    (environment : Environment) (url accept : String) (transport : Http.Transport) :
    Except Failure Http.Exchange := do
  let http ← clientIn library client settings environment
  let request ← (http.build url accept).mapError .http
  pure (http.send transport request)

/-- With a client that builds the request, the exchange is that of the client. -/
theorem exchangeOf_of_request {library : Http.Library} {client : Option Http.Client}
    {settings : Option Settings} {environment : Environment} {url accept : String}
    (transport : Http.Transport) {http : Http.Client} {request : Request}
    (hclient : clientIn library client settings environment = .ok http)
    (hbuild : http.build url accept = .ok request) :
    exchangeOf library client settings environment url accept transport =
      .ok (http.send transport request) := by
  unfold exchangeOf
  rw [hclient, ok_bind, hbuild]
  rfl

section Fetching

variable {library : Http.Library} {c : UrlCase} {x : Context} {w : World}
  {transport : Http.Transport}

/-- Where no request can be built nothing is sent. -/
theorem outcome_fetchWith_of_error {f : Failure}
    (hexchange : exchangeOf library x.client x.settings w.environment c.url c.accept transport =
      .error f) :
    Run.outcome (c.fetchWith library x transport) w =
      (.error f, { w with
        closed := w.closed ++ closedBy library x.client x.settings w.environment }) := by
  rw [outcome_fetchWith]
  unfold exchangeOf at hexchange
  cases hclient : clientIn library x.client x.settings w.environment with
  | error g =>
      rw [hclient] at hexchange
      -- A client of its own that was not made is not closed either.
      have hnone : closedBy library x.client x.settings w.environment = [] := by
        unfold closedBy
        rw [hclient]
        split
        · next h => cases h
        · rfl
      rw [hnone, List.append_nil]
      cases hexchange
      rfl
  | ok http =>
      rw [hclient, ok_bind] at hexchange
      cases hbuild : http.build c.url c.accept with
      | error fault =>
          rw [hbuild] at hexchange
          cases hexchange
          simp only [Http.outcome_fetch_of_error transport hbuild]
      | ok request =>
          rw [hbuild] at hexchange
          cases hexchange

/-- Where a request can be built it is sent, and the exchange decides the rest. -/
theorem outcome_fetchWith_of_ok {exchange : Http.Exchange}
    (hexchange : exchangeOf library x.client x.settings w.environment c.url c.accept transport =
      .ok exchange) :
    ∃ log, Run.outcome (c.fetchWith library x transport) w =
      (exchange.value c.url, { w with
        log := log
        requests := w.requests ++ exchange.sent
        closed := w.closed ++ closedBy library x.client x.settings w.environment }) := by
  obtain ⟨http, hclient, hsent⟩ := bind_eq_ok_iff.mp hexchange
  obtain ⟨request, hbuild, hsend⟩ := bind_eq_ok_iff.mp hsent
  obtain rfl : http.send transport request = exchange := Except.ok.inj hsend
  obtain ⟨log, hfetch⟩ :=
    Http.outcome_fetch_of_ok (w := w) transport (mapError_eq_ok_iff.mp hbuild)
  refine ⟨log, ?_⟩
  rw [outcome_fetchWith, hclient]
  simp only [hfetch]

end Fetching

/-! ## §3. The comparison. -/

theorem chosenStore_eq (x : Context) :
    x.chosenStore = (x.store <|> x.settings.map Store.ofSettings) := by
  unfold Context.chosenStore
  cases x.store <;> cases x.settings <;> rfl

/-- A policy that is given counts, and is not mistaken for none. -/
theorem chosenPolicy_eq (client : Option Http.Client) (store : Option Store)
    (policy : Option Policy) (settings : Option Settings) :
    Context.chosenPolicy ⟨client, store, Expectation.policyValue policy, settings⟩ =
      Expectation.policyValue (policy <|> settings.map Settings.policy) := by
  cases settings with
  | none => cases policy <;> rfl
  | some s =>
      cases policy with
      | none => rfl
      | some p => cases p <;> rfl

/-- The record of the request, which is about the URL as well. -/
def requestRecord (c : UrlCase) : Log.Record :=
  Log.Subject.record ⟨c.category.plain, c.test.plain, some c.url⟩ (requestEvent c.accept)

/-- The comparison of a case with the value that was fetched. -/
def expectation (c : UrlCase) (x : Context) (body : Value) : Expectation :=
  ⟨c.category, c.test, body, false, x.chosenStore, x.chosenPolicy⟩

section Checking

variable {library : Http.Library} {c : UrlCase} {x : Context} {w : World}
  {transport : Http.Transport}
  (hprint : (c.category.isPrintable && c.test.isPrintable) = true)

include hprint

/-- A case logs its request and fetches, and compares in the world that this leaves. -/
theorem outcome_check : Run.outcome (c.check library x transport) w =
    match Run.outcome (c.fetchWith library x transport)
        { w with log := w.log ++ [c.requestRecord] } with
    | (.ok body, u) => Run.outcome (c.expectation x body).check u
    | (.error f, u) => (.error f, u) := by
  have hsubject : Run.outcome (subjectOf c.category c.test (some c.url)) w =
      (.ok ⟨c.category.plain, c.test.plain, some c.url⟩, w) := by
    rw [subjectOf, if_pos hprint]
    rfl
  have hlog : Run.outcome (Run.log c.requestRecord) w =
      (.ok (), { w with log := w.log ++ [c.requestRecord] }) := rfl
  unfold check
  rw [Run.outcome_bind_of_ok hsubject]
  show Run.outcome (Run.log c.requestRecord >>= _) w = _
  rw [Run.outcome_bind_of_ok hlog, Run.outcome_bind]
  generalize Run.outcome (c.fetchWith library x transport) _ = fetched
  obtain ⟨result, u⟩ := fetched
  cases result <;> rfl

theorem outcome_check_of_error {f : Failure}
    (hexchange : exchangeOf library x.client x.settings w.environment c.url c.accept transport =
      .error f) :
    FailsStill (Run.outcome (c.check library x transport) w) f w ∧
      (Run.outcome (c.check library x transport) w).2.requests = w.requests ∧
      (Run.outcome (c.check library x transport) w).2.closed =
        w.closed ++ closedBy library x.client x.settings w.environment := by
  have hcheck : Run.outcome (c.check library x transport) w = _ := outcome_check hprint
  have hfetch := outcome_fetchWith_of_error (w := { w with log := w.log ++ [c.requestRecord] })
    hexchange
  rw [hfetch] at hcheck
  rw [hcheck]
  exact ⟨⟨rfl, rfl, rfl⟩, rfl, rfl⟩

theorem outcome_check_of_exchange {exchange : Http.Exchange}
    (hexchange : exchangeOf library x.client x.settings w.environment c.url c.accept transport =
      .ok exchange) :
    (match exchange.value c.url with
      | .error f => FailsStill (Run.outcome (c.check library x transport) w) f w
      | .ok body =>
          (Run.outcome (c.check library x transport) w).1 =
              (Run.outcome (c.expectation x body).check w).1 ∧
            (Run.outcome (c.check library x transport) w).2.SameTree
              (Run.outcome (c.expectation x body).check w).2) ∧
      (Run.outcome (c.check library x transport) w).2.requests = w.requests ++ exchange.sent ∧
      (Run.outcome (c.check library x transport) w).2.closed =
        w.closed ++ closedBy library x.client x.settings w.environment := by
  have hcheck : Run.outcome (c.check library x transport) w = _ := outcome_check hprint
  obtain ⟨log, hfetch⟩ := outcome_fetchWith_of_ok
    (w := { w with log := w.log ++ [c.requestRecord] }) hexchange
  rw [hfetch] at hcheck
  rw [hcheck]
  cases exchange.value c.url with
  | error f => exact ⟨⟨rfl, rfl, rfl⟩, rfl, rfl⟩
  | ok body =>
      -- The fetch has left tree and environment as they were, and no more counts.
      obtain ⟨hresult, htree, hrequests, hclosed⟩ := (c.expectation x body).quiet_check.outcome_eq
        (u := { w with
          log := log
          requests := w.requests ++ exchange.sent
          closed := w.closed ++ closedBy library x.client x.settings w.environment })
        (w := w) ⟨rfl, rfl⟩ rfl
      exact ⟨⟨hresult, htree⟩, hrequests, hclosed⟩

end Checking

/-! ## §4. Refinement. -/

/-- A case that has got a response to its URL ends as the response says: with the status if that is
another than 200, with why the body cannot be read, or as the comparison with the value in it. -/
def EndsBy (response : Http.Response) (url : String)
    (compared : Value → Except Failure Outcome × World) (ended : Except Failure Outcome × World)
    (w : World) : Prop :=
  if response.status = 200 then
    match response.json with
    | .error cause => FailsStill ended (.unreadable cause) w
    | .ok body => ended.1 = (compared body).1 ∧ ended.2.SameTree (compared body).2
  else
    FailsStill ended
      (.status ⟨url, response.status, String.ofList (response.text.toList.take 500)⟩) w

/-- How a case ends by the value of an exchange says how it ends by the response. -/
theorem endsBy_of_exchange {exchange : Http.Exchange} {url : String}
    (compared : Value → Except Failure Outcome × World) {ended : Except Failure Outcome × World}
    {w : World}
    (h : match exchange.value url with
      | .error f => FailsStill ended f w
      | .ok body => ended.1 = (compared body).1 ∧ ended.2.SameTree (compared body).2) :
    match exchange.result with
    | .error fault => FailsStill ended (.http fault) w
    | .ok response => EndsBy response url compared ended w := by
  cases hresult : exchange.result with
  | error fault =>
      rw [Http.Exchange.value_of_error url hresult] at h
      exact h
  | ok response =>
      rw [Http.Exchange.value_of_ok url hresult] at h
      show EndsBy response url compared ended w
      unfold EndsBy
      unfold Http.Response.value at h
      by_cases hstatus : response.status = 200
      · rw [if_pos hstatus]
        rw [if_pos (show response.status = Http.okStatus from hstatus)] at h
        cases hjson : response.json with
        | error cause =>
            rw [hjson] at h
            exact h
        | ok body =>
            rw [hjson] at h
            exact h
      · rw [if_neg hstatus]
        rw [if_neg (show ¬ response.status = Http.okStatus from hstatus)] at h
        exact h

/-- **A URL case is a fetch and then a comparison.**  Nothing is sent where no client or no request
can be had; a failed fetch leaves the tree as it was; and with a value the case comes to what the
comparison with it comes to, in result and tree, with the store and the policy that are given, or
else with those of given settings, or else with those of the environment.  A client that sends once
sends the one request, and the case ends by the reply of the transport, save that the client may
refuse the reply. -/
theorem check_refines (library : Http.Library) (category test url accept : String)
    (client : Option Http.Client) (store : Option Store) (policy : Option Policy)
    (settings : Option Settings) (transport : Http.Transport) (w : World) :
    let ended := Run.outcome (check library ⟨.text category, .text test, url, accept⟩
      ⟨client, store, Expectation.policyValue policy, settings⟩ transport) w
    let compared (body : Value) := Run.outcome (Expectation.check ⟨.text category, .text test, body,
      false, store <|> settings.map Store.ofSettings,
      Expectation.policyValue (policy <|> settings.map Settings.policy)⟩) w
    ended.2.closed = w.closed ++ closedBy library client settings w.environment ∧
    match clientIn library client settings w.environment with
    | .error f => FailsStill ended f w ∧ ended.2.requests = w.requests
    | .ok http =>
        match http.build url accept with
        | .error fault => FailsStill ended (.http fault) w ∧ ended.2.requests = w.requests
        | .ok request =>
            let exchange := http.send transport request
            ended.2.requests = w.requests ++ exchange.sent ∧
            (match exchange.result with
              | .error fault => FailsStill ended (.http fault) w
              | .ok response => EndsBy response url compared ended w) ∧
            (http.SendsOnce →
              ended.2.requests = w.requests ++ [request] ∧
              match transport request with
              | .error fault => FailsStill ended (.http fault) w
              | .ok response =>
                  EndsBy response url compared ended w ∨
                    ∃ fault, exchange.result = .error fault ∧
                      FailsStill ended (.http fault) w) := by
  intro ended compared
  -- In the order of the operation: the client, the request, and then the exchange.
  cases hclient : clientIn library client settings w.environment with
  | error f =>
      have hexchange : exchangeOf library client settings w.environment url accept transport =
          .error f := by
        unfold exchangeOf
        rw [hclient]
        rfl
      obtain ⟨hfails, hrequests, hclosed⟩ := outcome_check_of_error
        (c := ⟨.text category, .text test, url, accept⟩)
        (x := ⟨client, store, Expectation.policyValue policy, settings⟩) rfl hexchange
      exact ⟨hclosed, hfails, hrequests⟩
  | ok http =>
      simp only
      cases hbuild : http.build url accept with
      | error fault =>
          have hexchange : exchangeOf library client settings w.environment url accept transport =
              .error (.http fault) := by
            unfold exchangeOf
            rw [hclient, ok_bind, hbuild]
            rfl
          obtain ⟨hfails, hrequests, hclosed⟩ := outcome_check_of_error
            (c := ⟨.text category, .text test, url, accept⟩)
            (x := ⟨client, store, Expectation.policyValue policy, settings⟩) rfl hexchange
          exact ⟨hclosed, hfails, hrequests⟩
      | ok request =>
          have hexchange := exchangeOf_of_request transport hclient hbuild
          obtain ⟨hvalue, hrequests, hclosed⟩ := outcome_check_of_exchange
            (c := ⟨.text category, .text test, url, accept⟩)
            (x := ⟨client, store, Expectation.policyValue policy, settings⟩) rfl hexchange
          simp only [expectation, chosenStore_eq, chosenPolicy_eq] at hvalue
          have hended := endsBy_of_exchange compared hvalue
          -- Only a client that sends once ties what it gives to the reply of the transport.
          refine ⟨hclosed, hrequests, hended, fun honce => ⟨?_, honce.of_reply hended⟩⟩
          rw [← honce.sent transport request]
          exact hrequests

/-! ## §5. Clients that hand replies on, and others. -/

/-- The sample case: one fixed URL, with a client and a store that are given, and a transport that
replies with one value. -/
def sampleEnd (http : Http.Client) : Except Failure Outcome × World :=
  Run.outcome (check Agent.library ⟨.text "hits", .text "all", "/x", "application/json"⟩
    ⟨some http, some ⟨⟨.root, ["snapshots"]⟩⟩, Expectation.policyValue (some .writeIfMissing), none⟩
    (fun _ => .ok (Agent.answer 200 "\"x\""))) bareWorld

theorem json_answer_sample : (Agent.answer 200 "\"x\"").json = .ok (.text "x") := by
  have hread : (Agent.answer 200 "\"x\"").json.map (·.same (.text "x")) = .ok true := by
    decide +kernel
  cases hbody : (Agent.answer 200 "\"x\"").json with
  | error cause =>
      rw [hbody] at hread
      cases hread
  | ok body =>
      rw [hbody] at hread
      rw [Value.same_text.mp (Except.ok.inj hread)]

/-- With a client that raises a fault the sample case sends what the client sends, and fails with the
fault. -/
theorem sampleEnd_of_fault (http : Http.Client) {request : Request} {sent : List Request}
    {fault : Http.Fault} (hbuild : http.build "/x" "application/json" = .ok request)
    (hsend : http.send (fun _ => .ok (Agent.answer 200 "\"x\"")) request = ⟨sent, .error fault⟩) :
    (sampleEnd http).2.requests = sent ∧ (sampleEnd http).1 = .error (.http fault) := by
  have hexchange : exchangeOf Agent.library (some http) none bareWorld.environment "/x"
      "application/json" (fun _ => .ok (Agent.answer 200 "\"x\"")) = _ :=
    exchangeOf_of_request _ rfl hbuild
  rw [hsend] at hexchange
  obtain ⟨hvalue, hrequests, -⟩ := outcome_check_of_exchange
    (c := ⟨.text "hits", .text "all", "/x", "application/json"⟩)
    (x := ⟨some http, some ⟨⟨.root, ["snapshots"]⟩⟩,
      Expectation.policyValue (some .writeIfMissing), none⟩) rfl hexchange
  exact ⟨hrequests, hvalue.1⟩

/-- With a scheme in front of the host, the sample case writes the value that it fetches. -/
theorem check_refines_sample :
    ∃ http, Agent.library.client "http://bls.test" default = .ok http ∧ http.SendsOnce ∧
      (sampleEnd http).1 = .ok .written ∧
      (sampleEnd http).2.requests = [⟨"http://bls.test/x", "application/json"⟩] ∧
      (sampleEnd http).2.closed = [] := by
  have hbase : Agent.baseOf "http://bls.test" =
      .ok ⟨"http".toList, [], "bls.test".toList, none, [], none, none⟩ := by
    decide +kernel
  have hclient := Agent.client_of_base hbase default
  have honce := Agent.sendsOnce_clientFor
    ⟨"http".toList, [], "bls.test".toList, none, [], none, none⟩
  have hbuild : Agent.build ⟨"http".toList, [], "bls.test".toList, none, [], none, none⟩ "/x"
      "application/json" = .ok ⟨"http://bls.test/x", "application/json"⟩ := by
    decide +kernel
  have horigin : Agent.originProblem? "http://bls.test/x".toList = none := by
    decide +kernel
  have hsend : Agent.send (fun _ => .ok (Agent.answer 200 "\"x\""))
      ⟨"http://bls.test/x", "application/json"⟩ =
      ⟨[⟨"http://bls.test/x", "application/json"⟩], .ok (Agent.answer 200 "\"x\"")⟩ :=
    Agent.send_of_ok rfl horigin
  obtain ⟨hclosed, hrest⟩ := check_refines Agent.library "hits" "all" "/x" "application/json"
    (some (Agent.clientFor ⟨"http".toList, [], "bls.test".toList, none, [], none, none⟩))
    (some ⟨⟨.root, ["snapshots"]⟩⟩) (some .writeIfMissing) none
    (fun _ => .ok (Agent.answer 200 "\"x\"")) bareWorld
  simp only [clientIn, Agent.clientFor, hbuild] at hrest
  obtain ⟨-, hended, hsent⟩ := hrest
  rw [hsend] at hended
  simp only [EndsBy, json_answer_sample] at hended
  obtain ⟨hrequests, -⟩ := hsent honce
  exact ⟨_, hclient, honce, hended.1.trans (Expectation.sample_written rfl), hrequests, hclosed⟩

/-- **Without a scheme the client, which sends each request once, sends its request, gets a value in
reply, and raises a fault all the same; and a client that has been closed builds its request and
sends none.** -/
theorem check_of_unusableClient :
    ∃ http closed, Agent.library.client "bls.test" default = .ok http ∧ http.SendsOnce ∧
      (Agent.answer 200 "\"x\"").json = .ok (.text "x") ∧
      (Run.outcome (Expectation.sample (.text "x")).check bareWorld).1 = .ok .written ∧
      http.build "/x" "application/json" = .ok ⟨"bls.test/x", "application/json"⟩ ∧
      (sampleEnd http).2.requests = [⟨"bls.test/x", "application/json"⟩] ∧
      (sampleEnd http).1 =
        .error (.http ⟨"unknown origin", "unknown url type: 'bls.test/x'"⟩) ∧
      closed.build "/x" "application/json" = .ok ⟨"bls.test/x", "application/json"⟩ ∧
      (sampleEnd closed).2.requests = [] ∧
      (sampleEnd closed).1 = .error (.http Agent.closedFault) := by
  have hbase : Agent.baseOf "bls.test" =
      .ok ⟨[], [], [], none, "bls.test/".toList, none, none⟩ := by
    decide +kernel
  have hclient := Agent.client_of_base hbase default
  have hbuild : Agent.build ⟨[], [], [], none, "bls.test/".toList, none, none⟩ "/x"
      "application/json" = .ok ⟨"bls.test/x", "application/json"⟩ := by
    decide +kernel
  have horigin : Agent.originProblem? "bls.test/x".toList =
      some (.unnamed "bls.test/x".toList) := by
    decide +kernel
  have hfault : Agent.originFault (.unnamed "bls.test/x".toList) =
      ⟨"unknown origin", "unknown url type: 'bls.test/x'"⟩ := by
    decide +kernel
  have hsend : Agent.send (fun _ => .ok (Agent.answer 200 "\"x\""))
      ⟨"bls.test/x", "application/json"⟩ = ⟨[⟨"bls.test/x", "application/json"⟩],
        .error ⟨"unknown origin", "unknown url type: 'bls.test/x'"⟩⟩ := by
    rw [Agent.send_of_problem rfl horigin, hfault]
  obtain ⟨hrequests, hresult⟩ := sampleEnd_of_fault
    (Agent.clientFor ⟨[], [], [], none, "bls.test/".toList, none, none⟩) hbuild hsend
  obtain ⟨hnone, hrefused⟩ := sampleEnd_of_fault
    (Agent.closedClientFor ⟨[], [], [], none, "bls.test/".toList, none, none⟩) hbuild rfl
  exact ⟨_, _, hclient, Agent.sendsOnce_clientFor _, json_answer_sample,
    Expectation.sample_written rfl, hbuild, hrequests, hresult, hbuild, hnone, hrefused⟩

end UrlCase

end Golden

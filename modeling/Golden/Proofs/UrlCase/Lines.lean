/-
  Golden.Proofs.UrlCase.Lines
  ────────────────────────────────
  **A LOG LINE BEARS ITS SNAPSHOT JUST IF NAMES AND URL HOLD NO PERCENT SIGN.**

  A URL case logs its request with the URL, and then what its comparison logs;
  each of these events has words of its own.  The line of such a record is

      category=… test=… url=… | ⟨words⟩      just if no percent sign is in category, test or URL

  and if there are percent signs the record has a line only where all of them
  stand in pairs, of which the line shows one each.  A URL with a space or a
  quote in it is written with percent signs, so its record has no line.
-/
import Golden.Proofs.Expectation.Logged
import Golden.Proofs.Log.Percent
import Golden.Proofs.UrlCase.Refines

namespace Golden

/-! ## §1. The words of an event. -/

/-- What the events about a snapshot say: their own text with their arguments in it. -/
inductive Says : Log.Event → String → Prop
  | requests (accept : String) : Says (UrlCase.requestEvent accept) ("GET Accept=" ++ accept)
  | matched (path : Path) : Says (matchesEvent path) ("response matches " ++ path.text)
  | differs (path : Path) (count : Nat) : Says (differsEvent path count)
      ("response differs from " ++ path.text ++ " (" ++ Decimal.intText count ++ " differences)")
  | saved (path : Path) : Says (savedEvent path) ("saved new response to " ++ path.text)
  | missing (path : Path) : Says (missingEvent path) ("no saved response at " ++ path.text)

/-- Filling the pattern of an event gives what the event says. -/
theorem Says.fill {event : Log.Event} {words : String} (h : Says event words) :
    event.args ≠ [] ∧ Log.fill event.pattern event.args = .ok words := by
  cases h with
  | requests accept =>
      exact ⟨List.cons_ne_nil _ _,
        Log.fill_lead_argument "GET Accept=" (.text accept) (by decide)⟩
  | matched path =>
      exact ⟨List.cons_ne_nil _ _,
        Log.fill_lead_argument "response matches " (.path path) (by decide)⟩
  | saved path =>
      exact ⟨List.cons_ne_nil _ _,
        Log.fill_lead_argument "saved new response to " (.path path) (by decide)⟩
  | missing path =>
      exact ⟨List.cons_ne_nil _ _,
        Log.fill_lead_argument "no saved response at " (.path path) (by decide)⟩
  | differs path count =>
      -- Two arguments, so the pattern is read from behind.
      have hend := Log.fill_append_plain " differences)" (by decide) Log.fill_empty
      have hcount := Log.fill_append_plain " (" (by decide)
        (Log.fill_append_count count hend)
      have hpath := Log.fill_append_plain "response differs from " (by decide)
        (Log.fill_append_argument (.path path) hcount)
      refine ⟨List.cons_ne_nil _ _, hpath.trans (congrArg Except.ok ?_)⟩
      simp only [String.append_assoc, String.append_empty]
      rfl

/-! ## §2. A fetch in the log. -/

theorem Http.silent_get {subject : Log.Subject} (client : Client) (url accept : String)
    (transport : Transport) : Run.Silent subject (get client url accept transport) := by
  refine Run.Tells.bind (Run.silent_ofExcept (fun _ => rfl) _) (fun request => ?_)
  have hsent : Run.Silent subject (Run.noteSent (client.send transport request).sent) :=
    fun w => (List.append_nil w.log).symm
  exact Run.Tells.bind hsent (fun _ => Run.silent_ofExcept (fun _ => rfl) _)

theorem Http.silent_fetch {subject : Log.Subject} (client : Client) (url accept : String)
    (transport : Transport) : Run.Silent subject (fetch client url accept transport) := by
  refine Run.Tells.bind (silent_get client url accept transport) (fun response => ?_)
  by_cases hstatus : response.status ≠ okStatus
  · rw [if_pos hstatus]
    exact Run.tells_log_throw _ rfl
  · rw [if_neg hstatus]
    exact Run.silent_ofExcept (fun _ => rfl) _

namespace UrlCase

section Cases

variable (library : Http.Library) (c : UrlCase) (x : Context) (transport : Http.Transport)

theorem silent_fetchWith {subject : Log.Subject} :
    Run.Silent subject (c.fetchWith library x transport) := by
  unfold fetchWith
  cases x.client with
  | some http => exact Http.silent_fetch http c.url c.accept transport
  | none =>
      have hsettings : Run.Silent subject (settingsOr x.settings) := by
        cases x.settings with
        | some s => exact Run.silent_pure s
        | none => exact Run.silent_settings
      refine Run.Tells.bind hsettings (fun s => ?_)
      refine Run.Tells.bind (Run.silent_ofExcept (fun _ => rfl) _) (fun own => ?_)
      exact (Http.silent_fetch own c.url c.accept transport).closing

/-! ## §3. A case in the log. -/

/-- A fetch leaves tree and environment as they are. -/
theorem fetchWith_leaves (w : World) :
    ∃ log requests closed, (Run.outcome (c.fetchWith library x transport) w).2 =
      { w with log := log, requests := requests, closed := closed } := by
  cases hexchange :
      exchangeOf library x.client x.settings w.environment c.url c.accept transport with
  | error f =>
      rw [outcome_fetchWith_of_error hexchange]
      exact ⟨_, _, _, rfl⟩
  | ok exchange =>
      obtain ⟨log, hfetch⟩ := outcome_fetchWith_of_ok hexchange
      rw [hfetch]
      exact ⟨_, _, _, rfl⟩

/-- Where the snapshot of a case is. -/
def locationIn (c : UrlCase) (x : Context) (w : World) : Except Failure Path :=
  (c.expectation x .null).locationIn w

/-- **The log after a case is the log before it, then its request with the URL, then the records of
its end without it.** -/
theorem log_check (w : World) (hprint : (c.category.isPrintable && c.test.isPrintable) = true) :
    ∃ path, (∀ outcome, (Run.outcome (c.check library x transport) w).1 = .ok outcome →
        c.locationIn x w = .ok path) ∧
      (Run.outcome (c.check library x transport) w).2.log = w.log ++ (c.requestRecord ::
        endRecords ⟨c.category.plain, c.test.plain, none⟩ path
          (Run.outcome (c.check library x transport) w).1) := by
  have hsilent : Run.Silent ⟨c.category.plain, c.test.plain, none⟩
      (c.fetchWith library x transport) :=
    silent_fetchWith library c x transport
  have hfetch := hsilent { w with log := w.log ++ [c.requestRecord] }
  obtain ⟨log, requests, closed, hleft⟩ :=
    fetchWith_leaves library c x transport { w with log := w.log ++ [c.requestRecord] }
  rw [outcome_check hprint]
  generalize Run.outcome (c.fetchWith library x transport) _ = ended at hfetch hleft ⊢
  obtain ⟨result, u⟩ := ended
  obtain rfl : u = { w with log := log, requests := requests, closed := closed } := hleft
  cases result with
  | error f =>
      refine ⟨default, fun _ h => (by cases h), hfetch.trans ?_⟩
      exact List.append_assoc w.log [c.requestRecord] _
  | ok body =>
      obtain ⟨path, hpath, hlog⟩ := (c.expectation x body).log_check
        { w with log := log, requests := requests, closed := closed }
      refine ⟨path, hpath, hlog.trans ?_⟩
      have hrequested : log = w.log ++ [c.requestRecord] := hfetch.trans (List.append_nil _)
      rw [hrequested]
      exact List.append_assoc w.log [c.requestRecord] _

end Cases

/-! ## §4. Lines. -/

/-- **What the log says about a snapshot, and when it says it with the snapshot in front.**  A
comparison logs its end, and a case its request and then the end of its comparison; each of these
records has the line that its snapshot and its words make just if no percent sign is in category,
test or URL.  Where there are some it has a line only if all of them stand in pairs, and the line
then shows one of each pair. -/
theorem lines_prefixed_iff (category test : String) :
    (∀ (response : Value) (removeParameters : Bool) (store : Option Store) (policy : Value)
      (w : World),
      let e : Expectation :=
        ⟨.text category, .text test, response, removeParameters, store, policy⟩
      let ended := Run.outcome e.check w
      ∃ path, (∀ outcome, ended.1 = .ok outcome → e.locationIn w = .ok path) ∧
        ended.2.log = w.log ++ endRecords ⟨category, test, none⟩ path ended.1) ∧
    (∀ (library : Http.Library) (url accept : String) (x : Context) (transport : Http.Transport)
      (w : World),
      let c : UrlCase := ⟨.text category, .text test, url, accept⟩
      let ended := Run.outcome (c.check library x transport) w
      ∃ path, (∀ outcome, ended.1 = .ok outcome → c.locationIn x w = .ok path) ∧
        ended.2.log = w.log ++
          (Log.Subject.record ⟨category, test, some url⟩ (requestEvent accept) ::
            endRecords ⟨category, test, none⟩ path ended.1)) ∧
    ∀ (url : Option String) (event : Log.Event) (words : String), Says event words →
      let header := "category=" ++ category ++ " test=" ++ test ++
        match url with
        | some url => " url=" ++ url
        | none => ""
      let text := (Log.Subject.record ⟨category, test, url⟩ event).text
      (text = .ok (header ++ " | " ++ words) ↔
          '%' ∉ category.toList ∧ '%' ∉ test.toList ∧ ∀ u ∈ url, '%' ∉ u.toList) ∧
        ∀ line, text = .ok line ↔
          ∃ plain : String, header.toList = Log.doubled plain.toList ∧
            line = plain ++ " | " ++ words := by
  refine ⟨fun response removeParameters store policy w => ?_,
    fun library url accept x transport w => ?_, fun url event words hsays => ?_⟩
  · exact Expectation.log_check _ w
  · exact log_check library ⟨.text category, .text test, url, accept⟩ x transport w rfl
  · obtain ⟨hargs, hwords⟩ := hsays.fill
    intro header text
    refine ⟨?_, fun line => Log.text_record_eq_ok_iff hargs hwords⟩
    exact (Log.text_record_header_iff hargs hwords).trans Log.percent_notMem_header

/-- The line of a response that is written. -/
theorem lines_prefixed_iff_written :
    ∃ record, (Run.outcome (Expectation.sample (.text "a")).check bareWorld).2.log = [record] ∧
      record.text =
        .ok "category=hits test=all | saved new response to /snapshots/hits/all.json" := by
  obtain ⟨hcheck, -, hline⟩ := lines_prefixed_iff "hits" "all"
  obtain ⟨path, hpath, hlog⟩ := hcheck (.text "a") false (some ⟨⟨.root, ["snapshots"]⟩⟩)
    (.text Policy.writeIfMissing.word) bareWorld
  have hwritten : (Run.outcome (Expectation.sample (.text "a")).check bareWorld).1 =
      .ok .written := Expectation.sample_written rfl
  have hlocation := Store.outcome_locationOf Expectation.fresh_sample.linkFree
    rfl (.text "hits") (.text "all")
  rw [Store.outcome_locationOf_eq] at hlocation
  rw [Store.fileNameOf_hits, Store.fileNameOf_all] at hlocation
  obtain rfl : path = ⟨.root, ["snapshots", "hits", "all.json"]⟩ :=
    Except.ok.inj ((hpath _ hwritten).symm.trans (Prod.mk.inj hlocation).1)
  refine ⟨_, hlog.trans (congrArg (endRecords _ _) hwritten), ?_⟩
  exact (hline none _ _ (.saved _)).1.mpr (by decide)

/-- **A URL that writes quotes with percent signs leaves its request without a line.** -/
theorem request_quoted_lineless :
    ∃ record rest,
      (Run.outcome (check Agent.library
          ⟨.text "hits", .text "all", "/hits?patt=%22dog%22", "application/json"⟩
          ⟨none, some ⟨⟨.root, ["snapshots"]⟩⟩, .text Policy.writeIfMissing.word, none⟩
          (fun _ => .ok (Agent.answer 200 "1"))) bareWorld).2.log = record :: rest ∧
        record.text = .error .mismatched := by
  obtain ⟨path, -, hlog⟩ := log_check Agent.library
    ⟨.text "hits", .text "all", "/hits?patt=%22dog%22", "application/json"⟩
    ⟨none, some ⟨⟨.root, ["snapshots"]⟩⟩, .text Policy.writeIfMissing.word, none⟩
    (fun _ => .ok (Agent.answer 200 "1")) bareWorld rfl
  exact ⟨_, _, hlog, by decide +kernel⟩

end UrlCase

end Golden

/-
  Golden.Proofs.Expectation.Quiet
  ────────────────────────────────
  **A COMPARISON DOES NOT ASK WHAT HAPPENED BEFORE.**

  An operation is quiet when what it gives and what it makes of the volume are
  decided by volume, working directory and environment, and when it adds to the
  log, sends nothing and closes nothing, whatever was logged, sent and closed
  before:

      outcome op ⟨tree, log, sent, closed⟩  =  (result, ⟨tree', log ++ records, sent, closed⟩)

  Quiet operations one after the other are quiet.  A comparison is made of quiet
  steps, so it comes to the same in two worlds that have the same tree and the
  same environment.
-/
import Golden.Proofs.Expectation.Harmless

namespace Golden

/-! ## §1. Quiet operations. -/

namespace Run

variable {α β : Type}

/-- Whether an operation heeds nothing of what happened before, and only adds to the log. -/
def Quiet (op : Run α) : Prop :=
  ∀ volume home environment, ∃ result after records, ∀ log requests closed,
    outcome op ⟨volume, home, environment, log, requests, closed⟩ =
      (result, ⟨after, home, environment, log ++ records, requests, closed⟩)

/-- An operation that only looks, at volume, working directory and environment, is quiet. -/
theorem Quiet.of_still {op : Run α} {g : Volume → Location → Environment → Except Failure α}
    (h : ∀ w, outcome op w = (g w.volume w.home w.environment, w)) : Quiet op := by
  intro volume home environment
  refine ⟨g volume home environment, volume, [], fun log requests closed => ?_⟩
  rw [h, List.append_nil]

theorem Quiet.bind {x : Run α} {f : α → Run β} (hx : Quiet x) (hf : ∀ a, Quiet (f a)) :
    Quiet (x >>= f) := by
  intro volume home environment
  obtain ⟨result, v, records, hfirst⟩ := hx volume home environment
  cases result with
  | error e =>
      refine ⟨.error e, v, records, fun log requests closed => ?_⟩
      exact outcome_bind_of_error (hfirst log requests closed) f
  | ok a =>
      obtain ⟨result, after, more, hsecond⟩ := hf a v home environment
      refine ⟨result, after, records ++ more, fun log requests closed => ?_⟩
      rw [outcome_bind_of_ok (hfirst log requests closed), hsecond, List.append_assoc]

theorem quiet_pure (a : α) : Quiet (pure a : Run α) :=
  Quiet.of_still (g := fun _ _ _ => .ok a) (fun _ => rfl)

theorem quiet_throw (f : Failure) : Quiet (throw f : Run α) :=
  Quiet.of_still (g := fun _ _ _ => .error f) (fun _ => rfl)

theorem quiet_ofExcept {ε : Type} (cause : ε → Failure) (x : Except ε α) :
    Quiet (ofExcept cause x) :=
  Quiet.of_still (g := fun _ _ _ => x.mapError cause) (fun w => outcome_ofExcept w cause x)

theorem quiet_volume : Quiet volume := Quiet.of_still (g := fun v _ _ => .ok v) outcome_volume

theorem quiet_setVolume (v : Volume) : Quiet (setVolume v) := by
  intro volume home environment
  refine ⟨.ok (), v, [], fun log requests closed => ?_⟩
  rw [outcome_setVolume, List.append_nil]

theorem quiet_log (r : Log.Record) : Quiet (log r) := by
  intro volume home environment
  exact ⟨.ok (), volume, [r], fun log requests closed => rfl⟩

/-- **A quiet operation comes to the same in worlds with the same tree and environment.** -/
theorem Quiet.outcome_eq {op : Run α} (h : Quiet op) {u w : World} (htree : u.SameTree w)
    (henvironment : u.environment = w.environment) :
    (outcome op u).1 = (outcome op w).1 ∧ (outcome op u).2.SameTree (outcome op w).2 ∧
      (outcome op u).2.requests = u.requests ∧ (outcome op u).2.closed = u.closed := by
  obtain ⟨volume, home, environment, log, requests, closed⟩ := w
  obtain ⟨volume', home', environment', log', requests', closed'⟩ := u
  obtain ⟨rfl, rfl⟩ : volume' = volume ∧ home' = home := htree
  obtain rfl : environment' = environment := henvironment
  obtain ⟨result, after, records, heq⟩ := h volume' home' environment'
  rw [heq, heq]
  exact ⟨rfl, ⟨rfl, rfl⟩, rfl, rfl⟩

end Run

/-! ## §2. Stores. -/

namespace Store

variable (store : Store) (category test : Value)

theorem quiet_directoryOf : Run.Quiet (store.directoryOf category) :=
  Run.Quiet.of_still (g := fun v home _ => store.directoryIn v home category)
    (fun w => outcome_directoryOf_eq store w category)

theorem quiet_locationOf : Run.Quiet (store.locationOf category test) :=
  Run.Quiet.of_still (g := fun v home _ => store.locationIn v home category test)
    (fun w => outcome_locationOf_eq store w category test)

theorem quiet_isFile (path : Path) : Run.Quiet (isFile path) :=
  Run.Quiet.of_still (g := fun v _ _ => (v.isFile path.names).mapError (.access · path))
    (fun w => outcome_isFile_eq w path)

theorem quiet_load : Run.Quiet (store.load category test) := by
  refine (store.quiet_locationOf category test).bind (fun path => ?_)
  refine Run.quiet_volume.bind (fun volume => ?_)
  exact (Run.quiet_ofExcept _ _).bind (fun bytes => Run.quiet_ofExcept _ _)

theorem quiet_ensureDirectoryOf : Run.Quiet (store.ensureDirectoryOf category) := by
  refine (store.quiet_directoryOf category).bind (fun directory => ?_)
  refine Run.quiet_volume.bind (fun volume => ?_)
  refine (Run.quiet_setVolume _).bind (fun _ => ?_)
  exact (Run.quiet_ofExcept _ _).bind (fun _ => Run.quiet_pure directory)

theorem quiet_save (x : Value) : Run.Quiet (store.save category test x) := by
  refine (store.quiet_ensureDirectoryOf category).bind (fun _ => ?_)
  refine (store.quiet_locationOf category test).bind (fun path => ?_)
  refine (Run.quiet_ofExcept _ _).bind (fun bytes => ?_)
  refine Run.quiet_volume.bind (fun volume => ?_)
  refine (Run.quiet_ofExcept _ _).bind (fun after => ?_)
  exact (Run.quiet_setVolume after).bind (fun _ => Run.quiet_pure path)

end Store

/-! ## §3. Comparisons. -/

theorem quiet_subjectOf (category test : Value) (url : Option String) :
    Run.Quiet (subjectOf category test url) := by
  unfold subjectOf
  split
  · exact Run.quiet_pure _
  · exact Run.quiet_throw _

theorem quiet_effectivePolicy (policy : Value) : Run.Quiet (effectivePolicy policy) := by
  unfold effectivePolicy
  split
  · exact Run.Quiet.of_still (g := fun _ _ environment => .ok (Environment.policy environment))
      (fun _ => rfl)
  · split
    · exact Run.quiet_pure _
    · split
      · exact Run.quiet_throw _
      · exact Run.quiet_throw _

namespace Expectation

variable (e : Expectation)

theorem quiet_storeOr : Run.Quiet (storeOr e.store) :=
  Run.Quiet.of_still (g := fun _ _ environment => e.storeIn environment) (outcome_storeOr e)

theorem quiet_compareAt (subject : Log.Subject) (store : Store) (path : Path) (cleaned : Value) :
    Run.Quiet (e.compareAt subject store path cleaned) := by
  refine (store.quiet_load e.category e.test).bind (fun saved => ?_)
  split
  · exact Run.quiet_throw _
  · exact (Run.quiet_log _).bind (fun _ => Run.quiet_pure _)
  · exact (Run.quiet_log _).bind (fun _ => Run.quiet_throw _)

theorem quiet_settleMissing (subject : Log.Subject) (store : Store) (path : Path)
    (cleaned : Value) : Run.Quiet (e.settleMissing subject store path cleaned) := by
  refine (quiet_effectivePolicy e.policy).bind (fun policy => ?_)
  cases policy with
  | writeIfMissing =>
      refine (store.quiet_save e.category e.test cleaned).bind (fun _ => ?_)
      exact (Run.quiet_log _).bind (fun _ => Run.quiet_pure _)
  | compareOnly => exact (Run.quiet_log _).bind (fun _ => Run.quiet_throw _)

/-- **A comparison is quiet.** -/
theorem quiet_check : Run.Quiet e.check := by
  refine (quiet_subjectOf e.category e.test none).bind (fun subject => ?_)
  refine e.quiet_storeOr.bind (fun store => ?_)
  refine (store.quiet_ensureDirectoryOf e.category).bind (fun _ => ?_)
  refine (store.quiet_locationOf e.category e.test).bind (fun path => ?_)
  refine (Store.quiet_isFile path).bind (fun there => ?_)
  split
  · exact e.quiet_compareAt subject store path _
  · exact e.quiet_settleMissing subject store path _

end Expectation

end Golden

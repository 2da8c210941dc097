/-
  Golden.Proofs.Expectation.Logged
  ────────────────────────────────
  **THE END OF A COMPARISON IS IN THE LOG.**

  A comparison logs at most once, and what it logs about its snapshot is decided
  by how it ends:

      matched      response matches ⟨path⟩
      written      saved new response to ⟨path⟩
      a mismatch   response differs from ⟨path⟩ (⟨count⟩ differences)
      missing      no saved response at ⟨path⟩
      else         nothing

  The path of an outcome is the location that the snapshot had beforehand.  So
  the log is the same as before with the records of the end behind it.
-/
import Golden.Http.Exchange
import Golden.Proofs.Expectation.Harmless
import Golden.Proofs.Store.Contained

namespace Golden

/-! ## §1. The records of an end. -/

/-- The event of an outcome, for the path of the snapshot. -/
def Outcome.event (path : Path) : Outcome → Log.Event
  | .matched => matchesEvent path
  | .written => savedEvent path

/-- The records that stand in the log where a failure has ended an operation on a snapshot. -/
def Failure.records (subject : Log.Subject) : Failure → List Log.Record
  | .mismatch m => [subject.record (differsEvent m.path m.differences.length)]
  | .missing m => [subject.record (missingEvent m.path)]
  | .status s => [(Http.statusEvent s.url s.status).record]
  | _ => []

/-- The records of an end, for the path of the snapshot. -/
def endRecords (subject : Log.Subject) (path : Path) : Except Failure Outcome → List Log.Record
  | .ok outcome => [subject.record (outcome.event path)]
  | .error f => f.records subject

/-! ## §2. Operations that log their end. -/

namespace Run

variable {α β : Type} {subject : Log.Subject}

/-- Whether an operation adds to the log what goes with its end. -/
def Tells (subject : Log.Subject) (told : α → List Log.Record) (op : Run α) : Prop :=
  ∀ w, (outcome op w).2.log = w.log ++ match (outcome op w).1 with
    | .ok a => told a
    | .error f => f.records subject

/-- Whether an operation adds nothing to the log unless it fails with a failure that does. -/
def Silent (subject : Log.Subject) (op : Run α) : Prop := Tells subject (fun _ => []) op

/-- What follows a silent operation tells for both. -/
theorem Tells.bind {x : Run α} {f : α → Run β} {told : β → List Log.Record}
    (hx : Silent subject x) (hf : ∀ a, Tells subject told (f a)) : Tells subject told (x >>= f) := by
  intro w
  have hfirst := hx w
  rw [outcome_bind]
  generalize outcome x w = ended at hfirst ⊢
  obtain ⟨result, u⟩ := ended
  cases result with
  | error e => exact hfirst
  | ok a =>
      have hlog : u.log = w.log := hfirst.trans (List.append_nil w.log)
      rw [← hlog]
      exact hf a u

/-- An operation that leaves the world as it is is silent where its failures are. -/
theorem silent_of_still {op : Run α} {r : World → Except Failure α}
    (h : ∀ w, outcome op w = (r w, w)) (hr : ∀ w f, r w = .error f → f.records subject = []) :
    Silent subject op := by
  intro w
  rw [h]
  simp only
  cases hresult : r w with
  | ok a => exact (List.append_nil w.log).symm
  | error f =>
      simp only
      rw [hr w f hresult, List.append_nil]

theorem silent_pure (a : α) : Silent subject (pure a : Run α) :=
  silent_of_still (r := fun _ => .ok a) (fun _ => rfl) (fun _ _ h => by cases h)

theorem silent_throw {f : Failure} (hf : f.records subject = []) :
    Silent subject (throw f : Run α) :=
  silent_of_still (r := fun _ => .error f) (fun _ => rfl) (fun _ _ h => Except.error.inj h ▸ hf)

theorem silent_volume : Silent subject volume :=
  silent_of_still (r := fun w => .ok w.volume) outcome_volume (fun _ _ h => by cases h)

theorem silent_setVolume (v : Volume) : Silent subject (setVolume v) :=
  fun w => (List.append_nil w.log).symm

/-- A calculation is silent where the causes of its failures are. -/
theorem silent_ofExcept {ε : Type} {cause : ε → Failure}
    (hcause : ∀ e, (cause e).records subject = []) (x : Except ε α) :
    Silent subject (ofExcept cause x) := by
  cases x with
  | ok a => exact silent_pure a
  | error e => exact silent_throw (hcause e)

theorem silent_settings : Silent subject settings :=
  Tells.bind (silent_of_still (r := fun w => .ok w.environment) (fun _ => rfl)
    (fun _ _ h => by cases h)) (fun _ => silent_ofExcept (fun _ => rfl) _)

/-- A record that is logged last is told by a value. -/
theorem tells_log_pure (told : α → List Log.Record) (a : α) {r : Log.Record} (h : told a = [r]) :
    Tells subject told (do log r; pure a) := by
  intro w
  show w.log ++ [r] = w.log ++ told a
  rw [h]

/-- A record that is logged last is told by a failure. -/
theorem tells_log_throw (told : α → List Log.Record) {f : Failure} {r : Log.Record}
    (h : f.records subject = [r]) : Tells subject told (do log r; throw f) := by
  intro w
  show w.log ++ [r] = w.log ++ f.records subject
  rw [h]

/-- Closing a client logs nothing. -/
theorem Tells.closing {op : Run α} {told : α → List Log.Record} (h : Tells subject told op) :
    Tells subject told (closing op) := by
  intro w
  have hclosing : outcome (Run.closing op) w = ((outcome op w).1,
      { (outcome op w).2 with closed := (outcome op w).2.closed ++ [true] }) := rfl
  rw [hclosing]
  exact h w

end Run

/-! ## §3. Stores. -/

theorem records_fileNameOf {subject : Log.Subject} {template : String} {limit : Int} {name : Value}
    {f : Failure} (h : fileNameOf template limit name = .error f) : f.records subject = [] := by
  unfold fileNameOf at h
  split at h
  · cases h
    rfl
  · split at h
    · cases h
      rfl
    · split at h
      · cases h
        rfl
      · cases h

theorem silent_fileNameOf {subject : Log.Subject} (template : String) (limit : Int) (name : Value) :
    Run.Silent subject (Run.ofExcept id (fileNameOf template limit name)) :=
  Run.silent_of_still (fun w => Store.outcome_fileName w template limit name)
    (fun _ _ h => records_fileNameOf h)

namespace Store

variable {subject : Log.Subject} (store : Store) (category test : Value)

theorem silent_resolve (p : Path) : Run.Silent subject (resolve p) :=
  Run.Tells.bind (Run.silent_of_still (r := fun w => .ok w) Run.outcome_get
    (fun _ _ h => by cases h)) (fun _ => Run.silent_ofExcept (fun _ => rfl) _)

theorem silent_directoryOf : Run.Silent subject (store.directoryOf category) := by
  refine Run.Tells.bind (silent_resolve _) (fun root => ?_)
  refine Run.Tells.bind (silent_fileNameOf _ _ _) (fun name => ?_)
  refine Run.Tells.bind (silent_resolve _) (fun directory => ?_)
  split
  · exact Run.silent_pure _
  · exact Run.silent_throw rfl

theorem silent_locationOf : Run.Silent subject (store.locationOf category test) := by
  refine Run.Tells.bind (store.silent_directoryOf category) (fun directory => ?_)
  refine Run.Tells.bind (silent_fileNameOf _ _ _) (fun name => ?_)
  refine Run.Tells.bind (silent_resolve _) (fun path => ?_)
  split
  · exact Run.silent_pure _
  · exact Run.silent_throw rfl

theorem silent_ensureDirectoryOf : Run.Silent subject (store.ensureDirectoryOf category) := by
  refine Run.Tells.bind (store.silent_directoryOf category) (fun directory => ?_)
  refine Run.Tells.bind Run.silent_volume (fun volume => ?_)
  refine Run.Tells.bind (Run.silent_setVolume _) (fun _ => ?_)
  exact Run.Tells.bind (Run.silent_ofExcept (fun _ => rfl) _) (fun _ => Run.silent_pure _)

theorem silent_isFile (path : Path) : Run.Silent subject (isFile path) :=
  Run.Tells.bind Run.silent_volume (fun _ => Run.silent_ofExcept (fun _ => rfl) _)

theorem silent_decode (bytes : List UInt8) :
    Run.Silent subject (Run.ofExcept id (decode bytes)) := by
  unfold decode
  split
  · exact Run.silent_throw rfl
  · cases Json.read (Text.Utf8.unifyLineEnds _) with
    | ok v => exact Run.silent_pure v
    | error u => exact Run.silent_throw rfl

theorem silent_encode (v : Value) : Run.Silent subject (Run.ofExcept id (encode v)) := by
  unfold encode
  cases (Json.write v).map Text.Utf8.encode with
  | ok bytes => exact Run.silent_pure bytes
  | error r => exact Run.silent_throw rfl

theorem silent_load : Run.Silent subject (store.load category test) := by
  refine Run.Tells.bind (store.silent_locationOf category test) (fun path => ?_)
  refine Run.Tells.bind Run.silent_volume (fun volume => ?_)
  exact Run.Tells.bind (Run.silent_ofExcept (fun _ => rfl) _) (fun bytes => silent_decode bytes)

theorem silent_save (x : Value) : Run.Silent subject (store.save category test x) := by
  refine Run.Tells.bind (store.silent_ensureDirectoryOf category) (fun _ => ?_)
  refine Run.Tells.bind (store.silent_locationOf category test) (fun path => ?_)
  refine Run.Tells.bind (silent_encode x) (fun bytes => ?_)
  refine Run.Tells.bind Run.silent_volume (fun volume => ?_)
  refine Run.Tells.bind (Run.silent_ofExcept (fun _ => rfl) _) (fun after => ?_)
  exact Run.Tells.bind (Run.silent_setVolume after) (fun _ => Run.silent_pure path)

end Store

/-! ## §4. Comparisons. -/

theorem silent_effectivePolicy {subject : Log.Subject} (policy : Value) :
    Run.Silent subject (effectivePolicy policy) := by
  unfold effectivePolicy
  split
  · exact Run.silent_of_still (r := fun w => .ok (Environment.policy w.environment))
      (fun _ => rfl) (fun _ _ h => by cases h)
  · split
    · exact Run.silent_pure _
    · split
      · exact Run.silent_throw rfl
      · exact Run.silent_throw rfl

namespace Expectation

variable (e : Expectation) (subject : Log.Subject) (store : Store) (path : Path) (cleaned : Value)

theorem tells_compareAt : Run.Tells subject (fun outcome => [subject.record (outcome.event path)])
    (e.compareAt subject store path cleaned) := by
  refine Run.Tells.bind (store.silent_load e.category e.test) (fun saved => ?_)
  split
  · exact fun w => (List.append_nil w.log).symm
  · exact Run.tells_log_pure _ _ rfl
  · exact Run.tells_log_throw _ rfl

theorem tells_settleMissing :
    Run.Tells subject (fun outcome => [subject.record (outcome.event path)])
      (e.settleMissing subject store path cleaned) := by
  refine Run.Tells.bind (silent_effectivePolicy e.policy) (fun policy => ?_)
  cases policy with
  | writeIfMissing =>
      refine Run.Tells.bind (store.silent_save e.category e.test cleaned) (fun _ => ?_)
      exact Run.tells_log_pure _ _ rfl
  | compareOnly => exact Run.tells_log_throw _ rfl

theorem tells_finish :
    Run.Tells e.subject (fun outcome => [e.subject.record (outcome.event path)])
      (e.finish store path) := by
  refine Run.Tells.bind (Store.silent_isFile path) (fun there => ?_)
  cases there with
  | true => exact e.tells_compareAt e.subject store path e.cleaned
  | false => exact e.tells_settleMissing e.subject store path e.cleaned

/-- The location of the snapshot of a comparison. -/
def locationIn (w : World) : Except Failure Path := do
  let store ← e.storeIn w.environment
  store.locationIn w.volume w.home e.category e.test

variable {e} {w : World} {store}

/-- Without a store nothing is logged. -/
theorem records_storeIn {f : Failure} (hstore : e.storeIn w.environment = .error f) :
    f.records e.subject = [] := by
  unfold storeIn at hstore
  split at hstore
  · cases hstore
  · cases hsettings : Settings.ofEnvironment w.environment with
    | ok settings =>
        rw [hsettings] at hstore
        cases hstore
    | error problem =>
        rw [hsettings] at hstore
        cases hstore
        rfl

/-- At the location of the snapshot the end is logged. -/
theorem log_finish (path : Path) (w : World) : (Run.outcome (e.finish store path) w).2.log =
    w.log ++ endRecords e.subject path (Run.outcome (e.finish store path) w).1 := by
  have hfinish := e.tells_finish store path w
  generalize Run.outcome (e.finish store path) w = ended at hfinish ⊢
  obtain ⟨result, u⟩ := ended
  cases result with
  | ok outcome => exact hfinish
  | error f => exact hfinish

/-- With a store, what comes before the snapshot logs nothing and moves no location. -/
theorem log_check_of_store (hprint : (e.category.isPrintable && e.test.isPrintable) = true)
    (hstore : e.storeIn w.environment = .ok store) :
    ∃ path, (∀ outcome, (Run.outcome e.check w).1 = .ok outcome → e.locationIn w = .ok path) ∧
      (Run.outcome e.check w).2.log =
        w.log ++ endRecords e.subject path (Run.outcome e.check w).1 := by
  have hensure : Run.Silent e.subject (store.ensureDirectoryOf e.category) :=
    store.silent_ensureDirectoryOf e.category
  have hmade := hensure w
  obtain ⟨v, hv, hgrows, -⟩ := Store.ensureDirectoryOf_leaves store e.category w
  rw [outcome_check_of_store hprint hstore, Run.outcome_bind]
  generalize Run.outcome (store.ensureDirectoryOf e.category) w = ended at hmade hv ⊢
  obtain ⟨made, u⟩ := ended
  obtain rfl : u = { w with volume := v } := hv
  cases made with
  | error f => exact ⟨default, fun _ h => (by cases h), hmade⟩
  | ok d =>
      have hlocate : Run.Silent e.subject (store.locationOf e.category e.test) :=
        store.silent_locationOf e.category e.test
      have hlocated := hlocate { w with volume := v }
      rw [Store.outcome_locationOf_eq] at hlocated
      simp only at hlocated ⊢
      rw [Run.outcome_bind, Store.outcome_locationOf_eq]
      cases hlocation : store.locationIn v w.home e.category e.test with
      | error f =>
          rw [hlocation] at hlocated
          exact ⟨default, fun _ h => (by cases h), hlocated⟩
      | ok path =>
          refine ⟨path, fun _ _ => ?_, log_finish path { w with volume := v }⟩
          unfold locationIn
          rw [hstore, ok_bind]
          exact Store.locationIn_before hgrows hlocation

/-- **The log after a comparison is the log before it, and then the records of its end.** -/
theorem log_check (e : Expectation) (w : World) :
    ∃ path, (∀ outcome, (Run.outcome e.check w).1 = .ok outcome → e.locationIn w = .ok path) ∧
      (Run.outcome e.check w).2.log =
        w.log ++ endRecords e.subject path (Run.outcome e.check w).1 := by
  cases hprint : (e.category.isPrintable && e.test.isPrintable) with
  | false =>
      rw [outcome_check_of_unprintable hprint]
      exact ⟨default, fun _ h => (by cases h), (List.append_nil w.log).symm⟩
  | true =>
      cases hstore : e.storeIn w.environment with
      | error f =>
          rw [outcome_check_of_noStore hprint hstore]
          refine ⟨default, fun _ h => (by cases h), ?_⟩
          show w.log = w.log ++ f.records e.subject
          rw [records_storeIn hstore, List.append_nil]
      | ok store => exact log_check_of_store hprint hstore

end Expectation

end Golden

/-
  Golden.Proofs.Expectation.Ledger
  ────────────────────────────────
  **A STORE IS A LEDGER.**

  A ledger binds values to pairs of names, each pair at most once.  It answers
  a call from its own bindings alone: an unbound pair is bound or missed, as
  the policy says, a bound one is compared and never bound again.  A store
  that is not there yet, used by comparisons and by nothing else, answers every
  sequence of calls as the empty ledger does:

      checks store calls   ≙   answers calls ∅

  The tree `Keeps` the ledger: at each step there stands, in each snapshot's
  location, the bound value as a file, or nothing.  Beside the files of bound
  values only directories have been added, each on the way to a snapshot.  Where
  the root cannot be a path, or a location is too long for the volume, the call
  fails with that and the ledger stays.
-/
import Golden.Proofs.Expectation.Outcomes

namespace Golden

/-! ## §1. Ledgers. -/

/-- The values bound to pairs of names. -/
abbrev Ledger := String → String → Option Value

namespace Ledger

/-- Nothing is bound. -/
def empty : Ledger := fun _ _ => none

/-- Bind a value to a pair of names. -/
def bind (l : Ledger) (c t : String) (v : Value) : Ledger :=
  fun c' t' => if c' = c ∧ t' = t then some v else l c' t'

/-- A call: a response to compare, the policy if one is given, and the environment at that time. -/
structure Call where
  environment : Environment
  category : String
  test : String
  response : Value
  removeParameters : Bool
  policy : Option Policy

namespace Call

/-- The response of a call without what varies. -/
def cleaned (call : Call) : Value := BlackLab.sanitize call.removeParameters call.response

/-- The policy in force at a call. -/
def effective (call : Call) : Policy := call.policy.getD (Environment.policy call.environment)

/-- A call as a comparison with a store. -/
def expectation (store : Store) (call : Call) : Expectation :=
  ⟨.text call.category, .text call.test, call.response, call.removeParameters, some store,
    Expectation.policyValue call.policy⟩

end Call

/-- What a ledger answers: as a comparison does, or that a location is too long for the volume. -/
inductive Reply
  | outcome (result : Except Failure Outcome)
  | tooLong

/-- Whether a comparison ended as a reply says; of a location that is too long the volume names a
part. -/
inductive Reply.Describes : Reply → Except Failure Outcome → Prop
  | outcome (result : Except Failure Outcome) : Describes (.outcome result) result
  | tooLong (path : Path) : Describes .tooLong (.error (.access .tooLong path))

/-- What a ledger answers to a named snapshot, and the ledger afterwards. -/
def settle (l : Ledger) (call : Call) (path : Path) (c t : String) :
    Except Failure Outcome × Ledger :=
  match l c t with
  | some saved =>
      (if (saved.diff call.cleaned).isEmpty then .ok .matched
        else .error (.mismatch ⟨.text call.category, .text call.test, path,
          (saved.diff call.cleaned).map (·.line)⟩), l)
  | none =>
      match call.effective with
      | .writeIfMissing => (.ok .written, l.bind c t call.cleaned)
      | .compareOnly => (.error (.missing ⟨.text call.category, .text call.test, path⟩), l)

/-- What a ledger answers to a call, and the ledger afterwards, for a store and a working
directory. -/
def answer (store : Store) (home : Location) (l : Ledger) (call : Call) : Reply × Ledger :=
  if ¬ store.HasPath then (.outcome (.error (.unresolved .nullCharacter)), l)
  else
    match Name.fileName? [] Name.maxBytes call.category with
    | none => (.outcome (.error (.emptyName (.text call.category))), l)
    | some c =>
        if ¬ Volume.Fits (store.directoryPlace home c) then (.tooLong, l)
        else
          match Name.fileName? [] maxTestBytes call.test with
          | none => (.outcome (.error (.emptyName (.text call.test))), l)
          | some t =>
              if ¬ Volume.Fits (store.snapshotPlace home c t) then (.tooLong, l)
              else
                let settled := l.settle call ⟨.root, store.snapshotPlace home c t⟩ c t
                (.outcome settled.1, settled.2)

theorem answer_of_not_hasPath {store : Store} (hpath : ¬ store.HasPath) (home : Location)
    (l : Ledger) (call : Call) :
    l.answer store home call = (.outcome (.error (.unresolved .nullCharacter)), l) :=
  if_pos hpath

theorem answer_of_names {store : Store} {home : Location} {l : Ledger} {call : Call} {c t : String}
    (hpath : store.HasPath) (hc : Name.fileName? [] Name.maxBytes call.category = some c)
    (ht : Name.fileName? [] maxTestBytes call.test = some t)
    (hdirectory : Volume.Fits (store.directoryPlace home c))
    (hfits : Volume.Fits (store.snapshotPlace home c t)) :
    l.answer store home call =
      (.outcome (l.settle call ⟨.root, store.snapshotPlace home c t⟩ c t).1,
        (l.settle call ⟨.root, store.snapshotPlace home c t⟩ c t).2) := by
  unfold answer
  rw [if_neg (not_not_intro hpath), hc]
  simp only [hdirectory, not_true_eq_false, if_false]
  rw [ht]
  simp only [hfits, not_true_eq_false, if_false]

/-- What a ledger answers to calls one after the other, and the ledger in the end. -/
def answers (store : Store) (home : Location) : Ledger → List Call → List Reply × Ledger
  | l, [] => ([], l)
  | l, call :: calls =>
      let first := answer store home l call
      let others := answers store home first.2 calls
      (first.1 :: others.1, others.2)

/-- Make calls to a store one after the other, each in its own environment. -/
def checks (store : Store) : World → List Call → List (Except Failure Outcome) × World
  | w, [] => ([], w)
  | w, call :: calls =>
      let first := Run.outcome (call.expectation store).check
        { w with environment := call.environment }
      let others := checks store first.2 calls
      (first.1 :: others.1, others.2)

/-! ## §2. The tree of a ledger. -/

/-- Whether a location holds a value as a file, or nothing. -/
def Holds (v : Volume) (loc : Location) : Option Value → Prop
  | none => v.find? loc = none
  | some saved => saved.isJson = true ∧
      ∃ bytes, v.find? loc = some (.file bytes) ∧ Store.decode bytes = .ok saved

theorem Holds.of_find? {v w : Volume} {loc : Location} {bound : Option Value}
    (h : Holds v loc bound) (heq : w.find? loc = v.find? loc) : Holds w loc bound := by
  cases bound with
  | none => exact heq.trans h
  | some saved =>
      obtain ⟨hjson, bytes, hfile, hdecode⟩ := h
      exact ⟨hjson, bytes, heq.trans hfile, hdecode⟩

/-- Whether a tree has grown for a ledger: of what stood before nothing has changed, and all that is
new are directories on the way to the directories of called categories, and bound snapshots. -/
def Grown (store : Store) (home : Location) (called : String → Prop) (before : Volume) (l : Ledger)
    (after : Volume) : Prop :=
  ∀ loc, after.find? loc = before.find? loc ∨
    before.find? loc = none ∧
      ((after.find? loc = some .directory ∧
          ∃ c, called c ∧ loc <+: store.directoryPlace home c) ∨
        ∃ c t saved, l c t = some saved ∧ loc = store.snapshotPlace home c t)

section Growing

variable {store : Store} {home : Location} {called : String → Prop} {before v w : Volume}
  {l : Ledger}

theorem grown_refl : Grown store home called before l before := fun _ => Or.inl rfl

/-- What is empty has been empty before. -/
theorem Grown.none_before (h : Grown store home called before l v) {loc : Location}
    (hnone : v.find? loc = none) : before.find? loc = none := by
  rcases h loc with heq | ⟨hbefore, -⟩
  · rw [← heq]
    exact hnone
  · exact hbefore

theorem Grown.of_adds (h : Grown store home called before l v) {c : String} (hc : called c)
    (hadds : Volume.Adds v w (store.directoryPlace home c)) :
    Grown store home called before l w := by
  intro loc
  rcases hadds loc with heq | ⟨hup, hnone, hfound⟩
  · rw [heq]
    exact h loc
  · exact Or.inr ⟨h.none_before hnone, Or.inl ⟨hfound, c, hc, hup⟩⟩

theorem Grown.put (h : Grown store home called before l v) {c t : String}
    (hnone : v.find? (store.snapshotPlace home c t) = none) (saved : Value) (e : Entry) :
    Grown store home called before (l.bind c t saved)
      (v.put (store.snapshotPlace home c t) e) := by
  have hne : store.snapshotPlace home c t ≠ [] := by simp [Store.snapshotPlace]
  intro loc
  rw [Volume.find?_put v hne]
  by_cases hloc : loc = store.snapshotPlace home c t
  · subst hloc
    exact Or.inr ⟨h.none_before hnone, Or.inr ⟨c, t, saved, if_pos ⟨rfl, rfl⟩, rfl⟩⟩
  · rw [if_neg hloc]
    rcases h loc with heq | ⟨hbefore, hdirectory | ⟨c', t', saved', hbound, rfl⟩⟩
    · exact Or.inl heq
    · exact Or.inr ⟨hbefore, Or.inl hdirectory⟩
    · -- What was bound stays bound, under other names than those bound now.
      have hnames : ¬ (c' = c ∧ t' = t) := by
        rintro ⟨rfl, rfl⟩
        exact hloc rfl
      have hstill : l.bind c t saved c' t' = some saved' := (if_neg hnames).trans hbound
      exact Or.inr ⟨hbefore, Or.inr ⟨c', t', saved', hstill, rfl⟩⟩

end Growing

/-- Whether the tree of a store keeps a ledger: free of links, nothing but directories on the way to
snapshots, at each snapshot what is bound to its names, and nothing else that was not there before. -/
structure Keeps (store : Store) (home : Location) (called : String → Prop) (before : Volume)
    (l : Ledger) (w : World) : Prop where
  home_eq : w.home = home
  free : store.LinkFree w
  above : Volume.Clear w.volume (store.place home)
  directories : ∀ c, w.volume.find? (store.directoryPlace home c) = none ∨
    w.volume.find? (store.directoryPlace home c) = some .directory
  snapshots : ∀ c t, Holds w.volume (store.snapshotPlace home c t) (l c t)
  grown : Grown store home called before l w.volume

section Keeping

variable {store : Store} {home : Location} {called : String → Prop} {before : Volume} {l : Ledger}
  {w : World}

/-- A store that is not there yet keeps the empty ledger. -/
theorem keeps_empty (called : String → Prop) (h : store.Fresh w) :
    Keeps store w.home called w.volume empty w where
  home_eq := rfl
  free := h.linkFree
  above := h.above
  directories := fun _ => Or.inl (h.new _ (List.prefix_append _ _))
  snapshots := fun _ _ => h.new _ ((List.prefix_append _ _).trans (List.prefix_append _ _))
  grown := grown_refl

theorem Keeps.of_sameTree (h : Keeps store home called before l w) {u : World}
    (htree : u.SameTree w) : Keeps store home called before l u := by
  obtain ⟨hvolume, hhome⟩ := htree
  exact ⟨hhome.trans h.home_eq, h.free.of_volume hhome (fun p t ht => by rwa [hvolume] at ht),
    by rw [hvolume]; exact h.above, by rw [hvolume]; exact h.directories,
    by rw [hvolume]; exact h.snapshots, by rw [hvolume]; exact h.grown⟩

/-- The way to the directory of a category is free. -/
theorem Keeps.clear (h : Keeps store home called before l w) (c : String) :
    Volume.Clear w.volume (store.directoryPlace home c) := by
  intro p hp
  rcases List.prefix_concat_iff.mp hp with rfl | hp
  · exact h.directories c
  · exact h.above p hp

/-- Making the directory of a called category leaves every snapshot as it is. -/
theorem Keeps.of_adds (h : Keeps store home called before l w) {v : Volume} {c : String}
    (hc : called c) (hadds : Volume.Adds w.volume v (store.directoryPlace home c)) :
    Keeps store home called before l { w with volume := v } where
  home_eq := h.home_eq
  free := h.free.of_adds hadds
  above := hadds.clear h.above
  directories := by
    intro c'
    rcases hadds (store.directoryPlace home c') with heq | ⟨-, -, hfound⟩
    · rw [heq]
      exact h.directories c'
    · exact Or.inr hfound
  snapshots := by
    intro c' t'
    refine (h.snapshots c' t').of_find? ?_
    rcases hadds (store.snapshotPlace home c' t') with heq | ⟨hup, -, -⟩
    · exact heq
    · exact absurd hup (Store.snapshotPlace_not_above store home c' c t')
  grown := h.grown.of_adds hc hadds

/-- Putting the file of a value where nothing stands binds it. -/
theorem Keeps.put_file (h : Keeps store home called before l w) {c t : String}
    (hnone : w.volume.find? (store.snapshotPlace home c t) = none) {saved : Value}
    {bytes : List UInt8} (hjson : saved.isJson = true) (hdecode : Store.decode bytes = .ok saved) :
    Keeps store home called before (l.bind c t saved)
      { w with volume := w.volume.put (store.snapshotPlace home c t) (.file bytes) } := by
  have hne : store.snapshotPlace home c t ≠ [] := by simp [Store.snapshotPlace]
  have hlength : (store.snapshotPlace home c t).length = (store.place home).length + 2 := by
    simp [Store.snapshotPlace, Store.directoryPlace]
  -- What is shorter than a snapshot's location is none.
  have hother : ∀ p, p.length ≤ (store.place home).length + 1 →
      (w.volume.put (store.snapshotPlace home c t) (.file bytes)).find? p = w.volume.find? p := by
    intro p hp
    rw [Volume.find?_put w.volume hne, if_neg]
    rintro rfl
    omega
  refine ⟨h.home_eq, h.free.of_volume rfl (Volume.links_put_file hne bytes), ?_, ?_, ?_,
    h.grown.put hnone saved (.file bytes)⟩
  · intro p hp
    rw [hother p (by have := hp.length_le; omega)]
    exact h.above p hp
  · intro c'
    rw [hother _ (by simp [Store.directoryPlace])]
    exact h.directories c'
  · intro c' t'
    unfold bind
    by_cases hnames : c' = c ∧ t' = t
    · obtain ⟨rfl, rfl⟩ := hnames
      rw [if_pos ⟨rfl, rfl⟩]
      refine ⟨hjson, bytes, ?_, hdecode⟩
      rw [Volume.find?_put w.volume hne, if_pos rfl]
    · rw [if_neg hnames]
      refine (h.snapshots c' t').of_find? ?_
      have hplace : store.snapshotPlace home c' t' ≠ store.snapshotPlace home c t :=
        fun heq => hnames (snapshot_inj heq)
      rw [Volume.find?_put w.volume hne, if_neg hplace]

end Keeping

/-! ## §3. One call. -/

section Step

variable {store : Store} {called : String → Prop} {before : Volume} {l : Ledger} {w : World}
  {call : Call} {c t : String}

/-- **At a named snapshot a comparison ends as the ledger settles, and the tree keeps on.** -/
theorem Keeps.settle (h : Keeps store w.home called before l w) (hready : store.Ready w c)
    (hcategory : fileNameOf "" Name.maxBytes (.text call.category) = .ok c)
    (htest : fileNameOf "" maxTestBytes (.text call.test) = .ok t)
    (hjson : call.response.isJson = true) (hpolicy : w.environment = call.environment)
    (hfits : Volume.Fits (store.snapshotPlace w.home c t)) :
    let path : Path := ⟨.root, store.snapshotPlace w.home c t⟩
    let ended := Run.outcome ((call.expectation store).finish store path) w
    ended.1 = (l.settle call path c t).1 ∧
      Keeps store w.home called before (l.settle call path c t).2 ended.2 := by
  intro path ended
  have hcleaned : call.cleaned.isJson = true :=
    BlackLab.isJson_sanitize call.removeParameters hjson
  have hholds := h.snapshots c t
  unfold Ledger.settle
  -- By what is bound: the tree holds just that at this snapshot.
  cases hbound : l c t with
  | some saved =>
      rw [hbound] at hholds
      obtain ⟨hsaved, bytes, hfile, hdecode⟩ := hholds
      have hcompare := Expectation.outcome_compareAt (e := call.expectation store) hready htest
        hfits hcategory path hfile hdecode hsaved hjson
      have hended : ended = _ :=
        Expectation.outcome_finish_of_file (e := call.expectation store) hready htest hfits hfile
      rw [hended]
      exact ⟨hcompare.1, h.of_sameTree hcompare.2⟩
  | none =>
      rw [hbound] at hholds
      have hnone : w.volume.find? (store.snapshotPlace w.home c t) = none := hholds
      have hended : ended = _ :=
        Expectation.outcome_finish_of_noFile (e := call.expectation store) hready htest hfits
          (fun old hold => by rw [hnone] at hold; cases hold)
      have heffective : Run.outcome (effectivePolicy (call.expectation store).policy) w =
          (.ok call.effective, w) := by
        unfold Call.effective
        rw [← hpolicy]
        exact Expectation.outcome_effectivePolicy call.policy w
      rw [hended]
      cases hasked : call.effective with
      | compareOnly =>
          rw [hasked] at heffective
          have hmissed := Expectation.outcome_settleMissing_compareOnly
            (e := call.expectation store) store path heffective
          exact ⟨hmissed.1, h.of_sameTree hmissed.2⟩
      | writeIfMissing =>
          rw [hasked] at heffective
          obtain ⟨bytes, hencode, hdecode⟩ := Store.decode_encode hcleaned
          have hwritten := Expectation.outcome_settleMissing_write (e := call.expectation store)
            hready htest hfits hcategory path heffective hencode
          rw [hnone] at hwritten
          exact ⟨hwritten.1, (h.put_file hnone hcleaned hdecode).of_sameTree hwritten.2⟩

/-- **One call ends as the ledger answers, and the tree keeps the ledger afterwards.** -/
theorem Keeps.answer {home : Location} (h : Keeps store home called before l w)
    (hcalled : store.HasPath → ∀ c ∈ Name.fileName? [] Name.maxBytes call.category, called c)
    (hjson : call.response.isJson = true) (hpolicy : w.environment = call.environment) :
    let ended := Run.outcome (call.expectation store).check w
    (l.answer store home call).1.Describes ended.1 ∧
      Keeps store home called before (l.answer store home call).2 ended.2 := by
  intro ended
  obtain rfl := h.home_eq
  have hstore : (call.expectation store).store = some store := rfl
  have hprint : ((call.expectation store).category.isPrintable &&
      (call.expectation store).test.isPrintable) = true := rfl
  have hcategory := fileNameOf_text Name.maxBytes call.category
  have htest := fileNameOf_text maxTestBytes call.test
  by_cases hpath : store.HasPath
  · unfold Ledger.answer
    rw [if_neg (not_not_intro hpath)]
    -- In the order of the operation; the first step that fails decides, and the ledger stays.
    cases hc : Name.fileName? [] Name.maxBytes call.category with
    | none =>
        rw [hc] at hcategory
        have hended : ended = _ :=
          Expectation.outcome_check_of_category hstore hprint h.free hpath hcategory
        rw [hended]
        exact ⟨.outcome _, h⟩
    | some c =>
        rw [hc] at hcategory
        have hproper := Name.isProper_of_fileName? hc
        have hmade := Store.made_directory h.free hpath hproper
        have hkeeps := h.of_adds (hcalled hpath c hc) hmade.adds
        by_cases hdirectory : Volume.Fits (store.directoryPlace w.home c)
        · have hok := hmade.fits (h.clear c) hdirectory
          have hready := Store.ready_of_made h.free hpath hproper hok
          generalize hv : w.volume.makeDirectories (store.directoryPlace w.home c) = made at *
          obtain ⟨v, result⟩ := made
          obtain rfl : result = .ok () := hok
          simp only [hdirectory, not_true_eq_false, if_false]
          -- From here on the directory of the category stands, also where the test has no name.
          cases ht : Name.fileName? [] maxTestBytes call.test with
          | none =>
              rw [ht] at htest
              have hended : ended = _ :=
                Expectation.outcome_check_of_test hstore hprint h.free hpath hcategory hv htest
              rw [hended]
              exact ⟨.outcome _, hkeeps⟩
          | some t =>
              rw [ht] at htest
              have hended : ended = _ :=
                Expectation.outcome_check_of_names hstore hprint h.free hpath hcategory hv htest
              rw [hended]
              by_cases hfits : Volume.Fits (store.snapshotPlace w.home c t)
              · simp only [hfits, not_true_eq_false, if_false]
                obtain ⟨hsettled, hend⟩ :=
                  hkeeps.settle hready hcategory htest hjson hpolicy hfits
                exact ⟨hsettled ▸ .outcome _, hend⟩
              · simp only [hfits, not_false_eq_true, if_true]
                have hlong := Expectation.outcome_finish_of_long (e := call.expectation store)
                  hready htest hfits
                rw [hlong]
                exact ⟨.tooLong _, hkeeps⟩
        · simp only [hdirectory, not_false_eq_true, if_true]
          obtain ⟨loc, hlong⟩ := hmade.long (h.clear c) hdirectory
          generalize hv : w.volume.makeDirectories (store.directoryPlace w.home c) = made at *
          obtain ⟨v, result⟩ := made
          obtain rfl : result = .error (.tooLong, loc) := hlong
          have hended : ended = _ :=
            Expectation.outcome_check_of_made hstore hprint h.free hpath hcategory hv
          rw [hended]
          exact ⟨.tooLong _, hkeeps⟩
  · rw [answer_of_not_hasPath hpath]
    have hended : ended = _ :=
      Expectation.outcome_check_of_not_hasPath hstore hprint h.free hpath
    rw [hended]
    exact ⟨.outcome _, h⟩

end Step

/-! ## §4. Whole runs. -/

/-- Whether a run goes for the directory of a category: the root can be a path, and a call of the run
is cleaned to the name. -/
def Called (store : Store) (calls : List Call) (c : String) : Prop :=
  store.HasPath ∧ ∃ call ∈ calls, Name.fileName? [] Name.maxBytes call.category = some c

/-- A tree that keeps a ledger answers calls one after the other as the ledger does. -/
theorem Keeps.answers {store : Store} {home : Location} {called : String → Prop} {before : Volume}
    {l : Ledger} {w : World} (h : Keeps store home called before l w) {calls : List Call}
    (hcalled : ∀ c, Called store calls c → called c)
    (hjson : ∀ call ∈ calls, call.response.isJson = true) :
    List.Forall₂ Reply.Describes (l.answers store home calls).1 (checks store w calls).1 ∧
      Keeps store home called before (l.answers store home calls).2 (checks store w calls).2 := by
  -- Call by call: the tree keeps the ledger, and `Keeps.answer` hands that on.
  induction calls generalizing l w with
  | nil => exact ⟨List.Forall₂.nil, h⟩
  | cons call calls ih =>
      have hhere : Keeps store home called before l { w with environment := call.environment } :=
        h.of_sameTree ⟨rfl, rfl⟩
      have hfirst : store.HasPath →
          ∀ c ∈ Name.fileName? [] Name.maxBytes call.category, called c :=
        fun hpath c hc => hcalled c ⟨hpath, call, List.mem_cons_self, hc⟩
      have hlater : ∀ c, Called store calls c → called c := by
        rintro c ⟨hpath, other, hother, hc⟩
        exact hcalled c ⟨hpath, other, List.mem_cons_of_mem call hother, hc⟩
      obtain ⟨hreply, hkeeps⟩ := hhere.answer hfirst (hjson call List.mem_cons_self) rfl
      obtain ⟨hothers, hend⟩ := ih hkeeps hlater (fun other hother =>
        hjson other (List.mem_cons_of_mem call hother))
      rw [Ledger.answers, checks]
      exact ⟨List.Forall₂.cons hreply hothers, hend⟩

/-- Whether a tree holds just a ledger in a store, beside what stood elsewhere before: at each
snapshot what is bound to its names; from the root of the store down nothing else but the
directories that the snapshots of a run go to; and elsewhere what stood there, with directories for
what was missing above the root. -/
structure HoldsJust (store : Store) (home : Location) (calls : List Call) (before : Volume)
    (l : Ledger) (after : Volume) : Prop where
  snapshots : ∀ c t, Holds after (store.snapshotPlace home c t) (l c t)
  below : ∀ loc, store.place home <+: loc → after.find? loc ≠ none →
    (after.find? loc = some .directory ∧
      ∃ c, Called store calls c ∧
        (loc = store.place home ∨ loc = store.directoryPlace home c)) ∨
    ∃ c t saved, l c t = some saved ∧ loc = store.snapshotPlace home c t
  elsewhere : ∀ loc, ¬ store.place home <+: loc →
    after.find? loc = before.find? loc ∨
      loc <+: store.place home ∧ before.find? loc = none ∧ after.find? loc = some .directory ∧
        ∃ c, Called store calls c

/-- What keeps a ledger where nothing stood before holds just the ledger. -/
theorem Keeps.holdsJust {store : Store} {home : Location} {calls : List Call} {before : Volume}
    {l : Ledger} {w : World} (h : Keeps store home (Called store calls) before l w)
    (hnew : ∀ loc, store.place home <+: loc → before.find? loc = none) :
    HoldsJust store home calls before l w.volume where
  snapshots := h.snapshots
  below := by
    intro loc hloc hfound
    rcases h.grown loc with heq | ⟨-, ⟨hdirectory, c, hc, hup⟩ | hbound⟩
    · exact absurd (heq.trans (hnew loc hloc)) hfound
    · refine Or.inl ⟨hdirectory, c, hc, ?_⟩
      rcases List.prefix_concat_iff.mp hup with hsame | hup
      · exact Or.inr hsame
      · exact Or.inl (hup.eq_of_length_le hloc.length_le)
    · exact Or.inr hbound
  elsewhere := by
    intro loc hloc
    rcases h.grown loc with heq | ⟨hbefore, ⟨hdirectory, c, hc, hup⟩ | ⟨c, t, saved, -, hsame⟩⟩
    · exact Or.inl heq
    · rcases List.prefix_concat_iff.mp hup with hsame | hup
      · exact absurd (hsame ▸ List.prefix_append _ _) hloc
      · exact Or.inr ⟨hup, hbefore, hdirectory, c, hc⟩
    · exact absurd (hsame ▸ (List.prefix_append _ _).trans (List.prefix_append _ _)) hloc

/-- Where no location is too long a run is what the ledger answers. -/
theorem eq_of_describes {results ended : List (Except Failure Outcome)}
    (h : List.Forall₂ Reply.Describes (results.map .outcome) ended) : ended = results := by
  induction results generalizing ended with
  | nil => exact List.forall₂_nil_left_iff.mp h
  | cons result results ih =>
      obtain ⟨x, others, hfirst, hothers, rfl⟩ := List.forall₂_cons_left_iff.mp h
      cases hfirst
      rw [ih hothers]

/-- **A store that is not there yet answers every sequence of calls as the empty ledger does, and its
tree holds just the ledger in the end.** -/
theorem checks_of_fresh {store : Store} {w : World} (hfresh : store.Fresh w) {calls : List Call}
    (hjson : ∀ call ∈ calls, call.response.isJson = true) :
    List.Forall₂ Reply.Describes (empty.answers store w.home calls).1 (checks store w calls).1 ∧
      HoldsJust store w.home calls w.volume (empty.answers store w.home calls).2
        (checks store w calls).2.volume := by
  obtain ⟨hreplies, hend⟩ :=
    (keeps_empty (Called store calls) hfresh).answers (fun _ hc => hc) hjson
  exact ⟨hreplies, hend.holdsJust hfresh.new⟩

/-- A call for one fixed category that writes what is missing. -/
def hitsCall (test : String) (response : Value) : Call :=
  ⟨[], "hits", test, response, false, some .writeIfMissing⟩

/-- Two names that are cleaned to the same one share a snapshot. -/
theorem checks_of_fresh_sharedName :
    (checks ⟨⟨.root, ["snapshots"]⟩⟩ bareWorld
      [hitsCall "a/b" (.text "one"), hitsCall "ab" (.text "one")]).1 =
        [.ok .written, .ok .matched] := by
  have hcalls : ∀ call ∈ [hitsCall "a/b" (.text "one"), hitsCall "ab" (.text "one")],
      call.response.isJson = true :=
    List.forall_mem_cons.mpr ⟨rfl, List.forall_mem_singleton.mpr rfl⟩
  have hfresh : Store.Fresh ⟨⟨.root, ["snapshots"]⟩⟩ bareWorld := fresh_bareWorld (by decide)
  have hhits : Name.fileName? [] Name.maxBytes "hits" = some "hits" := by decide
  have hanswer : ∀ (l : Ledger) (test : String), Name.fileName? [] maxTestBytes test = some "ab" →
      l.answer ⟨⟨.root, ["snapshots"]⟩⟩ [] (hitsCall test (.text "one")) = _ :=
    fun l test ht => answer_of_names (c := "hits") (t := "ab") rfl hhits ht (by decide) (by decide)
  have hfirst : empty.answer ⟨⟨.root, ["snapshots"]⟩⟩ [] (hitsCall "a/b" (.text "one")) =
      (.outcome (.ok .written), empty.bind "hits" "ab" (.text "one")) := by
    rw [hanswer _ _ (by decide)]
    rfl
  have hsecond : (empty.bind "hits" "ab" (.text "one")).answer ⟨⟨.root, ["snapshots"]⟩⟩ []
      (hitsCall "ab" (.text "one")) =
        (.outcome (.ok .matched), empty.bind "hits" "ab" (.text "one")) := by
    have hbound : empty.bind "hits" "ab" (.text "one") "hits" "ab" = some (.text "one") :=
      if_pos ⟨rfl, rfl⟩
    have hequal : (Value.text "one").diff (hitsCall "ab" (.text "one")).cleaned = [] := by
      rw [show (hitsCall "ab" (.text "one")).cleaned = .text "one" from rfl]
      simp [Value.diff, Value.same]
    rw [hanswer _ _ (by decide), settle, hbound]
    simp only [hequal]
    rfl
  have hruns := (checks_of_fresh hfresh hcalls).1
  rw [show bareWorld.home = [] from rfl, answers, hfirst, answers, hsecond, answers] at hruns
  exact eq_of_describes hruns

/-- A name of one letter more than a volume can take. -/
def longName : String := String.ofList (List.replicate (Volume.maxNameBytes + 1) 'r')

theorem isProper_longName : IsProper longName := by
  have hlist : longName.toList = 'r' :: List.replicate Volume.maxNameBytes 'r' := by
    rw [longName, String.toList_ofList, List.replicate_succ]
  refine Name.isProper_of_toList ?_ ?_ ?_
  · rw [hlist]
    exact List.cons_ne_nil _ _
  · rw [hlist]
    rfl
  · rw [hlist]
    simp [List.mem_replicate]

theorem utf8Len_replicate (n : Nat) : String.utf8Len (List.replicate n 'r') = n := by
  induction n with
  | zero => rfl
  | succ n ih =>
      rw [List.replicate_succ, String.utf8Len_cons, ih]
      rfl

theorem not_fits_of_longName {loc : Location} (h : longName ∈ loc) : ¬ Volume.Fits loc := by
  intro hfits
  have hsize := hfits.names longName h
  rw [longName, String.utf8ByteSize_ofList, utf8Len_replicate] at hsize
  omega

/-- A run of one call ends as the empty ledger answers it. -/
theorem describes_of_fresh {store : Store} {w : World} (hfresh : store.Fresh w) (call : Call)
    (hjson : call.response.isJson = true) {reply : Reply}
    (hanswer : (empty.answer store w.home call).1 = reply) :
    ∃ ended, (checks store w [call]).1 = [ended] ∧ reply.Describes ended := by
  have hruns := ((keeps_empty (Called store [call]) hfresh).answers (fun _ hc => hc)
    (List.forall_mem_singleton.mpr hjson)).1
  rw [answers, answers, hanswer] at hruns
  obtain ⟨ended, others, hended, hothers, hrun⟩ := List.forall₂_cons_left_iff.mp hruns
  rw [List.forall₂_nil_left_iff.mp hothers] at hrun
  exact ⟨ended, hrun, hended⟩

/-- **A store whose root has too long a name, or a null character, is not there yet, and nothing is
written to it.** -/
theorem checks_of_unusableRoot :
    Name.fileName? [] Name.maxBytes "hits" = some "hits" ∧
      Name.fileName? [] maxTestBytes "all" = some "all" ∧
      (Store.Fresh ⟨⟨.root, [longName]⟩⟩ bareWorld ∧
        ∃ path, (checks ⟨⟨.root, [longName]⟩⟩ bareWorld [hitsCall "all" .null]).1 =
          [.error (.access .tooLong path)]) ∧
      Store.Fresh ⟨⟨.root, ["a\x00b"]⟩⟩ bareWorld ∧
        (checks ⟨⟨.root, ["a\x00b"]⟩⟩ bareWorld [hitsCall "all" .null]).1 =
          [.error (.unresolved .nullCharacter)] := by
  have hhits : Name.fileName? [] Name.maxBytes "hits" = some "hits" := by decide
  have hproper : ∀ n ∈ [longName], IsProper n := List.forall_mem_singleton.mpr isProper_longName
  have hplace : Store.place ⟨⟨.root, [longName]⟩⟩ [] = [longName] :=
    Location.follow_of_isProper hproper []
  have hpath : Store.HasPath ⟨⟨.root, [longName]⟩⟩ := by
    show List.any [longName] Volume.holdsNull = false
    rw [List.any_cons, (hproper longName List.mem_cons_self).null]
    rfl
  have hfresh : Store.Fresh ⟨⟨.root, [longName]⟩⟩ bareWorld :=
    fresh_bareWorld (by rw [hplace]; simp)
  have hlong : ¬ Volume.Fits (Store.directoryPlace ⟨⟨.root, [longName]⟩⟩ [] "hits") :=
    not_fits_of_longName (List.mem_append_left _ (by rw [hplace]; exact List.mem_singleton.mpr rfl))
  have hanswer : (empty.answer ⟨⟨.root, [longName]⟩⟩ [] (hitsCall "all" .null)).1 = .tooLong := by
    unfold answer
    rw [if_neg (not_not_intro hpath), show (hitsCall "all" .null).category = "hits" from rfl, hhits]
    simp only [hlong, not_false_eq_true, if_true]
  have hnull : ¬ Store.HasPath ⟨⟨.root, ["a\x00b"]⟩⟩ := by decide
  have hfresh' : Store.Fresh ⟨⟨.root, ["a\x00b"]⟩⟩ bareWorld := fresh_bareWorld (by decide)
  obtain ⟨ended, hended, hreply⟩ := describes_of_fresh hfresh _ rfl hanswer
  obtain ⟨ended', hended', hreply'⟩ := describes_of_fresh hfresh' (hitsCall "all" .null) rfl
    (congrArg Prod.fst (answer_of_not_hasPath hnull _ _ _))
  refine ⟨hhits, by decide, ⟨hfresh, ?_⟩, hfresh', ?_⟩
  · cases hreply with
    | tooLong path => exact ⟨path, hended⟩
  · cases hreply' with
    | outcome result => exact hended'

end Ledger

end Golden

/-
  Golden.Proofs.Expectation.Again
  ────────────────────────────────
  **A RESPONSE THAT HAS JUST BEEN WRITTEN.**

  When a comparison has written its snapshot, the same comparison finds it
  there, whatever the policy then is, and reads the very value that was
  written.  It compares this value with itself, so it matches just if no
  not-a-number is left in the cleaned response:

      written, then again   ↦   matched   ↔   hasNaN cleaned  =  false

  With not-a-number a snapshot differs from itself for ever.
-/
import Golden.Proofs.Diff.Reflexive
import Golden.Proofs.Expectation.Outcomes

namespace Golden

/-! ## §1. The same tree. -/

theorem Store.Ready.of_sameTree {store : Store} {u w : World} {c : String}
    (h : store.Ready w c) (htree : u.SameTree w) : store.Ready u c := by
  obtain ⟨hvolume, hhome⟩ := htree
  exact ⟨h.free.of_volume hhome (fun p t ht => by rwa [hvolume] at ht), h.path, h.name,
    by rw [hhome]; exact h.fits, by rw [hvolume, hhome]; exact h.stands⟩

/-- Where the directory of a category stands, making it leaves the volume as it is. -/
theorem Store.Ready.makeDirectories {store : Store} {w : World} {c : String}
    (h : store.Ready w c) :
    w.volume.makeDirectories (store.directoryPlace w.home c) = (w.volume, .ok ()) :=
  Volume.makeDirectories_of_stands (Store.isProper_directoryPlace h.free h.path h.name) h.fits
    h.stands

namespace Expectation

variable {e : Expectation} {store : Store} {w : World}

/-! ## §2. What a written snapshot leaves. -/

/-- What stands in a world in which the snapshot of a comparison has been written. -/
structure Kept (e : Expectation) (store : Store) (w : World) (c t : String) : Prop where
  category : fileNameOf "" Name.maxBytes e.category = .ok c
  test : fileNameOf "" maxTestBytes e.test = .ok t
  ready : store.Ready w c
  fits : Volume.Fits (store.snapshotPlace w.home c t)
  saved : ∃ bytes, w.volume.find? (store.snapshotPlace w.home c t) = some (.file bytes) ∧
    Store.decode bytes = .ok e.cleaned

theorem Kept.of_sameTree {c t : String} {u : World} (h : Kept e store w c t)
    (htree : u.SameTree w) : Kept e store u c t := by
  have hready := h.ready.of_sameTree htree
  obtain ⟨hvolume, hhome⟩ := htree
  exact ⟨h.category, h.test, hready, by rw [hhome]; exact h.fits,
    by rw [hvolume, hhome]; exact h.saved⟩

/-- Where the cleaned response has been put, it is kept. -/
theorem kept_put_file {c t : String} {bytes : List UInt8} (h : store.Ready w c)
    (hcategory : fileNameOf "" Name.maxBytes e.category = .ok c)
    (htest : fileNameOf "" maxTestBytes e.test = .ok t)
    (hfits : Volume.Fits (store.snapshotPlace w.home c t))
    (hdecode : Store.decode bytes = .ok e.cleaned) :
    Kept e store { w with
      volume := w.volume.put (store.snapshotPlace w.home c t) (.file bytes) } c t where
  category := hcategory
  test := htest
  ready := h.put_file c t bytes
  fits := hfits
  saved := by
    refine ⟨bytes, ?_, hdecode⟩
    rw [Volume.find?_put w.volume (by simp [Store.snapshotPlace]), if_pos rfl]

/-- Settling writes only where a policy asks for it and no directory stands. -/
theorem kept_of_settleMissing_written {c t : String} (h : store.Ready w c)
    (hcategory : fileNameOf "" Name.maxBytes e.category = .ok c)
    (htest : fileNameOf "" maxTestBytes e.test = .ok t) (hjson : e.response.isJson = true)
    (hfits : Volume.Fits (store.snapshotPlace w.home c t)) (path : Path)
    (hwritten : (Run.outcome (e.settleMissing e.subject store path e.cleaned) w).1 =
      .ok .written) :
    Kept e store (Run.outcome (e.settleMissing e.subject store path e.cleaned) w).2 c t := by
  have hcleaned : e.cleaned.isJson = true := BlackLab.isJson_sanitize e.removeParameters hjson
  obtain ⟨bytes, hencode, hdecode⟩ := Store.decode_encode hcleaned
  have hkept := kept_put_file h hcategory htest hfits hdecode
  -- The value of the policy is any, also one that is refused; it changes nothing of the world.
  have hsnd := outcome_effectivePolicy_snd e.policy w
  cases hpolicy : Run.outcome (effectivePolicy e.policy) w with
  | mk result u =>
      obtain rfl : u = w := by rw [← hsnd, hpolicy]
      cases result with
      | error f =>
          unfold settleMissing at hwritten
          rw [Run.outcome_bind_of_error hpolicy] at hwritten
          cases hwritten
      | ok p =>
          cases p with
          | compareOnly =>
              rw [(outcome_settleMissing_compareOnly store path hpolicy).1] at hwritten
              cases hwritten
          | writeIfMissing =>
              have hsettle := outcome_settleMissing_write h htest hfits hcategory path hpolicy
                hencode
              split at hsettle
              · rw [hsettle] at hwritten
                cases hwritten
              · exact hkept.of_sameTree hsettle.2

/-- At a snapshot only settling writes. -/
theorem kept_of_finish_written {c t : String} (h : store.Ready w c)
    (hcategory : fileNameOf "" Name.maxBytes e.category = .ok c)
    (htest : fileNameOf "" maxTestBytes e.test = .ok t) (hjson : e.response.isJson = true)
    (hwritten : (Run.outcome (e.finish store ⟨.root, store.snapshotPlace w.home c t⟩) w).1 =
      .ok .written) :
    Kept e store (Run.outcome (e.finish store ⟨.root, store.snapshotPlace w.home c t⟩) w).2 c t := by
  by_cases hfits : Volume.Fits (store.snapshotPlace w.home c t)
  · by_cases hfile : ∃ old, w.volume.find? (store.snapshotPlace w.home c t) = some (.file old)
    · obtain ⟨old, hold⟩ := hfile
      rw [outcome_finish_of_file h htest hfits hold] at hwritten
      exact absurd hwritten (outcome_compareAt_ne_written h htest hfits hcategory _ hold)
    · have hno : ∀ old, w.volume.find? (store.snapshotPlace w.home c t) ≠ some (.file old) :=
        fun old hold => hfile ⟨old, hold⟩
      rw [outcome_finish_of_noFile h htest hfits hno] at hwritten ⊢
      exact kept_of_settleMissing_written h hcategory htest hjson hfits _ hwritten
  · rw [outcome_finish_of_long h htest hfits] at hwritten
    cases hwritten

/-- **A comparison that writes leaves its cleaned response as the snapshot.** -/
theorem kept_of_check_written (hstore : e.store = some store) (hfree : store.LinkFree w)
    (hjson : e.response.isJson = true)
    (hwritten : (Run.outcome e.check w).1 = .ok .written) :
    ∃ c t, Kept e store (Run.outcome e.check w).2 c t := by
  -- Every way to end before the snapshot is a failure, so none of them has written.
  cases hprint : (e.category.isPrintable && e.test.isPrintable) with
  | false =>
      rw [outcome_check_of_unprintable hprint] at hwritten
      cases hwritten
  | true =>
      by_cases hpath : store.HasPath
      · cases hcategory : fileNameOf "" Name.maxBytes e.category with
        | error f =>
            rw [outcome_check_of_category hstore hprint hfree hpath hcategory] at hwritten
            cases hwritten
        | ok c =>
            cases hmade : w.volume.makeDirectories (store.directoryPlace w.home c) with
            | mk v result =>
                cases result with
                | error x =>
                    rw [outcome_check_of_made hstore hprint hfree hpath hcategory hmade]
                      at hwritten
                    cases hwritten
                | ok _ =>
                    cases htest : fileNameOf "" maxTestBytes e.test with
                    | error f =>
                        rw [outcome_check_of_test hstore hprint hfree hpath hcategory hmade htest]
                          at hwritten
                        cases hwritten
                    | ok t =>
                        have hc := Name.isProper_of_fileName? (fileNameOf_ok hcategory).2
                        have hready := Store.ready_of_made hfree hpath hc (by rw [hmade])
                        rw [hmade] at hready
                        rw [outcome_check_of_names hstore hprint hfree hpath hcategory hmade htest]
                          at hwritten ⊢
                        exact ⟨c, t, kept_of_finish_written hready hcategory htest hjson hwritten⟩
      · rw [outcome_check_of_not_hasPath hstore hprint hfree hpath] at hwritten
        cases hwritten

/-- **A comparison with its own cleaned response matches unless not-a-number is left in it.** -/
theorem outcome_check_of_kept {c t : String} (hstore : e.store = some store)
    (hjson : e.response.isJson = true) (h : Kept e store w c t) :
    (Run.outcome e.check w).1 = .ok .matched ↔ e.cleaned.hasNaN = false := by
  have hcleaned : e.cleaned.isJson = true := BlackLab.isJson_sanitize e.removeParameters hjson
  obtain ⟨bytes, hfile, hdecode⟩ := h.saved
  have hprint := isPrintable_of_names h.category h.test
  have hcheck := outcome_check_of_names hstore hprint h.ready.free h.ready.path h.category
    h.ready.makeDirectories h.test
  rw [hcheck, outcome_finish_of_file h.ready h.test h.fits hfile,
    (outcome_compareAt h.ready h.test h.fits h.category _ hfile hdecode hcleaned hjson).1,
    ← Value.diff_self_eq_nil_iff (Value.isResponse_of_isJson _ hcleaned)]
  cases e.cleaned.diff e.cleaned with
  | nil => simp
  | cons d ds => simp

/-! ## §3. Written, then again. -/

/-- **After a comparison has written its snapshot, the same comparison matches under every policy
just if no not-a-number is left in the cleaned response.** -/
theorem check_again_matched_iff (policy : Value) {u : World} (hstore : e.store = some store)
    (hfree : store.LinkFree w) (hjson : e.response.isJson = true)
    (hwritten : (Run.outcome e.check w).1 = .ok .written)
    (htree : u.SameTree (Run.outcome e.check w).2) :
    (Run.outcome { e with policy := policy }.check u).1 = .ok .matched ↔
      (BlackLab.sanitize e.removeParameters e.response).hasNaN = false := by
  obtain ⟨c, t, hkept⟩ := kept_of_check_written hstore hfree hjson hwritten
  -- What is kept does not depend on the policy.
  have hagain : Kept { e with policy := policy } store (Run.outcome e.check w).2 c t :=
    ⟨hkept.category, hkept.test, hkept.ready, hkept.fits, hkept.saved⟩
  exact outcome_check_of_kept hstore hjson (hagain.of_sameTree htree)

/-- The comparison of a response with the snapshot of one fixed test, to be written if missing. -/
def sample (response : Value) : Expectation :=
  ⟨.text "hits", .text "all", response, false, some ⟨⟨.root, ["snapshots"]⟩⟩,
    .text Policy.writeIfMissing.word⟩

theorem fresh_sample : Store.Fresh ⟨⟨.root, ["snapshots"]⟩⟩ bareWorld :=
  fresh_bareWorld (by decide)

/-- Every response is written where nothing stands. -/
theorem sample_written {response : Value} (hjson : response.isJson = true) :
    (Run.outcome (sample response).check bareWorld).1 = .ok .written := by
  have hcategory : fileNameOf "" Name.maxBytes (.text "hits") = .ok "hits" := by
    rw [fileNameOf_text, show Name.fileName? [] Name.maxBytes "hits" = some "hits" by decide]
  have htest : fileNameOf "" maxTestBytes (.text "all") = .ok "all" := by
    rw [fileNameOf_text, show Name.fileName? [] maxTestBytes "all" = some "all" by decide]
  obtain ⟨bytes, hbytes, -⟩ := Store.decode_encode
    (BlackLab.isJson_sanitize false hjson)
  refine (outcome_check_written (e := sample response) (c := "hits") (t := "all") rfl
    fresh_sample.linkFree rfl hcategory htest (fun p hp => ?_) (by decide) (by decide)
    (fresh_sample.new _ (by decide)) (fun v => rfl) hbytes).1
  rcases List.prefix_concat_iff.mp hp with rfl | hp
  · exact Or.inl (fresh_sample.new _ (List.prefix_append _ _))
  · exact fresh_sample.above p hp

/-- Line ends of every kind in a text come back as they were. -/
theorem check_again_matched_of_lineEnds :
    (Run.outcome (sample (.text "a\r\nb\rc\n")).check bareWorld).1 = .ok .written ∧
      (Run.outcome { sample (.text "a\r\nb\rc\n") with policy := .null }.check
        (Run.outcome (sample (.text "a\r\nb\rc\n")).check bareWorld).2).1 = .ok .matched := by
  have hjson : (Value.text "a\r\nb\rc\n").isJson = true := rfl
  have hwritten := sample_written hjson
  refine ⟨hwritten, (check_again_matched_iff .null rfl fresh_sample.linkFree hjson hwritten
    ⟨rfl, rfl⟩).mpr ?_⟩
  rfl

/-- Not-a-number is written, and then never matches. -/
theorem check_again_of_notANumber :
    (Value.float .nan).isJson = true ∧
      (Run.outcome (sample (.float .nan)).check bareWorld).1 = .ok .written ∧
      (Run.outcome (sample (.float .nan)).check
        (Run.outcome (sample (.float .nan)).check bareWorld).2).1 ≠ .ok .matched := by
  have hjson : (Value.float .nan).isJson = true := rfl
  have hwritten := sample_written hjson
  obtain ⟨c, t, hkept⟩ := kept_of_check_written rfl fresh_sample.linkFree hjson hwritten
  refine ⟨hjson, hwritten, fun hmatched => ?_⟩
  have hnan := (outcome_check_of_kept rfl hjson hkept).mp hmatched
  cases hnan

end Expectation

end Golden

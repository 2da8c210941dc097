/-
  Golden.Proofs.Name.Safe
  ────────────────────────────────
  **A FILE NAME LEADS ONE LEVEL DOWN.**

  With the empty template every replacement only drops characters, so what is
  left of a name is a part of it, in order, without the illegal characters and
  the control characters.  What is not refused is more than dots and within
  the byte limit:

      fileName? [] limit s = some n   →   IsProper n  and  bytes of n ≤ limit

  and it stays so with a suffix at its end.
-/
import Mathlib.Data.String.Basic
import Golden.Proofs.Volume.Walk
import Golden.Store

namespace Golden

namespace Name

open List (Sublist)

/-! ## §1. Dropping characters. -/

theorem replaceEach_nil (p : Char → Bool) (s : List Char) :
    replaceEach p [] s = s.filter (fun c => !p c) := by
  induction s with
  | nil => rfl
  | cons c rest ih =>
      have hcons : replaceEach p [] (c :: rest) =
          (if p c then Template.expand [] [c] else [c]) ++ replaceEach p [] rest := rfl
      rw [hcons, ih, List.filter_cons]
      cases p c <;> rfl

theorem splitFinal_append (s : List Char) : (splitFinal s).1 ++ (splitFinal s).2 = s := by
  unfold splitFinal
  split
  · next h =>
      obtain ⟨body, rfl⟩ := List.getLast?_eq_some_iff.mp h
      rw [List.dropLast_concat]
  · exact List.append_nil s

theorem replaceWhole_nil_sublist (p : List Char → Bool) (s : List Char) :
    Sublist (replaceWhole p [] s) s := by
  unfold replaceWhole
  simp only
  split
  · have h := List.sublist_append_right (splitFinal s).1 (splitFinal s).2
    rwa [splitFinal_append] at h
  · exact List.Sublist.refl s

theorem dropEnd_sublist (p : Char → Bool) (s : List Char) : Sublist (Text.dropEnd p s) s := by
  have h := (List.dropWhile_sublist p (l := s.reverse)).reverse
  rwa [List.reverse_reverse] at h

theorem replaceTrailing_nil_sublist (s : List Char) : Sublist (replaceTrailing [] s) s := by
  unfold replaceTrailing
  simp only
  split
  · exact List.Sublist.refl s
  · have h := (dropEnd_sublist isTrailing (splitFinal s).1).append
      (List.Sublist.refl (splitFinal s).2)
    rwa [splitFinal_append, ← List.append_nil (Text.dropEnd _ _)] at h

theorem takeBytes_isPrefix (limit : Nat) (s : List Char) : takeBytes limit s <+: s := by
  induction s generalizing limit with
  | nil => exact List.prefix_rfl
  | cons c rest ih =>
      rw [takeBytes]
      split
      · exact List.cons_prefix_cons.mpr ⟨rfl, ih _⟩
      · exact List.nil_prefix

theorem truncate_sublist (limit : Int) (s : List Char) : Sublist (truncate limit s) s := by
  unfold truncate
  simp only
  split
  · exact List.Sublist.refl s
  · exact (takeBytes_isPrefix _ s).sublist

/-- What is left of a name is a part of it without illegal and control characters. -/
theorem clean_nil_sublist (limit : Int) (s : List Char) :
    Sublist (clean [] limit s)
      ((s.filter (fun c => !isIllegal c)).filter (fun c => !isControl c)) := by
  unfold clean
  simp only
  rw [← replaceEach_nil, ← replaceEach_nil]
  -- The steps from the last to the first.
  exact (replaceTrailing_nil_sublist _).trans <| (truncate_sublist limit _).trans <|
    (replaceTrailing_nil_sublist _).trans <| (replaceWhole_nil_sublist isReserved _).trans
      (replaceWhole_nil_sublist isDots _)

/-! ## §2. Bytes. -/

theorem byteSize_eq_utf8Len (s : List Char) : byteSize s = String.utf8Len s := by
  induction s with
  | nil => rfl
  | cons c rest ih => rw [byteSize, String.utf8Len_cons, ih, Nat.add_comm]

theorem byteSize_le_of_sublist {s t : List Char} (h : Sublist s t) : byteSize s ≤ byteSize t := by
  rw [byteSize_eq_utf8Len, byteSize_eq_utf8Len]
  exact String.utf8Len_le_of_sublist h

theorem byteSize_takeBytes_le (limit : Nat) (s : List Char) :
    byteSize (takeBytes limit s) ≤ limit := by
  induction s generalizing limit with
  | nil => exact Nat.zero_le limit
  | cons c rest ih =>
      rw [takeBytes]
      split
      · next h =>
          have := ih (limit - c.utf8Size)
          rw [byteSize]
          omega
      · exact Nat.zero_le limit

theorem fileName?_nil {limit : Int} {name n : String} (h : fileName? [] limit name = some n) :
    n.toList = clean [] limit name.toList ∧ n.toList ≠ [] ∧ isDots n.toList = false := by
  unfold fileName? at h
  simp only at h
  split at h
  · cases h
  · next hleft =>
      obtain ⟨hempty, hdots⟩ := Bool.or_eq_false_iff.mp (Bool.not_eq_true _ ▸ hleft)
      rw [← Option.some.inj h, String.toList_ofList]
      exact ⟨rfl, by simpa using hempty, hdots⟩

theorem null_notMem_clean (limit : Int) (s : List Char) : '\x00' ∉ clean [] limit s := by
  intro h
  -- The null character is a control character, and these are dropped.
  have hmem := (clean_nil_sublist limit s).subset h
  have hcontrol := (List.mem_filter.mp hmem).2
  revert hcontrol
  decide

/-- Text that has no null character and is more than dots is a name that leads one level down,
whatever dots and letters follow. -/
theorem isProper_of_toList {n : String} (hempty : n.toList ≠ []) (hdots : isDots n.toList = false)
    (hnull : '\x00' ∉ n.toList) : IsProper n where
  down := by
    refine Bool.or_eq_false_iff.mpr ⟨beq_eq_false_iff_ne.mpr ?_, beq_eq_false_iff_ne.mpr ?_⟩
    · rintro rfl
      exact hempty rfl
    · rintro rfl
      cases hdots
  dots := by
    rintro rfl
    cases hdots
  null := by
    unfold Volume.holdsNull
    simpa using hnull

/-- **A file name leads one level down.** -/
theorem isProper_of_fileName? {limit : Int} {name n : String}
    (h : fileName? [] limit name = some n) : IsProper n := by
  obtain ⟨hclean, hempty, hdots⟩ := fileName?_nil h
  refine isProper_of_toList hempty hdots ?_
  rw [hclean]
  exact null_notMem_clean limit name.toList

end Name

/-! ## §4. Names of snapshots. -/

/-- The name of a snapshot leads one level down as well. -/
theorem isProper_snapshot {limit : Int} {name n : String}
    (h : Name.fileName? [] limit name = some n) : IsProper (n ++ snapshotSuffix) := by
  obtain ⟨hclean, hempty, hdots⟩ := Name.fileName?_nil h
  have hlist : (n ++ snapshotSuffix).toList = n.toList ++ ['.', 'j', 's', 'o', 'n'] := by
    rw [String.toList_append]
    rfl
  refine Name.isProper_of_toList ?_ ?_ ?_
  · rw [hlist]
    simp
  · rw [hlist]
    unfold Name.isDots
    simp
  · rw [hlist, hclean]
    intro hmem
    rcases List.mem_append.mp hmem with hmem | hmem
    · exact Name.null_notMem_clean limit name.toList hmem
    · revert hmem
      decide

theorem readTemplate_empty : Name.Template.read "" = .ok [] := by
  unfold Name.Template.read
  rw [show "".toList = [] from rfl, Name.Token.scan, Name.readPieces]

/-- Snapshots with different names for the category or the test have different locations. -/
theorem snapshot_inj {dir : Location} {c c' t t' : String}
    (h : dir ++ [c] ++ [t ++ snapshotSuffix] = dir ++ [c'] ++ [t' ++ snapshotSuffix]) :
    c = c' ∧ t = t' := by
  -- Both locations end in one name for the test, before it one for the category.
  obtain ⟨hdirectory, htest⟩ := List.append_inj' h rfl
  obtain ⟨-, hc⟩ := List.append_inj' hdirectory rfl
  refine ⟨by simpa using hc, ?_⟩
  have hlist : (t ++ snapshotSuffix).toList = (t' ++ snapshotSuffix).toList := by
    rw [List.singleton_inj.mp htest]
  rw [String.toList_append, String.toList_append] at hlist
  exact String.toList_injective (List.append_cancel_right hlist)

/-- The file name of a text by the empty template. -/
theorem fileNameOf_text (limit : Int) (s : String) :
    fileNameOf "" limit (.text s) = match Name.fileName? [] limit s with
      | none => .error (.emptyName (.text s))
      | some n => .ok n := by
  unfold fileNameOf
  rw [readTemplate_empty]
  rfl

end Golden

/-
  Golden.Proofs.BlackLab.FileName
  ────────────────────────────────
  **THE FILE NAME OF A PATH.**

  A text falls in one way into a directory part, empty or with a separator at
  its end, and a last segment without separators.  The file name is that last
  segment, wherever the text names a file at all:

      fileName (directory ++ name)  =  name

  A file name is its own file name, so the transform that reduces paths has
  nothing left to do the second time.
-/
import Mathlib.Data.List.DropRight
import Golden.Proofs.Decimal.Digits
import Golden.Proofs.Sanitize.Shallow

namespace Golden.BlackLab

open Value

/-! ## §1. The two parts of a path. -/

/-- A text in front of a file name: it is empty or ends in a separator. -/
def IsDirectory (directory : List Char) : Prop :=
  ∀ c ∈ directory.getLast?, isSeparator c = true

/-- A text without separators. -/
def IsSegment (segment : List Char) : Prop := ∀ c ∈ segment, isSeparator c = false

instance (directory : List Char) : Decidable (IsDirectory directory) :=
  decidable_of_iff (directory.getLast?.all isSeparator = true) (Option.all_eq_true _ _)

instance (segment : List Char) : Decidable (IsSegment segment) :=
  decidable_of_iff (segment.all (fun c => !isSeparator c) = true) (by simp [IsSegment])

theorem parts_of_append {directory segment : List Char} (hd : IsDirectory directory)
    (hs : IsSegment segment) : directoryPart (directory ++ segment) = directory ∧
      lastSegment (directory ++ segment) = segment := by
  -- Both parts are read off the text from its end.
  have hsegment : ∀ c ∈ segment.reverse, (!isSeparator c) = true := fun c hc => by
    rw [hs c (List.mem_reverse.mp hc)]
    rfl
  have hdirectory : ∀ c ∈ directory.reverse.head?, (!isSeparator c) = false := fun c hc => by
    rw [hd c (List.head?_reverse ▸ hc)]
    rfl
  obtain ⟨htake, hdrop⟩ := Decimal.takeWhile_dropWhile_append hsegment hdirectory
  unfold directoryPart lastSegment
  rw [List.reverse_append, htake, hdrop, List.reverse_reverse, List.reverse_reverse]
  exact ⟨rfl, rfl⟩

theorem isSegment_lastSegment (s : List Char) : IsSegment (lastSegment s) := by
  intro c hc
  have hnot := List.mem_rtakeWhile_imp hc
  simpa using hnot

/-! ## §2. File names. -/

/-- A text that names a file: a directory text without line feeds, and a name. -/
def NamesFile (s name : String) : Prop :=
  name ≠ "" ∧ IsSegment name.toList ∧ ∃ directory : String, s = directory ++ name ∧
    IsDirectory directory.toList ∧ '\n' ∉ directory.toList

theorem fileName_eq (s : String) : fileName s =
    if (directoryPart s.toList).isEmpty || (lastSegment s.toList).isEmpty ||
      (directoryPart s.toList).contains '\n' then s else String.ofList (lastSegment s.toList) := rfl

/-- The file name of a text that names a file. -/
theorem fileName_of_namesFile {s name : String} (h : NamesFile s name) : fileName s = name := by
  obtain ⟨hname, hsegment, directory, rfl, hdirectory, hline⟩ := h
  obtain ⟨hpart, hlast⟩ := parts_of_append hdirectory hsegment
  rw [fileName_eq, String.toList_append, hpart, hlast]
  have hne : name.toList.isEmpty = false := by
    rw [List.isEmpty_eq_false_iff]
    exact fun h => hname (String.toList_eq_nil_iff.mp h)
  cases hempty : directory.toList.isEmpty with
  | true =>
      rw [String.toList_eq_nil_iff.mp (List.isEmpty_iff.mp hempty)]
      simp
  | false => simp [hne, hline]

/-- A text without separators is left alone. -/
theorem fileName_of_isSegment {s : String} (h : IsSegment s.toList) : fileName s = s := by
  have hempty : IsDirectory [] := by simp [IsDirectory]
  have hpart : directoryPart s.toList = [] := (parts_of_append hempty h).1
  rw [fileName_eq, hpart]
  rfl

/-- A file name is its own file name. -/
theorem fileName_fileName (s : String) : fileName (fileName s) = fileName s := by
  -- Either the text is left whole, or what is left of it has no separators.
  by_cases h : (directoryPart s.toList).isEmpty || (lastSegment s.toList).isEmpty ||
      (directoryPart s.toList).contains '\n'
  · have hself : fileName s = s := if_pos h
    rw [hself, hself]
  · have hname : fileName s = String.ofList (lastSegment s.toList) := if_neg h
    rw [hname]
    refine fileName_of_isSegment ?_
    rw [String.toList_ofList]
    exact isSegment_lastSegment s.toList

/-! ## §3. The transform. -/

theorem dropDirectory_file (s : String) :
    dropDirectory ⟨.text s, some (.text fromInputFile)⟩ = .text (fileName s) := rfl

/-- Whatever the transform changes is a text under the key of an input document. -/
theorem dropDirectory_cases (c : Call) : dropDirectory c = c.value ∨
    ∃ s, c = ⟨.text s, some (.text fromInputFile)⟩ ∧ dropDirectory c = .text (fileName s) := by
  obtain ⟨v, key⟩ := c
  unfold dropDirectory
  split
  · next s k hv hkey =>
      simp only at hv hkey
      subst hv hkey
      by_cases hk : k = fromInputFile
      · rw [if_pos hk, hk]
        exact Or.inr ⟨s, rfl, rfl⟩
      · rw [if_neg hk]
        exact Or.inl rfl
  · exact Or.inl rfl

theorem shallow_dropDirectory : Shallow dropDirectory where
  bare v := by
    rcases dropDirectory_cases ⟨v, none⟩ with h | ⟨s, h, -⟩
    · exact h
    · cases h
  whole v key hv := by
    rcases dropDirectory_cases ⟨v, key⟩ with h | ⟨s, h, -⟩
    · exact h
    · cases h
      cases hv
  scalar v key hv := by
    rcases dropDirectory_cases ⟨v, key⟩ with h | ⟨s, -, h⟩
    · rw [h]
      exact hv
    · rw [h]
      rfl
  marker key := by
    rcases dropDirectory_cases ⟨removed, key⟩ with h | ⟨s, hs, h⟩
    · exact h
    · cases hs
      rw [h, fileName_of_isSegment (by decide)]
      rfl

/-- The transform has nothing to do the second time. -/
theorem dropDirectory_dropDirectory (c : Call) :
    dropDirectory ⟨dropDirectory c, c.key⟩ = dropDirectory c := by
  rcases dropDirectory_cases c with h | ⟨s, rfl, h⟩
  · rw [h]
    exact h
  · rw [h, dropDirectory_file, fileName_fileName]

end Golden.BlackLab

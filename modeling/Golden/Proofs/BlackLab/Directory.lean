/-
  Golden.Proofs.BlackLab.Directory
  ────────────────────────────────
  **THE DIRECTORY OF A PATH: A PATTERN, A PLACE, A SPLIT.**

  There are three ways to say what is taken off a path.  A pattern says it:
  from the start of the text anything but line feeds, then a separator, then a
  run of at least one character that is none, up to the end; the run is kept:

      ^ [^\n]* [/\\] ([^/\\]+) $

  A place says it: the last separator, where something stands behind it and no
  line feed before it.  And `fileName` splits the text in two.  The three are
  one, for every text.  The pattern's end could also stand before a last line
  feed, but the longer run is tried first and reaches the very end, so that
  line feed is kept.
-/
import Golden.Proofs.BlackLab.FileName
import Golden.Proofs.Text.Pattern

namespace Golden.BlackLab

open Text (Pattern Place Element runs)
open Text.Pattern (match? match?_cons)

/-! ## §1. A text with a directory. -/

/-- What the pattern of a directory is met by behind the start of a text. -/
def directoryRest : Pattern :=
  [.run (fun c => c != '\n'), .one isSeparator, .keep (fun c => !isSeparator c), .finish]

/-- A directory, with its last separator, in front of a name that is kept. -/
def directoryPattern : Pattern := .start :: directoryRest

/-- A text falls into a directory without line feeds, a separator, and a name. -/
structure Divides (s directory : List Char) (c : Char) (name : List Char) : Prop where
  append : directory ++ c :: name = s
  line : '\n' ∉ directory
  separator : isSeparator c = true
  nonempty : name ≠ []
  segment : IsSegment name

/-- The place of the last separator. -/
def LastSeparator (s : List Char) (p : Nat) : Prop :=
  (∃ c ∈ s[p]?, isSeparator c = true) ∧ ∀ q, p < q → ∀ c ∈ s[q]?, isSeparator c = false

/-! ## §2. The split. -/

theorem separator_ne_line {c : Char} (h : isSeparator c = true) : c ≠ '\n' := by
  rintro rfl
  exact absurd h (by decide)

namespace Divides

variable {s directory name : List Char} {c : Char}

theorem parts (h : Divides s directory c name) :
    directoryPart s = directory ++ [c] ∧ lastSegment s = name := by
  have hd : IsDirectory (directory ++ [c]) := by
    intro d hd
    rw [List.getLast?_concat] at hd
    obtain rfl := Option.some.inj hd
    exact h.separator
  have hs : directory ++ [c] ++ name = s := by
    rw [List.append_assoc]
    exact h.append
  rw [← hs]
  exact parts_of_append hd h.segment

/-- The name behind a directory is the file name. -/
theorem fileName {s : String} (h : Divides s.toList directory c name) :
    (fileName s).toList = name := by
  obtain ⟨hpart, hlast⟩ := h.parts
  have hpath : (directoryPart s.toList).isEmpty = false := by
    rw [hpart]
    exact List.isEmpty_eq_false_iff.mpr (by simp)
  have hname : (lastSegment s.toList).isEmpty = false := by
    rw [hlast]
    exact List.isEmpty_eq_false_iff.mpr h.nonempty
  have hline : (directoryPart s.toList).contains '\n' = false := by
    rw [hpart, List.contains_eq_mem, decide_eq_false_iff_not, List.mem_append, List.mem_singleton]
    rintro (hd | hc)
    · exact h.line hd
    · exact separator_ne_line h.separator hc.symm
  rw [fileName_eq, hpath, hname, hline, hlast]
  exact String.toList_ofList

end Divides

/-- A directory part is a directory with its last separator. -/
theorem exists_of_directoryPart {s : List Char} (h : directoryPart s ≠ []) :
    ∃ directory c, directoryPart s = directory ++ [c] ∧ isSeparator c = true := by
  refine ⟨(directoryPart s).dropLast, (directoryPart s).getLast h,
    (List.dropLast_concat_getLast h).symm, ?_⟩
  have hlast : ¬ (!isSeparator ((directoryPart s).getLast h)) = true :=
    List.rdropWhile_last_not (fun c => !isSeparator c) s h
  simpa using hlast

theorem directoryPart_append_lastSegment (s : List Char) : directoryPart s ++ lastSegment s = s :=
  List.rdropWhile_append_rtakeWhile

/-- A text that falls into no directory and name is left alone. -/
theorem fileName_of_not_divides {s : String}
    (h : ∀ directory c name, ¬ Divides s.toList directory c name) : fileName s = s := by
  rw [fileName_eq]
  refine if_pos (by_contra fun hcond => ?_)
  simp only [Bool.or_eq_true, not_or, List.isEmpty_iff, List.contains_eq_mem,
    decide_eq_true_eq] at hcond
  obtain ⟨⟨hpart, hname⟩, hline⟩ := hcond
  obtain ⟨directory, c, hd, hc⟩ := exists_of_directoryPart hpart
  refine h directory c (lastSegment s.toList) ⟨?_, ?_, hc, hname, isSegment_lastSegment _⟩
  · have hall := directoryPart_append_lastSegment s.toList
    rw [hd, List.append_assoc] at hall
    exact hall
  · rw [hd] at hline
    exact fun hmem => hline (List.mem_append_left [c] hmem)

/-! ## §3. The pattern. -/

theorem match?_finish (p : Place) :
    match? [.finish] p = if p.rest = [] ∨ p.rest = ['\n'] then some p else none := by
  rw [match?_cons, Element.places]
  split <;> rfl

/-- A name is matched to the very end of the text, the line feed at its end included. -/
theorem match?_name {p : Place} (hnonempty : p.rest ≠ []) (hsegment : IsSegment p.rest) :
    match? [.keep (fun c => !isSeparator c), .finish] p =
      some ⟨p.offset + p.rest.length, [], p.rest⟩ := by
  have hrun : ∀ c ∈ p.rest, (!isSeparator c) = true := by
    intro c hc
    rw [hsegment c hc]
    rfl
  obtain ⟨more, hmore⟩ := List.head?_eq_some_iff.mp (Text.head?_runs_of_forall hrun)
  rw [match?_cons, Element.places, hmore, List.filter_cons_of_pos (by simpa using hnonempty),
    List.map_cons, List.findSome?_cons, match?_finish]
  rfl

/-- Whatever is matched up to the end of the text, or to a line feed there, is a name. -/
theorem segment_of_match?_name {p q : Place}
    (h : match? [.keep (fun c => !isSeparator c), .finish] p = some q) :
    p.rest ≠ [] ∧ IsSegment p.rest := by
  rw [match?_cons] at h
  obtain ⟨r, hr, hq⟩ := List.exists_of_findSome?_eq_some h
  obtain ⟨⟨taken, left⟩, hrun, rfl⟩ := List.mem_map.mp hr
  obtain ⟨hmem, htaken⟩ := List.mem_filter.mp hrun
  obtain ⟨happend, htest⟩ := Text.mem_runs.mp hmem
  rw [match?_finish] at hq
  have hleft : left = [] ∨ left = ['\n'] := by
    by_contra hnot
    exact absurd (hq.symm.trans (if_neg hnot)) (by simp)
  rw [← happend]
  refine ⟨?_, ?_⟩
  · intro hnil
    rw [(List.append_eq_nil_iff.mp hnil).1] at htaken
    cases htaken
  · intro c hc
    rcases List.mem_append.mp hc with hc | hc
    · simpa using htest c hc
    · rcases hleft with rfl | rfl
      · cases hc
      · obtain rfl := List.mem_singleton.mp hc
        decide

theorem match?_separator (es : Pattern) (p : Place) {c : Char} {s : List Char}
    (hrest : p.rest = c :: s) (hc : isSeparator c = true) :
    match? (.one isSeparator :: es) p = match? es ⟨p.offset + 1, s, p.kept⟩ := by
  rw [match?_cons, Element.places, hrest]
  dsimp only
  rw [if_pos hc]
  exact List.findSome?_singleton

theorem exists_of_match?_separator {es : Pattern} {p q : Place}
    (h : match? (.one isSeparator :: es) p = some q) : ∃ c s, p.rest = c :: s ∧
      isSeparator c = true ∧ match? es ⟨p.offset + 1, s, p.kept⟩ = some q := by
  cases hrest : p.rest with
  | nil =>
      rw [match?_cons, Element.places, hrest] at h
      cases h
  | cons c s =>
      cases hc : isSeparator c with
      | false =>
          rw [match?_cons, Element.places, hrest] at h
          dsimp only at h
          rw [hc, if_neg Bool.false_ne_true] at h
          cases h
      | true =>
          rw [match?_separator es p hrest hc] at h
          exact ⟨c, s, rfl, hc, h⟩

/-- Whatever the pattern is met by falls into a directory and a name, and the name is kept. -/
theorem divides_of_match? {s : List Char} {q : Place}
    (h : match? directoryRest ⟨0, s, []⟩ = some q) :
    ∃ directory c, Divides s directory c q.kept ∧ q.rest = [] ∧ 0 < q.offset := by
  unfold directoryRest at h
  rw [match?_cons] at h
  obtain ⟨r, hr, hq⟩ := List.exists_of_findSome?_eq_some h
  obtain ⟨⟨directory, left⟩, hrun, rfl⟩ := List.mem_map.mp hr
  obtain ⟨happend, htest⟩ := Text.mem_runs.mp hrun
  obtain ⟨c, name, hleft, hc, hname⟩ := exists_of_match?_separator hq
  obtain ⟨hnonempty, hsegment⟩ := segment_of_match?_name hname
  rw [match?_name hnonempty hsegment] at hname
  obtain rfl := Option.some.inj hname
  have hline : '\n' ∉ directory := fun hmem => absurd (htest '\n' hmem) (by decide)
  have happend : directory ++ c :: name = s := hleft ▸ happend
  refine ⟨directory, c, ⟨happend, hline, hc, hnonempty, hsegment⟩, rfl, ?_⟩
  show 0 < (⟨0, s, []⟩ : Place).offset + directory.length + 1 + name.length
  omega

/-- Each text that falls into a directory and a name meets the pattern. -/
theorem isSome_match?_of_divides {s directory name : List Char} {c : Char}
    (h : Divides s directory c name) : (match? directoryRest ⟨0, s, []⟩).isSome = true := by
  unfold directoryRest
  rw [match?_cons, List.findSome?_isSome_iff]
  have hrun : (directory, c :: name) ∈ runs (fun c => c != '\n') s := by
    refine Text.mem_runs.mpr ⟨h.append, ?_⟩
    intro d hd
    exact bne_iff_ne.mpr (fun hline => h.line (hline ▸ hd))
  refine ⟨_, List.mem_map_of_mem hrun, ?_⟩
  rw [match?_separator _ _ rfl h.separator, match?_name h.nonempty h.segment]
  rfl

theorem Divides.replace {s directory name : List Char} {c : Char}
    (h : Divides s directory c name) : directoryPattern.replace s = name := by
  obtain ⟨q, hq⟩ := Option.isSome_iff_exists.mp (isSome_match?_of_divides h)
  obtain ⟨d, e, hdivides, hrest, hoffset⟩ := divides_of_match? hq
  have hlength : q.rest.length < s.length := by
    rw [hrest, ← h.append, List.length_append, List.length_cons, List.length_nil]
    omega
  -- A text falls into a directory and a name in one way only.
  have hkept : q.kept = name := hdivides.parts.2.symm.trans h.parts.2
  show Pattern.replace (.start :: directoryRest) s = name
  rw [Text.Pattern.replace_start_of_some hq hoffset hlength, hrest, hkept, List.append_nil]

example : directoryPattern.replace "c:\\a/b\n".toList = "b\n".toList := by cbv

theorem replace_of_not_divides {s : List Char}
    (h : ∀ directory c name, ¬ Divides s directory c name) : directoryPattern.replace s = s := by
  apply Text.Pattern.replace_start_of_none
  cases hmatch : match? directoryRest ⟨0, s, []⟩ with
  | none => rfl
  | some q =>
      obtain ⟨directory, c, hdivides, -⟩ := divides_of_match? hmatch
      exact absurd hdivides (h directory c q.kept)

/-! ## §4. The place. -/

namespace Divides

variable {s directory name : List Char} {c : Char}

theorem lt_length (h : Divides s directory c name) : directory.length + 1 < s.length := by
  have hname : 0 < name.length := List.length_pos_iff.mpr h.nonempty
  rw [← h.append, List.length_append, List.length_cons]
  omega

theorem take_eq (h : Divides s directory c name) : s.take directory.length = directory := by
  rw [← h.append]
  exact List.take_left

theorem drop_eq (h : Divides s directory c name) : s.drop (directory.length + 1) = name := by
  rw [← h.append, List.drop_append]
  simp

theorem lastSeparator (h : Divides s directory c name) : LastSeparator s directory.length := by
  rw [← h.append]
  refine ⟨⟨c, ?_, h.separator⟩, ?_⟩
  · show (directory ++ c :: name)[directory.length]? = some c
    simp
  · intro q hq d hd
    apply h.segment
    have hbehind : (directory ++ c :: name)[q]? = name[q - directory.length - 1]? := by
      rw [List.getElem?_append_right (by omega), List.getElem?_cons,
        if_neg (show ¬ q - directory.length = 0 by omega)]
    rw [hbehind] at hd
    exact List.mem_of_getElem? hd

end Divides

theorem LastSeparator.lt_length {s : List Char} {p : Nat} (h : LastSeparator s p) :
    p < s.length := by
  obtain ⟨⟨c, hc, -⟩, -⟩ := h
  exact (List.getElem?_eq_some_iff.mp hc).1

/-- The last separator divides the text, where something stands behind it and no line feed in front
of it. -/
theorem LastSeparator.divides {s : List Char} {p : Nat} (h : LastSeparator s p)
    (hbehind : p + 1 < s.length) (hline : '\n' ∉ s.take p) :
    ∃ c, Divides s (s.take p) c (s.drop (p + 1)) := by
  obtain ⟨⟨c, hc, hseparator⟩, hlast⟩ := h
  obtain ⟨hp, rfl⟩ := List.getElem?_eq_some_iff.mp hc
  refine ⟨s[p], ?_, hline, hseparator, ?_, ?_⟩
  · rw [← List.drop_eq_getElem_cons hp]
    exact List.take_append_drop p s
  · intro hnil
    rw [List.drop_eq_nil_iff] at hnil
    omega
  · intro d hd
    obtain ⟨i, hi⟩ := List.mem_iff_getElem?.mp hd
    rw [List.getElem?_drop] at hi
    exact hlast (p + 1 + i) (by omega) d hi

/-- **The file name of a text is what the pattern leaves of it: the text behind its last separator,
where something stands there and no line feed stands before it, and else the whole text.** -/
theorem dropDirectory_replaces (s : String) :
    ∃ name : String, dropDirectory ⟨.text s, some (.text fromInputFile)⟩ = .text name ∧
      name.toList = directoryPattern.replace s.toList ∧
      ((∃ p, LastSeparator s.toList p ∧ p + 1 < s.toList.length ∧ '\n' ∉ s.toList.take p ∧
          name.toList = s.toList.drop (p + 1)) ∨
        ((∀ p, LastSeparator s.toList p →
            p + 1 = s.toList.length ∨ '\n' ∈ s.toList.take p) ∧ name = s)) := by
  refine ⟨fileName s, dropDirectory_file s, ?_⟩
  by_cases h : ∃ directory c name, Divides s.toList directory c name
  · obtain ⟨directory, c, name, hdivides⟩ := h
    refine ⟨hdivides.fileName.trans hdivides.replace.symm, Or.inl ⟨directory.length, ?_⟩⟩
    refine ⟨hdivides.lastSeparator, hdivides.lt_length, ?_, ?_⟩
    · rw [hdivides.take_eq]
      exact hdivides.line
    · rw [hdivides.drop_eq]
      exact hdivides.fileName
  · have hnot : ∀ directory c name, ¬ Divides s.toList directory c name :=
      fun directory c name hdivides => h ⟨directory, c, name, hdivides⟩
    have hname : fileName s = s := fileName_of_not_divides hnot
    rw [hname, replace_of_not_divides hnot]
    refine ⟨rfl, Or.inr ⟨?_, rfl⟩⟩
    intro p hp
    by_contra hgood
    rw [not_or] at hgood
    have hlt : p < s.toList.length := hp.lt_length
    obtain ⟨c, hdivides⟩ := hp.divides (by omega) hgood.2
    exact hnot _ _ _ hdivides

end Golden.BlackLab

/-
  Golden.Proofs.Name.Limit
  ────────────────────────────────
  **HOW FAR A FILE NAME EXCEEDS ITS LIMIT.**

  The last replacement comes after the cut: the dots and spaces that the cut
  leaves at the end, however many, give way to one copy of the replacement.  So
  a file name can be longer than its limit, by all of the replacement but one
  byte at the most, and every replacement reaches this:

      fileNameOf "__" 4 "abc.def"  =  "abc__"
      bytes  ≤  limit + (bytes of the replacement - 1)

  Within every limit stay just the replacements of at most one byte.  All of
  this is about replacements that are plain text, which stand for themselves.
-/
import Golden.Proofs.Name.Meaning

namespace Golden

namespace Name

/-! ## §1. Plain text as a template. -/

/-- The template that writes a text whatever is replaced. -/
def literally (text : String) : Template := text.toList.map .literal

theorem expand_literally (text : String) (found : List Char) :
    (literally text).expand found = text.toList := by
  unfold literally Template.expand
  rw [List.flatMap_map]
  exact List.flatMap_singleton' text.toList

theorem scan_plain {s : List Char} (h : '\\' ∉ s) : Token.scan s = s.map .plain := by
  induction s with
  | nil => rfl
  | cons c s ih =>
      have hc : c ≠ '\\' := fun hc => h (hc ▸ List.mem_cons_self)
      have hs := ih (fun hmem => h (List.mem_cons_of_mem c hmem))
      rw [Token.scan.eq_def]
      split
      · next heq => cases heq
      · next heq => exact absurd (List.cons.inj heq).1 hc
      · next heq => exact absurd (List.cons.inj heq).1 hc
      · next heq =>
          obtain ⟨rfl, rfl⟩ := List.cons.inj heq
          rw [hs]
          rfl

theorem readPieces_plain (length : Nat) (s : List Char) :
    readPieces length (s.map .plain) = .ok (s.map .literal) := by
  induction s with
  | nil => rw [List.map_nil, readPieces]; rfl
  | cons c s ih =>
      -- No plain character is a stray backslash, so reading goes on behind it.
      have hgoes : s.map Token.plain ≠ [.stray] := by
        cases s with
        | nil => exact fun h => (by cases h)
        | cons d s => exact fun h => (by cases (List.cons.inj h).1)
      rw [List.map_cons, readPieces]
      show (if s.map Token.plain = [.stray] then _ else _) = _
      rw [if_neg hgoes]
      show (do
        let more ← readPieces length (s.map .plain)
        pure ([Piece.literal c] ++ more)) = _
      rw [ih]
      rfl

theorem read_literally {text : String} (h : '\\' ∉ text.toList) :
    Template.read text = .ok (literally text) := by
  unfold Template.read
  rw [scan_plain h, readPieces_plain]
  rfl

/-- A name with a plain text in place of what is unsafe. -/
theorem fileNameOf_literally {replacement : String} (h : '\\' ∉ replacement.toList) (limit : Int)
    (name : String) : fileNameOf replacement limit (.text name) =
      match fileName? (literally replacement) limit name with
      | none => .error (.emptyName (.text name))
      | some n => .ok n := by
  unfold fileNameOf
  rw [read_literally h]
  rfl

/-! ## §2. The replacement at the end. -/

/-- What the first five replacements leave. -/
def tidied (t : Template) (s : List Char) : List Char :=
  replaceTrailing t (replaceWhole isReserved t (replaceWhole isDots t
    (replaceEach isControl t (replaceEach isIllegal t s))))

theorem clean_eq (t : Template) (limit : Nat) (s : List Char) :
    clean t limit s = replaceTrailing t (takeBytes limit (tidied t s)) := by
  rw [← truncate_natCast]
  rfl

/-- Whether a text falls into a stem, the whole run of dots and spaces behind it, and the line feed
at the very end if there is one. -/
structure Ending (s stem run final : List Char) : Prop where
  parts : s = stem ++ run ++ final
  trailing : ∀ c ∈ run, c = '.' ∨ c = ' '
  stem : stem.getLast? ≠ some '.' ∧ stem.getLast? ≠ some ' '
  final : final = ['\n'] ∨ final = [] ∧ s.getLast? ≠ some '\n'

theorem ending_splitFinal (s : List Char) :
    Ending s (stripped (splitFinal s).1) ((splitFinal s).1.rtakeWhile isTrailing)
      (splitFinal s).2 where
  parts := by
    show s = (splitFinal s).1.rdropWhile isTrailing ++ _ ++ _
    rw [List.rdropWhile_append_rtakeWhile, splitFinal_append]
  trailing := by
    intro c hc
    simpa [isTrailing] using List.mem_rtakeWhile_imp hc
  stem := getLast?_stripped _
  final := by
    unfold splitFinal
    by_cases hlast : s.getLast? = some '\n'
    · rw [if_pos hlast]
      exact Or.inl rfl
    · rw [if_neg hlast]
      exact Or.inr ⟨rfl, hlast⟩

/-! ## §3. Limits. -/

theorem toList_of_fileName? {t : Template} {limit : Int} {name n : String}
    (h : fileName? t limit name = some n) : n.toList = clean t limit name.toList := by
  unfold fileName? at h
  simp only at h
  split at h
  · cases h
  · rw [← Option.some.inj h, String.toList_ofList]

/-- **One copy of the replacement stands for all of the run that the cut leaves at the end.** -/
theorem fileNameOf_ending {replacement : String} (hplain : '\\' ∉ replacement.toList) {limit : Nat}
    {name n : String} (h : fileNameOf replacement limit (.text name) = .ok n) :
    ∃ cut stem run final, IsCut limit (tidied (literally replacement) name.toList) cut ∧
      Ending cut stem run final ∧
      n.toList = stem ++ (if run = [] then [] else replacement.toList) ++ final := by
  refine ⟨_, _, _, _, isCut_takeBytes limit _, ending_splitFinal _, ?_⟩
  rw [fileNameOf_literally hplain] at h
  cases hname : fileName? (literally replacement) limit name with
  | none =>
      rw [hname] at h
      cases h
  | some m =>
      rw [hname] at h
      rw [← Except.ok.inj h, toList_of_fileName? hname, clean_eq, replaceTrailing_eq,
        expand_literally]

/-- A replacement adds at most its bytes but one to what the limit allows. -/
theorem utf8ByteSize_le_of_ending {replacement n : String} {limit : Nat}
    {s cut stem run final : List Char} (hcut : IsCut limit s cut) (h : Ending cut stem run final)
    (hn : n.toList = stem ++ (if run = [] then [] else replacement.toList) ++ final) :
    n.utf8ByteSize ≤ limit + (replacement.utf8ByteSize - 1) := by
  have hwithin := hcut.within
  rw [utf8ByteSize_ofList, h.parts, byteSize_append, byteSize_append] at hwithin
  rw [utf8ByteSize_eq n, hn, byteSize_append, byteSize_append, utf8ByteSize_eq replacement]
  by_cases hrun : run = []
  · rw [if_pos hrun]
    show byteSize stem + 0 + byteSize final ≤ _
    omega
  · -- At least one byte is dropped where the replacement stands.
    have hdropped : 0 < byteSize run := by
      cases run with
      | nil => exact absurd rfl hrun
      | cons c rest =>
          have hc := c.utf8Size_pos
          rw [byteSize]
          omega
    rw [if_neg hrun]
    omega

/-- A text in which nothing is unsafe stays as it is, whatever the template. -/
theorem tidied_eq_self (t : Template) {s : List Char} (hsafe : ∀ c ∈ s, ¬ IsForbidden c)
    (hdots : isDots s = false) (hreserved : isReserved s = false)
    (hend : s.rtakeWhile isTrailing = []) : tidied t s = s := by
  have hline : '\n' ∉ s := fun h => hsafe _ h (by decide)
  have heach : ∀ p : Char → Bool, (∀ c, p c = true → IsForbidden c) → replaceEach p t s = s := by
    intro p hp
    unfold replaceEach
    have hkeep : ∀ c ∈ s, (if p c then t.expand [c] else [c]) = [c] :=
      fun c hc => if_neg (fun h => hsafe c hc (hp c h))
    rw [List.flatMap_congr hkeep]
    exact List.flatMap_singleton' s
  have hwhole : ∀ p : List Char → Bool, p s = false → replaceWhole p t s = s := by
    intro p hp
    unfold replaceWhole
    rw [splitFinal_of_line hline]
    simp only [hp, Bool.false_eq_true, ↓reduceIte]
  have hstripped := List.rdropWhile_append_rtakeWhile (p := isTrailing) (l := s)
  rw [hend, List.append_nil] at hstripped
  unfold tidied
  rw [heach isIllegal (fun c hc => (isForbidden_iff c).mpr (Or.inl hc)),
    heach isControl (fun c hc => (isForbidden_iff c).mpr (Or.inr hc)), hwhole isDots hdots,
    hwhole isReserved hreserved, replaceTrailing_eq, splitFinal_of_line hline, if_pos hend,
    List.append_nil, List.append_nil]
  exact hstripped

/-- Every replacement overruns the limit of one name by all of it but one byte. -/
theorem fileNameOf_overrun {replacement : String} (hplain : '\\' ∉ replacement.toList) :
    fileNameOf replacement (2 : Nat) (.text "a.b") = .ok ("a" ++ replacement) := by
  have hsafe : ∀ c ∈ ['a', '.', 'b'], ¬ IsForbidden c :=
    List.forall_mem_cons.mpr ⟨by decide, List.forall_mem_cons.mpr
      ⟨by decide, List.forall_mem_singleton.mpr (by decide)⟩⟩
  have htidied : tidied (literally replacement) ['a', '.', 'b'] = ['a', '.', 'b'] :=
    tidied_eq_self _ hsafe (by decide) (by decide) (by decide)
  have hcut : takeBytes 2 ['a', '.', 'b'] = ['a', '.'] := by decide
  have hclean : clean (literally replacement) (2 : Nat) "a.b".toList =
      'a' :: replacement.toList := by
    rw [clean_eq]
    show replaceTrailing _ (takeBytes 2 (tidied _ ['a', '.', 'b'])) = _
    rw [htidied, hcut, replaceTrailing_eq, expand_literally]
    exact List.append_nil _
  have hdots : isDots ('a' :: replacement.toList) = false := rfl
  rw [fileNameOf_literally hplain]
  unfold fileName?
  simp only [hclean, hdots, List.isEmpty_cons, Bool.or_false, Bool.false_eq_true, ↓reduceIte]
  rw [String.ofList_cons, String.ofList_toList]
  rfl

/-- **How far a file name exceeds its limit.**  It is longer by all of the replacement but one byte
at the most; so it keeps to every limit, whatever the name, just if the replacement has at most one
byte.  It keeps to its limit just if the cut leaves no dots and spaces at the end, or the replacement
has room in their place. -/
theorem limit_kept_iff {replacement : String} (hplain : '\\' ∉ replacement.toList) :
    (∀ (name n : String) (limit : Nat), fileNameOf replacement limit (.text name) = .ok n →
      n.utf8ByteSize ≤ limit + (replacement.utf8ByteSize - 1) ∧
        ∃ cut stem run final, IsCut limit (tidied (literally replacement) name.toList) cut ∧
          Ending cut stem run final ∧
          (n.utf8ByteSize ≤ limit ↔ run = [] ∨
            byteSize stem + replacement.utf8ByteSize + byteSize final ≤ limit)) ∧
      ((∀ (name n : String) (limit : Nat), fileNameOf replacement limit (.text name) = .ok n →
        n.utf8ByteSize ≤ limit) ↔ replacement.utf8ByteSize ≤ 1) := by
  refine ⟨fun name n limit h => ?_, ⟨fun hkept => ?_, fun hshort name n limit h => ?_⟩⟩
  · obtain ⟨cut, stem, run, final, hcut, hending, hn⟩ := fileNameOf_ending hplain h
    refine ⟨utf8ByteSize_le_of_ending hcut hending hn, cut, stem, run, final, hcut, hending, ?_⟩
    have hwithin := hcut.within
    rw [utf8ByteSize_ofList, hending.parts] at hwithin
    rw [utf8ByteSize_eq n, hn]
    by_cases hrun : run = []
    · rw [hrun, List.append_nil] at hwithin
      rw [if_pos hrun, List.append_nil]
      exact ⟨fun _ => Or.inl hrun, fun _ => hwithin⟩
    · rw [if_neg hrun, byteSize_append, byteSize_append, ← utf8ByteSize_eq]
      exact (or_iff_right hrun).symm
  · have hover := hkept "a.b" ("a" ++ replacement) 2 (fileNameOf_overrun hplain)
    rw [String.utf8ByteSize_append] at hover
    have hletter : "a".utf8ByteSize = 1 := rfl
    omega
  · obtain ⟨cut, stem, run, final, hcut, hending, hn⟩ := fileNameOf_ending hplain h
    have hle := utf8ByteSize_le_of_ending hcut hending hn
    omega

/-- A space that the cut leaves at the end gives way to a letter of two bytes. -/
theorem limit_kept_iff_wideLetter :
    fileNameOf "é" (3 : Nat) (.text "ab cd") = .ok "abé" ∧ "abé".utf8ByteSize = 4 ∧
      "abé".utf8ByteSize ≤ 3 + ("é".utf8ByteSize - 1) := by
  have hplain : '\\' ∉ "é".toList := by decide
  have hname : fileNameOf "é" (3 : Nat) (.text "ab cd") = .ok "abé" := by
    rw [fileNameOf_literally hplain,
      show fileName? (literally "é") (3 : Nat) "ab cd" = some "abé" by decide]
  exact ⟨hname, rfl, ((limit_kept_iff hplain).1 "ab cd" "abé" 3 hname).1⟩

/-- **A file name is longer than the limit that it was cut to.** -/
theorem fileNameOf_overlong :
    fileNameOf "__" (4 : Nat) (.text "abc.def") = .ok "abc__" ∧ '\\' ∉ "__".toList ∧
      ¬ "abc__".utf8ByteSize ≤ 4 := by
  have hplain : '\\' ∉ "__".toList := by decide
  refine ⟨?_, hplain, by decide⟩
  rw [fileNameOf_literally hplain,
    show fileName? (literally "__") (4 : Nat) "abc.def" = some "abc__" by decide]

end Name

end Golden

/-
  Golden.Proofs.Diff.Lines
  ────────────────────────────────
  **A DIFFERENCE IS ONE LINE OF A REPORT.**

  The literal of a value, whatever it holds, has no line feed and no carriage
  return: texts are quoted, and quoting writes both by escapes.  A cut literal
  has none either, and a path has none, since a key is plain or quoted.  So no
  line of a report breaks in two, and the message of a mismatch, split at its
  line feeds, is the list that was put together:

      header :: first twenty differences (++ how many more there are)
-/
import Golden.Failure
import Golden.Proofs.Diff.Positions
import Golden.Proofs.Json.Number
import Golden.Proofs.Position.Text

namespace Golden

/-! ## §1. Texts on one line. -/

/-- A text with neither a line feed nor a carriage return. -/
def OneLine (s : List Char) : Prop := ∀ c ∈ s, c ≠ '\n' ∧ c ≠ '\r'

instance (s : List Char) : Decidable (OneLine s) := List.decidableBAll _ s

theorem oneLine_append {s t : List Char} : OneLine (s ++ t) ↔ OneLine s ∧ OneLine t :=
  List.forall_mem_append

theorem oneLine_cons {c : Char} {s : List Char} :
    OneLine (c :: s) ↔ (c ≠ '\n' ∧ c ≠ '\r') ∧ OneLine s :=
  List.forall_mem_cons

theorem oneLine_toList_append {s t : String} :
    OneLine (s ++ t).toList ↔ OneLine s.toList ∧ OneLine t.toList := by
  rw [String.toList_append]
  exact oneLine_append

theorem OneLine.take {s : List Char} (h : OneLine s) (n : Nat) : OneLine (s.take n) :=
  fun c hc => h c (List.mem_of_mem_take hc)

theorem oneLine_flatMap {α : Type} {xs : List α} {f : α → List Char}
    (h : ∀ x ∈ xs, OneLine (f x)) : OneLine (xs.flatMap f) := by
  intro c hc
  obtain ⟨x, hx, hcx⟩ := List.mem_flatMap.mp hc
  exact h x hx c hcx

theorem oneLine_of_forall {test : Char → Bool} (hline : test '\n' = false)
    (hreturn : test '\r' = false) {s : List Char} (h : ∀ c ∈ s, test c = true) : OneLine s := by
  intro c hc
  have htest : test c = true := h c hc
  refine ⟨?_, ?_⟩
  · rintro rfl
    rw [hline] at htest
    cases htest
  · rintro rfl
    rw [hreturn] at htest
    cases htest

theorem oneLine_intText (n : Int) : OneLine (Decimal.intText n).toList :=
  oneLine_of_forall rfl rfl (Json.isNumeric_intText n)

theorem oneLine_separated {texts : List String} (h : ∀ s ∈ texts, OneLine s.toList) :
    OneLine (Value.separated texts).toList := by
  unfold Value.separated
  induction texts with
  | nil => decide
  | cons s rest ih =>
      obtain ⟨hs, hrest⟩ := List.forall_mem_cons.mp h
      cases rest with
      | nil =>
          rw [String.intercalate_singleton]
          exact hs
      | cons t more =>
          rw [String.intercalate_cons_cons, oneLine_toList_append, oneLine_toList_append]
          exact ⟨⟨hs, by decide⟩, ih hrest⟩

/-! ## §2. Quoted texts. -/

namespace Text

theorem oneLine_toDigits (n : Nat) : OneLine (Nat.toDigits 16 n) := by
  have hdigit : ∀ m < 16, OneLine [Nat.digitChar m] := by decide
  induction n using Nat.strongRecOn with
  | ind n ih =>
      by_cases hn : n < 16
      · rw [Nat.toDigits_of_lt_base hn]
        exact hdigit n hn
      · rw [Nat.toDigits_of_base_le (by decide) (by omega)]
        refine oneLine_append.mpr ⟨ih (n / 16) (by omega), hdigit (n % 16) ?_⟩
        omega

theorem oneLine_hex (width n : Nat) : OneLine (hex width n) := by
  unfold hex
  refine oneLine_append.mpr ⟨?_, oneLine_toDigits n⟩
  intro c hc
  rw [List.eq_of_mem_replicate hc]
  decide

theorem oneLine_numbered (n : Nat) : OneLine (numbered n) := by
  have hmark : ∀ letter ∈ ['x', 'u', 'U'], ∀ width, OneLine ('\\' :: letter :: hex width n) := by
    intro letter hletter width
    have hplain : ∀ letter ∈ ['x', 'u', 'U'], OneLine ['\\', letter] := by
      simp only [List.mem_cons, List.not_mem_nil, or_false, forall_eq_or_imp, forall_eq]
      decide
    exact oneLine_append.mpr ⟨hplain letter hletter, oneLine_hex width n⟩
  unfold numbered
  split
  · exact hmark 'x' (by decide) 2
  · split
    · exact hmark 'u' (by decide) 4
    · exact hmark 'U' (by decide) 8

/-- The escape of a character, between quotes that are no line ends, is on one line. -/
theorem oneLine_escape {mark : Char} (hmark : OneLine [mark]) (c : Char) :
    OneLine (escape mark c) := by
  unfold escape
  split
  · next h =>
      have hc : OneLine [c] := by
        rcases (by simpa using h : c = mark ∨ c = '\\') with rfl | rfl
        · exact hmark
        · decide
      exact oneLine_append.mpr ⟨(by decide : OneLine ['\\']), hc⟩
  · repeat' split
    all_goals try decide
    · next hline hreturn _ =>
        exact oneLine_cons.mpr ⟨⟨hline, hreturn⟩, by decide⟩
    · exact oneLine_numbered c.toNat

theorem oneLine_markFor (s : List Char) : OneLine [markFor s] := by
  unfold markFor
  split <;> decide

theorem oneLine_quote (s : String) : OneLine (quote s).toList := by
  unfold quote quoteChars
  rw [String.toList_ofList]
  have hmark : OneLine [markFor s.toList] := oneLine_markFor s.toList
  have hbody : OneLine (s.toList.flatMap (escape (markFor s.toList))) :=
    oneLine_flatMap (fun c _ => oneLine_escape hmark c)
  exact oneLine_append.mpr ⟨hmark, oneLine_append.mpr ⟨hbody, hmark⟩⟩

theorem oneLine_quoteBytes (bytes : List UInt8) : OneLine (quoteBytes bytes).toList := by
  unfold quoteBytes
  rw [String.toList_ofList]
  generalize hm : markFor (bytes.map (fun b => Char.ofNat b.toNat)) = mark
  have hmark : OneLine [mark] := hm ▸ oneLine_markFor _
  have hbyte : ∀ b ∈ bytes, OneLine (escapeByte mark b) := by
    intro b _
    unfold escapeByte
    split
    · exact oneLine_escape hmark _
    · exact oneLine_numbered _
  have hbody : OneLine (bytes.flatMap (escapeByte mark)) := oneLine_flatMap hbyte
  have hb : OneLine ['b'] := by decide
  exact oneLine_append.mpr ⟨hb, oneLine_append.mpr ⟨hmark, oneLine_append.mpr ⟨hbody, hmark⟩⟩⟩

end Text

namespace Json

theorem oneLine_escape (c : Char) : OneLine (escape c) := by
  unfold escape
  -- Only an escape by a number and a character that stands for itself depend on the character.
  repeat' split
  all_goals try decide
  · have hmark : OneLine ['\\', 'u'] := by decide
    exact oneLine_append.mpr ⟨hmark, Text.oneLine_hex 4 c.toNat⟩
  · next hline hreturn _ _ _ _ =>
      exact oneLine_cons.mpr ⟨⟨hline, hreturn⟩, by decide⟩

theorem oneLine_quote (s : String) : OneLine (quote s).toList := by
  unfold quote quoteChars
  rw [String.toList_ofList]
  have hmark : OneLine ['"'] := by decide
  have hbody : OneLine (s.toList.flatMap escape) := oneLine_flatMap (fun c _ => oneLine_escape c)
  exact oneLine_append.mpr ⟨hmark, oneLine_append.mpr ⟨hbody, hmark⟩⟩

end Json

/-! ## §3. Literals. -/

namespace Value

theorem oneLine_between {opening closing : String} (ho : OneLine opening.toList)
    (hc : OneLine closing.toList) {texts : List String} (h : ∀ s ∈ texts, OneLine s.toList) :
    OneLine (between opening closing texts).toList := by
  unfold between
  rw [oneLine_toList_append, oneLine_toList_append]
  exact ⟨⟨ho, oneLine_separated h⟩, hc⟩

theorem oneLine_tupleText {texts : List String} (h : ∀ s ∈ texts, OneLine s.toList) :
    OneLine (tupleText texts).toList := by
  unfold tupleText
  split
  · next x =>
      have hx : OneLine x.toList := h x List.mem_cons_self
      rw [oneLine_toList_append, oneLine_toList_append]
      exact ⟨⟨by decide, hx⟩, by decide⟩
  · exact oneLine_between (by decide) (by decide) h

theorem oneLine_setText (shape : SetShape) {texts : List String}
    (h : ∀ s ∈ texts, OneLine s.toList) : OneLine (setText shape texts).toList := by
  unfold setText
  split
  · decide
  · exact oneLine_between (by decide) (by decide) h
  · decide
  · exact oneLine_between (by decide) (by decide) h

theorem oneLine_objectText (shape : ObjectShape) {texts : List String}
    (h : ∀ s ∈ texts, OneLine s.toList) : OneLine (objectText shape texts).toList := by
  cases shape with
  | plain => exact oneLine_between (by decide) (by decide) h
  | mask => exact oneLine_between (by decide) (by decide) h

theorem oneLine_float (x : Double) : OneLine (Decimal.text x).toList := by
  cases x with
  | finite negative m => exact oneLine_of_forall rfl rfl (Json.isNumeric_finiteText negative m)
  | infinite negative => cases negative <;> decide
  | nan => decide

mutual

/-- **The literal of a value is on one line, whatever the value holds.** -/
theorem oneLine_literal : ∀ v : Value, OneLine v.literal.toList
  | .null => by decide
  | .bool true => by decide
  | .bool false => by decide
  | .int n => oneLine_intText n
  | .float x => oneLine_float x
  | .text s => Text.oneLine_quote s
  | .bytes b => Text.oneLine_quoteBytes b
  | .action .replace => by decide +kernel
  | .action .delete => by decide +kernel
  | .array .list xs => oneLine_between (by decide) (by decide) (oneLine_literals xs)
  | .array .tuple xs => oneLine_tupleText (oneLine_literals xs)
  | .set shape xs => oneLine_setText shape (oneLine_literals xs)
  | .object shape fs => oneLine_objectText shape (oneLine_fieldLiterals fs)

theorem oneLine_literals : ∀ vs : List Value, ∀ s ∈ literals vs, OneLine s.toList
  | [] => fun s hs => by cases hs
  | v :: vs => by
      intro s hs
      rcases List.mem_cons.mp hs with rfl | hs
      · exact oneLine_literal v
      · exact oneLine_literals vs s hs

theorem oneLine_fieldLiterals : ∀ fs : List (Value × Value),
    ∀ s ∈ fieldLiterals fs, OneLine s.toList
  | [] => fun s hs => by cases hs
  | (k, v) :: fs => by
      intro s hs
      rcases List.mem_cons.mp hs with rfl | hs
      · rw [oneLine_toList_append, oneLine_toList_append]
        exact ⟨⟨oneLine_literal k, by decide⟩, oneLine_literal v⟩
      · exact oneLine_fieldLiterals fs s hs

end

theorem oneLine_brief (v : Value) : OneLine v.brief.toList := by
  unfold brief
  dsimp only
  split
  · exact oneLine_literal v
  · rw [oneLine_toList_append, String.toList_ofList]
    exact ⟨(oneLine_literal v).take 77, by decide⟩

theorem Kind.oneLine_name (k : Kind) : OneLine k.name.toList := by
  cases k <;> decide

end Value

/-! ## §4. Differences. -/

theorem Step.oneLine_keyText (s : String) : OneLine (Step.keyText s).toList := by
  unfold Step.keyText
  split
  · next hplain =>
      rw [oneLine_toList_append]
      exact ⟨by decide, oneLine_of_forall rfl rfl (Step.all_continuesPlainKey hplain)⟩
  · rw [oneLine_toList_append, oneLine_toList_append]
    exact ⟨⟨by decide, Json.oneLine_quote s⟩, by decide⟩

/-- A step is on one line, for an index is a number and a key is plain or quoted. -/
theorem Step.oneLine_text (s : Step) : OneLine s.text.toList := by
  have hindex : ∀ n : Int, OneLine ("[" ++ Decimal.intText n ++ "]").toList := by
    intro n
    rw [oneLine_toList_append, oneLine_toList_append]
    exact ⟨⟨by decide, oneLine_intText n⟩, by decide⟩
  unfold Step.text
  split
  · exact hindex _
  · exact hindex _
  · next b => cases b <;> decide
  · exact Step.oneLine_keyText _

theorem Position.oneLine_text (p : Position) : OneLine p.text.toList := by
  rw [Position.toList_text]
  exact oneLine_cons.mpr ⟨by decide, oneLine_flatMap (fun s _ => s.oneLine_text)⟩

theorem Finding.oneLine_text (f : Finding) : OneLine f.text.toList := by
  cases f with
  | missing => decide
  | unexpected => decide
  | kinds e a =>
      unfold Finding.text
      simp only [oneLine_toList_append]
      exact ⟨⟨⟨⟨⟨⟨⟨by decide, e.kind.oneLine_name⟩, by decide⟩, e.oneLine_brief⟩, by decide⟩,
        a.kind.oneLine_name⟩, by decide⟩, a.oneLine_brief⟩
  | lengths m n =>
      unfold Finding.text
      rw [oneLine_toList_append, oneLine_toList_append, oneLine_toList_append]
      exact ⟨⟨⟨by decide, oneLine_intText m⟩, by decide⟩, oneLine_intText n⟩
  | unequal e a =>
      unfold Finding.text
      rw [oneLine_toList_append, oneLine_toList_append, oneLine_toList_append]
      exact ⟨⟨⟨by decide, e.oneLine_brief⟩, by decide⟩, a.oneLine_brief⟩

/-- **No difference breaks a line**, whatever keys and texts the values hold. -/
theorem Difference.oneLine_line (d : Difference) : OneLine d.line.toList := by
  unfold Difference.line
  rw [oneLine_toList_append, oneLine_toList_append]
  exact ⟨⟨d.position.oneLine_text, by decide⟩, d.finding.oneLine_text⟩

/-! ## §5. Messages. -/

namespace Mismatch

/-- The line above the differences. -/
def header (category test : String) (path : Path) : String :=
  "Response for " ++ category ++ "/" ++ test ++ " differs from saved response (" ++ path.text ++ "):"

/-- The line below the differences where not all of them are shown. -/
def footer (hidden : Nat) : String := "  ... and " ++ Decimal.intText hidden ++ " more"

/-- The lines of a message are split at line feeds as they were put together. -/
theorem splitOn_message {m : Mismatch} (h : ∀ line ∈ m.lines, '\n' ∉ line.toList) :
    m.message.toList.splitOn '\n' = m.lines.map String.toList := by
  unfold message
  rw [String.toList_intercalate]
  apply List.splitOn_intercalate
  · intro l hl
    obtain ⟨line, hline, rfl⟩ := List.mem_map.mp hl
    exact h line hline
  · exact List.cons_ne_nil _ _

theorem lines_eq (category test : String) (path : Path) (ds : List String) :
    lines ⟨.text category, .text test, path, ds⟩ = header category test path ::
      ((ds.take 20).map ("  - " ++ ·) ++
        if 20 < ds.length then [footer (ds.length - 20)] else []) := by
  unfold lines header footer
  have hmore : (0 < ds.length - 20) = (20 < ds.length) := propext (by omega)
  show _ :: (_ ++ if 0 < ds.length - 20 then _ else _) = _
  rw [if_congr (iff_of_eq hmore) rfl rfl]
  rfl

theorem length_lines (category test : String) (path : Path) (ds : List String) :
    (lines ⟨.text category, .text test, path, ds⟩).length =
      1 + min ds.length 20 + (if 20 < ds.length then 1 else 0) := by
  rw [lines_eq, List.length_cons, List.length_append, List.length_map, List.length_take]
  split
  · rw [List.length_singleton]
    omega
  · rw [List.length_nil]
    omega

theorem line_notMem_lines {category test : String} {path : Path} {ds : List String}
    (hcategory : '\n' ∉ category.toList) (htest : '\n' ∉ test.toList)
    (hpath : '\n' ∉ path.text.toList) (hds : ∀ d ∈ ds, OneLine d.toList) :
    ∀ line ∈ lines ⟨.text category, .text test, path, ds⟩, '\n' ∉ line.toList := by
  intro line hline
  rw [lines_eq] at hline
  rcases List.mem_cons.mp hline with rfl | hline
  · unfold header
    simp only [String.toList_append, List.mem_append, not_or]
    exact ⟨⟨⟨⟨⟨⟨by decide, hcategory⟩, by decide⟩, htest⟩, by decide⟩, hpath⟩, by decide⟩
  · rcases List.mem_append.mp hline with hline | hline
    · obtain ⟨d, hd, rfl⟩ := List.mem_map.mp hline
      rw [String.toList_append, List.mem_append, not_or]
      exact ⟨by decide, fun h => (hds d (List.mem_of_mem_take hd) _ h).1 rfl⟩
    · split at hline
      · rw [List.mem_singleton.mp hline]
        have hfooter : OneLine (footer (ds.length - 20)).toList := by
          unfold footer
          rw [oneLine_toList_append, oneLine_toList_append]
          exact ⟨⟨by decide, oneLine_intText _⟩, by decide⟩
        exact fun h => (hfooter _ h).1 rfl
      · cases hline

/-- **The message of a mismatch says each of the first twenty differences on a line of its own**,
under a header and above the number of the others, and no difference breaks a line. -/
theorem message_splits {e a : Value} (he : e.isResponse = true) (ha : a.isResponse = true)
    {category test : String} {path : Path} (hcategory : '\n' ∉ category.toList)
    (htest : '\n' ∉ test.toList) (hpath : '\n' ∉ path.text.toList) :
    ∃ ds lines, e.report? a = some ds ∧
      (Mismatch.message ⟨.text category, .text test, path, ds⟩).toList.splitOn '\n' =
        lines.map String.toList ∧
      lines = ("Response for " ++ category ++ "/" ++ test ++ " differs from saved response (" ++
          path.text ++ "):") ::
        ((ds.take 20).map ("  - " ++ ·) ++
          if 20 < ds.length then ["  ... and " ++ Decimal.intText (ds.length - 20 : Nat) ++ " more"]
          else []) ∧
      lines.length = 1 + min ds.length 20 + (if 20 < ds.length then 1 else 0) ∧
      ∀ d ∈ ds, '\n' ∉ d.toList ∧ '\r' ∉ d.toList := by
  have hds : ∀ d ∈ (e.diff a).map (·.line), OneLine d.toList := by
    intro line hline
    obtain ⟨d, -, rfl⟩ := List.mem_map.mp hline
    exact d.oneLine_line
  refine ⟨_, _, Value.report?_of_isResponse he ha,
    splitOn_message (line_notMem_lines hcategory htest hpath hds), lines_eq _ _ _ _,
    length_lines _ _ _ _, ?_⟩
  intro d hd
  exact ⟨fun h => (hds d hd _ h).1 rfl, fun h => (hds d hd _ h).2 rfl⟩

/-- A key and texts that hold line ends, and one difference more than a message shows. -/
theorem message_splits_lineEnds :
    let e : Value := .ofFields [(.text "a\nb", .ofItems (List.replicate 21 (.text "x\r\n")))]
    let a : Value := .ofFields [(.text "a\nb", .ofItems (List.replicate 21 (.text "y\r\n")))]
    let path : Path := Path.ofString "saved/hits/all.json"
    ∃ ds, e.report? a = some ds ∧ ds.length = 21 ∧
      ds.head? = some "$[\"a\\nb\"][0]: expected 'x\\r\\n', got 'y\\r\\n'" ∧
      ((Mismatch.message ⟨.text "hits", .text "all", path, ds⟩).toList.splitOn '\n').length = 22 ∧
      ∀ d ∈ ds, '\n' ∉ d.toList ∧ '\r' ∉ d.toList := by
  intro e a path
  have he : e.isResponse = true := by decide +kernel
  have ha : a.isResponse = true := by decide +kernel
  obtain ⟨ds, lines, hreport, hsplit, -, hlength, hbreaks⟩ :=
    @message_splits e a he ha "hits" "all" path (by decide) (by decide) (by decide +kernel)
  have hds : ds = (e.diff a).map (·.line) :=
    Option.some.inj (hreport.symm.trans (Value.report?_of_isResponse he ha))
  have hcount : ds.length = 21 := by
    rw [hds]
    decide +kernel
  refine ⟨ds, hreport, hcount, ?_, ?_, hbreaks⟩
  · rw [hds]
    decide +kernel
  · rw [hsplit, List.length_map, hlength, hcount]
    decide

end Mismatch

end Golden

/-
  Golden.Proofs.Json.RoundTrip
  ────────────────────────────────
  **VALUES THAT ARE WRITTEN READ BACK.**

  What is written of a value reads back as the image of the value, whatever
  follows on its level; a value of the interchange format is its own image.
  The reader takes one unit of its fuel for a character at most, so the length
  of the text bounds what it needs:

      refusal? v = none  →  read (chars 0 v)  =  ok v.image

  Line ends stand between the parts of a value only, as line feeds, so the
  text is the same with its line ends unified.
-/
import Golden.Proofs.Json.Number
import Golden.Proofs.Json.Quoted
import Golden.Proofs.Value.Image

namespace Golden

namespace Json

open Value

/-! ## §1. How a value begins. -/

/-- Whether a word or a number may begin with a character. -/
def opensScalar (c : Char) : Bool :=
  Decimal.isDigit c || ['n', 't', 'f', 'N', 'I', '-'].contains c

/-- Whether a value may begin with a character. -/
def opensValue (c : Char) : Bool := opensScalar c || ['"', '[', '\x7b'].contains c

/-- A text that begins with a character of a class. -/
def Begins (p : Char → Bool) (s : List Char) : Prop := ∃ c rest, s = c :: rest ∧ p c = true

theorem Begins.append {p : Char → Bool} {s : List Char} (h : Begins p s) (rest : List Char) :
    Begins p (s ++ rest) := by
  obtain ⟨c, s', rfl, hc⟩ := h
  exact ⟨c, s' ++ rest, rfl, hc⟩

theorem Begins.head_ne {p : Char → Bool} {s : List Char} (h : Begins p s) {k : Char}
    (hk : p k = false) : s.head? ≠ some k := by
  obtain ⟨c, rest, rfl, hc⟩ := h
  intro hhead
  rw [Option.some.inj hhead, hk] at hc
  cases hc

theorem Begins.value {s : List Char} (h : Begins opensScalar s) : Begins opensValue s := by
  obtain ⟨c, rest, rfl, hc⟩ := h
  exact ⟨c, rest, rfl, by simp [opensValue, hc]⟩

/-- No space stands before a value, so nothing is skipped. -/
theorem Begins.skip {s : List Char} (h : Begins opensValue s) : Json.skip s = s := by
  have hspace := h.head_ne (k := ' ') (by decide)
  have htab := h.head_ne (k := '\t') (by decide)
  have hline := h.head_ne (k := '\n') (by decide)
  have hreturn := h.head_ne (k := '\r') (by decide)
  obtain ⟨c, rest, rfl, -⟩ := h
  simp only [List.head?_cons, ne_eq, Option.some.injEq] at hspace htab hline hreturn
  exact List.dropWhile_cons_of_neg (by simp [isSpace, hspace, htab, hline, hreturn])

/-- The start of a line is skipped. -/
theorem skip_newline (level : Nat) (s : List Char) : skip (newline level ++ s) = skip s := by
  unfold newline skip
  rw [List.cons_append, List.dropWhile_cons_of_pos (by decide),
    List.dropWhile_append_of_pos (fun c hc => by rw [List.eq_of_mem_replicate hc]; decide)]

theorem begins_digits (n : Nat) : Begins opensScalar (Decimal.digitsOf n) := by
  obtain ⟨c, s, hs, hc⟩ := digitsOf_eq_cons n
  exact ⟨c, s, hs, by simp [opensScalar, hc]⟩

theorem begins_signed {negative : Bool} {body : List Char} (h : Begins opensScalar body) :
    Begins opensScalar (if negative then '-' :: body else body) := by
  cases negative with
  | true => exact ⟨'-', body, rfl, by decide⟩
  | false => exact h

theorem begins_intText (n : Int) : Begins opensScalar (Decimal.intText n).toList := by
  rw [toList_intText]
  exact begins_signed (begins_digits _)

theorem begins_doubleText (x : Double) : Begins opensScalar (doubleText x).toList := by
  cases x with
  | finite negative m =>
      unfold doubleText Decimal.finiteText
      simp only [String.toList_ofList]
      refine begins_signed ?_
      by_cases hm : m.significand = 0
      · rw [if_pos hm]
        exact ⟨'0', _, rfl, by decide⟩
      · rw [if_neg hm]
        obtain ⟨c, s, hs, hc⟩ := layout_eq_cons (Decimal.figures_spec hm)
        exact ⟨c, s, hs, by simp [opensScalar, hc]⟩
  | infinite negative => cases negative <;> exact ⟨_, _, rfl, by decide⟩
  | nan => exact ⟨_, _, rfl, by decide⟩

theorem begins_block {opening closing : Char} (h : opensValue opening = true) (level : Nat)
    (texts : List (List Char)) : Begins opensValue (block opening closing level texts) := by
  unfold block
  split
  · exact ⟨_, _, rfl, h⟩
  · exact ⟨_, _, rfl, h⟩

theorem begins_chars (v : Value) (level : Nat) : Begins opensValue (chars level v) := by
  cases v with
  | null => exact ⟨_, _, rfl, by decide⟩
  | bool b => cases b <;> exact ⟨_, _, rfl, by decide⟩
  | int n => exact (begins_intText n).value
  | float x => exact (begins_doubleText x).value
  | array shape xs => exact begins_block (by decide) level _
  | object shape fs => exact begins_block (by decide) level _
  | _ => exact ⟨'"', _, rfl, by decide⟩

/-! ## §2. One step of the reader. -/

theorem readValue_scalar (fuel : Nat) {s : List Char} (h : Begins opensScalar s) :
    readValue (fuel + 1) s = readScalar s := by
  unfold readValue
  split
  · exact absurd rfl (h.head_ne (by decide))
  · exact absurd rfl (h.head_ne (by decide))
  · exact absurd rfl (h.head_ne (by decide))
  · rfl

theorem readValue_text (fuel : Nat) (s rest : List Char) :
    readValue (fuel + 1) (quoteChars s ++ rest) = .ok (.text (String.ofList s), rest) := by
  have hread := readChars_quoted (quoteChars s ++ rest) s rest
  have happend : s.flatMap escape ++ ['"'] ++ rest = s.flatMap escape ++ '"' :: rest := by simp
  unfold readValue quoteChars
  simp only [List.cons_append]
  rw [happend]
  unfold quoteChars at hread
  rw [List.cons_append, happend] at hread
  rw [hread]
  rfl

theorem readValue_array (fuel : Nat) {s : List Char} (h : (skip s).head? ≠ some ']') :
    readValue (fuel + 1) ('[' :: s) = (do
      let (xs, after) ← readItems fuel (skip s)
      pure (.ofItems xs, after)) := by
  unfold readValue
  simp only
  split
  · next hs => rw [hs] at h; exact absurd rfl h
  · rfl

theorem readValue_object (fuel : Nat) {s : List Char} (h : (skip s).head? ≠ some '\x7d') :
    readValue (fuel + 1) ('\x7b' :: s) = (do
      let (fs, after) ← readMembers fuel (skip s)
      pure (.ofFields (Fields.ofPairs fs), after)) := by
  unfold readValue
  simp only
  split
  · next hs => rw [hs] at h; exact absurd rfl h
  · rfl

/-! ## §3. Values. -/

/-- Whether the text of a value reads back as the image of the value, at every level and whatever
follows on it, with a unit of fuel for each character. -/
def ReadsBack (v : Value) : Prop :=
  ∀ (level fuel : Nat) (rest : List Char), Ends rest → (chars level v).length ≤ fuel →
    readValue fuel (chars level v ++ rest) = .ok (v.image, rest)

theorem ends_newline (level : Nat) (rest : List Char) : Ends (newline level ++ rest) := by
  intro c hc
  exact Or.inr (Option.some.inj hc).symm

theorem ends_comma (rest : List Char) : Ends (',' :: rest) := by
  intro c hc
  exact Or.inl (Option.some.inj hc).symm

/-- The items of an array read back up to its closing bracket. -/
theorem readItems_lines {xs : List Value} (hne : xs ≠ []) (hback : ∀ x ∈ xs, ReadsBack x)
    (level outer fuel : Nat) (rest : List Char)
    (hfuel : (lines level (itemChars level xs)).length ≤ fuel) :
    readItems fuel (skip (lines level (itemChars level xs) ++ (newline outer ++ ']' :: rest))) =
      .ok (itemImages xs, rest) := by
  -- Item by item: a line feed costs the unit of fuel that the step to the next item takes.
  induction xs generalizing fuel with
  | nil => exact absurd rfl hne
  | cons x xs ih =>
      have hopens := begins_chars x level
      have hx := hback x List.mem_cons_self level
      cases fuel with
      | zero => cases xs <;> simp [itemChars, lines, newline] at hfuel
      | succ fuel =>
          cases xs with
          | nil =>
              have hlen : (chars level x).length ≤ fuel := by
                simp [itemChars, lines, newline] at hfuel
                omega
              have hclose : skip (newline outer ++ ']' :: rest) = ']' :: rest := skip_newline _ _
              simp only [itemChars, lines]
              rw [List.append_assoc, skip_newline, (hopens.append _).skip]
              unfold readItems
              rw [hx fuel _ (ends_newline _ _) hlen]
              simp only [bind, Except.bind, hclose]
              rfl
          | cons y ys =>
              have hlen : (chars level x).length ≤ fuel ∧
                  (lines level (itemChars level (y :: ys))).length ≤ fuel := by
                simp [itemChars, lines, newline] at hfuel ⊢
                omega
              have hrest := ih (by simp) (fun z hz => hback z (List.mem_cons_of_mem x hz)) fuel
                hlen.2
              have hcomma : ∀ s, skip (',' :: s) = ',' :: s := fun s => rfl
              show readItems (fuel + 1) (skip (newline level ++ chars level x ++
                ',' :: lines level (itemChars level (y :: ys)) ++ _)) = _
              rw [List.append_assoc, List.append_assoc, skip_newline, (hopens.append _).skip,
                List.cons_append]
              unfold readItems
              rw [hx fuel _ (ends_comma _) hlen.1]
              simp only [bind, Except.bind, hcomma, hrest]
              rfl

/-- What is read behind the value of a member. -/
def readAfterValue (fuel : Nat) (s : String) (x : Value × List Char) :
    Except Stop (Fields × List Char) :=
  match skip x.2 with
  | '\x7d' :: after => pure ([(.text s, x.1)], after)
  | ',' :: more => do
      let (fs, after) ← readMembers fuel (skip more)
      pure ((.text s, x.1) :: fs, after)
  | stop => .error (.at .comma stop)

/-- A member is read as its key and then its value, with what follows it. -/
theorem readMembers_member (fuel : Nat) (s : String) {t : List Char} (ht : Begins opensValue t) :
    readMembers (fuel + 1) (quoteChars s.toList ++ ':' :: ' ' :: t) =
      (readValue fuel t >>= readAfterValue fuel s) := by
  have hread := readChars_quoted (quoteChars s.toList ++ ':' :: ' ' :: t) s.toList (':' :: ' ' :: t)
  have happend : s.toList.flatMap escape ++ ['"'] ++ ':' :: ' ' :: t =
      s.toList.flatMap escape ++ '"' :: ':' :: ' ' :: t := by simp
  have hcolon : skip (':' :: ' ' :: t) = ':' :: ' ' :: t := rfl
  have hspace : skip (' ' :: t) = t := by
    rw [← ht.skip]
    exact (List.dropWhile_cons_of_pos (by decide)).trans (by rw [ht.skip]; exact ht.skip)
  unfold quoteChars at hread ⊢
  rw [List.cons_append, happend] at hread ⊢
  conv_lhs => unfold readMembers
  simp only [hread, bind, Except.bind, hcolon, hspace, String.ofList_toList]
  rfl

theorem fieldChars_cons (level : Nat) {k : Value} (hk : keyRefusal? k = none) (v : Value)
    (fs : Fields) : fieldChars level ((k, v) :: fs) =
      (quoteChars (keyImage k).toList ++ ':' :: ' ' :: chars level v) :: fieldChars level fs := by
  rw [fieldChars, keyText_eq_keyImage hk]

/-- The members of an object read back up to its closing brace. -/
theorem readMembers_lines {fs : Fields} (hne : fs ≠ []) (hkeys : ∀ f ∈ fs, keyRefusal? f.1 = none)
    (hback : ∀ f ∈ fs, ReadsBack f.2) (level outer fuel : Nat) (rest : List Char)
    (hfuel : (lines level (fieldChars level fs)).length ≤ fuel) :
    readMembers fuel
        (skip (lines level (fieldChars level fs) ++ (newline outer ++ '\x7d' :: rest))) =
      .ok (Fields.ofNamed (fieldImages fs), rest) := by
  -- As with items, but a key and a colon come before each value.
  induction fs generalizing fuel with
  | nil => exact absurd rfl hne
  | cons f fs ih =>
      obtain ⟨k, v⟩ := f
      have hopens := begins_chars v level
      have hx := hback (k, v) List.mem_cons_self level
      have hkey : ∀ t, Begins opensValue (quoteChars (keyImage k).toList ++ t) :=
        fun t => ⟨'"', _, rfl, by decide⟩
      rw [fieldChars_cons level (hkeys (k, v) List.mem_cons_self)] at hfuel ⊢
      cases fuel with
      | zero => cases fs <;> simp [fieldChars, lines, newline] at hfuel
      | succ fuel =>
          cases fs with
          | nil =>
              have hlen : (chars level v).length ≤ fuel := by
                simp [fieldChars, lines, newline] at hfuel
                omega
              have hclose : skip (newline outer ++ '\x7d' :: rest) = '\x7d' :: rest :=
                skip_newline _ _
              simp only [fieldChars, lines]
              rw [List.append_assoc, skip_newline, List.append_assoc, (hkey _).skip,
                List.cons_append, List.cons_append,
                readMembers_member fuel (keyImage k) (hopens.append _), hx fuel _ (ends_newline _ _) hlen]
              simp only [bind, Except.bind, readAfterValue, hclose]
              rfl
          | cons g gs =>
              have hlen : (chars level v).length ≤ fuel ∧
                  (lines level (fieldChars level (g :: gs))).length ≤ fuel := by
                simp [fieldChars, lines, newline] at hfuel ⊢
                omega
              have hrest := ih (by simp) (fun h hh => hkeys h (List.mem_cons_of_mem _ hh))
                (fun h hh => hback h (List.mem_cons_of_mem _ hh)) fuel hlen.2
              have hcomma : ∀ t, skip (',' :: t) = ',' :: t := fun t => rfl
              show readMembers (fuel + 1) (skip (newline level ++
                (quoteChars (keyImage k).toList ++ ':' :: ' ' :: chars level v) ++
                ',' :: lines level (fieldChars level (g :: gs)) ++ _)) = _
              rw [List.append_assoc, List.append_assoc, skip_newline, List.append_assoc,
                (hkey _).skip, List.cons_append, List.cons_append, List.cons_append,
                readMembers_member fuel (keyImage k) (hopens.append _), hx fuel _ (ends_comma _) hlen.1]
              simp only [bind, Except.bind, readAfterValue, hcomma, hrest]
              rfl

theorem intFits_of_refusal? {n : Int} (h : refusal? (.int n) = none) : intFits n = true := by
  cases hn : intFits n with
  | true => rfl
  | false =>
      rw [refusal?, hn] at h
      cases h

/-- A scalar reads back. -/
theorem readsBack_scalar {v : Value} (hv : v.isScalar = true) (hwrite : refusal? v = none) :
    ReadsBack v := by
  intro level fuel rest hr hfuel
  -- No text of a scalar is empty, so there is fuel for one step.
  obtain ⟨fuel, rfl⟩ : ∃ n, fuel = n + 1 := by
    obtain ⟨c, s, hs, -⟩ := begins_chars v level
    rw [hs, List.length_cons] at hfuel
    exact ⟨fuel - 1, by omega⟩
  cases v with
  | null => exact readValue_scalar fuel (s := chars level .null ++ rest) ⟨_, _, rfl, by decide⟩
  | bool b => cases b <;> exact readValue_scalar fuel (s := _ ++ rest) ⟨_, _, rfl, by decide⟩
  | int n =>
      have hn : intFits n = true := intFits_of_refusal? hwrite
      exact (readValue_scalar fuel ((begins_intText n).append rest)).trans (readScalar_int hn hr)
  | float x =>
      exact (readValue_scalar fuel ((begins_doubleText x).append rest)).trans
        (readScalar_double x hr)
  | text s =>
      have hread := readValue_text fuel s.toList rest
      rw [String.ofList_toList] at hread
      exact hread
  | bytes b => simp [refusal?] at hwrite
  | action a => simp [refusal?] at hwrite
  | set shape xs => simp [refusal?] at hwrite
  | array shape xs => cases hv
  | object shape fs => cases hv

theorem block_append {opening closing : Char} {texts : List (List Char)} (h : texts ≠ [])
    (level : Nat) (rest : List Char) : block opening closing level texts ++ rest =
      opening :: (lines (level + 1) texts ++ (newline level ++ closing :: rest)) := by
  have hempty : texts.isEmpty = false := by simpa using h
  simp [block, hempty]

theorem length_block {opening closing : Char} (level : Nat) (texts : List (List Char)) :
    (lines (level + 1) texts).length < (block opening closing level texts).length := by
  cases texts with
  | nil => simp [block, lines]
  | cons t ts =>
      rw [block, if_neg (by simp)]
      simp only [List.length_cons, List.length_append]
      omega

/-- On the first of several lines begins a value. -/
theorem begins_lines {t : List Char} (ht : Begins opensValue t) (ts : List (List Char))
    (level : Nat) (rest : List Char) :
    Begins opensValue (skip (lines level (t :: ts) ++ rest)) := by
  cases ts with
  | nil =>
      show Begins opensValue (skip (newline level ++ t ++ rest))
      rw [List.append_assoc, skip_newline, (ht.append rest).skip]
      exact ht.append rest
  | cons u us =>
      show Begins opensValue (skip (newline level ++ t ++ _ ++ rest))
      rw [List.append_assoc, List.append_assoc, skip_newline, (ht.append _).skip]
      exact ht.append _

/-- An array reads back if its items do. -/
theorem readsBack_array (shape : ArrayShape) {xs : List Value} (hback : ∀ x ∈ xs, ReadsBack x) :
    ReadsBack (.array shape xs) := by
  intro level fuel rest hr hfuel
  -- The brackets leave less to the items than the array has.
  have hlt : (lines (level + 1) (itemChars (level + 1) xs)).length < fuel :=
    lt_of_lt_of_le (length_block level _) hfuel
  obtain ⟨fuel, rfl⟩ : ∃ n, fuel = n + 1 := ⟨fuel - 1, by omega⟩
  cases xs with
  | nil => rfl
  | cons x xs =>
      have hne : itemChars (level + 1) (x :: xs) ≠ [] := List.cons_ne_nil _ _
      have hbegins : Begins opensValue (skip (lines (level + 1) (itemChars (level + 1) (x :: xs)) ++
          (newline level ++ ']' :: rest))) :=
        begins_lines (begins_chars x (level + 1)) _ (level + 1) _
      have hitems := readItems_lines (List.cons_ne_nil x xs) hback (level + 1) level fuel rest
        (by omega)
      show readValue (fuel + 1) (block '[' ']' level _ ++ rest) = _
      rw [block_append hne, readValue_array fuel (hbegins.head_ne (by decide)), hitems]
      rfl

/-- An object reads back if its values do. -/
theorem readsBack_object (shape : ObjectShape) {fs : Fields}
    (hkeys : ∀ f ∈ fs, keyRefusal? f.1 = none) (hback : ∀ f ∈ fs, ReadsBack f.2) :
    ReadsBack (.object shape fs) := by
  intro level fuel rest hr hfuel
  -- The braces leave less to the members than the object has.
  have hlt : (lines (level + 1) (fieldChars (level + 1) fs)).length < fuel :=
    lt_of_lt_of_le (length_block level _) hfuel
  obtain ⟨fuel, rfl⟩ : ∃ n, fuel = n + 1 := ⟨fuel - 1, by omega⟩
  cases fs with
  | nil => rfl
  | cons f fs =>
      have hne : fieldChars (level + 1) (f :: fs) ≠ [] := List.cons_ne_nil _ _
      have hbegins : Begins opensValue (skip (lines (level + 1) (fieldChars (level + 1) (f :: fs)) ++
          (newline level ++ '\x7d' :: rest))) :=
        begins_lines ⟨'"', _, rfl, by decide⟩ (fieldChars (level + 1) fs) (level + 1) _
      have hmembers := readMembers_lines (List.cons_ne_nil f fs) hkeys hback (level + 1) level fuel
        rest (by omega)
      show readValue (fuel + 1) (block '\x7b' '\x7d' level _ ++ rest) = _
      rw [block_append hne, readValue_object fuel (hbegins.head_ne (by decide)), hmembers]
      simp only [bind, Except.bind, Fields.ofPairs_ofNamed]
      rfl

theorem itemsRefusal?_eq_none_iff {xs : List Value} :
    itemsRefusal? xs = none ↔ ∀ x ∈ xs, refusal? x = none := by
  induction xs with
  | nil => simp [itemsRefusal?]
  | cons x xs ih => simp [itemsRefusal?, ih]

theorem fieldsRefusal?_eq_none_iff {fs : Fields} :
    fieldsRefusal? fs = none ↔ ∀ f ∈ fs, keyRefusal? f.1 = none ∧ refusal? f.2 = none := by
  induction fs with
  | nil => simp [fieldsRefusal?]
  | cons f fs ih => simp [fieldsRefusal?, ih, and_assoc]

/-- **Every value that can be written reads back as its image.** -/
theorem readsBack (v : Value) (h : refusal? v = none) : ReadsBack v := by
  induction v using Value.induct with
  | scalar v hv => exact readsBack_scalar hv h
  | array shape xs ih =>
      have hitems := itemsRefusal?_eq_none_iff.mp h
      exact readsBack_array shape (fun x hx => ih x hx (hitems x hx))
  | object shape fs ih =>
      cases shape with
      | plain =>
          have hfields := fieldsRefusal?_eq_none_iff.mp h
          exact readsBack_object .plain (fun f hf => (hfields f hf).1)
            (fun f hf => ih f hf (hfields f hf).2)
      | mask => cases h

/-! ## §4. Documents. -/

/-- **A written document reads back.** -/
theorem read_chars {v : Value} (h : refusal? v = none) : read (chars 0 v) = .ok v.image := by
  have hbegins := begins_chars v 0
  have hends : Ends [] := fun c hc => by cases hc
  have hvalue := readsBack v h 0 (2 * (chars 0 v).length + 2) [] hends (by omega)
  rw [List.append_nil] at hvalue
  unfold read readText
  rw [if_neg (hbegins.head_ne (by decide)), hbegins.skip, hvalue]
  rfl

/-- Every value of the interchange format can be written. -/
theorem refusal?_eq_none (v : Value) (h : v.isJson = true) : refusal? v = none := by
  induction v, h using Value.inductJson with
  | scalar v hv h =>
      cases v with
      | int n =>
          have hn : intFits n = true := h
          unfold refusal?
          rw [hn]
          rfl
      | bytes b => simp [isJson] at h
      | action a => simp [isJson] at h
      | set shape xs => simp [isJson] at h
      | array shape xs => cases hv
      | object shape fs => cases hv
      | _ => rfl
  | items xs h ih => exact itemsRefusal?_eq_none_iff.mpr ih
  | fields fs h ih =>
      refine fieldsRefusal?_eq_none_iff.mpr (fun f hf => ⟨?_, ih f hf⟩)
      obtain ⟨s, hs⟩ := isText_iff.mp (isJson_of_mem_fields h f hf).1
      rw [hs]
      rfl

theorem return_notMem_newline (level : Nat) : '\r' ∉ newline level := by
  intro h
  rcases List.mem_cons.mp h with h | h
  · cases h
  · cases List.eq_of_mem_replicate h

theorem return_notMem_lines (level : Nat) {texts : List (List Char)}
    (h : ∀ t ∈ texts, '\r' ∉ t) : '\r' ∉ lines level texts := by
  induction texts with
  | nil => exact List.not_mem_nil
  | cons t ts ih =>
      have ht := h t List.mem_cons_self
      have hts := ih (fun u hu => h u (List.mem_cons_of_mem t hu))
      have hline := return_notMem_newline level
      cases ts with
      | nil => simp [lines, ht, hline]
      | cons u us => simp [lines, ht, hline, hts]

theorem return_notMem_block {opening closing : Char} (ho : opening ≠ '\r') (hc : closing ≠ '\r')
    (level : Nat) {texts : List (List Char)} (h : ∀ t ∈ texts, '\r' ∉ t) :
    '\r' ∉ block opening closing level texts := by
  have hlines := return_notMem_lines (level + 1) h
  have hline := return_notMem_newline level
  unfold block
  split
  · simp [ho.symm, hc.symm]
  · simp [ho.symm, hc.symm, hlines, hline]

theorem exists_of_mem_itemChars {level : Nat} {xs : List Value} {t : List Char}
    (h : t ∈ itemChars level xs) : ∃ x ∈ xs, t = chars level x := by
  induction xs with
  | nil => cases h
  | cons x xs ih =>
      rcases List.mem_cons.mp h with rfl | h
      · exact ⟨x, List.mem_cons_self, rfl⟩
      · obtain ⟨y, hy, rfl⟩ := ih h
        exact ⟨y, List.mem_cons_of_mem x hy, rfl⟩

theorem exists_of_mem_fieldChars {level : Nat} {fs : Fields} {t : List Char}
    (h : t ∈ fieldChars level fs) : ∃ f ∈ fs,
      t = quoteChars (keyText f.1).toList ++ ':' :: ' ' :: chars level f.2 := by
  induction fs with
  | nil => cases h
  | cons f fs ih =>
      rcases List.mem_cons.mp h with rfl | h
      · exact ⟨f, List.mem_cons_self, rfl⟩
      · obtain ⟨g, hg, rfl⟩ := ih h
        exact ⟨g, List.mem_cons_of_mem f hg, rfl⟩

/-- A written value holds no carriage return. -/
theorem return_notMem_chars (v : Value) (level : Nat) : '\r' ∉ chars level v := by
  induction v using Value.induct generalizing level with
  | scalar v hv =>
      cases v with
      | null => show '\r' ∉ "null".toList; decide
      | bool b => cases b <;> simp [chars]
      | int n => exact fun hr => Bool.noConfusion (isNumeric_intText n _ hr)
      | float x =>
          cases x with
          | finite negative m => exact fun hr => Bool.noConfusion (isNumeric_finiteText negative m _ hr)
          | infinite negative => cases negative <;> simp [chars, doubleText]
          | nan => simp [chars, doubleText]
      | array shape xs => cases hv
      | object shape fs => cases hv
      | _ => exact return_notMem_quoteChars _
  | array shape xs ih =>
      refine return_notMem_block (by decide) (by decide) level (fun t ht => ?_)
      obtain ⟨x, hx, rfl⟩ := exists_of_mem_itemChars ht
      exact ih x hx (level + 1)
  | object shape fs ih =>
      refine return_notMem_block (by decide) (by decide) level (fun t ht => ?_)
      obtain ⟨f, hf, rfl⟩ := exists_of_mem_fieldChars ht
      have hkey := return_notMem_quoteChars (keyText f.1).toList
      have hvalue := ih f hf (level + 1)
      simp [hkey, hvalue]

/-! ## §5. Images. -/

theorem itemChars_eq_map (level : Nat) (xs : List Value) :
    itemChars level xs = xs.map (chars level) := by
  induction xs with
  | nil => rfl
  | cons x xs ih => rw [itemChars, ih, List.map_cons]

theorem fieldChars_eq_map (level : Nat) (fs : Fields) : fieldChars level fs =
    fs.map (fun f => quoteChars (keyText f.1).toList ++ ':' :: ' ' :: chars level f.2) := by
  induction fs with
  | nil => rfl
  | cons f fs ih => rw [fieldChars, ih, List.map_cons]

/-- **Where all keys are texts a value and its image have the same text.** -/
theorem chars_image (v : Value) (h : v.hasTextKeys = true) (level : Nat) :
    chars level v.image = chars level v := by
  induction v using Value.induct generalizing level with
  | scalar v hv =>
      cases v with
      | array shape xs => cases hv
      | object shape fs => cases hv
      | _ => rfl
  | array shape xs ih =>
      have hitems := itemsHaveTextKeys_iff.mp h
      rw [image, itemImages_eq_map, chars, chars, itemChars_eq_map, itemChars_eq_map,
        List.map_map]
      exact congrArg _ (List.map_congr_left (fun x hx => ih x hx (hitems x hx) (level + 1)))
  | object shape fs ih =>
      have hvalues := hasTextKeys_of_mem_fields h
      rw [image_object shape h, chars, chars, fieldChars_eq_map, fieldChars_eq_map, List.map_map]
      refine congrArg _ (List.map_congr_left (fun f hf => ?_))
      rw [Function.comp_apply, ih f hf (hvalues f hf) (level + 1)]

/-- The image of a value that can be written is a value of the interchange format. -/
theorem isJson_image (v : Value) (h : refusal? v = none) : v.image.isJson = true := by
  induction v using Value.induct with
  | scalar v hv =>
      cases v with
      | int n => exact intFits_of_refusal? h
      | bytes b => cases h
      | action a => cases h
      | set shape xs => cases h
      | array shape xs => cases hv
      | object shape fs => cases hv
      | _ => rfl
  | array shape xs ih =>
      have hitems := itemsRefusal?_eq_none_iff.mp h
      refine itemsAreJson_iff.mpr (fun x hx => ?_)
      rw [itemImages_eq_map] at hx
      obtain ⟨y, hy, rfl⟩ := List.mem_map.mp hx
      exact ih y hy (hitems y hy)
  | object shape fs ih =>
      cases shape with
      | mask => cases h
      | plain =>
          have hfields := fieldsRefusal?_eq_none_iff.mp h
          refine fieldsAreJson_merged (fun x hx => ?_)
          obtain ⟨f, hf, hfx⟩ := mem_fieldImages hx
          rw [hfx]
          exact ih f hf (hfields f hf).2

end Json

end Golden

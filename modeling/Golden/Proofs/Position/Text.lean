/-
  Golden.Proofs.Position.Text
  ────────────────────────────────
  **A PATH TEXT NAMES ONE POSITION.**

  A step has one of three forms, which its first two characters tell apart: a
  plain key behind a dot, a quoted key in brackets, an index in brackets.  Each
  form shows its own end, a plain key by the first character that is not one of
  its own.  So the first step of a path reads back,

      read? (step.text ++ rest)  =  some (step, rest)

  where `rest` is empty, begins with a step, or begins with what stands behind
  the path of a report line.  Hence two positions of the same text are equal,
  whatever characters their keys are made of.
-/
import Golden.Proofs.Decimal.Digits
import Golden.Proofs.Diff.Positions
import Golden.Proofs.Json.Quoted

namespace Golden

/-! ## §1. The three forms of a step. -/

namespace Step

/-- Whether the step is an index or has a text as key. -/
def isNamed : Step → Bool
  | .index _ => true
  | .key k => k.isText

theorem toList_text_index (i : Nat) :
    (Step.index i).text.toList = '[' :: (Decimal.digitsOf i ++ [']']) := by
  simp [text, Decimal.intText]

theorem toList_text_plain {s : String} (hs : isPlainKey s = true) :
    (Step.key (.text s)).text.toList = '.' :: s.toList := by
  simp [text, keyText, Value.plain, hs]

theorem toList_text_quoted {s : String} (hs : isPlainKey s = false) :
    (Step.key (.text s)).text.toList =
      '[' :: '"' :: (s.toList.flatMap Json.escape ++ ['"', ']']) := by
  simp [text, keyText, Value.plain, hs, Json.quote, Json.quoteChars]

/-! ## §2. Reading a step. -/

/-- The first step of a path with what follows it. -/
def read? : List Char → Option (Step × List Char)
  | '.' :: cs =>
      some (.key (.text (String.ofList (cs.takeWhile continuesPlainKey))),
        cs.dropWhile continuesPlainKey)
  | '[' :: '"' :: cs =>
      match Json.readChars cs cs with
      | .ok (s, ']' :: rest) => some (.key (.text (String.ofList s)), rest)
      | _ => none
  | '[' :: cs =>
      match Decimal.spanDigits cs with
      | (ds, ']' :: rest) => some (.index (Decimal.natOf ds), rest)
      | _ => none
  | _ => none

/-- Whether a text does not begin with a character that would continue a plain key. -/
def Apart (rest : List Char) : Prop := ∀ c ∈ rest.head?, continuesPlainKey c = false

theorem all_continuesPlainKey {s : String} (hs : isPlainKey s = true) :
    ∀ c ∈ s.toList, continuesPlainKey c = true := by
  unfold isPlainKey at hs
  cases hcs : s.toList with
  | nil => rw [hcs] at hs; cases hs
  | cons d ds =>
      rw [hcs] at hs
      obtain ⟨hd, hds⟩ := Bool.and_eq_true_iff.mp hs
      intro c hc
      rcases List.mem_cons.mp hc with rfl | hc
      · rw [continuesPlainKey, hd, Bool.true_or]
      · exact List.all_eq_true.mp hds c hc

theorem read?_plain {s : String} (hs : isPlainKey s = true) {rest : List Char} (hr : Apart rest) :
    read? ((Step.key (.text s)).text.toList ++ rest) = some (.key (.text s), rest) := by
  obtain ⟨htake, hdrop⟩ := Decimal.takeWhile_dropWhile_append (all_continuesPlainKey hs) hr
  rw [toList_text_plain hs, List.cons_append, read?, htake, hdrop, String.ofList_toList]

theorem read?_quoted {s : String} (hs : isPlainKey s = false) (rest : List Char) :
    read? ((Step.key (.text s)).text.toList ++ rest) = some (.key (.text s), rest) := by
  have hread : ∀ opening,
      Json.readChars opening (s.toList.flatMap Json.escape ++ '"' :: ']' :: rest) =
        .ok (s.toList, ']' :: rest) :=
    fun opening => Json.readChars_quoted opening s.toList (']' :: rest)
  rw [toList_text_quoted hs, List.cons_append, List.cons_append, List.append_assoc, read?]
  simp only [List.cons_append, List.nil_append, hread, String.ofList_toList]

theorem read?_index (i : Nat) (rest : List Char) :
    read? ((Step.index i).text.toList ++ rest) = some (.index i, rest) := by
  have hspan : Decimal.spanDigits (Decimal.digitsOf i ++ ']' :: rest) =
      (Decimal.digitsOf i, ']' :: rest) :=
    Decimal.spanDigits_append (Decimal.allDigits_digitsOf i) (by rintro c ⟨⟩; decide)
  -- A number does not begin with a quote, so it is not taken for a quoted key.
  have hquote : ∀ cs, Decimal.digitsOf i ++ ']' :: rest ≠ '"' :: cs := by
    intro cs heq
    have hfirst : '"' ∈ Decimal.digitsOf i := by
      cases hds : Decimal.digitsOf i with
      | nil => exact absurd hds (Decimal.digitsOf_ne_nil i)
      | cons d ds =>
          rw [hds, List.cons_append, List.cons.injEq] at heq
          rw [heq.1]
          exact List.mem_cons_self
    exact absurd (Decimal.allDigits_digitsOf i '"' hfirst) (by decide)
  rw [toList_text_index, List.cons_append, List.append_assoc]
  simp only [List.cons_append, List.nil_append]
  rw [read?]
  · simp only [hspan, Decimal.natOf_digitsOf]
  · exact hquote

/-- **A step reads back**, whatever it is and whatever follows it. -/
theorem read?_text {s : Step} (hs : s.isNamed = true) {rest : List Char} (hr : Apart rest) :
    read? (s.text.toList ++ rest) = some (s, rest) := by
  cases s with
  | index i => exact read?_index i rest
  | key k =>
      obtain ⟨key, rfl⟩ := Value.isText_iff.mp hs
      cases hkey : isPlainKey key with
      | true => exact read?_plain hkey hr
      | false => exact read?_quoted hkey rest

/-- A step begins with a dot or a bracket. -/
theorem head?_text {s : Step} (hs : s.isNamed = true) (rest : List Char) :
    (s.text.toList ++ rest).head? = some '.' ∨ (s.text.toList ++ rest).head? = some '[' := by
  cases s with
  | index i => exact Or.inr (by rw [toList_text_index]; rfl)
  | key k =>
      obtain ⟨key, rfl⟩ := Value.isText_iff.mp hs
      cases hkey : isPlainKey key with
      | true => exact Or.inl (by rw [toList_text_plain hkey]; rfl)
      | false => exact Or.inr (by rw [toList_text_quoted hkey]; rfl)

end Step

/-! ## §3. Reading a path. -/

namespace Position

/-- Whether every step is an index or has a text as key. -/
def isNamed (p : Position) : Bool := p.all Step.isNamed

/-- The characters of the steps of a position. -/
def steps (p : Position) : List Char := p.flatMap (fun s => s.text.toList)

theorem steps_cons (s : Step) (p : Position) : steps (s :: p) = s.text.toList ++ steps p := rfl

theorem toList_text (p : Position) : p.text.toList = '$' :: p.steps := by
  have hfold : ∀ (p : Position) (s : String),
      (p.foldl (fun path step => path ++ step.text) s).toList = s.toList ++ p.steps := by
    intro p
    induction p with
    | nil => intro s; simp [steps]
    | cons step p ih => intro s; simp [ih, steps]
  exact hfold p "$"

/-- Whether a text begins with no step and does not continue one, so that a path ends before it. -/
def Ends (rest : List Char) : Prop :=
  ∀ c ∈ rest.head?, continuesPlainKey c = false ∧ c ≠ '.' ∧ c ≠ '['

theorem apart_steps {p : Position} (hp : p.isNamed = true) {rest : List Char} (hr : Ends rest) :
    Step.Apart (p.steps ++ rest) := by
  intro c hc
  cases p with
  | nil => exact (hr c hc).1
  | cons s p =>
      have hs : s.isNamed = true := (List.all_eq_true.mp hp) s List.mem_cons_self
      rw [steps_cons, List.append_assoc] at hc
      rcases Step.head?_text hs _ with h | h <;> rw [h] at hc <;> cases hc <;> decide

/-- No step stands where a path ends. -/
theorem steps_cons_ne {s : Step} (hs : s.isNamed = true) (p : Position) (more : List Char)
    {rest : List Char} (hr : Ends rest) : steps (s :: p) ++ more ≠ rest := by
  rintro rfl
  rw [steps_cons, List.append_assoc] at hr
  rcases Step.head?_text hs (steps p ++ more) with h | h
  · exact (hr '.' h).2.1 rfl
  · exact (hr '[' h).2.2 rfl

/-- **Paths with the same characters have the same steps and the same characters behind them.** -/
theorem steps_append_inj {p q : Position} (hp : p.isNamed = true) (hq : q.isNamed = true)
    {rest rest' : List Char} (hr : Ends rest) (hr' : Ends rest')
    (h : p.steps ++ rest = q.steps ++ rest') : p = q ∧ rest = rest' := by
  -- Step by step along both positions: each first step is the one that is read.
  induction p generalizing q with
  | nil =>
      cases q with
      | nil => exact ⟨rfl, h⟩
      | cons t q =>
          exact absurd h.symm (steps_cons_ne (List.all_eq_true.mp hq t List.mem_cons_self) q _ hr)
  | cons s p ih =>
      have hs : s.isNamed = true := List.all_eq_true.mp hp s List.mem_cons_self
      cases q with
      | nil => exact absurd h (steps_cons_ne hs p _ hr')
      | cons t q =>
          obtain ⟨ht, hqs⟩ := Bool.and_eq_true_iff.mp hq
          obtain ⟨-, hps⟩ := Bool.and_eq_true_iff.mp hp
          have hread := congrArg Step.read? h
          rw [steps_cons, steps_cons, List.append_assoc, List.append_assoc,
            Step.read?_text hs (apart_steps hps hr),
            Step.read?_text ht (apart_steps hqs hr'), Option.some.injEq, Prod.mk.injEq] at hread
          obtain ⟨rfl, htail⟩ := hread
          obtain ⟨rfl, hrest⟩ := ih hps hqs htail
          exact ⟨rfl, hrest⟩

theorem ends_nil : Ends [] := by
  intro c hc
  cases hc

theorem eq_of_text_eq {p q : Position} (hp : p.isNamed = true) (hq : q.isNamed = true)
    (h : p.text = q.text) : p = q := by
  have hchars := congrArg String.toList h
  rw [toList_text, toList_text, List.cons.injEq] at hchars
  refine (steps_append_inj hp hq ends_nil ends_nil ?_).1
  rw [List.append_nil, List.append_nil]
  exact hchars.2

end Position

/-! ## §4. The paths of a report. -/

/-- Every position that is reported of two responses goes by indices and texts. -/
theorem Value.isNamed_of_mem_diff (e a : Value) (he : e.isResponse = true)
    (ha : a.isResponse = true) : ∀ d ∈ e.diff a, d.position.isNamed = true := by
  refine forall_mem_diff (motive := fun d => d.position.isNamed = true) (fun e a _ _ => ⟨rfl, rfl⟩)
    (fun m n => rfl) (fun k hk => ?_) (fun i d hd => ?_) (fun k d hk hd => ?_) e a he ha
  · have hone : Position.isNamed [.key k] = true := Bool.and_eq_true_iff.mpr ⟨hk, rfl⟩
    exact ⟨hone, hone⟩
  · exact Bool.and_eq_true_iff.mpr ⟨rfl, hd⟩
  · exact Bool.and_eq_true_iff.mpr ⟨hk, hd⟩

/-- Whether a report line is about a position: it begins with its path and a colon. -/
def Position.Heads (p : Position) (line : String) : Prop := ∃ more, line = p.text ++ ": " ++ more

theorem Difference.heads_line (d : Difference) : d.position.Heads d.line := ⟨d.finding.text, rfl⟩

/-- A colon ends a path, so a line is about one position only. -/
theorem Position.heads_inj {p q : Position} (hp : p.isNamed = true) (hq : q.isNamed = true)
    {line : String} (h : p.Heads line) (h' : q.Heads line) : p = q := by
  obtain ⟨more, rfl⟩ := h
  obtain ⟨more', hline⟩ := h'
  have hchars := congrArg String.toList hline
  simp only [String.toList_append, toList_text, List.cons_append, List.append_assoc,
    List.cons.injEq, true_and] at hchars
  have hends : ∀ more, Ends (": ".toList ++ more) := by
    rintro more c ⟨⟩
    decide
  exact (steps_append_inj hp hq (hends _) (hends _) hchars).1

/-- **Path texts are unambiguous.**  Positions with the same text are the same, and so are those of
any two differences, of whatever responses, that are reported under the same path. -/
theorem Position.text_names_one :
    (∀ p q : Position, p.isNamed = true → q.isNamed = true → p.text = q.text → p = q) ∧
    ∀ e a e' a' : Value, e.isResponse = true → a.isResponse = true → e'.isResponse = true →
      a'.isResponse = true → ∀ d ∈ e.diff a, ∀ d' ∈ e'.diff a',
        d.position.text = d'.position.text → d.position = d'.position := by
  refine ⟨fun p q hp hq h => eq_of_text_eq hp hq h, ?_⟩
  intro e a e' a' he ha he' ha' d hd d' hd' h
  exact eq_of_text_eq (Value.isNamed_of_mem_diff e a he ha d hd)
    (Value.isNamed_of_mem_diff e' a' he' ha' d' hd') h

/-- A key of digits is no index, a key with a dot is not two keys, and a key that looks like the
end of one and the beginning of the next is a single one.  Where two reports have the same path,
both are about the same key. -/
theorem Position.text_names_one_lookalikes :
    Position.text [.key (.text "0")] ≠ Position.text [.index 0] ∧
    Position.text [.key (.text "a.b")] ≠ Position.text [.key (.text "a"), .key (.text "b")] ∧
    Position.text [.key (.text "a.\"][\"b.")] ≠
      Position.text [.key (.text "a."), .key (.text "b.")] ∧
    ∃ d ∈ (Value.ofFields [(.text "é", .null)]).diff (.ofFields []),
      ∃ d' ∈ (Value.ofFields []).diff (.ofFields [(.text "é", .null)]),
        d.position.text = d'.position.text ∧ d.position = d'.position := by
  refine ⟨fun h => ?_, fun h => ?_, fun h => ?_, ?_⟩
  · cases text_names_one.1 _ _ rfl rfl h
  · exact absurd (text_names_one.1 _ _ rfl rfl h) (by simp)
  · exact absurd (text_names_one.1 _ _ rfl rfl h) (by simp)
  · have hd : ⟨[.key (.text "é")], .missing⟩ ∈
        (Value.ofFields [(.text "é", .null)]).diff (.ofFields []) := List.mem_singleton.mpr rfl
    have hd' : ⟨[.key (.text "é")], .unexpected⟩ ∈
        (Value.ofFields []).diff (.ofFields [(.text "é", .null)]) := List.mem_singleton.mpr rfl
    exact ⟨_, hd, _, hd', rfl, text_names_one.2 _ _ _ _ rfl rfl rfl rfl _ hd _ hd' rfl⟩

end Golden

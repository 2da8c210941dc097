/-
  Golden.Proofs.Name.Meaning
  ────────────────────────────────
  **WHAT BECOMES OF A NAME.**

  By the empty template the six replacements come to three plain steps: the
  forbidden characters go, the longest prefix within the byte limit stays, and
  of this the dots and spaces at the end go:

      fileNameOf "" limit name  =  stripped (cut limit (allowed name))

  A name is refused just if nothing is left then, or if without its forbidden
  characters it is a device name, alone or before a dot.  The order of the
  steps is what makes this work: no line feed is left when the ends of the
  text are looked at, and dots and spaces that are dropped before the limit
  is applied would be dropped after it as well.
-/
import Mathlib.Data.List.DropRight
import Golden.Proofs.Decimal.Digits
import Golden.Proofs.Name.Safe

namespace Golden

namespace Name

/-! ## §1. The plain steps. -/

/-- Whether no file name holds the character: it has a meaning in paths or patterns, or it is a
control character. -/
def IsForbidden (c : Char) : Prop :=
  c ∈ ['/', '?', '<', '>', '\\', ':', '*', '|', '"'] ∨ c.toNat ≤ 0x1f ∨
    0x80 ≤ c.toNat ∧ c.toNat ≤ 0x9f

instance : DecidablePred IsForbidden :=
  fun c => inferInstanceAs (Decidable (c ∈ _ ∨ c.toNat ≤ _ ∨ _ ≤ c.toNat ∧ c.toNat ≤ _))

/-- A name without its forbidden characters. -/
def allowed (name : String) : List Char := name.toList.filter (fun c => ¬ IsForbidden c)

/-- Whether a text is the longest prefix of another within a number of bytes. -/
structure IsCut (limit : Nat) (s cut : List Char) : Prop where
  leads : cut <+: s
  within : (String.ofList cut).utf8ByteSize ≤ limit
  longest : ∀ q, q <+: s → (String.ofList q).utf8ByteSize ≤ limit → q.length ≤ cut.length

/-- A text without the dots and spaces at its end. -/
def stripped (s : List Char) : List Char := s.rdropWhile (fun c => c == '.' || c == ' ')

/-- The names of devices. -/
def deviceNames : List String :=
  ["con", "prn", "aux", "nul",
    "com0", "com1", "com2", "com3", "com4", "com5", "com6", "com7", "com8", "com9",
    "lpt0", "lpt1", "lpt2", "lpt3", "lpt4", "lpt5", "lpt6", "lpt7", "lpt8", "lpt9"]

/-- Whether a text is a device name in any case, alone or before a dot and anything. -/
def NamesDevice (s : List Char) : Prop :=
  ∃ device rest, s = device ++ rest ∧ String.ofList (device.map Char.toLower) ∈ deviceNames ∧
    (rest = [] ∨ rest.head? = some '.')

/-! ## §2. Characters. -/

theorem isForbidden_iff (c : Char) : IsForbidden c ↔ isIllegal c = true ∨ isControl c = true := by
  unfold IsForbidden isIllegal isControl
  simp only [List.mem_cons, List.not_mem_nil, or_false, Bool.or_eq_true, beq_iff_eq,
    decide_eq_true_eq, Bool.and_eq_true, or_assoc]
  -- Both sides are the same nine characters; the two blocks differ in how their bounds are written.
  have hfirst : c.toNat ≤ 0x1f ↔ c.toNat < 32 := by omega
  have hsecond : c.toNat ≤ 0x9f ↔ c.toNat < 160 := by omega
  rw [hfirst, hsecond]

theorem allowed_eq (name : String) :
    replaceEach isControl [] (replaceEach isIllegal [] name.toList) = allowed name := by
  rw [replaceEach_nil, replaceEach_nil, List.filter_filter]
  refine List.filter_congr (fun c _ => ?_)
  have hc := isForbidden_iff c
  by_cases h : IsForbidden c
  · rcases hc.mp h with hillegal | hcontrol
    · simp [h, hillegal]
    · simp [h, hcontrol]
  · obtain ⟨hillegal, hcontrol⟩ := not_or.mp (fun h' => h (hc.mpr h'))
    simp [h, hillegal, hcontrol]

theorem not_isForbidden_of_mem {name : String} {c : Char} (h : c ∈ allowed name) :
    ¬ IsForbidden c := by
  simpa using (List.mem_filter.mp h).2

/-- What is allowed is one line. -/
theorem newline_notMem_allowed (name : String) : '\n' ∉ allowed name := by
  intro h
  exact not_isForbidden_of_mem h (by decide)

/-! ## §3. The byte limit. -/

theorem utf8ByteSize_ofList (s : List Char) : (String.ofList s).utf8ByteSize = byteSize s := by
  rw [String.utf8ByteSize_ofList, byteSize_eq_utf8Len]

theorem utf8ByteSize_eq (n : String) : n.utf8ByteSize = byteSize n.toList := by
  rw [← utf8ByteSize_ofList, String.ofList_toList]

theorem byteSize_append (s t : List Char) : byteSize (s ++ t) = byteSize s + byteSize t := by
  rw [byteSize_eq_utf8Len, byteSize_eq_utf8Len, byteSize_eq_utf8Len, String.utf8Len_append]

/-- **Whole characters are taken as long as they fit.** -/
theorem isCut_takeBytes (limit : Nat) (s : List Char) : IsCut limit s (takeBytes limit s) where
  leads := takeBytes_isPrefix limit s
  within := by
    rw [utf8ByteSize_ofList]
    exact byteSize_takeBytes_le limit s
  longest := by
    intro q hq hfits
    rw [utf8ByteSize_ofList] at hfits
    -- The first character of the prefix fits, so it is taken, and the rest has less room.
    induction s generalizing limit q with
    | nil => rw [List.prefix_nil.mp hq]; exact Nat.zero_le _
    | cons c rest ih =>
        cases q with
        | nil => exact Nat.zero_le _
        | cons d q =>
            obtain ⟨rfl, hrest⟩ := List.cons_prefix_cons.mp hq
            rw [byteSize] at hfits
            rw [takeBytes, if_pos (by omega)]
            exact Nat.succ_le_succ (ih (limit - d.utf8Size) q hrest (by omega))

theorem IsCut.eq {limit : Nat} {s p q : List Char} (hp : IsCut limit s p) (hq : IsCut limit s q) :
    p = q := by
  have hlength : p.length = q.length :=
    Nat.le_antisymm (hq.longest p hp.leads hp.within) (hp.longest q hq.leads hq.within)
  exact (List.prefix_of_prefix_length_le hp.leads hq.leads hlength.le).eq_of_length hlength

/-- A text that fits is its own cut. -/
theorem takeBytes_of_fits {limit : Nat} {s : List Char} (h : byteSize s ≤ limit) :
    takeBytes limit s = s := by
  have hself : IsCut limit s s :=
    ⟨List.prefix_rfl, by rwa [utf8ByteSize_ofList], fun q hq _ => hq.length_le⟩
  exact (isCut_takeBytes limit s).eq hself

theorem truncate_natCast (limit : Nat) (s : List Char) :
    truncate limit s = takeBytes limit s := by
  unfold truncate
  simp only
  by_cases h : byteSize s ≤ limit
  · rw [if_pos (by omega), takeBytes_of_fits h]
  · rw [if_neg (by omega), if_neg (by omega), Int.toNat_natCast]

/-- The cut of two texts one after the other reaches the second where the first fits. -/
theorem takeBytes_append (limit : Nat) (s t : List Char) :
    takeBytes limit (s ++ t) =
      if byteSize s ≤ limit then s ++ takeBytes (limit - byteSize s) t else takeBytes limit s := by
  induction s generalizing limit with
  | nil => exact (if_pos (Nat.zero_le limit)).symm
  | cons c rest ih =>
      rw [List.cons_append, takeBytes, takeBytes, byteSize, ih]
      by_cases hc : c.utf8Size ≤ limit
      · rw [if_pos hc, if_pos hc]
        by_cases hrest : byteSize rest ≤ limit - c.utf8Size
        · rw [if_pos hrest, if_pos (by omega), Nat.sub_sub]
          rfl
        · rw [if_neg hrest, if_neg (by omega)]
      · rw [if_neg hc, if_neg hc, if_neg (by omega)]

/-! ## §4. The end of a text. -/

theorem stripped_eq_dropEnd (s : List Char) : stripped s = Text.dropEnd isTrailing s := rfl

theorem stripped_append_trailing (s : List Char) {run : List Char}
    (h : ∀ c ∈ run, isTrailing c = true) : stripped (s ++ run) = stripped s := by
  have hdrop : (run.reverse ++ s.reverse).dropWhile isTrailing = s.reverse.dropWhile isTrailing :=
    List.dropWhile_append_of_pos (fun c hc => h c (List.mem_reverse.mp hc))
  unfold stripped List.rdropWhile
  rw [List.reverse_append]
  exact congrArg List.reverse hdrop

/-- A text is what is left of it and a run of dots and spaces. -/
theorem exists_trailing (s : List Char) :
    ∃ run, s = stripped s ++ run ∧ ∀ c ∈ run, isTrailing c = true :=
  ⟨s.rtakeWhile isTrailing, (List.rdropWhile_append_rtakeWhile ..).symm,
    fun _ hc => List.mem_rtakeWhile_imp hc⟩

/-- The run of dots and spaces at the end gives way to what a template makes of it, in front of a
line feed at the very end. -/
theorem replaceTrailing_eq (t : Template) (s : List Char) : replaceTrailing t s =
    stripped (splitFinal s).1 ++
      (if (splitFinal s).1.rtakeWhile isTrailing = [] then []
        else t.expand ((splitFinal s).1.rtakeWhile isTrailing)) ++ (splitFinal s).2 := by
  have hbody := List.rdropWhile_append_rtakeWhile (p := isTrailing) (l := (splitFinal s).1)
  unfold replaceTrailing
  show (if ((splitFinal s).1.rtakeWhile isTrailing).isEmpty then s
    else Text.dropEnd isTrailing (splitFinal s).1 ++ _ ++ _) = _
  by_cases hrun : (splitFinal s).1.rtakeWhile isTrailing = []
  · rw [hrun, List.append_nil] at hbody
    rw [if_pos (List.isEmpty_iff.mpr hrun), if_pos hrun, List.append_nil]
    show s = (splitFinal s).1.rdropWhile isTrailing ++ _
    rw [hbody, splitFinal_append]
  · rw [if_neg (fun h => hrun (List.isEmpty_iff.mp h)), if_neg hrun]
    rfl

theorem stripped_stripped (s : List Char) : stripped (stripped s) = stripped s :=
  List.rdropWhile_idempotent _ s

/-- **Dots and spaces that go before the cut would go after it as well.** -/
theorem stripped_takeBytes_stripped (limit : Nat) (s : List Char) :
    stripped (takeBytes limit (stripped s)) = stripped (takeBytes limit s) := by
  obtain ⟨run, hs, hrun⟩ := exists_trailing s
  have happend := takeBytes_append limit (stripped s) run
  rw [← hs] at happend
  by_cases h : byteSize (stripped s) ≤ limit
  · -- The cut reaches the run, and what it leaves of the run goes.
    have htake : ∀ c ∈ takeBytes (limit - byteSize (stripped s)) run, isTrailing c = true :=
      fun c hc => hrun c ((takeBytes_isPrefix _ run).subset hc)
    rw [happend, if_pos h, stripped_append_trailing _ htake, takeBytes_of_fits h]
  · rw [happend, if_neg h]

/-! ## §5. Devices. -/

/-- With a digit behind them, the words for the two kinds of port are names of devices. -/
theorem port_mem_deviceNames {d : Char} (h : Decimal.isDigit d = true) :
    String.ofList ['c', 'o', 'm', d] ∈ deviceNames ∧
      String.ofList ['l', 'p', 't', d] ∈ deviceNames := by
  obtain ⟨hlow, hhigh⟩ : 48 ≤ d.toNat ∧ d.toNat ≤ 57 := by
    simpa [Decimal.isDigit, Char.le_def, UInt32.le_iff_toNat_le] using h
  have hall : ∀ n < 58, 48 ≤ n → String.ofList ['c', 'o', 'm', Char.ofNat n] ∈ deviceNames ∧
      String.ofList ['l', 'p', 't', Char.ofNat n] ∈ deviceNames := by
    decide
  rw [← Char.ofNat_toNat d]
  exact hall d.toNat (by omega) hlow

/-- The words that the test for devices takes are the names of devices. -/
theorem isDevice_iff (s : List Char) :
    isDevice s = true ↔ String.ofList (s.map Char.toLower) ∈ deviceNames := by
  constructor
  · intro h
    unfold isDevice at h
    generalize s.map Char.toLower = word at h ⊢
    split at h
    · decide
    · decide
    · decide
    · decide
    · exact (port_mem_deviceNames h).1
    · exact (port_mem_deviceNames h).2
    · cases h
  · intro h
    -- The names are in lower case, so each of them is the word that is looked at.
    have hall : ∀ d ∈ deviceNames, isDevice d.toList = true ∧
        d.toList.map Char.toLower = d.toList := by
      decide
    obtain ⟨hdevice, hlower⟩ := hall _ h
    rw [String.toList_ofList] at hdevice hlower
    unfold isDevice at hdevice ⊢
    rwa [hlower] at hdevice

/-- No device has a dot in its name. -/
theorem dot_notMem_device {device : List Char}
    (h : String.ofList (device.map Char.toLower) ∈ deviceNames) : '.' ∉ device := by
  intro hdot
  have hnone : ∀ d ∈ deviceNames, '.' ∉ d.toList := by decide
  refine hnone _ h ?_
  rw [String.toList_ofList]
  exact List.mem_map.mpr ⟨'.', hdot, rfl⟩

/-- Within one line, the test for reserved names finds the names of devices. -/
theorem isReserved_iff {s : List Char} (hline : '\n' ∉ s) :
    isReserved s = true ↔ NamesDevice s := by
  have hrest : (s.dropWhile (· != '.')).contains '\n' = false := by
    have hnot : '\n' ∉ s.dropWhile (· != '.') := fun h =>
      hline ((List.dropWhile_sublist _).subset h)
    simpa using hnot
  unfold isReserved
  rw [hrest, Bool.not_false, Bool.and_true, isDevice_iff]
  constructor
  · intro h
    refine ⟨s.takeWhile (· != '.'), s.dropWhile (· != '.'), ?_, h, ?_⟩
    · exact List.takeWhile_append_dropWhile.symm
    · cases hdrop : s.dropWhile (· != '.') with
      | nil => exact Or.inl rfl
      | cons c rest =>
          have hc := List.head?_dropWhile_not (· != '.') s
          rw [hdrop] at hc
          exact Or.inr (congrArg some (by simpa using hc))
  · rintro ⟨device, rest, rfl, hdevice, hend⟩
    have hbefore : ∀ c ∈ device, (c != '.') = true := by
      intro c hc
      have hne : c ≠ '.' := fun h => dot_notMem_device hdevice (h ▸ hc)
      simpa using hne
    have hafter : ∀ c ∈ rest.head?, (c != '.') = false := by
      intro c hc
      rcases hend with rfl | hdot
      · cases hc
      · rw [hdot] at hc
        rw [← Option.some.inj hc]
        rfl
    rw [(Decimal.takeWhile_dropWhile_append hbefore hafter).1]
    exact hdevice

/-! ## §6. The six replacements. -/

section OneLine

variable {s : List Char} (hline : '\n' ∉ s)

include hline

theorem splitFinal_of_line : splitFinal s = (s, []) := by
  unfold splitFinal
  rw [if_neg]
  intro hlast
  exact hline (List.mem_of_getLast? hlast)

theorem replaceWhole_nil (p : List Char → Bool) :
    replaceWhole p [] s = if p s then [] else s := by
  unfold replaceWhole
  rw [splitFinal_of_line hline]
  rfl

theorem replaceTrailing_nil : replaceTrailing [] s = stripped s := by
  rw [replaceTrailing_eq, splitFinal_of_line hline]
  show stripped s ++ (if _ then [] else []) ++ [] = _
  rw [ite_self, List.append_nil, List.append_nil]

end OneLine

theorem newline_notMem_of_sublist {s t : List Char} (h : List.Sublist s t) (ht : '\n' ∉ t) :
    '\n' ∉ s :=
  fun hs => ht (h.subset hs)

theorem stripped_of_isDots {s : List Char} (h : isDots s = true) : stripped s = [] := by
  unfold isDots at h
  obtain ⟨-, hall⟩ := Bool.and_eq_true_iff.mp h
  refine List.rdropWhile_eq_nil_iff.mpr (fun c hc => ?_)
  have hdot : c = '.' := by simpa using List.all_eq_true.mp hall c hc
  rw [hdot]
  rfl

/-- **What the six replacements leave of a name.** -/
theorem clean_nil (limit : Nat) (name : String) :
    clean [] limit name.toList =
      if isReserved (allowed name) then [] else stripped (takeBytes limit (allowed name)) := by
  have hline := newline_notMem_allowed name
  unfold clean
  simp only [allowed_eq]
  -- The last two replacements come to one on every line.
  have hend : ∀ s, '\n' ∉ s → replaceTrailing [] (truncate limit (replaceTrailing [] s)) =
      stripped (takeBytes limit s) := by
    intro s hs
    have hstripped := newline_notMem_of_sublist (dropEnd_sublist isTrailing s) hs
    have hcut := newline_notMem_of_sublist
      (takeBytes_isPrefix limit (Text.dropEnd isTrailing s)).sublist hstripped
    rw [replaceTrailing_nil hs, truncate_natCast, stripped_eq_dropEnd, replaceTrailing_nil hcut,
      ← stripped_eq_dropEnd, stripped_takeBytes_stripped]
  have hempty : stripped (takeBytes limit []) = [] := rfl
  rw [replaceWhole_nil hline]
  by_cases hdots : isDots (allowed name) = true
  · -- Of a run of dots nothing is left either way.
    rw [if_pos hdots, replaceWhole_nil List.not_mem_nil, if_neg (by decide),
      hend [] List.not_mem_nil, hempty]
    have hrun := stripped_takeBytes_stripped limit (allowed name)
    rw [stripped_of_isDots hdots, hempty] at hrun
    rw [← hrun, ite_self]
  · rw [if_neg hdots, replaceWhole_nil hline]
    by_cases hreserved : isReserved (allowed name) = true
    · rw [if_pos hreserved, if_pos hreserved, hend [] List.not_mem_nil, hempty]
    · rw [if_neg hreserved, if_neg hreserved, hend _ hline]

/-! ## §7. File names. -/

theorem getLast?_stripped (s : List Char) :
    (stripped s).getLast? ≠ some '.' ∧ (stripped s).getLast? ≠ some ' ' := by
  have hlast : ∀ c, (stripped s).getLast? = some c → ¬ (c == '.' || c == ' ') = true := by
    intro c hc
    have hne : stripped s ≠ [] := by
      intro hnil
      rw [hnil] at hc
      cases hc
    rw [List.getLast?_eq_getLast_of_ne_nil hne] at hc
    rw [← Option.some.inj hc]
    exact List.rdropWhile_last_not _ _ hne
  exact ⟨fun h => hlast '.' h rfl, fun h => hlast ' ' h rfl⟩

/-- What is more than nothing after the last replacement is more than dots. -/
theorem isDots_stripped (s : List Char) : isDots (stripped s) = false := by
  rw [← Bool.not_eq_true]
  intro h
  have hnil := stripped_of_isDots h
  rw [stripped_stripped] at hnil
  rw [hnil] at h
  cases h

theorem isDots_clean (limit : Nat) (name : String) :
    isDots (clean [] limit name.toList) = false := by
  rw [clean_nil]
  split
  · rfl
  · exact isDots_stripped _

/-- A name is refused just if nothing is left of it; what is left is never dots alone. -/
theorem fileNameOf_clean (limit : Nat) (name : String) : fileNameOf "" limit (.text name) =
    if clean [] limit name.toList = [] then .error (.emptyName (.text name))
    else .ok (String.ofList (clean [] limit name.toList)) := by
  rw [fileNameOf_text]
  unfold fileName?
  simp only [isDots_clean, Bool.or_false, List.isEmpty_iff]
  by_cases h : clean [] limit name.toList = []
  · rw [if_pos h, if_pos h]
  · rw [if_neg h, if_neg h]

theorem clean_nil_eq_nil_iff (limit : Nat) (name : String) : clean [] limit name.toList = [] ↔
    stripped (takeBytes limit (allowed name)) = [] ∨ NamesDevice (allowed name) := by
  rw [clean_nil, ← isReserved_iff (newline_notMem_allowed name)]
  by_cases h : isReserved (allowed name) = true
  · simp [h]
  · simp [h]

/-- A name that is not refused becomes what the plain steps leave of it. -/
theorem fileNameOf_eq_ok_iff {limit : Nat} {name n : String} :
    fileNameOf "" limit (.text name) = .ok n ↔
      n.toList = stripped (takeBytes limit (allowed name)) ∧ n ≠ "" ∧
        ¬ NamesDevice (allowed name) := by
  have hempty := clean_nil_eq_nil_iff limit name
  rw [fileNameOf_clean]
  by_cases h : clean [] limit name.toList = []
  · rw [if_pos h]
    refine ⟨fun hok => (by cases hok), ?_⟩
    rintro ⟨hn, hne, hdevice⟩
    rcases hempty.mp h with hnil | hnames
    · rw [hnil] at hn
      exact absurd (String.toList_eq_nil_iff.mp hn) hne
    · exact absurd hnames hdevice
  · obtain ⟨hne, hdevice⟩ := not_or.mp (fun hor => h (hempty.mpr hor))
    have hclean : clean [] limit name.toList = stripped (takeBytes limit (allowed name)) := by
      rw [clean_nil, if_neg (fun hr => hdevice
        ((isReserved_iff (newline_notMem_allowed name)).mp hr))]
    rw [if_neg h, hclean]
    constructor
    · intro hok
      have hn := Except.ok.inj hok
      refine ⟨by rw [← hn, String.toList_ofList], ?_, hdevice⟩
      rintro rfl
      exact hne (String.ofList_eq_empty_iff.mp hn)
    · rintro ⟨hn, -, -⟩
      rw [← hn, String.ofList_toList]

theorem fileNameOf_eq_error_iff {limit : Nat} {name : String} :
    fileNameOf "" limit (.text name) = .error (.emptyName (.text name)) ↔
      stripped (takeBytes limit (allowed name)) = [] ∨ NamesDevice (allowed name) := by
  rw [← clean_nil_eq_nil_iff, fileNameOf_clean]
  by_cases h : clean [] limit name.toList = []
  · rw [if_pos h]
    exact ⟨fun _ => h, fun _ => rfl⟩
  · rw [if_neg h]
    exact ⟨fun herror => (by cases herror), fun hnil => absurd hnil h⟩

/-- What is left of a name has no forbidden characters. -/
theorem not_isForbidden_of_fileNameOf {limit : Nat} {name n : String}
    (h : fileNameOf "" limit (.text name) = .ok n) : ∀ c ∈ n.toList, ¬ IsForbidden c := by
  intro c hc
  rw [(fileNameOf_eq_ok_iff.mp h).1] at hc
  have hcut : c ∈ takeBytes limit (allowed name) := (dropEnd_sublist isTrailing _).subset hc
  exact not_isForbidden_of_mem ((takeBytes_isPrefix limit (allowed name)).subset hcut)

/-- **The exact meaning of a file name.**  A name is refused just if nothing is left of the longest
prefix within the limit of its allowed characters once the dots and spaces at the end are gone, or
if its allowed characters name a device; otherwise it becomes what is left.  So a file name is never
empty, keeps to its limit, has no forbidden character and ends in no dot or space, and what is
checked for dots alone in the end is never such a text. -/
theorem fileNameOf_stripped_cut (name : String) (limit : Nat) :
    ∃ cut, IsCut limit (allowed name) cut ∧
      (fileNameOf "" limit (.text name) = .error (.emptyName (.text name)) ↔
        stripped cut = [] ∨ NamesDevice (allowed name)) ∧
      (∀ n, fileNameOf "" limit (.text name) = .ok n ↔
        n.toList = stripped cut ∧ n ≠ "" ∧ ¬ NamesDevice (allowed name)) ∧
      (∀ n, fileNameOf "" limit (.text name) = .ok n →
        n ≠ "" ∧ n.utf8ByteSize ≤ limit ∧ (∀ c ∈ n.toList, ¬ IsForbidden c) ∧
          n.toList.getLast? ≠ some '.' ∧ n.toList.getLast? ≠ some ' ') ∧
      isDots (clean [] limit name.toList) = false := by
  refine ⟨takeBytes limit (allowed name), isCut_takeBytes limit (allowed name),
    fileNameOf_eq_error_iff, fun n => fileNameOf_eq_ok_iff, fun n h => ?_, isDots_clean limit name⟩
  obtain ⟨hn, hne, -⟩ := fileNameOf_eq_ok_iff.mp h
  have hlimit : n.utf8ByteSize ≤ limit := by
    rw [utf8ByteSize_eq, hn]
    exact Nat.le_trans (byteSize_le_of_sublist (dropEnd_sublist isTrailing _))
      (byteSize_takeBytes_le limit (allowed name))
  have hend := getLast?_stripped (takeBytes limit (allowed name))
  rw [← hn] at hend
  exact ⟨hne, hlimit, not_isForbidden_of_fileNameOf h, hend⟩

/-- The limit falls into a character and leaves a dot and a space, which go. -/
theorem fileNameOf_stripped_cut_midCharacter :
    fileNameOf "" (6 : Nat) (.text "x:é. é") = .ok "xé" ∧ "xé".utf8ByteSize ≤ 6 ∧
      "xé".toList.getLast? ≠ some '.' := by
  have hname : fileNameOf "" (6 : Nat) (.text "x:é. é") = .ok "xé" := by
    rw [fileNameOf_text, show fileName? [] (6 : Nat) "x:é. é" = some "xé" by decide]
  obtain ⟨cut, -, -, -, hresult, -⟩ := fileNameOf_stripped_cut "x:é. é" 6
  obtain ⟨-, hlimit, -, hdot, -⟩ := hresult "xé" hname
  exact ⟨hname, hlimit, hdot⟩

end Name

end Golden

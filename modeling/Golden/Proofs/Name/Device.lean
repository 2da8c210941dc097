/-
  Golden.Proofs.Name.Device
  ────────────────────────────────
  **DEVICE NAMES THAT SLIP THROUGH.**

  The test for device names stands before the dots and spaces at the end go and
  before the limit is applied, so a name that goes on behind the device with
  anything but a dot passes it, and may be a device name when the rest is gone:

      "con "  ↦  "con"          "console"  ↦  "con"    within three bytes

  These two ways are the only ones.  With an extension no device name slips
  through, for then the dot was there when the test was made.  A file name is
  taken for itself when it is a name once more, unless it is such a device
  name: then it is refused.
-/
import Golden.Proofs.Name.Meaning

namespace Golden

namespace Name

variable {limit : Nat} {name n : String}

/-! ## §1. What was there when the test was made. -/

/-- Where a device name stops being one when something follows, it has no extension, and what
follows is no dot. -/
theorem NamesDevice.spoilt {s rest : List Char} (h : NamesDevice s)
    (hspoilt : ¬ NamesDevice (s ++ rest)) :
    String.ofList (s.map Char.toLower) ∈ deviceNames ∧ ∃ c tail, rest = c :: tail ∧ c ≠ '.' := by
  obtain ⟨device, extension, rfl, hdevice, hend⟩ := h
  rw [List.append_assoc] at hspoilt
  have hmore : ¬ (extension ++ rest = [] ∨ (extension ++ rest).head? = some '.') :=
    fun hmore => hspoilt ⟨device, extension ++ rest, rfl, hdevice, hmore⟩
  cases extension with
  | cons c cs => exact absurd (Or.inr (hend.resolve_left (List.cons_ne_nil c cs))) hmore
  | nil =>
      rw [List.append_nil]
      refine ⟨hdevice, ?_⟩
      cases rest with
      | nil => exact absurd (Or.inl rfl) hmore
      | cons c tail => exact ⟨c, tail, rfl, fun hdot => hmore (Or.inr (congrArg some hdot))⟩

/-- **What a file name has lost at its end.**  Behind it there stood nothing, or a dot or space, or
a character for which the limit has no room. -/
theorem allowed_eq_append (h : fileNameOf "" limit (.text name) = .ok n) :
    ∃ rest, allowed name = n.toList ++ rest ∧
      ∀ c, rest.head? = some c →
        isTrailing c = true ∨ limit < n.utf8ByteSize + c.utf8Size := by
  obtain ⟨hn, -, -⟩ := fileNameOf_eq_ok_iff.mp h
  have hcut := isCut_takeBytes limit (allowed name)
  generalize takeBytes limit (allowed name) = cut at hn hcut
  obtain ⟨beyond, hbeyond⟩ := hcut.leads
  obtain ⟨run, hrun, htrailing⟩ := exists_trailing cut
  rw [← hn] at hrun
  refine ⟨run ++ beyond, by rw [← hbeyond, hrun, List.append_assoc], fun c hc => ?_⟩
  cases run with
  | cons d run =>
      left
      rw [← Option.some.inj hc]
      exact htrailing d List.mem_cons_self
  | nil =>
      right
      -- One character more would be a longer prefix, so it does not fit.
      rw [List.append_nil] at hrun
      subst hrun
      obtain ⟨tail, rfl⟩ : ∃ tail, beyond = c :: tail := List.head?_eq_some_iff.mp hc
      by_contra hroom
      have hlonger := hcut.longest (n.toList ++ [c]) ⟨tail, by rw [← hbeyond]; simp⟩ (by
        rw [utf8ByteSize_ofList, byteSize_append, ← utf8ByteSize_eq]
        show n.utf8ByteSize + c.utf8Size ≤ limit
        omega)
      rw [List.length_append, List.length_singleton] at hlonger
      omega

/-! ## §2. The second time. -/

/-- A file name holds no character that would be left out. -/
theorem allowed_of_fileNameOf (h : fileNameOf "" limit (.text name) = .ok n) :
    allowed n = n.toList :=
  List.filter_eq_self.mpr (fun c hc => by simpa using not_isForbidden_of_fileNameOf h c hc)

/-- A file name fits and ends in no dot or space, so cutting and stripping leave it. -/
theorem stripped_cut_of_fileNameOf (h : fileNameOf "" limit (.text name) = .ok n) :
    stripped (takeBytes limit (allowed n)) = n.toList := by
  obtain ⟨hn, -, -⟩ := fileNameOf_eq_ok_iff.mp h
  have hfits : byteSize n.toList ≤ limit := by
    rw [hn]
    exact Nat.le_trans (byteSize_le_of_sublist (dropEnd_sublist isTrailing _))
      (byteSize_takeBytes_le limit (allowed name))
  rw [allowed_of_fileNameOf h, takeBytes_of_fits hfits, hn, stripped_stripped]

/-! ## §3. Devices. -/

/-- **Which device names slip through.**  A file name is a device name just if it is one without an
extension and the name went on behind it: with a space, or with a character other than a dot for
which the limit has no room.  As a name once more, a file name that is no device name is taken for
itself, and one that is a device name is refused. -/
theorem namesDevice_fileNameOf_iff (h : fileNameOf "" limit (.text name) = .ok n) :
    (NamesDevice n.toList ↔
      String.ofList (n.toList.map Char.toLower) ∈ deviceNames ∧
        ∃ c rest, allowed name = n.toList ++ c :: rest ∧ c ≠ '.' ∧
          (c = ' ' ∨ limit < n.utf8ByteSize + c.utf8Size)) ∧
      (fileNameOf "" limit (.text n) = .ok n ↔ ¬ NamesDevice n.toList) ∧
      (fileNameOf "" limit (.text n) = .error (.emptyName (.text n)) ↔
        NamesDevice n.toList) := by
  obtain ⟨-, hne, hpassed⟩ := fileNameOf_eq_ok_iff.mp h
  have hallowed := allowed_of_fileNameOf h
  have hagain := stripped_cut_of_fileNameOf h
  refine ⟨⟨?_, ?_⟩, ?_, ?_⟩
  · intro hdevice
    obtain ⟨rest, hrest, hlost⟩ := allowed_eq_append h
    rw [hrest] at hpassed
    obtain ⟨hname, c, tail, rfl, hdot⟩ := hdevice.spoilt hpassed
    refine ⟨hname, c, tail, hrest, hdot, ?_⟩
    rcases hlost c rfl with htrailing | hroom
    · left
      simpa [isTrailing, hdot] using htrailing
    · right
      exact hroom
  · rintro ⟨hname, -⟩
    exact ⟨n.toList, [], (List.append_nil _).symm, hname, Or.inl rfl⟩
  · rw [fileNameOf_eq_ok_iff, hagain, hallowed]
    exact ⟨fun hn => hn.2.2, fun hdevice => ⟨rfl, hne, hdevice⟩⟩
  · rw [fileNameOf_eq_error_iff, hagain, hallowed]
    exact or_iff_right (fun hnil => hne (String.toList_eq_nil_iff.mp hnil))

/-- Within three bytes the name of a device is left of a longer word. -/
theorem namesDevice_fileNameOf_iff_cutWord :
    fileNameOf "" (3 : Nat) (.text "Nulls") = .ok "Nul" ∧ NamesDevice "Nul".toList ∧
      fileNameOf "" (3 : Nat) (.text "Nul") = .error (.emptyName (.text "Nul")) := by
  have hname : fileNameOf "" (3 : Nat) (.text "Nulls") = .ok "Nul" := by
    rw [fileNameOf_text, show fileName? [] (3 : Nat) "Nulls" = some "Nul" by decide]
  obtain ⟨hdevice, -, hrefused⟩ := namesDevice_fileNameOf_iff hname
  have hslips : NamesDevice "Nul".toList :=
    hdevice.mpr ⟨by decide, 'l', ['s'], by decide, by decide, Or.inr (by decide)⟩
  exact ⟨hname, hslips, hrefused.mpr hslips⟩

/-- **A device name is accepted when a space follows it, and refused when it comes again.** -/
theorem fileNameOf_deviceBeforeSpace :
    fileNameOf "" maxBytes (.text "con ") = .ok "con" ∧ NamesDevice "con".toList ∧
      fileNameOf "" maxBytes (.text "con") ≠ .ok "con" := by
  have hspace : fileName? [] maxBytes "con " = some "con" := by decide
  have halone : fileName? [] maxBytes "con" = none := by decide
  refine ⟨?_, ⟨"con".toList, [], by decide, by decide, Or.inl rfl⟩, ?_⟩
  · rw [fileNameOf_text, hspace]
  · rw [fileNameOf_text, halone]
    intro h
    cases h

end Name

end Golden

/-
  Golden.Proofs.BlackLab.Relocation
  ────────────────────────────────
  **RESPONSES DO NOT SHOW WHERE A CORPUS LIES.**

  Two responses are relocated when they differ at most in the directories of
  the paths under `fromInputFile`: in the text that is the value of such a
  field, and in the texts that are items of an array there.  Cleaning makes
  them equal, under whatever mask, and it keeps the file names apart:

      Relocated x y  →  sanitize r x  =  sanitize r y
      another file name at a place that is not masked  →  sanitize r x  ≠  sanitize r y

  The relation carries the kind of place along, since a text may differ under
  the field and among its items and nowhere deeper.
-/
import Golden.Proofs.BlackLab.FileName
import Golden.Proofs.Sanitize.Course

namespace Golden.BlackLab

open Value

/-! ## §1. Relocated responses. -/

/-- Whether two texts name the same file, in whatever directories. -/
def SameFile (s t : String) : Prop := ∃ name, NamesFile s name ∧ NamesFile t name

/-- A place in a response: the value of a field for an input document, an item of an array that is
such a value, or any other place. -/
inductive Place
  | field
  | item
  | other
  deriving DecidableEq

/-- The place of the value under a key. -/
def Place.under : Value → Place
  | .text k => if k = fromInputFile then .field else .other
  | _ => .other

/-- The place of the items of an array. -/
def Place.items : Place → Place
  | .field => .item
  | _ => .other

mutual

/-- Two values at a place are the same, save for the directories of input documents. -/
inductive Relocated : Place → Value → Value → Prop
  | scalar {place : Place} {v : Value} : v.isScalar = true → Relocated place v v
  | file {place : Place} {s t : String} : place ≠ .other → SameFile s t →
      Relocated place (.text s) (.text t)
  | array {place : Place} {shape : ArrayShape} {xs ys : List Value} :
      RelocatedItems place.items xs ys → Relocated place (.array shape xs) (.array shape ys)
  | object {place : Place} {shape : ObjectShape} {fs gs : Fields} : RelocatedFields fs gs →
      Relocated place (.object shape fs) (.object shape gs)

/-- The items of two arrays are the same, save for the directories of input documents. -/
inductive RelocatedItems : Place → List Value → List Value → Prop
  | nil {place : Place} : RelocatedItems place [] []
  | cons {place : Place} {v w : Value} {vs ws : List Value} : Relocated place v w →
      RelocatedItems place vs ws → RelocatedItems place (v :: vs) (w :: ws)

/-- The fields of two objects are the same, save for the directories of input documents. -/
inductive RelocatedFields : Fields → Fields → Prop
  | nil : RelocatedFields [] []
  | cons {k v w : Value} {fs gs : Fields} : Relocated (.under k) v w → RelocatedFields fs gs →
      RelocatedFields ((k, v) :: fs) ((k, w) :: gs)

end

/-! ## §2. Cleaning makes them equal. -/

theorem fileName_of_sameFile {s t : String} (h : SameFile s t) : fileName s = fileName t := by
  obtain ⟨name, hs, ht⟩ := h
  rw [fileName_of_namesFile hs, fileName_of_namesFile ht]

/-- The key of an input document. -/
abbrev fileKey : Value := .text fromInputFile

/-- What is left of two values at a place is the same, in each way that a value at such a place is
cleaned. -/
structure CleanedAlike (place : Place) (v w : Value) : Prop where
  isObject : v.isObject = w.isObject
  /-- By a mask: an object wherever it stands, and anything at a place that is no path's. -/
  masked : place = .other ∨ v.isObject = true →
    ∀ mask, sanitizeBy dropDirectory mask v = sanitizeBy dropDirectory mask w
  /-- As an item of an array under the key. -/
  item : place = .item → dropDirectory ⟨sanitizeBy dropDirectory Mask.empty v, some fileKey⟩ =
    dropDirectory ⟨sanitizeBy dropDirectory Mask.empty w, some fileKey⟩
  /-- As the value under the key. -/
  field : place = .field → fieldBy dropDirectory fileKey v = fieldBy dropDirectory fileKey w

/-- A field without a rule is cleaned alike, under whatever key it stands. -/
theorem CleanedAlike.fieldBy_eq {k v w : Value} (h : CleanedAlike (.under k) v w) :
    fieldBy dropDirectory k v = fieldBy dropDirectory k w := by
  by_cases hk : k = fileKey
  · subst hk
    exact h.field rfl
  · have hplace : Place.under k = .other := by
      unfold Place.under
      split
      · next s => exact if_neg (fun hs => hk (congrArg Value.text hs))
      · rfl
    rw [shallow_dropDirectory.fieldBy_eq, shallow_dropDirectory.fieldBy_eq,
      h.masked (Or.inl hplace) Mask.empty]

theorem CleanedAlike.cleanedValue?_eq {k v w : Value} (h : CleanedAlike (.under k) v w)
    (mask : Mask) :
    cleanedValue? dropDirectory mask k v = cleanedValue? dropDirectory mask k w := by
  unfold cleanedValue?
  cases mask.ruleFor k with
  | none => exact congrArg some h.fieldBy_eq
  | some rule =>
      cases rule with
      | act a => cases a <;> rfl
      | nested below =>
          simp only [← h.isObject]
          cases hv : v.isObject with
          | true => rw [h.masked (Or.inr hv) below]
          | false => rfl

theorem cleanedAlike_file {place : Place} {s t : String} (hplace : place ≠ .other)
    (h : SameFile s t) : CleanedAlike place (.text s) (.text t) where
  isObject := rfl
  masked hmasked := by
    rcases hmasked with hother | hobject
    · exact absurd hother hplace
    · cases hobject
  item _ := by
    rw [shallow_dropDirectory.sanitizeBy_scalar _ rfl,
      shallow_dropDirectory.sanitizeBy_scalar _ rfl, dropDirectory_file, dropDirectory_file,
      fileName_of_sameFile h]
  field _ := by
    rw [fieldBy_scalar _ _ rfl, fieldBy_scalar _ _ rfl, dropDirectory_file, dropDirectory_file,
      fileName_of_sameFile h]

theorem map_eq_of_forall₂ {f : Value → Value} {R : Value → Value → Prop} {xs ys : List Value}
    (h : List.Forall₂ R xs ys) (hf : ∀ x y, R x y → f x = f y) : xs.map f = ys.map f := by
  induction h with
  | nil => rfl
  | cons hxy _ ih => rw [List.map_cons, List.map_cons, hf _ _ hxy, ih]

theorem cleanedAlike_array {place : Place} {shape : ArrayShape} {xs ys : List Value}
    (h : List.Forall₂ (CleanedAlike place.items) xs ys) :
    CleanedAlike place (.array shape xs) (.array shape ys) := by
  -- Items at no path's place are the same after cleaning, and then so are the arrays.
  have hmasked : place.items = .other → ∀ mask,
      sanitizeBy dropDirectory mask (.array shape xs) =
        sanitizeBy dropDirectory mask (.array shape ys) := by
    intro hother mask
    rw [sanitizeBy_array, sanitizeBy_array]
    exact congrArg ofItems (map_eq_of_forall₂ h (fun x y hxy => hxy.masked (Or.inl hother) mask))
  constructor
  · rfl
  · rintro (rfl | hobject)
    · exact hmasked rfl
    · cases hobject
  · rintro rfl
    rw [hmasked rfl]
  · rintro rfl
    exact congrArg ofItems (map_eq_of_forall₂ h (fun x y hxy => hxy.item rfl))

theorem cleanedAlike_object {place : Place} {shape : ObjectShape} {fs gs : Fields}
    (h : ∀ mask, cleanedFields dropDirectory mask fs = cleanedFields dropDirectory mask gs) :
    CleanedAlike place (.object shape fs) (.object shape gs) := by
  have hmasked : ∀ mask, sanitizeBy dropDirectory mask (.object shape fs) =
      sanitizeBy dropDirectory mask (.object shape gs) := by
    intro mask
    rw [sanitizeBy_object, sanitizeBy_object, h]
  constructor
  · rfl
  · exact fun _ => hmasked
  · exact fun _ => by rw [hmasked]
  · exact fun _ => hmasked Mask.empty

mutual

/-- Relocated values are cleaned alike, at whatever place they stand. -/
theorem cleanedAlike {place : Place} {v w : Value} :
    Relocated place v w → CleanedAlike place v w
  | .scalar _ => ⟨rfl, fun _ _ => rfl, fun _ => rfl, fun _ => rfl⟩
  | .file hplace h => cleanedAlike_file hplace h
  | .array h => cleanedAlike_array (cleanedAlike_items h)
  | .object h => cleanedAlike_object (cleanedFields_of_relocated h)

theorem cleanedAlike_items {place : Place} {xs ys : List Value} :
    RelocatedItems place xs ys → List.Forall₂ (CleanedAlike place) xs ys
  | .nil => .nil
  | .cons h hs => .cons (cleanedAlike h) (cleanedAlike_items hs)

theorem cleanedFields_of_relocated {fs gs : Fields} : RelocatedFields fs gs →
    ∀ mask, cleanedFields dropDirectory mask fs = cleanedFields dropDirectory mask gs
  | .nil, _ => rfl
  | .cons h hs, mask => by
      rw [cleanedFields_cons, cleanedFields_cons, (cleanedAlike h).cleanedValue?_eq mask,
        cleanedFields_of_relocated hs mask]

end

/-! ## §3. Cleaning keeps file names apart. -/

/-- A position of a path: a field for an input document, or an item of an array that is the value
of one. -/
inductive IsFilePlace : Position → Prop
  | field (p : Position) : IsFilePlace (p ++ [.key fileKey])
  | item (p : Position) (i : Nat) : IsFilePlace (p ++ [.key fileKey, .index i])

/-- Where a mask leads to an object, the cleaned response has that object cleaned. -/
theorem at?_sanitizeBy_of_object {transform : Call → Value} (ht : Shallow transform)
    {mask n : Mask} {x b : Value} {p : Position} (h : mask.course x p = .reached n b)
    (hb : b.isObject = true) :
    (sanitizeBy transform mask x).at? p = some (sanitizeBy transform n b) ∧
      (mask = Mask.empty →
        ∀ key, (fieldBy transform key x).at? p = some (sanitizeBy transform n b)) := by
  -- A field without a rule goes to the transform item by item, which is a second way to clean it.
  induction p generalizing mask x with
  | nil =>
      obtain ⟨rfl, rfl⟩ := Course.reached.inj h
      refine ⟨rfl, ?_⟩
      rintro rfl key
      rw [fieldBy_of_isObject transform key hb]
      rfl
  | cons step p ih =>
      cases step with
      | index i =>
          obtain ⟨c, hc, hrest⟩ := reached_index h
          obtain ⟨hclean, -⟩ := ih hrest
          cases x with
          | array shape xs =>
              have hitem : xs[i]? = some c := hc
              constructor
              · rw [at?_cons, step?, sanitizeBy_array, item?, List.getElem?_map, hitem]
                exact hclean
              · rintro rfl key
                have hscalar : (sanitizeBy transform Mask.empty c).isScalar = false :=
                  isScalar_of_at? hclean (ht.isScalar_of_isObject n hb)
                rw [at?_cons, step?, fieldBy, item?, List.getElem?_map, hitem, Option.map_some,
                  ht.whole _ _ hscalar]
                exact hclean
          | _ => cases hc
      | key k =>
          obtain ⟨m, c, hc, hrest, hrule⟩ := reached_key h
          obtain ⟨hclean, hfield⟩ := ih hrest
          cases x with
          | object shape fs =>
              obtain ⟨l, hl, hfind⟩ := find?_cleanedFields_same transform mask k fs
              have hfs : Fields.find? k fs = some c := hc
              have hobject : (sanitizeBy transform mask (.object shape fs)).at? (.key k :: p) =
                  some (sanitizeBy transform n b) := by
                rw [at?_cons, step?, sanitizeBy_object, field?, hfind, hfs, Option.bind_some]
                unfold cleanedValue?
                rw [hl]
                rcases hrule with ⟨hrule, rfl⟩ | ⟨hrule, hco⟩
                · rw [hrule]
                  exact hfield rfl l
                · rw [hrule, hco]
                  exact hclean
              refine ⟨hobject, ?_⟩
              rintro rfl key
              exact hobject
          | _ => cases hc

/-- A key that the way passes over anything but an object has no rule, and the cleaned response has
under it the value cleaned as that of a field. -/
theorem at?_of_no_object {transform : Call → Value} (ht : Shallow transform) {mask n : Mask}
    {x w : Value} {k : String} {p q : Position}
    (h : mask.course x (p ++ .key (.text k) :: q) = .reached n w)
    (hq : ∀ c : Value, c.at? q = some w → c.isObject = false) :
    ∃ c, c.at? q = some w ∧ (sanitizeBy transform mask x).at? (p ++ [.key (.text k)]) =
      some (fieldBy transform (.text k) c) := by
  obtain ⟨m, b, hp, hlast⟩ := reached_append h
  obtain ⟨m', c, hc, hrest, hrule⟩ := reached_key hlast
  have hend := at?_of_course m' c q
  rw [hrest] at hend
  have hnone : m.ruleFor (.text k) = none := by
    rcases hrule with ⟨hrule, -⟩ | ⟨-, hobject⟩
    · exact hrule
    · rw [hq c hend] at hobject
      cases hobject
  refine ⟨c, hend, ?_⟩
  rw [at?_append, (at?_sanitizeBy_of_object ht hp (isObject_of_field? hc)).1, Option.bind_some,
    at?_single, step?]
  cases b with
  | object shape fs =>
      have hfs : Fields.find? (.text k) fs = some c := hc
      rw [sanitizeBy_object, field?, find?_cleanedFields, hfs, Option.bind_some]
      unfold cleanedValue?
      rw [hnone]
  | _ => cases hc

/-- **At a place of a path that is not masked the cleaned response has the file name.** -/
theorem at?_filePlace {mask n : Mask} {x : Value} {s : String} {p : Position} (hp : IsFilePlace p)
    (h : mask.course x p = .reached n (.text s)) :
    (sanitizeBy dropDirectory mask x).at? p = some (.text (fileName s)) := by
  cases hp with
  | field q =>
      obtain ⟨c, hc, hfield⟩ := at?_of_no_object shallow_dropDirectory h (fun c hc => by
        obtain rfl := Option.some.inj hc
        rfl)
      obtain rfl := Option.some.inj hc
      rw [hfield, fieldBy_scalar _ _ rfl, dropDirectory_file]
  | item q i =>
      obtain ⟨c, hc, hfield⟩ := at?_of_no_object shallow_dropDirectory h (fun c hc => by
        rw [at?_single] at hc
        cases c with
        | object shape fs => cases hc
        | _ => rfl)
      rw [at?_single] at hc
      cases c with
      | array shape xs =>
          have hitem : xs[i]? = some (.text s) := hc
          -- The item goes to the transform twice, first without the key and then with it.
          rw [List.append_cons, at?_append, hfield, Option.bind_some, at?_single, step?, fieldBy,
            item?, List.getElem?_map, hitem, Option.map_some,
            shallow_dropDirectory.sanitizeBy_scalar _ rfl, dropDirectory_file]
      | _ => cases hc

/-- Other file names are other responses. -/
theorem sanitizeBy_ne_of_names {mask n : Mask} {x y : Value} {s t a b : String} {p : Position}
    (hp : IsFilePlace p) (hx : mask.course x p = .reached n (.text s))
    (hy : y.at? p = some (.text t)) (hs : NamesFile s a) (ht : NamesFile t b) (hab : a ≠ b) :
    sanitizeBy dropDirectory mask x ≠ sanitizeBy dropDirectory mask y := by
  intro h
  have hleft := at?_filePlace hp hx
  have hright := at?_filePlace hp (reached_of_at? hx hy rfl)
  rw [h, hright, fileName_of_namesFile hs, fileName_of_namesFile ht] at hleft
  exact hab (Value.text.inj (Option.some.inj hleft)).symm

/-- **Snapshots do not depend on where the corpus lies, and they do on its file names.**  Responses
that differ at most in the directories of their input documents are cleaned alike; responses with
other file names at one place of a path that the mask leads to are told apart. -/
theorem sanitize_relocated (removeParameters : Bool) (x y : Value) :
    (Relocated .other x y → sanitize removeParameters x = sanitize removeParameters y) ∧
    ∀ p n s t a b, IsFilePlace p → (mask removeParameters).course x p = .reached n (.text s) →
      y.at? p = some (.text t) → NamesFile s a → NamesFile t b → a ≠ b →
      sanitize removeParameters x ≠ sanitize removeParameters y := by
  refine ⟨fun h => (cleanedAlike h).masked (Or.inl rfl) _, ?_⟩
  intro p n s t a b hp hx hy hs ht hab
  exact sanitizeBy_ne_of_names hp hx hy hs ht hab

/-- A document of two files on two machines, and one of other files. -/
theorem sanitize_relocated_two_machines :
    let document := fun (first second : String) => Value.ofFields [
      (.text "docInfo", .ofFields [(fileKey, .ofItems [.text first, .text second])])]
    let x := document "/data/a.xml" "b.xml"
    let y := document "C:\\corpus\\a.xml" "/tmp/b.xml"
    let z := document "/data/a.xml" "/tmp/c.xml"
    let p : Position := [.key (.text "docInfo")] ++ [.key fileKey, .index 1]
    Relocated .other x y ∧ sanitize true x = sanitize true y ∧
      (mask true).course x p = .reached Mask.empty (.text "b.xml") ∧
      z.at? p = some (.text "/tmp/c.xml") ∧ sanitize true x ≠ sanitize true z := by
  intro document x y z p
  have hfirst : SameFile "/data/a.xml" "C:\\corpus\\a.xml" :=
    ⟨"a.xml", ⟨by decide, by decide, "/data/", by decide, by decide, by decide⟩,
      ⟨by decide, by decide, "C:\\corpus\\", by decide, by decide, by decide⟩⟩
  have hb : NamesFile "b.xml" "b.xml" :=
    ⟨by decide, by decide, "", by decide, by decide, by decide⟩
  have hb' : NamesFile "/tmp/b.xml" "b.xml" :=
    ⟨by decide, by decide, "/tmp/", by decide, by decide, by decide⟩
  have hc : NamesFile "/tmp/c.xml" "c.xml" :=
    ⟨by decide, by decide, "/tmp/", by decide, by decide, by decide⟩
  have hxy : Relocated .other x y :=
    .object (.cons (.object (.cons (.array (.cons (.file (by decide) hfirst)
      (.cons (.file (by decide) ⟨"b.xml", hb, hb'⟩) .nil))) .nil)) .nil)
  have hrule : (mask true).ruleFor (.text "docInfo") = none := rfl
  have hempty : Mask.ruleFor Mask.empty fileKey = none := rfl
  have hcourse : (mask true).course x p = .reached Mask.empty (.text "b.xml") := by
    simp [p, x, document, Mask.course, hrule, hempty, field?, Fields.find?, same, item?]
  have hz : z.at? p = some (.text "/tmp/c.xml") := by
    simp [p, z, document, at?, step?, field?, Fields.find?, same, item?]
  exact ⟨hxy, (sanitize_relocated true x y).1 hxy, hcourse, hz,
    (sanitize_relocated true x z).2 p Mask.empty _ _ _ _ (.item _ 1) hcourse hz hb hc (by decide)⟩

end Golden.BlackLab

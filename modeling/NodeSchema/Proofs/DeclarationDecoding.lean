import NodeSchema.Proofs.Redeclaration
/-!
# Declarations are uniquely decodable

Every part of a declaration shows where it ends, whatever text follows: a line of the preamble at
its line end, a name at the first character that is none of a name, a field at the comma or the
bracket that its own brackets do not hold. So a text is the declaration of one list of categories
only, as far as it shows them.
-/

namespace NodeSchema

open FieldList (depthOver)

-- ---------------------------------------------------------------------------
-- Texts that show where they end
-- ---------------------------------------------------------------------------

namespace Text

/-- A text stays within a class, and the character behind it leads out of the class. -/
theorem append_inj_of_stop {P : List Char → Prop} {Stop : Char → Prop}
    (hout : ∀ s c u, P s → Stop c → ¬ P (s ++ c :: u)) {s t r r' : List Char} {c d : Char}
    (hs : P s) (ht : P t) (hc : Stop c) (hd : Stop d) (h : s ++ c :: r = t ++ d :: r') :
    s = t ∧ c = d ∧ r = r' := by
  rcases List.append_eq_append_iff.1 h with ⟨u, rfl, hu⟩ | ⟨u, rfl, hu⟩
  · cases u with
    | nil => simpa using hu
    | cons e u =>
      obtain rfl : c = e := (List.cons.inj hu).1
      exact absurd ht (hout s c u hs hc)
  · cases u with
    | nil => simpa [eq_comm] using hu
    | cons e u =>
      obtain rfl : d = e := (List.cons.inj hu).1
      exact absurd hs (hout t d u ht hd)

/-- What `write` writes for a value with the property shows `view` of the value, and where it
ends. -/
def Shows {α β : Type} (P : α → Prop) (write : α → List Char) (view : α → β) : Prop :=
  ∀ ⦃a b : α⦄ ⦃r r' : List Char⦄, P a → P b → write a ++ r = write b ++ r' →
    view a = view b ∧ r = r'

/-- Values that are written one after another, up to an end that none of them starts like. -/
theorem Shows.flatMap {α β : Type} {P : α → Prop} {write : α → List Char} {view : α → β}
    (h : Shows P write view) (End : List Char → Prop) {as bs : List α} {r r' : List Char}
    (has : ∀ a ∈ as, P a ∧ ∀ s, ¬ End (write a ++ s))
    (hbs : ∀ b ∈ bs, P b ∧ ∀ s, ¬ End (write b ++ s)) (hr : End r) (hr' : End r')
    (heq : as.flatMap write ++ r = bs.flatMap write ++ r') : as.map view = bs.map view ∧ r = r' := by
  induction as generalizing bs with
  | nil =>
    cases bs with
    | nil => exact ⟨rfl, heq⟩
    | cons b bs =>
      rw [List.flatMap_cons, List.append_assoc] at heq
      obtain rfl : r = _ := heq
      exact absurd hr ((hbs b List.mem_cons_self).2 _)
  | cons a as ih =>
    rw [List.flatMap_cons, List.append_assoc] at heq
    cases bs with
    | nil =>
      obtain rfl : _ = r' := heq
      exact absurd hr' ((has a List.mem_cons_self).2 _)
    | cons b bs =>
      rw [List.flatMap_cons, List.append_assoc] at heq
      obtain ⟨hview, hrest⟩ :=
        h (has a List.mem_cons_self).1 (hbs b List.mem_cons_self).1 heq
      obtain ⟨hmap, hends⟩ := ih (fun x hx => has x (List.mem_cons_of_mem a hx))
        (fun x hx => hbs x (List.mem_cons_of_mem b hx)) hrest
      exact ⟨by rw [List.map_cons, List.map_cons, hview, hmap], hends⟩

theorem toList_ofLines (lines : List String) :
    (ofLines lines).toList = lines.flatMap fun line => line.toList ++ ['\n'] := by
  simp [ofLines, String.toList_join, List.flatMap_map]

theorem identifier_append_inj {s t : String} {r r' : List Char} {c : Char}
    (hc : isIdentifierPart c = false) (hs : isIdentifier s.toList = true)
    (ht : isIdentifier t.toList = true) (h : s.toList ++ c :: r = t.toList ++ c :: r') :
    s = t ∧ r = r' := by
  have hout : ∀ s e u, isIdentifier s = true → isIdentifierPart e = false →
      ¬ isIdentifier (s ++ e :: u) = true := by
    intro s e u _ he hall
    rw [isIdentifierPart_of_mem hall (by simp)] at he
    cases he
  obtain ⟨hst, -, hr⟩ := append_inj_of_stop hout hs ht hc hc h
  exact ⟨String.toList_inj.1 hst, hr⟩

theorem shows_line : Shows (fun line : String => '\n' ∉ line.toList)
    (fun line => line.toList ++ ['\n']) id := by
  intro s t r r' hs ht h
  rw [List.append_assoc, List.append_assoc] at h
  have hout : ∀ (s : List Char) c u, '\n' ∉ s → c = '\n' → ¬ '\n' ∉ s ++ c :: u := by
    rintro s _ u - rfl
    simp
  obtain ⟨hst, -, hr⟩ := append_inj_of_stop hout hs ht rfl rfl h
  exact ⟨String.toList_inj.1 hst, hr⟩

end Text

-- ---------------------------------------------------------------------------
-- Field lists
-- ---------------------------------------------------------------------------

theorem toList_commaSeparated_cons_cons (s t : String) (ss : List String) :
    (commaSeparated (s :: t :: ss)).toList =
      s.toList ++ ',' :: ' ' :: (commaSeparated (t :: ss)).toList := by
  simp [commaSeparated, String.toList_intercalate]

theorem commaSeparated_singleton (s : String) : commaSeparated [s] = s := by
  simp [commaSeparated]

namespace FieldList

/-- A piece goes on until a comma or a bracket that belongs to its list. -/
theorem piece_append_inj {s t r r' : List Char} {c d : Char} (hs : depthOver 0 s = some 0)
    (ht : depthOver 0 t = some 0) (hc : c = ',' ∨ c = ')') (hd : d = ',' ∨ d = ')')
    (h : s ++ c :: r = t ++ d :: r') : s = t ∧ c = d ∧ r = r' := by
  have hout : ∀ s c u, depthOver 0 s = some 0 → c = ',' ∨ c = ')' →
      ¬ depthOver 0 (s ++ c :: u) = some 0 := by
    intro s c u hs hc
    rw [depthOver_append, hs, Option.bind_some]
    rcases hc with rfl | rfl <;> simp [depthOver, depthAfter, isOpener, isCloser]
  exact Text.append_inj_of_stop hout hs ht hc hd h

/-- The bracket behind a list ends it, and the commas between the pieces are the only ones that
separate any. -/
theorem commaSeparated_append_inj {ss ts : List String} (hss : ss ≠ []) (hts : ts ≠ [])
    (hs : ∀ s ∈ ss, depthOver 0 s.toList = some 0) (ht : ∀ t ∈ ts, depthOver 0 t.toList = some 0)
    {r r' : List Char}
    (h : (commaSeparated ss).toList ++ ')' :: r = (commaSeparated ts).toList ++ ')' :: r') :
    ss = ts ∧ r = r' := by
  induction ss generalizing ts with
  | nil => exact absurd rfl hss
  | cons s ss ih =>
    obtain ⟨t, ts, rfl⟩ := List.exists_cons_of_ne_nil hts
    have hs0 := hs s List.mem_cons_self
    have ht0 := ht t List.mem_cons_self
    -- The character behind the first pieces is the same, so both lists go on or both end.
    cases ss with
    | nil =>
      rw [commaSeparated_singleton] at h
      cases ts with
      | nil =>
        rw [commaSeparated_singleton] at h
        obtain ⟨hst, -, hr⟩ := piece_append_inj hs0 ht0 (.inr rfl) (.inr rfl) h
        exact ⟨by rw [String.toList_inj.1 hst], hr⟩
      | cons t' ts =>
        rw [toList_commaSeparated_cons_cons, List.append_assoc, List.cons_append] at h
        obtain ⟨-, hstop, -⟩ := piece_append_inj hs0 ht0 (.inr rfl) (.inl rfl) h
        exact absurd hstop (by decide)
    | cons s' ss =>
      rw [toList_commaSeparated_cons_cons, List.append_assoc, List.cons_append] at h
      cases ts with
      | nil =>
        rw [commaSeparated_singleton] at h
        obtain ⟨-, hstop, -⟩ := piece_append_inj hs0 ht0 (.inl rfl) (.inr rfl) h
        exact absurd hstop (by decide)
      | cons t' ts =>
        rw [toList_commaSeparated_cons_cons, List.append_assoc, List.cons_append] at h
        obtain ⟨hst, -, hrest⟩ := piece_append_inj hs0 ht0 (.inl rfl) (.inl rfl) h
        obtain ⟨htails, hr⟩ := ih (by simp) (by simp) (fun x hx => hs x (List.mem_cons_of_mem s hx))
          (fun x hx => ht x (List.mem_cons_of_mem t hx)) (List.cons.inj hrest).2
        exact ⟨by rw [String.toList_inj.1 hst, htails], hr⟩

end FieldList

theorem Field.Settled.depthOver_declaredType {category : String} {f : Field}
    (hname : Text.isIdentifier category.toList = true) (h : f.Settled category) :
    depthOver 0 f.declaredType.toList = some 0 :=
  Descriptor.depthOver_of_read (h.redeclared hname).read

namespace Variant

variable {category : String} {v w : Variant}

theorem getElem?_parameters (v : Variant) (i : Nat) :
    v.parameters[i]? = v.fields[i]?.map fun f => "_" ++ toString i ++ ": " ++ f.text := by
  simp [parameters, Function.comp_def]

theorem depthOver_label (i : Nat) : depthOver 0 ("_" ++ toString i ++ ": ").toList = some 0 := by
  refine FieldList.depthOver_of_plain fun c hc => ?_
  have hc : c = '_' ∨ c ∈ Nat.toDigits 10 i ∨ c = ':' ∨ c = ' ' := by
    simpa [Nat.toString_eq_repr, Nat.toList_repr] using hc
  rcases hc with rfl | hc | rfl | rfl
  · exact FieldList.plain_of_isPathPart (by decide)
  · have hdigit := Nat.isDigit_of_mem_toDigits (by decide) (by decide) hc
    exact FieldList.plain_of_class (by decide) hdigit
  · exact FieldList.plain_of_isPathPart (by decide)
  · exact FieldList.plain_of_isBlank (by decide)

theorem Settled.depthOver_parameter (h : v.Settled category) {p : String}
    (hp : p ∈ v.parameters) : depthOver 0 p.toList = some 0 := by
  obtain ⟨i, hi⟩ := List.mem_iff_getElem?.1 hp
  rw [getElem?_parameters, Option.map_eq_some_iff] at hi
  obtain ⟨f, hf, rfl⟩ := hi
  have hread := (h.fields f (List.mem_of_getElem? hf)).read
  rw [String.toList_append, FieldList.depthOver_append, depthOver_label, Option.bind_some]
  exact Descriptor.depthOver_of_read hread

/-- The parameters show the texts of the fields, and these everything else about them. -/
theorem Settled.fields_eq_of_parameters (hv : v.Settled category) (hw : w.Settled category)
    (h : v.parameters = w.parameters) : v.fields = w.fields := by
  refine List.ext_getElem? fun i => ?_
  have hi := congrArg (·[i]?) h
  simp only [getElem?_parameters] at hi
  cases hf : v.fields[i]? with
  | none =>
    cases hg : w.fields[i]? with
    | none => rfl
    | some g => simp [hf, hg] at hi
  | some f =>
    cases hg : w.fields[i]? with
    | none => simp [hf, hg] at hi
    | some g =>
      have htext : f.text = g.text := by simpa [hf, hg] using hi
      have hfield := (hv.fields f (List.mem_of_getElem? hf)).eq_of_text
        (hw.fields g (List.mem_of_getElem? hg)) htext
      rw [hfield]

-- ---------------------------------------------------------------------------
-- The lines of a variant
-- ---------------------------------------------------------------------------

theorem Settled.depthOver_declaredTypes (hname : Text.isIdentifier category.toList = true)
    (h : v.Settled category) : ∀ s ∈ v.fields.map Field.declaredType, depthOver 0 s.toList = some 0 := by
  intro s hs
  obtain ⟨f, hf, rfl⟩ := List.mem_map.1 hs
  exact (h.fields f hf).depthOver_declaredType hname

theorem line_append (v : Variant) (r : List Char) :
    v.line.toList ++ ['\n'] ++ r = "    ".toList ++ (v.name.toList ++
      '(' :: ((commaSeparated v.outline.2).toList ++ ')' :: (",\n".toList ++ r))) := by
  simp [line, outline]

theorem shows_line (hname : Text.isIdentifier category.toList = true) :
    Text.Shows (Settled category) (fun v => v.line.toList ++ ['\n']) outline := by
  intro v w r r' hv hw h
  rw [line_append, line_append] at h
  obtain ⟨hnames, htypes⟩ :=
    Text.identifier_append_inj (by decide) hv.name hw.name (List.append_cancel_left h)
  obtain ⟨houtline, hrest⟩ := FieldList.commaSeparated_append_inj
    (by simpa [outline] using hv.nonempty) (by simpa [outline] using hw.nonempty)
    (hv.depthOver_declaredTypes hname) (hw.depthOver_declaredTypes hname) htypes
  exact ⟨Prod.ext hnames houtline, List.append_cancel_left hrest⟩

def constructorText (category : String) (v : Variant) : List Char :=
  (v.constructorLines category).flatMap fun line => line.toList ++ ['\n']

theorem constructorText_append (category : String) (v : Variant) (r : List Char) :
    v.constructorText category ++ r = "    pub fn ".toList ++ ((constructorName v.name).toList ++
      '(' :: ((commaSeparated v.parameters).toList ++ ')' :: ((" -> " ++ category ++
        " \x7b\n        " ++ category ++ "::").toList ++ (v.name.toList ++
          '(' :: ((commaSeparated v.arguments).toList ++ ")\n    \x7d\n".toList ++ r))))) := by
  simp [constructorText, constructorLines]

theorem isIdentifier_constructorName {name : String} (h : Text.isIdentifier name.toList = true) :
    Text.isIdentifier (constructorName name).toList = true := by
  have hname : (constructorName name).toList =
      'n' :: ("ew_".toList ++ (Text.lowercase name).toList) := by
    simp [constructorName]
  rw [hname, Text.isIdentifier, Bool.and_eq_true, List.all_append, Bool.and_eq_true]
  refine ⟨by decide, by decide, List.all_eq_true.2 fun c hc => ?_⟩
  exact Text.isIdentifierPart_of_mem_lowercase h hc

theorem Settled.parameters_ne_nil (h : v.Settled category) : v.parameters ≠ [] := by
  simpa [parameters] using h.nonempty

theorem shows_constructor (category : String) :
    Text.Shows (Settled category) (constructorText category) id := by
  intro v w r r' hv hw h
  have hparts := h
  rw [constructorText_append, constructorText_append] at hparts
  obtain ⟨-, hparts⟩ := Text.identifier_append_inj (by decide)
    (isIdentifier_constructorName hv.name) (isIdentifier_constructorName hw.name)
    (List.append_cancel_left hparts)
  obtain ⟨hparameters, hparts⟩ := FieldList.commaSeparated_append_inj hv.parameters_ne_nil
    hw.parameters_ne_nil (fun _ hp => hv.depthOver_parameter hp)
    (fun _ hp => hw.depthOver_parameter hp) hparts
  obtain ⟨hnames, -⟩ :=
    Text.identifier_append_inj (by decide) hv.name hw.name (List.append_cancel_left hparts)
  have heq : v = w := by
    have hfields := hv.fields_eq_of_parameters hw hparameters
    obtain ⟨name, fields⟩ := v
    obtain ⟨name', fields'⟩ := w
    obtain rfl : name = name' := hnames
    obtain rfl : fields = fields' := hfields
    rfl
  subst heq
  exact ⟨rfl, List.append_cancel_left h⟩

end Variant

-- ---------------------------------------------------------------------------
-- Declarations
-- ---------------------------------------------------------------------------

namespace Category

def preamble (name : String) : List String :=
  importsFor name ++ ["use std::fmt::Debug;", "", "#[derive(Clone, Debug)]"]

theorem preamble_lines (name : String) : ∀ line ∈ preamble name, '\n' ∉ line.toList ∧
    ∀ s, (line.toList ++ ['\n'] ++ s).head? ≠ some 'p' := by
  have hlines : ∀ line ∈ preamble name, '\n' ∉ line.toList ∧ line.toList.head? ≠ some 'p' := by
    unfold preamble importsFor
    split <;> decide
  intro line hline
  refine ⟨(hlines line hline).1, fun s => ?_⟩
  have hhead := (hlines line hline).2
  cases hchars : line.toList with
  | nil => simp
  | cons c cs => simpa [hchars] using hhead

def enumText (c : Category) : List Char := (Text.ofLines c.enumLines).toList

def constructorText (c : Category) : List Char := (Text.ofLines ("" :: c.constructorLines)).toList

theorem toList_declaration (constructors : Bool) (c : Category) :
    (c.declaration constructors).toList =
      c.enumText ++ if constructors then c.constructorText else [] := by
  cases constructors <;> simp [declaration, enumText, constructorText, Text.toList_ofLines]

theorem enumText_append (c : Category) (r : List Char) :
    c.enumText ++ r = (preamble c.name).flatMap (fun line => line.toList ++ ['\n']) ++
      ("pub enum ".toList ++ (c.name.toList ++ ' ' :: ("\x7b\n".toList ++
        (c.variants.flatMap (fun v => v.line.toList ++ ['\n']) ++ ("\x7d\n".toList ++ r))))) := by
  simp [enumText, enumLines, preamble, Text.toList_ofLines, List.flatMap_map]

theorem constructorText_append (c : Category) (r : List Char) :
    c.constructorText ++ r = ("\nimpl " ++ c.name ++ " \x7b\n").toList ++
      (c.variants.flatMap (Variant.constructorText c.name) ++ ("\x7d\n".toList ++ r)) := by
  have hvariants : (fun v : Variant => (v.constructorLines c.name).flatMap fun line =>
      line.toList ++ ['\n']) = Variant.constructorText c.name := rfl
  simp [constructorText, constructorLines, Text.toList_ofLines, List.flatMap_assoc, hvariants]

theorem shows_enumText : Text.Shows Settled enumText outline := by
  intro c d r r' hc hd h
  rw [enumText_append, enumText_append] at h
  obtain ⟨-, h⟩ := Text.shows_line.flatMap (fun s => s.head? = some 'p') (preamble_lines c.name)
    (preamble_lines d.name) rfl rfl h
  obtain ⟨hnames, h⟩ :=
    Text.identifier_append_inj (by decide) hc.name hd.name (List.append_cancel_left h)
  -- A line starts with a space, so no line is taken for the end of the enumeration.
  have hline (v : Variant) (s : List Char) :
      (v.line.toList ++ ['\n'] ++ s).head? ≠ some '\x7d' := by
    rw [Variant.line_append]
    simp
  obtain ⟨hvariants, h⟩ := (Variant.shows_line hc.name).flatMap (fun s => s.head? = some '\x7d')
    (fun v hv => ⟨hc.variants v hv, hline v⟩) (fun v hv => ⟨hnames ▸ hd.variants v hv, hline v⟩)
    rfl rfl (List.append_cancel_left h)
  exact ⟨Prod.ext hnames hvariants, List.append_cancel_left h⟩

theorem shows_constructorText (category : String) :
    Text.Shows (fun c => c.name = category ∧ c.Settled) constructorText id := by
  rintro c d r r' ⟨hname, hc⟩ ⟨hname', hd⟩ h
  rw [constructorText_append, constructorText_append, hname, hname'] at h
  have hline (v : Variant) (s : List Char) :
      (v.constructorText category ++ s).head? ≠ some '\x7d' := by
    rw [Variant.constructorText_append]
    simp
  obtain ⟨hvariants, h⟩ := (Variant.shows_constructor category).flatMap
    (fun s => s.head? = some '\x7d') (fun v hv => ⟨hname ▸ hc.variants v hv, hline v⟩)
    (fun v hv => ⟨hname' ▸ hd.variants v hv, hline v⟩) rfl rfl (List.append_cancel_left h)
  rw [List.map_id, List.map_id] at hvariants
  refine ⟨?_, List.append_cancel_left h⟩
  obtain ⟨name, variants⟩ := c
  obtain ⟨name', variants'⟩ := d
  obtain rfl : name = name' := hname.trans hname'.symm
  obtain rfl : variants = variants' := hvariants
  rfl

/-- With the constructor functions the fields of a category are told apart from their boxes. -/
theorem shows_declaration_true : Text.Shows Settled (fun c => (c.declaration true).toList) id := by
  intro c d r r' hc hd h
  simp only [toList_declaration, if_true, List.append_assoc] at h
  obtain ⟨houtline, h⟩ := shows_enumText hc hd h
  have hname : c.name = d.name := congrArg Prod.fst houtline
  exact shows_constructorText c.name ⟨rfl, hc⟩ ⟨hname.symm, hd⟩ h

theorem shows_declaration_false :
    Text.Shows Settled (fun c => (c.declaration false).toList) outline := by
  intro c d r r' hc hd h
  simp only [toList_declaration, Bool.false_eq_true, if_false, List.append_nil] at h
  exact shows_enumText hc hd h

theorem toList_declarations (constructors : Bool) (categories : List Category) :
    (declarations constructors categories).toList =
      categories.flatMap fun c => (c.declaration constructors).toList := by
  simp [declarations, String.toList_join, List.flatMap_map]

theorem toList_declaration_ne_nil (constructors : Bool) (c : Category) (r : List Char) :
    (c.declaration constructors).toList ++ r ≠ [] := by
  rw [toList_declaration, List.append_assoc, enumText_append]
  simp

theorem map_eq_of_declarations_eq {α : Type} {constructors : Bool} {view : Category → α}
    (hshows : Text.Shows Settled (fun c => (c.declaration constructors).toList) view)
    {cs ds : List Category} (hc : ∀ c ∈ cs, c.Settled) (hd : ∀ d ∈ ds, d.Settled)
    (h : declarations constructors cs = declarations constructors ds) :
    cs.map view = ds.map view := by
  have htexts := congrArg String.toList h
  rw [toList_declarations, toList_declarations] at htexts
  have hends (c : Category) (s : List Char) : ¬ (c.declaration constructors).toList ++ s = [] :=
    c.toList_declaration_ne_nil constructors s
  exact (hshows.flatMap (fun s => s = []) (fun c h => ⟨hc c h, hends c⟩)
    (fun d h => ⟨hd d h, hends d⟩) rfl rfl (by simpa using htexts)).1

theorem declarations_false_of_outline {cs ds : List Category}
    (h : cs.map outline = ds.map outline) : declarations false cs = declarations false ds := by
  have hmap : cs.map (declaration false) = ds.map (declaration false) := by
    induction cs generalizing ds with
    | nil =>
      obtain rfl := List.map_eq_nil_iff.1 h.symm
      rfl
    | cons c cs ih =>
      obtain ⟨d, ds, rfl, houtline, hrest⟩ := List.map_eq_cons_iff.1 h.symm
      rw [List.map_cons, List.map_cons, declaration_eq_of_outline houtline.symm, ih hrest.symm]
  rw [declarations, declarations, hmap]

/-- The text of several declarations determines the categories, if their constructor functions
are written too. Otherwise it determines the names and the declared types, and nothing more: a
field that is boxed and one that is written as a box are declared alike. -/
theorem declarations_eq_iff {cs ds : List Category}
    (hc : ∀ c ∈ cs, ∃ s : Schema, s.category.value = .ok c)
    (hd : ∀ d ∈ ds, ∃ s : Schema, s.category.value = .ok d) :
    (declarations true cs = declarations true ds ↔ cs = ds) ∧
      (declarations false cs = declarations false ds ↔ cs.map outline = ds.map outline) := by
  have settled (c : Category) (h : ∃ s : Schema, s.category.value = .ok c) : c.Settled := by
    obtain ⟨s, hs⟩ := h
    exact (Schema.settled_of_category hs).2
  have hcs : ∀ c ∈ cs, c.Settled := fun c h => settled c (hc c h)
  have hds : ∀ d ∈ ds, d.Settled := fun d h => settled d (hd d h)
  refine ⟨⟨fun h => ?_, fun h => h ▸ rfl⟩, ⟨fun h => ?_, fun h => ?_⟩⟩
  · simpa using map_eq_of_declarations_eq shows_declaration_true hcs hds h
  · exact map_eq_of_declarations_eq shows_declaration_false hcs hds h
  · exact declarations_false_of_outline h

/-- A box that is written and one that is added are told apart by the constructor functions. The
line ends within a field are no line ends of the declaration. -/
theorem declarations_of_written_box :
    let added : Schema := ⟨"Expr", ["Unary | Expr", "Pair | (A,\n    B),Expr"]⟩
    let written : Schema := ⟨"Expr", ["Unary | Box<Expr>", "Pair | (A,\n    B), Box<Expr>"]⟩
    let last : Schema := ⟨"Stmt", ["Pair | (A,\n    B)"]⟩
    ∃ c d e, added.category.value = .ok c ∧ written.category.value = .ok d ∧
      last.category.value = .ok e ∧ declarations false [c, e] = declarations false [d, e] ∧
      declarations true [c, e] ≠ declarations true [d, e] := by
  intro added written last
  let pair : Field := ⟨"(A,\n    B)", .tuple [.name "A", .name "B"], false⟩
  let box : Field := ⟨"Box<Expr>", .generic "Box" [.name "Expr"], false⟩
  let c : Category := ⟨"Expr", [⟨"Unary", [⟨"Expr", .name "Expr", true⟩]⟩,
    ⟨"Pair", [pair, ⟨"Expr", .name "Expr", true⟩]⟩]⟩
  let d : Category := ⟨"Expr", [⟨"Unary", [box]⟩, ⟨"Pair", [pair, box]⟩]⟩
  let e : Category := ⟨"Stmt", [⟨"Pair", [pair]⟩]⟩
  have hc : added.category.value = .ok c := by decide +kernel
  have hd : written.category.value = .ok d := by decide +kernel
  have he : last.category.value = .ok e := by decide +kernel
  have hce : ∀ x ∈ [c, e], ∃ s : Schema, s.category.value = .ok x := by
    simpa using ⟨⟨_, hc⟩, ⟨_, he⟩⟩
  have hde : ∀ x ∈ [d, e], ∃ s : Schema, s.category.value = .ok x := by
    simpa using ⟨⟨_, hd⟩, ⟨_, he⟩⟩
  obtain ⟨htrue, hfalse⟩ := declarations_eq_iff hce hde
  exact ⟨c, d, e, hc, hd, he, hfalse.2 (by decide +kernel), fun h =>
    absurd (htrue.1 h) (by decide)⟩

end Category

end NodeSchema

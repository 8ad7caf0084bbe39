import NodeSchema.Proofs.DescriptorText
/-!
# The reader of variants accepts its format

A specification is read exactly if it is a name, a bar and a list of descriptors, with blanks
around the name and around each descriptor. The fields keep the text of their descriptors.

The cut of a field list counts brackets of both kinds together, the reader of a tuple tells
them apart; they find the same fields nevertheless, for a text that is read as a descriptor is
balanced in both senses. Brackets are counted without a limit here; the program counts them in 32
bits with a sign, which is the same for texts with fewer than 2^31 of them open at a time.
-/

namespace NodeSchema

open Text (Blank trim Trimmed)

-- ---------------------------------------------------------------------------
-- Fields
-- ---------------------------------------------------------------------------

def Field.Keeps (f : Field) (text : List Char) : Prop :=
  f.boxed = false ∧ f.text.toList = text ∧ Descriptor.read text = .ok f.type

theorem Field.read_iff {position : Nat} {piece : List Char} {f : Field} :
    Field.read position piece = .ok f ↔ f.Keeps (trim piece) := by
  rw [Field.read, Field.Keeps]
  split
  · next h =>
    rw [h]
    constructor
    · intro hf
      cases hf
    · rintro ⟨-, -, hread⟩
      exact absurd .nil (Descriptor.not_blank_of_read hread)
  · next c text h =>
    rw [h]
    cases Descriptor.read (c :: text) with
    | error fault => simp
    | ok type =>
      constructor
      · intro hf
        cases hf
        exact ⟨rfl, String.toList_ofList, rfl⟩
      · rintro ⟨hboxed, htext, htype⟩
        cases htype
        rw [← htext, String.ofList_toList, ← hboxed]

theorem Field.readAll_cons_iff {position : Nat} {piece : List Char} {pieces : List (List Char)}
    {fields : List Field} : Field.readAll position (piece :: pieces) = .ok fields ↔
      ∃ f others, fields = f :: others ∧ Field.read position piece = .ok f ∧
        Field.readAll (position + 1) pieces = .ok others := by
  rw [Field.readAll]
  cases Field.read position piece with
  | error cause => simp
  | ok f =>
    cases Field.readAll (position + 1) pieces with
    | error cause => simp
    | ok others => simp [eq_comm]

theorem Field.readAll_iff {position : Nat} {pieces : List (List Char)} {fields : List Field} :
    Field.readAll position pieces = .ok fields ↔
      List.Forall₂ Field.Keeps fields (pieces.map trim) := by
  induction pieces generalizing position fields with
  | nil => simp [Field.readAll, eq_comm]
  | cons piece pieces ih =>
    rw [Field.readAll_cons_iff, List.map_cons, List.forall₂_cons_right_iff]
    constructor
    · rintro ⟨f, others, rfl, hf, hothers⟩
      exact ⟨f, others, Field.read_iff.1 hf, ih.1 hothers, rfl⟩
    · rintro ⟨f, others, hf, hothers, rfl⟩
      exact ⟨f, others, rfl, Field.read_iff.2 hf, ih.2 hothers⟩

namespace Variant

/-- Whether the whole list is trimmed before it is cut does not matter. -/
theorem readFields_iff {s : List Char} {fields : List Field} :
    readFields s = .ok fields ↔ ∃ pieces, FieldList.cut s = .ok pieces ∧
      List.Forall₂ Field.Keeps fields (pieces.map trim) := by
  have htrim : readFields s = .ok fields ↔ ∃ pieces, FieldList.cut (trim s) = .ok pieces ∧
      List.Forall₂ Field.Keeps fields (pieces.map trim) := by
    rw [readFields]
    split
    · next h =>
      rw [h]
      constructor
      · intro hfields
        cases hfields
      · rintro ⟨pieces, hcut, hall⟩
        -- The only piece of an empty text is blank, and no field is.
        cases hcut
        cases hall with
        | cons hkeeps _ => exact absurd .nil (Descriptor.not_blank_of_read hkeeps.2.2)
    · next c text h =>
      rw [h]
      cases FieldList.cut (c :: text) with
      | error fault => simp
      | ok pieces => simp [Field.readAll_iff]
  rw [htrim]
  constructor
  · rintro ⟨pieces, hcut, hall⟩
    obtain ⟨found, hfound, heq⟩ := FieldList.cut_trim_iff.1 ⟨pieces, hcut, rfl⟩
    exact ⟨found, hfound, heq ▸ hall⟩
  · rintro ⟨pieces, hcut, hall⟩
    obtain ⟨found, hfound, heq⟩ := FieldList.cut_trim_iff.2 ⟨pieces, hcut, rfl⟩
    exact ⟨found, hfound, heq ▸ hall⟩

theorem readName_iff {s : List Char} {name : String} :
    readName s = .ok name ↔ Text.isIdentifier name.toList = true ∧ trim s = name.toList := by
  rw [readName]
  split
  · next h =>
    rw [h]
    constructor
    · intro hname
      cases hname
    · rintro ⟨hname, heq⟩
      rw [← heq] at hname
      cases hname
  · next c text h =>
    rw [h]
    constructor
    · intro hname
      split at hname
      · next hident =>
        cases hname
        exact ⟨by rwa [String.toList_ofList], String.toList_ofList.symm⟩
      · cases hname
    · rintro ⟨hname, heq⟩
      rw [heq, if_pos hname, String.ofList_toList]

theorem bar_not_mem_of_trim {s : List Char} {name : String}
    (hname : Text.isIdentifier name.toList = true) (h : trim s = name.toList) : '|' ∉ s := by
  obtain ⟨-, before, after, hb, ha, hs⟩ := Text.trim_eq_iff.1 h
  intro hbar
  rw [hs, List.mem_append, List.mem_append] at hbar
  rcases hbar with (hbar | hbar) | hbar
  · exact absurd (hb _ hbar) (by decide)
  · exact absurd (Text.isIdentifierPart_of_mem hname hbar) (by decide)
  · exact absurd (ha _ hbar) (by decide)

theorem read_iff {spec : String} {v : Variant} :
    read spec = .ok v ↔ ∃ before after, spec.toList = before ++ '|' :: after ∧
      Text.isIdentifier v.name.toList = true ∧ trim before = v.name.toList ∧
      readFields after = .ok v.fields := by
  constructor
  · intro h
    rw [read] at h
    split at h
    · cases h
    · next before after hsplit =>
      cases hname : readName before with
      | error cause => simp [hname] at h
      | ok name =>
        simp only [hname] at h
        cases hfields : readFields after with
        | error cause => simp [hfields] at h
        | ok fields =>
          simp only [hfields] at h
          cases h
          obtain ⟨hident, htrim⟩ := readName_iff.1 hname
          exact ⟨before, after, (splitAtBar_eq_some_iff.1 hsplit).2, hident, htrim, hfields⟩
  · rintro ⟨before, after, hspec, hident, htrim, hfields⟩
    have hsplit := splitAtBar_eq_some_iff.2 ⟨bar_not_mem_of_trim hident htrim, hspec⟩
    rw [read]
    simp only [hsplit, readName_iff.2 ⟨hident, htrim⟩, hfields]

theorem read_bar_iff {name s : String} {v : Variant}
    (hname : Text.isIdentifier name.toList = true) :
    read (name ++ "|" ++ s) = .ok v ↔ v.name = name ∧ readFields s.toList = .ok v.fields := by
  have htrim : trim name.toList = name.toList :=
    Text.trim_of_trimmed (Descriptor.IsPath.of_isIdentifier hname).trimmed
  have hspec : (name ++ "|" ++ s).toList = name.toList ++ '|' :: s.toList := by simp
  rw [read_iff, hspec]
  constructor
  · rintro ⟨before, after, hsplit, hident, hbefore, hfields⟩
    -- Both sides are split at their first bar.
    have hfirst := splitAtBar_eq_some_iff.2 ⟨bar_not_mem_of_trim hident hbefore, hsplit⟩
    rw [splitAtBar_eq_some_iff.2 ⟨bar_not_mem_of_trim hname htrim, rfl⟩] at hfirst
    cases hfirst
    exact ⟨String.toList_inj.1 (hbefore.symm.trans htrim), hfields⟩
  · rintro ⟨rfl, hfields⟩
    exact ⟨_, _, rfl, hname, htrim, hfields⟩

-- ---------------------------------------------------------------------------
-- Field lists and tuples
-- ---------------------------------------------------------------------------

theorem exists_fields_of_read {ds : List Descriptor} {pieces : List (List Char)}
    (h : List.Forall₂ (fun d piece => Descriptor.read piece = .ok d) ds pieces) :
    ∃ fields, List.Forall₂ Field.Keeps fields (pieces.map trim) ∧ fields.map Field.type = ds := by
  induction h with
  | nil => exact ⟨[], .nil, rfl⟩
  | @cons d piece ds pieces hread _ ih =>
    obtain ⟨fields, hall, rfl⟩ := ih
    refine ⟨⟨String.ofList (trim piece), d, false⟩ :: fields, .cons ?_ hall, rfl⟩
    exact ⟨rfl, String.toList_ofList, Descriptor.read_trim.2 hread⟩

theorem read_of_keeps {fields : List Field} {pieces : List (List Char)}
    (h : List.Forall₂ Field.Keeps fields (pieces.map trim)) :
    List.Forall₂ (fun d piece => Descriptor.read piece = .ok d) (fields.map Field.type) pieces :=
  List.forall₂_map_left_iff.2 ((List.forall₂_map_right_iff.1 h).imp fun _ _ hkeeps =>
    Descriptor.read_trim.1 hkeeps.2.2)

theorem readFields_types_iff {s : List Char} {ds : List Descriptor} :
    (∃ fields, readFields s = .ok fields ∧ fields.map Field.type = ds) ↔
      ∃ pieces, FieldList.cut s = .ok pieces ∧
        List.Forall₂ (fun d piece => Descriptor.read piece = .ok d) ds pieces := by
  constructor
  · rintro ⟨fields, hfields, rfl⟩
    obtain ⟨pieces, hcut, hall⟩ := readFields_iff.1 hfields
    exact ⟨pieces, hcut, read_of_keeps hall⟩
  · rintro ⟨pieces, hcut, hall⟩
    obtain ⟨fields, hkeeps, htypes⟩ := exists_fields_of_read hall
    exact ⟨fields, readFields_iff.2 ⟨pieces, hcut, hkeeps⟩, htypes⟩

/-- Texts that are read as descriptors are found again when their list is cut. -/
theorem cut_of_read {ds : List Descriptor} {pieces : List (List Char)} (hne : ds ≠ [])
    (h : List.Forall₂ (fun d piece => Descriptor.read piece = .ok d) ds pieces) :
    FieldList.cut ([','].intercalate pieces) = .ok pieces := by
  have hpieces : List.Forall₂ (fun piece d => FieldList.depthOver 0 piece = some 0 ∧
      Descriptor.read piece = .ok d) pieces ds :=
    h.flip.imp fun piece d hread => ⟨Descriptor.depthOver_of_read hread, hread⟩
  refine FieldList.cut_iff.2 ⟨?_, ((List.forall₂_and_left pieces ds).1 hpieces).1, rfl⟩
  rintro rfl
  exact hne (List.forall₂_nil_right_iff.1 h)

/-- A field list that is not blank and the tuple of the same text have the same types: what
the cut counts without telling brackets apart, the reader of tuples nests. -/
theorem read_types_iff_read_tuple {name s : String} {ds : List Descriptor}
    (hname : Text.isIdentifier name.toList = true) (hs : ¬ Blank s.toList) :
    (∃ v, read (name ++ "|" ++ s) = .ok v ∧ v.fields.map Field.type = ds) ↔
      Descriptor.read ("(" ++ s ++ ")").toList = .ok (.tuple ds) := by
  have htuple : ("(" ++ s ++ ")").toList = '(' :: (s.toList ++ [')']) := by simp
  rw [htuple]
  constructor
  · rintro ⟨v, hread, htypes⟩
    obtain ⟨-, hfields⟩ := (read_bar_iff hname).1 hread
    obtain ⟨pieces, hcut, hall⟩ := readFields_types_iff.1 ⟨v.fields, hfields, htypes⟩
    obtain ⟨hne, -, hjoin⟩ := FieldList.cut_iff.1 hcut
    have hds : ds ≠ [] := by
      rintro rfl
      exact hne (List.forall₂_nil_left_iff.1 hall)
    obtain ⟨hw, hspells⟩ := (Descriptor.spells_listTokens_iff_read hds).2 ⟨pieces, hall, hjoin⟩
    exact Descriptor.read_of_spells hw
      ((Descriptor.spells_brackets (by decide) (by decide)).2 hspells)
  · intro hread
    obtain ⟨hw, hspells⟩ := Descriptor.spells_of_read hread
    replace hspells := (Descriptor.spells_brackets (by decide) (by decide)).1 hspells
    have hds : ds ≠ [] := by
      rintro rfl
      exact hs (Descriptor.spells_nil.1 hspells)
    obtain ⟨pieces, hall, hjoin⟩ := (Descriptor.spells_listTokens_iff_read hds).1 ⟨hw, hspells⟩
    have hcut := cut_of_read hds hall
    rw [← hjoin] at hcut
    obtain ⟨fields, hfields, htypes⟩ := readFields_types_iff.2 ⟨pieces, hcut, hall⟩
    exact ⟨⟨name, fields⟩, (read_bar_iff hname).2 ⟨rfl, hfields⟩, htypes⟩

/-- The two ways of nesting agree on tuples within the list. -/
theorem read_types_of_nested_tuples :
    Text.isIdentifier "Pair".toList = true ∧ ¬ Blank " (A, B) ,C<(), D>".toList ∧
      ∃ v, read ("Pair" ++ "|" ++ " (A, B) ,C<(), D>") = .ok v ∧ v.fields.map Field.type =
        [.tuple [.name "A", .name "B"], .generic "C" [.tuple [], .name "D"]] := by
  have hs : ¬ Blank " (A, B) ,C<(), D>".toList := fun h => absurd (h '(' (by decide)) (by decide)
  exact ⟨by decide, hs, (read_types_iff_read_tuple (by decide) hs).2 (by decide +kernel)⟩

-- ---------------------------------------------------------------------------
-- The format
-- ---------------------------------------------------------------------------

/-- The written forms of a variant: its name, a bar and the texts of its fields with commas
between them. Blanks may stand around the name and around each text. -/
structure Written (v : Variant) (spec : List Char) : Prop where
  name : Text.isIdentifier v.name.toList = true
  nonempty : v.fields ≠ []
  fields : ∀ f ∈ v.fields, f.boxed = false ∧ Trimmed f.text.toList ∧
    Descriptor.read f.text.toList = .ok f.type
  spelled : ∃ before after pieces, Blank before ∧ Blank after ∧
    List.Forall₂ (fun f piece => ∃ front back, Blank front ∧ Blank back ∧
      piece = front ++ f.text.toList ++ back) v.fields pieces ∧
    spec = before ++ v.name.toList ++ after ++ '|' :: [','].intercalate pieces

def print (v : Variant) : String := v.name ++ "|" ++ ",".intercalate (v.fields.map Field.text)

theorem keeps_trim_iff {f : Field} {piece : List Char} :
    f.Keeps (trim piece) ↔ (f.boxed = false ∧ Trimmed f.text.toList ∧
      Descriptor.read f.text.toList = .ok f.type) ∧ ∃ front back, Blank front ∧ Blank back ∧
        piece = front ++ f.text.toList ++ back := by
  constructor
  · rintro ⟨hboxed, htext, hread⟩
    obtain ⟨htrimmed, hpad⟩ := Text.trim_eq_iff.1 htext.symm
    exact ⟨⟨hboxed, htrimmed, htext ▸ hread⟩, hpad⟩
  · rintro ⟨⟨hboxed, htrimmed, hread⟩, hpad⟩
    have htext := Text.trim_eq_iff.2 ⟨htrimmed, hpad⟩
    exact ⟨hboxed, htext.symm, htext ▸ hread⟩

theorem written_of_read {spec : String} {v : Variant} (h : read spec = .ok v) :
    v.Written spec.toList := by
  obtain ⟨before, after, hspec, hident, htrim, hfields⟩ := read_iff.1 h
  obtain ⟨pieces, hcut, hall⟩ := readFields_iff.1 hfields
  obtain ⟨hne, -, rfl⟩ := FieldList.cut_iff.1 hcut
  obtain ⟨-, front, back, hfront, hback, rfl⟩ := Text.trim_eq_iff.1 htrim
  have hkeeps := (List.forall₂_map_right_iff.1 hall).imp fun _ _ hf => keeps_trim_iff.1 hf
  obtain ⟨hkept, hpad⟩ := (List.forall₂_and_left v.fields pieces).1 hkeeps
  refine ⟨hident, ?_, hkept, front, back, pieces, hfront, hback, hpad, hspec⟩
  intro hnil
  rw [hnil] at hpad
  exact hne (List.forall₂_nil_left_iff.1 hpad)

theorem read_of_written {spec : String} {v : Variant} (h : v.Written spec.toList) :
    read spec = .ok v := by
  obtain ⟨hident, hne, hkept, front, back, pieces, hfront, hback, hpad, hspec⟩ := h
  have hboth := (List.forall₂_and_left v.fields pieces).2 ⟨hkept, hpad⟩
  have hall := List.forall₂_map_right_iff.2 (hboth.imp fun _ _ hf => keeps_trim_iff.2 hf)
  have hcut := cut_of_read (by simpa using hne) (read_of_keeps hall)
  have htrim : trim (front ++ v.name.toList ++ back) = v.name.toList :=
    Text.trim_eq_iff.2 ⟨(Descriptor.IsPath.of_isIdentifier hident).trimmed, front, back, hfront,
      hback, rfl⟩
  exact read_iff.2 ⟨_, _, hspec, hident, htrim, readFields_iff.2 ⟨pieces, hcut, hall⟩⟩

theorem Written.print {spec : List Char} {v : Variant} (h : v.Written spec) :
    v.Written v.print.toList := by
  refine ⟨h.name, h.nonempty, h.fields, [], [], v.fields.map (·.text.toList), .nil, .nil, ?_, ?_⟩
  · exact List.forall₂_map_right_iff.2
      (List.forall₂_same.2 fun f _ => ⟨[], [], .nil, .nil, by simp⟩)
  · simp [Variant.print, String.toList_intercalate, Function.comp_def]

/-- A specification is read exactly if it is a written form of the variant, and then the
shortest written form is read as the same variant. -/
theorem read_iff_written {spec : String} {v : Variant} :
    (read spec = .ok v ↔ v.Written spec.toList) ∧ (read spec = .ok v → read v.print = .ok v) :=
  ⟨⟨written_of_read, read_of_written⟩, fun h => read_of_written (written_of_read h).print⟩

/-- The blanks around the texts are lost in the shortest written form, those within are kept. -/
theorem read_print_of_cases :
    let spec := "Case |Expr,   Vec<(Expr, Stmt)> ,Option<Box<Stmt>>"
    ∃ v, v.Written spec.toList ∧ v.print = "Case|Expr,Vec<(Expr, Stmt)>,Option<Box<Stmt>>" ∧
      read spec = .ok v ∧ read v.print = .ok v := by
  intro spec
  have hread : read spec = .ok ⟨"Case", [⟨"Expr", .name "Expr", false⟩,
      ⟨"Vec<(Expr, Stmt)>", .generic "Vec" [.tuple [.name "Expr", .name "Stmt"]], false⟩,
      ⟨"Option<Box<Stmt>>", .optional (.generic "Box" [.name "Stmt"]), false⟩]⟩ := by
    decide +kernel
  exact ⟨_, read_iff_written.1.1 hread, by decide +kernel, hread, read_iff_written.2 hread⟩

end Variant

end NodeSchema

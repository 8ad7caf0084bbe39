import NodeSchema.Proofs.SchemaReading
import NodeSchema.Proofs.DescriptorPrinting
/-!
# Declaring a declared category again

The line of a variant in a declaration is itself a field list. Read as one, it stands for a
variant with the declared types as its fields, and none of them is boxed a second time: a boxed
type has `Box` before the name of the category, so it is not that name any more. The declaration
stays the same.
-/

namespace NodeSchema

open Text (Trimmed)

-- ---------------------------------------------------------------------------
-- Categories that were read
-- ---------------------------------------------------------------------------

/-- The field has the type of its text, and is boxed if that is the category. -/
structure Field.Settled (category : String) (f : Field) : Prop where
  trimmed : Trimmed f.text.toList
  read : Descriptor.read f.text.toList = .ok f.type
  boxed : f.boxed = f.type.isName category

structure Variant.Settled (category : String) (v : Variant) : Prop where
  name : Text.isIdentifier v.name.toList = true
  nonempty : v.fields ≠ []
  fields : ∀ f ∈ v.fields, f.Settled category

structure Category.Settled (c : Category) : Prop where
  name : Text.isIdentifier c.name.toList = true
  variants : ∀ v ∈ c.variants, v.Settled c.name
  distinct : (c.variants.map Variant.name).Nodup

theorem Variant.Written.settled {v : Variant} {spec : List Char} (h : v.Written spec)
    (category : String) : (v.boxFor category).Settled category := by
  refine ⟨h.name, by simpa [boxFor] using h.nonempty, fun f hf => ?_⟩
  obtain ⟨g, hg, rfl⟩ := List.mem_map.1 hf
  obtain ⟨-, htrimmed, hread⟩ := h.fields g hg
  exact ⟨htrimmed, hread, rfl⟩

theorem Schema.settled_of_category {s : Schema} {c : Category} (h : s.category.value = .ok c) :
    c.name = s.name ∧ c.Settled := by
  obtain ⟨hname, variants, hread, hnodup, rfl⟩ := category_iff.1 h
  have hwritten := hread.flip.imp fun v spec hv =>
    And.intro ((Variant.written_of_read hv).settled s.name) hv
  obtain ⟨hsettled, -⟩ := (List.forall₂_and_left variants s.specs).1 hwritten
  refine ⟨rfl, hname, ?_, ?_⟩
  · intro v hv
    obtain ⟨w, hw, rfl⟩ := List.mem_map.1 hv
    exact hsettled w hw
  · simpa [Category.box, Function.comp_def] using hnodup

/-- The text of a field and the category decide the rest of it. -/
theorem Field.Settled.eq_of_text {category : String} {f g : Field} (hf : f.Settled category)
    (hg : g.Settled category) (h : f.text = g.text) : f = g := by
  obtain ⟨text, type, boxed⟩ := f
  obtain ⟨text', type', boxed'⟩ := g
  obtain rfl : text = text' := h
  obtain rfl : type = type' := Except.ok.inj (hf.read.symm.trans hg.read)
  obtain rfl : boxed = boxed' := hf.boxed.trans hg.boxed.symm
  rfl

theorem Field.Settled.of_boxed {category : String} {f : Field} (h : f.Settled category)
    (hboxed : f.boxed = true) : f.text = category ∧ f.type = .name category := by
  have htype : f.type = .name category := Descriptor.isName_iff.1 (h.boxed ▸ hboxed)
  obtain ⟨-, htext⟩ := Descriptor.read_name_iff.1 (htype ▸ h.read)
  rw [Text.trim_of_trimmed h.trimmed] at htext
  exact ⟨String.toList_inj.1 htext, htype⟩

theorem Category.Settled.box_eq {c : Category} (h : c.Settled) : c.box = c := by
  have hvariant (v : Variant) (hv : v ∈ c.variants) : v.boxFor c.name = v := by
    have hfield (f : Field) (hf : f ∈ v.fields) : f.boxFor c.name = f := by
      rw [Field.boxFor, ← ((h.variants v hv).fields f hf).boxed]
    rw [Variant.boxFor, List.map_congr_left hfield, List.map_id']
  rw [box, List.map_congr_left hvariant, List.map_id']

-- ---------------------------------------------------------------------------
-- What a declaration shows
-- ---------------------------------------------------------------------------

def Variant.outline (v : Variant) : String × List String :=
  (v.name, v.fields.map Field.declaredType)

/-- The names and the declared types, which are all that the enumeration is made of. -/
def Category.outline (c : Category) : String × List (String × List String) :=
  (c.name, c.variants.map Variant.outline)

theorem Category.declaration_eq_of_outline {c d : Category} (h : c.outline = d.outline) :
    c.declaration false = d.declaration false := by
  have hline (c : Category) : c.variants.map Variant.line = c.outline.2.map fun v =>
      "    " ++ v.1 ++ "(" ++ commaSeparated v.2 ++ ")," := by
    simp [outline, Variant.outline, Variant.line, Function.comp_def]
  have hname : c.name = d.name := congrArg Prod.fst h
  simp only [declaration, enumLines, hline, h, hname, Bool.false_eq_true, if_false]

-- ---------------------------------------------------------------------------
-- The fields of the second reading
-- ---------------------------------------------------------------------------

def Field.redeclared (f : Field) : Field where
  text := f.declaredType
  type := if f.boxed then .generic "Box" [f.type] else f.type
  boxed := false

def Variant.redeclared (v : Variant) : Variant := { v with fields := v.fields.map Field.redeclared }

def Category.redeclared (c : Category) : Category :=
  { c with variants := c.variants.map Variant.redeclared }

theorem Field.declaredType_redeclared (f : Field) : f.redeclared.declaredType = f.declaredType := rfl

theorem Category.outline_redeclared (c : Category) : c.redeclared.outline = c.outline := by
  simp [outline, redeclared, Variant.outline, Variant.redeclared, Function.comp_def,
    Field.declaredType_redeclared]

theorem Text.trimmed_between {first last : Char} (s : List Char) (hf : isBlank first = false)
    (hl : isBlank last = false) : Trimmed (first :: (s ++ [last])) := by
  constructor
  · rintro c ⟨⟩
    exact hf
  · intro c hc
    rw [← List.cons_append, List.getLast?_concat] at hc
    cases hc
    exact hl

theorem Field.Settled.redeclared {category : String} {f : Field}
    (hname : Text.isIdentifier category.toList = true) (h : f.Settled category) :
    f.redeclared.Settled category := by
  cases hboxed : f.boxed with
  | false =>
    have heq : f.redeclared = f := by
      obtain ⟨text, type, boxed⟩ := f
      obtain rfl : boxed = false := hboxed
      rfl
    rwa [heq]
  | true =>
    let box : Descriptor := .generic "Box" [.name category]
    have hw : box.WellFormed :=
      ⟨.of_isIdentifier (by decide), by decide, by simp, .of_isIdentifier hname, trivial⟩
    have heq : f.redeclared = ⟨box.print, box, false⟩ := by
      obtain ⟨htext, htype⟩ := h.of_boxed hboxed
      simp [Field.redeclared, declaredType, hboxed, htext, htype, box, Descriptor.print,
        Descriptor.printList]
    have htrimmed : Trimmed box.print.toList := by
      have hprint : box.print.toList = 'B' :: ("ox<".toList ++ category.toList ++ ['>']) := by
        simp [box, Descriptor.print, Descriptor.printList]
      rw [hprint]
      exact Text.trimmed_between _ (by decide) (by decide)
    rw [heq]
    exact ⟨htrimmed, Descriptor.read_print hw, rfl⟩

theorem Variant.Settled.redeclared {category : String} {v : Variant}
    (hname : Text.isIdentifier category.toList = true) (h : v.Settled category) :
    v.redeclared.Settled category := by
  refine ⟨h.name, by simpa [Variant.redeclared] using h.nonempty, fun f hf => ?_⟩
  obtain ⟨g, hg, rfl⟩ := List.mem_map.1 hf
  exact (h.fields g hg).redeclared hname

theorem Category.Settled.redeclared {c : Category} (h : c.Settled) : c.redeclared.Settled := by
  refine ⟨h.name, fun v hv => ?_, ?_⟩
  · obtain ⟨w, hw, rfl⟩ := List.mem_map.1 hv
    exact (h.variants w hw).redeclared h.name
  · have hnames : c.redeclared.variants.map Variant.name = c.variants.map Variant.name := by
      simp [Category.redeclared, Variant.redeclared, Function.comp_def]
    rw [hnames]
    exact h.distinct

-- ---------------------------------------------------------------------------
-- The second reading
-- ---------------------------------------------------------------------------

def Variant.declaredSpec (v : Variant) : String :=
  v.name ++ " | " ++ commaSeparated (v.fields.map Field.declaredType)

/-- The space behind a comma goes with the next piece, and the first piece has one as well. -/
theorem cons_space_intercalate {pieces : List (List Char)} (hne : pieces ≠ []) :
    ' ' :: [',', ' '].intercalate pieces = [','].intercalate (pieces.map (' ' :: ·)) := by
  induction pieces with
  | nil => exact absurd rfl hne
  | cons piece pieces ih =>
    cases pieces with
    | nil => simp
    | cons next pieces =>
      have tail := ih (by simp)
      rw [List.map_cons] at tail ⊢
      rw [List.map_cons, List.intercalate_cons_cons, List.intercalate_cons_cons, ← tail]
      simp

theorem Variant.Settled.written {category : String} {v : Variant} (h : v.Settled category)
    (hunboxed : ∀ f ∈ v.fields, f.boxed = false) : v.Written v.declaredSpec.toList := by
  refine ⟨h.name, h.nonempty, fun f hf => ?_, [], [' '],
    v.fields.map fun f => ' ' :: f.text.toList, .nil, ?_, ?_, ?_⟩
  · exact ⟨hunboxed f hf, (h.fields f hf).trimmed, (h.fields f hf).read⟩
  · exact .space
  · exact List.forall₂_map_right_iff.2
      (List.forall₂_same.2 fun f _ => ⟨[' '], [], .space, .nil, by simp⟩)
  · have htexts : (v.fields.map Field.declaredType).map String.toList =
        v.fields.map (·.text.toList) := by
      rw [List.map_map]
      refine List.map_congr_left fun f hf => ?_
      simp [Field.declaredType, hunboxed f hf]
    have hne : v.fields.map (·.text.toList) ≠ [] := by simpa using h.nonempty
    have hpieces := cons_space_intercalate hne
    rw [List.map_map] at hpieces
    have hcomma : ", ".toList = [',', ' '] := rfl
    have hbar : " | ".toList = [' ', '|', ' '] := rfl
    simp only [declaredSpec, commaSeparated, String.toList_append, String.toList_intercalate, htexts,
      hcomma, hbar]
    simpa [Function.comp_def] using hpieces

theorem Variant.declaredSpec_redeclared (v : Variant) :
    v.redeclared.declaredSpec = v.declaredSpec := by
  simp [declaredSpec, redeclared, Function.comp_def, Field.declaredType_redeclared]

theorem Variant.Settled.read_declaredSpec {category : String} {v : Variant}
    (hname : Text.isIdentifier category.toList = true) (h : v.Settled category) :
    read v.declaredSpec = .ok v.redeclared := by
  have hunboxed : ∀ f ∈ v.redeclared.fields, f.boxed = false := by
    simp [Variant.redeclared, Field.redeclared]
  rw [← v.declaredSpec_redeclared]
  exact read_of_written ((h.redeclared hname).written hunboxed)

namespace Schema

theorem category_declaredSpecs {c : Category} (h : c.Settled) :
    (Schema.mk c.name (c.variants.map Variant.declaredSpec)).category.value = .ok c.redeclared := by
  refine category_iff.2 ⟨h.name, c.redeclared.variants, ?_, h.redeclared.distinct, ?_⟩
  · refine List.forall₂_map_left_iff.2 (List.forall₂_map_right_iff.2 (List.forall₂_same.2 ?_))
    intro v hv
    exact (h.variants v hv).read_declaredSpec h.name
  · exact h.redeclared.box_eq.symm

/-- What a schema declares, read as a schema again, is accepted, has the same names and declared
types without a box to add, and is declared by the same text. -/
theorem redeclaration_eq {s : Schema} {c : Category} (h : s.category.value = .ok c) :
    let again : Schema := ⟨s.name, c.variants.map Variant.declaredSpec⟩
    ∃ d, again.category.value = .ok d ∧ (∀ v ∈ d.variants, ∀ f ∈ v.fields, f.boxed = false) ∧
      d.outline = c.outline ∧ (s.declaration false).value = .ok (c.declaration false) ∧
      (again.declaration false).value = (s.declaration false).value := by
  intro again
  obtain ⟨hname, hsettled⟩ := settled_of_category h
  have hagain : again.category.value = .ok c.redeclared := by
    have hspecs := category_declaredSpecs hsettled
    rwa [hname] at hspecs
  have hfirst := declaration_false_iff.2 ⟨c, h, rfl⟩
  refine ⟨c.redeclared, hagain, ?_, c.outline_redeclared, hfirst, ?_⟩
  · simp [Category.redeclared, Variant.redeclared, Field.redeclared]
  · rw [hfirst, declaration_false_iff.2 ⟨_, hagain, rfl⟩,
      Category.declaration_eq_of_outline c.outline_redeclared]

/-- A category named like the box itself is boxed once and no more. -/
theorem redeclaration_of_boxes :
    let s : Schema := ⟨"Box", ["Leaf|Option", "Pair | Box ,Vec<(Box,  Option)>,\nBox"]⟩
    let again : Schema := ⟨"Box", ["Leaf | Option", "Pair | Box<Box>, Vec<(Box,  Option)>, Box<Box>"]⟩
    ∃ c d, s.category.value = .ok c ∧ again.specs = c.variants.map Variant.declaredSpec ∧
      again.category.value = .ok d ∧ (∀ v ∈ d.variants, ∀ f ∈ v.fields, f.boxed = false) ∧
      d.outline = c.outline ∧ (s.declaration false).value = .ok (c.declaration false) ∧
      (again.declaration false).value = (s.declaration false).value := by
  intro s again
  let c : Category := ⟨"Box", [⟨"Leaf", [⟨"Option", .name "Option", false⟩]⟩,
    ⟨"Pair", [⟨"Box", .name "Box", true⟩,
      ⟨"Vec<(Box,  Option)>", .generic "Vec" [.tuple [.name "Box", .name "Option"]], false⟩,
      ⟨"Box", .name "Box", true⟩]⟩]⟩
  have hc : s.category.value = .ok c := by decide +kernel
  have hspecs : again.specs = c.variants.map Variant.declaredSpec := by decide +kernel
  obtain ⟨d, hd⟩ := redeclaration_eq hc
  rw [← hspecs] at hd
  exact ⟨c, d, hc, hspecs, hd⟩

end Schema

end NodeSchema

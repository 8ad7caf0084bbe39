import NodeSchema.Proofs.SchemaReading
/-!
# Declarations written text by text

`Textual.declaration` writes the declaration of a schema without reading it: it splits each
specification at its first bar, cuts what follows at the commas outside all brackets, trims
the texts it finds and boxes those that are literally the name of the category. It has no
descriptors, checks nothing and answers for every schema.

Where the schema is accepted, its declaration is this text. A field is boxed because its
descriptor is the bare name of the category, and only that name is read as such a descriptor.
-/

namespace NodeSchema

open Text (trim)

-- ---------------------------------------------------------------------------
-- The direct writer
-- ---------------------------------------------------------------------------

namespace Textual

def turn : Char → Int
  | '<' | '(' => 1
  | '>' | ')' => -1
  | _ => 0

/-- The pieces between the commas at depth zero. Brackets that do not match are counted all
the same, so the depth may fall below zero. -/
def pieces (depth : Int) : List Char → List (List Char)
  | [] => [[]]
  | c :: s =>
    if c = ',' ∧ depth = 0 then [] :: pieces depth s
    else (pieces (depth + turn c) s).modifyHead (c :: ·)

def variantName (spec : String) : String :=
  String.ofList (trim (spec.toList.takeWhile (· ≠ '|')))

def fieldTexts (spec : String) : List String :=
  (pieces 0 ((spec.toList.dropWhile (· ≠ '|')).drop 1)).map fun piece => String.ofList (trim piece)

def fieldText (category text : String) : String :=
  if text = category then "Box<" ++ category ++ ">" else text

def variantLine (category spec : String) : String :=
  "    " ++ variantName spec ++ "(" ++
    ", ".intercalate ((fieldTexts spec).map (fieldText category)) ++ "),"

/-- The declaration of a schema, from the texts of its specifications. -/
def declaration (s : Schema) : String :=
  Text.ofLines (importsFor s.name ++ ["use std::fmt::Debug;", "", "#[derive(Clone, Debug)]",
    "pub enum " ++ s.name ++ " \x7b"] ++ s.specs.map (variantLine s.name) ++ ["\x7d"])

end Textual

-- ---------------------------------------------------------------------------
-- Texts of fields
-- ---------------------------------------------------------------------------

namespace FieldList

theorem depthAfter_eq_turn {depth after : Nat} {c : Char} (h : depthAfter depth c = some after) :
    (after : Int) = depth + Textual.turn c := by
  unfold depthAfter at h
  split at h
  · next hopen =>
    cases h
    have : c = '<' ∨ c = '(' := by simpa [isOpener] using hopen
    rcases this with rfl | rfl <;> rfl
  · next hopen =>
    split at h
    · next hclose =>
      split at h
      · cases h
      · cases h
        have : c = '>' ∨ c = ')' := by simpa [isCloser] using hclose
        rcases this with rfl | rfl <;> simp only [Textual.turn] <;> omega
    · next hclose =>
      cases h
      have hturn : Textual.turn c = 0 := by
        unfold Textual.turn
        split
        · simp [isOpener] at hopen
        · simp [isOpener] at hopen
        · simp [isCloser] at hclose
        · simp [isCloser] at hclose
        · rfl
      omega

/-- Where the cut succeeds, no depth falls below zero and the two depths agree. -/
theorem cutFrom_eq_pieces {depth offset : Nat} {s : List Char} {found : List (List Char)}
    (h : cutFrom depth offset s = .ok found) : found = Textual.pieces depth s := by
  fun_induction cutFrom depth offset s generalizing found with
  | case1 => cases h; rfl
  | case2 | case3 | case4 => cases h
  | case5 depth offset c rest after hafter pieces hpieces hcomma ih =>
    cases h
    obtain ⟨rfl, rfl⟩ := hcomma
    obtain rfl : 0 = after := by simpa only [depthAfter_comma, Option.some.injEq] using hafter
    rw [Textual.pieces, if_pos ⟨rfl, rfl⟩, ← ih hpieces]
  | case6 depth offset c rest after hafter pieces hpieces hcomma ih =>
    cases h
    have hdepth : ¬(c = ',' ∧ (depth : Int) = 0) := fun h => hcomma ⟨h.1, by omega⟩
    rw [Textual.pieces, if_neg hdepth, ← depthAfter_eq_turn hafter, ← ih hpieces]

end FieldList

/-- A descriptor is the bare name exactly if its text, trimmed, is that name. -/
theorem Descriptor.isName_iff_text {n : String} {source : List Char} {d : Descriptor}
    (hn : Text.isIdentifier n.toList = true) (h : read source = .ok d) :
    d.isName n = true ↔ String.ofList (trim source) = n := by
  rw [isName_iff]
  constructor
  · rintro rfl
    rw [(read_name_iff.1 h).2, String.ofList_toList]
  · intro htext
    have htrim : trim source = n.toList := by rw [← htext, String.toList_ofList]
    have hname := read_name_iff.2 ⟨IsPath.of_isIdentifier hn, htrim⟩
    rw [h] at hname
    exact Except.ok.inj hname

-- ---------------------------------------------------------------------------
-- Lines of variants
-- ---------------------------------------------------------------------------

namespace Variant

variable {n spec : String} {v : Variant}

theorem parts_of_read (h : read spec = .ok v) :
    v.name = Textual.variantName spec ∧ v.fields.map Field.text = Textual.fieldTexts spec := by
  obtain ⟨before, after, hspec, hident, htrim, hfields⟩ := read_iff.1 h
  obtain ⟨pieces, hcut, hall⟩ := readFields_iff.1 hfields
  have hbefore : ∀ c ∈ before, decide (c ≠ '|') = true := by
    intro c hc
    rw [decide_eq_true_eq]
    rintro rfl
    exact bar_not_mem_of_trim hident htrim hc
  have htake : spec.toList.takeWhile (· ≠ '|') = before := by
    rw [hspec, List.takeWhile_append_of_pos hbefore]
    simp
  have hdrop : (spec.toList.dropWhile (· ≠ '|')).drop 1 = after := by
    rw [hspec, List.dropWhile_append_of_pos hbefore]
    simp
  constructor
  · rw [Textual.variantName, htake, htrim, String.ofList_toList]
  · obtain rfl : pieces = Textual.pieces 0 after := FieldList.cutFrom_eq_pieces hcut
    rw [Textual.fieldTexts, hdrop]
    refine map_eq_map_of_forall₂ ((List.forall₂_map_right_iff.1 hall).imp fun f piece hf => ?_)
    rw [← hf.2.1, String.ofList_toList]

theorem boxed_boxFor_iff (hn : Text.isIdentifier n.toList = true) (h : read spec = .ok v)
    {f : Field} (hf : f ∈ v.fields) : (f.boxFor n).boxed = true ↔ f.text = n := by
  obtain ⟨-, htrimmed, hread⟩ := (written_of_read h).fields f hf
  have hname := Descriptor.isName_iff_text hn hread
  rwa [Text.trim_of_trimmed htrimmed, String.ofList_toList] at hname

theorem declaredType_boxFor (hn : Text.isIdentifier n.toList = true) (h : read spec = .ok v)
    {f : Field} (hf : f ∈ v.fields) :
    (f.boxFor n).declaredType = Textual.fieldText n f.text := by
  have hboxed := boxed_boxFor_iff hn h hf
  rw [Field.declaredType, Textual.fieldText]
  by_cases heq : f.text = n
  · rw [if_pos (hboxed.2 heq), if_pos heq, Field.text_boxFor, heq]
  · rw [if_neg fun h => heq (hboxed.1 h), if_neg heq, Field.text_boxFor]

theorem line_of_read (hn : Text.isIdentifier n.toList = true) (h : read spec = .ok v) :
    (v.boxFor n).line = Textual.variantLine n spec := by
  obtain ⟨hname, htexts⟩ := parts_of_read h
  have htypes : (v.boxFor n).fields.map Field.declaredType =
      (Textual.fieldTexts spec).map (Textual.fieldText n) := by
    rw [← htexts, boxFor, List.map_map, List.map_map]
    exact List.map_congr_left fun f hf => declaredType_boxFor hn h hf
  rw [Textual.variantLine, line, commaSeparated, htypes, name_boxFor, hname]

end Variant

namespace Schema

/-- The declaration of an accepted schema is written from the texts of its specifications
alone, one line for each in their order, and the test for the name of the category is the
equality of texts, for whatever is read as a descriptor. -/
theorem declaration_eq_textual {s : Schema} {text : String}
    (h : (s.declaration false).value = .ok text) :
    text = Textual.declaration s ∧ ∀ source d, Descriptor.read source = .ok d →
      (d.isName s.name = true ↔ String.ofList (trim source) = s.name) := by
  obtain ⟨c, hcategory, rfl⟩ := declaration_false_iff.1 h
  obtain ⟨hname, variants, hread, -, rfl⟩ := category_iff.1 hcategory
  refine ⟨?_, fun source d hd => Descriptor.isName_iff_text hname hd⟩
  have hlines : (variants.map (Variant.boxFor s.name)).map Variant.line =
      s.specs.map (Textual.variantLine s.name) := by
    rw [List.map_map]
    exact map_eq_map_of_forall₂ (hread.flip.imp fun v spec hv => Variant.line_of_read hname hv)
  simp only [Category.declaration, Category.enumLines, Category.box, hlines, Textual.declaration,
    Bool.false_eq_true, if_false, List.append_nil]

/-- Only the fields that are the category itself are boxed, whatever blanks stand around them. -/
theorem declaration_of_expressions :
    let s : Schema := ⟨"Expr", ["Binary | Expr, Token ,Vec<(Expr,  Token)>", "Unary|\tExpr\n"]⟩
    let text := "use super::token::\x7bToken, Literal\x7d;\nuse std::fmt::Debug;\n\n" ++
      "#[derive(Clone, Debug)]\npub enum Expr \x7b\n" ++
      "    Binary(Box<Expr>, Token, Vec<(Expr,  Token)>),\n    Unary(Box<Expr>),\n\x7d\n"
    (s.declaration false).value = .ok text ∧ text = Textual.declaration s ∧
      ∀ source d, Descriptor.read source = .ok d →
        (d.isName s.name = true ↔ String.ofList (trim source) = s.name) := by
  intro s text
  have h : (s.declaration false).value = .ok text := by decide +kernel
  exact ⟨h, declaration_eq_textual h⟩

end Schema

end NodeSchema

import NodeSchema.Proofs.TextualDeclaration
/-!
# Constructor functions written text by text

With its constructor functions a declaration is the one without them, a blank line and a block
with one function for each specification. The function takes the texts of the fields as types
and boxes the parameters whose text is the name of the category, which are those that the
enumeration boxes: what a function hands to its variant has the types that the variant declares.
-/

namespace NodeSchema

-- ---------------------------------------------------------------------------
-- The direct writer
-- ---------------------------------------------------------------------------

namespace Textual

/-- The parameters for fields with the texts, numbered from zero. -/
def parameters (texts : List String) : List String :=
  texts.zipIdx.map fun (text, i) => "_" ++ toString i ++ ": " ++ text

def arguments (category : String) (texts : List String) : List String :=
  texts.zipIdx.map fun (text, i) =>
    if text = category then "Box::new(_" ++ toString i ++ ")" else "_" ++ toString i

def functionLines (category spec : String) : List String :=
  let name := variantName spec
  let texts := fieldTexts spec
  ["    pub fn " ++ constructorName name ++ "(" ++ commaSeparated (parameters texts) ++ ") -> " ++
      category ++ " \x7b",
    "        " ++ category ++ "::" ++ name ++ "(" ++ commaSeparated (arguments category texts) ++ ")",
    "    \x7d"]

def constructorBlock (s : Schema) : String :=
  Text.ofLines (["", "impl " ++ s.name ++ " \x7b"] ++ s.specs.flatMap (functionLines s.name) ++
    ["\x7d"])

/-- The types of what is handed on, where the parameters have the given types: a parameter as
it is has its own, and a box made of it has the box of that. -/
inductive HasType (types : List String) : String → String → Prop
  | parameter {i : Nat} {type : String} : types[i]? = some type →
    HasType types ("_" ++ toString i) type
  | box {i : Nat} {type : String} : types[i]? = some type →
    HasType types ("Box::new(_" ++ toString i ++ ")") ("Box<" ++ type ++ ">")

/-- Both sides ask whether the text is the name of the category. -/
theorem arguments_hasType (category : String) (texts : List String) :
    List.Forall₂ (HasType texts) (arguments category texts) (texts.map (fieldText category)) := by
  have hnumbered : texts.map (fieldText category) =
      texts.zipIdx.map fun entry => fieldText category entry.1 := by
    have hfst : texts.zipIdx.map Prod.fst = texts := List.zipIdx_map_fst 0 texts
    calc texts.map (fieldText category)
      _ = (texts.zipIdx.map Prod.fst).map (fieldText category) := by rw [hfst]
      _ = texts.zipIdx.map fun entry => fieldText category entry.1 := List.map_map
  rw [hnumbered, arguments, List.forall₂_map_left_iff, List.forall₂_map_right_iff,
    List.forall₂_same]
  rintro ⟨text, i⟩ hmem
  have htext : texts[i]? = some text := List.mem_zipIdx_iff_getElem?.1 hmem
  dsimp only [fieldText]
  split
  · next heq =>
    subst heq
    exact .box htext
  · exact .parameter htext

end Textual

-- ---------------------------------------------------------------------------
-- The functions of a category
-- ---------------------------------------------------------------------------

namespace Variant

variable {n spec : String} {v : Variant}

theorem parameters_eq (v : Variant) : v.parameters = Textual.parameters (v.fields.map Field.text) := by
  simp [parameters, Textual.parameters, List.zipIdx_map, Function.comp_def]

theorem arguments_boxFor (hn : Text.isIdentifier n.toList = true) (h : read spec = .ok v) :
    (v.boxFor n).arguments = Textual.arguments n (v.fields.map Field.text) := by
  simp only [arguments, Textual.arguments, boxFor, List.zipIdx_map, List.map_map, Function.comp_def]
  refine List.map_congr_left ?_
  rintro ⟨f, i⟩ hmem
  have hboxed := boxed_boxFor_iff hn h (List.fst_mem_of_mem_zipIdx hmem)
  simp only [Prod.map, hboxed, id]

theorem constructorLines_of_read (hn : Text.isIdentifier n.toList = true) (h : read spec = .ok v) :
    (v.boxFor n).constructorLines n = Textual.functionLines n spec := by
  obtain ⟨hname, htexts⟩ := parts_of_read h
  have hparameters : (v.boxFor n).parameters = Textual.parameters (Textual.fieldTexts spec) := by
    rw [parameters_eq, ← htexts]
    simp [boxFor, Function.comp_def]
  simp only [constructorLines, Textual.functionLines, hparameters, arguments_boxFor hn h, htexts,
    name_boxFor, hname]

end Variant

namespace Schema

variable {s : Schema}

theorem map_variants_of_category {α : Type} {c : Category} {f : Variant → α} {g : String → α}
    (h : s.category.value = .ok c)
    (hfg : ∀ spec v, Variant.read spec = .ok v → f (v.boxFor s.name) = g spec) :
    c.variants.map f = s.specs.map g := by
  obtain ⟨-, variants, hread, -, rfl⟩ := category_iff.1 h
  rw [Category.box, List.map_map]
  exact map_eq_map_of_forall₂ (hread.flip.imp fun v spec hv => hfg spec v hv)

theorem declaration_true_append (c : Category) : c.declaration true =
    c.declaration false ++ Text.ofLines ("" :: c.constructorLines) := by
  simp [Category.declaration, Text.ofLines]

/-- With its constructor functions the declaration goes on behind the one without them. Each
specification has one function, with a parameter for each field, and what it hands to its variant
has the types that the enumeration declares for the variant. -/
theorem declaration_true_eq_textual {s : Schema} {text : String}
    (h : (s.declaration true).value = .ok text) :
    (s.declaration false).value = .ok (Textual.declaration s) ∧
    text = Textual.declaration s ++ Textual.constructorBlock s ∧
    ∀ spec ∈ s.specs, let texts := Textual.fieldTexts spec
      ∃ v, Variant.read spec = .ok v ∧ v.name = Textual.variantName spec ∧
        v.fields.map Field.text = texts ∧ (Textual.parameters texts).length = v.arity ∧
        List.Forall₂ (Textual.HasType texts) (Textual.arguments s.name texts)
          (texts.map (Textual.fieldText s.name)) := by
  obtain ⟨c, hcategory, rfl⟩ := category_of_declaration h
  obtain ⟨hname, variants, hread, -, hc⟩ := category_iff.1 hcategory
  have hlines := map_variants_of_category hcategory fun spec v hv => Variant.line_of_read hname hv
  have hfunctions := map_variants_of_category hcategory fun spec v hv =>
    Variant.constructorLines_of_read hname hv
  have hcname : c.name = s.name := by rw [hc]; rfl
  have hplain : c.declaration false = Textual.declaration s := by
    simp [Category.declaration, Category.enumLines, hlines, hcname, Textual.declaration]
  have hblock : Text.ofLines ("" :: c.constructorLines) = Textual.constructorBlock s := by
    simp [Category.constructorLines, List.flatMap_def, hfunctions, hcname, Textual.constructorBlock]
  refine ⟨?_, ?_, fun spec hspec => ?_⟩
  · exact declaration_false_iff.2 ⟨c, hcategory, hplain.symm⟩
  · rw [declaration_true_append, hplain, hblock]
  · have hmem : Variant.read spec ∈ variants.map Except.ok :=
      map_eq_map_of_forall₂ hread ▸ List.mem_map_of_mem hspec
    obtain ⟨v, -, hv⟩ := List.mem_map.1 hmem
    obtain ⟨hvname, htexts⟩ := Variant.parts_of_read hv.symm
    refine ⟨v, hv.symm, hvname, htexts, ?_, Textual.arguments_hasType s.name _⟩
    simp [Textual.parameters, ← htexts, Variant.arity]

/-- Of three fields only the one that is the category itself is boxed by its function. -/
theorem declaration_true_of_mixed_fields :
    let s : Schema := ⟨"Node", ["Call | Token ,Node, Vec<Node>", "Leaf|Box<Node>"]⟩
    let plain := "use std::fmt::Debug;\n\n#[derive(Clone, Debug)]\npub enum Node \x7b\n" ++
      "    Call(Token, Box<Node>, Vec<Node>),\n    Leaf(Box<Node>),\n\x7d\n"
    let block := "\nimpl Node \x7b\n" ++
      "    pub fn new_call(_0: Token, _1: Node, _2: Vec<Node>) -> Node \x7b\n" ++
      "        Node::Call(_0, Box::new(_1), _2)\n    \x7d\n" ++
      "    pub fn new_leaf(_0: Box<Node>) -> Node \x7b\n        Node::Leaf(_0)\n    \x7d\n\x7d\n"
    (s.declaration true).value = .ok (plain ++ block) ∧ (s.declaration false).value = .ok plain ∧
      plain = Textual.declaration s ∧ block = Textual.constructorBlock s ∧
      List.Forall₂ (Textual.HasType ["Token", "Node", "Vec<Node>"])
        ["_0", "Box::new(_1)", "_2"] ["Token", "Box<Node>", "Vec<Node>"] := by
  intro s plain block
  have h : (s.declaration true).value = .ok (plain ++ block) := by decide +kernel
  obtain ⟨hplain, hblock, htypes⟩ := declaration_true_eq_textual h
  have hdeclared : plain = Textual.declaration s := by decide +kernel
  obtain ⟨v, -, -, -, -, hcall⟩ := htypes "Call | Token ,Node, Vec<Node>" (by simp [s])
  have htexts : Textual.fieldTexts "Call | Token ,Node, Vec<Node>" =
      ["Token", "Node", "Vec<Node>"] := by decide +kernel
  rw [htexts] at hcall
  rw [← hdeclared] at hplain hblock
  exact ⟨h, hplain, hdeclared, (String.append_right_inj plain).1 hblock, hcall⟩

end Schema

end NodeSchema

import NodeSchema.Log.Event
import NodeSchema.Variant
import NodeSchema.Text.Lowercase
/-!
# Categories

A category is a family of tree nodes: a name and the variants in the order in which they are
declared. A field that is exactly its own category would make the declared type contain itself,
so it is boxed. A category that is only mentioned inside a field is left as it is written, and
the field is reported.

A category is declared as an enumeration with one line for each variant, after the imports that
its name asks for. On request a block of constructor functions follows, one for each variant:
their parameters take the fields unboxed, their bodies box them. A function is named after its
variant in lower case, so variants that differ in case only would share one. The first that does
is refused.
-/

namespace NodeSchema

structure Category where
  name : String
  variants : List Variant
deriving DecidableEq

def Category.rename (c : Category) (name : String) : Category := { c with name }

-- ---------------------------------------------------------------------------
-- Boxing
-- ---------------------------------------------------------------------------

/-- The field as part of a category: boxed exactly if it is the category itself. -/
def Field.boxFor (category : String) (f : Field) : Field :=
  { f with boxed := f.type.isName category }

def Field.nests (category : String) (f : Field) : Bool :=
  !f.type.isName category && f.type.mentions category

def Variant.boxFor (category : String) (v : Variant) : Variant :=
  { v with fields := v.fields.map (Field.boxFor category) }

def Variant.nestedReferences (category : String) (v : Variant) : List Event :=
  (v.fields.filter (Field.nests category)).map fun f => .leftUnboxed category f.type

namespace Category

def box (c : Category) : Category := { c with variants := c.variants.map (Variant.boxFor c.name) }

def nestedReferences (c : Category) : List Event :=
  c.variants.flatMap (Variant.nestedReferences c.name)

/-- The category after each of the names has been given to it in turn. -/
def boxUnder (c : Category) : List String → List Category
  | [] => []
  | name :: names =>
    let renamed := (c.rename name).box
    renamed :: renamed.boxUnder names

@[simp] theorem name_box (c : Category) : c.box.name = c.name := rfl

end Category

@[simp] theorem Field.boxFor_boxFor (m n : String) (f : Field) :
    (f.boxFor m).boxFor n = f.boxFor n := rfl

@[simp] theorem Field.text_boxFor (n : String) (f : Field) : (f.boxFor n).text = f.text := rfl

@[simp] theorem Field.type_boxFor (n : String) (f : Field) : (f.boxFor n).type = f.type := rfl

@[simp] theorem Variant.name_boxFor (n : String) (v : Variant) : (v.boxFor n).name = v.name := rfl

@[simp] theorem Variant.boxFor_boxFor (m n : String) (v : Variant) :
    (v.boxFor m).boxFor n = v.boxFor n := by
  simp [Variant.boxFor]

-- ---------------------------------------------------------------------------
-- Names of constructor functions
-- ---------------------------------------------------------------------------

def constructorName (variant : String) : String := "new_" ++ Text.lowercase variant

/-- The position of the first name that stands among the earlier ones or before it in the
list, and the position of the name that it repeats. -/
def firstRepeat (earlier : List String) : List String → Option (Nat × Nat)
  | [] => none
  | name :: names =>
    match earlier.idxOf? name with
    | some first => some (earlier.length, first)
    | none => firstRepeat (earlier ++ [name]) names

namespace Category

def constructorNames (c : Category) : List String := c.variants.map (constructorName ·.name)

/-- Refuses the first variant whose constructor function repeats an earlier name, by its
specification. A category that was read has one specification for each variant. With fewer of them
the position may be out of range, which would be an error of the program and not a refusal; the
empty text stands for the specification that is not there. -/
def checkConstructors (c : Category) (specs : List String) : Except Refusal Unit :=
  match firstRepeat [] c.constructorNames with
  | none => .ok ()
  | some (position, first) =>
    .error {
      category := c.name
      spec := specs.getD position ""
      cause := .constructorClash (c.constructorNames.getD position "") first }

end Category

-- ---------------------------------------------------------------------------
-- Declarations
-- ---------------------------------------------------------------------------

def importsFor : String → List String
  | "Stmt" => ["use super::expr::Expr;", "use super::token::Token;"]
  | "Expr" => ["use super::token::\x7bToken, Literal\x7d;"]
  | _ => []

def commaSeparated (items : List String) : String := ", ".intercalate items

namespace Variant

def line (v : Variant) : String :=
  "    " ++ v.name ++ "(" ++ commaSeparated (v.fields.map Field.declaredType) ++ "),"

def parameters (v : Variant) : List String :=
  v.fields.zipIdx.map fun (f, i) => "_" ++ toString i ++ ": " ++ f.text

def arguments (v : Variant) : List String :=
  v.fields.zipIdx.map fun (f, i) =>
    if f.boxed then "Box::new(_" ++ toString i ++ ")" else "_" ++ toString i

def constructorLines (category : String) (v : Variant) : List String := [
  "    pub fn " ++ constructorName v.name ++ "(" ++ commaSeparated v.parameters ++ ") -> " ++
    category ++ " \x7b",
  "        " ++ category ++ "::" ++ v.name ++ "(" ++ commaSeparated v.arguments ++ ")",
  "    \x7d"]

end Variant

namespace Category

def enumLines (c : Category) : List String :=
  importsFor c.name ++ ["use std::fmt::Debug;", "", "#[derive(Clone, Debug)]",
    "pub enum " ++ c.name ++ " \x7b"] ++ c.variants.map Variant.line ++ ["\x7d"]

def constructorLines (c : Category) : List String :=
  ["impl " ++ c.name ++ " \x7b"] ++ c.variants.flatMap (Variant.constructorLines c.name) ++ ["\x7d"]

def declaration (constructors : Bool) (c : Category) : String :=
  Text.ofLines (c.enumLines ++ if constructors then "" :: c.constructorLines else [])

def declarations (constructors : Bool) (categories : List Category) : String :=
  String.join (categories.map (declaration constructors))

/-- The text before the first of the categories is declared, and after each of them. -/
def declarationStages (constructors : Bool) (categories : List Category) : List String :=
  (List.range (categories.length + 1)).map fun n => declarations constructors (categories.take n)

end Category

end NodeSchema

import NodeSchema.Category
import NodeSchema.Workspace.Basic
/-!
# Schemas

A schema is the name of a category with the specifications of its variants. It stands for a
category if the name is an identifier, every specification can be read and no two describe
variants of one name. The first specification at fault is refused, whatever follows it.

A schema is compiled by writing its declaration to a file. Schemas are generated one after
another; the first failure stops the run and leaves the files written before it. Where files are
written to is left open: `Workspace.writeFile` writes to a workspace. The built-in schemas are
the nodes of a pseudocode language.
-/

namespace NodeSchema

structure Schema where
  name : String
  specs : List String
deriving DecidableEq

namespace Schema

/-- The variants of a category, told as they are read. The names of the variants before
them are given in order; a variant that repeats one is refused. -/
def readVariants (category : String) (earlier : List String) :
    List String → Logged (Except Refusal (List Variant))
  | [] => ⟨[], .ok []⟩
  | spec :: specs =>
    match Variant.read spec with
    | .error cause => ⟨[], .error { category, spec, cause }⟩
    | .ok variant =>
      match earlier.idxOf? variant.name with
      | some first =>
        ⟨[], .error { category, spec, cause := .duplicateVariant variant.name first }⟩
      | none =>
        let others := readVariants category (earlier ++ [variant.name]) specs
        ⟨.parsed category variant.name variant.arity :: others.events,
          match others.value with
          | .error refusal => .error refusal
          | .ok variants => .ok (variant :: variants)⟩

def category (s : Schema) : Logged (Except Refusal Category) :=
  if Text.isIdentifier s.name.toList then
    let variants := readVariants s.name [] s.specs
    match variants.value with
    | .error refusal => ⟨variants.events, .error refusal⟩
    | .ok read =>
      let unboxed : Category := ⟨s.name, read⟩
      ⟨variants.events ++ unboxed.nestedReferences, .ok unboxed.box⟩
  else ⟨[], .error { category := s.name, spec := s.name, cause := .invalidIdentifier s.name }⟩

/-- The text that declares the category, with what is told meanwhile. Constructor functions
are checked for clashes only if they are wanted. -/
def declaration (constructors : Bool) (s : Schema) : Logged (Except Refusal String) :=
  let read := s.category
  ⟨read.events,
    match read.value with
    | .error refusal => .error refusal
    | .ok c =>
      match if constructors then c.checkConstructors s.specs else .ok () with
      | .error refusal => .error refusal
      | .ok () => .ok (c.declaration constructors)⟩

end Schema

-- ---------------------------------------------------------------------------
-- Compiling
-- ---------------------------------------------------------------------------

abbrev Writer (m : Type → Type) := String → String → m (Except FileFault Unit)

def Workspace.writeFile : Writer (StateM Workspace) := fun path text w => w.write path text

inductive Failure where
  | refused (refusal : Refusal)
  | unwritable (path : String) (fault : FileFault)
deriving DecidableEq

namespace Failure

/-- The explanation of a failure, without what lies behind it. -/
def message : Failure → String
  | .refused refusal => refusal.message
  | .unwritable path _ => "IO error for " ++ path

def fullMessage : Failure → String
  | .refused refusal => refusal.message
  | .unwritable path fault => "IO error for " ++ path ++ ": " ++ fault.message

def exitCode : Failure → Nat
  | .refused _ => 3
  | .unwritable .. => 1

end Failure

structure Breakdown where
  schema : String
  cause : Failure
deriving DecidableEq

def Breakdown.message (b : Breakdown) : String :=
  "failed to generate `" ++ b.schema ++ "`: " ++ b.cause.fullMessage

namespace Schema

variable {m : Type → Type} [Monad m]

/-- Writes the declaration of a schema into an output directory, and gives the path of the
file. A schema that is refused writes nothing. -/
def compile (write : Writer m) (constructors : Bool) (outDir : String) (s : Schema) :
    m (Logged (Except Failure String)) :=
  let declared := s.declaration constructors
  match declared.value with
  | .error refusal => pure ⟨declared.events, .error (.refused refusal)⟩
  | .ok text => do
    let path := outputPath outDir s.name
    match ← write path text with
    | .error fault => pure ⟨declared.events, .error (.unwritable path fault)⟩
    | .ok () => pure ⟨declared.events ++ [.wrote s.name s.specs.length path], .ok path⟩

def generate (write : Writer m) (constructors : Bool) (outDir : String) :
    List Schema → m (Logged (Except Breakdown (List String)))
  | [] => pure ⟨[], .ok []⟩
  | s :: schemas => do
    let first ← s.compile write constructors outDir
    match first.value with
    | .error cause => pure ⟨first.events, .error ⟨s.name, cause⟩⟩
    | .ok path =>
      let others ← generate write constructors outDir schemas
      match others.value with
      | .error breakdown => pure ⟨first.events ++ others.events, .error breakdown⟩
      | .ok paths => pure ⟨first.events ++ others.events, .ok (path :: paths)⟩

end Schema

-- ---------------------------------------------------------------------------
-- Built-in schemas
-- ---------------------------------------------------------------------------

namespace Schema

def expressions : Schema where
  name := "Expr"
  specs := [
    "Unary | Token, Expr",
    "Binary | Expr, Token, Expr",
    "Grouping | Expr",
    "IdentExpr | Token",
    "FnCall | Token, Vec<Expr>",
    "ArrIdx | Token, Expr, Option<Box<Expr>>",
    "ArrType | (Box<Expr>, Box<Expr>), Option<(Box<Expr>, Box<Expr>)>, Expr",
    "Literal | Literal"]

def statements : Schema where
  name := "Stmt"
  specs := [
    "Block | Vec<Stmt>",
    "ExprStmt | Expr",
    "Declare | Token, Expr",
    "Constant | Token, Expr",
    "Assign | Expr, Expr",
    "ProcCall | Token, Vec<Expr>",
    "Input | Expr",
    "Output | Vec<Expr>",
    "Ret | Expr",
    "Procedure | Token, Vec<(Token, Expr, bool)>, Stmt",
    "Function | Token, Vec<(Token, Expr, bool)>, Expr, Stmt",
    "ForTo | Token, Expr, Expr, Option<Expr>, Stmt",
    "IfThen | Expr, Stmt, Option<Box<Stmt>>",
    "Case | Expr, Vec<(Expr, Stmt)>, Option<Box<Stmt>>",
    "Repeat | Expr, Stmt",
    "WhileDo | Expr, Stmt"]

def builtIn : List Schema := [expressions, statements]

end Schema

end NodeSchema

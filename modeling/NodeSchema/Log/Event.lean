import NodeSchema.Descriptor.Basic
/-!
# Events

What is worth telling while a schema is compiled. Every event has a level, a target
(the part of the program that tells it) and a message with fields. `Logged` pairs a
value with the events that accompanied it.
-/

namespace NodeSchema

inductive Level where
  | error | warn | info | debug | trace
deriving DecidableEq

/-- The more urgent level has the lower rank, from one on. -/
def Level.rank : Level → Nat
  | .error => 1
  | .warn => 2
  | .info => 3
  | .debug => 4
  | .trace => 5

def Level.word : Level → String
  | .error => "error"
  | .warn => "warn"
  | .info => "info"
  | .debug => "debug"
  | .trace => "trace"

def Level.label : Level → String
  | .error => "ERROR"
  | .warn => " WARN"
  | .info => " INFO"
  | .debug => "DEBUG"
  | .trace => "TRACE"

inductive Event where
  | parsed (category variant : String) (arity : Nat)
  | leftUnboxed (category : String) (type : Descriptor)
  | wrote (category : String) (variants : Nat) (path : String)
  | generated (path : String)
deriving DecidableEq

namespace Event

def level : Event → Level
  | .parsed .. => .trace
  | .leftUnboxed .. => .debug
  | .wrote .. => .info
  | .generated .. => .debug

def target : Event → String
  | .parsed .. => "astgen::compile"
  | .leftUnboxed .. => "astgen::lower"
  | .wrote .. => "astgen::compile"
  | .generated .. => "astgen"

def category? : Event → Option String
  | .parsed category .. => some category
  | .leftUnboxed category _ => some category
  | .wrote category .. => some category
  | .generated _ => none

def fields : Event → List String
  | .parsed .. => ["message", "category", "variant", "arity"]
  | .leftUnboxed .. => ["message", "category", "field"]
  | .wrote .. => ["message", "category", "variants", "path"]
  | .generated .. => ["message", "path"]

def text : Event → String
  | .parsed category variant arity =>
    "parsed category=\"" ++ category ++ "\" variant=" ++ variant ++ " arity=" ++ toString arity
  | .leftUnboxed category type =>
    "nested self-reference left unboxed category=\"" ++ category ++ "\" field=" ++ type.print
  | .wrote category variants path =>
    "wrote category=\"" ++ category ++ "\" variants=" ++ toString variants ++ " path=" ++ path
  | .generated path => "generated path=" ++ path

/-- The part of the program that opens the spans of categories. They matter as much as what
is told for debugging. -/
def spanTarget : String := "astgen::cli"

def span (e : Event) : String :=
  match e.category? with
  | some category => "category\x7bname=\"" ++ category ++ "\"\x7d: "
  | none => ""

def line (spans : Bool) (e : Event) : String :=
  e.level.label ++ " " ++ (if spans then e.span else "") ++ e.target ++ ": " ++ e.text

end Event

/-- A value and the events that accompanied it, oldest first. -/
structure Logged (α : Type) where
  events : List Event
  value : α

end NodeSchema

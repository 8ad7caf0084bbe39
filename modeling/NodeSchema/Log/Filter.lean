import NodeSchema.Log.Directive
/-!
# Filters

A filter holds directives. Of those that are decided without regard to spans, the most
specific one that covers an event decides. Besides, an event is told inside a span if a
directive on that span reaches its level. A filter is chosen by how often the command line
asks for more, or by a text that overrides it: directives with commas between them.
-/

namespace NodeSchema

structure Filter where
  directives : List Directive
deriving DecidableEq

namespace Directive

/-- One static directive is less specific than another: its target is shorter or missing, or
it names no field, or one that comes earlier. -/
def lessSpecific (d e : Directive) : Bool :=
  let length (d : Directive) : Nat :=
    match d.target with
    | none => 0
    | some target => target.utf8ByteSize + 1
  if length d = length e then
    match d.field, e.field with
    | none, some _ => true
    | some f, some g => f.name < g.name
    | _, none => false
  else length d < length e

/-- The most specific of the directives, the last of several that are equally so. -/
def decisive? (ds : List Directive) : Option Directive :=
  ds.foldl (fun best d =>
    match best with
    | none => some d
    | some b => if d.lessSpecific b then some b else some d) none

def lasting : List Directive → List Directive
  | [] => []
  | d :: ds => if ds.any d.sameCase then lasting ds else d :: lasting ds

/-- The directive is about the spans of categories. Such a span has the category's name as
its only field. -/
def coversSpan (d : Directive) : Bool :=
  d.isDynamic && d.coversTarget Event.spanTarget &&
    d.span.all (· == "category") && d.field.all (·.name == "name")

def admitsCategory (d : Directive) (category : String) : Bool :=
  d.field.all fun test => test.value.all (·.admits category)

end Directive

namespace Filter

def ofLevel (level : Level) : Filter := ⟨[Directive.ofLevel (some level)]⟩

def admitsBy (ds : List Directive) (level : Level) (target : String) : Bool :=
  match Directive.decisive? (ds.filter fun d => d.isStatic && d.coversTarget target) with
  | none => false
  | some d => level.rank ≤ reach d.finest

def admits (f : Filter) (e : Event) : Bool :=
  admitsBy (f.directives.filter fun d => d.field.all fun test => e.fields.contains test.name)
    e.level e.target

/-- How far the most talkative directive reaches. A directive on a value reaches all levels,
for the value is known only later. -/
def furthest (f : Filter) : Nat :=
  if f.directives.any Directive.asksForValue then Level.trace.rank
  else (f.directives.map fun d => reach d.finest).foldl max 0

def spans (f : Filter) : Bool :=
  Level.debug.rank ≤ f.furthest &&
    (f.directives.any Directive.coversSpan || admitsBy f.directives .debug Event.spanTarget)

def reachInside (f : Filter) (category : String) : Nat :=
  let concerning := (Directive.lasting f.directives).filter fun d =>
    d.coversSpan && d.admitsCategory category
  (concerning.map fun d => reach d.finest).foldl max 0

def admitsInside (f : Filter) (e : Event) : Bool :=
  match e.category? with
  | none => false
  | some category => f.spans && e.level.rank ≤ f.reachInside category

def lines (f : Filter) (inSpans : Bool) (events : List Event) : List String :=
  (events.filter fun e => f.admits e || (inSpans && f.admitsInside e)).map
    (Event.line (inSpans && f.spans))

def levelOfVerbosity : Nat → Level
  | 0 => .warn
  | 1 => .info
  | 2 => .debug
  | _ => .trace

def pieces : List Char → List (List Char)
  | [] => []
  | c :: rest =>
    if c = ',' then pieces rest
    else
      match rest with
      | ',' :: _ => [c] :: pieces rest
      | [] => [[c]]
      | _ => (pieces rest).modifyHead (c :: ·)

/-- The filter that a text asks for, if every piece of it is a directive. Without a directive
only errors are told. -/
def ofText? (text : String) : Option Filter :=
  match (pieces text.toList).mapM Directive.read? with
  | none => none
  | some [] => some (ofLevel .error)
  | some directives => some ⟨directives⟩

def ofSettings (verbosity : Nat) (override : Option String) : Filter :=
  (override.bind ofText?).getD (ofLevel (levelOfVerbosity verbosity))

theorem admits_ofLevel (level : Level) (e : Event) :
    (ofLevel level).admits e = decide (e.level.rank ≤ level.rank) := rfl

end Filter

end NodeSchema

import NodeSchema.Log.Event
import NodeSchema.Pattern.Reader
/-!
# Directives

A directive asks for what a target tells, up to a level. It may ask only for what is told
inside a span, and only where a field is carried. It may also ask for the value of the field: for
a number or a truth value, or for a text in which the preferred match of a pattern reaches the
end. A directive is written as a level, as a target, or as a target and a span in brackets, either
of which may be missing, with an equals sign and a level after it.
-/

namespace NodeSchema

-- ---------------------------------------------------------------------------
-- Tests of fields
-- ---------------------------------------------------------------------------

inductive ValueTest where
  /-- A number or a truth value. No text is one. -/
  | plain (text : String)
  | pattern (text : String)
deriving DecidableEq

structure FieldTest where
  name : String
  value : Option ValueTest
deriving DecidableEq

namespace ValueTest

def dropSign : List Char → List Char
  | '+' :: rest => rest
  | '-' :: rest => rest
  | text => text

def isExponent : List Char → Bool
  | [] => true
  | c :: rest =>
    let digits := dropSign rest
    (c == 'e' || c == 'E') && !digits.isEmpty && digits.all Char.isDigit

def isDecimal (text : List Char) : Bool :=
  let whole := text.takeWhile Char.isDigit
  match text.dropWhile Char.isDigit with
  | '.' :: rest =>
    let places := rest.takeWhile Char.isDigit
    !(whole.isEmpty && places.isEmpty) && isExponent (rest.dropWhile Char.isDigit)
  | rest => !whole.isEmpty && isExponent rest

def isNumber (text : List Char) : Bool :=
  let unsigned := dropSign text
  isDecimal unsigned ||
    ["inf", "infinity", "nan"].contains (String.ofList (unsigned.map Char.toLower))

def read? (text : List Char) : Option ValueTest :=
  let s := String.ofList text
  if s = "true" || s = "false" || isNumber text then some (.plain s)
  else (Pattern.read? text).map fun _ => .pattern s

def admits (t : ValueTest) (value : String) : Bool :=
  match t with
  | .plain _ => false
  | .pattern text => (Pattern.read? text.toList).any (·.reachesEnd value.toList)

end ValueTest

/-- The test that a text asks for: a name, or a name, an equals sign and a value. A second
equals sign and what follows it say nothing. -/
def FieldTest.read? (text : List Char) : Option FieldTest :=
  let name := String.ofList (text.takeWhile (· != '='))
  match text.dropWhile (· != '=') with
  | [] => if text.isEmpty then none else some ⟨name, none⟩
  | _ :: rest => (ValueTest.read? (rest.takeWhile (· != '='))).map fun value => ⟨name, some value⟩

-- ---------------------------------------------------------------------------
-- What a directive asks for
-- ---------------------------------------------------------------------------

/-- What is asked for, and up to which level. No level turns it off. -/
structure Directive where
  target : Option String
  span : Option String
  field : Option FieldTest
  finest : Option Level
deriving DecidableEq

def reach : Option Level → Nat
  | none => 0
  | some level => level.rank

namespace Directive

def ofLevel (finest : Option Level) : Directive := ⟨none, none, none, finest⟩

def ofTarget (target : List Char) (finest : Option Level) : Directive :=
  ⟨some (String.ofList target), none, none, finest⟩

def coversTarget (d : Directive) (target : String) : Bool :=
  match d.target with
  | none => true
  | some start => start.toList.isPrefixOf target.toList

def asksForValue (d : Directive) : Bool :=
  d.field.any fun test => test.value.isSome

def isStatic (d : Directive) : Bool := d.span.isNone && !d.asksForValue

def isDynamic (d : Directive) : Bool := d.span.isSome || d.field.isSome

def sameCase (d e : Directive) : Bool :=
  d.target = e.target && d.span = e.span && d.field = e.field

def numberOf (digits : List Char) : Nat :=
  digits.foldl (fun n c => 10 * n + (c.toNat - '0'.toNat)) 0

/-- A level by its number from zero, which is no level, to five. A plus sign may stand
before it. -/
def finestOfNumber? (text : List Char) : Option (Option Level) :=
  let digits := match text with
    | '+' :: rest => rest
    | _ => text
  if digits.isEmpty || !digits.all Char.isDigit then none
  else
    match numberOf digits with
    | 0 => some none
    | 1 => some (some .error)
    | 2 => some (some .warn)
    | 3 => some (some .info)
    | 4 => some (some .debug)
    | 5 => some (some .trace)
    | _ => none

def finest? (text : List Char) : Option (Option Level) :=
  match String.ofList (text.map Char.toLower) with
  | "off" => some none
  | "error" => some (some .error)
  | "warn" => some (some .warn)
  | "info" => some (some .info)
  | "debug" => some (some .debug)
  | "trace" => some (some .trace)
  | _ => finestOfNumber? text

def finestAfterEquals? (text : List Char) : Option (Option Level) :=
  if text.isEmpty then some (some .trace) else finest? text

def mayStart (c : Char) : Bool :=
  Text.isAlphanumeric c || c == '-' || c == ':' || c == '_' || c == '['

/-- The directive for a target and a span. The target, and what the bracket of the span
follows, take up the first `start` bytes. -/
def readSpan (piece : List Char) (target : Option String) (start : Nat) (text : List Char) :
    Option Directive :=
  let slice (start : Nat) (part : List Char) := Text.slice? piece start (start + Text.size part)
  let finish (span : Option String) (field : Option FieldTest) (stop : Nat) :
      List Char → Option Directive
    | [] => some ⟨target, span, field, some .trace⟩
    | '=' :: _ =>
      (Text.drop? piece (stop + 1)).bind fun level =>
        (finestAfterEquals? level).map fun finest => ⟨target, span, field, finest⟩
    | _ => none
  let inside := text.takeWhile fun c => c != ']' && c != '\x7b'
  match slice start inside, text.dropWhile fun c => c != ']' && c != '\x7b' with
  | some span, ']' :: rest =>
    finish (some (String.ofList span)) none (start + Text.size inside + 1) rest
  | some span, '\x7b' :: rest =>
    let fieldStart := start + Text.size inside + 1
    let field := rest.takeWhile (· != '\x7d')
    match (slice fieldStart field).bind FieldTest.read?, rest.dropWhile (· != '\x7d') with
    | some test, _ :: ']' :: rest =>
      finish (if span.isEmpty then none else some (String.ofList span)) (some test)
        (fieldStart + Text.size field + 2) rest
    | _, _ => none
  | _, _ => none

/-- The directive that a piece of a filter spells, if it spells one. The signs that part it
are looked for in the piece without the blanks around it. What stands between them is taken
from the piece with its blanks, at the same distance in bytes from its start, so that blanks
before a directive shift all of its parts. -/
def read? (piece : List Char) : Option Directive :=
  let text := Text.trim piece
  if !text.head?.any mayStart then none
  else
    let target := text.takeWhile fun c => c != '=' && c != '['
    let size := Text.size target
    match text.dropWhile fun c => c != '=' && c != '[' with
    | [] =>
      match finest? piece with
      | some finest => some (ofLevel finest)
      | none => some (ofTarget piece (some .trace))
    | '=' :: _ =>
      match Text.slice? piece 0 size, Text.drop? piece (size + 1) with
      | some target, some level => (finestAfterEquals? level).map (ofTarget target)
      | _, _ => none
    | _ :: rest =>
      if size = 0 then readSpan piece none 1 rest
      else
        (Text.slice? piece 0 size).bind fun target =>
          readSpan piece (some (String.ofList target)) (size + 1) rest

end Directive

end NodeSchema

import NodeSchema.Descriptor.Reader
/-!
# Reading a descriptor by positions

The same reading with the whole text at hand and a position in it, in bytes from its start. The
text is looked at by cutting it at the position. A cut fails inside of a character and behind the
end of the text, and nothing in these definitions keeps the position from getting there, or from
staying where it is.

So a reading is given a limit, to how often it may look for another character of the same kind and
how deep its calls may nest. A reading that has not ended there comes to nothing. The cursor keeps
a trail of what was done at which position.
-/

namespace NodeSchema.Descriptor

inductive Call where
  | one
  | many
deriving DecidableEq

/-- What is done at a position: the text is cut there, or a call begins or ends. With a call that
begins stand the positions at which the calls for one descriptor began that it is made in, the
innermost first; with a call that ends by finding what it was made for, the one at which it
began. -/
inductive Step where
  | cut (position : Nat)
  | enter (call : Call) (outer : List Nat) (position : Nat)
  | leave (call : Call) (start position : Nat)
deriving DecidableEq

structure Cursor where
  position : Nat
  trail : List Step
deriving DecidableEq

inductive Halt where
  | fault (fault : Fault)
  | outOfPlace
deriving DecidableEq

/-- A reading that moves a cursor. It may stop early, and it may not have ended at its limit. -/
abbrev Walk : Type → Type := ExceptT Halt (StateT Cursor Option)

namespace Walk

def unended {α : Type} : Walk α := liftM (none : Option α)

def record (step : Nat → Step) : Walk Unit :=
  modify fun cursor => { cursor with trail := cursor.trail ++ [step cursor.position] }

def rest (text : List Char) : Walk (List Char) := do
  record .cut
  match Text.drop? text (← get).position with
  | some s => return s
  | none => throw .outOfPlace

def since (text : List Char) (start : Nat) : Walk (List Char) := do
  record .cut
  match Text.slice? text start (← get).position with
  | some s => return s
  | none => throw .outOfPlace

def peek (text : List Char) : Walk (Option Char) := do
  return (← rest text).head?

def pass (c : Char) : Walk Unit :=
  modify fun cursor => { cursor with position := cursor.position + c.utf8Size }

def passWhile (p : Char → Bool) (text : List Char) : Nat → Walk Unit
  | 0 => unended
  | limit + 1 => do
    match ← peek text with
    | none => return ()
    | some c =>
      if p c then
        pass c
        passWhile p text limit
      else return ()

section
variable (limit : Nat) (text : List Char)

def accept (wanted : Char) : Walk Bool := do
  passWhile Text.isBlank text limit
  if (← peek text) = some wanted then
    pass wanted
    return true
  else return false

def expect (wanted : Char) : Walk Unit := do
  if ← accept limit text wanted then return ()
  else throw (.fault (.missing wanted (← peek text)))

def pathRun : Walk (List Char) := do
  passWhile Text.isBlank text limit
  let start := (← get).position
  passWhile isPathPart text limit
  since text start

def path : Walk String := do
  match ← pathRun limit text with
  | [] => throw (.fault (.missingName (← peek text)))
  | c :: run =>
    if isPath (c :: run) then return String.ofList (c :: run)
    else throw (.fault (.notPath (String.ofList (c :: run))))

def tuple (many : Walk (List Descriptor)) : Walk Descriptor := do
  if ← accept limit text ')' then return .tuple []
  else
    let elements ← many
    expect limit text ')'
    return .tuple elements

def named (many : Walk (List Descriptor)) : Walk Descriptor := do
  let head ← path limit text
  if ← accept limit text '<' then
    let arguments ← many
    expect limit text '>'
    if head = "Option" then
      match arguments with
      | [inner] => return .optional inner
      | _ => throw (.fault (.argumentCount arguments.length))
    else return .generic head arguments
  else return .name head

def either (many : Walk (List Descriptor)) : Walk Descriptor := do
  if ← accept limit text '(' then tuple limit text many else named limit text many

mutual
/-- The descriptor that comes next, blanks aside, with calls that nest so deep. -/
def one : Nat → List Nat → Walk Descriptor
  | 0, _ => unended
  | depth + 1, outer => do
    let start := (← get).position
    record (.enter .one outer)
    passWhile Text.isBlank text limit
    let d ← either limit text (many depth (start :: outer))
    record (.leave .one start)
    return d
def many : Nat → List Nat → Walk (List Descriptor)
  | 0, _ => unended
  | depth + 1, outer => do
    let start := (← get).position
    record (.enter .many outer)
    let ds ← items depth outer
    record (.leave .many start)
    return ds
def items : Nat → List Nat → Walk (List Descriptor)
  | 0, _ => unended
  | depth + 1, outer => do
    let first ← one depth outer
    if ← accept limit text ',' then
      let others ← items depth outer
      return first :: others
    else return [first]
end

def read : Walk Descriptor := do
  let d ← one limit text limit []
  passWhile Text.isBlank text limit
  if (← get).position = Text.size text then return d
  else throw (.fault (.trailing (String.ofList (← rest text))))

end

end Walk

/-- What a reading of a whole text comes to within the limit, and the cursor that it leaves. -/
def walk? (limit : Nat) (text : List Char) : Option (Except Halt Descriptor × Cursor) :=
  (Walk.read limit text).run.run ⟨0, []⟩

end NodeSchema.Descriptor

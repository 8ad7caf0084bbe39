import NodeSchema.Descriptor.Reader
/-!
# Variants

A variant has a name and fields; a field keeps the text it was written with beside the descriptor
that the text stands for. A specification of a variant is its name, a bar, and its fields with
commas between them. Blanks around the name and around each field do not count.

The fields are cut at the commas outside all brackets before any of them is read. Cutting does
not tell the two kinds of brackets apart: only how many are open matters, and a closing bracket
with none open ends the cut at once. Open brackets are counted without a limit. The count of the
program has 32 bits with a sign, so the two agree on texts with fewer than 2^31 brackets open at a
time, and no more is modelled.
-/

namespace NodeSchema

/-- One field of a variant. A boxed field is held behind an owned pointer. -/
structure Field where
  text : String
  type : Descriptor
  boxed : Bool
deriving DecidableEq

def Field.declaredType (f : Field) : String :=
  if f.boxed then "Box<" ++ f.text ++ ">" else f.text

structure Variant where
  name : String
  fields : List Field
deriving DecidableEq

def Variant.arity (v : Variant) : Nat := v.fields.length

-- ---------------------------------------------------------------------------
-- Field lists
-- ---------------------------------------------------------------------------

namespace FieldList

inductive Fault where
  | stray (closer : Char) (offset : Nat)
  | unbalanced
deriving DecidableEq

/-- The explanation of a fault. Offsets count the bytes of UTF-8. -/
def Fault.message : Fault → String
  | .stray closer offset => "unexpected `" ++ closer.toString ++ "` at byte " ++ toString offset
  | .unbalanced => "unbalanced brackets"

def isOpener (c : Char) : Bool := c == '<' || c == '('

def isCloser (c : Char) : Bool := c == '>' || c == ')'

/-- How many brackets are open after a character, unless it closes one that is not open. -/
def depthAfter (depth : Nat) (c : Char) : Option Nat :=
  if isOpener c then some (depth + 1)
  else if isCloser c then (if depth = 0 then none else some (depth - 1))
  else some depth

/-- The pieces of the rest of a text, where `depth` brackets are open and `offset` bytes
have gone before. The first piece goes on with what has gone before. -/
def cutFrom (depth offset : Nat) : List Char → Except Fault (List (List Char))
  | [] => if depth = 0 then .ok [[]] else .error .unbalanced
  | c :: rest =>
    match depthAfter depth c with
    | none => .error (.stray c offset)
    | some after =>
      match cutFrom after (offset + c.utf8Size) rest with
      | .error fault => .error fault
      | .ok pieces =>
        if c = ',' ∧ depth = 0 then .ok ([] :: pieces) else .ok (pieces.modifyHead (c :: ·))

def cut (s : List Char) : Except Fault (List (List Char)) := cutFrom 0 0 s

theorem cutFrom_ne_nil {depth offset : Nat} {s : List Char} {pieces : List (List Char)}
    (h : cutFrom depth offset s = .ok pieces) : pieces ≠ [] := by
  fun_induction cutFrom depth offset s generalizing pieces with
  | case1 => cases h; simp
  | case2 | case3 | case4 => cases h
  | case5 => cases h; simp
  | case6 _ _ _ _ _ _ found cutRest _ ih =>
    cases h
    cases found with
    | nil => exact absurd rfl (ih cutRest)
    | cons => simp

end FieldList

-- ---------------------------------------------------------------------------
-- Refused specifications
-- ---------------------------------------------------------------------------

/-- Why a specification is refused. Positions count from zero. -/
inductive Cause where
  | missingSeparator
  | emptyName
  | invalidIdentifier (name : String)
  | noFields
  | emptyField (position : Nat)
  | unevenFields (text : String) (fault : FieldList.Fault)
  | malformedField (text : String) (fault : Descriptor.Fault)
  | duplicateVariant (name : String) (first : Nat)
  | constructorClash (name : String) (first : Nat)
deriving DecidableEq

def Cause.message : Cause → String
  | .missingSeparator => "missing `|` between variant name and field list"
  | .emptyName => "empty variant name"
  | .invalidIdentifier name => "`" ++ name ++ "` is not a valid identifier"
  | .noFields => "empty field list"
  | .emptyField position => "empty field at position " ++ toString position
  | .unevenFields text fault => "malformed field descriptor `" ++ text ++ "`: " ++ fault.message
  | .malformedField text fault => "malformed field descriptor `" ++ text ++ "`: " ++ fault.message
  | .duplicateVariant name first =>
    "duplicate variant `" ++ name ++ "` (first defined by spec #" ++ toString first ++ ")"
  | .constructorClash name first =>
    "constructor `" ++ name ++ "` clashes with the one for spec #" ++ toString first

structure Refusal where
  category : String
  spec : String
  cause : Cause
deriving DecidableEq

def Refusal.message (r : Refusal) : String :=
  "invalid specification `" ++ r.spec ++ "` for `" ++ r.category ++ "`: " ++ r.cause.message

-- ---------------------------------------------------------------------------
-- Reading
-- ---------------------------------------------------------------------------

def Field.read (position : Nat) (piece : List Char) : Except Cause Field :=
  match Text.trim piece with
  | [] => .error (.emptyField position)
  | c :: text =>
    match Descriptor.read (c :: text) with
    | .error fault => .error (.malformedField (String.ofList (c :: text)) fault)
    | .ok type => .ok { text := String.ofList (c :: text), type, boxed := false }

def Field.readAll (position : Nat) : List (List Char) → Except Cause (List Field)
  | [] => .ok []
  | piece :: pieces =>
    match Field.read position piece with
    | .error cause => .error cause
    | .ok field =>
      match Field.readAll (position + 1) pieces with
      | .error cause => .error cause
      | .ok fields => .ok (field :: fields)

namespace Variant

def readFields (s : List Char) : Except Cause (List Field) :=
  match Text.trim s with
  | [] => .error .noFields
  | c :: text =>
    match FieldList.cut (c :: text) with
    | .error fault => .error (.unevenFields (String.ofList (c :: text)) fault)
    | .ok pieces => Field.readAll 0 pieces

def readName (s : List Char) : Except Cause String :=
  match Text.trim s with
  | [] => .error .emptyName
  | c :: name =>
    if Text.isIdentifier (c :: name) then .ok (String.ofList (c :: name))
    else .error (.invalidIdentifier (String.ofList (c :: name)))

def splitAtBar : List Char → Option (List Char × List Char)
  | [] => none
  | c :: rest =>
    if c = '|' then some ([], rest)
    else (splitAtBar rest).map fun (before, after) => (c :: before, after)

def read (spec : String) : Except Cause Variant :=
  match splitAtBar spec.toList with
  | none => .error .missingSeparator
  | some (before, after) =>
    match readName before with
    | .error cause => .error cause
    | .ok name =>
      match readFields after with
      | .error cause => .error cause
      | .ok fields => .ok { name, fields }

theorem splitAtBar_eq_some_iff {s before after : List Char} :
    splitAtBar s = some (before, after) ↔ '|' ∉ before ∧ s = before ++ '|' :: after := by
  induction s generalizing before with
  | nil => simp [splitAtBar]
  | cons c rest ih =>
    by_cases hc : c = '|'
    · subst hc
      cases before with
      | nil => simp [splitAtBar, eq_comm]
      | cons d before =>
        simp only [splitAtBar, if_true, Option.some.injEq, Prod.mk.injEq, List.nil_eq,
          List.cons_append, List.cons.injEq, List.mem_cons, not_or]
        exact ⟨fun h => by simp at h, fun h => absurd h.2.1 h.1.1⟩
    · cases before with
      | nil => simp [splitAtBar, hc]
      | cons d before =>
        simp only [splitAtBar, hc, if_false, Option.map_eq_some_iff, Prod.exists, Prod.mk.injEq,
          List.cons.injEq, List.mem_cons, not_or, List.cons_append]
        constructor
        · rintro ⟨b, a, h, ⟨rfl, rfl⟩, rfl⟩
          exact ⟨⟨fun e => hc e.symm, (ih.1 h).1⟩, rfl, (ih.1 h).2⟩
        · rintro ⟨⟨hd, hb⟩, rfl, h⟩
          exact ⟨before, after, ih.2 ⟨hb, h⟩, ⟨rfl, rfl⟩, rfl⟩

end Variant

end NodeSchema

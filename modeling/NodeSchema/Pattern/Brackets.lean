import NodeSchema.Pattern.Escape
/-!
# Sets in brackets

A set in brackets has characters, ranges, named sets and other sets in brackets as members.
Two signs in a row take what it has in common with the members after them, or what it has
not, or what only one of them has. They apply from left to right.
-/

namespace NodeSchema.Pattern

inductive SetOperation where
  | inter
  | diff
  | symmDiff

def SetOperation.apply : SetOperation → CharSet → CharSet → CharSet
  | .inter => .inter
  | .diff => .diff
  | .symmDiff => .symmDiff

structure SetPart where
  set : CharSet
  depth : Nat

structure OpenSet where
  negated : Bool
  /-- No member but dashes has been read. -/
  leading : Bool
  /-- What stands before the latest two signs. -/
  pending : Option (SetOperation × SetPart)
  members : List SetPart

namespace OpenSet

def push (s : OpenSet) (set : CharSet) : OpenSet :=
  { s with members := ⟨set, 0⟩ :: s.members, leading := false }

def operand (s : OpenSet) : SetPart :=
  match s.members with
  | [] => ⟨fun _ => false, 0⟩
  | [member] => member
  | members => ⟨fun c => members.any (·.set c), (members.map SetPart.depth).foldl max 0 + 1⟩

def value (flags : Flags) (s : OpenSet) : SetPart :=
  match s.pending with
  | none => s.operand
  | some (operation, left) =>
    ⟨operation.apply (left.set.caselessIf flags.ignoreCase)
        (s.operand.set.caselessIf flags.ignoreCase),
      max left.depth s.operand.depth + 1⟩

def await (flags : Flags) (operation : SetOperation) (s : OpenSet) : OpenSet :=
  { s with pending := some (operation, s.value flags), members := [], leading := false }

def close? (flags : Flags) (s : OpenSet) : Option SetPart :=
  let whole := s.value flags
  (flags.negateIf? s.negated (whole.set.caselessIf flags.ignoreCase)).map fun set =>
    ⟨set, whole.depth + 1⟩

end OpenSet

def startSet (flags : Flags) (text : List Char) : OpenSet × List Char :=
  match flags.skip text with
  | '^' :: rest => (⟨true, true, none, []⟩, rest)
  | rest => (⟨false, true, none, []⟩, rest)

/-- Reads a named set after its opening bracket: a name between colons and the closing
bracket. A circumflex before the name takes the complement. -/
def readNamedSet (text : List Char) : Option (Bool × CharSet × List Char) :=
  let readName (negated : Bool) (text : List Char) :=
    match text.dropWhile (· != ':') with
    | ':' :: ']' :: rest =>
      (CharSet.ofName? (text.takeWhile (· != ':'))).map fun set => (negated, set, rest)
    | _ => none
  match text with
  | ':' :: '^' :: rest => readName true rest
  | ':' :: rest => readName false rest
  | _ => none

def readMember (flags : Flags) : List Char → Option (Escape × List Char)
  | [] => none
  | '\\' :: rest => Escape.read flags rest
  | c :: rest => some (.char c false, rest)

def member? (flags : Flags) (c : Char) : Option Char :=
  if flags.asciiOnly && '\x7f' < c then none else some c

/-- What stands after a dash, as far as it decides whether the dash makes a range. -/
def afterDash (flags : Flags) (text : List Char) : Option Char :=
  if flags.spaced then
    match text.dropWhile Text.isBlank with
    | '#' :: rest => (rest.dropWhile Text.isBlank).head? <|> text.head?
    | c :: _ => some c
    | [] => text.head?
  else text.head?

def readRange (flags : Flags) (text : List Char) : Option (CharSet × List Char) :=
  match readMember flags text with
  | none => none
  | some (first, rest) =>
    let alone : Option CharSet :=
      match first with
      | .char c _ => (member? flags c).map .single
      | .set s => some s
      | .place _ => none
    match flags.skip rest with
    | '-' :: after =>
      if afterDash flags after = some ']' || afterDash flags after = some '-' then
        alone.map (·, '-' :: after)
      else
        match first, readMember flags (flags.skip after) with
        | .char c _, some (.char d _, rest) =>
          match member? flags c, member? flags d with
          | some c, some d => if c ≤ d then some (.range c d, rest) else none
          | _, _ => none
        | _, _ => none
    | rest => alone.map (·, rest)

/-- Reads the rest of a set, up to the closing bracket of the outermost one. Every step reads
a character at least, so the length of the text is enough of a bound. -/
def readSet (flags : Flags) : Nat → List OpenSet → OpenSet → List Char →
    Option (SetPart × List Char)
  | 0, _, _, _ => none
  | bound + 1, outer, s, text =>
    match flags.skip text with
    | [] => none
    | c :: rest =>
      if s.leading && c = '-' then
        readSet flags bound outer { s.push (.single c) with leading := true } rest
      else if s.leading && s.members.isEmpty && c = ']' then
        readSet flags bound outer (s.push (.single c)) rest
      else
        match c, rest with
        | '[', rest =>
          match readNamedSet rest with
          | some (negated, set, rest) =>
            (flags.negateIf? negated (set.caselessIf flags.ignoreCase)).bind fun set =>
              readSet flags bound outer (s.push set) rest
          | none =>
            let (inner, rest) := startSet flags rest
            readSet flags bound ({ s with leading := false } :: outer) inner rest
        | ']', rest =>
          (s.close? flags).bind fun part =>
            match outer with
            | [] => some (part, rest)
            | o :: outer => readSet flags bound outer { o with members := part :: o.members } rest
        | '&', '&' :: rest => readSet flags bound outer (s.await flags .inter) rest
        | '-', '-' :: rest => readSet flags bound outer (s.await flags .diff) rest
        | '~', '~' :: rest => readSet flags bound outer (s.await flags .symmDiff) rest
        | _, _ =>
          (readRange flags (c :: rest)).bind fun (set, rest) =>
            readSet flags bound outer (s.push set) rest

end NodeSchema.Pattern

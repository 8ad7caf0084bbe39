import NodeSchema.Pattern.Brackets
/-!
# Reading patterns

A pattern is written as alternatives with bars between them. An alternative is a row of
items: characters, escapes, sets in brackets, groups in parentheses, and repetitions of
these. A group may have a name, which says nothing, or flags, which hold inside of it. Flags
in parentheses of their own hold up to the end of the group that they stand in. A pattern has
no closing brace, for a filter encloses it in braces. So what braces would enclose, such as
a count of repetitions, cannot be written.
-/

namespace NodeSchema.Pattern

def maxDepth : Nat := 250

/-- A part of a pattern that has been read, and how deep it nests. Flags are parts that
cannot be repeated. -/
structure Item where
  pattern : Pattern
  depth : Nat
  repeatable : Bool

structure Group where
  choices : List Item
  items : List Item
  /-- The flags that hold again after the group. -/
  flagsAfter : Flags

def depthAround (items : List Item) : Nat := (items.map Item.depth).foldl max 0 + 1

def Group.sequence (g : Group) : Item :=
  match g.items with
  | [] => ⟨.empty, 0, true⟩
  | [item] => item
  | items => ⟨items.foldl (fun later item => .both item.pattern later) .empty,
      depthAround items, true⟩

def Group.whole (g : Group) : Item :=
  match g.choices with
  | [] => g.sequence
  | choices => ⟨choices.foldl (fun later choice => .either choice.pattern later) g.sequence.pattern,
      depthAround (g.sequence :: choices), true⟩

structure Reading where
  outer : List Group
  group : Group
  flags : Flags
  names : List (List Char)

namespace Reading

def start : Reading := ⟨[], ⟨[], [], .unset⟩, .unset, []⟩

def push (r : Reading) (item : Item) : Reading :=
  { r with group := { r.group with items := item :: r.group.items } }

def pushPattern (r : Reading) (p : Pattern) : Reading := r.push ⟨p, 0, true⟩

def repeatLatest? (r : Reading) (repetition : Pattern → Pattern) : Option Reading :=
  match r.group.items with
  | [] => none
  | item :: items =>
    if item.repeatable then
      some { r with
        group := { r.group with items := ⟨repetition item.pattern, item.depth + 1, true⟩ :: items } }
    else none

def nextChoice (r : Reading) : Reading :=
  { r with group := { r.group with choices := r.group.sequence :: r.group.choices, items := [] } }

def openGroup (r : Reading) (inside : Flags) : Reading :=
  { r with outer := r.group :: r.outer, group := ⟨[], [], r.flags⟩, flags := inside }

def closeGroup? (r : Reading) : Option Reading :=
  match r.outer with
  | [] => none
  | g :: outer =>
    let whole := r.group.whole
    some ({ r with outer := outer, group := g, flags := r.group.flagsAfter }.push
      ⟨whole.pattern, whole.depth + 1, true⟩)

def finish? (r : Reading) : Option Pattern :=
  if r.outer.isEmpty && r.group.whole.depth ≤ maxDepth then some r.group.whole.pattern else none

def isGroupName : List Char → Bool
  | [] => false
  | c :: rest => (c == '_' || CharSet.letter c) &&
      rest.all fun d => Text.isAlphanumeric d || ['_', '.', '[', ']'].contains d

def readName (r : Reading) (text : List Char) : Option (Reading × List Char) :=
  let name := text.takeWhile (· != '>')
  match text.dropWhile (· != '>') with
  | [] => none
  | _ :: rest =>
    if isGroupName name && !r.names.contains name then
      some ({ r.openGroup r.flags with names := name :: r.names }, rest)
    else none

def readGroupStart (r : Reading) (text : List Char) : Option (Reading × List Char) :=
  match text with
  | '?' :: 'P' :: '<' :: rest => r.readName rest
  | '?' :: '<' :: rest => r.readName rest
  | '?' :: ')' :: _ => none
  | '?' :: rest =>
    match r.flags.readLetters true [] rest with
    | some (flags, ':' :: rest) => some (r.openGroup flags, rest)
    | some (flags, _ :: rest) => some ({ r with flags := flags }.push ⟨.empty, 0, false⟩, rest)
    | _ => none
  | rest => some (r.openGroup r.flags, rest)

/-- Reads on after the sign of a repetition. A question mark makes it prefer to stop. -/
def readRepetition (r : Reading) (repetition : Bool → Pattern → Pattern) (text : List Char) :
    Option (Reading × List Char) :=
  match text with
  | '?' :: rest => (r.repeatLatest? (repetition r.flags.swapGreed)).map (·, rest)
  | rest => (r.repeatLatest? (repetition !r.flags.swapGreed)).map (·, rest)

def readEscape (r : Reading) (text : List Char) : Option (Reading × List Char) :=
  match Escape.read r.flags text with
  | none => none
  | some (.char c isByte, rest) =>
    if isByte && r.flags.asciiOnly && '\x7f' < c then none
    else some (r.pushPattern (.one (r.flags.literal c)), rest)
  | some (.set s, rest) => some (r.pushPattern (.one s), rest)
  | some (.place p, rest) => some (r.pushPattern p, rest)

/-- Reads on after a character. An opening brace has to be escaped. -/
def step (r : Reading) (c : Char) (rest : List Char) : Option (Reading × List Char) :=
  match c with
  | '(' => r.readGroupStart (r.flags.skip rest)
  | ')' => r.closeGroup?.map (·, rest)
  | '|' => some (r.nextChoice, rest)
  | '[' =>
    let (s, rest) := startSet r.flags rest
    (readSet r.flags (rest.length + 1) [] s rest).map fun (part, rest) =>
      (r.push ⟨.one part.set, part.depth, true⟩, rest)
  | '?' => r.readRepetition optional rest
  | '*' => r.readRepetition (fun greedy p => optional greedy (.repeated greedy p)) rest
  | '+' => r.readRepetition .repeated rest
  | '\x7b' => none
  | '\\' => r.readEscape rest
  | '.' => if r.flags.asciiOnly then none else some (r.pushPattern (.one fun _ => true), rest)
  | '^' => some (r.pushPattern Pattern.start, rest)
  | '$' => some (r.pushPattern Pattern.finish, rest)
  | c => some (r.pushPattern (.one (r.flags.literal c)), rest)

/-- Reads the rest of a pattern. Every step reads a character at least, so the length of the
text is enough of a bound. -/
def run : Nat → Reading → List Char → Option Pattern
  | 0, _, _ => none
  | bound + 1, r, text =>
    match r.flags.skip text with
    | [] => r.finish?
    | c :: rest => (r.step c rest).bind fun (r, rest) => run bound r rest

end Reading

def read? (text : List Char) : Option Pattern := Reading.run (text.length + 1) .start text

end NodeSchema.Pattern

import NodeSchema.Text.Alphanumeric
/-!
# Patterns

A pattern describes parts of a name. Where a pattern may match in several ways, one is
preferred: the one that starts first, and of those what the pattern names first. A
repetition prefers to go on, or to stop. `reachesEnd` asks whether the preferred match is
one that ends with the name.

Names have ASCII characters only, so a set of characters has to be right about these, and about
the two others that are the same letter as an ASCII character in another case.
-/

namespace NodeSchema

-- ---------------------------------------------------------------------------
-- Sets of characters
-- ---------------------------------------------------------------------------

abbrev CharSet := Char → Bool

namespace CharSet

def single (c : Char) : CharSet := (· == c)

def range (first last : Char) : CharSet := fun c => first ≤ c && c ≤ last

def ofChars (chars : List Char) : CharSet := chars.contains

def complement (s : CharSet) : CharSet := fun c => !s c

def negateIf (negated : Bool) (s : CharSet) : CharSet := if negated then s.complement else s

def union (s t : CharSet) : CharSet := fun c => s c || t c

def inter (s t : CharSet) : CharSet := fun c => s c && t c

def diff (s t : CharSet) : CharSet := fun c => s c && !t c

def symmDiff (s t : CharSet) : CharSet := fun c => s c != t c

/-- A character in each case that it has. The sign for kelvins and the long s are cases of
two ASCII letters. -/
def caseVariants (c : Char) : List Char :=
  if ['k', 'K', '\u212a'].contains c then [c, 'k', 'K', '\u212a']
  else if ['s', 'S', '\u017f'].contains c then [c, 's', 'S', '\u017f']
  else [c, c.toLower, c.toUpper]

def caseless (s : CharSet) : CharSet := fun c => (caseVariants c).any s

def caselessIf (ignored : Bool) (s : CharSet) : CharSet := if ignored then s.caseless else s

def digit : CharSet := Char.isDigit

def blank : CharSet := Text.isBlank

def word : CharSet := fun c => Text.isAlphanumeric c || c == '_'

def letter : CharSet := fun c => Text.isAlphanumeric c && !c.isDigit

def control : CharSet := fun c => c < ' ' || c == '\x7f'

def graphic : CharSet := range '!' '~'

def mark : CharSet := fun c => graphic c && !c.isAlphanum

def sign : CharSet := ofChars ['$', '+', '<', '=', '>', '^', '\x60', '|', '~']

def ofCategory? (c : Char) : Option CharSet :=
  match c.toLower with
  | 'c' => some control
  | 'l' => some letter
  | 'm' => some fun _ => false
  | 'n' => some digit
  | 'p' => some (diff mark sign)
  | 's' => some sign
  | 'z' => some (single ' ')
  | _ => none

def ofName? (name : List Char) : Option CharSet :=
  match String.ofList name with
  | "alnum" => some Char.isAlphanum
  | "alpha" => some Char.isAlpha
  | "ascii" => some (range '\x00' '\x7f')
  | "blank" => some (ofChars [' ', '\t'])
  | "cntrl" => some control
  | "digit" => some digit
  | "graph" => some graphic
  | "lower" => some Char.isLower
  | "print" => some (range ' ' '~')
  | "punct" => some mark
  | "space" => some (union (range '\t' '\r') (single ' '))
  | "upper" => some Char.isUpper
  | "word" => some fun c => c.isAlphanum || c == '_'
  | "xdigit" => some fun c => c.isDigit || range 'a' 'f' c.toLower
  | _ => none

end CharSet

-- ---------------------------------------------------------------------------
-- Matches
-- ---------------------------------------------------------------------------

/-- A regular expression. Of two alternatives the first is preferred. -/
inductive Pattern where
  | empty
  | one (accepts : Char → Bool)
  /-- Nothing, at a place in the text that is as asked for. -/
  | here (holds : List Char → Nat → Bool)
  | both (p q : Pattern)
  | either (p q : Pattern)
  /-- One time or more, and as often as possible if it is greedy. -/
  | repeated (greedy : Bool) (p : Pattern)

namespace Pattern

def optional (greedy : Bool) (p : Pattern) : Pattern :=
  if greedy then .either p .empty else .either .empty p

/-- Where repetitions end that follow a first one. The first list has the ends of one
repetition from the given place, the others those from the places after it. A repetition of
nothing is not followed by another. -/
def furtherEnds (greedy : Bool) : Nat → List (List Nat) → List (List Nat)
  | _, [] => []
  | place, ends :: rows =>
    let later := furtherEnds greedy (place + 1) rows
    let goingOn := (ends.filter (place < ·)).flatMap fun e => later.getD (e - (place + 1)) []
    (if greedy then goingOn ++ [place] else place :: goingOn).eraseDups :: later

/-- For every place in a text, where a match that starts there may end, the preferred end
first. -/
def ends (text : List Char) : Pattern → List (List Nat)
  | .empty => (List.range (text.length + 1)).map fun place => [place]
  | .one accepts => (List.range (text.length + 1)).map fun place =>
      if text[place]?.any accepts then [place + 1] else []
  | .here holds => (List.range (text.length + 1)).map fun place =>
      if holds text place then [place] else []
  | .both p q =>
    let later := q.ends text
    (p.ends text).map fun row => (row.flatMap (later.getD · [])).eraseDups
  | .either p q => (p.ends text).zipWith (fun row other => (row ++ other).eraseDups) (q.ends text)
  | .repeated greedy p =>
    let once := p.ends text
    let further := furtherEnds greedy 0 once
    once.mapIdx fun place row =>
      (row.flatMap fun e => if e = place then [e] else further.getD e []).eraseDups

def preferredEnd? (p : Pattern) (text : List Char) : Option Nat := (p.ends text).findSome? List.head?

def reachesEnd (p : Pattern) (text : List Char) : Bool := p.preferredEnd? text = some text.length

def isWordCharacter (c : Char) : Bool := c.isAlphanum || c == '_'

def wordBefore (text : List Char) (place : Nat) : Bool :=
  0 < place && text[place - 1]?.any isWordCharacter

def wordAfter (text : List Char) (place : Nat) : Bool := text[place]?.any isWordCharacter

def start : Pattern := .here fun _ place => place = 0

def finish : Pattern := .here fun text place => place = text.length

def wordEdge : Pattern := .here fun text place => wordBefore text place != wordAfter text place

def noWordEdge : Pattern := .here fun text place => wordBefore text place == wordAfter text place

def wordStart : Pattern := .here fun text place => !wordBefore text place && wordAfter text place

def wordFinish : Pattern := .here fun text place => wordBefore text place && !wordAfter text place

end Pattern

end NodeSchema

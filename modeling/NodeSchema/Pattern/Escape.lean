import NodeSchema.Pattern.Basic
/-!
# Flags and escapes

What a pattern may say with a backslash, and the flags that change how it is read.
-/

namespace NodeSchema.Pattern

/-- The text after blanks and comments. A comment starts with a number sign and ends with
the line. -/
def skipSpace (inComment : Bool) : List Char → List Char
  | [] => []
  | c :: rest =>
    if inComment then skipSpace (c != '\n') rest
    else if c = '#' then skipSpace true rest
    else if Text.isBlank c then skipSpace false rest
    else c :: rest

structure Flags where
  ignoreCase : Bool
  /-- A repetition is greedy if a question mark follows it, and only then. -/
  swapGreed : Bool
  /-- The pattern is about bytes, and may name only those of ASCII characters. -/
  asciiOnly : Bool
  spaced : Bool

namespace Flags

def unset : Flags := ⟨false, false, false, false⟩

/-- The flags after the one of a letter is set or cleared. Three flags are about lines, and
a name is never more than one line, so that these change nothing. -/
def set? (f : Flags) (value : Bool) (letter : Char) : Option Flags :=
  match letter with
  | 'i' => some { f with ignoreCase := value }
  | 'U' => some { f with swapGreed := value }
  | 'u' => some { f with asciiOnly := !value }
  | 'x' => some { f with spaced := value }
  | 'm' | 's' | 'R' => some f
  | _ => none

/-- Reads letters of flags, up to a colon or a closing parenthesis. A dash is followed by
the flags to clear. No letter may stand there twice. -/
def readLetters (f : Flags) (value : Bool) (seen : List Char) :
    List Char → Option (Flags × List Char)
  | [] => none
  | c :: rest =>
    if c = ':' || c = ')' then if seen.head? = some '-' then none else some (f, c :: rest)
    else if seen.contains c then none
    else if c = '-' then f.readLetters false (c :: seen) rest
    else (f.set? value c).bind fun f => f.readLetters value (c :: seen) rest

def skip (f : Flags) (text : List Char) : List Char :=
  if f.spaced then skipSpace false text else text

def literal (f : Flags) (c : Char) : CharSet :=
  CharSet.caselessIf (f.ignoreCase && (!f.asciiOnly || c ≤ '\x7f')) (.single c)

/-- A set or, if bytes allow it, its complement: among the bytes outside of a set are always
some that are no characters. -/
def negateIf? (f : Flags) (negated : Bool) (s : CharSet) : Option CharSet :=
  if negated && f.asciiOnly then none else some (s.negateIf negated)

end Flags

inductive Escape where
  | char (c : Char) (isByte : Bool)
  | set (s : CharSet)
  | place (p : Pattern)

def hexDigit? (c : Char) : Option Nat :=
  if c.isDigit then some (c.toNat - '0'.toNat)
  else if CharSet.range 'a' 'f' c.toLower then some (c.toLower.toNat - 'a'.toNat + 10)
  else none

def readHex (flags : Flags) : Nat → Nat → List Char → Option (Nat × List Char)
  | 0, value, text => some (value, text)
  | count + 1, value, text =>
    match flags.skip text with
    | [] => none
    | c :: rest => (hexDigit? c).bind fun d => readHex flags count (16 * value + d) rest

namespace Escape

/-- Reads a character that is given by a count of hexadecimal digits. Two digits give a
byte. -/
def readCode (flags : Flags) (count : Nat) (text : List Char) : Option (Escape × List Char) :=
  (readHex flags count 0 text).bind fun (value, rest) =>
    if value.isValidChar then some (.char (Char.ofNat value) (count = 2), rest) else none

def readCategory (flags : Flags) (negated : Bool) (text : List Char) :
    Option (Escape × List Char) :=
  match flags.skip text with
  | [] => none
  | c :: rest =>
    if flags.asciiOnly then none
    else (CharSet.ofCategory? c).map fun s => (.set (s.negateIf negated), rest)

/-- What a backslash and one more character stand for. Edges of words are known only among
bytes. All but letters and digits may stand for themselves. -/
def ofChar? (flags : Flags) (c : Char) : Option Escape :=
  let set (negated : Bool) (s : CharSet) := (flags.negateIf? negated s).map Escape.set
  let edge (p : Pattern) := if flags.asciiOnly then some (Escape.place p) else none
  match c with
  | 'd' => set false .digit
  | 'D' => set true .digit
  | 's' => set false .blank
  | 'S' => set true .blank
  | 'w' => set false .word
  | 'W' => set true .word
  | 'a' => some (.char '\x07' false)
  | 'f' => some (.char '\x0c' false)
  | 't' => some (.char '\t' false)
  | 'n' => some (.char '\n' false)
  | 'r' => some (.char '\r' false)
  | 'v' => some (.char '\x0b' false)
  | 'A' => some (.place start)
  | 'z' => some (.place finish)
  | 'b' => edge wordEdge
  | 'B' => edge noWordEdge
  | '<' => edge wordStart
  | '>' => edge wordFinish
  | c => if c ≤ '\x7f' && !c.isAlphanum then some (.char c false) else none

def read (flags : Flags) : List Char → Option (Escape × List Char)
  | [] => none
  | 'x' :: rest => readCode flags 2 rest
  | 'u' :: rest => readCode flags 4 rest
  | 'U' :: rest => readCode flags 8 rest
  | 'p' :: rest => readCategory flags false rest
  | 'P' :: rest => readCategory flags true rest
  | c :: rest => (ofChar? flags c).map (·, rest)

end Escape

end NodeSchema.Pattern

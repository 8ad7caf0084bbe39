import NodeSchema.Descriptor.Basic
/-!
# Reading a descriptor

A descriptor is a path, a path with arguments between `<` and `>`, or a tuple of
elements between `(` and `)`. Arguments and elements are separated by commas; blanks
may stand before every token. Only a tuple may be empty. `Option` with arguments is
the optional type and takes exactly one.

Each reader takes its part off the front of a text and leaves less of it, which is
why reading ends.
-/

namespace NodeSchema.Descriptor

inductive Fault where
  | missing (wanted : Char) (found : Option Char)
  | missingName (found : Option Char)
  | notPath (run : String)
  | argumentCount (found : Nat)
  | trailing (rest : String)
deriving DecidableEq

def foundText : Option Char → String
  | some c => "`" ++ c.toString ++ "`"
  | none => "end of input"

def Fault.message : Fault → String
  | .missing wanted found => "expected `" ++ wanted.toString ++ "`, found " ++ foundText found
  | .missingName found => "expected a type name, found " ++ foundText found
  | .notPath run => "`" ++ run ++ "` is not a type path"
  | .argumentCount found => "`Option` takes one argument, found " ++ toString found
  | .trailing rest => "trailing input `" ++ rest ++ "`"

/-- What a reader took off the front of a text, and the rest of the text. -/
structure Taken (α : Type) (s : List Char) where
  value : α
  rest : List Char
  shorter : rest.length < s.length

/-- The text after the wanted character, if that comes next, blanks aside. -/
def accept (wanted : Char) (s : List Char) : Option { rest : List Char // rest.length < s.length } :=
  match h : Text.skipBlanks s with
  | [] => none
  | c :: rest =>
    if c = wanted then
      some ⟨rest, by
        have := Text.length_skipBlanks_le s
        simp only [h, List.length_cons] at this
        omega⟩
    else none

def expect (wanted : Char) (s : List Char) :
    Except Fault { rest : List Char // rest.length < s.length } :=
  match accept wanted s with
  | some rest => .ok rest
  | none => .error (.missing wanted (Text.skipBlanks s).head?)

def readPath (s : List Char) : Except Fault (Taken String s) :=
  match h : (Text.skipBlanks s).takeWhile isPathPart with
  | [] => .error (.missingName (Text.skipBlanks s).head?)
  | c :: run =>
    if isPath (c :: run) then
      .ok {
        value := String.ofList (c :: run)
        rest := (Text.skipBlanks s).dropWhile isPathPart
        shorter := by
          have split := congrArg List.length
            (List.takeWhile_append_dropWhile (p := isPathPart) (l := Text.skipBlanks s))
          have := Text.length_skipBlanks_le s
          simp only [h, List.length_append, List.length_cons] at split
          omega }
    else .error (.notPath (String.ofList (c :: run)))

mutual
def readOne (s : List Char) : Except Fault (Taken Descriptor s) :=
  match accept '(' s with
  | some ⟨inside, h⟩ =>
    match accept ')' inside with
    | some ⟨rest, h'⟩ => .ok ⟨.tuple [], rest, by omega⟩
    | none =>
      match readMany inside with
      | .error fault => .error fault
      | .ok ⟨elements, closing, h'⟩ =>
        match expect ')' closing with
        | .error fault => .error fault
        | .ok ⟨rest, h''⟩ => .ok ⟨.tuple elements, rest, by omega⟩
  | none =>
    match readPath s with
    | .error fault => .error fault
    | .ok ⟨head, after, h⟩ =>
      match accept '<' after with
      | none => .ok ⟨.name head, after, h⟩
      | some ⟨inside, h'⟩ =>
        match readMany inside with
        | .error fault => .error fault
        | .ok ⟨arguments, closing, h''⟩ =>
          match expect '>' closing with
          | .error fault => .error fault
          | .ok ⟨rest, h'''⟩ =>
            if head = "Option" then
              match arguments with
              | [inner] => .ok ⟨.optional inner, rest, by omega⟩
              | _ => .error (.argumentCount arguments.length)
            else .ok ⟨.generic head arguments, rest, by omega⟩
termination_by 2 * s.length
def readMany (s : List Char) : Except Fault (Taken (List Descriptor) s) :=
  match readOne s with
  | .error fault => .error fault
  | .ok ⟨first, after, h⟩ =>
    match accept ',' after with
    | none => .ok ⟨[first], after, h⟩
    | some ⟨next, h'⟩ =>
      match readMany next with
      | .error fault => .error fault
      | .ok ⟨others, rest, h''⟩ => .ok ⟨first :: others, rest, by omega⟩
termination_by 2 * s.length + 1
end

def read (s : List Char) : Except Fault Descriptor :=
  match readOne s with
  | .error fault => .error fault
  | .ok taken =>
    match Text.skipBlanks taken.rest with
    | [] => .ok taken.value
    | rest => .error (.trailing (String.ofList rest))

end NodeSchema.Descriptor

/-!
# The command line

One output directory and a few flags, in any order. Arguments are read from left to
right, and the first that cannot be accepted decides. An empty directory is noticed
only by the next flag or at the end.
-/

namespace NodeSchema

inductive Stop where
  | help
  | version
  | unknownArgument
  | tooManyValues
  | argumentConflict
  | invalidValue
  | missingArgument
deriving DecidableEq

def Stop.exitCode : Stop → Nat
  | .help | .version => 0
  | _ => 2

structure Invocation where
  outDir : String
  constructors : Bool
  verbosity : Nat
deriving DecidableEq

inductive Flag where
  | constructors
  | verbose
  | help
  | version
deriving DecidableEq

namespace Flag

def ofWord? : String → Option Flag
  | "constructors" => some .constructors
  | "verbose" => some .verbose
  | "help" => some .help
  | "version" => some .version
  | _ => none

def ofLetter? : Char → Option Flag
  | 'v' => some .verbose
  | 'h' => some .help
  | 'V' => some .version
  | _ => none

end Flag

structure Arguments where
  outDir : Option String
  constructors : Bool
  verbosity : Nat
deriving DecidableEq

namespace Arguments

def unread : Arguments := ⟨none, false, 0⟩

/-- Requests for more are counted up to this number. -/
def verbosityLimit : Nat := 255

def flag (a : Arguments) (f : Flag) : Except Stop Arguments :=
  if a.outDir = some "" then .error .invalidValue
  else
    match f with
    | .help => .error .help
    | .version => .error .version
    | .verbose => .ok { a with verbosity := min verbosityLimit (a.verbosity + 1) }
    | .constructors =>
      if a.constructors then .error .argumentConflict else .ok { a with constructors := true }

def letters (a : Arguments) : List Char → Except Stop Arguments
  | [] => .ok a
  | c :: rest =>
    match Flag.ofLetter? c with
    | none => .error .unknownArgument
    | some f =>
      match a.flag f with
      | .error stop => .error stop
      | .ok next => next.letters rest

def word (a : Arguments) (text : List Char) : Except Stop Arguments :=
  match Flag.ofWord? (String.ofList (text.takeWhile (· != '='))) with
  | none => .error .unknownArgument
  | some f => if '=' ∈ text then .error .tooManyValues else a.flag f

def positional (a : Arguments) (text : String) : Except Stop Arguments :=
  match a.outDir with
  | some _ => .error .unknownArgument
  | none => .ok { a with outDir := some text }

/-- One argument before any that makes the rest positional. A lone dash is no flag. -/
def argument (a : Arguments) (text : String) : Except Stop Arguments :=
  match text.toList with
  | '-' :: '-' :: rest => a.word rest
  | '-' :: c :: rest => a.letters (c :: rest)
  | _ => a.positional text

/-- All arguments in order; after two dashes alone the rest are positional. -/
def readFrom (a : Arguments) : List String → Except Stop Arguments
  | [] => .ok a
  | text :: rest =>
    if text = "--" then rest.foldlM positional a
    else
      match a.argument text with
      | .error stop => .error stop
      | .ok next => next.readFrom rest

def finish (a : Arguments) : Except Stop Invocation :=
  match a.outDir with
  | none => .error .missingArgument
  | some outDir =>
    if outDir = "" then .error .invalidValue
    else .ok { outDir, constructors := a.constructors, verbosity := a.verbosity }

end Arguments

def Invocation.read (arguments : List String) : Except Stop Invocation :=
  match Arguments.unread.readFrom arguments with
  | .error stop => .error stop
  | .ok a => a.finish

end NodeSchema

import NodeSchema.CommandLine
import NodeSchema.Schema
import NodeSchema.Log.Filter
/-!
# The program

A run reads the command line, generates the built-in schemas and tells what happened.
Nothing that is told has a say in what is written or in the exit code.
-/

namespace NodeSchema

structure Outcome where
  exitCode : Nat
  output : String
  errorLines : List String
deriving DecidableEq

/-- What is written to the error stream, read line by line. A message may hold line ends of
its own. -/
def Outcome.shownLines (o : Outcome) : List String :=
  (Text.lines (Text.ofLines o.errorLines).toList).map String.ofList

def Invocation.level (i : Invocation) : Level := Filter.levelOfVerbosity i.verbosity

def Invocation.run {m : Type → Type} [Monad m] (write : Writer m) (i : Invocation) :
    m (Logged (Except Breakdown (List String))) :=
  Schema.generate write i.constructors i.outDir Schema.builtIn

def usageLine : String := "Usage: astgen [OPTIONS] <OUT_DIR>"

def helpText : String :=
  "generate the `Expr` and `Stmt` AST enums (expr.rs, stmt.rs) into OUT_DIR\n" ++
  "\n" ++
  usageLine ++ "\n" ++
  "\n" ++
  "Arguments:\n" ++
  "  <OUT_DIR>  output directory; must already exist\n" ++
  "\n" ++
  "Options:\n" ++
  "      --constructors  also emit `new_<variant>` constructor functions\n" ++
  "  -v, --verbose...    more logging (-v info, -vv debug, -vvv trace); RUST_LOG overrides\n" ++
  "  -h, --help          Print help\n" ++
  "  -V, --version       Print version\n"

def versionText : String := "astgen 0.1.0\n"

/-- What is wrong with a command line, and how it is used. The text of the program itself comes
from its library for command lines. It names the argument or the value at fault in the first line,
may add a hint, and leaves out the options from the usage in some cases. What a stop does not
tell about the arguments is left out here. -/
def Stop.explanation (s : Stop) : List String :=
  let wrong : List String :=
    match s with
    | .help | .version => []
    | .unknownArgument => ["error: unexpected argument found"]
    | .tooManyValues => ["error: unexpected value for an argument found; no more were expected"]
    | .argumentConflict => ["error: the argument '--constructors' cannot be used multiple times"]
    | .invalidValue => ["error: a value is required for '<OUT_DIR>' but none was supplied"]
    | .missingArgument =>
      ["error: the following required arguments were not provided:", "  <OUT_DIR>"]
  if wrong.isEmpty then []
  else wrong ++ ["", usageLine, "", "For more information, try '--help'."]

theorem Stop.usageLine_mem_explanation_iff {s : Stop} :
    usageLine ∈ s.explanation ↔ s.exitCode = 2 := by
  cases s <;> simp [explanation, exitCode]

def Stop.outcome (s : Stop) : Outcome where
  exitCode := s.exitCode
  output :=
    match s with
    | .help => helpText
    | .version => versionText
    | _ => ""
  errorLines := s.explanation

/-- What is shown after a run, of what the filter admits. A failure is told in any case. -/
def outcomeOf (filter : Filter) (run : Logged (Except Breakdown (List String))) : Outcome :=
  match run.value with
  | .ok paths =>
    ⟨0, "", filter.lines true (run.events ++ paths.map Event.generated)⟩
  | .error breakdown =>
    ⟨breakdown.cause.exitCode, "",
      filter.lines true run.events ++ ["error: " ++ breakdown.message]⟩

def runProgram {m : Type → Type} [Monad m] (write : Writer m) (arguments : List String)
    (override : Option String) : m Outcome :=
  match Invocation.read arguments with
  | .error stop => pure stop.outcome
  | .ok invocation => do
    let run ← invocation.run write
    pure (outcomeOf (Filter.ofSettings invocation.verbosity override) run)

end NodeSchema

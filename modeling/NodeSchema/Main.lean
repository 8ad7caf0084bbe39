import NodeSchema.Program
/-!
# The command

Writes to the real file system and shows the outcome.
-/

namespace NodeSchema

def FileFault.ofError : IO.Error → FileFault
  | .noFileOrDirectory .. => .missing
  | .inappropriateType _ 20 _ => .notDirectory
  | .inappropriateType _ 21 _ => .isDirectory
  | .invalidArgument _ 36 _ => .nameTooLong
  | error => .other (toString error)

def writeSystemFile : Writer IO := fun path text => do
  if '\x00' ∈ path.toList then return .error .zeroInPath
  try
    IO.FS.writeFile path text
    return .ok ()
  catch error => return .error (FileFault.ofError error)

end NodeSchema

def main (arguments : List String) : IO UInt32 := do
  let outcome ← NodeSchema.runProgram NodeSchema.writeSystemFile arguments (← IO.getEnv "RUST_LOG")
  IO.print outcome.output
  for line in outcome.errorLines do
    IO.eprintln line
  return outcome.exitCode.toUInt32

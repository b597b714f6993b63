import ObjectMapping.CommandLine.Run

namespace ObjectMapping.CommandLine

def faultOf : IO.Error → FileFault
  | .noFileOrDirectory _ _ _ => .missing
  | .inappropriateType _ 21 _ => .isDirectory
  | .inappropriateType _ 20 _ => .notDirectory
  | .invalidArgument _ 36 _ => .nameTooLong
  | e => .other (toString e)

def keepFault {α : Type} (operation : IO α) : IO (Except FileFault α) := do
  try return .ok (← operation)
  catch e => return .error (faultOf e)

def systemFiles : FileAccess IO where
  read path := keepFault (IO.FS.readFile path)
  write path text := keepFault (IO.FS.writeFile path text)

end ObjectMapping.CommandLine

open ObjectMapping.CommandLine in
def main (args : List String) : IO UInt32 := do
  match Invocation.ofArguments args (← IO.getEnv "MAPGEN_MANIFEST") with
  | none =>
    IO.eprintln "error: the arguments are not accepted"
    return Ending.rejectedCode.toUInt32
  | some invocation =>
    let ending ← run systemFiles .unlimited invocation
    IO.print ending.stdout
    IO.eprint ending.failures
    for message in ending.chain do
      IO.eprintln s!"Error: {message}"
    return ending.exitCode.toUInt32

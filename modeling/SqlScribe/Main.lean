import SqlScribe.CommandLine.Execution

/-!
# The program

The command line: it reads the files that a command names and the standard input if the
command needs it, and writes what the command leaves.
-/

namespace SqlScribe.CommandLine

/-- The paths that a command names. -/
def Command.paths : Command → List String
  | .ddl table _ => [table]
  | .dml table rows _ => [table, rows]
  | .tokens input _ => input.toList

/-- Whether a command reads the standard input. -/
def Command.readsInput : Command → Bool
  | .tokens none _ => true
  | _ => false

/-- The contents of a file, or why they cannot be read. -/
def fetch (path : String) : IO (Except ReadFailure ByteArray) := do
  match ← (IO.FS.readBinFile path).toBaseIO with
  | .ok bytes => return .ok bytes
  | .error (.noFileOrDirectory ..) => return .error .missing
  | .error e => return .error (.other (toString e))

/-- The bytes of the standard input. -/
def fetchInput : IO (Except ReadFailure ByteArray) := do
  match ← ((← IO.getStdin).readBinToEnd).toBaseIO with
  | .ok bytes => return .ok bytes
  | .error e => return .error (.other (toString e))

/-- What surrounds a command in the system. -/
def surroundingsOf (c : Command) : IO Surroundings := do
  let contents ← c.paths.mapM fun path => do return (path, ← fetch path)
  let input ← if c.readsInput then fetchInput else pure (.ok .empty)
  let dialect ← IO.getEnv "SQLFORGE_DIALECT"
  return { file := fun path => (contents.lookup path).getD (.error .missing), input, dialect }

/-- Runs a command line and returns its exit code. -/
def runArguments (arguments : List String) : IO UInt32 := do
  match parse arguments with
  | .error .version =>
    IO.print versionLine
    return 0
  | .error .usage =>
    IO.eprintln "error: the arguments are not understood"
    return 2
  | .ok invocation =>
    let outcome := run (← surroundingsOf invocation.command) invocation
    IO.eprint outcome.log
    IO.print outcome.output
    match outcome.failure with
    | some f => IO.eprint f.report
    | none => pure ()
    return outcome.exitCode

end SqlScribe.CommandLine

def main (arguments : List String) : IO UInt32 :=
  SqlScribe.CommandLine.runArguments arguments

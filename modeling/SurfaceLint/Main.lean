import SurfaceLint.CommandLine.Program

/-!
# The executable

Reads the files that the command line names, runs the program on them and passes on what
it leaves behind.
-/

namespace SurfaceLint.Main

/-- What stands at a path. Reading a directory is refused without naming a file; any other
kind of place on the way to a file means that the file does not exist, and a name that is no
argument is too long. Other reasons of the system are passed on. -/
def readNode (path : String) : IO (Except ReadFailure (Option Node)) := do
  try
    let bytes ← IO.FS.readBinFile path
    return .ok (some (.file bytes.toList))
  catch
    | .inappropriateType none .. => return .ok (some .directory)
    | .inappropriateType .. => return .ok none
    | .noFileOrDirectory .. => return .ok none
    | .invalidArgument .. => return .error .nameTooLong
    | error@(.permissionDenied ..) => return .ok (some (.sealed (toString error)))
    | error => return .error (.system (toString error))

def commandInputs : Command → List String
  | .check request => request.inputs
  | .explain request => [request.input]
  | .rules => []

/-- The files that a command line asks for. -/
def readFiles (arguments : List String) : IO Files := do
  let inputs := match Command.parse arguments with
    | .ok (some command) => commandInputs command
    | _ => []
  let nodes ← inputs.mapM fun input => do
    let path := Path.ofString input
    return (path, ← readNode path.render)
  return fun path => (nodes.lookup path).getD (.ok none)

def describe : Failure → String
  | .read _ .nameTooLong => "name too long"
  | .read _ .isDirectory => "is a directory"
  | .read _ .notUtf8 => "not UTF-8"
  | .read _ (.system reason) => reason
  | .noNumber => "not a number"
  | .noRule => "not a rule"

end SurfaceLint.Main

open SurfaceLint in
def main (arguments : List String) : IO UInt32 := do
  let stdout ← IO.getStdout
  let stderr ← IO.getStderr
  let environment : Environment :=
    { files := ← Main.readFiles arguments
      language := ← IO.getEnv "HOVER_ERRORS_LANGUAGE"
      noColor := ← IO.getEnv "NO_COLOR"
      terminal := ← stdout.isTty }
  let (ending, written) := (Program.run environment arguments).perform
  written.out.forM stdout.putStr
  written.err.forM stderr.putStr
  match ending with
  | .ok status => return status.toUInt32
  | .error failure =>
    stderr.putStrLn ("Error: " ++ Main.describe failure)
    return 1

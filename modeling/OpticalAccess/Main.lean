import OpticalAccess.Log.Line
import OpticalAccess.Service.Line
import OpticalAccess.Startup

/-!
# The program

Starts a node from its command line and serves the calls that stand on the lines of standard input,
each answered by one line, until the input ends.
-/

namespace OpticalAccess.Program

def usage : String :=
  "Serve one simulated PON device\n\nUsage: --config <FILE>\n\nOptions:\n" ++
    "  -c, --config <FILE>\n  -h, --help           Print help\n"

def readFile (path : String) : IO (Except FileError String) := do
  try
    let content ← IO.FS.readBinFile path
    match String.fromUTF8? content with
    | some text => return .ok text
    | none => return .error .notText
  catch
    | .noFileOrDirectory .. => return .error .notFound
    | error => return .error (.other (toString error))

/-- The configuration that the arguments name, and the files that it asks for. -/
def readFiles (arguments : List String) : IO (List (String × Except FileError String)) := do
  let .ok (.serve path) := CommandLine.parse arguments | return []
  let text ← readFile path
  let paths := match text.toOption.map Config.parse with
    | some (.ok c) => Startup.filesOf c
    | _ => []
  return (path, text) :: (← paths.mapM fun path => return (path, ← readFile path))

def report (output : IO.FS.Stream) (events : List Event) : IO Unit :=
  events.forM fun event => output.putStrLn event.line

/-- Serves the calls on lines of the input; `count` numbers them. -/
partial def serve (w : Network) (node : String) (input output errors : IO.FS.Stream)
    (count : Nat) : IO Unit := do
  let line ← input.getLine
  if line.isEmpty then return
  match Service.callOfLine? (line.toList.filter fun c => c ≠ '\n' ∧ c ≠ '\r') with
  | none => serve w node input output errors count
  | some (target, body) =>
    let ((reply, w), events) :=
      Service.call w node (toString count) Service.defaultLimit target body (.upTo .info)
    report errors events
    output.putStrLn reply.line
    output.flush
    serve w node input output errors (count + 1)

end OpticalAccess.Program

open OpticalAccess Program

def main (arguments : List String) : IO UInt32 := do
  let output ← IO.getStdout
  let errors ← IO.getStderr
  let files ← readFiles arguments
  let read (path : String) := (files.lookup path).getD (.error .notFound)
  let (launch, events) := Startup.launch read arguments (.upTo .info)
  report errors events
  match launch with
  | .serving ready =>
    serve ready.network ready.node.name (← IO.getStdin) output errors 0
  | .help => output.putStr usage
  | .misuse error => errors.putStrLn ("error: " ++ error.message)
  | .failed error => errors.putStr error.report
  return launch.exitCode.toUInt32

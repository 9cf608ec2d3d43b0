import ContextServer.CommandLine.Arguments
import ContextServer.Stdio

/-!
# The program

What the program does with its arguments, its environment and its input
(`Program.run`). It serves on the standard streams until the input ends. It tells
its version and its options, and refuses arguments that it does not understand.
To serve on HTTP it needs a socket to listen on, and without one it gives up; with
one it cannot go on if the paths of the service make no sense. A service that it
did start would not end with the input.
-/

namespace ContextServer

namespace Program

/-- The options of the program. -/
def usage : String :=
  "Usage: " ++ programName ++ " [OPTIONS]\n\nOptions:\n" ++
    String.join (Setting.all.map fun s =>
      "      --" ++ s.option ++ " <VALUE>  [env: " ++ s.environmentVariable ++ "]\n") ++
    "  -h, --help\n  -V, --version\n"

/-- The wording of a refusal, for the error stream. -/
def complaint : Refusal → String
  | .invalidValue s => "error: invalid or missing value for '--" ++ s.option ++ "'"
  | .malformedValue s => "error: malformed value for '--" ++ s.option ++ "'"
  | .unknownArgument argument => "error: unexpected argument '" ++ argument ++ "' found"
  | .repeated s => "error: the argument '--" ++ s.option ++ "' cannot be used multiple times"
  | .unwantedValue argument => "error: no value is expected for '--" ++ argument ++ "'"
  | .help | .version => ""

/-- How the program ends. -/
structure Finish where
  /-- The code that the environment gets. -/
  exitCode : UInt8
  /-- What was written to the output. -/
  output : String := ""
deriving DecidableEq

/-- How the program ends when it does not start to serve. -/
def refuse : Refusal → Finish
  | .help => { exitCode := 0, output := usage }
  | .version => { exitCode := 0, output := programName ++ " " ++ programVersion ++ "\n" }
  | .invalidValue _ | .malformedValue _ | .unknownArgument _ | .repeated _ | .unwantedValue _ =>
    { exitCode := 2 }

/-- How the program ends when there is no socket to listen on. -/
def withoutSocket : Finish := { exitCode := 1 }

/-- How the program ends when it has a socket and no paths to serve. -/
def withoutPaths : Finish := { exitCode := 101 }

/-- The whole run of the program on an input. -/
def run (naming : Naming) (arguments : List String) (environment : String → Option String)
    (input : ByteArray) : Finish :=
  match Settings.ofArguments arguments environment with
  | .error refusal => refuse refusal
  | .ok settings =>
    match settings.transport with
    | .stdio => { exitCode := 0, output := Stdio.transcript naming settings.serverConfig input }
    | .http =>
      if settings.http.isLocal && !settings.http.isServable then withoutPaths else withoutSocket

end Program

end ContextServer

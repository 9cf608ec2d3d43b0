import ContextServer.Program

/-!
# The entry point

The program on the real streams: what `ContextServer.Program.run` says of a whole
input is done byte by byte, so that an answer is written before the next line is
read.
-/

namespace ContextServer

namespace Program

/-- The names of a program with one client. -/
def naming : Naming := .numbered "session-" "request-" ""

/-- Writes what a connection has to say. -/
def flush (s : Stdio) : IO Stdio := do
  let (text, s) := s.output
  let out ← IO.getStdout
  out.putStr text
  out.flush
  return s

/-- Serves byte by byte until the input ends or nothing is read any more; after a
    line feed it writes what there is to write. -/
partial def serve (input : IO.FS.Stream) (s : Stdio) : IO Unit := do
  let bytes ← input.read 1
  if bytes.isEmpty then
    discard (flush s.finish)
  else
    let s := (s.write bytes).2
    let s ← if bytes.toList = [0x0A] then flush s else pure s
    if s.isReading then serve input s

/-- The variables of the environment that settings are read from. -/
def environment : IO (String → Option String) := do
  let found ← Setting.all.mapM fun s => do
    return (s.environmentVariable, ← IO.getEnv s.environmentVariable)
  return fun name => (found.lookup name).join

/-- Ends the program before it serves. -/
def finish (f : Finish) (complaint : String) : IO UInt32 := do
  (← IO.getStdout).putStr f.output
  unless complaint.isEmpty do (← IO.getStderr).putStr (complaint ++ "\n")
  return f.exitCode.toUInt32

end Program

end ContextServer

open ContextServer in
/-- Serves as the arguments and the environment say. -/
def main (arguments : List String) : IO UInt32 := do
  match Settings.ofArguments arguments (← Program.environment) with
  | .error refusal => Program.finish (Program.refuse refusal) (Program.complaint refusal)
  | .ok settings =>
    match settings.transport with
    | .http => Program.finish Program.withoutSocket "error: no socket to listen on"
    | .stdio =>
      match (Stdio.fresh Program.naming).bind settings.serverConfig with
      | .error failure => Program.finish Program.withoutSocket failure.message
      | .ok s =>
        Program.serve (← IO.getStdin) s
        return 0

import ContextServer.Host.Administration
import ContextServer.Host.Outbound
import ContextServer.Host.Provider
import ContextServer.Text.Utf8

/-!
# The standard streams

A server with one client, whose messages are the lines of an input and which gets
its own as the lines of an output. Reading starts when a server is bound, and it
ends for good with the input, with a line that is not UTF-8, or with the session
(`Stdio.isReading`); what comes after that is not read. White space around a line
does not count, and a line of white space is no message.

`Stdio.transcript` is a whole run: an input from its first to its last byte, and
all that is written in return.
-/

namespace ContextServer

/-- A server on an input and an output. -/
structure Stdio where
  /-- The only connection. -/
  provider : Provider
  /-- The bytes of the input that are not a whole line yet. -/
  unread : ByteArray := .empty
  /-- The input has come to its end. -/
  atEnd : Bool := false
  /-- The connection was closed before there was a server. -/
  isShut : Bool := false
  /-- What every write to the output meets. -/
  outputFault : Option TransportError := none

namespace Stdio

/-- The number of the only session. -/
def client : Nat := 0

/-- A connection without a server. -/
def fresh (naming : Naming) : Stdio := { provider := { medium := .pipe, naming } }

variable (s : Stdio)

/-- The session, once there is a server. -/
def session? : Option Session := s.provider.host.bind fun h => h.sessions[client]?

/-- Lines are still read: there is no server yet, or its link is open. -/
def isReading : Bool := s.session?.all fun session => session.link.isOpen

/-- Something happens to the host, if there is one. -/
def onHost (f : Host → Host) : Stdio := { s with provider := s.provider.onHost f }

/-- The session is over, and with it the reading. -/
def stop : Stdio := s.onHost fun h => h.close client .abrupt

/-! ## Input -/

/-- One line of the input. -/
def takeLine (line : ByteArray) : Stdio :=
  match Utf8.decode line with
  | .error _ => s.stop
  | .ok text =>
    let text := Text.trim text
    if text.isEmpty then s else s.onHost fun h => h.deliverText client text

/-- One byte of the input. A line feed ends the line before it. -/
def takeByte (b : UInt8) : Stdio :=
  if !s.isReading then s
  else if b = 0x0A then { s with unread := .empty }.takeLine s.unread
  else { s with unread := s.unread.push b }

/-- Bytes of the input, and whether they were taken. Before there is a server they
    wait. -/
def write (bytes : ByteArray) : Bool × Stdio :=
  if s.atEnd || !s.isReading then (false, s)
  else if s.provider.host.isNone then (true, { s with unread := s.unread ++ bytes })
  else (true, bytes.toList.foldl takeByte s)

/-- The end of the input is read, if it has come: a last line needs no line feed. -/
def readEnd : Stdio :=
  if s.atEnd && s.isReading && s.provider.host.isSome then
    if s.unread.isEmpty then s.stop else ({ s with unread := .empty }.takeLine s.unread).stop
  else s

/-- The input comes to its end. -/
def finish : Stdio := { s with atEnd := true }.readEnd

/-! ## The server -/

/-- The output of the session breaks, or works again. -/
def applyFault : Stdio :=
  s.onHost fun h => h.change client fun session =>
    { session with link := { session.link with fault := s.outputFault } }

/-- The output breaks, or works again. -/
def setOutputFault (fault : Option TransportError) : Stdio :=
  { s with outputFault := fault }.applyFault

/-- A server is bound; then the bytes that waited are read. -/
def bind (config : ServerConfig) : Except Failure Stdio := do
  let provider ← s.provider.bind config
  let waiting := s.unread
  let s := { s with provider := provider.onHost fun h => h.connect.2, unread := .empty }.applyFault
  if s.isShut then return s.stop
  return (waiting.toList.foldl takeByte s).readEnd

/-- The connection is closed, for good even if there is no server yet. -/
def close (c : Closing) : Stdio :=
  match s.provider.host with
  | some _ => s.onHost fun h => h.closeAll c
  | none => { s with isShut := true }

/-! ## Output -/

/-- The lines of messages, each with its line feed. -/
def lines (messages : List Message) : String := String.join (messages.map fun m => m.line ++ "\n")

/-- What was written since the last time. -/
def output : String × Stdio :=
  match s.provider.host with
  | none => ("", s)
  | some h =>
    let (messages, h) := h.collect client
    (lines messages, { s with provider := s.provider.withHost h })

/-- All that a server writes while it reads an input from its first to its last
    byte. -/
def transcript (naming : Naming) (config : ServerConfig) (input : ByteArray) : String :=
  match (fresh naming).bind config with
  | .error _ => ""
  | .ok s => ((s.write input).2.finish.output).1

end Stdio

end ContextServer

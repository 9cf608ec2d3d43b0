import ContextServer.Http.Config
import ContextServer.Server.Config

/-!
# Settings

What the program is told when it starts. Every setting is an *option* of the
command line and a variable of the environment, both of which give it as a text
(`Settings.set`).
-/

namespace ContextServer

/-- The name of the program. -/
def programName : String := "tessera-mcp"

/-- The version of the program. -/
def programVersion : String := "0.3.0"

/-- What the program serves on. -/
inductive TransportKind where
  /-- The standard streams. -/
  | stdio
  /-- HTTP with streams of events. -/
  | http
deriving DecidableEq

/-- The name of a transport. -/
def TransportKind.name : TransportKind → String
  | .stdio => "stdio"
  | .http => "http"

/-- How the log of the program is written. -/
inductive LogFormat where
  | text
  | json
deriving DecidableEq

/-- The name of a format. -/
def LogFormat.name : LogFormat → String
  | .text => "text"
  | .json => "json"

/-- All that the program is told. -/
structure Settings where
  transport : TransportKind := .stdio
  /-- Where to listen, for HTTP. -/
  http : HttpConfig := {}
  /-- The name of the server. -/
  name : String := programName
  /-- How to use the server. -/
  instructions : Option String := none
  logFormat : LogFormat := .text
deriving DecidableEq

/-- The settings by their name. -/
inductive Setting where
  | transport
  | host
  | port
  | ssePath
  | messagePath
  | name
  | instructions
  | logFormat
deriving DecidableEq

namespace Setting

/-- The settings in the order in which the environment is read. -/
def all : List Setting :=
  [.transport, .host, .port, .ssePath, .messagePath, .name, .instructions, .logFormat]

/-- The option of a setting, after two dashes. -/
def option : Setting → String
  | .transport => "transport"
  | .host => "host"
  | .port => "port"
  | .ssePath => "sse-path"
  | .messagePath => "message-path"
  | .name => "name"
  | .instructions => "instructions"
  | .logFormat => "log-format"

/-- The variable of a setting. -/
def environmentVariable : Setting → String
  | .transport => "TESSERA_TRANSPORT"
  | .host => "TESSERA_HOST"
  | .port => "TESSERA_PORT"
  | .ssePath => "TESSERA_SSE_PATH"
  | .messagePath => "TESSERA_MESSAGE_PATH"
  | .name => "TESSERA_SERVER_NAME"
  | .instructions => "TESSERA_INSTRUCTIONS"
  | .logFormat => "TESSERA_LOG_FORMAT"

/-- The setting of an option. -/
def ofOption? (option : String) : Option Setting := all.find? fun s => s.option == option

end Setting

/-- Why the program does not start to serve. -/
inductive Refusal where
  /-- An option has no value, or one that is not among its names. -/
  | invalidValue (setting : Setting)
  /-- A value is not of the form of its setting. -/
  | malformedValue (setting : Setting)
  /-- An argument means nothing. -/
  | unknownArgument (argument : String)
  /-- An option is given twice. -/
  | repeated (setting : Setting)
  /-- A value is given where there is none to give. -/
  | unwantedValue (argument : String)
  /-- Help was asked for. -/
  | help
  /-- The version was asked for. -/
  | version
deriving DecidableEq

namespace Settings

/-- The digits of a number, most significant first. -/
def ofDigits? (cs : List Char) : Option Nat :=
  if !cs.isEmpty && cs.all Char.isDigit then
    some (cs.foldl (fun n c => n * 10 + (c.toNat - 48)) 0)
  else none

/-- An integer with a sign or without one. -/
def ofInteger? : List Char → Option Int
  | '+' :: cs => (ofDigits? cs).map fun n => (n : Int)
  | '-' :: cs => (ofDigits? cs).map fun n => -(n : Int)
  | cs => (ofDigits? cs).map fun n => (n : Int)

/-- A port: an integer of 16 bits. -/
def ofPort? (text : String) : Option UInt16 := do
  let n ← ofInteger? text.toList
  if 0 ≤ n ∧ n < 65536 then some (.ofNat n.toNat) else none

/-- The settings with one of them given by a text. -/
def set (c : Settings) (s : Setting) (text : String) : Except Refusal Settings :=
  match s with
  | .transport =>
    match [TransportKind.stdio, .http].find? fun t => t.name == text with
    | some transport => .ok { c with transport }
    | none => .error (.invalidValue s)
  | .host => .ok { c with http := { c.http with host := text } }
  | .port =>
    match ofPort? text with
    | some port => .ok { c with http := { c.http with port } }
    | none => .error (.malformedValue s)
  | .ssePath => .ok { c with http := { c.http with ssePath := text } }
  | .messagePath => .ok { c with http := { c.http with messagePath := text } }
  | .name => .ok { c with name := text }
  | .instructions => .ok { c with instructions := some text }
  | .logFormat =>
    match [LogFormat.text, .json].find? fun f => f.name == text with
    | some logFormat => .ok { c with logFormat }
    | none => .error (.invalidValue s)

/-- The server that the settings describe: it can do all there is. -/
def serverConfig (c : Settings) : ServerConfig :=
  { info := { name := c.name, version := programVersion }, capabilities := .full,
    instructions := c.instructions }

end Settings

end ContextServer

import ContextServer.Host.Administration
import ContextServer.Host.Outbound
import ContextServer.Host.Provider
import ContextServer.Http.Config
import ContextServer.Http.Exchange
import ContextServer.Text.Utf8

/-!
# The HTTP service

Two endpoints make up the service, each at the paths of a pattern. A `GET` of the
first opens a session, and its reply is a stream of events that ends with the
session's link: first the event `endpoint`, which says where the client's messages
go, then an event `message` for each message to the client. A `POST` to the second
hands one message to the session that the query or a header names; what comes of
it arrives on the stream.

The service is a function of requests (`HttpService.handle`); streams are numbered
as their sessions are, and are read piece by piece (`HttpService.read`).
-/

namespace ContextServer

/-- A stream of events, beside the session of its number. -/
structure EventStream where
  /-- The first event was read. -/
  isGreeted : Bool := false
  /-- The client went away. -/
  isGone : Bool := false
deriving DecidableEq

/-- The service. -/
structure HttpService where
  config : HttpConfig
  provider : Provider
  /-- The streams, in the order in which they were opened. -/
  streams : List EventStream := []

namespace HttpService

open Http

/-- The header that may name a session. -/
def sessionHeader : String := "mcp-session-id"

/-- The parameter of a query that names a session. -/
def sessionParameter : String := "sessionId"

/-- A service without a server. -/
def fresh (naming : Naming) (config : HttpConfig) : HttpService :=
  { config, provider := { medium := .stream, naming } }

/-- What a request is answered with. -/
inductive Answer where
  /-- A reply that is complete. -/
  | reply (r : Reply)
  /-- The stream of a number. -/
  | stream (i : Nat)

variable (s : HttpService)

/-- The service with another host. -/
def withHost (host : Host) : HttpService := { s with provider := s.provider.withHost host }

/-- Something happens to the host, if there is one. -/
def onHost (f : Host → Host) : HttpService := { s with provider := s.provider.onHost f }

/-- A server is bound. -/
def bind (config : ServerConfig) : Except Failure HttpService := do
  return { s with provider := ← s.provider.bind config }

/-! ## Requests -/

/-- A new session with its stream. -/
def openStream : Answer × HttpService :=
  match s.provider.connect with
  | .error _ => (.reply (.ofText .serviceUnavailable "Server not ready"), s)
  | .ok (i, provider) => (.stream i, { s with provider, streams := s.streams ++ [{}] })

/-- The head of what a `GET` is answered with. A stream that is opened for its head
    alone is over at once. -/
def openHead : Answer × HttpService :=
  match s.openStream with
  | (.reply r, s) => (.reply { r with body := "" }, s)
  | (.stream i, s) => (.stream i, s.onHost fun h => h.close i .abrupt)

/-- The session that a message is for: the query comes before the header, even with
    an empty name. A query with two names is refused. -/
def addressee (r : Http.Request) : Except Reply (Option String) :=
  match (formPairs r.query).filter fun (name, _) => name == sessionParameter with
  | [] => .ok (r.header? sessionHeader)
  | [(_, id)] => .ok (some id)
  | _ => .error (.ofText .badRequest
      "Failed to deserialize query string: duplicate field `sessionId`")

/-- The live session of a name, with its host. -/
def live? (id : String) : Option (Host × Nat) := do
  let host ← s.provider.host
  return (host, ← host.live.get? id)

/-- A message for a session. -/
def post (addressee : Option String) (text : String) : Reply × HttpService :=
  match addressee with
  | none => (.ofText .badRequest "Missing sessionId", s)
  | some id =>
    match s.live? id with
    | none => (.ofText .notFound "Session not found", s)
    | some (host, i) =>
      match Message.parse text with
      | .ok m => ({ status := .ok }, s.withHost (host.deliver i m))
      | .error fault => (.ofText .badRequest fault.message, s.withHost (host.reject i fault).2)

/-- How many bytes the body of a request has at most. -/
def bodyLimit : Nat := 2097152

/-- A message for the session that the request names. -/
def receive (r : Http.Request) : Reply × HttpService :=
  match addressee r with
  | .error reply => (reply, s)
  | .ok addressee =>
    if bodyLimit < r.body.size then
      (.ofText .contentTooLarge "Failed to buffer the request body: length limit exceeded", s)
    else
      match Utf8.decode r.body with
      | .ok text => s.post addressee text
      | .error fault =>
        (.ofText .badRequest ("Request body didn't contain valid UTF-8: " ++ fault.message), s)

/-- The answer to a request. -/
def handle (r : Http.Request) : Answer × HttpService :=
  let endpoints := s.config.endpoints r.path
  if .events ∈ endpoints ∧ r.method = "GET" then s.openStream
  else if .events ∈ endpoints ∧ r.method = "HEAD" then s.openHead
  else if .messages ∈ endpoints ∧ r.method = "POST" then
    let (reply, s) := s.receive r
    (.reply reply, s)
  else if endpoints.isEmpty then (.reply { status := .notFound }, s)
  else (.reply { status := .methodNotAllowed }, s)

/-! ## Streams -/

/-- Data as it stands in an event: every line of it is named so. -/
def dataLines (data : String) : String :=
  "data: " ++ String.ofList (data.toList.flatMap fun c =>
    if c = '\n' ∨ c = '\r' then c :: "data: ".toList else [c])

/-- An event as it stands in a stream. -/
def eventText (name data : String) : String :=
  "event: " ++ name ++ "\n" ++ dataLines data ++ "\n\n"

/-- The first event of the stream of a session: where messages for it go. -/
def greeting (id : String) : String :=
  eventText "endpoint" (s.config.messagePath ++ "?" ++ sessionParameter ++ "=" ++ id)

/-- The events of messages. -/
def messageEvents (messages : List Message) : String :=
  String.join (messages.map fun m => eventText "message" m.line)

/-- What there is to read of a stream, and whether that is its end. -/
def read (i : Nat) : Option (String × Bool) × HttpService :=
  match s.streams[i]?, s.provider.host with
  | some stream, some host =>
    match stream.isGone, host.sessions[i]? with
    | false, some session =>
      if session.link.isCut then (some ("", true), s)
      else
        let (messages, host) := host.collect i
        let greeting := if stream.isGreeted then "" else s.greeting session.id
        (some (greeting ++ messageEvents messages, !session.link.isOpen),
          { s.withHost host with streams := s.streams.set i { stream with isGreeted := true } })
    | _, _ => (none, s)
  | _, _ => (none, s)

/-- The client of a stream goes away: its session is over. -/
def drop (i : Nat) : HttpService :=
  match s.streams[i]? with
  | some stream =>
    { s.onHost fun h => h.close i .abrupt with
      streams := s.streams.set i { stream with isGone := true } }
  | none => s

/-- How many sessions are live. -/
def count : Nat := (s.provider.host.map fun h => h.live.size).getD 0

end HttpService

end ContextServer

import ContextServer.Payload.Capability

/-!
# Methods and routes

The names of the methods, and which of them a server serves. A *route* is an
operation that a method names; `ping` is always served, the others by what the
server says it can do.
-/

namespace ContextServer

namespace Method

/-- The request that opens a session. -/
def opening : String := "initialize"

/-- The request for the roots of the client. -/
def rootsList : String := "roots/list"

/-- The request for a completion by the client. -/
def createMessage : String := "sampling/createMessage"

/-- The notice that the client has seen the answer to its opening. -/
def initialized : String := "notifications/initialized"

/-- The notice that the client wants no more. -/
def cancelled : String := "notifications/cancelled"

/-- The notice of a log message. -/
def logMessage : String := "notifications/message"

/-- The notice that the tools changed. -/
def toolsListChanged : String := "notifications/tools/list_changed"

/-- The notice that the resources or the templates changed. -/
def resourcesListChanged : String := "notifications/resources/list_changed"

/-- The notice that a resource changed. -/
def resourcesUpdated : String := "notifications/resources/updated"

/-- The notice that the prompts changed. -/
def promptsListChanged : String := "notifications/prompts/list_changed"

end Method

/-- An operation of a server. -/
inductive Route where
  | ping
  | toolsList
  | toolsCall
  | resourcesList
  | resourcesRead
  | templatesList
  | subscribe
  | unsubscribe
  | promptsList
  | promptsGet
  | setLevel
deriving DecidableEq

namespace Route

/-- The routes in the order of their families. -/
def all : List Route :=
  [.ping, .toolsList, .toolsCall, .resourcesList, .resourcesRead, .templatesList, .subscribe,
    .unsubscribe, .promptsList, .promptsGet, .setLevel]

/-- The method that names the operation. -/
def method : Route → String
  | .ping => "ping"
  | .toolsList => "tools/list"
  | .toolsCall => "tools/call"
  | .resourcesList => "resources/list"
  | .resourcesRead => "resources/read"
  | .templatesList => "resources/templates/list"
  | .subscribe => "resources/subscribe"
  | .unsubscribe => "resources/unsubscribe"
  | .promptsList => "prompts/list"
  | .promptsGet => "prompts/get"
  | .setLevel => "logging/setLevel"

/-- The operation is offered by a server of these capabilities. -/
def offered (c : ServerCapabilities) : Route → Bool
  | .ping => true
  | .toolsList | .toolsCall => c.tools.isSome
  | .resourcesList | .resourcesRead | .templatesList => c.resources.isSome
  | .subscribe | .unsubscribe => c.resourcesSubscribe
  | .promptsList | .promptsGet => c.prompts.isSome
  | .setLevel => c.logging.isSome

/-- The operation that a method names, if it is offered. -/
def find? (c : ServerCapabilities) (method : String) : Option Route :=
  all.find? fun r => r.method == method && r.offered c

/-- The methods that are served, in order. -/
def methods (c : ServerCapabilities) : List String :=
  (Dict.ofList ((all.filter (·.offered c)).map fun r => (r.method, ()))).keys

end Route

end ContextServer

import ContextServer.Server.Config
import ContextServer.Server.Registry
import ContextServer.Server.Route
import ContextServer.Server.Subscriptions
import ContextServer.Session.Basic

/-!
# Serving requests

A *server* is a configuration, a registry of components and the subscriptions to
its resources. It answers the requests of a session in two steps: the handshake
and the state of the session come first (`Server.answer`), then the operation
that the method names (`Server.serve`). Both return what they leave behind of the
session and of the server, so a request that fails can be seen to leave nothing.
-/

namespace ContextServer

/-- A server. -/
structure Server where
  /-- What it tells about itself. -/
  config : ServerConfig
  /-- Its components. -/
  registry : Registry := {}
  /-- Who wants to know of changes to its resources. -/
  subscriptions : Subscriptions := {}

/-- What comes of serving a session, and what is left of the session and of the
    server. -/
structure Served (α : Type) where
  value : α
  session : Session
  server : Server

namespace Server

variable (server : Server) (session : Session)

/-- An operation that changes nothing. -/
def only {α : Type} (value : α) : Served α := { value, session, server }

/-- An operation on decoded params. Params that do not decode are its failure. -/
def given {α : Type} (shape : Shape α) (params : Option Json)
    (operation : α → Served (Outcome Failure Json)) : Served (Outcome Failure Json) :=
  match decodeParams shape params with
  | .ok a => operation a
  | .error e => server.only session (.failed e)

/-- The listing of a family; a cursor is decoded and does nothing. -/
def list {α : Type} (params : Option Json) (shape : Shape α) (listing : α) :
    Served (Outcome Failure Json) :=
  server.given session PaginatedRequest.shape params fun _ =>
    server.only session (.returned (shape.encode listing))

/-- An operation of the registry. -/
def operate {α : Type} (shape : Shape α) (result : Outcome Failure α × Registry) :
    Served (Outcome Failure Json) :=
  { value := result.1.map shape.encode, session, server := { server with registry := result.2 } }

/-- The operation of a route. -/
def serve (route : Route) (params : Option Json) : Served (Outcome Failure Json) :=
  let done : Outcome Failure Json := .returned (.object [])
  match route with
  | .ping => server.only session done
  | .toolsList =>
    server.list session params ListToolsResult.shape { tools := server.registry.listTools }
  | .toolsCall =>
    server.given session CallToolRequest.shape params fun request =>
      server.operate session CallToolResult.shape (server.registry.callTool request)
  | .resourcesList =>
    server.list session params ListResourcesResult.shape
      { resources := server.registry.listResources }
  | .resourcesRead =>
    server.given session ReadResourceRequest.shape params fun request =>
      server.operate session ReadResourceResult.shape (server.registry.readResource request.uri)
  | .templatesList =>
    server.list session params ListResourceTemplatesResult.shape
      { resourceTemplates := server.registry.listTemplates }
  | .subscribe =>
    server.given session SubscribeRequest.shape params fun request =>
      { value := done, session
        server := { server with
          subscriptions := server.subscriptions.add request.uri session.id } }
  | .unsubscribe =>
    server.given session UnsubscribeRequest.shape params fun request =>
      { value := done, session
        server := { server with
          subscriptions := server.subscriptions.remove request.uri session.id } }
  | .promptsList =>
    server.list session params ListPromptsResult.shape { prompts := server.registry.listPrompts }
  | .promptsGet =>
    server.given session GetPromptRequest.shape params fun request =>
      server.operate session GetPromptResult.shape (server.registry.getPrompt request)
  | .setLevel =>
    server.given session SetLevelRequest.shape params fun request =>
      { value := done, session := { session with logLevel := request.level }, server }

/-- The response to a request whose operation ended. -/
def respond (id : RequestId) : Outcome Failure Json → Response
  | .returned result => .success (some id) result
  | .failed e => .failure (some id) e.errorObject
  | .crashed => .failure (some id) (.ofCode .internalError "Handler panicked")

/-- The introduction of a client. Params that do not decode are refused before
    the state of the session is looked at. -/
def introduce (params : Option Json) : Served (Outcome Failure Json) :=
  server.given session InitializeRequest.shape params fun request =>
    if session.state = .uninitialized then
      let version := negotiate request.protocolVersion server.config.versions
      { value := .returned (InitializeResult.shape.encode (server.config.initializeResult version))
        session := { session with
          state := .initializing
          client := some
            { info := request.clientInfo, capabilities := request.capabilities, version } }
        server }
    else server.only session (.failed (.invalidRequest .alreadyInitialized))

/-- What a request asks for. Before the introduction of the client only `ping` is
    served. -/
def perform (request : Request) : Served (Outcome Failure Json) :=
  if request.method = Method.opening then server.introduce session request.params
  else if session.state = .uninitialized ∧ request.method ≠ Route.ping.method then
    server.only session (.failed (.invalidRequest .notInitialized))
  else
    match Route.find? server.config.capabilities request.method with
    | some route => server.serve session route request.params
    | none => server.only session (.failed (.methodNotFound request.method))

/-- The response to a request. -/
def answer (request : Request) : Served Response :=
  let served := server.perform session request
  { served with value := respond request.id served.value }

end Server

end ContextServer

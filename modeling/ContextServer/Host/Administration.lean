import ContextServer.Host.Basic

/-!
# Administration

What the owner of a server does to it while clients are connected. A change of
the components is told to all live sessions if the server says that it tells
(`Host.addComponent`, `Host.removeComponent`), and not if it is made behind its
back (`Host.install`, `Host.uninstall`). A change of a resource is told to its
subscribers, of which those that cannot be reached are dropped on the occasion
(`Host.resourceChanged`).
-/

namespace ContextServer

/-- The notice of a change to a family, if a server of these capabilities gives
    it. Templates count as resources. -/
def Family.notice? (c : ServerCapabilities) : Family → Option String
  | .tools => if c.toolsListChanged then some Method.toolsListChanged else none
  | .resources | .templates =>
    if c.resourcesListChanged then some Method.resourcesListChanged else none
  | .prompts => if c.promptsListChanged then some Method.promptsListChanged else none

namespace Host

variable (h : Host)

/-- A notification to every live session. -/
def broadcast (method : String) (params : Option Json) : Host :=
  h.live.values.foldl (fun h i => (h.notify i method params).2) h

/-! ## Components -/

/-- A component is registered; nobody is told. -/
def install (c : Component) : Host :=
  { h with server := { h.server with registry := h.server.registry.add c } }

/-- A component is taken out, and whether it was there; nobody is told. -/
def uninstall (f : Family) (key : String) : Bool × Host :=
  (h.server.registry.has f key,
    { h with server := { h.server with registry := h.server.registry.remove f key } })

/-- The live sessions are told of a change to a family. -/
def announce (f : Family) : Host :=
  match f.notice? h.server.config.capabilities with
  | some method => h.broadcast method none
  | none => h

/-- A component is registered, and the clients are told. -/
def addComponent (c : Component) : Host := (h.install c).announce c.family

/-- A component is taken out, and whether it was there. The clients are told if it
    was. -/
def removeComponent (f : Family) (key : String) : Bool × Host :=
  let (found, h) := h.uninstall f key
  (found, if found then h.announce f else h)

/-! ## Log levels -/

/-- The log messages that a client gets are those of a level and above. -/
def setLogLevel (i : Nat) (level : LoggingLevel) : Host :=
  h.change i fun s => { s with logLevel := level }

/-! ## Subscriptions -/

/-- The subscriptions replaced. -/
def withSubscriptions (subscriptions : Subscriptions) : Host :=
  { h with server := { h.server with subscriptions } }

/-- A session subscribes to a URI, whatever its state. -/
def subscribe (i : Nat) (uri : String) : Host :=
  match h.sessions[i]? with
  | some s => h.withSubscriptions (h.server.subscriptions.add uri s.id)
  | none => h

/-- The session of a name is no longer subscribed to a URI. -/
def unsubscribe (uri session : String) : Host :=
  h.withSubscriptions (h.server.subscriptions.remove uri session)

/-- The subscribers of a URI that are still in use, in the order of their names. -/
def subscribers (uri : String) : List String :=
  (h.server.subscriptions.subscribers uri).keys.filter fun id =>
    h.sessions.any fun s => s.id == id && h.inUse s

/-- The session of a name can still be told something. -/
def isReachable (id : String) : Bool :=
  h.sessions.any fun s => s.id == id && s.state != .closed && s.link.isOpen

/-- The contents of a resource changed: its subscribers are told, and those that
    cannot be reached are not subscribed to it any more. -/
def resourceChanged (uri : String) : Host :=
  let h := h.withSubscriptions (h.server.subscriptions.keep uri h.isReachable)
  let notice := ResourceUpdatedNotification.shape.encode { uri }
  let told := (h.server.subscriptions.subscribers uri).keys.filterMap h.number?
  told.foldl (fun h i => (h.notify i Method.resourcesUpdated (some notice)).2) h

/-! ## Serving directly -/

/-- The registry after an operation of its own. -/
def operate {α : Type} (operation : Registry → α × Registry) : α × Host :=
  let (value, registry) := operation h.server.registry
  (value, { h with server := { h.server with registry } })

end Host

end ContextServer

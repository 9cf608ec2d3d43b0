import ContextServer.Host.Administration
import ContextServer.Host.Inbound
import ContextServer.Host.Outbound

/-!
# Runs of a host

Everything that can happen to a host is an *event*: something that a client
sends, something that the owner of the server does, something that a link meets,
or time that passes. A *run* is a finite list of events, each with a host that
the earlier ones left behind (`Host.run`), from a host on which nothing has
happened yet (`Host.start`).

Along a run, the requests that a session takes and the responses to them are its
*exchanges* (`Host.exchanges`). A session that is over takes nothing from its
link, but a request can still be put to it directly.
-/

namespace ContextServer

/-- What can happen to a host. Sessions go by their numbers. -/
inductive Event where
  /-- A client connects. -/
  | connect
  /-- A message of the client reaches its session. -/
  | deliver (i : Nat) (m : Message)
  /-- A text of the client is no message. -/
  | reject (i : Nat) (fault : ParseFault)
  /-- A request is put to a session, and the response is not sent anywhere. -/
  | answer (i : Nat) (r : Request)
  /-- A message is sent on a link. -/
  | send (i : Nat) (m : Message)
  /-- The client is asked for something. -/
  | request (i : Nat) (method : String) (params : Option Json) (waiter : Waiter)
  /-- The client is asked for its roots. -/
  | listRoots (i : Nat)
  /-- The client is asked for a completion. -/
  | createMessage (i : Nat) (r : CreateMessageRequest)
  /-- The client is told something for its log. -/
  | log (i : Nat) (message : LoggingMessageNotification)
  /-- Every live session is told something. -/
  | broadcast (method : String) (params : Option Json)
  /-- The subscribers of a resource are told of a change. -/
  | resourceChanged (uri : String)
  /-- A component is registered and nobody is told. -/
  | install (c : Component)
  /-- A component is taken out and nobody is told. -/
  | uninstall (f : Family) (key : String)
  /-- A component is registered. -/
  | addComponent (c : Component)
  /-- A component is taken out. -/
  | removeComponent (f : Family) (key : String)
  /-- A tool is called from this side. -/
  | callTool (r : CallToolRequest)
  /-- A resource is read from this side. -/
  | readResource (uri : String)
  /-- A prompt is filled in from this side. -/
  | getPrompt (r : GetPromptRequest)
  /-- The level of log messages is set from this side. -/
  | setLogLevel (i : Nat) (level : LoggingLevel)
  /-- A session is subscribed from this side. -/
  | subscribe (i : Nat) (uri : String)
  /-- A subscription is ended from this side. -/
  | unsubscribe (uri session : String)
  /-- A session is closed. -/
  | close (i : Nat) (c : Closing)
  /-- Every live session is closed. -/
  | closeAll (c : Closing)
  /-- A link is closed, whatever becomes of its session. -/
  | closeLink (i : Nat) (c : Closing)
  /-- A client goes away. -/
  | hangUp (i : Nat)
  /-- Whoever opened a session lets go of it. -/
  | release (i : Nat)
  /-- A link breaks, or works again. -/
  | setFault (i : Nat) (fault : Option TransportError)
  /-- A client reads its queue. -/
  | collect (i : Nat)
  /-- The waits that ended are looked at. -/
  | collectSettled
  /-- Time passes. -/
  | advance (milliseconds : Nat)

namespace Host

/-- A host on which nothing has happened. -/
def start (medium : Medium) (naming : Naming) (config : ServerConfig) : Host :=
  { medium, naming, server := { config } }

/-- What an event leaves behind. -/
def step (h : Host) : Event → Host
  | .connect => h.connect.2
  | .deliver i m => h.deliver i m
  | .reject i fault => (h.reject i fault).2
  | .answer i r => (h.answer i r).2
  | .send i m => (h.send i m).2
  | .request i method params waiter => (h.request i method params waiter).2
  | .listRoots i => (h.listRoots i).2
  | .createMessage i r => (h.createMessage i r).2
  | .log i message => (h.log i message).2
  | .broadcast method params => h.broadcast method params
  | .resourceChanged uri => h.resourceChanged uri
  | .install c => h.install c
  | .uninstall f key => (h.uninstall f key).2
  | .addComponent c => h.addComponent c
  | .removeComponent f key => (h.removeComponent f key).2
  | .callTool r => (h.operate (·.callTool r)).2
  | .readResource uri => (h.operate (·.readResource uri)).2
  | .getPrompt r => (h.operate (·.getPrompt r)).2
  | .setLogLevel i level => h.setLogLevel i level
  | .subscribe i uri => h.subscribe i uri
  | .unsubscribe uri session => h.unsubscribe uri session
  | .close i c => h.close i c
  | .closeAll c => h.closeAll c
  | .closeLink i c => h.closeLink i c
  | .hangUp i => h.hangUp i
  | .release i => h.release i
  | .setFault i fault => h.change i fun s => { s with link := { s.link with fault } }
  | .collect i => (h.collect i).2
  | .collectSettled => h.collectSettled.2
  | .advance milliseconds => h.advance milliseconds

/-- What a run leaves behind. -/
def run (h : Host) (es : List Event) : Host := es.foldl step h

variable (h : Host) (i : Nat)

theorem run_cons (e : Event) (es : List Event) : h.run (e :: es) = (h.step e).run es := rfl

/-- What every event of a run keeps, the run keeps. -/
theorem run_keeps {P : Host → Prop} {h : Host} {es : List Event}
    (hstep : ∀ e ∈ es, ∀ h, P h → P (step h e)) (hp : P h) : P (h.run es) :=
  List.foldlRecOn es step hp fun h hp e he => hstep e he h hp

/-! ## Exchanges -/

/-- The request that a session takes at an event. -/
def taken? : Event → Option Request
  | .deliver j (.request r) =>
    if j = i ∧ h.sessions[i]?.any (·.state ≠ .closed) then some r else none
  | .answer j r => if j = i then some r else none
  | _ => none

/-- The request that a session takes at an event, with the response to it. -/
def exchange? (e : Event) : Option (Request × Response) :=
  (h.taken? i e).bind fun r => (h.answer i r).1.map fun response => (r, response)

/-- What a session took in a run, with the responses, the oldest first. -/
def exchanges (h : Host) : List Event → List (Request × Response)
  | [] => []
  | e :: es => (h.exchange? i e).toList ++ exchanges (h.step e) es

end Host

end ContextServer

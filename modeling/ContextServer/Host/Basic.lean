import ContextServer.Server.Basic

/-!
# Hosts

A *host* is a server with its connections: the sessions that were opened, those
of them that are registered as live, and a clock. Sessions are numbered in the
order in which they were opened, and the names of sessions and of requests come
from a *naming*, in which no name occurs twice.

Everything that happens to a host is a function from hosts to hosts. This module
has what the others are built from: opening a session (`Host.connect`), sending
(`Host.send`), the end of a wait (`Host.settle`) and of a session (`Host.close`).
-/

namespace ContextServer

/-- The names of sessions and of requests to clients, in the order of their use. -/
structure Naming where
  /-- The name of a session. -/
  session : Nat → String
  /-- The name of a request. -/
  request : Nat → String
  /-- No two sessions have one name. -/
  session_injective : ∀ m n, session m = session n → m = n
  /-- No two requests have one name. -/
  request_injective : ∀ m n, request m = request n → m = n

namespace Naming

theorem numbered_injective (before after : String) {m n : Nat}
    (h : before ++ m.repr ++ after = before ++ n.repr ++ after) : m = n := by
  have h' := congrArg String.toList h
  simp only [String.toList_append, List.append_assoc, Nat.toList_repr] at h'
  have hd := List.append_cancel_right (List.append_cancel_left h')
  simpa using congrArg (fun ds => Nat.ofDigitChars 10 ds 0) hd

/-- Names that differ in a number, between a text before it and a text after it. -/
def numbered (beforeSession beforeRequest after : String) : Naming where
  session n := beforeSession ++ n.repr ++ after
  request n := beforeRequest ++ n.repr ++ after
  session_injective _ _ h := numbered_injective _ _ h
  request_injective _ _ h := numbered_injective _ _ h

end Naming

/-- The end of the wait for the answer to a request of the server. -/
structure Settlement where
  /-- The request. -/
  id : RequestId
  /-- What its caller gets. -/
  outcome : Except Failure Json

/-- A server with its connections. -/
structure Host where
  /-- What the links are carried over. -/
  medium : Medium
  /-- Where names come from. -/
  naming : Naming
  /-- The server. -/
  server : Server
  /-- The sessions, in the order in which they were opened. -/
  sessions : List Session := []
  /-- The number of every live session under its name. -/
  live : Dict Nat := ∅
  /-- How many requests were sent to clients. -/
  issued : Nat := 0
  /-- The time, in milliseconds. -/
  now : Nat := 0
  /-- The waits that ended and were not collected, the oldest first. -/
  settled : List Settlement := []

namespace Host

variable (h : Host)

/-! ## Sessions -/

/-- The session of a number replaced. -/
def put (i : Nat) (s : Session) : Host := { h with sessions := h.sessions.set i s }

/-- A change to the session of a number. -/
def change (i : Nat) (f : Session → Session) : Host :=
  match h.sessions[i]? with
  | some s => h.put i (f s)
  | none => h

/-- The number of the session of a name. -/
def number? (id : String) : Option Nat := h.sessions.findIdx? fun s => s.id == id

/-- The session is registered as live. -/
def isLive (id : String) : Bool := h.live.contains id

/-- The session is no longer registered. -/
def unregister (id : String) : Host := { h with live := h.live.erase id }

/-- The session is in use: it is live, or somebody still holds it. -/
def inUse (s : Session) : Bool := !s.isReleased || h.isLive s.id || s.isOccupied

/-- A client connects; the host has a new session with a number of its own. -/
def connect : Nat × Host :=
  let i := h.sessions.length
  let id := h.naming.session i
  (i, { h with sessions := h.sessions ++ [{ id }], live := h.live.insert id i })

/-! ## Sending -/

/-- A message to the client of a session. A link that closes over it takes the
    session out of the register. -/
def send (i : Nat) (m : Message) : Except TransportError Unit × Host :=
  match h.sessions[i]? with
  | none => (.error .closed, h)
  | some s =>
    let (outcome, link) := s.link.send h.medium.capacity? m
    let h := h.put i { s with link }
    (outcome, if link.isOpen then h else h.unregister s.id)

/-- A notification to the client of a session. -/
def notify (i : Nat) (method : String) (params : Option Json) :
    Except TransportError Unit × Host :=
  h.send i (.notification { method, params })

/-! ## Waiting -/

/-- The wait for an answer ends. -/
def settle (p : Pending) (outcome : Except Failure Json) : Host :=
  if p.waiter = .nobody then h else { h with settled := h.settled ++ [{ id := p.id, outcome }] }

/-- All these waits end in one way. -/
def settleAll (ps : List Pending) (outcome : Pending → Except Failure Json) : Host :=
  ps.foldl (fun h p => h.settle p (outcome p)) h

/-! ## Closing -/

/-- The link of a session is closed, whatever the state of the session. -/
def closeLink (i : Nat) (c : Closing) : Host :=
  match h.sessions[i]? with
  | none => h
  | some s => (h.put i { s with link := s.link.close c }).unregister s.id

/-- A session is over: its waits fail, it is subscribed to nothing, and its link
    closes. A session that is over stays as it is. -/
def close (i : Nat) (c : Closing) : Host :=
  match h.sessions[i]? with
  | none => h
  | some s =>
    if s.state = .closed then h
    else
      let server := { h.server with subscriptions := h.server.subscriptions.forget s.id }
      let h := { h.put i s.ended with server }
      (h.settleAll s.pending fun _ => .error .sessionClosed).closeLink i c

/-- Every live session is over. -/
def closeAll (c : Closing) : Host := h.live.values.foldl (fun h i => h.close i c) h

/-! ## Collecting -/

/-- What the client of a session finds in its queue. -/
def collect (i : Nat) : List Message × Host :=
  match h.sessions[i]? with
  | none => ([], h)
  | some s =>
    let (messages, link) := s.link.collect
    (messages, h.put i { s with link })

/-- The waits that ended, and the host without them. -/
def collectSettled : List Settlement × Host := (h.settled, { h with settled := [] })

end Host

end ContextServer

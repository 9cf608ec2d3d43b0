import ContextServer.Host.Basic
import ContextServer.Payload.Sampling

/-!
# Requests to clients

What a server asks of a client. A request that was sent is pending until its
response arrives, its caller gives up (`Host.advance`) or its session is over;
one that could not be sent leaves no trace. Two operations know what they ask
for: the roots of a client (`Host.listRoots`) and a completion by its model
(`Host.createMessage`). They first look whether the client offers it, and read
the answer as a record (`rootsOf`, `completionOf`).

Log messages go to a client if they are as severe as it wants them
(`Host.log`).
-/

namespace ContextServer

/-- The roots in an answer. -/
def rootsOf (answer : Except Failure Json) : Except Failure ListRootsResult := do
  decodeParams ListRootsResult.shape (some (← answer))

/-- The completion in an answer. -/
def completionOf (answer : Except Failure Json) : Except Failure CreateMessageResult := do
  decodeParams CreateMessageResult.shape (some (← answer))

/-- How long an operation of a session waits for its answer, in milliseconds. -/
def answerTimeout : Nat := 30000

namespace Host

variable (h : Host)

/-! ## Time -/

/-- A session that nobody uses any more cannot be answered: its waits fail. -/
def bury (i : Nat) : Host :=
  match h.sessions[i]? with
  | none => h
  | some s =>
    if h.inUse s then h
    else (h.put i { s with pending := [] }).settleAll s.pending fun _ => .error .sessionClosed

/-- A wait ends because its time is over, unless it has ended already. If it was the
    last thing that kept the session in use, the waits that are left fail. -/
def expireWait (i : Nat) (p : Pending) : Host :=
  match h.sessions[i]? with
  | none => h
  | some s =>
    if p ∈ s.pending then
      ((h.put i (s.dropPending p.id)).settle p (.error (.timeout p.id))).bury i
    else h

/-- The waits of a session that end by now fail, the one that ends first before the
    others, and are forgotten. -/
def expireSession (i : Nat) : Host :=
  match h.sessions[i]? with
  | none => h
  | some s => (s.late h.now).foldl (fun h p => h.expireWait i p) h

/-- The waits that end by now fail. -/
def expire : Host := (List.range h.sessions.length).foldl expireSession h

/-- Time passes. -/
def advance (milliseconds : Nat) : Host := { h with now := h.now + milliseconds }.expire

/-- The client of a session goes away. -/
def hangUp (i : Nat) : Host := h.change i fun s => { s with link := s.link.hangUp }

/-- Whoever opened a session lets go of it. -/
def release (i : Nat) : Host := (h.change i fun s => { s with isReleased := true }).bury i

/-! ## Requests -/

/-- A request to the client of a session, with somebody to wait for the answer. -/
def request (i : Nat) (method : String) (params : Option Json) (waiter : Waiter) :
    Except Failure RequestId × Host :=
  match h.sessions[i]? with
  | none => (.error .sessionClosed, h)
  | some s =>
    if s.state = .closed then (.error .sessionClosed, h)
    else
      let id : RequestId := .text (h.naming.request h.issued)
      match h.send i (.request { id, method, params }) with
      | (.error e, h) => (.error (.transport e), h)
      | (.ok (), h) =>
        let h := h.change i fun s => { s with pending := s.pending ++ [{ id, waiter }] }
        (.ok id, { h with issued := h.issued + 1 }.expire)

/-- A request of the session itself. -/
def operation (i : Nat) (method : String) (params : Option Json) :
    Except Failure RequestId × Host :=
  h.request i method params (.operation (h.now + answerTimeout))

/-- The roots of the client are asked for. -/
def listRoots (i : Nat) : Except Failure RequestId × Host :=
  match h.sessions[i]? with
  | some s =>
    if s.clientCapabilities.roots.isSome then h.operation i Method.rootsList none
    else (.error (.invalidRequest .noRoots), h)
  | none => (.error .sessionClosed, h)

/-- The client is asked for a completion. -/
def createMessage (i : Nat) (request : CreateMessageRequest) : Except Failure RequestId × Host :=
  match h.sessions[i]? with
  | some s =>
    if s.clientCapabilities.sampling.isSome then
      h.operation i Method.createMessage (some (CreateMessageRequest.shape.encode request))
    else (.error (.invalidRequest .noSampling), h)
  | none => (.error .sessionClosed, h)

/-! ## Log messages -/

/-- A log message for the client of a session. -/
def log (i : Nat) (message : LoggingMessageNotification) : Except TransportError Unit × Host :=
  match h.sessions[i]? with
  | none => (.error .closed, h)
  | some s =>
    if s.logLevel ≤ message.level then
      h.notify i Method.logMessage (some (LoggingMessageNotification.shape.encode message))
    else (.ok (), h)

end Host

end ContextServer

import ContextServer.Host.Basic

/-!
# Messages from clients

What a message does to the host it is delivered to (`Host.deliver`). A request is
answered on the link of its session. Of the notifications one moves the handshake
on and one ends the session; the others mean nothing. A response ends the wait
for it, and one that nobody waits for means nothing either. A session that is
over takes no messages.
-/

namespace ContextServer

namespace Host

variable (h : Host)

/-- The response to a request in a session; it is not sent anywhere. -/
def answer (i : Nat) (request : Request) : Option Response × Host :=
  match h.sessions[i]? with
  | none => (none, h)
  | some s =>
    let served := h.server.answer s request
    (some served.value, { h.put i served.session with server := served.server })

/-- A request is answered on the link of its session. -/
def takeRequest (i : Nat) (request : Request) : Host :=
  match h.answer i request with
  | (some response, h) => (h.send i (.response response)).2
  | (none, h) => h

/-- A notification takes its effect. -/
def takeNotification (i : Nat) (n : Notification) : Host :=
  if n.method = Method.initialized then
    h.change i fun s => { s with state := s.state.confirmed }
  else if n.method = Method.cancelled then h.close i .abrupt
  else h

/-- A response ends the wait for it. -/
def takeResponse (i : Nat) (r : Response) : Host :=
  match h.sessions[i]?, r.id with
  | some s, some id =>
    match s.pending? id with
    | some p => (h.put i (s.dropPending id)).settle p r.outcome
    | none => h
  | _, _ => h

/-- A message of the client reaches its session. -/
def deliver (i : Nat) (m : Message) : Host :=
  match h.sessions[i]? with
  | none => h
  | some s =>
    if s.state = .closed then h
    else
      match m with
      | .request r => h.takeRequest i r
      | .notification n => h.takeNotification i n
      | .response r => h.takeResponse i r

/-- The sender of a text that is no message is told so, if the text says what to
    tie the response to. -/
def reject (i : Nat) (fault : ParseFault) : Option (Except TransportError Unit) × Host :=
  match fault.answer? with
  | none => (none, h)
  | some response =>
    let (outcome, h) := h.send i (.response response)
    (some outcome, h)

/-- A text of the client reaches its session. -/
def deliverText (i : Nat) (text : String) : Host :=
  match Message.parse text with
  | .ok m => h.deliver i m
  | .error fault => (h.reject i fault).2

/-! ## A client in the same process -/

/-- A client sends a request and waits for the response to it; what its queue held
    before and what arrives in between is given up. -/
def call (i : Nat) (request : Request) : Except Failure Response × Host :=
  let (messages, h) := ((h.collect i).2.deliver i (.request request)).collect i
  match messages.dropWhile fun m => !m.isResponseTo request.id with
  | .response r :: later =>
    (.ok r, h.change i fun s => { s with link := { s.link with queue := later } })
  | _ => (.error (.transport .closed), h)

end Host

end ContextServer

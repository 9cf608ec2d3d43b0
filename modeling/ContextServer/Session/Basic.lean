import ContextServer.Link
import ContextServer.Payload.Handshake
import ContextServer.Payload.Logging

/-!
# Sessions

What a server knows of one client: how far the handshake is, who the client is,
from which level on it wants log messages, and which of the server's own requests
it has still to answer.
-/

namespace ContextServer

/-- How far the handshake is. -/
inductive SessionState where
  /-- The client has not introduced itself. -/
  | uninitialized
  /-- The introduction was answered. -/
  | initializing
  /-- The client has seen the answer. -/
  | initialized
  /-- The session is over. -/
  | closed
deriving DecidableEq, Inhabited

/-- How far along the states are, from 0. -/
def SessionState.stage : SessionState → Nat
  | .uninitialized => 0
  | .initializing => 1
  | .initialized => 2
  | .closed => 3

/-- The state after the notice that the answer was seen, which counts only when
    there was an answer to see. -/
def SessionState.confirmed : SessionState → SessionState
  | .initializing => .initialized
  | s => s

/-- What a client told in its introduction, and the version that was agreed. -/
structure Client where
  /-- Who the client is. -/
  info : Implementation
  /-- What it can do. -/
  capabilities : ClientCapabilities
  /-- The version of the protocol that both speak. -/
  version : String
deriving DecidableEq

/-- Who waits for the answer to a request of the server. -/
inductive Waiter where
  /-- Nobody: the request was sent and forgotten. -/
  | nobody
  /-- A caller that waits for ever. -/
  | patient
  /-- A caller that gives up at a time. -/
  | timed (deadline : Nat)
  /-- An operation of the session itself, which gives up at a time and keeps the
      session in use as long as it waits. -/
  | operation (deadline : Nat)
deriving DecidableEq

namespace Waiter

/-- When the waiting ends, if it does. -/
def deadline? : Waiter → Option Nat
  | .nobody | .patient => none
  | .timed t | .operation t => some t

/-- The waiting is over at a time. -/
def isLate (now : Nat) (w : Waiter) : Bool := w.deadline?.any (· ≤ now)

/-- The session stays in use. -/
def keepsSession : Waiter → Bool
  | .operation _ => true
  | .nobody | .patient | .timed _ => false

end Waiter

/-- A request of the server that the client has not answered. -/
structure Pending where
  /-- What the answer will be tied to. -/
  id : RequestId
  /-- Who waits for it. -/
  waiter : Waiter
deriving DecidableEq

namespace Pending

/-- The wait ends no later than another one; one without an end comes last. -/
def endsBy (p q : Pending) : Bool :=
  match p.waiter.deadline?, q.waiter.deadline? with
  | some t, some u => t ≤ u
  | _, none => true
  | none, some _ => false

end Pending

/-- One client's session. -/
structure Session where
  /-- The name of the session. -/
  id : String
  /-- How far the handshake is. -/
  state : SessionState := .uninitialized
  /-- The client, once it has introduced itself. -/
  client : Option Client := none
  /-- The least severe level of log messages that the client wants. -/
  logLevel : LoggingLevel := .debug
  /-- The requests of the server that are not answered, the oldest first. -/
  pending : List Pending := []
  /-- The way to the client. -/
  link : Link := {}
  /-- Whoever opened the session has let go of it. -/
  isReleased : Bool := false
deriving DecidableEq

namespace Session

/-- What the client can do; nothing before it has introduced itself. -/
def clientCapabilities (s : Session) : ClientCapabilities :=
  (s.client.map (·.capabilities)).getD {}

/-- The request of the server that an answer is tied to. -/
def pending? (s : Session) (id : RequestId) : Option Pending :=
  s.pending.find? fun p => p.id == id

/-- The session without a request of the server. -/
def dropPending (s : Session) (id : RequestId) : Session :=
  { s with pending := s.pending.filter fun p => p.id != id }

/-- The requests of the server whose waits are over at a time, in the order in which
    they end; of two that end together the older one is first. -/
def late (s : Session) (now : Nat) : List Pending :=
  (s.pending.filter fun p => p.waiter.isLate now).mergeSort Pending.endsBy

/-- The session at its end, with nothing to wait for. -/
def ended (s : Session) : Session := { s with state := .closed, pending := [] }

/-- An operation of the session itself is under way. -/
def isOccupied (s : Session) : Bool := s.pending.any fun p => p.waiter.keepsSession

end Session

end ContextServer

import ContextServer.Failure

/-!
# Links

A *link* is the way from a server to one of its clients. It takes messages in
order as long as it is open, and it never opens again. What it carries them over
is its *medium*: a queue in the same process, the output of a process, or an
event stream, whose buffer holds so many messages and no more.

* `Link.send_queue`: a message that was taken is the last one of the queue, and
  one that was refused left the queue as it was;
* `Link.send_of_closed`: nothing is taken after the end;
* `Link.send_of_room`, `Link.send_of_full`: until then, and as long as the client can be
  reached, a message is taken if there is room for it, and is the end if there is none.
-/

namespace ContextServer

/-- What the messages of a link are carried over. -/
inductive Medium where
  /-- A queue in the same process. -/
  | memory
  /-- The output of a process. -/
  | pipe
  /-- A stream of events over HTTP. -/
  | stream
deriving DecidableEq

namespace Medium

/-- How many events a stream buffers before the client counts as lost. -/
def eventBuffer : Nat := 256

/-- How many messages wait at most, if there is a bound. -/
def capacity? : Medium → Option Nat
  | .memory | .pipe => none
  | .stream => some eventBuffer

end Medium

/-- How something is closed. -/
inductive Closing where
  /-- At once; what is queued may be lost. -/
  | abrupt
  /-- After what is queued was delivered. -/
  | graceful
deriving DecidableEq

/-- The way from a server to a client. -/
structure Link where
  /-- Messages are still taken. -/
  isOpen : Bool := true
  /-- What every message meets while the other end cannot be reached. -/
  fault : Option TransportError := none
  /-- The link was closed at once: an event stream gives up what is queued. -/
  isCut : Bool := false
  /-- The messages that were taken and not collected, the oldest first. -/
  queue : List Message := []
deriving DecidableEq

namespace Link

/-- The link after its end. -/
def close (l : Link) : Closing → Link
  | .abrupt => { l with isOpen := false, isCut := true }
  | .graceful => { l with isOpen := false }

/-- The link after the client went away: nothing reaches it any more, and what waited
    is lost. -/
def hangUp (l : Link) : Link := { l with fault := some .closed, queue := [] }

/-- The bound is reached. -/
def isFull (capacity? : Option Nat) (l : Link) : Bool :=
  capacity?.any fun n => n ≤ l.queue.length

/-- A message is handed to the link. A client that lets the buffer run full is
    given up. -/
def send (capacity? : Option Nat) (l : Link) (m : Message) : Except TransportError Unit × Link :=
  if l.isOpen then
    match l.fault with
    | some e => (.error e, l)
    | none =>
      if l.isFull capacity? then
        (.error (.unavailable "event buffer full"), l.close .abrupt)
      else (.ok (), { l with queue := l.queue ++ [m] })
  else (.error .closed, l)

/-- The messages that wait, and the link without them. -/
def collect (l : Link) : List Message × Link := (l.queue, { l with queue := [] })

theorem close_queue (l : Link) (c : Closing) : (l.close c).queue = l.queue := by
  cases c <;> rfl

theorem close_isOpen (l : Link) (c : Closing) : (l.close c).isOpen = false := by
  cases c <;> rfl

theorem close_fault (l : Link) (c : Closing) : (l.close c).fault = l.fault := by
  cases c <;> rfl

theorem send_of_closed {l : Link} (h : l.isOpen = false) (capacity? : Option Nat) (m : Message) :
    l.send capacity? m = (.error .closed, l) := by
  simp [send, h]

/-- An open link without a fault takes a message for which there is room. -/
theorem send_of_room {l : Link} {capacity? : Option Nat} (ho : l.isOpen = true)
    (hf : l.fault = none) (hroom : l.isFull capacity? = false) (m : Message) :
    l.send capacity? m = (.ok (), { l with queue := l.queue ++ [m] }) := by
  simp [send, ho, hf, hroom]

/-- It gives up a client that left no room. -/
theorem send_of_full {l : Link} {capacity? : Option Nat} (ho : l.isOpen = true)
    (hf : l.fault = none) (hfull : l.isFull capacity? = true) (m : Message) :
    l.send capacity? m = (.error (.unavailable "event buffer full"), l.close .abrupt) := by
  simp [send, ho, hf, hfull]

theorem send_queue (capacity? : Option Nat) (l : Link) (m : Message) :
    (l.send capacity? m).2.queue =
      match (l.send capacity? m).1 with
      | .ok () => l.queue ++ [m]
      | .error _ => l.queue := by
  rw [send]
  split
  · split
    · rfl
    · split
      · exact close_queue l .abrupt
      · rfl
  · rfl

end Link

end ContextServer

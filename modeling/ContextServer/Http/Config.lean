import ContextServer.Http.PathPattern

/-!
# Where the HTTP service is

The address that the service listens at, and the patterns of the paths of its two
endpoints: one opens streams of events, the other takes messages. A path that
belongs to both patterns stands for one endpoint all the same
(`HttpConfig.endpoints`), unless nothing tells the patterns apart, which makes the
service impossible (`HttpConfig.isServable`).
-/

namespace ContextServer

/-- Where the service listens. -/
structure HttpConfig where
  /-- The address. -/
  host : String := "127.0.0.1"
  /-- The port at the address. -/
  port : UInt16 := 3100
  /-- The pattern of the paths that open streams of events. -/
  ssePath : String := "/sse"
  /-- The pattern of the paths that take messages. -/
  messagePath : String := "/message"
deriving DecidableEq

/-- What a path stands for. -/
inductive Endpoint where
  /-- Streams of events. -/
  | events
  /-- Messages of clients. -/
  | messages
deriving DecidableEq

namespace HttpConfig

open Http

/-- The patterns of both endpoints, unless one of them is malformed or they clash.
    Endpoints of one pattern do not: they differ in the methods that they take. -/
def patterns? (c : HttpConfig) : Option (List PathPattern.Piece × List PathPattern.Piece) := do
  let p ← PathPattern.parse? c.ssePath
  let q ← PathPattern.parse? c.messagePath
  if c.ssePath ≠ c.messagePath && PathPattern.clash p q then none else some (p, q)

/-- The service has paths to serve. -/
def isServable (c : HttpConfig) : Bool := c.patterns?.isSome

/-- What a path stands for. If it belongs to two patterns, it is for the closer one. -/
def endpoints (c : HttpConfig) (path : String) : List Endpoint :=
  match c.patterns? with
  | none => []
  | some (p, q) =>
    let isFor (own other : List PathPattern.Piece) : Bool :=
      PathPattern.accepts own path.toList &&
        !(PathPattern.accepts other path.toList && PathPattern.isCloser other own)
    (if isFor p q then [.events] else []) ++ (if isFor q p then [.messages] else [])

/-- One of the numbers that an address is written with. -/
def isOctet (text : String) : Bool :=
  text.toNat?.any fun n => n ≤ 255 && n.repr == text

/-- The host is the machine itself, whatever machine that is. -/
def isLocal (c : HttpConfig) : Bool :=
  match c.host.splitOn "." with
  | ["127", x, y, z] => [x, y, z].all isOctet
  | _ => ["localhost", "0.0.0.0", "::1", "::"].contains c.host

end HttpConfig

end ContextServer

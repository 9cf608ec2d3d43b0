import ContextServer.Message.Basic
import ContextServer.Payload.Capability

/-!
# The handshake

The records by which a client and a server introduce themselves, and the choice
of the protocol version that both speak (`negotiate`). The versions of a server
are listed oldest first, so the last one is what it would rather speak.
-/

namespace ContextServer

/-- The version of the protocol that is spoken unless others are named. -/
def latestVersion : String := "2024-11-05"

/-- The version to speak with a client that asks for `requested`: that one if it
    is supported, and the last supported one otherwise. -/
def negotiate (requested : String) (supported : List String) : String :=
  if requested ∈ supported then requested else supported.getLast?.getD latestVersion

/-- Who an end of a connection is. -/
structure Implementation where
  name : String
  version : String
deriving DecidableEq, Inhabited

/-- The fields of an introduction. -/
def Implementation.shape : Shape Implementation :=
  .record "Implementation" (.required "name" .string (.required "version" .string .nil))
    { unpack := fun i => (i.name, i.version, ())
      pack := fun (name, version, ()) => { name, version } }

/-- What a client opens a session with. -/
structure InitializeRequest where
  /-- The version the client would speak. -/
  protocolVersion : String
  /-- What the client can do. -/
  capabilities : ClientCapabilities := {}
  /-- Who the client is. -/
  clientInfo : Implementation
deriving DecidableEq

/-- The fields of the opening; absent capabilities are none. -/
def InitializeRequest.shape : Shape InitializeRequest :=
  .record "InitializeRequest"
    (.required "protocolVersion" .string
      (.withDefault "capabilities" ClientCapabilities.shape {}
        (.required "clientInfo" Implementation.shape .nil)))
    { unpack := fun r => (r.protocolVersion, r.capabilities, r.clientInfo, ())
      pack := fun (protocolVersion, capabilities, clientInfo, ()) =>
        { protocolVersion, capabilities, clientInfo } }

/-- What a server answers the opening with. -/
structure InitializeResult where
  /-- The version both will speak. -/
  protocolVersion : String
  /-- What the server can do. -/
  capabilities : ServerCapabilities
  /-- Who the server is. -/
  serverInfo : Implementation
  /-- How to use the server. -/
  instructions : Option String := none
deriving DecidableEq

/-- The fields of the answer. -/
def InitializeResult.shape : Shape InitializeResult :=
  .record "InitializeResult"
    (.required "protocolVersion" .string
      (.required "capabilities" ServerCapabilities.shape
        (.required "serverInfo" Implementation.shape
          (.optional "instructions" false .string .nil))))
    { unpack := fun r => (r.protocolVersion, r.capabilities, r.serverInfo, r.instructions, ())
      pack := fun (protocolVersion, capabilities, serverInfo, instructions, ()) =>
        { protocolVersion, capabilities, serverInfo, instructions } }

/-- The params of a listing. The cursor is read and has no effect. -/
structure PaginatedRequest where
  cursor : Option String := none
deriving DecidableEq

/-- The field of a listing. -/
def PaginatedRequest.shape : Shape PaginatedRequest :=
  .record "PaginatedRequest" (.optional "cursor" false .string .nil)
    { unpack := fun r => (r.cursor, ())
      pack := fun (cursor, ()) => { cursor } }

/-- The params of the notice that a request is not wanted any more. -/
structure CancelledNotification where
  /-- The request. -/
  requestId : RequestId
  /-- Why, in words. -/
  reason : Option String := none
deriving DecidableEq

/-- The fields of the notice. -/
def CancelledNotification.shape : Shape CancelledNotification :=
  .record "CancelledNotification"
    (.required "requestId" RequestId.shape (.optional "reason" false .string .nil))
    { unpack := fun n => (n.requestId, n.reason, ())
      pack := fun (requestId, reason, ()) => { requestId, reason } }

end ContextServer

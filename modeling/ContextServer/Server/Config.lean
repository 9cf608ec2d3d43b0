import ContextServer.Payload.Handshake

/-!
# Configuration of a server

Who a server is, what it can do, and which versions of the protocol it speaks,
oldest first. A configuration that is built up from a name always lists a
version, as an empty list of versions is not taken over.
-/

namespace ContextServer

/-- What a server tells about itself. -/
structure ServerConfig where
  /-- Who the server is. -/
  info : Implementation
  /-- What it can do. -/
  capabilities : ServerCapabilities := {}
  /-- How to use it. -/
  instructions : Option String := none
  /-- The versions it speaks, oldest first. -/
  versions : List String := [latestVersion]
deriving DecidableEq

namespace ServerConfig

/-- With other capabilities. -/
def withCapabilities (c : ServerConfig) (capabilities : ServerCapabilities) : ServerConfig :=
  { c with capabilities }

/-- With instructions. -/
def withInstructions (c : ServerConfig) (text : String) : ServerConfig :=
  { c with instructions := some text }

/-- With other versions, unless there are none. -/
def withVersions (c : ServerConfig) (versions : List String) : ServerConfig :=
  if versions.isEmpty then c else { c with versions }

/-- The answer to a client with which the server speaks `version`. -/
def initializeResult (c : ServerConfig) (version : String) : InitializeResult :=
  { protocolVersion := version, capabilities := c.capabilities, serverInfo := c.info,
    instructions := c.instructions }

end ServerConfig

end ContextServer

import ContextServer.Schema.Decode
import ContextServer.Schema.Encode

/-!
# Capabilities

What the two ends of a connection say they can do, as families of features. A
family that is absent is not supported; inside a family, a flag that is absent
counts as false.
-/

namespace ContextServer

/-! ## The client -/

/-- The client has roots to list. -/
structure RootsCapability where
  /-- The client tells when they change. -/
  listChanged : Option Bool := none
deriving DecidableEq

/-- The field of the roots family. -/
def RootsCapability.shape : Shape RootsCapability :=
  .record "RootsCapability" (.optional "listChanged" false .boolean .nil)
    { unpack := fun c => (c.listChanged, ())
      pack := fun (listChanged, ()) => { listChanged } }

/-- The client samples completions. -/
structure SamplingCapability where
deriving DecidableEq

/-- The sampling family has no fields. -/
def SamplingCapability.shape : Shape SamplingCapability :=
  .record "SamplingCapability" .nil { unpack := fun _ => (), pack := fun () => {} }

/-- What a client can do. -/
structure ClientCapabilities where
  /-- Families outside the protocol. -/
  experimental : Option (Dict Json) := none
  /-- The client has roots. -/
  roots : Option RootsCapability := none
  /-- The client samples. -/
  sampling : Option SamplingCapability := none
deriving DecidableEq

/-- The families of a client. -/
def ClientCapabilities.shape : Shape ClientCapabilities :=
  .record "ClientCapabilities"
    (.optional "experimental" false (.dict .free)
      (.optional "roots" false RootsCapability.shape
        (.optional "sampling" false SamplingCapability.shape .nil)))
    { unpack := fun c => (c.experimental, c.roots, c.sampling, ())
      pack := fun (experimental, roots, sampling, ()) => { experimental, roots, sampling } }

/-! ## The server -/

/-- The server sends log messages. -/
structure LoggingCapability where
deriving DecidableEq

/-- The logging family has no fields. -/
def LoggingCapability.shape : Shape LoggingCapability :=
  .record "LoggingCapability" .nil { unpack := fun _ => (), pack := fun () => {} }

/-- The server has prompts. -/
structure PromptsCapability where
  /-- The server tells when their list changes. -/
  listChanged : Option Bool := none
deriving DecidableEq

/-- The field of the prompts family. -/
def PromptsCapability.shape : Shape PromptsCapability :=
  .record "PromptsCapability" (.optional "listChanged" false .boolean .nil)
    { unpack := fun c => (c.listChanged, ())
      pack := fun (listChanged, ()) => { listChanged } }

/-- The server has resources. -/
structure ResourcesCapability where
  /-- The server tells subscribers when a resource changes. -/
  subscribe : Option Bool := none
  /-- The server tells when their list changes. -/
  listChanged : Option Bool := none
deriving DecidableEq

/-- The fields of the resources family. -/
def ResourcesCapability.shape : Shape ResourcesCapability :=
  .record "ResourcesCapability"
    (.optional "subscribe" false .boolean (.optional "listChanged" false .boolean .nil))
    { unpack := fun c => (c.subscribe, c.listChanged, ())
      pack := fun (subscribe, listChanged, ()) => { subscribe, listChanged } }

/-- The server has tools. -/
structure ToolsCapability where
  /-- The server tells when their list changes. -/
  listChanged : Option Bool := none
deriving DecidableEq

/-- The field of the tools family. -/
def ToolsCapability.shape : Shape ToolsCapability :=
  .record "ToolsCapability" (.optional "listChanged" false .boolean .nil)
    { unpack := fun c => (c.listChanged, ())
      pack := fun (listChanged, ()) => { listChanged } }

/-- What a server can do. -/
structure ServerCapabilities where
  /-- Families outside the protocol. -/
  experimental : Option (Dict Json) := none
  /-- The server logs. -/
  logging : Option LoggingCapability := none
  /-- The server has prompts. -/
  prompts : Option PromptsCapability := none
  /-- The server has resources. -/
  resources : Option ResourcesCapability := none
  /-- The server has tools. -/
  tools : Option ToolsCapability := none
deriving DecidableEq, Inhabited

namespace ServerCapabilities

/-- The families of a server. -/
def shape : Shape ServerCapabilities :=
  .record "ServerCapabilities"
    (.optional "experimental" false (.dict .free)
      (.optional "logging" false LoggingCapability.shape
        (.optional "prompts" false PromptsCapability.shape
          (.optional "resources" false ResourcesCapability.shape
            (.optional "tools" false ToolsCapability.shape .nil)))))
    { unpack := fun c => (c.experimental, c.logging, c.prompts, c.resources, c.tools, ())
      pack := fun (experimental, logging, prompts, resources, tools, ()) =>
        { experimental, logging, prompts, resources, tools } }

/-- The server tells when its tools change. -/
def toolsListChanged (c : ServerCapabilities) : Bool :=
  (c.tools.bind (·.listChanged)).getD false

/-- The server tells when its resources change. -/
def resourcesListChanged (c : ServerCapabilities) : Bool :=
  (c.resources.bind (·.listChanged)).getD false

/-- The server takes subscriptions to resources. -/
def resourcesSubscribe (c : ServerCapabilities) : Bool :=
  (c.resources.bind (·.subscribe)).getD false

/-- The server tells when its prompts change. -/
def promptsListChanged (c : ServerCapabilities) : Bool :=
  (c.prompts.bind (·.listChanged)).getD false

/-! ### Building up -/

/-- With tools. -/
def withTools (c : ServerCapabilities) (listChanged : Bool) : ServerCapabilities :=
  { c with tools := some { listChanged := some listChanged } }

/-- With resources. -/
def withResources (c : ServerCapabilities) (subscribe listChanged : Bool) : ServerCapabilities :=
  { c with resources := some { subscribe := some subscribe, listChanged := some listChanged } }

/-- With prompts. -/
def withPrompts (c : ServerCapabilities) (listChanged : Bool) : ServerCapabilities :=
  { c with prompts := some { listChanged := some listChanged } }

/-- With logging. -/
def withLogging (c : ServerCapabilities) : ServerCapabilities := { c with logging := some {} }

/-- With a family outside the protocol. -/
def withExperimental (c : ServerCapabilities) (name : String) (value : Json) :
    ServerCapabilities :=
  { c with experimental := some ((c.experimental.getD ∅).insert name value) }

/-- Every family of the protocol with all its flags set. -/
def full : ServerCapabilities :=
  withLogging (withPrompts (withResources (withTools {} true) true true) true)

end ServerCapabilities

end ContextServer

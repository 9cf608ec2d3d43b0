import ContextServer.Failure
import ContextServer.Payload.Prompt
import ContextServer.Payload.Resource
import ContextServer.Payload.Tool
import ContextServer.UriTemplate

/-!
# Handlers and components

A *handler* is what serves a tool, a resource, a template or a prompt. It may
remember what it was asked before, and depends on nothing else; one that does
not look at its past is a function of its input (`Handler.pure`). A *component*
is a handler with the descriptor that clients see.
-/

namespace ContextServer

/-- How a piece of work ends. -/
inductive Outcome (ε α : Type) where
  /-- With a value. -/
  | returned (a : α)
  /-- With an error that it reports. -/
  | failed (e : ε)
  /-- In the middle, with nothing to report. -/
  | crashed
deriving DecidableEq

namespace Outcome

variable {ε δ α β : Type}

/-- The value of a piece of work replaced by its image. -/
def map (f : α → β) : Outcome ε α → Outcome ε β
  | .returned a => .returned (f a)
  | .failed e => .failed e
  | .crashed => .crashed

/-- The error of a piece of work replaced by its image. -/
def mapError (f : ε → δ) : Outcome ε α → Outcome δ α
  | .returned a => .returned a
  | .failed e => .failed (f e)
  | .crashed => .crashed

/-- A piece of work that either has a value or an error. -/
def ofExcept : Except ε α → Outcome ε α
  | .ok a => .returned a
  | .error e => .failed e

end Outcome

/-- What serves one kind of input. -/
structure Handler (ι α : Type) where
  /-- The answer to an input, given the earlier inputs, the latest one first. -/
  respond : (earlier : List ι) → ι → Outcome HandlerError α
  /-- What was asked so far, the latest input first. -/
  earlier : List ι := []

namespace Handler

variable {ι α : Type}

/-- A handler that does not remember. -/
def pure (f : ι → Outcome HandlerError α) : Handler ι α := { respond := fun _ => f }

/-- The answer to an input, and the handler that remembers it. -/
def ask (h : Handler ι α) (input : ι) : Outcome HandlerError α × Handler ι α :=
  (h.respond h.earlier input, { h with earlier := input :: h.earlier })

end Handler

/-- What a template's handler is asked. -/
structure TemplateQuery where
  /-- The URI to read. -/
  uri : String
  /-- The values of the variables in it. -/
  bindings : Dict String

/-- A tool that can be called; its text becomes the only piece of content. -/
structure ToolComponent where
  descriptor : Tool
  handler : Handler Json String

/-- A resource that can be read. -/
structure ResourceComponent where
  descriptor : Resource
  handler : Handler String ResourceContents

/-- A family of resources that can be read. -/
structure TemplateComponent where
  descriptor : ResourceTemplate
  handler : Handler TemplateQuery ResourceContents

/-- A prompt that can be filled in. -/
structure PromptComponent where
  descriptor : Prompt
  handler : Handler (Dict String) String

/-- A component of any family. -/
inductive Component where
  | tool (c : ToolComponent)
  | resource (c : ResourceComponent)
  | template (c : TemplateComponent)
  | prompt (c : PromptComponent)

/-- The families of components. -/
inductive Family where
  | tools
  | resources
  | templates
  | prompts
deriving DecidableEq

namespace Component

/-- The family of a component. -/
def family : Component → Family
  | .tool _ => .tools
  | .resource _ => .resources
  | .template _ => .templates
  | .prompt _ => .prompts

/-- What a component is registered under in its family. -/
def key : Component → String
  | .tool c => c.descriptor.name
  | .resource c => c.descriptor.uri
  | .template c => c.descriptor.uriTemplate
  | .prompt c => c.descriptor.name

end Component

end ContextServer

import ContextServer.Handler

/-!
# The registry

The components of a server, a dictionary for each family. Registering under a
key replaces what was there, and lists come in the order of their keys. Calling
a tool, reading a resource and getting a prompt are operations of the registry:
the handler that is asked remembers it, and nothing else changes.
-/

namespace ContextServer

/-- The registered components. -/
structure Registry where
  tools : Dict ToolComponent := ∅
  resources : Dict ResourceComponent := ∅
  templates : Dict TemplateComponent := ∅
  prompts : Dict PromptComponent := ∅

namespace Registry

/-! ## Registering -/

/-- The registry with a component under its key. -/
def add (r : Registry) : Component → Registry
  | .tool c => { r with tools := r.tools.insert c.descriptor.name c }
  | .resource c => { r with resources := r.resources.insert c.descriptor.uri c }
  | .template c => { r with templates := r.templates.insert c.descriptor.uriTemplate c }
  | .prompt c => { r with prompts := r.prompts.insert c.descriptor.name c }

/-- A component of that family is registered under that key. -/
def has (r : Registry) : Family → (key : String) → Bool
  | .tools, key => r.tools.contains key
  | .resources, key => r.resources.contains key
  | .templates, key => r.templates.contains key
  | .prompts, key => r.prompts.contains key

/-- The registry without the component of that family and key. -/
def remove (r : Registry) : Family → (key : String) → Registry
  | .tools, key => { r with tools := r.tools.erase key }
  | .resources, key => { r with resources := r.resources.erase key }
  | .templates, key => { r with templates := r.templates.erase key }
  | .prompts, key => { r with prompts := r.prompts.erase key }

/-! ## Listing -/

/-- The tools in the order of their names. -/
def listTools (r : Registry) : List Tool := r.tools.values.map (·.descriptor)

/-- The resources in the order of their URIs. -/
def listResources (r : Registry) : List Resource := r.resources.values.map (·.descriptor)

/-- The resource templates in the order of their texts. -/
def listTemplates (r : Registry) : List ResourceTemplate :=
  r.templates.values.map (·.descriptor)

/-- The prompts in the order of their names. -/
def listPrompts (r : Registry) : List Prompt := r.prompts.values.map (·.descriptor)

/-! ## Serving -/

/-- A tool called. A tool that is not registered is a failure that the caller
    sees as content; absent arguments are an object with no members. -/
def callTool (r : Registry) (request : CallToolRequest) :
    Outcome Failure CallToolResult × Registry :=
  match r.tools.get? request.name with
  | none => (.returned .failure, r)
  | some c =>
    let (outcome, handler) := c.handler.ask (request.arguments.getD (.object []))
    ((outcome.mapError .handler).map .ofText,
      { r with tools := r.tools.insert request.name { c with handler } })

/-- The first template that the URI is an instance of, with its key and the
    values of its variables. -/
def templateFor? (r : Registry) (uri : String) :
    Option (String × TemplateComponent × Dict String) :=
  r.templates.entries.findSome? fun (key, c) =>
    (UriTemplate.match? c.descriptor.uriTemplate uri).map fun bindings => (key, c, bindings)

/-- A resource read: the one of that very URI, and else the first template that
    the URI is an instance of. Another URI has empty contents. -/
def readResource (r : Registry) (uri : String) : Outcome Failure ReadResourceResult × Registry :=
  match r.resources.get? uri with
  | some c =>
    let (outcome, handler) := c.handler.ask uri
    ((outcome.mapError .handler).map fun contents => { contents := [contents] },
      { r with resources := r.resources.insert uri { c with handler } })
  | none =>
    match r.templateFor? uri with
    | some (key, c, bindings) =>
      let (outcome, handler) := c.handler.ask { uri, bindings }
      ((outcome.mapError .handler).map fun contents => { contents := [contents] },
        { r with templates := r.templates.insert key { c with handler } })
    | none => (.returned { contents := [] }, r)

/-- The first required argument of a prompt that is not among those given. -/
def missingArgument? (prompt : Prompt) (given : Dict String) : Option String :=
  prompt.requiredArguments.find? fun name => !given.contains name

/-- A prompt filled in, as one text of the user. -/
def getPrompt (r : Registry) (request : GetPromptRequest) :
    Outcome Failure GetPromptResult × Registry :=
  match r.prompts.get? request.name with
  | none => (.failed (.invalidParams (.unknownPrompt request.name)), r)
  | some c =>
    match missingArgument? c.descriptor request.arguments with
    | some name => (.failed (.invalidParams (.missingArgument name)), r)
    | none =>
      let (outcome, handler) := c.handler.ask request.arguments
      ((outcome.mapError .handler).map fun text =>
        { description := c.descriptor.description
          messages := [{ role := .user, content := .ofText text }] },
        { r with prompts := r.prompts.insert request.name { c with handler } })

end Registry

end ContextServer

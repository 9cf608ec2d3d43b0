import ContextServer.Payload.Content

/-!
# Tools

The descriptor of a tool, the records of a call, and the steps that build a
descriptor whose input schema is an object schema (`ToolBuilder`).
-/

namespace ContextServer

/-- What clients learn about a tool. -/
structure Tool where
  name : String
  description : Option String := none
  /-- A schema of the arguments. -/
  inputSchema : Json
deriving DecidableEq

/-- The fields of a descriptor. -/
def Tool.shape : Shape Tool :=
  .record "Tool"
    (.required "name" .string (.optional "description" false .string
      (.required "inputSchema" .free .nil)))
    { unpack := fun t => (t.name, t.description, t.inputSchema, ())
      pack := fun (name, description, inputSchema, ()) => { name, description, inputSchema } }

/-! ## Building a descriptor -/

/-- A descriptor in the making. -/
structure ToolBuilder where
  name : String
  description : Option String := none
  /-- The schemas of the properties declared so far. -/
  properties : Dict Json := ∅
  /-- The names declared as required, one for each such declaration. -/
  required : List String := []

namespace ToolBuilder

/-- One step of the making. -/
inductive Step where
  | description (text : String)
  /-- A property of a primitive type. -/
  | property (name kind description : String) (required : Bool)
  /-- A property with any schema. -/
  | schemaProperty (name : String) (schema : Json) (required : Bool)

/-- The schema of a property of a primitive type. -/
def primitive (kind description : String) : Json :=
  .object [("description", .string description), ("type", .string kind)]

/-- A property declared; its schema replaces an earlier one of that name. -/
def declare (b : ToolBuilder) (name : String) (schema : Json) (required : Bool) : ToolBuilder :=
  { b with
    properties := b.properties.insert name schema
    required := if required then b.required ++ [name] else b.required }

/-- The descriptor in the making after one more step. -/
def step (b : ToolBuilder) : Step → ToolBuilder
  | .description text => { b with description := some text }
  | .property name kind description required =>
    b.declare name (primitive kind description) required
  | .schemaProperty name schema required => b.declare name schema required

/-- The object schema of the properties; `required` stands in it only if it
    names something. -/
def schema (b : ToolBuilder) : Json :=
  .object
    (("properties", .object b.properties.entries) ::
      ((if b.required.isEmpty then [] else [("required", .array (b.required.map .string))]) ++
        [("type", .string "object")]))

/-- The descriptor. -/
def build (b : ToolBuilder) : Tool :=
  { name := b.name, description := b.description, inputSchema := b.schema }

end ToolBuilder

/-- The descriptor that the steps make. -/
def Tool.ofSteps (name : String) (steps : List ToolBuilder.Step) : Tool :=
  (steps.foldl ToolBuilder.step { name }).build

/-! ## Records -/

/-- The tools of a server. -/
structure ListToolsResult where
  tools : List Tool
  nextCursor : Option String := none
deriving DecidableEq

/-- The fields of a listing of tools. -/
def ListToolsResult.shape : Shape ListToolsResult :=
  .record "ListToolsResult"
    (.required "tools" (.list Tool.shape) (.optional "nextCursor" false .string .nil))
    { unpack := fun r => (r.tools, r.nextCursor, ())
      pack := fun (tools, nextCursor, ()) => { tools, nextCursor } }

/-- The params of a call. -/
structure CallToolRequest where
  name : String
  arguments : Option Json := none
deriving DecidableEq

/-- The fields of a call. -/
def CallToolRequest.shape : Shape CallToolRequest :=
  .record "CallToolRequest"
    (.required "name" .string (.optional "arguments" false .free .nil))
    { unpack := fun r => (r.name, r.arguments, ())
      pack := fun (name, arguments, ()) => { name, arguments } }

/-- What a call returns. -/
structure CallToolResult where
  content : List Content
  /-- The call failed in a way that the caller should see as content. -/
  isError : Bool := false
deriving DecidableEq

namespace CallToolResult

/-- The fields of what a call returns; the flag is written even if it is false. -/
def shape : Shape CallToolResult :=
  .record "CallToolResult"
    (.required "content" (.list Content.shape)
      (.withDefault "isError" .boolean false .nil))
    { unpack := fun r => (r.content, r.isError, ())
      pack := fun (content, isError, ()) => { content, isError } }

/-- One text. -/
def ofText (text : String) : CallToolResult := { content := [.ofText text] }

/-- No content, flagged as a failure. -/
def failure : CallToolResult := { content := [], isError := true }

end CallToolResult

end ContextServer

import ContextServer.Payload.Content

/-!
# Prompts

The descriptor of a prompt with its arguments, and the records that list prompts
and get one filled in.
-/

namespace ContextServer

/-- An argument of a prompt. -/
structure PromptArgument where
  name : String
  description : Option String := none
  /-- The caller must supply it. -/
  required : Bool := false
deriving DecidableEq

/-- The fields of an argument; the flag is written even if it is false. -/
def PromptArgument.shape : Shape PromptArgument :=
  .record "PromptArgument"
    (.required "name" .string (.optional "description" false .string
      (.withDefault "required" .boolean false .nil)))
    { unpack := fun a => (a.name, a.description, a.required, ())
      pack := fun (name, description, required, ()) => { name, description, required } }

/-- What clients learn about a prompt. -/
structure Prompt where
  name : String
  description : Option String := none
  arguments : List PromptArgument := []
deriving DecidableEq

namespace Prompt

/-- The fields of a descriptor; no arguments are not written. -/
def shape : Shape Prompt :=
  .record "Prompt"
    (.required "name" .string (.optional "description" false .string
      (.defaulted "arguments" (.list PromptArgument.shape) [] List.isEmpty
        (fun _ h => List.isEmpty_iff.1 h) .nil)))
    { unpack := fun p => (p.name, p.description, p.arguments, ())
      pack := fun (name, description, arguments, ()) => { name, description, arguments } }

/-- The names of the arguments that the caller must supply. -/
def requiredArguments (p : Prompt) : List String :=
  (p.arguments.filter (·.required)).map (·.name)

/-- With a description. -/
def withDescription (p : Prompt) (text : String) : Prompt := { p with description := some text }

/-- With one more argument. -/
def withArgument (p : Prompt) (name description : String) (required : Bool) : Prompt :=
  { p with arguments := p.arguments ++ [{ name, description := some description, required }] }

end Prompt

/-- One message of a prompt that was filled in. -/
structure PromptMessage where
  role : Role
  content : Content
deriving DecidableEq

/-- The fields of a message. -/
def PromptMessage.shape : Shape PromptMessage :=
  .record "PromptMessage" (.required "role" Role.shape (.required "content" Content.shape .nil))
    { unpack := fun m => (m.role, m.content, ())
      pack := fun (role, content, ()) => { role, content } }

/-- The prompts of a server. -/
structure ListPromptsResult where
  prompts : List Prompt
  nextCursor : Option String := none
deriving DecidableEq

/-- The fields of a listing of prompts. -/
def ListPromptsResult.shape : Shape ListPromptsResult :=
  .record "ListPromptsResult"
    (.required "prompts" (.list Prompt.shape) (.optional "nextCursor" false .string .nil))
    { unpack := fun r => (r.prompts, r.nextCursor, ())
      pack := fun (prompts, nextCursor, ()) => { prompts, nextCursor } }

/-- The params of a filling in. -/
structure GetPromptRequest where
  name : String
  arguments : Dict String := ∅
deriving DecidableEq

/-- The fields of a filling in. -/
def GetPromptRequest.shape : Shape GetPromptRequest :=
  .record "GetPromptRequest"
    (.required "name" .string
      (.withDefault "arguments" (.dict .string) ∅ .nil))
    { unpack := fun r => (r.name, r.arguments, ())
      pack := fun (name, arguments, ()) => { name, arguments } }

/-- A prompt that was filled in. -/
structure GetPromptResult where
  description : Option String := none
  messages : List PromptMessage
deriving DecidableEq

/-- The fields of a prompt that was filled in. -/
def GetPromptResult.shape : Shape GetPromptResult :=
  .record "GetPromptResult"
    (.optional "description" false .string
      (.required "messages" (.list PromptMessage.shape) .nil))
    { unpack := fun r => (r.description, r.messages, ())
      pack := fun (description, messages, ()) => { description, messages } }

end ContextServer

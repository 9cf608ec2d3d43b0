import ContextServer.Payload.Content

/-!
# Roots and sampling

The records of what a server asks of a client: the roots of its files, and a
completion sampled from its language model.
-/

namespace ContextServer

/-- A root of the client's files. -/
structure Root where
  uri : String
  name : Option String := none
deriving DecidableEq

/-- The fields of a root. -/
def Root.shape : Shape Root :=
  .record "Root" (.required "uri" .string (.optional "name" false .string .nil))
    { unpack := fun r => (r.uri, r.name, ())
      pack := fun (uri, name, ()) => { uri, name } }

/-- The roots of a client. -/
structure ListRootsResult where
  roots : List Root
deriving DecidableEq

/-- The field of a listing of roots. -/
def ListRootsResult.shape : Shape ListRootsResult :=
  .record "ListRootsResult" (.required "roots" (.list Root.shape) .nil)
    { unpack := fun r => (r.roots, ())
      pack := fun (roots, ()) => { roots } }

/-- One message of the conversation to complete. -/
structure SamplingMessage where
  role : Role
  content : Content
deriving DecidableEq

/-- The fields of a message to complete. -/
def SamplingMessage.shape : Shape SamplingMessage :=
  .record "SamplingMessage" (.required "role" Role.shape (.required "content" Content.shape .nil))
    { unpack := fun m => (m.role, m.content, ())
      pack := fun (role, content, ()) => { role, content } }

/-- The params of a sampling. -/
structure CreateMessageRequest where
  messages : List SamplingMessage
  modelPreferences : Option Json := none
  systemPrompt : Option String := none
  includeContext : Option String := none
  temperature : Option Double := none
  maxTokens : UInt32
  stopSequences : Option (List String) := none
  metadata : Option Json := none
deriving DecidableEq

/-- The fields of a sampling. -/
def CreateMessageRequest.shape : Shape CreateMessageRequest :=
  .record "CreateMessageRequest"
    (.required "messages" (.list SamplingMessage.shape)
      (.optional "modelPreferences" false .free
        (.optional "systemPrompt" false .string
          (.optional "includeContext" false .string
            (.optional "temperature" false .double
              (.required "maxTokens" .uint32
                (.optional "stopSequences" false (.list .string)
                  (.optional "metadata" false .free .nil))))))))
    { unpack := fun r =>
        (r.messages, r.modelPreferences, r.systemPrompt, r.includeContext, r.temperature,
          r.maxTokens, r.stopSequences, r.metadata, ())
      pack := fun (messages, modelPreferences, systemPrompt, includeContext, temperature,
          maxTokens, stopSequences, metadata, ()) =>
        { messages, modelPreferences, systemPrompt, includeContext, temperature, maxTokens,
          stopSequences, metadata } }

/-- A sampled completion. -/
structure CreateMessageResult where
  role : Role
  content : Content
  model : String
  stopReason : Option String := none
deriving DecidableEq

/-- The fields of a sampled completion. -/
def CreateMessageResult.shape : Shape CreateMessageResult :=
  .record "CreateMessageResult"
    (.required "role" Role.shape (.required "content" Content.shape
      (.required "model" .string (.optional "stopReason" false .string .nil))))
    { unpack := fun r => (r.role, r.content, r.model, r.stopReason, ())
      pack := fun (role, content, model, stopReason, ()) => { role, content, model, stopReason } }

end ContextServer

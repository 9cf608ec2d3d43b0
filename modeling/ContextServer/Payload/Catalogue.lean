import ContextServer.Payload.Handshake
import ContextServer.Payload.Logging
import ContextServer.Payload.Prompt
import ContextServer.Payload.Resource
import ContextServer.Payload.Sampling
import ContextServer.Payload.Tool

/-!
# The records of the protocol

All the records that travel as the params or the result of a message, under the
names that messages about them use, and the records of the messages themselves.
-/

namespace ContextServer

/-- A record type with its name. -/
structure RecordType where
  /-- The type of the records. -/
  Carrier : Type
  /-- The name. -/
  name : String
  /-- How the records are written. -/
  shape : Shape Carrier

namespace RecordType

/-- The records in the params and the results of messages. -/
def payloads : List RecordType := [
  ⟨_, "Implementation", Implementation.shape⟩,
  ⟨_, "ClientCapabilities", ClientCapabilities.shape⟩,
  ⟨_, "RootsCapability", RootsCapability.shape⟩,
  ⟨_, "SamplingCapability", SamplingCapability.shape⟩,
  ⟨_, "InitializeRequest", InitializeRequest.shape⟩,
  ⟨_, "InitializeResult", InitializeResult.shape⟩,
  ⟨_, "ServerCapabilities", ServerCapabilities.shape⟩,
  ⟨_, "LoggingCapability", LoggingCapability.shape⟩,
  ⟨_, "PromptsCapability", PromptsCapability.shape⟩,
  ⟨_, "ResourcesCapability", ResourcesCapability.shape⟩,
  ⟨_, "ToolsCapability", ToolsCapability.shape⟩,
  ⟨_, "PaginatedRequest", PaginatedRequest.shape⟩,
  ⟨_, "CancelledNotification", CancelledNotification.shape⟩,
  ⟨_, "Role", Role.shape⟩,
  ⟨_, "Annotations", Annotations.shape⟩,
  ⟨_, "Content", Content.shape⟩,
  ⟨_, "TextContent", TextContent.shape⟩,
  ⟨_, "ImageContent", ImageContent.shape⟩,
  ⟨_, "EmbeddedResource", EmbeddedResource.shape⟩,
  ⟨_, "Tool", Tool.shape⟩,
  ⟨_, "ListToolsResult", ListToolsResult.shape⟩,
  ⟨_, "CallToolRequest", CallToolRequest.shape⟩,
  ⟨_, "CallToolResult", CallToolResult.shape⟩,
  ⟨_, "Resource", Resource.shape⟩,
  ⟨_, "ResourceTemplate", ResourceTemplate.shape⟩,
  ⟨_, "ResourceContents", ResourceContents.shape⟩,
  ⟨_, "TextResourceContents", TextResourceContents.shape⟩,
  ⟨_, "BlobResourceContents", BlobResourceContents.shape⟩,
  ⟨_, "ListResourcesResult", ListResourcesResult.shape⟩,
  ⟨_, "ListResourceTemplatesResult", ListResourceTemplatesResult.shape⟩,
  ⟨_, "ReadResourceRequest", ReadResourceRequest.shape⟩,
  ⟨_, "ReadResourceResult", ReadResourceResult.shape⟩,
  ⟨_, "SubscribeRequest", SubscribeRequest.shape⟩,
  ⟨_, "UnsubscribeRequest", UnsubscribeRequest.shape⟩,
  ⟨_, "ResourceUpdatedNotification", ResourceUpdatedNotification.shape⟩,
  ⟨_, "Prompt", Prompt.shape⟩,
  ⟨_, "PromptArgument", PromptArgument.shape⟩,
  ⟨_, "PromptMessage", PromptMessage.shape⟩,
  ⟨_, "ListPromptsResult", ListPromptsResult.shape⟩,
  ⟨_, "GetPromptRequest", GetPromptRequest.shape⟩,
  ⟨_, "GetPromptResult", GetPromptResult.shape⟩,
  ⟨_, "LoggingLevel", LoggingLevel.shape⟩,
  ⟨_, "SetLevelRequest", SetLevelRequest.shape⟩,
  ⟨_, "LoggingMessageNotification", LoggingMessageNotification.shape⟩,
  ⟨_, "Root", Root.shape⟩,
  ⟨_, "ListRootsResult", ListRootsResult.shape⟩,
  ⟨_, "SamplingMessage", SamplingMessage.shape⟩,
  ⟨_, "CreateMessageRequest", CreateMessageRequest.shape⟩,
  ⟨_, "CreateMessageResult", CreateMessageResult.shape⟩]

/-- The records that messages are made of. -/
def envelopes : List RecordType := [
  ⟨_, "RequestId", RequestId.shape⟩,
  ⟨_, "JsonRpcRequest", Request.shape⟩,
  ⟨_, "JsonRpcNotification", Notification.shape⟩,
  ⟨_, "JsonRpcResponse", Response.shape⟩,
  ⟨_, "JsonRpcError", ErrorObject.shape⟩]

/-- The record type of that name. -/
def find? (name : String) : Option RecordType :=
  (payloads ++ envelopes).find? fun t => t.name == name

end RecordType

end ContextServer

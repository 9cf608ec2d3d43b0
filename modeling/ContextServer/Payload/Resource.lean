import ContextServer.Payload.Content

/-!
# Resources

The descriptors of resources, which have one fixed URI, and of resource
templates, which stand for a family of URIs, with the records that list them,
read them and subscribe to them.
-/

namespace ContextServer

/-- What clients learn about a resource. -/
structure Resource where
  uri : String
  name : String
  description : Option String := none
  mimeType : Option String := none
  annotations : Option Annotations := none
deriving DecidableEq

namespace Resource

/-- The fields of a resource descriptor. -/
def shape : Shape Resource :=
  .record "Resource"
    (.required "uri" .string (.required "name" .string (.optional "description" false .string
      (.optional "mimeType" false .string (.optional "annotations" false Annotations.shape .nil)))))
    { unpack := fun r => (r.uri, r.name, r.description, r.mimeType, r.annotations, ())
      pack := fun (uri, name, description, mimeType, annotations, ()) =>
        { uri, name, description, mimeType, annotations } }

/-- With a description. -/
def withDescription (r : Resource) (text : String) : Resource :=
  { r with description := some text }

/-- With a type of its content. -/
def withMimeType (r : Resource) (mimeType : String) : Resource :=
  { r with mimeType := some mimeType }

end Resource

/-- What clients learn about a resource template. -/
structure ResourceTemplate where
  uriTemplate : String
  name : String
  description : Option String := none
  mimeType : Option String := none
  annotations : Option Annotations := none
deriving DecidableEq

namespace ResourceTemplate

/-- The fields of a template descriptor. -/
def shape : Shape ResourceTemplate :=
  .record "ResourceTemplate"
    (.required "uriTemplate" .string (.required "name" .string
      (.optional "description" false .string (.optional "mimeType" false .string
        (.optional "annotations" false Annotations.shape .nil)))))
    { unpack := fun r => (r.uriTemplate, r.name, r.description, r.mimeType, r.annotations, ())
      pack := fun (uriTemplate, name, description, mimeType, annotations, ()) =>
        { uriTemplate, name, description, mimeType, annotations } }

/-- With a description. -/
def withDescription (t : ResourceTemplate) (text : String) : ResourceTemplate :=
  { t with description := some text }

/-- With a type of the contents. -/
def withMimeType (t : ResourceTemplate) (mimeType : String) : ResourceTemplate :=
  { t with mimeType := some mimeType }

end ResourceTemplate

/-- The resources of a server. -/
structure ListResourcesResult where
  resources : List Resource
  nextCursor : Option String := none
deriving DecidableEq

/-- The fields of a listing of resources. -/
def ListResourcesResult.shape : Shape ListResourcesResult :=
  .record "ListResourcesResult"
    (.required "resources" (.list Resource.shape) (.optional "nextCursor" false .string .nil))
    { unpack := fun r => (r.resources, r.nextCursor, ())
      pack := fun (resources, nextCursor, ()) => { resources, nextCursor } }

/-- The resource templates of a server. -/
structure ListResourceTemplatesResult where
  resourceTemplates : List ResourceTemplate
  nextCursor : Option String := none
deriving DecidableEq

/-- The fields of a listing of templates. -/
def ListResourceTemplatesResult.shape : Shape ListResourceTemplatesResult :=
  .record "ListResourceTemplatesResult"
    (.required "resourceTemplates" (.list ResourceTemplate.shape)
      (.optional "nextCursor" false .string .nil))
    { unpack := fun r => (r.resourceTemplates, r.nextCursor, ())
      pack := fun (resourceTemplates, nextCursor, ()) => { resourceTemplates, nextCursor } }

/-- The params of a reading. -/
structure ReadResourceRequest where
  uri : String
deriving DecidableEq

/-- The field of a reading. -/
def ReadResourceRequest.shape : Shape ReadResourceRequest :=
  .record "ReadResourceRequest" (.required "uri" .string .nil)
    { unpack := fun r => (r.uri, ())
      pack := fun (uri, ()) => { uri } }

/-- What a reading returns. -/
structure ReadResourceResult where
  contents : List ResourceContents
deriving DecidableEq

/-- The field of what a reading returns. -/
def ReadResourceResult.shape : Shape ReadResourceResult :=
  .record "ReadResourceResult" (.required "contents" (.list ResourceContents.shape) .nil)
    { unpack := fun r => (r.contents, ())
      pack := fun (contents, ()) => { contents } }

/-- The params of a subscription. -/
structure SubscribeRequest where
  uri : String
deriving DecidableEq

/-- The field of a subscription. -/
def SubscribeRequest.shape : Shape SubscribeRequest :=
  .record "SubscribeRequest" (.required "uri" .string .nil)
    { unpack := fun r => (r.uri, ())
      pack := fun (uri, ()) => { uri } }

/-- The params of the end of a subscription. -/
structure UnsubscribeRequest where
  uri : String
deriving DecidableEq

/-- The field of the end of a subscription. -/
def UnsubscribeRequest.shape : Shape UnsubscribeRequest :=
  .record "UnsubscribeRequest" (.required "uri" .string .nil)
    { unpack := fun r => (r.uri, ())
      pack := fun (uri, ()) => { uri } }

/-- The params of the notice that a resource changed. -/
structure ResourceUpdatedNotification where
  uri : String
deriving DecidableEq

/-- The field of the notice. -/
def ResourceUpdatedNotification.shape : Shape ResourceUpdatedNotification :=
  .record "ResourceUpdatedNotification" (.required "uri" .string .nil)
    { unpack := fun n => (n.uri, ())
      pack := fun (uri, ()) => { uri } }

end ContextServer

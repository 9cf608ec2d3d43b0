import ContextServer.Schema.Decode
import ContextServer.Schema.Encode

/-!
# Content

The pieces that tools and prompts return, and the bodies of resources. A piece
of content names its kind in the member `type`; the body of a resource is a text
or a blob by the member it has.
-/

namespace ContextServer

/-- Who speaks. -/
inductive Role where
  | user
  | assistant
deriving DecidableEq

/-- The names of the roles. -/
def Role.names : Choice Role where
  variants := [("user", .user), ("assistant", .assistant)]
  name
    | .user => "user"
    | .assistant => "assistant"
  lookup_name := by intro r; cases r <;> decide

/-- A role is written by its name. -/
def Role.shape : Shape Role := .choice names

/-- Hints on the use of a piece. -/
structure Annotations where
  /-- Whom the piece is meant for. -/
  audience : Option (List Role) := none
  /-- How much it matters. -/
  priority : Option Double := none
deriving DecidableEq

/-- The fields of the hints. -/
def Annotations.shape : Shape Annotations :=
  .record "Annotations"
    (.optional "audience" false (.list Role.shape) (.optional "priority" false .double .nil))
    { unpack := fun a => (a.audience, a.priority, ())
      pack := fun (audience, priority, ()) => { audience, priority } }

/-! ## Bodies of resources -/

/-- A body that is a text. -/
structure TextResourceContents where
  uri : String
  mimeType : Option String := none
  text : String
deriving DecidableEq

/-- The fields of a text body. -/
def TextResourceContents.shape : Shape TextResourceContents :=
  .record "TextResourceContents"
    (.required "uri" .string (.optional "mimeType" false .string (.required "text" .string .nil)))
    { unpack := fun c => (c.uri, c.mimeType, c.text, ())
      pack := fun (uri, mimeType, text, ()) => { uri, mimeType, text } }

/-- A body that is not a text, in base64. -/
structure BlobResourceContents where
  uri : String
  mimeType : Option String := none
  blob : String
deriving DecidableEq

/-- The fields of a blob body. -/
def BlobResourceContents.shape : Shape BlobResourceContents :=
  .record "BlobResourceContents"
    (.required "uri" .string (.optional "mimeType" false .string (.required "blob" .string .nil)))
    { unpack := fun c => (c.uri, c.mimeType, c.blob, ())
      pack := fun (uri, mimeType, blob, ()) => { uri, mimeType, blob } }

/-- The body of a resource. -/
inductive ResourceContents where
  | text (c : TextResourceContents)
  | blob (c : BlobResourceContents)
deriving DecidableEq

namespace ResourceContents

/-- A body that could be either is a text. -/
def shape : Shape ResourceContents :=
  .union "ResourceContents"
    (.cons "text" TextResourceContents.shape (.cons "blob" BlobResourceContents.shape .nil))
    { unpack := fun
        | .text c => .inl c
        | .blob c => .inr (.inl c)
      pack := fun
        | .inl c => .text c
        | .inr (.inl c) => .blob c
      pack_unpack := by intro c; cases c <;> rfl
      unpack_pack := by rintro (_ | _ | ⟨⟨⟩⟩) <;> rfl }

/-- What the body is the body of. -/
def uri : ResourceContents → String
  | .text c => c.uri
  | .blob c => c.uri

end ResourceContents

/-! ## Pieces of content -/

/-- A text. -/
structure TextContent where
  text : String
  annotations : Option Annotations := none
deriving DecidableEq

/-- The fields of a text. -/
def TextContent.shape : Shape TextContent :=
  .record "TextContent"
    (.required "text" .string (.optional "annotations" false Annotations.shape .nil))
    { unpack := fun c => (c.text, c.annotations, ())
      pack := fun (text, annotations, ()) => { text, annotations } }

/-- An image, in base64. -/
structure ImageContent where
  data : String
  mimeType : String
  annotations : Option Annotations := none
deriving DecidableEq

/-- The fields of an image. -/
def ImageContent.shape : Shape ImageContent :=
  .record "ImageContent"
    (.required "data" .string (.required "mimeType" .string
      (.optional "annotations" false Annotations.shape .nil)))
    { unpack := fun c => (c.data, c.mimeType, c.annotations, ())
      pack := fun (data, mimeType, annotations, ()) => { data, mimeType, annotations } }

/-- The body of a resource as a piece of content. -/
structure EmbeddedResource where
  resource : ResourceContents
  annotations : Option Annotations := none
deriving DecidableEq

/-- The fields of an embedded body. -/
def EmbeddedResource.shape : Shape EmbeddedResource :=
  .record "EmbeddedResource"
    (.required "resource" ResourceContents.shape
      (.optional "annotations" false Annotations.shape .nil))
    { unpack := fun c => (c.resource, c.annotations, ())
      pack := fun (resource, annotations, ()) => { resource, annotations } }

/-- A piece of content. -/
inductive Content where
  | text (c : TextContent)
  | image (c : ImageContent)
  | resource (c : EmbeddedResource)
deriving DecidableEq

namespace Content

/-- The member `type` tells the kinds apart. -/
def shape : Shape Content :=
  .tagged "Content" "type"
    (.cons "text" TextContent.shape (.cons "image" ImageContent.shape
      (.cons "resource" EmbeddedResource.shape .nil)))
    { unpack := fun
        | .text c => .inl c
        | .image c => .inr (.inl c)
        | .resource c => .inr (.inr (.inl c))
      pack := fun
        | .inl c => .text c
        | .inr (.inl c) => .image c
        | .inr (.inr (.inl c)) => .resource c
      pack_unpack := by intro c; cases c <;> rfl
      unpack_pack := by rintro (_ | _ | _ | ⟨⟨⟩⟩) <;> rfl }

/-- A text without hints. -/
def ofText (text : String) : Content := .text { text }

/-- An image without hints. -/
def ofImage (data mimeType : String) : Content := .image { data, mimeType }

/-- An embedded body without hints. -/
def ofResource (resource : ResourceContents) : Content := .resource { resource }

/-- The text, of a text. -/
def asText? : Content → Option String
  | .text c => some c.text
  | _ => none

end Content

end ContextServer

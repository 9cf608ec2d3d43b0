import ContextServer.Schema.Decode
import ContextServer.Schema.Encode
import ContextServer.Text.Framing

/-!
# Messages

What the two ends of a connection exchange: *requests*, which carry an
identifier and want an answer, *notifications*, which want none, and
*responses*, which carry the identifier of the request they answer. The wire
form of a message is one line of compact JSON (`Message.line`).
-/

namespace ContextServer

/-- The version of the message format, in every message. -/
def formatVersion : String := "2.0"

/-- The token that ties a response to its request. -/
inductive RequestId where
  | number (n : Int64)
  | text (s : String)
deriving DecidableEq, Inhabited

namespace RequestId

/-- A request identifier is written bare: an integer or a string. -/
def shape : Shape RequestId :=
  .union "RequestId" (.cons "number" .int64 (.cons "text" .string .nil))
    { unpack := fun
        | .number n => .inl n
        | .text s => .inr (.inl s)
      pack := fun
        | .inl n => .number n
        | .inr (.inl s) => .text s
      pack_unpack := by intro i; cases i <;> rfl
      unpack_pack := by rintro (_ | _ | ⟨⟨⟩⟩) <;> rfl }

/-- The identifier that a value is, if it is one. -/
def ofJson? : Json → Option RequestId
  | .string s => some (.text s)
  | .number (.integer n) => n.toInt64?.map .number
  | _ => none

/-- The identifier as it stands in a message for people. -/
def display : RequestId → String
  | .number n => String.ofList (Json.writeInt n.toInt)
  | .text s => s

end RequestId

/-- What went wrong with a request, as its sender is told. -/
structure ErrorObject where
  /-- The number that tells errors apart. -/
  code : Int32
  /-- The words for people. -/
  message : String
  /-- Anything else that the sender may use. -/
  data : Option Json := none
deriving DecidableEq

namespace ErrorObject

/-- The fields of an error object. -/
def shape : Shape ErrorObject :=
  .record "JsonRpcError"
    (.required "code" .int32 (.required "message" .string (.optional "data" false .free .nil)))
    { unpack := fun e => (e.code, e.message, e.data, ())
      pack := fun (code, message, data, ()) => { code, message, data } }

/-- The error in one line for people. -/
def display (e : ErrorObject) : String :=
  "[" ++ String.ofList (Json.writeInt e.code.toInt) ++ "] " ++ e.message

end ErrorObject

/-- A message that wants an answer. -/
structure Request where
  /-- The version of the message format. -/
  version : String := formatVersion
  /-- What the answer will be tied to. -/
  id : RequestId
  /-- The operation. -/
  method : String
  /-- What the operation is given. -/
  params : Option Json := none
deriving DecidableEq

/-- The fields of a request. -/
def Request.shape : Shape Request :=
  .record "JsonRpcRequest"
    (.required "jsonrpc" .string (.required "id" RequestId.shape (.required "method" .string
      (.optional "params" false .free .nil))))
    { unpack := fun r => (r.version, r.id, r.method, r.params, ())
      pack := fun (version, id, method, params, ()) => { version, id, method, params } }

/-- A message that wants no answer. -/
structure Notification where
  /-- The version of the message format. -/
  version : String := formatVersion
  /-- The event. -/
  method : String
  /-- What is told about it. -/
  params : Option Json := none
deriving DecidableEq

/-- The fields of a notification. -/
def Notification.shape : Shape Notification :=
  .record "JsonRpcNotification"
    (.required "jsonrpc" .string (.required "method" .string
      (.optional "params" false .free .nil)))
    { unpack := fun n => (n.version, n.method, n.params, ())
      pack := fun (version, method, params, ()) => { version, method, params } }

/-- The answer to a request. -/
structure Response where
  /-- The version of the message format. -/
  version : String := formatVersion
  /-- The identifier of the request; none if it is not known. -/
  id : Option RequestId
  /-- What the operation returned. -/
  result : Option Json := none
  /-- What went wrong. -/
  error : Option ErrorObject := none
deriving DecidableEq

namespace Response

/-- The fields of a response; an unknown identifier is written as null. -/
def shape : Shape Response :=
  .record "JsonRpcResponse"
    (.required "jsonrpc" .string (.optional "id" true RequestId.shape
      (.optional "result" false .free (.optional "error" false ErrorObject.shape .nil))))
    { unpack := fun r => (r.version, r.id, r.result, r.error, ())
      pack := fun (version, id, result, error, ()) => { version, id, result, error } }

/-- The answer of an operation that returned. -/
def success (id : Option RequestId) (result : Json) : Response :=
  { id, result := some result }

/-- The answer of an operation that failed. -/
def failure (id : Option RequestId) (error : ErrorObject) : Response :=
  { id, error := some error }

/-- The response carries an error. -/
def isError (r : Response) : Bool := r.error.isSome

end Response

/-- A message of one of the three kinds. -/
inductive Message where
  | request (r : Request)
  | notification (n : Notification)
  | response (r : Response)
deriving DecidableEq

namespace Message

/-- The operation or event, if the message has one. -/
def method? : Message → Option String
  | .request r => some r.method
  | .notification n => some n.method
  | .response _ => none

/-- The identifier, if the message carries one. -/
def id? : Message → Option RequestId
  | .request r => some r.id
  | .notification _ => none
  | .response r => r.id

/-- The message is the response to the request of an identifier. -/
def isResponseTo (id : RequestId) : Message → Bool
  | .response r => r.id == some id
  | .request _ | .notification _ => false

/-- The message as a JSON value, members in the order of declaration. -/
def written : Message → Json
  | .request r => Request.shape.written r
  | .notification n => Notification.shape.written n
  | .response r => Response.shape.written r

/-- The line that carries the message. -/
def line (m : Message) : String := Text.escapeNewlines m.written.compact

end Message

end ContextServer

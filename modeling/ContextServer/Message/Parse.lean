import ContextServer.Json.Reader
import ContextServer.Message.Basic

/-!
# Reading messages

The kind of a message follows from which members are there: `method` and `id`
make a request, `method` alone a notification, and exactly one of `result` and
`error` a response (`Message.ofJson`). A text that is not a message is refused
with the cause, and with the identifier it carries if that can be recovered; only
then is there somebody to tell (`ParseFault.answer?`).
-/

namespace ContextServer

/-- Why a value with the right version is not a message. -/
inductive Misshape where
  /-- The value is not an object. -/
  | notObject
  /-- A request carries an identifier that is none. -/
  | badId
  /-- A response has both outcomes. -/
  | bothOutcomes
  /-- The members make no kind of message. -/
  | noKind
  /-- A member does not decode. -/
  | undecodable (fault : Fault)
  /-- Any other cause, in the words of whoever found it. -/
  | other (reason : String)
deriving DecidableEq

/-- The wording of a cause. -/
def Misshape.text : Misshape → String
  | .notObject => "message is not a JSON object"
  | .badId => "request id must be a string or an integer"
  | .bothOutcomes => "response carries both result and error"
  | .noKind => "message has neither method nor result/error"
  | .undecodable fault => fault.message
  | .other reason => reason

/-- Why a text is not a message. -/
inductive ParseFault where
  /-- The text is not JSON. -/
  | malformed
  /-- The version of the format is another one, or missing. -/
  | unsupportedVersion (found : Option String) (id : Option RequestId)
  /-- The value is not a message. -/
  | invalidShape (id : Option RequestId) (cause : Misshape)
deriving DecidableEq

/-- The numbers of the errors that this side reports. -/
inductive ErrorCode where
  | parseError
  | invalidRequest
  | methodNotFound
  | invalidParams
  | internalError
  /-- A failure of the domain, with no number of its own. -/
  | application
deriving DecidableEq

/-- The number of a kind of error. -/
def ErrorCode.number : ErrorCode → Int32
  | .parseError => -32700
  | .invalidRequest => -32600
  | .methodNotFound => -32601
  | .invalidParams => -32602
  | .internalError => -32603
  | .application => 500

namespace ErrorObject

/-- An error object with the number of its kind. -/
def ofCode (code : ErrorCode) (message : String) : ErrorObject :=
  { code := code.number, message }

/-- The error of a text that is not JSON. -/
def malformed : ErrorObject := .ofCode .parseError "Parse error"

/-- The error of a request for an operation that is not served. -/
def methodNotFound (method : String) : ErrorObject :=
  .ofCode .methodNotFound ("Method not found: " ++ method)

end ErrorObject

namespace ParseFault

/-- The wording of a fault; of malformed text it is the first words only. -/
def message : ParseFault → String
  | .malformed => "Malformed JSON"
  | .unsupportedVersion found _ =>
    "Unsupported JSON-RPC version: " ++ found.getD "<missing>"
  | .invalidShape _ cause => "Invalid JSON-RPC message: " ++ cause.text

/-- The identifier recovered from the text. -/
def id? : ParseFault → Option RequestId
  | .malformed => none
  | .unsupportedVersion _ id | .invalidShape id _ => id

/-- The response to send back, if somebody can be told. -/
def answer? (fault : ParseFault) : Option Response :=
  fault.id?.map fun id =>
    .failure (some id) (.ofCode .invalidRequest fault.message)

end ParseFault

namespace Message

/-- A record from the members of a message. -/
def decodeAs {α : Type} (shape : Shape α) (id : Option RequestId)
    (members : List (String × Json)) : Except ParseFault α :=
  match shape.decode false (.object members) with
  | .ok a => .ok a
  | .error fault => .error (.invalidShape id (.undecodable fault))

/-- The message with these members, whose version has been seen to be right. -/
def ofMembers (id : Option RequestId) (members : List (String × Json)) :
    Except ParseFault Message :=
  let has (name : String) : Bool := (Entries.lookup name members).isSome
  if has "method" then
    if has "id" then
      if id.isNone then .error (.invalidShape none .badId)
      else (decodeAs Request.shape id members).map .request
    else (decodeAs Notification.shape none members).map .notification
  else if has "result" != has "error" then
    (decodeAs Response.shape id members).map .response
  else .error (.invalidShape id (if has "result" then .bothOutcomes else .noKind))

/-- The message that a JSON value is. -/
def ofJson : Json → Except ParseFault Message
  | .object members =>
    let id := (Entries.lookup "id" members).bind RequestId.ofJson?
    let found := (Entries.lookup "jsonrpc" members).bind Json.asString?
    if found = some formatVersion then ofMembers id members
    else .error (.unsupportedVersion found id)
  | _ => .error (.invalidShape none .notObject)

/-- The message that a text spells. -/
def parse (text : String) : Except ParseFault Message :=
  match Json.parse? text with
  | some j => ofJson j
  | none => .error .malformed

end Message

end ContextServer

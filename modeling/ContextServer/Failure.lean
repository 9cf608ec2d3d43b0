import ContextServer.Json.Report
import ContextServer.Message.Parse

/-!
# Failures

What can go wrong, by cause: in a transport, in a handler, and in the work of
the server as a whole. Every failure has one wording (`message`) and one error
object to answer a request with (`Failure.errorObject`).
-/

namespace ContextServer

/-- A failure to reach the other end. -/
inductive TransportError where
  /-- The channel broke. -/
  | io (cause : String)
  /-- The message has no text. -/
  | serialization (cause : Json.Report)
  /-- The channel is closed. -/
  | closed
  /-- The connections already belong to a server. -/
  | alreadyBound
  /-- The connections belong to no server. -/
  | notBound
  /-- The channel takes nothing at the moment. -/
  | unavailable (cause : String)
deriving DecidableEq

/-- The wording of a failure to reach the other end. -/
def TransportError.message : TransportError → String
  | .io cause => "I/O error: " ++ cause
  | .serialization cause => "Serialization error: " ++ cause.message
  | .closed => "Transport closed"
  | .alreadyBound => "Session factory already set"
  | .notBound => "No session factory has been set"
  | .unavailable cause => "Transport unavailable: " ++ cause

/-- A failure that a handler reports. -/
inductive HandlerError where
  /-- What the handler was given is of no use to it. -/
  | invalidArguments (cause : String)
  /-- The handler broke. -/
  | failed (cause : String)
  /-- The domain refuses. -/
  | application (cause : String)
deriving DecidableEq

/-- The wording of a handler's failure. -/
def HandlerError.message : HandlerError → String
  | .invalidArguments cause => "Invalid arguments: " ++ cause
  | .failed cause => "Handler failed: " ++ cause
  | .application cause => cause

/-- Why the params of a request are of no use. -/
inductive ParamsFault where
  /-- They do not decode. -/
  | undecodable (fault : Fault)
  /-- They should hold a message and do not. -/
  | notMessage (fault : ParseFault)
  /-- They name a prompt that is not registered. -/
  | unknownPrompt (name : String)
  /-- They lack an argument that the prompt requires. -/
  | missingArgument (name : String)
  /-- Any other cause, in the words of whoever found it. -/
  | other (cause : String)
deriving DecidableEq

/-- The wording of a cause. What is no message is reported as a JSON text would be, so
    that words that end in a place tell it in the usual form. -/
def ParamsFault.message : ParamsFault → String
  | .undecodable fault => fault.message
  | .notMessage fault => (Json.Report.ofText fault.message).message
  | .unknownPrompt name => "Unknown prompt: " ++ name
  | .missingArgument name => "Missing required argument: " ++ name
  | .other cause => cause

/-- Why a request makes no sense in its place. -/
inductive RequestFault where
  /-- The session was not set up yet. -/
  | notInitialized
  /-- The session was set up before. -/
  | alreadyInitialized
  /-- The client offers no roots. -/
  | noRoots
  /-- The client does not sample. -/
  | noSampling
  /-- Any other cause, in the words of whoever found it. -/
  | other (cause : String)
deriving DecidableEq

/-- The wording of a cause. -/
def RequestFault.message : RequestFault → String
  | .notInitialized => "Session not initialized"
  | .alreadyInitialized => "Session already initialized"
  | .noRoots => "Client does not support roots"
  | .noSampling => "Client does not support sampling"
  | .other cause => cause

/-- Any failure. -/
inductive Failure where
  | parse (fault : ParseFault)
  | transport (error : TransportError)
  | handler (error : HandlerError)
  | methodNotFound (method : String)
  | invalidParams (fault : ParamsFault)
  | invalidRequest (fault : RequestFault)
  | internal (cause : String)
  | application (cause : String)
  /-- The other end answered with an error. -/
  | remote (error : ErrorObject)
  /-- No answer came in time. -/
  | timeout (id : RequestId)
  /-- The session is over. -/
  | sessionClosed
deriving DecidableEq

namespace Failure

/-- The wording of a failure. -/
def message : Failure → String
  | .parse fault => "Parse error: " ++ fault.message
  | .transport error => "Transport error: " ++ error.message
  | .handler error => "Handler error: " ++ error.message
  | .methodNotFound method => "Method not found: " ++ method
  | .invalidParams fault => "Invalid params: " ++ fault.message
  | .invalidRequest fault => "Invalid request: " ++ fault.message
  | .internal cause => "Internal error: " ++ cause
  | .application cause => cause
  | .remote error => "Peer returned error: " ++ error.display
  | .timeout id => "Request " ++ id.display ++ " timed out"
  | .sessionClosed => "Session closed"

/-- The error object to answer a request with. An error of the other end is
    passed on; a failure that is nobody's fault at this end is an internal error
    under its whole wording. -/
def errorObject : Failure → ErrorObject
  | .parse .malformed => .malformed
  | .parse fault => .ofCode .invalidRequest fault.message
  | .handler (.invalidArguments cause) => .ofCode .invalidParams cause
  | .handler (.failed cause) => .ofCode .internalError cause
  | .handler (.application cause) => .ofCode .application cause
  | .methodNotFound method => .methodNotFound method
  | .invalidParams fault => .ofCode .invalidParams fault.message
  | .invalidRequest fault => .ofCode .invalidRequest fault.message
  | .application cause => .ofCode .application cause
  | .remote error => error
  | .transport error => .ofCode .internalError (message (.transport error))
  | .internal cause => .ofCode .internalError (message (.internal cause))
  | .timeout id => .ofCode .internalError (message (.timeout id))
  | .sessionClosed => .ofCode .internalError (message .sessionClosed)

end Failure

/-- What the sender of a request gets from the response to it; a response without a
    result has the result null. -/
def Response.outcome (r : Response) : Except Failure Json :=
  match r.error with
  | some e => .error (.remote e)
  | none => .ok (r.result.getD .null)

/-- The record that the params of a request are; absent params are an object
    with no members. -/
def decodeParams {α : Type} (shape : Shape α) (params : Option Json) : Except Failure α :=
  match shape.decode false (params.getD (.object [])) with
  | .ok a => .ok a
  | .error fault => .error (.invalidParams (.undecodable fault))

end ContextServer

import HostLink.Correlation
import HostLink.Decode.Shape

/-!
# Errors of the bridge

Every failing operation gives a `BridgeError`, which names its cause; `BridgeError.message` fixes
the wording.  Three of the causes can also be stated by the host in words of its own, as when a
host's responder refuses a request.
-/

namespace HostLink

/-- Why an argument is refused. -/
inductive ArgumentError where
  | emptyCommand
  /-- A payload that is neither an object nor null. -/
  | payloadNotObject (payload : Json)
  | emptyEventName
  /-- An event name with white space or control characters. -/
  | eventNameNotSymbolic (name : String)
  | stated (text : String)

namespace ArgumentError

/-- The wording of a refused argument. -/
def message : ArgumentError → String
  | .emptyCommand => "command is empty"
  | .payloadNotObject payload => "payload must be a JSON object, got " ++ payload.compact
  | .emptyEventName => "event name is empty"
  | .eventNameNotSymbolic name => "event name " ++ quoted name ++ " is not a symbolic name"
  | .stated text => text

end ArgumentError

/-- Why a message is no envelope. -/
inductive EnvelopeError where
  | invalidJson (error : Json.ReadError)
  | notObject
  /-- A correlation field whose value is no id. -/
  | badCorrelationId (value : Json)
  /-- An object that is no reply, no event and no error report. -/
  | unclassified
  /-- A request without the correlation field that its reply has to repeat. -/
  | missingCorrelation (field : String)
  | stated (text : String)

/-- The wording of an error of reading JSON text. -/
def Json.ReadError.message : Json.ReadError → String
  | .ended => "unexpected end of text"
  | .malformed => "unexpected character or value out of range"

namespace EnvelopeError

/-- The wording of a malformed message. -/
def message : EnvelopeError → String
  | .invalidJson error => "invalid JSON: " ++ error.message
  | .notObject => "message is not a JSON object"
  | .badCorrelationId value => "bad correlation id: " ++ value.compact
  | .unclassified => "not a reply, event or error report"
  | .missingCorrelation field => "request lacks " ++ field
  | .stated text => text

end EnvelopeError

/-- Why a transport refuses an operation. -/
inductive TransportError where
  | hostOffline (transport : String)
  | endpointClosed (transport : String)
  | noListener (transport : String)
  | bridgeSideClosed
  | noRuntime (transport : String)
  | stated (text : String)

namespace TransportError

/-- The wording of a transport's refusal. -/
def message : TransportError → String
  | .hostOffline transport => transport ++ ": host offline"
  | .endpointClosed transport => transport ++ ": native endpoint closed"
  | .noListener transport => transport ++ ": no message listener installed"
  | .bridgeSideClosed => "bridge side closed"
  | .noRuntime transport =>
    transport ++ ": no tokio runtime: there is no reactor running, must be called from the " ++
      "context of a Tokio 1.x runtime"
  | .stated text => text

end TransportError

/-- Why a payload has no JSON form. -/
inductive PayloadError where
  /-- A key of a map that is neither a text nor a number nor a truth value. -/
  | keyNotText
  /-- An integer beyond 64 bits. -/
  | integerOutOfRange
deriving DecidableEq

/-- Why a conversion from or to JSON fails. -/
inductive SerializationError where
  | text (error : Json.ReadError)
  | shape (error : DataError)
  | payload (error : PayloadError)

namespace SerializationError

/-- The failure of a typed decoding. -/
def ofDecode : DecodeError → SerializationError
  | .text error => .text error
  | .shape error => .shape error

/-- The wording of a failed conversion. -/
def message : SerializationError → String
  | .text error => error.message
  | .shape error => error.message
  | .payload .keyNotText => "key must be a string"
  | .payload .integerOutOfRange => "number out of range"

end SerializationError

/-- An error of an operation on the bridge. -/
inductive BridgeError where
  | invalidArgument (cause : ArgumentError)
  /-- The native side answered with this error value. -/
  | remote (value : Json)
  | alreadySettled (id : CorrelationId)
  /-- A field of a frozen payload was to be set. -/
  | readOnly (field : String)
  | malformedEnvelope (cause : EnvelopeError)
  | serialization (cause : SerializationError)
  | transport (cause : TransportError)
  | listenerAlreadySet
  | syncUnsupported
  | timeout
  /-- The bridge went away before the reply came. -/
  | closed

namespace BridgeError

/-- The wording of an error. -/
def message : BridgeError → String
  | .invalidArgument cause => "invalid argument: " ++ cause.message
  | .remote value => "remote error: " ++ value.compact
  | .alreadySettled id => "request " ++ id.text ++ " already settled"
  | .readOnly field => "field is read-only: " ++ field
  | .malformedEnvelope cause => "malformed envelope: " ++ cause.message
  | .serialization cause => "serialization error: " ++ cause.message
  | .transport cause => "transport error: " ++ cause.message
  | .listenerAlreadySet => "message listener already set"
  | .syncUnsupported => "synchronous messaging not supported by transport"
  | .timeout => "request timed out"
  | .closed => "bridge closed before reply arrived"

/-- The error value of the native side, if that is where the error comes from. -/
def remoteValue? : BridgeError → Option Json
  | .remote value => some value
  | _ => none

/-- Whether the error comes from the native side. -/
def isRemote (error : BridgeError) : Bool := error.remoteValue?.isSome

end BridgeError
end HostLink

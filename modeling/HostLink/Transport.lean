import HostLink.Envelope
import HostLink.Log

/-!
# Transports

A transport carries text between a bridge and the native side: messages are posted one way and come
in through a single listener.

A memory transport is played by a host in the same process.  It keeps what was posted, can be taken
offline, and answers synchronous messages with a responder if one is installed.

A channel transport leads to a native endpoint that runs on its own.  Either way there is a queue;
once a listener is installed a pump drains the inbound one into it, until the endpoint is gone and
nothing is left.
-/

namespace HostLink

/-! ## Memory hosts -/

/-- What a responder answers a synchronous message with. -/
inductive SyncAnswer where
  /-- The message itself. -/
  | echo
  | text (answer : String)
  | failure (error : BridgeError)

/-- The host's side of synchronous messages.  With a successor it first installs another responder,
which always answers with that text. -/
structure SyncResponder where
  answer : SyncAnswer
  successor : Option String := none

namespace SyncResponder

/-- The answer to a message. -/
def respond (responder : SyncResponder) (message : String) : Except BridgeError String :=
  match responder.answer with
  | .echo => .ok message
  | .text answer => .ok answer
  | .failure error => .error error

/-- The responder installed after one use. -/
def next (responder : SyncResponder) : SyncResponder :=
  match responder.successor with
  | some text => { answer := .text text }
  | none => responder

end SyncResponder

/-- The native side of a memory transport. -/
structure MemoryHost where
  /-- What was posted and not yet taken, oldest first. -/
  outbox : List String := []
  offline : Bool := false
  responder : Option SyncResponder := none

/-! ## Channels -/

/-- Where the pump of a channel stands. -/
inductive Pump where
  /-- No listener was installed yet. -/
  | absent
  /-- The pump is about to start. -/
  | fresh
  /-- The pump waits for a message. -/
  | waiting
  /-- The pump was woken. -/
  | awake
  /-- The pump has drained the queue of a closed endpoint. -/
  | finished
deriving DecidableEq

/-- The queues between a bridge and a native endpoint. -/
structure Channel where
  /-- What was posted and not yet received by the endpoint, oldest first. -/
  outbox : List String := []
  /-- What the endpoint posted and the pump has not drained, oldest first. -/
  inbox : List String := []
  endpointOpen : Bool := true
  pump : Pump := .absent

namespace Channel

/-- Wake the pump if it waits. -/
def wake (channel : Channel) : Channel :=
  if channel.pump = .waiting then { channel with pump := .awake } else channel

/-- Whether what the endpoint posts has a taker: the transport, while someone holds it, or the
pump. -/
def takesInbound (channel : Channel) (transportHeld : Bool) : Bool :=
  transportHeld || channel.pump ≠ .absent

end Channel

/-! ## Transports -/

/-- How a transport carries text. -/
inductive Medium where
  | memory (host : MemoryHost)
  | channel (channel : Channel)

/-- A transport and the state that both of its sides share. -/
structure Transport where
  id : String
  medium : Medium

namespace Transport

/-- Post a message to the native side. -/
def post (transport : Transport) (message : String) :
    Except BridgeError Unit × Transport × List LogEvent :=
  match transport.medium with
  | .memory host =>
    if host.offline then (.error (.transport (.hostOffline transport.id)), transport, [])
    else
      (.ok (),
        { transport with medium := .memory { host with outbox := host.outbox ++ [message] } },
        [.posted transport.id message])
  | .channel channel =>
    if channel.endpointOpen then
      (.ok (),
        { transport with
          medium := .channel { channel with outbox := channel.outbox ++ [message] } },
        [.posted transport.id message])
    else (.error (.transport (.endpointClosed transport.id)), transport,
      [.posted transport.id message])

/-- Send a message and wait for the answer in place. -/
def sendSync (transport : Transport) (message : String) :
    Except BridgeError String × Transport :=
  match transport.medium with
  | .memory host =>
    match host.responder with
    | some responder =>
      (responder.respond message,
        { transport with medium := .memory { host with responder := some responder.next } })
    | none => (.error .syncUnsupported, transport)
  | .channel _ => (.error .syncUnsupported, transport)

end Transport

/-! ## The native endpoint's messages -/

namespace WireFormat

/-- The message that answers a request with data, under the request's own correlation value. -/
def replyTo (wire : WireFormat) (request data : Json) : Except BridgeError Json :=
  match request.member? wire.correlationField with
  | some id =>
    .ok (.obj (Fields.insert wire.dataField data (Fields.insert wire.correlationField id [])))
  | none => .error (.malformedEnvelope (.missingCorrelation wire.correlationField))

/-- The message that answers a request with an error inside the data. -/
def replyErrorTo (wire : WireFormat) (request error : Json) : Except BridgeError Json :=
  wire.replyTo request (.obj [(wire.errorField, error)])

end WireFormat
end HostLink

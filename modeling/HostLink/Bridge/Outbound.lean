import HostLink.Bridge.Basic
import HostLink.Payload
import HostLink.Transport

/-!
# What a bridge sends

Requests never fail in place: whatever goes wrong, the caller gets a reply, which then is ready with
the error.  A request is registered before it is posted and taken back if the post fails.

Subscribing is registered before the activation command is posted, likewise; only the first
subscription for an event activates it.
-/

namespace HostLink

/-- What an operation of a bridge on its transport leaves behind. -/
structure Acted (κ α : Type) where
  answer : α
  bridge : Bridge κ
  transport : Transport
  log : List LogEvent

namespace Bridge

variable {κ : Type}

/-! ## Requests -/

/-- The text of a request. -/
def encodeRequest (config : Config) (id : CorrelationId) (command : String) (payload : Datum) :
    Except BridgeError String :=
  if command.isEmpty then .error (.invalidArgument .emptyCommand)
  else do
    let fields ← payload.payloadFields
    .ok ((Command.request command id fields).text config.wire)

/-- Issue a reply that has already failed. -/
def sendRejected (bridge : Bridge κ) (error : BridgeError) : Bridge κ :=
  { bridge with
    replies := bridge.replies ++ [{ id := bridge.nextId, progress := .settled (.error error) }] }

/-- Issue a reply and register its request. -/
def openRequest (bridge : Bridge κ) : Settler × Bridge κ :=
  let (settler, replies) := Settler.channel bridge.nextId bridge.replies
  (settler, { bridge with replies, pending := bridge.pending.register settler })

/-- Take a request back that could not be posted, and fail its reply. -/
def withdraw (bridge : Bridge κ) (id : CorrelationId) (error : BridgeError) :
    Bridge κ × List LogEvent :=
  match bridge.pending.take id with
  | (some settler, pending) => { bridge with pending }.settleWith settler (.error error)
  | (none, _) => (bridge, [])

/-- Register a request and post its text. -/
def postRequest (bridge : Bridge κ) (transport : Transport) (command text : String) :
    Acted κ Unit :=
  let (settler, opened) := bridge.openRequest
  let sent := .requestSent bridge.extension settler.id command
  match transport.post text with
  | (.ok (), transport, log) => { answer := (), bridge := opened, transport, log := sent :: log }
  | (.error error, transport, log) =>
    let (withdrawn, more) := opened.withdraw settler.id error
    { answer := (), bridge := withdrawn, transport
      log := sent :: log ++ .postFailed bridge.extension command error :: more }

/-- Send a request that waits for ever. -/
def sendUntimed (bridge : Bridge κ) (transport : Transport) (command : String)
    (payload : Datum) : Acted κ Unit :=
  match encodeRequest bridge.config bridge.nextId command payload with
  | .ok text => bridge.postRequest transport command text
  | .error error =>
    { answer := (), bridge := bridge.sendRejected error, transport
      log := [.requestRejected bridge.extension bridge.nextId command error] }

/-- Send a request.  It waits for `timeout`, or for the configured time if that is absent.  The
answer is the ticket of its reply. -/
def send (bridge : Bridge κ) (transport : Transport) (now : Instant) (command : String)
    (payload : Datum) (timeout : Option Nanoseconds) : Acted κ Ticket :=
  let ticket := bridge.replies.length
  let sent := bridge.sendUntimed transport command payload
  let armed := match timeout <|> bridge.config.requestTimeout with
    | some timeout => sent.bridge.arm now ticket timeout
    | none => sent.bridge
  { answer := ticket, bridge := armed, transport := sent.transport, log := sent.log }

/-- Send a command and wait for the answer in place, past correlation. -/
def sendSync (config : Config) (transport : Transport) (command : String) (payload : Datum) :
    Except BridgeError Json × Transport :=
  if command.isEmpty then (.error (.invalidArgument .emptyCommand), transport)
  else match payload.payloadFields with
    | .error error => (.error error, transport)
    | .ok fields =>
      match transport.sendSync ((Command.notification command fields).text config.wire) with
      | (.error error, transport) => (.error error, transport)
      | (.ok answer, transport) =>
        match Json.parse answer with
        | .ok value => (.ok value, transport)
        | .error e => (.error (.serialization (.text e)), transport)

/-! ## Subscriptions -/

/-- The text of the command that activates an event. -/
def activationText (config : Config) (event : String) : String :=
  (Command.notification config.activationCommand [(config.wire.eventField, .str event)]).text
    config.wire

/-- Subscribe a callback to an event.  The first subscription for the event activates it, and does
not stand if that cannot be posted. -/
def subscribe (bridge : Bridge κ) (transport : Transport) (event : String) (callback : κ) :
    Acted κ (Except BridgeError SubscriptionId) :=
  match Registry.checkEventName event with
  | .error cause =>
    { answer := .error (.invalidArgument cause), bridge, transport
      log := [.subscribeRejected bridge.extension (.invalidArgument cause)] }
  | .ok () =>
    let first := !bridge.registry.hasListener event
    let (id, registry) := bridge.registry.insert event callback
    let subscribed := { bridge with registry }
    if first then
      match transport.post (activationText bridge.config event) with
      | (.ok (), transport, log) =>
        { answer := .ok id, bridge := subscribed, transport
          log := log ++ [.eventActivated bridge.extension event] }
      | (.error error, transport, log) =>
        { answer := .error error, bridge := { bridge with registry := registry.erase id }
          transport, log }
    else { answer := .ok id, bridge := subscribed, transport, log := [] }

end Bridge
end HostLink

import HostLink.Error
import HostLink.Json.Parser
import HostLink.WireFormat

/-!
# Envelopes

Outbound traffic is one flat JSON object per command: the payload's fields side by side with the
command field and, on requests, the correlation field, which both overwrite payload fields of their
name.

Inbound text is classified once.  A correlation field makes it a reply, whose outcome is a truthy
top-level error, else a truthy error inside the payload, else the payload.  Without a correlation
field a truthy error makes it a fault report, even when it names an event, and else a text in the
event field makes it an event.  Everything else is malformed.
-/

namespace HostLink

/-- An outbound command; requests carry a correlation id, notifications do not. -/
structure Command where
  name : String
  correlationId : Option CorrelationId
  payload : Fields Json

namespace Command

/-- A command that expects a reply. -/
def request (name : String) (id : CorrelationId) (payload : Fields Json) : Command :=
  ⟨name, some id, payload⟩

/-- A command without a reply. -/
def notification (name : String) (payload : Fields Json) : Command := ⟨name, none, payload⟩

/-- The members of the message. -/
def members (wire : WireFormat) (command : Command) : Fields Json :=
  let headed := Fields.insert wire.commandField (.str command.name) command.payload
  match command.correlationId with
  | some id => Fields.insert wire.correlationField (id.encode wire.idFormat) headed
  | none => headed

/-- The text of the message. -/
def text (wire : WireFormat) (command : Command) : String :=
  (Json.obj (command.members wire)).compact

end Command

/-- A classified inbound message. -/
inductive Inbound where
  /-- A reply: the payload, or the error value. -/
  | reply (id : CorrelationId) (outcome : Except Json Json)
  /-- A notification, with the whole message. -/
  | event (name : String) (body : Json)
  /-- An error report without a correlation id. -/
  | fault (error : Json)

namespace Inbound

/-- A member with a truthy value. -/
def truthy? (name : String) (members : Fields Json) : Option Json :=
  (Fields.lookup name members).filter Json.isTruthy

/-- The outcome of a reply, given its members without the correlation field. -/
def outcomeOf (wire : WireFormat) (members : Fields Json) : Except Json Json :=
  match truthy? wire.errorField members with
  | some error => .error error
  | none =>
    let data := (Fields.lookup wire.dataField (Fields.erase wire.errorField members)).getD .null
    match (data.member? wire.errorField).filter Json.isTruthy with
    | some error => .error error
    | none => .ok data

/-- Classify a message. -/
def ofJson (wire : WireFormat) : Json → Except EnvelopeError Inbound
  | .obj members =>
    match Fields.lookup wire.correlationField members with
    | some raw =>
      match CorrelationId.decode? raw with
      | some id => .ok (.reply id (outcomeOf wire (Fields.erase wire.correlationField members)))
      | none => .error (.badCorrelationId raw)
    | none =>
      match truthy? wire.errorField members with
      | some error => .ok (.fault error)
      | none =>
        match Fields.lookup wire.eventField members with
        | some (.str name) => .ok (.event name (.obj members))
        | _ => .error .unclassified
  | _ => .error .notObject

/-- Classify a text. -/
def parse (wire : WireFormat) (text : String) : Except EnvelopeError Inbound :=
  match Json.parse text with
  | .ok value => ofJson wire value
  | .error e => .error (.invalidJson e)

end Inbound
end HostLink

import HostLink.Correlation

/-!
# Wire formats

The field names and the id format of one extension's messages.  The defaults frame a command as
`cmd` beside `_promise_id` and expect replies with `_promise_id` and `data`.
-/

namespace HostLink

/-- The fields of one extension's messages. -/
structure WireFormat where
  /-- The field with the command name. -/
  commandField : String := "cmd"
  /-- The field with the correlation id, which replies repeat. -/
  correlationField : String := "_promise_id"
  /-- How correlation ids are written. -/
  idFormat : IdFormat := .string
  /-- The field of a reply with its payload. -/
  dataField : String := "data"
  /-- The field with an error, at the top of a message or inside its payload. -/
  errorField : String := "error"
  /-- The field with the name of an event. -/
  eventField : String := "eventName"
deriving DecidableEq

namespace WireFormat

/-- The five field names of a wire format, without its id format. -/
inductive Slot where
  | command
  | correlation
  | data
  | error
  | event
deriving DecidableEq

namespace Slot

/-- The name of a slot in configurations. -/
def key : Slot → String
  | .command => "command_field"
  | .correlation => "correlation_field"
  | .data => "data_field"
  | .error => "error_field"
  | .event => "event_field"

end Slot

/-- The field name in a slot. -/
def field (wire : WireFormat) : Slot → String
  | .command => wire.commandField
  | .correlation => wire.correlationField
  | .data => wire.dataField
  | .error => wire.errorField
  | .event => wire.eventField

end WireFormat
end HostLink

import HostLink.WireFormat

/-!
# Bridge configurations

One configuration describes how an extension frames its messages, the command that activates an
event, and how long requests wait.  Presets exist for the extensions shipped with the runtime.

Timeouts are stored in whole milliseconds.  `Config.withRequestTimeout` rounds a duration down to
them and stops at the largest 64-bit number instead of wrapping.
-/

namespace HostLink

/-- A span of time in nanoseconds. -/
abbrev Nanoseconds := Nat

/-- Nanoseconds per millisecond. -/
def nanosPerMilli : Nat := 1000000

/-- Nanoseconds per second. -/
def nanosPerSecond : Nat := 1000000000

/-- The configuration of one bridge. -/
structure Config where
  /-- The name of the extension, for log lines. -/
  extension : String := "extension"
  /-- How messages are framed. -/
  wire : WireFormat := {}
  /-- The command sent when an event gets its first subscriber. -/
  activationCommand : String := "addEventListener"
  /-- How many milliseconds a request waits; without it a request waits for ever. -/
  requestTimeoutMs : Option UInt64 := none
deriving DecidableEq

namespace Config

/-- Default framing under the given extension name. -/
def named (extension : String) : Config := { extension := extension }

/-- Device capability queries: text ids in `_promise_id`. -/
def deviceCapabilities : Config := named "navigator.system"

/-- The address book: text ids in `_promise_id`. -/
def contacts : Config := named "navigator.contacts"

/-- Flight control: integer ids in `asyncCallId`. -/
def drone : Config :=
  { extension := "navigator.ardrone"
    wire := { correlationField := "asyncCallId", idFormat := .number } }

/-- The configuration with requests waiting for `timeout`, in whole milliseconds rounded down and at
most the largest 64-bit number of them. -/
def withRequestTimeout (config : Config) (timeout : Nanoseconds) : Config :=
  { config with
    requestTimeoutMs := some (UInt64.ofNat (min (timeout / nanosPerMilli) 18446744073709551615)) }

/-- How long a request waits. -/
def requestTimeout (config : Config) : Option Nanoseconds :=
  config.requestTimeoutMs.map fun ms => ms.toNat * nanosPerMilli

end Config

/-! ## Building a configuration step by step -/

/-- One adjustment of a configuration under construction. -/
inductive ConfigEdit where
  | replace (config : Config)
  | extension (name : String)
  | correlationField (name : String)
  | commandField (name : String)
  | activationCommand (command : String)
  | idFormat (format : IdFormat)
  | requestTimeout (timeout : Nanoseconds)

namespace ConfigEdit

/-- The configuration after the adjustment. -/
def apply (config : Config) : ConfigEdit → Config
  | .replace other => other
  | .extension name => { config with extension := name }
  | .correlationField name => { config with wire := { config.wire with correlationField := name } }
  | .commandField name => { config with wire := { config.wire with commandField := name } }
  | .activationCommand command => { config with activationCommand := command }
  | .idFormat format => { config with wire := { config.wire with idFormat := format } }
  | .requestTimeout timeout => config.withRequestTimeout timeout

/-- The default configuration after a list of adjustments. -/
def build (edits : List ConfigEdit) : Config := edits.foldl apply {}

end ConfigEdit
end HostLink

import HostLink.Config
import HostLink.Payload
import HostLink.Text.Quoted

/-!
# Extension facades

The extensions shipped with the runtime: device capability queries, the address book and flight
control.  A facade is a bridge with the extension's configuration, and each of its calls is one
command.
-/

namespace HostLink

/-- An extension shipped with the runtime. -/
inductive Facade where
  | device
  | contacts
  | drone
deriving DecidableEq

namespace Facade

/-- The configuration of the extension's bridge. -/
def config : Facade → Config
  | .device => .deviceCapabilities
  | .contacts => .contacts
  | .drone => .drone

/-- The name of the facade in descriptions. -/
def name : Facade → String
  | .device => "DeviceCapabilities"
  | .contacts => "Contacts"
  | .drone => "ArDrone"

/-- The description of a bridge for a developer. -/
def describeBridge (extension transport : String) (pending subscriptions : Nat) : String :=
  "Bridge \x7b extension: " ++ quoted extension ++ ", transport: " ++ quoted transport ++
    ", pending: " ++ Nat.repr pending ++ ", subscriptions: " ++ Nat.repr subscriptions ++ " \x7d"

/-- The description of a facade around the description of its bridge. -/
def describe (facade : Facade) (bridge : String) : String :=
  facade.name ++ " \x7b bridge: " ++ bridge ++ " \x7d"

/-! ## Events -/

/-- A storage or a codec was attached. -/
def onAttach : String := "onattach"

/-- A storage or a codec was detached. -/
def onDetach : String := "ondetach"

/-- A display was connected. -/
def onConnect : String := "onconnect"

/-- A display was disconnected. -/
def onDisconnect : String := "ondisconnect"

/-- The address book changed. -/
def onContactsChange : String := "oncontactschange"

end Facade

/-- A call of a facade. -/
inductive FacadeCall where
  | cpuInfo
  | codecsInfo
  | displayInfo
  | memoryInfo
  | storageInfo
  | save (contact : Json)
  | find (options : Json)
  | remove (contactId : String)
  | connect
  | takeoff
  | landing

namespace FacadeCall

/-- The command of a call. -/
def command : FacadeCall → String
  | .cpuInfo => "getCPUInfo"
  | .codecsInfo => "getCodecsInfo"
  | .displayInfo => "getDisplayInfo"
  | .memoryInfo => "getMemoryInfo"
  | .storageInfo => "getStorageInfo"
  | .save _ => "save"
  | .find _ => "find"
  | .remove _ => "remove"
  | .connect => "connect"
  | .takeoff => "takeoff"
  | .landing => "landing"

/-- The payload of a call. -/
def payload : FacadeCall → Datum
  | .save contact => .json (.obj [("contact", contact)])
  | .find options => .json (.obj [("options", options)])
  | .remove contactId => .json (.obj [("contactId", .str contactId)])
  | _ => .absent

end FacadeCall
end HostLink

import HostLink.Bridge.Inbound
import HostLink.Bridge.Outbound

/-!
# Links

A link is a transport with the one listener that it ever gets: nobody yet, an observer that notes
what comes in, or a bridge.  The listener stays when its bridge is gone.
-/

namespace HostLink

/-- What listens on a transport. -/
inductive Listener (κ : Type) where
  | nobody
  /-- An observer of the given name. -/
  | observer (name : String)
  | bridge (bridge : Bridge κ)

/-- A transport and its listener. -/
structure Link (κ : Type) where
  transport : Transport
  listener : Listener κ := .nobody

namespace Link

variable {κ : Type}

/-- The bridge on the transport, held or not. -/
def bridge? (link : Link κ) : Option (Bridge κ) :=
  match link.listener with
  | .bridge bridge => some bridge
  | _ => none

/-- Whether a listener was installed. -/
def hasListener (link : Link κ) : Bool :=
  match link.listener with
  | .nobody => false
  | _ => true

/-- Whether a bridge that someone holds is on the transport. -/
def hasLiveBridge (link : Link κ) : Bool := link.bridge?.any Bridge.live

/-- Put a bridge in the place of the present one. -/
def withBridge (link : Link κ) (bridge : Bridge κ) : Link κ :=
  { link with listener := .bridge bridge }

/-- The channel that the transport runs over, if it does. -/
def channel? (link : Link κ) : Option Channel :=
  match link.transport.medium with
  | .channel channel => some channel
  | .memory _ => none

/-- The host that plays the native side, if one does. -/
def host? (link : Link κ) : Option MemoryHost :=
  match link.transport.medium with
  | .memory host => some host
  | .channel _ => none

/-- The link over another state of its channel. -/
def withChannel (link : Link κ) (channel : Channel) : Link κ :=
  { link with transport := { link.transport with medium := .channel channel } }

/-- The link over another state of its host. -/
def withHost (link : Link κ) (host : MemoryHost) : Link κ :=
  { link with transport := { link.transport with medium := .memory host } }

/-- Install the listener.  A transport takes one listener ever; a channel transport moreover needs a
runtime to start its pump on, and asks for that first. -/
def install (link : Link κ) (runtime : Bool) (listener : Listener κ) :
    Except BridgeError Unit × Link κ :=
  match link.transport.medium with
  | .memory _ =>
    if link.hasListener then (.error .listenerAlreadySet, link)
    else (.ok (), { link with listener })
  | .channel channel =>
    if !runtime then (.error (.transport (.noRuntime link.transport.id)), link)
    else if link.hasListener then (.error .listenerAlreadySet, link)
    else (.ok (), { link.withChannel { channel with pump := .fresh } with listener })

/-- Nobody holds the bridge any more. -/
def closeBridge (link : Link κ) : Link κ :=
  match link.listener with
  | .bridge bridge => if bridge.live then link.withBridge bridge.close else link
  | _ => link

/-- The description of a transport for a developer. -/
def describeTransport (link : Link κ) : String :=
  "TransportBase \x7b transport_id: " ++ quoted link.transport.id ++ ", has_listener: " ++
    (if link.hasListener then "true" else "false") ++ " \x7d"

end Link

end HostLink

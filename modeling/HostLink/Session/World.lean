import HostLink.Link
import HostLink.Session.Step

/-!
# Sessions: the world

The objects of a session.  Links are made one after the other and never go away; names refer to
them, and a link's bridge is held as long as a name or a running delivery holds it.  Nothing is
shared between two links.

Storing an object under a name lets go of the object that the name stood for.
-/

namespace HostLink

/-- The place of a link in its list. -/
abbrev LinkIndex := Nat

/-- The place of a callback in its list. -/
structure CallbackRef where
  index : Nat
deriving DecidableEq

/-- A callback of a session: it notes each call, and the `n`-th call then runs the `n`-th script. -/
structure Callback where
  subscription : String
  scripts : List (List Step)

/-- What the name of a bridge stands for: the bridge on a link, and the facade around it. -/
structure BridgeHandle where
  link : LinkIndex
  facade : Option Facade := none

/-- A reply: one of the bridge on a link, or one that was made without a bridge. -/
inductive ReplyRef where
  | ofBridge (link : LinkIndex) (ticket : Ticket)
  | detached (ticket : Ticket)

/-- The objects of a session, the time, and what the present step has brought so far. -/
structure World where
  now : Instant := 0
  links : List (Link CallbackRef) := []
  callbacks : List Callback := []
  /-- The replies made without a bridge. -/
  detached : List Reply := []
  /-- The transport pointers by name. -/
  transports : Fields LinkIndex := []
  /-- The native sides by name. -/
  natives : Fields LinkIndex := []
  bridges : Fields BridgeHandle := []
  replies : Fields ReplyRef := []
  settlers : Fields Settler := []
  subscriptions : Fields SubscriptionId := []
  /-- The links whose bridge a running delivery holds. -/
  pins : List LinkIndex := []
  /-- The links whose pump is about to run, first come first served. -/
  ready : List LinkIndex := []
  events : List Event := []
  log : List LogEvent := []

namespace World

/-! ## Notes -/

/-- Note an event. -/
def note (world : World) (event : Event) : World := { world with events := world.events ++ [event] }

/-- Write to the log. -/
def write (world : World) (log : List LogEvent) : World := { world with log := world.log ++ log }

/-! ## Links -/

/-- Put a link in the place of the present one. -/
def setLink (world : World) (index : LinkIndex) (link : Link CallbackRef) : World :=
  { world with links := world.links.set index link }

/-- Add a link; its index is the number of links before. -/
def addLink (world : World) (transport : Transport) : World :=
  { world with links := world.links ++ [{ transport := transport }] }

/-- Whether someone holds the bridge on a link. -/
def holdsBridge (world : World) (index : LinkIndex) : Bool :=
  world.bridges.any (fun handle => handle.2.link = index) || world.pins.contains index

/-- Whether someone holds the transport of a link: a pointer, or its bridge. -/
def holdsTransport (world : World) (index : LinkIndex) : Bool :=
  world.transports.any (fun pointer => pointer.2 = index) ||
    (world.links[index]?).any Link.hasLiveBridge

/-- Close the bridge on a link if nobody holds it. -/
def closeIfUnheld (world : World) (index : LinkIndex) : World :=
  match world.links[index]? with
  | some link =>
    if world.holdsBridge index then world else world.setLink index link.closeBridge
  | none => world

/-- Hold the bridge on a link. -/
def pin (world : World) (index : LinkIndex) : World := { world with pins := index :: world.pins }

/-- Let go of the bridge on a link that was held by `pin`. -/
def unpin (world : World) (index : LinkIndex) : World :=
  { world with pins := world.pins.erase index }.closeIfUnheld index

/-! ## Names -/

/-- Let a name stand for a bridge. -/
def storeBridge (world : World) (name : String) (handle : BridgeHandle) : World :=
  let stored := { world with bridges := Fields.insert name handle world.bridges }
  match Fields.lookup name world.bridges with
  | some old => stored.closeIfUnheld old.link
  | none => stored

/-- Let go of a reply. -/
def releaseReply (world : World) : ReplyRef → World
  | .ofBridge index ticket =>
    match world.links[index]? with
    | some link =>
      match link.bridge? with
      | some bridge => world.setLink index (link.withBridge (bridge.release ticket))
      | none => world
    | none => world
  | .detached ticket => { world with detached := world.detached.modify ticket Reply.release }

/-- Let a name stand for a reply. -/
def storeReply (world : World) (name : String) (reply : ReplyRef) : World :=
  let stored := { world with replies := Fields.insert name reply world.replies }
  match Fields.lookup name world.replies with
  | some old => stored.releaseReply old
  | none => stored

/-- Let a name stand for nothing and let go of its reply. -/
def dropReply (world : World) (name : String) (reply : ReplyRef) : World :=
  { world with replies := Fields.erase name world.replies }.releaseReply reply

/-- Let go of a settler. -/
def releaseSettler (world : World) (settler : Settler) : World :=
  { world with detached := settler.drop world.detached }

/-- Let a name stand for a settler. -/
def storeSettler (world : World) (name : String) (settler : Settler) : World :=
  let stored := { world with settlers := Fields.insert name settler world.settlers }
  match Fields.lookup name world.settlers with
  | some old => stored.releaseSettler old
  | none => stored

/-! ## Pumps -/

/-- Wake the pump of a link if it waits. -/
def wakePump (world : World) (index : LinkIndex) : World :=
  match world.links[index]? with
  | some link =>
    match link.channel? with
    | some channel =>
      if channel.pump = .waiting then
        { world.setLink index (link.withChannel channel.wake) with ready := world.ready ++ [index] }
      else world
    | none => world
  | none => world

/-- Close the native endpoint of a link: what it has not received is lost, what it has posted is
not. -/
def closeEndpoint (world : World) (index : LinkIndex) : World :=
  match world.links[index]? with
  | some link =>
    match link.channel? with
    | some channel =>
      (world.setLink index
        (link.withChannel { channel with endpointOpen := false, outbox := [] })).wakePump index
    | none => world
  | none => world

/-- Let a name stand for the native side of a link; an endpoint that it stood for is closed. -/
def storeNative (world : World) (name : String) (index : LinkIndex) : World :=
  let stored := { world with natives := Fields.insert name index world.natives }
  match Fields.lookup name world.natives with
  | some old => stored.closeEndpoint old
  | none => stored

/-- The messages that wait for a pump, on all links. -/
def backlog (world : World) : Nat :=
  world.links.foldl
    (fun n link => n + (link.channel?.map fun channel => channel.inbox.length).getD 0) 0

/-- The number of scripts that callbacks have left, at any depth. -/
def scriptCount (world : World) : Nat :=
  world.callbacks.foldl (fun n callback => n + scriptCountOfScripts callback.scripts) 0

/-- The number of steps in the scripts that callbacks have left, at any depth. -/
def stepCount (world : World) : Nat :=
  world.callbacks.foldl (fun n callback => n + stepCountOfScripts callback.scripts) 0

end World
end HostLink

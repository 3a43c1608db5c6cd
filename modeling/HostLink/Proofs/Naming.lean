import HostLink.Session.Run

/-!
# The names in a step

A step speaks of the objects of a session by their names alone, those that it looks up as well as
those that it lets stand for something new.  `Step.names` lists them, by the kind of object.  Two
things can be read off the list: which links a step addresses in a given world, and whether a step
keeps within one part of all names, with the scripts that it carries.
-/

namespace HostLink

/-- A name, by the kind of object that it stands for. -/
inductive Name where
  | transport (name : String)
  | native (name : String)
  | bridge (name : String)
  | reply (name : String)
  | settler (name : String)
  | subscription (name : String)
deriving DecidableEq

/-- The names in a step, apart from those in the scripts that it carries. -/
def Step.names : Step → List Name
  | .createMemory name _ | .createChannel name _ => [.transport name, .native name]
  | .transportInfo name | .dropTransport name | .postMessage name _ | .sendSyncMessage name _
  | .observe name => [.transport name]
  | .posted name | .takePosted name | .postedJson name | .hasListener name | .deliver name _
  | .deliverJson name _ | .setOffline name _ | .onSync name _ | .recv name | .recvJson name
  | .endpointPost name _ | .endpointPostJson name _ | .endpointReply name _ _ _
  | .endpointReplyError name _ _ _ | .dropEndpoint name => [.native name]
  | .openBridge transport name _ _ | .buildBridge transport name _
  | .openFacade name _ (.transport transport) => [.transport transport, .bridge name]
  | .openFacade name _ (.bridge bridge) => [.bridge bridge, .bridge name]
  | .cloneBridge name copy => [.bridge name, .bridge copy]
  | .dropBridge name | .showConfig name | .describe name | .sendSync name _ _ | .onReply name _
  | .dispatch name _ _ | .pendingCount name | .isPending name _ | .subscriptionCount name =>
    [.bridge name]
  | .call name reply _ | .send name reply _ _ _ => [.bridge name, .reply reply]
  | .subscribe name subscription _ _ | .unsubscribe name subscription =>
    [.bridge name, .subscription subscription]
  | .advance _ => []
  | .createSettler name reply _ => [.settler name, .reply reply]
  | .resolve name _ | .reject name _ | .fail name _ | .settlerInfo name | .dropSettler name =>
    [.settler name]
  | .poll name | .decodeReply name _ | .withTimeout name _ | .replyInfo name | .dropReply name =>
    [.reply name]

/-! ## The links that a step addresses -/

/-- The link of a reply, if it is one of a bridge. -/
def ReplyRef.link? : ReplyRef → Option LinkIndex
  | .ofBridge index _ => some index
  | .detached _ => none

/-- The link that a name stands for: by a transport, its native side, its bridge or a reply of that
bridge. -/
def World.linkOf? (world : World) : Name → Option LinkIndex
  | .transport name => Fields.lookup name world.transports
  | .native name => Fields.lookup name world.natives
  | .bridge name => (Fields.lookup name world.bridges).map BridgeHandle.link
  | .reply name => (Fields.lookup name world.replies).bind ReplyRef.link?
  | .settler _ | .subscription _ => none

/-- A name in the step stands for the link. -/
def Step.Addresses (step : Step) (world : World) (index : LinkIndex) : Prop :=
  ∃ name ∈ step.names, world.linkOf? name = some index

instance (step : Step) (world : World) (index : LinkIndex) :
    Decidable (step.Addresses world index) :=
  inferInstanceAs (Decidable (∃ name ∈ step.names, world.linkOf? name = some index))

/-- All names in the step are in the given part. -/
def Step.within (part : Name → Bool) (step : Step) : Bool := step.names.all part

end HostLink

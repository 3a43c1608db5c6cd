import HostLink.Bridge.Inbound
import HostLink.Decode.Target
import HostLink.Decode.Text
import HostLink.Facade
import HostLink.Transport

/-!
# Sessions: steps and answers

A session runs steps one after the other over named objects: transports with their native sides,
bridges, replies, settlers and subscriptions.  A step gives one answer, and besides it there may be
events: what callbacks and observers saw while the step ran.
-/

namespace HostLink

/-! ## Choosing a configuration -/

/-- A configuration that ships with the runtime. -/
inductive Preset where
  | deviceCapabilities
  | contacts
  | drone
  | named (name : String)
  | standard

namespace Preset

/-- The configuration of a preset. -/
def config : Preset → Config
  | .deviceCapabilities => .deviceCapabilities
  | .contacts => .contacts
  | .drone => .drone
  | .named name => .named name
  | .standard => {}

end Preset

/-- A configuration as JSON text or by preset. -/
inductive ConfigChoice where
  | text (json : String)
  | shipped (preset : Preset)

namespace ConfigChoice

/-- The configuration chosen, unless its text does not decode. -/
def resolve : ConfigChoice → Except BridgeError Config
  | .shipped preset => .ok preset.config
  | .text json =>
    match Config.ofJsonText json with
    | .ok config => .ok config
    | .error e => .error (.serialization (.ofDecode e))

end ConfigChoice

/-! ## Steps -/

/-- Where a new facade's bridge comes from. -/
inductive FacadeSource where
  /-- A new bridge on the transport of this name. -/
  | transport (name : String)
  /-- The bridge of this name. -/
  | bridge (name : String)

/-- One step of a session.  Objects are named by texts. -/
inductive Step where
  -- transports
  | createMemory (transport id : String)
  | createChannel (transport id : String)
  | transportInfo (transport : String)
  | dropTransport (transport : String)
  | postMessage (transport text : String)
  | sendSyncMessage (transport text : String)
  | observe (transport : String)
  -- memory hosts
  | posted (transport : String)
  | takePosted (transport : String)
  | postedJson (transport : String)
  | hasListener (transport : String)
  | deliver (transport text : String)
  | deliverJson (transport : String) (value : Json)
  | setOffline (transport : String) (offline : Bool)
  | onSync (transport : String) (responder : SyncResponder)
  -- native endpoints
  | recv (transport : String)
  | recvJson (transport : String)
  | endpointPost (transport text : String)
  | endpointPostJson (transport : String) (value : Json)
  | endpointReply (transport : String) (wire : WireFormat) (request data : Json)
  | endpointReplyError (transport : String) (wire : WireFormat) (request error : Json)
  | dropEndpoint (transport : String)
  -- bridges
  | openBridge (transport bridge : String) (choice : ConfigChoice) (runtime : Bool)
  | buildBridge (transport bridge : String) (edits : List ConfigEdit)
  | openFacade (bridge : String) (facade : Facade) (source : FacadeSource)
  | call (bridge reply : String) (action : FacadeCall)
  | cloneBridge (bridge copy : String)
  | dropBridge (bridge : String)
  | showConfig (bridge : String)
  | describe (bridge : String)
  | send (bridge reply command : String) (payload : Datum) (timeout : Option Nanoseconds)
  | sendSync (bridge command : String) (payload : Datum)
  | onReply (bridge text : String)
  | dispatch (bridge event : String) (value : Json)
  /-- The `n`-th script runs when the callback is called for the `n`-th time. -/
  | subscribe (bridge subscription event : String) (scripts : List (List Step))
  | unsubscribe (bridge subscription : String)
  | pendingCount (bridge : String)
  | isPending (bridge : String) (id : CorrelationId)
  | subscriptionCount (bridge : String)
  -- time
  | advance (time : Nanoseconds)
  -- replies and settlers
  | createSettler (settler reply : String) (id : CorrelationId)
  | resolve (settler : String) (value : Json)
  | reject (settler : String) (value : Json)
  | fail (settler : String) (error : BridgeError)
  | settlerInfo (settler : String)
  | dropSettler (settler : String)
  | poll (reply : String)
  | decodeReply (reply : String) (target : DecodeTarget)
  | withTimeout (reply : String) (timeout : Nanoseconds)
  | replyInfo (reply : String)
  | dropReply (reply : String)

mutual
/-- The number of scripts inside a step, at any depth. -/
def Step.scriptCount : Step → Nat
  | .subscribe _ _ _ scripts => scriptCountOfScripts scripts
  | _ => 0

/-- The number of scripts inside the steps of a script. -/
def scriptCountOfSteps : List Step → Nat
  | [] => 0
  | step :: rest => step.scriptCount + scriptCountOfSteps rest

/-- The number of scripts in a list of them, at any depth. -/
def scriptCountOfScripts : List (List Step) → Nat
  | [] => 0
  | script :: rest => scriptCountOfSteps script + 1 + scriptCountOfScripts rest
end

mutual
/-- The number of steps in the scripts inside a step, at any depth. -/
def Step.stepCount : Step → Nat
  | .subscribe _ _ _ scripts => stepCountOfScripts scripts
  | _ => 0

/-- The number of steps of a script, at any depth. -/
def stepCountOfSteps : List Step → Nat
  | [] => 0
  | step :: rest => step.stepCount + 1 + stepCountOfSteps rest

/-- The number of steps in a list of scripts, at any depth. -/
def stepCountOfScripts : List (List Step) → Nat
  | [] => 0
  | script :: rest => stepCountOfSteps script + stepCountOfScripts rest
end

/-! ## Answers -/

/-- What a step answers. -/
inductive Answer where
  | done
  | failed (error : BridgeError)
  /-- The object is absent or was used up. -/
  | gone
  | transportInfo (id description : String) (hasListener : Bool)
  | dropped (present : Bool)
  | text (text : String)
  | value (value : Json)
  | posted (messages : List String)
  | postedJson (messages : List Json)
  | hasListener (installed : Bool)
  /-- Nothing to receive or to read yet. -/
  | pending
  /-- Nothing will ever be received. -/
  | closed
  | config (config : Config)
  | description (text : String)
  | request (id : CorrelationId)
  | subscription (id : SubscriptionId)
  | removed (present : Bool)
  | pendingCount (count : Nat)
  | isPending (waiting : Bool)
  | subscriptionCount (count : Nat)
  | settler (id : CorrelationId) (settled : Bool)
  | resolved (payload : Json)
  | decoded (decoded : Decoded)
  | reply (id : CorrelationId) (deadline : Option Instant)

/-- What callbacks and observers saw. -/
inductive Event where
  /-- A callback was called with a payload. -/
  | called (subscription : String) (payload : Json)
  /-- A callback ran a step of its script. -/
  | ran (subscription : String) (answer : Answer)
  /-- An observer heard a message. -/
  | heard (transport text : String)

end HostLink

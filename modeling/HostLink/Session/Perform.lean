import HostLink.Session.World

/-!
# Sessions: performing a step

What each step does to the world and what it answers.  Calling callbacks is left open: `invoke` says
what a call does to the world, and `HostLink.Session.Run` closes the loop.

A delivery holds the bridge that it goes to until the last callback has returned.
-/

namespace HostLink
namespace World

/-- What a call of a callback does to the world. -/
abbrev Invoke := CallbackRef → Snapshot → World → World

/-! ## Deliveries -/

/-- Call callbacks one after the other. -/
def fanOut (invoke : Invoke) (calls : FanOut CallbackRef) (world : World) : World :=
  calls.callbacks.foldl (fun world callback => invoke callback calls.payload world) world

/-- Call callbacks while the bridge on a link is held. -/
def fanOutHeld (invoke : Invoke) (index : LinkIndex) (calls : FanOut CallbackRef)
    (world : World) : World :=
  (fanOut invoke calls (world.pin index)).unpin index

/-- A message comes in at the bridge on a link. -/
def receive (invoke : Invoke) (index : LinkIndex) (link : Link CallbackRef)
    (bridge : Bridge CallbackRef) (message : String) (world : World) : World :=
  let (received, log, calls) := bridge.receive world.now message
  fanOutHeld invoke index calls ((world.setLink index (link.withBridge received)).write log)

/-- A message comes in at the listener of a link. -/
def deliver (invoke : Invoke) (index : LinkIndex) (message : String) (world : World) : World :=
  match world.links[index]? with
  | none => world
  | some link =>
    match link.listener with
    | .nobody => world
    | .observer name => world.note (.heard name message)
    | .bridge bridge =>
      if bridge.live then receive invoke index link bridge message world
      else world.write [.bridgeGone]

/-! ## Objects by name -/

/-- Act on the link that a transport name stands for. -/
def onTransport (world : World) (name : String)
    (act : LinkIndex → Link CallbackRef → Answer × World) : Answer × World :=
  match Fields.lookup name world.transports with
  | none => (.gone, world)
  | some index =>
    match world.links[index]? with
    | some link => act index link
    | none => (.gone, world)

/-- Act on the native side that a name stands for. -/
def onNative (world : World) (name : String)
    (act : LinkIndex → Link CallbackRef → Answer × World) : Answer × World :=
  match Fields.lookup name world.natives with
  | none => (.gone, world)
  | some index =>
    match world.links[index]? with
    | some link => act index link
    | none => (.gone, world)

/-- Act on the host that a name stands for. -/
def onHost (world : World) (name : String)
    (act : LinkIndex → Link CallbackRef → MemoryHost → Answer × World) : Answer × World :=
  world.onNative name fun index link =>
    match link.host? with
    | some host => act index link host
    | none => (.gone, world)

/-- Act on the endpoint that a name stands for. -/
def onEndpoint (world : World) (name : String)
    (act : LinkIndex → Link CallbackRef → Channel → Answer × World) : Answer × World :=
  world.onNative name fun index link =>
    match link.channel? with
    | some channel => act index link channel
    | none => (.gone, world)

/-- Act on the bridge that a name stands for. -/
def onBridge (world : World) (name : String)
    (act : BridgeHandle → Link CallbackRef → Bridge CallbackRef → Answer × World) :
    Answer × World :=
  match Fields.lookup name world.bridges with
  | none => (.gone, world)
  | some handle =>
    match world.links[handle.link]? with
    | none => (.gone, world)
    | some link =>
      match link.bridge? with
      | some bridge => act handle link bridge
      | none => (.gone, world)

/-- Act on the reply that a name stands for. -/
def onReply (world : World) (name : String) (act : ReplyRef → Answer × World) :
    Answer × World :=
  match Fields.lookup name world.replies with
  | some reply => act reply
  | none => (.gone, world)

/-- Act on the settler that a name stands for. -/
def onSettler (world : World) (name : String) (act : Settler → Answer × World) :
    Answer × World :=
  match Fields.lookup name world.settlers with
  | some settler => act settler
  | none => (.gone, world)

/-- The answer of an operation that gives nothing but its success. -/
def answerUnit : Except BridgeError Unit → Answer
  | .ok () => .done
  | .error error => .failed error

/-- Put in place what an operation of a bridge left behind. -/
def commit {α : Type} (world : World) (index : LinkIndex) (acted : Acted CallbackRef α) : World :=
  (world.setLink index { transport := acted.transport, listener := .bridge acted.bridge }).write
    acted.log

/-- Put in place a bridge and the log that it wrote. -/
def update (world : World) (index : LinkIndex) (link : Link CallbackRef)
    (bridge : Bridge CallbackRef) (log : List LogEvent) : World :=
  (world.setLink index (link.withBridge bridge)).write log

/-! ## Transports and their native sides -/

/-- Make a transport and let a name stand for it and for its native side. -/
def createTransport (world : World) (name : String) (transport : Transport) : World :=
  let index := world.links.length
  let added := world.addLink transport
  { added with transports := Fields.insert name index added.transports }.storeNative name index

/-- Install a listener; over a channel that lets the pump start. -/
def installListener (world : World) (index : LinkIndex) (link : Link CallbackRef)
    (runtime : Bool) (listener : Listener CallbackRef) : Except BridgeError Unit × World :=
  match link.install runtime listener with
  | (.error error, _) => (.error error, world)
  | (.ok (), installed) =>
    let listening := world.setLink index installed
    if installed.channel?.isSome then
      (.ok (), { listening with ready := listening.ready ++ [index] })
    else (.ok (), listening)

/-- The host hands a message to the listener. -/
def hostDeliver (invoke : Invoke) (world : World) (index : LinkIndex) (link : Link CallbackRef)
    (message : String) : Answer × World :=
  if link.hasListener then
    (.done, deliver invoke index message (world.write [.delivered link.transport.id message]))
  else (.failed (.transport (.noListener link.transport.id)), world)

/-- The endpoint receives the next message, which `answer` shows. -/
def endpointReceive (world : World) (index : LinkIndex) (link : Link CallbackRef)
    (channel : Channel) (answer : String → Answer) : Answer × World :=
  match channel.outbox with
  | message :: rest =>
    (answer message, world.setLink index (link.withChannel { channel with outbox := rest }))
  | [] => (if world.holdsTransport index then .pending else .closed, world)

/-- The endpoint posts a message. -/
def endpointPost (world : World) (index : LinkIndex) (link : Link CallbackRef)
    (channel : Channel) (message : String) : Answer × World :=
  if channel.takesInbound (world.holdsTransport index) then
    (.done, (world.setLink index
      (link.withChannel { channel with inbox := channel.inbox ++ [message] })).wakePump index)
  else (.failed (.transport .bridgeSideClosed), world)

/-- The endpoint posts a message that may not exist. -/
def endpointPostResult (world : World) (index : LinkIndex) (link : Link CallbackRef)
    (channel : Channel) : Except BridgeError Json → Answer × World
  | .ok message => world.endpointPost index link channel message.compact
  | .error error => (.failed error, world)

/-- What an endpoint reads in a message. -/
def readMessage (message : String) : Answer :=
  match Json.parse message with
  | .ok value => .value value
  | .error e => .failed (.malformedEnvelope (.invalidJson e))

/-! ## Bridges -/

/-- Open a bridge on a link and let a name stand for it. -/
def openBridge (world : World) (index : LinkIndex) (link : Link CallbackRef) (runtime : Bool)
    (config : Config) (name : String) (facade : Option Facade) : Answer × World :=
  match world.installListener index link runtime (.bridge { config := config }) with
  | (.error error, _) => (.failed error, world)
  | (.ok (), opened) =>
    (.done, (opened.write [.bridgeReady config.extension link.transport.id]).storeBridge name
      { link := index, facade })

/-- Send a request and let a name stand for its reply. -/
def send (world : World) (handle : BridgeHandle) (link : Link CallbackRef)
    (bridge : Bridge CallbackRef) (name command : String) (payload : Datum)
    (timeout : Option Nanoseconds) : Answer × World :=
  let sent := bridge.send link.transport world.now command payload timeout
  (.request bridge.nextId,
    (world.commit handle.link sent).storeReply name (.ofBridge handle.link sent.answer))

/-- Subscribe a callback with scripts and let a name stand for the subscription. -/
def subscribe (world : World) (handle : BridgeHandle) (link : Link CallbackRef)
    (bridge : Bridge CallbackRef) (name event : String) (scripts : List (List Step)) :
    Answer × World :=
  let callback : CallbackRef := ⟨world.callbacks.length⟩
  let acted := bridge.subscribe link.transport event callback
  let after := world.commit handle.link acted
  match acted.answer with
  | .error error => (.failed error, after)
  | .ok id =>
    (.subscription id,
      { after with
        callbacks := after.callbacks ++ [{ subscription := name, scripts }]
        subscriptions := Fields.insert name id after.subscriptions })

/-- Describe a bridge, after expiry, with the facade around it. -/
def describe (world : World) (handle : BridgeHandle) (link : Link CallbackRef)
    (bridge : Bridge CallbackRef) : Answer × World :=
  let (pending, swept, log) := bridge.pendingCount world.now
  let text := Facade.describeBridge swept.extension link.transport.id pending swept.registry.size
  (.description (match handle.facade with
      | some facade => facade.describe text
      | none => text),
    world.update handle.link link swept log)

/-! ## Replies and settlers -/

/-- The reply itself. -/
def reply? (world : World) : ReplyRef → Option Reply
  | .ofBridge index ticket =>
    ((world.links[index]?).bind Link.bridge?).bind fun bridge => bridge.replies[ticket]?
  | .detached ticket => world.detached[ticket]?

/-- The caller looks at a reply. -/
def pollReply (world : World) : ReplyRef → Option Outcome × World
  | .ofBridge index ticket =>
    match world.links[index]? with
    | none => (none, world)
    | some link =>
      match link.bridge? with
      | none => (none, world)
      | some bridge =>
        let (outcome, polled, log) := bridge.poll world.now ticket
        (outcome, world.update index link polled log)
  | .detached ticket =>
    let (outcome, replies, log) := Reply.poll world.now ticket world.detached
    (outcome, { world with detached := replies }.write log)

/-- Let a reply expire `timeout` from now. -/
def armReply (world : World) (timeout : Nanoseconds) : ReplyRef → World
  | .ofBridge index ticket =>
    match world.links[index]? with
    | none => world
    | some link =>
      match link.bridge? with
      | none => world
      | some bridge => world.setLink index (link.withBridge (bridge.arm world.now ticket timeout))
  | .detached ticket =>
    { world with
      detached := world.detached.modify ticket (Reply.expireAt (world.now + timeout)) }

/-- The answer to a look at a ready reply. -/
def answerOutcome : Outcome → Answer
  | .ok payload => .resolved payload.toJson
  | .error error => .failed error

/-- The answer to a look at a ready reply whose payload is to be decoded. -/
def answerDecoded (target : DecodeTarget) : Outcome → Answer
  | .ok payload =>
    match payload.decode target with
    | .ok decoded => .decoded decoded
    | .error error => .failed error
  | .error error => .failed error

/-- Settle through the settler that a name stands for. -/
def settle (world : World) (name : String) (settler : Settler) (outcome : Outcome) :
    Answer × World :=
  let (result, settled, replies, log) := settler.settle outcome world.detached
  (answerUnit result,
    { world with
      detached := replies
      settlers := Fields.insert name settled world.settlers }.write log)

end World

/-! ## Steps -/

/-- Perform a step, where a call of a callback does to the world what `invoke` says. -/
def Step.perform (invoke : World.Invoke) (world : World) : Step → Answer × World
  | .createMemory name id =>
    (.done, (world.write [.transportCreated id]).createTransport name
      { id, medium := .memory {} })
  | .createChannel name id =>
    (.done, world.createTransport name { id, medium := .channel {} })
  | .transportInfo name =>
    world.onTransport name fun _ link =>
      (.transportInfo link.transport.id link.describeTransport link.hasListener, world)
  | .dropTransport name =>
    (.dropped (Fields.contains name world.transports),
      { world with transports := Fields.erase name world.transports })
  | .postMessage name text =>
    world.onTransport name fun index link =>
      let (result, transport, log) := link.transport.post text
      (World.answerUnit result, (world.setLink index { link with transport }).write log)
  | .sendSyncMessage name text =>
    world.onTransport name fun index link =>
      let (result, transport) := link.transport.sendSync text
      (match result with
        | .ok answer => .text answer
        | .error error => .failed error,
        world.setLink index { link with transport })
  | .observe name =>
    world.onTransport name fun index link =>
      let (result, observed) := world.installListener index link true (.observer name)
      (World.answerUnit result, observed)
  | .posted name => world.onHost name fun _ _ host => (.posted host.outbox, world)
  | .takePosted name =>
    world.onHost name fun index link host =>
      (.posted host.outbox, world.setLink index (link.withHost { host with outbox := [] }))
  | .postedJson name =>
    world.onHost name fun _ _ host =>
      (.postedJson (host.outbox.filterMap fun text => (Json.parse text).toOption), world)
  | .hasListener name =>
    world.onHost name fun _ link _ => (.hasListener link.hasListener, world)
  | .deliver name text =>
    world.onHost name fun index link _ => world.hostDeliver invoke index link text
  | .deliverJson name value =>
    world.onHost name fun index link _ => world.hostDeliver invoke index link value.compact
  | .setOffline name offline =>
    world.onHost name fun index link host =>
      (.done, world.setLink index (link.withHost { host with offline }))
  | .onSync name responder =>
    world.onHost name fun index link host =>
      (.done, world.setLink index (link.withHost { host with responder := some responder }))
  | .recv name =>
    world.onEndpoint name fun index link channel =>
      world.endpointReceive index link channel .text
  | .recvJson name =>
    world.onEndpoint name fun index link channel =>
      world.endpointReceive index link channel World.readMessage
  | .endpointPost name text =>
    world.onEndpoint name fun index link channel => world.endpointPost index link channel text
  | .endpointPostJson name value =>
    world.onEndpoint name fun index link channel =>
      world.endpointPost index link channel value.compact
  | .endpointReply name wire request data =>
    world.onEndpoint name fun index link channel =>
      world.endpointPostResult index link channel (wire.replyTo request data)
  | .endpointReplyError name wire request error =>
    world.onEndpoint name fun index link channel =>
      world.endpointPostResult index link channel (wire.replyErrorTo request error)
  | .dropEndpoint name =>
    world.onEndpoint name fun index _ _ =>
      (.done, { world with natives := Fields.erase name world.natives }.closeEndpoint index)
  | .openBridge transport name choice runtime =>
    match choice.resolve with
    | .error error => (.failed error, world)
    | .ok config =>
      world.onTransport transport fun index link =>
        world.openBridge index link runtime config name none
  | .buildBridge transport name edits =>
    world.onTransport transport fun index link =>
      world.openBridge index link true (ConfigEdit.build edits) name none
  | .openFacade name facade (.transport transport) =>
    world.onTransport transport fun index link =>
      world.openBridge index link true facade.config name (some facade)
  | .openFacade name facade (.bridge bridge) =>
    world.onBridge bridge fun handle _ _ =>
      (.done, world.storeBridge name { handle with facade := some facade })
  | .call name reply action =>
    world.onBridge name fun handle link bridge =>
      world.send handle link bridge reply action.command action.payload none
  | .cloneBridge name copy =>
    world.onBridge name fun handle _ _ =>
      (.done, world.storeBridge copy { link := handle.link })
  | .dropBridge name =>
    match Fields.lookup name world.bridges with
    | none => (.dropped false, world)
    | some handle =>
      (.dropped true,
        { world with bridges := Fields.erase name world.bridges }.closeIfUnheld handle.link)
  | .showConfig name => world.onBridge name fun _ _ bridge => (.config bridge.config, world)
  | .describe name => world.onBridge name world.describe
  | .send name reply command payload timeout =>
    world.onBridge name fun handle link bridge =>
      world.send handle link bridge reply command payload timeout
  | .sendSync name command payload =>
    world.onBridge name fun handle link bridge =>
      let (result, transport) := Bridge.sendSync bridge.config link.transport command payload
      (match result with
        | .ok value => .value value
        | .error error => .failed error,
        world.setLink handle.link { link with transport })
  | .onReply name text =>
    world.onBridge name fun handle link bridge =>
      (.done, World.receive invoke handle.link link bridge text world)
  | .dispatch name event value =>
    world.onBridge name fun handle _ bridge =>
      let (log, calls) := bridge.dispatch event value
      (.done, World.fanOutHeld invoke handle.link calls (world.write log))
  | .subscribe name subscription event scripts =>
    world.onBridge name fun handle link bridge =>
      world.subscribe handle link bridge subscription event scripts
  | .unsubscribe name subscription =>
    world.onBridge name fun handle link bridge =>
      match Fields.lookup subscription world.subscriptions with
      | none => (.gone, world)
      | some id =>
        let (present, unsubscribed) := bridge.unsubscribe id
        (.removed present, world.update handle.link link unsubscribed [])
  | .pendingCount name =>
    world.onBridge name fun handle link bridge =>
      let (count, swept, log) := bridge.pendingCount world.now
      (.pendingCount count, world.update handle.link link swept log)
  | .isPending name id =>
    world.onBridge name fun handle link bridge =>
      let (waiting, swept, log) := bridge.isPending world.now id
      (.isPending waiting, world.update handle.link link swept log)
  | .subscriptionCount name =>
    world.onBridge name fun _ _ bridge => (.subscriptionCount bridge.registry.size, world)
  | .advance time => (.done, { world with now := world.now + time })
  | .createSettler name reply id =>
    let (settler, replies) := Settler.channel id world.detached
    (.request id, ({ world with detached := replies }.storeSettler name settler).storeReply reply
      (.detached settler.ticket))
  | .resolve name value =>
    world.onSettler name fun settler =>
      world.settle name settler (Settlement.resolve (.freeze value)).outcome
  | .reject name value =>
    world.onSettler name fun settler =>
      world.settle name settler (Settlement.reject value).outcome
  | .fail name error =>
    world.onSettler name fun settler =>
      world.settle name settler (Settlement.fail error).outcome
  | .settlerInfo name =>
    world.onSettler name fun settler => (.settler settler.id settler.settled, world)
  | .dropSettler name =>
    world.onSettler name fun settler =>
      (.done, { world with settlers := Fields.erase name world.settlers }.releaseSettler settler)
  | .poll name =>
    world.onReply name fun reply =>
      match world.pollReply reply with
      | (none, polled) => (.pending, polled)
      | (some outcome, polled) =>
        (World.answerOutcome outcome, { polled with replies := Fields.erase name polled.replies })
  | .decodeReply name target =>
    world.onReply name fun reply =>
      match world.pollReply reply with
      | (none, polled) => (.pending, polled.dropReply name reply)
      | (some outcome, polled) =>
        (World.answerDecoded target outcome,
          { polled with replies := Fields.erase name polled.replies })
  | .withTimeout name timeout =>
    world.onReply name fun ref =>
      match world.reply? ref with
      | some reply => (.request reply.id, world.armReply timeout ref)
      | none => (.gone, world)
  | .replyInfo name =>
    world.onReply name fun ref =>
      match world.reply? ref with
      | some reply => (.reply reply.id reply.deadline, world)
      | none => (.gone, world)
  | .dropReply name =>
    world.onReply name fun reply => (.done, world.dropReply name reply)

end HostLink

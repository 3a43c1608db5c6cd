import HostLink.Proofs.Envelopes
import HostLink.Proofs.Runs
import HostLink.Session.Run

/-!
# A session over one channel

`World.Carries` describes the world of a session that has made one channel transport and opened one
bridge on it, as far as both sides can tell: the state of the channel, the bridge, and whether the
pump will run.  Each step of either side, and each run of the pumps, is then one lemma that gives
the channel and the bridge behind it.

The pump takes the messages of the endpoint to the bridge in order, and its fuel lasts: each message
takes one unit, and going back to wait takes one more (`World.Carries.runPumps`).
-/

namespace HostLink
namespace World

/-- The world consists of one channel transport, under one name for both of its sides, and one
bridge on it. -/
structure Wired (transport bridgeName : String) (world : World) (channel : Channel)
    (bridge : Bridge CallbackRef) : Prop where
  links : ∃ id, world.links = [⟨⟨id, .channel channel⟩, .bridge bridge⟩]
  transports : world.transports = [(transport, 0)]
  natives : world.natives = [(transport, 0)]
  bridges : world.bridges = [(bridgeName, { link := 0 })]
  endpointOpen : channel.endpointOpen = true
  live : bridge.live = true

/-- Moreover the pump waits at an empty queue, or is about to run. -/
structure Carries (transport bridgeName : String) (world : World) (channel : Channel)
    (bridge : Bridge CallbackRef) : Prop
    extends Wired transport bridgeName world channel bridge where
  pump : (channel.pump = .waiting ∧ channel.inbox = [] ∧ world.ready = []) ∨
    ((channel.pump = .fresh ∨ channel.pump = .awake) ∧ world.ready = [0])

variable {transport bridgeName : String} {world : World} {channel : Channel}
  {bridge : Bridge CallbackRef}

namespace Wired

theorem of_same {after : World} (h : world.Wired transport bridgeName channel bridge)
    (hlinks : after.links = world.links) (htransports : after.transports = world.transports)
    (hnatives : after.natives = world.natives) (hbridges : after.bridges = world.bridges) :
    after.Wired transport bridgeName channel bridge := by
  obtain ⟨links, transports, natives, bridges, endpointOpen, live⟩ := h
  constructor
  · rwa [hlinks]
  · rwa [htransports]
  · rwa [hnatives]
  · rwa [hbridges]
  · exact endpointOpen
  · exact live

theorem link_zero (h : world.Wired transport bridgeName channel bridge) :
    ∃ id, world.links[0]? = some ⟨⟨id, .channel channel⟩, .bridge bridge⟩ := by
  obtain ⟨id, hlinks⟩ := h.links
  rw [hlinks]
  exact ⟨id, rfl⟩

/-- Another state of the channel, and another bridge. -/
theorem setLink (h : world.Wired transport bridgeName channel bridge) (id : String)
    (channel' : Channel) {bridge' : Bridge CallbackRef} (hopen : channel'.endpointOpen = true)
    (hlive : bridge'.live = true) :
    (world.setLink 0 ⟨⟨id, .channel channel'⟩, .bridge bridge'⟩).Wired transport bridgeName
      channel' bridge' := by
  obtain ⟨⟨oldId, links⟩, transports, natives, bridges, -, -⟩ := h
  refine ⟨⟨id, ?_⟩, transports, natives, bridges, hopen, hlive⟩
  simp [World.setLink, links]

/-- Nothing changes when a delivery lets go of the bridge, since its name holds it. -/
theorem unpin_pin (h : world.Wired transport bridgeName channel bridge) :
    (world.pin 0).unpin 0 = world := by
  have hpins : (0 :: world.pins).erase 0 = world.pins := List.erase_cons_head ..
  obtain ⟨id, hlink⟩ := h.link_zero
  have hholds : world.holdsBridge 0 = true := by
    simp [World.holdsBridge, h.bridges]
  unfold World.unpin World.pin
  rw [hpins]
  show world.closeIfUnheld 0 = world
  unfold World.closeIfUnheld
  rw [hlink]
  exact if_pos hholds

end Wired

namespace Carries

theorem of_same {after : World} (h : world.Carries transport bridgeName channel bridge)
    (hlinks : after.links = world.links) (htransports : after.transports = world.transports)
    (hnatives : after.natives = world.natives) (hbridges : after.bridges = world.bridges)
    (hready : after.ready = world.ready) : after.Carries transport bridgeName channel bridge := by
  refine ⟨h.toWired.of_same hlinks htransports hnatives hbridges, ?_⟩
  rw [hready]
  exact h.pump

/-- Another bridge, and a channel that differs in what was posted to the native side. -/
theorem setLink (h : world.Carries transport bridgeName channel bridge) (id : String)
    (outbox : List String) {bridge' : Bridge CallbackRef} (hlive : bridge'.live = true) :
    (world.setLink 0 ⟨⟨id, .channel { channel with outbox }⟩, .bridge bridge'⟩).Carries transport
      bridgeName { channel with outbox } bridge' :=
  ⟨h.toWired.setLink id _ h.endpointOpen hlive, h.pump⟩

end Carries

/-! ## Steps of the bridge's side -/

theorem Carries.releaseReply (h : world.Carries transport bridgeName channel bridge)
    (reply : ReplyRef) :
    (world.releaseReply reply).Carries transport bridgeName channel bridge ∨
      ∃ ticket, (world.releaseReply reply).Carries transport bridgeName channel
        (bridge.release ticket) := by
  obtain ⟨id, hlinks⟩ := h.links
  unfold World.releaseReply
  cases reply with
  | detached ticket => exact .inl (h.of_same rfl rfl rfl rfl rfl)
  | ofBridge index ticket =>
    cases index with
    | zero =>
      right
      refine ⟨ticket, ?_⟩
      simp only [hlinks, List.getElem?_cons_zero, Link.bridge?]
      exact h.setLink id channel.outbox h.live
    | succ index =>
      left
      simp only [hlinks, List.getElem?_cons_succ, List.getElem?_nil]
      exact h

theorem Carries.storeReply (h : world.Carries transport bridgeName channel bridge) (name : String)
    (reply : ReplyRef) :
    (world.storeReply name reply).Carries transport bridgeName channel bridge ∨
      ∃ ticket, (world.storeReply name reply).Carries transport bridgeName channel
        (bridge.release ticket) := by
  have hstored : Carries transport bridgeName
      { world with replies := Fields.insert name reply world.replies } channel bridge :=
    h.of_same rfl rfl rfl rfl rfl
  simp only [World.storeReply]
  split
  · exact hstored.releaseReply _
  · exact .inl hstored

/-- Sending posts the text of the request.  If another reply had the name, its holder lets go of
it. -/
theorem Carries.send (h : world.Carries transport bridgeName channel bridge) {text : String}
    (reply command : String) (payload : Datum)
    (encoded : Bridge.encodeRequest bridge.config bridge.nextId command payload = .ok text)
    (fresh : bridge.nextId ∉ bridge.pending.ids) :
    ∃ after, (after = bridge.withRequest none (bridge.sendDeadline world.now none) ∨
        ∃ ticket, after =
          (bridge.withRequest none (bridge.sendDeadline world.now none)).release ticket) ∧
      (world.perform (.send bridgeName reply command payload none)).2.Carries transport bridgeName
        { channel with outbox := channel.outbox ++ [text] } after := by
  obtain ⟨id, hlinks⟩ := h.links
  have hpost : (Transport.mk id (.channel channel)).post text =
      (.ok (), ⟨id, .channel { channel with outbox := channel.outbox ++ [text] }⟩,
        [.posted id text]) := if_pos h.endpointOpen
  have herror : bridge.sendError? ⟨id, .channel channel⟩ command payload = none := by
    simp only [Bridge.sendError?, encoded, hpost]
  have hbridge := Bridge.send_bridge fresh ⟨id, .channel channel⟩ world.now command payload none
  rw [herror] at hbridge
  have htransport : (bridge.send ⟨id, .channel channel⟩ world.now command payload none).transport =
      ⟨id, .channel { channel with outbox := channel.outbox ++ [text] }⟩ := by
    simp only [Bridge.send, Bridge.sendUntimed, encoded, Bridge.postRequest, hpost]
  have hcommitted : (world.commit 0
      (bridge.send ⟨id, .channel channel⟩ world.now command payload none)).Carries transport
        bridgeName { channel with outbox := channel.outbox ++ [text] }
        (bridge.withRequest none (bridge.sendDeadline world.now none)) := by
    unfold World.commit
    rw [hbridge, htransport]
    have hlive : (bridge.withRequest none (bridge.sendDeadline world.now none)).live = true :=
      h.live
    have hset := h.setLink id (channel.outbox ++ [text]) hlive
    exact hset.of_same rfl rfl rfl rfl rfl
  have hperform : (world.perform (.send bridgeName reply command payload none)).2 =
      (world.commit 0
        (bridge.send ⟨id, .channel channel⟩ world.now command payload none)).storeReply
          reply (.ofBridge 0 bridge.replies.length) := by
    simp [World.perform, Step.perform, World.onBridge, h.bridges, Fields.lookup, hlinks,
      Link.bridge?, World.send, Bridge.send]
  rw [hperform]
  rcases hcommitted.storeReply reply (.ofBridge 0 bridge.replies.length) with
    hstored | ⟨ticket, hstored⟩
  · exact ⟨_, .inl rfl, hstored⟩
  · exact ⟨_, .inr ⟨ticket, rfl⟩, hstored⟩

/-! ## Steps of the native side -/

theorem Carries.onEndpoint (h : world.Carries transport bridgeName channel bridge)
    (act : LinkIndex → Link CallbackRef → Channel → Answer × World) :
    ∃ id, world.links = [⟨⟨id, .channel channel⟩, .bridge bridge⟩] ∧
      world.onEndpoint transport act = act 0 ⟨⟨id, .channel channel⟩, .bridge bridge⟩ channel := by
  obtain ⟨id, hlinks⟩ := h.links
  refine ⟨id, hlinks, ?_⟩
  simp [World.onEndpoint, World.onNative, h.natives, Fields.lookup, hlinks, Link.channel?]

/-- The endpoint receives the oldest request and reads it. -/
theorem Carries.recvJson (h : world.Carries transport bridgeName channel bridge) {text : String}
    {rest : List String} (houtbox : channel.outbox = text :: rest) :
    (world.perform (.recvJson transport)).1 = World.readMessage text ∧
      (world.perform (.recvJson transport)).2.Carries transport bridgeName
        { channel with outbox := rest } bridge := by
  obtain ⟨id, -, hact⟩ := h.onEndpoint fun index link channel =>
    world.endpointReceive index link channel World.readMessage
  have hperform : world.perform (.recvJson transport) =
      (World.readMessage text,
        world.setLink 0 ⟨⟨id, .channel { channel with outbox := rest }⟩, .bridge bridge⟩) := by
    refine (show world.perform (.recvJson transport) = _ from hact).trans ?_
    unfold World.endpointReceive
    rw [houtbox]
    rfl
  rw [hperform]
  exact ⟨rfl, h.setLink id rest h.live⟩

/-- With nothing to receive the endpoint goes away empty-handed. -/
theorem Carries.recvJson_empty (h : world.Carries transport bridgeName channel bridge)
    (houtbox : channel.outbox = []) :
    (∀ value, (world.perform (.recvJson transport)).1 ≠ .value value) ∧
      (world.perform (.recvJson transport)).2 = world := by
  obtain ⟨id, -, hact⟩ := h.onEndpoint fun index link channel =>
    world.endpointReceive index link channel World.readMessage
  have hperform : world.perform (.recvJson transport) =
      (if world.holdsTransport 0 then .pending else .closed, world) := by
    refine (show world.perform (.recvJson transport) = _ from hact).trans ?_
    unfold World.endpointReceive
    rw [houtbox]
  rw [hperform]
  refine ⟨fun value => ?_, rfl⟩
  dsimp only
  split <;> exact nofun

/-- The endpoint posts a message, and a pump that waits gets ready. -/
theorem Carries.endpointPost (h : world.Carries transport bridgeName channel bridge) {id : String}
    (hlinks : world.links = [⟨⟨id, .channel channel⟩, .bridge bridge⟩]) (message : String) :
    ∃ pump,
      (world.endpointPost 0 ⟨⟨id, .channel channel⟩, .bridge bridge⟩ channel message).2.Carries
        transport bridgeName { channel with inbox := channel.inbox ++ [message], pump } bridge := by
  have hheld : channel.takesInbound (world.holdsTransport 0) = true := by
    simp [Channel.takesInbound, World.holdsTransport, h.transports]
  unfold World.endpointPost
  rw [if_pos hheld]
  rcases h.pump with ⟨hwaiting, -, hready⟩ | ⟨hrunning, hready⟩
  · have hset := h.toWired.setLink id
      { channel with inbox := channel.inbox ++ [message], pump := .awake } h.endpointOpen h.live
    have hwoken : (world.setLink 0 (Link.withChannel ⟨⟨id, .channel channel⟩, .bridge bridge⟩
        { channel with inbox := channel.inbox ++ [message] })).wakePump 0 =
        { world.setLink 0 ⟨⟨id, .channel
          { channel with inbox := channel.inbox ++ [message], pump := .awake }⟩, .bridge bridge⟩
          with ready := [0] } := by
      simp [World.wakePump, World.setLink, hlinks, Link.withChannel, Link.channel?, hwaiting,
        Channel.wake, hready]
    rw [hwoken]
    exact ⟨.awake, hset.of_same rfl rfl rfl rfl, .inr ⟨.inr rfl, rfl⟩⟩
  · have hne : channel.pump ≠ .waiting := by
      rcases hrunning with hpump | hpump <;> rw [hpump] <;> decide
    have hset := h.toWired.setLink id { channel with inbox := channel.inbox ++ [message] }
      h.endpointOpen h.live
    have hwoken : (world.setLink 0 (Link.withChannel ⟨⟨id, .channel channel⟩, .bridge bridge⟩
        { channel with inbox := channel.inbox ++ [message] })).wakePump 0 =
        world.setLink 0 ⟨⟨id, .channel { channel with inbox := channel.inbox ++ [message] }⟩,
          .bridge bridge⟩ := by
      simp [World.wakePump, World.setLink, hlinks, Link.withChannel, Link.channel?, hne]
    rw [hwoken]
    exact ⟨channel.pump, hset, .inr ⟨hrunning, hready⟩⟩

end World

/-- The step with which the native side responds. -/
def Response.step (transport : String) (wire : WireFormat) (request : Json) : Response → Step
  | .data value => .endpointReply transport wire request value
  | .error value => .endpointReplyError transport wire request value

namespace World

variable {transport bridgeName : String} {world : World} {channel : Channel}
  {bridge : Bridge CallbackRef}

/-- The endpoint responds to a request that it has read. -/
theorem Carries.respond (h : world.Carries transport bridgeName channel bridge) {wire : WireFormat}
    {request : Fields Json} {id : CorrelationId}
    (hid : Fields.lookup wire.correlationField request = some (id.encode wire.idFormat))
    (response : Response) :
    ∃ pump, (world.perform (response.step transport wire (.obj request))).2.Carries transport
      bridgeName { channel with
        inbox := channel.inbox ++ [(wire.responseMessage id response).compact], pump } bridge := by
  have hmessage : wire.replyTo (.obj request) (response.payload wire) =
      .ok (wire.responseMessage id response) := by
    simp only [WireFormat.replyTo, Json.member?, hid]
    rfl
  obtain ⟨name, hlinks, hact⟩ := h.onEndpoint fun index link channel =>
    world.endpointPostResult index link channel
      (wire.replyTo (.obj request) (response.payload wire))
  have hperform : world.perform (response.step transport wire (.obj request)) =
      world.endpointPostResult 0 ⟨⟨name, .channel channel⟩, .bridge bridge⟩ channel
        (wire.replyTo (.obj request) (response.payload wire)) := by
    cases response <;> exact hact
  rw [hperform, hmessage]
  exact h.endpointPost hlinks _

end World

/-! ## The pump -/

/-- The bridge behind a list of messages that came in at one instant. -/
def Bridge.receiveAll {κ : Type} (bridge : Bridge κ) (now : Instant) (texts : List String) :
    Bridge κ :=
  texts.foldl (fun bridge text => (bridge.receive now text).1) bridge

/-- The message is a reply to some request. -/
def Inbound.IsReply (wire : WireFormat) (text : String) : Prop :=
  ∃ id outcome, Inbound.parse wire text = .ok (.reply id outcome)

namespace World

variable {transport bridgeName : String} {world : World} {channel : Channel}
  {bridge : Bridge CallbackRef}

/-- A reply changes the bridge and calls nobody. -/
theorem Wired.deliver (h : world.Wired transport bridgeName channel bridge) (invoke : Invoke)
    {text : String} (hreply : Inbound.IsReply bridge.config.wire text) :
    (World.deliver invoke 0 text world).Wired transport bridgeName channel
        (bridge.receive world.now text).1 ∧
      (World.deliver invoke 0 text world).now = world.now ∧
      (World.deliver invoke 0 text world).ready = world.ready := by
  obtain ⟨id, hlink⟩ := h.link_zero
  obtain ⟨request, outcome, hparse⟩ := hreply
  have hnobody : (bridge.receive world.now text).2.2 = .none := by
    unfold Bridge.receive
    rw [hparse]
  have hlive : (bridge.receive world.now text).1.live = true :=
    (Bridge.sameAround_receive bridge world.now text).live.trans h.live
  have hset := h.setLink id channel h.endpointOpen hlive
  have hdeliver : World.deliver invoke 0 text world =
      (world.setLink 0 ⟨⟨id, .channel channel⟩,
        .bridge (bridge.receive world.now text).1⟩).write (bridge.receive world.now text).2.1 := by
    unfold World.deliver
    rw [hlink]
    dsimp only
    rw [if_pos h.live]
    simp only [World.receive]
    rw [hnobody]
    exact Wired.unpin_pin (hset.of_same rfl rfl rfl rfl)
  rw [hdeliver]
  exact ⟨hset.of_same rfl rfl rfl rfl, rfl, rfl⟩

/-- With nothing to drain the pump waits. -/
theorem drain_of_empty {id : String} {listener : Listener CallbackRef}
    (hlink : world.links[0]? = some ⟨⟨id, .channel channel⟩, listener⟩)
    (hinbox : channel.inbox = []) (hopen : channel.endpointOpen = true) (fuel : Nat) :
    World.drain (fuel + 1) 0 world =
      world.setPump 0 ⟨⟨id, .channel channel⟩, listener⟩ channel .waiting := by
  unfold World.drain
  rw [hlink]
  dsimp only [Link.channel?]
  rw [hinbox]
  exact if_pos hopen

/-- The pump takes the oldest message and has it delivered before it goes on. -/
theorem drain_of_message {id : String} {listener : Listener CallbackRef}
    (hlink : world.links[0]? = some ⟨⟨id, .channel channel⟩, listener⟩) {text : String}
    {rest : List String} (hinbox : channel.inbox = text :: rest) {taken : World}
    (htaken : world.setLink 0 ⟨⟨id, .channel { channel with inbox := rest }⟩, listener⟩ = taken)
    (fuel : Nat) :
    World.drain (fuel + 1) 0 world =
      World.drain fuel 0 (World.deliver (World.call taken.scriptCount) 0 text taken) := by
  rw [World.drain, hlink]
  dsimp only [Link.channel?]
  rw [hinbox, ← htaken]
  rfl

/-- The pump drains a queue of replies into the bridge and waits. -/
theorem Wired.drain {fuel : Nat} (h : world.Wired transport bridgeName channel bridge)
    {texts : List String} (hinbox : channel.inbox = texts)
    (hreplies : ∀ text ∈ texts, Inbound.IsReply bridge.config.wire text)
    (hfuel : texts.length < fuel) :
    (World.drain fuel 0 world).Wired transport bridgeName
        { channel with inbox := [], pump := .waiting } (bridge.receiveAll world.now texts) ∧
      (World.drain fuel 0 world).ready = world.ready := by
  induction texts generalizing world channel bridge fuel with
  | nil =>
    obtain ⟨fuel, rfl⟩ : ∃ less, fuel = less + 1 := ⟨fuel - 1, by omega⟩
    obtain ⟨id, hlink⟩ := h.link_zero
    have hdrain := drain_of_empty hlink hinbox h.endpointOpen fuel
    have hempty : ({ channel with inbox := [], pump := .waiting } : Channel) =
        { channel with pump := .waiting } := by
      rw [← hinbox]
    rw [hdrain, hempty]
    exact ⟨h.setLink id _ h.endpointOpen h.live, rfl⟩
  | cons text rest ih =>
    obtain ⟨fuel, rfl⟩ : ∃ less, fuel = less + 1 := ⟨fuel - 1, by omega⟩
    obtain ⟨id, hlink⟩ := h.link_zero
    have htaken := h.setLink id { channel with inbox := rest } h.endpointOpen h.live
    generalize htakenEq : world.setLink 0
      ⟨⟨id, .channel { channel with inbox := rest }⟩, .bridge bridge⟩ = taken at htaken
    obtain ⟨hdelivered, hnow, hready⟩ := htaken.deliver (World.call taken.scriptCount)
      (hreplies text List.mem_cons_self)
    have hdrain := drain_of_message hlink hinbox htakenEq fuel
    have hconfig : (bridge.receive taken.now text).1.config = bridge.config :=
      (Bridge.sameAround_receive bridge taken.now text).config
    obtain ⟨hafter, hreadyAfter⟩ := ih hdelivered rfl
      (by rw [hconfig]; exact fun text htext => hreplies text (List.mem_cons_of_mem _ htext))
      (Nat.lt_of_succ_lt_succ hfuel)
    rw [hdrain]
    refine ⟨?_, ?_⟩
    · rw [hnow, show taken.now = world.now from by rw [← htakenEq]; rfl] at hafter
      exact hafter
    · rw [hreadyAfter, hready, ← htakenEq]
      rfl

/-- A pump that starts does so before it drains the queue. -/
theorem Wired.runPump {fuel : Nat} (h : world.Wired transport bridgeName channel bridge)
    (hreplies : ∀ text ∈ channel.inbox, Inbound.IsReply bridge.config.wire text)
    (hfuel : channel.inbox.length < fuel) :
    (World.runPump fuel 0 world).Wired transport bridgeName
        { channel with inbox := [], pump := .waiting }
        (bridge.receiveAll world.now channel.inbox) ∧
      (World.runPump fuel 0 world).ready = world.ready := by
  obtain ⟨id, hlink⟩ := h.link_zero
  unfold World.runPump
  rw [hlink]
  dsimp only [Link.channel?]
  split
  · have hset := h.setLink id { channel with pump := .awake } h.endpointOpen h.live
    have hstarted : ((world.setPump 0 ⟨⟨id, .channel channel⟩, .bridge bridge⟩ channel .awake).write
        [.pumpStarted id]).Wired transport bridgeName { channel with pump := .awake } bridge :=
      hset.of_same rfl rfl rfl rfl
    exact hstarted.drain rfl hreplies hfuel
  · exact h.drain rfl hreplies hfuel

theorem runPumpsFor_of_idle (h : world.ready = []) (fuel drainFuel : Nat) :
    World.runPumpsFor fuel drainFuel world = world := by
  cases fuel with
  | zero => rfl
  | succ fuel =>
    unfold World.runPumpsFor
    rw [h]

/-- Running the pumps brings all that the endpoint posted to the bridge. -/
theorem Carries.runPumps (h : world.Carries transport bridgeName channel bridge)
    (hreplies : ∀ text ∈ channel.inbox, Inbound.IsReply bridge.config.wire text) :
    world.runPumps.Carries transport bridgeName { channel with inbox := [], pump := .waiting }
      (bridge.receiveAll world.now channel.inbox) := by
  simp only [World.runPumps]
  rcases h.pump with ⟨hwaiting, hinbox, hready⟩ | ⟨-, hready⟩
  · have hsame : { channel with inbox := [], pump := .waiting } = channel := by
      rw [← hwaiting, ← hinbox]
    rw [runPumpsFor_of_idle hready, hsame, hinbox]
    exact h
  · obtain ⟨id, hlinks⟩ := h.links
    have hbacklog : world.backlog = channel.inbox.length := by
      simp [World.backlog, hlinks, Link.channel?]
    have hidle : ({ world with ready := [] } : World).Wired transport bridgeName channel bridge :=
      h.toWired.of_same rfl rfl rfl rfl
    obtain ⟨hran, hdone⟩ := hidle.runPump hreplies
      (show channel.inbox.length < world.backlog + world.ready.length + 2 * world.stepCount + 1
        by omega)
    rw [World.runPumpsFor, hready]
    dsimp only
    rw [hready] at hran hdone
    rw [runPumpsFor_of_idle hdone]
    exact ⟨hran, .inl ⟨rfl, rfl, hdone⟩⟩

/-- A session that has made a channel transport and opened a bridge on it. -/
def connected (transport bridgeName id : String) (config : Config) : World :=
  let made := (({} : World).perform (.createChannel transport id)).2
  (made.perform (.buildBridge transport bridgeName [.replace config])).2

/-- The pump of a new bridge is about to start. -/
theorem carries_connected (transport bridgeName id : String) (config : Config) :
    (connected transport bridgeName id config).Carries transport bridgeName { pump := .fresh }
      { config } := by
  let made : World :=
    { links := [⟨⟨id, .channel {}⟩, .nobody⟩], transports := [(transport, 0)],
      natives := [(transport, 0)] }
  have hopened : connected transport bridgeName id config =
      (made.openBridge 0 ⟨⟨id, .channel {}⟩, .nobody⟩ true config bridgeName none).2 := by
    have hlookup : Fields.lookup transport made.transports = some 0 := if_pos rfl
    have hbuild : made.perform (.buildBridge transport bridgeName [.replace config]) =
        made.onTransport transport fun index link =>
          made.openBridge index link true config bridgeName none := rfl
    refine (congrArg Prod.snd hbuild).trans ?_
    unfold World.onTransport
    rw [hlookup]
    rfl
  rw [hopened]
  exact ⟨⟨⟨id, rfl⟩, rfl, rfl, rfl, rfl, rfl⟩, .inr ⟨.inl rfl, rfl⟩⟩

end World
end HostLink

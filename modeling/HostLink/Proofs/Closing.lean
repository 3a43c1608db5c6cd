import HostLink.Proofs.FanOut
import HostLink.Proofs.Matching
import HostLink.Proofs.Listeners
import HostLink.Proofs.Readiness

/-!
# The end of a bridge

A bridge is closed when the last name for it is dropped.  That gives up the requests that are
pending, and no others: whoever holds a reply that waited finds it closed, whenever the next look
is, and whoever holds one that was settled finds the same as before.

The listener of a transport cannot be taken away, so texts go on coming in at the place where the
bridge was.  They are taken, and nothing comes of them.
-/

namespace HostLink

/-! ## What closing does to the replies -/

namespace Bridge

variable {κ : Type} {bridge : Bridge κ} {ticket : Ticket}

/-- The request with this ticket is pending. -/
def Awaits (bridge : Bridge κ) (ticket : Ticket) : Prop :=
  ∃ entry ∈ bridge.pending.entries, entry.settler.ticket = ticket

/-- While ids are not used twice, whoever holds a reply that waits has a pending request. -/
theorem Coherent.awaits (h : bridge.Coherent) (bound : bridge.replies.length ≤ UInt64.size)
    {reply : Reply} (hreply : bridge.replies[ticket]? = some reply) (held : reply.held = true)
    (waiting : reply.progress = .waiting) : bridge.Awaits ticket := by
  have hlists := h.held_listed hreply held waiting
  obtain ⟨entry, hentry, hticket, -⟩ := h.entry_of_lists bound hreply hlists
  exact ⟨entry, hentry, hticket⟩

/-- A pending request is closed. -/
theorem decision?_close_of_awaits (matched : bridge.Matched) (h : bridge.Awaits ticket) :
    ∃ reply, bridge.close.replies[ticket]? = some reply ∧
      reply.decision? = some (.error .closed) := by
  obtain ⟨entry, hentry, rfl⟩ := h
  obtain ⟨reply, hreply, hwaiting⟩ := matched.waiting entry hentry
  have hclosed := getElem?_dropAll matched.unsettled bridge.replies entry.settler.ticket
  rw [hreply, Option.map_some, if_pos ⟨entry, hentry, rfl⟩] at hclosed
  refine ⟨reply.abandon, hclosed, ?_⟩
  rw [Reply.abandon, hwaiting]
  rfl

/-- A request that is not pending is left alone. -/
theorem getElem?_close_of_not_awaits (matched : bridge.Matched) (h : ¬bridge.Awaits ticket) :
    bridge.close.replies[ticket]? = bridge.replies[ticket]? := by
  have hclosed := getElem?_dropAll matched.unsettled bridge.replies ticket
  simp only [if_neg (show ¬∃ entry ∈ bridge.pending.entries, entry.settler.ticket = ticket from h),
    Option.map_id'] at hclosed
  exact hclosed

end Bridge

namespace Station

variable {κ : Type} {station : Station κ}

theorem Reachable.matched (h : station.Reachable) : station.bridge.Matched := by
  obtain ⟨config, transport, now, operations, rfl⟩ := h
  exact matched_run_opened config transport now operations

theorem Reachable.coherent (h : station.Reachable)
    (bound : station.bridge.replies.length ≤ UInt64.size) : station.bridge.Coherent := by
  obtain ⟨config, transport, now, operations, rfl⟩ := h
  exact coherent_run (Bridge.coherent_of_new config) bound

end Station

/-! ## Looks at replies -/

namespace World

variable {world : World} {index : LinkIndex} {station : Station CallbackRef}

/-- Whoever polls a reply of a bridge finds what a look at its station finds. -/
theorem pollReply_of_station? (h : world.station? index = some station) (ticket : Ticket) :
    (world.pollReply (.ofBridge index ticket)).1 = station.look ticket := by
  obtain ⟨link, hlink, hlistener, hstation⟩ := exists_of_station? h
  have hbridge : link.bridge? = some station.bridge := by
    rw [Link.bridge?, hlistener]
  rw [Station.look, hstation]
  simp only [pollReply, hlink, hbridge]

end World

namespace Session

variable {world : World} {index : LinkIndex} {station : Station CallbackRef}

theorem answer_poll {name : String} {ticket : Ticket} {outcome : Outcome}
    (hname : Fields.lookup name world.replies = some (.ofBridge index ticket))
    (hstation : world.station? index = some station)
    (hlook : station.look ticket = some outcome) :
    (Session.step world (.poll name)).1.answer = World.answerOutcome outcome := by
  have hfresh : World.station? { world with events := [], log := [] } index = some station :=
    hstation
  have hpolled := World.pollReply_of_station? hfresh ticket
  rw [hlook] at hpolled
  have hperform : (World.perform { world with events := [], log := [] } (.poll name)).1 =
      World.answerOutcome outcome := by
    simp only [World.perform, Step.perform, World.onReply, hname]
    split
    · next heq =>
      rw [heq] at hpolled
      cases hpolled
    · next heq =>
      rw [heq] at hpolled
      obtain rfl := Option.some.inj hpolled
      rfl
  exact hperform

/-- Each bridge of a session goes on by operations, and between two steps no delivery is under
way. -/
theorem leads_behind (world : World) (steps : List Step) : world.Leads (behind world steps) := by
  induction steps generalizing world with
  | nil => exact .refl world
  | cons step rest ih => exact (leads_step world step).trans (ih _)

theorem station?_behind (hstation : world.station? index = some station) (steps : List Step) :
    ∃ operations, (behind world steps).station? index = some (station.run operations) := by
  have hevolves := (leads_behind world steps).stations index
  rw [hstation] at hevolves
  obtain ⟨operations, hafter, -⟩ := hevolves
  exact ⟨operations, hafter⟩

end Session

/-! ## A bridge that is gone hears nothing -/

/-- How the native side brings a text: a host delivers it, and an endpoint posts it. -/
def Transport.bringing (transport : Transport) (native text : String) : Step :=
  match transport.medium with
  | .memory _ => .deliver native text
  | .channel _ => .endpointPost native text

namespace World

variable {world : World} {index : LinkIndex} {link : Link CallbackRef}
  {bridge : Bridge CallbackRef}

/-- A text for a bridge that is gone leaves a line in the log. -/
theorem deliver_of_gone (invoke : Invoke) (hlink : world.links[index]? = some link)
    (hlistener : link.listener = .bridge bridge) (gone : bridge.live = false) (message : String) :
    deliver invoke index message world = world.write [.bridgeGone] := by
  unfold deliver
  rw [hlink]
  dsimp only
  rw [hlistener]
  exact if_neg (by rw [gone]; decide)

section channel

variable {id : String} {channel : Channel}

/-- What an endpoint posts wakes the pump. -/
theorem endpointPost_of_waiting
    (hlink : world.links[index]? = some ⟨⟨id, .channel channel⟩, .bridge bridge⟩)
    (hpump : channel.pump = .waiting) (message : String) :
    world.endpointPost index ⟨⟨id, .channel channel⟩, .bridge bridge⟩ channel message =
      (.done, { world with
        links := world.links.set index
          ⟨⟨id, .channel { channel with inbox := channel.inbox ++ [message], pump := .awake }⟩,
            .bridge bridge⟩
        ready := world.ready ++ [index] }) := by
  have htakes : channel.takesInbound (world.holdsTransport index) = true := by
    simp [Channel.takesInbound, hpump]
  rw [endpointPost, if_pos htakes,
    wakePump_setLink hlink { channel with inbox := channel.inbox ++ [message] }, if_pos hpump]
  simp [Channel.wake, hpump, Link.withChannel]

/-- The pump takes a text to a bridge that is gone, finds no more, and goes back to wait. -/
theorem drain_of_gone
    (hlink : world.links[index]? = some ⟨⟨id, .channel channel⟩, .bridge bridge⟩)
    (gone : bridge.live = false) {message : String} (hinbox : channel.inbox = [message])
    (hopen : channel.endpointOpen = true) (fuel : Nat) :
    drain (fuel + 2) index world =
      (world.setLink index
        ⟨⟨id, .channel { channel with inbox := [], pump := .waiting }⟩, .bridge bridge⟩).write
          [.bridgeGone] := by
  obtain ⟨hlt, -⟩ := List.getElem?_eq_some_iff.1 hlink
  let taken : Link CallbackRef := ⟨⟨id, .channel { channel with inbox := [] }⟩, .bridge bridge⟩
  have htaken : (world.setLink index taken).links[index]? = some taken :=
    List.getElem?_set_self hlt
  have hwritten : ((world.setLink index taken).write [.bridgeGone]).links[index]? = some taken :=
    htaken
  have hdelivered : drain (fuel + 2) index world =
      drain (fuel + 1) index ((world.setLink index taken).write [.bridgeGone]) := by
    rw [← deliver_of_gone (call (world.setLink index taken).scriptCount) htaken rfl gone message]
    rw [drain, hlink]
    dsimp only [Link.channel?, Link.withChannel]
    rw [hinbox]
  rw [hdelivered, drain, hwritten]
  dsimp only [taken, Link.channel?]
  rw [if_pos hopen]
  exact congrArg (write · [.bridgeGone]) (setLink_setLink world index _ _)

theorem runPumps_of_gone
    (hlink : world.links[index]? = some ⟨⟨id, .channel channel⟩, .bridge bridge⟩)
    (gone : bridge.live = false) (hpump : channel.pump = .awake) {message : String}
    (hinbox : channel.inbox = [message]) (hopen : channel.endpointOpen = true)
    (hready : world.ready = [index]) :
    world.runPumps = (World.setLink { world with ready := [] } index
      ⟨⟨id, .channel { channel with inbox := [], pump := .waiting }⟩, .bridge bridge⟩).write
        [.bridgeGone] := by
  let idle : World := { world with ready := [] }
  have hidle : idle.links[index]? = some ⟨⟨id, .channel channel⟩, .bridge bridge⟩ := hlink
  have hrun (fuel : Nat) : runPump (fuel + 2) index idle =
      (idle.setLink index
        ⟨⟨id, .channel { channel with inbox := [], pump := .waiting }⟩, .bridge bridge⟩).write
          [.bridgeGone] := by
    have hdrained := drain_of_gone hidle gone hinbox hopen fuel
    rw [runPump, hidle]
    dsimp only [Link.channel?]
    rw [if_neg (by rw [hpump]; decide), hdrained]
  have hwork : world.backlog + world.ready.length + 2 * world.stepCount + 1 =
      world.backlog + 2 * world.stepCount + 2 := by
    rw [hready, List.length_singleton]
    omega
  rw [runPumps, hwork, runPumpsFor, hready]
  dsimp only
  rw [hrun]
  exact runPumpsFor_of_idle rfl _ _

end channel

/-- A host that delivers a text has done its part. -/
theorem perform_deliver_of_gone {native id text : String} {host : MemoryHost}
    (hnative : Fields.lookup native world.natives = some index)
    (hlink : world.links[index]? = some ⟨⟨id, .memory host⟩, .bridge bridge⟩)
    (gone : bridge.live = false) :
    world.perform (.deliver native text) =
      (.done, (world.write [.delivered id text]).write [.bridgeGone]) := by
  have hwritten : (world.write [.delivered id text]).links[index]? =
      some ⟨⟨id, .memory host⟩, .bridge bridge⟩ := hlink
  have hdelivered := deliver_of_gone (call (world.scriptCount + 0)) hwritten rfl gone text
  simp only [perform, Step.perform, onHost, onNative, hnative, hlink]
  exact congrArg (Prod.mk Answer.done) hdelivered

/-- What an endpoint posts waits for the pump, which is awake now. -/
theorem perform_endpointPost_of_gone {native id text : String} {channel : Channel}
    (hnative : Fields.lookup native world.natives = some index)
    (hlink : world.links[index]? = some ⟨⟨id, .channel channel⟩, .bridge bridge⟩)
    (hpump : channel.pump = .waiting) :
    world.perform (.endpointPost native text) = (.done, { world with
      links := world.links.set index
        ⟨⟨id, .channel { channel with inbox := channel.inbox ++ [text], pump := .awake }⟩,
          .bridge bridge⟩
      ready := world.ready ++ [index] }) := by
  simp only [perform, Step.perform, onEndpoint, onNative, hnative, hlink]
  exact endpointPost_of_waiting hlink hpump text

end World

namespace Session

variable {world : World} {index : LinkIndex} {link : Link CallbackRef}
  {bridge : Bridge CallbackRef}

/-- Between two steps the pump of an endpoint that has a name waits, if somebody listens. -/
theorem waiting_behind (steps : List Step) {native : String}
    (hnative : Fields.lookup native (behind {} steps).natives = some index) {inlet : Inlet}
    (hinlet : (behind {} steps).inlet? index = some inlet) (listening : inlet.listening = true) :
    inlet.pump = .waiting := by
  have sound := sound_behind World.sound_empty steps
  have inlets := sound.inlets index inlet hinlet
  have hopen := (sound.natives native index hnative).2 inlet hinlet
  have hidle := idle_behind steps hinlet
  cases hpump : inlet.pump with
  | absent =>
    rw [inlets.absent_iff.1 hpump] at listening
    cases listening
  | waiting => rfl
  | finished =>
    rw [(inlets.finished hpump).2] at hopen
    cases hopen
  | fresh | awake =>
    rw [hpump] at hidle
    cases hidle

/-- A text that comes in for a bridge that is gone is taken, and nothing comes of it. -/
theorem step_bringing_of_gone {native : String}
    (hnative : Fields.lookup native world.natives = some index)
    (hlink : world.links[index]? = some link) (hlistener : link.listener = .bridge bridge)
    (gone : bridge.live = false) (hidle : world.ready = [])
    (hwaits : ∀ channel, link.channel? = some channel →
      channel.pump = .waiting ∧ channel.inbox = [] ∧ channel.endpointOpen = true)
    (text : String) :
    ∃ lines log, Session.step world (link.transport.bringing native text) =
      (⟨.done, [], lines⟩, { world with events := [], log }) := by
  let fresh : World := { world with events := [], log := [] }
  rcases link with ⟨⟨id, host | channel⟩, listener⟩
  · subst hlistener
    have hperform : fresh.perform (.deliver native text) =
        (.done, (fresh.write [.delivered id text]).write [.bridgeGone]) :=
      World.perform_deliver_of_gone hnative hlink gone
    exact ⟨_, _, step_of_idle hperform hidle⟩
  · obtain ⟨hpump, hinbox, hopen⟩ := hwaits channel rfl
    subst hlistener
    obtain ⟨hlt, -⟩ := List.getElem?_eq_some_iff.1 hlink
    let awake : Link CallbackRef :=
      ⟨⟨id, .channel { channel with inbox := channel.inbox ++ [text], pump := .awake }⟩,
        .bridge bridge⟩
    let posted : World :=
      { fresh with links := world.links.set index awake, ready := world.ready ++ [index] }
    have hperform : fresh.perform (.endpointPost native text) = (.done, posted) :=
      World.perform_endpointPost_of_gone hnative hlink hpump
    have hposted : posted.links[index]? = some awake := List.getElem?_set_self hlt
    have hready : posted.ready = [index] := congrArg (· ++ [index]) hidle
    have hqueued : channel.inbox ++ [text] = [text] := congrArg (· ++ [text]) hinbox
    have hrun := World.runPumps_of_gone hposted gone rfl hqueued hopen hready
    -- The pump leaves the channel as it was before the post.
    have hchannel : { channel with inbox := [], pump := .waiting } = channel := by
      rw [← hpump, ← hinbox]
    have hrestored : (world.links.set index awake).set index
        ⟨⟨id, .channel { channel with inbox := [], pump := .waiting }⟩, .bridge bridge⟩ =
          world.links := by
      rw [List.set_set, hchannel]
      exact congrArg World.links (World.setLink_self hlink)
    have hsettled : posted.runPumps =
        { world with events := [], log := [.bridgeGone] } := by
      rw [hrun]
      simp only [World.setLink, World.write, posted, fresh, awake, hrestored, hidle,
        List.nil_append]
    refine ⟨sortExpiries [.bridgeGone], [.bridgeGone], ?_⟩
    simp only [Transport.bringing, Session.step, fresh, hperform, hsettled]

/-- However many texts come in for a bridge that is gone, each is taken, and together they change
nothing. -/
theorem bringing_of_gone {steps : List Step} {native : String} (hworld : world = behind {} steps)
    (hnative : Fields.lookup native world.natives = some index)
    (hlink : world.links[index]? = some link) (hlistener : link.listener = .bridge bridge)
    (gone : bridge.live = false) (texts : List String) :
    let brought := texts.map (link.transport.bringing native)
    (∀ report ∈ runFrom world brought, report.answer = .done ∧ report.events = []) ∧
      ∃ events log, behind world brought = { world with events, log } := by
  induction texts generalizing world steps with
  | nil =>
    constructor
    · intro report hreport
      cases hreport
    · exact ⟨world.events, world.log, rfl⟩
  | cons text rest ih =>
    have hidle : world.ready = [] := by
      rw [hworld]
      exact ready_behind World.sound_empty rfl steps
    have hwaits : ∀ channel, link.channel? = some channel →
        channel.pump = .waiting ∧ channel.inbox = [] ∧ channel.endpointOpen = true := by
      intro channel hchannel
      have hinlet : world.inlet? index = some (channel.inlet link.hasListener) :=
        (World.inlet?_of_link hlink).trans (link.inlet?_of_channel? hchannel)
      have hlistens : link.hasListener = true := by
        rw [Link.hasListener, hlistener]
      subst hworld
      have sound := sound_behind World.sound_empty steps
      refine ⟨waiting_behind steps hnative hinlet hlistens,
        inbox_behind steps hinlet hlistens, ?_⟩
      exact (sound.natives native index hnative).2 _ hinlet
    obtain ⟨lines, log, hstep⟩ :=
      step_bringing_of_gone hnative hlink hlistener gone hidle hwaits text
    have hafter : { world with events := [], log } =
        behind {} (steps ++ [link.transport.bringing native text]) := by
      rw [behind_append, ← hworld]
      exact (congrArg Prod.snd hstep).symm
    obtain ⟨hreports, events, log', hbehind⟩ := ih hafter hnative hlink
    constructor
    · intro report hreport
      rw [List.map_cons, runFrom, hstep] at hreport
      rcases List.mem_cons.1 hreport with rfl | hreport
      · exact ⟨rfl, rfl⟩
      · exact hreports report hreport
    · refine ⟨events, log', ?_⟩
      rw [List.map_cons, show behind world (_ :: _) = behind (Session.step world _).2 _ from rfl,
        hstep]
      exact hbehind

end Session

/-! ## Dropping a name -/

namespace World

variable {world : World} {index : LinkIndex} {name : String}

/-- Another name stands for the bridge on the link. -/
def SharesBridge (world : World) (name : String) (index : LinkIndex) : Prop :=
  ∃ entry ∈ world.bridges, entry.1 ≠ name ∧ entry.2.link = index

theorem holdsBridge_erase_iff (unpinned : world.pins = []) (name : String) (index : LinkIndex) :
    World.holdsBridge { world with bridges := Fields.erase name world.bridges } index = true ↔
      world.SharesBridge name index := by
  rw [holdsBridge_iff]
  simp [unpinned, Fields.erase, SharesBridge, and_assoc]

variable {handle : BridgeHandle} (unpinned : world.pins = [])
  (hname : Fields.lookup name world.bridges = some handle)
include unpinned hname

/-- While another name stands for the bridge, dropping one changes nothing else. -/
theorem perform_dropBridge_of_shared (shared : world.SharesBridge name handle.link) :
    world.perform (.dropBridge name) =
      (.dropped true, { world with bridges := Fields.erase name world.bridges }) := by
  have hheld := (holdsBridge_erase_iff unpinned name handle.link).2 shared
  simp only [perform, Step.perform, hname]
  unfold closeIfUnheld
  split
  · rw [if_pos hheld]
  · rfl

/-- Dropping the last name closes the bridge, and changes nothing else. -/
theorem perform_dropBridge_of_last (last : ¬world.SharesBridge name handle.link)
    {link : Link CallbackRef} {bridge : Bridge CallbackRef}
    (hlink : world.links[handle.link]? = some link) (hbridge : link.bridge? = some bridge)
    (live : bridge.live = true) :
    world.perform (.dropBridge name) = (.dropped true, { world with
      bridges := Fields.erase name world.bridges
      links := world.links.set handle.link (link.withBridge bridge.close) }) := by
  have hunheld := mt (holdsBridge_erase_iff unpinned name handle.link).1 last
  have hclosed : link.closeBridge = link.withBridge bridge.close := by
    rw [Link.closeBridge, Link.listener_of_bridge? hbridge]
    exact if_pos live
  simp only [perform, Step.perform, hname]
  unfold closeIfUnheld
  simp only [hlink]
  rw [if_neg hunheld, hclosed]
  rfl

end World

/-! ## The end of a bridge in a session -/

namespace Session

variable {world : World} {index : LinkIndex} {link : Link CallbackRef}
  {bridge : Bridge CallbackRef}

/-- What a bridge has left behind on its link, at any time after it was closed; `bridge` is what it
was just before. -/
structure Aftermath (bridge : Bridge CallbackRef) (index : LinkIndex) (later : World) : Prop where
  /-- A request that was pending is closed, whenever somebody polls its reply. -/
  pending : ∀ ticket reply, bridge.Awaits ticket →
    Fields.lookup reply later.replies = some (.ofBridge index ticket) →
      (Session.step later (.poll reply)).1.answer = .failed .closed
  /-- A request that was settled keeps its outcome. -/
  settled : ∀ ticket reply earlier outcome, bridge.replies[ticket]? = some earlier →
    earlier.progress = .settled outcome →
      Fields.lookup reply later.replies = some (.ofBridge index ticket) →
        (Session.step later (.poll reply)).1.answer = World.answerOutcome outcome
  /-- Whatever texts the native side brings, each is taken, nobody is called, and nothing has
  changed: no reply, no queue, no subscription. -/
  deaf : ∀ native link (texts : List String), Fields.lookup native later.natives = some index →
    later.links[index]? = some link →
      let brought := texts.map (link.transport.bringing native)
      (∀ report ∈ runFrom later brought, report.answer = .done ∧ report.events = []) ∧
        ∃ events log, behind later brought = { later with events, log }

/-- A world in which a bridge was just closed has its aftermath before it. -/
theorem aftermath_behind {steps more : List Step} (matched : bridge.Matched)
    (hworld : world = behind {} steps) (hlink : world.links[index]? = some link)
    (hclosed : link.bridge? = some bridge.close) :
    Aftermath bridge index (behind world more) := by
  have hstation : world.station? index = some ⟨world.now, link.transport, bridge.close⟩ := by
    rw [World.station?_of_link hlink]
    exact Link.station?_of_bridge? hclosed world.now
  obtain ⟨operations, hlater⟩ := station?_behind hstation more
  constructor
  · intro ticket reply hawaits hreply
    obtain ⟨closed, hticket, hdecision⟩ := Bridge.decision?_close_of_awaits matched hawaits
    exact answer_poll hreply hlater (Station.look_run_of_decision hticket hdecision operations)
  · intro ticket reply earlier outcome hticket hsettled hreply
    obtain ⟨closed, hkept, hfollows⟩ := Bridge.Continues.close bridge ticket earlier hticket
    have hdecision : earlier.decision? = some outcome := by
      rw [Reply.decision?, hsettled]
    exact answer_poll hreply hlater
      (Station.look_run_of_decision hkept (hfollows.decision? hdecision) operations)
  · intro native after texts hnative hafter
    obtain ⟨found, hfound, hlistener, -⟩ := World.exists_of_station? hlater
    obtain rfl := Option.some.inj (hfound.symm.trans hafter)
    have gone : (Station.run ⟨world.now, link.transport, bridge.close⟩ operations).bridge.live =
        false := by
      apply Bool.eq_false_iff.2
      intro hlive
      have hstart := Station.live_of_live_run hlive
      cases hstart
    have hreached : behind world more = behind {} (steps ++ more) := by
      rw [behind_append, hworld]
    exact bringing_of_gone hreached hnative hafter hlistener gone texts

/-- Dropping a name for a bridge, between two steps of any session.  While another name stands for
the bridge, nothing else changes.  Otherwise the bridge is closed, which gives up the requests that
are pending, those of all held replies that wait, and leaves the others alone; what comes of that
later is `Aftermath`. -/
theorem drop_closes_what_is_open (steps : List Step) {name : String} {handle : BridgeHandle}
    (hname : Fields.lookup name (behind {} steps).bridges = some handle) :
    let world := behind {} steps
    (world.SharesBridge name handle.link → Session.step world (.dropBridge name) =
      (⟨.dropped true, [], []⟩,
        { world with bridges := Fields.erase name world.bridges, events := [], log := [] })) ∧
    (¬world.SharesBridge name handle.link → ∃ link bridge,
      world.links[handle.link]? = some link ∧ link.bridge? = some bridge ∧
      Session.step world (.dropBridge name) =
        (⟨.dropped true, [], []⟩, { world with
          bridges := Fields.erase name world.bridges
          links := world.links.set handle.link (link.withBridge bridge.close)
          events := []
          log := [] }) ∧
      (bridge.replies.length ≤ UInt64.size → ∀ ticket reply,
        bridge.replies[ticket]? = some reply → reply.held = true → reply.progress = .waiting →
          bridge.Awaits ticket) ∧
      (∀ ticket, ¬bridge.Awaits ticket →
        bridge.close.replies[ticket]? = bridge.replies[ticket]?) ∧
      ∀ more, Aftermath bridge handle.link (behind world (.dropBridge name :: more))) := by
  intro world
  have sound : world.Sound none := sound_behind World.sound_empty steps
  have hidle : world.ready = [] := ready_behind World.sound_empty rfl steps
  let fresh : World := { world with events := [], log := [] }
  have unpinned : fresh.pins = [] := (leads_behind {} steps).pins
  constructor
  · intro shared
    have hperform : fresh.perform (.dropBridge name) =
        (.dropped true, { fresh with bridges := Fields.erase name world.bridges }) :=
      World.perform_dropBridge_of_shared unpinned hname shared
    rw [step_of_idle hperform hidle, sortExpiries_nil]
  · intro last
    obtain ⟨link, hlink, hlive⟩ := sound.liveAt hname
    obtain ⟨bridge, hbridge, live⟩ := (Option.any_eq_true _ _).1 hlive
    have hstation : world.station? handle.link = some ⟨world.now, link.transport, bridge⟩ := by
      rw [World.station?_of_link hlink]
      exact Link.station?_of_bridge? hbridge world.now
    have reachable := grounded_steps steps handle.link _ hstation
    have hperform : fresh.perform (.dropBridge name) = (.dropped true, { fresh with
        bridges := Fields.erase name world.bridges
        links := world.links.set handle.link (link.withBridge bridge.close) }) :=
      World.perform_dropBridge_of_last unpinned hname last hlink hbridge live
    have hstep := step_of_idle hperform hidle
    rw [sortExpiries_nil] at hstep
    refine ⟨link, bridge, hlink, hbridge, hstep, ?_, ?_, ?_⟩
    · intro bound ticket reply
      exact (reachable.coherent bound).awaits bound
    · intro ticket hawaits
      exact Bridge.getElem?_close_of_not_awaits reachable.matched hawaits
    · intro more
      have hclosed : (Session.step world (.dropBridge name)).2 =
          behind {} (steps ++ [.dropBridge name]) := by
        rw [behind_append]
        rfl
      obtain ⟨hlt, -⟩ := List.getElem?_eq_some_iff.1 hlink
      have hlater : (Session.step world (.dropBridge name)).2.links[handle.link]? =
          some (link.withBridge bridge.close) := by
        rw [hstep]
        exact List.getElem?_set_self hlt
      show Aftermath bridge handle.link (behind (Session.step world (.dropBridge name)).2 more)
      exact aftermath_behind reachable.matched hclosed hlater rfl

/-- A request has five nanoseconds to be answered.  Its bridge is dropped at once, and when ten have
passed its holder finds it closed. -/
theorem drop_closes_what_is_open_of_late_poll :
    let steps : List Step :=
      [.createMemory "host" "id", .buildBridge "host" "bridge" [],
        .send "bridge" "reply" "ask" .absent (some 5)]
    Fields.lookup "bridge" (behind {} steps).bridges = some { link := 0 } ∧
      (Session.step (behind {} (steps ++ [.dropBridge "bridge", .advance 10]))
        (.poll "reply")).1.answer = .failed .closed := by
  intro steps
  have hbridges : (behind {} steps).bridges = [("bridge", { link := 0 })] := by
    cbv
  have hname : Fields.lookup "bridge" (behind {} steps).bridges = some { link := 0 } := by
    rw [hbridges]
    rfl
  have last : ¬(behind {} steps).SharesBridge "bridge" 0 := by
    rintro ⟨entry, hentry, hother, -⟩
    rw [hbridges] at hentry
    obtain rfl := List.mem_singleton.1 hentry
    exact hother rfl
  let entry : PendingEntry := { settler := { id := ⟨0⟩, ticket := 0 }, deadline := some 5 }
  have hentries : (((behind {} steps).links[0]?).bind Link.bridge?).map
      (fun bridge => bridge.pending.entries) = some [entry] := by
    cbv
  have hreply : Fields.lookup "reply"
      (behind {} (steps ++ [.dropBridge "bridge", .advance 10])).replies =
        some (.ofBridge 0 0) := by
    cbv
  obtain ⟨link, bridge, hlink, hbridge, -, -, -, haftermath⟩ :=
    (drop_closes_what_is_open steps hname).2 last
  rw [show (behind {} steps).links[0]? = some link from hlink, Option.bind_some, hbridge]
    at hentries
  have hawaits : bridge.Awaits 0 := by
    refine ⟨entry, ?_, rfl⟩
    rw [show bridge.pending.entries = [entry] from Option.some.inj hentries]
    exact List.mem_singleton.2 rfl
  rw [behind_append] at hreply ⊢
  exact ⟨hname, (haftermath [.advance 10]).pending 0 "reply" hawaits hreply⟩

end Session
end HostLink

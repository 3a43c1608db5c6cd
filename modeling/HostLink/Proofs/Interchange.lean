import HostLink.Proofs.Activation
import HostLink.Proofs.Carriage
import HostLink.Proofs.ChannelSteps

/-!
# The transports are interchangeable

A text reaches a bridge by one of three routes: the host of a memory transport delivers it and the
listener hears it at once, the endpoint of a channel posts it and the pump brings it a little later,
or it is handed to the bridge itself.  `Session.routes_interchangeable` says that whoever works with
the bridge cannot tell: the same operations and texts give the same answers, the same calls of
callbacks with the same payloads, and the same messages to the native side, and leave the same
bridge behind.

What carries the proof is the cargo of `HostLink.Proofs.Carriage`.  Operations move it the same way
on every carriage, and so does a text by every route (`Cargo.Sound.session_inbound`), though on the
way over a channel the pump is awake and the carriage therefore another one.
-/

namespace HostLink

/-! ## Routes -/

/-- The names of a session with one bridge, and the configuration of the bridge. -/
structure Setup where
  transport : String
  bridge : String
  /-- What the transport calls itself. -/
  id : String
  config : Config

/-- What happens in a session: an operation on the bridge's side, or a text that comes in. -/
inductive Act where
  | operate (step : Step)
  | inbound (text : String)

/-- Operations are steps at the bridge, with scripts of such steps; so no text comes in while a
callback runs. -/
def Act.Fair : Act → Prop
  | .operate step => step.Local
  | .inbound _ => True

/-- The route of the texts that come in. -/
inductive Route where
  /-- The host of a memory transport delivers them. -/
  | host
  /-- The endpoint of a channel posts them. -/
  | endpoint
  /-- They are handed to the bridge itself, which is on a channel or a memory transport. -/
  | direct (onChannel : Bool)

namespace Route

/-- The carriage between two steps, when the pump of a channel waits. -/
def carriage : Route → Carriage
  | .host | .direct false => .memory
  | .endpoint | .direct true => .channel .waiting

/-- The step that makes the transport. -/
def create (route : Route) (setup : Setup) : Step :=
  match route.carriage with
  | .memory => .createMemory setup.transport setup.id
  | .channel _ => .createChannel setup.transport setup.id

/-- The step by which an act takes place. -/
def step (route : Route) (setup : Setup) : Act → Step
  | .operate step => step
  | .inbound text =>
    match route with
    | .host => .deliver setup.transport text
    | .endpoint => .endpointPost setup.transport text
    | .direct _ => .onReply setup.bridge text

/-- A session that opens a bridge and goes through some acts. -/
def session (route : Route) (setup : Setup) (acts : List Act) : List Step :=
  route.create setup :: .buildBridge setup.transport setup.bridge [.replace setup.config] ::
    acts.map (route.step setup)

end Route

/-- What a step shows to whoever works with the bridge: its answer, and what callbacks saw. -/
def StepReport.shown (report : StepReport) : Answer × List Event := (report.answer, report.events)

namespace Session

/-- The world behind the steps of a session. -/
def behind (world : World) (steps : List Step) : World :=
  steps.foldl (fun world step => (Session.step world step).2) world

end Session

/-! ## One act -/

namespace Cargo

variable {transport bridgeName : String} {cargo : Cargo}

/-- The cargo at the beginning of a step, which notes its own events. -/
def fresh (cargo : Cargo) : Cargo :=
  { cargo with world := { cargo.world with events := [] } }

/-- The world when the endpoint of a channel has posted a text and the pump is about to run. -/
def posted (cargo : Cargo) (text : String) (log : List LogEvent) : World :=
  { cargo.world with
    links := [⟨⟨cargo.id, .channel { outbox := cargo.outbox, inbox := [text], pump := .awake }⟩,
      .bridge cargo.bridge⟩]
    ready := [0]
    log }

namespace Sound

variable (sound : cargo.Sound transport bridgeName)
include sound

theorem fresh : cargo.fresh.Sound transport bridgeName := { sound with }

/-- No pump is about to run. -/
theorem runPumps_on (carriage : Carriage) (log : List LogEvent) :
    (cargo.on carriage log).runPumps = cargo.on carriage log := by
  have hidle : (cargo.on carriage log).ready = [] := sound.idle
  exact World.runPumpsFor_of_idle hidle _ _

/-- A step whose performance is known, when it leaves no pump about to run. -/
theorem session_step {step : Step} {answer : Answer} {start : Cargo} {carriage : Carriage}
    {log log' : List LogEvent}
    (h : World.perform (start.fresh.on carriage []) step = (answer, cargo.on carriage log')) :
    Session.step (start.on carriage log) step =
      (⟨answer, cargo.world.events, sortExpiries log'⟩, cargo.on carriage log') := by
  have hperform : World.perform { start.on carriage log with events := [], log := [] } step =
      (answer, cargo.on carriage log') := h
  simp only [Session.step, hperform, sound.runPumps_on]
  rfl

/-- An operation shows the same on every carriage, and leaves the same cargo. -/
theorem session_operate {step : Step} (hstep : step.Local) :
    ∃ (answer : Answer) (after : Cargo), after.Sound transport bridgeName ∧
      ∀ carriage log, ∃ lines log', Session.step (cargo.on carriage log) step =
        (⟨answer, after.world.events, lines⟩, after.on carriage log') := by
  obtain ⟨answer, after, hafter, hperformed⟩ := sound.fresh.gives_perform
    (moves_call (cargo.fresh.world.scriptCount + step.scriptCount)) hstep
  refine ⟨answer, after, hafter, fun carriage log => ?_⟩
  obtain ⟨log', heq⟩ := hperformed carriage []
  exact ⟨_, log', hafter.session_step heq⟩

/-- A message that the bridge receives. -/
theorem receive_on (fuel : Nat) (text : String) :
    ∃ after : Cargo, after.Sound transport bridgeName ∧ ∀ carriage log, ∃ log',
      World.receive (World.call fuel) 0 (cargo.link carriage) cargo.bridge text
        (cargo.on carriage log) = after.on carriage log' := by
  let received := cargo.bridge.receive cargo.world.now text
  have hlive : received.1.live = cargo.bridge.live :=
    (Bridge.sameAround_receive cargo.bridge cargo.world.now text).live
  obtain ⟨after, hafter, hcalled⟩ :=
    (sound.withBridge hlive).moves_fanOutHeld (moves_call fuel) received.2.2
  exact ⟨after, hafter, fun carriage log => hcalled carriage (log ++ received.2.1)⟩

/-- What the listener of the link hears, the bridge receives. -/
theorem deliver_on (invoke : World.Invoke) (text : String) (carriage : Carriage)
    (log : List LogEvent) :
    World.deliver invoke 0 text (cargo.on carriage log) =
      World.receive invoke 0 (cargo.link carriage) cargo.bridge text (cargo.on carriage log) :=
  if_pos sound.live

/-- A text that the host delivers reaches the bridge at once. -/
theorem perform_deliver (text : String) (log : List LogEvent) :
    World.perform (cargo.on .memory log) (.deliver transport text) =
      (.done, World.receive (World.call cargo.world.scriptCount) 0 (cargo.link .memory) cargo.bridge
        text (cargo.on .memory (log ++ [.delivered cargo.id text]))) := by
  rw [← sound.deliver_on]
  simp only [World.perform, Step.perform, World.onHost, World.onNative, on, sound.natives]
  rfl

/-- So does a text that is handed to it. -/
theorem perform_onReply (text : String) (carriage : Carriage) (log : List LogEvent) :
    World.perform (cargo.on carriage log) (.onReply bridgeName text) =
      (.done, World.receive (World.call cargo.world.scriptCount) 0 (cargo.link carriage)
        cargo.bridge text (cargo.on carriage log)) := by
  simp only [World.perform, Step.perform, World.onBridge, on, sound.named]
  rfl

/-- A text that the endpoint posts wakes the pump. -/
theorem perform_endpointPost (text : String) (log : List LogEvent) :
    World.perform (cargo.on (.channel .waiting) log) (.endpointPost transport text) =
      (.done, cargo.posted text log) := by
  simp only [World.perform, Step.perform, World.onEndpoint, World.onNative, on, sound.natives]
  simp [World.endpointPost, Channel.takesInbound, link, Carriage.transport, Link.channel?,
    World.wakePump, World.setLink, Link.withChannel, Channel.wake, sound.idle, posted]

/-- The pump brings the text to the bridge, while it is awake, and waits again. -/
theorem runPumps_posted {text : String} {after : Cargo} (hafter : after.Sound transport bridgeName)
    (hreceived : ∀ carriage log, ∃ log',
      World.receive (World.call cargo.world.scriptCount) 0 (cargo.link carriage) cargo.bridge text
        (cargo.on carriage log) = after.on carriage log') (log : List LogEvent) :
    ∃ log', (cargo.posted text log).runPumps = after.on (.channel .waiting) log' := by
  obtain ⟨log', heq⟩ := hreceived (.channel .awake) log
  refine ⟨log', ?_⟩
  -- The pump takes the text off the queue, has it delivered, and finds nothing more.
  have hdrained (fuel : Nat) :
      World.drain (fuel + 2) 0 { cargo.posted text log with ready := [] } =
        after.on (.channel .waiting) log' := by
    have htaken : World.setLink { cargo.posted text log with ready := [] } 0
        (cargo.link (.channel .awake)) = cargo.on (.channel .awake) log := by
      simp [World.setLink, posted, on, sound.idle]
    have hlink : (after.on (.channel .awake) log').links[0]? =
        some ⟨⟨after.id, .channel { outbox := after.outbox, pump := .awake }⟩,
          .bridge after.bridge⟩ := rfl
    rw [World.drain_of_message rfl rfl htaken, sound.deliver_on]
    rw [show (cargo.on (.channel .awake) log).scriptCount = cargo.world.scriptCount from rfl, heq]
    exact World.drain_of_empty hlink rfl rfl fuel
  have hbacklog : (cargo.posted text log).backlog = 1 := rfl
  have hwork : (cargo.posted text log).backlog + (cargo.posted text log).ready.length +
        2 * (cargo.posted text log).stepCount + 1 =
      2 * (cargo.posted text log).stepCount + 1 + 2 := by
    have hready : (cargo.posted text log).ready.length = 1 := rfl
    omega
  have hidle : (after.on (.channel .waiting) log').ready = [] := hafter.idle
  rw [World.runPumps, hwork, World.runPumpsFor]
  rw [show (cargo.posted text log).ready = [0] from rfl]
  dsimp only
  rw [show World.runPump _ 0 { cargo.posted text log with ready := [] } =
      World.drain _ 0 _ from rfl, hdrained, World.runPumpsFor_of_idle hidle]

end Sound

/-- A text that comes in is answered in the same way by every route, shows the same calls of
callbacks, and leaves the same cargo. -/
theorem session_inbound {setup : Setup} (sound : cargo.Sound setup.transport setup.bridge)
    (text : String) :
    ∃ after : Cargo, after.Sound setup.transport setup.bridge ∧
      ∀ (route : Route) log, ∃ lines log',
        Session.step (cargo.on route.carriage log) (route.step setup (.inbound text)) =
          (⟨.done, after.world.events, lines⟩, after.on route.carriage log') := by
  obtain ⟨after, hafter, hreceived⟩ :=
    sound.fresh.receive_on cargo.fresh.world.scriptCount text
  refine ⟨after, hafter, fun route log => ?_⟩
  cases route with
  | host =>
    obtain ⟨log', heq⟩ := hreceived .memory [.delivered cargo.id text]
    have hperform := sound.fresh.perform_deliver text []
    exact ⟨_, log', hafter.session_step (hperform.trans (congrArg (Prod.mk Answer.done) heq))⟩
  | endpoint =>
    obtain ⟨log', heq⟩ := sound.fresh.runPumps_posted hafter hreceived []
    refine ⟨sortExpiries log', log', ?_⟩
    have hposted : World.perform
        { cargo.on (.channel .waiting) log with events := [], log := [] }
        (.endpointPost setup.transport text) = (.done, cargo.fresh.posted text []) :=
      sound.fresh.perform_endpointPost text []
    simp only [Session.step, Route.step, Route.carriage, hposted, heq]
    rfl
  | direct onChannel =>
    obtain ⟨log', heq⟩ := hreceived (Route.direct onChannel).carriage []
    have hperform := sound.fresh.perform_onReply text (Route.direct onChannel).carriage []
    exact ⟨_, log', hafter.session_step (hperform.trans (congrArg (Prod.mk Answer.done) heq))⟩

/-- An act shows the same by every route, and leaves the same cargo. -/
theorem session_act {setup : Setup} (sound : cargo.Sound setup.transport setup.bridge) {act : Act}
    (fair : act.Fair) :
    ∃ (answer : Answer) (after : Cargo), after.Sound setup.transport setup.bridge ∧
      ∀ (route : Route) log, ∃ lines log',
        Session.step (cargo.on route.carriage log) (route.step setup act) =
          (⟨answer, after.world.events, lines⟩, after.on route.carriage log') := by
  cases act with
  | operate step =>
    obtain ⟨answer, after, hafter, h⟩ := sound.session_operate fair
    exact ⟨answer, after, hafter, fun route log => h route.carriage log⟩
  | inbound text =>
    obtain ⟨after, hafter, h⟩ := session_inbound sound text
    exact ⟨.done, after, hafter, h⟩

/-! ## Runs -/

/-- A run of acts shows the same by every route, and leaves the same cargo. -/
theorem session_acts {setup : Setup} (sound : cargo.Sound setup.transport setup.bridge)
    {acts : List Act} (fair : ∀ act ∈ acts, act.Fair) :
    ∃ (shown : List (Answer × List Event)) (after : Cargo),
      after.Sound setup.transport setup.bridge ∧ ∀ (route : Route) log,
        (Session.runFrom (cargo.on route.carriage log) (acts.map (route.step setup))).map
            StepReport.shown = shown ∧
          ∃ log', Session.behind (cargo.on route.carriage log) (acts.map (route.step setup)) =
            after.on route.carriage log' := by
  induction acts generalizing cargo with
  | nil => exact ⟨[], cargo, sound, fun route log => ⟨rfl, log, rfl⟩⟩
  | cons act rest ih =>
    obtain ⟨answer, middle, hmiddle, hfirst⟩ := session_act sound (fair act List.mem_cons_self)
    obtain ⟨shown, after, hafter, hrest⟩ :=
      ih hmiddle fun other hmem => fair other (List.mem_cons_of_mem _ hmem)
    refine ⟨(answer, middle.world.events) :: shown, after, hafter, fun route log => ?_⟩
    obtain ⟨lines, log', heq⟩ := hfirst route log
    obtain ⟨hshown, log'', hbehind⟩ := hrest route log'
    constructor
    · rw [List.map_cons, Session.runFrom, heq, List.map_cons, hshown]
      rfl
    · refine ⟨log'', ?_⟩
      rw [← hbehind, List.map_cons, Session.behind, List.foldl_cons, heq]
      rfl

end Cargo

/-! ## Openings -/

namespace Setup

/-- The cargo of a bridge that was just opened. -/
def cargo (setup : Setup) : Cargo where
  world :=
    { transports := [(setup.transport, 0)]
      natives := [(setup.transport, 0)]
      bridges := [(setup.bridge, { link := 0 })] }
  id := setup.id
  outbox := []
  bridge := { config := setup.config }

theorem sound_cargo (setup : Setup) : setup.cargo.Sound setup.transport setup.bridge where
  live := rfl
  natives := if_pos rfl
  named := if_pos rfl
  idle := rfl
  tame := nofun

/-- The world of a transport that was just made. -/
def made (setup : Setup) (transport : Transport) (log : List LogEvent) : World :=
  { links := [⟨transport, .nobody⟩]
    transports := [(setup.transport, 0)]
    natives := [(setup.transport, 0)]
    log }

/-- Building the bridge installs it on the one transport there is, and lets the pumps run. -/
theorem step_buildBridge (setup : Setup) (transport : Transport) (log : List LogEvent) :
    let opened := (setup.made transport []).openBridge 0 ⟨transport, .nobody⟩ true setup.config
      setup.bridge none
    Session.step (setup.made transport log)
        (.buildBridge setup.transport setup.bridge [.replace setup.config]) =
      (⟨opened.1, opened.2.runPumps.events, sortExpiries opened.2.runPumps.log⟩,
        opened.2.runPumps) := by
  have hlookup : Fields.lookup setup.transport [(setup.transport, (0 : LinkIndex))] = some 0 :=
    if_pos rfl
  simp only [Session.step, World.perform, Step.perform, World.onTransport, made, hlookup]
  rfl

/-- A bridge is opened without more ado on every route; over a channel the pump starts first, and
waits. -/
theorem session_open (setup : Setup) (route : Route) :
    ∃ made lines lines' log, Session.step {} (route.create setup) = (⟨.done, [], lines⟩, made) ∧
      Session.step made (.buildBridge setup.transport setup.bridge [.replace setup.config]) =
        (⟨.done, [], lines'⟩, setup.cargo.on route.carriage log) := by
  cases hcarriage : route.carriage with
  | memory =>
    simp only [Route.create, hcarriage]
    exact ⟨_, _, _, [.bridgeReady setup.config.extension setup.id], rfl,
      setup.step_buildBridge { id := setup.id, medium := .memory {} } [.transportCreated setup.id]⟩
  | channel pump =>
    obtain rfl : pump = .waiting := by
      cases route with
      | direct onChannel => cases onChannel <;> simp_all [Route.carriage]
      | _ => simp_all [Route.carriage]
    simp only [Route.create, hcarriage]
    exact ⟨_, _, _, _, rfl,
      setup.step_buildBridge { id := setup.id, medium := .channel {} } []⟩

end Setup

/-! ## The law -/

/-- Two worlds agree in all that can be told without looking at how text is carried. -/
structure World.Agree (world other : World) : Prop where
  now : world.now = other.now
  /-- The bridge, with its replies, its table of pending requests and its registry. -/
  bridge : world.links.map Link.bridge? = other.links.map Link.bridge?
  /-- The messages to the native side, oldest first. -/
  posted : world.links.map (fun link => link.transport.outbox) =
    other.links.map fun link => link.transport.outbox
  outcomes : ∀ ref, (world.pollReply ref).1 = (other.pollReply ref).1
  callbacks : world.callbacks = other.callbacks
  detached : world.detached = other.detached
  replies : world.replies = other.replies
  settlers : world.settlers = other.settlers
  subscriptions : world.subscriptions = other.subscriptions

/-- A cargo agrees with itself on every two carriages. -/
theorem Cargo.Sound.agree_on {transport bridgeName : String} {cargo : Cargo}
    (sound : cargo.Sound transport bridgeName) (carriage carriage' : Carriage)
    (log log' : List LogEvent) : (cargo.on carriage log).Agree (cargo.on carriage' log') where
  now := rfl
  bridge := rfl
  posted := by cases carriage <;> cases carriage' <;> rfl
  outcomes ref := by
    obtain ⟨outcome, after, -, hpolled⟩ := sound.gives_pollReply ref
    obtain ⟨_, heq⟩ := hpolled carriage log
    obtain ⟨_, heq'⟩ := hpolled carriage' log'
    exact (congrArg Prod.fst heq).trans (congrArg Prod.fst heq').symm
  callbacks := rfl
  detached := rfl
  replies := rfl
  settlers := rfl
  subscriptions := rfl

namespace Session

/-- For every configuration and every sequence of operations and inbound texts, of which none comes
in while a callback runs: whichever two routes the texts take, all answers and all calls of
callbacks are the same, and so are the bridge that is left, the outcome of every reply, and the
messages that were posted. -/
theorem routes_interchangeable (setup : Setup) {acts : List Act} (fair : ∀ act ∈ acts, act.Fair)
    (route other : Route) :
    (run (route.session setup acts)).map StepReport.shown =
        (run (other.session setup acts)).map StepReport.shown ∧
      (behind {} (route.session setup acts)).Agree (behind {} (other.session setup acts)) := by
  obtain ⟨shown, after, hafter, h⟩ := Cargo.session_acts setup.sound_cargo fair
  have hroute (route : Route) :
      (run (route.session setup acts)).map StepReport.shown =
          (.done, []) :: (.done, []) :: shown ∧
        ∃ log, behind {} (route.session setup acts) = after.on route.carriage log := by
    obtain ⟨made, lines, lines', log, hcreate, hbuild⟩ := setup.session_open route
    obtain ⟨hshown, log', hbehind⟩ := h route log
    constructor
    · simp only [run, Route.session, runFrom, hcreate, hbuild, List.map_cons, hshown,
        StepReport.shown]
    · refine ⟨log', ?_⟩
      rw [← hbehind, Route.session, behind, List.foldl_cons, List.foldl_cons, hcreate]
      simp only [hbuild]
      rfl
  obtain ⟨hshown, log, hbehind⟩ := hroute route
  obtain ⟨hshown', log', hbehind'⟩ := hroute other
  refine ⟨hshown.trans hshown'.symm, ?_⟩
  rw [hbehind, hbehind']
  exact hafter.agree_on _ _ _ _

/-- A callback that sends a request when its event comes, the answer to that request, and a second
request that runs out of time: the host and the endpoint bring about the same. -/
theorem routes_interchangeable_of_sending_callback :
    let setup : Setup := { transport := "t", bridge := "b", id := "host", config := {} }
    let acts : List Act :=
      [.operate (.subscribe "b" "s" "tick" [[.send "b" "first" "now" .absent none]]),
        .inbound "\x7b\"eventName\":\"tick\"\x7d",
        .operate (.send "b" "second" "then" .absent (some 5)),
        .inbound "\x7b\"_promise_id\":\"0\"\x7d", .operate (.advance 5),
        .operate (.pendingCount "b"), .operate (.poll "first"), .operate (.poll "second")]
    (run (Route.host.session setup acts)).map StepReport.shown =
        (run (Route.endpoint.session setup acts)).map StepReport.shown ∧
      (run (Route.endpoint.session setup acts)).map (fun report => report.events.length) =
        [0, 0, 0, 2, 0, 0, 0, 0, 0, 0] := by
  intro setup acts
  have fair : ∀ act ∈ acts, act.Fair := by
    simp only [acts, List.forall_mem_cons]
    refine ⟨.subscribe _ _ _ ?_, trivial, .send _ _ _ _ _, trivial, .advance _, .pendingCount _,
      .poll _, .poll _, nofun⟩
    simp only [List.forall_mem_cons]
    exact ⟨⟨.send _ _ _ _ _, nofun⟩, nofun⟩
  exact ⟨(routes_interchangeable setup fair .host .endpoint).1, by decide +kernel⟩

end Session
end HostLink

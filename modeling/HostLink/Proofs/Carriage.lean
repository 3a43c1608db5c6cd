import HostLink.Proofs.Runs
import HostLink.Session.Run

/-!
# What a bridge cannot see of its transport

A bridge sees of its transport only whether a post succeeds, and at a host that is online and at an
endpoint that is there every post does.  So a session with one bridge falls into two parts: its
`Cargo`, which has the bridge, what it has posted and everything that names stand for, and the
`Carriage` under it.  A step at the bridge gives the same answer and the same cargo on either
carriage (`Cargo.gives_perform`), and so does a call of a callback, whatever the steps of its script
do at the bridge (`Cargo.moves_call`).

The two go together: a step may call callbacks, and a callback runs steps.  As in `Step.perform` the
calls come in as an argument, and the knot is tied by induction on how deep they may nest.
-/

namespace HostLink

/-! ## Steps at the bridge -/

/-- A step of the bridge's own side: it acts on a bridge by its name, on a reply or on a settler, or
moves the clock.  Scripts that it gives to a callback have such steps only. -/
inductive Step.Local : Step → Prop
  | call (bridge reply : String) (action : FacadeCall) : Local (.call bridge reply action)
  | showConfig (bridge : String) : Local (.showConfig bridge)
  | describe (bridge : String) : Local (.describe bridge)
  | send (bridge reply command : String) (payload : Datum) (timeout : Option Nanoseconds) :
    Local (.send bridge reply command payload timeout)
  | dispatch (bridge event : String) (value : Json) : Local (.dispatch bridge event value)
  | subscribe (bridge subscription event : String) {scripts : List (List Step)}
    (scripted : ∀ script ∈ scripts, ∀ step ∈ script, Local step) :
    Local (.subscribe bridge subscription event scripts)
  | unsubscribe (bridge subscription : String) : Local (.unsubscribe bridge subscription)
  | pendingCount (bridge : String) : Local (.pendingCount bridge)
  | isPending (bridge : String) (id : CorrelationId) : Local (.isPending bridge id)
  | subscriptionCount (bridge : String) : Local (.subscriptionCount bridge)
  | advance (time : Nanoseconds) : Local (.advance time)
  | createSettler (settler reply : String) (id : CorrelationId) :
    Local (.createSettler settler reply id)
  | resolve (settler : String) (value : Json) : Local (.resolve settler value)
  | reject (settler : String) (value : Json) : Local (.reject settler value)
  | fail (settler : String) (error : BridgeError) : Local (.fail settler error)
  | settlerInfo (settler : String) : Local (.settlerInfo settler)
  | dropSettler (settler : String) : Local (.dropSettler settler)
  | poll (reply : String) : Local (.poll reply)
  | decodeReply (reply : String) (target : DecodeTarget) : Local (.decodeReply reply target)
  | withTimeout (reply : String) (timeout : Nanoseconds) : Local (.withTimeout reply timeout)
  | replyInfo (reply : String) : Local (.replyInfo reply)
  | dropReply (reply : String) : Local (.dropReply reply)

/-- The scripts of a callback have steps at the bridge only. -/
def Callback.Tame (callback : Callback) : Prop :=
  ∀ script ∈ callback.scripts, ∀ step ∈ script, step.Local

/-! ## Carriages -/

/-- What carries the text of a bridge: a host that is online, or a channel whose endpoint is there
and has nothing waiting for the pump. -/
inductive Carriage where
  | memory
  | channel (pump : Pump)

namespace Carriage

/-- The transport on a carriage, with what was posted on it. -/
def transport (carriage : Carriage) (id : String) (outbox : List String) : Transport :=
  ⟨id, match carriage with
    | .memory => .memory { outbox }
    | .channel pump => .channel { outbox, pump }⟩

/-- A carriage takes every message. -/
theorem post (carriage : Carriage) (id : String) (outbox : List String) (message : String) :
    (carriage.transport id outbox).post message =
      (.ok (), carriage.transport id (outbox ++ [message]), [.posted id message]) := by
  cases carriage <;> simp [transport, Transport.post]

end Carriage

namespace Bridge

variable {κ : Type} (bridge : Bridge κ) (id : String) (outbox : List String)

/-- An operation on a transport does the same on either carriage, and leaves the bridge held. -/
def Blind {α : Type} (act : Transport → Acted κ α) : Prop :=
  ∃ (answer : α) (after : Bridge κ) (posted : List String) (log : List LogEvent),
    after.live = bridge.live ∧ ∀ carriage : Carriage,
      act (carriage.transport id outbox) =
        ⟨answer, after, carriage.transport id posted, log⟩

theorem blind_sendUntimed (command : String) (payload : Datum) :
    bridge.Blind id outbox fun transport => bridge.sendUntimed transport command payload := by
  cases hencoded : encodeRequest bridge.config bridge.nextId command payload with
  | error error =>
    refine ⟨(), bridge.sendRejected error, outbox,
      [.requestRejected bridge.extension bridge.nextId command error], rfl, fun carriage => ?_⟩
    simp [sendUntimed, hencoded]
  | ok text =>
    refine ⟨(), bridge.openRequest.2, outbox ++ [text],
      [.requestSent bridge.extension bridge.nextId command, .posted id text], rfl,
      fun carriage => ?_⟩
    simp [sendUntimed, hencoded, postRequest, carriage.post, openRequest, Settler.channel]

theorem blind_send (now : Instant) (command : String) (payload : Datum)
    (timeout : Option Nanoseconds) :
    bridge.Blind id outbox fun transport => bridge.send transport now command payload timeout := by
  obtain ⟨answer, after, posted, log, hlive, hsent⟩ :=
    bridge.blind_sendUntimed id outbox command payload
  cases htimeout : timeout <|> bridge.config.requestTimeout with
  | none =>
    refine ⟨bridge.replies.length, after, posted, log, hlive, fun carriage => ?_⟩
    simp [send, hsent, htimeout]
  | some timeout =>
    have harmed := (sameAround_arm after now bridge.replies.length timeout).live
    refine ⟨bridge.replies.length, after.arm now bridge.replies.length timeout, posted, log,
      harmed.trans hlive, fun carriage => ?_⟩
    simp [send, hsent, htimeout]

theorem blind_subscribe (event : String) (callback : κ) :
    bridge.Blind id outbox fun transport => bridge.subscribe transport event callback := by
  cases hname : Registry.checkEventName event with
  | error cause =>
    refine ⟨.error (.invalidArgument cause), bridge, outbox,
      [.subscribeRejected bridge.extension (.invalidArgument cause)], rfl, fun carriage => ?_⟩
    simp [subscribe, hname]
  | ok =>
    let subscribed := { bridge with registry := (bridge.registry.insert event callback).2 }
    by_cases hlistens : bridge.registry.hasListener event = true
    · refine ⟨.ok (bridge.registry.insert event callback).1, subscribed, outbox, [], rfl,
        fun carriage => ?_⟩
      simp [subscribe, hname, hlistens, subscribed]
    · refine ⟨.ok (bridge.registry.insert event callback).1, subscribed,
        outbox ++ [activationText bridge.config event],
        [.posted id (activationText bridge.config event), .eventActivated bridge.extension event],
        rfl, fun carriage => ?_⟩
      simp [subscribe, hname, hlistens, subscribed, carriage.post]

end Bridge

/-! ## Cargoes -/

/-- A session with one bridge, apart from what carries its text: the link and the log of the world
are left out of account. -/
structure Cargo where
  world : World
  id : String
  /-- What was posted and not yet taken by the native side, oldest first. -/
  outbox : List String
  bridge : Bridge CallbackRef

namespace Cargo

/-- The link of the bridge, on a carriage. -/
def link (cargo : Cargo) (carriage : Carriage) : Link CallbackRef :=
  ⟨carriage.transport cargo.id cargo.outbox, .bridge cargo.bridge⟩

/-- The world of the session, on a carriage and with a log. -/
def on (cargo : Cargo) (carriage : Carriage) (log : List LogEvent) : World :=
  { cargo.world with links := [cargo.link carriage], log }

section

variable (cargo : Cargo) (carriage : Carriage) (log : List LogEvent)

@[simp] theorem on_bridges : (cargo.on carriage log).bridges = cargo.world.bridges := rfl

@[simp] theorem on_replies : (cargo.on carriage log).replies = cargo.world.replies := rfl

@[simp] theorem on_settlers : (cargo.on carriage log).settlers = cargo.world.settlers := rfl

@[simp] theorem on_subscriptions :
    (cargo.on carriage log).subscriptions = cargo.world.subscriptions := rfl

end

/-- The session can go on: the transport and the bridge have their names, the bridge is held, no
pump is about to run, and callbacks will act on the bridge's side only. -/
structure Sound (transport bridgeName : String) (cargo : Cargo) : Prop where
  live : cargo.bridge.live = true
  natives : Fields.lookup transport cargo.world.natives = some 0
  named : Fields.lookup bridgeName cargo.world.bridges = some { link := 0 }
  idle : cargo.world.ready = []
  tame : ∀ callback ∈ cargo.world.callbacks, callback.Tame

/-- The reply itself, which does not depend on the carriage. -/
def reply? (cargo : Cargo) (ref : ReplyRef) : Option Reply := (cargo.on .memory []).reply? ref

theorem reply?_on (cargo : Cargo) (carriage : Carriage) (log : List LogEvent) (ref : ReplyRef) :
    (cargo.on carriage log).reply? ref = cargo.reply? ref := by
  cases ref with
  | detached ticket => rfl
  | ofBridge index ticket => cases index <;> rfl

variable (transport bridgeName : String) (cargo : Cargo)

/-- A change of the world leads from the cargo to another, the same on every carriage. -/
def Moves (change : World → World) : Prop :=
  ∃ after : Cargo, after.Sound transport bridgeName ∧ ∀ carriage log, ∃ log',
    change (cargo.on carriage log) = after.on carriage log'

/-- Moreover the change gives an answer, which is the same on every carriage. -/
def Gives {α : Type} (change : World → α × World) : Prop :=
  ∃ (answer : α) (after : Cargo), after.Sound transport bridgeName ∧ ∀ carriage log, ∃ log',
    change (cargo.on carriage log) = (answer, after.on carriage log')

variable {transport bridgeName : String} {cargo : Cargo}

theorem Moves.gives {α : Type} {change : World → World} (answer : α)
    (h : cargo.Moves transport bridgeName change) :
    cargo.Gives transport bridgeName fun world => (answer, change world) := by
  obtain ⟨after, hsound, hchange⟩ := h
  refine ⟨answer, after, hsound, fun carriage log => ?_⟩
  obtain ⟨log', heq⟩ := hchange carriage log
  exact ⟨log', congrArg (Prod.mk answer) heq⟩

theorem Moves.trans {first second : World → World} (h : cargo.Moves transport bridgeName first)
    (h' : ∀ after : Cargo, after.Sound transport bridgeName →
      after.Moves transport bridgeName second) :
    cargo.Moves transport bridgeName fun world => second (first world) := by
  obtain ⟨middle, hmiddle, hfirst⟩ := h
  obtain ⟨after, hafter, hsecond⟩ := h' middle hmiddle
  refine ⟨after, hafter, fun carriage log => ?_⟩
  obtain ⟨log', heq⟩ := hfirst carriage log
  beta_reduce
  rw [heq]
  exact hsecond carriage log'

/-- What comes after a change may depend on its answer. -/
theorem Gives.trans {α β : Type} {first : World → α × World} {second : α → World → β × World}
    (h : cargo.Gives transport bridgeName first)
    (h' : ∀ answer (after : Cargo), after.Sound transport bridgeName →
      after.Gives transport bridgeName (second answer)) :
    cargo.Gives transport bridgeName fun world => second (first world).1 (first world).2 := by
  obtain ⟨answer, middle, hmiddle, hfirst⟩ := h
  obtain ⟨last, after, hafter, hsecond⟩ := h' answer middle hmiddle
  refine ⟨last, after, hafter, fun carriage log => ?_⟩
  obtain ⟨log', heq⟩ := hfirst carriage log
  beta_reduce
  rw [heq]
  exact hsecond carriage log'

namespace Sound

variable (sound : cargo.Sound transport bridgeName)
include sound

/-- A look that changes nothing. -/
theorem gives_same {α : Type} (answer : α) :
    cargo.Gives transport bridgeName fun world => (answer, world) :=
  ⟨answer, cargo, sound, fun _ log => ⟨log, rfl⟩⟩

theorem moves_note (event : Event) :
    cargo.Moves transport bridgeName fun world => world.note event :=
  ⟨{ cargo with world := cargo.world.note event }, { sound with }, fun _ log => ⟨log, rfl⟩⟩

/-- Another state of the bridge, which is still held. -/
theorem withBridge {bridge : Bridge CallbackRef} (hlive : bridge.live = cargo.bridge.live) :
    Sound transport bridgeName { cargo with bridge } :=
  { sound with live := hlive.trans sound.live }

/-! ### Replies and settlers -/

theorem moves_releaseReply (ref : ReplyRef) :
    cargo.Moves transport bridgeName fun world => world.releaseReply ref := by
  cases ref with
  | detached ticket =>
    exact ⟨{ cargo with world := cargo.world.releaseReply (.detached ticket) }, { sound with },
      fun _ log => ⟨log, rfl⟩⟩
  | ofBridge index ticket =>
    cases index with
    | zero =>
      exact ⟨{ cargo with bridge := cargo.bridge.release ticket }, sound.withBridge rfl,
        fun _ log => ⟨log, rfl⟩⟩
    | succ index => exact ⟨cargo, sound, fun _ log => ⟨log, rfl⟩⟩

theorem moves_storeReply (name : String) (ref : ReplyRef) :
    cargo.Moves transport bridgeName fun world => world.storeReply name ref := by
  let stored : Cargo :=
    { cargo with
      world := { cargo.world with replies := Fields.insert name ref cargo.world.replies } }
  have hstored : stored.Sound transport bridgeName := { sound with }
  simp only [Moves, World.storeReply, on_replies]
  cases Fields.lookup name cargo.world.replies with
  | none => exact ⟨stored, hstored, fun _ log => ⟨log, rfl⟩⟩
  | some old => exact hstored.moves_releaseReply old

theorem moves_dropReply (name : String) (ref : ReplyRef) :
    cargo.Moves transport bridgeName fun world => world.dropReply name ref := by
  let erased : World := { cargo.world with replies := Fields.erase name cargo.world.replies }
  have herased : Sound transport bridgeName { cargo with world := erased } := { sound with }
  obtain ⟨after, hafter, hreleased⟩ := herased.moves_releaseReply ref
  exact ⟨after, hafter, hreleased⟩

theorem moves_storeSettler (name : String) (settler : Settler) :
    cargo.Moves transport bridgeName fun world => world.storeSettler name settler := by
  let stored : World :=
    { cargo.world with settlers := Fields.insert name settler cargo.world.settlers }
  simp only [Moves, World.storeSettler, on_settlers]
  cases Fields.lookup name cargo.world.settlers with
  | none => exact ⟨{ cargo with world := stored }, { sound with }, fun _ log => ⟨log, rfl⟩⟩
  | some old =>
    exact ⟨{ cargo with world := stored.releaseSettler old }, { sound with },
      fun _ log => ⟨log, rfl⟩⟩

theorem gives_pollReply (ref : ReplyRef) :
    cargo.Gives transport bridgeName fun world => world.pollReply ref := by
  cases ref with
  | detached ticket =>
    let polled := Reply.poll cargo.world.now ticket cargo.world.detached
    exact ⟨polled.1, { cargo with world := { cargo.world with detached := polled.2.1 } },
      { sound with }, fun _ log => ⟨log ++ polled.2.2, rfl⟩⟩
  | ofBridge index ticket =>
    cases index with
    | zero =>
      let polled := cargo.bridge.poll cargo.world.now ticket
      exact ⟨polled.1, { cargo with bridge := polled.2.1 },
        sound.withBridge (Bridge.sameAround_poll cargo.bridge cargo.world.now ticket).live,
        fun _ log => ⟨log ++ polled.2.2, rfl⟩⟩
    | succ index => exact sound.gives_same none

theorem moves_armReply (timeout : Nanoseconds) (ref : ReplyRef) :
    cargo.Moves transport bridgeName fun world => world.armReply timeout ref := by
  cases ref with
  | detached ticket =>
    exact ⟨{ cargo with world := cargo.world.armReply timeout (.detached ticket) }, { sound with },
      fun _ log => ⟨log, rfl⟩⟩
  | ofBridge index ticket =>
    cases index with
    | zero =>
      exact ⟨_, sound.withBridge
        (Bridge.sameAround_arm cargo.bridge cargo.world.now ticket timeout).live,
        fun _ log => ⟨log, rfl⟩⟩
    | succ index => exact ⟨cargo, sound, fun _ log => ⟨log, rfl⟩⟩

/-- A look at a reply, which takes it if it is ready. -/
theorem gives_takeReply (name : String) (ref : ReplyRef) (answer : Outcome → Answer)
    {otherwise : World → Answer × World}
    (hotherwise : ∀ after : Cargo, after.Sound transport bridgeName →
      after.Gives transport bridgeName otherwise) :
    cargo.Gives transport bridgeName fun world =>
      match world.pollReply ref with
      | (none, polled) => otherwise polled
      | (some outcome, polled) =>
        (answer outcome, { polled with replies := Fields.erase name polled.replies }) := by
  have htake (outcome : Option Outcome) (after : Cargo)
      (hafter : after.Sound transport bridgeName) :
      after.Gives transport bridgeName fun world =>
        match outcome with
        | none => otherwise world
        | some outcome =>
          (answer outcome, { world with replies := Fields.erase name world.replies }) := by
    cases outcome with
    | none => exact hotherwise after hafter
    | some outcome =>
      let taken : World :=
        { after.world with replies := Fields.erase name after.world.replies }
      exact ⟨answer outcome, { after with world := taken }, { hafter with },
        fun _ log => ⟨log, rfl⟩⟩
  obtain ⟨taken, after, hafter, htaken⟩ := (sound.gives_pollReply ref).trans htake
  refine ⟨taken, after, hafter, fun carriage log => (htaken carriage log).imp fun _ heq => ?_⟩
  rw [← heq]
  beta_reduce
  cases (cargo.on carriage log).pollReply ref with
  | mk outcome polled => cases outcome <;> rfl

/-- A step at a reply that may be gone. -/
theorem gives_atReply (ref : ReplyRef) {act : World → Reply → Answer × World}
    (hact : ∀ reply, cargo.Gives transport bridgeName fun world => act world reply) :
    cargo.Gives transport bridgeName fun world =>
      match world.reply? ref with
      | some reply => act world reply
      | none => (.gone, world) := by
  simp only [Gives, reply?_on]
  cases cargo.reply? ref with
  | none => exact sound.gives_same Answer.gone
  | some reply => exact hact reply

/-! ### Objects by name -/

theorem gives_onBridge (name : String)
    {act : World → BridgeHandle → Link CallbackRef → Bridge CallbackRef → Answer × World}
    (hact : ∀ facade, ∃ (answer : Answer) (after : Cargo), after.Sound transport bridgeName ∧
      ∀ carriage log, ∃ log',
        act (cargo.on carriage log) { link := 0, facade } (cargo.link carriage) cargo.bridge =
          (answer, after.on carriage log')) :
    cargo.Gives transport bridgeName fun world => world.onBridge name (act world) := by
  simp only [Gives, World.onBridge, on_bridges]
  cases Fields.lookup name cargo.world.bridges with
  | none => exact sound.gives_same Answer.gone
  | some handle =>
    obtain ⟨_ | index, facade⟩ := handle
    · exact hact facade
    · exact sound.gives_same Answer.gone

theorem gives_onReply (name : String) {act : World → ReplyRef → Answer × World}
    (hact : ∀ ref, cargo.Gives transport bridgeName fun world => act world ref) :
    cargo.Gives transport bridgeName fun world => world.onReply name (act world) := by
  simp only [Gives, World.onReply, on_replies]
  cases Fields.lookup name cargo.world.replies with
  | none => exact sound.gives_same Answer.gone
  | some ref => exact hact ref

theorem gives_onSettler (name : String) {act : World → Settler → Answer × World}
    (hact : ∀ settler, cargo.Gives transport bridgeName fun world => act world settler) :
    cargo.Gives transport bridgeName fun world => world.onSettler name (act world) := by
  simp only [Gives, World.onSettler, on_settlers]
  cases Fields.lookup name cargo.world.settlers with
  | none => exact sound.gives_same Answer.gone
  | some settler => exact hact settler

/-! ### Calls of callbacks -/

/-- Letting go of a bridge that its name holds leaves it as it is. -/
theorem unpin_on (carriage : Carriage) (log : List LogEvent) :
    (cargo.on carriage log).unpin 0 =
      { cargo with
        world := { cargo.world with pins := cargo.world.pins.erase 0 } }.on carriage log := by
  have hheld : cargo.world.bridges.any (fun handle => handle.2.link = 0) = true :=
    List.any_eq_true.2 ⟨_, Fields.mem_of_lookup sound.named, rfl⟩
  unfold World.unpin World.closeIfUnheld
  simp only [on, World.holdsBridge, hheld, List.getElem?_cons_zero, Bool.true_or, if_true]
  rfl

/-- Calling callbacks while their bridge is held does the same on either carriage, if each call
does. -/
theorem moves_fanOutHeld {invoke : World.Invoke}
    (hinvoke : ∀ ref payload (cargo : Cargo), cargo.Sound transport bridgeName →
      cargo.Moves transport bridgeName (invoke ref payload)) (calls : FanOut CallbackRef) :
    cargo.Moves transport bridgeName (World.fanOutHeld invoke 0 calls) := by
  have hcalls (callbacks : List CallbackRef) (cargo : Cargo)
      (sound : cargo.Sound transport bridgeName) :
      cargo.Moves transport bridgeName fun world =>
        callbacks.foldl (fun world callback => invoke callback calls.payload world) world := by
    induction callbacks generalizing cargo with
    | nil => exact ⟨cargo, sound, fun _ log => ⟨log, rfl⟩⟩
    | cons callback rest ih => exact (hinvoke callback calls.payload cargo sound).trans ih
  have hpinned : Sound transport bridgeName { cargo with world := cargo.world.pin 0 } :=
    { sound with }
  have hcalled : cargo.Moves transport bridgeName fun world =>
      World.fanOut invoke calls (world.pin 0) := by
    obtain ⟨after, hsound, h⟩ := hcalls calls.callbacks _ hpinned
    exact ⟨after, hsound, h⟩
  have hunpinned (after : Cargo) (hafter : after.Sound transport bridgeName) :
      after.Moves transport bridgeName fun world => world.unpin 0 :=
    ⟨{ after with world := { after.world with pins := after.world.pins.erase 0 } },
      { hafter with }, fun carriage log => ⟨log, hafter.unpin_on carriage log⟩⟩
  exact hcalled.trans hunpinned

/-! ## Steps -/

/-- Sending a request, and letting a name stand for its reply. -/
theorem gives_send (name reply command : String) (payload : Datum)
    (timeout : Option Nanoseconds) :
    cargo.Gives transport bridgeName fun world => world.onBridge name fun handle link bridge =>
      world.send handle link bridge reply command payload timeout := by
  refine sound.gives_onBridge name fun facade => ?_
  obtain ⟨ticket, after, posted, lines, hlive, hsent⟩ :=
    cargo.bridge.blind_send cargo.id cargo.outbox cargo.world.now command payload timeout
  let committed : Cargo := { cargo with bridge := after, outbox := posted }
  have hcommitted : committed.Sound transport bridgeName :=
    { sound with live := hlive.trans sound.live }
  obtain ⟨stored, hstored, hstore⟩ := hcommitted.moves_storeReply reply (.ofBridge 0 ticket)
  refine ⟨.request cargo.bridge.nextId, stored, hstored, fun carriage log => ?_⟩
  obtain ⟨log', heq⟩ := hstore carriage (log ++ lines)
  have hacted : cargo.bridge.send (cargo.link carriage).transport (cargo.on carriage log).now
      command payload timeout = ⟨ticket, after, carriage.transport cargo.id posted, lines⟩ :=
    hsent carriage
  refine ⟨log', ?_⟩
  rw [← heq, World.send, hacted]
  rfl

/-- Subscribing a callback whose scripts are tame. -/
theorem gives_subscribe (name subscription event : String) {scripts : List (List Step)}
    (scripted : ∀ script ∈ scripts, ∀ step ∈ script, step.Local) :
    cargo.Gives transport bridgeName fun world => world.onBridge name fun handle link bridge =>
      world.subscribe handle link bridge subscription event scripts := by
  refine sound.gives_onBridge name fun facade => ?_
  obtain ⟨result, after, posted, lines, hlive, hsubscribed⟩ :=
    cargo.bridge.blind_subscribe cargo.id cargo.outbox event
      (⟨cargo.world.callbacks.length⟩ : CallbackRef)
  have hcommitted : Sound transport bridgeName { cargo with bridge := after, outbox := posted } :=
    { sound with live := hlive.trans sound.live }
  have hacted (carriage : Carriage) (log : List LogEvent) :
      cargo.bridge.subscribe (cargo.link carriage).transport event
          (⟨(cargo.on carriage log).callbacks.length⟩ : CallbackRef) =
        ⟨result, after, carriage.transport cargo.id posted, lines⟩ :=
    hsubscribed carriage
  cases result with
  | error error =>
    refine ⟨.failed error, _, hcommitted, fun carriage log => ⟨log ++ lines, ?_⟩⟩
    rw [World.subscribe, hacted]
    rfl
  | ok id =>
    let registered : World := { cargo.world with
      callbacks := cargo.world.callbacks ++ [{ subscription, scripts }]
      subscriptions := Fields.insert subscription id cargo.world.subscriptions }
    have htame : ∀ callback ∈ registered.callbacks, callback.Tame := by
      intro callback hmem
      rcases List.mem_append.1 hmem with hold | hnew
      · exact sound.tame callback hold
      · rw [List.mem_singleton.1 hnew]
        exact scripted
    refine ⟨.subscription id,
      { cargo with world := registered, bridge := after, outbox := posted },
      { hcommitted with tame := htame }, fun carriage log => ⟨log ++ lines, ?_⟩⟩
    rw [World.subscribe, hacted]
    rfl

/-- Settling through a settler. -/
theorem gives_settle (name : String) (settler : Settler) (outcome : Outcome) :
    cargo.Gives transport bridgeName fun world => world.settle name settler outcome := by
  let settled := settler.settle outcome cargo.world.detached
  exact ⟨World.answerUnit settled.1,
    { cargo with
      world := { cargo.world with
        detached := settled.2.2.1
        settlers := Fields.insert name settled.2.1 cargo.world.settlers } },
    { sound with }, fun _ log => ⟨log ++ settled.2.2.2, rfl⟩⟩

/-- A step at the bridge gives the same answer and the same cargo on either carriage, if calls of
callbacks do. -/
theorem gives_perform {invoke : World.Invoke}
    (hinvoke : ∀ ref payload (cargo : Cargo), cargo.Sound transport bridgeName →
      cargo.Moves transport bridgeName (invoke ref payload)) {step : Step} (hstep : step.Local) :
    cargo.Gives transport bridgeName fun world => step.perform invoke world := by
  cases hstep with
  | call name reply action => exact sound.gives_send name reply action.command action.payload none
  | send name reply command payload timeout =>
    exact sound.gives_send name reply command payload timeout
  | showConfig name =>
    exact sound.gives_onBridge name fun facade =>
      ⟨.config cargo.bridge.config, cargo, sound, fun _ log => ⟨log, rfl⟩⟩
  | describe name =>
    refine sound.gives_onBridge name fun facade => ?_
    let swept := cargo.bridge.pendingCount cargo.world.now
    have hlive : swept.2.1.live = cargo.bridge.live :=
      (Bridge.sameAround_expireOverdue cargo.bridge cargo.world.now).live
    let text := Facade.describeBridge swept.2.1.extension cargo.id swept.1 swept.2.1.registry.size
    exact ⟨.description (facade.elim text fun facade => facade.describe text),
      { cargo with bridge := swept.2.1 }, sound.withBridge hlive,
      fun _ log => ⟨log ++ swept.2.2, by cases facade <;> rfl⟩⟩
  | dispatch name event value =>
    refine sound.gives_onBridge name fun facade => ?_
    obtain ⟨after, hsound, hcalled⟩ := sound.moves_fanOutHeld hinvoke
      (cargo.bridge.dispatch event value).2
    exact ⟨.done, after, hsound, fun carriage log =>
      (hcalled carriage (log ++ (cargo.bridge.dispatch event value).1)).imp fun _ heq =>
        congrArg (Prod.mk Answer.done) heq⟩
  | subscribe name subscription event scripted =>
    exact sound.gives_subscribe name subscription event scripted
  | unsubscribe name subscription =>
    refine sound.gives_onBridge name fun facade => ?_
    simp only [on_subscriptions]
    cases Fields.lookup subscription cargo.world.subscriptions with
    | none => exact sound.gives_same Answer.gone
    | some id =>
      exact ⟨.removed (cargo.bridge.unsubscribe id).1,
        { cargo with bridge := (cargo.bridge.unsubscribe id).2 }, sound.withBridge rfl,
        fun _ log => ⟨log ++ [], rfl⟩⟩
  | pendingCount name =>
    have hlive := (Bridge.sameAround_expireOverdue cargo.bridge cargo.world.now).live
    exact sound.gives_onBridge name fun facade =>
      ⟨.pendingCount (cargo.bridge.pendingCount cargo.world.now).1, _, sound.withBridge hlive,
        fun _ log => ⟨log ++ (cargo.bridge.pendingCount cargo.world.now).2.2, rfl⟩⟩
  | isPending name id =>
    have hlive := (Bridge.sameAround_expireOverdue cargo.bridge cargo.world.now).live
    exact sound.gives_onBridge name fun facade =>
      ⟨.isPending (cargo.bridge.isPending cargo.world.now id).1, _, sound.withBridge hlive,
        fun _ log => ⟨log ++ (cargo.bridge.isPending cargo.world.now id).2.2, rfl⟩⟩
  | subscriptionCount name =>
    exact sound.gives_onBridge name fun facade =>
      ⟨.subscriptionCount cargo.bridge.registry.size, cargo, sound, fun _ log => ⟨log, rfl⟩⟩
  | advance time =>
    exact ⟨.done, { cargo with world := { cargo.world with now := cargo.world.now + time } },
      { sound with }, fun _ log => ⟨log, rfl⟩⟩
  | createSettler name reply id =>
    let pair := Settler.channel id cargo.world.detached
    have hopened : Sound transport bridgeName
        { cargo with world := { cargo.world with detached := pair.2 } } := { sound with }
    obtain ⟨after, hsound, hstored⟩ := (hopened.moves_storeSettler name pair.1).trans
      fun middle hmiddle => hmiddle.moves_storeReply reply (.detached pair.1.ticket)
    exact ⟨.request id, after, hsound, fun carriage log =>
      (hstored carriage log).imp fun _ heq => congrArg (Prod.mk (Answer.request id)) heq⟩
  | resolve name value =>
    exact sound.gives_onSettler name fun settler => sound.gives_settle name settler _
  | reject name value =>
    exact sound.gives_onSettler name fun settler => sound.gives_settle name settler _
  | fail name error =>
    exact sound.gives_onSettler name fun settler => sound.gives_settle name settler _
  | settlerInfo name =>
    exact sound.gives_onSettler name fun settler => sound.gives_same _
  | dropSettler name =>
    refine sound.gives_onSettler name fun settler => ?_
    let released : World := { cargo.world with
      settlers := Fields.erase name cargo.world.settlers
      detached := settler.drop cargo.world.detached }
    exact ⟨.done, { cargo with world := released }, { sound with }, fun _ log => ⟨log, rfl⟩⟩
  | poll name =>
    exact sound.gives_onReply name fun ref =>
      sound.gives_takeReply name ref _ fun _ hafter => hafter.gives_same Answer.pending
  | decodeReply name target =>
    exact sound.gives_onReply name fun ref =>
      sound.gives_takeReply name ref _ fun _ hafter =>
        (hafter.moves_dropReply name ref).gives Answer.pending
  | withTimeout name timeout =>
    exact sound.gives_onReply name fun ref => sound.gives_atReply ref fun reply =>
      (sound.moves_armReply timeout ref).gives (Answer.request reply.id)
  | replyInfo name =>
    exact sound.gives_onReply name fun ref => sound.gives_atReply ref fun reply =>
      sound.gives_same (Answer.reply reply.id reply.deadline)
  | dropReply name =>
    exact sound.gives_onReply name fun ref =>
      (sound.moves_dropReply name ref).gives Answer.done

/-! ## Calls -/

/-- A script of steps at the bridge does the same on either carriage, if calls of callbacks do. -/
theorem moves_runScript {invoke : World.Invoke}
    (hinvoke : ∀ ref payload (cargo : Cargo), cargo.Sound transport bridgeName →
      cargo.Moves transport bridgeName (invoke ref payload)) (subscription : String)
    {script : List Step} (hscript : ∀ step ∈ script, step.Local) :
    cargo.Moves transport bridgeName fun world =>
      World.runScript invoke subscription world script := by
  induction script generalizing cargo with
  | nil => exact ⟨cargo, sound, fun _ log => ⟨log, rfl⟩⟩
  | cons step rest ih =>
    obtain ⟨answer, middle, hmiddle, hperformed⟩ :=
      sound.gives_perform hinvoke (hscript step List.mem_cons_self)
    obtain ⟨noted, hnoted, hnote⟩ := hmiddle.moves_note (.ran subscription answer)
    obtain ⟨after, hafter, hrest⟩ :=
      ih hnoted fun other hmem => hscript other (List.mem_cons_of_mem _ hmem)
    refine ⟨after, hafter, fun carriage log => ?_⟩
    obtain ⟨log', heq⟩ := hperformed carriage log
    obtain ⟨log'', heq'⟩ := hnote carriage log'
    refine (hrest carriage log'').imp fun _ hlast => ?_
    simp only [World.runScript, List.foldl_cons] at heq heq' hlast ⊢
    rw [← hlast, ← heq', heq]

end Sound

end Cargo

namespace World

variable {world : World} {ref : CallbackRef} {callback : Callback}

/-- A call without fuel or script only notes the payload. -/
theorem call_of_silent (h : world.callbacks[ref.index]? = some callback) {fuel : Nat}
    (silent : callback.scripts = [] ∨ fuel = 0) (payload : Snapshot) :
    call fuel ref payload world = world.note (.called callback.subscription payload.toJson) := by
  unfold call
  simp only [h]
  split
  · simp_all
  · rfl

/-- A call with fuel runs the first script that is left. -/
theorem call_of_script (h : world.callbacks[ref.index]? = some callback) {script : List Step}
    {later : List (List Step)} (hscripts : callback.scripts = script :: later) (fuel : Nat)
    (payload : Snapshot) :
    call (fuel + 1) ref payload world =
      runScript (call fuel) callback.subscription
        { world.note (.called callback.subscription payload.toJson) with
          callbacks := world.callbacks.set ref.index { callback with scripts := later } }
        script := by
  rw [call]
  simp only [h, hscripts]
  rfl

end World

namespace Cargo

variable {transport bridgeName : String} {cargo : Cargo}

/-- A call of a callback does the same on either carriage.  The induction is on how deep calls may
nest: a call inside a script has less fuel. -/
theorem moves_call (fuel : Nat) (ref : CallbackRef) (payload : Snapshot) (cargo : Cargo)
    (sound : cargo.Sound transport bridgeName) :
    cargo.Moves transport bridgeName (World.call fuel ref payload) := by
  induction fuel using Nat.strongRecOn generalizing ref payload cargo with
  | ind fuel ih =>
  cases hcallback : cargo.world.callbacks[ref.index]? with
  | none =>
    refine ⟨cargo, sound, fun carriage log => ⟨log, ?_⟩⟩
    unfold World.call
    simp only [on, hcallback]
  | some callback =>
    have hfound (carriage : Carriage) (log : List LogEvent) :
        (cargo.on carriage log).callbacks[ref.index]? = some callback := hcallback
    obtain ⟨noted, hnoted, hnote⟩ :=
      sound.moves_note (.called callback.subscription payload.toJson)
    by_cases silent : callback.scripts = [] ∨ fuel = 0
    · refine ⟨noted, hnoted, fun carriage log => (hnote carriage log).imp fun _ heq => ?_⟩
      rw [World.call_of_silent (hfound carriage log) silent]
      exact heq
    · rw [not_or] at silent
      obtain ⟨script, later, hscripts⟩ := List.exists_cons_of_ne_nil silent.1
      obtain ⟨less, rfl⟩ := Nat.exists_eq_succ_of_ne_zero silent.2
      have htame : callback.Tame := sound.tame callback (List.mem_of_getElem? hcallback)
      rw [Callback.Tame, hscripts] at htame
      let taken : World :=
        { cargo.world.note (.called callback.subscription payload.toJson) with
          callbacks := cargo.world.callbacks.set ref.index { callback with scripts := later } }
      have htaken : Sound transport bridgeName { cargo with world := taken } := by
        refine { sound with tame := fun other hmem => ?_ }
        rcases List.mem_or_eq_of_mem_set hmem with hold | rfl
        · exact sound.tame other hold
        · exact fun rest hrest => htame rest (List.mem_cons_of_mem _ hrest)
      obtain ⟨after, hafter, hran⟩ := htaken.moves_runScript (ih less (Nat.lt_succ_self less))
        callback.subscription (htame script List.mem_cons_self)
      refine ⟨after, hafter, fun carriage log => (hran carriage log).imp fun _ heq => ?_⟩
      rw [Nat.succ_eq_add_one, World.call_of_script (hfound carriage log) hscripts]
      exact heq

end Cargo
end HostLink

import HostLink.Proofs.Unfolding

/-!
# The moments of a session

What goes on in a session is cut into moments, each of which does one thing to the world
(`Deed.effect`): a step begins, a callback is called or given its next script, a delivery lets go of
its bridge, a pump gets its turn, starts, hands one message to the listener or goes to rest.

A chain of moments takes one world to another if each moment finds the world as the one before has
left it, and each is due: only the pump that has its turn takes a message, the oldest one, and it
goes to rest when there is none.  What a moment does to a link is a list of incidents on it, with
the notices that the moment leaves (`Deed.unfolds`), and so is what a chain does
(`World.Chain.evolves`).
-/

namespace HostLink

/-! ## What moments do -/

namespace World

/-- The channel of a link, if it runs over one. -/
def channel? (world : World) (index : LinkIndex) : Option Channel :=
  (world.links[index]?).bind Link.channel?

/-- Act on the channel of a link, if it runs over one. -/
def onChannel (world : World) (index : LinkIndex)
    (act : Link CallbackRef → Channel → World) : World :=
  match world.links[index]? with
  | some link =>
    match link.channel? with
    | some channel => act link channel
    | none => world
  | none => world

/-- The pump of a link starts, and reports it. -/
def startPump (world : World) (index : LinkIndex) : World :=
  world.onChannel index fun link channel =>
    (world.setPump index link channel .awake).write [.pumpStarted link.transport.id]

/-- The oldest message that waits for a pump is taken off its queue. -/
def takeText (world : World) (index : LinkIndex) : World :=
  world.onChannel index fun link channel =>
    world.setLink index (link.withChannel { channel with inbox := channel.inbox.tail })

/-- The pump of a link goes to rest: it waits, or stops if the endpoint is gone. -/
def restPump (world : World) (index : LinkIndex) : World :=
  world.onChannel index fun link channel =>
    if channel.endpointOpen then world.setPump index link channel .waiting
    else (world.setPump index link channel .finished).write [.pumpStopped link.transport.id]

/-- A callback notes that it was called. -/
def noteCall (world : World) (ref : CallbackRef) (payload : Snapshot) : World :=
  match world.callbacks[ref.index]? with
  | some callback => world.note (.called callback.subscription payload.toJson)
  | none => world

/-- A callback gives its next script away. -/
def takeScript (world : World) (ref : CallbackRef) : World :=
  match world.callbacks[ref.index]? with
  | some callback =>
    { world with callbacks :=
        world.callbacks.set ref.index { callback with scripts := callback.scripts.tail } }
  | none => world

end World

/-- What a moment of a session does. -/
inductive Deed where
  /-- A step of the session begins, and goes as far as callbacks are called. -/
  | performed (step : Step)
  /-- A step of a script begins, and goes as far as callbacks are called. -/
  | began (step : Step)
  | called (callback : CallbackRef) (payload : Snapshot)
  | scripted (callback : CallbackRef)
  /-- A callback notes what a step of its script has answered. -/
  | ran (subscription : String) (answer : Answer)
  /-- A delivery lets go of its bridge. -/
  | released (index : LinkIndex)
  /-- The first pump that is ready gets its turn. -/
  | turn (index : LinkIndex)
  | started (index : LinkIndex)
  /-- The pump takes a message off the queue and calls the listener with it. -/
  | pumped (index : LinkIndex) (text : String)
  | rested (index : LinkIndex)

namespace Deed

/-- The world behind a moment. -/
def effect (world : World) : Deed → World
  | .performed step => step.begin { world with events := [], log := [] }
  | .began step => step.begin world
  | .called callback payload => world.noteCall callback payload
  | .scripted callback => world.takeScript callback
  | .ran subscription answer => world.note (.ran subscription answer)
  | .released index => world.unpin index
  | .turn _ => { world with ready := world.ready.tail }
  | .started index => world.startPump index
  | .pumped index text => (world.takeText index).hear index text
  | .rested index => world.restPump index

/-- The moment has come, where a pump may have its turn. -/
def Due (busy : Option LinkIndex) (world : World) : Deed → Prop
  | .turn index => busy = none ∧ world.ready.head? = some index
  | .started index => busy = some index ∧
      ∃ channel, world.channel? index = some channel ∧ channel.pump = .fresh
  | .pumped index text => busy = some index ∧
      ∃ channel, world.channel? index = some channel ∧ channel.inbox.head? = some text
  | .rested index => busy = some index ∧
      ∃ channel, world.channel? index = some channel ∧ channel.inbox = []
  | _ => True

/-- The pump that has its turn behind a moment. -/
def next (busy : Option LinkIndex) : Deed → Option LinkIndex
  | .turn index => some index
  | .rested _ => none
  | _ => busy

/-- The world in which a moment begins: a step of the session starts new events and a new log. -/
def start (world : World) : Deed → World
  | .performed _ => { world with events := [], log := [] }
  | _ => world

/-- The step that begins in a moment. -/
def step? : Deed → Option Step
  | .performed step | .began step => some step
  | _ => none

/-- The notices that a moment leaves. -/
def notices (world : World) : Deed → List World.LinkNotice
  | .performed step => step.notices { world with events := [], log := [] }
  | .began step => step.notices world
  | .pumped index _ | .rested index => world.notice index .pump
  | _ => []

/-- The work that a moment may bring the pumps. -/
def price : Deed → Nat
  | .performed step | .began step => 2 * step.stepCount + 2
  | _ => 0

end Deed

/-! ## The pump that has its turn -/

namespace World

variable {start world : World} {busy : Option LinkIndex} {index : LinkIndex}
  {link : Link CallbackRef} {channel : Channel}

theorem channel?_of_link (hlink : world.links[index]? = some link) :
    world.channel? index = link.channel? := by
  rw [channel?, hlink]
  rfl

theorem exists_link_of_channel? (h : world.channel? index = some channel) :
    ∃ link, world.links[index]? = some link ∧ link.channel? = some channel :=
  Option.bind_eq_some_iff.1 h

theorem onChannel_of_link (hlink : world.links[index]? = some link)
    (hchannel : link.channel? = some channel) (act : Link CallbackRef → Channel → World) :
    world.onChannel index act = act link channel := by
  unfold onChannel
  rw [hlink]
  dsimp only
  rw [hchannel]

/-- The pump whose turn it is runs. -/
theorem Sound.exists_running (h : world.Sound (some index)) :
    ∃ link channel, world.links[index]? = some link ∧ link.channel? = some channel ∧
      channel.pump.running = true := by
  obtain ⟨inlet, hinlet, hrunning⟩ := (h.running index).1 List.mem_cons_self
  obtain ⟨link, hlink, hlinkInlet⟩ := Option.bind_eq_some_iff.1 hinlet
  cases hchannel : link.channel? with
  | none => cases (link.inlet?_eq_none hchannel).symm.trans hlinkInlet
  | some channel =>
    obtain rfl := Option.some.inj ((link.inlet?_of_channel? hchannel).symm.trans hlinkInlet)
    exact ⟨link, channel, hlink, hchannel, hrunning⟩

theorem Sound.pump_running (h : world.Sound (some index)) (hlink : world.links[index]? = some link)
    (hchannel : link.channel? = some channel) : channel.pump.running = true := by
  obtain ⟨other, carried, hfound, hcarried, running⟩ := h.exists_running
  obtain rfl := Option.some.inj (hfound.symm.trans hlink)
  obtain rfl := Option.some.inj (hcarried.symm.trans hchannel)
  exact running

section turn

variable (hchannel : link.channel? = some channel) (running : channel.pump.running = true)
include hchannel running

/-- A pump that runs gets no second turn. -/
theorem act_of_running (incident : Incident CallbackRef) :
    world.act index link incident = world.setLink index (link.undergo world.now incident) := by
  have hsilent : link.summoned incident = false := by
    rw [Link.summoned, link.inlet?_of_channel? hchannel, Option.any_some, Inlet.summoned,
      show (channel.inlet link.hasListener).pump = channel.pump from rfl, running]
    rfl
  exact act_eq rfl hsilent

/-- The pump takes a message, and the listener hears it. -/
theorem act_pump_of_message {text : String} {rest : List String}
    (hinbox : channel.inbox = text :: rest) : world.act index link .pump =
      (world.setLink index (link.withChannel { channel with inbox := rest })).setLink index
        ((link.withChannel { channel with inbox := rest }).hear world.now text) := by
  have hundergo : link.undergo world.now .pump =
      (link.withChannel { channel with inbox := rest }).hear world.now text := by
    simp only [Link.undergo, Link.onChannel_of_channel? hchannel, running, hinbox, if_true,
      Channel.pumped]
  rw [act_of_running hchannel running, hundergo, setLink_setLink]

/-- The pump has nothing to take. -/
theorem act_pump_of_empty (hinbox : channel.inbox = []) : world.act index link .pump =
    world.setPump index link channel (if channel.endpointOpen then .waiting else .finished) := by
  have hundergo : link.undergo world.now .pump = link.withChannel { channel with
      pump := if channel.endpointOpen then .waiting else .finished } := by
    simp only [Link.undergo, Link.onChannel_of_channel? hchannel, running, hinbox, if_true,
      Channel.pumped]
  rw [act_of_running hchannel running, hundergo]
  rfl

end turn

/-- A message that is drained no longer waits. -/
theorem burden_act_pump (hlink : world.links[index]? = some link)
    (hchannel : link.channel? = some channel) (running : channel.pump.running = true)
    {text : String} {rest : List String} (hinbox : channel.inbox = text :: rest) :
    (world.act index link .pump).burden + 1 = world.burden := by
  have hbacklog := backlog_act hlink .pump
  have hbefore : link.load = rest.length + 1 := by
    rw [Link.load, hchannel]
    exact congrArg List.length hinbox
  have hafter : (link.undergo world.now .pump).load = rest.length := by
    simp only [Link.undergo, Link.onChannel_of_channel? hchannel, running, hinbox, if_true,
      Channel.pumped, Link.load, Link.channel?, Link.transport_hear]
    rfl
  have hready : (world.act index link .pump).ready = world.ready := by
    rw [act_of_running hchannel running]
    rfl
  have hsteps : (world.act index link .pump).stepCount = world.stepCount := rfl
  rw [burden, burden, hready, hsteps]
  omega

/-- A pump that has nothing to take gives its turn away. -/
theorem Sound.act_pump_of_empty (h : world.Sound (some index))
    (hlink : world.links[index]? = some link) (hchannel : link.channel? = some channel)
    (running : channel.pump.running = true) (hinbox : channel.inbox = []) :
    (world.act index link .pump).Sound none := by
  have hinlet : world.inlet? index = some (channel.inlet link.hasListener) :=
    (inlet?_of_link hlink).trans (link.inlet?_of_channel? hchannel)
  have hturns : (world.act index link .pump).turns none = world.ready := by
    rw [act_of_running hchannel running]
    rfl
  -- Nobody else has the turn of this pump.
  obtain ⟨hnot, hnodup⟩ := List.nodup_cons.1 h.nodup
  refine h.act_of_turns hlink (hturns ▸ hnodup) (fun other => ?_) nofun nofun
  rw [hturns]
  by_cases heq : other = index
  · subst heq
    refine iff_of_false hnot ?_
    rintro ⟨inlet, hafter, hrunning⟩
    rw [inlet?_act hlink, hinlet] at hafter
    obtain rfl := Option.some.inj hafter
    simp only [Inlet.undergo, Inlet.pumped, Channel.inlet, running, hinbox, if_true] at hrunning
    cases hopen : channel.endpointOpen <;> rw [hopen] at hrunning <;> cases hrunning
  · rw [inlet?_act_of_ne .pump heq, ← h.running other]
    exact ⟨List.mem_cons_of_mem index, fun hmem => (List.mem_cons.1 hmem).resolve_left heq⟩

/-- The pump takes a message and the listener hears it; that leaves the pumps less to do. -/
theorem Sound.pumped (h : world.Sound (some index)) {text : String}
    (hchannel : world.channel? index = some channel) (hhead : channel.inbox.head? = some text) :
    world.Unfolds (some index) 0 (world.notice index .pump)
        ((world.takeText index).hear index text) ∧
      ((world.takeText index).hear index text).burden < world.burden := by
  obtain ⟨link, hlink, hlinkChannel⟩ := exists_link_of_channel? hchannel
  obtain ⟨rest, hinbox⟩ := List.head?_eq_some_iff.1 hhead
  have running := h.pump_running hlink hlinkChannel
  have hmessage : world.Allows index .pump := by
    intro inlet hinlet
    rw [inlet?_of_link hlink, link.inlet?_of_channel? hlinkChannel] at hinlet
    obtain rfl := Option.some.inj hinlet
    exact fun hempty => List.cons_ne_nil text rest (hinbox.symm.trans hempty)
  have hacted := (Unfolds.refl h).act hlink .pump hmessage
  have htaken : world.takeText index =
      world.setLink index (link.withChannel { channel with inbox := rest }) := by
    rw [takeText, onChannel_of_link hlink hlinkChannel, hinbox, List.tail_cons]
  have hheard : (world.act index link .pump).Unfolds (some index) 0 []
      ((world.takeText index).setLink index
        ((link.withChannel { channel with inbox := rest }).hear world.now text)) := by
    rw [htaken, ← act_pump_of_message hlinkChannel running hinbox]
    exact .refl hacted.sound
  obtain ⟨hlt, -⟩ := List.getElem?_eq_some_iff.1 hlink
  have hset : (world.takeText index).links[index]? =
      some (link.withChannel { channel with inbox := rest }) :=
    htaken ▸ List.getElem?_set_self hlt
  have hnow : (world.takeText index).now = world.now := htaken ▸ rfl
  have hcalled := Unfolds.hear hset text (hnow ▸ hheard)
  have hburden := burden_act_pump hlink hlinkChannel running hinbox
  have hspent := hcalled.burden
  exact ⟨hacted.onward hcalled, by omega⟩

/-- A pump that has nothing to take goes to rest and gives its turn away. -/
theorem Sound.rested (h : world.Sound (some index)) (hchannel : world.channel? index = some channel)
    (hinbox : channel.inbox = []) :
    world.Unfolds none 0 (world.notice index .pump) (world.restPump index) := by
  obtain ⟨link, hlink, hlinkChannel⟩ := exists_link_of_channel? hchannel
  have running := h.pump_running hlink hlinkChannel
  have hacted : world.Unfolds none 0 (world.notice index .pump) (world.act index link .pump) :=
    ⟨sites_act hlink .pump nofun, h.act_pump_of_empty hlink hlinkChannel running hinbox,
      burden_act hlink .pump⟩
  rw [restPump, onChannel_of_link hlink hlinkChannel]
  rw [World.act_pump_of_empty hlinkChannel running hinbox] at hacted
  split
  · next hopen => rwa [if_pos hopen] at hacted
  · next hclosed =>
    rw [if_neg hclosed] at hacted
    exact hacted.write _

/-- A pump starts. -/
theorem Sound.started (h : world.Sound (some index))
    (hchannel : world.channel? index = some channel) (hfresh : channel.pump = .fresh) :
    world.Unfolds (some index) 0 [] (world.startPump index) := by
  obtain ⟨link, hlink, hlinkChannel⟩ := exists_link_of_channel? hchannel
  have hstarted := (Unfolds.refl h).act hlink .startPump trivial
  have hundergo : link.undergo world.now .startPump =
      link.withChannel { channel with pump := .awake } :=
    (Link.onChannel_of_channel? hlinkChannel _).trans (if_pos hfresh)
  rw [act_of_running hlinkChannel (h.pump_running hlink hlinkChannel), hundergo,
    notice_of_plain world index rfl] at hstarted
  rw [startPump, onChannel_of_link hlink hlinkChannel]
  exact hstarted.write _

/-- The first pump that is ready gets its turn. -/
theorem Sound.popTurn (h : world.Sound none) {rest : List LinkIndex}
    (hready : world.ready = index :: rest) :
    world.Unfolds (some index) 0 [] { world with ready := rest } ∧
      World.burden { world with ready := rest } + 1 = world.burden := by
  have hburden : World.burden { world with ready := rest } + 1 = world.burden := by
    have hbacklog : backlog { world with ready := rest } = world.backlog := rfl
    have hsteps : stepCount { world with ready := rest } = world.stepCount := rfl
    simp only [World.burden, hready, hbacklog, hsteps, List.length_cons]
    omega
  have hturns : turns { world with ready := rest } (some index) = world.turns none := by
    simp [turns, hready]
  refine ⟨⟨fun _ => .refl _, ?_, by omega⟩, hburden⟩
  exact ⟨hturns ▸ h.nodup, hturns ▸ h.running, h.inlets, h.natives, h.alone, h.held⟩

/-! ## Scripts -/

/-- A script that is taken frees what its steps are worth. -/
theorem burden_takeScript {ref : CallbackRef} {callback : Callback} {script : List Step}
    {later : List (List Step)} (hcallback : world.callbacks[ref.index]? = some callback)
    (hscripts : callback.scripts = script :: later) :
    (world.takeScript ref).burden + 2 * stepCountOfSteps script = world.burden := by
  have hset := foldl_add_set (fun callback : Callback => stepCountOfScripts callback.scripts)
    hcallback { callback with scripts := later } 0
  simp only [hscripts, stepCountOfScripts] at hset
  rw [takeScript, hcallback]
  dsimp only
  rw [hscripts, List.tail_cons]
  have hbacklog : backlog { world with
    callbacks := world.callbacks.set ref.index { callback with scripts := later } } =
      world.backlog := rfl
  simp only [World.burden, stepCount, hbacklog]
  omega

/-- The bookkeeping does not see the scripts. -/
theorem Sound.takeScript (h : world.Sound busy) (ref : CallbackRef) :
    world.Unfolds busy 0 [] (world.takeScript ref) := by
  cases hcallback : world.callbacks[ref.index]? with
  | none =>
    have hsame : world.takeScript ref = world := by rw [World.takeScript, hcallback]
    rw [hsame]
    exact .refl h
  | some callback =>
    have hburden : (world.takeScript ref).burden ≤ world.burden := by
      cases hscripts : callback.scripts with
      | cons script later =>
        have hfreed := burden_takeScript hcallback hscripts
        omega
      | nil =>
        obtain ⟨hlt, hget⟩ := List.getElem?_eq_some_iff.1 hcallback
        have hsame : world.callbacks.set ref.index
            { callback with scripts := callback.scripts.tail } = world.callbacks := by
          rw [hscripts, List.tail_nil, ← hscripts, ← hget]
          exact List.set_getElem_self hlt
        have hunmoved : world.takeScript ref = world := by
          rw [World.takeScript, hcallback]
          dsimp only
          rw [hsame]
        exact Nat.le_of_eq (congrArg burden hunmoved)
    rw [World.takeScript, hcallback] at hburden ⊢
    exact ⟨fun _ => .refl _, ⟨h.nodup, h.running, h.inlets, h.natives, h.alone, h.held⟩, hburden⟩

end World

/-! ## Moments as incidents -/

/-- A moment that is due does incidents to the links, and leaves its notices. -/
theorem Deed.unfolds {busy : Option LinkIndex} {world : World} {deed : Deed}
    (sound : world.Sound busy) (due : deed.Due busy world) :
    world.Unfolds (deed.next busy) deed.price (deed.notices world) (deed.effect world) := by
  have hself : world.Unfolds busy 0 [] world := .refl sound
  cases deed with
  | performed step =>
    have hfresh : world.Unfolds busy 0 [] { world with events := [], log := [] } :=
      hself.alike (.of_same rfl rfl rfl rfl rfl rfl rfl)
    have hbegun := step.unfolds_begin hfresh
    rwa [Nat.zero_add, List.nil_append] at hbegun
  | began step =>
    have hbegun := step.unfolds_begin hself
    rwa [Nat.zero_add, List.nil_append] at hbegun
  | called callback payload =>
    simp only [effect, World.noteCall]
    split
    · exact hself.note _
    · exact hself
  | scripted callback => exact sound.takeScript callback
  | ran subscription answer => exact hself.note _
  | released index => exact hself.unpin index
  | turn index =>
    obtain ⟨rfl, hhead⟩ := due
    obtain ⟨rest, hready⟩ := List.head?_eq_some_iff.1 hhead
    simp only [effect, hready, List.tail_cons]
    exact (sound.popTurn hready).1
  | started index =>
    obtain ⟨rfl, channel, hchannel, hfresh⟩ := due
    exact sound.started hchannel hfresh
  | pumped index text =>
    obtain ⟨rfl, channel, hchannel, hhead⟩ := due
    exact (sound.pumped hchannel hhead).1
  | rested index =>
    obtain ⟨rfl, channel, hchannel, hinbox⟩ := due
    exact sound.rested hchannel hinbox

/-! ## Chains of moments -/

/-- What a moment does, and the world that it finds. -/
structure Moment where
  deed : Deed
  before : World

namespace Moment

/-- The world behind a moment. -/
def after (moment : Moment) : World := moment.deed.effect moment.before

/-- The notices that a moment leaves. -/
def notices (moment : Moment) : List World.LinkNotice := moment.deed.notices moment.before

/-- The world in which a moment begins. -/
def start (moment : Moment) : World := moment.deed.start moment.before

/-- The step that begins in a moment. -/
def step? (moment : Moment) : Option Step := moment.deed.step?

/-- What a moment brings on a link, where `note` says what an incident brings. -/
def collect {α : Type} (note : Site CallbackRef → Incident CallbackRef → List α)
    (index : LinkIndex) (moment : Moment) : List α :=
  (World.noticesOn index moment.notices).flatMap fun notice => note notice.site notice.incident

end Moment

/-! ## What steps bring -/

section collect

variable {α : Type} {note : Site CallbackRef → Incident CallbackRef → List α} {index : LinkIndex}
  {world : World}

theorem World.collect_notice
    (hplain : ∀ site incident, incident.notable = false → note site incident = [])
    (place : LinkIndex) (incident : Incident CallbackRef) :
    (World.noticesOn index (world.notice place incident)).flatMap
        (fun notice => note notice.site notice.incident) =
      if place = index then
        (world.links[index]?).elim [] fun link => note ⟨world.now, link⟩ incident
      else [] := by
  split
  · next heq =>
    subst heq
    cases hlink : world.links[place]? with
    | none =>
      rw [World.notice_of_no_link hlink]
      rfl
    | some link =>
      rw [World.noticesOn_notice hlink, Site.notices]
      cases hnotable : incident.notable with
      | true => exact List.append_nil _
      | false => exact (hplain _ _ hnotable).symm
  · next hne =>
    rw [World.noticesOn_notice_of_ne world (Ne.symm hne)]
    rfl

theorem World.collect_noticeVia
    (hplain : ∀ site incident, incident.notable = false → note site incident = []) (name : Name)
    (incident : LinkIndex → Incident CallbackRef) :
    (World.noticesOn index (world.noticeVia name incident)).flatMap
        (fun notice => note notice.site notice.incident) =
      if world.linkOf? name = some index then
        (world.links[index]?).elim [] fun link => note ⟨world.now, link⟩ (incident index)
      else [] := by
  cases hname : world.linkOf? name with
  | none =>
    rw [World.noticeVia_of_none hname]
    rfl
  | some place =>
    rw [World.noticeVia_of_linkOf? hname, World.collect_notice hplain]
    by_cases heq : place = index
    · rw [if_pos heq, if_pos (congrArg some heq), heq]
    · rw [if_neg heq, if_neg fun h => heq (Option.some.inj h)]

namespace Step

variable {step : Step}

/-- What a step brings on a link, where `note` says what an incident brings. -/
def collect (note : Site CallbackRef → Incident CallbackRef → List α) (index : LinkIndex)
    (world : World) (step : Step) : List α :=
  (World.noticesOn index (step.notices world)).flatMap fun notice =>
    note notice.site notice.incident

theorem collect_of_incident?
    (hplain : ∀ site incident, incident.notable = false → note site incident = []) {name : Name}
    {incident : LinkIndex → Incident CallbackRef}
    (h : step.incident? world = some (name, incident)) :
    step.collect note index world =
      if world.linkOf? name = some index then
        (world.links[index]?).elim [] fun link => note ⟨world.now, link⟩ (incident index)
      else [] := by
  rw [collect, notices, h]
  exact World.collect_noticeVia hplain name incident

/-- What a step brings on a link its incident brings there. -/
theorem exists_of_mem_collect
    (hplain : ∀ site incident, incident.notable = false → note site incident = []) {item : α}
    (h : item ∈ step.collect note index world) :
    ∃ name incident link, step.incident? world = some (name, incident) ∧
      world.linkOf? name = some index ∧ world.links[index]? = some link ∧
      item ∈ note ⟨world.now, link⟩ (incident index) := by
  cases hincident : step.incident? world with
  | none =>
    rw [collect, notices, hincident] at h
    cases h
  | some deed =>
    obtain ⟨name, incident⟩ := deed
    rw [collect_of_incident? hplain hincident] at h
    split at h
    · next hname =>
      cases hlink : world.links[index]? with
      | none =>
        rw [hlink] at h
        cases h
      | some link =>
        rw [hlink] at h
        exact ⟨name, incident, link, rfl, hname, rfl, h⟩
    · cases h

/-- A step brings nothing if its incident does not. -/
theorem collect_eq_nil
    (hplain : ∀ site incident, incident.notable = false → note site incident = [])
    (h : ∀ name incident, step.incident? world = some (name, incident) →
      ∀ site, note site (incident index) = []) :
    step.collect note index world = [] := by
  refine List.eq_nil_iff_forall_not_mem.2 fun item hmem => ?_
  obtain ⟨name, incident, link, hincident, -, -, hitem⟩ := exists_of_mem_collect hplain hmem
  rw [h name incident hincident] at hitem
  cases hitem

/-- A step brings nothing if no incident of its kind does. -/
theorem collect_eq_nil_of_kind
    (hplain : ∀ site incident, incident.notable = false → note site incident = [])
    (h : ∀ site (incident : Incident CallbackRef), incident.kind = step.kind →
      note site incident = []) :
    step.collect note index world = [] :=
  collect_eq_nil hplain fun _ _ hincident site => h site _ (kind_of_incident? hincident index)

end Step

/-- The bookkeeping does not see how a moment begins. -/
theorem Moment.sound_start {moment : Moment} {busy : Option LinkIndex}
    (h : moment.before.Sound busy) : moment.start.Sound busy := by
  obtain ⟨deed, before⟩ := moment
  cases deed with
  | performed step =>
    have hsame : before.Alike { before with events := [], log := [] } :=
      .of_same rfl rfl rfl rfl rfl rfl rfl
    exact hsame.sound h
  | _ => exact h

/-- Behind a moment in which a step begins is where the step begins to. -/
theorem Moment.after_of_step? {moment : Moment} {step : Step} (h : moment.step? = some step) :
    moment.after = step.begin moment.start := by
  obtain ⟨deed, before⟩ := moment
  cases deed with
  | performed | began =>
    obtain rfl := Option.some.inj h
    rfl
  | _ => cases h

theorem Moment.collect_of_step? {moment : Moment} {step : Step} (h : moment.step? = some step) :
    moment.collect note index = step.collect note index moment.start := by
  obtain ⟨deed, before⟩ := moment
  cases deed with
  | performed | began =>
    obtain rfl := Option.some.inj h
    rfl
  | _ => cases h

/-- What no turn of a pump brings comes with steps only. -/
theorem Moment.collect_of_no_step {moment : Moment}
    (hplain : ∀ site incident, incident.notable = false → note site incident = [])
    (hpump : ∀ site, note site .pump = []) (h : moment.step? = none) :
    moment.collect note index = [] := by
  obtain ⟨deed, before⟩ := moment
  have hquiet (place : LinkIndex) : collect note index ⟨.rested place, before⟩ = [] := by
    refine (World.collect_notice hplain place .pump).trans ?_
    split
    · cases before.links[index]? with
      | none => rfl
      | some link => exact hpump ⟨before.now, link⟩
    · rfl
  cases deed with
  | performed | began => cases h
  | pumped place text => exact hquiet place
  | rested place => exact hquiet place
  | _ => rfl

end collect

namespace World

/-- The moments lead from one world to another: each finds the world as the one before has left it,
and is due. -/
inductive Chain : Option LinkIndex → World → List Moment → Option LinkIndex → World → Prop where
  | nil (busy : Option LinkIndex) (world : World) : Chain busy world [] busy world
  | cons {busy next : Option LinkIndex} {before world : World} {deed : Deed}
      {moments : List Moment} (due : deed.Due busy before)
      (rest : Chain (deed.next busy) (deed.effect before) moments next world) :
      Chain busy before (⟨deed, before⟩ :: moments) next world

namespace Chain

variable {busy middle next : Option LinkIndex} {start world last : World}
  {moments more : List Moment}

theorem single {deed : Deed} (due : deed.Due busy world) :
    Chain busy world [⟨deed, world⟩] (deed.next busy) (deed.effect world) :=
  .cons due (.nil _ _)

theorem append (h : Chain busy start moments middle world)
    (h' : Chain middle world more next last) : Chain busy start (moments ++ more) next last := by
  induction h with
  | nil => exact h'
  | cons due _ ih => exact .cons due (ih h')

/-- The first moments of a chain are a chain themselves. -/
theorem split (h : Chain busy start (moments ++ more) next last) :
    ∃ middle world, Chain busy start moments middle world ∧ Chain middle world more next last := by
  induction moments generalizing busy start with
  | nil => exact ⟨busy, start, .nil _ _, h⟩
  | cons moment rest ih =>
    cases h with
    | cons due rest =>
      obtain ⟨middle, world, hfirst, hlater⟩ := ih rest
      exact ⟨middle, world, .cons due hfirst, hlater⟩

theorem sound (h : Chain busy start moments next world) (sound : start.Sound busy) :
    world.Sound next := by
  induction h with
  | nil => exact sound
  | cons due _ ih => exact ih (Deed.unfolds sound due).sound

/-- What a chain does to a link is a list of incidents with the notices of its moments. -/
theorem evolves (h : Chain busy start moments next world) (sound : start.Sound busy)
    (index : LinkIndex) :
    Site.Evolves (noticesOn index (moments.flatMap Moment.notices)) (start.site? index)
      (world.site? index) := by
  induction h with
  | nil => exact .refl _
  | cons due _ ih =>
    have hfirst := Deed.unfolds sound due
    rw [List.flatMap_cons, noticesOn_append]
    exact (hfirst.sites index).trans (ih hfirst.sound)

end Chain

/-- Moments that lead to a world from where every session begins, perhaps amid a step. -/
def History (moments : List Moment) (world : World) : Prop :=
  ∃ busy, Chain none {} moments busy world

namespace History

variable {moments more : List Moment} {world : World} {index : LinkIndex}

/-- The first moments of a history are a history of the world in between. -/
theorem of_append (h : History (moments ++ more) world) : ∃ middle, History moments middle :=
  let ⟨_, chain⟩ := h
  let ⟨busy, middle, first, _⟩ := chain.split
  ⟨middle, busy, first⟩

/-- Every moment of a history was due, in a world whose bookkeeping is right, and those after it
lead on from the world behind it. -/
theorem amid {earlier later : List Moment} {moment : Moment}
    (h : History (earlier ++ moment :: later) world) :
    ∃ busy next, moment.before.Sound busy ∧ moment.deed.Due busy moment.before ∧
      Chain (moment.deed.next busy) moment.after later next world := by
  obtain ⟨next, chain⟩ := h
  obtain ⟨busy, middle, first, rest⟩ := chain.split
  cases rest with
  | cons due rest => exact ⟨busy, next, first.sound sound_empty, due, rest⟩

theorem due (h : History moments world) {moment : Moment} (hmem : moment ∈ moments) :
    ∃ busy, moment.before.Sound busy ∧ moment.deed.Due busy moment.before := by
  obtain ⟨earlier, later, rfl⟩ := List.append_of_mem hmem
  obtain ⟨busy, -, sound, due, -⟩ := h.amid
  exact ⟨busy, sound, due⟩

/-- A link is where some run leads a transport that was just made, and what the incidents of that
run bring is what the notices of the history bring. -/
theorem exists_run (h : History moments world) {link : Link CallbackRef}
    (hlink : world.links[index]? = some link) :
    ∃ id onChannel now incidents,
      ⟨world.now, link⟩ = (Site.made id onChannel now).run incidents ∧
      ∀ (α : Type) (note : Site CallbackRef → Incident CallbackRef → List α),
        (∀ site incident, incident.notable = false → note site incident = []) →
        (Site.made id onChannel now).along note incidents =
          moments.flatMap (Moment.collect note index) := by
  obtain ⟨busy, chain⟩ := h
  have hevolves := chain.evolves sound_empty index
  have hnone : World.site? {} index = none := rfl
  have hsite : world.site? index = some ⟨world.now, link⟩ := by
    rw [site?, hlink]
    rfl
  rw [hnone, hsite] at hevolves
  obtain ⟨id, onChannel, now, incidents, hrun, hnotices⟩ := hevolves.noticed
  refine ⟨id, onChannel, now, incidents, hrun, fun α note hplain => ?_⟩
  rw [Site.along_eq_flatMap hplain, hnotices, noticesOn_flatMap, List.flatMap_assoc]
  rfl

/-- What the moments of a history bring may be read off in another way, if that gives the same for
moments that are due. -/
theorem flatMap_collect (h : History moments world) {α : Type}
    {note : Site CallbackRef → Incident CallbackRef → List α} {label : Moment → List α}
    (hlabel : ∀ (moment : Moment) busy, moment.before.Sound busy →
      moment.deed.Due busy moment.before → moment.collect note index = label moment) :
    moments.flatMap (Moment.collect note index) = moments.flatMap label := by
  rw [List.flatMap_def, List.flatMap_def]
  refine congrArg List.flatten (List.map_congr_left fun moment hmem => ?_)
  obtain ⟨busy, sound, due⟩ := h.due hmem
  exact hlabel moment busy sound due

end History
end World
end HostLink

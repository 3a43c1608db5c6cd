import HostLink.Proofs.Naming

/-!
# What a step spares

A step touches the links that it addresses by its names, and no other: each part of a step that
changes a link, or gives its pump a turn, got to the link by a name of the step.  This leaves out
what callbacks do.  A step that calls callbacks opens a delivery first (`Step.opening?`), then calls
them, and then lets go of the bridge again; what stands around the calls spares other links too
(`Step.course`).
-/

namespace HostLink

/-! ## Spared links -/

namespace World

/-- What stands in the place of a link, and whether its pump is about to run. -/
def view (world : World) (index : LinkIndex) : Option (Link CallbackRef) × Bool :=
  (world.links[index]?, world.ready.contains index)

/-- No link goes away, and a link that was there and is not touched is as it was. -/
structure Spares (touched : LinkIndex → Prop) (start world : World) : Prop where
  length : start.links.length ≤ world.links.length
  view : ∀ index < start.links.length, ¬touched index → world.view index = start.view index

theorem bridges_installListener (world : World) (index : LinkIndex) (link : Link CallbackRef)
    (runtime : Bool) (listener : Listener CallbackRef) :
    (world.installListener index link runtime listener).2.bridges = world.bridges := by
  unfold World.installListener
  split
  · rfl
  · dsimp only
    split <;> rfl

theorem replies_storeSettler (world : World) (name : String) (settler : Settler) :
    (world.storeSettler name settler).replies = world.replies := by
  unfold World.storeSettler
  split <;> rfl

namespace Spares

variable {touched : LinkIndex → Prop} {start world : World} {index : LinkIndex}

theorem refl (touched : LinkIndex → Prop) (world : World) : Spares touched world world :=
  ⟨Nat.le_refl _, fun _ _ _ => rfl⟩

variable (h : Spares touched start world)
include h

theorem of_same {after : World} (hlinks : after.links = world.links)
    (hready : after.ready = world.ready) : Spares touched start after := by
  refine ⟨hlinks ▸ h.length, fun index hlt hspared => ?_⟩
  rw [World.view, hlinks, hready]
  exact h.view index hlt hspared

theorem note (event : Event) : Spares touched start (world.note event) := h.of_same rfl rfl

theorem write (log : List LogEvent) : Spares touched start (world.write log) := h.of_same rfl rfl

theorem pin (index : LinkIndex) : Spares touched start (world.pin index) := h.of_same rfl rfl

/-! ## Links -/

theorem setLink (htouched : touched index) (link : Link CallbackRef) :
    Spares touched start (world.setLink index link) := by
  refine ⟨Nat.le_trans h.length (Nat.le_of_eq List.length_set.symm), fun other hlt hspared => ?_⟩
  have hne : index ≠ other := fun heq => hspared (heq ▸ htouched)
  rw [← h.view other hlt hspared]
  simp only [World.view, World.setLink, List.getElem?_set_ne hne]

/-- A pump gets a turn. -/
theorem summon (htouched : touched index) :
    Spares touched start { world with ready := world.ready ++ [index] } := by
  refine ⟨h.length, fun other hlt hspared => ?_⟩
  have hne : other ≠ index := fun heq => hspared (heq ▸ htouched)
  rw [← h.view other hlt hspared]
  simp [World.view, hne]

/-- A pump takes the turn that was its. -/
theorem takeTurn (htouched : touched index) {rest : List LinkIndex}
    (hready : world.ready = index :: rest) : Spares touched start { world with ready := rest } := by
  refine ⟨h.length, fun other hlt hspared => ?_⟩
  have hne : other ≠ index := fun heq => hspared (heq ▸ htouched)
  rw [← h.view other hlt hspared]
  simp [World.view, hready, hne]

theorem addLink (transport : Transport) : Spares touched start (world.addLink transport) := by
  refine ⟨?_, fun other hlt hspared => ?_⟩
  · simp only [World.addLink, List.length_append]
    exact Nat.le_add_right_of_le h.length
  · rw [← h.view other hlt hspared]
    simp only [World.view, World.addLink,
      List.getElem?_append_left (Nat.lt_of_lt_of_le hlt h.length)]

theorem closeIfUnheld (htouched : touched index) :
    Spares touched start (world.closeIfUnheld index) := by
  unfold World.closeIfUnheld
  split
  · split
    · exact h
    · exact h.setLink htouched _
  · exact h

theorem unpin (htouched : touched index) : Spares touched start (world.unpin index) := by
  have herased : Spares touched start { world with pins := world.pins.erase index } :=
    h.of_same rfl rfl
  exact herased.closeIfUnheld htouched

theorem wakePump (htouched : touched index) : Spares touched start (world.wakePump index) := by
  unfold World.wakePump
  split
  · split
    · split
      · exact (h.setLink htouched _).summon htouched
      · exact h
    · exact h
  · exact h

theorem closeEndpoint (htouched : touched index) :
    Spares touched start (world.closeEndpoint index) := by
  unfold World.closeEndpoint
  split
  · split
    · exact (h.setLink htouched _).wakePump htouched
    · exact h
  · exact h

/-! ## Names -/

theorem storeBridge {name : String} (handle : BridgeHandle)
    (hold : ∀ old, Fields.lookup name world.bridges = some old → touched old.link) :
    Spares touched start (world.storeBridge name handle) := by
  have hstored : Spares touched start
      { world with bridges := Fields.insert name handle world.bridges } := h.of_same rfl rfl
  unfold World.storeBridge
  split
  · next old hname => exact hstored.closeIfUnheld (hold old hname)
  · exact hstored

theorem storeNative {name : String} (index : LinkIndex)
    (hold : ∀ old, Fields.lookup name world.natives = some old → touched old) :
    Spares touched start (world.storeNative name index) := by
  have hstored : Spares touched start
      { world with natives := Fields.insert name index world.natives } := h.of_same rfl rfl
  unfold World.storeNative
  split
  · next old hname => exact hstored.closeEndpoint (hold old hname)
  · exact hstored

theorem releaseReply {reply : ReplyRef}
    (htouched : ∀ index, reply.link? = some index → touched index) :
    Spares touched start (world.releaseReply reply) := by
  unfold World.releaseReply
  split
  · split
    · split
      · exact h.setLink (htouched _ rfl) _
      · exact h
    · exact h
  · exact h.of_same rfl rfl

theorem storeReply {name : String} (reply : ReplyRef)
    (hold : ∀ old index, Fields.lookup name world.replies = some old → old.link? = some index →
      touched index) : Spares touched start (world.storeReply name reply) := by
  have hstored : Spares touched start
      { world with replies := Fields.insert name reply world.replies } := h.of_same rfl rfl
  unfold World.storeReply
  split
  · next old hname => exact hstored.releaseReply fun index => hold old index hname
  · exact hstored

theorem dropReply (name : String) {reply : ReplyRef}
    (htouched : ∀ index, reply.link? = some index → touched index) :
    Spares touched start (world.dropReply name reply) := by
  have herased : Spares touched start
      { world with replies := Fields.erase name world.replies } := h.of_same rfl rfl
  exact herased.releaseReply htouched

theorem storeSettler (name : String) (settler : Settler) :
    Spares touched start (world.storeSettler name settler) := by
  unfold World.storeSettler
  split <;> exact h.of_same rfl rfl

theorem pollReply {reply : ReplyRef}
    (htouched : ∀ index, reply.link? = some index → touched index) :
    Spares touched start (world.pollReply reply).2 := by
  unfold World.pollReply
  split
  · split
    · exact h
    · split
      · exact h
      · exact (h.setLink (htouched _ rfl) _).write _
  · exact h.of_same rfl rfl

theorem armReply (timeout : Nanoseconds) {reply : ReplyRef}
    (htouched : ∀ index, reply.link? = some index → touched index) :
    Spares touched start (world.armReply timeout reply) := by
  unfold World.armReply
  split
  · split
    · exact h
    · split
      · exact h
      · exact h.setLink (htouched _ rfl) _
  · exact h.of_same rfl rfl

/-! ## Objects by name -/

theorem onTransport {name : String} {act : LinkIndex → Link CallbackRef → Answer × World}
    (hact : ∀ index link, Fields.lookup name world.transports = some index →
      Spares touched start (act index link).2) :
    Spares touched start (world.onTransport name act).2 := by
  unfold World.onTransport
  split
  · exact h
  · next hname =>
    split
    · exact hact _ _ hname
    · exact h

theorem onNative {name : String} {act : LinkIndex → Link CallbackRef → Answer × World}
    (hact : ∀ index link, Fields.lookup name world.natives = some index →
      Spares touched start (act index link).2) :
    Spares touched start (world.onNative name act).2 := by
  unfold World.onNative
  split
  · exact h
  · next hname =>
    split
    · exact hact _ _ hname
    · exact h

theorem onHost {name : String}
    {act : LinkIndex → Link CallbackRef → MemoryHost → Answer × World}
    (hact : ∀ index link host, Fields.lookup name world.natives = some index →
      Spares touched start (act index link host).2) :
    Spares touched start (world.onHost name act).2 := by
  refine h.onNative fun index link hname => ?_
  split
  · exact hact index link _ hname
  · exact h

theorem onEndpoint {name : String}
    {act : LinkIndex → Link CallbackRef → Channel → Answer × World}
    (hact : ∀ index link channel, Fields.lookup name world.natives = some index →
      Spares touched start (act index link channel).2) :
    Spares touched start (world.onEndpoint name act).2 := by
  refine h.onNative fun index link hname => ?_
  split
  · exact hact index link _ hname
  · exact h

theorem onBridge {name : String}
    {act : BridgeHandle → Link CallbackRef → Bridge CallbackRef → Answer × World}
    (hact : ∀ handle link bridge, Fields.lookup name world.bridges = some handle →
      Spares touched start (act handle link bridge).2) :
    Spares touched start (world.onBridge name act).2 := by
  unfold World.onBridge
  split
  · exact h
  · next hname =>
    split
    · exact h
    · split
      · exact hact _ _ _ hname
      · exact h

theorem onReply {name : String} {act : ReplyRef → Answer × World}
    (hact : ∀ reply, Fields.lookup name world.replies = some reply →
      Spares touched start (act reply).2) :
    Spares touched start (world.onReply name act).2 := by
  unfold World.onReply
  split
  · next hname => exact hact _ hname
  · exact h

theorem onSettler {name : String} {act : Settler → Answer × World}
    (hact : ∀ settler, Spares touched start (act settler).2) :
    Spares touched start (world.onSettler name act).2 := by
  unfold World.onSettler
  split
  · exact hact _
  · exact h

/-! ## Parts of steps -/

theorem installListener (htouched : touched index) (link : Link CallbackRef) (runtime : Bool)
    (listener : Listener CallbackRef) :
    Spares touched start (world.installListener index link runtime listener).2 := by
  unfold World.installListener
  split
  · exact h
  · dsimp only
    split
    · exact (h.setLink htouched _).summon htouched
    · exact h.setLink htouched _

theorem openBridge (htouched : touched index) (link : Link CallbackRef) (runtime : Bool)
    (config : Config) {name : String} (facade : Option Facade)
    (hold : ∀ old, Fields.lookup name world.bridges = some old → touched old.link) :
    Spares touched start (world.openBridge index link runtime config name facade).2 := by
  have hbridges := bridges_installListener world index link runtime (.bridge { config })
  have hinstalled := h.installListener htouched link runtime (.bridge { config })
  unfold World.openBridge
  split
  · exact h
  · next opened hresult =>
    rw [hresult] at hbridges hinstalled
    refine (hinstalled.write _).storeBridge _ fun old hname => hold old ?_
    rw [← hbridges]
    exact hname

theorem commit {α : Type} (htouched : touched index) (acted : Acted CallbackRef α) :
    Spares touched start (world.commit index acted) :=
  (h.setLink htouched _).write _

theorem update (htouched : touched index) (link : Link CallbackRef) (bridge : Bridge CallbackRef)
    (log : List LogEvent) : Spares touched start (world.update index link bridge log) :=
  (h.setLink htouched _).write _

theorem send {handle : BridgeHandle} (htouched : touched handle.link) (link : Link CallbackRef)
    (bridge : Bridge CallbackRef) {name : String} (command : String) (payload : Datum)
    (timeout : Option Nanoseconds)
    (hold : ∀ old index, Fields.lookup name world.replies = some old → old.link? = some index →
      touched index) :
    Spares touched start (world.send handle link bridge name command payload timeout).2 :=
  (h.commit htouched _).storeReply _ hold

theorem subscribe {handle : BridgeHandle} (htouched : touched handle.link)
    (link : Link CallbackRef) (bridge : Bridge CallbackRef) (name event : String)
    (scripts : List (List Step)) :
    Spares touched start (world.subscribe handle link bridge name event scripts).2 := by
  unfold World.subscribe
  dsimp only
  split
  · exact h.commit htouched _
  · exact (h.commit htouched _).of_same rfl rfl

theorem endpointReceive (htouched : touched index) (link : Link CallbackRef) (channel : Channel)
    (answer : String → Answer) :
    Spares touched start (world.endpointReceive index link channel answer).2 := by
  unfold World.endpointReceive
  split
  · exact h.setLink htouched _
  · exact h

theorem endpointPost (htouched : touched index) (link : Link CallbackRef) (channel : Channel)
    (message : String) :
    Spares touched start (world.endpointPost index link channel message).2 := by
  unfold World.endpointPost
  split
  · exact (h.setLink htouched _).wakePump htouched
  · exact h

theorem endpointPostResult (htouched : touched index) (link : Link CallbackRef)
    (channel : Channel) (result : Except BridgeError Json) :
    Spares touched start (world.endpointPostResult index link channel result).2 := by
  cases result with
  | ok message => exact h.endpointPost htouched link channel _
  | error error => exact h

theorem createTransport {name : String} (transport : Transport)
    (hold : ∀ old, Fields.lookup name world.natives = some old → touched old) :
    Spares touched start (world.createTransport name transport) := by
  have hnamed : Spares touched start { world.addLink transport with
      transports := Fields.insert name world.links.length world.transports } :=
    (h.addLink transport).of_same rfl rfl
  exact hnamed.storeNative _ hold

end Spares
end World

/-! ## Deliveries -/

/-- A delivery before its callbacks are called: the link whose bridge is held, the calls to make,
and the world in which they are made. -/
structure Opening where
  link : LinkIndex
  calls : FanOut CallbackRef
  world : World

/-- The world behind a delivery. -/
def Opening.close (opening : Opening) (invoke : World.Invoke) : World :=
  (World.fanOut invoke opening.calls opening.world).unpin opening.link

namespace World

/-- A message comes in at the bridge on a link. -/
def opening (world : World) (index : LinkIndex) (link : Link CallbackRef)
    (bridge : Bridge CallbackRef) (message : String) : Opening :=
  let (received, log, calls) := bridge.receive world.now message
  ⟨index, calls, ((world.setLink index (link.withBridge received)).write log).pin index⟩

/-- A message comes in at the listener of a link; if that is a bridge that someone holds, it is
delivered. -/
def hearing? (world : World) (index : LinkIndex) (message : String) : Option Opening :=
  match world.links[index]? with
  | none => none
  | some link =>
    match link.listener with
    | .bridge bridge => if bridge.live then some (world.opening index link bridge message) else none
    | _ => none

/-- The delivery that is opened at the bridge that a name stands for. -/
def bridgeOpening? (world : World) (name : String)
    (opens : BridgeHandle → Link CallbackRef → Bridge CallbackRef → Opening) : Option Opening :=
  (Fields.lookup name world.bridges).bind fun handle =>
    (world.links[handle.link]?).bind fun link => link.bridge?.map (opens handle link)

/-- The delivery that a message from a host opens. -/
def hostHearing? (world : World) (name message : String) : Option Opening :=
  (Fields.lookup name world.natives).bind fun index =>
    (world.links[index]?).bind fun link =>
      link.host?.bind fun _ =>
        (world.write [.delivered link.transport.id message]).hearing? index message

end World

/-- The delivery that a step opens. -/
def Step.opening? (world : World) : Step → Option Opening
  | .deliver name text => world.hostHearing? name text
  | .deliverJson name value => world.hostHearing? name value.compact
  | .onReply name text =>
    world.bridgeOpening? name fun handle link bridge => world.opening handle.link link bridge text
  | .dispatch name event value =>
    world.bridgeOpening? name fun handle _ bridge =>
      let (log, calls) := bridge.dispatch event value
      ⟨handle.link, calls, (world.write log).pin handle.link⟩
  | _ => none

namespace World

variable {touched : LinkIndex → Prop} {start world : World} {index : LinkIndex}

theorem Spares.opening (h : Spares touched start world) (htouched : touched index)
    (link : Link CallbackRef) (bridge : Bridge CallbackRef) (message : String) :
    Spares touched start (world.opening index link bridge message).world :=
  ((h.setLink htouched _).write _).pin _

/-- A message that comes in at a listener opens a delivery or changes no link. -/
theorem Spares.hearing (h : Spares touched start world) (htouched : touched index)
    (message : String) :
    (∃ opening, world.hearing? index message = some opening ∧ opening.link = index ∧
        Spares touched start opening.world ∧
        ∀ invoke, World.deliver invoke index message world = opening.close invoke) ∨
      world.hearing? index message = none ∧
        ∀ invoke, Spares touched start (World.deliver invoke index message world) := by
  unfold World.hearing? World.deliver
  cases world.links[index]? with
  | none => exact .inr ⟨rfl, fun _ => h⟩
  | some link =>
    dsimp only
    cases link.listener with
    | nobody => exact .inr ⟨rfl, fun _ => h⟩
    | observer name => exact .inr ⟨rfl, fun _ => h.note _⟩
    | bridge bridge =>
      dsimp only
      cases bridge.live with
      | true => exact .inl ⟨_, rfl, rfl, h.opening htouched link bridge message, fun _ => rfl⟩
      | false => exact .inr ⟨rfl, fun _ => h.write _⟩

theorem Spares.hostHearing (h : Spares touched start world) {name : String}
    (htouched : ∀ index, Fields.lookup name world.natives = some index → touched index)
    (message : String) :
    (∃ opening, world.hostHearing? name message = some opening ∧ touched opening.link ∧
        Spares touched start opening.world ∧
        ∀ invoke, (world.onHost name fun index link _ =>
          World.hostDeliver invoke world index link message).2 = opening.close invoke) ∨
      world.hostHearing? name message = none ∧
        ∀ invoke, Spares touched start (world.onHost name fun index link _ =>
          World.hostDeliver invoke world index link message).2 := by
  unfold World.hostHearing? World.onHost World.onNative
  cases hname : Fields.lookup name world.natives with
  | none => exact .inr ⟨rfl, fun _ => h⟩
  | some index =>
    cases hlink : world.links[index]? with
    | none => exact .inr ⟨by simp [hlink], fun _ => by simpa [hlink] using h⟩
    | some link =>
      simp only [hlink, Option.bind_some]
      cases link.host? with
      | none => exact .inr ⟨rfl, fun _ => h⟩
      | some host =>
        simp only [Option.bind_some, World.hostDeliver]
        cases hlistens : link.hasListener with
        | true =>
          obtain ⟨opening, hopens, rfl, hspares, hcloses⟩ | ⟨hnone, hspares⟩ :=
            (h.write [.delivered link.transport.id message]).hearing (htouched index hname) message
          · exact .inl ⟨opening, hopens, htouched _ hname, hspares, hcloses⟩
          · exact .inr ⟨hnone, hspares⟩
        | false =>
          refine .inr ⟨?_, fun _ => h⟩
          have hwritten : (world.write [.delivered link.transport.id message]).links[index]? =
              some link := hlink
          unfold World.hearing?
          rw [hwritten]
          dsimp only
          cases hlistener : link.listener with
          | nobody => rfl
          | observer name => rfl
          | bridge bridge => simp [Link.hasListener, hlistener] at hlistens

theorem Spares.bridgeOpening (h : Spares touched start world) {name : String}
    (opens : BridgeHandle → Link CallbackRef → Bridge CallbackRef → Opening)
    (hopens : ∀ handle link bridge, Fields.lookup name world.bridges = some handle →
      touched (opens handle link bridge).link ∧
        Spares touched start (opens handle link bridge).world) :
    (∃ opening, world.bridgeOpening? name opens = some opening ∧ touched opening.link ∧
        Spares touched start opening.world ∧
        ∀ invoke, (world.onBridge name fun handle link bridge =>
          (.done, (opens handle link bridge).close invoke)).2 = opening.close invoke) ∨
      world.bridgeOpening? name opens = none ∧
        ∀ invoke, Spares touched start (world.onBridge name fun handle link bridge =>
          (.done, (opens handle link bridge).close invoke)).2 := by
  unfold World.bridgeOpening? World.onBridge
  cases hname : Fields.lookup name world.bridges with
  | none => exact .inr ⟨rfl, fun _ => h⟩
  | some handle =>
    simp only [Option.bind_some]
    cases world.links[handle.link]? with
    | none => exact .inr ⟨rfl, fun _ => h⟩
    | some link =>
      simp only [Option.bind_some]
      cases link.bridge? with
      | none => exact .inr ⟨rfl, fun _ => h⟩
      | some bridge =>
        obtain ⟨htouched, hspares⟩ := hopens handle link bridge hname
        exact .inl ⟨_, rfl, htouched, hspares, fun _ => rfl⟩

end World

/-- How a step goes.  It opens a delivery, or it makes no calls; and the links that it does not
address are spared by all that it does itself. -/
inductive Step.Course (step : Step) (world : World) : Prop where
  | delivery (opening : Opening) (opens : step.opening? world = some opening)
    (addressed : step.Addresses world opening.link)
    (spares : World.Spares (step.Addresses world) world opening.world)
    (closes : ∀ invoke, (step.perform invoke world).2 = opening.close invoke)
  | plain (opens : step.opening? world = none)
    (spares : ∀ invoke,
      World.Spares (step.Addresses world) world (step.perform invoke world).2)

theorem Step.course (step : Step) (world : World) : step.Course world := by
  have hself : World.Spares (step.Addresses world) world world := .refl _ world
  have hfirst {name : Name} {rest : List Name} (heq : step.names = name :: rest)
      {index : LinkIndex} (hname : world.linkOf? name = some index) :
      step.Addresses world index :=
    ⟨name, heq ▸ List.mem_cons_self, hname⟩
  have hsecond {first name : Name} {rest : List Name} (heq : step.names = first :: name :: rest)
      {index : LinkIndex} (hname : world.linkOf? name = some index) :
      step.Addresses world index :=
    ⟨name, heq ▸ List.mem_cons_of_mem first List.mem_cons_self, hname⟩
  have hbridge {name : String} {handle : BridgeHandle}
      (hname : Fields.lookup name world.bridges = some handle) :
      world.linkOf? (.bridge name) = some handle.link :=
    congrArg (Option.map BridgeHandle.link) hname
  have hreply {name : String} {reply : ReplyRef} {index : LinkIndex}
      (hname : Fields.lookup name world.replies = some reply) (hlink : reply.link? = some index) :
      world.linkOf? (.reply name) = some index :=
    (congrArg (Option.bind · ReplyRef.link?) hname).trans hlink
  cases step with
  | createMemory name id =>
    exact .plain rfl fun _ => (hself.write _).createTransport _ fun _ => hsecond rfl
  | createChannel name id =>
    exact .plain rfl fun _ => hself.createTransport _ fun _ => hsecond rfl
  | transportInfo name => exact .plain rfl fun _ => hself.onTransport fun _ _ _ => hself
  | dropTransport name => exact .plain rfl fun _ => hself.of_same rfl rfl
  | postMessage name text =>
    exact .plain rfl fun _ => hself.onTransport fun _ _ hname =>
      (hself.setLink (hfirst rfl hname) _).write _
  | sendSyncMessage name text =>
    exact .plain rfl fun _ => hself.onTransport fun _ _ hname => hself.setLink (hfirst rfl hname) _
  | observe name =>
    exact .plain rfl fun _ => hself.onTransport fun _ link hname =>
      hself.installListener (hfirst rfl hname) link true _
  | posted name => exact .plain rfl fun _ => hself.onHost fun _ _ _ _ => hself
  | takePosted name =>
    exact .plain rfl fun _ => hself.onHost fun _ _ _ hname => hself.setLink (hfirst rfl hname) _
  | postedJson name => exact .plain rfl fun _ => hself.onHost fun _ _ _ _ => hself
  | hasListener name => exact .plain rfl fun _ => hself.onHost fun _ _ _ _ => hself
  | deliver name text =>
    obtain ⟨opening, hopens, haddressed, hspares, hcloses⟩ | ⟨hnone, hspares⟩ :=
      hself.hostHearing (fun index => hfirst rfl) text
    · exact .delivery opening hopens haddressed hspares hcloses
    · exact .plain hnone hspares
  | deliverJson name value =>
    obtain ⟨opening, hopens, haddressed, hspares, hcloses⟩ | ⟨hnone, hspares⟩ :=
      hself.hostHearing (fun index => hfirst rfl) value.compact
    · exact .delivery opening hopens haddressed hspares hcloses
    · exact .plain hnone hspares
  | setOffline name offline =>
    exact .plain rfl fun _ => hself.onHost fun _ _ _ hname => hself.setLink (hfirst rfl hname) _
  | onSync name responder =>
    exact .plain rfl fun _ => hself.onHost fun _ _ _ hname => hself.setLink (hfirst rfl hname) _
  | recv name =>
    exact .plain rfl fun _ => hself.onEndpoint fun _ link channel hname =>
      hself.endpointReceive (hfirst rfl hname) link channel _
  | recvJson name =>
    exact .plain rfl fun _ => hself.onEndpoint fun _ link channel hname =>
      hself.endpointReceive (hfirst rfl hname) link channel _
  | endpointPost name text =>
    exact .plain rfl fun _ => hself.onEndpoint fun _ link channel hname =>
      hself.endpointPost (hfirst rfl hname) link channel text
  | endpointPostJson name value =>
    exact .plain rfl fun _ => hself.onEndpoint fun _ link channel hname =>
      hself.endpointPost (hfirst rfl hname) link channel _
  | endpointReply name wire request data =>
    exact .plain rfl fun _ => hself.onEndpoint fun _ link channel hname =>
      hself.endpointPostResult (hfirst rfl hname) link channel _
  | endpointReplyError name wire request error =>
    exact .plain rfl fun _ => hself.onEndpoint fun _ link channel hname =>
      hself.endpointPostResult (hfirst rfl hname) link channel _
  | dropEndpoint name =>
    refine .plain rfl fun _ => hself.onEndpoint fun index _ _ hname => ?_
    exact World.Spares.closeEndpoint (hself.of_same rfl rfl) (hfirst rfl hname)
  | openBridge transport name choice runtime =>
    refine .plain rfl fun _ => ?_
    simp only [Step.perform]
    split
    · exact hself
    · exact hself.onTransport fun _ link hname =>
        hself.openBridge (hfirst rfl hname) link runtime _ none fun _ hold =>
          hsecond rfl (hbridge hold)
  | buildBridge transport name edits =>
    exact .plain rfl fun _ => hself.onTransport fun _ link hname =>
      hself.openBridge (hfirst rfl hname) link true _ none fun _ hold => hsecond rfl (hbridge hold)
  | openFacade name facade source =>
    cases source with
    | transport transport =>
      exact .plain rfl fun _ => hself.onTransport fun _ link hname =>
        hself.openBridge (hfirst rfl hname) link true _ (some facade) fun _ hold =>
          hsecond rfl (hbridge hold)
    | bridge bridge =>
      exact .plain rfl fun _ => hself.onBridge fun _ _ _ _ =>
        hself.storeBridge _ fun _ hold => hsecond rfl (hbridge hold)
  | call name reply action =>
    exact .plain rfl fun _ => hself.onBridge fun _ link bridge hname =>
      hself.send (hfirst rfl (hbridge hname)) link bridge _ _ none fun _ _ hold hlink =>
        hsecond rfl (hreply hold hlink)
  | cloneBridge name copy =>
    exact .plain rfl fun _ => hself.onBridge fun _ _ _ _ =>
      hself.storeBridge _ fun _ hold => hsecond rfl (hbridge hold)
  | dropBridge name =>
    refine .plain rfl fun _ => ?_
    simp only [Step.perform]
    split
    · exact hself
    · next hname =>
      exact World.Spares.closeIfUnheld (hself.of_same rfl rfl) (hfirst rfl (hbridge hname))
  | showConfig name => exact .plain rfl fun _ => hself.onBridge fun _ _ _ _ => hself
  | describe name =>
    exact .plain rfl fun _ => hself.onBridge fun _ link bridge hname =>
      hself.update (hfirst rfl (hbridge hname)) link _ _
  | send name reply command payload timeout =>
    exact .plain rfl fun _ => hself.onBridge fun _ link bridge hname =>
      hself.send (hfirst rfl (hbridge hname)) link bridge _ _ timeout fun _ _ hold hlink =>
        hsecond rfl (hreply hold hlink)
  | sendSync name command payload =>
    exact .plain rfl fun _ => hself.onBridge fun _ _ _ hname =>
      hself.setLink (hfirst rfl (hbridge hname)) _
  | onReply name text =>
    obtain ⟨opening, hopens, haddressed, hspares, hcloses⟩ | ⟨hnone, hspares⟩ :=
      hself.bridgeOpening (world.opening ·.link · · text) fun handle link bridge hname =>
        ⟨hfirst rfl (hbridge hname), hself.opening (hfirst rfl (hbridge hname)) link bridge text⟩
    · exact .delivery opening hopens haddressed hspares hcloses
    · exact .plain hnone hspares
  | dispatch name event value =>
    obtain ⟨opening, hopens, haddressed, hspares, hcloses⟩ | ⟨hnone, hspares⟩ :=
      hself.bridgeOpening (fun handle _ bridge => ⟨handle.link, (bridge.dispatch event value).2,
        (world.write (bridge.dispatch event value).1).pin handle.link⟩)
        fun handle _ _ hname => ⟨hfirst rfl (hbridge hname), (hself.write _).pin _⟩
    · exact .delivery opening hopens haddressed hspares hcloses
    · exact .plain hnone hspares
  | subscribe name subscription event scripts =>
    exact .plain rfl fun _ => hself.onBridge fun _ link bridge hname =>
      hself.subscribe (hfirst rfl (hbridge hname)) link bridge subscription event scripts
  | unsubscribe name subscription =>
    refine .plain rfl fun _ => hself.onBridge fun _ link bridge hname => ?_
    split
    · exact hself
    · exact hself.update (hfirst rfl (hbridge hname)) link _ _
  | pendingCount name =>
    exact .plain rfl fun _ => hself.onBridge fun _ link bridge hname =>
      hself.update (hfirst rfl (hbridge hname)) link _ _
  | isPending name id =>
    exact .plain rfl fun _ => hself.onBridge fun _ link bridge hname =>
      hself.update (hfirst rfl (hbridge hname)) link _ _
  | subscriptionCount name => exact .plain rfl fun _ => hself.onBridge fun _ _ _ _ => hself
  | advance time => exact .plain rfl fun _ => hself.of_same rfl rfl
  | createSettler name reply id =>
    have hadded : World.Spares ((Step.createSettler name reply id).Addresses world) world
        { world with detached := world.detached ++ [{ id }] } := hself.of_same rfl rfl
    have hstored := hadded.storeSettler name { id, ticket := world.detached.length }
    refine .plain rfl fun _ => hstored.storeReply _ fun old index hold hlink => ?_
    rw [World.replies_storeSettler] at hold
    exact hsecond rfl (hreply hold hlink)
  | resolve name value =>
    exact .plain rfl fun _ => hself.onSettler fun _ => hself.of_same rfl rfl
  | reject name value =>
    exact .plain rfl fun _ => hself.onSettler fun _ => hself.of_same rfl rfl
  | fail name error =>
    exact .plain rfl fun _ => hself.onSettler fun _ => hself.of_same rfl rfl
  | settlerInfo name => exact .plain rfl fun _ => hself.onSettler fun _ => hself
  | dropSettler name =>
    exact .plain rfl fun _ => hself.onSettler fun _ => hself.of_same rfl rfl
  | poll name =>
    refine .plain rfl fun _ => hself.onReply fun reply hname => ?_
    have hpolled := hself.pollReply fun _ hlink => hfirst rfl (hreply hname hlink)
    split <;> rename_i hresult <;> rw [hresult] at hpolled
    · exact hpolled
    · exact hpolled.of_same rfl rfl
  | decodeReply name target =>
    refine .plain rfl fun _ => hself.onReply fun reply hname => ?_
    have hpolled := hself.pollReply fun _ hlink => hfirst rfl (hreply hname hlink)
    split <;> rename_i hresult <;> rw [hresult] at hpolled
    · exact hpolled.dropReply name fun _ hlink => hfirst rfl (hreply hname hlink)
    · exact hpolled.of_same rfl rfl
  | withTimeout name timeout =>
    refine .plain rfl fun _ => hself.onReply fun ref hname => ?_
    split
    · exact hself.armReply timeout fun _ hlink => hfirst rfl (hreply hname hlink)
    · exact hself
  | replyInfo name =>
    refine .plain rfl fun _ => hself.onReply fun ref _ => ?_
    split <;> exact hself
  | dropReply name =>
    exact .plain rfl fun _ => hself.onReply fun _ hname =>
      hself.dropReply name fun _ hlink => hfirst rfl (hreply hname hlink)

end HostLink
